import QorechainRdk.Utils.Bytes

/-!
# Hex, there and back

`hexToBytes` undoes `bytesToHex`, and two texts that it reads as the same bytes differ in case and prefix
only.
-/

namespace QorechainRdk

open Js

/-- Without prefix, in lower case. -/
def normalHex (hex : String) : String := toLowerCase (String.ofList (stripHexPrefix hex.toList))

theorem digitValue_hexDigit {n : Nat} (h : n < 16) : digitValue (hexDigit n) = n := by
  have all : ∀ m : Fin 16, digitValue (hexDigit m) = m := by decide
  exact all ⟨n, h⟩

theorem isHexDigit_hexDigit {n : Nat} (h : n < 16) : isHexDigit (hexDigit n) = true := by
  unfold isHexDigit
  rw [digitValue_hexDigit h]
  exact decide_eq_true h

theorem isHexDigit_lt {c : Char} (h : isHexDigit c = true) : digitValue c < 16 := of_decide_eq_true h

theorem isHexDigit_ascii {c : Char} (h : isHexDigit c = true) : c.toNat < 128 := by
  have small := isHexDigit_lt h
  unfold digitValue at small
  split at small
  · rename_i digit
    simp only [Char.isDigit, Bool.and_eq_true, decide_eq_true_iff] at digit
    have upper : c.toNat ≤ 57 := UInt32.le_iff_toNat_le.mp digit.2
    omega
  · split at small
    · omega
    · split at small
      · omega
      · omega

theorem hexDigit_digitValue {c : Char} (h : isHexDigit c = true) : hexDigit (digitValue c) = c.toLower := by
  have all : ∀ n : Fin 128, isHexDigit (Char.ofNat n) = true →
      hexDigit (digitValue (Char.ofNat n)) = (Char.ofNat n).toLower := by decide
  have same := all ⟨c.toNat, isHexDigit_ascii h⟩
  simp only [Char.ofNat_toNat] at same
  exact same h

/-- The two digits that one byte is written as. -/
def hexPair (b : UInt8) : List Char := [hexDigit (b.toNat / 16), hexDigit (b.toNat % 16)]

theorem bytesToHex_toList (b : Bytes) : (bytesToHex b).toList = b.flatMap hexPair := by
  simp only [bytesToHex, String.toList_ofList]
  rfl

theorem hexPair_halves (b : UInt8) : b.toNat / 16 < 16 ∧ b.toNat % 16 < 16 := by
  have bound := b.toNat_lt
  omega

theorem hexPairs_flatMap (b : Bytes) : hexPairs (b.flatMap hexPair) = b := by
  induction b with
  | nil => rfl
  | cons x b ih =>
    obtain ⟨high, low⟩ := hexPair_halves x
    have whole : 16 * (x.toNat / 16) + x.toNat % 16 = x.toNat := Nat.div_add_mod ..
    simp only [List.flatMap_cons, hexPair, List.cons_append, List.nil_append, hexPairs,
      digitValue_hexDigit high, digitValue_hexDigit low, whole, UInt8.ofNat_toNat]
    exact congrArg (x :: ·) ih

theorem all_isHexDigit_flatMap (b : Bytes) : (b.flatMap hexPair).all isHexDigit = true := by
  rw [List.all_eq_true]
  intro c member
  obtain ⟨x, -, digit⟩ := List.mem_flatMap.mp member
  obtain ⟨high, low⟩ := hexPair_halves x
  rcases List.mem_pair.mp digit with rfl | rfl
  · exact isHexDigit_hexDigit high
  · exact isHexDigit_hexDigit low

@[simp] theorem length_flatMap_hexPair (b : Bytes) : (b.flatMap hexPair).length = 2 * b.length := by
  induction b with
  | nil => rfl
  | cons x b ih =>
    simp only [List.flatMap_cons, List.length_append, ih, List.length_cons]
    simp [hexPair]
    omega

theorem hexToBytes_bytesToHex (b : Bytes) : hexToBytes (bytesToHex b) = .ok b := by
  rw [hexToBytes_of_hex, bytesToHex_toList, hexPairs_flatMap]
  · rw [bytesToHex_toList, length_flatMap_hexPair]
    exact Nat.mul_mod_right ..
  · rw [bytesToHex_toList]
    exact all_isHexDigit_flatMap b

theorem bytesToHex_inj {a b : Bytes} (same : bytesToHex a = bytesToHex b) : a = b := by
  have read := hexToBytes_bytesToHex a
  rw [same, hexToBytes_bytesToHex] at read
  exact (Except.ok.inj read).symm

theorem bytesToHex_eq_empty {b : Bytes} : bytesToHex b = "" ↔ b = [] := by
  constructor
  · intro empty
    exact bytesToHex_inj empty
  · rintro rfl
    rfl

theorem toLower_hexDigit {n : Nat} (h : n < 16) : (hexDigit n).toLower = hexDigit n := by
  have all : ∀ m : Fin 16, (hexDigit m).toLower = hexDigit m := by decide
  exact all ⟨n, h⟩

theorem toLowerCase_bytesToHex (b : Bytes) : toLowerCase (bytesToHex b) = bytesToHex b := by
  apply String.ext
  rw [toLowerCase, String.toList_map, bytesToHex_toList]
  induction b with
  | nil => rfl
  | cons x b ih =>
    obtain ⟨high, low⟩ := hexPair_halves x
    rw [List.flatMap_cons, List.map_append, ih]
    simp only [hexPair, List.map_cons, List.map_nil, toLower_hexDigit high, toLower_hexDigit low]

theorem hexToBytes_ok_iff {hex : String} {b : Bytes} : hexToBytes hex = .ok b ↔
    (stripHexPrefix hex.toList).length % 2 = 0 ∧ (stripHexPrefix hex.toList).all isHexDigit = true ∧
      hexPairs (stripHexPrefix hex.toList) = b := by
  unfold hexToBytes
  dsimp only
  rw [guard_ok_iff]
  simp only [not_or, not_not, Except.ok.injEq, and_assoc, ne_eq]

/-- Writing a text back loses its case, two digits at a time. -/
theorem flatMap_hexPairs : ∀ {cs : List Char}, cs.length % 2 = 0 → cs.all isHexDigit = true →
    (hexPairs cs).flatMap hexPair = cs.map Char.toLower
  | [], _, _ => rfl
  | [_], odd, _ => by simp at odd
  | high :: low :: rest, even, hex => by
    simp only [List.all_cons, Bool.and_eq_true] at hex
    obtain ⟨hexHigh, hexLow, hexRest⟩ := hex
    have tail : rest.length % 2 = 0 := by
      simp only [List.length_cons] at even
      omega
    have ih := flatMap_hexPairs tail hexRest
    have h := isHexDigit_lt hexHigh
    have l := isHexDigit_lt hexLow
    have value : (UInt8.ofNat (16 * digitValue high + digitValue low)).toNat =
        16 * digitValue high + digitValue low := by
      rw [UInt8.toNat_ofNat']
      exact Nat.mod_eq_of_lt (by omega)
    have quotient : (16 * digitValue high + digitValue low) / 16 = digitValue high := by omega
    have remainder : (16 * digitValue high + digitValue low) % 16 = digitValue low := by omega
    simp only [hexPairs, List.flatMap_cons, ih, hexPair, value, quotient, remainder,
      hexDigit_digitValue hexHigh, hexDigit_digitValue hexLow, List.map_cons, List.cons_append,
      List.nil_append]

theorem bytesToHex_of_hexToBytes {hex : String} {b : Bytes} (read : hexToBytes hex = .ok b) :
    bytesToHex b = normalHex hex := by
  obtain ⟨even, digits, rfl⟩ := hexToBytes_ok_iff.mp read
  apply String.ext
  rw [bytesToHex_toList, flatMap_hexPairs even digits]
  simp [normalHex, toLowerCase]

/-- Two texts of the same bytes agree up to case and prefix. -/
theorem normalHex_inj {s t : String} {b : Bytes} (first : hexToBytes s = .ok b)
    (second : hexToBytes t = .ok b) : normalHex s = normalHex t := by
  rw [← bytesToHex_of_hexToBytes first, bytesToHex_of_hexToBytes second]

end QorechainRdk
