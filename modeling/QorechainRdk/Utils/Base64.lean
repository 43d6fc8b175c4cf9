import QorechainRdk.Lib.Base64
import QorechainRdk.Utils.Hex

/-!
# Base64, and the two spellings of wire bytes

`bytesToBase64` of `utils/bytes.ts`, and which texts `decodeWireBytes` reads back as they were meant.
-/

namespace QorechainRdk

open Js

def base64Char (n : Nat) : Char :=
  "ABCDEFGHIJKLMNOPQRSTUVWXYZabcdefghijklmnopqrstuvwxyz0123456789+/".toList.getD n 'A'

/-- Six bits at a time, the last ones filled up with zeros. -/
def sextets : Bytes → List Nat
  | a :: b :: c :: rest =>
    a.toNat / 4 :: (a.toNat % 4 * 16 + b.toNat / 16) :: (b.toNat % 16 * 4 + c.toNat / 64) ::
      c.toNat % 64 :: sextets rest
  | [a, b] => [a.toNat / 4, a.toNat % 4 * 16 + b.toNat / 16, b.toNat % 16 * 4]
  | [a] => [a.toNat / 4, a.toNat % 4 * 16]
  | [] => []

def padding (length : Nat) : List Char := List.replicate ((3 - length % 3) % 3) '='

/-- `Buffer.from(bytes).toString("base64")`. -/
def bytesToBase64 (bytes : Bytes) : String :=
  String.ofList ((sextets bytes).map base64Char ++ padding bytes.length)

theorem base64Char_eq (n : Nat) : base64Char n = Rfc4648.symbol n := by
  have table : "ABCDEFGHIJKLMNOPQRSTUVWXYZabcdefghijklmnopqrstuvwxyz0123456789+/".toList = Rfc4648.alphabet := by
    decide +kernel
  rw [base64Char, table, Rfc4648.symbol]

theorem base64Value_base64Char {n : Nat} (h : n < 64) : base64Value (base64Char n) = some n := by
  have all : ∀ m : Fin 64, base64Value (Rfc4648.symbol m) = some m.1 := by decide +kernel
  rw [base64Char_eq]
  exact all ⟨n, h⟩

theorem base64Char_ne_pad {n : Nat} (h : n < 64) : base64Char n ≠ '=' := by
  rw [base64Char_eq]
  exact Rfc4648.symbol_ne_pad h

theorem sextets_lt {b : Bytes} : ∀ n ∈ sextets b, n < 64 := by
  induction b using sextets.induct with
  | case1 x y z rest ih =>
    have hx := x.toNat_lt
    have hy := y.toNat_lt
    have hz := z.toNat_lt
    intro n member
    simp only [sextets, List.mem_cons] at member
    rcases member with rfl | rfl | rfl | rfl | member
    · omega
    · omega
    · omega
    · omega
    · exact ih n member
  | case2 x y =>
    have hx := x.toNat_lt
    have hy := y.toNat_lt
    intro n member
    simp only [sextets, List.mem_cons, List.not_mem_nil, or_false] at member
    omega
  | case3 x =>
    have hx := x.toNat_lt
    intro n member
    simp only [sextets, List.mem_cons, List.not_mem_nil, or_false] at member
    omega
  | case4 =>
    intro n member
    cases member

theorem sextets_length (b : Bytes) : (sextets b).length = (4 * b.length + 2) / 3 := by
  induction b using sextets.induct with
  | case1 x y z rest ih =>
    simp only [sextets, List.length_cons, ih]
    omega
  | case2 x y => simp [sextets]
  | case3 x => simp [sextets]
  | case4 => rfl

theorem ofNat_eq {n : Nat} {x : UInt8} (h : n % 256 = x.toNat) : UInt8.ofNat n = x := by
  apply UInt8.toNat_inj.mp
  rw [UInt8.toNat_ofNat']
  exact h

theorem base64Groups_sextets (b : Bytes) : base64Groups (sextets b) = b := by
  induction b using sextets.induct with
  | case1 x y z rest ih =>
    have hx := x.toNat_lt
    have hy := y.toNat_lt
    have hz := z.toNat_lt
    rw [sextets, base64Groups, ih, ofNat_eq (x := x) (by omega), ofNat_eq (x := y) (by omega),
      ofNat_eq (x := z) (by omega)]
  | case2 x y =>
    have hx := x.toNat_lt
    have hy := y.toNat_lt
    rw [sextets, base64Groups, ofNat_eq (x := x) (by omega), ofNat_eq (x := y) (by omega)]
  | case3 x =>
    have hx := x.toNat_lt
    rw [sextets, base64Groups, ofNat_eq (x := x) (by omega)]
  | case4 => rfl

theorem lowBytes_ascii {cs : List Char} (ascii : ∀ c ∈ cs, c.toNat < 128) : lowBytes cs = cs := by
  unfold lowBytes Utf16.units
  induction cs with
  | nil => rfl
  | cons c cs ih =>
    have small := ascii c List.mem_cons_self
    have unit : Utf16.unitsOfChar c = [UInt16.ofNat c.toNat] := if_pos (by omega)
    have value : (UInt16.ofNat c.toNat).toNat % 256 = c.toNat := by
      rw [UInt16.toNat_ofNat']
      omega
    rw [List.flatMap_cons, List.map_append, ih fun d member => ascii d (List.mem_cons_of_mem _ member), unit,
      List.map_singleton, value, Char.ofNat_toNat]
    rfl

theorem base64Char_ascii {n : Nat} (h : n < 64) : (base64Char n).toNat < 128 := by
  have all : ∀ m : Fin 64, (base64Char m).toNat < 128 := by decide +kernel
  exact all ⟨n, h⟩

theorem bytesToBase64_ascii (b : Bytes) :
    ∀ c ∈ (sextets b).map base64Char ++ padding b.length, c.toNat < 128 := by
  intro c member
  rcases List.mem_append.mp member with symbol | pad
  · obtain ⟨n, sextet, rfl⟩ := List.mem_map.mp symbol
    exact base64Char_ascii (sextets_lt n sextet)
  · rw [(List.mem_replicate.mp pad).2]
    decide

theorem base64ToBytes_bytesToBase64 (b : Bytes) : base64ToBytes (bytesToBase64 b) = b := by
  have kept : ((sextets b).map base64Char ++ padding b.length).takeWhile (· ≠ '=') =
      (sextets b).map base64Char := by
    rw [List.takeWhile_append_of_pos]
    · simp [padding]
    · intro c member
      obtain ⟨n, sextet, rfl⟩ := List.mem_map.mp member
      exact decide_eq_true (base64Char_ne_pad (sextets_lt n sextet))
  have values : ((sextets b).map base64Char).filterMap base64Value = sextets b := by
    rw [List.filterMap_map]
    have each : ∀ n ∈ sextets b, (base64Value ∘ base64Char) n = some n := fun n sextet =>
      base64Value_base64Char (sextets_lt n sextet)
    rw [List.filterMap_congr each]
    exact List.filterMap_some
  unfold base64ToBytes bytesToBase64
  rw [String.toList_ofList, lowBytes_ascii (bytesToBase64_ascii b), kept, values, base64Groups_sextets]

/-! ### Which spelling a text is taken for -/

theorem not_isBase64Only {c : Char} (h : isHexDigit c = true) : isBase64Only c = false := by
  have all : ∀ n : Fin 128, isHexDigit (Char.ofNat n) = true → isBase64Only (Char.ofNat n) = false := by
    decide
  have same := all ⟨c.toNat, isHexDigit_ascii h⟩
  simp only [Char.ofNat_toNat] at same
  exact same h

theorem decodeWireBytes_hex {s : String} (even : s.toList.length % 2 = 0)
    (hex : s.toList.all isHexDigit = true) : decodeWireBytes s = .ok (hexPairs s.toList) := by
  have foreign : s.toList.any isBase64Only = false := by
    rw [List.any_eq_false]
    intro c member
    rw [not_isBase64Only (List.all_eq_true.mp hex c member)]
    decide
  unfold decodeWireBytes
  by_cases empty : s = ""
  · rw [if_pos empty, empty]
    rfl
  · rw [if_neg empty]
    dsimp only
    rw [foreign, hex, even]
    exact hexToBytes_of_hex even hex

theorem decodeWireBytes_bytesToHex (b : Bytes) : decodeWireBytes (bytesToHex b) = .ok b := by
  have digits := bytesToHex_toList b
  rw [decodeWireBytes_hex, digits, hexPairs_flatMap]
  · rw [digits, length_flatMap_hexPair]
    exact Nat.mul_mod_right ..
  · rw [digits]
    exact all_isHexDigit_flatMap b

/-- The pad character tells base64 from hex. -/
theorem decodeWireBytes_padded {b : Bytes} (padded : b.length % 3 ≠ 0) :
    decodeWireBytes (bytesToBase64 b) = .ok b := by
  have text : (bytesToBase64 b).toList = (sextets b).map base64Char ++ padding b.length :=
    String.toList_ofList
  have pad : '=' ∈ (bytesToBase64 b).toList := by
    rw [text]
    apply List.mem_append_right
    rw [padding, List.mem_replicate]
    exact ⟨by omega, rfl⟩
  have foreign : (bytesToBase64 b).toList.any isBase64Only = true :=
    List.any_eq_true.mpr ⟨'=', pad, rfl⟩
  have some_text : bytesToBase64 b ≠ "" := by
    intro empty
    rw [empty] at pad
    cases pad
  unfold decodeWireBytes
  rw [if_neg some_text]
  dsimp only
  rw [foreign, Bool.not_true, Bool.and_false, if_neg (by decide), base64ToBytes_bytesToBase64]

/-- The sextets that base64 writes as a hex digit. -/
def IsHexSextet (n : Nat) : Prop := n < 6 ∨ (26 ≤ n ∧ n < 32) ∨ (52 ≤ n ∧ n < 62)

theorem isHexDigit_base64Char {n : Nat} (h : n < 64) : isHexDigit (base64Char n) = true ↔ IsHexSextet n := by
  have all : ∀ m : Fin 64, isHexDigit (Rfc4648.symbol m) = true ↔
      (m.1 < 6 ∨ (26 ≤ m.1 ∧ m.1 < 32) ∨ (52 ≤ m.1 ∧ m.1 < 62)) := by decide +kernel
  rw [base64Char_eq]
  exact all ⟨n, h⟩

theorem all_isHexDigit_bytesToBase64 {b : Bytes} (unpadded : b.length % 3 = 0) :
    (bytesToBase64 b).toList.all isHexDigit = true ↔ ∀ n ∈ sextets b, IsHexSextet n := by
  have none : padding b.length = [] := by
    rw [padding, unpadded]
    rfl
  rw [bytesToBase64, String.toList_ofList, none, List.append_nil, List.all_map, List.all_eq_true]
  constructor
  · intro hex n member
    exact (isHexDigit_base64Char (sextets_lt n member)).mp (hex n member)
  · intro hex n member
    exact (isHexDigit_base64Char (sextets_lt n member)).mpr (hex n member)

theorem length_bytesToBase64 {b : Bytes} (unpadded : b.length % 3 = 0) :
    3 * (bytesToBase64 b).toList.length = 4 * b.length := by
  rw [bytesToBase64, String.toList_ofList, List.length_append, List.length_map, sextets_length, padding,
    List.length_replicate]
  omega

/-- Read as hex, a base64 text gives two bytes where three were meant. -/
theorem decodeWireBytes_taken_for_hex {b : Bytes} (unpadded : b.length % 3 = 0)
    (hex : ∀ n ∈ sextets b, IsHexSextet n) :
    ∃ c, decodeWireBytes (bytesToBase64 b) = .ok c ∧ 3 * c.length = 2 * b.length := by
  have length := length_bytesToBase64 unpadded
  have even : (bytesToBase64 b).toList.length % 2 = 0 := by omega
  have digits := (all_isHexDigit_bytesToBase64 unpadded).mpr hex
  have pairs := congrArg List.length (flatMap_hexPairs even digits)
  rw [length_flatMap_hexPair, List.length_map] at pairs
  exact ⟨_, decodeWireBytes_hex even digits, by omega⟩

theorem decodeWireBytes_taken_for_base64 {b : Bytes} (unpadded : b.length % 3 = 0)
    (foreign : ¬ ∀ n ∈ sextets b, IsHexSextet n) : decodeWireBytes (bytesToBase64 b) = .ok b := by
  have digits := mt (all_isHexDigit_bytesToBase64 unpadded).mp foreign
  unfold decodeWireBytes
  split
  · rename_i empty
    rw [empty] at digits
    exact absurd rfl digits
  · dsimp only
    rw [if_neg, base64ToBytes_bytesToBase64]
    simp only [Bool.and_eq_true]
    intro both
    exact digits both.1.2

/-- A base64 text without padding may have hex digits only; it is then read as other, shorter bytes. -/
theorem decodeWireBytes_bytesToBase64 (b : Bytes) : decodeWireBytes (bytesToBase64 b) = .ok b ∨
    ∃ c, decodeWireBytes (bytesToBase64 b) = .ok c ∧ 3 * c.length = 2 * b.length := by
  by_cases padded : b.length % 3 ≠ 0
  · exact Or.inl (decodeWireBytes_padded padded)
  · have unpadded : b.length % 3 = 0 := by omega
    by_cases hex : ∀ n ∈ sextets b, IsHexSextet n
    · obtain ⟨c, read, shorter⟩ := decodeWireBytes_taken_for_hex unpadded hex
      exact Or.inr ⟨c, read, shorter⟩
    · exact Or.inl (decodeWireBytes_taken_for_base64 unpadded hex)

/-- Hex always comes back. Base64 does unless it is written without padding and in hex digits only. -/
theorem decodeWireBytes_roundTrip_iff (b : Bytes) :
    (decodeWireBytes (bytesToBase64 b) = .ok b ∧ decodeWireBytes (bytesToHex b) = .ok b) ↔
      b = [] ∨ b.length % 3 ≠ 0 ∨ ∃ n ∈ sextets b, ¬ IsHexSextet n := by
  rw [and_iff_left (decodeWireBytes_bytesToHex b)]
  by_cases padded : b.length % 3 ≠ 0
  · exact iff_of_true (decodeWireBytes_padded padded) (Or.inr (Or.inl padded))
  · have unpadded : b.length % 3 = 0 := by omega
    by_cases hex : ∀ n ∈ sextets b, IsHexSextet n
    · constructor
      · intro same
        by_cases some : b = []
        · exact Or.inl some
        · obtain ⟨c, read, shorter⟩ := decodeWireBytes_taken_for_hex unpadded hex
          have positive := List.length_pos_iff.mpr some
          rw [Except.ok.inj (read.symm.trans same)] at shorter
          omega
      · intro h
        rcases h with rfl | padded | ⟨n, member, foreign⟩
        · rfl
        · exact absurd unpadded padded
        · exact absurd (hex n member) foreign
    · have back := decodeWireBytes_taken_for_base64 unpadded hex
      refine ⟨fun _ => Or.inr (Or.inr ?_), fun _ => back⟩
      push Not at hex
      exact hex

/-- Three zero bytes are written `AAAA`, which is the hex of two others. -/
theorem decodeWireBytes_zeros : ¬ ∀ b : Bytes,
    decodeWireBytes (bytesToBase64 b) = .ok b ∧ decodeWireBytes (bytesToHex b) = .ok b := by
  intro law
  have back := (law [0, 0, 0]).1
  rw [show decodeWireBytes (bytesToBase64 [0, 0, 0]) = .ok [170, 170] from rfl] at back
  cases back

end QorechainRdk
