import Mathlib.Data.Char

/-!
# Strings of code units

A string of 16-bit code units, in which a surrogate may stand alone, read as characters and encoded in UTF-8 with a
replacement for what is no character.
-/

namespace Utf16

/-- A surrogate without its other half is no character. -/
inductive Scalar where
  | char (c : Char)
  | lone (unit : UInt16)
  deriving DecidableEq, Repr

def unitsOfChar (c : Char) : List UInt16 :=
  let n := c.toNat
  if n < 0x10000 then [UInt16.ofNat n]
  else [UInt16.ofNat (0xD800 + (n - 0x10000) / 0x400), UInt16.ofNat (0xDC00 + (n - 0x10000) % 0x400)]

def units (cs : List Char) : List UInt16 := cs.flatMap unitsOfChar

def isHigh (u : UInt16) : Bool := 0xD800 ≤ u.toNat && u.toNat < 0xDC00

def isLow (u : UInt16) : Bool := 0xDC00 ≤ u.toNat && u.toNat < 0xE000

def single (u : UInt16) : Scalar := if isHigh u || isLow u then .lone u else .char (Char.ofNat u.toNat)

def pair (u v : UInt16) : Char := Char.ofNat (0x10000 + (u.toNat - 0xD800) * 0x400 + (v.toNat - 0xDC00))

/-- A high surrogate before a low one is a character with it. -/
def decode : List UInt16 → List Scalar
  | [] => []
  | [u] => [single u]
  | u :: v :: rest => if isHigh u && isLow v then .char (pair u v) :: decode rest else single u :: decode (v :: rest)

def Scalar.units : Scalar → List UInt16
  | .char c => unitsOfChar c
  | .lone u => [u]

/-- UTF-8, with a replacement for what is no character. -/
def Scalar.bytes (replacement : List UInt8) : Scalar → List UInt8
  | .char c => String.utf8EncodeChar c
  | .lone _ => replacement

def encodeUtf8 (replacement : List UInt8) (us : List UInt16) : List UInt8 :=
  (decode us).flatMap (Scalar.bytes replacement)

/-! ### Reading back -/

theorem toNat_ofNat {n : Nat} (valid : n < 0xD800 ∨ 0xDFFF < n ∧ n < 0x110000) : (Char.ofNat n).toNat = n := by
  rw [Char.ofNat, dif_pos valid]
  rfl

theorem not_surrogate (c : Char) : c.toNat < 0xD800 ∨ 0xDFFF < c.toNat ∧ c.toNat < 0x110000 := c.valid

theorem isHigh_iff {u : UInt16} : isHigh u = true ↔ 0xD800 ≤ u.toNat ∧ u.toNat < 0xDC00 := by
  simp [isHigh]

theorem isLow_iff {u : UInt16} : isLow u = true ↔ 0xDC00 ≤ u.toNat ∧ u.toNat < 0xE000 := by
  simp [isLow]

theorem units_single (u : UInt16) : (single u).units = [u] := by
  unfold single
  split
  · rfl
  · rename_i plain
    have size := u.toNat_lt
    rw [Bool.or_eq_true, isHigh_iff, isLow_iff] at plain
    have value : (Char.ofNat u.toNat).toNat = u.toNat := toNat_ofNat (by omega)
    show unitsOfChar _ = _
    unfold unitsOfChar
    rw [value, if_pos (by omega), UInt16.ofNat_toNat]

theorem units_pair {u v : UInt16} (high : isHigh u = true) (low : isLow v = true) :
    unitsOfChar (pair u v) = [u, v] := by
  rw [isHigh_iff] at high
  rw [isLow_iff] at low
  have value : (pair u v).toNat = 0x10000 + (u.toNat - 0xD800) * 0x400 + (v.toNat - 0xDC00) :=
    toNat_ofNat (by omega)
  have first : 0xD800 + ((pair u v).toNat - 0x10000) / 0x400 = u.toNat := by omega
  have second : 0xDC00 + ((pair u v).toNat - 0x10000) % 0x400 = v.toNat := by omega
  unfold unitsOfChar
  dsimp only
  rw [if_neg (by omega), first, second, UInt16.ofNat_toNat, UInt16.ofNat_toNat]

/-- Nothing is lost in reading. -/
theorem flatMap_decode (us : List UInt16) : (decode us).flatMap Scalar.units = us := by
  induction us using decode.induct with
  | case1 => rfl
  | case2 u => simp [decode, units_single]
  | case3 u v rest both ih =>
    obtain ⟨high, low⟩ := Bool.and_eq_true_iff.mp both
    rw [decode, if_pos both, List.flatMap_cons, ih, Scalar.units, units_pair high low]
    rfl
  | case4 u v rest apart ih => rw [decode, if_neg apart, List.flatMap_cons, ih, units_single]; rfl

/-- A single unit that is no surrogate is read as its character, whatever follows. -/
theorem decode_single {u : UInt16} (plain : isHigh u = false) (rest : List UInt16) :
    decode (u :: rest) = single u :: decode rest := by
  cases rest with
  | nil => rfl
  | cons v rest => rw [decode, plain, Bool.false_and, if_neg (by decide)]

theorem decode_unitsOfChar (c : Char) (rest : List UInt16) :
    decode (unitsOfChar c ++ rest) = .char c :: decode rest := by
  have valid := not_surrogate c
  unfold unitsOfChar
  dsimp only
  split
  · rename_i small
    have value : (UInt16.ofNat c.toNat).toNat = c.toNat := by
      rw [UInt16.toNat_ofNat']
      omega
    have high : isHigh (UInt16.ofNat c.toNat) = false := by
      rw [Bool.eq_false_iff, ne_eq, isHigh_iff, value]
      omega
    have low : isLow (UInt16.ofNat c.toNat) = false := by
      rw [Bool.eq_false_iff, ne_eq, isLow_iff, value]
      omega
    rw [List.singleton_append, decode_single high, single, high, low, value, Char.ofNat_toNat]
    rfl
  · rename_i large
    have first : (UInt16.ofNat (0xD800 + (c.toNat - 0x10000) / 0x400)).toNat =
        0xD800 + (c.toNat - 0x10000) / 0x400 := by
      rw [UInt16.toNat_ofNat']
      omega
    have second : (UInt16.ofNat (0xDC00 + (c.toNat - 0x10000) % 0x400)).toNat =
        0xDC00 + (c.toNat - 0x10000) % 0x400 := by
      rw [UInt16.toNat_ofNat']
      omega
    have high := isHigh_iff.mpr (show _ ∧ _ by rw [first]; omega)
    have low := isLow_iff.mpr (show _ ∧ _ by rw [second]; omega)
    have both : pair (UInt16.ofNat (0xD800 + (c.toNat - 0x10000) / 0x400))
        (UInt16.ofNat (0xDC00 + (c.toNat - 0x10000) % 0x400)) = c := by
      unfold pair
      rw [first, second, show 0x10000 + (0xD800 + (c.toNat - 0x10000) / 0x400 - 0xD800) * 0x400 +
        (0xDC00 + (c.toNat - 0x10000) % 0x400 - 0xDC00) = c.toNat by omega, Char.ofNat_toNat]
    rw [List.cons_append, List.singleton_append, decode, high, low, both]
    rfl

/-- Well-formed strings are read back. -/
theorem decode_units (cs : List Char) : decode (units cs) = cs.map .char := by
  induction cs with
  | nil => rfl
  | cons c cs ih =>
    rw [units, List.flatMap_cons, decode_unitsOfChar]
    exact congrArg _ ih

theorem encodeUtf8_units (replacement : List UInt8) (cs : List Char) :
    encodeUtf8 replacement (units cs) = cs.flatMap String.utf8EncodeChar := by
  rw [encodeUtf8, decode_units, List.flatMap_map]
  rfl

/-! ### Replacement -/

def Scalar.orElse (replacement : Char) : Scalar → Char
  | .char c => c
  | .lone _ => replacement

/-- The characters of a string, with a replacement for each surrogate that stands alone. -/
def wellFormed (replacement : Char) (us : List UInt16) : List Char := (decode us).map (Scalar.orElse replacement)

theorem wellFormed_units (replacement : Char) (cs : List Char) : wellFormed replacement (units cs) = cs := by
  rw [wellFormed, decode_units, List.map_map]
  exact List.map_id cs

/-- The encoding sees no more of a string than its characters after the replacement. -/
theorem encodeUtf8_wellFormed (replacement : Char) (us : List UInt16) :
    encodeUtf8 (String.utf8EncodeChar replacement) us =
      (wellFormed replacement us).flatMap String.utf8EncodeChar := by
  have same : ∀ x : Scalar, x.bytes (String.utf8EncodeChar replacement) =
      String.utf8EncodeChar (x.orElse replacement) := by
    intro x
    cases x with
    | char c => rfl
    | lone u => rfl
  rw [encodeUtf8, wellFormed, List.flatMap_map, funext same]

/-! ### ASCII -/

theorem unitsOfChar_ascii {c : Char} (h : c.toNat < 128) : unitsOfChar c = [UInt16.ofNat c.toNat] := by
  unfold unitsOfChar
  exact if_pos (by omega)

theorem utf8EncodeChar_ascii {c : Char} (h : c.toNat < 128) :
    String.utf8EncodeChar c = [UInt8.ofNat c.toNat] := by
  unfold String.utf8EncodeChar
  exact if_pos (Nat.le_of_lt_succ h)

/-- A character beyond ASCII begins with a unit beyond ASCII. -/
theorem unitsOfChar_beyond {c : Char} (h : 128 ≤ c.toNat) :
    ∃ u rest, unitsOfChar c = u :: rest ∧ 128 ≤ u.toNat := by
  have valid := not_surrogate c
  unfold unitsOfChar
  dsimp only
  split
  · refine ⟨_, _, rfl, ?_⟩
    rw [UInt16.toNat_ofNat']
    omega
  · refine ⟨_, _, rfl, ?_⟩
    rw [UInt16.toNat_ofNat']
    omega

/-- A character beyond ASCII begins with a byte beyond ASCII. -/
theorem utf8EncodeChar_beyond {c : Char} (h : 128 ≤ c.toNat) :
    ∃ b rest, String.utf8EncodeChar c = b :: rest ∧ 128 ≤ b.toNat := by
  have first : ∀ n : Nat, 128 ≤ n % 256 → 128 ≤ (UInt8.ofNat n).toNat := by
    intro n large
    rwa [UInt8.toNat_ofNat']
  have value : c.val.toNat = c.toNat := rfl
  unfold String.utf8EncodeChar
  dsimp only
  rw [value, if_neg (by omega)]
  split
  · exact ⟨_, _, rfl, first _ (by omega)⟩
  · split
    · exact ⟨_, _, rfl, first _ (by omega)⟩
    · exact ⟨_, _, rfl, first _ (by omega)⟩

end Utf16
