import QorechainRdk.Lib.Utf16
import QorechainRdk.Rules

/-!
# The id grammar over code units and bytes

The id checks of `rules/index.ts`, `rules.go` and `Rules.java` on the strings of each language: code units, of which
a surrogate may stand alone, and bytes, which need be no UTF-8.
-/

namespace QorechainRdk

open Js Utf16

abbrev LowerOrDigitCode (c : Nat) : Prop := (0x61 ≤ c ∧ c ≤ 0x7A) ∨ (0x30 ≤ c ∧ c ≤ 0x39)

abbrev IdMarkCode (c : Nat) : Prop := c = 0x2E ∨ c = 0x5F ∨ c = 0x2D

/-- The loop from the `i`-th unit or byte on. -/
def idErrorLoop : Nat → List Nat → Option String
  | _, [] => none
  | i, c :: cs =>
    if LowerOrDigitCode c then idErrorLoop (i + 1) cs
    else if IdMarkCode c ∧ 0 < i then idErrorLoop (i + 1) cs
    else if i = 0 then some "must start with a lowercase letter or a digit"
    else some "may contain only lowercase letters, digits, '.', '_' and '-'"

/-- The check of a string of so many bytes. -/
def idError (len : Nat) (codes : List Nat) : Option String :=
  if len < ID_MIN_LENGTH ∨ ID_MAX_LENGTH < len then some s!"must be {ID_MIN_LENGTH} to {ID_MAX_LENGTH} characters"
  else idErrorLoop 0 codes

/-- `TextEncoder` writes U+FFFD for a lone surrogate. -/
def rollupIdErrorUnits (id : List UInt16) : Option String :=
  idError (encodeUtf8 [0xEF, 0xBF, 0xBD] id).length (id.map UInt16.toNat)

/-- The empty string stands for no error. -/
def Go.rollupIDError (id : Bytes) : String := (idError id.length (id.map UInt8.toNat)).getD ""

/-- `getBytes` writes `?` for a lone surrogate, and `null` is taken for the empty string. -/
def Jvm.rollupIdError (id : Option (List UInt16)) : Option String :=
  let b := encodeUtf8 [0x3F] (id.getD [])
  idError b.length (b.map UInt8.toNat)

/-- `^[a-z0-9][a-z0-9._-]{2,63}$` over units or bytes. -/
def IdCodes (codes : List Nat) : Prop :=
  ∃ first rest, codes = first :: rest ∧ LowerOrDigitCode first ∧ (∀ c ∈ rest, LowerOrDigitCode c ∨ IdMarkCode c) ∧
    2 ≤ rest.length ∧ rest.length ≤ 63

/-! ### The grammar -/

section
variable {codes : List Nat} {us : List UInt16}

theorem idErrorLoop_rest {i : Nat} (later : 0 < i) :
    idErrorLoop i codes = none ↔ ∀ c ∈ codes, LowerOrDigitCode c ∨ IdMarkCode c := by
  induction codes generalizing i with
  | nil => simp [idErrorLoop]
  | cons c codes ih =>
    unfold idErrorLoop
    rw [List.forall_mem_cons]
    by_cases plain : LowerOrDigitCode c
    · rw [if_pos plain, ih (Nat.succ_pos i)]
      exact (and_iff_right (Or.inl plain)).symm
    · rw [if_neg plain]
      by_cases mark : IdMarkCode c
      · rw [if_pos ⟨mark, later⟩, ih (Nat.succ_pos i)]
        exact (and_iff_right (Or.inr mark)).symm
      · rw [if_neg (fun both => mark both.1), if_neg (by omega)]
        constructor
        · intro wrong
          cases wrong
        · intro both
          exact absurd both.1 (not_or.mpr ⟨plain, mark⟩)

theorem idErrorLoop_first (c : Nat) :
    idErrorLoop 0 (c :: codes) = none ↔ LowerOrDigitCode c ∧ ∀ d ∈ codes, LowerOrDigitCode d ∨ IdMarkCode d := by
  unfold idErrorLoop
  by_cases plain : LowerOrDigitCode c
  · rw [if_pos plain, idErrorLoop_rest (Nat.succ_pos 0)]
    exact (and_iff_right plain).symm
  · rw [if_neg plain, if_neg (fun both => absurd both.2 (by decide)), if_pos rfl]
    constructor
    · intro wrong
      cases wrong
    · intro both
      exact absurd both.1 plain

theorem idError_none_iff {len : Nat} :
    idError len codes = none ↔ (3 ≤ len ∧ len ≤ 64) ∧ idErrorLoop 0 codes = none := by
  unfold idError ID_MIN_LENGTH ID_MAX_LENGTH
  split
  · constructor
    · intro wrong
      cases wrong
    · intro both
      omega
  · constructor
    · intro h
      exact ⟨by omega, h⟩
    · exact And.right

/-- A string whose length is counted in the units that are checked. -/
theorem idError_length_iff : idError codes.length codes = none ↔ IdCodes codes := by
  rw [idError_none_iff]
  constructor
  · intro h
    obtain ⟨length, loop⟩ := h
    cases codes with
    | nil => exact absurd length.1 (by decide)
    | cons c codes =>
      obtain ⟨first, rest⟩ := (idErrorLoop_first c).mp loop
      rw [List.length_cons] at length
      exact ⟨c, codes, rfl, first, rest, by omega, by omega⟩
  · intro h
    obtain ⟨c, rest, rfl, first, marks, low, high⟩ := h
    refine ⟨?_, (idErrorLoop_first c).mpr ⟨first, marks⟩⟩
    rw [List.length_cons]
    omega

/-- Nothing beyond ASCII passes, nor does a question mark. -/
theorem idErrorLoop_codes (h : idErrorLoop 0 codes = none) : ∀ c ∈ codes, LowerOrDigitCode c ∨ IdMarkCode c := by
  cases codes with
  | nil => simp
  | cons c codes =>
    obtain ⟨first, rest⟩ := (idErrorLoop_first c).mp h
    exact List.forall_mem_cons.mpr ⟨Or.inl first, rest⟩

/-- A string of ASCII units has one byte for each. -/
theorem encodeUtf8_ascii (replacement : List UInt8) (ascii : ∀ u ∈ us, u.toNat < 128) :
    (encodeUtf8 replacement us).map UInt8.toNat = us.map UInt16.toNat := by
  induction us with
  | nil => rfl
  | cons u us ih =>
    rw [List.forall_mem_cons] at ascii
    have high : isHigh u = false := by
      rw [Bool.eq_false_iff, ne_eq, isHigh_iff]
      omega
    have low : isLow u = false := by
      rw [Bool.eq_false_iff, ne_eq, isLow_iff]
      omega
    have value : (Char.ofNat u.toNat).toNat = u.toNat := toNat_ofNat (by omega)
    have rest := ih ascii.2
    unfold encodeUtf8 at rest ⊢
    rw [decode_single high, List.flatMap_cons, List.map_append, rest, single, high, low]
    show (String.utf8EncodeChar (Char.ofNat u.toNat)).map UInt8.toNat ++ _ = _
    rw [utf8EncodeChar_ascii (by omega), value, List.map_singleton, UInt8.toNat_ofNat',
      Nat.mod_eq_of_lt (by omega)]
    rfl

theorem code_ascii {c : Nat} (h : LowerOrDigitCode c ∨ IdMarkCode c) : c < 128 := by
  omega

theorem IdCodes.passes (h : IdCodes codes) : ∀ c ∈ codes, LowerOrDigitCode c ∨ IdMarkCode c := by
  obtain ⟨c, rest, rfl, first, marks, -, -⟩ := h
  exact List.forall_mem_cons.mpr ⟨Or.inl first, marks⟩

/-- Bytes that pass are those of ASCII units: a replacement that does not pass leaves no lone surrogate. -/
theorem units_ascii {replacement : List UInt8}
    (refused : ∃ b ∈ replacement, ¬ (LowerOrDigitCode b.toNat ∨ IdMarkCode b.toNat))
    (passes : ∀ c ∈ (encodeUtf8 replacement us).map UInt8.toNat, LowerOrDigitCode c ∨ IdMarkCode c) :
    ∀ u ∈ us, u.toNat < 128 := by
  have bytes : ∀ x ∈ decode us, ∀ b ∈ x.bytes replacement, LowerOrDigitCode b.toNat ∨ IdMarkCode b.toNat :=
    fun x inside b member => passes _ (List.mem_map_of_mem (List.mem_flatMap.mpr ⟨x, inside, member⟩))
  intro u member
  rw [← flatMap_decode us] at member
  obtain ⟨x, inside, unit⟩ := List.mem_flatMap.mp member
  cases x with
  | lone v =>
    obtain ⟨b, place, wrong⟩ := refused
    exact absurd (bytes _ inside b place) wrong
  | char c =>
    by_cases ascii : c.toNat < 128
    · rw [Scalar.units, unitsOfChar_ascii ascii, List.mem_singleton] at unit
      rw [unit, UInt16.toNat_ofNat']
      omega
    · obtain ⟨b, rest, text, large⟩ := utf8EncodeChar_beyond (Nat.not_lt.mp ascii)
      have passed := bytes _ inside b (by rw [Scalar.bytes, text]; exact List.mem_cons_self)
      exact absurd (code_ascii passed) (by omega)

theorem rollupIdErrorUnits_none_iff : rollupIdErrorUnits us = none ↔ IdCodes (us.map UInt16.toNat) := by
  have counted : (∀ c ∈ us.map UInt16.toNat, LowerOrDigitCode c ∨ IdMarkCode c) →
      (encodeUtf8 [0xEF, 0xBF, 0xBD] us).length = (us.map UInt16.toNat).length := by
    intro passes
    have same := encodeUtf8_ascii [0xEF, 0xBF, 0xBD] fun u member =>
      code_ascii (passes _ (List.mem_map_of_mem member))
    rw [← same, List.length_map]
  unfold rollupIdErrorUnits
  constructor
  · intro h
    have passes := idErrorLoop_codes (idError_none_iff.mp h).2
    rw [counted passes] at h
    exact idError_length_iff.mp h
  · intro h
    rw [counted h.passes]
    exact idError_length_iff.mpr h

theorem idError_ne_empty {len : Nat} : idError len codes ≠ some "" := by
  have loop : ∀ i, idErrorLoop i codes ≠ some "" := by
    intro i
    induction codes generalizing i with
    | nil => nofun
    | cons c codes ih =>
      unfold idErrorLoop
      repeat' split
      · exact ih _
      · exact ih _
      · decide
      · decide
  unfold idError
  split
  · decide
  · exact loop 0

theorem goRollupIDError_iff {id : Bytes} : Go.rollupIDError id = "" ↔ IdCodes (id.map UInt8.toNat) := by
  have length : id.length = (id.map UInt8.toNat).length := (List.length_map _).symm
  rw [← idError_length_iff, Go.rollupIDError, length]
  cases h : idError (id.map UInt8.toNat).length (id.map UInt8.toNat) with
  | none => simp
  | some message =>
    have some : message ≠ "" := fun empty => idError_ne_empty (h.trans (congrArg _ empty))
    simp [some]

theorem jvmRollupIdError_none_iff {id : Option (List UInt16)} :
    Jvm.rollupIdError id = none ↔ IdCodes ((id.getD []).map UInt16.toNat) := by
  unfold Jvm.rollupIdError
  dsimp only
  generalize id.getD [] = us
  have length : (encodeUtf8 [0x3F] us).length = ((encodeUtf8 [0x3F] us).map UInt8.toNat).length :=
    (List.length_map _).symm
  rw [length, idError_length_iff]
  constructor
  · intro h
    have ascii := units_ascii ⟨0x3F, List.mem_singleton_self _, by decide⟩ h.passes
    rwa [encodeUtf8_ascii _ ascii] at h
  · intro h
    rw [encodeUtf8_ascii]
    · exact h
    · exact fun u member => code_ascii (h.passes _ (List.mem_map_of_mem member))

end

/-! ### Well-formed strings -/

/-- An encoding that leaves ASCII as it is and begins every other character beyond it. -/
def LeavesAscii (code : Char → List Nat) : Prop :=
  (∀ c, c.toNat < 128 → code c = [c.toNat]) ∧
    ∀ c, 128 ≤ c.toNat → ∃ n rest, code c = n :: rest ∧ 128 ≤ n

theorem lowerOrDigit_iff (c : Char) : LowerOrDigit c ↔ LowerOrDigitCode c.toNat := Iff.rfl

theorem idMark_iff (c : Char) : IdMark c ↔ IdMarkCode c.toNat := by
  have same : ∀ d : Char, c = d ↔ c.toNat = d.toNat := fun d => Char.toNat_inj.symm
  show (c = '.' ∨ c = '_' ∨ c = '-') ↔ _
  rw [same, same, same]
  rfl

/-- The first character that does not pass is at the same place among characters, units and bytes. -/
theorem idErrorLoop_eq {code : Char → List Nat} (leaves : LeavesAscii code) (i : Nat) (cs : List Char) :
    idErrorLoop i (cs.flatMap code) = rollupIdErrorLoop i cs := by
  induction cs generalizing i with
  | nil => rfl
  | cons c cs ih =>
    by_cases ascii : c.toNat < 128
    · rw [List.flatMap_cons, leaves.1 c ascii, List.singleton_append, idErrorLoop, rollupIdErrorLoop, ih]
      simp only [lowerOrDigit_iff, ← idMark_iff]
    · obtain ⟨n, rest, text, large⟩ := leaves.2 c (Nat.not_lt.mp ascii)
      have plain : ¬ LowerOrDigit c := fun h => ascii (code_ascii (Or.inl ((lowerOrDigit_iff c).mp h)))
      have mark : ¬ IdMark c := fun h => ascii (code_ascii (Or.inr ((idMark_iff c).mp h)))
      rw [List.flatMap_cons, text, List.cons_append, idErrorLoop, if_neg (by omega), if_neg (by omega)]
      have marked : ¬ (IdMark c ∧ 0 < i) := fun both => mark both.1
      unfold rollupIdErrorLoop
      rw [if_neg plain, if_neg marked]

theorem unitsOfChar_leavesAscii : LeavesAscii fun c => (unitsOfChar c).map UInt16.toNat := by
  constructor
  · intro c ascii
    dsimp only
    rw [unitsOfChar_ascii ascii, List.map_singleton, UInt16.toNat_ofNat', Nat.mod_eq_of_lt (by omega)]
  · intro c beyond
    obtain ⟨u, rest, text, large⟩ := unitsOfChar_beyond beyond
    exact ⟨u.toNat, rest.map UInt16.toNat, by dsimp only; rw [text, List.map_cons], large⟩

theorem utf8EncodeChar_leavesAscii : LeavesAscii fun c => (String.utf8EncodeChar c).map UInt8.toNat := by
  constructor
  · intro c ascii
    dsimp only
    rw [utf8EncodeChar_ascii ascii, List.map_singleton, UInt8.toNat_ofNat', Nat.mod_eq_of_lt (by omega)]
  · intro c beyond
    obtain ⟨b, rest, text, large⟩ := utf8EncodeChar_beyond beyond
    exact ⟨b.toNat, rest.map UInt8.toNat, by dsimp only; rw [text, List.map_cons], large⟩

theorem idError_encode (s : String) :
    idError (encode s).length ((encode s).map UInt8.toNat) = rollupIdError s := by
  have codes : (encode s).map UInt8.toNat = s.toList.flatMap fun c => (String.utf8EncodeChar c).map UInt8.toNat := by
    rw [encode_eq_flatMap, List.map_flatMap]
  unfold idError rollupIdError
  rw [codes, idErrorLoop_eq utf8EncodeChar_leavesAscii]

theorem idError_units (s : String) :
    idError (encode s).length ((units s.toList).map UInt16.toNat) = rollupIdError s := by
  have codes : (units s.toList).map UInt16.toNat = s.toList.flatMap fun c => (unitsOfChar c).map UInt16.toNat := by
    rw [units, List.map_flatMap]
  unfold idError rollupIdError
  rw [codes, idErrorLoop_eq unitsOfChar_leavesAscii]

/-- Each check passes exactly the grammar, over every string of its language; and on well-formed strings the three
give one answer. -/
theorem rollupIdError_grammar :
    (∀ us : List UInt16, rollupIdErrorUnits us = none ↔ IdCodes (us.map UInt16.toNat)) ∧
    (∀ b : Bytes, Go.rollupIDError b = "" ↔ IdCodes (b.map UInt8.toNat)) ∧
    (∀ id : Option (List UInt16), Jvm.rollupIdError id = none ↔ IdCodes ((id.getD []).map UInt16.toNat)) ∧
    (∀ s : String, rollupIdErrorUnits (units s.toList) = rollupIdError s ∧
      Go.rollupIDError (encode s) = (rollupIdError s).getD "" ∧
      Jvm.rollupIdError (some (units s.toList)) = rollupIdError s) := by
  refine ⟨fun us => rollupIdErrorUnits_none_iff, fun b => goRollupIDError_iff,
    fun id => jvmRollupIdError_none_iff, ?_⟩
  intro s
  refine ⟨?_, ?_, ?_⟩
  · unfold rollupIdErrorUnits
    rw [encodeUtf8_units, ← encode_eq_flatMap, idError_units]
  · unfold Go.rollupIDError
    rw [idError_encode]
  · unfold Jvm.rollupIdError
    rw [Option.getD_some, encodeUtf8_units, ← encode_eq_flatMap]
    exact idError_encode s

end QorechainRdk
