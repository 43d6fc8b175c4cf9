import QorechainRdk.Go.Wire

/-!
# Numbers in texts

What `strconv.ParseFloat`, `Double.parseDouble`, `float` and `int` take for a number.
-/

namespace QorechainRdk

open Doubles (Double)
open Js

/-- A text without the characters around it that `blank` tells. -/
def stripped (blank : Char → Bool) (cs : List Char) : List Char :=
  ((cs.dropWhile blank).reverse.dropWhile blank).reverse

namespace Go

/-- The names of what is not finite, in small and capital letters alike; `NaN` has no sign. -/
def special (cs : List Char) : Option Double :=
  let (negative, name) := Doubles.sign (cs.map Char.toLower)
  if name = "inf".toList ∨ name = "infinity".toList then some (.infinite negative)
  else if cs.map Char.toLower = "nan".toList then some .nan
  else none

/-- Underscores stand between digits, or between a base prefix and a digit. -/
def underscoreOK (cs : List Char) : Bool :=
  match (Doubles.sign cs).2 with
  | '0' :: x :: ds =>
    if x.toLower = 'x' then Doubles.underscored (Doubles.hexValue · < 16) true ds
    else Doubles.underscored Char.isDigit true (x :: ds)
  | ds => Doubles.underscored Char.isDigit false ds

/-- A literal, decimal or hexadecimal. -/
def literal (cs : List Char) : Option Double :=
  let (negative, ds) := Doubles.sign cs
  (Doubles.readHex negative ds).or (Doubles.readDecimal cs)

/-- `strconv.ParseFloat(s, 64)`: a literal out of range is an error. -/
def parseFloat (s : String) : Option Double :=
  (special s.toList).or <|
    if s.toList.contains '_' && !underscoreOK s.toList then none
    else match literal (s.toList.filter (· ≠ '_')) with
      | some (.finite negative units) => some (.finite negative units)
      | _ => none

end Go

namespace Jvm

/-- `NaN` and `Infinity`, with a sign or none. -/
def special (cs : List Char) : Option Double :=
  let (negative, name) := Doubles.sign cs
  if name = "Infinity".toList then some (.infinite negative) else if name = "NaN".toList then some .nan else none

def withoutSuffix (cs : List Char) : List Char :=
  if cs.getLast?.any fun c => c.toLower = 'd' || c.toLower = 'f' then cs.dropLast else cs

/-- `Double.parseDouble`, which passes over blanks and control characters around the text. -/
def parseDouble (s : String) : Option Double :=
  let cs := stripped (fun c => c.toNat ≤ 0x20) s.toList
  (special cs).or (Go.literal (withoutSuffix cs))

end Jvm

namespace Py

/-- `str.isspace`. -/
def isSpace (c : Char) : Bool :=
  let n := c.toNat
  (9 ≤ n && n ≤ 13) || (0x1C ≤ n && n ≤ 0x20) || n == 0x85 || n == 0xA0 || n == 0x1680 ||
    (0x2000 ≤ n && n ≤ 0x200A) || n == 0x2028 || n == 0x2029 || n == 0x202F || n == 0x205F || n == 0x3000

/-- The zeros of the decimal digits beyond ASCII. -/
def digitZeros : List Nat := [
  0x660, 0x6F0, 0x7C0, 0x966, 0x9E6, 0xA66, 0xAE6, 0xB66, 0xBE6, 0xC66, 0xCE6, 0xD66, 0xDE6, 0xE50, 0xED0, 0xF20,
  0x1040, 0x1090, 0x17E0, 0x1810, 0x1946, 0x19D0, 0x1A80, 0x1A90, 0x1B50, 0x1BB0, 0x1C40, 0x1C50, 0xA620, 0xA8D0,
  0xA900, 0xA9D0, 0xA9F0, 0xAA50, 0xABF0, 0xFF10, 0x104A0, 0x10D30, 0x11066, 0x110F0, 0x11136, 0x111D0, 0x112F0,
  0x11450, 0x114D0, 0x11650, 0x116C0, 0x11730, 0x118E0, 0x11950, 0x11C50, 0x11D50, 0x11DA0, 0x16A60, 0x16AC0,
  0x16B50, 0x1D7CE, 0x1D7D8, 0x1D7E2, 0x1D7EC, 0x1D7F6, 0x1E140, 0x1E2F0, 0x1E950, 0x1FBF0]

/-- A character beyond ASCII as the ASCII one that numbers are read with. -/
def asciiOf (c : Char) : Char :=
  if c.toNat < 127 then c
  else if isSpace c then ' '
  else match digitZeros.find? fun first => first ≤ c.toNat && c.toNat < first + 10 with
    | some first => Char.ofNat (48 + (c.toNat - first))
    | none => '?'

/-- The characters of a number, without the blanks around it. -/
def numeral (s : String) : List Char :=
  stripped (fun c => (9 ≤ c.toNat && c.toNat ≤ 13) || c == ' ') (s.toList.map asciiOf)

/-- `float(s)`. -/
def float (s : String) : Option Double :=
  let cs := numeral s
  let (negative, name) := Doubles.sign (cs.map Char.toLower)
  if name = "inf".toList ∨ name = "infinity".toList then some (.infinite negative)
  else if name = "nan".toList then some .nan
  else if Doubles.underscored Char.isDigit false cs then Doubles.readDecimal (cs.filter (· ≠ '_'))
  else none

def MAX_STR_DIGITS : Nat := 4300

/-- `int(s)`. -/
def parseInt (s : String) : Option Int :=
  let cs := numeral s
  let ds := cs.filter (· ≠ '_')
  if Doubles.underscored Char.isDigit false cs && decide ((Doubles.sign ds).2.length ≤ MAX_STR_DIGITS) then
    Doubles.integer ds
  else none

example : float " 1_0.5e1\n" = some (.finite false (105 * Doubles.one)) := by decide +kernel

end Py

/-! ### Digits alone -/

section
variable {cs : List Char}

theorem stripped_keeps {blank : Char → Bool} (kept : ∀ c ∈ cs, blank c = false) : stripped blank cs = cs := by
  have first : cs.dropWhile blank = cs := by
    cases cs with
    | nil => rfl
    | cons c cs => rw [List.dropWhile_cons, kept c List.mem_cons_self]; rfl
  have last : cs.reverse.dropWhile blank = cs.reverse := by
    cases reversed : cs.reverse with
    | nil => rfl
    | cons c ds =>
      have member : c ∈ cs := List.mem_reverse.mp (by rw [reversed]; exact List.mem_cons_self)
      rw [List.dropWhile_cons, kept c member]
      rfl
  unfold stripped
  rw [first, last, List.reverse_reverse]

/-- What a digit is not. -/
structure Digit (c : Char) : Prop where
  digit : c.isDigit = true
  lower : c.toLower = c
  control : 0x20 < c.toNat
  ascii : c.toNat < 127
  named : c ≠ '_' ∧ c ≠ 'x' ∧ c ≠ 'd' ∧ c ≠ 'f' ∧ c ≠ 'i' ∧ c ≠ 'n' ∧ c ≠ 'I' ∧ c ≠ 'N' ∧ c ≠ ' '

theorem digit_of {c : Char} (digit : c.isDigit = true) : Digit c := by
  have all : ∀ n : Fin 128, (Char.ofNat n).isDigit = true → (Char.ofNat n).toLower = Char.ofNat n ∧
      0x20 < (Char.ofNat n).toNat ∧ (Char.ofNat n).toNat < 127 ∧
      (Char.ofNat n ≠ '_' ∧ Char.ofNat n ≠ 'x' ∧ Char.ofNat n ≠ 'd' ∧ Char.ofNat n ≠ 'f' ∧ Char.ofNat n ≠ 'i' ∧
        Char.ofNat n ≠ 'n' ∧ Char.ofNat n ≠ 'I' ∧ Char.ofNat n ≠ 'N' ∧ Char.ofNat n ≠ ' ') := by decide
  have same := all ⟨c.toNat, isDigit_ascii digit⟩
  simp only [Char.ofNat_toNat] at same
  obtain ⟨lower, control, ascii, named⟩ := same digit
  exact ⟨digit, lower, control, ascii, named⟩

variable (filled : cs ≠ []) (decimal : ∀ c ∈ cs, c.isDigit = true)
include decimal

theorem digits_lower : cs.map Char.toLower = cs := by
  conv => rhs; rw [← List.map_id cs]
  exact List.map_congr_left fun c member => (digit_of (decimal c member)).lower

theorem digits_not_grouped : cs.contains '_' = false ∧ cs.filter (· ≠ '_') = cs := by
  constructor
  · rw [List.contains_eq_any_beq, List.any_eq_false]
    intro c member same
    exact (digit_of (decimal c member)).named.1 (beq_iff_eq.mp same).symm
  · rw [List.filter_eq_self]
    intro c member
    simpa using (digit_of (decimal c member)).named.1

include filled

/-- Digits are no name that starts with a letter. -/
theorem digits_ne {name : List Char} (letter : name.head?.all (fun c => !c.isDigit) = true) : cs ≠ name := by
  rintro rfl
  cases cs with
  | nil => exact filled rfl
  | cons c cs =>
    rw [List.head?_cons, Option.all_some, decimal c List.mem_cons_self] at letter
    cases letter

theorem digits_unnamed : ¬(cs = "inf".toList ∨ cs = "infinity".toList) ∧ cs ≠ "nan".toList ∧
    cs ≠ "Infinity".toList ∧ cs ≠ "NaN".toList :=
  ⟨not_or.mpr ⟨digits_ne filled decimal (by decide), digits_ne filled decimal (by decide)⟩,
    digits_ne filled decimal (by decide), digits_ne filled decimal (by decide), digits_ne filled decimal (by decide)⟩

theorem digits_not_hex (negative : Bool) : Doubles.readHex negative cs = none := by
  unfold Doubles.readHex
  split
  · rename_i x ds
    have digit := digit_of (decimal x (by simp))
    dsimp only
    rw [if_pos (Or.inl (by rw [digit.lower]; exact digit.named.2.1))]
  · rfl

variable (finite : Rounding.nearest 53 (Nat.ofDigitChars 10 cs 0) < 2 ^ 1024)
include finite

theorem Go.literal_digits :
    Go.literal cs = some (.finite false (Rounding.nearest 53 (Nat.ofDigitChars 10 cs 0) * Doubles.one)) := by
  unfold Go.literal
  rw [Doubles.sign_digits decimal]
  dsimp only
  rw [digits_not_hex filled decimal, Option.none_or, Doubles.readDecimal_digits filled decimal finite]

theorem Go.parseFloat_digits : Go.parseFloat (String.ofList cs) =
    some (.finite false (Rounding.nearest 53 (Nat.ofDigitChars 10 cs 0) * Doubles.one)) := by
  obtain ⟨infinite, nan, -, -⟩ := digits_unnamed filled decimal
  have unnamed : Go.special cs = none := by
    unfold Go.special
    rw [digits_lower decimal, Doubles.sign_digits decimal]
    dsimp only
    rw [if_neg infinite, if_neg nan]
  obtain ⟨plain, whole⟩ := digits_not_grouped decimal
  unfold Go.parseFloat
  rw [String.toList_ofList, unnamed, Option.none_or, plain, Bool.false_and, if_neg Bool.false_ne_true, whole,
    Go.literal_digits filled decimal finite]

theorem Jvm.parseDouble_digits : Jvm.parseDouble (String.ofList cs) =
    some (.finite false (Rounding.nearest 53 (Nat.ofDigitChars 10 cs 0) * Doubles.one)) := by
  have kept : stripped (fun c => decide (c.toNat ≤ 0x20)) cs = cs :=
    stripped_keeps fun c member => decide_eq_false (not_le.mpr (digit_of (decimal c member)).control)
  obtain ⟨-, -, infinite, nan⟩ := digits_unnamed filled decimal
  have unnamed : Jvm.special cs = none := by
    unfold Jvm.special
    rw [Doubles.sign_digits decimal]
    dsimp only
    rw [if_neg infinite, if_neg nan]
  have bare : Jvm.withoutSuffix cs = cs := by
    have last : cs.getLast?.any (fun c => decide (c.toLower = 'd') || decide (c.toLower = 'f')) = false := by
      rw [List.getLast?_eq_some_getLast filled, Option.any_some]
      have digit := digit_of (decimal _ (List.getLast_mem filled))
      rw [digit.lower]
      simp [digit.named.2.2.1, digit.named.2.2.2.1]
    unfold Jvm.withoutSuffix
    rw [last]
    rfl
  unfold Jvm.parseDouble
  rw [String.toList_ofList]
  dsimp only
  rw [kept, unnamed, Option.none_or, bare, Go.literal_digits filled decimal finite]

theorem Py.float_digits : Py.float (String.ofList cs) =
    some (.finite false (Rounding.nearest 53 (Nat.ofDigitChars 10 cs 0) * Doubles.one)) := by
  have ascii : cs.map Py.asciiOf = cs := by
    conv => rhs; rw [← List.map_id cs]
    exact List.map_congr_left fun c member => if_pos (digit_of (decimal c member)).ascii
  have numeral : Py.numeral (String.ofList cs) = cs := by
    unfold Py.numeral
    rw [String.toList_ofList, ascii]
    apply stripped_keeps
    intro c member
    have digit := digit_of (decimal c member)
    have control := digit.control
    simp only [digit.named, Bool.or_eq_false_iff, Bool.and_eq_false_iff, decide_eq_false_iff_not, beq_eq_false_iff_ne,
      ne_eq, not_false_eq_true, and_true]
    omega
  have grouped : ∀ (after : Bool) (ds : List Char), (∀ c ∈ ds, c.isDigit = true) →
      Doubles.underscored Char.isDigit after ds = true := by
    intro after ds
    induction ds generalizing after with
    | nil =>
      intro _
      rw [Doubles.underscored]
    | cons d ds ih =>
      intro decimal
      have other := (digit_of (decimal d List.mem_cons_self)).named.1
      rw [Doubles.underscored]
      · exact ih _ fun c member => decimal c (List.mem_cons_of_mem _ member)
      · intro same _
        exact other same
      · intro _ _ same _
        exact other same
  obtain ⟨-, whole⟩ := digits_not_grouped decimal
  obtain ⟨infinite, nan, -, -⟩ := digits_unnamed filled decimal
  unfold Py.float
  rw [numeral]
  dsimp only
  rw [digits_lower decimal, Doubles.sign_digits decimal]
  dsimp only
  rw [if_neg infinite, if_neg nan, grouped false cs decimal, if_pos rfl, whole,
    Doubles.readDecimal_digits filled decimal finite]

end
end QorechainRdk
