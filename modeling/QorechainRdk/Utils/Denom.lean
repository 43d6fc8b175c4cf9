import QorechainRdk.Lib.Decimals
import QorechainRdk.Utils.Json

/-!
# Display and base units

`utils/denom.ts`.
-/

namespace QorechainRdk

open Js Decimals

def DENOM_EXPONENT : Nat := 6

/-- A display amount is a text or a `number`. -/
inductive QorAmount where
  | text (s : String)
  | number (n : Number)
  deriving DecidableEq, Repr

/-- A base amount is a text or a `bigint`. -/
inductive UqorAmount where
  | text (s : String)
  | bigint (n : Int)
  deriving DecidableEq, Repr

def QorAmount.print : QorAmount → String
  | .text s => s
  | .number n => stringifyNumber n

def QorAmount.read : QorAmount → String
  | .text s => trim s
  | .number n => stringifyNumber n

/-- `replace(/^0+(?=\d)/, "")`: zeros go as long as a digit is left behind them. -/
def dropZerosBeforeDigit : List Char → List Char
  | '0' :: c :: cs => if c.isDigit then dropZerosBeforeDigit (c :: cs) else '0' :: c :: cs
  | cs => cs

/-- `split(".")`: its first part, and the second if there is one. -/
def splitAtPoint (cs : List Char) : List Char × List Char :=
  (cs.takeWhile (· != '.'), ((cs.dropWhile (· != '.')).drop 1).takeWhile (· != '.'))

def qorToUqor (amount : QorAmount) (exponent : Nat := DENOM_EXPONENT) : Except JsError String :=
  let s := amount.read
  if ¬ isDecimal s.toList = true then fail s!"invalid QOR amount: \"{amount.print}\""
  else
    let (whole, frac) := splitAtPoint s.toList
    if exponent < frac.length then
      fail s!"QOR amount \"{amount.print}\" has more than {exponent} fractional digits"
    else
      let combined := dropZerosBeforeDigit (whole ++ frac.rightpad exponent '0')
      .ok (if combined = [] then "0" else String.ofList combined)

/-- `/^\d+$/`. -/
def isDigitString (cs : List Char) : Bool := !cs.isEmpty && cs.all Char.isDigit

def readUqor : UqorAmount → Except JsError Int
  | .bigint n => .ok n
  | .text s =>
    let t := trim s
    if ¬ isDigitString t.toList = true then fail s!"invalid uqor amount: \"{s}\"" else bigInt (.string t)

def uqorToQor (amount : UqorAmount) (exponent : Nat := DENOM_EXPONENT) : Except JsError String := do
  let value ← readUqor amount
  if value < 0 then fail "uqor amount must be non-negative" else do
    let base : Int := 10 ^ exponent
    let whole := value.tdiv base
    let frac := value.tmod base
    if frac = 0 then return toString whole else do
      let fracStr := stripTrailing ((toString frac).toList.leftpad exponent '0')
      return toString whole ++ "." ++ String.ofList fracStr

/-! ### What is written -/

theorem dropZerosBeforeDigit_eq {cs : List Char} (digits : Digits cs) (nonempty : cs ≠ []) :
    dropZerosBeforeDigit cs = stripLeading cs := by
  induction cs with
  | nil => exact absurd rfl nonempty
  | cons c cs ih =>
    by_cases zero : c = '0'
    · subst zero
      cases cs with
      | nil => rfl
      | cons d ds =>
        have tail : Digits (d :: ds) := fun e member => digits e (List.mem_cons_of_mem _ member)
        have drops : stripLeading ('0' :: d :: ds) = stripLeading (d :: ds) := by
          unfold stripLeading
          rw [List.dropWhile_cons_of_pos rfl]
        rw [dropZerosBeforeDigit, if_pos (tail d List.mem_cons_self), ih tail (List.cons_ne_nil d ds), drops]
    · have keeps : dropZerosBeforeDigit (c :: cs) = c :: cs := by
        unfold dropZerosBeforeDigit
        split
        · rename_i same
          exact absurd (List.cons.inj same).1 zero
        · rfl
      rw [keeps, stripLeading, List.dropWhile_cons_of_neg (by simpa using zero)]

theorem trim_of_no_blank {s : String} (none : ∀ c ∈ s.toList, isWhiteSpace c = false) : trim s = s := by
  have kept : ∀ cs : List Char, (∀ c ∈ cs, isWhiteSpace c = false) → cs.dropWhile isWhiteSpace = cs := by
    intro cs none
    cases cs with
    | nil => rfl
    | cons c cs => rw [List.dropWhile_cons_of_neg (by simp [none c List.mem_cons_self])]
  unfold trim
  rw [kept _ none, kept _ (fun c member => none c (List.mem_reverse.mp member)), List.reverse_reverse,
    String.ofList_toList]

section
variable {whole frac : List Char} {s u : String} {e : Nat}

theorem not_blank_of_decimalText {cs : List Char} (h : DecimalText cs whole frac) :
    ∀ c ∈ cs, isWhiteSpace c = false := by
  intro c member
  rcases h.chars c member with digit | rfl
  · exact (digit_facts digit).1
  · rfl

theorem splitAtPoint_eq {cs : List Char} (h : DecimalText cs whole frac) : splitAtPoint cs = (whole, frac) := by
  unfold splitAtPoint
  rw [h.takeWhile, h.dropWhile, List.takeWhile_eq_self_iff.mpr (DecimalText.no_point h.fracDigits)]

/-- The digits with the fraction padded, written canonically. -/
theorem qorToUqor_eq (spells : DecimalText (trim s).toList whole frac) (fits : frac.length ≤ e) :
    qorToUqor (.text s) e = .ok (toString (value (whole ++ frac.rightpad e '0'))) := by
  have digits : Digits (whole ++ frac.rightpad e '0') :=
    spells.wholeDigits.append (spells.fracDigits.append (.zeros _))
  have nonempty : whole ++ frac.rightpad e '0' ≠ [] := by simp [spells.nonempty]
  have written := toDigits_eq_stripLeading digits
  unfold qorToUqor QorAmount.read
  dsimp only
  rw [if_neg (not_not.mpr (isDecimal_iff.mpr ⟨whole, frac, spells⟩)), splitAtPoint_eq spells]
  dsimp only
  rw [if_neg (Nat.not_lt.mpr fits), dropZerosBeforeDigit_eq digits nonempty, ← written,
    if_neg Nat.toDigits_ne_nil, Nat.toString_eq_ofList_toDigits]

theorem qorToUqor_ok_iff :
    qorToUqor (.text s) e = .ok u ↔ ∃ whole frac, DecimalText (trim s).toList whole frac ∧ frac.length ≤ e ∧
      u = toString (value (whole ++ frac.rightpad e '0')) := by
  constructor
  · intro h
    have accepted := h
    unfold qorToUqor QorAmount.read at h
    dsimp only at h
    rw [guard_ok_iff, not_not, isDecimal_iff] at h
    obtain ⟨⟨whole, frac, spells⟩, h⟩ := h
    rw [splitAtPoint_eq spells] at h
    dsimp only at h
    rw [guard_ok_iff, Nat.not_lt] at h
    have fits := h.1
    rw [qorToUqor_eq spells fits] at accepted
    exact ⟨whole, frac, spells, fits, (Except.ok.inj accepted).symm⟩
  · intro h
    obtain ⟨whole, frac, spells, fits, rfl⟩ := h
    exact qorToUqor_eq spells fits

/-- The whole part and the fraction of a value, written as short as possible. -/
theorem uqorToQor_eq (digits : Digits whole) (digits' : Digits frac) :
    uqorToQor (.bigint (value (whole ++ frac))) frac.length = .ok (String.ofList (shortest whole frac)) := by
  have small := value_lt digits'
  have total := value_append whole frac
  have quotient : value (whole ++ frac) / 10 ^ frac.length = value whole := by
    rw [total, Nat.mul_add_div (by positivity), Nat.div_eq_of_lt small, Nat.add_zero]
  have remainder : value (whole ++ frac) % 10 ^ frac.length = value frac := by
    rw [total, Nat.mul_add_mod, Nat.mod_eq_of_lt small]
  have base : (10 : Int) ^ frac.length = ((10 ^ frac.length : Nat) : Int) := by push_cast; rfl
  have text : ∀ n : Nat, (toString (n : Int)).toList = Nat.toDigits 10 n := by
    intro n
    rw [show toString (n : Int) = toString n from rfl, Nat.toString_eq_ofList_toDigits, String.toList_ofList]
  have first : toString (value whole : Int) = String.ofList (stripLeading whole) := by
    rw [← toDigits_eq_stripLeading digits]
    rfl
  unfold uqorToQor readUqor
  rw [ok_bind, if_neg (Int.not_lt.mpr (Int.natCast_nonneg _)), base]
  dsimp only
  rw [← Int.ofNat_tdiv, ← Int.ofNat_tmod, quotient, remainder, text, first]
  unfold shortest
  by_cases zero : value frac = 0
  · rw [if_pos (by exact_mod_cast zero), if_pos ((stripTrailing_eq_nil_iff digits').mpr zero), List.append_nil]
    rfl
  · have some : frac ≠ [] := by
      rintro rfl
      exact zero rfl
    rw [if_neg (by exact_mod_cast zero), if_neg (mt (stripTrailing_eq_nil_iff digits').mp zero),
      leftpad_toDigits digits' some]
    apply congrArg Except.ok
    apply String.toList_inj.mp
    simp

/-- A text with no blanks is read as the integer it spells. -/
theorem uqorToQor_text (n e : Nat) : uqorToQor (.text (toString n)) e = uqorToQor (.bigint n) e := by
  have digits := Digits.toDigits n
  have characters : (toString n).toList = Nat.toDigits 10 n := by
    rw [Nat.toString_eq_ofList_toDigits, String.toList_ofList]
  have trimmed : trim (toString n) = toString n := by
    apply trim_of_no_blank
    rw [characters]
    exact fun c member => (digit_facts (digits c member)).1
  have read : readUqor (.text (toString n)) = readUqor (.bigint n) := by
    unfold readUqor
    dsimp only
    rw [trimmed, if_neg, bigInt, stringToBigInt_toString]
    rw [characters, not_not, isDigitString, List.isEmpty_eq_false_iff.mpr Nat.toDigits_ne_nil]
    exact List.all_eq_true.mpr digits
  unfold uqorToQor
  rw [read]

/-- Text to base units and back: the shortest text of the same value. -/
theorem uqorToQor_qorToUqor (spells : DecimalText (trim s).toList whole frac) (fits : frac.length ≤ e)
    (h : qorToUqor (.text s) e = .ok u) : uqorToQor (.text u) e = .ok (String.ofList (shortest whole frac)) := by
  rw [qorToUqor_eq spells fits] at h
  obtain rfl := Except.ok.inj h
  have padded : frac.rightpad e '0' = frac ++ List.replicate (e - frac.length) '0' := rfl
  have length : (frac.rightpad e '0').length = e := by
    rw [List.length_rightpad]
    omega
  have written := uqorToQor_eq spells.wholeDigits (spells.fracDigits.append (.zeros (e - frac.length)))
  rw [← padded, length] at written
  rw [uqorToQor_text, written]
  unfold shortest
  rw [padded, stripTrailing_append_zeros]

/-- Base units to text and back. -/
theorem qorToUqor_uqorToQor (v e : Nat) :
    ∃ t, uqorToQor (.bigint v) e = .ok t ∧ qorToUqor (.text t) e = .ok (toString v) := by
  obtain ⟨whole, frac, digits, digits', rfl, rfl⟩ := exists_digits v e
  refine ⟨_, uqorToQor_eq digits digits', ?_⟩
  have spells := DecimalText.shortest digits digits'
  have trimmed : trim (String.ofList (shortest whole frac)) = String.ofList (shortest whole frac) := by
    apply trim_of_no_blank
    rw [String.toList_ofList]
    exact not_blank_of_decimalText spells
  have fits : (stripTrailing frac).length ≤ frac.length := (List.rdropWhile_prefix _ _).length_le
  rw [qorToUqor_eq (by rw [trimmed, String.toList_ofList]; exact spells) fits, rightpad_stripTrailing,
    value_append, value_stripLeading digits, ← value_append]

end

/-! ### Nothing is lost -/

/-- A base amount comes back from its text; a text becomes its exact value and comes back shortened; and the texts
refused are those that are no decimal, or have more digits behind the point than the exponent. -/
theorem denom_lossless (e : Nat) :
    (∀ v : Nat, ∃ t, uqorToQor (.bigint v) e = .ok t ∧ uqorToQor (.text (toString v)) e = .ok t ∧
      qorToUqor (.text t) e = .ok (toString v)) ∧
    (∀ s u, qorToUqor (.text s) e = .ok u → ∃ whole frac, ∃ n : Nat, DecimalText (trim s).toList whole frac ∧
      (n : ℚ) = rational whole frac * 10 ^ e ∧ u = toString n ∧
      uqorToQor (.text u) e = .ok (String.ofList (shortest whole frac))) ∧
    (∀ s, (∃ u, qorToUqor (.text s) e = .ok u) ↔
      ∃ whole frac, DecimalText (trim s).toList whole frac ∧ frac.length ≤ e) := by
  refine ⟨?_, ?_, ?_⟩
  · intro v
    obtain ⟨t, there, back⟩ := qorToUqor_uqorToQor v e
    exact ⟨t, there, (uqorToQor_text v e).trans there, back⟩
  · intro s u h
    obtain ⟨whole, frac, spells, fits, same⟩ := qorToUqor_ok_iff.mp h
    exact ⟨whole, frac, _, spells, value_rightpad fits, same, uqorToQor_qorToUqor spells fits h⟩
  · intro s
    constructor
    · intro h
      obtain ⟨u, h⟩ := h
      obtain ⟨whole, frac, spells, fits, -⟩ := qorToUqor_ok_iff.mp h
      exact ⟨whole, frac, spells, fits⟩
    · intro h
      obtain ⟨whole, frac, spells, fits⟩ := h
      exact ⟨_, qorToUqor_eq spells fits⟩

end QorechainRdk
