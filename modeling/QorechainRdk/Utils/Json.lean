import QorechainRdk.Lib.Rounding
import QorechainRdk.Utils.Js

/-!
# Parsed JSON

What `JSON.parse` gives, and `String` and `Number` of it. A `number` is a double: a literal goes to the nearest
one.
-/

namespace QorechainRdk

namespace Js

inductive Json where
  | null
  | bool (b : Bool)
  | number (n : Number)
  | string (s : String)
  | array (items : List Json)
  | object (fields : List (String × Json))

mutual

/-- `String(value)`. -/
def Json.toText : Json → String
  | .null => "null"
  | .bool b => toString b
  | .number n => stringifyNumber n
  | .string s => s
  | .array items => ",".intercalate (itemTexts items)
  | .object _ => "[object Object]"

def itemTexts : List Json → List String
  | [] => []
  | .null :: items => "" :: itemTexts items
  | item :: items => item.toText :: itemTexts items

end

/-! ### Numbers -/

def trim (s : String) : String :=
  String.ofList ((s.toList.dropWhile isWhiteSpace).reverse.dropWhile isWhiteSpace).reverse

/-- The double nearest to an integer. -/
def toDouble (n : Int) : Int := n.sign * Rounding.nearest 53 n.natAbs

/-- The nearest double is finite. -/
def isFinite (n : Int) : Bool := decide ((toDouble n).natAbs < 2 ^ 1024)

/-- `Number` of a text, where it is finite. -/
def stringToNumber (s : String) : Option Number :=
  match stringToBigInt s with
  | some n => if isFinite n then some (.integer (toDouble n)) else none
  | none => ((Doubles.readDecimal (trim s).toList).map ofDouble).filter isFiniteNumber

/-- A number without its fraction. -/
def wholePart : Number → Doubles.Whole
  | .integer n => .int n
  | .other text =>
    if text = "Infinity" then .infinite false
    else if text = "-Infinity" then .infinite true
    else ((Doubles.readDecimal text.toList).map Doubles.Double.truncate).getD .nan

/-- `Number(value)`, where it is finite. -/
def Json.toNumber : Json → Option Number
  | .null => some (.integer 0)
  | .bool b => some (.integer (if b then 1 else 0))
  | .number (.integer n) => some (.integer n)
  | .number (.other text) => if isFiniteNumber (.other text) then some (.other text) else none
  | .string s => stringToNumber s
  | .array items => stringToNumber (Json.array items).toText
  | .object _ => none

/-! ### Decimal texts -/

theorem isDigit_ascii {c : Char} (h : c.isDigit = true) : c.toNat < 128 := by
  simp only [Char.isDigit, Bool.and_eq_true, decide_eq_true_iff] at h
  have upper : c.toNat ≤ 57 := UInt32.le_iff_toNat_le.mp h.2
  omega

theorem digit_facts {c : Char} (h : c.isDigit = true) :
    isWhiteSpace c = false ∧ digitValue c < 10 ∧ digitValue c = c.toNat - '0'.toNat := by
  have all : ∀ n : Fin 128, (Char.ofNat n).isDigit = true → isWhiteSpace (Char.ofNat n) = false ∧
      digitValue (Char.ofNat n) < 10 ∧ digitValue (Char.ofNat n) = (Char.ofNat n).toNat - '0'.toNat := by
    decide
  have same := all ⟨c.toNat, isDigit_ascii h⟩
  simp only [Char.ofNat_toNat] at same
  exact same h

theorem dropWhile_digits {cs : List Char} (decimal : ∀ c ∈ cs, c.isDigit = true) :
    cs.dropWhile isWhiteSpace = cs := by
  cases cs with
  | nil => rfl
  | cons c cs =>
    rw [List.dropWhile_cons, (digit_facts (decimal c List.mem_cons_self)).1]
    rfl

theorem digits_decimal {cs : List Char} (nonempty : cs ≠ []) (decimal : ∀ c ∈ cs, c.isDigit = true) :
    digits 10 cs = some (Nat.ofDigitChars 10 cs 0) := by
  have short : cs.any (fun c => 10 ≤ digitValue c) = false := by
    rw [List.any_eq_false]
    intro c member
    have value := (digit_facts (decimal c member)).2.1
    simpa using value
  have empty : cs.isEmpty = false := by
    rw [List.isEmpty_eq_false_iff]
    exact nonempty
  have fold : ∀ (ds : List Char) (start : Nat), (∀ c ∈ ds, c.isDigit = true) →
      ds.foldl (fun n c => n * 10 + digitValue c) start = Nat.ofDigitChars 10 ds start := by
    intro ds
    induction ds with
    | nil =>
      intro start _
      rw [Nat.ofDigitChars_nil]
      rfl
    | cons d ds ih =>
      intro start decimal
      rw [List.foldl_cons, Nat.ofDigitChars_cons, ih _ fun c member => decimal c (List.mem_cons_of_mem _ member),
        (digit_facts (decimal d List.mem_cons_self)).2.2, Nat.mul_comm]
  unfold digits
  rw [empty, short, fold cs 0 decimal]
  rfl

/-- No letter and no sign stands in front of a text of decimal digits. -/
theorem stringToBigInt_decimal {cs : List Char} (nonempty : cs ≠ []) (decimal : ∀ c ∈ cs, c.isDigit = true) :
    stringToBigInt (String.ofList cs) = some (Int.ofNat (Nat.ofDigitChars 10 cs 0)) := by
  have reversed : ∀ c ∈ cs.reverse, c.isDigit = true := fun c member => decimal c (List.mem_reverse.mp member)
  have value := digits_decimal nonempty decimal
  have first : ∀ c ds, cs = c :: ds → c.isDigit = true := by
    rintro c ds rfl
    exact decimal c List.mem_cons_self
  have second : ∀ c d ds, cs = c :: d :: ds → d.isDigit = true := by
    rintro c d ds rfl
    exact decimal d (List.mem_cons_of_mem _ List.mem_cons_self)
  unfold stringToBigInt
  simp only [String.toList_ofList, dropWhile_digits decimal, dropWhile_digits reversed, List.reverse_reverse]
  split
  · exact absurd rfl nonempty
  · exact absurd (second _ _ _ rfl) (by decide)
  · exact absurd (second _ _ _ rfl) (by decide)
  · exact absurd (second _ _ _ rfl) (by decide)
  · exact absurd (second _ _ _ rfl) (by decide)
  · exact absurd (second _ _ _ rfl) (by decide)
  · exact absurd (second _ _ _ rfl) (by decide)
  · exact absurd (first _ _ rfl) (by decide)
  · exact absurd (first _ _ rfl) (by decide)
  · rw [value]
    rfl

theorem stringToBigInt_toString (n : Nat) : stringToBigInt (toString n) = some (n : Int) := by
  rw [Nat.toString_eq_ofList_toDigits, stringToBigInt_decimal Nat.toDigits_ne_nil]
  · rw [Nat.ofDigitChars_ten_toDigits]
    rfl
  · intro c member
    exact Nat.isDigit_of_mem_toDigits (by decide) (by decide) member

theorem toDouble_nat (n : Nat) : toDouble n = Rounding.nearest 53 n := by
  unfold toDouble
  cases n with
  | zero => rfl
  | succ n =>
    rw [Int.natAbs_natCast, Int.sign_eq_one_of_pos (by omega), Int.one_mul]

theorem stringToNumber_toString {n : Nat} (small : n < 2 ^ 64) :
    stringToNumber (toString n) = some (.integer (Rounding.nearest 53 n)) := by
  have finite : isFinite n = true := by
    unfold isFinite
    rw [toDouble_nat, Int.natAbs_natCast, decide_eq_true_iff]
    have bound := Rounding.nearest_lt (p := 53) small
    omega
  unfold stringToNumber
  rw [stringToBigInt_toString]
  dsimp only
  rw [finite, if_pos rfl, toDouble_nat]

end Js
end QorechainRdk
