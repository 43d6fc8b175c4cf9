import Mathlib.Data.List.TakeWhile
import QorechainRdk.Lib.Rounding

/-!
# Doubles and their decimal texts

The magnitude of a double is counted in units of the least positive one. A decimal literal stands for the double
nearest to it, and a double is written with the fewest digits that are read back as it.
-/

namespace Doubles

/-- The units in one. -/
def one : Nat := 2 ^ 1074

/-- The first magnitude that is too large, in units. -/
def limit : Nat := 2 ^ 2098

/-- The units of the double nearest to `n / d`, were there no largest one. -/
def nearest (n d : Nat) : Nat := Rounding.nearestRatio 53 (n * one) d

inductive Double where
  | finite (negative : Bool) (units : Nat)
  | infinite (negative : Bool)
  | nan
  deriving DecidableEq, Repr

/-- The double nearest to a fraction. -/
def ofRatio (negative : Bool) (n d : Nat) : Double :=
  if nearest n d < limit then .finite negative (nearest n d) else .infinite negative

def signed (negative : Bool) (n : Nat) : Int := if negative then -(n : Int) else n

/-- A double without its fraction. -/
inductive Whole where
  | int (n : Int)
  | infinite (negative : Bool)
  | nan
  deriving DecidableEq, Repr

def Double.truncate : Double → Whole
  | .finite negative units => .int (signed negative (units / one))
  | .infinite negative => .infinite negative
  | .nan => .nan

/-- The product with a factor of so many units, which is not zero. -/
def Double.scaled (factor : Nat) : Double → Double
  | .finite negative units => ofRatio negative (units * factor) (one * one)
  | .infinite negative => .infinite negative
  | .nan => .nan

/-- The nearest whole number, and between two of them the greater one. -/
def Double.round : Double → Double
  | .finite negative units => .finite negative ((2 * units + one - (if negative then 1 else 0)) / (2 * one) * one)
  | .infinite negative => .infinite negative
  | .nan => .nan

/-! ### Decimal literals -/

/-- `mantissa * 10 ^ exponent`. -/
structure Decimal where
  mantissa : Nat
  exponent : Int
  deriving DecidableEq, Repr

def Decimal.num (d : Decimal) : Nat := d.mantissa * 10 ^ d.exponent.toNat

def Decimal.den (d : Decimal) : Nat := 10 ^ (-d.exponent).toNat

/-- The literal stands for a whole number. -/
def Decimal.Is (d : Decimal) (n : Nat) : Prop := d.num = n * d.den

instance (d : Decimal) (n : Nat) : Decidable (d.Is n) := inferInstanceAs (Decidable (_ = _))

def Decimal.toDouble (negative : Bool) (d : Decimal) : Double := ofRatio negative d.num d.den

def sign : List Char → Bool × List Char
  | '+' :: cs => (false, cs)
  | '-' :: cs => (true, cs)
  | cs => (false, cs)

/-- A number in decimal digits behind a sign. -/
def integer (cs : List Char) : Option Int :=
  let (negative, ds) := sign cs
  if ds.isEmpty || !ds.all Char.isDigit then none else some (signed negative (Nat.ofDigitChars 10 ds 0))

/-- What stands behind the digits: nothing, or `mark` and an exponent. -/
def power (mark : Char) : List Char → Option Int
  | [] => some 0
  | c :: cs => if c.toLower = mark then integer cs else none

/-- Digits with a point in or around them, and what comes after. -/
def pointed (isDigit : Char → Bool) (cs : List Char) : List Char × List Char × List Char :=
  let whole := cs.takeWhile isDigit
  match cs.dropWhile isDigit with
  | '.' :: rest => (whole, rest.takeWhile isDigit, rest.dropWhile isDigit)
  | rest => (whole, [], rest)

/-- A decimal literal without a sign. -/
def Decimal.read (cs : List Char) : Option Decimal :=
  let (whole, fraction, rest) := pointed Char.isDigit cs
  if whole.isEmpty && fraction.isEmpty then none
  else (power 'e' rest).map fun e => ⟨Nat.ofDigitChars 10 (whole ++ fraction) 0, e - fraction.length⟩

/-- A decimal literal with a sign or none. -/
def readDecimal (cs : List Char) : Option Double :=
  let (negative, cs) := sign cs
  (Decimal.read cs).map (Decimal.toDouble negative)

/-! ### Other literals -/

/-- The value of a hexadecimal digit. -/
def hexValue (c : Char) : Nat :=
  if c.isDigit then c.toNat - 48 else if 'a' ≤ c.toLower ∧ c.toLower ≤ 'f' then c.toLower.toNat - 87 else 16

/-- `0x`, hexadecimal digits with a point, and the power of two that goes with them. -/
def readHex (negative : Bool) : List Char → Option Double
  | '0' :: x :: cs =>
    let (whole, fraction, rest) := pointed (hexValue · < 16) cs
    if x.toLower ≠ 'x' ∨ (whole = [] ∧ fraction = []) ∨ rest = [] then none
    else (power 'p' rest).map fun p =>
      let m := (whole ++ fraction).foldl (fun n c => n * 16 + hexValue c) 0
      let e : Int := p - 4 * fraction.length
      ofRatio negative (m * 2 ^ e.toNat) (2 ^ (-e).toNat)
  | _ => none

/-- Every underscore stands between two digits; `after` says whether a digit went before. -/
def underscored (isDigit : Char → Bool) : (after : Bool) → List Char → Bool
  | _, [] => true
  | _, ['_'] => false
  | after, '_' :: c :: cs => after && isDigit c && underscored isDigit true cs
  | _, c :: cs => underscored isDigit (isDigit c) cs

/-! ### The shortest text -/

/-- The place of the point before the first digit, counted to the right. -/
def magnitude (units : Nat) : Int :=
  if one ≤ units then (Nat.toDigits 10 (units / one)).length
  else 1 - ((Nat.toDigits 10 ((one - 1) / units)).length : Int)

/-- The fraction `n / d` times `10 ^ e`. -/
def scale (n d : Nat) (e : Int) : Nat × Nat := (n * 10 ^ e.toNat, d * 10 ^ (-e).toNat)

/-- The closest decimal of `k` digits, if it is read back as the double. -/
def withDigits (units k : Nat) : Option Decimal :=
  let e := magnitude units - k
  let (n, d) := scale units one (-e)
  let below : Decimal := ⟨n / d, e⟩
  let above : Decimal := ⟨n / d + 1, e⟩
  let upper := d < 2 * (n % d) ∨ (d = 2 * (n % d) ∧ n / d % 2 = 1)
  [if upper then above else below, if upper then below else above].find? fun c => nearest c.num c.den = units

/-- Seventeen digits are always enough. -/
def shortest (units : Nat) : Decimal :=
  ((List.range 17).findSome? fun k => withDigits units (k + 1)).getD ⟨0, 0⟩

def zeros (n : Nat) : List Char := List.replicate n '0'

/-- The shortest digits, and how many of them stand before the point. -/
def layout (units : Nat) : List Char × Int :=
  let s := shortest units
  let all := Nat.toDigits 10 s.mantissa
  ((all.reverse.dropWhile (· == '0')).reverse, all.length + s.exponent)

/-- The shortest digits without an exponent. -/
def plain (units : Nat) : List Char :=
  let (ds, point) := layout units
  let k : Int := ds.length
  if k ≤ point then ds ++ zeros (point - k).toNat
  else if 0 < point then ds.take point.toNat ++ '.' :: ds.drop point.toNat
  else '0' :: '.' :: (zeros (-point).toNat ++ ds)

/-- `Number::toString` of a double that is neither zero nor negative. -/
def text (units : Nat) : List Char :=
  let (ds, point) := layout units
  if -6 < point ∧ point ≤ 21 then plain units
  else
    let e := point - 1
    let fraction := if ds.length = 1 then [] else '.' :: ds.drop 1
    ds.take 1 ++ (fraction ++ 'e' :: (if e < 0 then '-' else '+') :: Nat.toDigits 10 e.natAbs)

example : text (99999999999999991611392 * one) = "1e+23".toList := by decide +kernel

/-! ### Whole numbers -/

theorem one_pos : 0 < one := by
  rw [one]
  exact pow_pos Nat.two_pos _

theorem limit_eq : limit = 2 ^ 1024 * one := by
  unfold limit one
  rw [← pow_add]

section
variable {n d : Nat} {negative : Bool} {x : Decimal} {cs : List Char}

theorem Decimal.den_pos (x : Decimal) : 0 < x.den := Nat.pow_pos (by decide)

/-- A whole number goes to the nearest one that is a double. -/
theorem nearest_whole (n : Nat) (pos : 0 < d) : nearest (n * d) d = Rounding.nearest 53 n * one := by
  have swapped : n * d * one = n * one * d := Nat.mul_right_comm n d one
  unfold nearest
  rw [swapped, Rounding.nearestRatio_mul pos, one, Rounding.nearest_mul_pow]

theorem ofRatio_whole (pos : 0 < d) (finite : Rounding.nearest 53 n < 2 ^ 1024) :
    ofRatio negative (n * d) d = .finite negative (Rounding.nearest 53 n * one) := by
  unfold ofRatio
  rw [nearest_whole n pos, limit_eq, if_pos ((Nat.mul_lt_mul_right one_pos).mpr finite)]

theorem Decimal.toDouble_whole (whole : x.Is n) (finite : Rounding.nearest 53 n < 2 ^ 1024) :
    x.toDouble negative = .finite negative (Rounding.nearest 53 n * one) := by
  unfold Decimal.toDouble
  rw [whole, ofRatio_whole x.den_pos finite]

theorem truncate_whole : (Double.finite negative (n * one)).truncate = .int (signed negative n) := by
  have quotient : n * one / one = n := Nat.mul_div_cancel n one_pos
  unfold Double.truncate
  dsimp only
  rw [quotient]

theorem nearest_small (small : n < 2 ^ 53) : Rounding.nearest 53 n = n ∧ Rounding.nearest 53 n < 2 ^ 1024 := by
  have same := Rounding.nearest_eq_iff.mpr (Rounding.representable_of_lt small)
  rw [same]
  exact ⟨rfl, small.trans (pow_lt_pow_right₀ Nat.one_lt_two (by omega))⟩

/-- Digits alone stand for the number they spell. -/
theorem Decimal.read_digits (filled : cs ≠ []) (decimal : ∀ c ∈ cs, c.isDigit = true) :
    Decimal.read cs = some ⟨Nat.ofDigitChars 10 cs 0, 0⟩ := by
  have all : cs.takeWhile Char.isDigit = cs := List.takeWhile_eq_self_iff.mpr decimal
  have none_left : cs.dropWhile Char.isDigit = [] := List.dropWhile_eq_nil_iff.mpr decimal
  have some_digit : cs.isEmpty = false := by simpa using filled
  unfold Decimal.read pointed
  rw [none_left, all]
  simp [some_digit, power]

theorem Decimal.is_digits (n : Nat) : Decimal.Is ⟨n, 0⟩ n := by
  unfold Decimal.Is Decimal.num Decimal.den
  simp

theorem sign_digits (decimal : ∀ c ∈ cs, c.isDigit = true) : sign cs = (false, cs) := by
  unfold sign
  split
  · exact absurd (decimal '+' List.mem_cons_self) (by decide)
  · exact absurd (decimal '-' List.mem_cons_self) (by decide)
  · rfl

theorem readDecimal_digits (filled : cs ≠ []) (decimal : ∀ c ∈ cs, c.isDigit = true)
    (finite : Rounding.nearest 53 (Nat.ofDigitChars 10 cs 0) < 2 ^ 1024) :
    readDecimal cs = some (.finite false (Rounding.nearest 53 (Nat.ofDigitChars 10 cs 0) * one)) := by
  unfold readDecimal
  rw [sign_digits decimal]
  dsimp only
  rw [Decimal.read_digits filled decimal, Option.map_some, Decimal.toDouble_whole (Decimal.is_digits _) finite]

end
end Doubles
