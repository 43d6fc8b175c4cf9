import QorechainRdk.Utils.Economics

/-!
# The cost of a rollup in 128 bits

`utils/economics.rs`. An operation on `u128` that overflows panics in a debug build and wraps around in a release
build; neither has a result here.
-/

namespace QorechainRdk

open Js Decimals

namespace Rust

def checkedU128 (v : Int) : Option Nat := if 0 ≤ v ∧ v < 2 ^ 128 then some v.toNat else none

/-- `s.parse::<u128>()` of a text of digits. -/
def parseU128 (cs : List Char) : Option Nat := if value cs < 2 ^ 128 then some (value cs) else none

def toU128 (text label : String) : Except JsError Nat :=
  let t := (trim text).toList
  let wrong := s!"{label} must be a non-negative integer string, got \"{text}\""
  if ¬ isDigitString t = true then fail wrong
  else match parseU128 t with
    | some n => .ok n
    | none => fail wrong

/-- The length of the fraction is cut to 32 bits before the power is taken. -/
def mulDecimalFloor (amount : Nat) (decimal : String) : Option (Except JsError Nat) :=
  let d := (trim decimal).toList
  let (whole, frac) := cutAtPoint d
  let wrong := s!"invalid decimal: \"{decimal}\""
  if ¬ partsAreDigits d = true then some (fail wrong)
  else do
    let scale ← checkedU128 (10 ^ (frac.length % 2 ^ 32))
    match parseU128 (whole ++ frac) with
    | none => some (fail wrong)
    | some numerator => do
      let product ← checkedU128 (amount * numerator)
      return .ok (product / scale)

def estimateCreationCost (stakeUqor : String) (burnRate : Option String) : Option (Except JsError CreationCost) :=
  match toU128 stakeUqor "stakeUqor" with
  | .error e => some (.error e)
  | .ok stake => do
    let rate := burnRate.getD DEFAULT_ROLLUP_CREATION_BURN_RATE
    match ← mulDecimalFloor stake rate with
    | .error e => return .error e
    | .ok burn =>
      let net ← checkedU128 (stake - burn)
      return .ok {
        stakeUqor := toString stake
        burnUqor := toString burn
        netStakeUqor := toString net
        totalRequiredUqor := toString stake
        burnRate := rate }

end Rust

/-- No operation overflows, and a burn that is returned is the one of `utils/economics.ts`. -/
structure RustBurnSound (stakeUqor rate : String) (stake : Nat) : Prop where
  mulDecimalFloor : ∃ r, Rust.mulDecimalFloor stake rate = some r ∧
    ∀ burn : Nat, r = .ok burn → QorechainRdk.mulDecimalFloor stake rate = .ok (burn : Int)
  estimateCreationCost : ∃ r, Rust.estimateCreationCost stakeUqor (some rate) = some r ∧
    ∀ cost, r = .ok cost → ∃ ts, QorechainRdk.estimateCreationCost (.text stakeUqor) (some rate) = .ok ts ∧
      cost.burnUqor = ts.burnUqor

/-- The power of ten fits; and the joined digits are refused, or their product with the stake fits, the power is the
one of the whole fraction as far as the quotient shows, and no more is burned than there is. -/
def BurnFits (stake : Nat) (whole frac : List Char) : Prop :=
  frac.length % 2 ^ 32 ≤ 38 ∧
    (2 ^ 128 ≤ value (whole ++ frac) ∨
      stake * value (whole ++ frac) < 2 ^ 128 ∧
        stake * value (whole ++ frac) / 10 ^ (frac.length % 2 ^ 32) =
          stake * value (whole ++ frac) / 10 ^ frac.length ∧
        stake * value (whole ++ frac) / 10 ^ frac.length ≤ stake)

section
variable {stakeUqor rate s : String} {stake n : Nat} {v : Int} {cs whole frac : List Char}

/-! ### Texts that all three read -/

theorem DecimalText_ne_nil (h : DecimalText cs whole frac) : cs ≠ [] := by
  rcases h.text with ⟨rfl, -⟩ | ⟨-, rfl⟩
  · exact h.nonempty
  · simp

/-- A text that is a decimal under two sets of blanks is the same under both. -/
theorem trim_eq_of_decimals {whole' frac' : List Char} (js : DecimalText (trim s).toList whole frac)
    (go : DecimalText (Go.trimSpace s).toList whole' frac') : Go.trimSpace s = trim s := by
  have solid : ∀ {cs whole frac : List Char}, DecimalText cs whole frac → ∀ c ∈ cs,
      (isWhiteSpace c || Go.isSpace c) = false := by
    intro cs whole frac text c member
    rw [not_blank_of_decimalText text c member, (not_sdkBlank (text.chars c member)).1]
    rfl
  have left : trimBy (fun c => isWhiteSpace c || Go.isSpace c) s = trim s :=
    trimBy_of_solid (fun c _ blank => by rw [blank]; rfl) (DecimalText_ne_nil js) (solid js)
  have right : trimBy (fun c => isWhiteSpace c || Go.isSpace c) s = Go.trimSpace s :=
    trimBy_of_solid (fun c _ blank => by rw [blank, Bool.or_true]) (DecimalText_ne_nil go) (solid go)
  exact right.symm.trans left

/-! ### What each operation needs -/

theorem checkedU128_fits (small : n < 2 ^ 128) : Rust.checkedU128 n = some n := by
  unfold Rust.checkedU128
  rw [if_pos ⟨by omega, by omega⟩, Int.toNat_natCast]

theorem checkedU128_overflows (large : 2 ^ 128 ≤ v) : Rust.checkedU128 v = none :=
  if_neg fun range => absurd range.2 (Int.not_lt.mpr large)

theorem parseU128_fits (small : value cs < 2 ^ 128) : Rust.parseU128 cs = some (value cs) := if_pos small

theorem parseU128_refuses (large : 2 ^ 128 ≤ value cs) : Rust.parseU128 cs = none := if_neg (Nat.not_lt.mpr large)

theorem pow_lt_iff (k : Nat) : 10 ^ k < 2 ^ 128 ↔ k ≤ 38 := by
  constructor
  · intro small
    by_contra large
    have step : 10 ^ 39 ≤ 10 ^ k := Nat.pow_le_pow_right (by decide) (by omega)
    have top : 2 ^ 128 < 10 ^ 39 := by decide
    omega
  · intro fits
    have step : 10 ^ k ≤ 10 ^ 38 := Nat.pow_le_pow_right (by decide) fits
    have top : 10 ^ 38 < 2 ^ 128 := by decide
    omega

section
variable (text : DecimalText (Rust.trim rate).toList whole frac)
include text

/-- Behind the tests of the text: the power, the joined digits and the product. -/
theorem rustMulDecimalFloor_eq : Rust.mulDecimalFloor stake rate =
    (Rust.checkedU128 ((10 ^ (frac.length % 2 ^ 32) : Nat) : Int)).bind fun scale =>
      match Rust.parseU128 (whole ++ frac) with
      | none => some (fail s!"invalid decimal: \"{rate}\"")
      | some numerator => (Rust.checkedU128 ((stake * numerator : Nat) : Int)).bind fun product =>
        some (.ok (product / scale)) := by
  have valid : Rust.partsAreDigits (Rust.trim rate).toList = true :=
    partsAreDigits_iff.mpr (Or.inl (isDecimal_iff.mpr ⟨whole, frac, text⟩))
  unfold Rust.mulDecimalFloor
  dsimp only
  rw [cutAtPoint_eq text, if_neg (not_not.mpr valid)]
  push_cast
  rfl

theorem rustMulDecimalFloor_power (large : ¬ frac.length % 2 ^ 32 ≤ 38) :
    Rust.mulDecimalFloor stake rate = none := by
  have overflow : 2 ^ 128 ≤ 10 ^ (frac.length % 2 ^ 32) := Nat.not_lt.mp (mt (pow_lt_iff _).mp large)
  rw [rustMulDecimalFloor_eq text, checkedU128_overflows (by exact_mod_cast overflow), Option.bind_none]

variable (power : frac.length % 2 ^ 32 ≤ 38)
include power

theorem rustMulDecimalFloor_refuses (large : 2 ^ 128 ≤ value (whole ++ frac)) :
    Rust.mulDecimalFloor stake rate = some (fail s!"invalid decimal: \"{rate}\"") := by
  rw [rustMulDecimalFloor_eq text, checkedU128_fits ((pow_lt_iff _).mpr power), Option.bind_some,
    parseU128_refuses large]

theorem rustMulDecimalFloor_product (small : value (whole ++ frac) < 2 ^ 128)
    (large : 2 ^ 128 ≤ stake * value (whole ++ frac)) : Rust.mulDecimalFloor stake rate = none := by
  rw [rustMulDecimalFloor_eq text, checkedU128_fits ((pow_lt_iff _).mpr power), Option.bind_some,
    parseU128_fits small]
  show (Rust.checkedU128 _).bind _ = none
  rw [checkedU128_overflows (by exact_mod_cast large), Option.bind_none]

theorem rustMulDecimalFloor_quotient (small : value (whole ++ frac) < 2 ^ 128)
    (fits : stake * value (whole ++ frac) < 2 ^ 128) : Rust.mulDecimalFloor stake rate =
      some (.ok (stake * value (whole ++ frac) / 10 ^ (frac.length % 2 ^ 32))) := by
  rw [rustMulDecimalFloor_eq text, checkedU128_fits ((pow_lt_iff _).mpr power), Option.bind_some,
    parseU128_fits small]
  show (Rust.checkedU128 _).bind _ = _
  rw [checkedU128_fits fits, Option.bind_some]

end

theorem shareOf_natCast (amount : Nat) (whole frac : List Char) :
    shareOf amount whole frac = ((amount * value (whole ++ frac) / 10 ^ frac.length : Nat) : Int) := by
  rw [← tdiv_eq_shareOf (Int.natCast_nonneg amount)]
  push_cast
  rw [Int.tdiv_eq_ediv_of_nonneg (by positivity)]

/-! ### Stakes of digits -/

theorem trimBy_of_digits {blank : Char → Bool} (digits : isDigitString s.toList = true)
    (solid : ∀ c : Char, c.isDigit = true → blank c = false) : trimBy blank s = s := by
  obtain ⟨some, digits⟩ := isDigitString_iff.mp digits
  have bare : s.toList = [] ++ (s.toList ++ []) := by simp
  apply String.toList_inj.mp
  exact trimBy_of_split bare (by simp) (by simp) some fun c member => solid c (digits c member)

theorem toU128_digits (digits : isDigitString s.toList = true) (small : value s.toList < 2 ^ 128) (label : String) :
    Rust.toU128 s label = .ok (value s.toList) := by
  have trimmed : Rust.trim s = s := trimBy_of_digits digits fun c digit => (not_sdkBlank (Or.inl digit)).1
  unfold Rust.toU128
  dsimp only
  rw [trimmed, if_neg (not_not.mpr digits), parseU128_fits small]

theorem toBigInt_digits (digits : isDigitString s.toList = true) (label : String) :
    toBigInt (.text s) label = .ok (value s.toList : Int) := by
  have trimmed : trim s = s := trimBy_of_digits digits fun c digit => (digit_facts digit).1
  obtain ⟨some, decimal⟩ := isDigitString_iff.mp digits
  have read := bigInt_digits some decimal
  rw [String.ofList_toList] at read
  unfold toBigInt
  dsimp only
  rw [trimmed, if_neg (not_not.mpr digits), read]

/-! ### The cost -/

theorem rustEstimate_eq (read : Rust.toU128 stakeUqor "stakeUqor" = .ok stake)
    (burned : Rust.mulDecimalFloor stake rate = some (.ok n)) :
    Rust.estimateCreationCost stakeUqor (some rate) =
      (Rust.checkedU128 ((stake : Int) - n)).bind fun net =>
        some (.ok ⟨toString stake, toString n, toString net, toString stake, rate⟩) := by
  unfold Rust.estimateCreationCost
  rw [read]
  dsimp only
  rw [Option.getD_some, burned]
  rfl

theorem rustEstimate_error {e : JsError} (read : Rust.toU128 stakeUqor "stakeUqor" = .ok stake)
    (refused : Rust.mulDecimalFloor stake rate = some (.error e)) :
    Rust.estimateCreationCost stakeUqor (some rate) = some (.error e) := by
  unfold Rust.estimateCreationCost
  rw [read]
  dsimp only
  rw [Option.getD_some, refused]
  rfl

theorem estimate_eq (read : toBigInt (.text stakeUqor) "stakeUqor" = .ok (stake : Int))
    (text : DecimalText (trim rate).toList whole frac) :
    estimateCreationCost (.text stakeUqor) (some rate) =
      .ok (creationCost stake ((stake * value (whole ++ frac) / 10 ^ frac.length : Nat) : Int) rate) := by
  unfold estimateCreationCost
  rw [read, ok_bind]
  dsimp only
  rw [Option.getD_some, mulDecimalFloor_eq text (Int.natCast_nonneg _), shareOf_natCast]
  rfl

/-- Over stakes of digits and rates that the other clients read, Rust neither overflows nor burns another amount
exactly when the burn fits. -/
theorem rustBurnSound_iff (digits : isDigitString stakeUqor.toList = true)
    (stakeFits : value stakeUqor.toList < 2 ^ 128)
    (ts : DecimalText (trim rate).toList whole frac) (go : isDecimal (Go.trimSpace rate).toList = true) :
    RustBurnSound stakeUqor rate (value stakeUqor.toList) ↔ BurnFits (value stakeUqor.toList) whole frac := by
  obtain ⟨whole', frac', goText⟩ := isDecimal_iff.mp go
  have text : DecimalText (Rust.trim rate).toList whole frac := by
    show DecimalText (Go.trimSpace rate).toList whole frac
    rw [trim_eq_of_decimals ts goText]
    exact ts
  have read := toU128_digits digits stakeFits "stakeUqor"
  have burnTs := mulDecimalFloor_eq ts (Int.natCast_nonneg (value stakeUqor.toList))
  have costTs := estimate_eq (toBigInt_digits digits "stakeUqor") ts
  rw [shareOf_natCast] at burnTs
  generalize value stakeUqor.toList = stake at *
  constructor
  · intro sound
    obtain ⟨r, returned, same⟩ := sound.mulDecimalFloor
    obtain ⟨cost, estimated, -⟩ := sound.estimateCreationCost
    have power : frac.length % 2 ^ 32 ≤ 38 := by
      by_contra large
      rw [rustMulDecimalFloor_power text large] at returned
      cases returned
    refine ⟨power, ?_⟩
    by_cases joined : 2 ^ 128 ≤ value (whole ++ frac)
    · exact Or.inl joined
    · have product : stake * value (whole ++ frac) < 2 ^ 128 := by
        by_contra large
        rw [rustMulDecimalFloor_product text power (Nat.not_le.mp joined) (Nat.not_lt.mp large)] at returned
        cases returned
      have quotient := rustMulDecimalFloor_quotient text power (Nat.not_le.mp joined) product
      rw [quotient, Option.some.injEq] at returned
      have burn := same _ returned.symm
      rw [burnTs, Except.ok.injEq, Int.natCast_inj] at burn
      rw [rustEstimate_eq read quotient, ← burn] at estimated
      refine Or.inr ⟨product, burn.symm, ?_⟩
      by_contra more
      have negative : Rust.checkedU128 ((stake : Int) -
          ((stake * value (whole ++ frac) / 10 ^ frac.length : Nat) : Int)) = none :=
        if_neg (by omega)
      rw [negative] at estimated
      cases estimated
  · intro fits
    have power := fits.1
    by_cases joined : 2 ^ 128 ≤ value (whole ++ frac)
    · have refused : Rust.mulDecimalFloor stake rate = _ := rustMulDecimalFloor_refuses text power joined
      constructor
      · refine ⟨_, refused, ?_⟩
        intro burn wrong
        cases wrong
      · refine ⟨_, rustEstimate_error read refused, ?_⟩
        intro cost wrong
        cases wrong
    · obtain ⟨product, right, le⟩ := fits.2.resolve_left joined
      have quotient := rustMulDecimalFloor_quotient text power (Nat.not_le.mp joined) product
      rw [right] at quotient
      have net : ((stake : Int) - ((stake * value (whole ++ frac) / 10 ^ frac.length : Nat) : Int)) =
          ((stake - stake * value (whole ++ frac) / 10 ^ frac.length : Nat) : Int) := by omega
      have rest : stake - stake * value (whole ++ frac) / 10 ^ frac.length < 2 ^ 128 :=
        Nat.lt_of_le_of_lt (Nat.sub_le _ _) stakeFits
      have estimated := rustEstimate_eq read quotient
      rw [net, checkedU128_fits rest, Option.bind_some] at estimated
      constructor
      · refine ⟨_, quotient, ?_⟩
        intro burn same
        rw [burnTs, Except.ok.inj same]
      · refine ⟨_, estimated, ?_⟩
        intro cost same
        rw [← Except.ok.inj same]
        exact ⟨_, costTs, rfl⟩

theorem rustBurnSound_iff_sample :
    RustBurnSound "10000000000" "0.01" (value "10000000000".toList) ↔
      BurnFits (value "10000000000".toList) ['0'] ['0', '1'] := by
  have text : DecimalText (trim "0.01").toList ['0'] ['0', '1'] :=
    ⟨by decide, by simp [Digits], by simp [Digits], Or.inr ⟨by decide, by decide⟩⟩
  exact rustBurnSound_iff (by decide) (by decide) text (by decide)

/-- A burn rate of two takes more than the stake: the subtraction has no result. -/
theorem rate_above_one_unsound : ¬ ∀ stakeUqor rate : String, isDigitString stakeUqor.toList = true →
    value stakeUqor.toList < 2 ^ 128 → isDecimal (trim rate).toList = true →
    isDecimal (Go.trimSpace rate).toList = true → RustBurnSound stakeUqor rate (value stakeUqor.toList) := by
  intro sound
  have five := sound "5" "2" (by decide) (by decide) (by decide) (by decide)
  have none : Rust.estimateCreationCost "5" (some "2") = none := by decide +kernel
  obtain ⟨r, returned, -⟩ := five.estimateCreationCost
  rw [none] at returned
  cases returned

end
end QorechainRdk
