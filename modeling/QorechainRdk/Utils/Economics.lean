import QorechainRdk.Utils.DenomSdks

/-!
# The cost of a rollup

`utils/economics.ts` and the economics of `utils.go`: the burn is taken from the committed stake by exact arithmetic.
-/

namespace QorechainRdk

open Js Decimals

/-- `DEFAULT_RDK_PARAMS.rollupCreationBurnRate`. -/
def DEFAULT_ROLLUP_CREATION_BURN_RATE : String := "0.01"

structure CreationCost where
  stakeUqor : String
  burnUqor : String
  netStakeUqor : String
  totalRequiredUqor : String
  burnRate : String
  deriving DecidableEq, Repr

def toBigInt (value : UqorAmount) (label : String) : Except JsError Int :=
  match value with
  | .bigint n => .ok n
  | .text s =>
    let t := trim s
    if ¬ isDigitString t.toList = true then fail s!"{label} must be a non-negative integer string, got \"{s}\""
    else bigInt (.string t)

/-- The quotient of two `bigint`s is rounded towards zero. -/
def mulDecimalFloor (amount : Int) (decimal : String) : Except JsError Int :=
  if ¬ isDecimal (trim decimal).toList = true then fail s!"invalid decimal: \"{decimal}\"" else do
    let (whole, frac) := splitAtPoint (trim decimal).toList
    let scale : Int := 10 ^ frac.length
    let joined := String.ofList (whole ++ frac)
    let numerator ← bigInt (.string (if joined = "" then "0" else joined))
    return (amount * numerator).tdiv scale

def creationCost (stake burn : Int) (burnRate : String) : CreationCost where
  stakeUqor := toString stake
  burnUqor := toString burn
  netStakeUqor := toString (stake - burn)
  totalRequiredUqor := toString stake
  burnRate := burnRate

def estimateCreationCost (stakeUqor : UqorAmount) (burnRate : Option String := none) :
    Except JsError CreationCost := do
  let stake ← toBigInt stakeUqor "stakeUqor"
  let burnRate := burnRate.getD DEFAULT_ROLLUP_CREATION_BURN_RATE
  let burn ← mulDecimalFloor stake burnRate
  return creationCost stake burn burnRate

namespace Go

/-- `SetString(s, 10)` of a text without a sign. -/
def setString (cs : List Char) : Option Int := (digits 10 cs).map Int.ofNat

def mulDecimalFloor (amount : Int) (decimal : String) : Except JsError Int :=
  let d := trimSpace decimal
  if ¬ isDecimal d.toList = true then fail s!"invalid decimal: {quote decimal}"
  else
    let (whole, frac) := cutAtPoint d.toList
    let scale : Int := 10 ^ frac.length
    let numStr := if whole ++ frac = [] then ['0'] else whole ++ frac
    match setString numStr with
    | some numerator => .ok ((amount * numerator).tdiv scale)
    | none => fail s!"invalid decimal: {quote decimal}"

def readStake (stakeUqor : String) : Except JsError Int :=
  let t := trimSpace stakeUqor
  let wrong := s!"stakeUqor must be a non-negative integer string, got {quote stakeUqor}"
  if ¬ isDigitString t.toList = true then fail wrong
  else match setString t.toList with
    | some stake => .ok stake
    | none => fail wrong

/-- An empty rate means the default. -/
def estimateCreationCost (stakeUqor burnRate : String) : Except JsError CreationCost := do
  let stake ← readStake stakeUqor
  let burnRate := if burnRate = "" then DEFAULT_ROLLUP_CREATION_BURN_RATE else burnRate
  let burn ← mulDecimalFloor stake burnRate
  return creationCost stake burn burnRate

end Go

/-! ### The exact floor -/

/-- What a rate takes of an amount: the quotient of whole numbers, which is the floor of the exact product. -/
def shareOf (amount : Int) (whole frac : List Char) : Int := ⌊(amount : ℚ) * rational whole frac⌋

section
variable {amount larger n m : Int} {decimal s : String} {cs whole frac : List Char}

theorem tdiv_eq_shareOf (nonneg : 0 ≤ amount) :
    (amount * (value (whole ++ frac) : Int)).tdiv (10 ^ frac.length) = shareOf amount whole frac := by
  have product : 0 ≤ amount * (value (whole ++ frac) : Int) := Int.mul_nonneg nonneg (Int.natCast_nonneg _)
  have scale : (10 : Int) ^ frac.length = ((10 ^ frac.length : Nat) : Int) := by push_cast; rfl
  rw [Int.tdiv_eq_ediv_of_nonneg product, scale, ← Rat.floor_intCast_div_natCast, shareOf, rational_eq]
  push_cast
  rw [mul_div_assoc]

theorem shareOf_mono (le : amount ≤ m) : shareOf amount whole frac ≤ shareOf m whole frac := by
  apply Int.floor_le_floor
  apply mul_le_mul_of_nonneg_right (by exact_mod_cast le)
  rw [rational_eq]
  positivity

/-- A rate up to one takes a part of the amount. -/
theorem shareOf_bounds (nonneg : 0 ≤ amount) (rate : rational whole frac ≤ 1) :
    0 ≤ shareOf amount whole frac ∧ shareOf amount whole frac ≤ amount := by
  have lower : (0 : ℚ) ≤ amount := by exact_mod_cast nonneg
  have positive : 0 ≤ rational whole frac := by
    rw [rational_eq]
    positivity
  constructor
  · exact Int.floor_nonneg.mpr (mul_nonneg lower positive)
  · have upper : (amount : ℚ) * rational whole frac ≤ amount := mul_le_of_le_one_right lower rate
    have floor := Int.floor_le_floor upper
    rwa [Int.floor_intCast] at floor

theorem bigInt_digits (nonempty : cs ≠ []) (digits : Digits cs) :
    bigInt (.string (String.ofList cs)) = .ok (value cs : Int) := by
  rw [bigInt, stringToBigInt_decimal nonempty digits]
  rfl

theorem setString_digits (nonempty : cs ≠ []) (decimal : Digits cs) : Go.setString cs = some (value cs : Int) := by
  unfold Go.setString
  rw [digits_decimal nonempty decimal]
  rfl

theorem mulDecimalFloor_eq (text : DecimalText (trim decimal).toList whole frac) (nonneg : 0 ≤ amount) :
    mulDecimalFloor amount decimal = .ok (shareOf amount whole frac) := by
  have some : whole ++ frac ≠ [] := by simp [text.nonempty]
  have joined : String.ofList (whole ++ frac) ≠ "" := by simpa using some
  unfold mulDecimalFloor
  rw [if_neg (not_not.mpr (isDecimal_iff.mpr ⟨whole, frac, text⟩)), splitAtPoint_eq text]
  dsimp only
  rw [if_neg joined, bigInt_digits some text.digits, ok_bind, tdiv_eq_shareOf nonneg]
  rfl

theorem goMulDecimalFloor_eq (text : DecimalText (Go.trimSpace decimal).toList whole frac) (nonneg : 0 ≤ amount) :
    Go.mulDecimalFloor amount decimal = .ok (shareOf amount whole frac) := by
  have some : whole ++ frac ≠ [] := by simp [text.nonempty]
  unfold Go.mulDecimalFloor
  dsimp only
  rw [if_neg (not_not.mpr (isDecimal_iff.mpr ⟨whole, frac, text⟩)), cutAtPoint_eq text]
  dsimp only
  rw [if_neg some, setString_digits some text.digits]
  dsimp only
  rw [tdiv_eq_shareOf nonneg]

/-- The burn is the floor of the exact product, if the rate is a decimal at all. -/
theorem mulDecimalFloor_ok_iff (nonneg : 0 ≤ amount) : mulDecimalFloor amount decimal = .ok n ↔
    ∃ whole frac, DecimalText (trim decimal).toList whole frac ∧ n = shareOf amount whole frac := by
  constructor
  · intro h
    have read := h
    unfold mulDecimalFloor at read
    rw [guard_ok_iff, not_not, isDecimal_iff] at read
    obtain ⟨⟨whole, frac, text⟩, -⟩ := read
    rw [mulDecimalFloor_eq text nonneg] at h
    exact ⟨whole, frac, text, (Except.ok.inj h).symm⟩
  · rintro ⟨whole, frac, text, rfl⟩
    exact mulDecimalFloor_eq text nonneg

theorem goMulDecimalFloor_ok_iff (nonneg : 0 ≤ amount) : Go.mulDecimalFloor amount decimal = .ok n ↔
    ∃ whole frac, DecimalText (Go.trimSpace decimal).toList whole frac ∧ n = shareOf amount whole frac := by
  constructor
  · intro h
    have read := h
    unfold Go.mulDecimalFloor at read
    dsimp only at read
    rw [guard_ok_iff, not_not, isDecimal_iff] at read
    obtain ⟨⟨whole, frac, text⟩, -⟩ := read
    rw [goMulDecimalFloor_eq text nonneg] at h
    exact ⟨whole, frac, text, (Except.ok.inj h).symm⟩
  · rintro ⟨whole, frac, text, rfl⟩
    exact goMulDecimalFloor_eq text nonneg

theorem mulDecimalFloor_mono (nonneg : 0 ≤ amount) (le : amount ≤ larger)
    (first : mulDecimalFloor amount decimal = .ok m) (second : mulDecimalFloor larger decimal = .ok n) : m ≤ n := by
  obtain ⟨whole, frac, text, rfl⟩ := (mulDecimalFloor_ok_iff nonneg).mp first
  rw [mulDecimalFloor_eq text (nonneg.trans le), Except.ok.injEq] at second
  rw [← second]
  exact shareOf_mono le

theorem goMulDecimalFloor_mono (nonneg : 0 ≤ amount) (le : amount ≤ larger)
    (first : Go.mulDecimalFloor amount decimal = .ok m) (second : Go.mulDecimalFloor larger decimal = .ok n) :
    m ≤ n := by
  obtain ⟨whole, frac, text, rfl⟩ := (goMulDecimalFloor_ok_iff nonneg).mp first
  rw [goMulDecimalFloor_eq text (nonneg.trans le), Except.ok.injEq] at second
  rw [← second]
  exact shareOf_mono le

theorem readStake_nonneg (h : Go.readStake s = .ok n) : 0 ≤ n := by
  unfold Go.readStake at h
  dsimp only at h
  rw [guard_ok_iff, not_not, isDigitString_iff] at h
  obtain ⟨⟨some, digits⟩, h⟩ := h
  rw [setString_digits some digits] at h
  obtain rfl := Except.ok.inj h
  exact Int.natCast_nonneg _

/-- The parts of a cost that are told to the user. -/
structure CreationCost.Splits (cost : CreationCost) (stake burn net : Int) : Prop where
  stakeUqor : cost.stakeUqor = toString stake
  burnUqor : cost.burnUqor = toString burn
  netStakeUqor : cost.netStakeUqor = toString net
  burn_nonneg : 0 ≤ burn
  burn_le : burn ≤ stake
  total : burn + net = stake

theorem creationCost_splits (nonneg : 0 ≤ amount) (rate : rational whole frac ≤ 1) (burnRate : String) :
    (creationCost amount (shareOf amount whole frac) burnRate).Splits amount (shareOf amount whole frac)
      (amount - shareOf amount whole frac) where
  stakeUqor := rfl
  burnUqor := rfl
  netStakeUqor := rfl
  burn_nonneg := (shareOf_bounds nonneg rate).1
  burn_le := (shareOf_bounds nonneg rate).2
  total := by omega

theorem estimateCreationCost_splits {stakeUqor : UqorAmount} {burnRate : Option String} {stake : Int}
    (read : toBigInt stakeUqor "stakeUqor" = .ok stake) (nonneg : 0 ≤ stake)
    (text : DecimalText (trim (burnRate.getD DEFAULT_ROLLUP_CREATION_BURN_RATE)).toList whole frac)
    (rate : rational whole frac ≤ 1) :
    ∃ cost net, estimateCreationCost stakeUqor burnRate = .ok cost ∧
      cost.Splits stake (shareOf stake whole frac) net := by
  refine ⟨_, _, ?_, creationCost_splits nonneg rate (burnRate.getD DEFAULT_ROLLUP_CREATION_BURN_RATE)⟩
  unfold estimateCreationCost
  rw [read, ok_bind]
  dsimp only
  rw [mulDecimalFloor_eq text nonneg]
  rfl

theorem goEstimateCreationCost_splits {stakeUqor burnRate : String} {stake : Int}
    (read : Go.readStake stakeUqor = .ok stake)
    (text : DecimalText (Go.trimSpace (if burnRate = "" then DEFAULT_ROLLUP_CREATION_BURN_RATE else burnRate)).toList
      whole frac)
    (rate : rational whole frac ≤ 1) :
    ∃ cost net, Go.estimateCreationCost stakeUqor burnRate = .ok cost ∧
      cost.Splits stake (shareOf stake whole frac) net := by
  have nonneg : 0 ≤ stake := readStake_nonneg read
  refine ⟨_, _, ?_, creationCost_splits nonneg rate
    (if burnRate = "" then DEFAULT_ROLLUP_CREATION_BURN_RATE else burnRate)⟩
  unfold Go.estimateCreationCost
  rw [read, ok_bind]
  dsimp only
  rw [goMulDecimalFloor_eq text nonneg]
  rfl

end

/-- Both clients take the floor of the exact product, which grows with the amount; and a rate up to one parts the
stake into a burn and what is left. -/
theorem burn_exact :
    (∀ (amount : Int) decimal, 0 ≤ amount →
      (∀ n, mulDecimalFloor amount decimal = .ok n ↔
        ∃ whole frac, DecimalText (trim decimal).toList whole frac ∧ n = ⌊(amount : ℚ) * rational whole frac⌋) ∧
      (∀ n, Go.mulDecimalFloor amount decimal = .ok n ↔
        ∃ whole frac, DecimalText (Go.trimSpace decimal).toList whole frac ∧
          n = ⌊(amount : ℚ) * rational whole frac⌋)) ∧
    (∀ (amount larger m n : Int) decimal, 0 ≤ amount → amount ≤ larger →
      (mulDecimalFloor amount decimal = .ok m → mulDecimalFloor larger decimal = .ok n → m ≤ n) ∧
      (Go.mulDecimalFloor amount decimal = .ok m → Go.mulDecimalFloor larger decimal = .ok n → m ≤ n)) ∧
    (∀ (stakeUqor : UqorAmount) (burnRate : Option String) (stake : Int) (whole frac : List Char),
      toBigInt stakeUqor "stakeUqor" = .ok stake → 0 ≤ stake →
      DecimalText (trim (burnRate.getD DEFAULT_ROLLUP_CREATION_BURN_RATE)).toList whole frac →
      rational whole frac ≤ 1 →
      ∃ cost net, estimateCreationCost stakeUqor burnRate = .ok cost ∧
        cost.Splits stake ⌊(stake : ℚ) * rational whole frac⌋ net) ∧
    (∀ (stakeUqor burnRate : String) (stake : Int) (whole frac : List Char),
      Go.readStake stakeUqor = .ok stake →
      DecimalText (Go.trimSpace (if burnRate = "" then DEFAULT_ROLLUP_CREATION_BURN_RATE else burnRate)).toList
        whole frac →
      rational whole frac ≤ 1 →
      ∃ cost net, Go.estimateCreationCost stakeUqor burnRate = .ok cost ∧
        cost.Splits stake ⌊(stake : ℚ) * rational whole frac⌋ net) := by
  refine ⟨?_, ?_, ?_, ?_⟩
  · intro amount decimal nonneg
    exact ⟨fun n => mulDecimalFloor_ok_iff nonneg, fun n => goMulDecimalFloor_ok_iff nonneg⟩
  · intro amount larger m n decimal nonneg le
    exact ⟨mulDecimalFloor_mono nonneg le, goMulDecimalFloor_mono nonneg le⟩
  · intro stakeUqor burnRate stake whole frac read nonneg text rate
    exact estimateCreationCost_splits read nonneg text rate
  · intro stakeUqor burnRate stake whole frac read text rate
    exact goEstimateCreationCost_splits read text rate

end QorechainRdk
