import QorechainRdk.Config.Validate
import QorechainRdk.Tx.Messages
import QorechainRdk.Tx.RoundTrip
import QorechainRdk.Utils.Json

/-!
# The configuration builder

`config/builder.ts`. An override is absent or gives a value, which may be `undefined`.
-/

namespace QorechainRdk

open Js

/-! ### The builder -/

structure SequencerParamsOverrides where
  sequencerAddress : Option (Option String) := none
  sharedSetMinSize : Option (Option Number) := none
  inclusionDelay : Option (Option Number) := none
  priorityFeeShare : Option (Option String) := none
  deriving DecidableEq, Repr

/-- Parameters that are `undefined` are taken for absent. -/
structure Overrides where
  rollupId : Option (Option String) := none
  profile : Option (Option String) := none
  settlement : Option (Option String) := none
  sequencer : Option (Option String) := none
  sequencerParams : Option SequencerParamsOverrides := none
  da : Option (Option String) := none
  proofSystem : Option (Option String) := none
  gasModel : Option (Option String) := none
  vmType : Option (Option String) := none
  blockTimeMs : Option (Option Number) := none
  maxTxPerBlock : Option (Option Number) := none
  challengeWindowSecs : Option (Option Number) := none
  challengeBondUqor : Option (Option String) := none
  maxDaBlobSize : Option (Option Number) := none
  stakeAmountUqor : Option (Option String) := none
  deriving DecidableEq, Repr

structure RollupConfigBuilder where
  config : RollupConfig
  deriving DecidableEq, Repr

structure CreateMsgOpts where
  stakeAmount : Option String := none
  deriving DecidableEq, Repr

structure CreateRollupMsgInput where
  creator : String
  rollupId : Option String
  profile : Option String
  vmType : Option String
  stakeAmount : String
  deriving DecidableEq, Repr

def SequencerParams.merge (held : SequencerParams) (given : SequencerParamsOverrides) : SequencerParams where
  sequencerAddress := given.sequencerAddress.getD held.sequencerAddress
  sharedSetMinSize := given.sharedSetMinSize.getD held.sharedSetMinSize
  inclusionDelay := given.inclusionDelay.getD held.inclusionDelay
  priorityFeeShare := given.priorityFeeShare.getD held.priorityFeeShare

namespace RollupConfigBuilder

/-- Nested `sequencerParams` are merged, not replaced. -/
def set (builder : RollupConfigBuilder) (overrides : Overrides) : RollupConfigBuilder where
  config :=
    let config := builder.config
    { rollupId := overrides.rollupId.getD config.rollupId
      profile := overrides.profile.getD config.profile
      settlement := overrides.settlement.getD config.settlement
      sequencer := overrides.sequencer.getD config.sequencer
      sequencerParams := match overrides.sequencerParams with
        | some given => some ((config.sequencerParams.getD {}).merge given)
        | none => config.sequencerParams
      da := overrides.da.getD config.da
      proofSystem := overrides.proofSystem.getD config.proofSystem
      gasModel := overrides.gasModel.getD config.gasModel
      vmType := overrides.vmType.getD config.vmType
      blockTimeMs := overrides.blockTimeMs.getD config.blockTimeMs
      maxTxPerBlock := overrides.maxTxPerBlock.getD config.maxTxPerBlock
      challengeWindowSecs := overrides.challengeWindowSecs.getD config.challengeWindowSecs
      challengeBondUqor := overrides.challengeBondUqor.getD config.challengeBondUqor
      maxDaBlobSize := overrides.maxDaBlobSize.getD config.maxDaBlobSize
      stakeAmountUqor := overrides.stakeAmountUqor.getD config.stakeAmountUqor }

def get (builder : RollupConfigBuilder) : RollupConfig := builder.config

def validationResult (builder : RollupConfigBuilder) : ValidationResult := validateRollupConfig builder.config

def validate (builder : RollupConfigBuilder) : Except RollupConfigError RollupConfigBuilder := do
  assertValidRollupConfig builder.config
  return builder

def build (builder : RollupConfigBuilder) : Except RollupConfigError RollupConfig := do
  assertValidRollupConfig builder.config
  return builder.config

/-- The stake of the call goes before the one of the configuration. -/
def toCreateMsg (builder : RollupConfigBuilder) (creator : String) (opts : CreateMsgOpts) :
    Except RollupConfigError CreateRollupMsgInput := do
  assertValidRollupConfig builder.config
  let stakeAmount := opts.stakeAmount.or builder.config.stakeAmountUqor
  if falsy stakeAmount then
    throw { errors := [
      "a stake amount is required to build a create message; set stakeAmountUqor or pass " ++
        "opts.stakeAmount (read the minimum from rdk.params())"] }
  return {
    creator
    rollupId := builder.config.rollupId
    profile := builder.config.profile
    vmType := builder.config.vmType
    stakeAmount := stakeAmount.getD "" }

/-- The builder of `initial` after the calls to `set`. -/
def afterSets (initial : RollupConfig) (calls : List Overrides) : RollupConfigBuilder :=
  calls.foldl set { config := initial }

end RollupConfigBuilder

/-- What `createRollupMsg` makes of it: `fromPartial` writes the empty text for a missing one. -/
def CreateRollupMsgInput.message (input : CreateRollupMsgInput) : Except JsError MsgCreateRollup :=
  createRollupMsg input.creator
    { rollupId := input.rollupId.getD ""
      profile := input.profile.getD ""
      vmType := input.vmType.getD ""
      stakeAmount := .string input.stakeAmount }

/-! ### Stakes as texts -/

/-- The number that a text spells in base ten; a sign, and blanks around it, may stand there. -/
def decimalValue (text : String) : Option Int :=
  match ((text.toList.dropWhile isWhiteSpace).reverse.dropWhile isWhiteSpace).reverse with
  | '+' :: ds => (digits 10 ds).map Int.ofNat
  | '-' :: ds => (digits 10 ds).map fun n => -Int.ofNat n
  | ds => (digits 10 ds).map Int.ofNat

theorem digits_letter {c : Char} {base : Nat} (foreign : base ≤ digitValue c) {cs : List Char} (member : c ∈ cs) :
    digits base cs = none := by
  unfold digits
  apply if_pos
  rw [Bool.or_eq_true, List.any_eq_true]
  exact Or.inr ⟨c, member, decide_eq_true foreign⟩

/-- `BigInt` reads a decimal text as what it spells. -/
theorem stringToBigInt_of_decimalValue {text : String} {n : Int} (value : decimalValue text = some n) :
    stringToBigInt text = some n := by
  unfold decimalValue at value
  unfold stringToBigInt
  dsimp only
  generalize ((text.toList.dropWhile isWhiteSpace).reverse.dropWhile isWhiteSpace).reverse = trimmed at value ⊢
  have radix : ∀ (mark : Char) {ds : List Char}, 10 ≤ digitValue mark → digits 10 ('0' :: mark :: ds) = none := by
    intro mark ds foreign
    exact digits_letter foreign (List.mem_cons_of_mem _ List.mem_cons_self)
  split
  · cases value
  · exact absurd value (by simp [radix 'x' (by decide)])
  · exact absurd value (by simp [radix 'X' (by decide)])
  · exact absurd value (by simp [radix 'o' (by decide)])
  · exact absurd value (by simp [radix 'O' (by decide)])
  · exact absurd value (by simp [radix 'b' (by decide)])
  · exact absurd value (by simp [radix 'B' (by decide)])
  · exact value
  · exact value
  · rename_i plus minus
    split at value
    · exact absurd rfl (plus _)
    · exact absurd rfl (minus _)
    · exact value

theorem decimalValue_digits {cs : List Char} {text : String} (characters : text.toList = cs) (nonempty : cs ≠ [])
    (decimal : ∀ c ∈ cs, c.isDigit = true) : decimalValue text = some (Int.ofNat (Nat.ofDigitChars 10 cs 0)) := by
  have reversed : ∀ c ∈ cs.reverse, c.isDigit = true := fun c member => decimal c (List.mem_reverse.mp member)
  unfold decimalValue
  rw [characters, dropWhile_digits decimal, dropWhile_digits reversed, List.reverse_reverse]
  split
  · exact absurd (decimal _ List.mem_cons_self) (by decide)
  · exact absurd (decimal _ List.mem_cons_self) (by decide)
  · rw [digits_decimal nonempty decimal, Option.map_some]

theorem le_ofDigitChars (cs : List Char) (start : Nat) : start ≤ Nat.ofDigitChars 10 cs start := by
  rw [Nat.ofDigitChars_eq_ofDigitChars_zero]
  have grows := Nat.le_mul_of_pos_left start (show 0 < 10 ^ cs.length from Nat.pow_pos (by decide))
  omega

theorem isPositiveIntegerString_value {text : String} (positive : isPositiveIntegerString text = true) :
    ∃ n, decimalValue text = some n ∧ 0 < n := by
  unfold isPositiveIntegerString at positive
  split at positive
  · cases positive
  · rename_i c cs characters
    simp only [Bool.and_eq_true, decide_eq_true_eq, List.all_eq_true] at positive
    obtain ⟨⟨low, high⟩, tail⟩ := positive
    have above : '1'.toNat ≤ c.toNat := UInt32.le_iff_toNat_le.mp low
    have below : c.toNat ≤ '9'.toNat := UInt32.le_iff_toNat_le.mp high
    have first : c.isDigit = true := by
      simp only [Char.isDigit, Bool.and_eq_true, decide_eq_true_eq, ge_iff_le, UInt32.le_iff_toNat_le]
      exact ⟨Nat.le_trans (by decide) above, below⟩
    refine ⟨_, decimalValue_digits characters (List.cons_ne_nil c cs) (List.forall_mem_cons.mpr ⟨first, tail⟩), ?_⟩
    have grows := le_ofDigitChars cs (10 * 0 + (c.toNat - '0'.toNat))
    have one : '1'.toNat = '0'.toNat + 1 := by decide
    rw [Nat.ofDigitChars_cons]
    exact Int.natCast_pos.mpr (by omega)

/-! ### Messages the chain can accept -/

theorem decode_createRollup (message : MsgCreateRollup) :
    MsgCreateRollup.codec.decode (MsgCreateRollup.codec.encode message) = some
      { message with stakeAmount := Protobuf.wrapInt64 message.stakeAmount } :=
  Protobuf.decode_flatten message.run

/-- The wire carries the stake that the text spells, and it is positive. -/
def StakeCarried (input : CreateRollupMsgInput) : Prop :=
  ∃ message read, input.message = .ok message ∧
    MsgCreateRollup.codec.decode (MsgCreateRollup.codec.encode message) = some read ∧
    0 < read.stakeAmount ∧ decimalValue input.stakeAmount = some read.stakeAmount

structure Acceptable (config : RollupConfig) (input : CreateRollupMsgInput) : Prop where
  rollupId : ∃ id, input.rollupId = some id ∧ IdGrammar id
  proofSystem : ∃ settlement proofSystem, config.settlement = some (SettlementParadigm.text settlement) ∧
    config.proofSystem = some (ProofSystem.text proofSystem) ∧ proofSystem ∈ validProofSystems settlement
  sequencer : config.settlement = some SettlementParadigm.based.text →
    config.sequencer = some SequencerMode.based.text
  stake : StakeCarried input

def SpellsStake (text : String) : Prop := ∃ n, decimalValue text = some n ∧ 0 < n ∧ n < 2 ^ 63

theorem stakeCarried_iff {input : CreateRollupMsgInput} : StakeCarried input ↔ SpellsStake input.stakeAmount := by
  unfold StakeCarried SpellsStake CreateRollupMsgInput.message createRollupMsg big
  constructor
  · intro carried
    obtain ⟨message, read, built, same, positive, value⟩ := carried
    obtain ⟨n, number, made⟩ := bind_ok built
    rw [decode_createRollup] at same
    cases made
    cases same
    have spelled := stringToBigInt_of_decimalValue value
    have exact : n = Protobuf.wrapInt64 n := by
      simp only [bigInt, spelled] at number
      exact (Except.ok.inj number).symm
    exact ⟨_, value, positive, by rw [← exact]; exact (isInt64_iff_wrap.mpr exact.symm).2⟩
  · intro spells
    obtain ⟨n, value, positive, small⟩ := spells
    have number : bigInt (.string input.stakeAmount) = .ok n := by
      simp only [bigInt, stringToBigInt_of_decimalValue value]
    have fits : IsInt64 n := ⟨by omega, small⟩
    rw [number]
    refine ⟨_, _, rfl, decode_createRollup _, ?_, ?_⟩
    · show 0 < Protobuf.wrapInt64 n
      rw [fits.wrap]
      exact positive
    · show _ = some (Protobuf.wrapInt64 n)
      rw [fits.wrap]
      exact value

namespace RollupConfigBuilder

variable {builder : RollupConfigBuilder} {creator : String} {opts : CreateMsgOpts}

theorem build_ok_iff {config : RollupConfig} :
    builder.build = .ok config ↔ ValidConfig builder.config ∧ builder.config = config := by
  unfold build
  rw [bind_ok_iff]
  constructor
  · intro built
    obtain ⟨_, valid, same⟩ := built
    exact ⟨assertValidRollupConfig_ok_iff.mp valid, pure_ok_iff.mp same⟩
  · intro built
    obtain ⟨valid, same⟩ := built
    exact ⟨(), assertValidRollupConfig_ok_iff.mpr valid, pure_ok_iff.mpr same⟩

/-- A create message is made of a valid configuration and a stake that is given. -/
theorem toCreateMsg_ok_iff {input : CreateRollupMsgInput} :
    builder.toCreateMsg creator opts = .ok input ↔ ValidConfig builder.config ∧
      ∃ stake, opts.stakeAmount.or builder.config.stakeAmountUqor = some stake ∧ stake ≠ "" ∧
        input = ⟨creator, builder.config.rollupId, builder.config.profile, builder.config.vmType, stake⟩ := by
  unfold toCreateMsg
  rw [bind_ok_iff]
  constructor
  · intro made
    obtain ⟨_, valid, made⟩ := made
    refine ⟨assertValidRollupConfig_ok_iff.mp valid, ?_⟩
    dsimp only at made
    split at made
    · cases made
    · rename_i given
      cases chosen : opts.stakeAmount.or builder.config.stakeAmountUqor with
      | none =>
        rw [chosen] at given
        exact absurd rfl given
      | some stake =>
        rw [chosen] at given made
        refine ⟨stake, rfl, ?_, (pure_ok_iff.mp made).symm⟩
        rintro rfl
        exact given rfl
  · intro made
    obtain ⟨valid, stake, chosen, nonempty, rfl⟩ := made
    refine ⟨(), assertValidRollupConfig_ok_iff.mpr valid, ?_⟩
    have given : ¬ falsy (some stake) = true := fun empty => nonempty (beq_iff_eq.mp empty)
    rw [chosen]
    show (if falsy (some stake) = true then _ else _) = _
    rw [if_neg given]
    rfl

/-- The last call that names a field decides it. -/
theorem afterSets_field {α : Type} {field : RollupConfig → Option α} {given : Overrides → Option (Option α)}
    (step : ∀ builder overrides, field (set builder overrides).config =
      (given overrides).getD (field builder.config)) (initial : RollupConfig) (calls : List Overrides) :
    field (afterSets initial calls).config = (calls.reverse.findSome? given).getD (field initial) := by
  unfold afterSets
  have run : ∀ builder : RollupConfigBuilder, field (calls.foldl set builder).config =
      (calls.reverse.findSome? given).getD (field builder.config) := by
    induction calls with
    | nil =>
      intro builder
      rfl
    | cons overrides calls ih =>
      intro builder
      rw [List.foldl_cons, ih, step, List.reverse_cons, List.findSome?_append]
      cases calls.reverse.findSome? given with
      | none =>
        cases named : given overrides with
        | none => simp [named]
        | some value => simp [named]
      | some value => rfl
  exact run { config := initial }

/-- Validation leaves the stake that is chosen as the only thing to be settled. -/
theorem acceptable_iff_spells :
    (∀ input, builder.toCreateMsg creator opts = .ok input → Acceptable builder.config input) ↔
      (ValidConfig builder.config → ∀ stake, opts.stakeAmount.or builder.config.stakeAmountUqor = some stake →
        stake ≠ "" → SpellsStake stake) := by
  constructor
  · intro accepted valid stake chosen nonempty
    have made : builder.toCreateMsg creator opts = .ok _ :=
      toCreateMsg_ok_iff.mpr ⟨valid, stake, chosen, nonempty, rfl⟩
    have carried := (accepted _ made).stake
    rw [stakeCarried_iff] at carried
    exact carried
  · intro spells input made
    obtain ⟨valid, stake, chosen, nonempty, rfl⟩ := toCreateMsg_ok_iff.mp made
    exact ⟨valid.rollupId, valid.proofSystem, valid.based, stakeCarried_iff.mpr (spells valid stake chosen nonempty)⟩

end RollupConfigBuilder

/-- The stake of the configuration after the calls: the last one set, `undefined` included, or the initial one. -/
def stakeHeld (initial : RollupConfig) (calls : List Overrides) : Option String :=
  (calls.reverse.findSome? Overrides.stakeAmountUqor).getD initial.stakeAmountUqor

/-- A stake given to the call is not checked at all, and the one held is not checked for its size. -/
def StakeFits (held : Option String) : Option String → Prop
  | some stake => stake = "" ∨ SpellsStake stake
  | none => ∀ stake n, held = some stake → decimalValue stake = some n → n < 2 ^ 63

theorem stakeFits_iff {held given : Option String}
    (checked : ∀ stake, held = some stake → isPositiveIntegerString stake = true) :
    StakeFits held given ↔ ∀ stake, given.or held = some stake → stake ≠ "" → SpellsStake stake := by
  unfold StakeFits
  cases given with
  | some text =>
    show text = "" ∨ SpellsStake text ↔ ∀ stake, some text = some stake → stake ≠ "" → SpellsStake stake
    constructor
    · intro fits stake same nonempty
      cases same
      exact fits.resolve_left nonempty
    · intro spells
      exact or_iff_not_imp_left.mpr (spells text rfl)
  | none =>
    show (∀ stake n, held = some stake → decimalValue stake = some n → n < 2 ^ 63) ↔
      ∀ stake, held = some stake → stake ≠ "" → SpellsStake stake
    constructor
    · intro small stake same _
      obtain ⟨n, value, positive⟩ := isPositiveIntegerString_value (checked stake same)
      exact ⟨n, value, positive, small stake n same value⟩
    · intro spells stake n same value
      have nonempty : stake ≠ "" := by
        rintro rfl
        cases checked "" same
      obtain ⟨m, spelled, -, small⟩ := spells stake same nonempty
      rw [value] at spelled
      cases spelled
      exact small

/-- A message that is built is acceptable exactly where its stake, by whichever route it came, fits the wire. -/
theorem toCreateMsg_acceptable_iff (initial : RollupConfig) (calls : List Overrides) (creator : String)
    (opts : CreateMsgOpts) :
    (∀ input, (RollupConfigBuilder.afterSets initial calls).toCreateMsg creator opts = .ok input →
      Acceptable (RollupConfigBuilder.afterSets initial calls).config input) ↔
      ((RollupConfigBuilder.afterSets initial calls).validationResult.valid = true →
        StakeFits (stakeHeld initial calls) opts.stakeAmount) := by
  have held : (RollupConfigBuilder.afterSets initial calls).config.stakeAmountUqor = stakeHeld initial calls :=
    @RollupConfigBuilder.afterSets_field _ RollupConfig.stakeAmountUqor Overrides.stakeAmountUqor
      (fun _ _ => rfl) initial calls
  rw [RollupConfigBuilder.acceptable_iff_spells, RollupConfigBuilder.validationResult, validateRollupConfig_valid_iff,
    ← held]
  apply forall_congr'
  intro valid
  exact (stakeFits_iff valid.stakeAmountUqor).symm

/-- The `defi` preset of a rollup, without a stake. -/
def sampleConfig : RollupConfig where
  rollupId := some "roll-d"
  profile := some "defi"
  settlement := some "zk"
  sequencer := some "dedicated"
  da := some "native"
  proofSystem := some "snark"
  gasModel := some "eip1559"
  vmType := some "evm"
  blockTimeMs := some (.integer 500)
  maxTxPerBlock := some (.integer 10000)

/-- A stake of zero, which the configuration may not hold, passes as an argument and is not even written. -/
theorem zero_stake_passes : ¬ ∀ (initial : RollupConfig) (calls : List Overrides) (creator : String)
    (opts : CreateMsgOpts) (input : CreateRollupMsgInput),
    (RollupConfigBuilder.afterSets initial calls).toCreateMsg creator opts = .ok input →
    Acceptable (RollupConfigBuilder.afterSets initial calls).config input := by
  intro acceptable
  have made : (RollupConfigBuilder.afterSets sampleConfig []).toCreateMsg "qor1c" { stakeAmount := some "0" } =
      .ok ⟨"qor1c", some "roll-d", some "defi", some "evm", "0"⟩ := by decide
  obtain ⟨n, value, positive, -⟩ := stakeCarried_iff.mp (acceptable _ _ _ _ _ made).stake
  have zero : decimalValue "0" = some 0 := by decide
  rw [zero] at value
  cases value
  cases positive

end QorechainRdk
