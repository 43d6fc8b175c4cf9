import QorechainRdk.Rules

/-!
# Rollup configurations and their validation

`config/enums.ts`, `config/matrix.ts`, `config/types.ts` and `config/validate.ts`. A field holds any text, for a
caller need not keep to the closed sets, and `none` is `undefined`, which an override may put into every field.
-/

namespace QorechainRdk

open Js

/-! ### The closed sets -/

inductive SettlementParadigm where
  | optimistic
  | zk
  | based
  | sovereign
  deriving DecidableEq, Repr

def SettlementParadigm.text : SettlementParadigm → String
  | .optimistic => "optimistic"
  | .zk => "zk"
  | .based => "based"
  | .sovereign => "sovereign"

def SETTLEMENT_PARADIGMS : List SettlementParadigm := [.optimistic, .zk, .based, .sovereign]

inductive SequencerMode where
  | dedicated
  | shared
  | based
  deriving DecidableEq, Repr

def SequencerMode.text : SequencerMode → String
  | .dedicated => "dedicated"
  | .shared => "shared"
  | .based => "based"

def SEQUENCER_MODES : List SequencerMode := [.dedicated, .shared, .based]

inductive ProofSystem where
  | fraud
  | snark
  | stark
  | none
  deriving DecidableEq, Repr

def ProofSystem.text : ProofSystem → String
  | .fraud => "fraud"
  | .snark => "snark"
  | .stark => "stark"
  | .none => "none"

def PROOF_SYSTEMS : List ProofSystem := [.fraud, .snark, .stark, .none]

inductive DABackend where
  | native
  | celestia
  | both
  deriving DecidableEq, Repr

def DABackend.text : DABackend → String
  | .native => "native"
  | .celestia => "celestia"
  | .both => "both"

def DA_BACKENDS : List DABackend := [.native, .celestia, .both]

inductive GasModel where
  | standard
  | eip1559
  | flat
  | subsidized
  deriving DecidableEq, Repr

def GasModel.text : GasModel → String
  | .standard => "standard"
  | .eip1559 => "eip1559"
  | .flat => "flat"
  | .subsidized => "subsidized"

def GAS_MODELS : List GasModel := [.standard, .eip1559, .flat, .subsidized]

inductive VmType where
  | evm
  | native
  | svm
  | custom
  | cosmwasm
  deriving DecidableEq, Repr

def VmType.text : VmType → String
  | .evm => "evm"
  | .native => "native"
  | .svm => "svm"
  | .custom => "custom"
  | .cosmwasm => "cosmwasm"

/-- The advertised ones; `cosmwasm` is accepted besides them. -/
def VM_TYPES : List VmType := [.evm, .native, .svm, .custom]

def ACCEPTED_VM_TYPES : List VmType := VM_TYPES ++ [.cosmwasm]

/-- The value of a closed set that a field spells. -/
def spelled {α : Type} (text : α → String) (values : List α) (held : Option String) : Option α :=
  values.find? fun value => held == some (text value)

def includes {α : Type} (text : α → String) (values : List α) (held : Option String) : Bool :=
  (spelled text values held).isSome

def isVmType (value : Option String) : Bool := includes VmType.text ACCEPTED_VM_TYPES value

/-! ### The compatibility matrix -/

def SETTLEMENT_PROOF_MATRIX : SettlementParadigm → List ProofSystem
  | .optimistic => [.fraud]
  | .zk => [.snark, .stark]
  | .based => [.none]
  | .sovereign => [.none]

def validProofSystems (settlement : SettlementParadigm) : List ProofSystem := SETTLEMENT_PROOF_MATRIX settlement

def isProofCompatible (settlement : SettlementParadigm) (proof : ProofSystem) : Bool :=
  (SETTLEMENT_PROOF_MATRIX settlement).contains proof

def requiresBasedSequencer (settlement : Option String) : Bool := settlement == some SettlementParadigm.based.text

/-! ### The configuration -/

structure SequencerParams where
  sequencerAddress : Option String := none
  sharedSetMinSize : Option Number := none
  inclusionDelay : Option Number := none
  priorityFeeShare : Option String := none
  deriving DecidableEq, Repr

structure RollupConfig where
  rollupId : Option String
  profile : Option String
  settlement : Option String
  sequencer : Option String
  sequencerParams : Option SequencerParams := none
  da : Option String
  proofSystem : Option String
  gasModel : Option String
  vmType : Option String
  blockTimeMs : Option Number
  maxTxPerBlock : Option Number
  challengeWindowSecs : Option Number := none
  challengeBondUqor : Option String := none
  maxDaBlobSize : Option Number := none
  stakeAmountUqor : Option String := none
  deriving DecidableEq, Repr

structure ValidationResult where
  valid : Bool
  errors : List String
  warnings : List String
  deriving DecidableEq, Repr

/-- `^[1-9][0-9]*$` -/
def isPositiveIntegerString (value : String) : Bool :=
  match value.toList with
  | [] => false
  | c :: cs => ('1' ≤ c && c ≤ '9') && cs.all Char.isDigit

/-- How a template prints a field. -/
def printed (held : Option String) : String := held.getD "undefined"

def rollupIdErrors (rollupId : Option String) : List String :=
  let id := rollupId.getD ""
  if falsy rollupId ∨ id.toList.all isWhiteSpace then ["rollupId must be a non-empty string"]
  else
    match rollupIdError id with
    | some idError => [s!"rollupId \"{id}\" {idError}"]
    | none => []

/-- The error of a field that has to spell a value of a closed set. -/
def closedErrors (field noun : String) (known : Bool) (held : Option String) : List String :=
  let value := printed held
  if known then [] else [s!"{field} \"{value}\" is not a valid {noun}"]

def matrixErrors (settlement proofSystem : Option String) : List String :=
  match spelled SettlementParadigm.text SETTLEMENT_PARADIGMS settlement,
    spelled ProofSystem.text PROOF_SYSTEMS proofSystem with
  | some paradigm, some proof =>
    let expected := ", ".intercalate ((validProofSystems paradigm).map ProofSystem.text)
    let given := printed proofSystem
    let held := printed settlement
    if isProofCompatible paradigm proof then []
    else
      [s!"proof system \"{given}\" is not compatible with \"{held}\" settlement (expected one of: {expected})"]
  | _, _ => []

def isPositiveInteger : Number → Bool
  | .integer n => 0 < n
  | .other _ => false

/-- The error of a field that has to be present and a positive integer. -/
def requiredErrors (message : String) (held : Option Number) : List String :=
  if held.any isPositiveInteger then [] else [message]

/-- The error of a field that may be missing. -/
def optionalErrors {α : Type} (message : String) (accepts : α → Bool) (held : Option α) : List String :=
  if held.all accepts then [] else [message]

def validateRollupConfig (config : RollupConfig) : ValidationResult :=
  let errors :=
    rollupIdErrors config.rollupId ++
    closedErrors "settlement" "settlement paradigm"
      (includes SettlementParadigm.text SETTLEMENT_PARADIGMS config.settlement) config.settlement ++
    closedErrors "sequencer" "sequencer mode"
      (includes SequencerMode.text SEQUENCER_MODES config.sequencer) config.sequencer ++
    closedErrors "proofSystem" "proof system"
      (includes ProofSystem.text PROOF_SYSTEMS config.proofSystem) config.proofSystem ++
    closedErrors "da" "data-availability backend"
      (includes DABackend.text DA_BACKENDS config.da) config.da ++
    closedErrors "gasModel" "gas model" (includes GasModel.text GAS_MODELS config.gasModel) config.gasModel ++
    closedErrors "vmType" "VM type" (isVmType config.vmType) config.vmType ++
    matrixErrors config.settlement config.proofSystem ++
    (if requiresBasedSequencer config.settlement ∧ config.sequencer ≠ some SequencerMode.based.text then
      ["based settlement requires the \"based\" sequencer mode"] else []) ++
    requiredErrors "blockTimeMs must be a positive integer" config.blockTimeMs ++
    requiredErrors "maxTxPerBlock must be a positive integer" config.maxTxPerBlock ++
    optionalErrors "stakeAmountUqor must be a positive integer string (base uqor)" isPositiveIntegerString
      config.stakeAmountUqor ++
    optionalErrors "challengeWindowSecs must be a positive integer" isPositiveInteger
      config.challengeWindowSecs ++
    optionalErrors "maxDaBlobSize must be a positive integer (bytes)" isPositiveInteger config.maxDaBlobSize
  let warnings :=
    if config.da = some DABackend.celestia.text ∨ config.da = some DABackend.both.text then
      ["Celestia data availability is selectable but not yet active on the network; " ++
        "batches targeting it will not be served until it is enabled."]
    else []
  { valid := errors.isEmpty, errors, warnings }

structure RollupConfigError where
  errors : List String
  deriving DecidableEq, Repr

def RollupConfigError.message (err : RollupConfigError) : String :=
  "Invalid rollup configuration:\n- " ++ "\n- ".intercalate err.errors

def assertValidRollupConfig (config : RollupConfig) : Except RollupConfigError Unit :=
  let result := validateRollupConfig config
  if !result.valid then .error { errors := result.errors } else .ok ()

/-! ### What is accepted -/

/-- The chain's rules on a configuration, as far as they are checked before the fee is paid. -/
structure ValidConfig (config : RollupConfig) : Prop where
  rollupId : ∃ id, config.rollupId = some id ∧ IdGrammar id
  proofSystem : ∃ settlement proofSystem, config.settlement = some (SettlementParadigm.text settlement) ∧
    config.proofSystem = some (ProofSystem.text proofSystem) ∧ proofSystem ∈ validProofSystems settlement
  sequencer : ∃ sequencer, config.sequencer = some (SequencerMode.text sequencer)
  based : config.settlement = some SettlementParadigm.based.text →
    config.sequencer = some SequencerMode.based.text
  da : ∃ da, config.da = some (DABackend.text da)
  gasModel : ∃ gasModel, config.gasModel = some (GasModel.text gasModel)
  vmType : ∃ vmType, config.vmType = some (VmType.text vmType)
  blockTimeMs : ∃ n, config.blockTimeMs = some (.integer n) ∧ 0 < n
  maxTxPerBlock : ∃ n, config.maxTxPerBlock = some (.integer n) ∧ 0 < n
  stakeAmountUqor : ∀ stake, config.stakeAmountUqor = some stake → isPositiveIntegerString stake = true
  challengeWindowSecs : ∀ secs, config.challengeWindowSecs = some secs → ∃ n, secs = .integer n ∧ 0 < n
  maxDaBlobSize : ∀ size, config.maxDaBlobSize = some size → ∃ n, size = .integer n ∧ 0 < n

section
variable {α : Type} {text : α → String} {values : List α}

theorem spelled_text {held : Option String} {value : α} (found : spelled text values held = some value) :
    held = some (text value) := by
  have same := List.find?_some found
  exact beq_iff_eq.mp same

theorem includes_iff (all : ∀ value : α, value ∈ values) (held : Option String) :
    includes text values held = true ↔ ∃ value, held = some (text value) := by
  unfold includes
  rw [Option.isSome_iff_exists]
  constructor
  · intro found
    obtain ⟨value, found⟩ := found
    exact ⟨value, spelled_text found⟩
  · intro given
    obtain ⟨value, rfl⟩ := given
    apply Option.isSome_iff_exists.mp
    rw [spelled, List.find?_isSome]
    exact ⟨value, all value, beq_self_eq_true _⟩

theorem closedErrors_nil {field noun : String} {known : Bool} {held : Option String} :
    closedErrors field noun known held = [] ↔ known = true := by
  unfold closedErrors
  cases known with
  | false => simp
  | true => simp

end

theorem settlement_spelled (settlement : SettlementParadigm) :
    spelled SettlementParadigm.text SETTLEMENT_PARADIGMS (some settlement.text) = some settlement := by
  cases settlement with
  | optimistic => decide
  | zk => decide
  | based => decide
  | sovereign => decide

theorem proofSystem_spelled (proof : ProofSystem) :
    spelled ProofSystem.text PROOF_SYSTEMS (some proof.text) = some proof := by
  cases proof with
  | fraud => decide
  | snark => decide
  | stark => decide
  | none => decide

theorem matrixErrors_nil_iff {settlement : SettlementParadigm} {proof : ProofSystem} :
    matrixErrors (some settlement.text) (some proof.text) = [] ↔ proof ∈ validProofSystems settlement := by
  unfold matrixErrors
  rw [settlement_spelled, proofSystem_spelled]
  show (if isProofCompatible settlement proof then [] else _) = [] ↔ _
  rw [← List.contains_iff_mem]
  by_cases compatible : isProofCompatible settlement proof = true
  · rw [if_pos compatible]
    exact iff_of_true rfl compatible
  · rw [if_neg compatible]
    exact iff_of_false (List.cons_ne_nil _ _) compatible

theorem lowerOrDigit_visible {c : Char} (h : LowerOrDigit c) : isWhiteSpace c = false := by
  have all : ∀ n : Fin 128, LowerOrDigit (Char.ofNat n) → isWhiteSpace (Char.ofNat n) = false := by decide
  have ascii : c.toNat < 128 :=
    Nat.lt_succ_of_le (UInt32.le_iff_toNat_le.mp (Char.utf8Size_eq_one_iff.mp (lowerOrDigit_ascii h)))
  have same := all ⟨c.toNat, ascii⟩
  simp only [Char.ofNat_toNat] at same
  exact same h

theorem rollupIdErrors_nil_iff {rollupId : Option String} :
    rollupIdErrors rollupId = [] ↔ ∃ id, rollupId = some id ∧ IdGrammar id := by
  unfold rollupIdErrors
  dsimp only
  constructor
  · intro clear
    split at clear
    · cases clear
    · rename_i given
      cases rollupId with
      | none => exact absurd (Or.inl rfl) given
      | some id =>
        refine ⟨id, rfl, rollupIdError_none_iff.mp ?_⟩
        cases wrong : rollupIdError id with
        | none => rfl
        | some idError =>
          rw [Option.getD_some, wrong] at clear
          cases clear
  · intro given
    obtain ⟨id, rfl, grammar⟩ := given
    have clear := rollupIdError_none_iff.mpr grammar
    obtain ⟨first, rest, characters, start, -⟩ := grammar
    have visible : ¬ (falsy (some id) = true ∨ (id.toList.all isWhiteSpace) = true) := by
      rw [characters, List.all_cons, lowerOrDigit_visible start]
      intro missing
      rcases missing with empty | blank
      · have none : id = "" := beq_iff_eq.mp empty
        rw [none] at characters
        cases characters
      · cases blank
    rw [Option.getD_some, if_neg visible, clear]

theorem isPositiveInteger_iff {value : Number} :
    isPositiveInteger value = true ↔ ∃ n, value = .integer n ∧ 0 < n := by
  cases value with
  | integer n => simp [isPositiveInteger]
  | other json => simp [isPositiveInteger]

theorem requiredErrors_nil_iff {message : String} {held : Option Number} :
    requiredErrors message held = [] ↔ ∃ n, held = some (.integer n) ∧ 0 < n := by
  unfold requiredErrors
  cases held with
  | none => simp
  | some value => simp [isPositiveInteger_iff]

theorem optionalErrors_nil_iff {α : Type} {message : String} {accepts : α → Bool} {held : Option α} :
    optionalErrors message accepts held = [] ↔ ∀ value, held = some value → accepts value = true := by
  unfold optionalErrors
  cases held with
  | none => simp
  | some value => simp

theorem basedErrors_nil_iff {settlement sequencer : Option String} {message : String} :
    (if requiresBasedSequencer settlement ∧ sequencer ≠ some SequencerMode.based.text then [message] else []) = [] ↔
      (settlement = some SettlementParadigm.based.text → sequencer = some SequencerMode.based.text) := by
  have required : requiresBasedSequencer settlement = true ↔ settlement = some SettlementParadigm.based.text :=
    beq_iff_eq
  rw [← required]
  by_cases both : requiresBasedSequencer settlement = true ∧ sequencer ≠ some SequencerMode.based.text
  · rw [if_pos both]
    exact iff_of_false (List.cons_ne_nil _ _) (fun based => both.2 (based both.1))
  · rw [if_neg both]
    exact iff_of_true rfl (fun based => not_not.mp (not_and.mp both based))

/-- Validation passes a configuration exactly where it keeps every rule. -/
theorem validateRollupConfig_valid_iff {config : RollupConfig} :
    (validateRollupConfig config).valid = true ↔ ValidConfig config := by
  have settlements := @includes_iff _ SettlementParadigm.text SETTLEMENT_PARADIGMS (by intro v; cases v <;> decide)
  have sequencers := @includes_iff _ SequencerMode.text SEQUENCER_MODES (by intro v; cases v <;> decide)
  have proofs := @includes_iff _ ProofSystem.text PROOF_SYSTEMS (by intro v; cases v <;> decide)
  have backends := @includes_iff _ DABackend.text DA_BACKENDS (by intro v; cases v <;> decide)
  have gasModels := @includes_iff _ GasModel.text GAS_MODELS (by intro v; cases v <;> decide)
  have vmTypes := @includes_iff _ VmType.text ACCEPTED_VM_TYPES (by intro v; cases v <;> decide)
  unfold validateRollupConfig
  dsimp only
  rw [List.isEmpty_iff]
  simp only [List.append_eq_nil_iff, and_assoc]
  constructor
  · intro clear
    obtain ⟨rollupId, settlement, sequencer, proof, da, gasModel, vmType, matrix, based, blockTimeMs,
      maxTxPerBlock, stake, window, blob⟩ := clear
    obtain ⟨settlement, held⟩ := (settlements _).mp (closedErrors_nil.mp settlement)
    obtain ⟨proof, given⟩ := (proofs _).mp (closedErrors_nil.mp proof)
    rw [held, given] at matrix
    exact {
      rollupId := rollupIdErrors_nil_iff.mp rollupId
      proofSystem := ⟨settlement, proof, held, given, matrixErrors_nil_iff.mp matrix⟩
      sequencer := (sequencers _).mp (closedErrors_nil.mp sequencer)
      based := basedErrors_nil_iff.mp based
      da := (backends _).mp (closedErrors_nil.mp da)
      gasModel := (gasModels _).mp (closedErrors_nil.mp gasModel)
      vmType := (vmTypes _).mp (closedErrors_nil.mp vmType)
      blockTimeMs := requiredErrors_nil_iff.mp blockTimeMs
      maxTxPerBlock := requiredErrors_nil_iff.mp maxTxPerBlock
      stakeAmountUqor := optionalErrors_nil_iff.mp stake
      challengeWindowSecs := fun secs given => isPositiveInteger_iff.mp (optionalErrors_nil_iff.mp window secs given)
      maxDaBlobSize := fun size given => isPositiveInteger_iff.mp (optionalErrors_nil_iff.mp blob size given) }
  · intro valid
    obtain ⟨settlement, proof, held, given, compatible⟩ := valid.proofSystem
    have matrix : matrixErrors config.settlement config.proofSystem = [] := by
      rw [held, given]
      exact matrixErrors_nil_iff.mpr compatible
    refine ⟨rollupIdErrors_nil_iff.mpr valid.rollupId, ?_, ?_, ?_, ?_, ?_, ?_, matrix,
      basedErrors_nil_iff.mpr valid.based, requiredErrors_nil_iff.mpr valid.blockTimeMs,
      requiredErrors_nil_iff.mpr valid.maxTxPerBlock, optionalErrors_nil_iff.mpr valid.stakeAmountUqor, ?_, ?_⟩
    · exact closedErrors_nil.mpr ((settlements _).mpr ⟨settlement, held⟩)
    · exact closedErrors_nil.mpr ((sequencers _).mpr valid.sequencer)
    · exact closedErrors_nil.mpr ((proofs _).mpr ⟨proof, given⟩)
    · exact closedErrors_nil.mpr ((backends _).mpr valid.da)
    · exact closedErrors_nil.mpr ((gasModels _).mpr valid.gasModel)
    · exact closedErrors_nil.mpr ((vmTypes _).mpr valid.vmType)
    · apply optionalErrors_nil_iff.mpr
      intro secs given
      exact isPositiveInteger_iff.mpr (valid.challengeWindowSecs secs given)
    · apply optionalErrors_nil_iff.mpr
      intro size given
      exact isPositiveInteger_iff.mpr (valid.maxDaBlobSize size given)

theorem assertValidRollupConfig_ok_iff {config : RollupConfig} :
    assertValidRollupConfig config = .ok () ↔ ValidConfig config := by
  rw [← validateRollupConfig_valid_iff]
  unfold assertValidRollupConfig
  cases valid : (validateRollupConfig config).valid with
  | false => simp [valid]
  | true => simp [valid]

end QorechainRdk
