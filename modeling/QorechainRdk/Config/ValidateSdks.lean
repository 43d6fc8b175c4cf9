import QorechainRdk.Config.Validate
import QorechainRdk.RulesSdks
import QorechainRdk.Utils.DenomSdks

/-!
# The validation of every client

`config.go`, `Validate.java`, `config/validate.rs` and `config/validate.py` beside `config/validate.ts`. The types
differ: Go has texts and takes zero for unset, Java has enumerations that may be null, Rust has enumerations only, and
Python takes what it is given.
-/

namespace QorechainRdk

open Js

inductive ProfileName where
  | defi
  | gaming
  | nft
  | enterprise
  | custom
  deriving DecidableEq, Repr

def ProfileName.text : ProfileName → String
  | .defi => "defi"
  | .gaming => "gaming"
  | .nft => "nft"
  | .enterprise => "enterprise"
  | .custom => "custom"

def PROFILE_NAMES : List ProfileName := [.defi, .gaming, .nft, .enterprise, .custom]

/-! ### The shared checks -/

def quoted (s : String) : String := "\"" ++ s ++ "\""

/-- The errors of an id, with the client's own notion of a blank one, its quotes and its name for the field. -/
def idErrorsWith (quote : String → String) (field : String) (blank : Bool) (id : String) (idError : Option String) :
    List String :=
  if blank then [s!"{field} must be a non-empty string"]
  else
    match idError with
    | some e => [s!"{field} {quote id} {e}"]
    | none => []

def closedErrorsWith (quote : String → String) (field noun : String) (known : Bool) (value : String) : List String :=
  if known then [] else [s!"{field} {quote value} is not a valid {noun}"]

def matrixErrorsWith (quote : String → String) (settlement : Option SettlementParadigm) (proof : Option ProofSystem) :
    List String :=
  match settlement, proof with
  | some settlement, some proof =>
    let expected := ", ".intercalate ((validProofSystems settlement).map ProofSystem.text)
    if isProofCompatible settlement proof then []
    else
      [s!"proof system {quote proof.text} is not compatible with {quote settlement.text} settlement " ++
        s!"(expected one of: {expected})"]
  | _, _ => []

def basedErrors (violated : Bool) : List String :=
  if violated then ["based settlement requires the \"based\" sequencer mode"] else []

/-- The error of a field whose value has to be positive. -/
def boundErrors (field unit : String) (accepted : Bool) : List String :=
  if accepted then [] else [s!"{field} must be a positive integer{unit}"]

def celestiaWarnings (selected : Bool) : List String :=
  if selected then
    ["Celestia data availability is selectable but not yet active on the network; " ++
      "batches targeting it will not be served until it is enabled."]
  else []

/-! ### Go -/

namespace Go

structure SequencerParams where
  sequencerAddress : String := ""
  sharedSetMinSize : Option Int := none
  inclusionDelay : Option Int := none
  priorityFeeShare : String := ""
  deriving DecidableEq, Repr

structure RollupConfig where
  rollupID : String := ""
  profile : String := ""
  settlement : String := ""
  sequencer : String := ""
  sequencerParams : Option SequencerParams := none
  da : String := ""
  proofSystem : String := ""
  gasModel : String := ""
  vmType : String := ""
  blockTimeMs : Int := 0
  maxTxPerBlock : Int := 0
  challengeWindowSecs : Int := 0
  challengeBondUqor : String := ""
  maxDaBlobSize : Int := 0
  stakeAmountUqor : String := ""
  deriving DecidableEq, Repr

def validateRollupConfig (config : RollupConfig) : ValidationResult :=
  let settlement := spelled SettlementParadigm.text SETTLEMENT_PARADIGMS (some config.settlement)
  let proofSystem := spelled ProofSystem.text PROOF_SYSTEMS (some config.proofSystem)
  let idError := rollupIDError (encode config.rollupID)
  let errs :=
    idErrorsWith quote "rollupId" (trimSpace config.rollupID == "") config.rollupID
      (if idError ≠ "" then some idError else none) ++
    closedErrorsWith quote "settlement" "settlement paradigm" settlement.isSome config.settlement ++
    closedErrorsWith quote "sequencer" "sequencer mode"
      (includes SequencerMode.text SEQUENCER_MODES (some config.sequencer)) config.sequencer ++
    closedErrorsWith quote "proofSystem" "proof system" proofSystem.isSome config.proofSystem ++
    closedErrorsWith quote "da" "data-availability backend"
      (includes DABackend.text DA_BACKENDS (some config.da)) config.da ++
    closedErrorsWith quote "gasModel" "gas model" (includes GasModel.text GAS_MODELS (some config.gasModel))
      config.gasModel ++
    closedErrorsWith quote "vmType" "VM type" (isVmType (some config.vmType)) config.vmType ++
    matrixErrorsWith quote settlement proofSystem ++
    basedErrors (config.settlement == SettlementParadigm.based.text && config.sequencer != SequencerMode.based.text) ++
    boundErrors "blockTimeMs" "" (0 < config.blockTimeMs) ++
    boundErrors "maxTxPerBlock" "" (0 < config.maxTxPerBlock) ++
    boundErrors "stakeAmountUqor" " string (base uqor)"
      (config.stakeAmountUqor == "" || isPositiveIntegerString config.stakeAmountUqor) ++
    -- Zero stands for an unset field, and passes.
    boundErrors "challengeWindowSecs" "" (0 ≤ config.challengeWindowSecs) ++
    boundErrors "maxDaBlobSize" " (bytes)" (0 ≤ config.maxDaBlobSize)
  { valid := errs.isEmpty
    errors := errs
    warnings := celestiaWarnings (config.da == DABackend.celestia.text || config.da == DABackend.both.text) }

end Go

/-! ### Rust -/

namespace Rust

structure SequencerParams where
  sequencerAddress : Option String := none
  sharedSetMinSize : Option Int := none
  inclusionDelay : Option Int := none
  priorityFeeShare : Option String := none
  deriving DecidableEq, Repr

structure RollupConfig where
  rollupId : String
  profile : ProfileName
  settlement : SettlementParadigm
  sequencer : SequencerMode
  sequencerParams : Option SequencerParams := none
  da : DABackend
  proofSystem : ProofSystem
  gasModel : GasModel
  vmType : VmType
  blockTimeMs : Int
  maxTxPerBlock : Int
  challengeWindowSecs : Option Int := none
  challengeBondUqor : Option String := none
  maxDaBlobSize : Option Int := none
  stakeAmountUqor : Option String := none
  deriving DecidableEq, Repr

/-- The name of the runtime and its alias are one text. -/
def vmTypeAsStr : VmType → String
  | .evm => "evm"
  | .native => "cosmwasm"
  | .cosmwasm => "cosmwasm"
  | .svm => "svm"
  | .custom => "custom"

def rollupIdError (id : String) : Option String := idError (encode id).length ((encode id).map UInt8.toNat)

def isPositiveIntegerString (value : String) : Bool :=
  let bytes := encode value
  !bytes.isEmpty && bytes.head? != some 0x30 && bytes.all fun b => 0x30 ≤ b && b ≤ 0x39

def validateRollupConfig (config : RollupConfig) : ValidationResult :=
  let errors :=
    idErrorsWith quoted "rollupId" (trim config.rollupId).isEmpty config.rollupId (rollupIdError config.rollupId) ++
    closedErrorsWith quoted "vmType" "VM type" (isVmType (some (vmTypeAsStr config.vmType)))
      (vmTypeAsStr config.vmType) ++
    matrixErrorsWith quoted (some config.settlement) (some config.proofSystem) ++
    basedErrors (config.settlement == .based && config.sequencer != .based) ++
    boundErrors "blockTimeMs" "" (0 < config.blockTimeMs) ++
    boundErrors "maxTxPerBlock" "" (0 < config.maxTxPerBlock) ++
    boundErrors "stakeAmountUqor" " string (base uqor)" (config.stakeAmountUqor.all isPositiveIntegerString) ++
    boundErrors "challengeWindowSecs" "" (config.challengeWindowSecs.all (0 < ·)) ++
    boundErrors "maxDaBlobSize" " (bytes)" (config.maxDaBlobSize.all (0 < ·))
  { valid := errors.isEmpty
    errors
    warnings := celestiaWarnings (config.da == .celestia || config.da == .both) }

end Rust

/-! ### Java -/

namespace Jvm

structure SequencerParams where
  sequencerAddress : Option String := none
  sharedSetMinSize : Option Int := none
  inclusionDelay : Option Int := none
  priorityFeeShare : Option String := none
  deriving DecidableEq, Repr

/-- Every reference may be null. -/
structure RollupConfig where
  rollupId : Option String := none
  profile : Option ProfileName := none
  settlement : Option SettlementParadigm := none
  sequencer : Option SequencerMode := none
  sequencerParams : Option SequencerParams := none
  da : Option DABackend := none
  proofSystem : Option ProofSystem := none
  gasModel : Option GasModel := none
  vmType : Option VmType := none
  blockTimeMs : Int := 0
  maxTxPerBlock : Int := 0
  challengeWindowSecs : Option Int := none
  challengeBondUqor : Option String := none
  maxDaBlobSize : Option Int := none
  stakeAmountUqor : Option String := none
  deriving DecidableEq, Repr

/-- `String.trim` takes every character up to the space away. -/
def trim (s : String) : String := trimBy (fun c => c.toNat ≤ 0x20) s

def wireOrNull {α : Type} (text : α → String) (v : Option α) : String := v.elim "null" text

def validateRollupConfig (config : RollupConfig) : ValidationResult :=
  let id := config.rollupId.getD ""
  let errors :=
    idErrorsWith quoted "rollupId" (config.rollupId.isNone || (trim id).isEmpty) id
      (rollupIdError (some (Utf16.units id.toList))) ++
    closedErrorsWith quoted "settlement" "settlement paradigm" config.settlement.isSome
      (wireOrNull SettlementParadigm.text config.settlement) ++
    closedErrorsWith quoted "sequencer" "sequencer mode" config.sequencer.isSome
      (wireOrNull SequencerMode.text config.sequencer) ++
    closedErrorsWith quoted "proofSystem" "proof system" config.proofSystem.isSome
      (wireOrNull ProofSystem.text config.proofSystem) ++
    closedErrorsWith quoted "da" "data-availability backend" config.da.isSome (wireOrNull DABackend.text config.da) ++
    closedErrorsWith quoted "gasModel" "gas model" config.gasModel.isSome "null" ++
    closedErrorsWith quoted "vmType" "VM type" (config.vmType.any fun vm => isVmType (some vm.text))
      (wireOrNull VmType.text config.vmType) ++
    matrixErrorsWith quoted config.settlement config.proofSystem ++
    basedErrors (config.settlement == some .based && config.sequencer != some .based) ++
    boundErrors "blockTimeMs" "" (0 < config.blockTimeMs) ++
    boundErrors "maxTxPerBlock" "" (0 < config.maxTxPerBlock) ++
    boundErrors "stakeAmountUqor" " string (base uqor)" (config.stakeAmountUqor.all isPositiveIntegerString) ++
    boundErrors "challengeWindowSecs" "" (config.challengeWindowSecs.all (0 < ·)) ++
    boundErrors "maxDaBlobSize" " (bytes)" (config.maxDaBlobSize.all (0 < ·))
  { valid := errors.isEmpty
    errors
    warnings := celestiaWarnings (config.da == some .celestia || config.da == some .both) }

end Jvm

/-! ### Python -/

namespace Py

structure SequencerParams where
  sequencerAddress : Option String := none
  sharedSetMinSize : Option Number := none
  inclusionDelay : Option Number := none
  priorityFeeShare : Option String := none
  deriving DecidableEq, Repr

/-- A member of an enumeration and its text are equal, and a number that is no integer is left as it is. -/
structure RollupConfig where
  rollupId : String
  profile : String
  settlement : String
  sequencer : String
  da : String
  proofSystem : String
  gasModel : String
  vmType : String
  blockTimeMs : Number
  maxTxPerBlock : Number
  sequencerParams : Option SequencerParams := none
  challengeWindowSecs : Option Number := none
  challengeBondUqor : Option String := none
  maxDaBlobSize : Option Number := none
  stakeAmountUqor : Option String := none
  deriving DecidableEq, Repr

def rollupIdError (id : String) : Option String := idError (Js.encode id).length ((Js.encode id).map UInt8.toNat)

/-- `$` also matches before a last newline. -/
def isPositiveIntegerString (value : String) : Bool :=
  QorechainRdk.isPositiveIntegerString value ||
    (value.toList.getLast? == some '\n' &&
      QorechainRdk.isPositiveIntegerString (String.ofList value.toList.dropLast))

def validateRollupConfig (config : RollupConfig) : ValidationResult :=
  let settlement := spelled SettlementParadigm.text SETTLEMENT_PARADIGMS (some config.settlement)
  let proofSystem := spelled ProofSystem.text PROOF_SYSTEMS (some config.proofSystem)
  let errors :=
    idErrorsWith quoted "rollup_id" (config.rollupId == "" || strip config.rollupId == "") config.rollupId
      (rollupIdError config.rollupId) ++
    closedErrorsWith quoted "settlement" "settlement paradigm" settlement.isSome config.settlement ++
    closedErrorsWith quoted "sequencer" "sequencer mode"
      (includes SequencerMode.text SEQUENCER_MODES (some config.sequencer)) config.sequencer ++
    closedErrorsWith quoted "proof_system" "proof system" proofSystem.isSome config.proofSystem ++
    closedErrorsWith quoted "da" "data-availability backend"
      (includes DABackend.text DA_BACKENDS (some config.da)) config.da ++
    closedErrorsWith quoted "gas_model" "gas model" (includes GasModel.text GAS_MODELS (some config.gasModel))
      config.gasModel ++
    closedErrorsWith quoted "vm_type" "VM type" (isVmType (some config.vmType)) config.vmType ++
    matrixErrorsWith quoted settlement proofSystem ++
    basedErrors (settlement == some .based && config.sequencer != SequencerMode.based.text) ++
    boundErrors "block_time_ms" "" (isPositiveInteger config.blockTimeMs) ++
    boundErrors "max_tx_per_block" "" (isPositiveInteger config.maxTxPerBlock) ++
    boundErrors "stake_amount_uqor" " string (base uqor)" (config.stakeAmountUqor.all isPositiveIntegerString) ++
    boundErrors "challenge_window_secs" "" (config.challengeWindowSecs.all isPositiveInteger) ++
    boundErrors "max_da_blob_size" " (bytes)" (config.maxDaBlobSize.all isPositiveInteger)
  { valid := errors.isEmpty
    errors
    warnings := celestiaWarnings (config.da == DABackend.celestia.text || config.da == DABackend.both.text) }

end Py

end QorechainRdk
