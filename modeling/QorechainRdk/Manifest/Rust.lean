import QorechainRdk.Manifest.Model

/-!
# Manifests in Rust

`manifest.rs` with the derived readers and writers of its types: each name comes once, and a value is of its type.
-/

namespace QorechainRdk

open Js

namespace Rust

inductive Network where
  | testnet
  | mainnet
  deriving DecidableEq, Repr

def Network.asStr : Network → String
  | .testnet => "testnet"
  | .mainnet => "mainnet"

structure RollupManifest where
  schema : String
  version : Nat
  network : Network
  chainId : Option String := none
  endpoints : Option PartialEndpoints := none
  config : RollupConfig
  addresses : Option TextMap := none
  createdAt : Option String := none
  notes : Option (List String) := none

structure ToManifestOptions where
  network : Network := .testnet
  chainId : Option String := none
  endpoints : Option PartialEndpoints := none
  addresses : Option TextMap := none
  createdAt : Option String := none
  notes : Option (List String) := none

def toManifest (config : RollupConfig) (options : ToManifestOptions) : RollupManifest where
  schema := MANIFEST_SCHEMA
  version := 1
  network := options.network
  chainId := options.chainId
  endpoints := options.endpoints
  config
  addresses := options.addresses
  createdAt := options.createdAt
  notes := options.notes

def fromManifest (manifest : RollupManifest) : Except JsError RollupConfig :=
  if manifest.schema ≠ MANIFEST_SCHEMA then wrongSchema else .ok manifest.config

def SequencerParams.toJson (params : SequencerParams) : Json := record [
  ("sequencerAddress", params.sequencerAddress.map .string),
  ("sharedSetMinSize", params.sharedSetMinSize.map fun n => .number (.integer n)),
  ("inclusionDelay", params.inclusionDelay.map fun n => .number (.integer n)),
  ("priorityFeeShare", params.priorityFeeShare.map .string)]

/-- An enumeration is written by its name on the wire. -/
def RollupConfig.toJson (config : RollupConfig) : Json := record [
  ("rollupId", some (.string config.rollupId)),
  ("profile", some (.string config.profile.text)),
  ("settlement", some (.string config.settlement.text)),
  ("sequencer", some (.string config.sequencer.text)),
  ("sequencerParams", config.sequencerParams.map SequencerParams.toJson),
  ("da", some (.string config.da.text)),
  ("proofSystem", some (.string config.proofSystem.text)),
  ("gasModel", some (.string config.gasModel.text)),
  ("vmType", some (.string (vmTypeAsStr config.vmType))),
  ("blockTimeMs", some (.number (.integer config.blockTimeMs))),
  ("maxTxPerBlock", some (.number (.integer config.maxTxPerBlock))),
  ("challengeWindowSecs", config.challengeWindowSecs.map fun n => .number (.integer n)),
  ("challengeBondUqor", config.challengeBondUqor.map .string),
  ("maxDaBlobSize", config.maxDaBlobSize.map fun n => .number (.integer n)),
  ("stakeAmountUqor", config.stakeAmountUqor.map .string)]

def RollupManifest.toJson (manifest : RollupManifest) : Json := record [
  ("schema", some (.string manifest.schema)),
  ("version", some (.number (.integer manifest.version))),
  ("network", some (.string manifest.network.asStr)),
  ("chainId", manifest.chainId.map .string),
  ("endpoints", manifest.endpoints.map fun endpoints => record endpoints.fields),
  ("config", some manifest.config.toJson),
  ("addresses", manifest.addresses.map TextMap.toSortedJson),
  ("createdAt", manifest.createdAt.map .string),
  ("notes", manifest.notes.map textsJson)]

/-- A name that comes twice is refused. -/
def member (name : String) (fs : List (String × Json)) : Except JsError (Option Json) :=
  match Records.under (· == name) fs with
  | [] => .ok none
  | [value] => .ok (some value)
  | _ => fail s!"duplicate field {name}"

def required {α : Type} (read : Json → Except JsError α) (name : String) (fs : List (String × Json)) :
    Except JsError α := do
  match ← member name fs with
  | some value => read value
  | none => fail s!"missing field {name}"

def optional {α : Type} (read : Json → Except JsError α) (name : String) (fs : List (String × Json)) :
    Except JsError (Option α) := do
  match ← member name fs with
  | some .null => return none
  | some value => return some (← read value)
  | none => return none

def readInt (low high : Int) : Json → Except JsError Int
  | .number (.integer n) => if low ≤ n ∧ n < high then .ok n else otherType
  | _ => otherType

def readI64 : Json → Except JsError Int := readInt (-2 ^ 63) (2 ^ 63)

def readU64 : Json → Except JsError Int := readInt 0 (2 ^ 64)

def readU32 (value : Json) : Except JsError Nat := do return (← readInt 0 (2 ^ 32) value).toNat

def readEnum {α : Type} (text : α → String) (values : List α) : Json → Except JsError α
  | .string s =>
    match spelled text values (some s) with
    | some value => .ok value
    | none => otherType
  | _ => otherType

/-- The runtime goes by either of its names. -/
def readVmType : Json → Except JsError VmType
  | .string "evm" => .ok .evm
  | .string "native" => .ok .native
  | .string "cosmwasm" => .ok .native
  | .string "svm" => .ok .svm
  | .string "custom" => .ok .custom
  | _ => otherType

/-- The form of a structure as an array of its fields is not followed. -/
def readStruct {α : Type} (ofFields : List (String × Json) → Except JsError α) : Json → Except JsError α
  | .object fs => ofFields fs
  | _ => otherType

def SequencerParams.ofFields (fs : List (String × Json)) : Except JsError SequencerParams := do
  return {
    sequencerAddress := ← optional stringOf "sequencerAddress" fs
    sharedSetMinSize := ← optional readU64 "sharedSetMinSize" fs
    inclusionDelay := ← optional readU64 "inclusionDelay" fs
    priorityFeeShare := ← optional stringOf "priorityFeeShare" fs }

def RollupConfig.ofFields (fs : List (String × Json)) : Except JsError RollupConfig := do
  return {
    rollupId := ← required stringOf "rollupId" fs
    profile := ← required (readEnum ProfileName.text PROFILE_NAMES) "profile" fs
    settlement := ← required (readEnum SettlementParadigm.text SETTLEMENT_PARADIGMS) "settlement" fs
    sequencer := ← required (readEnum SequencerMode.text SEQUENCER_MODES) "sequencer" fs
    sequencerParams := ← optional (readStruct SequencerParams.ofFields) "sequencerParams" fs
    da := ← required (readEnum DABackend.text DA_BACKENDS) "da" fs
    proofSystem := ← required (readEnum ProofSystem.text PROOF_SYSTEMS) "proofSystem" fs
    gasModel := ← required (readEnum GasModel.text GAS_MODELS) "gasModel" fs
    vmType := ← required readVmType "vmType" fs
    blockTimeMs := ← required readI64 "blockTimeMs" fs
    maxTxPerBlock := ← required readI64 "maxTxPerBlock" fs
    challengeWindowSecs := ← optional readI64 "challengeWindowSecs" fs
    challengeBondUqor := ← optional stringOf "challengeBondUqor" fs
    maxDaBlobSize := ← optional readI64 "maxDaBlobSize" fs
    stakeAmountUqor := ← optional stringOf "stakeAmountUqor" fs }

def endpointsOfFields (fs : List (String × Json)) : Except JsError PartialEndpoints := do
  return {
    rest := ← optional stringOf "rest" fs
    rpc := ← optional stringOf "rpc" fs
    grpc := ← optional stringOf "grpc" fs
    evmRpc := ← optional stringOf "evmRpc" fs }

def readTexts : Json → Except JsError (List String)
  | .array items => textsOf items
  | _ => otherType

def RollupManifest.ofFields (fs : List (String × Json)) : Except JsError RollupManifest := do
  return {
    schema := ← required stringOf "schema" fs
    version := ← required readU32 "version" fs
    network := ← required (readEnum Network.asStr [.testnet, .mainnet]) "network" fs
    chainId := ← optional stringOf "chainId" fs
    endpoints := ← optional (readStruct endpointsOfFields) "endpoints" fs
    config := ← required (readStruct RollupConfig.ofFields) "config" fs
    addresses := ← optional (readStruct (TextMap.read stringOf .empty)) "addresses" fs
    createdAt := ← optional stringOf "createdAt" fs
    notes := ← optional readTexts "notes" fs }

/-- `parse_manifest` looks at the schema already. -/
def RollupManifest.ofJson (value : Json) : Except JsError RollupManifest := do
  let manifest ← readStruct RollupManifest.ofFields value
  if manifest.schema ≠ MANIFEST_SCHEMA then wrongSchema else return manifest

def RollupManifest.toTs (manifest : RollupManifest) : QorechainRdk.RollupManifest where
  schema := some manifest.schema
  version := some (.integer manifest.version)
  network := some manifest.network.asStr
  chainId := manifest.chainId
  endpoints := manifest.endpoints
  config := manifest.config.toTs
  addresses := manifest.addresses
  createdAt := manifest.createdAt
  notes := manifest.notes

/-! ### What Rust writes -/

theorem SequencerParams.toJson_written (params : SequencerParams) : params.toTs.Written params.toJson := by
  have same : params.toJson = record params.toTs.fields := by
    unfold toJson toTs QorechainRdk.SequencerParams.fields
    simp only [Option.map_map]
    rfl
  rw [same]
  exact QorechainRdk.SequencerParams.record_written _

theorem RollupConfig.toJson_written (config : RollupConfig) : config.toTs.Written config.toJson := by
  have params : Option.Rel QorechainRdk.SequencerParams.Written config.toTs.sequencerParams
      (config.sequencerParams.map SequencerParams.toJson) := by
    show Option.Rel _ (config.sequencerParams.map SequencerParams.toTs) _
    cases config.sequencerParams with
    | none => exact .none
    | some params => exact .some params.toJson_written
  refine ⟨_, params, ?_⟩
  have same : config.toJson = record (config.toTs.fields (config.sequencerParams.map SequencerParams.toJson)) := by
    unfold toJson toTs QorechainRdk.RollupConfig.fields
    simp only [Option.map_map]
    rfl
  rw [same]
  exact isRecord_record _

theorem RollupManifest.toJson_written (manifest : RollupManifest) : manifest.toTs.Written manifest.toJson := by
  have endpoints := rel_map PartialEndpoints.record_written manifest.endpoints
  have addresses := rel_map TextMap.toSortedJson_written manifest.addresses
  exact ⟨_, _, _, endpoints, manifest.config.toJson_written, addresses, isRecord_record _⟩

/-! ### What Rust reads -/

section
variable {fs : List (String × Json)} {fields : List (String × Option Json)} {name : String} {value : Option Json}
  {α : Type} {read : Json → Except JsError α} {v : Json} {a : α}

theorem member_eq (spells : Records.Spells fs fields) (distinct : (fields.map Prod.fst).Nodup)
    (listed : (name, value) ∈ fields) : member name fs = .ok value := by
  unfold member
  rw [spells.under_name distinct listed]
  cases value <;> rfl

theorem required_some (found : member name fs = .ok (some v)) (back : read v = .ok a) :
    required read name fs = .ok a := by
  unfold required
  rw [found, ok_bind]
  exact back

theorem optional_none (found : member name fs = .ok none) : optional read name fs = .ok none := by
  unfold optional
  rw [found]
  rfl

theorem optional_some (found : member name fs = .ok (some v)) (solid : v ≠ .null) (back : read v = .ok a) :
    optional read name fs = .ok (some a) := by
  unfold optional
  rw [found, ok_bind]
  cases v with
  | null => exact absurd rfl solid
  | _ => exact congrArg (fun x : Except JsError α => x.map some) back

theorem optional_text {held : Option String} (found : member name fs = .ok (held.map .string)) :
    optional stringOf name fs = .ok held := by
  cases held with
  | none => exact optional_none found
  | some s => exact optional_some found (by simp) rfl

theorem readInt_integer {low high k : Int} (within : low ≤ k ∧ k < high) :
    readInt low high (.number (.integer k)) = .ok k :=
  if_pos within

theorem optional_int {low high : Int} {n : Option Int}
    (found : member name fs = .ok ((n.map Number.integer).map .number))
    (within : ∀ k, n = some k → low ≤ k ∧ k < high) : optional (readInt low high) name fs = .ok n := by
  cases n with
  | none => exact optional_none found
  | some k => exact optional_some found (by simp) (readInt_integer (within k rfl))

theorem optional_struct {ofFields : List (String × Json) → Except JsError α} {β : Type}
    {written : β → Json → Prop} {toTs : α → β} {held : Option β} (found : member name fs = .ok value)
    (rel : Option.Rel written held value)
    (reads : ∀ b v, held = some b → written b v → ∃ inner a, v = .object inner ∧ ofFields inner = .ok a ∧
      toTs a = b) :
    ∃ a, optional (readStruct ofFields) name fs = .ok a ∧ a.map toTs = held := by
  cases rel with
  | none => exact ⟨none, optional_none found, rfl⟩
  | some given =>
    obtain ⟨inner, a, rfl, back, same⟩ := reads _ _ rfl given
    exact ⟨some a, optional_some found (by simp) back, congrArg some same⟩

end

/-- The runtime by its name, not by its alias. -/
def advertised : VmType → VmType
  | .cosmwasm => .native
  | vm => vm

theorem readVmType_text (vm : VmType) : readVmType (.string vm.text) = .ok (advertised vm) := by
  cases vm <;> rfl

theorem advertised_wire (vm : VmType) : vmTypeWireValue (vmTypeAsStr (advertised vm)) = vmTypeWireValue vm.text := by
  cases vm <;> rfl

section
variable {α : Type} {text : α → String} {values : List α}

theorem readEnum_text (all : ∀ v, spelled text values (some (text v)) = some v) (v : α) :
    readEnum text values (.string (text v)) = .ok v := by
  unfold readEnum
  dsimp only
  rw [all v]

end

theorem params_read {params : QorechainRdk.SequencerParams} {value : Json} (written : params.Written value)
    (portable : params.Portable) :
    ∃ fs r, value = .object fs ∧ SequencerParams.ofFields fs = .ok r ∧ r.toTs = params := by
  obtain ⟨fs, rfl, spells⟩ := written
  have found : ∀ field ∈ params.fields, member field.1 fs = .ok field.2 :=
    fun field listed => member_eq spells (params_names params) listed
  obtain ⟨-, ⟨n, size, small⟩, ⟨k, delay, short⟩, -⟩ := portable
  simp only [QorechainRdk.SequencerParams.fields, List.forall_mem_cons, size, delay] at found
  obtain ⟨foundAddress, foundSize, foundDelay, foundShare, -⟩ := found
  let r : SequencerParams := {
    sequencerAddress := params.sequencerAddress
    sharedSetMinSize := n
    inclusionDelay := k
    priorityFeeShare := params.priorityFeeShare }
  have unsigned : ∀ {j : Int}, 0 ≤ j ∧ IsInt32 j → 0 ≤ j ∧ j < 2 ^ 64 := by
    intro j bounds
    obtain ⟨positive, -, high⟩ := bounds
    omega
  have readSize := optional_int foundSize fun j held => unsigned (small j held)
  have readDelay := optional_int foundDelay fun j held => unsigned (short j held)
  refine ⟨fs, r, rfl, ?_, ?_⟩
  · unfold SequencerParams.ofFields readU64
    rw [optional_text foundAddress, readSize, readDelay, optional_text foundShare]
    rfl
  · unfold SequencerParams.toTs
    dsimp only [r]
    rw [← size, ← delay]

theorem endpoints_read {endpoints : PartialEndpoints} {value : Json} (written : endpoints.Written value) :
    ∃ fs, value = .object fs ∧ endpointsOfFields fs = .ok endpoints := by
  obtain ⟨fs, rfl, spells⟩ := written
  have found : ∀ field ∈ endpoints.fields, member field.1 fs = .ok field.2 :=
    fun field listed => member_eq spells (endpoints_names endpoints) listed
  simp only [PartialEndpoints.fields, List.forall_mem_cons] at found
  obtain ⟨rest, rpc, grpc, evmRpc, -⟩ := found
  refine ⟨fs, rfl, ?_⟩
  unfold endpointsOfFields
  rw [optional_text rest, optional_text rpc, optional_text grpc, optional_text evmRpc]
  rfl

theorem config_read {config : QorechainRdk.RollupConfig} {value : Json} (written : config.Written value)
    (portable : config.Portable) :
    ∃ fs r, value = .object fs ∧ RollupConfig.ofFields fs = .ok r ∧ r.toTs.meaning = config.meaning := by
  obtain ⟨params, given, fs, rfl, spells⟩ := written
  have found : ∀ field ∈ config.fields params, member field.1 fs = .ok field.2 :=
    fun field listed => member_eq spells (config_names config params) listed
  obtain ⟨⟨id, rollupId⟩, ⟨profile, hasProfile⟩, ⟨settlement, hasSettlement⟩, ⟨sequencer, hasSequencer⟩, portable,
    ⟨da, hasDa⟩, ⟨proof, hasProof⟩, ⟨gas, hasGas⟩, ⟨vm, hasVm⟩, ⟨block, hasBlock, smallBlock⟩,
    ⟨max, hasMax, smallMax⟩, ⟨window, hasWindow, smallWindow⟩, -, ⟨blob, hasBlob, smallBlob⟩, -⟩ := portable
  simp only [QorechainRdk.RollupConfig.fields, List.forall_mem_cons, rollupId, hasProfile, hasSettlement,
    hasSequencer, hasDa, hasProof, hasGas, hasVm, hasBlock, hasMax, hasWindow, hasBlob, Option.map_some] at found
  obtain ⟨foundId, foundProfile, foundSettlement, foundSequencer, foundParams, foundDa, foundProof, foundGas,
    foundVm, foundBlock, foundMax, foundWindow, foundBond, foundBlob, foundStake, -⟩ := found
  have wide : ∀ {j : Int}, IsInt32 j → -2 ^ 63 ≤ j ∧ j < 2 ^ 63 := by
    intro j bounds
    obtain ⟨low, high⟩ := bounds
    omega
  obtain ⟨p, readParams, sameParams⟩ :=
    optional_struct foundParams given fun p v held written => params_read written (portable p held)
  have readWindow := optional_int foundWindow fun j held => wide (smallWindow j held).1
  have readBlob := optional_int foundBlob fun j held => wide (smallBlob j held).1
  let r : RollupConfig := {
    rollupId := id
    profile := profile
    settlement := settlement
    sequencer := sequencer
    sequencerParams := p
    da := da
    proofSystem := proof
    gasModel := gas
    vmType := advertised vm
    blockTimeMs := block
    maxTxPerBlock := max
    challengeWindowSecs := window
    challengeBondUqor := config.challengeBondUqor
    maxDaBlobSize := blob
    stakeAmountUqor := config.stakeAmountUqor }
  refine ⟨fs, r, rfl, ?_, ?_⟩
  · unfold RollupConfig.ofFields readI64
    rw [required_some foundId (stringOf_string id), required_some foundProfile (readEnum_text profile_spelled profile),
      required_some foundSettlement (readEnum_text settlement_spelled settlement),
      required_some foundSequencer (readEnum_text sequencer_spelled sequencer), readParams,
      required_some foundDa (readEnum_text da_spelled da),
      required_some foundProof (readEnum_text proofSystem_spelled proof),
      required_some foundGas (readEnum_text gasModel_spelled gas), required_some foundVm (readVmType_text vm),
      required_some foundBlock (readInt_integer (wide smallBlock)),
      required_some foundMax (readInt_integer (wide smallMax)), readWindow, optional_text foundBond, readBlob,
      optional_text foundStake]
    rfl
  · unfold RollupConfig.toTs QorechainRdk.RollupConfig.meaning
    dsimp only [r]
    rw [sameParams, rollupId, hasProfile, hasSettlement, hasSequencer, hasDa, hasProof, hasGas, hasVm, hasBlock,
      hasMax, hasWindow, hasBlob, Option.map_some, advertised_wire]
    rfl

theorem addresses_read {fs : List (String × Json)} {held : Option TextMap} {value : Option Json}
    (found : member "addresses" fs = .ok value) (rel : Option.Rel TextMap.Written held value) :
    ∃ m, optional (readStruct (TextMap.read stringOf .empty)) "addresses" fs = .ok m ∧
      Option.Rel TextMap.Same m held := by
  cases rel with
  | none => exact ⟨none, optional_none found, .none⟩
  | some given =>
    obtain ⟨inner, m, rfl, back, same⟩ := given.read stringOf_string
    exact ⟨some m, optional_some found (by simp) back, .some same⟩

theorem notes_read {fs : List (String × Json)} {held : Option (List String)}
    (found : member "notes" fs = .ok (held.map textsJson)) : optional readTexts "notes" fs = .ok held := by
  cases held with
  | none => exact optional_none found
  | some texts => exact optional_some found (by simp [textsJson]) (textsOf_map texts)

/-- Of a manifest that every client can hold, Rust reads all, the runtime by its name on the wire. -/
theorem RollupManifest.read {manifest : QorechainRdk.RollupManifest} {value : Json}
    (written : manifest.Written value) (portable : manifest.Portable) :
    ∃ r, ofJson value = .ok r ∧ SameManifest r.toTs manifest := by
  obtain ⟨endpoints, config, addresses, givenEndpoints, givenConfig, givenAddresses, fs, rfl, spells⟩ := written
  have found : ∀ field ∈ manifest.fields endpoints (some config) addresses, member field.1 fs = .ok field.2 :=
    fun field listed => member_eq spells (manifest_names manifest endpoints (some config) addresses) listed
  obtain ⟨network, networked⟩ : ∃ network : Network, manifest.network = some network.asStr := by
    rcases portable.network with given | given
    · exact ⟨.testnet, given⟩
    · exact ⟨.mainnet, given⟩
  simp only [QorechainRdk.RollupManifest.fields, List.forall_mem_cons, portable.schema, portable.version, networked,
    Option.map_some] at found
  obtain ⟨schema, version, foundNetwork, chainId, foundEndpoints, foundConfig, foundAddresses, createdAt, notes, -⟩ :=
    found
  have pointed : ∃ e, optional (readStruct endpointsOfFields) "endpoints" fs = .ok e ∧
      e.map id = manifest.endpoints := by
    refine optional_struct foundEndpoints givenEndpoints ?_
    intro e v _ written
    obtain ⟨inner, rfl, back⟩ := endpoints_read written
    exact ⟨inner, e, rfl, back, rfl⟩
  obtain ⟨e, readEndpoints, sameEndpoints⟩ := pointed
  rw [Option.map_id, id_eq] at sameEndpoints
  obtain ⟨inner, c, rfl, readConfig, sameConfig⟩ := config_read givenConfig portable.config
  obtain ⟨m, readAddresses, sameAddresses⟩ := addresses_read foundAddresses givenAddresses
  have versioned : readU32 (.number (.integer 1)) = .ok 1 := rfl
  have spelled : ∀ network, spelled Network.asStr [.testnet, .mainnet] (some network.asStr) = some network := by
    intro network
    cases network <;> decide
  let r : RollupManifest := {
    schema := MANIFEST_SCHEMA
    version := 1
    network := network
    chainId := manifest.chainId
    endpoints := e
    config := c
    addresses := m
    createdAt := manifest.createdAt
    notes := manifest.notes }
  refine ⟨r, ?_, ?_, sameAddresses⟩
  · have back : ofFields fs = .ok r := by
      unfold ofFields
      rw [required_some schema (stringOf_string _), required_some version versioned,
        required_some foundNetwork (readEnum_text spelled network), optional_text chainId, readEndpoints,
        required_some foundConfig readConfig, readAddresses, optional_text createdAt, notes_read notes]
      rfl
    unfold ofJson
    show (do let manifest ← ofFields fs; if manifest.schema ≠ MANIFEST_SCHEMA then wrongSchema else pure manifest :
      Except JsError RollupManifest) = _
    rw [back, ok_bind, if_neg (not_not.mpr rfl)]
    rfl
  · show ({ r.toTs with config := c.toTs.meaning, addresses := none } : QorechainRdk.RollupManifest) = _
    unfold toTs
    dsimp only [r]
    have versioned : some (Number.integer ((1 : Nat) : Int)) = manifest.version := portable.version.symm
    rw [sameConfig, sameEndpoints, ← networked, versioned, ← portable.schema]

end Rust
end QorechainRdk
