import QorechainRdk.Manifest.Model

/-!
# Manifests in Python

`manifest/__init__.py`. The endpoints of a manifest are a dictionary, the parameters come last, and none are written
for empty ones.
-/

namespace QorechainRdk

open Js

namespace Py

structure RollupManifest where
  network : String
  config : RollupConfig
  schema : String := MANIFEST_SCHEMA
  version : Number := .integer 1
  chainId : Option String := none
  endpoints : Option TextMap := none
  addresses : Option TextMap := none
  createdAt : Option String := none
  notes : Option (List String) := none

structure ToManifestOptions where
  network : String
  chainId : Option String := none
  endpoints : Option TextMap := none
  addresses : Option TextMap := none
  createdAt : Option String := none
  notes : Option (List String) := none

def toManifest (config : RollupConfig) (options : ToManifestOptions) : RollupManifest where
  network := options.network
  config
  chainId := options.chainId
  endpoints := options.endpoints
  addresses := options.addresses
  createdAt := options.createdAt
  notes := options.notes

/-- The configuration of the builder. -/
def fromManifest (manifest : RollupManifest) : Except JsError RollupConfig :=
  if manifest.schema ≠ MANIFEST_SCHEMA then wrongSchema else .ok manifest.config

def SequencerParams.fields (params : SequencerParams) : List (String × Option Json) := [
  ("sequencerAddress", params.sequencerAddress.map .string),
  ("sharedSetMinSize", params.sharedSetMinSize.map .number),
  ("inclusionDelay", params.inclusionDelay.map .number),
  ("priorityFeeShare", params.priorityFeeShare.map .string)]

def SequencerParams.toDict (params : SequencerParams) : Option Json :=
  let sp := Records.set params.fields
  if sp.isEmpty then none else some (.object sp)

def configToDict (config : RollupConfig) : Json := record [
  ("rollupId", some (.string config.rollupId)),
  ("profile", some (.string config.profile)),
  ("settlement", some (.string config.settlement)),
  ("sequencer", some (.string config.sequencer)),
  ("da", some (.string config.da)),
  ("proofSystem", some (.string config.proofSystem)),
  ("gasModel", some (.string config.gasModel)),
  ("vmType", some (.string config.vmType)),
  ("blockTimeMs", some (.number config.blockTimeMs)),
  ("maxTxPerBlock", some (.number config.maxTxPerBlock)),
  ("challengeWindowSecs", config.challengeWindowSecs.map .number),
  ("challengeBondUqor", config.challengeBondUqor.map .string),
  ("maxDaBlobSize", config.maxDaBlobSize.map .number),
  ("stakeAmountUqor", config.stakeAmountUqor.map .string),
  ("sequencerParams", config.sequencerParams.bind SequencerParams.toDict)]

def manifestToDict (manifest : RollupManifest) : Json := record [
  ("schema", some (.string manifest.schema)),
  ("version", some (.number manifest.version)),
  ("network", some (.string manifest.network)),
  ("chainId", manifest.chainId.map .string),
  ("endpoints", manifest.endpoints.map TextMap.toJson),
  ("config", some (configToDict manifest.config)),
  ("addresses", manifest.addresses.map TextMap.toJson),
  ("createdAt", manifest.createdAt.map .string),
  ("notes", manifest.notes.map textsJson)]

/-- A member that is missing or `None`. -/
def present (name : String) (fs : List (String × Json)) : Option Json :=
  match fs.lookup name with
  | some .null => none
  | held => held

def memberOf {α : Type} (text : α → String) (values : List α) : Option Json → Except JsError (Option String)
  | none => .ok none
  | some (.string s) => if includes text values (some s) then .ok (some s) else otherType
  | some _ => otherType

/-- An argument without a default. -/
def argument {α : Type} (name : String) : Option α → Except JsError α
  | some a => .ok a
  | none => fail s!"missing required argument: {name}"

def paramsFromDict (seq : List (String × Json)) : Except JsError SequencerParams := do
  return {
    sequencerAddress := ← textField (present "sequencerAddress" seq)
    sharedSetMinSize := ← numberField (present "sharedSetMinSize" seq)
    inclusionDelay := ← numberField (present "inclusionDelay" seq)
    priorityFeeShare := ← textField (present "priorityFeeShare" seq) }

/-- What is no dictionary is passed over. -/
def sequencerParams : Option Json → Except JsError (Option SequencerParams)
  | some (.object seq) => do return some (← paramsFromDict seq)
  | _ => .ok none

def configFromDict (data : List (String × Json)) : Except JsError RollupConfig := do
  return {
    rollupId := ← argument "rollup_id" (← textField (present "rollupId" data))
    profile := ← argument "profile" (← memberOf ProfileName.text PROFILE_NAMES (present "profile" data))
    settlement := ← argument "settlement"
      (← memberOf SettlementParadigm.text SETTLEMENT_PARADIGMS (present "settlement" data))
    sequencer := ← argument "sequencer" (← memberOf SequencerMode.text SEQUENCER_MODES (present "sequencer" data))
    da := ← argument "da" (← memberOf DABackend.text DA_BACKENDS (present "da" data))
    proofSystem := ← argument "proof_system" (← memberOf ProofSystem.text PROOF_SYSTEMS (present "proofSystem" data))
    gasModel := ← argument "gas_model" (← memberOf GasModel.text GAS_MODELS (present "gasModel" data))
    vmType := ← argument "vm_type" (← textField (present "vmType" data))
    blockTimeMs := ← argument "block_time_ms" (← numberField (present "blockTimeMs" data))
    maxTxPerBlock := ← argument "max_tx_per_block" (← numberField (present "maxTxPerBlock" data))
    sequencerParams := ← sequencerParams (data.lookup "sequencerParams")
    challengeWindowSecs := ← numberField (present "challengeWindowSecs" data)
    challengeBondUqor := ← textField (present "challengeBondUqor" data)
    maxDaBlobSize := ← numberField (present "maxDaBlobSize" data)
    stakeAmountUqor := ← textField (present "stakeAmountUqor" data) }

def configOf : Json → Except JsError RollupConfig
  | .object data => configFromDict data
  | _ => otherType

def subscript (name : String) (data : List (String × Json)) : Except JsError Json :=
  match data.lookup name with
  | some value => .ok value
  | none => fail s!"KeyError: {name}"

def dictOf : Option Json → Except JsError (Option TextMap) := objectField (TextMap.read stringOf .empty)

def versionOf : Option Json → Except JsError Number
  | none => .ok (.integer 1)
  | some (.number n) => .ok n
  | some _ => otherType

def manifestFromFields (data : List (String × Json)) : Except JsError RollupManifest := do
  return {
    network := ← stringOf (← subscript "network" data)
    config := ← configOf (← subscript "config" data)
    schema := MANIFEST_SCHEMA
    version := ← versionOf (data.lookup "version")
    chainId := ← textField (present "chainId" data)
    endpoints := ← dictOf (present "endpoints" data)
    addresses := ← dictOf (present "addresses" data)
    createdAt := ← textField (present "createdAt" data)
    notes := ← textsField (present "notes" data) }

def manifestFromDict : Json → Except JsError RollupManifest
  | .object data =>
    match data.lookup "schema" with
    | some (.string schema) => if schema ≠ MANIFEST_SCHEMA then wrongSchema else manifestFromFields data
    | _ => wrongSchema
  | _ => wrongSchema

/-- The endpoints that the other clients know. -/
def endpointsToTs (endpoints : TextMap) : PartialEndpoints where
  rest := endpoints.entries.lookup "rest"
  rpc := endpoints.entries.lookup "rpc"
  grpc := endpoints.entries.lookup "grpc"
  evmRpc := endpoints.entries.lookup "evmRpc"

def RollupManifest.toTs (manifest : RollupManifest) : QorechainRdk.RollupManifest where
  schema := some manifest.schema
  version := some manifest.version
  network := some manifest.network
  chainId := manifest.chainId
  endpoints := manifest.endpoints.map endpointsToTs
  config := manifest.config.toTs
  addresses := manifest.addresses
  createdAt := manifest.createdAt
  notes := manifest.notes

/-! ### What Python writes -/

/-- The configuration as it is written, without parameters that are empty. -/
def RollupConfig.written (config : RollupConfig) : QorechainRdk.RollupConfig :=
  { config.toTs with
    sequencerParams := config.sequencerParams.bind fun params =>
      if (Records.set params.fields).isEmpty then none else some params.toTs }

theorem params_written (held : Option SequencerParams) : Option.Rel QorechainRdk.SequencerParams.Written
    (held.bind fun params => if (Records.set params.fields).isEmpty then none else some params.toTs)
    (held.bind SequencerParams.toDict) := by
  cases held with
  | none => exact .none
  | some params =>
    show Option.Rel _ (if (Records.set params.fields).isEmpty then none else some params.toTs)
      (if (Records.set params.fields).isEmpty then none else some (Json.object (Records.set params.fields)))
    cases (Records.set params.fields).isEmpty with
    | true => exact .none
    | false => exact .some params.toTs.record_written

theorem configToDict_written (config : RollupConfig) : config.written.Written (configToDict config) := by
  refine ⟨config.sequencerParams.bind SequencerParams.toDict, params_written config.sequencerParams, _, rfl, ?_⟩
  -- The parameters come last.
  have moved : ∀ (front back : List (String × Option Json)) (field : String × Option Json),
      (Records.set (front ++ (back ++ [field]))).Perm (Records.set (front ++ (field :: back))) :=
    fun front back field => ((List.perm_append_singleton field back).append_left front).filterMap _
  exact moved [_, _, _, _] [_, _, _, _, _, _, _, _, _, _] _

def ENDPOINT_NAMES : List String := ["rest", "rpc", "grpc", "evmRpc"]

theorem endpoints_written {endpoints : TextMap} (named : ∀ e ∈ endpoints.entries, e.1 ∈ ENDPOINT_NAMES) :
    (endpointsToTs endpoints).Written endpoints.toJson := by
  refine ⟨_, rfl, ?_⟩
  have spells : Records.Spells endpoints.entries (ENDPOINT_NAMES.map fun n => (n, endpoints.entries.lookup n)) :=
    Records.spells_lookup (by decide) endpoints.distinct named
  have mapped := spells.map fun e : String × String => (e.1, Json.string e.2)
  rw [← Records.set_map] at mapped
  exact mapped

theorem manifestToDict_written {manifest : RollupManifest}
    (named : ∀ endpoints, manifest.endpoints = some endpoints → ∀ e ∈ endpoints.entries, e.1 ∈ ENDPOINT_NAMES) :
    ({ manifest.toTs with config := manifest.config.written } : QorechainRdk.RollupManifest).Written
      (manifestToDict manifest) := by
  have endpoints : Option.Rel PartialEndpoints.Written (manifest.endpoints.map endpointsToTs)
      (manifest.endpoints.map TextMap.toJson) := by
    cases held : manifest.endpoints with
    | none => exact .none
    | some endpoints => exact .some (endpoints_written (named endpoints held))
  have addresses := rel_map TextMap.toJson_written manifest.addresses
  exact ⟨_, _, _, endpoints, configToDict_written manifest.config, addresses, isRecord_record _⟩

theorem written_meaning (config : RollupConfig) : config.written.meaning = config.toTs.meaning := by
  unfold RollupConfig.written QorechainRdk.RollupConfig.meaning
  have params : (config.sequencerParams.bind fun params =>
      if (Records.set params.fields).isEmpty then none else some params.toTs).getD {} =
        config.toTs.sequencerParams.getD {} := by
    show _ = (config.sequencerParams.map SequencerParams.toTs).getD {}
    cases config.sequencerParams with
    | none => rfl
    | some params =>
      obtain ⟨address, size, delay, share⟩ := params
      cases address <;> cases size <;> cases delay <;> cases share <;> rfl
  rw [params]

theorem written_portable {config : RollupConfig} (portable : config.toTs.Portable) : config.written.Portable := by
  refine { portable with sequencerParams := ?_ }
  intro params held
  obtain ⟨given, present, same⟩ := Option.bind_eq_some_iff.mp held
  split at same
  · cases same
  · obtain rfl := Option.some.inj same
    exact portable.sequencerParams _ (congrArg (Option.map SequencerParams.toTs) present)

/-! ### What Python reads -/

section
variable {fs : List (String × Json)} {name : String}

theorem present_of {v : Json} (found : fs.lookup name = some v) (solid : v ≠ .null) :
    present name fs = some v := by
  unfold present
  rw [found]
  cases v with
  | null => exact absurd rfl solid
  | _ => rfl

theorem present_none (found : fs.lookup name = none) : present name fs = none := by
  unfold present
  rw [found]

theorem present_text {held : Option String} (found : fs.lookup name = held.map Json.string) :
    textField (present name fs) = .ok held := by
  cases held with
  | none => rw [present_none found, textField]
  | some s => rw [present_of found (by simp), textField]

theorem present_number {held : Option Number} (found : fs.lookup name = held.map Json.number) :
    numberField (present name fs) = .ok held := by
  cases held with
  | none => rw [present_none found, numberField]
  | some n => rw [present_of found (by simp), numberField]

theorem present_member {α : Type} {text : α → String} {values : List α}
    (all : ∀ v, spelled text values (some (text v)) = some v) {v : α}
    (found : fs.lookup name = some (.string (text v))) :
    memberOf text values (present name fs) = .ok (some (text v)) := by
  rw [present_of found (by simp)]
  unfold memberOf includes
  dsimp only
  rw [all v]
  rfl

end

theorem params_read {params : QorechainRdk.SequencerParams} {value : Json} (written : params.Written value) :
    ∃ fs p, value = .object fs ∧ paramsFromDict fs = .ok p ∧ p.toTs = params := by
  obtain ⟨fs, rfl, spells⟩ := written
  have found : ∀ field ∈ params.fields, fs.lookup field.1 = field.2 :=
    fun field listed => spells.lookup (params_names params) listed
  simp only [QorechainRdk.SequencerParams.fields, List.forall_mem_cons] at found
  obtain ⟨address, size, delay, share, -⟩ := found
  let p : SequencerParams := {
    sequencerAddress := params.sequencerAddress
    sharedSetMinSize := params.sharedSetMinSize
    inclusionDelay := params.inclusionDelay
    priorityFeeShare := params.priorityFeeShare }
  refine ⟨fs, p, rfl, ?_, rfl⟩
  unfold paramsFromDict
  rw [present_text address, present_number size, present_number delay, present_text share]
  rfl

theorem sequencerParams_read {held : Option QorechainRdk.SequencerParams} {value : Option Json}
    (rel : Option.Rel QorechainRdk.SequencerParams.Written held value) :
    ∃ p, sequencerParams value = .ok p ∧ p.map SequencerParams.toTs = held := by
  cases rel with
  | none => exact ⟨none, rfl, rfl⟩
  | some given =>
    obtain ⟨inner, p, rfl, back, same⟩ := params_read given
    exact ⟨some p, congrArg (fun x : Except JsError SequencerParams => x.map some) back, congrArg some same⟩

theorem config_read {config : QorechainRdk.RollupConfig} {value : Json} (written : config.Written value)
    (portable : config.Portable) : ∃ p, configOf value = .ok p ∧ p.toTs = config := by
  obtain ⟨params, given, fs, rfl, spells⟩ := written
  have found : ∀ field ∈ config.fields params, fs.lookup field.1 = field.2 :=
    fun field listed => spells.lookup (config_names config params) listed
  obtain ⟨⟨id, hasId⟩, ⟨profile, hasProfile⟩, ⟨settlement, hasSettlement⟩, ⟨sequencer, hasSequencer⟩, -,
    ⟨da, hasDa⟩, ⟨proof, hasProof⟩, ⟨gas, hasGas⟩, ⟨vm, hasVm⟩, ⟨block, hasBlock, -⟩, ⟨max, hasMax, -⟩, -, -, -,
    -⟩ := portable
  simp only [QorechainRdk.RollupConfig.fields, List.forall_mem_cons] at found
  obtain ⟨foundId, foundProfile, foundSettlement, foundSequencer, foundParams, foundDa, foundProof, foundGas,
    foundVm, foundBlock, foundMax, window, bond, blob, stake, -⟩ := found
  obtain ⟨p, readParams, sameParams⟩ := sequencerParams_read given
  rw [hasProfile] at foundProfile
  rw [hasSettlement] at foundSettlement
  rw [hasSequencer] at foundSequencer
  rw [hasDa] at foundDa
  rw [hasProof] at foundProof
  rw [hasGas] at foundGas
  let read : RollupConfig := {
    rollupId := id
    profile := profile.text
    settlement := settlement.text
    sequencer := sequencer.text
    da := da.text
    proofSystem := proof.text
    gasModel := gas.text
    vmType := vm.text
    blockTimeMs := .integer block
    maxTxPerBlock := .integer max
    sequencerParams := p
    challengeWindowSecs := config.challengeWindowSecs
    challengeBondUqor := config.challengeBondUqor
    maxDaBlobSize := config.maxDaBlobSize
    stakeAmountUqor := config.stakeAmountUqor }
  refine ⟨read, ?_, ?_⟩
  · show configFromDict fs = _
    unfold configFromDict
    rw [present_text foundId, present_member profile_spelled foundProfile,
      present_member settlement_spelled foundSettlement, present_member sequencer_spelled foundSequencer, foundParams,
      readParams, present_member da_spelled foundDa, present_member proofSystem_spelled foundProof,
      present_member gasModel_spelled foundGas, present_text foundVm, present_number foundBlock,
      present_number foundMax, present_number window, present_text bond, present_number blob, present_text stake,
      hasId, hasVm, hasBlock, hasMax]
    rfl
  · unfold RollupConfig.toTs
    dsimp only [read]
    rw [sameParams, ← hasId, ← hasProfile, ← hasSettlement, ← hasSequencer, ← hasDa, ← hasProof, ← hasGas, ← hasVm,
      ← hasBlock, ← hasMax]

def endpointTexts (endpoints : PartialEndpoints) : List (String × Option String) := [
  ("rest", endpoints.rest),
  ("rpc", endpoints.rpc),
  ("grpc", endpoints.grpc),
  ("evmRpc", endpoints.evmRpc)]

theorem endpointTexts_names (endpoints : PartialEndpoints) : ((endpointTexts endpoints).map Prod.fst).Nodup := by
  have names : (endpointTexts endpoints).map Prod.fst = ENDPOINT_NAMES := rfl
  rw [names]
  decide

/-- The dictionary that the endpoints are read as. -/
def endpointDict (endpoints : PartialEndpoints) : TextMap where
  entries := Records.set (endpointTexts endpoints)
  distinct := (endpointTexts_names endpoints).sublist (Records.names_sublist _)

theorem endpointDict_written {endpoints : PartialEndpoints} {value : Json} (written : endpoints.Written value) :
    (endpointDict endpoints).Written value := by
  obtain ⟨fs, rfl, spells⟩ := written
  have texts : endpoints.fields = (endpointTexts endpoints).map fun field => (field.1, field.2.map Json.string) := rfl
  rw [texts] at spells
  obtain ⟨es, spelled, rfl⟩ := spells.of_map
  exact ⟨es, spelled, rfl⟩

theorem endpointDict_same {endpoints : PartialEndpoints} {m : TextMap} (same : m.Same (endpointDict endpoints)) :
    endpointsToTs m = endpoints := by
  have spells : Records.Spells m.entries (endpointTexts endpoints) := same
  have found : ∀ field ∈ endpointTexts endpoints, m.entries.lookup field.1 = field.2 :=
    fun field listed => spells.lookup (endpointTexts_names endpoints) listed
  simp only [endpointTexts, List.forall_mem_cons] at found
  obtain ⟨rest, rpc, grpc, evmRpc, -⟩ := found
  unfold endpointsToTs
  rw [rest, rpc, grpc, evmRpc]

section
variable {fs : List (String × Json)} {name : String} {value : Option Json}

theorem dict_read {held : Option TextMap} (found : fs.lookup name = value)
    (rel : Option.Rel TextMap.Written held value) :
    ∃ m, dictOf (present name fs) = .ok m ∧ Option.Rel TextMap.Same m held := by
  have kept : present name fs = value := by
    cases rel with
    | none => exact present_none found
    | some given =>
      obtain ⟨es, -, rfl⟩ := given
      exact present_of found (by simp)
  rw [kept]
  exact QorechainRdk.addresses_read stringOf_string rel

theorem endpoints_read {held : Option PartialEndpoints} (found : fs.lookup name = value)
    (rel : Option.Rel PartialEndpoints.Written held value) :
    ∃ m, dictOf (present name fs) = .ok m ∧ m.map endpointsToTs = held := by
  have named : Option.Rel TextMap.Written (held.map endpointDict) value := by
    cases rel with
    | none => exact .none
    | some given => exact .some (endpointDict_written given)
  obtain ⟨m, back, same⟩ := dict_read found named
  refine ⟨m, back, ?_⟩
  cases held with
  | none =>
    cases same
    rfl
  | some endpoints =>
    cases same with
    | some same => exact congrArg some (endpointDict_same same)

theorem notes_read {held : Option (List String)} (found : fs.lookup name = held.map textsJson) :
    textsField (present name fs) = .ok held := by
  cases held with
  | none => rw [present_none found, textsField]
  | some texts =>
    rw [present_of found (by simp [textsJson])]
    exact textsField_map (some texts)

end

/-- Of a manifest that every client can hold, Python reads all. -/
theorem manifest_read {manifest : QorechainRdk.RollupManifest} {value : Json} (written : manifest.Written value)
    (portable : manifest.Portable) : ∃ p, manifestFromDict value = .ok p ∧ p.toTs.ReadAs manifest := by
  obtain ⟨endpoints, config, addresses, givenEndpoints, givenConfig, givenAddresses, fs, rfl, spells⟩ := written
  have found : ∀ field ∈ manifest.fields endpoints (some config) addresses, fs.lookup field.1 = field.2 :=
    fun field listed => spells.lookup (manifest_names manifest endpoints (some config) addresses) listed
  obtain ⟨network, networked⟩ : ∃ network, manifest.network = some network := by
    rcases portable.network with given | given <;> exact ⟨_, given⟩
  simp only [QorechainRdk.RollupManifest.fields, List.forall_mem_cons, portable.schema, portable.version, networked,
    Option.map_some] at found
  obtain ⟨schema, version, foundNetwork, chainId, foundEndpoints, foundConfig, foundAddresses, createdAt, notes, -⟩ :=
    found
  obtain ⟨e, readEndpoints, sameEndpoints⟩ := endpoints_read foundEndpoints givenEndpoints
  obtain ⟨m, readAddresses, sameAddresses⟩ := dict_read foundAddresses givenAddresses
  obtain ⟨c, readConfig, sameConfig⟩ := config_read givenConfig portable.config
  let p : RollupManifest := {
    network := network
    config := c
    schema := MANIFEST_SCHEMA
    version := .integer 1
    chainId := manifest.chainId
    endpoints := e
    addresses := m
    createdAt := manifest.createdAt
    notes := manifest.notes }
  have subscripted : ∀ {name : String} {v : Json}, fs.lookup name = some v → subscript name fs = .ok v := by
    intro name v found
    unfold subscript
    rw [found]
  have back : manifestFromFields fs = .ok p := by
    unfold manifestFromFields
    rw [subscripted foundNetwork, subscripted foundConfig, version, present_text chainId, readEndpoints, readAddresses,
      present_text createdAt, notes_read notes]
    simp only [ok_bind, stringOf_string, readConfig]
    rfl
  refine ⟨p, ?_, ?_, sameAddresses⟩
  · unfold manifestFromDict
    dsimp only
    rw [schema]
    dsimp only
    rw [if_neg (not_not.mpr rfl)]
    exact back
  · unfold RollupManifest.toTs
    dsimp only [p]
    rw [sameEndpoints, sameConfig, ← networked, ← portable.schema, ← portable.version]

end Py
end QorechainRdk
