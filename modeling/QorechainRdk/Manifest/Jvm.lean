import QorechainRdk.Manifest.Model

/-!
# Manifests in Java

`manifest/Manifest.java`. Gson writes no null, sets the fields of an object member after member, and goes through the
fields of a nested object anew each time.
-/

namespace QorechainRdk

open Js

namespace Jvm

/-- Every reference may be null. -/
structure RollupManifest where
  schema : Option String := none
  version : Int := 0
  network : Option String := none
  chainId : Option String := none
  endpoints : Option PartialEndpoints := none
  config : Option RollupConfig := none
  addresses : Option TextMap := none
  createdAt : Option String := none
  notes : Option (List String) := none

structure ToManifestOptions where
  network : Option String := none
  chainId : Option String := none
  endpoints : Option PartialEndpoints := none
  addresses : Option TextMap := none
  createdAt : Option String := none
  notes : Option (List String) := none

def toManifest (config : RollupConfig) (options : ToManifestOptions) : RollupManifest where
  schema := some MANIFEST_SCHEMA
  version := 1
  network := options.network
  chainId := options.chainId
  endpoints := options.endpoints
  config := some config
  addresses := options.addresses
  createdAt := options.createdAt
  notes := options.notes

/-- The configuration of the builder, which copies what it is given. -/
def fromManifest (manifest : Option RollupManifest) : Except JsError RollupConfig :=
  match manifest with
  | none => wrongSchema
  | some manifest =>
    if manifest.schema ≠ some MANIFEST_SCHEMA then wrongSchema
    else
      match manifest.config with
      | none => fail "NullPointerException"
      | some config => .ok config

def SequencerParams.toJson (params : SequencerParams) : Json := record [
  ("sequencerAddress", params.sequencerAddress.map .string),
  ("sharedSetMinSize", params.sharedSetMinSize.map fun n => .number (.integer n)),
  ("inclusionDelay", params.inclusionDelay.map fun n => .number (.integer n)),
  ("priorityFeeShare", params.priorityFeeShare.map .string)]

def enumJson {α : Type} (text : α → String) (held : Option α) : Option Json := held.map fun v => .string (text v)

def RollupConfig.toJson (config : RollupConfig) : Json := record [
  ("rollupId", config.rollupId.map .string),
  ("profile", enumJson ProfileName.text config.profile),
  ("settlement", enumJson SettlementParadigm.text config.settlement),
  ("sequencer", enumJson SequencerMode.text config.sequencer),
  ("sequencerParams", config.sequencerParams.map SequencerParams.toJson),
  ("da", enumJson DABackend.text config.da),
  ("proofSystem", enumJson ProofSystem.text config.proofSystem),
  ("gasModel", enumJson GasModel.text config.gasModel),
  ("vmType", enumJson VmType.text config.vmType),
  ("blockTimeMs", some (.number (.integer config.blockTimeMs))),
  ("maxTxPerBlock", some (.number (.integer config.maxTxPerBlock))),
  ("challengeWindowSecs", config.challengeWindowSecs.map fun n => .number (.integer n)),
  ("challengeBondUqor", config.challengeBondUqor.map .string),
  ("maxDaBlobSize", config.maxDaBlobSize.map fun n => .number (.integer n)),
  ("stakeAmountUqor", config.stakeAmountUqor.map .string)]

def RollupManifest.toJson (manifest : RollupManifest) : Json := record [
  ("schema", manifest.schema.map .string),
  ("version", some (.number (.integer manifest.version))),
  ("network", manifest.network.map .string),
  ("chainId", manifest.chainId.map .string),
  ("endpoints", manifest.endpoints.map fun endpoints => record endpoints.fields),
  ("config", manifest.config.map RollupConfig.toJson),
  ("addresses", manifest.addresses.map TextMap.toJson),
  ("createdAt", manifest.createdAt.map .string),
  ("notes", manifest.notes.map textsJson)]

/-- The values that a field is set to, one after the other. -/
def values (name : String) (fs : List (String × Json)) : List Json := Records.under (· == name) fs

def setReference {α : Type} (read : Json → Except JsError α) (_ : Option α) : Json → Except JsError (Option α)
  | .null => .ok none
  | value => do return some (← read value)

def readInt : Json → Except JsError Int
  | .number (.integer n) => if -2 ^ 31 ≤ n ∧ n < 2 ^ 31 then .ok n else otherType
  | _ => otherType

/-- A primitive is not set to null. -/
def setInt (held : Int) : Json → Except JsError Int
  | .null => .ok held
  | value => readInt value

/-- `fromWire` of the text: null where no member is named so. -/
def setEnum {α : Type} (text : α → String) (members : List α) (_ : Option α) : Json → Except JsError (Option α)
  | .null => .ok none
  | .string s => .ok (spelled text members (some s))
  | .bool _ => .ok none
  | .number _ => .ok none
  | _ => otherType

/-- The members of the enumeration, the alias among them. -/
def vmTypeValues : List VmType := [.evm, .native, .svm, .custom, .cosmwasm]

def readObject {α : Type} (ofFields : List (String × Json) → Except JsError α) : Json → Except JsError α
  | .object fs => ofFields fs
  | _ => otherType

/-- A name that comes twice is refused. -/
def putNew (m : TextMap) (f : String × Json) : Except JsError TextMap := do
  let value ← stringOf f.2
  if m.has f.1 then fail s!"duplicate key: {f.1}" else return m.insert f.1 value

def readMap (fs : List (String × Json)) : Except JsError TextMap := fs.foldlM putNew .empty

def readTexts : Json → Except JsError (List String)
  | .array items => textsOf items
  | _ => otherType

def SequencerParams.ofFields (fs : List (String × Json)) : Except JsError SequencerParams := do
  return {
    sequencerAddress := ← (values "sequencerAddress" fs).foldlM (setReference stringOf) none
    sharedSetMinSize := ← (values "sharedSetMinSize" fs).foldlM (setReference readInt) none
    inclusionDelay := ← (values "inclusionDelay" fs).foldlM (setReference readInt) none
    priorityFeeShare := ← (values "priorityFeeShare" fs).foldlM (setReference stringOf) none }

def RollupConfig.ofFields (fs : List (String × Json)) : Except JsError RollupConfig := do
  return {
    rollupId := ← (values "rollupId" fs).foldlM (setReference stringOf) none
    profile := ← (values "profile" fs).foldlM (setEnum ProfileName.text PROFILE_NAMES) none
    settlement := ← (values "settlement" fs).foldlM (setEnum SettlementParadigm.text SETTLEMENT_PARADIGMS) none
    sequencer := ← (values "sequencer" fs).foldlM (setEnum SequencerMode.text SEQUENCER_MODES) none
    sequencerParams :=
      ← (values "sequencerParams" fs).foldlM (setReference (readObject SequencerParams.ofFields)) none
    da := ← (values "da" fs).foldlM (setEnum DABackend.text DA_BACKENDS) none
    proofSystem := ← (values "proofSystem" fs).foldlM (setEnum ProofSystem.text PROOF_SYSTEMS) none
    gasModel := ← (values "gasModel" fs).foldlM (setEnum GasModel.text GAS_MODELS) none
    vmType := ← (values "vmType" fs).foldlM (setEnum VmType.text vmTypeValues) none
    blockTimeMs := ← (values "blockTimeMs" fs).foldlM setInt 0
    maxTxPerBlock := ← (values "maxTxPerBlock" fs).foldlM setInt 0
    challengeWindowSecs := ← (values "challengeWindowSecs" fs).foldlM (setReference readInt) none
    challengeBondUqor := ← (values "challengeBondUqor" fs).foldlM (setReference stringOf) none
    maxDaBlobSize := ← (values "maxDaBlobSize" fs).foldlM (setReference readInt) none
    stakeAmountUqor := ← (values "stakeAmountUqor" fs).foldlM (setReference stringOf) none }

def endpointsOfFields (fs : List (String × Json)) : Except JsError PartialEndpoints := do
  return {
    rest := ← (values "rest" fs).foldlM (setReference stringOf) none
    rpc := ← (values "rpc" fs).foldlM (setReference stringOf) none
    grpc := ← (values "grpc" fs).foldlM (setReference stringOf) none
    evmRpc := ← (values "evmRpc" fs).foldlM (setReference stringOf) none }

def RollupManifest.ofFields (fs : List (String × Json)) : Except JsError RollupManifest := do
  return {
    schema := ← (values "schema" fs).foldlM (setReference stringOf) none
    version := ← (values "version" fs).foldlM setInt 0
    network := ← (values "network" fs).foldlM (setReference stringOf) none
    chainId := ← (values "chainId" fs).foldlM (setReference stringOf) none
    endpoints := ← (values "endpoints" fs).foldlM (setReference (readObject endpointsOfFields)) none
    config := ← (values "config" fs).foldlM (setReference (readObject RollupConfig.ofFields)) none
    addresses := ← (values "addresses" fs).foldlM (setReference (readObject readMap)) none
    createdAt := ← (values "createdAt" fs).foldlM (setReference stringOf) none
    notes := ← (values "notes" fs).foldlM (setReference readTexts) none }

/-- `parseManifest` gives null for `null`. -/
def RollupManifest.ofJson : Json → Except JsError (Option RollupManifest)
  | .null => .ok none
  | value => do return some (← readObject ofFields value)

def RollupManifest.toTs (manifest : RollupManifest) : QorechainRdk.RollupManifest where
  schema := manifest.schema
  version := some (.integer manifest.version)
  network := manifest.network
  chainId := manifest.chainId
  endpoints := manifest.endpoints
  config := (manifest.config.map RollupConfig.toTs).getD .unset
  addresses := manifest.addresses
  createdAt := manifest.createdAt
  notes := manifest.notes

/-! ### What Java writes -/

theorem SequencerParams.toJson_written (params : SequencerParams) : params.toTs.Written params.toJson := by
  have same : params.toJson = record params.toTs.fields := by
    unfold toJson toTs QorechainRdk.SequencerParams.fields
    simp only [Option.map_map]
    rfl
  rw [same]
  exact QorechainRdk.SequencerParams.record_written _

theorem RollupConfig.toJson_written (config : RollupConfig) : config.toTs.Written config.toJson := by
  have params : Option.Rel QorechainRdk.SequencerParams.Written config.toTs.sequencerParams
      (config.sequencerParams.map SequencerParams.toJson) := by
    show Option.Rel _ (config.sequencerParams.map SequencerParams.toTs) _
    cases config.sequencerParams with
    | none => exact .none
    | some params => exact .some params.toJson_written
  refine ⟨_, params, ?_⟩
  have same : config.toJson = record (config.toTs.fields (config.sequencerParams.map SequencerParams.toJson)) := by
    unfold toJson toTs QorechainRdk.RollupConfig.fields enumJson
    simp only [Option.map_map]
    rfl
  rw [same]
  exact isRecord_record _

theorem RollupManifest.toJson_written {manifest : RollupManifest} {config : RollupConfig}
    (given : manifest.config = some config) : manifest.toTs.Written manifest.toJson := by
  have endpoints := rel_map PartialEndpoints.record_written manifest.endpoints
  have addresses := rel_map TextMap.toJson_written manifest.addresses
  have configured : manifest.toTs.config.Written config.toJson := by
    unfold toTs
    rw [given]
    exact config.toJson_written
  refine ⟨_, _, _, endpoints, configured, addresses, ?_⟩
  have same : manifest.toJson = record (manifest.toTs.fields (manifest.endpoints.map fun e => record e.fields)
      (some config.toJson) (manifest.addresses.map TextMap.toJson)) := by
    unfold toJson
    rw [given]
    rfl
  rw [same]
  exact isRecord_record _

/-! ### What Java reads -/

section
variable {fs : List (String × Json)} {fields : List (String × Option Json)} {name : String} {value : Option Json}
  {α : Type} {read : Json → Except JsError α} {v : Json} {a : α}

theorem values_eq (spells : Records.Spells fs fields) (distinct : (fields.map Prod.fst).Nodup)
    (listed : (name, value) ∈ fields) : values name fs = value.toList :=
  spells.under_name distinct listed

theorem set_once {set : α → Json → Except JsError α} {held : α} (sets : set held v = .ok a) :
    [v].foldlM set held = .ok a := by
  rw [List.foldlM_cons, sets]
  rfl

theorem reference_some (found : values name fs = [v]) (solid : v ≠ .null) (back : read v = .ok a) :
    (values name fs).foldlM (setReference read) none = .ok (some a) := by
  rw [found]
  apply set_once
  cases v with
  | null => exact absurd rfl solid
  | _ => exact congrArg (fun x : Except JsError α => x.map some) back

theorem reference_none (found : values name fs = []) :
    (values name fs).foldlM (setReference read) none = .ok none := by
  rw [found]
  rfl

theorem reference_text {held : Option String} (found : values name fs = (held.map Json.string).toList) :
    (values name fs).foldlM (setReference stringOf) none = .ok held := by
  cases held with
  | none => exact reference_none found
  | some s => exact reference_some found (by simp) rfl

theorem readInt_integer {k : Int} (small : IsInt32 k) : readInt (.number (.integer k)) = .ok k := if_pos small

theorem reference_int {n : Option Int} (found : values name fs = ((n.map Number.integer).map Json.number).toList)
    (small : ∀ k, n = some k → IsInt32 k) :
    (values name fs).foldlM (setReference readInt) none = .ok n := by
  cases n with
  | none => exact reference_none found
  | some k => exact reference_some found (by simp) (readInt_integer (small k rfl))

theorem reference_object {ofFields : List (String × Json) → Except JsError α} {β : Type}
    {written : β → Json → Prop} {toTs : α → β} {held : Option β} (found : values name fs = value.toList)
    (rel : Option.Rel written held value)
    (reads : ∀ b v, held = some b → written b v → ∃ inner a, v = .object inner ∧ ofFields inner = .ok a ∧
      toTs a = b) :
    ∃ a, (values name fs).foldlM (setReference (readObject ofFields)) none = .ok a ∧ a.map toTs = held := by
  cases rel with
  | none => exact ⟨none, reference_none found, rfl⟩
  | some given =>
    obtain ⟨inner, a, rfl, back, same⟩ := reads _ _ rfl given
    exact ⟨some a, reference_some found (by simp) back, congrArg some same⟩

theorem int_some {k : Int} (found : values name fs = [.number (.integer k)]) (small : IsInt32 k) :
    (values name fs).foldlM setInt 0 = .ok k := by
  rw [found]
  exact set_once (readInt_integer small)

theorem enum_some {text : α → String} {members : List α} (all : ∀ v, spelled text members (some (text v)) = some v)
    (found : values name fs = [.string (text a)]) :
    (values name fs).foldlM (setEnum text members) none = .ok (some a) := by
  rw [found]
  exact set_once (congrArg Except.ok (all a))

end

theorem vmType_spelled (vm : VmType) : spelled VmType.text vmTypeValues (some vm.text) = some vm := by
  cases vm <;> decide

theorem putNew_fresh (m : TextMap) (e : String × String) (fresh : ¬ m.has e.1 = true) :
    putNew m (e.1, .string e.2) = .ok (m.insert e.1 e.2) := if_neg fresh

theorem addresses_read {fs : List (String × Json)} {held : Option TextMap} {value : Option Json}
    (found : values "addresses" fs = value.toList) (rel : Option.Rel TextMap.Written held value) :
    ∃ m, (values "addresses" fs).foldlM (setReference (readObject readMap)) none = .ok m ∧
      Option.Rel TextMap.Same m held := by
  cases rel with
  | none => exact ⟨none, reference_none found, .none⟩
  | some given =>
    obtain ⟨inner, m, rfl, back, same⟩ := given.filled putNew_fresh
    exact ⟨some m, reference_some found (by simp) back, .some same⟩

theorem notes_read {fs : List (String × Json)} {held : Option (List String)}
    (found : values "notes" fs = (held.map textsJson).toList) :
    (values "notes" fs).foldlM (setReference readTexts) none = .ok held := by
  cases held with
  | none => exact reference_none found
  | some texts => exact reference_some found (by simp [textsJson]) (textsOf_map texts)

theorem params_read {params : QorechainRdk.SequencerParams} {value : Json} (written : params.Written value)
    (portable : params.Portable) :
    ∃ fs j, value = .object fs ∧ SequencerParams.ofFields fs = .ok j ∧ j.toTs = params := by
  obtain ⟨fs, rfl, spells⟩ := written
  have found : ∀ field ∈ params.fields, values field.1 fs = field.2.toList :=
    fun field listed => values_eq spells (params_names params) listed
  obtain ⟨-, ⟨n, size, small⟩, ⟨k, delay, short⟩, -⟩ := portable
  simp only [QorechainRdk.SequencerParams.fields, List.forall_mem_cons, size, delay] at found
  obtain ⟨address, foundSize, foundDelay, share, -⟩ := found
  let j : SequencerParams := {
    sequencerAddress := params.sequencerAddress
    sharedSetMinSize := n
    inclusionDelay := k
    priorityFeeShare := params.priorityFeeShare }
  refine ⟨fs, j, rfl, ?_, ?_⟩
  · unfold SequencerParams.ofFields
    rw [reference_text address, reference_int foundSize fun i held => (small i held).2,
      reference_int foundDelay fun i held => (short i held).2, reference_text share]
    rfl
  · unfold SequencerParams.toTs
    dsimp only [j]
    rw [← size, ← delay]

theorem endpoints_read {endpoints : PartialEndpoints} {value : Json} (written : endpoints.Written value) :
    ∃ fs, value = .object fs ∧ endpointsOfFields fs = .ok endpoints := by
  obtain ⟨fs, rfl, spells⟩ := written
  have found : ∀ field ∈ endpoints.fields, values field.1 fs = field.2.toList :=
    fun field listed => values_eq spells (endpoints_names endpoints) listed
  simp only [PartialEndpoints.fields, List.forall_mem_cons] at found
  obtain ⟨rest, rpc, grpc, evmRpc, -⟩ := found
  refine ⟨fs, rfl, ?_⟩
  unfold endpointsOfFields
  rw [reference_text rest, reference_text rpc, reference_text grpc, reference_text evmRpc]
  rfl

theorem config_read {config : QorechainRdk.RollupConfig} {value : Json} (written : config.Written value)
    (portable : config.Portable) :
    ∃ fs j, value = .object fs ∧ RollupConfig.ofFields fs = .ok j ∧ j.toTs = config := by
  obtain ⟨params, given, fs, rfl, spells⟩ := written
  have found : ∀ field ∈ config.fields params, values field.1 fs = field.2.toList :=
    fun field listed => values_eq spells (config_names config params) listed
  obtain ⟨-, ⟨profile, hasProfile⟩, ⟨settlement, hasSettlement⟩, ⟨sequencer, hasSequencer⟩, portable,
    ⟨da, hasDa⟩, ⟨proof, hasProof⟩, ⟨gas, hasGas⟩, ⟨vm, hasVm⟩, ⟨block, hasBlock, smallBlock⟩,
    ⟨max, hasMax, smallMax⟩, ⟨window, hasWindow, smallWindow⟩, -, ⟨blob, hasBlob, smallBlob⟩, -⟩ := portable
  simp only [QorechainRdk.RollupConfig.fields, List.forall_mem_cons, hasProfile, hasSettlement,
    hasSequencer, hasDa, hasProof, hasGas, hasVm, hasBlock, hasMax, hasWindow, hasBlob, Option.map_some,
    Option.toList_some] at found
  obtain ⟨foundId, foundProfile, foundSettlement, foundSequencer, foundParams, foundDa, foundProof, foundGas,
    foundVm, foundBlock, foundMax, foundWindow, foundBond, foundBlob, foundStake, -⟩ := found
  obtain ⟨p, readParams, sameParams⟩ :=
    reference_object foundParams given fun p v held written => params_read written (portable p held)
  let j : RollupConfig := {
    rollupId := config.rollupId
    profile := some profile
    settlement := some settlement
    sequencer := some sequencer
    sequencerParams := p
    da := some da
    proofSystem := some proof
    gasModel := some gas
    vmType := some vm
    blockTimeMs := block
    maxTxPerBlock := max
    challengeWindowSecs := window
    challengeBondUqor := config.challengeBondUqor
    maxDaBlobSize := blob
    stakeAmountUqor := config.stakeAmountUqor }
  refine ⟨fs, j, rfl, ?_, ?_⟩
  · unfold RollupConfig.ofFields
    rw [reference_text foundId, enum_some profile_spelled foundProfile, enum_some settlement_spelled foundSettlement,
      enum_some sequencer_spelled foundSequencer, readParams, enum_some da_spelled foundDa,
      enum_some proofSystem_spelled foundProof, enum_some gasModel_spelled foundGas,
      enum_some vmType_spelled foundVm, int_some foundBlock smallBlock, int_some foundMax smallMax,
      reference_int foundWindow fun i held => (smallWindow i held).1, reference_text foundBond,
      reference_int foundBlob fun i held => (smallBlob i held).1, reference_text foundStake]
    rfl
  · unfold RollupConfig.toTs
    dsimp only [j]
    rw [sameParams, ← hasWindow, ← hasBlob, ← hasBlock, ← hasMax]
    simp only [Option.map_some]
    rw [← hasProfile, ← hasSettlement, ← hasSequencer, ← hasDa, ← hasProof, ← hasGas, ← hasVm]

/-- Of a manifest that every client can hold, Java reads all. -/
theorem RollupManifest.read {manifest : QorechainRdk.RollupManifest} {value : Json}
    (written : manifest.Written value) (portable : manifest.Portable) :
    ∃ j config, ofJson value = .ok (some j) ∧ j.config = some config ∧ j.toTs.ReadAs manifest := by
  obtain ⟨endpoints, config, addresses, givenEndpoints, givenConfig, givenAddresses, fs, rfl, spells⟩ := written
  have found : ∀ field ∈ manifest.fields endpoints (some config) addresses, values field.1 fs = field.2.toList :=
    fun field listed => values_eq spells (manifest_names manifest endpoints (some config) addresses) listed
  simp only [QorechainRdk.RollupManifest.fields, List.forall_mem_cons, portable.version, Option.map_some,
    Option.toList_some] at found
  obtain ⟨schema, version, network, chainId, foundEndpoints, foundConfig, foundAddresses, createdAt, notes, -⟩ :=
    found
  have pointed : ∃ e, (values "endpoints" fs).foldlM (setReference (readObject endpointsOfFields)) none = .ok e ∧
      e.map id = manifest.endpoints := by
    refine reference_object foundEndpoints givenEndpoints ?_
    intro e v _ written
    obtain ⟨inner, rfl, back⟩ := endpoints_read written
    exact ⟨inner, e, rfl, back, rfl⟩
  obtain ⟨e, readEndpoints, sameEndpoints⟩ := pointed
  rw [Option.map_id, id_eq] at sameEndpoints
  obtain ⟨inner, c, rfl, readConfig, sameConfig⟩ := config_read givenConfig portable.config
  have configured : (values "config" fs).foldlM (setReference (readObject RollupConfig.ofFields)) none =
      .ok (some c) := reference_some foundConfig (by simp) readConfig
  obtain ⟨m, readAddresses, sameAddresses⟩ := addresses_read foundAddresses givenAddresses
  let j : RollupManifest := {
    schema := manifest.schema
    version := 1
    network := manifest.network
    chainId := manifest.chainId
    endpoints := e
    config := some c
    addresses := m
    createdAt := manifest.createdAt
    notes := manifest.notes }
  have back : ofFields fs = .ok j := by
    unfold ofFields
    rw [reference_text schema, int_some version (by unfold IsInt32; omega), reference_text network,
      reference_text chainId, readEndpoints, configured, readAddresses, reference_text createdAt, notes_read notes]
    rfl
  refine ⟨j, c, congrArg (fun x : Except JsError RollupManifest => x.map some) back, rfl, ?_, sameAddresses⟩
  unfold toTs
  dsimp only [j]
  rw [Option.map_some, Option.getD_some, sameConfig, sameEndpoints, ← portable.version]

end Jvm
end QorechainRdk
