import QorechainRdk.Config.Builder
import QorechainRdk.Config.ValidateAgreement
import QorechainRdk.Lib.Records
import QorechainRdk.Utils.JsonParse

/-!
# Manifests

`manifest/index.ts`: the object that a manifest is, and what is made of one. The texts themselves are left to the
library of the client.
-/

namespace QorechainRdk

open Js

def MANIFEST_SCHEMA : String := "qorechain-rdk/rollup-manifest"

def wrongSchema {α : Type} : Except JsError α := fail "not a qorechain-rdk rollup manifest"

/-- A value that the type of its field does not allow. Where a client keeps it all the same, it is not followed. -/
def otherType {α : Type} : Except JsError α := fail "a value of another type"

/-! ### Maps of texts -/

/-- Named texts, no name twice. -/
structure TextMap where
  entries : List (String × String)
  distinct : (entries.map Prod.fst).Nodup

namespace TextMap

def empty : TextMap := ⟨[], List.nodup_nil⟩

def has (m : TextMap) (key : String) : Bool := m.entries.any fun e => e.1 == key

theorem has_iff {m : TextMap} {key : String} : m.has key = true ↔ key ∈ m.entries.map Prod.fst := by
  unfold has
  rw [List.any_eq_true, List.mem_map]
  constructor
  · intro h
    obtain ⟨e, member, named⟩ := h
    exact ⟨e, member, beq_iff_eq.mp named⟩
  · intro h
    obtain ⟨e, member, named⟩ := h
    exact ⟨e, member, beq_iff_eq.mpr named⟩

/-- A new name goes to the end. -/
def insert (m : TextMap) (key value : String) : TextMap :=
  if present : m.has key = true then
    ⟨m.entries.map fun e => if e.1 = key then (key, value) else e, by
      have names : (m.entries.map fun e => if e.1 = key then (key, value) else e).map Prod.fst =
          m.entries.map Prod.fst := by
        rw [List.map_map]
        apply List.map_congr_left
        intro e _
        by_cases named : e.1 = key
        · simp [named]
        · simp [named]
      rw [names]
      exact m.distinct⟩
  else
    ⟨m.entries ++ [(key, value)], by
      rw [has_iff] at present
      rw [List.map_append, List.nodup_append]
      refine ⟨m.distinct, List.nodup_singleton _, ?_⟩
      intro a member b last same
      obtain rfl : b = key := by simpa using last
      exact present (same ▸ member)⟩

def toJson (m : TextMap) : Json := .object (m.entries.map fun e => (e.1, .string e.2))

/-- The writers of Go and Rust go through the names in their order. -/
def sorted (m : TextMap) : List (String × String) := m.entries.mergeSort fun a b => decide (a.1 ≤ b.1)

def toSortedJson (m : TextMap) : Json := .object (m.sorted.map fun e => (e.1, .string e.2))

/-- Member after member, a later one in the place of an earlier one of its name. -/
def read (text : Json → Except JsError String) (held : TextMap) (fs : List (String × Json)) :
    Except JsError TextMap :=
  fs.foldlM (fun m f => do return m.insert f.1 (← text f.2)) held

end TextMap

def stringOf : Json → Except JsError String
  | .string s => .ok s
  | _ => otherType

def textsJson (texts : List String) : Json := .array (texts.map .string)

def textsOf : List Json → Except JsError (List String) := List.mapM stringOf

/-! ### TypeScript -/

structure PartialEndpoints where
  rest : Option String := none
  rpc : Option String := none
  grpc : Option String := none
  evmRpc : Option String := none
  deriving DecidableEq, Repr

/-- A member that the text leaves out is `undefined`. -/
structure RollupManifest where
  schema : Option String := some MANIFEST_SCHEMA
  version : Option Number := some (.integer 1)
  network : Option String
  chainId : Option String := none
  endpoints : Option PartialEndpoints := none
  config : RollupConfig
  addresses : Option TextMap := none
  createdAt : Option String := none
  notes : Option (List String) := none

structure ToManifestOptions where
  network : String
  chainId : Option String := none
  endpoints : Option PartialEndpoints := none
  addresses : Option TextMap := none
  createdAt : Option String := none
  notes : Option (List String) := none

def toManifest (config : RollupConfig) (options : ToManifestOptions) : RollupManifest where
  network := some options.network
  chainId := options.chainId
  endpoints := options.endpoints
  config
  addresses := options.addresses
  createdAt := options.createdAt
  notes := options.notes

def fromManifest (manifest : RollupManifest) : Except JsError RollupConfigBuilder :=
  if manifest.schema ≠ some MANIFEST_SCHEMA then wrongSchema else .ok { config := manifest.config }

def SequencerParams.fields (params : SequencerParams) : List (String × Option Json) := [
  ("sequencerAddress", params.sequencerAddress.map .string),
  ("sharedSetMinSize", params.sharedSetMinSize.map .number),
  ("inclusionDelay", params.inclusionDelay.map .number),
  ("priorityFeeShare", params.priorityFeeShare.map .string)]

/-- The fields of a configuration whose parameters are the object `params`. -/
def RollupConfig.fields (config : RollupConfig) (params : Option Json) : List (String × Option Json) := [
  ("rollupId", config.rollupId.map .string),
  ("profile", config.profile.map .string),
  ("settlement", config.settlement.map .string),
  ("sequencer", config.sequencer.map .string),
  ("sequencerParams", params),
  ("da", config.da.map .string),
  ("proofSystem", config.proofSystem.map .string),
  ("gasModel", config.gasModel.map .string),
  ("vmType", config.vmType.map .string),
  ("blockTimeMs", config.blockTimeMs.map .number),
  ("maxTxPerBlock", config.maxTxPerBlock.map .number),
  ("challengeWindowSecs", config.challengeWindowSecs.map .number),
  ("challengeBondUqor", config.challengeBondUqor.map .string),
  ("maxDaBlobSize", config.maxDaBlobSize.map .number),
  ("stakeAmountUqor", config.stakeAmountUqor.map .string)]

def PartialEndpoints.fields (endpoints : PartialEndpoints) : List (String × Option Json) := [
  ("rest", endpoints.rest.map .string),
  ("rpc", endpoints.rpc.map .string),
  ("grpc", endpoints.grpc.map .string),
  ("evmRpc", endpoints.evmRpc.map .string)]

def RollupManifest.fields (manifest : RollupManifest) (endpoints config addresses : Option Json) :
    List (String × Option Json) := [
  ("schema", manifest.schema.map .string),
  ("version", manifest.version.map .number),
  ("network", manifest.network.map .string),
  ("chainId", manifest.chainId.map .string),
  ("endpoints", endpoints),
  ("config", config),
  ("addresses", addresses),
  ("createdAt", manifest.createdAt.map .string),
  ("notes", manifest.notes.map textsJson)]

/-- The object that a manifest is. The properties of its parts stand in the order in which they were set, which is
not kept here; `Written` allows every order. -/
def RollupManifest.toJson (manifest : RollupManifest) : Json :=
  let params := manifest.config.sequencerParams.map fun params => record params.fields
  record (manifest.fields (manifest.endpoints.map fun endpoints => record endpoints.fields)
    (some (record (manifest.config.fields params))) (manifest.addresses.map TextMap.toJson))

def textField : Option Json → Except JsError (Option String)
  | none => .ok none
  | some (.string s) => .ok (some s)
  | some _ => otherType

def numberField : Option Json → Except JsError (Option Number)
  | none => .ok none
  | some (.number n) => .ok (some n)
  | some _ => otherType

def objectField {α : Type} (read : List (String × Json) → Except JsError α) : Option Json → Except JsError (Option α)
  | none => .ok none
  | some (.object fs) => do return some (← read fs)
  | some _ => otherType

def textsField : Option Json → Except JsError (Option (List String))
  | none => .ok none
  | some (.array items) => do return some (← textsOf items)
  | some _ => otherType

def SequencerParams.ofFields (fs : List (String × Json)) : Except JsError SequencerParams := do
  return {
    sequencerAddress := ← textField (fs.lookup "sequencerAddress")
    sharedSetMinSize := ← numberField (fs.lookup "sharedSetMinSize")
    inclusionDelay := ← numberField (fs.lookup "inclusionDelay")
    priorityFeeShare := ← textField (fs.lookup "priorityFeeShare") }

def RollupConfig.ofFields (fs : List (String × Json)) : Except JsError RollupConfig := do
  return {
    rollupId := ← textField (fs.lookup "rollupId")
    profile := ← textField (fs.lookup "profile")
    settlement := ← textField (fs.lookup "settlement")
    sequencer := ← textField (fs.lookup "sequencer")
    sequencerParams := ← objectField SequencerParams.ofFields (fs.lookup "sequencerParams")
    da := ← textField (fs.lookup "da")
    proofSystem := ← textField (fs.lookup "proofSystem")
    gasModel := ← textField (fs.lookup "gasModel")
    vmType := ← textField (fs.lookup "vmType")
    blockTimeMs := ← numberField (fs.lookup "blockTimeMs")
    maxTxPerBlock := ← numberField (fs.lookup "maxTxPerBlock")
    challengeWindowSecs := ← numberField (fs.lookup "challengeWindowSecs")
    challengeBondUqor := ← textField (fs.lookup "challengeBondUqor")
    maxDaBlobSize := ← numberField (fs.lookup "maxDaBlobSize")
    stakeAmountUqor := ← textField (fs.lookup "stakeAmountUqor") }

def PartialEndpoints.ofFields (fs : List (String × Json)) : Except JsError PartialEndpoints := do
  return {
    rest := ← textField (fs.lookup "rest")
    rpc := ← textField (fs.lookup "rpc")
    grpc := ← textField (fs.lookup "grpc")
    evmRpc := ← textField (fs.lookup "evmRpc") }

/-- What a builder of `undefined` holds. -/
def RollupConfig.unset : RollupConfig where
  rollupId := none
  profile := none
  settlement := none
  sequencer := none
  da := none
  proofSystem := none
  gasModel := none
  vmType := none
  blockTimeMs := none
  maxTxPerBlock := none

def RollupManifest.ofFields (fs : List (String × Json)) : Except JsError RollupManifest := do
  return {
    schema := ← textField (fs.lookup "schema")
    version := ← numberField (fs.lookup "version")
    network := ← textField (fs.lookup "network")
    chainId := ← textField (fs.lookup "chainId")
    endpoints := ← objectField PartialEndpoints.ofFields (fs.lookup "endpoints")
    config := (← objectField RollupConfig.ofFields (fs.lookup "config")).getD .unset
    addresses := ← objectField (TextMap.read stringOf .empty) (fs.lookup "addresses")
    createdAt := ← textField (fs.lookup "createdAt")
    notes := ← textsField (fs.lookup "notes") }

def RollupManifest.ofJson : Json → Except JsError RollupManifest
  | .object fs => ofFields fs
  | _ => otherType

/-! ### What is written -/

/-- An object of these fields, in some order. -/
def IsRecord (value : Json) (fields : List (String × Option Json)) : Prop :=
  ∃ fs, value = .object fs ∧ Records.Spells fs fields

theorem isRecord_record (fields : List (String × Option Json)) : IsRecord (record fields) fields :=
  ⟨_, rfl, Records.spells_set⟩

def TextMap.Written (m : TextMap) (value : Json) : Prop :=
  ∃ es : List (String × String), es.Perm m.entries ∧ value = .object (es.map fun e => (e.1, .string e.2))

def SequencerParams.Written (params : SequencerParams) (value : Json) : Prop := IsRecord value params.fields

def PartialEndpoints.Written (endpoints : PartialEndpoints) (value : Json) : Prop := IsRecord value endpoints.fields

def RollupConfig.Written (config : RollupConfig) (value : Json) : Prop :=
  ∃ params, Option.Rel SequencerParams.Written config.sequencerParams params ∧ IsRecord value (config.fields params)

/-- The object has the fields of the manifest, and so have its parts, each in some order. -/
def RollupManifest.Written (manifest : RollupManifest) (value : Json) : Prop :=
  ∃ endpoints config addresses, Option.Rel PartialEndpoints.Written manifest.endpoints endpoints ∧
    manifest.config.Written config ∧ Option.Rel TextMap.Written manifest.addresses addresses ∧
    IsRecord value (manifest.fields endpoints (some config) addresses)

section
variable {α β : Type} {R : α → β → Prop} {write : α → β}

theorem rel_map (related : ∀ a, R a (write a)) (held : Option α) : Option.Rel R held (held.map write) := by
  cases held with
  | none => exact .none
  | some a => exact .some (related a)

end

theorem TextMap.toJson_written (m : TextMap) : m.Written m.toJson := ⟨m.entries, List.Perm.refl _, rfl⟩

theorem TextMap.toSortedJson_written (m : TextMap) : m.Written m.toSortedJson :=
  ⟨m.sorted, List.mergeSort_perm _ _, rfl⟩

theorem SequencerParams.record_written (params : SequencerParams) : params.Written (record params.fields) :=
  isRecord_record _

theorem PartialEndpoints.record_written (endpoints : PartialEndpoints) : endpoints.Written (record endpoints.fields) :=
  isRecord_record _

theorem RollupManifest.toJson_written (manifest : RollupManifest) : manifest.Written manifest.toJson := by
  have endpoints := rel_map PartialEndpoints.record_written manifest.endpoints
  have params := rel_map SequencerParams.record_written manifest.config.sequencerParams
  have addresses := rel_map TextMap.toJson_written manifest.addresses
  exact ⟨_, _, _, endpoints, ⟨_, params, isRecord_record _⟩, addresses, isRecord_record _⟩

/-! ### What is read -/

section
variable {fs : List (String × Json)}

theorem params_names (params : SequencerParams) : (params.fields.map Prod.fst).Nodup := by
  have names : params.fields.map Prod.fst =
      ["sequencerAddress", "sharedSetMinSize", "inclusionDelay", "priorityFeeShare"] := rfl
  rw [names]
  decide

theorem endpoints_names (endpoints : PartialEndpoints) : (endpoints.fields.map Prod.fst).Nodup := by
  have names : endpoints.fields.map Prod.fst = ["rest", "rpc", "grpc", "evmRpc"] := rfl
  rw [names]
  decide

theorem config_names (config : RollupConfig) (params : Option Json) :
    ((config.fields params).map Prod.fst).Nodup := by
  have names : (config.fields params).map Prod.fst = ["rollupId", "profile", "settlement", "sequencer",
      "sequencerParams", "da", "proofSystem", "gasModel", "vmType", "blockTimeMs", "maxTxPerBlock",
      "challengeWindowSecs", "challengeBondUqor", "maxDaBlobSize", "stakeAmountUqor"] := rfl
  rw [names]
  decide

theorem manifest_names (manifest : RollupManifest) (endpoints config addresses : Option Json) :
    ((manifest.fields endpoints config addresses).map Prod.fst).Nodup := by
  have names : (manifest.fields endpoints config addresses).map Prod.fst = ["schema", "version", "network",
      "chainId", "endpoints", "config", "addresses", "createdAt", "notes"] := rfl
  rw [names]
  decide

/-- The two have the same texts under the same names. -/
def TextMap.Same (a b : TextMap) : Prop := a.entries.Perm b.entries

theorem textField_map (held : Option String) : textField (held.map .string) = .ok held := by
  cases held <;> rfl

theorem numberField_map (held : Option Number) : numberField (held.map .number) = .ok held := by
  cases held <;> rfl

theorem stringOf_string (s : String) : stringOf (.string s) = .ok s := rfl

theorem mapM_strings {text : Json → Except JsError String} (reads : ∀ s, text (.string s) = .ok s)
    (texts : List String) : (texts.map Json.string).mapM text = .ok texts := by
  induction texts with
  | nil => rfl
  | cons s texts ih =>
    rw [List.map_cons, List.mapM_cons, ih, reads]
    rfl

theorem textsOf_map (texts : List String) : textsOf (texts.map .string) = .ok texts :=
  mapM_strings stringOf_string texts

theorem textsField_map (held : Option (List String)) : textsField (held.map textsJson) = .ok held := by
  cases held with
  | none => rfl
  | some texts =>
    show (do return some (← textsOf (texts.map .string)) : Except JsError (Option (List String))) = _
    rw [textsOf_map]
    rfl

section
variable {put : TextMap → String × Json → Except JsError TextMap}

/-- Fresh names are put in, in order. -/
theorem TextMap.put_entries
    (puts : ∀ m (e : String × String), ¬ m.has e.1 = true → put m (e.1, .string e.2) = .ok (m.insert e.1 e.2))
    (es : List (String × String)) (held : TextMap) (distinct : ((held.entries ++ es).map Prod.fst).Nodup) :
    ∃ m, (es.map fun e => (e.1, Json.string e.2)).foldlM put held = .ok m ∧ m.entries = held.entries ++ es := by
  induction es generalizing held with
  | nil => exact ⟨held, rfl, (List.append_nil _).symm⟩
  | cons e es ih =>
    have fresh : ¬ held.has e.1 = true := by
      rw [has_iff]
      intro member
      rw [List.map_append, List.nodup_append] at distinct
      exact distinct.2.2 _ member _ (by simp) rfl
    have inserted : (held.insert e.1 e.2).entries = held.entries ++ [e] := by
      unfold insert
      rw [dif_neg fresh]
    obtain ⟨m, read, entries⟩ := ih (held.insert e.1 e.2) (by rw [inserted, List.append_assoc]; exact distinct)
    refine ⟨m, ?_, by rw [entries, inserted, List.append_assoc]; rfl⟩
    rw [List.map_cons, List.foldlM_cons, puts held e fresh, ok_bind]
    exact read

theorem TextMap.Written.filled {m : TextMap} {value : Json} (written : m.Written value)
    (puts : ∀ m (e : String × String), ¬ m.has e.1 = true → put m (e.1, .string e.2) = .ok (m.insert e.1 e.2)) :
    ∃ fs m', value = .object fs ∧ fs.foldlM put .empty = .ok m' ∧ m'.Same m := by
  obtain ⟨es, perm, rfl⟩ := written
  have distinct : ((TextMap.empty.entries ++ es).map Prod.fst).Nodup :=
    (perm.map Prod.fst).nodup_iff.mpr m.distinct
  obtain ⟨m', read, entries⟩ := TextMap.put_entries puts es .empty distinct
  refine ⟨_, m', rfl, read, ?_⟩
  unfold TextMap.Same
  rw [entries]
  exact perm

end

theorem TextMap.Written.read {m : TextMap} {value : Json} (written : m.Written value)
    {text : Json → Except JsError String} (reads : ∀ s, text (.string s) = .ok s) :
    ∃ fs m', value = .object fs ∧ TextMap.read text .empty fs = .ok m' ∧ m'.Same m := by
  apply written.filled
  intro m e _
  rw [reads]
  rfl

theorem objectField_rel {α : Type} {written : α → Json → Prop} {read : List (String × Json) → Except JsError α}
    (reads : ∀ a value, written a value → ∃ fs, value = .object fs ∧ read fs = .ok a) {held : Option α}
    {value : Option Json} (rel : Option.Rel written held value) : objectField read value = .ok held := by
  cases rel with
  | none => rfl
  | some given =>
    obtain ⟨fs, rfl, back⟩ := reads _ _ given
    exact congrArg (fun x : Except JsError α => x.map some) back

theorem SequencerParams.Written.read {params : SequencerParams} {value : Json} (written : params.Written value) :
    ∃ fs, value = .object fs ∧ ofFields fs = .ok params := by
  obtain ⟨fs, rfl, spells⟩ := written
  have found : ∀ field ∈ params.fields, fs.lookup field.1 = field.2 :=
    fun field member => spells.lookup (params_names params) member
  simp only [fields, List.forall_mem_cons] at found
  obtain ⟨address, size, delay, share, -⟩ := found
  refine ⟨fs, rfl, ?_⟩
  unfold ofFields
  rw [address, size, delay, share]
  simp only [textField_map, numberField_map, ok_bind]
  rfl

theorem PartialEndpoints.Written.read {endpoints : PartialEndpoints} {value : Json}
    (written : endpoints.Written value) : ∃ fs, value = .object fs ∧ ofFields fs = .ok endpoints := by
  obtain ⟨fs, rfl, spells⟩ := written
  have found : ∀ field ∈ endpoints.fields, fs.lookup field.1 = field.2 :=
    fun field member => spells.lookup (endpoints_names endpoints) member
  simp only [fields, List.forall_mem_cons] at found
  obtain ⟨rest, rpc, grpc, evmRpc, -⟩ := found
  refine ⟨fs, rfl, ?_⟩
  unfold ofFields
  rw [rest, rpc, grpc, evmRpc]
  simp only [textField_map, ok_bind]
  rfl

theorem RollupConfig.Written.read {config : RollupConfig} {value : Json} (written : config.Written value) :
    ∃ fs, value = .object fs ∧ ofFields fs = .ok config := by
  obtain ⟨params, given, fs, rfl, spells⟩ := written
  have found : ∀ field ∈ config.fields params, fs.lookup field.1 = field.2 :=
    fun field member => spells.lookup (config_names config params) member
  have held := objectField_rel (fun _ _ written => SequencerParams.Written.read written) given
  simp only [fields, List.forall_mem_cons] at found
  obtain ⟨rollupId, profile, settlement, sequencer, sequencerParams, da, proofSystem, gasModel, vmType, blockTimeMs,
    maxTxPerBlock, window, bond, blob, stake, -⟩ := found
  refine ⟨fs, rfl, ?_⟩
  unfold ofFields
  rw [rollupId, profile, settlement, sequencer, sequencerParams, da, proofSystem, gasModel, vmType, blockTimeMs,
    maxTxPerBlock, window, bond, blob, stake, held]
  simp only [textField_map, numberField_map, ok_bind]
  rfl

/-- A manifest that is read, up to the order of the addresses. -/
def RollupManifest.ReadAs (read manifest : RollupManifest) : Prop :=
  read = { manifest with addresses := read.addresses } ∧ Option.Rel TextMap.Same read.addresses manifest.addresses

theorem addresses_read {text : Json → Except JsError String} (reads : ∀ s, text (.string s) = .ok s)
    {held : Option TextMap} {value : Option Json} (rel : Option.Rel TextMap.Written held value) :
    ∃ addresses, objectField (TextMap.read text .empty) value = .ok addresses ∧
      Option.Rel TextMap.Same addresses held := by
  cases rel with
  | none => exact ⟨none, rfl, .none⟩
  | some given =>
    obtain ⟨fs, m, rfl, back, same⟩ := given.read reads
    exact ⟨some m, congrArg (fun x : Except JsError TextMap => x.map some) back, .some same⟩

theorem RollupManifest.Written.read {manifest : RollupManifest} {value : Json} (written : manifest.Written value) :
    ∃ read, ofJson value = .ok read ∧ read.ReadAs manifest := by
  obtain ⟨endpoints, config, addresses, givenEndpoints, givenConfig, givenAddresses, fs, rfl, spells⟩ := written
  have found : ∀ field ∈ manifest.fields endpoints (some config) addresses, fs.lookup field.1 = field.2 :=
    fun field member => spells.lookup (manifest_names manifest endpoints (some config) addresses) member
  have heldEndpoints := objectField_rel (fun _ _ written => PartialEndpoints.Written.read written) givenEndpoints
  have heldConfig : objectField RollupConfig.ofFields (some config) = .ok (some manifest.config) :=
    objectField_rel (fun _ _ written => RollupConfig.Written.read written) (.some givenConfig)
  obtain ⟨m, heldAddresses, same⟩ := addresses_read stringOf_string givenAddresses
  simp only [fields, List.forall_mem_cons] at found
  obtain ⟨schema, version, network, chainId, endpoint, configured, addressed, createdAt, notes, -⟩ := found
  refine ⟨{ manifest with addresses := m }, ?_, rfl, same⟩
  show ofFields fs = _
  unfold ofFields
  rw [schema, version, network, chainId, endpoint, configured, addressed, createdAt, notes, heldEndpoints,
    heldConfig, heldAddresses]
  simp only [textField_map, numberField_map, textsField_map, ok_bind]
  rfl

end

/-! ### What every client can hold -/

theorem profile_spelled (profile : ProfileName) :
    spelled ProfileName.text PROFILE_NAMES (some profile.text) = some profile := by
  cases profile <;> decide

theorem sequencer_spelled (sequencer : SequencerMode) :
    spelled SequencerMode.text SEQUENCER_MODES (some sequencer.text) = some sequencer := by
  cases sequencer <;> decide

theorem da_spelled (da : DABackend) : spelled DABackend.text DA_BACKENDS (some da.text) = some da := by
  cases da <;> decide

theorem gasModel_spelled (gas : GasModel) : spelled GasModel.text GAS_MODELS (some gas.text) = some gas := by
  cases gas <;> decide

def IsInt32 (n : Int) : Prop := -2 ^ 31 ≤ n ∧ n < 2 ^ 31

/-- A size or a delay is not negative, and a text that is given is not empty. -/
structure SequencerParams.Portable (params : SequencerParams) : Prop where
  sequencerAddress : params.sequencerAddress ≠ some ""
  sharedSetMinSize : ∃ n : Option Int, params.sharedSetMinSize = n.map .integer ∧
    ∀ k, n = some k → 0 ≤ k ∧ IsInt32 k
  inclusionDelay : ∃ n : Option Int, params.inclusionDelay = n.map .integer ∧ ∀ k, n = some k → 0 ≤ k ∧ IsInt32 k
  priorityFeeShare : params.priorityFeeShare ≠ some ""

/-- The values of the closed sets, integers of 32 bits, nothing given that is zero or empty, and no newline at the end
of the stake, which Python would pass. -/
structure RollupConfig.Portable (config : RollupConfig) : Prop where
  rollupId : ∃ id, config.rollupId = some id
  profile : ∃ v, config.profile = some (ProfileName.text v)
  settlement : ∃ v, config.settlement = some (SettlementParadigm.text v)
  sequencer : ∃ v, config.sequencer = some (SequencerMode.text v)
  sequencerParams : ∀ params, config.sequencerParams = some params → params.Portable
  da : ∃ v, config.da = some (DABackend.text v)
  proofSystem : ∃ v, config.proofSystem = some (ProofSystem.text v)
  gasModel : ∃ v, config.gasModel = some (GasModel.text v)
  vmType : ∃ v, config.vmType = some (VmType.text v)
  blockTimeMs : ∃ n, config.blockTimeMs = some (.integer n) ∧ IsInt32 n
  maxTxPerBlock : ∃ n, config.maxTxPerBlock = some (.integer n) ∧ IsInt32 n
  challengeWindowSecs : ∃ n : Option Int, config.challengeWindowSecs = n.map .integer ∧
    ∀ k, n = some k → IsInt32 k ∧ k ≠ 0
  challengeBondUqor : config.challengeBondUqor ≠ some ""
  maxDaBlobSize : ∃ n : Option Int, config.maxDaBlobSize = n.map .integer ∧ ∀ k, n = some k → IsInt32 k ∧ k ≠ 0
  stakeAmountUqor : config.stakeAmountUqor ≠ some ""
  stakeLine : ∀ stake, config.stakeAmountUqor = some stake → stake.toList.getLast? ≠ some '\n'

structure PartialEndpoints.Portable (endpoints : PartialEndpoints) : Prop where
  rest : endpoints.rest ≠ some ""
  rpc : endpoints.rpc ≠ some ""
  grpc : endpoints.grpc ≠ some ""
  evmRpc : endpoints.evmRpc ≠ some ""

structure RollupManifest.Portable (manifest : RollupManifest) : Prop where
  schema : manifest.schema = some MANIFEST_SCHEMA
  version : manifest.version = some (.integer 1)
  network : manifest.network = some "testnet" ∨ manifest.network = some "mainnet"
  chainId : manifest.chainId ≠ some ""
  endpoints : ∀ endpoints, manifest.endpoints = some endpoints → endpoints.Portable
  config : manifest.config.Portable
  addresses : ∀ addresses, manifest.addresses = some addresses → addresses.entries ≠ []
  createdAt : manifest.createdAt ≠ some ""
  notes : manifest.notes ≠ some []

/-- What a configuration comes to: the runtime by its name on the wire, and no parameters for none. -/
def RollupConfig.meaning (config : RollupConfig) : RollupConfig :=
  { config with
    vmType := config.vmType.map vmTypeWireValue
    sequencerParams := some (config.sequencerParams.getD {}) }

structure SameManifest (a b : RollupManifest) : Prop where
  fields : { a with config := a.config.meaning, addresses := none } =
    { b with config := b.config.meaning, addresses := none }
  addresses : Option.Rel TextMap.Same a.addresses b.addresses

theorem SameManifest.schema {a b : RollupManifest} (h : SameManifest a b) : a.schema = b.schema := by
  have fields := congrArg (fun m : RollupManifest => m.schema) h.fields
  exact fields

theorem SameManifest.config {a b : RollupManifest} (h : SameManifest a b) : a.config.meaning = b.config.meaning := by
  have fields := congrArg (fun m : RollupManifest => m.config) h.fields
  exact fields

theorem TextMap.Same.trans {a b c : TextMap} (first : a.Same b) (second : b.Same c) : a.Same c :=
  List.Perm.trans first second

theorem SameManifest.trans {a b c : RollupManifest} (first : SameManifest a b) (second : SameManifest b c) :
    SameManifest a c := by
  refine ⟨first.fields.trans second.fields, ?_⟩
  have left := first.addresses
  have right := second.addresses
  cases ha : a.addresses with
  | none =>
    cases hb : b.addresses with
    | none => rwa [hb] at right
    | some y =>
      rw [ha, hb] at left
      cases left
  | some x =>
    rw [ha] at left
    cases hb : b.addresses with
    | none =>
      rw [hb] at left
      cases left
    | some y =>
      rw [hb] at left right
      cases left with
      | some xy =>
        cases hc : c.addresses with
        | none =>
          rw [hc] at right
          cases right
        | some z =>
          rw [hc] at right
          cases right with
          | some yz => exact .some (xy.trans yz)

theorem RollupManifest.ReadAs.same {a b : RollupManifest} (h : a.ReadAs b) : SameManifest a b := by
  obtain ⟨fields, addresses⟩ := h
  refine ⟨?_, addresses⟩
  rw [fields]

end QorechainRdk
