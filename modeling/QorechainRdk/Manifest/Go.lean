import QorechainRdk.Manifest.Model

/-!
# Manifests in Go

`manifest.go` with the tags of its types. `encoding/json` stores member after member into the fields that their names
fold to.
-/

namespace QorechainRdk

open Js

namespace Go

structure Endpoints where
  rest : String := ""
  rpc : String := ""
  grpc : String := ""
  evmRPC : String := ""
  deriving DecidableEq, Repr

/-- A map or a slice that is nil is empty here; neither is written. -/
structure RollupManifest where
  schema : String := ""
  version : Int := 0
  network : String := ""
  chainID : String := ""
  endpoints : Option Endpoints := none
  config : RollupConfig := {}
  addresses : TextMap := .empty
  createdAt : String := ""
  notes : List String := []

structure ToManifestOptions where
  network : String := ""
  chainID : String := ""
  endpoints : Option Endpoints := none
  addresses : TextMap := .empty
  createdAt : String := ""
  notes : List String := []

def toManifest (config : RollupConfig) (options : ToManifestOptions) : RollupManifest where
  schema := MANIFEST_SCHEMA
  version := 1
  network := options.network
  chainID := options.chainID
  endpoints := options.endpoints
  config
  addresses := options.addresses
  createdAt := options.createdAt
  notes := options.notes

/-- The configuration of the builder. -/
def fromManifest (manifest : RollupManifest) : Except JsError RollupConfig :=
  if manifest.schema ≠ MANIFEST_SCHEMA then wrongSchema else .ok manifest.config

/-- `omitempty` of a text. -/
def nonempty (s : String) : Option Json := if s = "" then none else some (.string s)

/-- `omitempty` of an integer. -/
def nonzero (n : Int) : Option Json := if n = 0 then none else some (.number (.integer n))

def SequencerParams.toJson (params : SequencerParams) : Json := record [
  ("sequencerAddress", nonempty params.sequencerAddress),
  ("sharedSetMinSize", params.sharedSetMinSize.map fun n => .number (.integer n)),
  ("inclusionDelay", params.inclusionDelay.map fun n => .number (.integer n)),
  ("priorityFeeShare", nonempty params.priorityFeeShare)]

def RollupConfig.toJson (config : RollupConfig) : Json := record [
  ("rollupId", some (.string config.rollupID)),
  ("profile", some (.string config.profile)),
  ("settlement", some (.string config.settlement)),
  ("sequencer", some (.string config.sequencer)),
  ("sequencerParams", config.sequencerParams.map SequencerParams.toJson),
  ("da", some (.string config.da)),
  ("proofSystem", some (.string config.proofSystem)),
  ("gasModel", some (.string config.gasModel)),
  ("vmType", some (.string config.vmType)),
  ("blockTimeMs", some (.number (.integer config.blockTimeMs))),
  ("maxTxPerBlock", some (.number (.integer config.maxTxPerBlock))),
  ("challengeWindowSecs", nonzero config.challengeWindowSecs),
  ("challengeBondUqor", nonempty config.challengeBondUqor),
  ("maxDaBlobSize", nonzero config.maxDaBlobSize),
  ("stakeAmountUqor", nonempty config.stakeAmountUqor)]

def Endpoints.toJson (endpoints : Endpoints) : Json := record [
  ("rest", nonempty endpoints.rest),
  ("rpc", nonempty endpoints.rpc),
  ("grpc", nonempty endpoints.grpc),
  ("evmRpc", nonempty endpoints.evmRPC)]

def RollupManifest.toJson (manifest : RollupManifest) : Json := record [
  ("schema", some (.string manifest.schema)),
  ("version", some (.number (.integer manifest.version))),
  ("network", some (.string manifest.network)),
  ("chainId", nonempty manifest.chainID),
  ("endpoints", manifest.endpoints.map Endpoints.toJson),
  ("config", some manifest.config.toJson),
  ("addresses", if manifest.addresses.entries.isEmpty then none else some manifest.addresses.toSortedJson),
  ("createdAt", nonempty manifest.createdAt),
  ("notes", if manifest.notes.isEmpty then none else some (textsJson manifest.notes))]

/-- Names are compared in folded case; two characters beyond ASCII fold to letters. -/
def foldChar (c : Char) : Char := if c.toNat = 0x17F then 's' else if c.toNat = 0x212A then 'k' else c.toLower

def foldName (name : String) : List Char := name.toList.map foldChar

/-- What is stored into a field, in order. -/
def stored (name : String) (fs : List (String × Json)) : List Json :=
  Records.under (fun key => foldName key == foldName name) fs

/-- Nothing is stored for `null`. -/
def setText (held : String) : Json → Except JsError String
  | .string s => .ok s
  | .null => .ok held
  | _ => otherType

def setInt (held : Int) : Json → Except JsError Int
  | .number (.integer n) => if -2 ^ 63 ≤ n ∧ n < 2 ^ 63 then .ok n else otherType
  | .null => .ok held
  | _ => otherType

/-- A pointer becomes nil for `null`, and what it points to is filled further. -/
def setPointer {α : Type} (zero : α) (set : α → Json → Except JsError α) (held : Option α) :
    Json → Except JsError (Option α)
  | .null => .ok none
  | value => do return some (← set (held.getD zero) value)

def setStruct {α : Type} (fill : α → List (String × Json) → Except JsError α) (held : α) : Json → Except JsError α
  | .object fs => fill held fs
  | .null => .ok held
  | _ => otherType

def SequencerParams.fill (held : SequencerParams) (fs : List (String × Json)) : Except JsError SequencerParams := do
  return {
    sequencerAddress := ← (stored "sequencerAddress" fs).foldlM setText held.sequencerAddress
    sharedSetMinSize := ← (stored "sharedSetMinSize" fs).foldlM (setPointer 0 setInt) held.sharedSetMinSize
    inclusionDelay := ← (stored "inclusionDelay" fs).foldlM (setPointer 0 setInt) held.inclusionDelay
    priorityFeeShare := ← (stored "priorityFeeShare" fs).foldlM setText held.priorityFeeShare }

def RollupConfig.fill (held : RollupConfig) (fs : List (String × Json)) : Except JsError RollupConfig := do
  return {
    rollupID := ← (stored "rollupId" fs).foldlM setText held.rollupID
    profile := ← (stored "profile" fs).foldlM setText held.profile
    settlement := ← (stored "settlement" fs).foldlM setText held.settlement
    sequencer := ← (stored "sequencer" fs).foldlM setText held.sequencer
    sequencerParams := ←
      (stored "sequencerParams" fs).foldlM (setPointer {} (setStruct SequencerParams.fill)) held.sequencerParams
    da := ← (stored "da" fs).foldlM setText held.da
    proofSystem := ← (stored "proofSystem" fs).foldlM setText held.proofSystem
    gasModel := ← (stored "gasModel" fs).foldlM setText held.gasModel
    vmType := ← (stored "vmType" fs).foldlM setText held.vmType
    blockTimeMs := ← (stored "blockTimeMs" fs).foldlM setInt held.blockTimeMs
    maxTxPerBlock := ← (stored "maxTxPerBlock" fs).foldlM setInt held.maxTxPerBlock
    challengeWindowSecs := ← (stored "challengeWindowSecs" fs).foldlM setInt held.challengeWindowSecs
    challengeBondUqor := ← (stored "challengeBondUqor" fs).foldlM setText held.challengeBondUqor
    maxDaBlobSize := ← (stored "maxDaBlobSize" fs).foldlM setInt held.maxDaBlobSize
    stakeAmountUqor := ← (stored "stakeAmountUqor" fs).foldlM setText held.stakeAmountUqor }

def Endpoints.fill (held : Endpoints) (fs : List (String × Json)) : Except JsError Endpoints := do
  return {
    rest := ← (stored "rest" fs).foldlM setText held.rest
    rpc := ← (stored "rpc" fs).foldlM setText held.rpc
    grpc := ← (stored "grpc" fs).foldlM setText held.grpc
    evmRPC := ← (stored "evmRpc" fs).foldlM setText held.evmRPC }

/-- A map is filled further. -/
def setMap (held : TextMap) : Json → Except JsError TextMap
  | .object fs => TextMap.read (setText "") held fs
  | .null => .ok .empty
  | _ => otherType

def setTexts (_ : List String) : Json → Except JsError (List String)
  | .array items => items.mapM (setText "")
  | .null => .ok []
  | _ => otherType

def RollupManifest.ofFields (fs : List (String × Json)) : Except JsError RollupManifest := do
  return {
    schema := ← (stored "schema" fs).foldlM setText ""
    version := ← (stored "version" fs).foldlM setInt 0
    network := ← (stored "network" fs).foldlM setText ""
    chainID := ← (stored "chainId" fs).foldlM setText ""
    endpoints := ← (stored "endpoints" fs).foldlM (setPointer {} (setStruct Endpoints.fill)) none
    config := ← (stored "config" fs).foldlM (setStruct RollupConfig.fill) {}
    addresses := ← (stored "addresses" fs).foldlM setMap .empty
    createdAt := ← (stored "createdAt" fs).foldlM setText ""
    notes := ← (stored "notes" fs).foldlM setTexts [] }

def RollupManifest.ofJson : Json → Except JsError RollupManifest
  | .object fs => ofFields fs
  | .null => .ok {}
  | _ => otherType

def unlessEmpty (s : String) : Option String := if s = "" then none else some s

def Endpoints.toTs (endpoints : Endpoints) : PartialEndpoints where
  rest := unlessEmpty endpoints.rest
  rpc := unlessEmpty endpoints.rpc
  grpc := unlessEmpty endpoints.grpc
  evmRpc := unlessEmpty endpoints.evmRPC

def RollupManifest.toTs (manifest : RollupManifest) : QorechainRdk.RollupManifest where
  schema := some manifest.schema
  version := some (.integer manifest.version)
  network := some manifest.network
  chainId := unlessEmpty manifest.chainID
  endpoints := manifest.endpoints.map Endpoints.toTs
  config := manifest.config.toTs
  addresses := if manifest.addresses.entries.isEmpty then none else some manifest.addresses
  createdAt := unlessEmpty manifest.createdAt
  notes := if manifest.notes.isEmpty then none else some manifest.notes

/-! ### What Go writes -/

theorem nonempty_eq (s : String) : nonempty s = (unlessEmpty s).map .string := by
  unfold nonempty unlessEmpty
  split <;> rfl

theorem nonzero_eq (n : Int) : nonzero n = (if n = 0 then none else some (Number.integer n)).map .number := by
  unfold nonzero
  split <;> rfl

theorem SequencerParams.toJson_written (params : SequencerParams) : params.toTs.Written params.toJson := by
  have same : params.toJson = record params.toTs.fields := by
    unfold toJson toTs QorechainRdk.SequencerParams.fields
    simp only [nonempty_eq, unlessEmpty, Option.map_map]
    rfl
  rw [same]
  exact QorechainRdk.SequencerParams.record_written _

theorem Endpoints.toJson_written (endpoints : Endpoints) : endpoints.toTs.Written endpoints.toJson := by
  have same : endpoints.toJson = record endpoints.toTs.fields := by
    unfold toJson toTs PartialEndpoints.fields
    simp only [nonempty_eq]
  rw [same]
  exact PartialEndpoints.record_written _

theorem RollupConfig.toJson_written (config : RollupConfig) : config.toTs.Written config.toJson := by
  have params : Option.Rel QorechainRdk.SequencerParams.Written config.toTs.sequencerParams
      (config.sequencerParams.map SequencerParams.toJson) := by
    show Option.Rel _ (config.sequencerParams.map SequencerParams.toTs) _
    cases config.sequencerParams with
    | none => exact .none
    | some params => exact .some params.toJson_written
  refine ⟨_, params, ?_⟩
  have same : config.toJson = record (config.toTs.fields (config.sequencerParams.map SequencerParams.toJson)) := by
    unfold toJson toTs QorechainRdk.RollupConfig.fields
    simp only [nonempty_eq, nonzero_eq, unlessEmpty]
    rfl
  rw [same]
  exact isRecord_record _

theorem RollupManifest.toJson_written (manifest : RollupManifest) : manifest.toTs.Written manifest.toJson := by
  have endpoints : Option.Rel PartialEndpoints.Written manifest.toTs.endpoints
      (manifest.endpoints.map Endpoints.toJson) := by
    show Option.Rel _ (manifest.endpoints.map Endpoints.toTs) _
    cases manifest.endpoints with
    | none => exact .none
    | some endpoints => exact .some endpoints.toJson_written
  have addresses : Option.Rel TextMap.Written manifest.toTs.addresses
      (if manifest.addresses.entries.isEmpty then none else some manifest.addresses.toSortedJson) := by
    unfold toTs
    dsimp only
    cases manifest.addresses.entries.isEmpty with
    | true => exact .none
    | false => exact .some manifest.addresses.toSortedJson_written
  have notes : (if manifest.notes.isEmpty then none else some (textsJson manifest.notes)) =
      manifest.toTs.notes.map textsJson := by
    unfold toTs
    dsimp only
    cases manifest.notes.isEmpty <;> rfl
  refine ⟨_, _, _, endpoints, manifest.config.toJson_written, addresses, ?_⟩
  have same : manifest.toJson = record (manifest.toTs.fields (manifest.endpoints.map Endpoints.toJson)
      (some manifest.config.toJson)
      (if manifest.addresses.entries.isEmpty then none else some manifest.addresses.toSortedJson)) := by
    unfold toJson QorechainRdk.RollupManifest.fields
    rw [notes]
    simp only [nonempty_eq]
    rfl
  rw [same]
  exact isRecord_record _

/-! ### What Go reads -/

section
variable {fs : List (String × Json)} {fields : List (String × Option Json)} {name : String} {value : Option Json}

/-- Of fields whose names differ in folded case too, each is stored where it belongs. -/
theorem stored_eq (spells : Records.Spells fs fields) (distinct : ((fields.map Prod.fst).map foldName).Nodup)
    (member : (name, value) ∈ fields) : stored name fs = value.toList := by
  refine spells.under (List.Nodup.of_map _ distinct) member ?_
  intro f inside
  rw [beq_iff_eq]
  constructor
  · intro folded
    exact List.inj_on_of_nodup_map distinct (List.mem_map_of_mem inside) (List.mem_map_of_mem member) folded
  · intro named
    rw [named]

theorem stored_once {α : Type} {set : α → Json → Except JsError α} {zero a : α} {v : Json}
    (sets : set zero v = .ok a) : (some v).toList.foldlM set zero = .ok a := by
  rw [Option.toList_some, List.foldlM_cons, sets]
  rfl

theorem setText_stored (held : Option String) :
    (held.map Json.string).toList.foldlM setText "" = .ok (held.getD "") := by
  cases held <;> rfl

theorem setInt_integer {k : Int} (small : IsInt32 k) (held : Int) : setInt held (.number (.integer k)) = .ok k := by
  obtain ⟨low, high⟩ := small
  exact if_pos ⟨by omega, by omega⟩

theorem setInt_stored {n : Option Int} (small : ∀ k, n = some k → IsInt32 k) :
    ((n.map Number.integer).map Json.number).toList.foldlM setInt 0 = .ok (n.getD 0) := by
  cases n with
  | none => rfl
  | some k => exact stored_once (setInt_integer (small k rfl) 0)

theorem pointer_struct {α β : Type} {zero : α} {fill : α → List (String × Json) → Except JsError α}
    {written : β → Json → Prop} {toTs : α → β} {held : Option β} (rel : Option.Rel written held value)
    (fills : ∀ b v, held = some b → written b v → ∃ fs a, v = .object fs ∧ fill zero fs = .ok a ∧ toTs a = b) :
    ∃ a, value.toList.foldlM (setPointer zero (setStruct fill)) none = .ok a ∧ a.map toTs = held := by
  cases rel with
  | none => exact ⟨none, rfl, rfl⟩
  | some given =>
    obtain ⟨fs, a, rfl, filled, same⟩ := fills _ _ rfl given
    have pointed : setPointer zero (setStruct fill) none (.object fs) = .ok (some a) :=
      congrArg (fun x : Except JsError α => x.map some) filled
    exact ⟨some a, stored_once pointed, congrArg some same⟩

theorem pointer_int {n : Option Int} (small : ∀ k, n = some k → IsInt32 k) :
    ((n.map Number.integer).map Json.number).toList.foldlM (setPointer 0 setInt) none = .ok n := by
  cases n with
  | none => rfl
  | some k =>
    have pointed : setPointer 0 setInt none (.number (.integer k)) = .ok (some k) :=
      congrArg (fun x : Except JsError Int => x.map some) (setInt_integer (small k rfl) 0)
    exact stored_once pointed

theorem unlessEmpty_getD {held : Option String} (given : held ≠ some "") : unlessEmpty (held.getD "") = held := by
  cases held with
  | none => rfl
  | some s =>
    have solid : s ≠ "" := fun empty => given (congrArg some empty)
    exact if_neg solid

theorem some_getD {held : Option String} {s : String} (given : held = some s) : some (held.getD "") = held := by
  rw [given]
  rfl

theorem unlessZero_getD {n : Option Int} (given : ∀ k, n = some k → k ≠ 0) :
    (if n.getD 0 = 0 then none else some (Number.integer (n.getD 0))) = n.map .integer := by
  cases n with
  | none => rfl
  | some k => exact if_neg (given k rfl)

end

theorem params_read {params : QorechainRdk.SequencerParams} {value : Json} (written : params.Written value)
    (portable : params.Portable) :
    ∃ fs g, value = .object fs ∧ SequencerParams.fill {} fs = .ok g ∧ g.toTs = params := by
  obtain ⟨fs, rfl, spells⟩ := written
  have folded : ((params.fields.map Prod.fst).map foldName).Nodup := by
    have names : params.fields.map Prod.fst =
        ["sequencerAddress", "sharedSetMinSize", "inclusionDelay", "priorityFeeShare"] := rfl
    rw [names]
    decide
  have found : ∀ field ∈ params.fields, stored field.1 fs = field.2.toList :=
    fun field member => stored_eq spells folded member
  obtain ⟨address, ⟨n, size, small⟩, ⟨k, delay, short⟩, share⟩ := portable
  simp only [QorechainRdk.SequencerParams.fields, List.forall_mem_cons, size, delay] at found
  obtain ⟨storedAddress, storedSize, storedDelay, storedShare, -⟩ := found
  let g : SequencerParams := {
    sequencerAddress := params.sequencerAddress.getD ""
    sharedSetMinSize := n
    inclusionDelay := k
    priorityFeeShare := params.priorityFeeShare.getD "" }
  refine ⟨fs, g, rfl, ?_, ?_⟩
  · unfold SequencerParams.fill
    rw [storedAddress, storedSize, storedDelay, storedShare]
    simp only [setText_stored, pointer_int fun k h => (small k h).2, pointer_int fun n h => (short n h).2, ok_bind]
    rfl
  · unfold SequencerParams.toTs
    have addressed := unlessEmpty_getD address
    have shared := unlessEmpty_getD share
    unfold unlessEmpty at addressed shared
    rw [addressed, shared, ← size, ← delay]

theorem endpoints_read {endpoints : PartialEndpoints} {value : Json} (written : endpoints.Written value)
    (portable : endpoints.Portable) :
    ∃ fs g, value = .object fs ∧ Endpoints.fill {} fs = .ok g ∧ g.toTs = endpoints := by
  obtain ⟨fs, rfl, spells⟩ := written
  have folded : ((endpoints.fields.map Prod.fst).map foldName).Nodup := by
    have names : endpoints.fields.map Prod.fst = ["rest", "rpc", "grpc", "evmRpc"] := rfl
    rw [names]
    decide
  have found : ∀ field ∈ endpoints.fields, stored field.1 fs = field.2.toList :=
    fun field member => stored_eq spells folded member
  simp only [PartialEndpoints.fields, List.forall_mem_cons] at found
  obtain ⟨rest, rpc, grpc, evmRpc, -⟩ := found
  let g : Endpoints := {
    rest := endpoints.rest.getD ""
    rpc := endpoints.rpc.getD ""
    grpc := endpoints.grpc.getD ""
    evmRPC := endpoints.evmRpc.getD "" }
  refine ⟨fs, g, rfl, ?_, ?_⟩
  · unfold Endpoints.fill
    rw [rest, rpc, grpc, evmRpc]
    simp only [setText_stored, ok_bind]
    rfl
  · unfold Endpoints.toTs
    rw [unlessEmpty_getD portable.rest, unlessEmpty_getD portable.rpc, unlessEmpty_getD portable.grpc,
      unlessEmpty_getD portable.evmRpc]

/-- What is zero or empty is read as it was before. -/
def RollupConfig.ofPortable (config : QorechainRdk.RollupConfig) (params : Option SequencerParams)
    (blockTimeMs maxTxPerBlock window blob : Int) : RollupConfig where
  rollupID := config.rollupId.getD ""
  profile := config.profile.getD ""
  settlement := config.settlement.getD ""
  sequencer := config.sequencer.getD ""
  sequencerParams := params
  da := config.da.getD ""
  proofSystem := config.proofSystem.getD ""
  gasModel := config.gasModel.getD ""
  vmType := config.vmType.getD ""
  blockTimeMs
  maxTxPerBlock
  challengeWindowSecs := window
  challengeBondUqor := config.challengeBondUqor.getD ""
  maxDaBlobSize := blob
  stakeAmountUqor := config.stakeAmountUqor.getD ""

theorem RollupConfig.ofPortable_toTs {config : QorechainRdk.RollupConfig} (portable : config.Portable)
    {params : Option SequencerParams} {blockTimeMs maxTxPerBlock : Int} {window blob : Option Int}
    (given : params.map SequencerParams.toTs = config.sequencerParams)
    (block : config.blockTimeMs = some (.integer blockTimeMs))
    (max : config.maxTxPerBlock = some (.integer maxTxPerBlock))
    (windows : config.challengeWindowSecs = window.map .integer) (some_window : ∀ k, window = some k → k ≠ 0)
    (blobs : config.maxDaBlobSize = blob.map .integer) (some_blob : ∀ k, blob = some k → k ≠ 0) :
    (ofPortable config params blockTimeMs maxTxPerBlock (window.getD 0) (blob.getD 0)).toTs = config := by
  obtain ⟨⟨id, rollupId⟩, ⟨_, profile⟩, ⟨_, settlement⟩, ⟨_, sequencer⟩, _, ⟨_, da⟩, ⟨_, proofSystem⟩,
    ⟨_, gasModel⟩, ⟨_, vmType⟩, _, _, _, bond, _, stake⟩ := portable
  have bonds := unlessEmpty_getD bond
  have stakes := unlessEmpty_getD stake
  unfold unlessEmpty at bonds stakes
  unfold ofPortable toTs
  dsimp only
  rw [unlessZero_getD some_window, unlessZero_getD some_blob, ← windows, ← blobs, bonds, stakes, given, ← block,
    ← max, some_getD rollupId, some_getD profile, some_getD settlement, some_getD sequencer, some_getD da,
    some_getD proofSystem, some_getD gasModel, some_getD vmType]

theorem config_read {config : QorechainRdk.RollupConfig} {value : Json} (written : config.Written value)
    (portable : config.Portable) :
    ∃ fs g, value = .object fs ∧ RollupConfig.fill {} fs = .ok g ∧ g.toTs = config := by
  obtain ⟨params, given, fs, rfl, spells⟩ := written
  have folded : (((config.fields params).map Prod.fst).map foldName).Nodup := by
    have names : (config.fields params).map Prod.fst = ["rollupId", "profile", "settlement", "sequencer",
        "sequencerParams", "da", "proofSystem", "gasModel", "vmType", "blockTimeMs", "maxTxPerBlock",
        "challengeWindowSecs", "challengeBondUqor", "maxDaBlobSize", "stakeAmountUqor"] := rfl
    rw [names]
    decide
  have found : ∀ field ∈ config.fields params, stored field.1 fs = field.2.toList :=
    fun field member => stored_eq spells folded member
  have filled : ∃ g, params.toList.foldlM (setPointer {} (setStruct SequencerParams.fill)) none = .ok g ∧
      g.map SequencerParams.toTs = config.sequencerParams :=
    pointer_struct given fun p v held written => params_read written (portable.sequencerParams p held)
  obtain ⟨g, pointed, same⟩ := filled
  obtain ⟨blockTimeMs, block, smallBlock⟩ := portable.blockTimeMs
  obtain ⟨maxTxPerBlock, max, smallMax⟩ := portable.maxTxPerBlock
  obtain ⟨window, windows, smallWindow⟩ := portable.challengeWindowSecs
  obtain ⟨blob, blobs, smallBlob⟩ := portable.maxDaBlobSize
  have integer : ∀ {k : Int}, IsInt32 k →
      ((some (Number.integer k)).map Json.number).toList.foldlM setInt 0 = .ok k :=
    fun small => stored_once (setInt_integer small 0)
  simp only [QorechainRdk.RollupConfig.fields, List.forall_mem_cons, block, max, windows, blobs] at found
  obtain ⟨rollupId, profile, settlement, sequencer, sequencerParams, da, proofSystem, gasModel, vmType,
    storedBlock, storedMax, storedWindow, challengeBond, storedBlob, stakeAmount, -⟩ := found
  refine ⟨fs, .ofPortable config g blockTimeMs maxTxPerBlock (window.getD 0) (blob.getD 0), rfl, ?_,
    RollupConfig.ofPortable_toTs portable same block max windows (fun k h => (smallWindow k h).2) blobs
      (fun k h => (smallBlob k h).2)⟩
  unfold RollupConfig.fill
  rw [rollupId, profile, settlement, sequencer, sequencerParams, da, proofSystem, gasModel, vmType, storedBlock,
    storedMax, storedWindow, challengeBond, storedBlob, stakeAmount, pointed, integer smallBlock, integer smallMax,
    setInt_stored fun k h => (smallWindow k h).1, setInt_stored fun k h => (smallBlob k h).1]
  simp only [setText_stored, ok_bind]
  rfl

theorem addresses_read {held : Option TextMap} {value : Option Json} (rel : Option.Rel TextMap.Written held value)
    (portable : ∀ m, held = some m → m.entries ≠ []) :
    ∃ m, value.toList.foldlM setMap .empty = .ok m ∧
      Option.Rel TextMap.Same (if m.entries.isEmpty then none else some m) held := by
  cases rel with
  | none => exact ⟨.empty, rfl, .none⟩
  | some given =>
    rename_i written _
    have reads : ∀ s, setText "" (.string s) = .ok s := fun _ => rfl
    obtain ⟨fs, m, rfl, back, same⟩ := given.read reads
    have solid : m.entries.isEmpty = false := by
      rw [Bool.eq_false_iff]
      intro empty
      rw [List.isEmpty_iff] at empty
      have nothing : [].Perm written.entries := empty ▸ same
      exact portable _ rfl (List.nil_perm.mp nothing)
    refine ⟨m, stored_once back, ?_⟩
    rw [solid]
    exact .some same

theorem notes_read {held : Option (List String)} (given : held ≠ some []) :
    (held.map textsJson).toList.foldlM setTexts [] = .ok (held.getD []) ∧
      (if (held.getD []).isEmpty then none else some (held.getD [])) = held := by
  cases held with
  | none => exact ⟨rfl, rfl⟩
  | some texts =>
    refine ⟨stored_once (mapM_strings (fun _ => rfl) texts), ?_⟩
    cases texts with
    | nil => exact absurd rfl given
    | cons s texts => rfl

/-- Of a manifest that every client can hold, Go reads all. -/
theorem RollupManifest.read {manifest : QorechainRdk.RollupManifest} {value : Json}
    (written : manifest.Written value) (portable : manifest.Portable) :
    ∃ g, ofJson value = .ok g ∧ g.toTs.ReadAs manifest := by
  obtain ⟨endpoints, config, addresses, givenEndpoints, givenConfig, givenAddresses, fs, rfl, spells⟩ := written
  have folded : (((manifest.fields endpoints (some config) addresses).map Prod.fst).map foldName).Nodup := by
    have names : (manifest.fields endpoints (some config) addresses).map Prod.fst = ["schema", "version", "network",
        "chainId", "endpoints", "config", "addresses", "createdAt", "notes"] := rfl
    rw [names]
    decide
  have found : ∀ field ∈ manifest.fields endpoints (some config) addresses, stored field.1 fs = field.2.toList :=
    fun field member => stored_eq spells folded member
  have pointed : ∃ g, endpoints.toList.foldlM (setPointer {} (setStruct Endpoints.fill)) none = .ok g ∧
      g.map Endpoints.toTs = manifest.endpoints :=
    pointer_struct givenEndpoints fun e v held written => endpoints_read written (portable.endpoints e held)
  obtain ⟨e, pointed, sameEndpoints⟩ := pointed
  obtain ⟨inner, c, rfl, filled, sameConfig⟩ := config_read givenConfig portable.config
  have configured : (some (Json.object inner)).toList.foldlM (setStruct RollupConfig.fill) {} = .ok c :=
    stored_once filled
  obtain ⟨m, mapped, sameAddresses⟩ := addresses_read givenAddresses portable.addresses
  obtain ⟨noted, sameNotes⟩ := notes_read portable.notes
  have versioned : ((some (Number.integer 1)).map Json.number).toList.foldlM setInt 0 = .ok 1 := rfl
  simp only [QorechainRdk.RollupManifest.fields, List.forall_mem_cons, portable.version] at found
  obtain ⟨schema, version, network, chainId, storedEndpoints, storedConfig, storedAddresses, createdAt, notes, -⟩ :=
    found
  let g : RollupManifest := {
    schema := manifest.schema.getD ""
    version := 1
    network := manifest.network.getD ""
    chainID := manifest.chainId.getD ""
    endpoints := e
    config := c
    addresses := m
    createdAt := manifest.createdAt.getD ""
    notes := manifest.notes.getD [] }
  refine ⟨g, ?_, ?_, sameAddresses⟩
  · show ofFields fs = _
    unfold ofFields
    rw [schema, version, network, chainId, storedEndpoints, storedConfig, storedAddresses, createdAt, notes,
      versioned, pointed, configured, mapped, noted]
    simp only [setText_stored, ok_bind]
    rfl
  · have networked : some (manifest.network.getD "") = manifest.network := by
      rcases portable.network with given | given <;> exact some_getD given
    unfold toTs
    dsimp only [g]
    rw [sameEndpoints, sameConfig, sameNotes, some_getD portable.schema, networked, ← portable.version,
      unlessEmpty_getD portable.chainId, unlessEmpty_getD portable.createdAt]

end Go
end QorechainRdk
