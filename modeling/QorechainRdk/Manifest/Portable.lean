import QorechainRdk.Manifest.Go
import QorechainRdk.Manifest.Jvm
import QorechainRdk.Manifest.Order
import QorechainRdk.Manifest.Py
import QorechainRdk.Manifest.Rust

/-!
# Manifests travel between the clients

A manifest that one client writes is loaded by every other one as the same manifest, and both judge its configuration
alike. The libraries of the clients write and read the texts.
-/

namespace QorechainRdk

open Js

/-! ### What is written is plain -/

theorem IsRecord.plain {value : Json} {fields : List (String × Option Json)} (written : IsRecord value fields)
    (distinct : (fields.map Prod.fst).Nodup) (plain : ∀ field ∈ fields, ∀ v, field.2 = some v → v.Plain) :
    value.Plain := by
  obtain ⟨fs, rfl, spells⟩ := written
  refine ⟨spells.distinct distinct, fieldsPlain_iff.mpr ?_⟩
  intro f member
  exact plain _ (Records.mem_set.mp (spells.mem_iff.mp member)) _ rfl

def PlainField (field : String × Option Json) : Prop := ∀ v, field.2 = some v → v.Plain

theorem plain_text (name : String) (held : Option String) : PlainField (name, held.map .string) := by
  intro v given
  obtain ⟨s, -, rfl⟩ := Option.map_eq_some_iff.mp given
  trivial

theorem plain_int {held : Option Number} {n : Option Int} (name : String) (given : held = n.map .integer)
    (small : ∀ k, n = some k → IsInt32 k) : PlainField (name, held.map .number) := by
  intro v written
  rw [given, Option.map_map] at written
  obtain ⟨k, held, rfl⟩ := Option.map_eq_some_iff.mp written
  refine ⟨k, rfl, ?_⟩
  obtain ⟨low, high⟩ := small k held
  unfold MAX_SAFE_INTEGER
  omega

theorem strings_plain (texts : List String) : itemsPlain (texts.map .string) := by
  induction texts with
  | nil => trivial
  | cons s texts ih => exact ⟨trivial, ih⟩

theorem plain_texts (name : String) (held : Option (List String)) : PlainField (name, held.map textsJson) := by
  intro v given
  obtain ⟨texts, -, rfl⟩ := Option.map_eq_some_iff.mp given
  exact strings_plain texts

theorem plain_rel {α : Type} {written : α → Json → Prop} {held : Option α} {value : Option Json} (name : String)
    (rel : Option.Rel written held value) (plain : ∀ a v, held = some a → written a v → v.Plain) :
    PlainField (name, value) := by
  intro v given
  cases rel with
  | none => cases given
  | some written =>
    cases given
    exact plain _ _ rfl written

theorem TextMap.Written.plain {m : TextMap} {value : Json} (written : m.Written value) : value.Plain := by
  obtain ⟨es, perm, rfl⟩ := written
  refine ⟨?_, fieldsPlain_iff.mpr ?_⟩
  · rw [List.map_map]
    exact (perm.map Prod.fst).nodup_iff.mpr m.distinct
  · intro f member
    obtain ⟨e, -, rfl⟩ := List.mem_map.mp member
    trivial

theorem SequencerParams.Written.plain {params : SequencerParams} {value : Json} (written : params.Written value)
    (portable : params.Portable) : value.Plain := by
  obtain ⟨-, ⟨n, size, small⟩, ⟨k, delay, short⟩, -⟩ := portable
  apply IsRecord.plain written (params_names params)
  have held : ∀ field ∈ params.fields, PlainField field := by
    simp only [fields, List.forall_mem_cons]
    exact ⟨plain_text _ _, plain_int _ size fun i h => (small i h).2, plain_int _ delay fun i h => (short i h).2,
      plain_text _ _, List.forall_mem_nil _⟩
  exact held

theorem PartialEndpoints.Written.plain {endpoints : PartialEndpoints} {value : Json}
    (written : endpoints.Written value) : value.Plain := by
  apply IsRecord.plain written (endpoints_names endpoints)
  have held : ∀ field ∈ endpoints.fields, PlainField field := by
    simp only [fields, List.forall_mem_cons]
    exact ⟨plain_text _ _, plain_text _ _, plain_text _ _, plain_text _ _, List.forall_mem_nil _⟩
  exact held

theorem RollupConfig.Written.plain {config : RollupConfig} {value : Json} (written : config.Written value)
    (portable : config.Portable) : value.Plain := by
  obtain ⟨params, given, written⟩ := written
  apply written.plain (config_names config params)
  have sequencing := plain_rel "sequencerParams" given fun p v held written =>
    SequencerParams.Written.plain written (portable.sequencerParams p held)
  obtain ⟨block, hasBlock, smallBlock⟩ := portable.blockTimeMs
  obtain ⟨max, hasMax, smallMax⟩ := portable.maxTxPerBlock
  obtain ⟨window, hasWindow, smallWindow⟩ := portable.challengeWindowSecs
  obtain ⟨blob, hasBlob, smallBlob⟩ := portable.maxDaBlobSize
  have one : ∀ {j : Int} {held : Option Number} (name : String), held = some (.integer j) → IsInt32 j →
      PlainField (name, held.map .number) := by
    intro j held name given small
    apply plain_int name (n := some j) given
    intro k same
    cases same
    exact small
  have held : ∀ field ∈ config.fields params, PlainField field := by
    simp only [fields, List.forall_mem_cons]
    exact ⟨plain_text _ _, plain_text _ _, plain_text _ _, plain_text _ _, sequencing, plain_text _ _,
      plain_text _ _, plain_text _ _, plain_text _ _, one _ hasBlock smallBlock,
      one _ hasMax smallMax, plain_int _ hasWindow fun i h => (smallWindow i h).1,
      plain_text _ _, plain_int _ hasBlob fun i h => (smallBlob i h).1, plain_text _ _, List.forall_mem_nil _⟩
  exact held

theorem RollupManifest.Written.plain {manifest : RollupManifest} {value : Json} (written : manifest.Written value)
    (portable : manifest.Portable) : value.Plain := by
  obtain ⟨endpoints, config, addresses, givenEndpoints, givenConfig, givenAddresses, written⟩ := written
  apply written.plain (manifest_names manifest endpoints (some config) addresses)
  have version : manifest.version = (some (1 : Int)).map Number.integer := portable.version
  have small : ∀ k : Int, some 1 = some k → IsInt32 k := by
    intro k same
    cases same
    unfold IsInt32
    omega
  have configured : PlainField ("config", some config) := by
    intro v same
    cases same
    exact givenConfig.plain portable.config
  have held : ∀ field ∈ manifest.fields endpoints (some config) addresses, PlainField field := by
    simp only [fields, List.forall_mem_cons]
    exact ⟨plain_text _ _, plain_int _ version small, plain_text _ _, plain_text _ _,
      plain_rel _ givenEndpoints fun _ _ _ => PartialEndpoints.Written.plain, configured,
      plain_rel _ givenAddresses fun _ _ _ => TextMap.Written.plain, plain_text _ _, plain_texts _ _,
      List.forall_mem_nil _⟩
  exact held

/-! ### The clients -/

inductive Client where
  | typescript
  | go
  | rust
  | java
  | python
  deriving DecidableEq, Repr

namespace Client

def Config : Client → Type
  | .typescript => RollupConfig
  | .go => Go.RollupConfig
  | .rust => Rust.RollupConfig
  | .java => Jvm.RollupConfig
  | .python => Py.RollupConfig

def Manifest : Client → Type
  | .typescript => RollupManifest
  | .go => Go.RollupManifest
  | .rust => Rust.RollupManifest
  | .java => Jvm.RollupManifest
  | .python => Py.RollupManifest

def Options : Client → Type
  | .typescript => ToManifestOptions
  | .go => Go.ToManifestOptions
  | .rust => Rust.ToManifestOptions
  | .java => Jvm.ToManifestOptions
  | .python => Py.ToManifestOptions

def toManifest : (c : Client) → c.Config → c.Options → c.Manifest
  | .typescript => QorechainRdk.toManifest
  | .go => Go.toManifest
  | .rust => Rust.toManifest
  | .java => Jvm.toManifest
  | .python => Py.toManifest

/-- The values that a client may write for a manifest; in TypeScript the properties stand in the order in which they
were set. -/
def Writes : (c : Client) → c.Manifest → Json → Prop
  | .typescript, manifest, value => RollupManifest.Written manifest value
  | .go, manifest, value => value = Go.RollupManifest.toJson manifest
  | .rust, manifest, value => value = Rust.RollupManifest.toJson manifest
  | .java, manifest, value => value = Jvm.RollupManifest.toJson manifest
  | .python, manifest, value => value = Py.manifestToDict manifest

/-- What is parsed, and the configuration of the builder that `fromManifest` makes of it. -/
def load : (c : Client) → Json → Except JsError (c.Manifest × c.Config)
  | .typescript, value => do
    let manifest ← RollupManifest.ofJson value
    let builder ← QorechainRdk.fromManifest manifest
    return (manifest, builder.config)
  | .go, value => do
    let manifest ← Go.RollupManifest.ofJson value
    return (manifest, ← Go.fromManifest manifest)
  | .rust, value => do
    let manifest ← Rust.RollupManifest.ofJson value
    return (manifest, ← Rust.fromManifest manifest)
  | .java, value => do
    let manifest ← Jvm.RollupManifest.ofJson value
    let config ← Jvm.fromManifest manifest
    match manifest with
    | none => wrongSchema
    | some manifest => return (manifest, config)
  | .python, value => do
    let manifest ← Py.manifestFromDict value
    return (manifest, ← Py.fromManifest manifest)

def validateRollupConfig : (c : Client) → c.Config → ValidationResult
  | .typescript => QorechainRdk.validateRollupConfig
  | .go => Go.validateRollupConfig
  | .rust => Rust.validateRollupConfig
  | .java => Jvm.validateRollupConfig
  | .python => Py.validateRollupConfig

def configToTs : (c : Client) → c.Config → RollupConfig
  | .typescript => id
  | .go => Go.RollupConfig.toTs
  | .rust => Rust.RollupConfig.toTs
  | .java => Jvm.RollupConfig.toTs
  | .python => Py.RollupConfig.toTs

def toTs : (c : Client) → c.Manifest → RollupManifest
  | .typescript => id
  | .go => Go.RollupManifest.toTs
  | .rust => Rust.RollupManifest.toTs
  | .java => Jvm.RollupManifest.toTs
  | .python => Py.RollupManifest.toTs

/-- The dictionary of endpoints in Python has no names beyond those of the other clients. -/
def EndpointsNamed : (c : Client) → c.Options → Prop
  | .python, options => ∀ endpoints, Py.ToManifestOptions.endpoints options = some endpoints →
      ∀ e ∈ endpoints.entries, e.1 ∈ Py.ENDPOINT_NAMES
  | _, _ => True

variable {a b : Client} {value : Json}

theorem toManifest_config (config : a.Config) (options : a.Options) :
    RollupManifest.config (a.toTs (a.toManifest config options)) = a.configToTs config := by
  cases a <;> rfl

/-- What a client writes is what TypeScript writes of the same manifest. -/
theorem Writes.same {config : a.Config} {options : a.Options} (writes : a.Writes (a.toManifest config options) value)
    (portable : (a.toTs (a.toManifest config options)).Portable) (named : a.EndpointsNamed options) :
    ∃ manifest, manifest.Written value ∧ manifest.Portable ∧
      SameManifest manifest (a.toTs (a.toManifest config options)) := by
  have self : ∀ manifest : RollupManifest, SameManifest manifest manifest := by
    intro manifest
    refine ⟨rfl, ?_⟩
    cases manifest.addresses with
    | none => exact .none
    | some m => exact .some (List.Perm.refl _)
  cases a with
  | typescript => exact ⟨_, writes, portable, self _⟩
  | go =>
    obtain rfl := writes
    exact ⟨_, Go.RollupManifest.toJson_written _, portable, self _⟩
  | rust =>
    obtain rfl := writes
    exact ⟨_, Rust.RollupManifest.toJson_written _, portable, self _⟩
  | java =>
    obtain rfl := writes
    exact ⟨_, Jvm.RollupManifest.toJson_written rfl, portable, self _⟩
  | python =>
    obtain rfl := writes
    have portable : (Py.RollupManifest.toTs (Py.toManifest config options)).Portable := portable
    refine ⟨_, Py.manifestToDict_written named, { portable with config := Py.written_portable portable.config }, ?_⟩
    refine ⟨?_, (self (Py.RollupManifest.toTs (Py.toManifest config options))).addresses⟩
    exact congrArg (fun c => ({ Py.RollupManifest.toTs (Py.toManifest config options) with
      config := c
      addresses := none } : RollupManifest)) (Py.written_meaning config)

theorem load_written {manifest : RollupManifest} (written : manifest.Written value) (portable : manifest.Portable) :
    ∃ m c, b.load value = .ok (m, c) ∧ SameManifest (b.toTs m) manifest ∧
      b.configToTs c = RollupManifest.config (b.toTs m) := by
  cases b with
  | typescript =>
    obtain ⟨read, back, same⟩ := written.read
    have schema : read.schema = some MANIFEST_SCHEMA := same.same.schema.trans portable.schema
    refine ⟨read, read.config, ?_, same.same, rfl⟩
    show (do
      let manifest ← RollupManifest.ofJson value
      let builder ← QorechainRdk.fromManifest manifest
      return (manifest, builder.config) : Except JsError (RollupManifest × RollupConfig)) = _
    unfold QorechainRdk.fromManifest
    rw [back, ok_bind, if_neg (not_not.mpr schema)]
    rfl
  | go =>
    obtain ⟨read, back, same⟩ := Go.RollupManifest.read written portable
    have schema : read.schema = MANIFEST_SCHEMA := Option.some.inj (same.same.schema.trans portable.schema)
    refine ⟨read, read.config, ?_, same.same, rfl⟩
    show (do
      let manifest ← Go.RollupManifest.ofJson value
      return (manifest, ← Go.fromManifest manifest) : Except JsError (Go.RollupManifest × Go.RollupConfig)) = _
    unfold Go.fromManifest
    rw [back, ok_bind, if_neg (not_not.mpr schema)]
    rfl
  | rust =>
    obtain ⟨read, back, same⟩ := Rust.RollupManifest.read written portable
    have schema : read.schema = MANIFEST_SCHEMA := Option.some.inj (same.schema.trans portable.schema)
    refine ⟨read, read.config, ?_, same, rfl⟩
    show (do
      let manifest ← Rust.RollupManifest.ofJson value
      return (manifest, ← Rust.fromManifest manifest) :
        Except JsError (Rust.RollupManifest × Rust.RollupConfig)) = _
    unfold Rust.fromManifest
    rw [back, ok_bind, if_neg (not_not.mpr schema)]
    rfl
  | java =>
    obtain ⟨read, config, back, given, same⟩ := Jvm.RollupManifest.read written portable
    have schema : read.schema = some MANIFEST_SCHEMA := same.same.schema.trans portable.schema
    have made : Jvm.fromManifest (some read) = .ok config := by
      unfold Jvm.fromManifest
      dsimp only
      rw [if_neg (not_not.mpr schema), given]
    refine ⟨read, config, ?_, same.same, ?_⟩
    · show (do
        let manifest ← Jvm.RollupManifest.ofJson value
        let config ← Jvm.fromManifest manifest
        match manifest with
        | none => wrongSchema
        | some manifest => return (manifest, config) :
          Except JsError (Jvm.RollupManifest × Jvm.RollupConfig)) = _
      rw [back, ok_bind, made]
      rfl
    · show Jvm.RollupConfig.toTs config = (read.config.map Jvm.RollupConfig.toTs).getD .unset
      rw [given]
      rfl
  | python =>
    obtain ⟨read, back, same⟩ := Py.manifest_read written portable
    have schema : read.schema = MANIFEST_SCHEMA := Option.some.inj (same.same.schema.trans portable.schema)
    refine ⟨read, read.config, ?_, same.same, rfl⟩
    show (do
      let manifest ← Py.manifestFromDict value
      return (manifest, ← Py.fromManifest manifest) : Except JsError (Py.RollupManifest × Py.RollupConfig)) = _
    unfold Py.fromManifest
    rw [back, ok_bind, if_neg (not_not.mpr schema)]
    rfl

end Client

/-! ### One judgement -/

theorem SameJudgement.symm {a b : ValidationResult} (h : SameJudgement a b) : SameJudgement b a :=
  ⟨h.valid.symm, h.faults.symm, h.warnings.symm⟩

theorem SameJudgement.trans {a b c : ValidationResult} (first : SameJudgement a b) (second : SameJudgement b c) :
    SameJudgement a c :=
  ⟨first.valid.trans second.valid, first.faults.trans second.faults, first.warnings.trans second.warnings⟩

theorem isVmType_wire (held : Option String) : isVmType (held.map vmTypeWireValue) = isVmType held := by
  cases held with
  | none => rfl
  | some s =>
    by_cases native : s = "native"
    · subst native
      decide
    · rw [Option.map_some, vmTypeWireValue, if_neg native]

/-- The parameters and the name of the runtime do not count. -/
theorem validateRollupConfig_meaning (config : RollupConfig) :
    SameJudgement (validateRollupConfig config) (validateRollupConfig config.meaning) := by
  apply sameJudgement_of_faults (validateRollupConfig_valid _) (validateRollupConfig_valid _)
  · rw [validateRollupConfig_faults quoted, validateRollupConfig_faults quoted]
    have vm : isVmType config.meaning.vmType = isVmType config.vmType := isVmType_wire config.vmType
    rw [vm]
    rfl
  · rw [warnings_ts, warnings_ts]
    rfl

namespace Client

theorem sameJudgement (c : Client) (config : c.Config)
    (line : ∀ stake, RollupConfig.stakeAmountUqor (c.configToTs config) = some stake →
      stake.toList.getLast? ≠ some '\n') :
    SameJudgement (c.validateRollupConfig config) (QorechainRdk.validateRollupConfig (c.configToTs config)) := by
  cases c with
  | typescript => exact ⟨rfl, rfl, rfl⟩
  | go => exact go_sameJudgement config
  | rust => exact rust_sameJudgement config
  | java => exact jvm_sameJudgement config
  | python =>
    have kept : (Py.RollupConfig.stakeAmountUqor config).map withoutLastNewline =
        Py.RollupConfig.stakeAmountUqor config := by
      cases held : Py.RollupConfig.stakeAmountUqor config with
      | none => rfl
      | some stake =>
        have clear : stake.toList.getLast? ≠ some '\n' := line stake held
        rw [Option.map_some, withoutLastNewline, if_neg clear]
    have judged := py_sameJudgement config
    rw [kept] at judged
    exact judged

end Client

/-- A manifest that a client builds and writes is loaded by every client as the same manifest, and the configuration
gets the same verdict, as many faults and the same warnings from both. -/
theorem manifest_travels {write : Client → Json → String} {read : Client → String → Except JsError Json}
    (libraries : ∀ (a b : Client) (m : a.Manifest) (value : Json), a.Writes m value → value.Plain →
      ∃ back, read b (write a value ++ "\n") = .ok back ∧ Reordered value back)
    {a : Client} {config : a.Config} {options : a.Options}
    (portable : (a.toTs (a.toManifest config options)).Portable) (named : a.EndpointsNamed options)
    {value : Json} (writes : a.Writes (a.toManifest config options) value) (b : Client) :
    ∃ m c, (read b (write a value ++ "\n") >>= b.load) = .ok (m, c) ∧
      SameManifest (b.toTs m) (a.toTs (a.toManifest config options)) ∧
      SameJudgement (b.validateRollupConfig c) (a.validateRollupConfig config) := by
  obtain ⟨manifest, written, held, same⟩ := writes.same portable named
  obtain ⟨back, found, reordered⟩ := libraries a b _ value writes (written.plain held)
  obtain ⟨m, c, loaded, readSame, configured⟩ := Client.load_written (b := b) (written.reordered reordered) held
  have whole := readSame.trans same
  refine ⟨m, c, by rw [found, ok_bind, loaded], whole, ?_⟩
  have meaning : RollupConfig.meaning (b.configToTs c) = RollupConfig.meaning (a.configToTs config) := by
    rw [configured, ← Client.toManifest_config config options]
    exact whole.config
  have stake := congrArg RollupConfig.stakeAmountUqor meaning
  have line := portable.config.stakeLine
  rw [Client.toManifest_config] at line
  have judged := a.sameJudgement config line
  have judgedBack := b.sameJudgement c fun s given => line s (stake.symm.trans given)
  have between := validateRollupConfig_meaning (b.configToTs c)
  rw [meaning] at between
  exact judgedBack.trans (between.trans ((validateRollupConfig_meaning _).symm.trans judged.symm))

def travellingConfig : Py.RollupConfig where
  rollupId := "my-rollup"
  profile := "defi"
  settlement := "zk"
  sequencer := "dedicated"
  da := "native"
  proofSystem := "snark"
  gasModel := "eip1559"
  vmType := "native"
  blockTimeMs := .integer 500
  maxTxPerBlock := .integer 10000
  sequencerParams := some {}
  stakeAmountUqor := some "10000000000"

def travellingOptions : Py.ToManifestOptions where
  network := "testnet"
  endpoints := some ⟨[("evmRpc", "http://localhost:8545"), ("rest", "http://localhost:1317")], by decide⟩
  addresses := some ⟨[("creator", "qor1creator")], by decide⟩
  notes := some ["written by hand"]

theorem travelling_portable : (Py.toManifest travellingConfig travellingOptions).toTs.Portable where
  schema := rfl
  version := rfl
  network := .inl rfl
  chainId := by decide
  endpoints := by
    intro endpoints given
    obtain rfl := Option.some.inj given
    exact ⟨by decide, by decide, by decide, by decide⟩
  config := {
    rollupId := ⟨_, rfl⟩
    profile := ⟨.defi, rfl⟩
    settlement := ⟨.zk, rfl⟩
    sequencer := ⟨.dedicated, rfl⟩
    sequencerParams := by
      intro params given
      obtain rfl := Option.some.inj given
      exact ⟨by decide, ⟨none, rfl, by simp⟩, ⟨none, rfl, by simp⟩, by decide⟩
    da := ⟨.native, rfl⟩
    proofSystem := ⟨.snark, rfl⟩
    gasModel := ⟨.eip1559, rfl⟩
    vmType := ⟨.native, rfl⟩
    blockTimeMs := ⟨500, rfl, by unfold IsInt32; decide⟩
    maxTxPerBlock := ⟨10000, rfl, by unfold IsInt32; decide⟩
    challengeWindowSecs := ⟨none, rfl, by simp⟩
    challengeBondUqor := by decide
    maxDaBlobSize := ⟨none, rfl, by simp⟩
    stakeAmountUqor := by decide
    stakeLine := by
      intro stake given
      obtain rfl := Option.some.inj given
      decide }
  addresses := by
    intro addresses given
    obtain rfl := Option.some.inj given
    exact List.cons_ne_nil _ _
  createdAt := by decide
  notes := by decide

theorem manifest_travels_sample : ∃ (m : Rust.RollupManifest) (c : Rust.RollupConfig),
    (parseJson "" ((Py.manifestToDict (Py.toManifest travellingConfig travellingOptions)).stringifyPretty ++ "\n") >>=
      Client.rust.load) = .ok (m, c) ∧
    SameManifest m.toTs (Py.toManifest travellingConfig travellingOptions).toTs ∧
    SameJudgement (Rust.validateRollupConfig c) (Py.validateRollupConfig travellingConfig) := by
  have libraries : ∀ (a _ : Client) (m : a.Manifest) (value : Json), a.Writes m value → value.Plain →
      ∃ back, parseJson "" (value.stringifyPretty ++ "\n") = .ok back ∧ Reordered value back :=
    fun _ _ _ value _ plain => ⟨value, parseJson_stringifyPretty plain "", .same value⟩
  have named : Client.python.EndpointsNamed travellingOptions := by
    intro endpoints given
    obtain rfl := Option.some.inj given
    decide
  exact @manifest_travels (fun _ => Json.stringifyPretty) (fun _ => parseJson "") libraries .python travellingConfig
    travellingOptions travelling_portable named _ rfl .rust

end QorechainRdk
