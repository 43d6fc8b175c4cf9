import QorechainRdk.Client.Paging
import QorechainRdk.Go.Wire
import QorechainRdk.Lib.Lockstep
import QorechainRdk.Receipts.Model

/-!
# Records that both clients read alike

The mappers of the two clients differ in what they make of a field that is missing, malformed or too large. On
well-formed records they agree.
-/

namespace QorechainRdk.Go

open Js

/-! ### Numbers -/

theorem digits_toString (n : Nat) : digits 10 (toString n).toList = some n := by
  rw [Nat.toString_eq_ofList_toDigits, String.toList_ofList, digits_decimal Nat.toDigits_ne_nil,
    Nat.ofDigitChars_ten_toDigits]
  intro c member
  exact Nat.isDigit_of_mem_toDigits (by decide) (by decide) member

theorem parseUint_toString {n : Nat} (small : n < 2 ^ 64) : parseUint (toString n) = some n := by
  unfold parseUint
  rw [digits_toString]
  exact if_pos small

theorem parseInt_toString {n : Nat} (small : n < 2 ^ 63) : parseInt (toString n) = some (n : Int) := by
  have first : ∀ c ds, (toString n).toList = c :: ds → c.isDigit = true := by
    intro c ds text
    apply Nat.isDigit_of_mem_toDigits (b := 10) (n := n) (by decide) (by decide)
    rw [Nat.toString_eq_ofList_toDigits, String.toList_ofList] at text
    rw [text]
    exact List.mem_cons_self
  unfold parseInt
  split
  · rename_i text
    exact absurd (first _ _ text) (by decide)
  · rename_i text
    exact absurd (first _ _ text) (by decide)
  · rw [digits_toString]
    exact if_pos small

theorem asU64_spelled {value : Option Json} {n : Nat} (small : n < 2 ^ 53) (spelled : SpellsIndex value n)
    (fallback : Nat) : asU64 value fallback = n := by
  rcases spelled with rfl | rfl
  · unfold asU64
    dsimp only
    have text : toString n ≠ "" := Nat.repr_ne_empty
    rw [if_neg text, parseUint_toString (by omega)]
    rfl
  · have whole : (uint64 n : Int) = n := uint64_of_range (by omega) (by omega)
    unfold asU64 wholePart uint64OfFloat
    dsimp only
    rw [if_neg (by omega), if_pos (by omega)]
    exact Int.ofNat.inj whole

theorem asI64_spelled {value : Option Json} {n : Nat} (small : n < 2 ^ 53) (spelled : SpellsIndex value n)
    (fallback : Int) : asI64 value fallback = n := by
  rcases spelled with rfl | rfl
  · unfold asI64
    dsimp only
    have text : toString n ≠ "" := Nat.repr_ne_empty
    rw [if_neg text, parseInt_toString (by omega)]
    rfl
  · unfold asI64 wholePart int64OfFloat
    dsimp only
    exact if_pos ⟨by omega, by omega⟩

/-! ### Well-formed records -/

/-- The keys of a kind of record, by what stands under them. -/
structure Format where
  texts : List String := []
  bytes : List String := []
  integers : List String := []

def rollupFormat : Format where
  texts := ["creator", "status", "layer_id", "da_backend"]
  integers := ["challenge_window_sec"]

def batchFormat : Format where
  texts := ["status"]
  bytes := ["state_root", "prev_state_root", "data_hash", "withdrawals_root"]
  integers := ["batch_index", "tx_count", "submitted_at", "finalized_at", "submitted_time"]

def anchorFormat : Format where
  texts := ["layer_id"]
  bytes := ["state_root", "validator_set_hash", "pqc_aggregate_signature", "compressed_state_proof"]
  integers := ["layer_height", "main_chain_height", "anchored_at", "transaction_count"]

def accountFormat : Format where
  bytes := ["public_key"]

/-- Keys in snake case and no nulls. Texts and bytes are strings, and integers are decimal. -/
structure WellFormed (format : Format) (record : RawRecord) : Prop where
  snakeCase : ∀ entry ∈ record, entry.1.toList.any Char.isUpper = false
  noNull : ∀ entry ∈ record, entry.2 ≠ .null
  text : ∀ entry ∈ record, entry.1 ∈ format.texts → ∃ s, entry.2 = .string s
  spelled : ∀ entry ∈ record, entry.1 ∈ format.bytes → ∃ s b, entry.2 = .string s ∧ Spells s b
  integer : ∀ entry ∈ record, entry.1 ∈ format.integers → ∃ n < 2 ^ 53, SpellsIndex (some entry.2) n

theorem mem_of_lookup {record : RawRecord} {key : String} {value : Json} (found : record.lookup key = some value) :
    (key, value) ∈ record := by
  obtain ⟨before, after, rfl, -⟩ := List.lookup_eq_some_iff.mp found
  exact List.mem_append_right _ List.mem_cons_self

section
variable {format : Format} {record : RawRecord}

theorem WellFormed.absent (h : WellFormed format record) {camel : String}
    (upper : camel.toList.any Char.isUpper = true) : record.lookup camel = none := by
  cases found : record.lookup camel with
  | none => rfl
  | some value =>
    have lower := h.snakeCase _ (mem_of_lookup found)
    rw [upper] at lower
    cases lower

theorem WellFormed.picked (h : WellFormed format record) {keys : List String}
    (upper : ∀ key ∈ keys, key.toList.any Char.isUpper = true) (snake : String) :
    QorechainRdk.pick record (snake :: keys) = record.lookup snake ∧
      pick record (snake :: keys) = record.lookup snake := by
  have others : QorechainRdk.pick record keys = none ∧ pick record keys = none := by
    induction keys with
    | nil => exact ⟨rfl, rfl⟩
    | cons key keys ih =>
      have gone := h.absent (upper key List.mem_cons_self)
      obtain ⟨ts, go⟩ := ih fun key member => upper key (List.mem_cons_of_mem _ member)
      rw [QorechainRdk.pick, pick, gone]
      exact ⟨ts, go⟩
  rw [QorechainRdk.pick, pick]
  cases found : record.lookup snake with
  | none => exact others
  | some value =>
    cases value with
    | null => exact absurd rfl (h.noNull _ (mem_of_lookup found))
    | _ => exact ⟨rfl, rfl⟩

section
variable (sprint : Json → String) (h : WellFormed format record) (snake : String) (keys : List String)
  (upper : ∀ key ∈ keys, key.toList.any Char.isUpper = true)

include h upper

theorem WellFormed.text_alike (member : snake ∈ format.texts) :
    str (QorechainRdk.pick record (snake :: keys)) = asStr sprint (pick record (snake :: keys)) "" := by
  rw [(h.picked upper snake).1, (h.picked upper snake).2]
  cases found : record.lookup snake with
  | none => rfl
  | some value =>
    obtain ⟨s, rfl⟩ := h.text _ (mem_of_lookup found) member
    rfl

/-- A field that is missing spells no bytes. -/
theorem WellFormed.bytes_alike (member : snake ∈ format.bytes) :
    ∃ s b, str (QorechainRdk.pick record (snake :: keys)) = s ∧
      asStr sprint (pick record (snake :: keys)) "" = s ∧ Spells s b := by
  rw [(h.picked upper snake).1, (h.picked upper snake).2]
  cases found : record.lookup snake with
  | none => exact ⟨"", [], rfl, rfl, Or.inl rfl⟩
  | some value =>
    obtain ⟨s, b, rfl, spelled⟩ := h.spelled _ (mem_of_lookup found) member
    exact ⟨s, b, rfl, rfl, spelled⟩

theorem WellFormed.hex_alike (member : snake ∈ format.bytes) :
    hexBytes (QorechainRdk.pick record (snake :: keys)) =
      .ok (hexWireBytes (asStr sprint (pick record (snake :: keys)) "")) := by
  obtain ⟨s, b, ts, go, spelled⟩ := h.bytes_alike sprint snake keys upper member
  rw [go, ← hexBytes_spelled spelled]
  unfold hexBytes
  rw [ts]
  rfl

theorem WellFormed.integer_alike (member : snake ∈ format.integers) :
    num (QorechainRdk.pick record (snake :: keys)) = .ok (asU64 (pick record (snake :: keys)) 0 : Int) ∧
      num (QorechainRdk.pick record (snake :: keys)) = .ok (asI64 (pick record (snake :: keys)) 0) := by
  rw [(h.picked upper snake).1, (h.picked upper snake).2]
  cases found : record.lookup snake with
  | none => exact ⟨rfl, rfl⟩
  | some value =>
    obtain ⟨n, small, spelled⟩ := h.integer _ (mem_of_lookup found) member
    rw [(num_of_spelled small spelled).1, asU64_spelled small spelled, asI64_spelled small spelled]
    exact ⟨rfl, rfl⟩

end

end

theorem WellFormed.nil {format : Format} : WellFormed format [] :=
  ⟨by simp, by simp, by simp, by simp, by simp⟩

theorem WellFormed.cons {format : Format} {record : RawRecord} (rest : WellFormed format record) {key s : String}
    (lower : key.toList.any Char.isUpper = false) (spelled : key ∈ format.bytes → ∃ b, Spells s b)
    (integer : key ∈ format.integers → ∃ n < 2 ^ 53, s = toString n) :
    WellFormed format ((key, .string s) :: record) where
  snakeCase := List.forall_mem_cons.mpr ⟨lower, rest.snakeCase⟩
  noNull := by
    intro entry member
    rcases List.mem_cons.mp member with rfl | later
    · intro same
      cases same
    · exact rest.noNull entry later
  text := List.forall_mem_cons.mpr ⟨fun _ => ⟨s, rfl⟩, rest.text⟩
  spelled := by
    refine List.forall_mem_cons.mpr ⟨fun member => ?_, rest.spelled⟩
    obtain ⟨b, spells⟩ := spelled member
    exact ⟨s, b, rfl, spells⟩
  integer := by
    refine List.forall_mem_cons.mpr ⟨fun member => ?_, rest.integer⟩
    obtain ⟨n, small, rfl⟩ := integer member
    exact ⟨n, small, Or.inl rfl⟩

section
variable {format : Format} {record : RawRecord} (rest : WellFormed format record) {key : String}
  (lower : key.toList.any Char.isUpper = false)
include rest lower

theorem WellFormed.cons_text {s : String} (bytes : key ∉ format.bytes) (integers : key ∉ format.integers) :
    WellFormed format ((key, .string s) :: record) :=
  rest.cons lower (fun member => absurd member bytes) fun member => absurd member integers

theorem WellFormed.cons_bytes {s : String} {b : Bytes} (spells : Spells s b) (integers : key ∉ format.integers) :
    WellFormed format ((key, .string s) :: record) :=
  rest.cons lower (fun _ => ⟨b, spells⟩) fun member => absurd member integers

theorem WellFormed.cons_integer {n : Nat} (small : n < 2 ^ 53) (bytes : key ∉ format.bytes) :
    WellFormed format ((key, .string (toString n)) :: record) :=
  rest.cons lower (fun member => absurd member bytes) fun _ => ⟨n, small, rfl⟩

end

/-! ### Views -/

def AnchorView.toTs (a : AnchorView) : QorechainRdk.AnchorView where
  layerId := a.layerId
  layerHeight := a.layerHeight
  stateRoot := a.stateRoot
  validatorSetHash := a.validatorSetHash
  mainChainHeight := a.mainChainHeight
  anchoredAt := a.anchoredAt
  pqcSignature := a.pqcSignature
  transactionCount := a.transactionCount
  compressedStateProof := a.compressedStateProof

def SameRollup (ts : QorechainRdk.RollupView) (go : RollupView) : Prop :=
  ts.creator = go.creator ∧ ts.layerId = go.layerId

/-- The root of the batch, as both verifiers compare it. -/
def SameRoot (ts : QorechainRdk.BatchView) (go : String) : Prop := Receipts.rootHex ts = .ok (hexWireBytes go)

/-- What is signed is the hex of some bytes. -/
structure SameAnchor (ts : QorechainRdk.AnchorView) (go : AnchorView) : Prop where
  same : ts = go.toTs
  stateRoot : ∃ b, go.stateRoot = bytesToHex b
  validatorSetHash : ∃ b, go.validatorSetHash = bytesToHex b
  pqcSignature : ∃ b, go.pqcSignature = bytesToHex b
  compressedStateProof : ∃ b, go.compressedStateProof = bytesToHex b

structure SameAccount (ts : QorechainRdk.PqcAccountView) (go : PqcAccountView) : Prop where
  same : ts.publicKey = go.publicKey
  hex : ∃ b, go.publicKey = bytesToHex b

section
variable {record : RawRecord} (sprint : Json → String)

theorem optionalNum_alike (h : WellFormed rollupFormat record) :
    ∃ seconds, optionalNum (QorechainRdk.pick record ["challenge_window_sec", "challengeWindowSec"]) =
      .ok seconds := by
  have upper : ∀ key ∈ ["challengeWindowSec"], key.toList.any Char.isUpper = true := by decide
  rw [(h.picked upper _).1]
  cases found : record.lookup "challenge_window_sec" with
  | none => exact ⟨none, rfl⟩
  | some value =>
    obtain ⟨n, small, spelled⟩ := h.integer _ (mem_of_lookup found) List.mem_cons_self
    have read : num (some value) = .ok (n : Int) := (num_of_spelled small spelled).1
    unfold optionalNum
    split
    · exact ⟨none, rfl⟩
    · exact ⟨none, rfl⟩
    · exact ⟨none, rfl⟩
    · rename_i same
      cases same
      rw [read]
      exact ⟨some n, rfl⟩

theorem mapRollupView_alike (h : WellFormed rollupFormat record) :
    ∃ ts, QorechainRdk.mapRollupView record = .ok ts ∧ SameRollup ts (mapRollupView sprint record) := by
  obtain ⟨seconds, window⟩ := optionalNum_alike h
  unfold QorechainRdk.mapRollupView
  rw [window]
  exact ⟨_, rfl, h.text_alike sprint "creator" [] (by decide) (by decide),
    h.text_alike sprint "layer_id" ["layerId"] (by decide) (by decide)⟩

theorem mapBatchView_alike (h : WellFormed batchFormat record) :
    ∃ ts, QorechainRdk.mapBatchView record = .ok ts ∧ SameRoot ts (batchStateRoot sprint record) := by
  obtain ⟨root, b, ts, go, spelled⟩ := h.bytes_alike sprint "state_root" ["stateRoot"] (by decide) (by decide)
  have index := (h.integer_alike "batch_index" ["batchIndex"] (by decide) (by decide)).1
  have count := (h.integer_alike "tx_count" ["txCount"] (by decide) (by decide)).1
  have submitted := (h.integer_alike "submitted_at" ["submittedAt"] (by decide) (by decide)).1
  have finalized := (h.integer_alike "finalized_at" ["finalizedAt"] (by decide) (by decide)).1
  have time := (h.integer_alike "submitted_time" ["submittedTime"] (by decide) (by decide)).1
  unfold QorechainRdk.mapBatchView
  rw [index, count, submitted, finalized, time]
  refine ⟨_, rfl, ?_⟩
  unfold SameRoot batchStateRoot
  rw [go, ← hexBytes_spelled spelled, ← ts]
  rfl

theorem mapAnchorView_alike (h : WellFormed anchorFormat record) :
    ∃ ts, QorechainRdk.mapAnchorView record = .ok ts ∧ SameAnchor ts (mapAnchorView sprint record) := by
  have layer := h.text_alike sprint "layer_id" ["layerId"] (by decide) (by decide)
  have height := (h.integer_alike "layer_height" ["layerHeight"] (by decide) (by decide)).1
  have root := h.hex_alike sprint "state_root" ["stateRoot"] (by decide) (by decide)
  have validators := h.hex_alike sprint "validator_set_hash" ["validatorSetHash"] (by decide) (by decide)
  have mainChain := (h.integer_alike "main_chain_height" ["mainChainHeight"] (by decide) (by decide)).1
  have time := (h.integer_alike "anchored_at" ["anchoredAt"] (by decide) (by decide)).2
  have signature := h.hex_alike sprint "pqc_aggregate_signature" ["pqcAggregateSignature"] (by decide) (by decide)
  have count := (h.integer_alike "transaction_count" ["transactionCount"] (by decide) (by decide)).1
  have proof := h.hex_alike sprint "compressed_state_proof" ["compressedStateProof"] (by decide) (by decide)
  unfold QorechainRdk.mapAnchorView
  rw [layer, height, root, validators, mainChain, time, signature, count, proof]
  exact ⟨_, rfl, rfl, hexWireBytes_hex _, hexWireBytes_hex _, hexWireBytes_hex _, hexWireBytes_hex _⟩

theorem mapPqcAccountView_alike (h : WellFormed accountFormat record) :
    ∃ ts, QorechainRdk.mapPqcAccountView record = .ok ts ∧ SameAccount ts (mapPqcAccountView sprint record) := by
  have key := h.hex_alike sprint "public_key" ["publicKey"] (by decide) (by decide)
  unfold QorechainRdk.mapPqcAccountView
  rw [key]
  exact ⟨_, rfl, rfl, hexWireBytes_hex _⟩

end

/-! ### Reads -/

/-- Both fail, or both answer with one body. -/
def SameRead (ts go : Except JsError RawRecord) : Prop := Lockstep.Rel (fun _ _ => True) Eq ts go

/-- Each client asks in its own spelling of the path. -/
structure SameReads (fetch : FetchLike) (baseUrl : String) (get : String → Except JsError RawRecord) : Prop where
  rollup : ∀ id, SameRead
    (RestClient.get fetch baseUrl s!"/qorechain/rdk/v1/rollup/{encodeURIComponent id}")
    (get s!"/qorechain/rdk/v1/rollup/{pathEscape id}")
  batch : ∀ id (n : Nat), n < 2 ^ 53 → SameRead
    (RestClient.get fetch baseUrl s!"/qorechain/rdk/v1/batch/{encodeURIComponent id}/{(n : Int)}")
    (get s!"/qorechain/rdk/v1/batch/{pathEscape id}/{n}")
  anchors : ∀ id, SameRead
    (RestClient.get fetch baseUrl s!"/qorechain/multilayer/v1/anchors/{encodeURIComponent id}")
    (get s!"/qorechain/multilayer/v1/anchors/{pathEscape id}")
  account : ∀ address, SameRead
    (RestClient.get fetch baseUrl s!"/qorechain/pqc/v1/account/{encodeURIComponent address}")
    (get s!"/qorechain/pqc/v1/account/{pathEscape address}")

/-- Every answer is made of well-formed records. -/
structure Served (get : String → Except JsError RawRecord) : Prop where
  rollup : ∀ id body, get s!"/qorechain/rdk/v1/rollup/{pathEscape id}" = .ok body →
    WellFormed rollupFormat (nested body "rollup")
  batch : ∀ id (n : Nat) body, get s!"/qorechain/rdk/v1/batch/{pathEscape id}/{n}" = .ok body →
    WellFormed batchFormat (nested body "batch")
  anchors : ∀ id body, get s!"/qorechain/multilayer/v1/anchors/{pathEscape id}" = .ok body →
    ∀ item ∈ asArray (pick body ["anchors"]), ∃ record, item = .object record ∧ WellFormed anchorFormat record
  account : ∀ address body, get s!"/qorechain/pqc/v1/account/{pathEscape address}" = .ok body →
    WellFormed accountFormat (nested body "account")

def Network.toTs (network : Network) : QorechainRdk.Network where
  chainId := network.chainId
  anchorSignV2Height := network.anchorSignV2Height

def SameAnchors (ts : List QorechainRdk.AnchorView) (go : List AnchorView) : Prop := List.Forall₂ SameAnchor ts go

/-- Each read fails in both clients, or gives both the same. -/
structure SameClient (ts : QorechainRdk.RdkClient) (go : RdkClient) : Prop where
  network : ts.network = go.network.toTs
  rollup : ∀ id, Lockstep.Rel (fun _ _ => True) SameRollup (ts.rest.getRollup id) (go.rest.getRollup id)
  batch : ∀ id (n : Nat), n < 2 ^ 53 → Lockstep.Rel (fun _ _ => True) SameRoot (ts.rest.getBatch id n)
    (go.rest.getBatchStateRoot id n)
  anchors : ∀ id, Lockstep.Rel (fun _ _ => True) SameAnchors (ts.rest.getAnchors id) (go.rest.getAnchors id)
  account : ∀ address, Lockstep.Rel (fun _ _ => True) SameAccount (ts.rest.getPqcAccount address)
    (go.rest.getPqcAccount address)

theorem pick_anchors (body : RawRecord) : asArray (body.lookup "anchors") = asArray (pick body ["anchors"]) := by
  rw [pick]
  cases body.lookup "anchors" with
  | none => rfl
  | some value =>
    cases value with
    | _ => rfl

theorem nested_alike (body : RawRecord) (key : String) : QorechainRdk.nested body key = nested body key := by
  unfold QorechainRdk.nested nested
  rw [pick]
  cases body.lookup key with
  | none => rfl
  | some value =>
    cases value with
    | _ => rfl

section
variable (sprint : Json → String)

theorem mapAnchorViews_alike {items : List Json}
    (h : ∀ item ∈ items, ∃ record, item = .object record ∧ WellFormed anchorFormat record) :
    ∃ ts, items.mapM (mapItem "layer_id" QorechainRdk.mapAnchorView) = .ok ts ∧
      SameAnchors ts (items.map fun item => mapAnchorView sprint (asRecord item)) := by
  induction items with
  | nil => exact ⟨[], rfl, List.Forall₂.nil⟩
  | cons item items ih =>
    obtain ⟨record, rfl, formed⟩ := h item List.mem_cons_self
    obtain ⟨first, read, same⟩ := mapAnchorView_alike sprint formed
    obtain ⟨rest, others, alike⟩ := ih fun item member => h item (List.mem_cons_of_mem _ member)
    have mapped : mapItem "layer_id" QorechainRdk.mapAnchorView (.object record) = .ok first := read
    refine ⟨first :: rest, ?_, List.Forall₂.cons same alike⟩
    rw [List.mapM_cons, mapped, ok_bind, others]
    rfl

/-- A mapper that never fails on what is served leaves the two reads in step. -/
theorem mapped_alike {α β : Type} {R : α → β → Prop} {ts go : Except JsError RawRecord}
    {f : RawRecord → Except JsError α} {g : RawRecord → β} (same : SameRead ts go)
    (mapped : ∀ body, go = .ok body → ∃ a, f body = .ok a ∧ R a (g body)) :
    Lockstep.Rel (fun _ _ => True) R (ts >>= f) (go >>= fun body => pure (g body)) := by
  rcases Lockstep.rel_iff.mp same with ⟨body, _, rfl, rfl, rfl⟩ | ⟨d, e, rfl, rfl, -⟩
  · obtain ⟨a, read, related⟩ := mapped body rfl
    rw [ok_bind, read]
    exact related
  · exact trivial

theorem restClients_alike {fetch : FetchLike} {baseUrl : String} {get : String → Except JsError RawRecord}
    (reads : SameReads fetch baseUrl get) (served : Served get) (network : Network) :
    SameClient ⟨QorechainRdk.restClient fetch baseUrl, network.toTs⟩ ⟨restClient sprint get, network⟩ where
  network := rfl
  rollup := by
    intro id
    apply mapped_alike (reads.rollup id)
    intro body read
    rw [nested_alike]
    exact mapRollupView_alike sprint (served.rollup id body read)
  batch := by
    intro id n small
    have path : numberText n = toString (n : Int) := numberText_exact (by omega)
    show Lockstep.Rel (fun _ _ => True) SameRoot (QorechainRdk.getBatch fetch baseUrl id n)
      (getBatchStateRoot sprint get id n)
    unfold QorechainRdk.getBatch
    rw [path]
    apply mapped_alike (reads.batch id n small)
    intro body read
    rw [nested_alike]
    exact mapBatchView_alike sprint (served.batch id n body read)
  anchors := by
    intro id
    apply mapped_alike (reads.anchors id)
    intro body read
    rw [pick_anchors]
    exact mapAnchorViews_alike sprint (served.anchors id body read)
  account := by
    intro address
    apply mapped_alike (reads.account address)
    intro body read
    rw [nested_alike]
    exact mapPqcAccountView_alike sprint (served.account address body read)

end

end QorechainRdk.Go
