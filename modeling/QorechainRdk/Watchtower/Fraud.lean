import QorechainRdk.Client.Wire
import QorechainRdk.Watchtower.Validator

/-!
# Judging and challenging a batch

`transitionRootValidator` says whether a batch publishes its canonical root, and `fraudProofForBatch` what to
challenge it with. Between the node's record and both stand the mapper and the length of the previous root.
-/

namespace QorechainRdk

open Js

section
variable {shake256 : Bytes → Bytes} {version : TransitionRootVersion} {chainId rollupId : String}
  {prev dataHash withdrawalsRoot root : Bytes} {n m : Int}

theorem canonicalRootFor_ok_iff {client : RdkClient} {batch : BatchView}
    (prevRead : decodeWireBytes batch.prevStateRoot = .ok prev)
    (dataRead : decodeWireBytes batch.dataHash = .ok dataHash)
    (withdrawalsRead : decodeWireBytes batch.withdrawalsRoot = .ok withdrawalsRoot)
    (selected : transitionRootVersionForBatch client.rest batch = .ok version) :
    canonicalRootFor shake256 client rollupId batch = .ok root ↔
      transitionRootOf shake256 version client.network.chainId rollupId prev dataHash batch.txCount
        withdrawalsRoot = .ok root := by
  unfold canonicalRootFor
  rw [selected, prevRead, dataRead, withdrawalsRead]
  rfl

theorem canonicalRootFor_length {client : RdkClient} {batch : BatchView}
    (digest : ∀ b, (shake256 b).length = 32)
    (canonical : canonicalRootFor shake256 client rollupId batch = .ok root) : root.length = 32 := by
  obtain ⟨version, selected, -⟩ := bind_ok canonical
  obtain ⟨prev, prevRead⟩ := decodeWireBytes_ok batch.prevStateRoot
  obtain ⟨dataHash, dataRead⟩ := decodeWireBytes_ok batch.dataHash
  obtain ⟨withdrawalsRoot, withdrawalsRead⟩ := decodeWireBytes_ok batch.withdrawalsRoot
  obtain ⟨-, hash⟩ := transitionRootOf_ok_iff.mp
    ((canonicalRootFor_ok_iff prevRead dataRead withdrawalsRead selected).mp canonical)
  rw [← hash]
  exact digest _

end

/-! ### Judged and challenged -/

section
variable {shake256 : Bytes → Bytes} {client : RdkClient} {rollupId : String} {batch : BatchView}
  {prev published canonical : Bytes}

theorem fraudProof_bytes : fraudProof (.bytes prev) (.bytes canonical) =
    if prev.length ≠ 32 ∨ canonical.length ≠ 32 then
      fail "a fraud proof needs a 32-byte previous root and a 32-byte correct root"
    else .ok (prev ++ canonical) := rfl

theorem fraudProofForBatch_canonical (root_ok : decodeWireBytes batch.stateRoot = .ok published)
    (canonical_ok : canonicalRootFor shake256 client rollupId batch = .ok canonical)
    (same : published = canonical) : fraudProofForBatch shake256 client rollupId batch = .ok none := by
  unfold fraudProofForBatch
  rw [canonical_ok, ok_bind, root_ok, ok_bind, sameBytes_iff.mpr same]
  rfl

theorem fraudProofForBatch_other (root_ok : decodeWireBytes batch.stateRoot = .ok published)
    (canonical_ok : canonicalRootFor shake256 client rollupId batch = .ok canonical)
    (prev_ok : decodeWireBytes batch.prevStateRoot = .ok prev) (differs : published ≠ canonical) :
    fraudProofForBatch shake256 client rollupId batch =
      fraudProof (.bytes prev) (.bytes canonical) >>= fun proof => .ok (some proof) := by
  unfold fraudProofForBatch
  rw [canonical_ok, ok_bind, root_ok, ok_bind, if_neg (mt sameBytes_iff.mp differs), prev_ok]
  rfl

/-- A rejected batch can be challenged with its canonical root, an accepted one cannot. -/
def Challengeable (shake256 : Bytes → Bytes) (client : RdkClient) (rollupId : String) (batch : BatchView) :
    Prop :=
  (transitionRootValidator shake256 client rollupId batch = .ok false →
    ∃ prev canonical, decodeWireBytes batch.prevStateRoot = .ok prev ∧
      canonicalRootFor shake256 client rollupId batch = .ok canonical ∧
      decodeWireBytes batch.stateRoot ≠ .ok canonical ∧ (prev ++ canonical).length = 64 ∧
      fraudProofForBatch shake256 client rollupId batch = .ok (some (prev ++ canonical))) ∧
  (transitionRootValidator shake256 client rollupId batch = .ok true →
    fraudProofForBatch shake256 client rollupId batch = .ok none)

theorem challenged_of_rejected (digest : ∀ b, (shake256 b).length = 32)
    (root_ok : decodeWireBytes batch.stateRoot = .ok published)
    (canonical_ok : canonicalRootFor shake256 client rollupId batch = .ok canonical)
    (prev_ok : decodeWireBytes batch.prevStateRoot = .ok prev) (differs : published ≠ canonical) :
    fraudProofForBatch shake256 client rollupId batch = .ok (some (prev ++ canonical)) ↔
      prev.length = 32 := by
  have width := canonicalRootFor_length digest canonical_ok
  rw [fraudProofForBatch_other root_ok canonical_ok prev_ok differs, fraudProof_bytes]
  by_cases short : prev.length = 32
  · simp [short, width]
  · simp [short]

end

/-- Exactly the batches that publish their canonical root or name a previous root of 32 bytes are judged and
challenged alike. -/
theorem challengeable_iff {shake256 : Bytes → Bytes} (digest : ∀ b, (shake256 b).length = 32)
    (client : RdkClient) (rollupId : String) (batch : BatchView) :
    Challengeable shake256 client rollupId batch ↔
      ∀ prev canonical, decodeWireBytes batch.prevStateRoot = .ok prev →
        canonicalRootFor shake256 client rollupId batch = .ok canonical →
        decodeWireBytes batch.stateRoot = .ok canonical ∨ prev.length = 32 := by
  obtain ⟨published, root_ok⟩ := decodeWireBytes_ok batch.stateRoot
  obtain ⟨prev, prev_ok⟩ := decodeWireBytes_ok batch.prevStateRoot
  constructor
  · intro h prev' canonical prev_ok' canonical_ok
    rw [prev_ok] at prev_ok'
    cases prev_ok'
    by_cases same : published = canonical
    · exact Or.inl (same ▸ root_ok)
    · refine Or.inr ?_
      have rejected := transitionRootValidator_ok root_ok canonical_ok
      rw [decide_eq_false same] at rejected
      obtain ⟨prev', canonical', prev_ok', canonical_ok', -, -, proof⟩ := h.1 rejected
      rw [prev_ok] at prev_ok'
      cases prev_ok'
      rw [canonical_ok] at canonical_ok'
      cases canonical_ok'
      exact (challenged_of_rejected digest root_ok canonical_ok prev_ok same).mp proof
  · intro long
    constructor
    · intro rejected
      obtain ⟨_, -, verdict⟩ := bind_ok rejected
      obtain ⟨canonical, canonical_ok, -⟩ := bind_ok verdict
      rw [transitionRootValidator_ok root_ok canonical_ok] at rejected
      have differs : published ≠ canonical := of_decide_eq_false (Except.ok.inj rejected)
      have other : decodeWireBytes batch.stateRoot ≠ .ok canonical := by
        rw [root_ok]
        exact fun same => differs (Except.ok.inj same)
      have width := (long prev canonical prev_ok canonical_ok).resolve_left other
      refine ⟨prev, canonical, prev_ok, canonical_ok, other, ?_, ?_⟩
      · rw [List.length_append, width, canonicalRootFor_length digest canonical_ok]
      · exact (challenged_of_rejected digest root_ok canonical_ok prev_ok differs).mpr width
    · intro accepted
      obtain ⟨_, -, verdict⟩ := bind_ok accepted
      obtain ⟨canonical, canonical_ok, -⟩ := bind_ok verdict
      rw [transitionRootValidator_ok root_ok canonical_ok] at accepted
      exact fraudProofForBatch_canonical root_ok canonical_ok (of_decide_eq_true (Except.ok.inj accepted))

/-- A digest for the samples: what is hashed, from the end and cut or filled up to 32 bytes. -/
def sampleDigest (b : Bytes) : Bytes := (b.reverse ++ List.replicate 32 0).take 32

theorem sampleDigest_length (b : Bytes) : (sampleDigest b).length = 32 := by
  simp [sampleDigest]

/-- A node of a chain that has not applied the upgrade. -/
def genesisClient : RdkClient where
  rest := {
    getRollup := fun _ => fail "not found"
    getBatch := fun _ _ => fail "not found"
    getAnchors := fun _ => .ok []
    getLatestAnchor := fun _ => fail "not found"
    getPqcAccount := fun _ => fail "not found"
    getAppliedPlanHeight := fun _ => .ok 0 }
  network := { chainId := "q", anchorSignV2Height := 4000 }

def zeroRoot : String := bytesToHex (List.replicate 32 0)

/-- A batch that publishes the zero root, and names no previous one. -/
def firstBatch : BatchView where
  batchIndex := 0
  stateRoot := zeroRoot
  prevStateRoot := ""
  txCount := 1
  dataHash := ""
  status := "submitted"
  submittedAt := 10
  finalizedAt := 0
  withdrawalsRoot := ""
  submittedTime := 0

def secondBatch : BatchView := { firstBatch with batchIndex := 1, prevStateRoot := zeroRoot }

theorem challengeable_iff_sample : transitionRootValidator sampleDigest genesisClient "r" secondBatch = .ok false ∧
    Challengeable sampleDigest genesisClient "r" secondBatch := by
  refine ⟨by decide +kernel, ?_⟩
  apply (challengeable_iff sampleDigest_length genesisClient "r" secondBatch).mpr
  intro prev canonical prev_ok _
  have zeros : decodeWireBytes secondBatch.prevStateRoot = .ok (List.replicate 32 0) := by decide +kernel
  rw [zeros] at prev_ok
  cases prev_ok
  exact Or.inr List.length_replicate

/-- The first batch of a rollup is rejected, and its challenge cannot be built. -/
theorem firstBatch_unchallengeable : ¬ ∀ (client : RdkClient) (rollupId : String) (batch : BatchView),
    Challengeable sampleDigest client rollupId batch := by
  intro promised
  have rejected : transitionRootValidator sampleDigest genesisClient "r" firstBatch = .ok false := by
    decide +kernel
  obtain ⟨prev, canonical, -, -, -, -, proof⟩ := (promised genesisClient "r" firstBatch).1 rejected
  have refused : fraudProofForBatch sampleDigest genesisClient "r" firstBatch =
      fail "a fraud proof needs a 32-byte previous root and a 32-byte correct root" := by decide +kernel
  rw [refused] at proof
  cases proof

/-! ### From the node's record -/

def IsRoot (b : Bytes) : Prop := b.length = 32 ∨ b = []

/-- A record of the node: roots in either spelling, and the counter as decimal text. -/
structure Served (raw : RawRecord) (stateRoot prevStateRoot dataHash withdrawalsRoot : Bytes) (txCount : Nat) :
    Prop where
  stateRoot : IsRoot stateRoot ∧ Spells (str (pick raw ["state_root", "stateRoot"])) stateRoot
  prevStateRoot : IsRoot prevStateRoot ∧
    Spells (str (pick raw ["prev_state_root", "prevStateRoot"])) prevStateRoot
  dataHash : IsRoot dataHash ∧ Spells (str (pick raw ["data_hash", "dataHash"])) dataHash
  withdrawalsRoot : IsRoot withdrawalsRoot ∧
    Spells (str (pick raw ["withdrawals_root", "withdrawalsRoot"])) withdrawalsRoot
  txCount : txCount < 2 ^ 64 ∧ pick raw ["tx_count", "txCount"] = some (.string (toString txCount))

section
variable {shake256 : Bytes → Bytes} {client : RdkClient} {rollupId : String} {raw : RawRecord}
  {batch : BatchView} {stateRoot prev dataHash withdrawalsRoot root : Bytes} {count : Nat}
  {version : TransitionRootVersion}

theorem IsRoot.padded {b : Bytes} (h : IsRoot b) : b.length % 3 ≠ 0 ∨ b = [] := by
  rcases h with width | empty
  · exact Or.inl (by omega)
  · exact Or.inr empty

/-- The fields of a mapped record that the transition root is made of. -/
structure Mapped (raw : RawRecord) (batch : BatchView) : Prop where
  stateRoot : batch.stateRoot = str (pick raw ["state_root", "stateRoot"])
  prevStateRoot : batch.prevStateRoot = str (pick raw ["prev_state_root", "prevStateRoot"])
  dataHash : batch.dataHash = str (pick raw ["data_hash", "dataHash"])
  withdrawalsRoot : batch.withdrawalsRoot = str (pick raw ["withdrawals_root", "withdrawalsRoot"])
  txCount : num (pick raw ["tx_count", "txCount"]) = .ok batch.txCount

theorem mapBatchView_mapped (mapped : mapBatchView raw = .ok batch) : Mapped raw batch := by
  unfold mapBatchView at mapped
  obtain ⟨batchIndex, -, mapped⟩ := bind_ok mapped
  obtain ⟨txCount, counted, mapped⟩ := bind_ok mapped
  obtain ⟨submittedAt, -, mapped⟩ := bind_ok mapped
  obtain ⟨finalizedAt, -, mapped⟩ := bind_ok mapped
  obtain ⟨submittedTime, -, mapped⟩ := bind_ok mapped
  obtain rfl := pure_ok_iff.mp mapped
  exact ⟨rfl, rfl, rfl, rfl, counted⟩

/-- What the mapper and the byte guesser make of a record: its roots as they are, its counter as a double. -/
structure Decoded (batch : BatchView) (stateRoot prev dataHash withdrawalsRoot : Bytes) (count : Nat) : Prop where
  stateRoot : decodeWireBytes batch.stateRoot = .ok stateRoot
  prevStateRoot : decodeWireBytes batch.prevStateRoot = .ok prev
  dataHash : decodeWireBytes batch.dataHash = .ok dataHash
  withdrawalsRoot : decodeWireBytes batch.withdrawalsRoot = .ok withdrawalsRoot
  txCount : batch.txCount = Rounding.nearest 53 count

theorem Served.decoded (served : Served raw stateRoot prev dataHash withdrawalsRoot count)
    (mapped : mapBatchView raw = .ok batch) :
    Decoded batch stateRoot prev dataHash withdrawalsRoot count := by
  have fields := mapBatchView_mapped mapped
  have counted := fields.txCount
  rw [served.txCount.2, num_toString served.txCount.1] at counted
  constructor
  · rw [fields.stateRoot]
    exact decodeWireBytes_spelled served.stateRoot.1.padded served.stateRoot.2
  · rw [fields.prevStateRoot]
    exact decodeWireBytes_spelled served.prevStateRoot.1.padded served.prevStateRoot.2
  · rw [fields.dataHash]
    exact decodeWireBytes_spelled served.dataHash.1.padded served.dataHash.2
  · rw [fields.withdrawalsRoot]
    exact decodeWireBytes_spelled served.withdrawalsRoot.1.padded served.withdrawalsRoot.2
  · exact (Except.ok.inj counted).symm

/-- The hash does not collide on two given messages. -/
def Separates (shake256 : Bytes → Bytes) (a b : Bytes) : Prop := shake256 a = shake256 b → a = b

/-- The record is judged, and challenged, by the root of its exact counter. -/
def JudgedExactly (shake256 : Bytes → Bytes) (client : RdkClient) (rollupId : String) (batch : BatchView)
    (stateRoot prev root : Bytes) : Prop :=
  transitionRootValidator shake256 client rollupId batch = .ok (decide (stateRoot = root)) ∧
    fraudProofForBatch shake256 client rollupId batch =
      .ok (if stateRoot = root then none else some (prev ++ root))

theorem judgedExactly_of_canonical (digest : ∀ b, (shake256 b).length = 32)
    (decoded : Decoded batch stateRoot prev dataHash withdrawalsRoot count)
    (canonical_ok : canonicalRootFor shake256 client rollupId batch = .ok root) :
    JudgedExactly shake256 client rollupId batch stateRoot prev root ↔ prev.length = 32 ∨ stateRoot = root := by
  have verdict := transitionRootValidator_ok decoded.stateRoot canonical_ok
  unfold JudgedExactly
  rw [and_iff_right verdict]
  by_cases same : stateRoot = root
  · rw [fraudProofForBatch_canonical decoded.stateRoot canonical_ok same, if_pos same]
    simp [same]
  · rw [if_neg same, challenged_of_rejected digest decoded.stateRoot canonical_ok decoded.prevStateRoot same]
    simp [same]

/-- A judgement by another root shows, in the verdict or in the proof. -/
theorem canonical_of_judgedExactly {other : Bytes}
    (decoded : Decoded batch stateRoot prev dataHash withdrawalsRoot count)
    (canonical_ok : canonicalRootFor shake256 client rollupId batch = .ok other)
    (judged : JudgedExactly shake256 client rollupId batch stateRoot prev root) : other = root := by
  obtain ⟨verdict, proof⟩ := judged
  rw [transitionRootValidator_ok decoded.stateRoot canonical_ok] at verdict
  have agree : stateRoot = other ↔ stateRoot = root := by
    simpa using verdict
  by_cases same : stateRoot = root
  · exact (agree.mpr same).symm.trans same
  · have differs := mt agree.mp same
    rw [if_neg same, fraudProofForBatch_other decoded.stateRoot canonical_ok decoded.prevStateRoot differs,
      fraudProof_bytes] at proof
    split at proof
    · cases proof
    · have whole : prev ++ other = prev ++ root := Option.some.inj (Except.ok.inj proof)
      exact List.append_cancel_left whole

theorem nearest_of_same_message {chainId : String} (small : count < 2 ^ 64)
    (same : transitionMessage version chainId rollupId prev dataHash (Rounding.nearest 53 count)
      withdrawalsRoot =
        transitionMessage version chainId rollupId prev dataHash count withdrawalsRoot) :
    Rounding.Representable 53 count := by
  have mod := counter_mod_of_message_eq same
  by_contra inexact
  apply Rounding.nearest_mod_ne (by decide) (by decide) small inexact
  exact_mod_cast mod

end

/-- The mapper reads the counter as a double, so that a record is judged by its own counter exactly when that
is a double. -/
theorem judgedExactly_iff {shake256 : Bytes → Bytes} (digest : ∀ b, (shake256 b).length = 32)
    {client : RdkClient} {rollupId : String} {raw : RawRecord} {batch : BatchView}
    {stateRoot prev dataHash withdrawalsRoot root : Bytes} {count : Nat} {version : TransitionRootVersion}
    (served : Served raw stateRoot prev dataHash withdrawalsRoot count)
    (mapped : mapBatchView raw = .ok batch)
    (selected : transitionRootVersionForBatch client.rest batch = .ok version)
    (canonical : transitionRootOf shake256 version client.network.chainId rollupId prev dataHash count
      withdrawalsRoot = .ok root)
    (separate : Separates shake256
      (transitionMessage version client.network.chainId rollupId prev dataHash (Rounding.nearest 53 count)
        withdrawalsRoot)
      (transitionMessage version client.network.chainId rollupId prev dataHash count withdrawalsRoot)) :
    JudgedExactly shake256 client rollupId batch stateRoot prev root ↔
      Rounding.Representable 53 count ∧ (prev.length = 32 ∨ stateRoot = root) := by
  have decoded := served.decoded mapped
  obtain ⟨allowed, hash⟩ := transitionRootOf_ok_iff.mp canonical
  have rounded : canonicalRootFor shake256 client rollupId batch = .ok
      (shake256 (transitionMessage version client.network.chainId rollupId prev dataHash
        (Rounding.nearest 53 count) withdrawalsRoot)) := by
    rw [canonicalRootFor_ok_iff decoded.prevStateRoot decoded.dataHash decoded.withdrawalsRoot selected,
      transitionRootOf_ok_iff, decoded.txCount]
    exact ⟨allowed, rfl⟩
  constructor
  · intro judged
    have same := canonical_of_judgedExactly decoded rounded judged
    rw [same] at rounded
    rw [← hash] at same
    have precise := nearest_of_same_message served.txCount.1 (separate same)
    exact ⟨precise, (judgedExactly_of_canonical digest decoded rounded).mp judged⟩
  · intro h
    obtain ⟨precise, provable⟩ := h
    rw [Rounding.nearest_eq_iff.mpr precise, hash] at rounded
    exact (judgedExactly_of_canonical digest decoded rounded).mpr provable

def zeros : Bytes := List.replicate 32 0

def record (stateRoot : Bytes) (txCount : Nat) : RawRecord :=
  [("batch_index", .string "1"), ("state_root", .string (bytesToHex stateRoot)),
    ("prev_state_root", .string (bytesToBase64 zeros)), ("tx_count", .string (toString txCount)),
    ("status", .string "submitted"), ("submitted_at", .string "10")]

theorem record_served {stateRoot : Bytes} {txCount : Nat} (width : stateRoot.length = 32)
    (small : txCount < 2 ^ 64) : Served (record stateRoot txCount) stateRoot zeros [] [] txCount where
  stateRoot := ⟨Or.inl width, spells_bytesToHex stateRoot⟩
  prevStateRoot := ⟨Or.inl List.length_replicate, Or.inl rfl⟩
  dataHash := ⟨Or.inr rfl, Or.inl rfl⟩
  withdrawalsRoot := ⟨Or.inr rfl, Or.inl rfl⟩
  txCount := ⟨small, rfl⟩

def recordBatch (stateRoot : Bytes) (txCount : Int) : BatchView :=
  { secondBatch with
    stateRoot := bytesToHex stateRoot
    prevStateRoot := bytesToBase64 zeros
    txCount := txCount }

theorem record_mapped {stateRoot : Bytes} {txCount : Nat} (small : txCount < 2 ^ 64) :
    mapBatchView (record stateRoot txCount) = .ok (recordBatch stateRoot (Rounding.nearest 53 txCount)) := by
  have counted : num (pick (record stateRoot txCount) ["tx_count", "txCount"]) =
      .ok (Rounding.nearest 53 txCount) := num_toString small 0
  have index : num (pick (record stateRoot txCount) ["batch_index", "batchIndex"]) = .ok 1 := by
    change num (some (.string "1")) = .ok 1
    decide +kernel
  have height : num (pick (record stateRoot txCount) ["submitted_at", "submittedAt"]) = .ok 10 := by
    change num (some (.string "10")) = .ok 10
    decide +kernel
  unfold mapBatchView
  rw [counted, index, height]
  rfl

theorem judgedExactly_iff_sample : JudgedExactly sampleDigest genesisClient "r" (recordBatch zeros 10) zeros zeros
    (sampleDigest (transitionMessage .v1 "q" "r" zeros [] 10 [])) := by
  have served : Served (record zeros 10) zeros zeros [] [] 10 :=
    record_served List.length_replicate (by decide)
  have mapped : mapBatchView (record zeros 10) = .ok (recordBatch zeros 10) := record_mapped (by decide)
  have selected : transitionRootVersionForBatch genesisClient.rest (recordBatch zeros 10) = .ok .v1 := rfl
  apply (judgedExactly_iff sampleDigest_length served mapped selected rfl ?_).mpr
  · exact ⟨Rounding.representable_of_lt (by decide), Or.inl List.length_replicate⟩
  · intro _
    rfl

/-- `2 ^ 53 + 1` transactions, and an honest state root. -/
def oddCount : Nat := 9007199254740993

def honestRoot : Bytes := sampleDigest (transitionMessage .v1 "q" "r" zeros [] oddCount [])

theorem honest_batch_rejected : ¬ ∀ (client : RdkClient) (rollupId : String) (raw : RawRecord)
    (batch : BatchView) (stateRoot prev dataHash withdrawalsRoot root : Bytes) (count : Nat)
    (version : TransitionRootVersion), Served raw stateRoot prev dataHash withdrawalsRoot count →
      mapBatchView raw = .ok batch → transitionRootVersionForBatch client.rest batch = .ok version →
      transitionRootOf sampleDigest version client.network.chainId rollupId prev dataHash count
        withdrawalsRoot = .ok root →
      JudgedExactly sampleDigest client rollupId batch stateRoot prev root := by
  intro judged
  have verdict := (judged genesisClient "r" (record honestRoot oddCount) _ honestRoot zeros [] [] honestRoot
    oddCount .v1 (record_served (sampleDigest_length _) (by decide)) (record_mapped (by decide)) rfl rfl).1
  have rejected : transitionRootValidator sampleDigest genesisClient "r"
      (recordBatch honestRoot (Rounding.nearest 53 oddCount)) = .ok false := by decide +kernel
  rw [rejected] at verdict
  simp at verdict

end QorechainRdk
