import QorechainRdk.Receipts.Anchors

/-!
# The batch behind a receipt

A batch and its anchor are linked by the state root alone, so which anchor certifies which batch is a
matter of the whole list.
-/

namespace QorechainRdk.Receipts

open Js

/-- What the chain answers about one batch: its root, and the anchors of its layer. -/
structure Published (client : RdkClient) (rollupId : String) (n : Int) (R : RollupView) (root : String)
    (anchors : List AnchorView) : Prop where
  rollup : client.rest.getRollup rollupId = .ok R
  layer : R.layerId ≠ ""
  batch : ∃ B, client.rest.getBatch rollupId n = .ok B ∧ rootHex B = .ok root
  anchors : client.rest.getAnchors R.layerId = .ok anchors

def sameKey (a b : AnchorView) : Bool :=
  b.stateRoot = a.stateRoot ∧ b.layerHeight = a.layerHeight ∧ b.pqcSignature = a.pqcSignature

def carries (root : String) (a : AnchorView) : Bool := a.stateRoot ≠ "" ∧ a.stateRoot = root

/-- A signed v2 anchor with the batch's root, the first of the layer with its root, height and signature. -/
def Certifies (pqcVerify : Bytes → Bytes → Bytes → Except JsError Bool) (client : RdkClient)
    (rollupId : String) (n : Int) (a : AnchorView) : Prop :=
  ∃ R root anchors, Published client rollupId n R root anchors ∧ carries root a = true ∧
    anchors.find? (sameKey a) = some a ∧ versionOf client a = .v2 ∧ SignedByCreator pqcVerify client R a

def Covers (client : RdkClient) (rollupId : String) (n : Int) (a : AnchorView) : Prop :=
  ∃ R root anchors, Published client rollupId n R root anchors ∧ anchors.find? (carries root) = some a

/-- Some receipt of batch `n` verifies over the v2 message, on the strength of the anchor `a`. -/
def Attested (pqcVerify : Bytes → Bytes → Bytes → Except JsError Bool) (client : RdkClient)
    (rollupId : String) (n : Int) (a : AnchorView) : Prop :=
  ∃ receipt options, receipt.rollupId = rollupId ∧ receipt.batchIndex = n ∧ options.client = some client ∧
    (verifySettlementReceipt pqcVerify receipt options).valid = true ∧
    (verifySettlementReceipt pqcVerify receipt options).signBytesVersion = some .v2 ∧
    (verifySettlementReceipt pqcVerify receipt options).anchor = some a

section
variable {pqcVerify : Bytes → Bytes → Bytes → Except JsError Bool} {client : RdkClient} {rollupId : String}
  {n : Int} {receipt : SettlementReceipt} {R : RollupView} {root : String} {anchors : List AnchorView}
  {a A : AnchorView} {K : String}

theorem carries_iff : carries root a = true ↔ a.stateRoot ≠ "" ∧ a.stateRoot = root := by
  simp [carries]

theorem Steps.published (h : Steps pqcVerify receipt client R A K) :
    ∃ anchors, Published client receipt.rollupId receipt.batchIndex R receipt.stateRoot anchors ∧
      anchors.find? (selects receipt) = some A ∧ carries receipt.stateRoot A = true := by
  obtain ⟨rollup, named, layer⟩ := checkRollup_ok.mp h.rollup
  obtain ⟨B, batch, present, hex, -⟩ := checkBatch_ok.mp h.batch
  obtain ⟨anchors, listed, found, -⟩ := checkAnchor_ok.mp h.anchor
  obtain ⟨root, -, -⟩ := selects_iff.mp (List.find?_some found)
  refine ⟨anchors, ⟨rollup, named, ⟨B, batch, hex⟩, ?_⟩, found, ?_⟩
  · rw [layer]
    exact listed
  · rw [carries_iff, root]
    exact ⟨present, rfl⟩

theorem Steps.certifies (h : Steps pqcVerify receipt client R A K) (v2 : versionOf client A = .v2) :
    Certifies pqcVerify client receipt.rollupId receipt.batchIndex A := by
  obtain ⟨anchors, published, found, carried⟩ := h.published
  obtain ⟨root, height, signed⟩ := selects_iff.mp (List.find?_some found)
  refine ⟨R, receipt.stateRoot, anchors, published, carried, ?_, v2, h.signedByCreator⟩
  have same : sameKey A = selects receipt := by
    funext b
    simp only [sameKey, selects, root, height, signed]
  rw [same]
  exact found

/-- The receipt that a presenter writes over an anchor, in the form that names no chain. -/
def relabelled (rollupId : String) (n : Int) (R : RollupView) (a : AnchorView) : SettlementReceipt :=
  { receiptFromParts rollupId R.layerId n R.creator a a.stateRoot "" with
    version := .integer 1
    chainId := none }

/-- What is written from an anchor agrees with it. -/
theorem receiptFromParts_agrees (rollupId layerId creator root chainId : String) (n : Int) :
    anchorFieldMismatch (receiptFromParts rollupId layerId n creator a root chainId) a = none := by
  rw [anchorFieldMismatch_none]
  refine ⟨rfl, rfl, rfl, ?_, ?_⟩
  · intro count stated
    exact (Option.some.inj stated).symm
  · intro proof stated
    exact congrArg toLowerCase (Option.some.inj stated).symm

theorem relabelled_steps (published : Published client rollupId n R root anchors)
    (carried : carries root a = true) (first : anchors.find? (sameKey a) = some a)
    (signed : SignedByCreator pqcVerify client R a) :
    ∃ K, Steps pqcVerify (relabelled rollupId n R a) client R a K := by
  obtain ⟨present, rfl⟩ := carries_iff.mp carried
  obtain ⟨B, batch, hex⟩ := published.batch
  obtain ⟨account, key, signature⟩ := signed
  obtain ⟨registered, -⟩ := signatureOver_iff.mp signature
  refine ⟨account.publicKey, ?_⟩
  refine
    { rollup := checkRollup_ok.mpr ⟨published.rollup, published.layer, rfl⟩
      batch := checkBatch_ok.mpr ⟨B, batch, present, hex, rfl⟩
      anchor := checkAnchor_ok.mpr ⟨anchors, published.anchors, first, ?_⟩
      creator := checkCreator_ok.mpr ⟨account, key, rfl, registered, rfl⟩
      chain := checkChain_ok.mpr (Or.inl rfl)
      signature := signature }
  exact receiptFromParts_agrees rollupId R.layerId R.creator a.stateRoot "" n

/-- The anchors that certify a batch are those that some receipt of it verifies on. -/
theorem attested_iff : Attested pqcVerify client rollupId n a ↔ Certifies pqcVerify client rollupId n a := by
  constructor
  · rintro ⟨receipt, options, rfl, rfl, given, valid, v2, anchor⟩
    obtain ⟨-, other, R, A, K, same, steps, result⟩ := valid_steps valid
    rw [given] at same
    cases same
    rw [result] at v2 anchor
    cases anchor
    exact steps.certifies (Option.some.inj v2)
  · rintro ⟨R, root, anchors, published, carried, first, v2, signed⟩
    obtain ⟨K, steps⟩ := relabelled_steps published carried first signed
    have schema : receiptSchemaError (relabelled rollupId n R a) = none :=
      receiptSchemaError_none.mpr ⟨rfl, Or.inl rfl⟩
    refine ⟨relabelled rollupId n R a, { client := some client }, rfl, rfl, rfl, ?_⟩
    rw [verify_client schema rfl, steps.verifies]
    exact ⟨rfl, congrArg some v2, rfl⟩

theorem buildSettlementReceipt_ok {r : SettlementReceipt} :
    buildSettlementReceipt client rollupId n = .ok r ↔
      ∃ R root anchors A, Published client rollupId n R root anchors ∧
        anchors.find? (carries root) = some A ∧
        r = receiptFromParts rollupId R.layerId n R.creator A root client.network.chainId := by
  unfold buildSettlementReceipt
  rw [bind_ok_iff]
  constructor
  · rintro ⟨R, rollup, built⟩
    obtain ⟨layer, built⟩ := guard_ok_iff.mp built
    obtain ⟨B, batch, built⟩ := bind_ok built
    obtain ⟨root, hex, built⟩ := bind_ok built
    obtain ⟨anchors, listed, built⟩ := bind_ok built
    split at built
    · rename_i A found
      exact ⟨R, root, anchors, A, ⟨rollup, layer, ⟨B, batch, hex⟩, listed⟩, found, (pure_ok_iff.mp built).symm⟩
    · obtain ⟨latest, -, built⟩ := bind_ok built
      split at built
      · cases built
      · cases built
  · rintro ⟨R, root, anchors, A, published, found, rfl⟩
    obtain ⟨B, batch, hex⟩ := published.batch
    unfold carries at found
    refine ⟨R, published.rollup, guard_ok_iff.mpr ⟨published.layer, ?_⟩⟩
    simp only [batch, hex, published.anchors, found, ok_bind]
    rfl

theorem matched_height {options : VerifyReceiptOptions} (given : options.client = some client)
    (valid : (verifySettlementReceipt pqcVerify receipt options).valid = true)
    (v2 : (verifySettlementReceipt pqcVerify receipt options).signBytesVersion = some .v2) :
    ∃ a, (verifySettlementReceipt pqcVerify receipt options).anchor = some a ∧
      a.layerHeight = receipt.layerHeight ∧
      Attested pqcVerify client receipt.rollupId receipt.batchIndex a := by
  obtain ⟨-, other, R, A, K, -, steps, result⟩ := valid_steps valid
  have anchor : (verifySettlementReceipt pqcVerify receipt options).anchor = some A := by
    rw [result]
    rfl
  obtain ⟨anchors, -, found, -⟩ := steps.published
  obtain ⟨-, height, -⟩ := selects_iff.mp (List.find?_some found)
  exact ⟨A, anchor, height, receipt, options, rfl, rfl, given, valid, v2, anchor⟩

end

/-- Where every anchor that certifies a batch is at the batch's own height, receipts name the batch that was
anchored: those that verify, those that are built, and those of two batches. -/
theorem receipts_name_their_batch (pqcVerify : Bytes → Bytes → Bytes → Except JsError Bool)
    (client : RdkClient) (rollupId : String) (n : Int) :
    (∀ receipt options, receipt.batchIndex = n → options.client = some client →
      (verifySettlementReceipt pqcVerify receipt options).valid = true →
      (verifySettlementReceipt pqcVerify receipt options).signBytesVersion = some .v2 →
      ∃ a, (verifySettlementReceipt pqcVerify receipt options).anchor = some a ∧
        (a.layerHeight = n ↔ receipt.layerHeight = n)) ∧
    ((∀ receipt options a, receipt.rollupId = rollupId → receipt.batchIndex = n →
        options.client = some client →
        (verifySettlementReceipt pqcVerify receipt options).valid = true →
        (verifySettlementReceipt pqcVerify receipt options).signBytesVersion = some .v2 →
        (verifySettlementReceipt pqcVerify receipt options).anchor = some a → a.layerHeight = n) ↔
      ∀ a, Certifies pqcVerify client rollupId n a → a.layerHeight = n) ∧
    ((∀ r, buildSettlementReceipt client rollupId n = .ok r →
        client.network.anchorSignV2Height ≤ r.mainChainHeight → r.layerHeight = n) ↔
      ∀ a, Covers client rollupId n a → client.network.anchorSignV2Height ≤ a.mainChainHeight →
        a.layerHeight = n) ∧
    ∀ m, (∀ a, Certifies pqcVerify client rollupId n a → a.layerHeight = n) →
      (∀ a, Certifies pqcVerify client rollupId m a → a.layerHeight = m) →
      ∀ a, Attested pqcVerify client rollupId n a → Attested pqcVerify client rollupId m a → n = m := by
  refine ⟨?_, ?_, ?_, ?_⟩
  · rintro receipt options rfl given valid v2
    obtain ⟨a, anchor, height, -⟩ := matched_height given valid v2
    refine ⟨a, anchor, ?_⟩
    rw [height]
  · constructor
    · intro backed a certifies
      obtain ⟨receipt, options, ofRollup, ofBatch, given, valid, v2, anchor⟩ := attested_iff.mpr certifies
      exact backed receipt options a ofRollup ofBatch given valid v2 anchor
    · intro certified receipt options a ofRollup ofBatch given valid v2 anchor
      apply certified
      apply attested_iff.mp
      exact ⟨receipt, options, ofRollup, ofBatch, given, valid, v2, anchor⟩
  · constructor
    · rintro built a ⟨R, root, anchors, published, found⟩ v2
      exact built _ (buildSettlementReceipt_ok.mpr ⟨R, root, anchors, a, published, found, rfl⟩) v2
    · intro covered r result v2
      obtain ⟨R, root, anchors, A, published, found, rfl⟩ := buildSettlementReceipt_ok.mp result
      exact covered A ⟨R, root, anchors, published, found⟩ v2
  · intro m certified certified' a first second
    have atN := certified a (attested_iff.mp first)
    have atM := certified' a (attested_iff.mp second)
    exact atN.symm.trans atM

theorem sample_certifies {n : Int} {a : AnchorView}
    (h : Certifies samplePqcVerify sampleClient "r" n a) : a.layerHeight = 3 := by
  obtain ⟨R, root, anchors, published, -, found, -⟩ := h
  have listed : Except.ok [sampleAnchor] = Except.ok anchors := published.anchors
  cases listed
  have member := List.mem_of_find?_eq_some found
  rw [List.mem_singleton.mp member]
  rfl

theorem receipts_name_their_batch_sample :
    Attested samplePqcVerify sampleClient "r" 3 sampleAnchor ∧ ∀ receipt options a,
      receipt.rollupId = "r" → receipt.batchIndex = 3 → options.client = some sampleClient →
      (verifySettlementReceipt samplePqcVerify receipt options).valid = true →
      (verifySettlementReceipt samplePqcVerify receipt options).signBytesVersion = some .v2 →
      (verifySettlementReceipt samplePqcVerify receipt options).anchor = some a → a.layerHeight = 3 := by
  refine ⟨?_, ?_⟩
  · exact ⟨sampleReceipt, { client := some sampleClient }, rfl, rfl, rfl, by decide +kernel,
      by decide +kernel, by decide +kernel⟩
  · apply (receipts_name_their_batch samplePqcVerify sampleClient "r" 3).2.1.mpr
    intro a certifies
    exact sample_certifies certifies

def relabelledReceipt : SettlementReceipt := receiptFromParts "r" "r" 7 "c" sampleAnchor "ab12" "q"

/-- Batch 7 was never anchored: its receipt is built on the anchor of batch 3, and verifies. -/
theorem unanchored_batch_verifies :
    buildSettlementReceipt sampleClient "r" 7 = .ok relabelledReceipt ∧
      relabelledReceipt.batchIndex = 7 ∧ relabelledReceipt.layerHeight = 3 ∧
      (verifySettlementReceipt samplePqcVerify relabelledReceipt
        { client := some sampleClient }).valid = true ∧
      (verifySettlementReceipt samplePqcVerify relabelledReceipt
        { client := some sampleClient }).signBytesVersion = some .v2 ∧
      (verifySettlementReceipt samplePqcVerify relabelledReceipt
        { client := some sampleClient }).anchor = some sampleAnchor ∧
      sampleAnchor.layerHeight = 3 ∧
      (verifySettlementReceipt samplePqcVerify sampleReceipt
        { client := some sampleClient }).valid = true ∧
      (verifySettlementReceipt samplePqcVerify sampleReceipt
        { client := some sampleClient }).anchor = some sampleAnchor := by
  decide +kernel

end QorechainRdk.Receipts
