import QorechainRdk.Receipts.Batches

/-!
# A built receipt, verified

`buildSettlementReceipt` picks an anchor by the state root alone, `verifySettlementReceipt` by root, height
and signature. Against one state of the chain both land on the same anchor.
-/

namespace QorechainRdk.Receipts

open Js FirstMatch

section
variable {pqcVerify : Bytes → Bytes → Bytes → Except JsError Bool} {client : RdkClient} {rollupId : String}
  {n : Int} {R : RollupView} {root : String} {anchors : List AnchorView} {A : AnchorView}

def built (client : RdkClient) (rollupId : String) (n : Int) (R : RollupView) (root : String)
    (A : AnchorView) : SettlementReceipt :=
  receiptFromParts rollupId R.layerId n R.creator A root client.network.chainId

theorem built_selects (found : anchors.find? (carries root) = some A) :
    anchors.find? (selects (built client rollupId n R root A)) = some A := by
  obtain ⟨present, same⟩ := carries_iff.mp (List.find?_some found)
  apply find?_narrow found
  · exact selects_iff.mpr ⟨rfl, rfl, rfl⟩
  · intro b selected
    obtain ⟨equal, -, -⟩ := selects_iff.mp selected
    have equal : b.stateRoot = A.stateRoot := equal
    exact carries_iff.mpr ⟨equal ▸ present, equal.trans same⟩

theorem built_schema (named : client.network.chainId ≠ "") :
    receiptSchemaError (built client rollupId n R root A) = none := by
  apply receiptSchemaError_none.mpr
  refine ⟨rfl, Or.inr ⟨rfl, ?_, by simp [built, receiptFromParts], by simp [built, receiptFromParts]⟩⟩
  rw [← Bool.not_eq_true, falsy_iff]
  simp [built, receiptFromParts, named]

theorem built_checkRollup (published : Published client rollupId n R root anchors) :
    checkRollup (built client rollupId n R root A) client = .ok R :=
  checkRollup_ok.mpr ⟨published.rollup, published.layer, rfl⟩

theorem built_checkBatch (published : Published client rollupId n R root anchors)
    (found : anchors.find? (carries root) = some A) (checks : Checks) :
    checkBatch (built client rollupId n R root A) client checks = .ok () := by
  obtain ⟨B, batch, hex⟩ := published.batch
  obtain ⟨present, rfl⟩ := carries_iff.mp (List.find?_some found)
  exact checkBatch_ok.mpr ⟨B, batch, present, hex, rfl⟩

theorem built_checkAnchor (published : Published client rollupId n R root anchors)
    (found : anchors.find? (carries root) = some A) (checks : Checks) :
    checkAnchor (built client rollupId n R root A) client checks = .ok A :=
  checkAnchor_ok.mpr ⟨anchors, published.anchors, built_selects found, receiptFromParts_agrees ..⟩

theorem built_checkChain (checks : Checks) :
    checkChain (built client rollupId n R root A) client A checks = .ok () :=
  checkChain_ok.mpr (Or.inr rfl)

theorem built_checkCreator {account : PqcAccountView} (key : client.rest.getPqcAccount R.creator = .ok account)
    (registered : account.publicKey ≠ "") (checks : Checks) :
    checkCreator (built client rollupId n R root A) client R A checks = .ok account.publicKey :=
  checkCreator_ok.mpr ⟨account, key, rfl, registered, rfl⟩

theorem built_verifyOnChain {account : PqcAccountView} (published : Published client rollupId n R root anchors)
    (found : anchors.find? (carries root) = some A) (key : client.rest.getPqcAccount R.creator = .ok account)
    (registered : account.publicKey ≠ "") :
    verifyOnChain (built client rollupId n R root A) client pqcVerify =
      checkSignature (built client rollupId n R root A) client pqcVerify R A account.publicKey
        { allChecked with pqcSignature := false } := by
  unfold verifyOnChain
  simp only [built_checkRollup published, built_checkBatch published found, built_checkAnchor published found,
    built_checkCreator key registered, built_checkChain, bind, Except.bind]
  rfl

/-- The signature of the anchor under a key, over the form in force at the anchor's height. -/
def VerifiesUnder (pqcVerify : Bytes → Bytes → Bytes → Except JsError Bool) (client : RdkClient)
    (A : AnchorView) (publicKey : String) : Prop :=
  A.pqcSignature ≠ "" ∧ ∃ key message signature, hexToBytes publicKey = .ok key ∧
    anchorMessage A client.network.chainId
      (if client.network.anchorSignV2Height ≤ A.mainChainHeight then .v2 else .v1) = .ok message ∧
    hexToBytes A.pqcSignature = .ok signature ∧ pqcVerify key message signature = .ok true

theorem verifiesUnder_iff {publicKey : String} (registered : publicKey ≠ "") :
    VerifiesUnder pqcVerify client A publicKey ↔
      signatureOver pqcVerify A publicKey client.network.chainId (versionOf client A) = true := by
  rw [signatureOver_iff]
  exact (and_iff_right registered).symm

theorem built_valid {options : VerifyReceiptOptions} (published : Published client rollupId n R root anchors)
    (found : anchors.find? (carries root) = some A) (given : options.client = some client)
    (named : client.network.chainId ≠ "") :
    (verifySettlementReceipt pqcVerify (built client rollupId n R root A) options).valid = true ↔
      ∃ account, client.rest.getPqcAccount R.creator = .ok account ∧ account.publicKey ≠ "" ∧
        VerifiesUnder pqcVerify client A account.publicKey := by
  rw [valid_iff (built_schema named) given]
  constructor
  · intro h
    obtain ⟨R', A', K, steps⟩ := h
    have rollup := steps.rollup
    rw [built_checkRollup published] at rollup
    cases rollup
    have anchor := steps.anchor
    rw [built_checkAnchor published found] at anchor
    cases anchor
    obtain ⟨account, key, -, registered, rfl⟩ := checkCreator_ok.mp steps.creator
    exact ⟨account, key, registered, (verifiesUnder_iff registered).mpr steps.signature⟩
  · intro h
    obtain ⟨account, key, registered, signed⟩ := h
    refine ⟨R, A, account.publicKey, ?_⟩
    exact
      { rollup := built_checkRollup published
        batch := built_checkBatch published found _
        anchor := built_checkAnchor published found _
        creator := built_checkCreator key registered _
        chain := built_checkChain _
        signature := (verifiesUnder_iff registered).mp signed }

theorem built_checks {options : VerifyReceiptOptions} {account : PqcAccountView}
    (published : Published client rollupId n R root anchors)
    (found : anchors.find? (carries root) = some A) (given : options.client = some client)
    (named : client.network.chainId ≠ "") (key : client.rest.getPqcAccount R.creator = .ok account)
    (registered : account.publicKey ≠ "") :
    (verifySettlementReceipt pqcVerify (built client rollupId n R root A) options).checks =
      { allChecked with pqcSignature :=
          (verifySettlementReceipt pqcVerify (built client rollupId n R root A) options).valid } := by
  rw [verify_client (built_schema named) given, built_verifyOnChain published found key registered]
  unfold checkSignature
  dsimp only
  split
  · rfl
  · rfl

/-- What is rebuilt from the chain is what was built from it. -/
theorem built_verifiedReceipt {options : VerifyReceiptOptions}
    (published : Published client rollupId n R root anchors)
    (found : anchors.find? (carries root) = some A) (given : options.client = some client)
    (valid : (verifySettlementReceipt pqcVerify (built client rollupId n R root A) options).valid = true) :
    (verifySettlementReceipt pqcVerify (built client rollupId n R root A) options).verifiedReceipt =
      some (built client rollupId n R root A) := by
  obtain ⟨-, other, R', A', K, same, steps, result⟩ := valid_steps valid
  rw [given] at same
  cases same
  have rollup := steps.rollup
  rw [built_checkRollup published] at rollup
  cases rollup
  have anchor := steps.anchor
  rw [built_checkAnchor published found] at anchor
  cases anchor
  rw [result]
  rfl

end

/-- Against the chain that it was built from, only the signature can fail a receipt. -/
theorem buildSettlementReceipt_verifies (pqcVerify : Bytes → Bytes → Bytes → Except JsError Bool)
    (client : RdkClient) (rollupId : String) (n : Int) (receipt : SettlementReceipt)
    (options : VerifyReceiptOptions) (build : buildSettlementReceipt client rollupId n = .ok receipt)
    (given : options.client = some client) (named : client.network.chainId ≠ "") :
    ∃ R root anchors A, Published client rollupId n R root anchors ∧
      anchors.find? (carries root) = some A ∧
      (∀ account, client.rest.getPqcAccount R.creator = .ok account → account.publicKey ≠ "" →
        (verifySettlementReceipt pqcVerify receipt options).checks =
          { rollupLayerBinding := true, batchStateRoot := true, anchorOnChain := true,
            creatorAuthority := true, chainBinding := true,
            pqcSignature := (verifySettlementReceipt pqcVerify receipt options).valid }) ∧
      ((verifySettlementReceipt pqcVerify receipt options).valid = true ↔
        ∃ account, client.rest.getPqcAccount R.creator = .ok account ∧ account.publicKey ≠ "" ∧
          VerifiesUnder pqcVerify client A account.publicKey) ∧
      ((verifySettlementReceipt pqcVerify receipt options).valid = true →
        (verifySettlementReceipt pqcVerify receipt options).verifiedReceipt = some receipt) := by
  obtain ⟨R, root, anchors, A, published, found, rfl⟩ := buildSettlementReceipt_ok.mp build
  refine ⟨R, root, anchors, A, published, found, ?_, ?_, ?_⟩
  · intro account key registered
    exact built_checks published found given named key registered
  · exact built_valid published found given named
  · exact built_verifiedReceipt published found given

theorem buildSettlementReceipt_verifies_sample :
    (verifySettlementReceipt samplePqcVerify sampleReceipt { client := some sampleClient }).valid = true ∧
      (verifySettlementReceipt samplePqcVerify sampleReceipt { client := some sampleClient }).verifiedReceipt =
        some sampleReceipt := by
  have valid : (verifySettlementReceipt samplePqcVerify sampleReceipt
      { client := some sampleClient }).valid = true := by decide +kernel
  obtain ⟨R, root, anchors, A, -, -, -, -, reproduces⟩ :=
    buildSettlementReceipt_verifies samplePqcVerify sampleClient "r" 3 sampleReceipt
      { client := some sampleClient } (by decide) rfl (by decide)
  exact ⟨valid, reproduces valid⟩

end QorechainRdk.Receipts
