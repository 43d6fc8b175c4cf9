import QorechainRdk.Lib.FirstMatch
import QorechainRdk.Receipts.Verify

/-!
# The anchor behind a receipt

Step 3 of `verifySettlementReceipt` picks the first anchor with the receipt's root, height and signature,
and judges that one only.
-/

namespace QorechainRdk.Receipts

open Js FirstMatch

/-- The anchor equals the receipt on every anchor field that the receipt states. -/
structure MatchesAnchor (receipt : SettlementReceipt) (a : AnchorView) : Prop where
  stateRoot : a.stateRoot = receipt.stateRoot
  layerHeight : a.layerHeight = receipt.layerHeight
  pqcSignature : a.pqcSignature = receipt.pqcSignature
  validatorSetHash : receipt.validatorSetHash = a.validatorSetHash
  mainChainHeight : receipt.mainChainHeight = a.mainChainHeight
  anchoredAt : receipt.anchoredAt = a.anchoredAt
  transactionCount : ∀ count, receipt.transactionCount = some count → count = a.transactionCount
  compressedStateProof : ∀ proof, receipt.compressedStateProof = some proof →
    toLowerCase proof = toLowerCase a.compressedStateProof

def Agrees (receipt : SettlementReceipt) (a : AnchorView) : Prop := anchorFieldMismatch receipt a = none

def withAnchors (client : RdkClient) (anchors : List AnchorView) : RdkClient :=
  { client with rest := { client.rest with getAnchors := fun _ => .ok anchors } }

/-- The key on chain verifies the anchor, over the form in force at its height. -/
def SignedByCreator (pqcVerify : Bytes → Bytes → Bytes → Except JsError Bool) (client : RdkClient)
    (R : RollupView) (a : AnchorView) : Prop :=
  ∃ account, client.rest.getPqcAccount R.creator = .ok account ∧
    signatureOver pqcVerify a account.publicKey client.network.chainId (versionOf client a) = true

section
variable {receipt : SettlementReceipt} {client : RdkClient} {options : VerifyReceiptOptions}
  {R : RollupView} {A : AnchorView} {K : String} {anchors more : List AnchorView}
  {pqcVerify : Bytes → Bytes → Bytes → Except JsError Bool}

theorem matchesAnchor_iff {a : AnchorView} :
    MatchesAnchor receipt a ↔ selects receipt a = true ∧ Agrees receipt a := by
  unfold Agrees
  rw [selects_iff, anchorFieldMismatch_none]
  constructor
  · intro h
    exact ⟨⟨h.stateRoot, h.layerHeight, h.pqcSignature⟩, h.validatorSetHash, h.mainChainHeight, h.anchoredAt,
      h.transactionCount, h.compressedStateProof⟩
  · rintro ⟨⟨root, height, signed⟩, validators, mainChain, time, count, proof⟩
    exact ⟨root, height, signed, validators, mainChain, time, count, proof⟩

theorem occurs_iff : (∃ a ∈ anchors, MatchesAnchor receipt a) ↔
    Occurs (selects receipt) (Agrees receipt) anchors := by
  simp only [matchesAnchor_iff, Occurs]

theorem leads_iff : (∀ m, anchors.find? (selects receipt) = some m → MatchesAnchor receipt m) ↔
    Leads (selects receipt) (Agrees receipt) anchors := by
  refine forall₂_congr fun m found => ?_
  rw [matchesAnchor_iff]
  exact and_iff_right (List.find?_some found)

theorem checkAnchor_accepts {checks : Checks} (read : client.rest.getAnchors receipt.layerId = .ok anchors) :
    (∃ A, checkAnchor receipt client checks = .ok A) ↔ Accepts (selects receipt) (Agrees receipt) anchors := by
  simp only [checkAnchor_ok, read, Except.ok.injEq, exists_eq_left', Accepts, Agrees]

/-- Once steps 1 and 2 have passed, the flag says how step 3 went. -/
theorem anchorOnChain_checkAnchor (rollup : checkRollup receipt client = .ok R)
    (batch : checkBatch receipt client rollupChecked = .ok ()) :
    (outcome (verifyOnChain receipt client pqcVerify)).checks.anchorOnChain = true ↔
      ∃ A, checkAnchor receipt client batchChecked = .ok A := by
  unfold verifyOnChain
  unfold rollupChecked at batch
  cases anchor : checkAnchor receipt client batchChecked with
  | error v =>
    have refused := (checkAnchor_error anchor).2
    unfold batchChecked rollupChecked at anchor
    simp only [rollup, batch, anchor, bind, Except.bind, outcome]
    rw [refused]
    simp [batchChecked, rollupChecked, NO_CHECKS]
  | ok A =>
    unfold batchChecked rollupChecked at anchor
    simp only [rollup, batch, anchor, bind, Except.bind, Except.ok.injEq, exists_eq', iff_true]
    split
    · rename_i v stop
      exact (congrArg Checks.anchorOnChain (checkCreator_error stop).2).trans rfl
    · split
      · rename_i v stop
        exact (congrArg Checks.anchorOnChain (checkChain_error stop).2).trans rfl
      · unfold checkSignature
        dsimp only
        split
        · rfl
        · rfl

theorem Steps.signedByCreator (h : Steps pqcVerify receipt client R A K) :
    SignedByCreator pqcVerify client R A := by
  obtain ⟨account, key, -, -, rfl⟩ := checkCreator_ok.mp h.creator
  exact ⟨account, key, h.signature⟩

theorem Steps.withAnchors_iff (h : Steps pqcVerify receipt client R A K) :
    (∃ R' A' K', Steps pqcVerify receipt (withAnchors client more) R' A' K') ↔
      Accepts (selects receipt) (fun a => Agrees receipt a ∧ SignedByCreator pqcVerify client R a) more := by
  constructor
  · rintro ⟨R', A', K', steps⟩
    have rollup : checkRollup receipt client = .ok R' := steps.rollup
    rw [h.rollup] at rollup
    cases rollup
    obtain ⟨listed, read, found, agrees⟩ := checkAnchor_ok.mp steps.anchor
    cases read
    exact ⟨A', found, agrees, steps.signedByCreator⟩
  · rintro ⟨a, found, agrees, account, key, signature⟩
    obtain ⟨account', key', creator, registered, rfl⟩ := checkCreator_ok.mp h.creator
    rw [key] at key'
    cases key'
    refine ⟨R, a, account.publicKey, ?_⟩
    refine
      { rollup := h.rollup
        batch := h.batch
        anchor := checkAnchor_ok.mpr ⟨more, rfl, found, agrees⟩
        creator := checkCreator_ok.mpr ⟨account, key, creator, registered, rfl⟩
        chain := checkChain_ok.mpr (checkChain_ok.mp h.chain)
        signature := signature }

end

/-- The flag says that some anchor matches exactly when the first one selected does if any does, and a receipt
that verified goes on verifying exactly when the first one selected from the longer list matches and is signed. -/
theorem anchorOnChain_exact {pqcVerify : Bytes → Bytes → Bytes → Except JsError Bool}
    {receipt : SettlementReceipt} {options : VerifyReceiptOptions} {client : RdkClient} {R : RollupView}
    {anchors : List AnchorView} (schema : receiptSchemaError receipt = none)
    (given : options.client = some client) (rollup : checkRollup receipt client = .ok R)
    (batch : checkBatch receipt client rollupChecked = .ok ())
    (read : client.rest.getAnchors receipt.layerId = .ok anchors) :
    (((verifySettlementReceipt pqcVerify receipt options).checks.anchorOnChain = true ↔
        ∃ a ∈ anchors, MatchesAnchor receipt a) ↔
      ((∃ a ∈ anchors, MatchesAnchor receipt a) →
        ∀ m, anchors.find? (selects receipt) = some m → MatchesAnchor receipt m)) ∧
    ∀ more, anchors ⊆ more → (verifySettlementReceipt pqcVerify receipt options).valid = true →
      ((verifySettlementReceipt pqcVerify receipt
          { options with client := some (withAnchors client more) }).valid = true ↔
        ∀ m, more.find? (selects receipt) = some m →
          MatchesAnchor receipt m ∧ SignedByCreator pqcVerify client R m) := by
  constructor
  · rw [verify_client schema given, anchorOnChain_checkAnchor rollup batch, checkAnchor_accepts read,
      occurs_iff, leads_iff]
    exact accepts_iff_occurs
  · intro more longer valid
    obtain ⟨R', A, K, steps⟩ := (valid_iff schema given).mp valid
    have same := steps.rollup
    rw [rollup] at same
    cases same
    have accepts := (checkAnchor_accepts read).mp ⟨A, steps.anchor⟩
    rw [valid_iff schema rfl, steps.withAnchors_iff, accepts.extend longer]
    refine forall₂_congr fun m found => ?_
    rw [matchesAnchor_iff, List.find?_some found]
    simp

def reanchored : AnchorView := { sampleAnchor with mainChainHeight := 5100, anchoredAt := 90 }

theorem anchorOnChain_exact_sample :
    (((verifySettlementReceipt samplePqcVerify sampleReceipt
          { client := some sampleClient }).checks.anchorOnChain = true ↔
        ∃ a ∈ [sampleAnchor], MatchesAnchor sampleReceipt a) ↔
      ((∃ a ∈ [sampleAnchor], MatchesAnchor sampleReceipt a) →
        ∀ m, [sampleAnchor].find? (selects sampleReceipt) = some m → MatchesAnchor sampleReceipt m)) ∧
    ∀ more, [sampleAnchor] ⊆ more → (verifySettlementReceipt samplePqcVerify sampleReceipt
        { client := some sampleClient }).valid = true →
      ((verifySettlementReceipt samplePqcVerify sampleReceipt
          { client := some (withAnchors sampleClient more) }).valid = true ↔
        ∀ m, more.find? (selects sampleReceipt) = some m →
          MatchesAnchor sampleReceipt m ∧
            SignedByCreator samplePqcVerify sampleClient { creator := "c", layerId := "r" } m) :=
  anchorOnChain_exact (by decide) rfl (by decide) (by decide) rfl

/-- Once batch 3 is anchored again, a receipt of its first anchor is refused while that anchor is listed. -/
theorem reanchored_hides :
    (verifySettlementReceipt samplePqcVerify sampleReceipt
        { client := some (withAnchors sampleClient [sampleAnchor]) }).valid = true ∧
      ¬ ((verifySettlementReceipt samplePqcVerify sampleReceipt
          { client := some (withAnchors sampleClient [reanchored, sampleAnchor]) }).checks.anchorOnChain =
            true ↔ ∃ a ∈ [reanchored, sampleAnchor], MatchesAnchor sampleReceipt a) ∧
      (verifySettlementReceipt samplePqcVerify sampleReceipt
        { client := some (withAnchors sampleClient [reanchored, sampleAnchor]) }).checks =
          ⟨true, true, false, false, false, false⟩ := by
  refine ⟨by decide +kernel, ?_, by decide⟩
  have refused : (verifySettlementReceipt samplePqcVerify sampleReceipt
      { client := some (withAnchors sampleClient [reanchored, sampleAnchor]) }).checks.anchorOnChain =
        false := by decide
  have listed : MatchesAnchor sampleReceipt sampleAnchor :=
    matchesAnchor_iff.mpr (by unfold Agrees; decide +kernel)
  rw [refused]
  intro shows
  have found := shows.mpr ⟨sampleAnchor, by simp, listed⟩
  cases found

end QorechainRdk.Receipts
