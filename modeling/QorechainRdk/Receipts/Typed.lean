import QorechainRdk.Client.Rest
import QorechainRdk.Lib.Lockstep
import QorechainRdk.Receipts.Untrusted

/-!
# A receipt file whose fields have their types

On such a file, what verifies a file and what verifies a receipt are one.
-/

namespace QorechainRdk.Receipts

open Js

def SettlementReceipt.toFile (receipt : SettlementReceipt) : ReceiptFile where
  version := .number receipt.version
  chainId := receipt.chainId.map .string
  rollupId := .string receipt.rollupId
  layerId := .string receipt.layerId
  batchIndex := .number (.integer receipt.batchIndex)
  creator := .string receipt.creator
  algorithm := .string receipt.algorithm
  stateRoot := .string receipt.stateRoot
  layerHeight := .number (.integer receipt.layerHeight)
  validatorSetHash := .string receipt.validatorSetHash
  mainChainHeight := .number (.integer receipt.mainChainHeight)
  anchoredAt := .number (.integer receipt.anchoredAt)
  pqcSignature := .string receipt.pqcSignature
  batchStateRoot := some (.string receipt.batchStateRoot)
  transactionCount := receipt.transactionCount.map fun count => .number (.integer count)
  compressedStateProof := receipt.compressedStateProof.map .string

def ReceiptVerification.toFile (v : ReceiptVerification) : FileVerification where
  valid := v.valid
  checks := v.checks
  signBytesVersion := v.signBytesVersion
  anchor := v.anchor
  verifiedReceipt := v.verifiedReceipt.map SettlementReceipt.toFile
  reason := v.reason

def Field.toJson : Field → Json
  | .text s => .string s
  | .number n => .number (.integer n)

/-- The reads of `client/rest.ts`, whatever text stands for the index of a batch. -/
def fileReads (fetch : FetchLike) (baseUrl : String) (network : Network) : ReceiptReads where
  getRollup := getRollup fetch baseUrl
  getBatch := fun rollupId batchIndex => do
    let body ← RestClient.get fetch baseUrl
      s!"/qorechain/rdk/v1/batch/{encodeURIComponent rollupId}/{batchIndex}"
    mapBatchView (nested body "batch")
  getAnchors := getAnchors fetch baseUrl
  getPqcAccount := getPqcAccount fetch baseUrl
  network := network

/-! ### Leaving early -/

/-- The verification of a file leaves with the result that the typed one leaves with. -/
def Leaves (v : ReceiptVerification) (exit : Exit) : Prop := exit = .returned v.toFile

section
variable {α : Type}

theorem throw_leaves {β : Type} {R : α → β → Prop} {v : ReceiptVerification}
    {result : Except JsError FileVerification} (text : result = .ok v.toFile) : Lockstep.Rel Leaves R (throw v) (stop result) := by
  rw [text]
  exact rfl

theorem orFail_leaves {read read' : Except JsError α} {failed : String → ReceiptVerification}
    {failed' : String → Except JsError FileVerification} (same : read' = read)
    (texts : ∀ message, failed' message = .ok (failed message).toFile) :
    Lockstep.Rel Leaves Eq (orFail read failed) (attempt read' failed') := by
  rw [same]
  cases read with
  | ok a => exact rfl
  | error err =>
    unfold attempt orFail stop
    dsimp only
    rw [texts]
    exact rfl

end

/-! ### The checks -/

section
variable (receipt : SettlementReceipt)

theorem fileSchemaError_typed : fileSchemaError receipt.toFile = receiptSchemaError receipt := by
  have version : ∀ v : Int, strictEq receipt.toFile.version (.number (.integer v)) = true ↔
      receipt.version = .integer v := by
    intro v
    simp [SettlementReceipt.toFile, strictEq]
  have unsupported : (!receipt.toFile.version.isInteger ||
      SUPPORTED_RECEIPT_VERSIONS.all fun v => !strictEq receipt.toFile.version (.number (.integer v))) = true ↔
      (!isInteger receipt.version ||
        SUPPORTED_RECEIPT_VERSIONS.all fun v => receipt.version ≠ .integer v) = true := by
    simp [SettlementReceipt.toFile, Json.isInteger, SUPPORTED_RECEIPT_VERSIONS, strictEq]
  have algorithm : (!strictEq receipt.toFile.algorithm (.string RECEIPT_ALGORITHM)) = true ↔
      receipt.algorithm ≠ RECEIPT_ALGORITHM := by
    simp [SettlementReceipt.toFile, strictEq]
  have named : (!receipt.toFile.chainId.any truthy) = true ↔ falsy receipt.chainId = true := by
    unfold SettlementReceipt.toFile falsy
    cases receipt.chainId with
    | none => simp
    | some chainId => simp [truthy]
  have count : receipt.toFile.transactionCount.isNone = true ↔ receipt.transactionCount = none := by
    simp [SettlementReceipt.toFile]
  have proof : receipt.toFile.compressedStateProof.isNone = true ↔ receipt.compressedStateProof = none := by
    simp [SettlementReceipt.toFile]
  unfold fileSchemaError receiptSchemaError
  refine if_congr unsupported ?_ (if_congr algorithm ?_ (if_congr (version 2)
    (if_congr named rfl (if_congr count rfl (if_congr proof rfl rfl))) rfl))
  · apply congrArg some
    apply String.ext
    rw [SettlementReceipt.toFile, Json.stringify]
    simp [toString]
  · apply congrArg some
    apply String.ext
    rw [SettlementReceipt.toFile, Json.stringify]
    simp [toString]

theorem toJson_inj {a b : Field} : strictEq a.toJson b.toJson = true ↔ a = b := by
  cases a with
  | text s => cases b <;> simp [Field.toJson, strictEq]
  | number n => cases b <;> simp [Field.toJson, strictEq]

theorem stringify_toJson (a : Field) : a.toJson.stringify = stringifyField a := by
  cases a with
  | text s => rw [Field.toJson, Json.stringify, stringifyField]
  | number n =>
    rw [Field.toJson, Json.stringify, stringifyField]
    rfl

theorem comparedFields_typed (anchor : AnchorView) : comparedFields receipt.toFile anchor =
    .ok ((anchorFields receipt anchor).map fun f => (f.1, f.2.1.toJson, f.2.2.toJson)) := by
  unfold comparedFields loweredProofs anchorFields SettlementReceipt.toFile
  cases receipt.transactionCount with
  | none =>
    cases receipt.compressedStateProof with
    | none => rfl
    | some proof => rfl
  | some count =>
    cases receipt.compressedStateProof with
    | none => rfl
    | some proof => rfl

theorem fieldMismatch_typed (anchor : AnchorView) :
    fieldMismatch receipt.toFile anchor = .ok (anchorFieldMismatch receipt anchor) := by
  unfold fieldMismatch anchorFieldMismatch
  rw [comparedFields_typed, ok_bind]
  apply congrArg Except.ok
  rw [List.findSome?_map]
  apply congrArg fun test => List.findSome? test (anchorFields receipt anchor)
  funext f
  obtain ⟨name, claimed, onChain⟩ := f
  have agree : (!strictEq claimed.toJson onChain.toJson) = true ↔ claimed ≠ onChain := by
    rw [Bool.not_eq_true', ← Bool.not_eq_true, toJson_inj]
  dsimp only [Function.comp]
  by_cases same : claimed = onChain
  · rw [if_neg (mt agree.mp (not_not.mpr same)), if_neg (not_not.mpr same)]
  · rw [if_pos (agree.mpr same), if_pos same, stringify_toJson, stringify_toJson]
    simp only [String.append_assoc]
    rfl

theorem selected_typed (anchor : AnchorView) : selected receipt.toFile anchor = selects receipt anchor := by
  unfold selected selects SettlementReceipt.toFile
  rw [Bool.eq_iff_iff]
  simp only [strictEq, Bool.and_eq_true, beq_iff_eq, decide_eq_true_iff, Number.integer.injEq, and_assoc]
  rw [@eq_comm _ receipt.stateRoot, @eq_comm _ receipt.layerHeight, @eq_comm _ receipt.pqcSignature]

end

section
variable (receipt : SettlementReceipt) (fetch : FetchLike) (baseUrl : String) (network : Network)
  (checks : Checks)

theorem rollupStep_typed : Lockstep.Rel Leaves Eq (checkRollup receipt ⟨restClient fetch baseUrl, network⟩)
    (rollupStep receipt.toFile (fileReads fetch baseUrl network)) := by
  unfold checkRollup rollupStep
  apply Lockstep.Rel.bind
  · apply orFail_leaves
    · exact rfl
    · intro message
      exact rfl
  · rintro rollup _ rfl
    apply Lockstep.Rel.ite
    · simp only [SettlementReceipt.toFile, strictEq, beq_iff_eq]
      rw [@eq_comm _ receipt.layerId]
    · intro _
      exact Lockstep.Rel.pure rfl
    · intro _
      apply throw_leaves
      exact rfl

theorem batchStep_typed : Lockstep.Rel Leaves Eq (checkBatch receipt ⟨restClient fetch baseUrl, network⟩ checks)
    (batchStep receipt.toFile (fileReads fetch baseUrl network) checks) := by
  unfold checkBatch batchStep
  apply Lockstep.Rel.bind
  · apply orFail_leaves
    · exact rfl
    · intro message
      exact rfl
  · rintro root _ rfl
    apply Lockstep.Rel.ite
    · simp only [SettlementReceipt.toFile, strictEq, beq_iff_eq, Option.any_some]
      rw [@eq_comm _ receipt.stateRoot, @eq_comm _ receipt.batchStateRoot]
    · intro _
      exact Lockstep.Rel.pure rfl
    · intro _
      apply throw_leaves
      exact rfl

theorem anchorStep_typed : Lockstep.Rel Leaves Eq (checkAnchor receipt ⟨restClient fetch baseUrl, network⟩ checks)
    (anchorStep receipt.toFile (fileReads fetch baseUrl network) checks) := by
  have selection : selected receipt.toFile = selects receipt := funext (selected_typed receipt)
  unfold checkAnchor anchorStep
  apply Lockstep.Rel.bind
  · apply orFail_leaves
    · exact rfl
    · intro message
      exact rfl
  · rintro anchors _ rfl
    rw [selection]
    cases anchors.find? (selects receipt) with
    | none => exact throw_leaves rfl
    | some matched =>
      dsimp only
      rw [fieldMismatch_typed]
      cases anchorFieldMismatch receipt matched with
      | none => exact Lockstep.Rel.pure rfl
      | some mismatch => exact throw_leaves rfl

variable {rollup : RollupView} {matched : AnchorView}

theorem creatorStep_typed : Lockstep.Rel Leaves Eq
    (checkCreator receipt ⟨restClient fetch baseUrl, network⟩ rollup matched checks)
    (creatorStep receipt.toFile (fileReads fetch baseUrl network) rollup matched checks) := by
  unfold checkCreator creatorStep
  apply Lockstep.Rel.bind
  · apply orFail_leaves
    · exact rfl
    · intro message
      exact rfl
  · rintro account _ rfl
    apply Lockstep.Rel.ite
    · simp [SettlementReceipt.toFile, strictEq]
    · intro _
      exact throw_leaves rfl
    · intro _
      apply Lockstep.Rel.ite Iff.rfl
      · intro _
        exact throw_leaves rfl
      · intro _
        exact Lockstep.Rel.pure rfl

theorem chainStep_typed : Lockstep.Rel Leaves Eq
    (checkChain receipt ⟨restClient fetch baseUrl, network⟩ matched checks)
    (chainStep receipt.toFile (fileReads fetch baseUrl network) matched checks) := by
  unfold checkChain chainStep SettlementReceipt.toFile
  cases receipt.chainId with
  | none => exact Lockstep.Rel.pure rfl
  | some chainId =>
    apply Lockstep.Rel.ite
    · simp [falsy, truthy, strictEq, fileReads]
    · intro _
      apply throw_leaves
      rw [template_string, ok_bind]
      apply congrArg fun reason => Except.ok (refusal checks (some matched) reason)
      apply String.ext
      simp only [String.toList_append]
      simp [toString, fileReads]
    · intro _
      exact Lockstep.Rel.pure rfl

variable (pqcVerify : Bytes → Bytes → Bytes → Except JsError Bool)

theorem signatureStep_typed {key : String} : Lockstep.Rel Leaves (fun v w => v.toFile = w)
    (checkSignature receipt ⟨restClient fetch baseUrl, network⟩ pqcVerify rollup matched key checks)
    (signatureStep receipt.toFile (fileReads fetch baseUrl network) pqcVerify rollup matched key checks) := by
  unfold checkSignature signatureStep
  apply Lockstep.Rel.ite Iff.rfl
  · intro _
    exact Lockstep.Rel.pure rfl
  · intro _
    exact throw_leaves rfl

theorem verifySteps_typed : Lockstep.Rel Leaves (fun v w => v.toFile = w)
    (verifyOnChain receipt ⟨restClient fetch baseUrl, network⟩ pqcVerify)
    (verifySteps receipt.toFile (fileReads fetch baseUrl network) pqcVerify) := by
  unfold verifyOnChain verifySteps
  apply Lockstep.Rel.bind (rollupStep_typed receipt fetch baseUrl network)
  rintro rollup _ rfl
  apply Lockstep.Rel.bind (batchStep_typed receipt fetch baseUrl network _)
  intro _ _ _
  apply Lockstep.Rel.bind (anchorStep_typed receipt fetch baseUrl network _)
  rintro matched _ rfl
  apply Lockstep.Rel.bind (creatorStep_typed receipt fetch baseUrl network _)
  rintro key _ rfl
  apply Lockstep.Rel.bind (chainStep_typed receipt fetch baseUrl network _)
  intro _ _ _
  exact signatureStep_typed receipt fetch baseUrl network _ pqcVerify

/-- A file whose fields have their types is verified as the receipt that it holds, and nothing is thrown. -/
theorem verifyReceiptFile_typed : verifyReceiptFile receipt.toFile (fileReads fetch baseUrl network) pqcVerify =
    .ok (verifySettlementReceipt pqcVerify receipt ⟨some ⟨restClient fetch baseUrl, network⟩, none⟩).toFile := by
  have steps := verifySteps_typed receipt fetch baseUrl network pqcVerify
  unfold verifyReceiptFile verifySettlementReceipt
  rw [fileSchemaError_typed]
  cases receiptSchemaError receipt with
  | some schemaError => exact rfl
  | none =>
    dsimp only
    rcases Lockstep.rel_iff.mp steps with ⟨v, _, typed, file, rfl⟩ | ⟨v, _, typed, file, rfl⟩
    · rw [typed, file]
    · rw [typed, file]

end

end QorechainRdk.Receipts
