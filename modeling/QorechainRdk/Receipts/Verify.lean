import QorechainRdk.Receipts.Model

/-!
# What a verified receipt says

One spec lemma for each step of `verifySettlementReceipt`, and what follows for a result that is valid.
-/

namespace QorechainRdk.Receipts

open Js

section
variable {ε α β : Type} {p : Prop} [Decidable p] {x : Except ε α} {f : α → Except ε β} {a b : α} {e v : ε}

theorem bind_error (h : (x >>= f) = .error v) : x = .error v ∨ ∃ a, x = .ok a ∧ f a = .error v := by
  cases x with
  | error e =>
    cases h
    exact Or.inl rfl
  | ok a => exact Or.inr ⟨a, rfl, h⟩

theorem accept_ok_iff : (if p then pure a else throw e : Except ε α) = .ok b ↔ p ∧ a = b := by
  split
  · simp [*, pure, Except.pure]
  · simp [*, throw, throwThe, MonadExceptOf.throw]

theorem accept_error (h : (if p then pure a else throw e : Except ε α) = .error v) : e = v := by
  split at h
  · cases h
  · exact Except.error.inj h

theorem refuse_ok_iff : (if p then throw e else x) = .ok b ↔ ¬ p ∧ x = .ok b := by
  split
  · simp [*, throw, throwThe, MonadExceptOf.throw]
  · simp [*]

theorem refuse_error (h : (if p then throw e else x) = .error v) : e = v ∨ x = .error v := by
  split at h
  · exact Or.inl (Except.error.inj h)
  · exact Or.inr h

end

section
variable {receipt : SettlementReceipt} {client : RdkClient} {checks : Checks} {R : RollupView}
  {A : AnchorView} {K : String} {pqcVerify : Bytes → Bytes → Bytes → Except JsError Bool}
  {v : ReceiptVerification}

/-! ### Steps that pass -/

theorem orFail_ok {α : Type} {read : Except JsError α} {failed : String → ReceiptVerification} {a : α} :
    orFail read failed = .ok a ↔ read = .ok a := by
  cases read <;> simp [orFail]

theorem checkRollup_ok : checkRollup receipt client = .ok R ↔
    client.rest.getRollup receipt.rollupId = .ok R ∧ R.layerId ≠ "" ∧ R.layerId = receipt.layerId := by
  unfold checkRollup
  rw [bind_ok_iff]
  constructor
  · intro h
    obtain ⟨rollup, read, rest⟩ := h
    obtain ⟨belongs, rfl⟩ := accept_ok_iff.mp rest
    exact ⟨orFail_ok.mp read, belongs⟩
  · intro h
    obtain ⟨read, belongs⟩ := h
    exact ⟨R, orFail_ok.mpr read, accept_ok_iff.mpr ⟨belongs, rfl⟩⟩

theorem checkBatch_ok : checkBatch receipt client checks = .ok () ↔
    ∃ B, client.rest.getBatch receipt.rollupId receipt.batchIndex = .ok B ∧ receipt.stateRoot ≠ "" ∧
      rootHex B = .ok receipt.stateRoot ∧ receipt.batchStateRoot = receipt.stateRoot := by
  unfold checkBatch
  rw [bind_ok_iff]
  constructor
  · intro h
    obtain ⟨root, read, rest⟩ := h
    obtain ⟨B, batch, hex⟩ := bind_ok (orFail_ok.mp read)
    obtain ⟨⟨named, rfl, copy⟩, -⟩ := accept_ok_iff.mp rest
    exact ⟨B, batch, named, hex, copy.symm⟩
  · intro h
    obtain ⟨B, batch, named, hex, copy⟩ := h
    refine ⟨receipt.stateRoot, orFail_ok.mpr ?_, accept_ok_iff.mpr ⟨⟨named, rfl, copy.symm⟩, rfl⟩⟩
    exact bind_ok_iff.mpr ⟨B, batch, hex⟩

theorem anchorFieldMismatch_none : anchorFieldMismatch receipt A = none ↔
    receipt.validatorSetHash = A.validatorSetHash ∧ receipt.mainChainHeight = A.mainChainHeight ∧
      receipt.anchoredAt = A.anchoredAt ∧
      (∀ count, receipt.transactionCount = some count → count = A.transactionCount) ∧
      ∀ proof, receipt.compressedStateProof = some proof →
        toLowerCase proof = toLowerCase A.compressedStateProof := by
  have agree : anchorFieldMismatch receipt A = none ↔
      ∀ f ∈ anchorFields receipt A, f.2.1 = f.2.2 := by
    unfold anchorFieldMismatch
    rw [List.findSome?_eq_none_iff]
    refine forall₂_congr fun f member => ?_
    split
    all_goals simp_all
  rw [agree]
  cases count : receipt.transactionCount
  all_goals cases proof : receipt.compressedStateProof
  all_goals simp [anchorFields, count, proof]

theorem checkAnchor_ok : checkAnchor receipt client checks = .ok A ↔
    ∃ anchors, client.rest.getAnchors receipt.layerId = .ok anchors ∧
      anchors.find? (selects receipt) = some A ∧ anchorFieldMismatch receipt A = none := by
  unfold checkAnchor
  rw [bind_ok_iff]
  constructor
  · rintro ⟨anchors, read, rest⟩
    refine ⟨anchors, orFail_ok.mp read, ?_⟩
    split at rest
    · cases rest
    · rename_i matched found
      split at rest
      · cases rest
      · rename_i agrees
        obtain rfl := pure_ok_iff.mp rest
        exact ⟨found, agrees⟩
  · rintro ⟨anchors, read, found, agrees⟩
    refine ⟨anchors, orFail_ok.mpr read, ?_⟩
    simp only [found, agrees]
    rfl

theorem checkCreator_ok : checkCreator receipt client R A checks = .ok K ↔
    ∃ account, client.rest.getPqcAccount R.creator = .ok account ∧ receipt.creator = R.creator ∧
      account.publicKey ≠ "" ∧ account.publicKey = K := by
  unfold checkCreator
  rw [bind_ok_iff]
  refine exists_congr fun account => ?_
  rw [orFail_ok, refuse_ok_iff, refuse_ok_iff, pure_ok_iff, not_not]

theorem falsy_iff {value : Option String} : falsy value = true ↔ value = none ∨ value = some "" := by
  cases value <;> simp [falsy]

theorem checkChain_ok : checkChain receipt client A checks = .ok () ↔
    falsy receipt.chainId = true ∨ receipt.chainId = some client.network.chainId := by
  unfold checkChain
  dsimp only
  rw [refuse_ok_iff]
  simp [pure, Except.pure, or_iff_not_imp_left]

/-- The signature verifies over the message as a whole, and nothing throws on the way. -/
theorem signatureOver_iff {chainId : String} {version : AnchorSignBytesVersion} :
    signatureOver pqcVerify A K chainId version = true ↔ K ≠ "" ∧ A.pqcSignature ≠ "" ∧
      ∃ key message signature, hexToBytes K = .ok key ∧ anchorMessage A chainId version = .ok message ∧
        hexToBytes A.pqcSignature = .ok signature ∧ pqcVerify key message signature = .ok true := by
  unfold signatureOver
  split
  · rename_i missing
    constructor
    · nofun
    · rintro ⟨key, signature, -⟩
      exact (missing.elim key signature).elim
  · rename_i present
    rw [not_or] at present
    simp only [present, ne_eq, not_false_eq_true, true_and]
    constructor
    · intro verified
      split at verified
      · rename_i b run
        subst verified
        obtain ⟨message, signed, run⟩ := bind_ok run
        obtain ⟨key, keyed, run⟩ := bind_ok run
        obtain ⟨signature, read, run⟩ := bind_ok run
        exact ⟨key, message, signature, keyed, signed, read, run⟩
      · cases verified
    · rintro ⟨key, message, signature, keyed, signed, read, run⟩
      simp only [signed, keyed, read, run, bind, Except.bind]

/-! ### Results that are not valid -/

/-- What an early exit reports: the checks so far, and that the receipt is not valid. -/
def Refused (checks : Checks) (v : ReceiptVerification) : Prop := v.valid = false ∧ v.checks = checks

theorem notValid_refused (anchor : Option AnchorView) (reason : String) :
    Refused checks (notValid checks anchor reason) := ⟨rfl, rfl⟩

/-- A step stops at its read or after it. -/
theorem orFail_bind_error {α β : Type} {read : Except JsError α} {anchor : Option AnchorView}
    {reason : String → String} {f : α → Except ReceiptVerification β}
    (h : ((orFail read fun message => notValid checks anchor (reason message)) >>= f) = .error v) :
    Refused checks v ∨ ∃ a, f a = .error v := by
  cases read with
  | ok a => exact Or.inr ⟨a, h⟩
  | error e =>
    cases h
    exact Or.inl (notValid_refused _ _)

theorem checkRollup_error (h : checkRollup receipt client = .error v) : Refused NO_CHECKS v := by
  unfold checkRollup at h
  rcases orFail_bind_error h with unread | ⟨rollup, rest⟩
  · exact unread
  · obtain rfl := accept_error rest
    exact notValid_refused _ _

theorem checkBatch_error (h : checkBatch receipt client checks = .error v) : Refused checks v := by
  unfold checkBatch at h
  rcases orFail_bind_error h with unread | ⟨root, rest⟩
  · exact unread
  · obtain rfl := accept_error rest
    exact notValid_refused _ _

theorem checkAnchor_error (h : checkAnchor receipt client checks = .error v) : Refused checks v := by
  unfold checkAnchor at h
  rcases orFail_bind_error h with unread | ⟨anchors, rest⟩
  · exact unread
  · split at rest
    · cases rest
      exact notValid_refused _ _
    · split at rest
      · cases rest
        exact notValid_refused _ _
      · cases rest

theorem checkCreator_error (h : checkCreator receipt client R A checks = .error v) : Refused checks v := by
  unfold checkCreator at h
  rcases orFail_bind_error h with unread | ⟨account, rest⟩
  · exact unread
  · rcases refuse_error rest with rfl | rest
    · exact notValid_refused _ _
    · rcases refuse_error rest with rfl | rest
      · exact notValid_refused _ _
      · cases rest

theorem checkChain_error (h : checkChain receipt client A checks = .error v) : Refused checks v := by
  unfold checkChain at h
  rcases refuse_error h with rfl | rest
  · exact notValid_refused _ _
  · cases rest

theorem checkSignature_error (h : checkSignature receipt client pqcVerify R A K checks = .error v) :
    v.valid = false := by
  unfold checkSignature at h
  obtain rfl := accept_error h
  rfl

/-! ### The steps together -/

def outcome : Except ReceiptVerification ReceiptVerification → ReceiptVerification
  | .ok result => result
  | .error result => result

theorem verify_client {options : VerifyReceiptOptions} (schema : receiptSchemaError receipt = none)
    (given : options.client = some client) :
    verifySettlementReceipt pqcVerify receipt options = outcome (verifyOnChain receipt client pqcVerify) := by
  unfold verifySettlementReceipt
  simp only [schema, given]
  cases verifyOnChain receipt client pqcVerify with
  | ok result => rfl
  | error result => rfl

def rollupChecked : Checks := { NO_CHECKS with rollupLayerBinding := true }

def batchChecked : Checks := { rollupChecked with batchStateRoot := true }

def allChecked : Checks := ⟨true, true, true, true, true, true⟩

def versionOf (client : RdkClient) (A : AnchorView) : AnchorSignBytesVersion :=
  anchorSignBytesVersionFor A.mainChainHeight client.network.anchorSignV2Height

structure Steps (pqcVerify : Bytes → Bytes → Bytes → Except JsError Bool) (receipt : SettlementReceipt)
    (client : RdkClient) (R : RollupView) (A : AnchorView) (K : String) : Prop where
  rollup : checkRollup receipt client = .ok R
  batch : checkBatch receipt client rollupChecked = .ok ()
  anchor : checkAnchor receipt client batchChecked = .ok A
  creator : checkCreator receipt client R A { batchChecked with anchorOnChain := true } = .ok K
  chain : checkChain receipt client A
    { batchChecked with anchorOnChain := true, creatorAuthority := true } = .ok ()
  signature : signatureOver pqcVerify A K client.network.chainId (versionOf client A) = true

def verified (receipt : SettlementReceipt) (client : RdkClient) (R : RollupView) (A : AnchorView) :
    ReceiptVerification where
  valid := true
  mode := .chain
  checks := allChecked
  signBytesVersion := some (versionOf client A)
  anchor := some A
  verifiedReceipt := some (receiptFromParts receipt.rollupId R.layerId receipt.batchIndex R.creator A
    receipt.batchStateRoot client.network.chainId)

theorem Steps.verifies (h : Steps pqcVerify receipt client R A K) :
    verifyOnChain receipt client pqcVerify = .ok (verified receipt client R A) := by
  have rollup := h.rollup
  have batch := h.batch
  have anchor := h.anchor
  have creator := h.creator
  have chain := h.chain
  have signature := h.signature
  unfold rollupChecked at batch
  unfold batchChecked rollupChecked at anchor creator chain
  unfold versionOf at signature
  unfold verifyOnChain checkSignature
  simp only [rollup, batch, anchor, creator, chain, signature, bind, Except.bind, if_true]
  rfl

/-- A verification is either stopped, and not valid, or has passed every step. -/
theorem verifyOnChain_cases (receipt : SettlementReceipt) (client : RdkClient)
    (pqcVerify : Bytes → Bytes → Bytes → Except JsError Bool) :
    (∃ R A K, Steps pqcVerify receipt client R A K) ∨
      ∃ v, verifyOnChain receipt client pqcVerify = .error v ∧ v.valid = false := by
  rcases result : verifyOnChain receipt client pqcVerify with v | v
  · refine Or.inr ⟨v, rfl, ?_⟩
    unfold verifyOnChain at result
    rcases bind_error result with stop | ⟨R, -, result⟩
    · exact (checkRollup_error stop).1
    rcases bind_error result with stop | ⟨-, -, result⟩
    · exact (checkBatch_error stop).1
    rcases bind_error result with stop | ⟨A, -, result⟩
    · exact (checkAnchor_error stop).1
    rcases bind_error result with stop | ⟨K, -, result⟩
    · exact (checkCreator_error stop).1
    rcases bind_error result with stop | ⟨-, -, result⟩
    · exact (checkChain_error stop).1
    exact checkSignature_error result
  · refine Or.inl ?_
    unfold verifyOnChain at result
    obtain ⟨R, rollup, result⟩ := bind_ok result
    obtain ⟨⟨⟩, batch, result⟩ := bind_ok result
    obtain ⟨A, anchor, result⟩ := bind_ok result
    obtain ⟨K, creator, result⟩ := bind_ok result
    obtain ⟨⟨⟩, chain, result⟩ := bind_ok result
    unfold checkSignature at result
    obtain ⟨signature, -⟩ := accept_ok_iff.mp result
    exact ⟨R, A, K, rollup, batch, anchor, creator, chain, signature⟩

theorem valid_steps {options : VerifyReceiptOptions}
    (valid : (verifySettlementReceipt pqcVerify receipt options).valid = true) :
    receiptSchemaError receipt = none ∧ ∃ client R A K, options.client = some client ∧
      Steps pqcVerify receipt client R A K ∧
      verifySettlementReceipt pqcVerify receipt options = verified receipt client R A := by
  cases schema : receiptSchemaError receipt with
  | some reason =>
    simp [verifySettlementReceipt, schema] at valid
  | none =>
    cases given : options.client with
    | none =>
      simp only [verifySettlementReceipt, schema, given] at valid
      split at valid
      · cases valid
      · cases valid
    | some client =>
      refine ⟨rfl, client, ?_⟩
      rw [verify_client schema given] at valid ⊢
      rcases verifyOnChain_cases receipt client pqcVerify with ⟨R, A, K, steps⟩ | ⟨v, stopped, refused⟩
      · refine ⟨R, A, K, rfl, steps, ?_⟩
        rw [steps.verifies]
        rfl
      · rw [stopped] at valid
        change v.valid = true at valid
        rw [refused] at valid
        cases valid

theorem valid_iff {options : VerifyReceiptOptions} (schema : receiptSchemaError receipt = none)
    (given : options.client = some client) :
    (verifySettlementReceipt pqcVerify receipt options).valid = true ↔
      ∃ R A K, Steps pqcVerify receipt client R A K := by
  constructor
  · intro valid
    obtain ⟨-, other, R, A, K, same, steps, -⟩ := valid_steps valid
    rw [given] at same
    cases same
    exact ⟨R, A, K, steps⟩
  · rintro ⟨R, A, K, steps⟩
    rw [verify_client schema given, steps.verifies]
    rfl

/-! ### Soundness -/

theorem receiptSchemaError_none : receiptSchemaError receipt = none ↔
    receipt.algorithm = RECEIPT_ALGORITHM ∧ (receipt.version = .integer 1 ∨
      (receipt.version = .integer 2 ∧ falsy receipt.chainId = false ∧
        receipt.transactionCount ≠ none ∧ receipt.compressedStateProof ≠ none)) := by
  unfold receiptSchemaError
  dsimp only
  by_cases known : receipt.version = .integer 1 ∨ receipt.version = .integer 2
  · have supported : ¬ (!isInteger receipt.version ||
        SUPPORTED_RECEIPT_VERSIONS.all fun v => receipt.version ≠ .integer v) = true := by
      cases known with
      | inl one => rw [one]; decide
      | inr two => rw [two]; decide
    rw [if_neg supported]
    by_cases algorithm : receipt.algorithm = RECEIPT_ALGORITHM
    · rw [if_neg (not_not.mpr algorithm)]
      cases known with
      | inl one => simp [one, algorithm]
      | inr two =>
        cases falsy receipt.chainId
        all_goals cases receipt.transactionCount
        all_goals cases receipt.compressedStateProof
        all_goals simp [two, algorithm]
    · simp [algorithm]
  · have unsupported : (!isInteger receipt.version ||
        SUPPORTED_RECEIPT_VERSIONS.all fun v => receipt.version ≠ .integer v) = true := by
      rw [not_or] at known
      simp [SUPPORTED_RECEIPT_VERSIONS, known]
    rw [if_pos unsupported]
    rw [not_or] at known
    simp [known]

/-- The receipt says what the chain holds, field by field, and the creator signed for it. -/
structure Reproduced (pqcVerify : Bytes → Bytes → Bytes → Except JsError Bool) (receipt : SettlementReceipt)
    (client : RdkClient) (R : RollupView) (B : BatchView) (A : AnchorView) (K : String) : Prop where
  rollup : client.rest.getRollup receipt.rollupId = .ok R
  layer : R.layerId ≠ "" ∧ receipt.layerId = R.layerId
  creator : receipt.creator = R.creator
  batch : client.rest.getBatch receipt.rollupId receipt.batchIndex = .ok B
  root : receipt.stateRoot ≠ "" ∧ rootHex B = .ok receipt.stateRoot ∧
    receipt.batchStateRoot = receipt.stateRoot ∧ A.stateRoot = receipt.stateRoot
  listed : ∃ anchors, client.rest.getAnchors R.layerId = .ok anchors ∧ A ∈ anchors
  height : receipt.layerHeight = A.layerHeight
  signed : receipt.pqcSignature = A.pqcSignature
  validators : receipt.validatorSetHash = A.validatorSetHash
  recorded : receipt.mainChainHeight = A.mainChainHeight ∧ receipt.anchoredAt = A.anchoredAt
  count : ∀ count, receipt.transactionCount = some count → count = A.transactionCount
  proof : ∀ proof, receipt.compressedStateProof = some proof →
    toLowerCase proof = toLowerCase A.compressedStateProof
  versions : receipt.version = .integer 1 ∨ (receipt.version = .integer 2 ∧
    receipt.transactionCount ≠ none ∧ receipt.compressedStateProof ≠ none)
  key : ∃ account, client.rest.getPqcAccount R.creator = .ok account ∧ account.publicKey = K ∧ K ≠ ""
  chain : receipt.chainId = some client.network.chainId ∨
    (receipt.version = .integer 1 ∧ (receipt.chainId = none ∨ receipt.chainId = some ""))
  signature : ∃ key message signature, hexToBytes K = .ok key ∧ hexToBytes A.pqcSignature = .ok signature ∧
    anchorMessage A client.network.chainId
      (if client.network.anchorSignV2Height ≤ A.mainChainHeight then .v2 else .v1) = .ok message ∧
    pqcVerify key message signature = .ok true

theorem selects_iff {a : AnchorView} : selects receipt a = true ↔ a.stateRoot = receipt.stateRoot ∧
    a.layerHeight = receipt.layerHeight ∧ a.pqcSignature = receipt.pqcSignature := by
  simp [selects]

theorem Steps.reproduced (h : Steps pqcVerify receipt client R A K)
    (schema : receiptSchemaError receipt = none) : ∃ B, Reproduced pqcVerify receipt client R B A K := by
  obtain ⟨rollup, named, layer⟩ := checkRollup_ok.mp h.rollup
  obtain ⟨B, batch, some_root, hex, copy⟩ := checkBatch_ok.mp h.batch
  obtain ⟨anchors, listed, found, agrees⟩ := checkAnchor_ok.mp h.anchor
  obtain ⟨account, key, creator, registered, rfl⟩ := checkCreator_ok.mp h.creator
  obtain ⟨root, height, signed⟩ := selects_iff.mp (List.find?_some found)
  obtain ⟨validators, mainChain, time, count, proof⟩ := anchorFieldMismatch_none.mp agrees
  obtain ⟨-, -, keyBytes, message, signature, keyed, message_ok, read, accepts⟩ := signatureOver_iff.mp h.signature
  obtain ⟨-, version⟩ := receiptSchemaError_none.mp schema
  refine ⟨B, ?_⟩
  refine
    { rollup, batch, creator, validators, count, proof
      layer := ⟨named, layer.symm⟩
      root := ⟨some_root, hex, copy, root⟩
      listed := ⟨anchors, ?_, List.mem_of_find?_eq_some found⟩
      height := height.symm
      signed := signed.symm
      recorded := ⟨mainChain, time⟩
      versions := ?_
      key := ⟨account, key, rfl, registered⟩
      chain := ?_
      signature := ⟨keyBytes, message, signature, keyed, read, message_ok, accepts⟩ }
  · rw [layer]
    exact listed
  · exact version.imp_right fun ⟨two, _, carried⟩ => ⟨two, carried⟩
  · rcases checkChain_ok.mp h.chain with missing | named
    · refine Or.inr ?_
      rcases version with one | ⟨-, present, -⟩
      · exact ⟨one, falsy_iff.mp missing⟩
      · rw [missing] at present
        cases present
    · exact Or.inl named

end

/-- Of a receipt that verifies, nothing is taken on its own word. -/
theorem verifySettlementReceipt_sound (pqcVerify : Bytes → Bytes → Bytes → Except JsError Bool)
    (receipt : SettlementReceipt) (options : VerifyReceiptOptions)
    (valid : (verifySettlementReceipt pqcVerify receipt options).valid = true) :
    (verifySettlementReceipt pqcVerify receipt options).mode = .chain ∧
      (verifySettlementReceipt pqcVerify receipt options).checks = ⟨true, true, true, true, true, true⟩ ∧
      ∃ client R B A K, options.client = some client ∧ Reproduced pqcVerify receipt client R B A K ∧
        (verifySettlementReceipt pqcVerify receipt options).anchor = some A := by
  obtain ⟨schema, client, R, A, K, given, steps, result⟩ := valid_steps valid
  obtain ⟨B, reproduced⟩ := steps.reproduced schema
  rw [result]
  exact ⟨rfl, rfl, client, R, B, A, K, given, reproduced, rfl⟩

def sampleAnchor : AnchorView where
  layerId := "r"
  layerHeight := 3
  stateRoot := "ab12"
  validatorSetHash := ""
  mainChainHeight := 5000
  anchoredAt := 60
  pqcSignature := "5163"
  transactionCount := 10
  compressedStateProof := ""

def sampleBatch (index : Int) : BatchView where
  batchIndex := index
  stateRoot := "ab12"
  prevStateRoot := ""
  txCount := 10
  dataHash := ""
  status := "finalized"
  submittedAt := 4990
  finalizedAt := 5000
  withdrawalsRoot := ""
  submittedTime := 0

/-- An idle rollup: batches 3 and 7 have one state root, and batch 3 is anchored. -/
def sampleClient : RdkClient where
  rest := {
    getRollup := fun id => if id = "r" then .ok { creator := "c", layerId := "r" } else fail "not found"
    getBatch := fun _ index => if index = 3 ∨ index = 7 then .ok (sampleBatch index) else fail "not found"
    getAnchors := fun _ => .ok [sampleAnchor]
    getLatestAnchor := fun _ => .ok sampleAnchor
    getPqcAccount := fun _ => .ok { publicKey := "0b1e" }
    getAppliedPlanHeight := fun _ => .ok 4000 }
  network := { chainId := "q", anchorSignV2Height := 4000 }

def samplePqcVerify (key message signature : Bytes) : Except JsError Bool :=
  .ok (key = [11, 30] ∧ anchorMessage sampleAnchor "q" .v2 = .ok message ∧ signature = [81, 99])

def sampleReceipt : SettlementReceipt := receiptFromParts "r" "r" 3 "c" sampleAnchor "ab12" "q"

theorem sampleReceipt_valid :
    (verifySettlementReceipt samplePqcVerify sampleReceipt { client := some sampleClient }).valid = true := by
  decide +kernel

theorem verifySettlementReceipt_sound_sample :
    (verifySettlementReceipt samplePqcVerify sampleReceipt { client := some sampleClient }).mode = .chain ∧
      (verifySettlementReceipt samplePqcVerify sampleReceipt { client := some sampleClient }).checks =
        ⟨true, true, true, true, true, true⟩ ∧
      ∃ client R B A K, some sampleClient = some client ∧
        Reproduced samplePqcVerify sampleReceipt client R B A K ∧
        (verifySettlementReceipt samplePqcVerify sampleReceipt { client := some sampleClient }).anchor = some A :=
  verifySettlementReceipt_sound samplePqcVerify sampleReceipt { client := some sampleClient } sampleReceipt_valid

/-- An empty chain id counts as none, so the receipt need not name the client's chain. -/
theorem empty_chainId_verifies : ¬ ∀ (receipt : SettlementReceipt) (client : RdkClient),
    (verifySettlementReceipt samplePqcVerify receipt { client := some client }).valid = true →
      receipt.chainId = some client.network.chainId ∨
        (receipt.version = .integer 1 ∧ receipt.chainId = none) := by
  intro binds
  have valid : (verifySettlementReceipt samplePqcVerify
      { sampleReceipt with version := .integer 1, chainId := some "" }
      { client := some sampleClient }).valid = true := by decide +kernel
  have named := binds _ _ valid
  revert named
  decide

end QorechainRdk.Receipts
