import QorechainRdk.Go.Receipts
import QorechainRdk.Go.Records
import QorechainRdk.Receipts.Verify

/-!
# Two verifiers, one verdict

`verifySettlementReceipt` in TypeScript and `VerifySettlementReceipt` in Go, in lockstep. What is undefined in the
one has its zero value in the other, and what throws in the one gives no bytes in the other.
-/

namespace QorechainRdk.Go

open Js
open Receipts (AnchorSignBytesVersion versionText)

/-! ### One receipt in both languages -/

structure SameReceipt (ts : Receipts.SettlementReceipt) (go : SettlementReceipt) : Prop where
  version : ts.version = .integer go.version
  chainId : ts.chainId.getD "" = go.chainId
  rollupId : ts.rollupId = go.rollupId
  layerId : ts.layerId = go.layerId
  batchIndex : ts.batchIndex = go.batchIndex
  creator : ts.creator = go.creator
  algorithm : ts.algorithm = go.algorithm
  stateRoot : ts.stateRoot = go.stateRoot
  layerHeight : ts.layerHeight = go.layerHeight
  validatorSetHash : ts.validatorSetHash = go.validatorSetHash
  mainChainHeight : ts.mainChainHeight = go.mainChainHeight
  anchoredAt : ts.anchoredAt = go.anchoredAt
  pqcSignature : ts.pqcSignature = go.pqcSignature
  batchStateRoot : ts.batchStateRoot = go.batchStateRoot
  transactionCount : ts.transactionCount.getD 0 = go.transactionCount
  compressedStateProof : ts.compressedStateProof.getD "" = go.compressedStateProof

/-- The fields that came with version 2 are all there, or none of them is. -/
def OfItsVersion (receipt : Receipts.SettlementReceipt) : Prop :=
  receipt.version = .integer 2 ∧ receipt.transactionCount ≠ none ∧ receipt.compressedStateProof ≠ none ∨
    receipt.version = .integer 1 ∧ receipt.transactionCount = none ∧ receipt.compressedStateProof = none

def ReceiptChecks.toTs (checks : ReceiptChecks) : Receipts.Checks where
  rollupLayerBinding := checks.rollupLayerBinding
  batchStateRoot := checks.batchStateRoot
  anchorOnChain := checks.anchorOnChain
  creatorAuthority := checks.creatorAuthority
  pqcSignature := checks.pqcSignature
  chainBinding := checks.chainBinding

def SettlementReceipt.toTs (receipt : SettlementReceipt) : Receipts.SettlementReceipt where
  version := .integer receipt.version
  chainId := some receipt.chainId
  rollupId := receipt.rollupId
  layerId := receipt.layerId
  batchIndex := receipt.batchIndex
  creator := receipt.creator
  algorithm := receipt.algorithm
  stateRoot := receipt.stateRoot
  layerHeight := receipt.layerHeight
  validatorSetHash := receipt.validatorSetHash
  mainChainHeight := receipt.mainChainHeight
  anchoredAt := receipt.anchoredAt
  pqcSignature := receipt.pqcSignature
  batchStateRoot := receipt.batchStateRoot
  transactionCount := some receipt.transactionCount
  compressedStateProof := some receipt.compressedStateProof

structure SameVerdict (ts : Receipts.ReceiptVerification) (go : ReceiptVerification) : Prop where
  valid : ts.valid = go.valid
  checks : ts.checks = go.checks.toTs
  signBytesVersion : (ts.signBytesVersion.map versionText).getD "" = go.signBytesVersion
  verifiedReceipt : ts.verifiedReceipt = go.verifiedReceipt.map SettlementReceipt.toTs

/-! ### The signed messages -/

theorem u64be_number (n : Nat) : u64be (.number n) = .ok (bigEndianU64 n) := u64be_ok_iff.mpr ⟨n, rfl, rfl⟩

theorem hexOrEmpty_bytesToHex (b : Bytes) : hexOrEmpty (bytesToHex b) = b := by
  unfold hexOrEmpty
  rw [hexToBytes_bytesToHex]
  rfl

section
variable {ts : QorechainRdk.AnchorView} {go : AnchorView}

theorem anchorSignBytesV1_alike (h : SameAnchor ts go) :
    Receipts.anchorSignBytesV1 ts.layerId (.number ts.layerHeight) ts.stateRoot ts.validatorSetHash =
      .ok (anchorSignBytesV1 go.layerId go.layerHeight go.stateRoot go.validatorSetHash) := by
  obtain ⟨rfl, ⟨root, rootHex⟩, ⟨validators, validatorsHex⟩, -, -⟩ := h
  unfold Receipts.anchorSignBytesV1 anchorSignBytesV1
  simp only [AnchorView.toTs, rootHex, validatorsHex, u64be_number, ok_bind, hexOrEmpty_bytesToHex,
    QorechainRdk.hexToBytes_bytesToHex]
  rfl

theorem anchorSignBytesV2_alike (h : SameAnchor ts go) (chainId : String) :
    Receipts.anchorSignBytesV2 chainId ts.layerId (.number ts.layerHeight) ts.stateRoot ts.validatorSetHash
        (.number ts.transactionCount) (some ts.compressedStateProof) =
      .ok (anchorSignBytesV2 chainId go.layerId go.layerHeight go.stateRoot go.validatorSetHash
        go.transactionCount go.compressedStateProof) := by
  obtain ⟨rfl, ⟨root, rootHex⟩, ⟨validators, validatorsHex⟩, -, ⟨proof, proofHex⟩⟩ := h
  have prefixed : ∀ b : Bytes, Receipts.lengthPrefixed b = .ok [bigEndianU64 b.length, b] := by
    intro b
    unfold Receipts.lengthPrefixed
    rw [u64be_number]
    rfl
  unfold Receipts.anchorSignBytesV2 anchorSignBytesV2 putBytes
  simp only [AnchorView.toTs, rootHex, validatorsHex, proofHex, Option.getD_some, prefixed, u64be_number, ok_bind,
    hexOrEmpty_bytesToHex, QorechainRdk.hexToBytes_bytesToHex]
  simp [pure, Except.pure, Receipts.ANCHOR_SIGN_DOMAIN_V2, AnchorSignDomainV2]

end

/-- Two implementations of one signature scheme: where the one throws, the other refuses. -/
def SameScheme (pqcVerify : Bytes → Bytes → Bytes → Except JsError Bool)
    (verify : Bytes → Bytes → Bytes → Bool) : Prop :=
  ∀ key message signature, pqcVerify key message signature = .ok true ↔ verify key message signature = true

section
variable {ts : QorechainRdk.AnchorView} {go : AnchorView}
  {pqcVerify : Bytes → Bytes → Bytes → Except JsError Bool} {verify : Bytes → Bytes → Bytes → Bool}

theorem anchorMessage_alike (h : SameAnchor ts go) (chainId : String) (version : AnchorSignBytesVersion) :
    Receipts.anchorMessage ts chainId version = .ok (if versionText version = "v2" then
      anchorSignBytesV2 chainId go.layerId go.layerHeight go.stateRoot go.validatorSetHash go.transactionCount
        go.compressedStateProof
      else anchorSignBytesV1 go.layerId go.layerHeight go.stateRoot go.validatorSetHash) := by
  cases version with
  | v1 => exact anchorSignBytesV1_alike h
  | v2 => exact anchorSignBytesV2_alike h chainId

theorem signatureOver_alike (scheme : SameScheme pqcVerify verify) (h : SameAnchor ts go) {key : String}
    (hex : ∃ b, key = bytesToHex b) (chainId : String) (version : AnchorSignBytesVersion) :
    Receipts.signatureOver pqcVerify ts key chainId version =
      signatureOver verify go key chainId (versionText version) := by
  obtain ⟨keyBytes, rfl⟩ := hex
  obtain ⟨signature, signatureHex⟩ := h.pqcSignature
  have held : ts.pqcSignature = go.pqcSignature := by
    rw [h.same]
    rfl
  rw [Bool.eq_iff_iff, Receipts.signatureOver_iff, held]
  unfold signatureOver
  by_cases missing : bytesToHex keyBytes = "" ∨ go.pqcSignature = ""
  · rw [if_pos missing]
    constructor
    · rintro ⟨key, signed, -⟩
      exact (missing.elim key signed).elim
    · nofun
  · rw [if_neg missing]
    rw [not_or] at missing
    rw [signatureHex] at missing ⊢
    rw [hexToBytes_bytesToHex, hexToBytes_bytesToHex]
    dsimp only
    constructor
    · rintro ⟨-, -, key, message, sig, keyed, signed, read, verified⟩
      rw [QorechainRdk.hexToBytes_bytesToHex] at keyed read
      cases keyed
      cases read
      rw [anchorMessage_alike h] at signed
      cases signed
      exact (scheme _ _ _).mp verified
    · intro verified
      exact ⟨missing.1, missing.2, keyBytes, _, signature, QorechainRdk.hexToBytes_bytesToHex _,
        anchorMessage_alike h chainId version, QorechainRdk.hexToBytes_bytesToHex _, (scheme _ _ _).mpr verified⟩

end

/-! ### The checks -/

section
variable {ts : Receipts.SettlementReceipt} {go : SettlementReceipt}

theorem passed_iff {p : Prop} [Decidable p] {reason : String} {rest : Option String} :
    (if p then some reason else rest) = none ↔ ¬ p ∧ rest = none := by
  split
  · simp [*]
  · simp [*]

theorem receiptSchemaError_none : receiptSchemaError go = none ↔
    go.algorithm = ReceiptAlgorithm ∧ (go.version = 1 ∨ (go.version = 2 ∧ go.chainId ≠ "")) := by
  unfold receiptSchemaError
  rw [passed_iff, passed_iff, passed_iff]
  simp only [SupportedReceiptVersions, List.contains_cons, List.contains_nil, Bool.or_false, Bool.not_eq_true,
    Bool.not_eq_false', Bool.or_eq_true, beq_iff_eq, not_not, not_and, and_true]
  constructor
  · rintro ⟨one | two, algorithm, named⟩
    · exact ⟨algorithm, Or.inl one⟩
    · exact ⟨algorithm, Or.inr ⟨two, named two⟩⟩
  · rintro ⟨algorithm, one | ⟨two, named⟩⟩
    · exact ⟨Or.inl one, algorithm, fun two => by omega⟩
    · exact ⟨Or.inr two, algorithm, fun _ => named⟩

theorem schema_alike (same : SameReceipt ts go) (carried : OfItsVersion ts) :
    Receipts.receiptSchemaError ts = none ↔ receiptSchemaError go = none := by
  have version := same.version
  have named : falsy ts.chainId = false ↔ go.chainId ≠ "" := by
    rw [← same.chainId]
    simp [falsy]
  rw [Receipts.receiptSchemaError_none, receiptSchemaError_none, same.algorithm, named]
  rcases carried with ⟨two, count, proof⟩ | ⟨one, -, -⟩
  · rw [two] at version
    simp [two, ← Number.integer.inj version, count, proof, Receipts.RECEIPT_ALGORITHM, ReceiptAlgorithm]
  · rw [one] at version
    simp [one, ← Number.integer.inj version, Receipts.RECEIPT_ALGORITHM, ReceiptAlgorithm]

theorem anchorFieldMismatch_none {a : AnchorView} : anchorFieldMismatch go a = none ↔
    go.validatorSetHash = a.validatorSetHash ∧ go.mainChainHeight = a.mainChainHeight ∧
      go.anchoredAt = a.anchoredAt ∧
      ((go.version = 2 ∨ go.transactionCount ≠ 0) → go.transactionCount = a.transactionCount) ∧
      ((go.version = 2 ∨ toLowerCase go.compressedStateProof ≠ "") →
        toLowerCase go.compressedStateProof = toLowerCase a.compressedStateProof) := by
  unfold anchorFieldMismatch
  dsimp only
  rw [passed_iff, passed_iff, passed_iff, passed_iff, passed_iff]
  simp only [ne_eq, not_not, not_and, beq_iff_eq, and_true]

theorem mismatch_alike (same : SameReceipt ts go) (carried : OfItsVersion ts) (a : AnchorView) :
    Receipts.anchorFieldMismatch ts a.toTs = none ↔ anchorFieldMismatch go a = none := by
  rw [Receipts.anchorFieldMismatch_none, anchorFieldMismatch_none]
  have version := same.version
  have validators : ts.validatorSetHash = a.toTs.validatorSetHash ↔ go.validatorSetHash = a.validatorSetHash := by
    rw [same.validatorSetHash]
    rfl
  have mainChain : ts.mainChainHeight = a.toTs.mainChainHeight ↔ go.mainChainHeight = a.mainChainHeight := by
    rw [same.mainChainHeight]
    exact Int.ofNat_inj
  have time : ts.anchoredAt = a.toTs.anchoredAt ↔ go.anchoredAt = a.anchoredAt := by
    rw [same.anchoredAt]
    rfl
  have held := same.transactionCount
  have text := same.compressedStateProof
  rw [validators, mainChain, time]
  rcases carried with ⟨two, counted, proved⟩ | ⟨one, counted, proved⟩
  · obtain ⟨count, present⟩ := Option.ne_none_iff_exists'.mp counted
    obtain ⟨proof, there⟩ := Option.ne_none_iff_exists'.mp proved
    rw [two] at version
    rw [present] at held
    rw [there] at text
    obtain rfl : count = go.transactionCount := held
    obtain rfl : proof = go.compressedStateProof := text
    have equal : (go.transactionCount : Int) = a.toTs.transactionCount ↔
        go.transactionCount = a.transactionCount := Int.ofNat_inj
    simp only [present, there, Option.some.injEq, forall_eq', equal, ← Number.integer.inj version, true_or,
      forall_const]
    rfl
  · rw [one] at version
    rw [counted] at held
    rw [proved] at text
    have zero : go.transactionCount = 0 := (Int.ofNat.inj held).symm
    have empty : go.compressedStateProof = "" := text.symm
    have other : go.version ≠ 2 := by
      rw [← Number.integer.inj version]
      decide
    have lower : toLowerCase "" = "" := toLowerCase_bytesToHex []
    simp [counted, proved, zero, empty, other, lower]

end

/-! ### Step by step -/

theorem notValid_alike (checks : ReceiptChecks) (ts : Option QorechainRdk.AnchorView) (go : Option AnchorView)
    (reason reason' : String) :
    SameVerdict (Receipts.notValid checks.toTs ts reason) (notValid checks go reason') := ⟨rfl, rfl, rfl, rfl⟩

theorem orFail_alike {α β : Type} {R : α → β → Prop} {ts : Except JsError α} {go : Except JsError β}
    {failed : String → Receipts.ReceiptVerification} {failed' : String → ReceiptVerification}
    (same : Lockstep.Rel (fun _ _ => True) R ts go)
    (alike : ∀ message message', SameVerdict (failed message) (failed' message')) :
    Lockstep.Rel SameVerdict R (Receipts.orFail ts failed) (orFail go failed') := by
  rcases Lockstep.rel_iff.mp same with ⟨a, b, rfl, rfl, related⟩ | ⟨d, e, rfl, rfl, -⟩
  · exact related
  · exact alike _ _

section
variable {ts : Receipts.SettlementReceipt} {go : SettlementReceipt} {tsClient : QorechainRdk.RdkClient}
  {client : RdkClient} (same : SameReceipt ts go) (reads : SameClient tsClient client) (checks : ReceiptChecks)
include same reads

theorem checkRollup_alike :
    Lockstep.Rel SameVerdict SameRollup (Receipts.checkRollup ts tsClient) (checkRollup go client) := by
  unfold Receipts.checkRollup checkRollup
  rw [same.rollupId, same.layerId]
  apply Lockstep.Rel.bind
  · apply orFail_alike (reads.rollup _)
    intro _ _
    exact notValid_alike {} _ _ _ _
  · intro rollup rollup' related
    rw [related.2]
    apply Lockstep.Rel.ite Iff.rfl
    · intro _
      exact Lockstep.Rel.pure related
    · intro _
      exact Lockstep.Rel.throw (notValid_alike {} _ _ _ _)

omit same in
/-- Decoding the root may throw in TypeScript, and is part of the read there. -/
theorem rootHex_alike (id : String) {n : Nat} (exact : n < 2 ^ 53) :
    Lockstep.Rel (fun _ _ => True) (fun root stateRoot => root = hexWireBytes stateRoot)
      (tsClient.rest.getBatch id n >>= Receipts.rootHex) (client.rest.getBatchStateRoot id n) := by
  rcases Lockstep.rel_iff.mp (reads.batch id n exact) with ⟨held, stateRoot, read, read', root⟩ | ⟨d, e, read, read', -⟩
  · rw [read, read', ok_bind, show Receipts.rootHex held = .ok (hexWireBytes stateRoot) from root]
    exact rfl
  · rw [read, read']
    exact trivial

theorem checkBatch_alike (exact : go.batchIndex < 2 ^ 53) :
    Lockstep.Rel SameVerdict Eq (Receipts.checkBatch ts tsClient checks.toTs) (checkBatch go client checks) := by
  unfold Receipts.checkBatch checkBatch
  rw [same.rollupId, same.batchIndex, same.stateRoot, same.batchStateRoot]
  apply Lockstep.Rel.bind
  · apply orFail_alike (rootHex_alike reads _ exact)
    intro _ _
    exact notValid_alike checks _ _ _ _
  · rintro root stateRoot rfl
    apply Lockstep.Rel.ite Iff.rfl
    · intro _
      exact Lockstep.Rel.pure rfl
    · intro _
      exact Lockstep.Rel.throw (notValid_alike checks _ _ _ _)

omit reads in
theorem selects_alike {a : QorechainRdk.AnchorView} {b : AnchorView} (related : SameAnchor a b) :
    Receipts.selects ts a = selects go b := by
  unfold Receipts.selects selects
  rw [same.stateRoot, same.layerHeight, same.pqcSignature, related.same]
  simp [AnchorView.toTs]

theorem checkAnchor_alike (carried : OfItsVersion ts) : Lockstep.Rel SameVerdict SameAnchor
    (Receipts.checkAnchor ts tsClient checks.toTs) (checkAnchor go client checks) := by
  unfold Receipts.checkAnchor checkAnchor
  rw [same.layerId]
  apply Lockstep.Rel.bind
  · apply orFail_alike (reads.anchors _)
    intro _ _
    exact notValid_alike checks _ _ _ _
  · intro anchors anchors' related
    have found := Lockstep.find?_rel related fun _ _ alike => selects_alike same alike
    generalize anchors.find? (Receipts.selects ts) = first at found ⊢
    generalize anchors'.find? (selects go) = first' at found ⊢
    cases found with
    | none => exact Lockstep.Rel.throw (notValid_alike checks _ _ _ _)
    | @some matched matched' held =>
      have agreed := mismatch_alike same carried matched'
      rw [← held.same] at agreed
      dsimp only
      cases claims : Receipts.anchorFieldMismatch ts matched with
      | none =>
        rw [agreed.mp claims]
        exact Lockstep.Rel.pure held
      | some mismatch =>
        cases claims' : anchorFieldMismatch go matched' with
        | none =>
          rw [agreed.mpr claims'] at claims
          cases claims
        | some mismatch' => exact Lockstep.Rel.throw (notValid_alike checks _ _ _ _)

theorem checkCreator_alike {rollup : QorechainRdk.RollupView} {rollup' : RollupView}
    {matched : QorechainRdk.AnchorView} {matched' : AnchorView} (related : SameRollup rollup rollup') :
    Lockstep.Rel SameVerdict (fun key key' => key = key' ∧ ∃ b, key = bytesToHex b)
      (Receipts.checkCreator ts tsClient rollup matched checks.toTs)
      (checkCreator go client rollup' matched' checks) := by
  unfold Receipts.checkCreator checkCreator
  rw [same.creator, related.1]
  apply Lockstep.Rel.bind
  · apply orFail_alike (reads.account _)
    intro _ _
    exact notValid_alike checks _ _ _ _
  · intro account account' held
    rw [held.same]
    apply Lockstep.Rel.ite Iff.rfl
    · intro _
      exact Lockstep.Rel.throw (notValid_alike checks _ _ _ _)
    · intro _
      apply Lockstep.Rel.ite Iff.rfl
      · intro _
        exact Lockstep.Rel.throw (notValid_alike checks _ _ _ _)
      · intro _
        exact Lockstep.Rel.pure ⟨rfl, held.hex⟩

theorem checkChain_alike {matched : QorechainRdk.AnchorView} {matched' : AnchorView} :
    Lockstep.Rel SameVerdict Eq (Receipts.checkChain ts tsClient matched checks.toTs)
      (checkChain go client matched' checks) := by
  unfold Receipts.checkChain checkChain
  dsimp only
  apply Lockstep.Rel.ite
  · rw [← same.chainId, reads.network]
    cases ts.chainId with
    | none => simp [falsy]
    | some named => simp [falsy, Network.toTs]
  · intro _
    exact Lockstep.Rel.throw (notValid_alike checks _ _ _ _)
  · intro _
    exact Lockstep.Rel.pure rfl

end

theorem versionText_alike (height v2Height : Nat) :
    versionText (Receipts.anchorSignBytesVersionFor height v2Height) =
      anchorSignBytesVersionFor height v2Height := by
  unfold Receipts.anchorSignBytesVersionFor anchorSignBytesVersionFor
  by_cases reached : v2Height ≤ height
  · rw [if_pos reached, if_pos (Int.ofNat_le.mpr reached)]
    rfl
  · rw [if_neg reached, if_neg (mt Int.ofNat_le.mp reached)]
    rfl

section
variable {ts : Receipts.SettlementReceipt} {go : SettlementReceipt} {tsClient : QorechainRdk.RdkClient}
  {client : RdkClient} {pqcVerify : Bytes → Bytes → Bytes → Except JsError Bool}
  {verify : Bytes → Bytes → Bytes → Bool}
  (scheme : SameScheme pqcVerify verify) (same : SameReceipt ts go) (reads : SameClient tsClient client)
include scheme same reads

theorem checkSignature_alike (checks : ReceiptChecks) {rollup : QorechainRdk.RollupView} {rollup' : RollupView}
    {matched : QorechainRdk.AnchorView} {matched' : AnchorView} {key : String}
    (related : SameRollup rollup rollup') (held : SameAnchor matched matched') (hex : ∃ b, key = bytesToHex b) :
    Lockstep.Rel SameVerdict SameVerdict
      (Receipts.checkSignature ts tsClient pqcVerify rollup matched key checks.toTs)
      (checkSignature go client verify rollup' matched' key checks) := by
  have version : versionText (Receipts.anchorSignBytesVersionFor matched.mainChainHeight
      tsClient.network.anchorSignV2Height) =
        anchorSignBytesVersionFor matched'.mainChainHeight client.network.anchorSignV2Height := by
    rw [held.same, reads.network]
    exact versionText_alike _ _
  have chain : tsClient.network.chainId = client.network.chainId := by
    rw [reads.network]
    rfl
  have signed := signatureOver_alike scheme held hex tsClient.network.chainId
    (Receipts.anchorSignBytesVersionFor matched.mainChainHeight tsClient.network.anchorSignV2Height)
  rw [version, chain] at signed
  unfold Receipts.checkSignature checkSignature
  dsimp only
  rw [chain, signed]
  apply Lockstep.Rel.ite Iff.rfl
  · intro _
    apply Lockstep.Rel.pure
    refine ⟨rfl, rfl, version, ?_⟩
    rw [related.1, related.2, held.same, same.rollupId, same.batchIndex, same.batchStateRoot]
    rfl
  · intro _
    exact Lockstep.Rel.throw ⟨rfl, rfl, version, rfl⟩

theorem verifyOnChain_alike (carried : OfItsVersion ts) (exact : go.batchIndex < 2 ^ 53) : Lockstep.Rel SameVerdict SameVerdict
    (Receipts.verifyOnChain ts tsClient pqcVerify) (verifyOnChain go client verify) := by
  unfold Receipts.verifyOnChain verifyOnChain
  apply Lockstep.Rel.bind (checkRollup_alike same reads)
  intro rollup rollup' related
  apply Lockstep.Rel.bind (checkBatch_alike same reads ⟨true, false, false, false, false, false⟩ exact)
  intro _ _ _
  apply Lockstep.Rel.bind (checkAnchor_alike same reads ⟨true, true, false, false, false, false⟩ carried)
  intro matched matched' held
  apply Lockstep.Rel.bind (checkCreator_alike same reads ⟨true, true, true, false, false, false⟩ related)
  rintro key _ ⟨rfl, hex⟩
  apply Lockstep.Rel.bind (checkChain_alike same reads ⟨true, true, true, true, false, false⟩)
  intro _ _ _
  exact checkSignature_alike scheme same reads ⟨true, true, true, true, false, true⟩ related held hex

end

/-- Of the integers that `number` holds exactly. -/
def Exact (receipt : SettlementReceipt) : Prop :=
  receipt.batchIndex < 2 ^ 53 ∧ receipt.layerHeight < 2 ^ 53 ∧ receipt.mainChainHeight < 2 ^ 53 ∧
    0 ≤ receipt.anchoredAt ∧ receipt.anchoredAt < 2 ^ 53 ∧ receipt.transactionCount < 2 ^ 53

/-- On a receipt that carries what its version does, the two verifiers return one verdict. -/
theorem verifiers_agree (sprint : Json → String) {pqcVerify : Bytes → Bytes → Bytes → Except JsError Bool}
    {verify : Bytes → Bytes → Bytes → Bool} (scheme : SameScheme pqcVerify verify) {fetch : FetchLike}
    {baseUrl : String} {get : String → Except JsError RawRecord} (reads : SameReads fetch baseUrl get)
    (served : Served get) (network : Network) {ts : Receipts.SettlementReceipt} {go : SettlementReceipt}
    (same : SameReceipt ts go) (exact : Exact go) (carried : OfItsVersion ts) (creatorPublicKey : Option String)
    (creatorPublicKeyHex : String) :
    SameVerdict
      (Receipts.verifySettlementReceipt pqcVerify ts
        ⟨some ⟨QorechainRdk.restClient fetch baseUrl, network.toTs⟩, creatorPublicKey⟩)
      (verifySettlementReceipt verify go creatorPublicKeyHex (some ⟨restClient sprint get, network⟩)) := by
  have client := restClients_alike sprint reads served network
  have schema := schema_alike same carried
  have chain := verifyOnChain_alike scheme same client carried exact.1
  unfold Receipts.verifySettlementReceipt verifySettlementReceipt
  cases refused : Receipts.receiptSchemaError ts with
  | some reason =>
    cases refused' : receiptSchemaError go with
    | none =>
      rw [schema.mpr refused'] at refused
      cases refused
    | some reason' => exact ⟨rfl, rfl, rfl, rfl⟩
  | none =>
    rw [schema.mp refused]
    dsimp only
    rcases Lockstep.rel_iff.mp chain with ⟨result, result', left, right, verdict⟩ |
      ⟨result, result', left, right, verdict⟩
    · rw [left, right]
      exact verdict
    · rw [left, right]
      exact verdict

/-- A node with one rollup, one batch and one anchor, in hex and in base64. -/
def sampleBody : RawRecord :=
  [("rollup", .object [("creator", .string "c"), ("layer_id", .string "r")]),
    ("batch", .object [("batch_index", .string "3"), ("state_root", .string "ab12"),
      ("status", .string "finalized")]),
    ("anchors", .array [.object [("layer_id", .string "r"), ("layer_height", .string "3"),
      ("state_root", .string "qxI="), ("main_chain_height", .string "5000"), ("anchored_at", .string "60"),
      ("pqc_aggregate_signature", .string "UWM="), ("transaction_count", .string "10")]]),
    ("account", .object [("public_key", .string "Cx4=")])]

def sampleFetch : FetchLike := fun _ => .ok ⟨true, 200, "OK", .ok (.object sampleBody)⟩

def sampleGet (_ : String) : Except JsError RawRecord := .ok sampleBody

def sampleNetwork : Network := ⟨"q", 4000⟩

def sampleVerify (key message signature : Bytes) : Bool :=
  key = [11, 30] ∧ message = anchorSignBytesV2 "q" "r" 3 "ab12" "" 10 "" ∧ signature = [81, 99]

def samplePqcVerify (key message signature : Bytes) : Except JsError Bool :=
  .ok (sampleVerify key message signature)

def sampleReceipt : SettlementReceipt where
  version := 2
  rollupId := "r"
  layerId := "r"
  batchIndex := 3
  creator := "c"
  algorithm := "ML-DSA-87"
  stateRoot := "ab12"
  layerHeight := 3
  mainChainHeight := 5000
  anchoredAt := 60
  pqcSignature := "5163"
  batchStateRoot := "ab12"
  chainId := "q"
  transactionCount := 10

theorem sample_reads : SameReads sampleFetch "" sampleGet :=
  ⟨fun _ => rfl, fun _ _ _ => rfl, fun _ => rfl, fun _ => rfl⟩

theorem sample_scheme : SameScheme samplePqcVerify sampleVerify := by
  intro key message signature
  unfold samplePqcVerify
  rw [Except.ok.injEq]

theorem base64_spelled (b : Bytes) : Spells (bytesToBase64 b) b := Or.inl rfl

theorem sample_served : Served sampleGet where
  rollup := by
    rintro _ _ ⟨⟩
    apply WellFormed.cons_text _ (by decide) (by decide) (by decide)
    exact WellFormed.nil.cons_text (by decide) (by decide) (by decide)
  batch := by
    rintro _ _ _ ⟨⟩
    apply WellFormed.cons_integer (n := 3) _ (by decide) (by decide) (by decide)
    apply WellFormed.cons_bytes _ (by decide) (spells_bytesToHex [0xab, 0x12]) (by decide)
    exact WellFormed.nil.cons_text (by decide) (by decide) (by decide)
  anchors := by
    rintro _ _ ⟨⟩ item member
    obtain rfl := List.mem_singleton.mp member
    refine ⟨_, rfl, ?_⟩
    apply WellFormed.cons_text _ (by decide) (by decide) (by decide)
    apply WellFormed.cons_integer (n := 3) _ (by decide) (by decide) (by decide)
    apply WellFormed.cons_bytes _ (by decide) (base64_spelled [0xab, 0x12]) (by decide)
    apply WellFormed.cons_integer (n := 5000) _ (by decide) (by decide) (by decide)
    apply WellFormed.cons_integer (n := 60) _ (by decide) (by decide) (by decide)
    apply WellFormed.cons_bytes _ (by decide) (base64_spelled [0x51, 0x63]) (by decide)
    exact WellFormed.nil.cons_integer (n := 10) (by decide) (by decide) (by decide)
  account := by
    rintro _ _ ⟨⟩
    exact WellFormed.nil.cons_bytes (by decide) (base64_spelled [0x0b, 0x1e]) (by decide)

theorem sample_valid : (verifySettlementReceipt sampleVerify sampleReceipt ""
    (some ⟨restClient (fun _ => "") sampleGet, sampleNetwork⟩)).valid = true := by
  decide +kernel

theorem SettlementReceipt.toTs_same (receipt : SettlementReceipt) : SameReceipt receipt.toTs receipt :=
  ⟨rfl, rfl, rfl, rfl, rfl, rfl, rfl, rfl, rfl, rfl, rfl, rfl, rfl, rfl, rfl, rfl⟩

theorem sample_exact : Exact sampleReceipt := by
  unfold Exact
  decide

theorem verifiers_agree_sample :
    SameVerdict
      (Receipts.verifySettlementReceipt samplePqcVerify sampleReceipt.toTs
        ⟨some ⟨QorechainRdk.restClient sampleFetch "", sampleNetwork.toTs⟩, none⟩)
      (verifySettlementReceipt sampleVerify sampleReceipt ""
        (some ⟨restClient (fun _ => "") sampleGet, sampleNetwork⟩)) :=
  verifiers_agree (fun _ => "") sample_scheme sample_reads sample_served sampleNetwork
    sampleReceipt.toTs_same sample_exact (Or.inl ⟨rfl, by decide, by decide⟩) none ""

/-- Where a receipt of version 2 leaves a field out, TypeScript refuses it and Go reads the zero value. -/
theorem verifiers_differ : ¬ ∀ (sprint : Json → String) (pqcVerify : Bytes → Bytes → Bytes → Except JsError Bool)
    (verify : Bytes → Bytes → Bytes → Bool) (fetch : FetchLike) (baseUrl : String)
    (get : String → Except JsError RawRecord) (network : Network) (ts : Receipts.SettlementReceipt)
    (go : SettlementReceipt), SameScheme pqcVerify verify → SameReads fetch baseUrl get → Served get →
      SameReceipt ts go → Exact go →
      (ts.version = .integer 2 ∨
        ts.version = .integer 1 ∧ ts.transactionCount = none ∧ ts.compressedStateProof = none) →
      SameVerdict
        (Receipts.verifySettlementReceipt pqcVerify ts
          ⟨some ⟨QorechainRdk.restClient fetch baseUrl, network.toTs⟩, none⟩)
        (verifySettlementReceipt verify go "" (some ⟨restClient sprint get, network⟩)) := by
  intro agree
  have verdict := agree (fun _ => "") samplePqcVerify sampleVerify sampleFetch "" sampleGet sampleNetwork
    { sampleReceipt.toTs with compressedStateProof := none } sampleReceipt sample_scheme sample_reads
    sample_served ⟨rfl, rfl, rfl, rfl, rfl, rfl, rfl, rfl, rfl, rfl, rfl, rfl, rfl, rfl, rfl, rfl⟩
    sample_exact (Or.inl rfl)
  have refused : (Receipts.verifySettlementReceipt samplePqcVerify
      { sampleReceipt.toTs with compressedStateProof := none }
      ⟨some ⟨QorechainRdk.restClient sampleFetch "", sampleNetwork.toTs⟩, none⟩).valid = false := by decide
  have valid := verdict.valid
  rw [refused, sample_valid] at valid
  cases valid

end QorechainRdk.Go
