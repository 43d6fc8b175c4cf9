import QorechainRdk.Go.Wire
import QorechainRdk.Receipts.Model

/-!
# Settlement receipts in Go

`receipts.go`. ML-DSA-87 is a parameter, and a read of the chain answers or fails.
-/

namespace QorechainRdk.Go

open Js
open Receipts (ReceiptVerificationMode)

def ReceiptAlgorithm : String := "ML-DSA-87"

def ReceiptVersion : Int := 2

def SupportedReceiptVersions : List Int := [1, 2]

structure SettlementReceipt where
  version : Int := 0
  rollupId : String := ""
  layerId : String := ""
  batchIndex : Nat := 0
  creator : String := ""
  algorithm : String := ""
  stateRoot : String := ""
  layerHeight : Nat := 0
  validatorSetHash : String := ""
  mainChainHeight : Nat := 0
  anchoredAt : Int := 0
  pqcSignature : String := ""
  batchStateRoot : String := ""
  chainId : String := ""
  transactionCount : Nat := 0
  compressedStateProof : String := ""
  deriving DecidableEq, Repr

structure ReceiptChecks where
  rollupLayerBinding : Bool := false
  batchStateRoot : Bool := false
  anchorOnChain : Bool := false
  creatorAuthority : Bool := false
  pqcSignature : Bool := false
  chainBinding : Bool := false
  deriving DecidableEq, Repr

structure ReceiptVerification where
  valid : Bool
  mode : ReceiptVerificationMode
  checks : ReceiptChecks
  signBytesVersion : String := ""
  reason : String := ""
  anchor : Option AnchorView := none
  verifiedReceipt : Option SettlementReceipt := none
  deriving DecidableEq, Repr

/-! ### The signed messages -/

def AnchorSignDomainV2 : String := "qorechain-multilayer-anchor-v2"

def bigEndianU64 (n : Nat) : Bytes := Coding.bigEndian 8 n

/-- Invalid hex is no bytes. -/
def hexOrEmpty (h : String) : Bytes := (hexToBytes h).getD []

def anchorSignBytesV1 (layerId : String) (layerHeight : Nat) (stateRootHex vshHex : String) : Bytes :=
  encode layerId ++ bigEndianU64 layerHeight ++ hexOrEmpty stateRootHex ++ hexOrEmpty vshHex

def putBytes (b : Bytes) : Bytes := bigEndianU64 b.length ++ b

def anchorSignBytesV2 (chainId layerId : String) (layerHeight : Nat) (stateRootHex vshHex : String)
    (txCount : Nat) (compressedStateProofHex : String) : Bytes :=
  encode AnchorSignDomainV2 ++ putBytes (encode chainId) ++ putBytes (encode layerId) ++
    bigEndianU64 layerHeight ++ putBytes (hexOrEmpty stateRootHex) ++ putBytes (hexOrEmpty vshHex) ++
    bigEndianU64 txCount ++ putBytes (hexOrEmpty compressedStateProofHex)

def anchorSignBytesVersionFor (anchorMainChainHeight v2Height : Nat) : String :=
  if v2Height ≤ anchorMainChainHeight then "v2" else "v1"

/-! ### The checks -/

def receiptSchemaError (receipt : SettlementReceipt) : Option String :=
  if !SupportedReceiptVersions.contains receipt.version then
    some s!"unsupported receipt version {receipt.version} (this release verifies versions 1 and 2)"
  else if receipt.algorithm ≠ ReceiptAlgorithm then
    some (s!"unsupported algorithm {stringify receipt.algorithm}: QoreChain anchors are signed with " ++
      ReceiptAlgorithm)
  else if receipt.version = 2 ∧ receipt.chainId = "" then
    some "a version-2 receipt must name its chain (ChainID)"
  else none

def anchorFieldMismatch (receipt : SettlementReceipt) (anchor : AnchorView) : Option String :=
  let v2 := receipt.version == 2
  let claimed := toLowerCase receipt.compressedStateProof
  let onChain := toLowerCase anchor.compressedStateProof
  if receipt.validatorSetHash ≠ anchor.validatorSetHash then
    some (s!"receipt's ValidatorSetHash {stringify receipt.validatorSetHash} does not match the chain's anchor " ++
      s!"({stringify anchor.validatorSetHash})")
  else if receipt.mainChainHeight ≠ anchor.mainChainHeight then
    some (s!"receipt's MainChainHeight {receipt.mainChainHeight} does not match the chain's anchor " ++
      s!"({anchor.mainChainHeight})")
  else if receipt.anchoredAt ≠ anchor.anchoredAt then
    some s!"receipt's AnchoredAt {receipt.anchoredAt} does not match the chain's anchor ({anchor.anchoredAt})"
  else if (v2 ∨ receipt.transactionCount ≠ 0) ∧ receipt.transactionCount ≠ anchor.transactionCount then
    some (s!"receipt's TransactionCount {receipt.transactionCount} does not match the chain's anchor " ++
      s!"({anchor.transactionCount})")
  else if (v2 ∨ claimed ≠ "") ∧ claimed ≠ onChain then
    some (s!"receipt's CompressedStateProof {stringify claimed} does not match the chain's anchor " ++
      s!"({stringify onChain})")
  else none

section
variable (verify : Bytes → Bytes → Bytes → Bool)

def signatureOver (anchor : AnchorView) (publicKeyHex chainId version : String) : Bool :=
  if publicKeyHex = "" ∨ anchor.pqcSignature = "" then false
  else
    match hexToBytes publicKeyHex, hexToBytes anchor.pqcSignature with
    | some pub, some sig =>
      let message :=
        if version = "v2" then
          anchorSignBytesV2 chainId anchor.layerId anchor.layerHeight anchor.stateRoot anchor.validatorSetHash
            anchor.transactionCount anchor.compressedStateProof
        else anchorSignBytesV1 anchor.layerId anchor.layerHeight anchor.stateRoot anchor.validatorSetHash
      verify pub message sig
    | _, _ => false

end

def receiptFromParts (rollupId layerId : String) (batchIndex : Nat) (creator : String) (anchor : AnchorView)
    (batchStateRootHex chainId : String) : SettlementReceipt where
  version := ReceiptVersion
  rollupId := rollupId
  layerId := layerId
  batchIndex := batchIndex
  creator := creator
  algorithm := ReceiptAlgorithm
  stateRoot := anchor.stateRoot
  layerHeight := anchor.layerHeight
  validatorSetHash := anchor.validatorSetHash
  mainChainHeight := anchor.mainChainHeight
  anchoredAt := anchor.anchoredAt
  pqcSignature := anchor.pqcSignature
  batchStateRoot := batchStateRootHex
  chainId := chainId
  transactionCount := anchor.transactionCount
  compressedStateProof := anchor.compressedStateProof

def receiptAsAnchor (receipt : SettlementReceipt) : AnchorView where
  layerId := receipt.layerId
  layerHeight := receipt.layerHeight
  stateRoot := receipt.stateRoot
  validatorSetHash := receipt.validatorSetHash
  mainChainHeight := receipt.mainChainHeight
  anchoredAt := receipt.anchoredAt
  pqcSignature := receipt.pqcSignature
  transactionCount := receipt.transactionCount
  compressedStateProof := receipt.compressedStateProof

/-! ### Verification -/

/-- The `fail` and `failAt` of the source. -/
def notValid (checks : ReceiptChecks) (anchor : Option AnchorView) (reason : String) : ReceiptVerification where
  valid := false
  mode := .chain
  checks := checks
  reason := reason
  anchor := anchor

def orFail {α : Type} (read : Except JsError α) (failed : String → ReceiptVerification) :
    Except ReceiptVerification α :=
  match read with
  | .ok a => .ok a
  | .error e => .error (failed e.message)

section
variable (receipt : SettlementReceipt) (client : RdkClient)

/-- Step 1. -/
def checkRollup : Except ReceiptVerification RollupView := do
  let rollup ← orFail (client.rest.getRollup receipt.rollupId) fun message =>
    notValid {} none s!"rollup {stringify receipt.rollupId} not found on chain: {message}"
  if rollup.layerId ≠ "" ∧ rollup.layerId = receipt.layerId then return rollup
  else
    let onChainLayer := if rollup.layerId = "" then "(none)" else rollup.layerId
    throw (notValid {} none
      (s!"rollup {stringify receipt.rollupId} is anchored to layer {stringify onChainLayer}, " ++
        s!"not {stringify receipt.layerId}"))

/-- Step 2. -/
def checkBatch (checks : ReceiptChecks) : Except ReceiptVerification Unit := do
  let stateRoot ← orFail (client.rest.getBatchStateRoot receipt.rollupId receipt.batchIndex) fun message =>
    notValid checks none s!"batch {receipt.batchIndex} not found on chain: {message}"
  let onChainRoot := hexWireBytes stateRoot
  if onChainRoot ≠ "" ∧ onChainRoot = receipt.stateRoot ∧ onChainRoot = receipt.batchStateRoot then
    return ()
  else
    throw (notValid checks none
      "the chain's batch does not carry the receipt's state root (StateRoot and BatchStateRoot)")

def selects (a : AnchorView) : Bool :=
  a.stateRoot = receipt.stateRoot ∧ a.layerHeight = receipt.layerHeight ∧ a.pqcSignature = receipt.pqcSignature

/-- Step 3. -/
def checkAnchor (checks : ReceiptChecks) : Except ReceiptVerification AnchorView := do
  let anchors ← orFail (client.rest.getAnchors receipt.layerId) fun message =>
    notValid checks none s!"could not read anchors for layer {stringify receipt.layerId}: {message}"
  match anchors.find? (selects receipt) with
  | none => throw (notValid checks none "no anchor on chain matches this receipt — it is fabricated or superseded")
  | some matched =>
    match anchorFieldMismatch receipt matched with
    | some mismatch => throw (notValid checks (some matched) mismatch)
    | none => return matched

/-- Step 4. -/
def checkCreator (rollup : RollupView) (matched : AnchorView) (checks : ReceiptChecks) :
    Except ReceiptVerification String := do
  let account ← orFail (client.rest.getPqcAccount rollup.creator) fun message =>
    notValid checks (some matched) s!"could not resolve the creator's post-quantum key: {message}"
  if receipt.creator ≠ rollup.creator then
    throw (notValid checks (some matched)
      (s!"receipt names creator {stringify receipt.creator} but the chain says the rollup's creator is " ++
        stringify rollup.creator))
  else if account.publicKey = "" then
    throw (notValid checks (some matched) s!"no post-quantum key is registered for creator {rollup.creator}")
  else return account.publicKey

/-- Step 5. -/
def checkChain (matched : AnchorView) (checks : ReceiptChecks) : Except ReceiptVerification Unit :=
  if receipt.chainId ≠ "" ∧ receipt.chainId ≠ client.network.chainId then
    throw (notValid checks (some matched)
      (s!"receipt is for chain {stringify receipt.chainId} but this client is connected to " ++
        s!"{stringify client.network.chainId} — verify it against a node for its own network"))
  else return ()

variable (verify : Bytes → Bytes → Bytes → Bool)

/-- Step 6. -/
def checkSignature (rollup : RollupView) (matched : AnchorView) (publicKeyHex : String) (checks : ReceiptChecks) :
    Except ReceiptVerification ReceiptVerification :=
  let version := anchorSignBytesVersionFor matched.mainChainHeight client.network.anchorSignV2Height
  if signatureOver verify matched publicKeyHex client.network.chainId version then
    return {
      valid := true
      mode := .chain
      checks := { checks with pqcSignature := true }
      signBytesVersion := version
      anchor := some matched
      verifiedReceipt := some (receiptFromParts receipt.rollupId rollup.layerId receipt.batchIndex
        rollup.creator matched receipt.batchStateRoot client.network.chainId) }
  else
    throw {
      valid := false
      mode := .chain
      checks := { checks with pqcSignature := false }
      signBytesVersion := version
      anchor := some matched
      reason := "Dilithium-5 anchor signature did not verify against the creator's registered key " ++
        s!"(checked as {version}, for an anchor at height {matched.mainChainHeight})" }

def verifyOnChain : Except ReceiptVerification ReceiptVerification := do
  let rollup ← checkRollup receipt client
  let checks : ReceiptChecks := { rollupLayerBinding := true }
  checkBatch receipt client checks
  let checks := { checks with batchStateRoot := true }
  let matched ← checkAnchor receipt client checks
  let checks := { checks with anchorOnChain := true }
  let publicKeyHex ← checkCreator receipt client rollup matched checks
  let checks := { checks with creatorAuthority := true }
  checkChain receipt client matched checks
  let checks := { checks with chainBinding := true }
  checkSignature receipt client verify rollup matched publicKeyHex checks

end

section
variable (verify : Bytes → Bytes → Bytes → Bool) (receipt : SettlementReceipt)

/-- Without a client. The form that verified is not reported. -/
def verifySignatureOnly (creatorPublicKeyHex : String) : ReceiptVerification :=
  let verified :=
    receipt.chainId ≠ "" &&
        signatureOver verify (receiptAsAnchor receipt) creatorPublicKeyHex receipt.chainId "v2" ||
      signatureOver verify (receiptAsAnchor receipt) creatorPublicKeyHex "" "v1"
  { valid := false
    mode := .signatureOnly
    checks := { pqcSignature := verified }
    reason := if verified then
      "signature is valid for the supplied key, but nothing was checked against the chain — pass a client to verify settlement"
    else "signature did not verify against the supplied key" }

def verifySettlementReceipt (creatorPublicKeyHex : String) (client : Option RdkClient) : ReceiptVerification :=
  match receiptSchemaError receipt with
  | some reason =>
    { valid := false
      mode := if client.isSome then .chain else .signatureOnly
      checks := {}
      reason := reason }
  | none =>
    match client with
    | some client =>
      match verifyOnChain receipt client verify with
      | .ok result => result
      | .error result => result
    | none =>
      if creatorPublicKeyHex = "" then
        { valid := false
          mode := .signatureOnly
          checks := {}
          reason := "no client supplied — pass a client to verify against chain state; a receipt on its own proves nothing" }
      else verifySignatureOnly verify receipt creatorPublicKeyHex

end

end QorechainRdk.Go
