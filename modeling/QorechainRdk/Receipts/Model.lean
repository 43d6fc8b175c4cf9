import QorechainRdk.Client.Views
import QorechainRdk.Utils.Bytes

/-!
# Settlement receipts

`receipts/index.ts`. The signature scheme is a parameter; a read of the chain answers or throws.
-/

namespace QorechainRdk
namespace Receipts

open Js

def RECEIPT_ALGORITHM : String := "ML-DSA-87"

def RECEIPT_VERSION : Int := 2

def SUPPORTED_RECEIPT_VERSIONS : List Int := [1, 2]

structure SettlementReceipt where
  version : Number
  chainId : Option String := none
  rollupId : String
  layerId : String
  batchIndex : Int
  creator : String
  algorithm : String
  stateRoot : String
  layerHeight : Int
  validatorSetHash : String
  mainChainHeight : Int
  anchoredAt : Int
  pqcSignature : String
  batchStateRoot : String
  transactionCount : Option Int := none
  compressedStateProof : Option String := none
  deriving DecidableEq, Repr

inductive ReceiptVerificationMode where
  | chain
  | signatureOnly
  deriving DecidableEq, Repr

inductive AnchorSignBytesVersion where
  | v1
  | v2
  deriving DecidableEq, Repr

structure Checks where
  rollupLayerBinding : Bool := false
  batchStateRoot : Bool := false
  anchorOnChain : Bool := false
  creatorAuthority : Bool := false
  pqcSignature : Bool := false
  chainBinding : Bool := false
  deriving DecidableEq, Repr

def NO_CHECKS : Checks := {}

structure ReceiptVerification where
  valid : Bool
  mode : ReceiptVerificationMode
  checks : Checks
  signBytesVersion : Option AnchorSignBytesVersion := none
  anchor : Option AnchorView := none
  verifiedReceipt : Option SettlementReceipt := none
  reason : Option String := none
  deriving DecidableEq, Repr

structure VerifyReceiptOptions where
  client : Option RdkClient := none
  creatorPublicKey : Option String := none

/-! ### The signed messages -/

def ANCHOR_SIGN_DOMAIN_V2 : String := "qorechain-multilayer-anchor-v2"

def anchorSignBytesV1 (layerId : String) (layerHeight : Integral) (stateRoot validatorSetHash : String) :
    Except JsError Bytes := do
  let height ← u64be layerHeight
  let stateRoot ← hexToBytes stateRoot
  let vsh ← hexToBytes validatorSetHash
  return encode layerId ++ height ++ stateRoot ++ vsh

def lengthPrefixed (b : Bytes) : Except JsError (List Bytes) := do
  return [← u64be (.number b.length), b]

def anchorSignBytesV2 (chainId layerId : String) (layerHeight : Integral)
    (stateRoot validatorSetHash : String) (transactionCount : Integral)
    (compressedStateProof : Option String) : Except JsError Bytes := do
  let chain ← lengthPrefixed (encode chainId)
  let layer ← lengthPrefixed (encode layerId)
  let height ← u64be layerHeight
  let root ← lengthPrefixed (← hexToBytes stateRoot)
  let vsh ← lengthPrefixed (← hexToBytes validatorSetHash)
  let count ← u64be transactionCount
  let proof ← lengthPrefixed (← hexToBytes (compressedStateProof.getD ""))
  return ([encode ANCHOR_SIGN_DOMAIN_V2] ++ chain ++ layer ++ [height] ++ root ++ vsh ++ [count] ++
    proof).flatten

/-- The message that the chain had in force at the height of the anchor. -/
def anchorSignBytesVersionFor (anchorMainChainHeight v2Height : Int) : AnchorSignBytesVersion :=
  if v2Height ≤ anchorMainChainHeight then .v2 else .v1

def anchorMessage (anchor : AnchorView) (chainId : String) : AnchorSignBytesVersion → Except JsError Bytes
  | .v2 => anchorSignBytesV2 chainId anchor.layerId (.number anchor.layerHeight) anchor.stateRoot
      anchor.validatorSetHash (.number anchor.transactionCount) (some anchor.compressedStateProof)
  | .v1 => anchorSignBytesV1 anchor.layerId (.number anchor.layerHeight) anchor.stateRoot
      anchor.validatorSetHash

/-! ### The checks -/

def receiptSchemaError (receipt : SettlementReceipt) : Option String :=
  let versions := " and ".intercalate (SUPPORTED_RECEIPT_VERSIONS.map toString)
  if !isInteger receipt.version || SUPPORTED_RECEIPT_VERSIONS.all (fun v => receipt.version ≠ .integer v) then
    some s!"unsupported receipt version {jsonNumber receipt.version} (this release verifies versions {versions})"
  else if receipt.algorithm ≠ RECEIPT_ALGORITHM then
    some s!"unsupported algorithm {stringify receipt.algorithm}: QoreChain anchors are signed with {RECEIPT_ALGORITHM}"
  else if receipt.version = .integer 2 then
    if falsy receipt.chainId then some "a version-2 receipt must name its chain (chainId)"
    else if receipt.transactionCount = none then some "a version-2 receipt must carry transactionCount"
    else if receipt.compressedStateProof = none then
      some "a version-2 receipt must carry compressedStateProof"
    else none
  else none

inductive Field where
  | text (s : String)
  | number (n : Int)
  deriving DecidableEq, Repr

def stringifyField : Field → String
  | .text s => stringify s
  | .number n => numberText n

def anchorFields (receipt : SettlementReceipt) (anchor : AnchorView) : List (String × Field × Field) :=
  [("validatorSetHash", Field.text receipt.validatorSetHash, Field.text anchor.validatorSetHash),
    ("mainChainHeight", Field.number receipt.mainChainHeight, Field.number anchor.mainChainHeight),
    ("anchoredAt", Field.number receipt.anchoredAt, Field.number anchor.anchoredAt)] ++
  (receipt.transactionCount.toList.map fun count =>
    ("transactionCount", Field.number count, Field.number anchor.transactionCount)) ++
  receipt.compressedStateProof.toList.map fun proof =>
    ("compressedStateProof", Field.text (toLowerCase proof), Field.text (toLowerCase anchor.compressedStateProof))

def anchorFieldMismatch (receipt : SettlementReceipt) (anchor : AnchorView) : Option String :=
  (anchorFields receipt anchor).findSome? fun (name, claimed, onChain) =>
    if claimed ≠ onChain then
      some s!"receipt's {name} {stringifyField claimed} does not match the chain's anchor ({stringifyField onChain})"
    else none

section
variable (pqcVerify : Bytes → Bytes → Bytes → Except JsError Bool)

/-- Whatever throws on the way, the signature does not verify. -/
def signatureOver (anchor : AnchorView) (publicKeyHex chainId : String) (version : AnchorSignBytesVersion) :
    Bool :=
  if publicKeyHex = "" ∨ anchor.pqcSignature = "" then false
  else
    let verified : Except JsError Bool := do
      let message ← anchorMessage anchor chainId version
      pqcVerify (← hexToBytes publicKeyHex) message (← hexToBytes anchor.pqcSignature)
    match verified with
    | .ok b => b
    | .error _ => false

end

def receiptFromParts (rollupId layerId : String) (batchIndex : Int) (creator : String)
    (anchor : AnchorView) (batchStateRootHex chainId : String) : SettlementReceipt where
  version := .integer RECEIPT_VERSION
  chainId := some chainId
  rollupId := rollupId
  layerId := layerId
  batchIndex := batchIndex
  creator := creator
  algorithm := RECEIPT_ALGORITHM
  stateRoot := anchor.stateRoot
  layerHeight := anchor.layerHeight
  validatorSetHash := anchor.validatorSetHash
  mainChainHeight := anchor.mainChainHeight
  anchoredAt := anchor.anchoredAt
  pqcSignature := anchor.pqcSignature
  batchStateRoot := batchStateRootHex
  transactionCount := some anchor.transactionCount
  compressedStateProof := some anchor.compressedStateProof

def rootHex (batch : BatchView) : Except JsError String :=
  if batch.stateRoot = "" then .ok "" else do return bytesToHex (← decodeWireBytes batch.stateRoot)

def buildSettlementReceipt (client : RdkClient) (rollupId : String) (batchIndex : Int) :
    Except JsError SettlementReceipt := do
  let rollup ← client.rest.getRollup rollupId
  if rollup.layerId = "" then
    fail s!"rollup \"{rollupId}\" has no layer_id — it is not anchored to a multilayer layer"
  else do
    let batch ← client.rest.getBatch rollupId batchIndex
    let batchStateRootHex ← rootHex batch
    let anchors ← client.rest.getAnchors rollup.layerId
    match anchors.find? fun a => a.stateRoot ≠ "" ∧ a.stateRoot = batchStateRootHex with
    | some anchor =>
      return receiptFromParts rollupId rollup.layerId batchIndex rollup.creator anchor batchStateRootHex
        client.network.chainId
    | none => do
      let anchor ← client.rest.getLatestAnchor rollup.layerId
      if anchor.stateRoot = "" then fail s!"no state anchor found for layer \"{rollup.layerId}\""
      else
        fail (s!"no anchor commits batch {numberText batchIndex}'s state root yet (latest anchored height " ++
          s!"{numberText anchor.layerHeight}); the batch may not be anchored to the Main Chain")

/-! ### Verification -/

/-- The `fail` and `failAt` of the source: a result against the chain that is not valid. -/
def notValid (checks : Checks) (anchor : Option AnchorView) (reason : String) : ReceiptVerification where
  valid := false
  mode := .chain
  checks := checks
  anchor := anchor
  reason := some reason

/-- The message of what a read throws becomes the reason. -/
def orFail {α : Type} (read : Except JsError α) (failed : String → ReceiptVerification) :
    Except ReceiptVerification α :=
  match read with
  | .ok a => .ok a
  | .error e => .error (failed e.message)

section
variable (receipt : SettlementReceipt) (client : RdkClient)

/-- Step 1: the rollup exists and belongs to the layer that the receipt names. -/
def checkRollup : Except ReceiptVerification RollupView := do
  let rollup ← orFail (client.rest.getRollup receipt.rollupId) fun message =>
    notValid NO_CHECKS none s!"rollup \"{receipt.rollupId}\" not found on chain: {message}"
  if rollup.layerId ≠ "" ∧ rollup.layerId = receipt.layerId then return rollup
  else
    let layer := if rollup.layerId = "" then "(none)" else rollup.layerId
    throw (notValid NO_CHECKS none
      s!"rollup \"{receipt.rollupId}\" is anchored to layer \"{layer}\", not \"{receipt.layerId}\"")

/-- Step 2: the chain's batch carries the state root, in both of the receipt's copies. -/
def checkBatch (checks : Checks) : Except ReceiptVerification Unit := do
  let onChainRoot ← orFail (do rootHex (← client.rest.getBatch receipt.rollupId receipt.batchIndex))
    fun message => notValid checks none s!"batch {numberText receipt.batchIndex} not found on chain: {message}"
  if onChainRoot ≠ "" ∧ onChainRoot = receipt.stateRoot ∧ onChainRoot = receipt.batchStateRoot then
    return ()
  else
    throw (notValid checks none
      "the chain's batch does not carry the receipt's state root (stateRoot and batchStateRoot)")

/-- The fields by which step 3 selects an anchor. -/
def selects (a : AnchorView) : Bool :=
  a.stateRoot = receipt.stateRoot ∧ a.layerHeight = receipt.layerHeight ∧ a.pqcSignature = receipt.pqcSignature

/-- Step 3: the first anchor selected agrees with the receipt on the other fields. -/
def checkAnchor (checks : Checks) : Except ReceiptVerification AnchorView := do
  let anchors ← orFail (client.rest.getAnchors receipt.layerId) fun message =>
    notValid checks none s!"could not read anchors for layer \"{receipt.layerId}\": {message}"
  match anchors.find? (selects receipt) with
  | none => throw (notValid checks none "no anchor on chain matches this receipt — it is fabricated or superseded")
  | some matched =>
    match anchorFieldMismatch receipt matched with
    | some mismatch => throw (notValid checks (some matched) mismatch)
    | none => return matched

/-- Step 4: the key of the rollup's creator. -/
def checkCreator (rollup : RollupView) (matched : AnchorView) (checks : Checks) :
    Except ReceiptVerification String := do
  let account ← orFail (client.rest.getPqcAccount rollup.creator) fun message =>
    notValid checks (some matched) s!"could not resolve the creator's post-quantum key: {message}"
  if receipt.creator ≠ rollup.creator then
    throw (notValid checks (some matched)
      s!"receipt names creator \"{receipt.creator}\" but the chain says the rollup's creator is \"{rollup.creator}\"")
  else if account.publicKey = "" then
    throw (notValid checks (some matched) s!"no post-quantum key is registered for creator {rollup.creator}")
  else return account.publicKey

/-- Step 5: a receipt that names a chain names the one that was queried. -/
def checkChain (matched : AnchorView) (checks : Checks) : Except ReceiptVerification Unit :=
  if !falsy receipt.chainId && receipt.chainId ≠ some client.network.chainId then
    let named := receipt.chainId.getD ""
    throw (notValid checks (some matched)
      (s!"receipt is for chain \"{named}\" but this client is connected to \"{client.network.chainId}\" — " ++
        "verify it against a node for its own network"))
  else return ()

def versionText : AnchorSignBytesVersion → String
  | .v1 => "v1"
  | .v2 => "v2"

variable (pqcVerify : Bytes → Bytes → Bytes → Except JsError Bool)

/-- Step 6: the signature, over the form in force at the height of the anchor. -/
def checkSignature (rollup : RollupView) (matched : AnchorView) (publicKeyHex : String) (checks : Checks) :
    Except ReceiptVerification ReceiptVerification :=
  let version := anchorSignBytesVersionFor matched.mainChainHeight client.network.anchorSignV2Height
  if signatureOver pqcVerify matched publicKeyHex client.network.chainId version then
    return {
      valid := true
      mode := .chain
      checks := { checks with pqcSignature := true }
      signBytesVersion := some version
      anchor := some matched
      verifiedReceipt := some (receiptFromParts receipt.rollupId rollup.layerId receipt.batchIndex
        rollup.creator matched receipt.batchStateRoot client.network.chainId) }
  else
    throw {
      valid := false
      mode := .chain
      checks := { checks with pqcSignature := false }
      signBytesVersion := some version
      anchor := some matched
      reason := some ("Dilithium-5 anchor signature did not verify against the creator's registered key " ++
        s!"(checked as {versionText version}, for an anchor at height {numberText matched.mainChainHeight})") }

def verifyOnChain : Except ReceiptVerification ReceiptVerification := do
  let rollup ← checkRollup receipt client
  let checks := { NO_CHECKS with rollupLayerBinding := true }
  checkBatch receipt client checks
  let checks := { checks with batchStateRoot := true }
  let matched ← checkAnchor receipt client checks
  let checks := { checks with anchorOnChain := true }
  let publicKeyHex ← checkCreator receipt client rollup matched checks
  let checks := { checks with creatorAuthority := true }
  checkChain receipt client matched checks
  let checks := { checks with chainBinding := true }
  checkSignature receipt client pqcVerify rollup matched publicKeyHex checks

end

section
variable (pqcVerify : Bytes → Bytes → Bytes → Except JsError Bool) (receipt : SettlementReceipt)

def asAnchor : AnchorView where
  layerId := receipt.layerId
  layerHeight := receipt.layerHeight
  stateRoot := receipt.stateRoot
  validatorSetHash := receipt.validatorSetHash
  mainChainHeight := receipt.mainChainHeight
  anchoredAt := receipt.anchoredAt
  pqcSignature := receipt.pqcSignature
  transactionCount := receipt.transactionCount.getD 0
  compressedStateProof := receipt.compressedStateProof.getD ""

/-- Without a client, either form of the message may be what was signed. -/
def verifySignatureOnly (creatorPublicKey : String) : ReceiptVerification :=
  let version : Option AnchorSignBytesVersion :=
    if !falsy receipt.chainId &&
        signatureOver pqcVerify (asAnchor receipt) creatorPublicKey (receipt.chainId.getD "") .v2 then
      some .v2
    else if signatureOver pqcVerify (asAnchor receipt) creatorPublicKey "" .v1 then some .v1
    else none
  { valid := false
    mode := .signatureOnly
    checks := { NO_CHECKS with pqcSignature := version.isSome }
    signBytesVersion := version
    reason := some (if version.isSome then
      "signature is valid for the supplied key, but nothing was checked against the chain — pass `client` to verify settlement"
    else "signature did not verify against the supplied key") }

def verifySettlementReceipt (options : VerifyReceiptOptions) : ReceiptVerification :=
  match receiptSchemaError receipt with
  | some schemaError =>
    { valid := false
      mode := if options.client.isSome then .chain else .signatureOnly
      checks := NO_CHECKS
      reason := some schemaError }
  | none =>
    match options.client with
    | some client =>
      match verifyOnChain receipt client pqcVerify with
      | .ok result => result
      | .error result => result
    | none =>
      if falsy options.creatorPublicKey then
        { valid := false
          mode := .signatureOnly
          checks := NO_CHECKS
          reason := some "no client supplied — pass `client` to verify against chain state; a receipt on its own proves nothing" }
      else verifySignatureOnly pqcVerify receipt (options.creatorPublicKey.getD "")

end

end Receipts
end QorechainRdk
