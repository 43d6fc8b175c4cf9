import QorechainRdk.Receipts.Model
import QorechainRdk.Utils.JsonText

/-!
# A receipt from a file

`readReceiptFile` of `commands.ts`, and `verifySettlementReceipt` with a client on what it lets through: a field
of the file may be any parsed value. What throws where nothing catches it leaves the verification.
-/

namespace QorechainRdk.Receipts

open Js

structure ReceiptFile where
  version : Json
  chainId : Option Json := none
  rollupId : Json
  layerId : Json
  batchIndex : Json
  creator : Json
  algorithm : Json
  stateRoot : Json
  layerHeight : Json
  validatorSetHash : Json
  mainChainHeight : Json
  anchoredAt : Json
  pqcSignature : Json
  batchStateRoot : Option Json := none
  transactionCount : Option Json := none
  compressedStateProof : Option Json := none

def RECEIPT_FIELDS : List String :=
  ["version", "rollupId", "layerId", "batchIndex", "creator", "algorithm", "stateRoot", "layerHeight",
    "validatorSetHash", "mainChainHeight", "anchoredAt", "pqcSignature"]

def readReceiptFile (parsed : Except JsError Json) : Except JsError ReceiptFile :=
  match parsed with
  | .error err => fail s!"receipt is not valid JSON: {err.message}"
  | .ok (.object obj) =>
    let missing := RECEIPT_FIELDS.filter fun f => (obj.lookup f).isNone
    if 0 < missing.length then fail ("receipt is missing required field(s): " ++ ", ".intercalate missing)
    else
      let field name := (obj.lookup name).getD .null
      .ok {
        version := field "version"
        chainId := obj.lookup "chainId"
        rollupId := field "rollupId"
        layerId := field "layerId"
        batchIndex := field "batchIndex"
        creator := field "creator"
        algorithm := field "algorithm"
        stateRoot := field "stateRoot"
        layerHeight := field "layerHeight"
        validatorSetHash := field "validatorSetHash"
        mainChainHeight := field "mainChainHeight"
        anchoredAt := field "anchoredAt"
        pqcSignature := field "pqcSignature"
        batchStateRoot := obj.lookup "batchStateRoot"
        transactionCount := obj.lookup "transactionCount"
        compressedStateProof := obj.lookup "compressedStateProof" }
  | .ok _ => fail "receipt is not a JSON object"

/-- The reads of a verification, by the texts that stand in their paths. -/
structure ReceiptReads where
  getRollup : String → Except JsError RollupView
  getBatch : String → String → Except JsError BatchView
  getAnchors : String → Except JsError (List AnchorView)
  getPqcAccount : String → Except JsError PqcAccountView
  network : Network

structure FileVerification where
  valid : Bool
  checks : Checks
  signBytesVersion : Option AnchorSignBytesVersion := none
  anchor : Option AnchorView := none
  verifiedReceipt : Option ReceiptFile := none
  reason : Option String := none

/-- How a verification leaves a step early. -/
inductive Exit where
  | returned (result : FileVerification)
  | thrown (err : JsError)

def refusal (checks : Checks) (anchor : Option AnchorView) (reason : String) : FileVerification where
  valid := false
  checks := checks
  anchor := anchor
  reason := some reason

section
variable {α : Type}

/-- A result is returned, unless its text already throws. -/
def stop (result : Except JsError FileVerification) : Except Exit α :=
  match result with
  | .ok v => .error (.returned v)
  | .error err => .error (.thrown err)

/-- A read inside a `try`, and the result that its handler makes of what was thrown. -/
def attempt (read : Except JsError α) (failed : String → Except JsError FileVerification) : Except Exit α :=
  match read with
  | .ok a => .ok a
  | .error err => stop (failed err.message)

/-- What is evaluated outside of any `try`. -/
def uncaught (x : Except JsError α) : Except Exit α :=
  match x with
  | .ok a => .ok a
  | .error err => .error (.thrown err)

end

def fileSchemaError (receipt : ReceiptFile) : Option String :=
  let versions := " and ".intercalate (SUPPORTED_RECEIPT_VERSIONS.map toString)
  if !receipt.version.isInteger ||
      SUPPORTED_RECEIPT_VERSIONS.all (fun v => !strictEq receipt.version (.number (.integer v))) then
    some (s!"unsupported receipt version {receipt.version.stringify} " ++
      s!"(this release verifies versions {versions})")
  else if !strictEq receipt.algorithm (.string RECEIPT_ALGORITHM) then
    some (s!"unsupported algorithm {receipt.algorithm.stringify}: " ++
      s!"QoreChain anchors are signed with {RECEIPT_ALGORITHM}")
  else if strictEq receipt.version (.number (.integer 2)) then
    if !receipt.chainId.any truthy then some "a version-2 receipt must name its chain (chainId)"
    else if receipt.transactionCount.isNone then some "a version-2 receipt must carry transactionCount"
    else if receipt.compressedStateProof.isNone then
      some "a version-2 receipt must carry compressedStateProof"
    else none
  else none

/-- `receipt.compressedStateProof.toLowerCase()`. -/
def lowerCase : Json → Except JsError String
  | .string s => .ok (toLowerCase s)
  | .null => fail "Cannot read properties of null (reading 'toLowerCase')"
  | _ => fail "receipt.compressedStateProof.toLowerCase is not a function"

def loweredProofs (receipt : ReceiptFile) (anchor : AnchorView) :
    Except JsError (List (String × Json × Json)) :=
  match receipt.compressedStateProof with
  | none => .ok []
  | some proof => do
    let claimed ← lowerCase proof
    return [("compressedStateProof", .string claimed, .string (toLowerCase anchor.compressedStateProof))]

def comparedFields (receipt : ReceiptFile) (anchor : AnchorView) :
    Except JsError (List (String × Json × Json)) := do
  let proofs ← loweredProofs receipt anchor
  return [("validatorSetHash", receipt.validatorSetHash, .string anchor.validatorSetHash),
      ("mainChainHeight", receipt.mainChainHeight, .number (.integer anchor.mainChainHeight)),
      ("anchoredAt", receipt.anchoredAt, .number (.integer anchor.anchoredAt))] ++
    (receipt.transactionCount.toList.map fun count =>
      ("transactionCount", count, Json.number (.integer anchor.transactionCount))) ++ proofs

def fieldMismatch (receipt : ReceiptFile) (anchor : AnchorView) : Except JsError (Option String) := do
  return (← comparedFields receipt anchor).findSome? fun (name, claimed, onChain) =>
    if !strictEq claimed onChain then
      some (s!"receipt's {name} {claimed.stringify} does not match the chain's anchor " ++
        s!"({onChain.stringify})")
    else none

section
variable (receipt : ReceiptFile) (reads : ReceiptReads)

def rollupStep : Except Exit RollupView := do
  let rollup ← attempt (do reads.getRollup (← template receipt.rollupId)) fun message => do
    let rollupId ← template receipt.rollupId
    return refusal NO_CHECKS none s!"rollup \"{rollupId}\" not found on chain: {message}"
  if rollup.layerId ≠ "" ∧ strictEq receipt.layerId (.string rollup.layerId) then return rollup
  else
    let layer := if rollup.layerId = "" then "(none)" else rollup.layerId
    stop do
      let rollupId ← template receipt.rollupId
      let layerId ← template receipt.layerId
      return refusal NO_CHECKS none s!"rollup \"{rollupId}\" is anchored to layer \"{layer}\", not \"{layerId}\""

def batchStep (checks : Checks) : Except Exit Unit := do
  let onChainRoot ← attempt (do
      let rollupId ← template receipt.rollupId
      let batchIndex ← template receipt.batchIndex
      rootHex (← reads.getBatch rollupId batchIndex)) fun message => do
    let batchIndex ← template receipt.batchIndex
    return refusal checks none s!"batch {batchIndex} not found on chain: {message}"
  if onChainRoot ≠ "" ∧ strictEq receipt.stateRoot (.string onChainRoot) ∧
      receipt.batchStateRoot.any (fun root => strictEq root (.string onChainRoot)) then
    return ()
  else
    stop (.ok (refusal checks none
      "the chain's batch does not carry the receipt's state root (stateRoot and batchStateRoot)"))

def selected (a : AnchorView) : Bool :=
  strictEq receipt.stateRoot (.string a.stateRoot) &&
    strictEq receipt.layerHeight (.number (.integer a.layerHeight)) &&
    strictEq receipt.pqcSignature (.string a.pqcSignature)

def anchorStep (checks : Checks) : Except Exit AnchorView := do
  let anchors ← attempt (do reads.getAnchors (← template receipt.layerId)) fun message => do
    let layerId ← template receipt.layerId
    return refusal checks none s!"could not read anchors for layer \"{layerId}\": {message}"
  match anchors.find? (selected receipt) with
  | none =>
    stop (.ok (refusal checks none "no anchor on chain matches this receipt — it is fabricated or superseded"))
  | some matched =>
    match ← uncaught (fieldMismatch receipt matched) with
    | some mismatch => stop (.ok (refusal checks (some matched) mismatch))
    | none => return matched

def creatorStep (rollup : RollupView) (matched : AnchorView) (checks : Checks) : Except Exit String := do
  let account ← attempt (reads.getPqcAccount rollup.creator) fun message =>
    .ok (refusal checks (some matched) s!"could not resolve the creator's post-quantum key: {message}")
  if !strictEq receipt.creator (.string rollup.creator) then
    stop do
      let creator ← template receipt.creator
      return refusal checks (some matched)
        s!"receipt names creator \"{creator}\" but the chain says the rollup's creator is \"{rollup.creator}\""
  else if account.publicKey = "" then
    stop (.ok (refusal checks (some matched)
      s!"no post-quantum key is registered for creator {rollup.creator}"))
  else return account.publicKey

def chainStep (matched : AnchorView) (checks : Checks) : Except Exit Unit :=
  match receipt.chainId with
  | none => return ()
  | some chainId =>
    if truthy chainId && !strictEq chainId (.string reads.network.chainId) then
      stop do
        let named ← template chainId
        return refusal checks (some matched) (s!"receipt is for chain \"{named}\" but this client is " ++
          s!"connected to \"{reads.network.chainId}\" — verify it against a node for its own network")
    else return ()

def fileFromParts (rollupId : Json) (layerId : String) (batchIndex : Json) (creator : String)
    (anchor : AnchorView) (batchStateRoot : Option Json) (chainId : String) : ReceiptFile where
  version := .number (.integer RECEIPT_VERSION)
  chainId := some (.string chainId)
  rollupId := rollupId
  layerId := .string layerId
  batchIndex := batchIndex
  creator := .string creator
  algorithm := .string RECEIPT_ALGORITHM
  stateRoot := .string anchor.stateRoot
  layerHeight := .number (.integer anchor.layerHeight)
  validatorSetHash := .string anchor.validatorSetHash
  mainChainHeight := .number (.integer anchor.mainChainHeight)
  anchoredAt := .number (.integer anchor.anchoredAt)
  pqcSignature := .string anchor.pqcSignature
  batchStateRoot := batchStateRoot
  transactionCount := some (.number (.integer anchor.transactionCount))
  compressedStateProof := some (.string anchor.compressedStateProof)

variable (pqcVerify : Bytes → Bytes → Bytes → Except JsError Bool)

def signatureStep (rollup : RollupView) (matched : AnchorView) (publicKeyHex : String) (checks : Checks) :
    Except Exit FileVerification :=
  let version := anchorSignBytesVersionFor matched.mainChainHeight reads.network.anchorSignV2Height
  if signatureOver pqcVerify matched publicKeyHex reads.network.chainId version then
    return {
      valid := true
      checks := { checks with pqcSignature := true }
      signBytesVersion := some version
      anchor := some matched
      verifiedReceipt := some (fileFromParts receipt.rollupId rollup.layerId receipt.batchIndex
        rollup.creator matched receipt.batchStateRoot reads.network.chainId) }
  else
    stop (.ok {
      valid := false
      checks := { checks with pqcSignature := false }
      signBytesVersion := some version
      anchor := some matched
      reason := some ("Dilithium-5 anchor signature did not verify against the creator's registered key " ++
        s!"(checked as {versionText version}, for an anchor at height {numberText matched.mainChainHeight})") })

def verifySteps : Except Exit FileVerification := do
  let rollup ← rollupStep receipt reads
  let checks := { NO_CHECKS with rollupLayerBinding := true }
  batchStep receipt reads checks
  let checks := { checks with batchStateRoot := true }
  let matched ← anchorStep receipt reads checks
  let checks := { checks with anchorOnChain := true }
  let publicKeyHex ← creatorStep receipt reads rollup matched checks
  let checks := { checks with creatorAuthority := true }
  chainStep receipt reads matched checks
  let checks := { checks with chainBinding := true }
  signatureStep receipt reads pqcVerify rollup matched publicKeyHex checks

def verifyReceiptFile : Except JsError FileVerification :=
  match fileSchemaError receipt with
  | some schemaError => .ok { valid := false, checks := NO_CHECKS, reason := some schemaError }
  | none =>
    match verifySteps receipt reads pqcVerify with
    | .ok result => .ok result
    | .error (.returned result) => .ok result
    | .error (.thrown err) => .error err

end

end QorechainRdk.Receipts
