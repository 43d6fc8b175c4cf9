import QorechainRdk.Accounts
import QorechainRdk.Receipts.Model
import QorechainRdk.Rules
import QorechainRdk.Tx.Messages

/-!
# The transaction client

`tx/client.ts`, up to the message that is broadcast. The reads of one submission need not agree, so `fetch`
is given once for each of them; `pqcSign` of the SDK is a parameter.
-/

namespace QorechainRdk

open Js

/-- `String(value)`. A `number` from 10^21 on has an exponent in place of its digits. -/
def text : Integral → String
  | .number n => toString n
  | .bigint n => toString n
  | .string s => s

/-- `value ? bytesToHex(toBytes(value)) : ""` -/
def hexOrEmpty (value : Option HexOrBytes) : Except JsError String :=
  match value with
  | none => .ok ""
  | some v => if missing value then .ok "" else do return bytesToHex (← toBytes v)

def anchorSignBytesForBatch (chainId layerId : String) (batchIndex : Integral) (stateRoot : HexOrBytes)
    (txCount : Integral) (validatorSetHash : Option HexOrBytes) : Except JsError Bytes := do
  let layerHeight ← bigInt batchIndex
  let root ← toBytes stateRoot
  let vsh ← hexOrEmpty validatorSetHash
  let transactionCount ← bigInt txCount
  Receipts.anchorSignBytesV2 chainId layerId (.bigint layerHeight) (bytesToHex root) vsh
    (.bigint transactionCount) (some "")

/-! ### The client -/

structure HybridConfig where
  pqcKeypair : PqcKeypair
  rest : Option String := none
  deriving DecidableEq, Repr

/-- `getChainId` is missing on a transport that cannot report its chain. -/
structure RdkTxClient where
  address : String
  hybrid : Option HybridConfig := none
  getChainId : Option (Except JsError String) := none

abbrev PqcSign := Bytes → Bytes → Except JsError Bytes

/-- `this.hybrid?.rest`, where it is not empty. -/
def RdkTxClient.rest (client : RdkTxClient) : Option String :=
  (client.hybrid.bind HybridConfig.rest).filter (· ≠ "")

inductive AnchorMode where
  | auto
  | require
  | off
  deriving DecidableEq, Repr

/-- What `tryAnchorSignature` returns. -/
structure AnchorAttempt where
  signature : Option Bytes := none
  reason : String
  deriving DecidableEq, Repr

def tryAnchorSignature (pqcSign : PqcSign) (fetch : FetchLike) (client : RdkTxClient)
    (input : SubmitBatchInput) : Except JsError AnchorAttempt :=
  match client.hybrid with
  | none => return { reason :=
      "this client does not sign hybrid, so it holds no post-quantum key to sign the anchor" }
  | some hybrid =>
    match client.rest with
    | none => return { reason :=
        "no REST endpoint configured, so the rollup's layer and creator cannot be read" }
    | some rest =>
      match client.getChainId with
      | none => return { reason := "the underlying client cannot report the chain id" }
      | some getChainId =>
        match getRollup fetch rest input.rollupId with
        | .error err => return { reason := s!"could not read rollup \"{input.rollupId}\": {err.message}" }
        | .ok rollup =>
          if rollup.layerId = "" then return { reason :=
            s!"rollup \"{input.rollupId}\" has no layer_id, so there is nothing to anchor to" }
          else if rollup.creator ≠ client.address then return { reason :=
            s!"this client ({client.address}) is not the rollup's creator ({rollup.creator}); the chain " ++
              "verifies the anchor against the creator's key, so the creator must sign it out of band" }
          else do
            let chainId ← getChainId
            let message ← anchorSignBytesForBatch chainId rollup.layerId input.batchIndex input.stateRoot
              input.txCount input.validatorSetHash
            let signature ← pqcSign hybrid.pqcKeypair.secretKey message
            return { signature := some signature, reason := "signed" }

/-- The test of the data hash, where the rollup can be read. -/
def checkDataHash (fetch : FetchLike) (client : RdkTxClient) (input : SubmitBatchInput) :
    Except JsError Unit :=
  match input.dataHash with
  | none => .ok ()
  | some dataHash =>
    if missing (some dataHash) then .ok ()
    else do
      let bytes ← toBytes dataHash
      match client.rest with
      | none => return ()
      | some rest =>
        if bytes.length = 0 then return ()
        else do
          let rollup ← getRollup fetch rest input.rollupId
          match dataHashError rollup.daBackend (some dataHash) with
          | some err => fail s!"cannot submit batch {text input.batchIndex}: {err}"
          | none => return ()

/-- The input with its anchor signature, if one can be made and none is given. -/
def withAnchor (pqcSign : PqcSign) (fetch : FetchLike) (client : RdkTxClient) (input : SubmitBatchInput)
    (mode : AnchorMode) : Except JsError SubmitBatchInput :=
  if missing input.anchorSignature ∧ mode ≠ .off then do
    let sig ← tryAnchorSignature pqcSign fetch client input
    match sig.signature with
    | some signature => return { input with anchorSignature := some (.bytes signature) }
    | none =>
      if mode = .require then fail s!"cannot anchor batch {text input.batchIndex}: {sig.reason}"
      else return input
  else return input

/-- `fetch 0` serves the test of the data hash and `fetch 1` the anchor. -/
def submitBatch (pqcSign : PqcSign) (fetch : Nat → FetchLike) (client : RdkTxClient)
    (input : SubmitBatchInput) (mode : AnchorMode) : Except JsError MsgSubmitBatch :=
  match withdrawalsRootError input.withdrawalsRoot with
  | some rootErr => fail s!"cannot submit batch {text input.batchIndex}: {rootErr}"
  | none => do
    checkDataHash (fetch 0) client input
    let anchored ← withAnchor pqcSign (fetch 1) client input mode
    submitBatchMsg client.address anchored

end QorechainRdk
