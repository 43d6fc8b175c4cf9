import QorechainRdk.Utils.Js

/-!
# What the client reads

`client/views.ts` and the reads of `client/rest.ts`, as the answers that a caller gets.
-/

namespace QorechainRdk

structure ParamsView where
  defaultChallengeWindow : Int
  deriving DecidableEq, Repr

structure RollupView where
  creator : String
  daBackend : String := ""
  layerId : String
  challengeWindowSec : Option Int := none
  deriving DecidableEq, Repr

/-- A settlement batch. `submittedAt` is a height, `submittedTime` a time or zero. -/
structure BatchView where
  batchIndex : Int
  stateRoot : String
  prevStateRoot : String
  txCount : Int
  dataHash : String
  status : String
  submittedAt : Int
  finalizedAt : Int
  withdrawalsRoot : String
  withdrawalsBound : Option Bool := none
  submittedTime : Int
  deriving DecidableEq, Repr

structure AnchorView where
  layerId : String
  layerHeight : Int
  stateRoot : String
  validatorSetHash : String
  mainChainHeight : Int
  anchoredAt : Int
  pqcSignature : String
  transactionCount : Int
  compressedStateProof : String
  deriving DecidableEq, Repr

structure PqcAccountView where
  publicKey : String
  deriving DecidableEq, Repr

structure Network where
  chainId : String
  anchorSignV2Height : Int
  deriving DecidableEq, Repr

structure RestClient where
  getRollup : String → Except JsError RollupView
  getBatch : String → Int → Except JsError BatchView
  getAnchors : String → Except JsError (List AnchorView)
  getLatestAnchor : String → Except JsError AnchorView
  getPqcAccount : String → Except JsError PqcAccountView
  getAppliedPlanHeight : String → Except JsError Int

structure RdkClient where
  rest : RestClient
  network : Network

end QorechainRdk
