import QorechainRdk.Lifecycle.ChallengeWindow
import QorechainRdk.Utils.Go
import QorechainRdk.Utils.Js

/-!
# What the Go client reads

The views of `client.go`, and `challenge_window.go`. A field that was not given has its zero value.
-/

namespace QorechainRdk.Go

structure ParamsView where
  defaultChallengeWindow : Int := 0
  deriving DecidableEq, Repr

structure RollupView where
  creator : String := ""
  status : String := ""
  layerId : String := ""
  challengeWindowSec : Option Nat := none
  deriving DecidableEq, Repr

structure BatchView where
  batchIndex : Int := 0
  stateRoot : String := ""
  status : String := ""
  submittedAt : Int := 0
  submittedTime : Int := 0
  deriving DecidableEq, Repr

structure AnchorView where
  layerId : String := ""
  layerHeight : Nat := 0
  stateRoot : String := ""
  validatorSetHash : String := ""
  mainChainHeight : Nat := 0
  anchoredAt : Int := 0
  pqcSignature : String := ""
  transactionCount : Nat := 0
  compressedStateProof : String := ""
  deriving DecidableEq, Repr

structure PqcAccountView where
  publicKey : String := ""
  deriving DecidableEq, Repr

/-- The mode is missing in the status that nothing has filled in. -/
structure ChallengeWindowStatus where
  mode : Option WindowMode := none
  isOpen : Bool := false
  finalizable : Bool := false
  deadlineSecs : Int := 0
  secondsRemaining : Int := 0
  windowBlocks : Int := 0
  deadlineHeight : Int := 0
  blocksRemaining : Int := 0
  deriving DecidableEq, Repr

def batchChallengeWindow (batch : BatchView) (windowSecs : Nat) (tip : ChainTip) : ChallengeWindowStatus :=
  if 0 < batch.submittedTime then
    let elapsed := int64 (tip.timeSecs - batch.submittedTime)
    -- The chain treats a tip before the submission as not elapsed.
    let elapsedFully := decide (0 ≤ elapsed) && decide (windowSecs ≤ uint64 elapsed)
    let deadline := int64 (batch.submittedTime + int64 windowSecs)
    { mode := some .time
      isOpen := !elapsedFully
      finalizable := elapsedFully
      deadlineSecs := deadline
      secondsRemaining := int64 (deadline - tip.timeSecs) }
  else
    let windowBlocks := int64 (windowSecs / 6 : Nat)
    let since := int64 (tip.height - batch.submittedAt)
    let deadlineHeight := int64 (batch.submittedAt + windowBlocks)
    { mode := some .blocks
      isOpen := decide (since ≤ windowBlocks)
      finalizable := decide (windowBlocks ≤ since)
      windowBlocks := windowBlocks
      deadlineHeight := deadlineHeight
      blocksRemaining := int64 (deadlineHeight - tip.height) }

end QorechainRdk.Go
