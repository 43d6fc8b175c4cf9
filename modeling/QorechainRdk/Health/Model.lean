import QorechainRdk.Lifecycle.ChallengeWindow
import QorechainRdk.Utils.Js

/-!
# Rollup health

`health/index.ts`. A snapshot is put together from reads that answer or throw, each made once at most.
-/

namespace QorechainRdk
namespace Health

open Js

def MAX_PENDING_OPTIMISTIC_BATCHES : Int := 4096

/-- A rollup's view together with its lifecycle status. -/
structure RollupStatusView extends RollupView where
  status : String
  deriving DecidableEq, Repr

structure HeldBackBy where
  batchIndex : Int
  status : String
  deriving DecidableEq, Repr

structure RollupHealth where
  rollupId : String
  status : String
  hasBatches : Bool := false
  latestBatchIndex : Option Int := none
  latestBatchStatus : Option String := none
  latestBatchHeight : Option Int := none
  batchAgeBlocks : Option Int := none
  batchAgeSecs : Option Int := none
  challengeWindow : Option ChallengeWindowStatus := none
  challengeDeadlineSecs : Option Int := none
  secondsUntilChallengeDeadline : Option Int := none
  heldBackBy : Option HeldBackBy := none
  healthy : Bool
  notes : List String
  deriving DecidableEq, Repr

structure HealthOptions where
  tip : Option ChainTip := none
  nowSecs : Option Int := none
  challengeWindowSecs : Option Int := none
  deriving DecidableEq, Repr

/-- What each read of a snapshot gives, if it is made. -/
structure HealthReads where
  rollup : Except JsError RollupStatusView
  latestBatch : Except JsError BatchView
  tip : Except JsError ChainTip
  params : Except JsError ParamsView
  /-- Whether batches settle in order: the feature `rdk-challenge-settlement`. -/
  challengeSettlement : Except JsError Bool
  batchesFrom : Int → Except JsError (List BatchView)

def pending (batch : BatchView) : Bool := batch.status == "submitted" || batch.status == "challenged"

def NO_BATCHES_NOTE : String := "no settlement batches submitted yet"

def FALLBACK_NOTE : String :=
  "this node does not report the rollup's own challenge window; " ++
    "using the global default, which is wrong for a rollup that set its own"

def heldBackNote (latestIndex : Int) (blocker : HeldBackBy) : String :=
  s!"batch {numberText latestIndex}'s window has passed, but batches finalize in order and batch " ++
    s!"{numberText blocker.batchIndex} is still {blocker.status}"

section
variable (reads : HealthReads) (options : HealthOptions)

def oldestUnsettledBefore (latestIndex : Int) : Except JsError (Option HeldBackBy) := do
  let batches ← reads.batchesFrom (max 0 (latestIndex - MAX_PENDING_OPTIMISTIC_BATCHES))
  let earlier := batches.filter fun b => decide (b.batchIndex < latestIndex) && pending b
  let sorted := earlier.mergeSort fun a b => decide (a.batchIndex ≤ b.batchIndex)
  return sorted.head?.map fun b => { batchIndex := b.batchIndex, status := b.status }

/-- The tip that the window is judged against, with a note when it could not be read. -/
def resolveTip : Option ChainTip × List String :=
  match options.tip with
  | some tip => (some tip, [])
  | none =>
    match reads.tip with
    | .error err => (none, [s!"could not read the chain tip: {err.message}"])
    | .ok tip => (some { tip with timeSecs := options.nowSecs.getD tip.timeSecs }, [])

def windowSecs (rollup : RollupStatusView) : Except JsError Int :=
  match options.challengeWindowSecs, rollup.challengeWindowSec with
  | some secs, _ => .ok secs
  | none, some secs => .ok secs
  | none, none => reads.params.map ParamsView.defaultChallengeWindow

/-- What is added for a batch that is not settled yet. -/
def pendingHealth (rollup : RollupStatusView) (latestBatch : BatchView) (tip : Option ChainTip)
    (health : RollupHealth) : Except JsError RollupHealth := do
  let windowSecs ← windowSecs reads options rollup
  let window := tip.map (batchChallengeWindow latestBatch windowSecs)
  let timed := window.filter fun w => w.mode = .time
  let fellBack := rollup.challengeWindowSec = none && options.challengeWindowSecs = none
  let health := { health with
    challengeWindow := window
    challengeDeadlineSecs := timed.bind ChallengeWindowStatus.deadlineSecs
    secondsUntilChallengeDeadline := timed.bind ChallengeWindowStatus.secondsRemaining
    notes := health.notes ++ (if fellBack then [FALLBACK_NOTE] else []) ++
      (if latestBatch.status = "challenged" then ["latest batch is under challenge"] else []) }
  if latestBatch.status = "submitted" ∧ window.any ChallengeWindowStatus.finalizable then
    if ← reads.challengeSettlement then
      match ← oldestUnsettledBefore reads latestBatch.batchIndex with
      | some blocker => return { health with
          heldBackBy := some blocker
          notes := health.notes ++ [heldBackNote latestBatch.batchIndex blocker] }
      | none => return health
    else return health
  else return health

/-- What is added once the latest batch is known. -/
def batchHealth (rollup : RollupStatusView) (latestBatch : BatchView) (health : RollupHealth) :
    Except JsError RollupHealth :=
  let rejected := latestBatch.status == "rejected"
  let (tip, tipNotes) := resolveTip reads options
  let health := { health with
    hasBatches := true
    latestBatchIndex := some latestBatch.batchIndex
    latestBatchStatus := some latestBatch.status
    latestBatchHeight := some latestBatch.submittedAt
    batchAgeBlocks := tip.map fun t => t.height - latestBatch.submittedAt
    batchAgeSecs :=
      if 0 < latestBatch.submittedTime then tip.map fun t => t.timeSecs - latestBatch.submittedTime else none
    healthy := health.healthy && !rejected
    notes := health.notes ++ (if rejected then ["latest batch was rejected"] else []) ++ tipNotes }
  if pending latestBatch then pendingHealth reads options rollup latestBatch tip health else .ok health

def getRollupHealth (rollupId : String) : Except JsError RollupHealth := do
  let rollup ← reads.rollup
  let health : RollupHealth := {
    rollupId
    status := rollup.status
    healthy := rollup.status == "active"
    notes := if rollup.status ≠ "active" then [s!"rollup status is \"{rollup.status}\""] else [] }
  match reads.latestBatch with
  | .error _ => return { health with notes := health.notes ++ [NO_BATCHES_NOTE] }
  | .ok latestBatch =>
    if latestBatch.submittedAt = 0 then return { health with notes := health.notes ++ [NO_BATCHES_NOTE] }
    else batchHealth reads options rollup latestBatch health

end

end Health
end QorechainRdk
