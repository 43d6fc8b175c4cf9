import QorechainRdk.Go.Views

/-!
# Rollup health in Go

`health.go` and `monitor.go`. A watch polls until its context is cancelled, which may happen between any two
reads of a poll.
-/

namespace QorechainRdk.Go

open Js

def MaxPendingOptimisticBatches : Int := 4096

structure HeldBackBy where
  batchIndex : Int
  status : String
  deriving DecidableEq, Repr

structure RollupHealth where
  rollupId : String := ""
  status : String := ""
  hasBatches : Bool := false
  latestBatchIndex : Int := 0
  latestBatchStatus : String := ""
  latestBatchHeight : Int := 0
  batchAgeBlocks : Int := 0
  batchAgeSecs : Int := 0
  hasBatchAgeSecs : Bool := false
  challengeWindow : ChallengeWindowStatus := {}
  hasChallengeWindow : Bool := false
  challengeDeadlineSecs : Int := 0
  secondsUntilChallengeDeadline : Int := 0
  heldBackBy : Option HeldBackBy := none
  hasTip : Bool := false
  healthy : Bool := false
  notes : List String := []
  deriving DecidableEq, Repr

/-- A zero is an option that is not given. -/
structure HealthOptions where
  tip : Option ChainTip := none
  nowSecs : Int := 0
  challengeWindowSecs : Nat := 0
  deriving DecidableEq, Repr

/-- What each read of a snapshot gives, if it is made. -/
structure HealthReads where
  rollup : Except JsError RollupView
  latestBatch : Except JsError BatchView
  tip : Except JsError ChainTip
  params : Except JsError ParamsView
  challengeSettlement : Except JsError Bool
  batchesFrom : Nat → Except JsError (List BatchView)

def pending (batch : BatchView) : Bool := batch.status == "submitted" || batch.status == "challenged"

def noBatchesNote : String := "no settlement batches submitted yet"

def fallbackNote : String :=
  "this node does not report the rollup's own challenge window; " ++
    "using the global default, which is wrong for a rollup that set its own"

section
variable (reads : HealthReads) (options : HealthOptions)

/-- The loop of `oldestUnsettledBefore`. -/
def oldestLoop (latestIndex : Int) : List BatchView → Option HeldBackBy → Option HeldBackBy
  | [], oldest => oldest
  | b :: rest, oldest =>
    if latestIndex ≤ b.batchIndex ∨ ¬ pending b then oldestLoop latestIndex rest oldest
    else if oldest.all fun o => decide (b.batchIndex < o.batchIndex) then
      oldestLoop latestIndex rest (some { batchIndex := b.batchIndex, status := b.status })
    else oldestLoop latestIndex rest oldest

def oldestUnsettledBefore (latestIndex : Int) : Except JsError (Option HeldBackBy) := do
  let start := max 0 (latestIndex - MaxPendingOptimisticBatches)
  return oldestLoop latestIndex (← reads.batchesFrom start.toNat) none

/-- The batch that the latest one waits for, and a note; a read that fails is a note too. -/
def checkInOrderSettlement (latestIndex : Int) : Option HeldBackBy × List String :=
  match reads.challengeSettlement with
  | .error err => (none, ["could not read the chain's protocol features: " ++ err.message])
  | .ok false => (none, [])
  | .ok true =>
    match oldestUnsettledBefore reads latestIndex with
    | .error err => (none, ["could not read the earlier batches: " ++ err.message])
    | .ok none => (none, [])
    | .ok (some blocker) =>
      (some blocker, [s!"batch {latestIndex}'s window has passed, but batches finalize in order and batch " ++
        s!"{blocker.batchIndex} is still {blocker.status}"])

def resolveTip : Option ChainTip × List String :=
  match options.tip with
  | some tip => (some tip, [])
  | none =>
    match reads.tip with
    | .error err => (none, ["could not read the chain tip: " ++ err.message])
    | .ok tip => (some (if options.nowSecs ≠ 0 then { tip with timeSecs := options.nowSecs } else tip), [])

/-- The length that the window is judged by, and whether it is the global default. -/
def windowSecs (rollup : RollupView) : Nat × Bool :=
  let secs := options.challengeWindowSecs
  let secs := if secs = 0 then rollup.challengeWindowSec.getD secs else secs
  if secs = 0 ∧ options.challengeWindowSecs = 0 ∧ rollup.challengeWindowSec = none then
    match reads.params with
    | .ok params => (uint64 params.defaultChallengeWindow, true)
    -- The error is dropped, and the length stays at zero.
    | .error _ => (secs, true)
  else (secs, false)

def pendingHealth (rollup : RollupView) (latest : BatchView) (tip : Option ChainTip) (health : RollupHealth) :
    RollupHealth :=
  let (secs, fellBack) := windowSecs reads options rollup
  let health := match tip with
    | none => health
    | some tip =>
      let w := batchChallengeWindow latest secs tip
      let health := { health with challengeWindow := w, hasChallengeWindow := true }
      if w.mode = some WindowMode.time then { health with
        challengeDeadlineSecs := w.deadlineSecs
        secondsUntilChallengeDeadline := w.secondsRemaining }
      else health
  let health := { health with
    notes := health.notes ++ (if fellBack then [fallbackNote] else []) ++
      (if latest.status = "challenged" then ["latest batch is under challenge"] else []) }
  if latest.status = "submitted" ∧ health.hasChallengeWindow ∧ health.challengeWindow.finalizable then
    let (blocker, notes) := checkInOrderSettlement reads latest.batchIndex
    { health with heldBackBy := blocker, notes := health.notes ++ notes }
  else health

def batchHealth (rollup : RollupView) (latest : BatchView) (health : RollupHealth) : RollupHealth :=
  let rejected := latest.status == "rejected"
  let (tip, tipNotes) := resolveTip reads options
  let health := { health with
    hasBatches := true
    latestBatchIndex := latest.batchIndex
    latestBatchStatus := latest.status
    latestBatchHeight := latest.submittedAt
    notes := health.notes ++ (if rejected then ["latest batch was rejected"] else []) ++ tipNotes }
  let health := match tip with
    | none => health
    | some tip =>
      let health := { health with hasTip := true, batchAgeBlocks := int64 (tip.height - latest.submittedAt) }
      if 0 < latest.submittedTime then { health with
        batchAgeSecs := int64 (tip.timeSecs - latest.submittedTime)
        hasBatchAgeSecs := true }
      else health
  let health := if pending latest then pendingHealth reads options rollup latest tip health else health
  { health with healthy := health.healthy && !rejected }

def getRollupHealth (rollupId : String) : Except JsError RollupHealth := do
  let rollup ← reads.rollup
  let health : RollupHealth := {
    rollupId
    status := rollup.status
    healthy := rollup.status == "active"
    notes := if rollup.status ≠ "active" then ["rollup status is " ++ stringify rollup.status] else [] }
  match reads.latestBatch with
  | .error _ => return { health with notes := health.notes ++ [noBatchesNote] }
  | .ok latest =>
    if latest.submittedAt = 0 then return { health with notes := health.notes ++ [noBatchesNote] }
    else return batchHealth reads options rollup latest health

end

/-- A tick of a watch: what the node would answer to each read, and how many of the reads are over when the
context is cancelled, if it is. -/
structure Poll where
  reads : HealthReads
  nowSecs : Int := 0
  cancelledAfter : Option Nat := none
  cancelError : JsError := ⟨"context canceled"⟩

def Poll.cut (poll : Poll) {α : Type} (position : Nat) (read : Except JsError α) : Except JsError α :=
  if poll.cancelledAfter.any fun n => decide (n ≤ position) then .error poll.cancelError else read

/-- The reads as the snapshot sees them, in the order in which it makes them. -/
def Poll.seen (poll : Poll) : HealthReads where
  rollup := poll.cut 0 poll.reads.rollup
  latestBatch := poll.cut 1 poll.reads.latestBatch
  tip := poll.cut 2 poll.reads.tip
  params := poll.cut 3 poll.reads.params
  challengeSettlement := poll.cut 4 poll.reads.challengeSettlement
  batchesFrom start := poll.cut 5 (poll.reads.batchesFrom start)

inductive TickResult where
  | silent
  | onError (err : JsError)
  | onUpdate (health : RollupHealth)
  deriving DecidableEq, Repr

def tick (rollupId : String) (poll : Poll) : TickResult :=
  match getRollupHealth poll.seen { nowSecs := poll.nowSecs } rollupId with
  | .error err => if poll.cancelledAfter.isSome then .silent else .onError err
  | .ok health => .onUpdate health

/-- What `WatchRollup` reports, tick by tick: there is none after the one that the cancellation falls in. -/
def watchRollup (rollupId : String) : List Poll → List TickResult
  | [] => []
  | poll :: rest =>
    tick rollupId poll :: if poll.cancelledAfter.isSome then [] else watchRollup rollupId rest

end QorechainRdk.Go
