import QorechainRdk.Client.Views

/-!
# The challenge window

`batchChallengeWindow` of `lifecycle/state-machine.ts`: a batch with a submission time has a window
in seconds, every other one a window in blocks.
-/

namespace QorechainRdk

inductive WindowMode where
  | time
  | blocks
  deriving DecidableEq, Repr

structure ChallengeWindowStatus where
  mode : WindowMode
  isOpen : Bool
  finalizable : Bool
  deadlineSecs : Option Int := none
  secondsRemaining : Option Int := none
  windowBlocks : Option Int := none
  deadlineHeight : Option Int := none
  blocksRemaining : Option Int := none
  deriving DecidableEq, Repr

structure ChainTip where
  height : Int
  timeSecs : Int
  deriving DecidableEq, Repr

/-- Neither the height nor the time goes back. -/
instance : LE ChainTip := ⟨fun a b => a.height ≤ b.height ∧ a.timeSecs ≤ b.timeSecs⟩

def batchChallengeWindow (batch : BatchView) (windowSecs : Int) (tip : ChainTip) :
    ChallengeWindowStatus :=
  if 0 < batch.submittedTime then
    let elapsed := tip.timeSecs - batch.submittedTime
    -- The chain treats a tip before the submission as not elapsed.
    let elapsedFully := decide (0 ≤ elapsed) && decide (windowSecs ≤ elapsed)
    let deadlineSecs := batch.submittedTime + windowSecs
    { mode := .time
      isOpen := !elapsedFully
      finalizable := elapsedFully
      deadlineSecs := some deadlineSecs
      secondsRemaining := some (deadlineSecs - tip.timeSecs) }
  else
    let windowBlocks := windowSecs / 6
    let sinceSubmit := tip.height - batch.submittedAt
    let deadlineHeight := batch.submittedAt + windowBlocks
    { mode := .blocks
      isOpen := decide (sinceSubmit ≤ windowBlocks)
      finalizable := decide (windowBlocks ≤ sinceSubmit)
      windowBlocks := some windowBlocks
      deadlineHeight := some deadlineHeight
      blocksRemaining := some (deadlineHeight - tip.height) }

/-- A closed window stays closed, in either mode and for any length. -/
theorem batchChallengeWindow_closed {batch : BatchView} {windowSecs : Int} {tip tip' : ChainTip}
    (later : tip ≤ tip') (closed : (batchChallengeWindow batch windowSecs tip).isOpen = false) :
    (batchChallengeWindow batch windowSecs tip').isOpen = false := by
  obtain ⟨height, time⟩ := later
  unfold batchChallengeWindow at closed ⊢
  split
  · rename_i timed
    simp only [timed, if_true, Bool.not_eq_false', Bool.and_eq_true, decide_eq_true_eq] at closed ⊢
    omega
  · rename_i untimed
    simp only [untimed, if_false, decide_eq_false_iff_not] at closed ⊢
    omega

/-- On the block path the two differ for one block, in which the batch is both. -/
theorem batchChallengeWindow_settles (batch : BatchView) (windowSecs : Int) (tip : ChainTip) :
    let window := batchChallengeWindow batch windowSecs tip
    window.isOpen = false → window.finalizable = true := by
  unfold batchChallengeWindow
  split
  · simp
  · simp only [decide_eq_false_iff_not, decide_eq_true_eq]
    omega

theorem batchChallengeWindow_congr {a b : BatchView} (time : a.submittedTime = b.submittedTime)
    (height : a.submittedAt = b.submittedAt) :
    batchChallengeWindow a = batchChallengeWindow b := by
  funext windowSecs tip
  simp only [batchChallengeWindow, time, height]

end QorechainRdk
