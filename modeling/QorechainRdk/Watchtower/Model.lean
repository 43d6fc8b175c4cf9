import QorechainRdk.Lib.Async
import QorechainRdk.Lifecycle.ChallengeWindow

/-!
# The watchtower

`watchBatches` of `watchtower/index.ts`. The callbacks and the reads are queries to the environment;
`stop()` and the abort signal act while a query is open and between polls.
-/

namespace QorechainRdk
namespace Watchtower

/-- The options that `tick` reads; a callback that is not supplied is one that does nothing. -/
structure WatchtowerOptions where
  deadlineWarnSecs : Option Int := none
  deadlineWarnBlocks : Option Int := none
  challengeWindowSecs : Option Int := none
  /-- Whether a predicate is supplied. -/
  validate : Bool := true
  deriving DecidableEq, Repr

structure BatchDeadline where
  batch : BatchView
  window : Option ChallengeWindowStatus := none
  deadline : Int
  secondsRemaining : Int
  deriving DecidableEq, Repr

inductive Query where
  | getRollup (rollupId : String)
  | getParams
  | listBatches (rollupId : String) (startIndex : Int)
  | readTip
  | validate (batch : BatchView)
  | onBatch (batch : BatchView)
  | onInvalid (info : BatchDeadline)
  | onDeadline (info : BatchDeadline)
  | onError (error : JsError)
  deriving DecidableEq, Repr

@[reducible] def Reply : Query → Type
  | .getRollup _ => RollupView
  | .getParams => ParamsView
  | .listBatches _ _ => List BatchView
  | .readTip => ChainTip
  | .validate _ => Bool
  | .onBatch _ | .onInvalid _ | .onDeadline _ | .onError _ => Unit

inductive Interrupt where
  | stop
  | abort
  deriving DecidableEq, Repr

/-- The variables of the closure, and the timers that the runtime holds for it. -/
structure WatchState where
  seen : List String := []
  warned : List String := []
  stopped : Bool := false
  timer : Option Nat := none
  windowSecs : Option Int := none
  nextStart : Int := 0
  pollFrom : Int := 0
  pending : List Nat := []
  nextTimer : Nat := 0
  deriving DecidableEq, Repr

abbrev Watch := Async.Prog Query Reply JsError WatchState

def ask (q : Query) : Watch (Reply q) := Async.Prog.call q

abbrev Event := Async.Event Query Reply JsError Interrupt

abbrev Trace := Async.Trace Query Reply JsError Interrupt

/-- How a poll ended. The source's `tick` returns nothing. -/
inductive PollEnd where
  | skipped
  | returned
  | completed (tip : Option ChainTip)
  | failed
  deriving DecidableEq, Repr

def keyOf (b : BatchView) : String := s!"{b.batchIndex}:{b.stateRoot}"

def finalized (batch : BatchView) : Bool := batch.status == "finalized" || decide (0 < batch.finalizedAt)

def live (batch : BatchView) : Bool := !finalized batch && batch.status != "rejected"

/-- `stop()`, and the listener of the abort signal. -/
def interrupt (_ : Interrupt) (s : WatchState) : WatchState :=
  { s with stopped := true, pending := s.pending.filter fun id => some id ≠ s.timer }

/-- `Set.add`. -/
def add (keys : List String) (key : String) : List String :=
  if key ∈ keys then keys else keys ++ [key]

def deadlineFor (windowSecs : Option Int) (batch : BatchView) (tip : Option ChainTip) : BatchDeadline :=
  match tip, windowSecs with
  | some tip, some windowSecs =>
    let window := batchChallengeWindow batch windowSecs tip
    { batch
      window := some window
      deadline := if window.mode = .time then window.deadlineSecs.getD 0 else 0
      secondsRemaining := if window.mode = .time then window.secondsRemaining.getD 0 else 0 }
  | _, _ => { batch, deadline := 0, secondsRemaining := 0 }

def windowOpen (info : BatchDeadline) : Bool := info.window.any ChallengeWindowStatus.isOpen

section
variable (options : WatchtowerOptions)

/-- A remaining time that is missing counts as infinite. -/
def nearDeadline (info : BatchDeadline) : Bool :=
  match info.window with
  | none => false
  | some w =>
    w.isOpen &&
      match w.mode with
      | .time => w.secondsRemaining.any fun n => decide (n ≤ options.deadlineWarnSecs.getD 300)
      | .blocks => w.blocksRemaining.any fun n => decide (n ≤ options.deadlineWarnBlocks.getD 50)

variable (rollupId : String)

def readWindow : Watch Unit := do
  if (← get).windowSecs.isNone then
    let rollup ← ask (.getRollup rollupId)
    match rollup.challengeWindowSec with
    | some secs => modify fun s => { s with windowSecs := some secs }
    | none => do
      let params ← ask .getParams
      modify fun s => { s with windowSecs := some params.defaultChallengeWindow }
  else pure ()

def readTip : Watch (Option ChainTip) :=
  tryCatch (do
    let tip ← ask .readTip
    return some tip) fun error => do
    if (← get).stopped then return none
    else do
      ask (.onError error)
      return none

/-- The predicate is called, and `onInvalid` on a bad verdict. -/
def consult (batch : BatchView) (info : BatchDeadline) : Watch Unit := do
  let ok ← ask (.validate batch)
  if !ok && !(← get).stopped then ask (.onInvalid info) else pure ()

/-- The first half of the loop body: a batch that is not in `seen`. -/
def judge (batch : BatchView) (info : BatchDeadline) : Watch Unit := do
  if keyOf batch ∈ (← get).seen then pure ()
  else do
    modify fun s => { s with seen := add s.seen (keyOf batch) }
    ask (.onBatch batch)
    if live batch && options.validate then consult batch info else pure ()

/-- The second half: the oldest open batch, and the alert. -/
def alert (batch : BatchView) (info : BatchDeadline) (oldestOpen : Option Int) : Watch (Option Int) := do
  if live batch && windowOpen info then do
    let oldest := match oldestOpen with
      | none => batch.batchIndex
      | some oldest => if batch.batchIndex < oldest then batch.batchIndex else oldest
    let s ← get
    if nearDeadline options info && decide (keyOf batch ∉ s.warned) && !s.stopped then do
      modify fun s => { s with warned := add s.warned (keyOf batch) }
      ask (.onDeadline info)
    else pure ()
    return some oldest
  else return oldestOpen

/-- The loop over the batches; `none` is the early `return`. -/
def visitAll (tip : Option ChainTip) : List BatchView → Option Int → Watch (Option (Option Int))
  | [], oldestOpen => return some oldestOpen
  | batch :: rest, oldestOpen => do
    if (← get).stopped then return none
    else do
      modify fun s =>
        { s with nextStart := if s.nextStart ≤ batch.batchIndex then batch.batchIndex + 1 else s.nextStart }
      let info := deadlineFor (← get).windowSecs batch tip
      judge options batch info
      let oldestOpen ← alert options batch info oldestOpen
      visitAll tip rest oldestOpen

/-- The `try` block. -/
def pollOnce : Watch PollEnd := do
  readWindow rollupId
  let batches ← ask (.listBatches rollupId (← get).pollFrom)
  let tip ← readTip
  match ← visitAll options tip batches none with
  | none => return .returned
  | some oldestOpen => do
    -- Without a tip no window can be judged.
    modify fun s =>
      { s with pollFrom := if tip.isSome then oldestOpen.getD s.nextStart else s.pollFrom }
    return .completed tip

/-- `setTimeout`. -/
def schedule (s : WatchState) : WatchState :=
  { s with timer := some s.nextTimer, pending := s.pending ++ [s.nextTimer], nextTimer := s.nextTimer + 1 }

def tick : Watch PollEnd := do
  if (← get).stopped then return .skipped
  else do
    let ended ← tryCatch (pollOnce options rollupId) fun error => do
      if (← get).stopped then return .failed
      else do
        ask (.onError error)
        return .failed
    match ended with
    | .returned => return .returned
    | ended => do
      modify fun s => if s.stopped then s else schedule s
      return ended

end

def initial (options : WatchtowerOptions) : WatchState := { windowSecs := options.challengeWindowSecs }

/-- A timer of the runtime runs out. -/
inductive Fires : WatchState → WatchState → Prop where
  | timer {s : WatchState} (id : Nat) (held : id ∈ s.pending) :
      Fires s { s with pending := s.pending.erase id }

end Watchtower
end QorechainRdk
