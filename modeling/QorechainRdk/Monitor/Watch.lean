import Mathlib.Data.List.Induction
import QorechainRdk.Health.Model
import QorechainRdk.Lib.Async

/-!
# The rollup monitor

`watchRollup` of `monitor/index.ts`. A snapshot is one query, since none of its reads touches the
variables of the watch; `stop()` and the abort signal act while a query is open and between polls.
-/

namespace QorechainRdk
namespace Monitor

open Async Health

/-- The options that `tick` reads; a callback that is not supplied is one that does nothing. -/
structure WatchOptions where
  /-- Whether a clock is supplied. -/
  nowSecs : Bool := false
  deriving DecidableEq, Repr

inductive Query where
  | nowSecs
  | getRollupHealth (rollupId : String) (options : HealthOptions)
  | onUpdate (health : RollupHealth)
  | onError (error : JsError)
  deriving DecidableEq, Repr

@[reducible] def Reply : Query → Type
  | .nowSecs => Int
  | .getRollupHealth _ _ => RollupHealth
  | .onUpdate _ | .onError _ => Unit

inductive Interrupt where
  | stop
  | abort
  deriving DecidableEq, Repr

/-- The variables of the closure, and the timers that the runtime holds for it. -/
structure WatchState where
  stopped : Bool := false
  timer : Option Nat := none
  pending : List Nat := []
  nextTimer : Nat := 0
  deriving DecidableEq, Repr

abbrev Watch := Async.Prog Query Reply JsError WatchState

def ask (q : Query) : Watch (Reply q) := Async.Prog.call q

abbrev Event := Async.Event Query Reply JsError Interrupt

abbrev Trace := Async.Trace Query Reply JsError Interrupt

abbrev Config := Async.Config Query Reply JsError WatchState Interrupt Unit

/-- `stop()`, which is the listener of the abort signal as well. -/
def interrupt (_ : Interrupt) (s : WatchState) : WatchState :=
  { s with stopped := true, pending := s.pending.filter fun id => some id ≠ s.timer }

/-- `setTimeout`. -/
def schedule (s : WatchState) : WatchState :=
  { s with timer := some s.nextTimer, pending := s.pending ++ [s.nextTimer], nextTimer := s.nextTimer + 1 }

section
variable (options : WatchOptions) (rollupId : String)

def healthOptions : Watch HealthOptions :=
  if options.nowSecs then do
    let nowSecs ← ask .nowSecs
    return { nowSecs := some nowSecs }
  else return {}

/-- The `try` block. -/
def poll : Watch Unit := do
  let health ← ask (.getRollupHealth rollupId (← healthOptions options))
  if (← get).stopped then pure () else ask (.onUpdate health)

def tick : Watch Unit := do
  if (← get).stopped then pure ()
  else do
    tryCatch (poll options rollupId) fun error => do
      if (← get).stopped then pure () else ask (.onError error)
    modify fun s => if s.stopped then s else schedule s

end

/-- A timer of the runtime runs out. -/
inductive Fires : WatchState → WatchState → Prop where
  | timer {s : WatchState} (id : Nat) (held : id ∈ s.pending) :
      Fires s { s with pending := s.pending.erase id }

def anyAnswer (_ : Trace) (q : Query) (_ : Except JsError (Reply q)) : Prop := True

/-- `watchRollup` returns at once when the signal has fired, and polls at once when it has not. -/
def watchRollup (options : WatchOptions) (rollupId : String) (aborted : Bool) : Config :=
  if aborted then ⟨{}, [], []⟩ else settle [] [] [.started] (tick options rollupId {})

/-- The configurations that a watch comes to, whatever is answered and whenever it is stopped. -/
inductive Reachable (options : WatchOptions) (rollupId : String) (aborted : Bool) : Config → Prop where
  | start : Reachable options rollupId aborted (watchRollup options rollupId aborted)
  | step {c c' : Config} (before : Reachable options rollupId aborted c)
      (next : Step interrupt anyAnswer Fires (tick options rollupId) c c') :
      Reachable options rollupId aborted c'

end Monitor
end QorechainRdk
