import QorechainRdk.Watchtower.Discipline

/-!
# Failed validations

`tick` remembers a batch before it judges it, so what throws on the way leaves the batch remembered
and unjudged.
-/

namespace QorechainRdk.Watchtower

open Async

def Decided (tr : Trace) (b : BatchView) : Prop :=
  ∃ v : Bool, Async.Event.answered (.validate b) (.ok v) ∈ tr ∧
    (v = false → (∃ info ∈ onInvalidCalls tr, info.batch = b) ∨ StoppedIn tr)

/-- Between polls every remembered batch that was live when it was first listed is decided; and a
batch whose validation threw is validated again by a later poll that lists it with an open window. -/
structure Retries (options : WatchtowerOptions) (c : Config) : Prop where
  decided : ∀ b, FirstListed c.trace b → live b = true → keyOf b ∈ c.state.seen → Decided c.trace b
  again : ∀ pre last b b' e secs tip, c.trace = pre ++ .started :: last →
    Async.Event.answered (.validate b) (.error e) ∈ pre → b' ∈ listed last → keyOf b' = keyOf b →
    live b' = true → windowRead options c.trace = some secs → pollTip c.trace = some tip →
    (batchChallengeWindow b' secs tip).isOpen = true →
    (∃ a ∈ validateCalls last, keyOf a = keyOf b') ∨ StoppedIn c.trace

theorem asked_of_mem {γ : Type} {p : Query → Option γ} {tr : Trace} {c : γ} (member : c ∈ asks p tr) :
    ∃ pre q rest, tr = pre ++ .asked q :: rest ∧ p q = some c := by
  obtain ⟨e, found, called⟩ := List.mem_filterMap.mp member
  obtain ⟨pre, rest, split⟩ := List.append_of_mem found
  cases e with
  | asked q => exact ⟨pre, q, rest, split, called⟩
  | _ => cases called

/-- A batch that was handed over is the one first listed, unless something threw. -/
theorem Reachable.firstListed {options : WatchtowerOptions} {rollupId : String} {aborted : Bool}
    {c : Config} {b : BatchView} (h : Reachable options rollupId aborted c)
    (unbroken : ¬ Threw c.trace) (called : b ∈ onBatchCalls c.trace) : FirstListed c.trace b := by
  obtain ⟨pre, q, rest, split, asked⟩ := asked_of_mem called
  cases q <;> cases asked
  have earlier : pre <+: c.trace := ⟨_, split.symm⟩
  rcases (h.obeys pre _ rest split).2.2.2 with threw | first
  · exact absurd (threw.mono earlier) unbroken
  · exact first.mono earlier

theorem retries_of_no_throw {options : WatchtowerOptions} {rollupId : String} {aborted : Bool}
    {c : Config} (h : Reachable options rollupId aborted c) (alone : c.running = [])
    (supplied : options.validate = true) (unbroken : ¬ Threw c.trace) : Retries options c := by
  have idle := h.idle alone
  constructor
  case decided =>
    intro b first isLive known
    rw [idle.seen] at known
    obtain ⟨a, called, key⟩ := List.mem_map.mp known
    obtain rfl : a = b := (h.firstListed unbroken called).unique first key
    rcases idle.judged supplied a called isLive with opened | ⟨e, threw⟩ | ⟨-, ⟨e, threw⟩ | decided⟩
    · cases opened
    · exact absurd ⟨_, e, rfl, threw⟩ unbroken
    · exact absurd ⟨_, e, rfl, threw⟩ unbroken
    · exact decided
  case again =>
    intro pre last b b' e secs tip split threw
    have here : Async.Event.answered (.validate b) (.error e) ∈ c.trace := by simp [split, threw]
    exact absurd ⟨_, e, rfl, here⟩ unbroken

def judgedPoll : Except JsError PollEnd × WatchState × Trace :=
  answeredPoll (nodeAnswer [sampleBatch] ⟨1100, 0⟩ fun _ => .ok false) {} "rollup" (initial {}) []

theorem retries_of_no_throw_sample : Retries {} ⟨judgedPoll.2.1, [], judgedPoll.2.2⟩ := by
  have run : (tick {} "rollup" (initial {})).Runs interrupt anyAnswer ([] ++ [.started]) judgedPoll.1
      judgedPoll.2.1 judgedPoll.2.2 := answeredPoll_runs _ fun _ _ _ _ => trivial
  exact retries_of_no_throw (reachable_first run) rfl rfl (by decide)

/-! ### A predicate that throws once -/

def failedPoll : Except JsError PollEnd × WatchState × Trace :=
  answeredPoll (nodeAnswer [sampleBatch] ⟨1100, 0⟩ fun _ => fail "unreachable") {} "rollup" (initial {}) []

def nextPoll : Except JsError PollEnd × WatchState × Trace :=
  answeredPoll (nodeAnswer [sampleBatch] ⟨1100, 0⟩ fun _ => .ok false) {} "rollup"
    { failedPoll.2.1 with pending := [] } failedPoll.2.2

def verdictIn : Event → Option Bool
  | .answered (.validate _) (.ok v) => some v
  | _ => none

theorem failed_validation_forgotten : ∃ c : Config, Reachable {} "rollup" false c ∧ c.running = [] ∧
    nextPoll.1 = .ok (.completed (some ⟨1100, 0⟩)) ∧ ¬ Retries {} c := by
  have run : (tick {} "rollup" (initial {})).Runs interrupt anyAnswer ([] ++ [.started]) failedPoll.1
      failedPoll.2.1 failedPoll.2.2 := answeredPoll_runs _ fun _ _ _ _ => trivial
  have first : Reachable {} "rollup" false ⟨failedPoll.2.1, [], failedPoll.2.2⟩ := reachable_first run
  have fired : Fires failedPoll.2.1 { failedPoll.2.1 with pending := [] } :=
    Fires.timer 0 (by decide)
  have second : Reachable {} "rollup" false ⟨nextPoll.2.1, [], nextPoll.2.2⟩ :=
    first.poll fired (answeredPoll_runs _ fun _ _ _ _ => trivial)
  refine ⟨_, second, rfl, by decide, fun retries => ?_⟩
  obtain ⟨v, verdict, -⟩ := retries.decided sampleBatch (by decide)
    (by decide) (by decide)
  have none : nextPoll.2.2.filterMap verdictIn = [] := by decide
  have some : v ∈ nextPoll.2.2.filterMap verdictIn := List.mem_filterMap.mpr ⟨_, verdict, rfl⟩
  rw [none] at some
  cases some

end QorechainRdk.Watchtower
