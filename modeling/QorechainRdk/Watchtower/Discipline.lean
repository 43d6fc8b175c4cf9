import QorechainRdk.Watchtower.Poll

/-!
# The discipline of the callbacks

Every interleaving of polls, answers and stops, from the call of `watchBatches` on.
-/

namespace QorechainRdk.Watchtower

open Async

abbrev Config := Async.Config Query Reply JsError WatchState Interrupt PollEnd

def anyAnswer (_ : Trace) (q : Query) (_ : Except JsError (Reply q)) : Prop := True

/-- `watchBatches` returns at once when the signal has fired, and polls at once when it has not. -/
def start (options : WatchtowerOptions) (rollupId : String) (aborted : Bool) : Config :=
  if aborted then ⟨initial options, [], []⟩
  else settle [] [] [.started] (tick options rollupId (initial options))

/-- The configurations that a watch comes to, whatever is answered and whenever it is stopped. -/
inductive Reachable (options : WatchtowerOptions) (rollupId : String) (aborted : Bool) :
    Config → Prop where
  | start : Reachable options rollupId aborted (start options rollupId aborted)
  | step {c c' : Config} (before : Reachable options rollupId aborted c)
      (next : Step interrupt anyAnswer Fires (tick options rollupId) c c') :
      Reachable options rollupId aborted c'

structure Idle (options : WatchtowerOptions) (s : WatchState) (tr : Trace) : Prop
    extends Inv options [] s tr where
  timers : Timers s
  swept : Swept s tr

section
variable {options : WatchtowerOptions} {rollupId : String} {aborted : Bool} {s s' : WatchState}
  {tr : Trace}

theorem idle_initial (options : WatchtowerOptions) : Idle options (initial options) [] := by
  refine ⟨⟨?_, rfl, rfl, by simp [asks], rfl, obeys_nil, by simp [asks]⟩, Or.inl rfl, ?_⟩
  case refine_2 => exact Or.inr (Or.inr (by simp [listed]))
  exact iff_of_false (by simp [initial]) stoppedIn_nil

theorem idle_interrupt (x : Interrupt) (h : Idle options s tr) :
    Idle options (interrupt x s) (tr ++ [.acted x]) := by
  obtain ⟨inv, timers, -⟩ := h
  have extend : tr <+: tr ++ [.acted x] := List.prefix_append _ _
  refine ⟨⟨by simp [interrupt], ?_, ?_, ?_, ?_, obeys_concat.mpr ⟨inv.obeys, trivial⟩, ?_⟩, Or.inl ?_,
    Or.inl (stoppedIn_acted x)⟩
  · simpa [interrupt] using inv.seen
  · simpa [interrupt] using inv.warned
  · simpa [interrupt] using inv.invalid
  · simpa [interrupt, windowRead, windowStep] using inv.window
  · intro supplied b member isLive
    simp only [asks_acted_one] at member
    exact (inv.judged supplied b member isLive).imp_right fun done => done.mono extend
  · rcases timers with none | ⟨-, id, timer, only⟩
    · simp [interrupt, none]
    · simp [interrupt, timer, only]

theorem inv_started (h : Inv options [] s tr) (running : s.stopped = false) (quiet : List Nat) :
    Inv options [] { s with pending := quiet } (tr ++ [.started]) := by
  have fresh : ¬ StoppedIn tr := h.not_stopped (by simp [running])
  refine ⟨?_, ?_, ?_, ?_, ?_, obeys_concat.mpr ⟨h.obeys, fresh⟩, ?_⟩
  · simpa using h.stopped
  · simpa using h.seen
  · simpa using h.warned
  · simpa using h.invalid
  · simpa [windowRead, windowStep] using h.window
  · intro supplied b member isLive
    simp only [asks_started] at member
    exact (h.judged supplied b member isLive).imp_right fun done => done.mono (List.prefix_append _ _)

theorem swept_started (h : Swept s tr) (quiet : List Nat) :
    Swept { s with pending := quiet } (tr ++ [.started]) := by
  rcases h with ⟨x, stop⟩ | threw | known
  · exact Or.inl ⟨x, List.mem_append_left _ stop⟩
  · exact Or.inr (Or.inl (threw.mono (List.prefix_append _ _)))
  · exact Or.inr (Or.inr (by simpa using known))

/-- A timer that runs out leaves none armed, and starts a poll of a watch that was not stopped. -/
theorem idle_fires (h : Idle options s tr) (fired : Fires s s') :
    Inv options [] s' (tr ++ [.started]) ∧ s'.pending = [] ∧ Swept s' (tr ++ [.started]) := by
  obtain ⟨inv, timers, swept⟩ := h
  cases fired with
  | timer id held =>
    rcases timers with none | ⟨running, id', -, only⟩
    · rw [none] at held
      cases held
    · rw [only] at held
      obtain rfl := List.mem_singleton.mp held
      refine ⟨inv_started inv running _, ?_, swept_started swept _⟩
      simp [only]

theorem tick_idle {rely : Trace → (q : Query) → Except JsError (Reply q) → Prop}
    (h : Inv options [] s tr) (idle : s.pending = []) (swept : Swept s tr) :
    (tick options rollupId s).safe interrupt rely (guard options) (fun _ s tr => Idle options s tr) tr := by
  refine Tree.safe_mono ?_ (tick_spec h idle swept)
  intro r s' tr' done
  cases r with
  | ok ended => exact ⟨done.1.toInv, done.2, done.1.swept⟩
  | error e => exact ⟨done.1.toInv, done.2, done.1.swept⟩

/-- One poll at a time: whatever has happened, the watch is idle or waits in a single poll. -/
theorem Reachable.single {c : Config} (h : Reachable options rollupId aborted c) :
    Single interrupt anyAnswer (guard options) (Idle options) c := by
  induction h with
  | start =>
    have initially := idle_initial options
    unfold Watchtower.start
    split
    · exact Or.inl ⟨rfl, initially⟩
    · have swept := swept_started initially.swept []
      exact single_settle (tick_idle (inv_started initially.toInv rfl []) rfl swept)
  | step before next ih =>
    refine single_step (fun s => s.pending = []) ?_ ?_ ?_ ?_ ?_ ih next
    · exact fun x s tr idle => idle_interrupt x idle
    · intro s s' tr idle fired
      obtain ⟨inv, quiet, swept⟩ := idle_fires idle fired
      exact tick_idle inv quiet swept
    · exact fun tr q s guarded => guarded.2.2
    · intro x s quiet
      simp [interrupt, quiet]
    · intro s s' quiet fired
      cases fired with
      | timer id held =>
        rw [quiet] at held
        cases held

theorem Reachable.obeys {c : Config} (h : Reachable options rollupId aborted c) :
    Obeys (Permitted options) c.trace := by
  rcases h.single with ⟨-, idle⟩ | ⟨q, k, s, tr, xs, -, -, trace, safe⟩
  · exact idle.obeys
  · rw [trace]
    exact obeys_waiting safe.1.1 safe.1.2.1

theorem Reachable.one_poll {c : Config} (h : Reachable options rollupId aborted c) :
    c.running.length + c.state.pending.length ≤ 1 := by
  rcases h.single with ⟨alone, idle⟩ | ⟨q, k, s, tr, xs, running, state, -, safe⟩
  · rcases idle.timers with none | ⟨-, id, -, only⟩
    · simp [alone, none]
    · simp [alone, only]
  · have quiet : c.state.pending = [] := by rw [state, acts_interrupt xs s safe.1.2.2]; exact safe.1.2.2
    simp [running, quiet]

theorem Reachable.unscheduled {c : Config} (h : Reachable options rollupId aborted c)
    (stopped : StoppedIn c.trace) : c.state.pending = [] := by
  rcases h.single with ⟨-, idle⟩ | ⟨q, k, s, tr, xs, -, state, -, safe⟩
  · rcases idle.timers with none | ⟨running, -⟩
    · exact none
    · exact absurd stopped (idle.not_stopped (by simp [running]))
  · rw [state, acts_interrupt xs s safe.1.2.2]
    exact safe.1.2.2

theorem Reachable.idle {c : Config} (h : Reachable options rollupId aborted c) (alone : c.running = []) :
    Idle options c.state c.trace := by
  rcases h.single with ⟨-, idle⟩ | ⟨q, k, s, tr, xs, running, -⟩
  · exact idle
  · rw [running] at alone
    cases alone

theorem reachable_first {r : Except JsError PollEnd} {s : WatchState} {tr : Trace}
    (run : (tick options rollupId (initial options)).Runs interrupt anyAnswer [.started] r s tr) :
    Reachable options rollupId false ⟨s, [], tr⟩ := by
  have steps : Relation.ReflTransGen (Step interrupt anyAnswer Fires (tick options rollupId))
      (start options rollupId false) ⟨s, [], tr⟩ := run.steps
  generalize (⟨s, [], tr⟩ : Config) = c at steps ⊢
  induction steps with
  | refl => exact Reachable.start
  | tail before next ih => exact ih.step next

theorem Reachable.poll {s s₁ : WatchState} {r : Except JsError PollEnd} {tr tr₁ : Trace}
    (h : Reachable options rollupId aborted ⟨s, [], tr⟩) (fired : Fires s s')
    (run : (tick options rollupId s').Runs interrupt anyAnswer (tr ++ [.started]) r s₁ tr₁) :
    Reachable options rollupId aborted ⟨s₁, [], tr₁⟩ := by
  have steps : Relation.ReflTransGen (Step interrupt anyAnswer Fires (tick options rollupId))
      (settle [] [] (tr ++ [.started]) (tick options rollupId s')) ⟨s₁, [], tr₁⟩ := run.steps
  generalize (⟨s₁, [], tr₁⟩ : Config) = c at steps ⊢
  induction steps with
  | refl => exact h.step (Step.fire fired)
  | tail before next ih => exact ih.step next

def answeredPoll (answer : (q : Query) → Except JsError (Reply q)) (options : WatchtowerOptions)
    (rollupId : String) (s : WatchState) (tr : Trace) : Except JsError PollEnd × WatchState × Trace :=
  (tick options rollupId s).exec answer (tr ++ [.started])

theorem answeredPoll_runs {rely : Trace → (q : Query) → Except JsError (Reply q) → Prop}
    (answer : (q : Query) → Except JsError (Reply q))
    (relied : ∀ mid q, Given answer (tr ++ [.started]) mid →
      mid ++ [.answered q (answer q)] <+: (answeredPoll answer options rollupId s tr).2.2 →
        rely mid q (answer q)) :
    (tick options rollupId s).Runs interrupt rely (tr ++ [.started])
      (answeredPoll answer options rollupId s tr).1 (answeredPoll answer options rollupId s tr).2.1
      (answeredPoll answer options rollupId s tr).2.2 :=
  Tree.exec_runs interrupt rely _ _ (fun _ _ member => Or.inl member) relied

def sampleBatch : BatchView where
  batchIndex := 0
  stateRoot := "aa"
  prevStateRoot := "00"
  txCount := 1
  dataHash := ""
  status := "submitted"
  submittedAt := 1000
  finalizedAt := 0
  withdrawalsRoot := ""
  submittedTime := 0

/-- A node that serves its batches, and callbacks that do nothing. -/
def nodeAnswer (chain : List BatchView) (tip : ChainTip) (validate : BatchView → Except JsError Bool) :
    (q : Query) → Except JsError (Reply q)
  | .getRollup _ => .ok { creator := "", layerId := "" }
  | .getParams => .ok { defaultChallengeWindow := 604800 }
  | .listBatches _ startIndex => .ok (chain.filter fun b => startIndex ≤ b.batchIndex)
  | .readTip => .ok tip
  | .validate b => validate b
  | .onBatch _ | .onInvalid _ | .onDeadline _ | .onError _ => .ok ()

/-- With a signal that had fired before, there is nothing but later calls of `stop()`. -/
theorem Reachable.never_polls {c : Config} (h : Reachable options rollupId true c) :
    c.running = [] ∧ c.state.pending = [] ∧ ∀ e ∈ c.trace, ∃ x, e = .acted x := by
  induction h with
  | start =>
    unfold Watchtower.start
    rw [if_pos rfl]
    exact ⟨rfl, rfl, by simp⟩
  | step before next ih =>
    obtain ⟨alone, quiet, acted⟩ := ih
    cases next with
    | act x =>
      refine ⟨alone, by simp [interrupt, quiet], ?_⟩
      intro e member
      rcases List.mem_append.mp member with old | new
      · exact acted e old
      · exact ⟨x, List.mem_singleton.mp new⟩
    | fire fired =>
      cases fired with
      | timer id held =>
        rw [quiet] at held
        cases held
    | answer first rest r relied => simp at alone

end

def callback : Query → Bool
  | .onBatch _ | .onInvalid _ | .onDeadline _ | .onError _ => true
  | _ => false

/-- Once for each key, one poll at a time, nothing after a stop, and only on the batches that the
poll listed as live. -/
structure Disciplined (options : WatchtowerOptions) (aborted : Bool) (c : Config) : Prop where
  onBatch_once : ((onBatchCalls c.trace).map keyOf).Nodup
  onInvalid_once : ((onInvalidCalls c.trace).map fun i => keyOf i.batch).Nodup
  onDeadline_once : ((onDeadlineCalls c.trace).map fun i => keyOf i.batch).Nodup
  one_poll : c.running.length + c.state.pending.length ≤ 1
  unscheduled : aborted = true ∨ StoppedIn c.trace → c.state.pending = []
  silent : ∀ pre e rest, c.trace = pre ++ e :: rest → aborted = true ∨ StoppedIn pre →
    e ≠ .started ∧ ∀ q, e = .asked q → callback q = false
  validate : ∀ pre b rest, c.trace = pre ++ .asked (.validate b) :: rest →
    live b = true ∧ b ∈ pollListing pre
  onInvalid : ∀ pre info rest, c.trace = pre ++ .asked (.onInvalid info) :: rest →
    live info.batch = true ∧ info.batch ∈ pollListing pre
  onDeadline : ∀ pre info rest, c.trace = pre ++ .asked (.onDeadline info) :: rest →
    info.batch ∈ pollListing pre ∧ Closing options pre info

theorem callback_discipline {options : WatchtowerOptions} {rollupId : String} {aborted : Bool}
    {c : Config} (h : Reachable options rollupId aborted c) : Disciplined options aborted c := by
  have obeys := h.obeys
  constructor
  case onBatch_once =>
    refine nodup_of_obeys onBatchOf keyOf ?_ obeys
    rintro pre q b permitted called
    cases q <;> cases called
    exact permitted.2.2.1
  case onInvalid_once =>
    refine nodup_of_obeys onInvalidOf (fun i => keyOf i.batch) ?_ obeys
    rintro pre q info permitted called
    cases q <;> cases called
    exact permitted.2.2.2
  case onDeadline_once =>
    refine nodup_of_obeys onDeadlineOf (fun i => keyOf i.batch) ?_ obeys
    rintro pre q info permitted called
    cases q <;> cases called
    exact permitted.2.2.2
  case one_poll => exact h.one_poll
  case unscheduled =>
    rintro (rfl | stopped)
    · exact h.never_polls.2.1
    · exact h.unscheduled stopped
  case silent =>
    rintro pre e rest split (rfl | stopped)
    · obtain ⟨x, rfl⟩ := h.never_polls.2.2 e (by simp [split])
      exact ⟨by simp, by simp⟩
    · have permitted := obeys pre e rest split
      refine ⟨?_, ?_⟩
      · rintro rfl
        exact permitted stopped
      · rintro q rfl
        cases q with
        | onBatch b => exact absurd stopped permitted.1
        | onInvalid info => exact absurd stopped permitted.1
        | onDeadline info => exact absurd stopped permitted.1
        | onError e => exact absurd stopped permitted
        | _ => rfl
  case validate => exact fun pre b rest split => obeys pre _ rest split
  case onInvalid =>
    intro pre info rest split
    exact ⟨(obeys pre _ rest split).2.1, (obeys pre _ rest split).2.2.1⟩
  case onDeadline =>
    intro pre info rest split
    exact ⟨(obeys pre _ rest split).2.1, (obeys pre _ rest split).2.2.1⟩

theorem callback_discipline_stop :
    Disciplined {} false { start {} "rollup" false with
      state := interrupt .stop (start {} "rollup" false).state
      trace := (start {} "rollup" false).trace ++ [.acted .stop] } := by
  apply callback_discipline
  exact Reachable.step Reachable.start (Step.act Interrupt.stop)

end QorechainRdk.Watchtower
