import QorechainRdk.Monitor.Watch

/-!
# What a watch does

Every interleaving of polls, answers and stops, from the call of `watchRollup` on: the trace so far
determines what is asked next, and from this follows what the callbacks are told.
-/

namespace QorechainRdk.Monitor

open Async Health

variable {options : WatchOptions} {rollupId : String} {aborted : Bool} {s s' : WatchState} {tr : Trace}
  {q : Query} {xs : List Interrupt} {r : Except JsError (Reply q)} {γ : Type}

/-! ### Reading a trace -/

def isInterrupt : Event → Bool
  | .acted _ => true
  | _ => false

def stoppedIn (tr : Trace) : Bool := tr.any isInterrupt

@[simp] theorem stoppedIn_concat (tr : Trace) (e : Event) :
    stoppedIn (tr ++ [e]) = (stoppedIn tr || isInterrupt e) := by
  simp [stoppedIn]

@[simp] theorem stoppedIn_waiting : stoppedIn (waiting tr q xs) = (stoppedIn tr || !xs.isEmpty) := by
  cases xs with
  | nil => simp [stoppedIn, waiting, isInterrupt]
  | cons x xs => simp [stoppedIn, waiting, isInterrupt]

def queryOf : Event → Option Query
  | .asked q => some q
  | _ => none

/-- What an event calls for. -/
def next (options : WatchOptions) (rollupId : String) (stopped : Bool) : Event → Option Query
  | .started => some (if options.nowSecs then .nowSecs else .getRollupHealth rollupId {})
  | .answered .nowSecs (.ok nowSecs) => some (.getRollupHealth rollupId { nowSecs := some nowSecs })
  | .answered (.getRollupHealth _ _) (.ok health) => if stopped then none else some (.onUpdate health)
  | .answered (.onUpdate _) (.ok _) => none
  | .answered (.onError _) _ => none
  | .answered _ (.error e) => if stopped then none else some (.onError e)
  | .asked _ | .acted _ => none

/-- What the trace calls for. -/
def due (options : WatchOptions) (rollupId : String) (tr : Trace) : Option Query :=
  tr.getLast?.bind (next options rollupId (stoppedIn tr))

@[simp] theorem due_concat (tr : Trace) (e : Event) :
    due options rollupId (tr ++ [e]) = next options rollupId (stoppedIn tr || isInterrupt e) e := by
  simp [due]

theorem due_waiting : due options rollupId (waiting tr q xs) = none := by
  induction xs using List.reverseRecOn with
  | nil =>
    change due options rollupId (tr ++ [.asked q]) = none
    rw [due_concat]
    rfl
  | append_singleton xs x ih =>
    have split : waiting tr q (xs ++ [x]) = waiting tr q xs ++ [.acted x] := by simp [waiting]
    rw [split, due_concat]
    rfl

/-- What is called for is asked next and nothing else ever is, and no poll starts after a stop. -/
def Permitted (options : WatchOptions) (rollupId : String) (pre : Trace) (e : Event) : Prop :=
  queryOf e = due options rollupId pre ∧ (e = .started → stoppedIn pre = false)

theorem obeys_waiting (obeys : Obeys (Permitted options rollupId) tr)
    (called : due options rollupId tr = some q) : Obeys (Permitted options rollupId) (waiting tr q xs) := by
  induction xs using List.reverseRecOn with
  | nil =>
    refine obeys_concat.mpr ⟨obeys, ?_, ?_⟩
    · exact called.symm
    · intro started
      cases started
  | append_singleton xs x ih =>
    have split : waiting tr q (xs ++ [x]) = waiting tr q xs ++ [.acted x] := by simp [waiting]
    rw [split]
    refine obeys_concat.mpr ⟨ih, ?_, ?_⟩
    · exact due_waiting.symm
    · intro started
      cases started

/-! ### One poll -/

/-- The state is the one that the trace tells, and no timer is armed. -/
structure Inv (options : WatchOptions) (rollupId : String) (s : WatchState) (tr : Trace) : Prop where
  stopped : s.stopped = stoppedIn tr
  obeys : Obeys (Permitted options rollupId) tr
  unarmed : s.pending = []

theorem acts_interrupt (xs : List Interrupt) (s : WatchState) (unarmed : s.pending = []) :
    acts interrupt xs s = { s with stopped := s.stopped || !xs.isEmpty } := by
  induction xs generalizing s with
  | nil => simp [acts]
  | cons x xs ih =>
    change acts interrupt xs (interrupt x s) = _
    rw [ih _ (by simp [interrupt, unarmed])]
    simp [interrupt, unarmed]

theorem Inv.query (h : Inv options rollupId s tr) (called : due options rollupId tr = some q)
    (xs : List Interrupt) (r : Except JsError (Reply q)) :
    Inv options rollupId (acts interrupt xs s) (waiting tr q xs ++ [.answered q r]) := by
  rw [acts_interrupt xs s h.unarmed]
  constructor
  · simp [h.stopped, isInterrupt]
  · refine obeys_concat.mpr ⟨obeys_waiting h.obeys called, ?_, ?_⟩
    · exact due_waiting.symm
    · intro started
      cases started
  · exact h.unarmed

/-- Every query of a poll is called for and finds no timer armed. -/
def guard (options : WatchOptions) (rollupId : String) (tr : Trace) (q : Query) (s : WatchState) : Prop :=
  Inv options rollupId s tr ∧ due options rollupId tr = some q

/-- `onError` has thrown. -/
def Died (tr : Trace) : Prop := ∃ e e', Async.Event.answered (.onError e) (.error e') ∈ tr

/-- Between the polls a timer is armed, unless the watch was stopped or `onError` has thrown. -/
def Timers (s : WatchState) (tr : Trace) : Prop :=
  (s.pending = [] ∧ (s.stopped = true ∨ Died tr)) ∨
    (s.stopped = false ∧ ∃ id, s.timer = some id ∧ s.pending = [id])

structure Idle (options : WatchOptions) (rollupId : String) (s : WatchState) (tr : Trace) : Prop where
  stopped : s.stopped = stoppedIn tr
  obeys : Obeys (Permitted options rollupId) tr
  quiet : due options rollupId tr = none
  timers : Timers s tr

theorem Inv.idle (h : Inv options rollupId s tr) (quiet : due options rollupId tr = none)
    (ended : s.stopped = true ∨ Died tr) : Idle options rollupId s tr :=
  ⟨h.stopped, h.obeys, quiet, Or.inl ⟨h.unarmed, ended⟩⟩

theorem Inv.scheduled (h : Inv options rollupId s tr) (quiet : due options rollupId tr = none) :
    Idle options rollupId (if s.stopped then s else schedule s) tr := by
  split
  · rename_i stopped
    exact h.idle quiet (Or.inl stopped)
  · rename_i running
    refine ⟨h.stopped, h.obeys, quiet, Or.inr ⟨by simpa [schedule] using running, s.nextTimer, rfl, ?_⟩⟩
    simp [schedule, h.unarmed]

section
variable {rely : Trace → (q : Query) → Except JsError (Reply q) → Prop}

theorem healthOptions_spec (h : Inv options rollupId s tr)
    (started : due options rollupId tr = some (if options.nowSecs then .nowSecs else .getRollupHealth rollupId {})) :
    wp interrupt rely (guard options rollupId) (healthOptions options)
      (fun given s tr => Inv options rollupId s tr ∧
        due options rollupId tr = some (.getRollupHealth rollupId given))
      (fun e s tr => Inv options rollupId s tr ∧
        due options rollupId tr = if s.stopped then none else some (.onError e)) s tr := by
  unfold healthOptions
  split
  · rename_i clock
    rw [if_pos clock] at started
    simp only [ask, wp_bind, wp_call, wp_pure]
    refine ⟨⟨h, started⟩, fun xs => ⟨fun n _ => ⟨h.query started xs (.ok n), ?_⟩, fun e _ => ?_⟩⟩
    · rw [due_concat]
      rfl
    · have inv := h.query started xs (.error e)
      refine ⟨inv, ?_⟩
      rw [inv.stopped, due_concat, stoppedIn_concat]
      rfl
  · rename_i clock
    rw [if_neg clock] at started
    rw [wp_pure]
    exact ⟨h, started⟩

theorem poll_spec (h : Inv options rollupId s tr)
    (started : due options rollupId tr = some (if options.nowSecs then .nowSecs else .getRollupHealth rollupId {})) :
    wp interrupt rely (guard options rollupId) (poll options rollupId)
      (fun _ s tr => Inv options rollupId s tr ∧ due options rollupId tr = none)
      (fun e s tr => Inv options rollupId s tr ∧
        due options rollupId tr = if s.stopped then none else some (.onError e)) s tr := by
  unfold poll
  rw [wp_bind]
  refine wp_mono ?_ (fun _ _ _ => id) (healthOptions_spec h started)
  rintro given s tr ⟨h, called⟩
  simp only [ask, wp_bind, wp_call, wp_get]
  refine ⟨⟨h, called⟩, fun xs => ⟨fun health _ => ?_, fun e _ => ?_⟩⟩
  · have inv := h.query called xs (.ok health)
    have told : due options rollupId (waiting tr (.getRollupHealth rollupId given) xs ++
        [.answered (.getRollupHealth rollupId given) (.ok health)]) =
        if (acts interrupt xs s).stopped then none else some (.onUpdate health) := by
      rw [inv.stopped, due_concat, stoppedIn_concat]
      rfl
    rw [wp_ite]
    split
    · rename_i stopped
      rw [if_pos stopped] at told
      exact ⟨inv, told⟩
    · rename_i running
      rw [if_neg running] at told
      rw [wp_call]
      refine ⟨⟨inv, told⟩, fun ys => ⟨fun _ _ => ⟨inv.query told ys (.ok ()), ?_⟩, fun e _ => ?_⟩⟩
      · rw [due_concat]
        rfl
      · have after := inv.query told ys (.error e)
        refine ⟨after, ?_⟩
        rw [after.stopped, due_concat, stoppedIn_concat]
        rfl
  · have inv := h.query called xs (.error e)
    refine ⟨inv, ?_⟩
    rw [inv.stopped, due_concat, stoppedIn_concat]
    rfl

theorem tick_spec (h : Inv options rollupId s tr) (running : s.stopped = false)
    (started : due options rollupId tr = some (if options.nowSecs then .nowSecs else .getRollupHealth rollupId {})) :
    (tick options rollupId s).safe interrupt rely (guard options rollupId)
      (fun _ s tr => Idle options rollupId s tr) tr := by
  have both : wp interrupt rely (guard options rollupId) (tick options rollupId)
      (fun _ s tr => Idle options rollupId s tr) (fun _ s tr => Idle options rollupId s tr) s tr := by
    unfold tick
    rw [wp_bind, wp_get, wp_ite, if_neg (by simp [running]), wp_bind, wp_tryCatch]
    refine wp_mono ?_ ?_ (poll_spec h started)
    · rintro ⟨⟩ s tr ⟨h, quiet⟩
      rw [wp_modify]
      exact h.scheduled quiet
    · rintro e s tr ⟨h, told⟩
      rw [wp_bind, wp_get, wp_ite]
      split
      · rename_i stopped
        rw [if_pos stopped] at told
        rw [wp_pure, wp_modify]
        exact h.scheduled told
      · rename_i active
        rw [if_neg active] at told
        unfold ask
        rw [wp_call]
        refine ⟨⟨h, told⟩, fun xs => ⟨fun _ _ => ?_, fun e' _ => ?_⟩⟩
        · rw [wp_modify]
          refine (h.query told xs (.ok ())).scheduled ?_
          rw [due_concat]
          rfl
        · refine (h.query told xs (.error e')).idle ?_ (Or.inr ⟨e, e', by simp⟩)
          rw [due_concat]
          rfl
  refine Tree.safe_mono ?_ both
  intro r s tr idle
  cases r with
  | ok _ => exact idle
  | error _ => exact idle

end

/-! ### Every interleaving -/

theorem idle_interrupt (x : Interrupt) (h : Idle options rollupId s tr) :
    Idle options rollupId (interrupt x s) (tr ++ [.acted x]) := by
  refine ⟨by simp [interrupt, isInterrupt], obeys_concat.mpr ⟨h.obeys, h.quiet.symm, ?_⟩, ?_, Or.inl ⟨?_, Or.inl rfl⟩⟩
  · intro started
    cases started
  · rw [due_concat]
    rfl
  · rcases h.timers with ⟨unarmed, -⟩ | ⟨-, id, timer, only⟩
    · simp [interrupt, unarmed]
    · simp [interrupt, timer, only]

theorem inv_started (stopped : s.stopped = stoppedIn tr) (running : s.stopped = false)
    (obeys : Obeys (Permitted options rollupId) tr) (quiet : due options rollupId tr = none)
    (unarmed : s.pending = []) : Inv options rollupId s (tr ++ [.started]) := by
  refine ⟨by simp [stopped, isInterrupt], obeys_concat.mpr ⟨obeys, quiet.symm, fun _ => ?_⟩, unarmed⟩
  rw [← stopped, running]

/-- A timer that runs out leaves none armed, and starts a poll of a watch that was not stopped. -/
theorem idle_fires (h : Idle options rollupId s tr) (fired : Fires s s') :
    Inv options rollupId s' (tr ++ [.started]) ∧ s'.stopped = false := by
  cases fired with
  | timer id held =>
    rcases h.timers with ⟨unarmed, -⟩ | ⟨running, id', -, only⟩
    · rw [unarmed] at held
      cases held
    · rw [only] at held
      obtain rfl := List.mem_singleton.mp held
      exact ⟨inv_started h.stopped running h.obeys h.quiet (by simp [only]), running⟩

theorem due_started : due options rollupId (tr ++ [.started]) =
    some (if options.nowSecs then .nowSecs else .getRollupHealth rollupId {}) := due_concat tr _

/-- One poll at a time: whatever has happened, the watch is idle or waits in a single poll. -/
theorem Reachable.single {c : Config} (h : Reachable options rollupId false c) :
    Single interrupt anyAnswer (guard options rollupId) (Idle options rollupId) c := by
  induction h with
  | start =>
    have initially : Inv options rollupId {} [.started] := inv_started rfl rfl obeys_nil rfl rfl
    exact single_settle (tick_spec initially rfl rfl)
  | step before next ih =>
    refine single_step (fun s => s.pending = []) ?_ ?_ ?_ ?_ ?_ ih next
    · exact fun x s tr idle => idle_interrupt x idle
    · intro s s' tr idle fired
      obtain ⟨inv, running⟩ := idle_fires idle fired
      exact tick_spec inv running due_started
    · exact fun tr q s guarded => guarded.1.unarmed
    · intro x s unarmed
      simp [interrupt, unarmed]
    · intro s s' unarmed fired
      cases fired with
      | timer id held =>
        rw [unarmed] at held
        cases held

/-- With a signal that had fired before, there is nothing but later calls of `stop()`. -/
theorem Reachable.never_polls {c : Config} (h : Reachable options rollupId true c) :
    c.running = [] ∧ c.state.pending = [] ∧ ∀ e ∈ c.trace, ∃ x, e = .acted x := by
  induction h with
  | start => exact ⟨rfl, rfl, fun e member => absurd member List.not_mem_nil⟩
  | step before next ih =>
    obtain ⟨alone, unarmed, acted⟩ := ih
    cases next with
    | act x =>
      refine ⟨alone, by simp [interrupt, unarmed], ?_⟩
      intro e member
      rcases List.mem_append.mp member with old | new
      · exact acted e old
      · exact ⟨x, List.mem_singleton.mp new⟩
    | fire fired =>
      cases fired with
      | timer id held =>
        rw [unarmed] at held
        cases held
    | answer first rest r relied => simp at alone

theorem Reachable.obeys {c : Config} (h : Reachable options rollupId false c) :
    Obeys (Permitted options rollupId) c.trace ∧ due options rollupId c.trace = none := by
  rcases h.single with ⟨-, idle⟩ | ⟨q, k, s, tr, xs, -, -, trace, safe⟩
  · exact ⟨idle.obeys, idle.quiet⟩
  · rw [trace]
    exact ⟨obeys_waiting safe.1.1.obeys safe.1.2, due_waiting⟩

/-! ### What the callbacks are told -/

def asks (p : Query → Option γ) (tr : Trace) : List γ := tr.filterMap fun e => (queryOf e).bind p

/-- What the events before the first stop say. -/
def beforeStop (source : Event → Option γ) (tr : Trace) : List γ :=
  (tr.takeWhile fun e => !isInterrupt e).filterMap source

theorem beforeStop_concat (source : Event → Option γ) (tr : Trace) (e : Event) :
    beforeStop source (tr ++ [e]) =
      beforeStop source tr ++ if stoppedIn tr || isInterrupt e then [] else (source e).toList := by
  unfold beforeStop
  induction tr with
  | nil =>
    cases kind : isInterrupt e with
    | true => simp [kind, stoppedIn]
    | false => cases said : source e <;> simp [kind, said, stoppedIn]
  | cons a tr ih =>
    cases kind : isInterrupt a with
    | true => simp [kind, stoppedIn]
    | false =>
      rw [List.cons_append, List.takeWhile_cons_of_pos (by simp [kind]), List.takeWhile_cons_of_pos (by simp [kind])]
      have rest : stoppedIn (a :: tr) = stoppedIn tr := by simp [stoppedIn, kind]
      rw [rest]
      cases said : source a with
      | none => rw [List.filterMap_cons_none said, List.filterMap_cons_none said, ih]
      | some b => rw [List.filterMap_cons_some said, List.filterMap_cons_some said, ih, List.cons_append]

/-- A callback that is called for by each event that says something, until the stop, has been told all
of it, save what is called for at the end. -/
theorem asks_due (p : Query → Option γ) (source : Event → Option γ)
    (calls : ∀ stopped e, (next options rollupId stopped e).bind p = if stopped then none else source e)
    (obeys : Obeys (Permitted options rollupId) tr) :
    asks p tr ++ ((due options rollupId tr).bind p).toList = beforeStop source tr := by
  induction tr using List.reverseRecOn with
  | nil => rfl
  | append_singleton tr e ih =>
    obtain ⟨before, called, -⟩ := obeys_concat.mp obeys
    rw [beforeStop_concat, ← ih before, ← called, due_concat, calls]
    have said : asks p (tr ++ [e]) = asks p tr ++ ((queryOf e).bind p).toList := by
      cases h : (queryOf e).bind p <;> simp [asks, h]
    rw [said]
    split <;> rfl

def onUpdateOf : Query → Option RollupHealth
  | .onUpdate health => some health
  | _ => none

def onErrorOf : Query → Option JsError
  | .onError e => some e
  | _ => none

def snapshotIn : Event → Option RollupHealth
  | .answered (.getRollupHealth _ _) (.ok health) => some health
  | _ => none

/-- A clock, a read or `onUpdate` has failed. -/
def failureIn : Event → Option JsError
  | .answered (.onError _) _ => none
  | .answered _ (.error e) => some e
  | _ => none

theorem next_onUpdate (stopped : Bool) (e : Event) :
    (next options rollupId stopped e).bind onUpdateOf = if stopped then none else snapshotIn e := by
  cases e with
  | started => cases clock : options.nowSecs <;> cases stopped <;> simp [next, clock, onUpdateOf, snapshotIn]
  | asked q => cases stopped <;> rfl
  | acted x => cases stopped <;> rfl
  | answered q r => cases q <;> cases r <;> cases stopped <;> rfl

theorem next_onError (stopped : Bool) (e : Event) :
    (next options rollupId stopped e).bind onErrorOf = if stopped then none else failureIn e := by
  cases e with
  | started => cases clock : options.nowSecs <;> cases stopped <;> simp [next, clock, onErrorOf, failureIn]
  | asked q => cases stopped <;> rfl
  | acted x => cases stopped <;> rfl
  | answered q r => cases q <;> cases r <;> cases stopped <;> rfl

theorem due_stopped (p : Query → Option γ) (source : Event → Option γ)
    (calls : ∀ stopped e, (next options rollupId stopped e).bind p = if stopped then none else source e)
    (stopped : stoppedIn tr = true) : (due options rollupId tr).bind p = none := by
  unfold due
  rw [stopped]
  cases tr.getLast? with
  | none => rfl
  | some e => exact calls true e

/-- Each snapshot read before the stop is handed over once, and so is each error; nothing is told after
it, one poll runs at a time, and the polls go on until the stop. -/
structure Disciplined (aborted : Bool) (c : Config) : Prop where
  one_poll : c.running.length + c.state.pending.length ≤ 1
  updates : asks onUpdateOf c.trace = beforeStop snapshotIn c.trace
  errors : asks onErrorOf c.trace = beforeStop failureIn c.trace
  silent : ∀ pre e rest, c.trace = pre ++ e :: rest → aborted = true ∨ stoppedIn pre = true →
    e ≠ .started ∧ ∀ q, e = .asked q → onUpdateOf q = none ∧ onErrorOf q = none
  unscheduled : aborted = true ∨ stoppedIn c.trace = true → c.state.pending = []
  alive : aborted = false → stoppedIn c.trace = false →
    Died c.trace ∨ c.running.length + c.state.pending.length = 1

theorem Reachable.alone {c : Config} (h : Reachable options rollupId false c) :
    (c.running = [] ∧ c.state.stopped = stoppedIn c.trace ∧ Timers c.state c.trace) ∨
      (c.running.length = 1 ∧ c.state.pending = []) := by
  rcases h.single with ⟨alone, idle⟩ | ⟨q, k, s, tr, xs, running, state, -, safe⟩
  · exact Or.inl ⟨alone, idle.stopped, idle.timers⟩
  · refine Or.inr ⟨by rw [running]; rfl, ?_⟩
    rw [state, acts_interrupt xs s safe.1.1.unarmed]
    exact safe.1.1.unarmed

theorem disciplined_of_acted {c : Config} (alone : c.running = []) (unarmed : c.state.pending = [])
    (acted : ∀ e ∈ c.trace, ∃ x, e = .acted x) : Disciplined true c := by
  have said : ∀ {γ : Type} (f : Event → Option γ), (∀ x, f (.acted x) = none) →
      ∀ tr : Trace, tr ⊆ c.trace → tr.filterMap f = [] := by
    intro γ f quiet tr inside
    rw [List.filterMap_eq_nil_iff]
    intro e member
    obtain ⟨x, rfl⟩ := acted e (inside member)
    exact quiet x
  constructor
  case one_poll => simp [alone, unarmed]
  case updates =>
    exact (said _ (fun _ => rfl) _ (List.Subset.refl _)).trans
      (said _ (fun _ => rfl) _ (List.takeWhile_subset _)).symm
  case errors =>
    exact (said _ (fun _ => rfl) _ (List.Subset.refl _)).trans
      (said _ (fun _ => rfl) _ (List.takeWhile_subset _)).symm
  case silent =>
    rintro pre e rest split -
    obtain ⟨x, rfl⟩ := acted e (by simp [split])
    exact ⟨by simp, by simp⟩
  case unscheduled => exact fun _ => unarmed
  case alive => simp

theorem watchRollup_disciplined {c : Config} (h : Reachable options rollupId aborted c) :
    Disciplined aborted c := by
  cases aborted with
  | true =>
    obtain ⟨alone, unarmed, acted⟩ := h.never_polls
    exact disciplined_of_acted alone unarmed acted
  | false =>
    obtain ⟨obeys, quiet⟩ := h.obeys
    constructor
    case one_poll =>
      rcases h.alone with ⟨alone, -, ⟨unarmed, -⟩ | ⟨-, id, -, only⟩⟩ | ⟨one, unarmed⟩
      · simp [alone, unarmed]
      · simp [alone, only]
      · simp [one, unarmed]
    case updates =>
      have told := asks_due onUpdateOf snapshotIn next_onUpdate obeys
      rwa [quiet, Option.bind_none, Option.toList_none, List.append_nil] at told
    case errors =>
      have told := asks_due onErrorOf failureIn next_onError obeys
      rwa [quiet, Option.bind_none, Option.toList_none, List.append_nil] at told
    case silent =>
      rintro pre e rest split (never | stopped)
      · cases never
      · obtain ⟨called, started⟩ := obeys pre e rest split
        refine ⟨fun start => ?_, ?_⟩
        · rw [started start] at stopped
          cases stopped
        · rintro q rfl
          have update : (due options rollupId pre).bind onUpdateOf = none :=
            due_stopped onUpdateOf snapshotIn next_onUpdate stopped
          have error : (due options rollupId pre).bind onErrorOf = none :=
            due_stopped onErrorOf failureIn next_onError stopped
          rw [← called] at update error
          exact ⟨update, error⟩
    case unscheduled =>
      rintro (never | stopped)
      · cases never
      · rcases h.alone with ⟨-, same, ⟨unarmed, -⟩ | ⟨running, -⟩⟩ | ⟨-, unarmed⟩
        · exact unarmed
        · rw [← same, running] at stopped
          cases stopped
        · exact unarmed
    case alive =>
      intro _ running
      rcases h.alone with ⟨alone, same, ⟨unarmed, ended⟩ | ⟨-, id, -, only⟩⟩ | ⟨one, unarmed⟩
      · rcases ended with stopped | died
        · rw [same, running] at stopped
          cases stopped
        · exact Or.inl died
      · exact Or.inr (by simp [alone, only])
      · exact Or.inr (by simp [one, unarmed])

/-- A watch that is stopped while its first snapshot is read. -/
theorem watchRollup_disciplined_stop :
    Disciplined false { watchRollup {} "rollup" false with
      state := interrupt .stop (watchRollup {} "rollup" false).state
      trace := (watchRollup {} "rollup" false).trace ++ [.acted .stop] } := by
  apply watchRollup_disciplined
  exact Reachable.step Reachable.start (Step.act Interrupt.stop)

end QorechainRdk.Monitor
