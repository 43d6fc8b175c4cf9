import QorechainRdk.Watchtower.Trace

/-!
# The invariant

What the state and the trace have in common between the queries of a poll, whatever the answers are
and wherever a stop lands.
-/

namespace QorechainRdk.Watchtower

open Async

variable {options : WatchtowerOptions} {s : WatchState} {tr : Trace} {q : Query}
  {xs : List Interrupt} {r : Except JsError (Reply q)}

/-! ### Interrupts -/

theorem acts_interrupt (xs : List Interrupt) (s : WatchState) (idle : s.pending = []) :
    acts interrupt xs s = { s with stopped := s.stopped || !xs.isEmpty } := by
  induction xs generalizing s with
  | nil => simp [acts]
  | cons x xs ih =>
    change acts interrupt xs (interrupt x s) = _
    rw [ih _ (by simp [interrupt, idle])]
    simp [interrupt, idle]

/-- The state while `q` is open: its callback's key has just been remembered. -/
def remember (q : Query) (s : WatchState) : WatchState :=
  { s with
    seen := s.seen ++ (onBatchOf q).toList.map keyOf
    warned := s.warned ++ (onDeadlineOf q).toList.map fun i => keyOf i.batch }

theorem add_fresh {keys : List String} {key : String} (fresh : key ∉ keys) :
    add keys key = keys ++ [key] := if_neg fresh

/-! ### State and trace -/

/-- What became of a live batch: a callback or the predicate threw, or there is a verdict, and a
bad one was reported unless the watch was stopped. -/
def Judged (tr : Trace) (b : BatchView) : Prop :=
  (∃ e, Async.Event.answered (.onBatch b) (.error e) ∈ tr) ∨
    b ∈ validateCalls tr ∧
      ((∃ e, Async.Event.answered (.validate b) (.error e) ∈ tr) ∨
        ∃ v : Bool, Async.Event.answered (.validate b) (.ok v) ∈ tr ∧
          (v = false → (∃ info ∈ onInvalidCalls tr, info.batch = b) ∨ StoppedIn tr))

theorem Judged.mono {tr tr' : Trace} {b : BatchView} (h : Judged tr b) (longer : tr <+: tr') :
    Judged tr' b := by
  obtain ⟨more, rfl⟩ := longer
  have keep : ∀ {e : Event}, e ∈ tr → e ∈ tr ++ more := fun member => List.mem_append_left _ member
  rcases h with ⟨e, threw⟩ | ⟨called, ⟨e, threw⟩ | ⟨v, verdict, told⟩⟩
  · exact Or.inl ⟨e, keep threw⟩
  · exact Or.inr ⟨by simp [asks_append, called], Or.inl ⟨e, keep threw⟩⟩
  · refine Or.inr ⟨by simp [asks_append, called], Or.inr ⟨v, keep verdict, fun bad => ?_⟩⟩
    rcases told bad with ⟨info, member, same⟩ | ⟨x, stop⟩
    · exact Or.inl ⟨info, by simp [asks_append, member], same⟩
    · exact Or.inr ⟨x, keep stop⟩

/-- The state is the one that the trace tells; only the batches in `opened` are still being judged. -/
structure Inv (options : WatchtowerOptions) (opened : List BatchView) (s : WatchState) (tr : Trace) :
    Prop where
  stopped : s.stopped = true ↔ StoppedIn tr
  seen : s.seen = (onBatchCalls tr).map keyOf
  warned : s.warned = (onDeadlineCalls tr).map fun i => keyOf i.batch
  invalid : ∀ i ∈ onInvalidCalls tr, keyOf i.batch ∈ s.seen ∧ ∀ b ∈ opened, keyOf b ≠ keyOf i.batch
  window : s.windowSecs = windowRead options tr
  obeys : Obeys (Permitted options) tr
  judged : options.validate = true → ∀ b ∈ onBatchCalls tr, live b = true → b ∈ opened ∨ Judged tr b

theorem Inv.remembers {opened opened' : List BatchView} {s' : WatchState} {tr' : Trace}
    (h : Inv options opened s tr) (h' : Inv options opened' s' tr') (longer : tr <+: tr') :
    s.seen ⊆ s'.seen := by
  obtain ⟨more, rfl⟩ := longer
  have calls : onBatchCalls (tr ++ more) = onBatchCalls tr ++ onBatchCalls more := asks_append _ _ _
  rw [h.seen, h'.seen, calls, List.map_append]
  exact List.subset_append_left _ _

/-- Every query of a poll is permitted and finds no timer armed. -/
def guard (options : WatchtowerOptions) (tr : Trace) (q : Query) (s : WatchState) : Prop :=
  Obeys (Permitted options) tr ∧ Permitted options tr (.asked q) ∧ s.pending = []

theorem prefix_answered : tr <+: waiting tr q xs ++ [.answered q r] := by
  rw [waiting, List.append_assoc]
  exact List.prefix_append _ _

theorem Inv.query {opened : List BatchView} (h : Inv options opened s tr) (q : Query)
    (xs : List Interrupt) (r : Except JsError (Reply q)) (opened' : List BatchView) (idle : s.pending = [])
    (permitted : Permitted options tr (.asked q))
    (invalid : ∀ i, i ∈ onInvalidCalls tr ∨ onInvalidOf q = some i →
      (keyOf i.batch ∈ s.seen ∨ ∃ b, onBatchOf q = some b ∧ keyOf b = keyOf i.batch) ∧
        ∀ b ∈ opened', keyOf b ≠ keyOf i.batch)
    (judged : options.validate = true → ∀ b, b ∈ opened ∨ onBatchOf q = some b → live b = true →
      b ∈ opened' ∨ Judged (waiting tr q xs ++ [.answered q r]) b) :
    Inv options opened'
      { acts interrupt xs (remember q s) with windowSecs := windowStep s.windowSecs (.answered q r) }
      (waiting tr q xs ++ [.answered q r]) := by
  rw [acts_interrupt xs (remember q s) idle]
  constructor
  case stopped =>
    have := h.stopped
    cases xs <;> simp [remember, this]
  case seen => simp [remember, h.seen]
  case warned => simp [remember, h.warned]
  case invalid =>
    intro i member
    simp only [asks_answered, asks_waiting, List.mem_append, Option.mem_toList] at member
    obtain ⟨known, apart⟩ := invalid i member
    refine ⟨?_, apart⟩
    rcases known with known | ⟨b, called, same⟩
    · simp [remember, known]
    · simp [remember, called, same]
  case window => rw [windowRead_answered, ← h.window]
  case obeys => exact obeys_concat.mpr ⟨obeys_waiting h.obeys permitted, trivial⟩
  case judged =>
    intro supplied b member isLive
    simp only [asks_answered, asks_waiting, List.mem_append, Option.mem_toList] at member
    rcases member with before | now
    · rcases h.judged supplied b before isLive with still | done
      · exact judged supplied b (Or.inl still) isLive
      · exact Or.inr (done.mono prefix_answered)
    · exact judged supplied b (Or.inr now) isLive

end QorechainRdk.Watchtower
