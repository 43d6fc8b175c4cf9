import QorechainRdk.Watchtower.Invariant

/-!
# The loop over the batches

What a poll has done with every batch that it came to.
-/

namespace QorechainRdk.Watchtower

open Async

variable {options : WatchtowerOptions} {s : WatchState} {tr : Trace} {q : Query}
  {xs : List Interrupt} {r : Except JsError (Reply q)}

/-- The queries of the loop body, which read nothing that the loop depends on. -/
def quiet : Query → Bool
  | .validate _ | .onBatch _ | .onInvalid _ | .onDeadline _ => true
  | _ => false

theorem quiet_steps (h : quiet q = true) (L : List BatchView) (tip : Option ChainTip)
    (secs : Option Int) : listingStep L (.answered q r) = L ∧ tipStep tip (.answered q r) = tip ∧
      windowStep secs (.answered q r) = secs ∧ listedIn (.answered q r) = [] := by
  cases q <;> first | exact ⟨rfl, rfl, rfl, rfl⟩ | cases h

def nextAfter (start : Int) (visited : List BatchView) : Int :=
  visited.foldl (fun n b => if n ≤ b.batchIndex then b.batchIndex + 1 else n) start

def stillOpen (secs : Option Int) (tip : Option ChainTip) (b : BatchView) : Bool :=
  live b && windowOpen (deadlineFor secs b tip)

def oldestStep (secs : Option Int) (tip : Option ChainTip) (oldestOpen : Option Int) (b : BatchView) :
    Option Int :=
  if stillOpen secs tip b then
    some (match oldestOpen with
      | none => b.batchIndex
      | some oldest => if b.batchIndex < oldest then b.batchIndex else oldest)
  else oldestOpen

def oldestAfter (secs : Option Int) (tip : Option ChainTip) (visited : List BatchView) : Option Int :=
  visited.foldl (oldestStep secs tip) none

/-- Since `s₀` and `tr₀` the batches in `visited` have been come to, all of the listing `L`. -/
structure Visiting (options : WatchtowerOptions) (L : List BatchView) (tip : Option ChainTip)
    (s₀ : WatchState) (tr₀ : Trace) (visited opened : List BatchView) (s : WatchState) (tr : Trace) :
    Prop extends Inv options opened s tr where
  pending : s.pending = []
  listing : pollListing tr = L
  tip : pollTip tr = tip
  secs : s.windowSecs = s₀.windowSecs
  pollFrom : s.pollFrom = s₀.pollFrom
  next : s.nextStart = nextAfter s₀.nextStart visited
  within : visited ⊆ L
  heard : listed tr = listed tr₀
  calls : ∀ b ∈ onBatchCalls tr, b ∈ onBatchCalls tr₀ ∨ b ∈ visited
  alerts : ∀ i ∈ onDeadlineCalls tr, i ∈ onDeadlineCalls tr₀ ∨ i.batch ∈ visited
  longer : tr₀ <+: tr

structure Grows (s s' : WatchState) : Prop where
  seen : s.seen ⊆ s'.seen
  warned : s.warned ⊆ s'.warned
  stopped : s.stopped = true → s'.stopped = true

theorem Grows.refl (s : WatchState) : Grows s s := ⟨fun _ h => h, fun _ h => h, fun h => h⟩

theorem Grows.trans {s s' s'' : WatchState} (h : Grows s s') (h' : Grows s' s'') : Grows s s'' :=
  ⟨fun _ k => h'.seen (h.seen k), fun _ k => h'.warned (h.warned k), fun k => h'.stopped (h.stopped k)⟩

theorem grows_query (q : Query) (xs : List Interrupt) (idle : s.pending = []) :
    Grows s (acts interrupt xs (remember q s)) := by
  rw [acts_interrupt xs (remember q s) idle]
  exact ⟨List.subset_append_left _ _, List.subset_append_left _ _, fun h => by simp [remember, h]⟩

section
variable {L : List BatchView} {tip : Option ChainTip} {s₀ : WatchState} {tr₀ : Trace}
  {visited opened opened' : List BatchView}

theorem Visiting.query (h : Visiting options L tip s₀ tr₀ visited opened s tr) (q : Query)
    (xs : List Interrupt) (r : Except JsError (Reply q)) (isQuiet : quiet q = true)
    (permitted : Permitted options tr (.asked q))
    (called : ∀ b, onBatchOf q = some b → b ∈ visited)
    (alerted : ∀ i, onDeadlineOf q = some i → i.batch ∈ visited)
    (invalid : ∀ i, i ∈ onInvalidCalls tr ∨ onInvalidOf q = some i →
      (keyOf i.batch ∈ s.seen ∨ ∃ b, onBatchOf q = some b ∧ keyOf b = keyOf i.batch) ∧
        ∀ b ∈ opened', keyOf b ≠ keyOf i.batch)
    (judged : options.validate = true → ∀ b, b ∈ opened ∨ onBatchOf q = some b → live b = true →
      b ∈ opened' ∨ Judged (waiting tr q xs ++ [.answered q r]) b) :
    Visiting options L tip s₀ tr₀ visited opened' (acts interrupt xs (remember q s))
      (waiting tr q xs ++ [.answered q r]) := by
  have inv := h.toInv.query q xs r opened' h.pending permitted invalid judged
  have state := acts_interrupt xs (remember q s) h.pending
  obtain ⟨listing, tip, window, silent⟩ :=
    quiet_steps (r := r) isQuiet (pollListing tr) (pollTip tr) s.windowSecs
  have same : { acts interrupt xs (remember q s) with
      windowSecs := windowStep s.windowSecs (.answered q r) } = acts interrupt xs (remember q s) := by
    rw [window, state]
    rfl
  rw [same] at inv
  constructor
  case toInv => exact inv
  case pending => rw [state]; exact h.pending
  case listing => rw [pollListing_answered, listing, h.listing]
  case tip => rw [pollTip_answered, tip, h.tip]
  case secs => rw [state]; exact h.secs
  case pollFrom => rw [state]; exact h.pollFrom
  case next => rw [state]; exact h.next
  case within => exact h.within
  case heard => rw [listed_answered, silent, List.append_nil, h.heard]
  case calls =>
    intro b member
    simp only [asks_answered, asks_waiting, List.mem_append, Option.mem_toList] at member
    rcases member with before | now
    · exact h.calls b before
    · exact Or.inr (called b now)
  case alerts =>
    intro i member
    simp only [asks_answered, asks_waiting, List.mem_append, Option.mem_toList] at member
    rcases member with before | now
    · exact h.alerts i before
    · exact Or.inr (alerted i now)
  case longer => exact h.longer.trans prefix_answered

/-- A batch is done with when it need not be judged or has been. -/
theorem Visiting.close {b : BatchView} (h : Visiting options L tip s₀ tr₀ visited [b] s tr)
    (done : options.validate = true → live b = true → Judged tr b) :
    Visiting options L tip s₀ tr₀ visited [] s tr := by
  refine { h with invalid := fun i member => ⟨(h.invalid i member).1, by simp⟩, judged := ?_ }
  intro supplied b' member isLive
  rcases h.judged supplied b' member isLive with still | before
  · obtain rfl := List.mem_singleton.mp still
    exact Or.inr (done supplied isLive)
  · exact Or.inr before

theorem remember_quiet (callback : onBatchOf q = none) (alert : onDeadlineOf q = none) :
    remember q s = s := by
  simp [remember, callback, alert]

theorem remember_onBatch {b : BatchView} (fresh : keyOf b ∉ s.seen) :
    { s with seen := add s.seen (keyOf b) } = remember (.onBatch b) s := by
  simp [remember, add_fresh fresh, onBatchOf, onDeadlineOf]

theorem remember_onDeadline {info : BatchDeadline} (fresh : keyOf info.batch ∉ s.warned) :
    { s with warned := add s.warned (keyOf info.batch) } = remember (.onDeadline info) s := by
  simp [remember, add_fresh fresh, onBatchOf, onDeadlineOf]

theorem Inv.not_stopped (h : Inv options opened s tr) (running : ¬ s.stopped = true) : ¬ StoppedIn tr :=
  fun stop => running (h.stopped.mpr stop)

section
variable {rely : Trace → (q : Query) → Except JsError (Reply q) → Prop} {b : BatchView}
  {info : BatchDeadline}

theorem Visiting.onBatch (h : Visiting options L tip s₀ tr₀ visited [] s tr) (running : ¬ s.stopped = true)
    (member : b ∈ visited) (fresh : keyOf b ∉ s.seen) (first : Threw tr ∨ FirstListed tr b) :
    Permitted options tr (.asked (.onBatch b)) ∧ ∀ xs r,
      Visiting options L tip s₀ tr₀ visited [b] (acts interrupt xs (remember (.onBatch b) s))
        (waiting tr (.onBatch b) xs ++ [.answered (.onBatch b) r]) := by
  have permitted : Permitted options tr (.asked (.onBatch b)) := by
    refine ⟨h.not_stopped running, ?_, ?_, first⟩
    · rw [h.listing]
      exact h.within member
    · rwa [← h.seen]
  refine ⟨permitted, fun xs r => h.query (.onBatch b) xs r rfl permitted ?_ (by simp [onDeadlineOf]) ?_ ?_⟩
  · intro b' called
    cases called
    exact member
  · rintro i (before | called)
    · have known := (h.invalid i before).1
      refine ⟨Or.inl known, ?_⟩
      intro b' only same
      rw [List.mem_singleton.mp only] at same
      exact fresh (same ▸ known)
    · cases called
  · rintro - b' (before | called) -
    · cases before
    · cases called
      exact Or.inl (List.mem_singleton_self _)

theorem Visiting.validate (h : Visiting options L tip s₀ tr₀ visited [b] s tr) (isLive : live b = true)
    (member : b ∈ visited) :
    Permitted options tr (.asked (.validate b)) ∧ ∀ xs r,
      Visiting options L tip s₀ tr₀ visited [b] (acts interrupt xs s)
        (waiting tr (.validate b) xs ++ [.answered (.validate b) r]) := by
  have permitted : Permitted options tr (.asked (.validate b)) := by
    refine ⟨isLive, ?_⟩
    rw [h.listing]
    exact h.within member
  refine ⟨permitted, fun xs r => ?_⟩
  rw [← remember_quiet (s := s) (q := .validate b) rfl rfl]
  refine h.query (.validate b) xs r rfl permitted nofun (by simp [onDeadlineOf]) ?_ ?_
  · rintro i (before | called)
    · exact ⟨Or.inl (h.invalid i before).1, (h.invalid i before).2⟩
    · cases called
  · rintro - b' (before | called) -
    · exact Or.inl before
    · cases called

theorem Visiting.onInvalid (h : Visiting options L tip s₀ tr₀ visited [info.batch] s tr)
    (running : ¬ s.stopped = true) (isLive : live info.batch = true) (member : info.batch ∈ visited)
    (called : info.batch ∈ onBatchCalls tr) (asked : info.batch ∈ validateCalls tr)
    (verdict : Async.Event.answered (.validate info.batch) (.ok false) ∈ tr) :
    Permitted options tr (.asked (.onInvalid info)) ∧ ∀ xs r,
      Visiting options L tip s₀ tr₀ visited [] (acts interrupt xs s)
        (waiting tr (.onInvalid info) xs ++ [.answered (.onInvalid info) r]) := by
  have permitted : Permitted options tr (.asked (.onInvalid info)) := by
    refine ⟨h.not_stopped running, isLive, ?_, ?_⟩
    · rw [h.listing]
      exact h.within member
    · intro again
      obtain ⟨i, before, same⟩ := List.mem_map.mp again
      exact (h.invalid i before).2 info.batch (List.mem_singleton_self _) same.symm
  refine ⟨permitted, fun xs r => ?_⟩
  rw [← remember_quiet (s := s) (q := .onInvalid info) rfl rfl]
  refine h.query (.onInvalid info) xs r rfl permitted nofun (by simp [onDeadlineOf]) ?_ ?_
  · rintro i (before | now)
    · exact ⟨Or.inl (h.invalid i before).1, by simp⟩
    · cases now
      refine ⟨Or.inl ?_, by simp⟩
      rw [h.seen]
      exact List.mem_map_of_mem called
  · rintro - b' (before | now) -
    · obtain rfl := List.mem_singleton.mp before
      refine Or.inr (Or.inr ⟨by simp [asked], Or.inr ⟨false, ?_, fun _ => Or.inl ?_⟩⟩)
      · exact prefix_answered.subset verdict
      · exact ⟨info, by simp [onInvalidOf], rfl⟩
    · cases now

theorem Visiting.onDeadline (h : Visiting options L tip s₀ tr₀ visited [] s tr)
    (running : ¬ s.stopped = true) (member : info.batch ∈ visited) (closing : Closing options tr info)
    (fresh : keyOf info.batch ∉ s.warned) :
    Permitted options tr (.asked (.onDeadline info)) ∧ ∀ xs r,
      Visiting options L tip s₀ tr₀ visited [] (acts interrupt xs (remember (.onDeadline info) s))
        (waiting tr (.onDeadline info) xs ++ [.answered (.onDeadline info) r]) := by
  have permitted : Permitted options tr (.asked (.onDeadline info)) := by
    refine ⟨h.not_stopped running, ?_, closing, ?_⟩
    · rw [h.listing]
      exact h.within member
    · rwa [← h.warned]
  refine ⟨permitted, fun xs r => h.query (.onDeadline info) xs r rfl permitted nofun ?_ ?_ ?_⟩
  · intro i called
    cases called
    exact member
  · rintro i (before | now)
    · exact ⟨Or.inl (h.invalid i before).1, by simp⟩
    · cases now
  · rintro - b' (before | now) -
    · cases before
    · cases now

theorem consult_spec (h : Visiting options L tip s₀ tr₀ visited [info.batch] s tr)
    (isLive : live info.batch = true) (member : info.batch ∈ visited)
    (called : info.batch ∈ onBatchCalls tr) :
    wp interrupt rely (guard options) (consult info.batch info)
      (fun _ s' tr' => Visiting options L tip s₀ tr₀ visited [] s' tr' ∧ Grows s s')
      (fun _ s' tr' => Visiting options L tip s₀ tr₀ visited [] s' tr' ∧ Threw tr') s tr := by
  unfold consult ask
  simp only [wp_bind, wp_get, wp_ite, wp_pure, wp_call]
  obtain ⟨permitted, judging⟩ := h.validate isLive member
  refine ⟨⟨h.obeys, permitted, h.pending⟩, ?_⟩
  intro xs
  specialize judging xs
  have grows := grows_query (.validate info.batch) xs h.pending
  rw [remember_quiet rfl rfl] at grows
  constructor
  · rintro v -
    specialize judging (.ok v)
    have called' : info.batch ∈ onBatchCalls (waiting tr (.validate info.batch) xs ++ [.answered _ (.ok v)]) := by
      simp [called]
    have asked : info.batch ∈ validateCalls (waiting tr (.validate info.batch) xs ++ [.answered _ (.ok v)]) := by
      simp [validateOf]
    have answered : Async.Event.answered (.validate info.batch) (.ok v) ∈
        waiting tr (.validate info.batch) xs ++ [.answered _ (.ok v)] := by simp
    split
    · rename_i bad
      obtain ⟨rfl, running⟩ : v = false ∧ ¬ (acts interrupt xs s).stopped = true := by simpa using bad
      obtain ⟨permitted, told⟩ := judging.onInvalid running isLive member called' asked answered
      refine ⟨⟨judging.obeys, permitted, judging.pending⟩, ?_⟩
      intro xs'
      have grows' := grows_query (.onInvalid info) xs' judging.pending
      rw [remember_quiet rfl rfl] at grows'
      exact ⟨fun u _ => ⟨told xs' (.ok u), grows.trans grows'⟩, fun e _ => ⟨told xs' (.error e), threw_answered rfl⟩⟩
    · rename_i good
      refine ⟨judging.close fun _ _ => Or.inr ⟨asked, Or.inr ⟨v, answered, ?_⟩⟩, grows⟩
      rintro rfl
      exact Or.inr (judging.stopped.mp (by simpa using good))
  · rintro e -
    refine ⟨(judging (.error e)).close fun _ _ => Or.inr ⟨by simp [validateOf], Or.inl ⟨e, by simp⟩⟩, ?_⟩
    exact threw_answered rfl

theorem judge_spec (h : Visiting options L tip s₀ tr₀ visited [] s tr) (running : ¬ s.stopped = true)
    (same : info.batch = b) (member : b ∈ visited)
    (first : keyOf b ∉ s.seen → Threw tr ∨ FirstListed tr b) :
    wp interrupt rely (guard options) (judge options b info)
      (fun _ s' tr' => Visiting options L tip s₀ tr₀ visited [] s' tr' ∧ Grows s s' ∧ keyOf b ∈ s'.seen)
      (fun _ s' tr' => Visiting options L tip s₀ tr₀ visited [] s' tr' ∧ Threw tr') s tr := by
  subst same
  unfold judge ask
  simp only [wp_bind, wp_get, wp_ite, wp_modify, wp_pure, wp_call]
  split
  · rename_i old
    exact ⟨h, .refl s, old⟩
  rename_i fresh
  rw [remember_onBatch fresh]
  obtain ⟨permitted, opened⟩ := h.onBatch running member fresh (first fresh)
  refine ⟨⟨h.obeys, permitted, h.pending⟩, ?_⟩
  intro xs
  specialize opened xs
  have grows := grows_query (.onBatch info.batch) xs h.pending
  have known : keyOf info.batch ∈ (acts interrupt xs (remember (.onBatch info.batch) s)).seen := by
    rw [acts_interrupt xs (remember (.onBatch info.batch) s) h.pending]
    simp [remember, onBatchOf]
  constructor
  · rintro u -
    split
    · rename_i needed
      have isLive : live info.batch = true := (Bool.and_eq_true_iff.mp needed).1
      refine wp_mono ?_ (fun _ _ _ thrown => thrown)
        (consult_spec (opened (.ok u)) isLive member (by simp [onBatchOf]))
      rintro - s' tr' ⟨done, more⟩
      exact ⟨done, grows.trans more, more.seen known⟩
    · rename_i unneeded
      refine ⟨(opened (.ok u)).close fun supplied isLive => ?_, grows, known⟩
      simp [supplied, isLive] at unneeded
  · rintro e -
    exact ⟨(opened (.error e)).close fun _ _ => Or.inl ⟨e, by simp⟩, threw_answered rfl⟩

theorem nearDeadline_open (h : nearDeadline options info = true) : windowOpen info = true := by
  unfold nearDeadline at h
  unfold windowOpen
  split at h
  · cases h
  · rename_i w found
    rw [found]
    exact (Bool.and_eq_true_iff.mp h).1

theorem closing_of_near {secs : Option Int} {tip : Option ChainTip} {b : BatchView}
    (isLive : live b = true) (near : nearDeadline options (deadlineFor secs b tip) = true)
    (window : windowRead options tr = secs) (read : pollTip tr = tip) :
    Closing options tr (deadlineFor secs b tip) := by
  have isOpen := nearDeadline_open near
  cases secs with
  | none => cases tip <;> simp [windowOpen, deadlineFor] at isOpen
  | some secs =>
    cases tip with
    | none => simp [windowOpen, deadlineFor] at isOpen
    | some tip => exact ⟨isLive, secs, tip, window, read, rfl, by simpa [windowOpen, deadlineFor] using isOpen, near⟩

theorem deadlineFor_batch (secs : Option Int) (b : BatchView) (tip : Option ChainTip) :
    (deadlineFor secs b tip).batch = b := by
  unfold deadlineFor
  split <;> rfl

theorem alert_spec (h : Visiting options L tip s₀ tr₀ visited [] s tr) (member : b ∈ visited)
    (oldestOpen : Option Int) :
    wp interrupt rely (guard options) (alert options b (deadlineFor s₀.windowSecs b tip) oldestOpen)
      (fun oldest s' tr' => Visiting options L tip s₀ tr₀ visited [] s' tr' ∧ Grows s s' ∧
        oldest = oldestStep s₀.windowSecs tip oldestOpen b ∧
        (live b = true → nearDeadline options (deadlineFor s₀.windowSecs b tip) = true →
          keyOf b ∈ s'.warned ∨ s'.stopped = true))
      (fun _ s' tr' => Visiting options L tip s₀ tr₀ visited [] s' tr' ∧ Threw tr') s tr := by
  have same := deadlineFor_batch s₀.windowSecs b tip
  unfold alert ask
  simp only [wp_bind, wp_get, wp_ite, wp_modify, wp_pure, wp_call]
  split
  · rename_i isOpen
    have isLive : live b = true := (Bool.and_eq_true_iff.mp isOpen).1
    have oldest : ∀ n, some n = oldestStep s₀.windowSecs tip oldestOpen b ↔ n = match oldestOpen with
        | none => b.batchIndex
        | some oldest => if b.batchIndex < oldest then b.batchIndex else oldest := by
      intro n
      unfold oldestStep stillOpen
      rw [if_pos isOpen, Option.some.injEq]
    split
    · rename_i due
      obtain ⟨⟨near, fresh⟩, running⟩ : (nearDeadline options (deadlineFor s₀.windowSecs b tip) = true ∧
          keyOf b ∉ s.warned) ∧ ¬ s.stopped = true := by simpa using due
      rw [← same] at fresh member
      have closing := closing_of_near isLive near (h.window.symm.trans h.secs) h.tip
      have key : keyOf b = keyOf (deadlineFor s₀.windowSecs b tip).batch := by rw [same]
      rw [key, remember_onDeadline fresh]
      obtain ⟨permitted, told⟩ := h.onDeadline running member closing fresh
      refine ⟨⟨h.obeys, permitted, h.pending⟩, ?_⟩
      intro xs
      specialize told xs
      have grows := grows_query (.onDeadline (deadlineFor s₀.windowSecs b tip)) xs h.pending
      refine ⟨fun u _ => ⟨told (.ok u), grows, (oldest _).mpr rfl, fun _ _ => Or.inl ?_⟩,
        fun e _ => ⟨told (.error e), threw_answered rfl⟩⟩
      rw [acts_interrupt xs (remember _ s) h.pending]
      simp [remember, onDeadlineOf]
    · rename_i quiet
      refine ⟨h, .refl s, (oldest _).mpr rfl, fun _ near => ?_⟩
      by_cases warned : keyOf b ∈ s.warned
      · exact Or.inl warned
      · exact Or.inr (by simpa [near, warned] using quiet)
  · rename_i shut
    refine ⟨h, .refl s, (if_neg shut).symm, fun isLive near => absurd ?_ shut⟩
    rw [isLive, nearDeadline_open near]
    rfl

/-- The batches come to are seen, and those near their deadline are alerted or the watch stopped. -/
structure Covered (options : WatchtowerOptions) (secs : Option Int) (tip : Option ChainTip)
    (visited : List BatchView) (s : WatchState) : Prop where
  seen : ∀ b ∈ visited, keyOf b ∈ s.seen
  warned : ∀ b ∈ visited, live b = true → nearDeadline options (deadlineFor secs b tip) = true →
    keyOf b ∈ s.warned ∨ s.stopped = true

theorem Covered.concat {secs : Option Int} {s' : WatchState} (h : Covered options secs tip visited s)
    (grows : Grows s s') (seen : keyOf b ∈ s'.seen)
    (warned : live b = true → nearDeadline options (deadlineFor secs b tip) = true →
      keyOf b ∈ s'.warned ∨ s'.stopped = true) : Covered options secs tip (visited ++ [b]) s' := by
  constructor
  · intro b' member
    rcases List.mem_append.mp member with before | last
    · exact grows.seen (h.seen b' before)
    · rwa [List.mem_singleton.mp last]
  · intro b' member isLive near
    rcases List.mem_append.mp member with before | last
    · exact (h.warned b' before isLive near).imp (fun k => grows.warned k) grows.stopped
    · obtain rfl := List.mem_singleton.mp last
      exact warned isLive near

theorem Visiting.advance (h : Visiting options L tip s₀ tr₀ visited [] s tr) (member : b ∈ L) :
    Visiting options L tip s₀ tr₀ (visited ++ [b]) []
      { s with nextStart := if s.nextStart ≤ b.batchIndex then b.batchIndex + 1 else s.nextStart } tr := by
  constructor
  case toInv => exact ⟨h.stopped, h.seen, h.warned, h.invalid, h.window, h.obeys, h.judged⟩
  case pending => exact h.pending
  case listing => exact h.listing
  case tip => exact h.tip
  case secs => exact h.secs
  case pollFrom => exact h.pollFrom
  case next => simp [nextAfter, h.next]
  case within => exact List.append_subset.mpr ⟨h.within, by simpa using member⟩
  case heard => exact h.heard
  case calls =>
    intro b' called
    exact (h.calls b' called).imp_right (fun before => List.mem_append_left _ before)
  case alerts =>
    intro i called
    exact (h.alerts i called).imp_right (fun before => List.mem_append_left _ before)
  case longer => exact h.longer

/-- The loop invariant: the batches before `rest` are covered. -/
theorem visitAll_spec (rest : List BatchView) (split : visited ++ rest = L)
    (h : Visiting options L tip s₀ tr₀ visited [] s tr)
    (covered : Covered options s₀.windowSecs tip visited s)
    (fresh : Threw tr₀ ∨ ∃ old, listed tr₀ = old ++ L ∧ ∀ a ∈ old, keyOf a ∈ s.seen) :
    wp interrupt rely (guard options)
      (visitAll options tip rest (oldestAfter s₀.windowSecs tip visited))
      (fun out s' tr' => match out with
        | none => ∃ some, Visiting options L tip s₀ tr₀ some [] s' tr' ∧ s'.stopped = true
        | some oldest => Visiting options L tip s₀ tr₀ L [] s' tr' ∧
            Covered options s₀.windowSecs tip L s' ∧ oldest = oldestAfter s₀.windowSecs tip L)
      (fun _ s' tr' => ∃ some, Visiting options L tip s₀ tr₀ some [] s' tr' ∧ Threw tr') s tr := by
  induction rest generalizing visited s tr with
  | nil =>
    rw [List.append_nil] at split
    subst split
    exact ⟨h, covered, rfl⟩
  | cons b rest ih =>
    unfold visitAll
    simp only [wp_bind, wp_get, wp_ite, wp_modify, wp_pure]
    have member : b ∈ L := by simp [← split]
    have here := h.advance member
    split
    · rename_i halted
      exact ⟨visited, h, halted⟩
    rename_i running
    have first : keyOf b ∉ s.seen → Threw tr ∨ FirstListed tr b := by
      intro unseen
      refine fresh.imp (fun threw => threw.mono h.longer) ?_
      rintro ⟨old, total, known⟩
      have whole : listed tr = (old ++ visited) ++ b :: rest := by
        rw [h.heard, total, ← split, List.append_assoc]
      refine firstListed_of_fresh whole fun a member same => unseen ?_
      rw [← same]
      rcases List.mem_append.mp member with before | now
      · exact known a before
      · exact covered.seen a now
    rw [show deadlineFor s.windowSecs b tip = deadlineFor s₀.windowSecs b tip by rw [h.secs]]
    refine wp_mono ?_ (fun _ _ _ thrown => ⟨_, thrown⟩)
      (judge_spec here running (deadlineFor_batch s₀.windowSecs b tip) (by simp) first)
    rintro - s₁ tr₁ ⟨here₁, grows₁, seen⟩
    rw [wp_bind]
    refine wp_mono ?_ (fun _ _ _ thrown => ⟨_, thrown⟩)
      (alert_spec (b := b) here₁ (by simp) (oldestAfter s₀.windowSecs tip visited))
    rintro oldest s₂ tr₂ ⟨here₂, grows₂, rfl, warned⟩
    have step : oldestStep s₀.windowSecs tip (oldestAfter s₀.windowSecs tip visited) b =
        oldestAfter s₀.windowSecs tip (visited ++ [b]) := by simp [oldestAfter]
    rw [step]
    have grows : Grows s s₂ := Grows.trans ⟨grows₁.seen, grows₁.warned, grows₁.stopped⟩ grows₂
    refine ih (by simpa using split) here₂ (covered.concat grows (grows₂.seen seen) warned) ?_
    refine fresh.imp_right ?_
    rintro ⟨old, total, known⟩
    exact ⟨old, total, fun a member => grows.seen (known a member)⟩

end

end

end QorechainRdk.Watchtower
