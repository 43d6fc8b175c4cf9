import QorechainRdk.Watchtower.Loop

/-!
# One poll

What a poll leaves behind, however it ends.
-/

namespace QorechainRdk.Watchtower

open Async

variable {options : WatchtowerOptions} {s : WatchState} {tr : Trace} {q : Query}
  {xs : List Interrupt} {r : Except JsError (Reply q)}

/-! ### The reads before the loop -/

/-- The queries before the loop, and the report of an error. -/
def reads : Query → Bool
  | .getRollup _ | .getParams | .listBatches _ _ | .readTip | .onError _ => true
  | _ => false

/-- Since `s₀` and `tr₀` nothing but reads, which have listed `L`. -/
structure Reading (options : WatchtowerOptions) (s₀ : WatchState) (tr₀ : Trace) (L : List BatchView)
    (s : WatchState) (tr : Trace) : Prop extends Inv options [] s tr where
  pending : s.pending = []
  remembered : s.seen = s₀.seen
  heard : listed tr = listed tr₀ ++ L
  secs : ∀ w, s₀.windowSecs = some w → s.windowSecs = some w
  pollFrom : s.pollFrom = s₀.pollFrom
  next : s.nextStart = s₀.nextStart
  calls : onBatchCalls tr = onBatchCalls tr₀
  alerts : onDeadlineCalls tr = onDeadlineCalls tr₀
  longer : tr₀ <+: tr

section
variable {rely : Trace → (q : Query) → Except JsError (Reply q) → Prop} {s₀ : WatchState} {tr₀ : Trace}
  {rollupId : String} {L : List BatchView}

theorem Inv.reading (h : Inv options [] s tr) (idle : s.pending = []) : Reading options s tr [] s tr :=
  ⟨h, idle, rfl, (List.append_nil _).symm, fun _ k => k, rfl, rfl, rfl, rfl, List.prefix_refl _⟩

theorem Reading.query (h : Reading options s₀ tr₀ L s tr) (q : Query) (xs : List Interrupt)
    (r : Except JsError (Reply q)) (isRead : reads q = true)
    (permitted : Permitted options tr (.asked q))
    (secs : s.windowSecs = none ∨ windowStep s.windowSecs (.answered q r) = s.windowSecs) :
    Reading options s₀ tr₀ (L ++ listedIn (.answered q r))
      { acts interrupt xs s with windowSecs := windowStep s.windowSecs (.answered q r) }
      (waiting tr q xs ++ [.answered q r]) := by
  obtain ⟨noBatch, noInvalid, noDeadline⟩ :
      onBatchOf q = none ∧ onInvalidOf q = none ∧ onDeadlineOf q = none := by
    cases q <;> first | exact ⟨rfl, rfl, rfl⟩ | cases isRead
  have inv := h.toInv.query q xs r [] h.pending permitted ?_ ?_
  · rw [remember_quiet noBatch noDeadline] at inv
    have state := acts_interrupt xs s h.pending
    constructor
    case toInv => exact inv
    case pending => rw [state]; exact h.pending
    case remembered => rw [state]; exact h.remembered
    case heard => rw [listed_answered, h.heard, List.append_assoc]
    case secs =>
      intro w known
      rcases secs with unknown | same
      · rw [h.secs w known] at unknown
        cases unknown
      · exact same.trans (h.secs w known)
    case pollFrom => rw [state]; exact h.pollFrom
    case next => rw [state]; exact h.next
    case calls => simp [noBatch, h.calls]
    case alerts => simp [noDeadline, h.alerts]
    case longer => exact h.longer.trans prefix_answered
  · rintro i (before | now)
    · exact ⟨Or.inl (h.invalid i before).1, by simp⟩
    · rw [noInvalid] at now
      cases now
  · rintro - b (before | now) -
    · cases before
    · rw [noBatch] at now
      cases now

theorem Reading.plain (h : Reading options s₀ tr₀ L s tr) (q : Query) (xs : List Interrupt)
    (r : Except JsError (Reply q)) (isRead : reads q = true)
    (permitted : Permitted options tr (.asked q))
    (secs : windowStep s.windowSecs (.answered q r) = s.windowSecs) :
    Reading options s₀ tr₀ (L ++ listedIn (.answered q r)) (acts interrupt xs s)
      (waiting tr q xs ++ [.answered q r]) := by
  have next := h.query q xs r isRead permitted (Or.inr secs)
  rw [acts_interrupt xs s h.pending] at next ⊢
  rwa [secs] at next

/-- A read that lists nothing either. -/
theorem Reading.aside (h : Reading options s₀ tr₀ L s tr) (q : Query) (xs : List Interrupt)
    (r : Except JsError (Reply q)) (isRead : reads q = true)
    (permitted : Permitted options tr (.asked q))
    (secs : windowStep s.windowSecs (.answered q r) = s.windowSecs)
    (silent : listedIn (.answered q r) = []) :
    Reading options s₀ tr₀ L (acts interrupt xs s) (waiting tr q xs ++ [.answered q r]) := by
  have next := h.plain q xs r isRead permitted secs
  rwa [silent, List.append_nil] at next

theorem readWindow_spec (h : Reading options s₀ tr₀ [] s tr) :
    wp interrupt rely (guard options) (readWindow rollupId)
      (fun _ s' tr' => Reading options s₀ tr₀ [] s' tr' ∧ s'.windowSecs.isSome = true)
      (fun _ s' tr' => Reading options s₀ tr₀ [] s' tr') s tr := by
  unfold readWindow ask
  simp only [wp_bind, wp_get, wp_ite, wp_pure, wp_call]
  split
  · rename_i unknown
    have unset : s.windowSecs = none := by simpa using unknown
    refine ⟨⟨h.obeys, trivial, h.pending⟩, fun xs => ⟨?_, ?_⟩⟩
    · rintro rollup -
      have read := h.query (.getRollup rollupId) xs (.ok rollup) rfl trivial (Or.inl unset)
      rw [unset] at read
      have state := acts_interrupt xs s h.pending
      cases own : rollup.challengeWindowSec with
      | some secs =>
        simp only [windowStep, own, Option.some_or] at read
        exact ⟨read, rfl⟩
      | none =>
        have same : { acts interrupt xs s with windowSecs := none } = acts interrupt xs s := by
          rw [state, ← unset]
        simp only [windowStep, own, Option.none_or] at read
        rw [same] at read
        simp only [wp_bind, wp_call]
        refine ⟨⟨read.obeys, trivial, read.pending⟩, fun xs' => ⟨?_, ?_⟩⟩
        · rintro params -
          have unread : (acts interrupt xs s).windowSecs = none := by rw [state]; exact unset
          exact ⟨read.query .getParams xs' (.ok params) rfl trivial (Or.inl unread), rfl⟩
        · rintro e -
          exact read.aside .getParams xs' (.error e) rfl trivial rfl rfl
    · rintro e -
      exact h.aside (.getRollup rollupId) xs (.error e) rfl trivial rfl rfl
  · rename_i known
    exact ⟨h, by simpa [Option.isSome_iff_ne_none] using known⟩

theorem Reading.not_stopped (h : Reading options s₀ tr₀ L s tr) (running : ¬ s.stopped = true) :
    ¬ StoppedIn tr := h.toInv.not_stopped running

def TipRead (rely : Trace → (q : Query) → Except JsError (Reply q) → Prop) (tr₀ tr : Trace)
    (tip : Option ChainTip) : Prop :=
  ∀ t, tip = some t → Async.Event.answered .readTip (.ok t) ∈ tr ∧
    ∃ mid, tr₀ <+: mid ∧ rely mid .readTip (.ok t)

theorem prefix_waiting : tr <+: waiting tr q xs := List.prefix_append _ _

theorem tipRead_none : TipRead rely tr₀ tr none := by
  intro t read
  cases read

theorem readTip_spec (h : Reading options s₀ tr₀ L s tr) :
    wp interrupt rely (guard options) readTip
      (fun tip s' tr' => Reading options s₀ tr₀ L s' tr' ∧ s'.windowSecs = s.windowSecs ∧
        pollListing tr' = pollListing tr ∧ pollTip tr' = tip ∧ TipRead rely tr₀ tr' tip)
      (fun _ s' tr' => Reading options s₀ tr₀ L s' tr' ∧ Threw tr') s tr := by
  unfold readTip ask
  simp only [wp_tryCatch, wp_bind, wp_get, wp_ite, wp_pure, wp_call]
  refine ⟨⟨h.obeys, trivial, h.pending⟩, fun xs => ⟨?_, ?_⟩⟩
  · rintro tip relied
    have read := h.aside .readTip xs (.ok tip) rfl trivial rfl rfl
    refine ⟨read, by rw [acts_interrupt xs s h.pending], pollListing_answered, pollTip_answered, ?_⟩
    rintro t ⟨⟩
    exact ⟨by simp, waiting tr .readTip xs, h.longer.trans prefix_waiting, relied⟩
  · rintro e -
    have read := h.aside .readTip xs (.error e) rfl trivial rfl rfl
    have secs : (acts interrupt xs s).windowSecs = s.windowSecs := by rw [acts_interrupt xs s h.pending]
    split
    · exact ⟨read, secs, pollListing_answered, pollTip_answered, tipRead_none⟩
    · rename_i running
      have permitted := read.not_stopped running
      refine ⟨⟨read.obeys, permitted, read.pending⟩, fun xs' => ⟨?_, ?_⟩⟩
      · rintro u -
        refine ⟨read.aside (.onError e) xs' (.ok u) rfl permitted rfl rfl, ?_, ?_, ?_, tipRead_none⟩
        · rw [acts_interrupt xs' _ read.pending, secs]
        · rw [pollListing_answered, pollListing_answered]
          rfl
        · rw [pollTip_answered, pollTip_answered]
          rfl
      · rintro e' -
        exact ⟨read.aside (.onError e) xs' (.error e') rfl permitted rfl rfl, threw_answered rfl⟩

/-! ### The poll -/

def Listed (rely : Trace → (q : Query) → Except JsError (Reply q) → Prop) (rollupId : String)
    (s₀ : WatchState) (tr₀ : Trace) (L : List BatchView) : Prop :=
  ∃ mid, tr₀ <+: mid ∧ rely mid (.listBatches rollupId s₀.pollFrom) (.ok L)

/-- Everything listed so far is remembered, unless a stop or a throw has cut a poll short. -/
def Swept (s : WatchState) (tr : Trace) : Prop :=
  StoppedIn tr ∨ Threw tr ∨ ∀ b ∈ listed tr, keyOf b ∈ s.seen

/-- What a poll from `s₀` and `tr₀` leaves behind; `visited` is as far as its loop has come. -/
structure Polled (options : WatchtowerOptions)
    (rely : Trace → (q : Query) → Except JsError (Reply q) → Prop) (rollupId : String)
    (s₀ : WatchState) (tr₀ : Trace) (ended : PollEnd) (s : WatchState) (tr : Trace) : Prop
    extends Inv options [] s tr where
  longer : tr₀ <+: tr
  secs : ∀ w, s₀.windowSecs = some w → s.windowSecs = some w
  cursor : (∀ tip, ended ≠ .completed tip) → s.pollFrom = s₀.pollFrom
  swept : Swept s tr
  visits : ∃ L visited, visited ⊆ L ∧ (visited ≠ [] → Listed rely rollupId s₀ tr₀ L) ∧
    s.nextStart = nextAfter s₀.nextStart visited ∧
    (∀ b ∈ onBatchCalls tr, b ∈ onBatchCalls tr₀ ∨ b ∈ visited) ∧
    ∀ i ∈ onDeadlineCalls tr, i ∈ onDeadlineCalls tr₀ ∨ i.batch ∈ visited
  completed : ∀ tip, ended = .completed tip → ∃ L secs, Listed rely rollupId s₀ tr₀ L ∧
    pollListing tr = L ∧ TipRead rely tr₀ tr tip ∧ s.windowSecs = some secs ∧
    Covered options (some secs) tip L s ∧ s.nextStart = nextAfter s₀.nextStart L ∧
    s.pollFrom = if tip.isSome then (oldestAfter (some secs) tip L).getD s.nextStart else s₀.pollFrom

theorem Reading.swept {s₁ : WatchState} {tr₁ : Trace} (h : Reading options s₀ tr₀ L s tr)
    (before : Threw tr₀ ∨ ∀ b ∈ listed tr₀, keyOf b ∈ s₀.seen) (longer : tr <+: tr₁)
    (heard : listed tr₁ = listed tr) (grows : s.seen ⊆ s₁.seen) (covered : ∀ b ∈ L, keyOf b ∈ s₁.seen) :
    Swept s₁ tr₁ := by
  refine Or.inr (before.imp (fun threw => (threw.mono h.longer).mono longer) ?_)
  intro known b member
  rw [heard, h.heard] at member
  rcases List.mem_append.mp member with old | new
  · exact grows (h.remembered ▸ known b old)
  · exact covered b new

theorem Reading.polled (h : Reading options s₀ tr₀ L s tr) (swept : Swept s tr) :
    Polled options rely rollupId s₀ tr₀ .failed s tr := by
  refine ⟨h.toInv, h.longer, h.secs, fun _ => h.pollFrom, swept,
    ⟨[], [], fun _ k => k, by simp, h.next, ?_, ?_⟩, nofun⟩
  · intro b member
    exact Or.inl (h.calls ▸ member)
  · intro i member
    exact Or.inl (h.alerts ▸ member)

theorem Visiting.polled {s₁ : WatchState} {tr₁ : Trace} {visited : List BatchView}
    {tip : Option ChainTip} {ended : PollEnd} (h : Visiting options L tip s₁ tr₁ visited [] s tr)
    (before : Reading options s₀ tr₀ L s₁ tr₁) (listed : Listed rely rollupId s₀ tr₀ L)
    (swept : Swept s tr) (unfinished : ∀ tip, ended ≠ .completed tip) :
    Polled options rely rollupId s₀ tr₀ ended s tr where
  toInv := h.toInv
  longer := before.longer.trans h.longer
  secs := fun w known => h.secs.trans (before.secs w known)
  cursor := fun _ => h.pollFrom.trans before.pollFrom
  swept := swept
  visits := by
    refine ⟨L, visited, h.within, fun _ => listed, by rw [h.next, before.next], ?_, ?_⟩
    · rw [← before.calls]
      exact h.calls
    · rw [← before.alerts]
      exact h.alerts
  completed := fun tip same => absurd same (unfinished tip)

theorem pollOnce_spec (h : Inv options [] s₀ tr₀) (idle : s₀.pending = [])
    (known : Threw tr₀ ∨ ∀ b ∈ listed tr₀, keyOf b ∈ s₀.seen) :
    wp interrupt rely (guard options) (pollOnce options rollupId)
      (fun ended s tr => Polled options rely rollupId s₀ tr₀ ended s tr ∧ s.pending = [])
      (fun _ s tr => Polled options rely rollupId s₀ tr₀ .failed s tr ∧ s.pending = []) s₀ tr₀ := by
  have unheard : ∀ {s tr}, Reading options s₀ tr₀ [] s tr →
      Polled options rely rollupId s₀ tr₀ .failed s tr ∧ s.pending = [] := by
    intro s tr read
    have swept := read.swept known (List.prefix_refl _) rfl (fun _ k => k) (by simp)
    exact ⟨read.polled swept, read.pending⟩
  unfold pollOnce ask
  rw [wp_bind]
  refine wp_mono ?_ (fun _ _ _ thrown => unheard thrown) (readWindow_spec (h.reading idle))
  rintro - s₁ tr₁ ⟨read₁, set⟩
  simp only [wp_bind, wp_get, wp_call]
  refine ⟨⟨read₁.obeys, trivial, read₁.pending⟩, fun xs => ⟨?_, ?_⟩⟩
  · rintro L relied
    have read₂ : Reading options s₀ tr₀ L _ _ :=
      read₁.plain (.listBatches rollupId s₁.pollFrom) xs (.ok L) rfl trivial rfl
    have listed : Listed rely rollupId s₀ tr₀ L := by
      rw [read₁.pollFrom] at relied
      exact ⟨_, read₁.longer.trans prefix_waiting, relied⟩
    refine wp_mono ?_ ?_ (readTip_spec read₂)
    · rintro tip s₃ tr₃ ⟨read₃, secs, listing, isTip, tipRead⟩
      rw [pollListing_answered] at listing
      have start : Visiting options L tip s₃ tr₃ [] [] s₃ tr₃ :=
        ⟨read₃.toInv, read₃.pending, listing, isTip, rfl, rfl, rfl, List.nil_subset _, rfl,
          fun _ k => Or.inl k, fun _ k => Or.inl k, List.prefix_refl _⟩
      have fresh : Threw tr₃ ∨ ∃ old, Watchtower.listed tr₃ = old ++ L ∧ ∀ a ∈ old, keyOf a ∈ s₃.seen := by
        refine known.imp (fun threw => threw.mono read₃.longer) fun before => ?_
        exact ⟨_, read₃.heard, fun a member => read₃.remembered ▸ before a member⟩
      rw [wp_bind]
      refine wp_mono ?_ ?_ (visitAll_spec L (List.nil_append L) start ⟨by simp, by simp⟩ fresh)
      · rintro out s₄ tr₄ visited
        cases out with
        | none =>
          obtain ⟨visited, done, halted⟩ := visited
          exact ⟨done.polled read₃ listed (Or.inl (done.stopped.mp halted)) (by simp), done.pending⟩
        | some oldest =>
          obtain ⟨done, covered, rfl⟩ := visited
          obtain ⟨secs, set⟩ : ∃ w, s₃.windowSecs = some w := by
            rw [secs, acts_interrupt xs s₁ read₁.pending]
            exact Option.isSome_iff_exists.mp set
          have grows := read₃.remembers done.toInv done.longer
          have swept : Swept s₄ tr₄ := read₃.swept known done.longer done.heard grows covered.seen
          have polled : Polled options rely rollupId s₀ tr₀ .failed s₄ tr₄ :=
            done.polled read₃ listed swept (by simp)
          simp only [wp_bind, wp_modify, wp_pure]
          rw [set] at covered
          refine ⟨⟨⟨done.stopped, done.seen, done.warned, done.invalid, done.window, done.obeys, done.judged⟩,
            polled.longer, polled.secs, fun unfinished => absurd rfl (unfinished tip), swept, polled.visits,
            ?_⟩, done.pending⟩
          rintro tip ⟨⟩
          refine ⟨L, secs, listed, done.listing, ?_, done.secs.trans set, ⟨covered.seen, covered.warned⟩, ?_, ?_⟩
          · intro t isSome
            exact ⟨done.longer.subset (tipRead t isSome).1, (tipRead t isSome).2⟩
          · exact done.next.trans (by rw [read₃.next])
          · simp only [done.pollFrom, read₃.pollFrom, set]
      · rintro e s₄ tr₄ ⟨visited, done, threw⟩
        exact ⟨done.polled read₃ listed (Or.inr (Or.inl threw)) (by simp), done.pending⟩
    · rintro e s₃ tr₃ ⟨read₃, threw⟩
      exact ⟨read₃.polled (Or.inr (Or.inl threw)), read₃.pending⟩
  · rintro e -
    exact unheard (read₁.aside (.listBatches rollupId s₁.pollFrom) xs (.error e) rfl trivial rfl rfl)

theorem Polled.report {s' : WatchState} {tr' : Trace} (h : Polled options rely rollupId s₀ tr₀ .failed s tr)
    (next : Reading options s tr [] s' tr') : Polled options rely rollupId s₀ tr₀ .failed s' tr' where
  toInv := next.toInv
  longer := h.longer.trans next.longer
  secs := fun w known => next.secs w (h.secs w known)
  cursor := fun unfinished => next.pollFrom.trans (h.cursor unfinished)
  swept := by
    have heard : listed tr' = listed tr := by rw [next.heard, List.append_nil]
    rcases h.swept with ⟨x, stop⟩ | threw | known
    · exact Or.inl ⟨x, next.longer.subset stop⟩
    · exact Or.inr (Or.inl (threw.mono next.longer))
    · exact Or.inr (Or.inr (by rw [heard, next.remembered]; exact known))
  visits := by
    obtain ⟨L, visited, sub, listed, start, calls, alerts⟩ := h.visits
    exact ⟨L, visited, sub, listed, next.next.trans start, by rwa [next.calls], by rwa [next.alerts]⟩
  completed := nofun

theorem Polled.schedule {ended : PollEnd} (h : Polled options rely rollupId s₀ tr₀ ended s tr) :
    Polled options rely rollupId s₀ tr₀ ended (schedule s) tr where
  toInv := ⟨h.stopped, h.seen, h.warned, h.invalid, h.window, h.obeys, h.judged⟩
  longer := h.longer
  secs := h.secs
  cursor := h.cursor
  swept := h.swept
  visits := h.visits
  completed := by
    intro tip same
    obtain ⟨L, secs, listed, listing, read, known, covered, rest⟩ := h.completed tip same
    exact ⟨L, secs, listed, listing, read, known, ⟨covered.seen, covered.warned⟩, rest⟩

/-- Between polls at most the timer in `timer` is armed, and none after a stop. -/
def Timers (s : WatchState) : Prop :=
  s.pending = [] ∨ s.stopped = false ∧ ∃ id, s.timer = some id ∧ s.pending = [id]

theorem timers_schedule (idle : s.pending = []) (running : ¬ s.stopped = true) : Timers (schedule s) := by
  have still : s.stopped = false := by simpa using running
  exact Or.inr ⟨still, s.nextTimer, rfl, by simp [schedule, idle]⟩

theorem tick_spec (h : Inv options [] s₀ tr₀) (idle : s₀.pending = []) (swept : Swept s₀ tr₀) :
    wp interrupt rely (guard options) (tick options rollupId)
      (fun ended s tr => Polled options rely rollupId s₀ tr₀ ended s tr ∧ Timers s)
      (fun _ s tr => Polled options rely rollupId s₀ tr₀ .failed s tr ∧ Timers s) s₀ tr₀ := by
  -- A timer is armed at the end of a poll that was not stopped, and nowhere else.
  have finish : ∀ ended s tr, Polled options rely rollupId s₀ tr₀ ended s tr → s.pending = [] →
      Polled options rely rollupId s₀ tr₀ ended (if s.stopped then s else schedule s) tr ∧
        Timers (if s.stopped then s else schedule s) := by
    intro ended s tr polled quiet
    split
    · exact ⟨polled, Or.inl quiet⟩
    · rename_i running
      exact ⟨polled.schedule, timers_schedule quiet running⟩
  unfold tick ask
  simp only [wp_bind, wp_get, wp_ite, wp_pure, wp_tryCatch]
  split
  · have read : Polled options rely rollupId s₀ tr₀ .failed s₀ tr₀ := (h.reading idle).polled swept
    exact ⟨⟨h, read.longer, read.secs, fun _ => rfl, swept, read.visits, by simp⟩, Or.inl idle⟩
  rename_i running
  have known := swept.resolve_left (h.not_stopped running)
  refine wp_mono ?_ ?_ (pollOnce_spec h idle known)
  · rintro ended s tr ⟨polled, quiet⟩
    cases ended with
    | returned => exact ⟨polled, Or.inl quiet⟩
    | skipped => exact finish _ s tr polled quiet
    | completed tip => exact finish _ s tr polled quiet
    | failed => exact finish _ s tr polled quiet
  · rintro e s tr ⟨polled, quiet⟩
    simp only [wp_bind, wp_get, wp_ite, wp_pure, wp_call]
    split
    · exact finish _ s tr polled quiet
    · rename_i running
      have permitted := polled.not_stopped running
      have read := polled.toInv.reading quiet
      refine ⟨⟨polled.obeys, permitted, quiet⟩, fun xs => ⟨?_, ?_⟩⟩
      · rintro u -
        have next := read.aside (.onError e) xs (.ok u) rfl permitted rfl rfl
        exact finish _ _ _ (polled.report next) next.pending
      · rintro e' -
        have next := read.aside (.onError e) xs (.error e') rfl permitted rfl rfl
        exact ⟨polled.report next, Or.inl next.pending⟩

end

end QorechainRdk.Watchtower
