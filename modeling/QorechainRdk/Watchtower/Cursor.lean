import QorechainRdk.Watchtower.Runs

/-!
# The cursor and the alerts

Where no index is used twice, what the cursor has passed is over, so that each poll lists every batch
that may still be due for an alert.
-/

namespace QorechainRdk.Watchtower

open Async

def tipsAdvance (tr : Trace) : (q : Query) → Except JsError (Reply q) → Prop
  | .readTip, .ok tip => ∀ earlier, .answered .readTip (.ok earlier) ∈ tr → earlier ≤ tip
  | _, _ => True

/-- Each index is used by one batch. -/
def settling : Environment where
  resubmits := fun _ _ => False
  answers := tipsAdvance

/-- The window of the batch was closed by a tip that was read. -/
def Passed (w : World) (b : BatchView) : Prop :=
  ∃ secs tip, w.watch.windowSecs = some secs ∧ .answered .readTip (.ok tip) ∈ w.trace ∧
    (batchChallengeWindow b secs tip).isOpen = false

section
variable {options : WatchtowerOptions} {rollupId : String} {w w' : World} {a b : BatchView}
  {secs : Option Int} {tip : Option ChainTip} {visited : List BatchView}

theorem window_of_posted (same : posted a = posted b) :
    batchChallengeWindow a = batchChallengeWindow b := by
  obtain ⟨-, -, time, height⟩ := posted_fields same
  exact batchChallengeWindow_congr time height

theorem Passed.mono (h : Passed w b) (same : posted a = posted b) (longer : w.trace <+: w'.trace)
    (known : ∀ n, w.watch.windowSecs = some n → w'.watch.windowSecs = some n) : Passed w' a := by
  obtain ⟨secs, tip, set, read, closed⟩ := h
  refine ⟨secs, tip, known secs set, longer.subset read, ?_⟩
  rw [window_of_posted same]
  exact closed

theorem oldestStep_le (secs : Option Int) (tip : Option ChainTip) {oldest : Option Int} {n : Int}
    (h : oldest = some n) (b : BatchView) :
    ∃ m, oldestStep secs tip oldest b = some m ∧ m ≤ n := by
  subst h
  unfold oldestStep
  split
  · refine ⟨_, rfl, ?_⟩
    dsimp only
    split <;> omega
  · exact ⟨n, rfl, le_refl n⟩

theorem oldestAfter_le (member : b ∈ visited) (isOpen : stillOpen secs tip b = true) :
    ∃ n, oldestAfter secs tip visited = some n ∧ n ≤ b.batchIndex := by
  induction visited using List.reverseRecOn with
  | nil => cases member
  | append_singleton visited c ih =>
    have step : oldestAfter secs tip (visited ++ [c]) = oldestStep secs tip (oldestAfter secs tip visited) c := by
      simp [oldestAfter]
    rw [step]
    rcases List.mem_append.mp member with before | last
    · obtain ⟨n, oldest, below⟩ := ih before
      obtain ⟨m, next, lower⟩ := oldestStep_le secs tip oldest c
      exact ⟨m, next, le_trans lower below⟩
    · obtain rfl := List.mem_singleton.mp last
      unfold oldestStep
      rw [if_pos isOpen]
      refine ⟨_, rfl, ?_⟩
      split
      · exact le_refl _
      · split <;> omega

/-- No live batch with an open window is below the cursor, also after polls that fail or have no tip. -/
theorem Reaches.passed (h : Reaches settling options rollupId w) :
    ∀ b ∈ w.chain, live b = true → b.batchIndex < w.watch.pollFrom → Passed w b := by
  induction h with
  | start chain nonneg distinct =>
    intro b member _ below
    exact absurd below (not_lt.mpr (nonneg b member))
  | @move w chain before moved ih =>
    have keep : ∀ {a b}, posted a = posted b → Passed w b → Passed { w with chain := chain } a :=
      fun same passed => passed.mono same (List.prefix_refl _) fun _ known => known
    intro b member isLive below
    rcases moved.of_mem member with ⟨a, old, same, was⟩ | ⟨nonneg, newest⟩ | resubmitted
    · have index := (posted_fields same).1
      exact keep same (ih a old (was isLive) (index ▸ below))
    · exact absurd below (not_lt.mpr (before.cursor_le nonneg newest).2)
    · exact resubmitted.elim
  | @poll w w' r before polls ih =>
    intro b member isLive below
    rw [polls.chain] at member
    have done := before.polled polls
    have keep : Passed w b → Passed w' b := fun passed => passed.mono rfl (before.longer polls) done.secs
    by_cases old : b.batchIndex < w.watch.pollFrom
    · exact keep (ih b member isLive old)
    by_cases finished : ∃ tip, r = .ok (.completed tip)
    · obtain ⟨tip, rfl⟩ := finished
      obtain ⟨L, secs, whole, -, known, -, -, cursor⟩ := before.completed polls
      cases tip with
      | none =>
        rw [cursor] at below
        exact absurd below old
      | some tip =>
        refine ⟨secs, tip, known, (before.tipRead polls).1, ?_⟩
        have here : b ∈ L := (whole b).mpr ⟨member, not_lt.mp old⟩
        by_contra opened
        have isOpen : stillOpen (some secs) (some tip) b = true := by
          simpa [stillOpen, isLive, windowOpen, deadlineFor] using opened
        obtain ⟨n, oldest, lower⟩ := oldestAfter_le here isOpen
        have atOldest : w'.watch.pollFrom = n := by simpa [oldest] using cursor
        omega
    · rw [before.unmoved polls finished] at below
      exact absurd below old
  | @stop w x before polled ih =>
    intro b member isLive below
    exact (ih b member isLive below).mono rfl (List.prefix_append _ _) fun _ known => known

theorem Reaches.alerted (h : Reaches settling options rollupId w) :
    ∀ i ∈ onDeadlineCalls w.trace, ∃ a ∈ w.chain, posted a = posted i.batch := by
  induction h with
  | start chain nonneg distinct => simp [asks]
  | move before moved ih =>
    intro i called
    obtain ⟨a, member, same⟩ := ih i called
    obtain ⟨b, onChain, kept | resubmitted⟩ := moved.keeps member
    · exact ⟨b, onChain, kept.trans same⟩
    · exact resubmitted.elim
  | poll before polls ih =>
    intro i called
    obtain ⟨visited, within, -, -, alerts⟩ := before.visits polls
    rw [polls.chain]
    rcases alerts i called with old | new
    · exact ih i old
    · exact ⟨i.batch, (within _ new).1, rfl⟩
  | stop x before polled ih =>
    intro i called
    simp only [asks_acted_one] at called
    exact ih i called

def Current (w : World) (tip : ChainTip) : Prop :=
  ∀ earlier, .answered .readTip (.ok earlier) ∈ w.trace → earlier ≤ tip

/-- A poll that came to its end, with a tip and without a stop. -/
structure Completes (env : Environment) (options : WatchtowerOptions) (rollupId : String) (w : World)
    (tip : ChainTip) (w' : World) : Prop extends
    Polls env options rollupId w (.ok (.completed (some tip))) w' where
  running : w'.watch.stopped = false

/-- What is below the cursor is over, and a poll that completes has alerted of every batch near its
deadline. -/
theorem deadline_alerts_complete (h : Reaches settling options rollupId w) :
    (∀ b ∈ w.chain, live b = true → b.batchIndex < w.watch.pollFrom → ∃ secs,
      w.watch.windowSecs = some secs ∧
        ∀ tip, Current w tip → (batchChallengeWindow b secs tip).isOpen = false) ∧
    ∀ w' tip, Completes settling options rollupId w tip w' → ∃ secs, w'.watch.windowSecs = some secs ∧
      ∀ b ∈ w.chain, 0 ≤ b.batchIndex → live b = true →
        (batchChallengeWindow b secs tip).isOpen = true →
        nearDeadline options (deadlineFor (some secs) b (some tip)) = true →
        ∃ info ∈ onDeadlineCalls w'.trace, posted info.batch = posted b := by
  constructor
  · intro b member isLive below
    obtain ⟨secs, earlier, known, read, closed⟩ := h.passed b member isLive below
    exact ⟨secs, known, fun tip current => batchChallengeWindow_closed (current earlier read) closed⟩
  · intro w' tip completes
    have polls := completes.toPolls
    obtain ⟨L, secs, whole, -, known, covered, -⟩ := h.completed polls
    refine ⟨secs, known, ?_⟩
    intro b member _ isLive isOpen near
    obtain ⟨-, mid, later, relied⟩ := h.tipRead polls
    have ahead : w.watch.pollFrom ≤ b.batchIndex := by
      by_contra below
      obtain ⟨secs₀, earlier, known₀, read, closed⟩ := h.passed b member isLive (not_le.mp below)
      obtain rfl : secs₀ = secs := Option.some.inj (((h.polled polls).secs _ known₀).symm.trans known)
      have shut := batchChallengeWindow_closed (relied earlier (later.subset read)) closed
      rw [isOpen] at shut
      cases shut
    have warned : keyOf b ∈ w'.watch.warned := by
      refine (covered.warned b ((whole b).mpr ⟨member, ahead⟩) isLive near).resolve_right ?_
      simp [completes.running]
    have after := h.poll polls
    rw [after.idle.warned] at warned
    obtain ⟨info, called, key⟩ := List.mem_map.mp warned
    obtain ⟨a, onChain, same⟩ := after.alerted info called
    rw [polls.chain] at onChain
    have index : a.batchIndex = b.batchIndex := (posted_fields same).1.trans (keyOf_inj key).1
    obtain rfl := h.same_of_index onChain member index
    exact ⟨info, called, same.symm⟩

end

def sampleOptions : WatchtowerOptions := { challengeWindowSecs := some 3600 }

def sampleWorld : World := ⟨[sampleBatch], initial sampleOptions, [], false⟩

def sampleNode : (q : Query) → Except JsError (Reply q) :=
  nodeAnswer [sampleBatch] ⟨1560, 0⟩ fun _ => .ok true

def sampleAlert : World := sampleWorld.after sampleNode sampleOptions "rollup" (initial sampleOptions)

theorem deadline_alerts_complete_sample :
    ∃ info ∈ onDeadlineCalls sampleAlert.trace, posted info.batch = posted sampleBatch := by
  have start : Reaches settling sampleOptions "rollup" sampleWorld := .start _ (by decide) (by decide)
  have ready : Ready sampleWorld (initial sampleOptions) := rfl
  have polls : Polls settling sampleOptions "rollup" sampleWorld
      (answeredPoll sampleNode sampleOptions "rollup" (initial sampleOptions) []).1 sampleAlert := by
    refine polls_after ready fun mid q given _ => ⟨serves_nodeAnswer _ _ _ q, ?_⟩
    cases q with
    | readTip =>
      intro earlier read
      rcases given _ _ read with before | same
      · simp [sampleWorld] at before
      · cases same
        exact ⟨le_refl _, le_refl _⟩
    | _ => trivial
  have ended : (answeredPoll sampleNode sampleOptions "rollup" (initial sampleOptions) []).1 =
      .ok (.completed (some ⟨1560, 0⟩)) := by decide
  rw [ended] at polls
  obtain ⟨secs, known, alerted⟩ := (deadline_alerts_complete start).2 sampleAlert _ ⟨polls, by decide⟩
  have window : sampleAlert.watch.windowSecs = some 3600 := by decide
  obtain rfl : secs = 3600 := Option.some.inj (known.symm.trans window)
  exact alerted sampleBatch (by simp [sampleWorld]) (by decide) (by decide) (by decide) (by decide)

end QorechainRdk.Watchtower
