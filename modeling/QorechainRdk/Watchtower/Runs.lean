import QorechainRdk.Watchtower.Discipline

/-!
# Runs against a chain

One watch polls a chain whose list of batches moves between the polls. A poll lists the batches once,
so nothing is lost by keeping the list as it is while the poll runs.
-/

namespace QorechainRdk.Watchtower

open Async

def posted (b : BatchView) : BatchView := { b with status := "submitted", finalizedAt := 0 }

/-- A batch is appended, or settles further, or a rejected one is replaced under its index. -/
inductive Moves (resubmits : BatchView → Prop) : List BatchView → List BatchView → Prop where
  | append {chain : List BatchView} (b : BatchView) (nonneg : 0 ≤ b.batchIndex)
      (newest : ∀ a ∈ chain, a.batchIndex < b.batchIndex) : Moves resubmits chain (chain ++ [b])
  | settle {before after : List BatchView} (b b' : BatchView) (same : posted b' = posted b)
      (final : live b' = true → live b = true) :
      Moves resubmits (before ++ b :: after) (before ++ b' :: after)
  | resubmit {before after : List BatchView} (b b' : BatchView) (rejected : b.status = "rejected")
      (same : b'.batchIndex = b.batchIndex) (allowed : resubmits b') :
      Moves resubmits (before ++ b :: after) (before ++ b' :: after)

structure World where
  chain : List BatchView
  watch : WatchState
  trace : Trace
  polled : Bool

/-- Which batches are resubmitted, and what is answered besides the list of the batches. -/
structure Environment where
  resubmits : World → BatchView → Prop
  answers : Trace → (q : Query) → Except JsError (Reply q) → Prop

/-- `listBatches` follows every page. -/
def serves (chain : List BatchView) : (q : Query) → Except JsError (Reply q) → Prop
  | .listBatches _ startIndex, .ok batches => ∀ b, b ∈ batches ↔ b ∈ chain ∧ startIndex ≤ b.batchIndex
  | _, _ => True

def Environment.rely (env : Environment) (w : World) (tr : Trace) (q : Query)
    (r : Except JsError (Reply q)) : Prop := serves w.chain q r ∧ env.answers tr q r

/-- The first poll starts at once, every later one when the timer runs out. -/
def Ready (w : World) (s : WatchState) : Prop := if w.polled then Fires w.watch s else s = w.watch

section
variable (env : Environment) (options : WatchtowerOptions) (rollupId : String)

structure Polls (w : World) (r : Except JsError PollEnd) (w' : World) : Prop where
  runs : ∃ s, Ready w s ∧ (tick options rollupId s).Runs interrupt (env.rely w)
    (w.trace ++ [.started]) r w'.watch w'.trace
  chain : w'.chain = w.chain
  polled : w'.polled = true

inductive Reaches : World → Prop where
  | start (chain : List BatchView) (nonneg : ∀ b ∈ chain, 0 ≤ b.batchIndex)
      (distinct : (chain.map BatchView.batchIndex).Nodup) : Reaches ⟨chain, initial options, [], false⟩
  | move {w : World} {chain : List BatchView} (before : Reaches w)
      (moved : Moves (env.resubmits w) w.chain chain) : Reaches { w with chain := chain }
  | poll {w w' : World} {r : Except JsError PollEnd} (before : Reaches w)
      (polls : Polls env options rollupId w r w') : Reaches w'
  | stop {w : World} (x : Interrupt) (before : Reaches w) (polled : w.polled = true) :
      Reaches { w with watch := interrupt x w.watch, trace := w.trace ++ [.acted x] }

end

section
variable {env : Environment} {options : WatchtowerOptions} {rollupId : String} {w w' : World}
  {r : Except JsError PollEnd} {a b : BatchView}

theorem Reaches.reachable (h : Reaches env options rollupId w) :
    if w.polled then Reachable options rollupId false ⟨w.watch, [], w.trace⟩
    else w.watch = initial options ∧ w.trace = [] := by
  induction h with
  | start chain nonneg distinct => exact ⟨rfl, rfl⟩
  | move before moved ih => exact ih
  | @poll w w' r before polls ih =>
    obtain ⟨s, ready, run⟩ := polls.runs
    have runs : (tick options rollupId s).Runs interrupt anyAnswer (w.trace ++ [.started]) r w'.watch
      w'.trace := run.mono fun _ _ _ _ => trivial
    rw [if_pos polls.polled]
    unfold Ready at ready
    split at ready
    · rename_i polled
      rw [if_pos polled] at ih
      exact ih.poll ready runs
    · rename_i first
      rw [if_neg first] at ih
      obtain ⟨watch, trace⟩ := ih
      rw [ready, watch, trace] at runs
      exact reachable_first runs
  | stop x before polled ih =>
    rw [if_pos polled] at ih ⊢
    exact ih.step (Step.act x)

theorem Reaches.idle (h : Reaches env options rollupId w) : Idle options w.watch w.trace := by
  have run := h.reachable
  split at run
  · exact run.idle rfl
  · rw [run.1, run.2]
    exact idle_initial options

def endOf : Except JsError PollEnd → PollEnd
  | .ok ended => ended
  | .error _ => .failed

theorem Polled.rearmed {rely : Trace → (q : Query) → Except JsError (Reply q) → Prop}
    {s s' : WatchState} {tr tr' : Trace} {ended : PollEnd} (quiet : List Nat)
    (h : Polled options rely rollupId { s with pending := quiet } tr ended s' tr') :
    Polled options rely rollupId s tr ended s' tr' :=
  ⟨h.toInv, h.longer, h.secs, h.cursor, h.swept, h.visits, h.completed⟩

theorem Reaches.polled (h : Reaches env options rollupId w) (polls : Polls env options rollupId w r w') :
    Polled options (env.rely w) rollupId w.watch (w.trace ++ [.started]) (endOf r) w'.watch w'.trace := by
  obtain ⟨s, ready, run⟩ := polls.runs
  obtain ⟨quiet, rfl, inv, idle, swept⟩ : ∃ quiet, s = { w.watch with pending := quiet } ∧
      Inv options [] s (w.trace ++ [.started]) ∧ s.pending = [] ∧ Swept s (w.trace ++ [.started]) := by
    unfold Ready at ready
    split at ready
    · have fired := idle_fires h.idle ready
      cases ready with
      | timer id held => exact ⟨_, rfl, fired⟩
    · rename_i first
      have run := h.reachable
      rw [if_neg first] at run
      rw [ready, run.1, run.2]
      have initially := idle_initial options
      exact ⟨[], rfl, inv_started initially.toInv rfl [], rfl, swept_started initially.swept []⟩
  have done := Tree.safe_runs (tick_spec inv idle swept) run
  refine Polled.rearmed quiet ?_
  cases r with
  | ok ended => exact done.1
  | error e => exact done.1

/-- What the trace holds as answered was answered by the environment. -/
theorem Reaches.answered (h : Reaches env options rollupId w) {q : Query} {r : Except JsError (Reply q)}
    (member : .answered q r ∈ w.trace) : ∃ mid, env.answers mid q r := by
  induction h with
  | start chain nonneg distinct => cases member
  | move before moved ih => exact ih member
  | poll before polls ih =>
    obtain ⟨s, -, run⟩ := polls.runs
    rcases run.answered member with old | ⟨mid, relied⟩
    · exact ih (by simpa using old)
    · exact ⟨mid, relied.2⟩
  | stop x before polled ih => exact ih (by simpa using member)

def World.after (w : World) (answer : (q : Query) → Except JsError (Reply q))
    (options : WatchtowerOptions) (rollupId : String) (s : WatchState) : World :=
  ⟨w.chain, (answeredPoll answer options rollupId s w.trace).2.1,
    (answeredPoll answer options rollupId s w.trace).2.2, true⟩

theorem polls_after {answer : (q : Query) → Except JsError (Reply q)} {s : WatchState} (ready : Ready w s)
    (relied : ∀ mid q, Given answer (w.trace ++ [.started]) mid →
      mid ++ [.answered q (answer q)] <+: (answeredPoll answer options rollupId s w.trace).2.2 →
        env.rely w mid q (answer q)) :
    Polls env options rollupId w (answeredPoll answer options rollupId s w.trace).1
      (w.after answer options rollupId s) :=
  ⟨⟨s, ready, answeredPoll_runs answer relied⟩, rfl, rfl⟩

theorem serves_nodeAnswer (chain : List BatchView) (tip : ChainTip)
    (validate : BatchView → Except JsError Bool) (q : Query) :
    serves chain q (nodeAnswer chain tip validate q) := by
  cases q with
  | listBatches rollupId startIndex =>
    intro b
    simp
  | _ => trivial

/-! ### The chain -/

theorem posted_fields (same : posted a = posted b) : a.batchIndex = b.batchIndex ∧
    a.stateRoot = b.stateRoot ∧ a.submittedTime = b.submittedTime ∧ a.submittedAt = b.submittedAt := by
  simp only [posted, BatchView.mk.injEq] at same
  simp [same]

theorem keyOf_posted (same : posted a = posted b) : keyOf a = keyOf b := by
  obtain ⟨index, root, -⟩ := posted_fields same
  simp [keyOf, index, root]

theorem Moves.of_mem {resubmits : BatchView → Prop} {chain chain' : List BatchView}
    (h : Moves resubmits chain chain') (member : b ∈ chain') :
    (∃ a ∈ chain, posted b = posted a ∧ (live b = true → live a = true)) ∨
      (0 ≤ b.batchIndex ∧ ∀ a ∈ chain, a.batchIndex < b.batchIndex) ∨ resubmits b := by
  cases h with
  | append c nonneg newest =>
    rcases List.mem_append.mp member with old | new
    · exact Or.inl ⟨b, old, rfl, id⟩
    · obtain rfl := List.mem_singleton.mp new
      exact Or.inr (Or.inl ⟨nonneg, newest⟩)
  | settle c c' same final =>
    rw [List.mem_append, List.mem_cons] at member
    rcases member with old | rfl | old
    · exact Or.inl ⟨b, by simp [old], rfl, id⟩
    · exact Or.inl ⟨c, by simp, same, final⟩
    · exact Or.inl ⟨b, by simp [old], rfl, id⟩
  | resubmit c c' rejected same allowed =>
    rw [List.mem_append, List.mem_cons] at member
    rcases member with old | rfl | old
    · exact Or.inl ⟨b, by simp [old], rfl, id⟩
    · exact Or.inr (Or.inr allowed)
    · exact Or.inl ⟨b, by simp [old], rfl, id⟩

theorem Moves.keeps {resubmits : BatchView → Prop} {chain chain' : List BatchView}
    (h : Moves resubmits chain chain') (member : a ∈ chain) :
    ∃ b ∈ chain', posted b = posted a ∨ resubmits b := by
  cases h with
  | append c nonneg newest => exact ⟨a, List.mem_append_left _ member, Or.inl rfl⟩
  | settle c c' same final =>
    rw [List.mem_append, List.mem_cons] at member
    rcases member with old | rfl | old
    · exact ⟨a, by simp [old], Or.inl rfl⟩
    · exact ⟨c', by simp, Or.inl same⟩
    · exact ⟨a, by simp [old], Or.inl rfl⟩
  | resubmit c c' rejected same allowed =>
    rw [List.mem_append, List.mem_cons] at member
    rcases member with old | rfl | old
    · exact ⟨a, by simp [old], Or.inl rfl⟩
    · exact ⟨c', by simp, Or.inr allowed⟩
    · exact ⟨a, by simp [old], Or.inl rfl⟩

theorem Moves.indexes {resubmits : BatchView → Prop} {chain chain' : List BatchView}
    (h : Moves resubmits chain chain') :
    chain'.map BatchView.batchIndex = chain.map BatchView.batchIndex ∨
      ∃ b, chain' = chain ++ [b] ∧ 0 ≤ b.batchIndex ∧ ∀ a ∈ chain, a.batchIndex < b.batchIndex := by
  cases h with
  | append b nonneg newest => exact Or.inr ⟨b, rfl, nonneg, newest⟩
  | settle b b' same final =>
    exact Or.inl (by simp [(posted_fields same).1])
  | resubmit b b' rejected same allowed => exact Or.inl (by simp [same])

theorem Reaches.distinct (h : Reaches env options rollupId w) :
    (w.chain.map BatchView.batchIndex).Nodup := by
  induction h with
  | start chain nonneg distinct => exact distinct
  | move before moved ih =>
    rcases moved.indexes with same | ⟨b, rfl, -, newest⟩
    · rwa [same]
    · rw [List.map_append, List.nodup_append]
      refine ⟨ih, by simp, ?_⟩
      rintro i old _ new rfl
      obtain ⟨a, member, rfl⟩ := List.mem_map.mp old
      have below := newest a member
      rw [← List.mem_singleton.mp new] at below
      exact absurd below (lt_irrefl _)
  | poll before polls ih => rwa [polls.chain]
  | stop x before polled ih => exact ih

theorem Reaches.same_of_index (h : Reaches env options rollupId w) (ha : a ∈ w.chain) (hb : b ∈ w.chain)
    (index : a.batchIndex = b.batchIndex) : a = b :=
  List.inj_on_of_nodup_map h.distinct ha hb index

/-! ### What a poll does -/

/-- The batches that a poll has come to are on the chain, from its cursor on. -/
theorem Reaches.visits (h : Reaches env options rollupId w) (polls : Polls env options rollupId w r w') :
    ∃ visited : List BatchView, (∀ b ∈ visited, b ∈ w.chain ∧ w.watch.pollFrom ≤ b.batchIndex) ∧
      w'.watch.nextStart = nextAfter w.watch.nextStart visited ∧
      (∀ b ∈ onBatchCalls w'.trace, b ∈ onBatchCalls w.trace ∨ b ∈ visited) ∧
      ∀ i ∈ onDeadlineCalls w'.trace, i ∈ onDeadlineCalls w.trace ∨ i.batch ∈ visited := by
  obtain ⟨L, visited, within, listed, next, calls, alerts⟩ := (h.polled polls).visits
  refine ⟨visited, ?_, next, by simpa using calls, by simpa using alerts⟩
  intro b member
  obtain ⟨mid, -, served, -⟩ := listed (List.ne_nil_of_mem member)
  exact (served b).mp (within member)

theorem Reaches.completed {tip : Option ChainTip} (h : Reaches env options rollupId w)
    (polls : Polls env options rollupId w (.ok (.completed tip)) w') :
    ∃ L secs, (∀ b, b ∈ L ↔ b ∈ w.chain ∧ w.watch.pollFrom ≤ b.batchIndex) ∧
      pollListing w'.trace = L ∧ w'.watch.windowSecs = some secs ∧
      Covered options (some secs) tip L w'.watch ∧ w'.watch.nextStart = nextAfter w.watch.nextStart L ∧
      w'.watch.pollFrom =
        if tip.isSome then (oldestAfter (some secs) tip L).getD w'.watch.nextStart else w.watch.pollFrom := by
  obtain ⟨L, secs, ⟨mid, -, served, -⟩, listing, -, known, covered, next, cursor⟩ :=
    (h.polled polls).completed tip rfl
  exact ⟨L, secs, served, listing, known, covered, next, cursor⟩

theorem Reaches.tipRead {tip : ChainTip} (h : Reaches env options rollupId w)
    (polls : Polls env options rollupId w (.ok (.completed (some tip))) w') :
    .answered .readTip (.ok tip) ∈ w'.trace ∧ ∃ mid, w.trace <+: mid ∧ env.answers mid .readTip (.ok tip) := by
  obtain ⟨-, -, -, -, read, -⟩ := (h.polled polls).completed _ rfl
  obtain ⟨here, mid, later, relied⟩ := read tip rfl
  exact ⟨here, mid, (List.prefix_append _ _).trans later, relied.2⟩

theorem Reaches.longer (h : Reaches env options rollupId w) (polls : Polls env options rollupId w r w') :
    w.trace <+: w'.trace := (List.prefix_append _ _).trans (h.polled polls).longer

/-- The cursor moves only in a poll that comes to its end. -/
theorem Reaches.unmoved (h : Reaches env options rollupId w) (polls : Polls env options rollupId w r w')
    (unfinished : ¬ ∃ tip, r = .ok (.completed tip)) : w'.watch.pollFrom = w.watch.pollFrom := by
  refine (h.polled polls).cursor fun tip ended => unfinished ⟨tip, ?_⟩
  cases r with
  | ok e => exact congrArg Except.ok ended
  | error e => cases ended

theorem Reaches.called_index (h : Reaches env options rollupId w) :
    ∀ c ∈ onBatchCalls w.trace, c.batchIndex ∈ w.chain.map BatchView.batchIndex := by
  induction h with
  | start chain nonneg distinct => simp [asks]
  | move before moved ih =>
    intro c called
    rcases moved.indexes with same | ⟨b, rfl, -⟩
    · rw [same]
      exact ih c called
    · rw [List.map_append]
      exact List.mem_append_left _ (ih c called)
  | poll before polls ih =>
    intro c called
    obtain ⟨visited, within, -, calls, -⟩ := before.visits polls
    rw [polls.chain]
    rcases calls c called with old | new
    · exact ih c old
    · exact List.mem_map_of_mem (within c new).1
  | stop x before polled ih =>
    intro c called
    simp only [asks_acted_one] at called
    exact ih c called

/-- A batch whose index is above all that the chain has is not remembered. -/
theorem Reaches.unseen_of_newest (h : Reaches env options rollupId w)
    (newest : ∀ a ∈ w.chain, a.batchIndex < b.batchIndex) : keyOf b ∉ w.watch.seen := by
  intro known
  rw [h.idle.seen] at known
  obtain ⟨c, called, key⟩ := List.mem_map.mp known
  obtain ⟨a, member, index⟩ := List.mem_map.mp (h.called_index c called)
  have below := newest a member
  have same := (keyOf_inj key).1
  omega

theorem nextAfter_le {n m : Int} {visited : List BatchView} (start : n ≤ m)
    (below : ∀ b ∈ visited, b.batchIndex < m) : nextAfter n visited ≤ m := by
  unfold nextAfter
  induction visited generalizing n with
  | nil => exact start
  | cons b visited ih =>
    have here := below b List.mem_cons_self
    refine ih ?_ fun a member => below a (List.mem_cons_of_mem _ member)
    change (if n ≤ b.batchIndex then b.batchIndex + 1 else n) ≤ m
    split <;> omega

theorem oldestAfter_mem {secs : Option Int} {tip : Option ChainTip} {n : Int} {visited : List BatchView}
    (h : oldestAfter secs tip visited = some n) : ∃ b ∈ visited, b.batchIndex = n := by
  induction visited using List.reverseRecOn generalizing n with
  | nil => cases h
  | append_singleton visited b ih =>
    rw [oldestAfter, List.foldl_append] at h
    change oldestStep secs tip (oldestAfter secs tip visited) b = some n at h
    unfold oldestStep at h
    split at h
    · cases before : oldestAfter secs tip visited with
      | none =>
        rw [before] at h
        exact ⟨b, by simp, Option.some.inj h⟩
      | some oldest =>
        rw [before] at h
        obtain ⟨a, member, index⟩ := ih before
        by_cases lower : b.batchIndex < oldest
        · exact ⟨b, by simp, by simpa [lower] using h⟩
        · exact ⟨a, by simp [member], by simpa [lower, index] using h⟩
    · obtain ⟨a, member, index⟩ := ih h
      exact ⟨a, by simp [member], index⟩

theorem Reaches.cursor_le (h : Reaches env options rollupId w) {n : Int} (nonneg : 0 ≤ n)
    (newest : ∀ a ∈ w.chain, a.batchIndex < n) : w.watch.nextStart ≤ n ∧ w.watch.pollFrom ≤ n := by
  induction h with
  | start chain above distinct => exact ⟨nonneg, nonneg⟩
  | move before moved ih =>
    refine ih ?_
    intro a member
    have index := List.mem_map_of_mem (f := BatchView.batchIndex) member
    rcases moved.indexes with same | ⟨b, rfl, -⟩
    · rw [← same] at index
      obtain ⟨a', member', index'⟩ := List.mem_map.mp index
      rw [← index']
      exact newest a' member'
    · exact newest a (List.mem_append_left _ member)
  | @poll w w' r before polls ih =>
    rw [polls.chain] at newest
    obtain ⟨next, cursor⟩ := ih newest
    obtain ⟨visited, within, start, -⟩ := before.visits polls
    have next' : w'.watch.nextStart ≤ n := by
      rw [start]
      exact nextAfter_le next fun b member => newest b (within b member).1
    refine ⟨next', ?_⟩
    by_cases finished : ∃ tip, r = .ok (.completed tip)
    · obtain ⟨tip, rfl⟩ := finished
      obtain ⟨L, secs, whole, -, -, -, -, moved⟩ := before.completed polls
      rw [moved]
      split
      · cases oldest : oldestAfter (some secs) tip L with
        | none => exact next'
        | some o =>
          obtain ⟨b, member, rfl⟩ := oldestAfter_mem oldest
          exact le_of_lt (newest b ((whole b).mp member).1)
      · exact cursor
    · rwa [before.unmoved polls finished]
  | stop x before polled ih => exact ih newest

end

end QorechainRdk.Watchtower
