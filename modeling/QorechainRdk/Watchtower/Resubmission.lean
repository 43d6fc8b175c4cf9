import QorechainRdk.Watchtower.Validator

/-!
# Resubmitted batches

What becomes of a batch that is posted under an index that was used before.
-/

namespace QorechainRdk.Watchtower

open Async

section
variable {env : Environment} {options : WatchtowerOptions} {rollupId : String} {w w' : World}
  {r : Except JsError PollEnd} {b : BatchView}

theorem Reaches.handed (h : Reaches env options rollupId w) (polls : Polls env options rollupId w r w')
    (member : b ∈ w.chain) (fresh : keyOf b ∉ w.watch.seen) :
    keyOf b ∉ w'.watch.seen ∨ b ∈ onBatchCalls w'.trace := by
  rw [(h.poll polls).idle.seen]
  refine or_iff_not_imp_left.mpr fun known => ?_
  obtain ⟨c, called, key⟩ := List.mem_map.mp (not_not.mp known)
  obtain ⟨visited, within, -, calls, -⟩ := h.visits polls
  rcases calls c called with old | new
  · rw [h.idle.seen, ← key] at fresh
    exact absurd (List.mem_map_of_mem old) fresh
  · obtain rfl := h.same_of_index (within c new).1 member (keyOf_inj key).1
    exact called

/-- A poll that comes to its end remembers every batch from its cursor on. -/
theorem Reaches.covers {tip : Option ChainTip} (h : Reaches env options rollupId w)
    (polls : Polls env options rollupId w (.ok (.completed tip)) w') (member : b ∈ w.chain)
    (ahead : w.watch.pollFrom ≤ b.batchIndex) : keyOf b ∈ w'.watch.seen := by
  obtain ⟨L, secs, whole, -, -, covered, -⟩ := h.completed polls
  exact covered.seen b ((whole b).mpr ⟨member, ahead⟩)

/-- A live batch that was handed over went to the predicate, unless `onBatch` threw. -/
theorem Reaches.validated (h : Reaches env options rollupId w) (supplied : options.validate = true)
    (called : b ∈ onBatchCalls w.trace) (isLive : live b = true)
    (returned : ∀ e, .answered (.onBatch b) (.error e) ∉ w.trace) :
    b ∈ validateCalls w.trace ∧
      ((∃ e, Async.Event.answered (.validate b) (.error e) ∈ w.trace) ∨
        ∃ v : Bool, Async.Event.answered (.validate b) (.ok v) ∈ w.trace ∧
          (v = false → (∃ info ∈ onInvalidCalls w.trace, info.batch = b) ∨ StoppedIn w.trace)) := by
  rcases h.idle.judged supplied b called isLive with opened | ⟨e, threw⟩ | done
  · cases opened
  · exact absurd threw (returned e)
  · exact done

end

def onBatchReturns : (q : Query) → Except JsError (Reply q) → Prop
  | .onBatch b, .error _ => live b = false
  | _, _ => True

/-! ### Every live batch is judged -/

/-- The module's own account: any batch is resubmitted at any time, and anything is answered. -/
def documented : Environment where
  resubmits := fun _ _ => True
  answers := fun _ _ _ => True

def JudgesAll (env : Environment) (options : WatchtowerOptions) (rollupId : String) : Prop :=
  ∀ w w' tip, Reaches env options rollupId w →
    Polls env options rollupId w (.ok (.completed (some tip))) w' → ∀ b ∈ w.chain, live b = true →
    windowOpen (deadlineFor w'.watch.windowSecs b (some tip)) = true →
    (∃ c ∈ onBatchCalls w'.trace, c.batchIndex = b.batchIndex ∧ c.stateRoot = b.stateRoot) ∧
      ∃ c ∈ validateCalls w'.trace, c.batchIndex = b.batchIndex ∧ c.stateRoot = b.stateRoot

def Handled (tr : Trace) (b : BatchView) : Prop :=
  ∃ c ∈ onBatchCalls tr, c ∈ validateCalls tr ∧ keyOf c = keyOf b

/-- The cursor has not passed the batch, and its key is not remembered. -/
def Waits (w : World) (b : BatchView) : Prop := w.watch.pollFrom ≤ b.batchIndex ∧ keyOf b ∉ w.watch.seen

/-- A batch is resubmitted ahead of the cursor and under a fresh key, if its key was not validated. -/
def timely : Environment where
  resubmits := fun w b => Handled w.trace b ∨ Waits w b
  answers := fun _ => onBatchReturns

theorem Handled.mono {tr tr' : Trace} {a b : BatchView} (h : Handled tr b) (same : posted a = posted b)
    (longer : tr <+: tr') : Handled tr' a := by
  obtain ⟨c, called, validated, key⟩ := h
  obtain ⟨more, rfl⟩ := longer
  exact ⟨c, by simp [asks_append, called], by simp [asks_append, validated], key.trans (keyOf_posted same).symm⟩

section
variable {options : WatchtowerOptions} {rollupId : String} {w : World}

theorem Reaches.handled_or_waits (h : Reaches timely options rollupId w) (supplied : options.validate = true) :
    ∀ b ∈ w.chain, live b = true → Handled w.trace b ∨ Waits w b := by
  induction h with
  | start chain nonneg distinct => exact fun b member _ => Or.inr ⟨nonneg b member, by simp [initial]⟩
  | move before moved ih =>
    intro b member isLive
    rcases moved.of_mem member with ⟨a, old, same, was⟩ | ⟨nonneg, newest⟩ | allowed
    · refine (ih a old (was isLive)).imp (fun done => done.mono same (List.prefix_refl _)) ?_
      rintro ⟨ahead, fresh⟩
      exact ⟨(posted_fields same).1 ▸ ahead, keyOf_posted same ▸ fresh⟩
    · exact Or.inr ⟨(before.cursor_le nonneg newest).2, before.unseen_of_newest newest⟩
    · exact allowed
  | @poll w w' r before polls ih =>
    intro b member isLive
    rw [polls.chain] at member
    rcases ih b member isLive with done | ⟨ahead, fresh⟩
    · exact Or.inl (done.mono rfl (before.longer polls))
    have after := before.poll polls
    rcases before.handed polls member fresh with unseen | called
    · -- The cursor moves only in a poll that has come to every batch.
      refine Or.inr ⟨?_, unseen⟩
      by_cases finished : ∃ tip, r = .ok (.completed tip)
      · obtain ⟨tip, rfl⟩ := finished
        exact absurd (before.covers polls member ahead) unseen
      · rwa [before.unmoved polls finished]
    · have returned : ∀ e, .answered (.onBatch b) (.error e) ∉ w'.trace := by
        intro e threw
        obtain ⟨mid, dead⟩ := after.answered threw
        change live b = false at dead
        rw [isLive] at dead
        cases dead
      exact Or.inl ⟨b, called, (after.validated supplied called isLive returned).1, rfl⟩
  | stop x before polled ih =>
    intro b member isLive
    exact (ih b member isLive).imp_left fun done => done.mono rfl (List.prefix_append _ _)

theorem judgesAll_of_timely (supplied : options.validate = true) : JudgesAll timely options rollupId := by
  intro w w' tip before polls b member isLive _
  have after := before.poll polls
  have done : Handled w'.trace b := by
    rcases before.handled_or_waits supplied b member isLive with done | ⟨ahead, -⟩
    · exact done.mono rfl (before.longer polls)
    · have known := before.covers polls member ahead
      rw [← polls.chain] at member
      exact (after.handled_or_waits supplied b member isLive).resolve_right fun waits => waits.2 known
  obtain ⟨c, called, validated, key⟩ := done
  exact ⟨⟨c, called, keyOf_inj key⟩, ⟨c, validated, keyOf_inj key⟩⟩

end

def rejectedBatch : BatchView := { sampleBatch with batchIndex := 1, status := "rejected" }

def resubmittedBatch : BatchView := { sampleBatch with batchIndex := 1, stateRoot := "bb" }

def sampleTip : ChainTip := ⟨1100, 0⟩

def openStart : World := ⟨[sampleBatch, rejectedBatch], initial {}, [], false⟩

/-- Batch 0 is open at the first poll, so the cursor stays in front of the rejected index. -/
def openFirst : World :=
  openStart.after (nodeAnswer [sampleBatch, rejectedBatch] sampleTip fun _ => .ok true) {} "rollup" (initial {})

def openMoved : World := { openFirst with chain := [sampleBatch, resubmittedBatch] }

def openNode : (q : Query) → Except JsError (Reply q) :=
  nodeAnswer [sampleBatch, resubmittedBatch] sampleTip fun _ => .ok true

def openSecond : World := openMoved.after openNode {} "rollup" { openMoved.watch with pending := [] }

theorem onBatchReturns_nodeAnswer (chain : List BatchView) (tip : ChainTip)
    (validate : BatchView → Except JsError Bool) (q : Query) : onBatchReturns q (nodeAnswer chain tip validate q) := by
  cases q with
  | _ => trivial

/-- A run with a resubmission ahead of the cursor, whose second poll judges it. -/
theorem judgesAll_of_timely_sample : Reaches timely {} "rollup" openMoved ∧
    Polls timely {} "rollup" openMoved (.ok (.completed (some sampleTip))) openSecond ∧
    ∃ c ∈ validateCalls openSecond.trace, c.batchIndex = 1 ∧ c.stateRoot = "bb" := by
  have start : Reaches timely {} "rollup" openStart := .start _ (by decide) (by decide)
  have ready : Ready openStart (initial {}) := rfl
  have first : Reaches timely {} "rollup" openFirst :=
    start.poll (polls_after ready fun _ q _ _ => ⟨serves_nodeAnswer _ _ _ q, onBatchReturns_nodeAnswer _ _ _ q⟩)
  have waits : openFirst.watch.pollFrom ≤ 1 ∧ keyOf resubmittedBatch ∉ openFirst.watch.seen := by decide +kernel
  have replaced : Moves (timely.resubmits openFirst) ([sampleBatch] ++ rejectedBatch :: [])
      ([sampleBatch] ++ resubmittedBatch :: []) := .resubmit _ _ rfl rfl (Or.inr waits)
  have moved : Reaches timely {} "rollup" openMoved := first.move replaced
  have again : Ready openMoved { openMoved.watch with pending := [] } := Fires.timer 0 (by decide +kernel)
  have second : Polls timely {} "rollup" openMoved
      (answeredPoll openNode {} "rollup" { openMoved.watch with pending := [] } openMoved.trace).1 openSecond :=
    polls_after again fun _ q _ _ => ⟨serves_nodeAnswer _ _ _ q, onBatchReturns_nodeAnswer _ _ _ q⟩
  have ended : (answeredPoll openNode {} "rollup" { openMoved.watch with pending := [] } openMoved.trace).1 =
      .ok (.completed (some sampleTip)) := by decide +kernel
  rw [ended] at second
  obtain ⟨-, judged⟩ := judgesAll_of_timely rfl _ _ _ moved second resubmittedBatch (by decide) (by decide)
    (by decide +kernel)
  exact ⟨moved, second, judged⟩

/-! ### A resubmission behind the cursor -/

def settledBatch : BatchView := { sampleBatch with status := "finalized", finalizedAt := 1050 }

def skipStart : World := ⟨[settledBatch, rejectedBatch], initial {}, [], false⟩

/-- Nothing is open at the first poll, so the cursor goes past the rejected index. -/
def skipFirst : World :=
  skipStart.after (nodeAnswer [settledBatch, rejectedBatch] sampleTip fun _ => .ok true) {} "rollup" (initial {})

def skipMoved : World := { skipFirst with chain := [settledBatch, resubmittedBatch] }

def skipNode : (q : Query) → Except JsError (Reply q) :=
  nodeAnswer [settledBatch, resubmittedBatch] sampleTip fun _ => .ok true

def skipSecond : World := skipMoved.after skipNode {} "rollup" { skipMoved.watch with pending := [] }

theorem not_judgesAll : ¬ JudgesAll documented {} "rollup" := by
  intro judges
  have start : Reaches documented {} "rollup" skipStart := .start _ (by decide) (by decide)
  have ready : Ready skipStart (initial {}) := rfl
  have first : Reaches documented {} "rollup" skipFirst :=
    start.poll (polls_after ready fun _ q _ _ => ⟨serves_nodeAnswer _ _ _ q, trivial⟩)
  have replaced : Moves (documented.resubmits skipFirst) ([settledBatch] ++ rejectedBatch :: [])
      ([settledBatch] ++ resubmittedBatch :: []) := .resubmit _ _ rfl rfl trivial
  have moved : Reaches documented {} "rollup" skipMoved := first.move replaced
  have again : Ready skipMoved { skipMoved.watch with pending := [] } := Fires.timer 0 (by decide +kernel)
  have second : Polls documented {} "rollup" skipMoved
      (answeredPoll skipNode {} "rollup" { skipMoved.watch with pending := [] } skipMoved.trace).1 skipSecond :=
    polls_after again fun _ q _ _ => ⟨serves_nodeAnswer _ _ _ q, trivial⟩
  have ended : (answeredPoll skipNode {} "rollup" { skipMoved.watch with pending := [] } skipMoved.trace).1 =
      .ok (.completed (some sampleTip)) := by decide +kernel
  rw [ended] at second
  obtain ⟨⟨c, called, key⟩, -⟩ := judges _ _ _ moved second resubmittedBatch (by decide) (by decide)
    (by decide +kernel)
  have never : ∀ c ∈ onBatchCalls skipSecond.trace, ¬ (c.batchIndex = 1 ∧ c.stateRoot = "bb") := by
    decide +kernel
  exact never c called key

/-! ### Batches that differ are judged apart -/

def ruleInputs (b : BatchView) : String × String × Int × String × String :=
  (b.prevStateRoot, b.dataHash, b.txCount, b.withdrawalsRoot, b.stateRoot)

section
variable (shake256 : Bytes → Bytes) (client : RdkClient) (rollupId : String)

/-- The predicate is the chain's rule, and no read fails. -/
def ruleAnswers : (q : Query) → Except JsError (Reply q) → Prop
  | .validate b, r => r = transitionRootValidator shake256 client rollupId b
  | q, r => isRead q = true → ∃ a, r = .ok a

def fraudRule : Environment where
  resubmits := fun _ _ => True
  answers := fun _ => ruleAnswers shake256 client rollupId

def JudgesApart (env : Environment) (options : WatchtowerOptions) : Prop :=
  ∀ w w' tip b₁ b₂, Reaches env options rollupId w →
    Polls env options rollupId w (.ok (.completed (some tip))) w' →
    b₁ ∈ listed w.trace → live b₁ = true → b₂ ∈ pollListing w'.trace → live b₂ = true →
    b₁.batchIndex = b₂.batchIndex → ruleInputs b₁ ≠ ruleInputs b₂ →
    (∃ c ∈ validateCalls w'.trace, posted c = posted b₂) ∧
      ∀ published root, decodeWireBytes b₂.stateRoot = .ok published →
        canonicalRootFor shake256 client rollupId b₂ = .ok root → published ≠ root →
        (∃ info ∈ onInvalidCalls w'.trace, posted info.batch = posted b₂) ∨ StoppedIn w'.trace

def HandedLive (tr : Trace) (b : BatchView) : Prop :=
  ∃ c ∈ onBatchCalls tr, live c = true ∧ posted c = posted b

/-- A batch that differs from those handed over is resubmitted under a fresh root. -/
def freshRule : Environment where
  resubmits := fun w b => HandedLive w.trace b ∨ keyOf b ∉ w.watch.seen
  answers := fun _ q r => ruleAnswers shake256 client rollupId q r ∧ onBatchReturns q r

end

theorem HandedLive.mono {tr tr' : Trace} {a b : BatchView} (h : HandedLive tr b) (same : posted a = posted b)
    (longer : tr <+: tr') : HandedLive tr' a := by
  obtain ⟨c, called, isLive, posted⟩ := h
  obtain ⟨more, rfl⟩ := longer
  exact ⟨c, by simp [asks_append, called], isLive, posted.trans same.symm⟩

section
variable {shake256 : Bytes → Bytes} {client : RdkClient} {options : WatchtowerOptions}
  {rollupId : String} {w : World}

theorem Reaches.handedLive_or_fresh (h : Reaches (freshRule shake256 client rollupId) options rollupId w) :
    ∀ b ∈ w.chain, live b = true → HandedLive w.trace b ∨ keyOf b ∉ w.watch.seen := by
  induction h with
  | start chain nonneg distinct => exact fun b member _ => Or.inr (by simp [initial])
  | move before moved ih =>
    intro b member isLive
    rcases moved.of_mem member with ⟨a, old, same, was⟩ | ⟨nonneg, newest⟩ | allowed
    · refine (ih a old (was isLive)).imp (fun done => done.mono same (List.prefix_refl _)) fun fresh => ?_
      exact keyOf_posted same ▸ fresh
    · exact Or.inr (before.unseen_of_newest newest)
    · exact allowed
  | poll before polls ih =>
    intro b member isLive
    rw [polls.chain] at member
    rcases ih b member isLive with done | fresh
    · exact Or.inl (done.mono rfl (before.longer polls))
    · exact (before.handed polls member fresh).symm.imp_left fun called => ⟨b, called, isLive, rfl⟩
  | stop x before polled ih =>
    intro b member isLive
    exact (ih b member isLive).imp_left fun done => done.mono rfl (List.prefix_append _ _)

theorem judgesApart_of_fresh (supplied : options.validate = true) :
    JudgesApart shake256 client rollupId (freshRule shake256 client rollupId) options := by
  intro w w' tip b₁ b₂ before polls _ _ here isLive _ _
  have after := before.poll polls
  obtain ⟨L, secs, whole, listing, -, covered, -⟩ := before.completed polls
  rw [listing] at here
  have member : b₂ ∈ w'.chain := polls.chain ▸ ((whole b₂).mp here).1
  have known : keyOf b₂ ∈ w'.watch.seen := covered.seen b₂ here
  obtain ⟨c, called, cLive, same⟩ :=
    (after.handedLive_or_fresh b₂ member isLive).resolve_right (not_not.mpr known)
  have returned : ∀ e, .answered (.onBatch c) (.error e) ∉ w'.trace := by
    intro e threw
    obtain ⟨mid, -, dead⟩ := after.answered threw
    change live c = false at dead
    rw [cLive] at dead
    cases dead
  obtain ⟨validated, judged⟩ := after.validated supplied called cLive returned
  refine ⟨⟨c, validated, same⟩, ?_⟩
  intro published root decoded canonical differs
  have rule : transitionRootValidator shake256 client rollupId c = .ok false := by
    have root_ok : decodeWireBytes c.stateRoot = .ok published := by rwa [(posted_fields same).2.1]
    rw [transitionRootValidator_ok root_ok ((canonicalRootFor_posted same).trans canonical),
      decide_eq_false differs]
  rcases judged with ⟨e, threw⟩ | ⟨v, verdict, told⟩
  · obtain ⟨mid, answer, -⟩ := after.answered threw
    change _ = transitionRootValidator shake256 client rollupId c at answer
    rw [rule] at answer
    cases answer
  · obtain ⟨mid, answer, -⟩ := after.answered verdict
    change _ = transitionRootValidator shake256 client rollupId c at answer
    rw [rule] at answer
    cases answer
    exact (told rfl).imp_left fun ⟨info, member, batch⟩ => ⟨info, member, batch ▸ same⟩

end

/-! ### A resubmission under the same root -/

def twinBatch : BatchView := { sampleBatch with dataHash := "11" }

def sampleClient : RdkClient where
  rest :=
    { getRollup := fun _ => .ok { creator := "", layerId := "" }
      getBatch := fun _ _ => fail "not found"
      getAnchors := fun _ => .ok []
      getLatestAnchor := fun _ => fail "not found"
      getPqcAccount := fun _ => fail "not found"
      getAppliedPlanHeight := fun _ => .ok 0 }
  network := ⟨"qorechain-diana", 0⟩

def twinStart : World := ⟨[sampleBatch], initial {}, [], false⟩

section
variable (verdict : Bool)

def twinNode (b : BatchView) : (q : Query) → Except JsError (Reply q) :=
  nodeAnswer [b] sampleTip fun _ => .ok verdict

def twinFirst : World := twinStart.after (twinNode verdict sampleBatch) {} "rollup" (initial {})

def twinMoved : World := { twinFirst verdict with chain := [twinBatch] }

def twinSecond : World :=
  (twinMoved verdict).after (twinNode verdict twinBatch) {} "rollup"
    { (twinMoved verdict).watch with pending := [] }

end

def judgedIn : Event → Option BatchView
  | .answered (.validate b) _ => some b
  | _ => none

/-- The node gives the rule's verdict on each batch that it is asked about. -/
theorem twinNode_ruled {shake256 : Bytes → Bytes} {verdict : Bool} {b : BatchView} {mid tr : Trace} {q : Query}
    (judged : ∀ c ∈ tr.filterMap judgedIn, transitionRootValidator shake256 sampleClient "rollup" c = .ok verdict)
    (asked : mid ++ [.answered q (twinNode verdict b q)] <+: tr) :
    ruleAnswers shake256 sampleClient "rollup" q (twinNode verdict b q) := by
  cases q with
  | validate c =>
    exact (judged c (List.mem_filterMap.mpr
      ⟨_, asked.subset (List.mem_append_right _ (List.mem_singleton_self _)), rfl⟩)).symm
  | _ => exact fun _ => ⟨_, rfl⟩

def zeroHash : Bytes → Bytes := fun _ => List.replicate 32 0

/-- Another batch of the index, under another root. -/
def freshBatch : BatchView := { sampleBatch with stateRoot := "bb", dataHash := "11" }

def freshMoved : World := { twinFirst false with chain := [freshBatch] }

def freshSecond : World :=
  freshMoved.after (twinNode false freshBatch) {} "rollup" { freshMoved.watch with pending := [] }

theorem freshRule_relied {w : World} {b : BatchView} {mid tr : Trace} {q : Query} (chain : w.chain = [b])
    (only : ∀ c ∈ tr.filterMap judgedIn, c = sampleBatch ∨ c = freshBatch)
    (asked : mid ++ [.answered q (twinNode false b q)] <+: tr) :
    (freshRule zeroHash sampleClient "rollup").rely w mid q (twinNode false b q) := by
  refine ⟨chain ▸ serves_nodeAnswer [b] sampleTip _ q, twinNode_ruled ?_ asked, onBatchReturns_nodeAnswer [b] _ _ q⟩
  intro c member
  rcases only c member with rfl | rfl
  · rfl
  · rfl

/-- A run with a resubmission under a fresh root, which the second poll validates and reports. -/
theorem judgesApart_of_fresh_sample :
    Reaches (freshRule zeroHash sampleClient "rollup") {} "rollup" freshMoved ∧
      Polls (freshRule zeroHash sampleClient "rollup") {} "rollup" freshMoved (.ok (.completed (some sampleTip)))
        freshSecond ∧
      (∃ c ∈ validateCalls freshSecond.trace, posted c = posted freshBatch) ∧
      ((∃ info ∈ onInvalidCalls freshSecond.trace, posted info.batch = posted freshBatch) ∨
        StoppedIn freshSecond.trace) := by
  have only₁ : ∀ c ∈ (twinFirst false).trace.filterMap judgedIn, c = sampleBatch ∨ c = freshBatch := by
    decide +kernel
  have only₂ : ∀ c ∈ freshSecond.trace.filterMap judgedIn, c = sampleBatch ∨ c = freshBatch := by decide +kernel
  have start : Reaches (freshRule zeroHash sampleClient "rollup") {} "rollup" twinStart :=
    .start _ (by decide) (by decide)
  have ready : Ready twinStart (initial {}) := rfl
  have first : Reaches (freshRule zeroHash sampleClient "rollup") {} "rollup" (twinFirst false) :=
    start.poll (polls_after ready fun _ _ _ asked => freshRule_relied rfl only₁ asked)
  have rejected : Moves ((freshRule zeroHash sampleClient "rollup").resubmits (twinFirst false))
      ([] ++ sampleBatch :: []) ([] ++ { sampleBatch with status := "rejected" } :: []) :=
    .settle _ _ rfl (by decide)
  have unseen : keyOf freshBatch ∉ (twinFirst false).watch.seen := by decide +kernel
  have replaced : Moves ((freshRule zeroHash sampleClient "rollup").resubmits (twinFirst false))
      ([] ++ { sampleBatch with status := "rejected" } :: []) ([] ++ freshBatch :: []) :=
    .resubmit _ _ rfl rfl (Or.inr unseen)
  have moved : Reaches (freshRule zeroHash sampleClient "rollup") {} "rollup" freshMoved :=
    (first.move rejected).move replaced
  have again : Ready freshMoved { freshMoved.watch with pending := [] } := Fires.timer 0 (by decide +kernel)
  have second := polls_after again fun _ _ _ asked => freshRule_relied rfl only₂ asked
  have ended : (answeredPoll (twinNode false freshBatch) {} "rollup" { freshMoved.watch with pending := [] }
      freshMoved.trace).1 = .ok (.completed (some sampleTip)) := by decide +kernel
  rw [ended] at second
  have listedFirst : sampleBatch ∈ listed freshMoved.trace := by decide +kernel
  have listedSecond : freshBatch ∈ pollListing freshSecond.trace := by decide +kernel
  obtain ⟨validated, reported⟩ := judgesApart_of_fresh rfl _ _ _ sampleBatch freshBatch moved second listedFirst
    (by decide) listedSecond (by decide) rfl (by decide)
  exact ⟨moved, second, validated, reported [0xbb] (List.replicate 32 0) rfl rfl (by decide)⟩

/-- Whatever the hash function, only the first of the two is ever validated. -/
theorem not_judgesApart : ¬ ∃ shake256, JudgesApart shake256 sampleClient "rollup"
    (fraudRule shake256 sampleClient "rollup") {} := by
  rintro ⟨shake256, judges⟩
  obtain ⟨verdict, judged⟩ :
      ∃ v, transitionRootValidator shake256 sampleClient "rollup" sampleBatch = .ok v := ⟨_, rfl⟩
  have only₁ : ∀ v, ∀ c ∈ (twinFirst v).trace.filterMap judgedIn, c = sampleBatch := by decide +kernel
  have only₂ : ∀ v, ∀ c ∈ (twinSecond v).trace.filterMap judgedIn, c = sampleBatch := by decide +kernel
  have start : Reaches (fraudRule shake256 sampleClient "rollup") {} "rollup" twinStart :=
    .start _ (by decide) (by decide)
  have ready : Ready twinStart (initial {}) := rfl
  have first : Reaches (fraudRule shake256 sampleClient "rollup") {} "rollup" (twinFirst verdict) :=
    start.poll (polls_after ready fun _ q _ asked =>
      ⟨serves_nodeAnswer _ _ _ q, twinNode_ruled (fun c member => only₁ verdict c member ▸ judged) asked⟩)
  have rejected : Moves (fun _ => True) ([] ++ sampleBatch :: [])
      ([] ++ { sampleBatch with status := "rejected" } :: []) := .settle _ _ rfl (by decide)
  have replaced : Moves (fun _ => True) ([] ++ { sampleBatch with status := "rejected" } :: [])
      ([] ++ twinBatch :: []) := .resubmit _ _ rfl rfl trivial
  have moved : Reaches (fraudRule shake256 sampleClient "rollup") {} "rollup" (twinMoved verdict) :=
    (first.move rejected).move replaced
  have armed : ∀ v, 0 ∈ (twinMoved v).watch.pending ∧ (twinMoved v).watch.pending.erase 0 = [] := by
    decide +kernel
  have again : Ready (twinMoved verdict) { (twinMoved verdict).watch with pending := [] } := by
    have fired := Fires.timer 0 (armed verdict).1
    rw [(armed verdict).2] at fired
    exact fired
  have second : Polls (fraudRule shake256 sampleClient "rollup") {} "rollup" (twinMoved verdict)
      (answeredPoll (twinNode verdict twinBatch) {} "rollup" { (twinMoved verdict).watch with pending := [] }
        (twinMoved verdict).trace).1 (twinSecond verdict) :=
    polls_after again fun _ q _ asked =>
      ⟨serves_nodeAnswer _ _ _ q, twinNode_ruled (fun c member => only₂ verdict c member ▸ judged) asked⟩
  have ended : ∀ v, (answeredPoll (twinNode v twinBatch) {} "rollup"
      { (twinMoved v).watch with pending := [] } (twinMoved v).trace).1 =
        .ok (.completed (some sampleTip)) := by decide +kernel
  rw [ended verdict] at second
  have listedFirst : ∀ v, sampleBatch ∈ listed (twinMoved v).trace := by decide +kernel
  have listedSecond : ∀ v, twinBatch ∈ pollListing (twinSecond v).trace := by decide +kernel
  obtain ⟨⟨c, validated, same⟩, -⟩ := judges _ _ _ sampleBatch twinBatch moved second (listedFirst verdict)
    (by decide) (listedSecond verdict) (by decide) rfl (by decide)
  have never : ∀ v, ∀ c ∈ validateCalls (twinSecond v).trace, posted c ≠ posted twinBatch := by
    decide +kernel
  exact never verdict c validated same

end QorechainRdk.Watchtower
