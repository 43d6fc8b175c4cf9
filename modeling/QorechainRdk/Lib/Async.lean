import Mathlib.Logic.Relation

/-!
# Asynchronous programs over shared state

A program runs until it hands a query to its environment, with the state as it then is; before the
answer comes the environment may act on that state. `wp` reasons about one program against every
such environment; `Step` interleaves any number of tasks that run the same program.
-/

namespace Async

inductive Event (Q : Type) (V : Q → Type) (ε X : Type) where
  | started
  | asked (q : Q)
  | answered (q : Q) (r : Except ε (V q))
  | acted (x : X)

abbrev Trace (Q : Type) (V : Q → Type) (ε X : Type) := List (Event Q V ε X)

inductive Tree (Q : Type) (V : Q → Type) (ε σ α : Type) where
  | done (r : Except ε α) (s : σ)
  | ask (q : Q) (s : σ) (k : Except ε (V q) → σ → Tree Q V ε σ α)

def Prog (Q : Type) (V : Q → Type) (ε σ α : Type) := σ → Tree Q V ε σ α

variable {Q : Type} {V : Q → Type} {ε σ X α β : Type}

namespace Tree

def bind (t : Tree Q V ε σ α) (f : Except ε α → σ → Tree Q V ε σ β) : Tree Q V ε σ β :=
  match t with
  | done r s => f r s
  | ask q s k => ask q s fun r s' => (k r s').bind f

end Tree

namespace Prog

instance : Monad (Prog Q V ε σ) where
  pure a := fun s => .done (.ok a) s
  bind m f := fun s => (m s).bind fun r s =>
    match r with
    | .ok a => f a s
    | .error e => .done (.error e) s

instance : MonadExceptOf ε (Prog Q V ε σ) where
  throw e := fun s => .done (.error e) s
  tryCatch m h := fun s => (m s).bind fun r s =>
    match r with
    | .ok a => .done (.ok a) s
    | .error e => h e s

instance : MonadStateOf σ (Prog Q V ε σ) where
  get := fun s => .done (.ok s) s
  set s := fun _ => .done (.ok ()) s
  modifyGet f := fun s => .done (.ok (f s).1) (f s).2

def call (q : Q) : Prog Q V ε σ (V q) := fun s => .ask q s .done

end Prog

section
variable (act : X → σ → σ)

def acts (xs : List X) (s : σ) : σ := xs.foldl (fun s x => act x s) s

theorem acts_append (xs : List X) (x : X) (s : σ) : acts act (xs ++ [x]) s = act x (acts act xs s) := by
  simp [acts]

theorem acts_induction {P : σ → Prop} (step : ∀ x s, P s → P (act x s)) (xs : List X) {s : σ}
    (h : P s) : P (acts act xs s) := by
  induction xs generalizing s with
  | nil => exact h
  | cons x xs ih => exact ih (step x s h)

/-- The trace while `q` is waiting for its answer. -/
def waiting (tr : Trace Q V ε X) (q : Q) (xs : List X) : Trace Q V ε X :=
  tr ++ .asked q :: xs.map .acted

variable (rely : Trace Q V ε X → (q : Q) → Except ε (V q) → Prop)

/-! ### Finished runs -/

inductive Tree.Runs : Tree Q V ε σ α → Trace Q V ε X → Except ε α → σ →
    Trace Q V ε X → Prop where
  | done (r : Except ε α) (s : σ) (tr : Trace Q V ε X) : Runs (.done r s) tr r s tr
  | ask {q : Q} {s s' : σ} {k : Except ε (V q) → σ → Tree Q V ε σ α} {tr tr' : Trace Q V ε X}
      {r' : Except ε α} (xs : List X) (r : Except ε (V q)) (relied : rely (waiting tr q xs) q r)
      (rest : Runs (k r (acts act xs s)) (waiting tr q xs ++ [.answered q r]) r' s' tr') :
      Runs (.ask q s k) tr r' s' tr'

/-- The run in which nothing happens but the given answers. -/
def Tree.exec (answer : (q : Q) → Except ε (V q)) : Tree Q V ε σ α → Trace Q V ε X →
    Except ε α × σ × Trace Q V ε X
  | .done r s, tr => (r, s, tr)
  | .ask q s k, tr => (k (answer q) s).exec answer (waiting tr q [] ++ [.answered q (answer q)])

/-- The answers in `tr` are those in `tr₀`, or as `answer` gives them. -/
def Given (answer : (q : Q) → Except ε (V q)) (tr₀ tr : Trace Q V ε X) : Prop :=
  ∀ q r, .answered q r ∈ tr → .answered q r ∈ tr₀ ∨ r = answer q

theorem Tree.exec_longer (answer : (q : Q) → Except ε (V q)) (t : Tree Q V ε σ α) (tr : Trace Q V ε X) :
    tr <+: (t.exec answer tr).2.2 := by
  induction t generalizing tr with
  | done r s => exact List.prefix_refl _
  | ask q s k ih =>
    refine List.IsPrefix.trans ?_ (ih (answer q) s _)
    rw [waiting, List.append_assoc]
    exact List.prefix_append _ _

theorem Tree.exec_runs {answer : (q : Q) → Except ε (V q)} {tr₀ : Trace Q V ε X}
    (t : Tree Q V ε σ α) (tr : Trace Q V ε X) (given : Given answer tr₀ tr)
    (relied : ∀ mid q, Given answer tr₀ mid →
      mid ++ [.answered q (answer q)] <+: (t.exec answer tr).2.2 → rely mid q (answer q)) :
    t.Runs act rely tr (t.exec answer tr).1 (t.exec answer tr).2.1 (t.exec answer tr).2.2 := by
  induction t generalizing tr with
  | done r s => exact .done r s tr
  | ask q s k ih =>
    have asked : Given answer tr₀ (waiting tr q []) := by
      intro q' r' member
      simp only [waiting, List.map_nil, List.mem_append, List.mem_singleton, reduceCtorEq,
        or_false] at member
      exact given q' r' member
    have longer := (k (answer q) s).exec_longer answer (waiting tr q [] ++ [.answered q (answer q)])
    refine .ask [] (answer q) (relied _ q asked longer) (ih _ _ _ ?_ relied)
    intro q' r' member
    rcases List.mem_append.mp member with before | last
    · exact asked q' r' before
    · cases List.mem_singleton.mp last
      exact Or.inr rfl

variable {act rely} in
theorem Tree.Runs.answered {t : Tree Q V ε σ α} {tr tr' : Trace Q V ε X} {r : Except ε α} {s : σ}
    (run : t.Runs act rely tr r s tr') {q : Q} {a : Except ε (V q)} (member : .answered q a ∈ tr') :
    .answered q a ∈ tr ∨ ∃ mid, rely mid q a := by
  induction run with
  | done r s tr => exact Or.inl member
  | ask xs b relied rest ih =>
    rcases ih member with before | found
    · simp only [waiting, List.mem_append, List.mem_cons, List.mem_map, reduceCtorEq,
        and_false, exists_false, or_false, List.not_mem_nil] at before
      rcases before with before | same
      · exact Or.inl before
      · cases same
        exact Or.inr ⟨_, relied⟩
    · exact Or.inr found

variable {act rely} in
theorem Tree.Runs.mono {rely' : Trace Q V ε X → (q : Q) → Except ε (V q) → Prop}
    (weaker : ∀ tr q r, rely tr q r → rely' tr q r) {t : Tree Q V ε σ α} {tr tr' : Trace Q V ε X}
    {r : Except ε α} {s : σ} (run : t.Runs act rely tr r s tr') : t.Runs act rely' tr r s tr' := by
  induction run with
  | done r s tr => exact .done r s tr
  | ask xs a relied rest ih => exact .ask xs a (weaker _ _ _ relied) ih

/-! ### Weakest preconditions -/

variable (guard : Trace Q V ε X → Q → σ → Prop)

/-- Every query meets the guard, and every run that finishes meets `Φ`. -/
def Tree.safe (Φ : Except ε α → σ → Trace Q V ε X → Prop) :
    Tree Q V ε σ α → Trace Q V ε X → Prop
  | .done r s, tr => Φ r s tr
  | .ask q s k, tr => guard tr q s ∧ ∀ xs r, rely (waiting tr q xs) q r →
      (k r (acts act xs s)).safe Φ (waiting tr q xs ++ [.answered q r])

def post (Φ : α → σ → Trace Q V ε X → Prop) (Ψ : ε → σ → Trace Q V ε X → Prop) :
    Except ε α → σ → Trace Q V ε X → Prop
  | .ok a => Φ a
  | .error e => Ψ e

def wp (m : Prog Q V ε σ α) (Φ : α → σ → Trace Q V ε X → Prop)
    (Ψ : ε → σ → Trace Q V ε X → Prop) (s : σ) (tr : Trace Q V ε X) : Prop :=
  (m s).safe act rely guard (post Φ Ψ) tr

variable {act rely guard}

theorem Tree.safe_runs {Φ : Except ε α → σ → Trace Q V ε X → Prop} {t : Tree Q V ε σ α}
    {tr tr' : Trace Q V ε X} {r : Except ε α} {s : σ} (safe : t.safe act rely guard Φ tr)
    (run : t.Runs act rely tr r s tr') : Φ r s tr' := by
  induction run with
  | done r s tr => exact safe
  | ask xs r relied rest ih => exact ih (safe.2 xs r relied)

theorem Tree.safe_mono {Φ Φ' : Except ε α → σ → Trace Q V ε X → Prop}
    {t : Tree Q V ε σ α} {tr : Trace Q V ε X} (weaker : ∀ r s tr, Φ r s tr → Φ' r s tr)
    (h : t.safe act rely guard Φ tr) : t.safe act rely guard Φ' tr := by
  induction t generalizing tr with
  | done r s => exact weaker r s tr h
  | ask q s k ih => exact ⟨h.1, fun xs r relied => ih r _ (h.2 xs r relied)⟩

theorem Tree.safe_bind {Φ : Except ε β → σ → Trace Q V ε X → Prop} (t : Tree Q V ε σ α)
    (f : Except ε α → σ → Tree Q V ε σ β) (tr : Trace Q V ε X) :
    (t.bind f).safe act rely guard Φ tr ↔
      t.safe act rely guard (fun r s tr => (f r s).safe act rely guard Φ tr) tr := by
  induction t generalizing tr with
  | done r s => rfl
  | ask q s k ih =>
    simp only [Tree.bind, Tree.safe, ih]

section
variable {Φ Φ' : α → σ → Trace Q V ε X → Prop} {Φβ : β → σ → Trace Q V ε X → Prop}
  {Ψ Ψ' : ε → σ → Trace Q V ε X → Prop} {s : σ} {tr : Trace Q V ε X}

theorem wp_mono {m : Prog Q V ε σ α} (normal : ∀ a s tr, Φ a s tr → Φ' a s tr)
    (thrown : ∀ e s tr, Ψ e s tr → Ψ' e s tr) (h : wp act rely guard m Φ Ψ s tr) :
    wp act rely guard m Φ' Ψ' s tr := by
  refine Tree.safe_mono ?_ h
  intro r
  cases r with
  | ok a => exact normal a
  | error e => exact thrown e

@[simp] theorem wp_pure (a : α) : wp act rely guard (pure a) Φ Ψ s tr ↔ Φ a s tr := Iff.rfl

@[simp] theorem wp_throw (e : ε) :
    wp act rely guard (throw e : Prog Q V ε σ α) Φ Ψ s tr ↔ Ψ e s tr := Iff.rfl

@[simp] theorem wp_get {Φ : σ → σ → Trace Q V ε X → Prop} :
    wp act rely guard (get : Prog Q V ε σ σ) Φ Ψ s tr ↔ Φ s s tr := Iff.rfl

@[simp] theorem wp_modify {Φ : PUnit → σ → Trace Q V ε X → Prop} (f : σ → σ) :
    wp act rely guard (modify f : Prog Q V ε σ PUnit) Φ Ψ s tr ↔ Φ ⟨⟩ (f s) tr := Iff.rfl

@[simp] theorem wp_bind (m : Prog Q V ε σ α) (f : α → Prog Q V ε σ β) :
    wp act rely guard (m >>= f) Φβ Ψ s tr ↔
      wp act rely guard m (fun a => wp act rely guard (f a) Φβ Ψ) Ψ s tr := by
  refine (Tree.safe_bind (m s) _ tr).trans (iff_of_eq ?_)
  unfold wp
  congr 1
  funext r
  cases r <;> rfl

@[simp] theorem wp_tryCatch (m : Prog Q V ε σ α) (h : ε → Prog Q V ε σ α) :
    wp act rely guard (tryCatch m h) Φ Ψ s tr ↔
      wp act rely guard m Φ (fun e => wp act rely guard (h e) Φ Ψ) s tr := by
  refine (Tree.safe_bind (m s) _ tr).trans (iff_of_eq ?_)
  unfold wp
  congr 1
  funext r
  cases r <;> rfl

@[simp] theorem wp_call {q : Q} {Φ : V q → σ → Trace Q V ε X → Prop} :
    wp act rely guard (Prog.call q) Φ Ψ s tr ↔ guard tr q s ∧ ∀ xs,
      (∀ a, rely (waiting tr q xs) q (.ok a) →
        Φ a (acts act xs s) (waiting tr q xs ++ [.answered q (.ok a)])) ∧
      ∀ e, rely (waiting tr q xs) q (.error e) →
        Ψ e (acts act xs s) (waiting tr q xs ++ [.answered q (.error e)]) := by
  refine and_congr_right fun _ => forall_congr' fun xs => ?_
  constructor
  · intro h
    exact ⟨fun a => h (.ok a), fun e => h (.error e)⟩
  · rintro ⟨normal, thrown⟩ r
    cases r with
    | ok a => exact normal a
    | error e => exact thrown e

@[simp] theorem wp_ite {p : Prop} [Decidable p] (m n : Prog Q V ε σ α) :
    wp act rely guard (if p then m else n) Φ Ψ s tr ↔
      if p then wp act rely guard m Φ Ψ s tr else wp act rely guard n Φ Ψ s tr := by
  split <;> rfl

end

/-! ### Interleaved tasks -/

structure Suspended (Q : Type) (V : Q → Type) (ε σ α : Type) where
  q : Q
  k : Except ε (V q) → σ → Tree Q V ε σ α

structure Config (Q : Type) (V : Q → Type) (ε σ X α : Type) where
  state : σ
  running : List (Suspended Q V ε σ α)
  trace : Trace Q V ε X

/-- A task runs to its next query, or to its end, beside the others. -/
def settle (before after : List (Suspended Q V ε σ α)) (tr : Trace Q V ε X) :
    Tree Q V ε σ α → Config Q V ε σ X α
  | .done _ s => ⟨s, before ++ after, tr⟩
  | .ask q s k => ⟨s, before ++ ⟨q, k⟩ :: after, tr ++ [.asked q]⟩

variable (act rely)
variable (fires : σ → σ → Prop) (task : Prog Q V ε σ α)

/-- A task starts when `fires` allows it, and goes on when its query is answered; in between the
environment acts at any time. -/
inductive Step : Config Q V ε σ X α → Config Q V ε σ X α → Prop where
  | act {c : Config Q V ε σ X α} (x : X) :
      Step c { c with state := act x c.state, trace := c.trace ++ [.acted x] }
  | fire {c : Config Q V ε σ X α} {s : σ} (fired : fires c.state s) :
      Step c (settle c.running [] (c.trace ++ [.started]) (task s))
  | answer (before after : List (Suspended Q V ε σ α)) {s : σ} {tr : Trace Q V ε X} {q : Q}
      {k : Except ε (V q) → σ → Tree Q V ε σ α} (r : Except ε (V q)) (relied : rely tr q r) :
      Step ⟨s, before ++ ⟨q, k⟩ :: after, tr⟩ (settle before after (tr ++ [.answered q r]) (k r s))

variable {act rely fires task}

theorem Tree.Runs.steps {t : Tree Q V ε σ α} {tr tr' : Trace Q V ε X} {r : Except ε α} {s : σ}
    (run : t.Runs act rely tr r s tr') :
    Relation.ReflTransGen (Step act rely fires task) (settle [] [] tr t) ⟨s, [], tr'⟩ := by
  have interrupted : ∀ (xs : List X) (s : σ) (w : List (Suspended Q V ε σ α)) (tr : Trace Q V ε X),
      Relation.ReflTransGen (Step act rely fires task) ⟨s, w, tr⟩
        ⟨acts act xs s, w, tr ++ xs.map .acted⟩ := by
    intro xs
    induction xs with
    | nil =>
      intro s w tr
      rw [List.map_nil, List.append_nil]
      exact .refl
    | cons x xs ih =>
      intro s w tr
      have rest := ih (act x s) w (tr ++ [.acted x])
      rw [List.append_assoc, List.singleton_append] at rest
      exact .head (.act x) rest
  induction run with
  | done r s tr => exact .refl
  | @ask q s s' k tr tr' r' xs r relied rest ih =>
    have waits := interrupted xs s [⟨q, k⟩] (tr ++ [.asked q])
    rw [List.append_assoc, List.singleton_append] at waits
    exact (waits.tail (Step.answer [] [] r relied)).trans ih

/-- The one task that runs while `Busy` keeps every other one from starting. -/
def Single (act : X → σ → σ) (rely : Trace Q V ε X → (q : Q) → Except ε (V q) → Prop)
    (guard : Trace Q V ε X → Q → σ → Prop) (Idle : σ → Trace Q V ε X → Prop)
    (c : Config Q V ε σ X α) : Prop :=
  (c.running = [] ∧ Idle c.state c.trace) ∨
    ∃ q k s tr xs, c.running = [⟨q, k⟩] ∧ c.state = acts act xs s ∧ c.trace = waiting tr q xs ∧
      (Tree.ask q s k : Tree Q V ε σ α).safe act rely guard (fun _ s tr => Idle s tr) tr

theorem single_settle {Idle : σ → Trace Q V ε X → Prop} {t : Tree Q V ε σ α} {tr : Trace Q V ε X}
    (h : t.safe act rely guard (fun _ s tr => Idle s tr) tr) :
    Single act rely guard Idle (settle [] [] tr t) := by
  cases t with
  | done r s => exact Or.inl ⟨rfl, h⟩
  | ask q s k => exact Or.inr ⟨q, k, s, tr, [], rfl, rfl, rfl, h⟩

/-- A program that is safe from every idle state, and that arms no timer while it waits, never runs
twice at a time. -/
theorem single_step {Idle : σ → Trace Q V ε X → Prop} (Busy : σ → Prop)
    (idle_act : ∀ x s tr, Idle s tr → Idle (act x s) (tr ++ [.acted x]))
    (idle_fire : ∀ s s' tr, Idle s tr → fires s s' →
      (task s').safe act rely guard (fun _ s tr => Idle s tr) (tr ++ [.started]))
    (busy : ∀ tr q s, guard tr q s → Busy s) (busy_act : ∀ x s, Busy s → Busy (act x s))
    (busy_fire : ∀ s s', Busy s → ¬ fires s s') {c c' : Config Q V ε σ X α}
    (h : Single act rely guard Idle c) (step : Step act rely fires task c c') :
    Single act rely guard Idle c' := by
  rcases h with ⟨alone, idle⟩ | ⟨q, k, s, tr, xs, running, state, trace, safe⟩
  · cases step with
    | act x => exact Or.inl ⟨alone, idle_act x _ _ idle⟩
    | fire fired =>
      rw [alone]
      exact single_settle (idle_fire _ _ _ idle fired)
    | answer before after r relied => simp at alone
  · have waits : Busy c.state := by
      rw [state]
      exact acts_induction act busy_act xs (busy tr q s safe.1)
    cases step with
    | act x =>
      refine Or.inr ⟨q, k, s, tr, xs ++ [x], running, ?_, ?_, safe⟩
      · rw [acts_append, state]
      · simp [trace, waiting]
    | fire fired => exact absurd fired (busy_fire _ _ waits)
    | answer before after r relied =>
      rename_i s₁ tr₁ q₁ k₁
      obtain ⟨rfl, same, rfl⟩ : before = [] ∧ (⟨q₁, k₁⟩ : Suspended Q V ε σ α) = ⟨q, k⟩ ∧ after = [] := by
        simpa [List.append_eq_cons_iff] using running
      cases same
      obtain rfl : s₁ = acts act xs s := state
      obtain rfl : tr₁ = waiting tr q xs := trace
      exact single_settle (safe.2 xs r relied)

end

/-! ### Properties of traces -/

/-- Each event is permitted by what came before it. -/
def Obeys (permits : Trace Q V ε X → Event Q V ε X → Prop) (tr : Trace Q V ε X) : Prop :=
  ∀ pre e rest, tr = pre ++ e :: rest → permits pre e

section
variable {permits : Trace Q V ε X → Event Q V ε X → Prop} {tr : Trace Q V ε X}

theorem obeys_nil : Obeys permits [] := by
  intro pre e rest h
  simp at h

theorem obeys_concat {e : Event Q V ε X} :
    Obeys permits (tr ++ [e]) ↔ Obeys permits tr ∧ permits tr e := by
  constructor
  · intro h
    refine ⟨?_, h tr e [] rfl⟩
    rintro pre e' rest rfl
    exact h pre e' (rest ++ [e]) (by simp)
  · rintro ⟨before, last⟩ pre e' rest h
    rcases List.eq_nil_or_concat rest with rfl | ⟨rest, e'', rfl⟩
    · obtain ⟨rfl, same⟩ := List.append_inj' h rfl
      cases same
      exact last
    · rw [List.concat_eq_append, ← List.cons_append, ← List.append_assoc] at h
      obtain ⟨rfl, -⟩ := List.append_inj' h rfl
      exact before pre e' rest rfl

end
end Async
