import Mathlib.Data.List.Forall2

/-!
# Two computations in lockstep

Two computations that may fail are related when both return and their values are related, or both fail and their
failures are.
-/

namespace Lockstep

variable {ε δ α β γ ζ : Type}

def Rel (E : ε → δ → Prop) (R : α → β → Prop) : Except ε α → Except δ β → Prop
  | .ok a, .ok b => R a b
  | .error e, .error d => E e d
  | .ok _, .error _ => False
  | .error _, .ok _ => False

section
variable {E : ε → δ → Prop} {R : α → β → Prop} {S : γ → ζ → Prop} {x : Except ε α} {y : Except δ β}

theorem rel_iff : Rel E R x y ↔
    (∃ a b, x = .ok a ∧ y = .ok b ∧ R a b) ∨ ∃ e d, x = .error e ∧ y = .error d ∧ E e d := by
  cases x with
  | ok a =>
    cases y with
    | ok b => simp [Rel]
    | error d => simp [Rel]
  | error e =>
    cases y with
    | ok b => simp [Rel]
    | error d => simp [Rel]

theorem Rel.bind {f : α → Except ε γ} {g : β → Except δ ζ} (first : Rel E R x y)
    (rest : ∀ a b, R a b → Rel E S (f a) (g b)) : Rel E S (x >>= f) (y >>= g) := by
  rcases rel_iff.mp first with ⟨a, b, rfl, rfl, related⟩ | ⟨e, d, rfl, rfl, failed⟩
  · exact rest a b related
  · exact failed

theorem Rel.pure {a : α} {b : β} (related : R a b) :
    Rel E R (Pure.pure a : Except ε α) (Pure.pure b : Except δ β) := related

theorem Rel.throw {e : ε} {d : δ} (related : E e d) :
    Rel E R (MonadExcept.throw e : Except ε α) (MonadExcept.throw d : Except δ β) := related

/-- Both sides take the same branch. -/
theorem Rel.ite {p q : Prop} [Decidable p] [Decidable q] {x' : Except ε α} {y' : Except δ β}
    (same : p ↔ q) (yes : p → Rel E R x y) (no : ¬ p → Rel E R x' y') :
    Rel E R (if p then x else x') (if q then y else y') := by
  by_cases holds : p
  · rw [if_pos holds, if_pos (same.mp holds)]
    exact yes holds
  · rw [if_neg holds, if_neg fun other => holds (same.mpr other)]
    exact no holds

end

/-- Two searches through related lists stop at related elements. -/
theorem find?_rel {R : α → β → Prop} {p : α → Bool} {q : β → Bool} {as : List α} {bs : List β}
    (related : List.Forall₂ R as bs) (alike : ∀ a b, R a b → p a = q b) :
    Option.Rel R (as.find? p) (bs.find? q) := by
  induction related with
  | nil => exact Option.Rel.none
  | cons first rest ih =>
    rw [List.find?_cons, List.find?_cons, alike _ _ first]
    split
    · exact Option.Rel.some first
    · exact ih

end Lockstep
