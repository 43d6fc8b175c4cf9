import Mathlib.Data.List.Basic

/-!
# Loops with one token of look-ahead

A loop over tokens whose step sees the next token and may take it with its own.
-/

namespace Lookahead

section
variable {σ τ : Type} (step : σ → τ → Option τ → σ × Bool)

/-- A step says whether the next token is taken; a token that is taken is skipped. -/
def run : Bool → σ → List τ → σ
  | _, s, [] => s
  | true, s, _ :: rest => run false s rest
  | false, s, token :: rest => run (step s token rest.head?).2 (step s token rest.head?).1 rest

variable {step}

/-- Where a token means the same with nothing behind it, the loop can be cut. -/
theorem run_append {before after : List τ} (alone : ∀ s token, (step s token none).2 = false)
    (cut : ∀ token, before.getLast? = some token → ∀ s, step s token after.head? = step s token none)
    {skip : Bool} (s : σ) (skipped : skip = true → before ≠ []) :
    run step skip s (before ++ after) = run step false (run step skip s before) after := by
  induction before generalizing skip s with
  | nil =>
    cases skip with
    | false => rfl
    | true => exact absurd rfl (skipped rfl)
  | cons token rest ih =>
    have later : ∀ last, rest.getLast? = some last → ∀ s, step s last after.head? = step s last none := by
      intro last found
      refine cut last ?_
      cases rest with
      | nil => cases found
      | cons t ts => rwa [List.getLast?_cons_cons]
    cases skip with
    | true => exact ih later s nofun
    | false =>
      rw [List.cons_append, run, run]
      cases rest with
      | nil =>
        have last := cut token rfl s
        rw [List.nil_append, last, List.head?_nil, alone]
        rfl
      | cons next rest =>
        rw [List.cons_append, List.head?_cons, List.head?_cons, ← List.cons_append]
        exact ih later _ fun _ => List.cons_ne_nil next rest

/-- What two steps preserve that take the same tokens, two loops preserve. -/
theorem run_rel {R : σ → σ → Prop}
    (preserved : ∀ {s t} token next, R s t →
      R (step s token next).1 (step t token next).1 ∧ (step s token next).2 = (step t token next).2)
    {s t : σ} (related : R s t) (skip : Bool) (tokens : List τ) :
    R (run step skip s tokens) (run step skip t tokens) := by
  induction tokens generalizing skip s t with
  | nil => exact related
  | cons token rest ih =>
    cases skip with
    | true => exact ih related false
    | false =>
      obtain ⟨after, same⟩ := preserved token rest.head? related
      rw [run, run, same]
      exact ih after _

end
end Lookahead
