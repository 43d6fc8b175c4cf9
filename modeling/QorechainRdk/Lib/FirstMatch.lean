import Mathlib.Data.List.Basic

/-!
# A first match, judged afterwards

One test picks the first element of a list, another judges it. The two agree with a search for an
element that passes both exactly when the first one picked stands for all.
-/

namespace FirstMatch

variable {α : Type} {key : α → Bool} {good : α → Prop} {xs ys : List α} {a : α}

def Accepts (key : α → Bool) (good : α → Prop) (xs : List α) : Prop :=
  ∃ a, xs.find? key = some a ∧ good a

def Occurs (key : α → Bool) (good : α → Prop) (xs : List α) : Prop :=
  ∃ a ∈ xs, key a = true ∧ good a

def Leads (key : α → Bool) (good : α → Prop) (xs : List α) : Prop :=
  ∀ a, xs.find? key = some a → good a

theorem Accepts.occurs (h : Accepts key good xs) : Occurs key good xs := by
  obtain ⟨a, found, good⟩ := h
  exact ⟨a, List.mem_of_find?_eq_some found, List.find?_some found, good⟩

theorem Accepts.leads (h : Accepts key good xs) : Leads key good xs := by
  obtain ⟨a, found, good⟩ := h
  intro b first
  rw [found] at first
  cases first
  exact good

theorem exists_find? (member : a ∈ xs) (keyed : key a = true) : ∃ b, xs.find? key = some b := by
  apply Option.isSome_iff_exists.mp
  rw [List.find?_isSome]
  exact ⟨a, member, keyed⟩

theorem Leads.accepts (h : Leads key good xs) (member : a ∈ xs) (keyed : key a = true) :
    Accepts key good xs := by
  obtain ⟨b, first⟩ := exists_find? member keyed
  exact ⟨b, first, h b first⟩

/-- The first match decides whether a good one occurs exactly when it is good as soon as one is. -/
theorem accepts_iff_occurs :
    (Accepts key good xs ↔ Occurs key good xs) ↔ (Occurs key good xs → Leads key good xs) := by
  constructor
  · intro decides occurs
    exact (decides.mpr occurs).leads
  · intro leads
    constructor
    · exact Accepts.occurs
    · intro occurs
      obtain ⟨a, member, keyed, -⟩ := id occurs
      exact (leads occurs).accepts member keyed

/-- Over a longer list the first match may be another one. -/
theorem Accepts.extend (h : Accepts key good xs) (more : xs ⊆ ys) {good' : α → Prop} :
    Accepts key good' ys ↔ Leads key good' ys := by
  constructor
  · exact Accepts.leads
  · intro leads
    obtain ⟨a, member, keyed, -⟩ := h.occurs
    exact leads.accepts (more member) keyed

/-- The first match of a test is the first match of any narrower one that it passes. -/
theorem find?_narrow {narrow : α → Bool} (found : xs.find? key = some a) (passes : narrow a = true)
    (within : ∀ b, narrow b = true → key b = true) : xs.find? narrow = some a := by
  obtain ⟨-, before, after, rfl, none_before⟩ := List.find?_eq_some_iff_append.mp found
  apply List.find?_eq_some_iff_append.mpr
  refine ⟨passes, before, after, rfl, ?_⟩
  intro b member
  have missed := none_before b member
  rw [Bool.not_eq_true'] at missed ⊢
  by_contra kept
  rw [within b (Bool.not_eq_false _ ▸ kept)] at missed
  cases missed

end FirstMatch
