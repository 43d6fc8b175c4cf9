import Mathlib.Algebra.Group.Nat.Defs
import Mathlib.Data.List.Induction
import Mathlib.Data.Nat.Log
import Mathlib.Logic.Function.Iterate

/-!
# Pairing trees

A list is reduced to its root by pairing neighbours level after level, an odd last element with
itself. A path climbs from a leaf by joining it with one sibling after another. Nothing is assumed
of `node`: instead of asking it to be injective, soundness names two pairs that it confuses.
-/

namespace PairTree

variable {α : Type*}

/-- Neighbours of a level, an odd last element beside itself. -/
def pairs : List α → List (α × α)
  | [] => []
  | [a] => [(a, a)]
  | a :: b :: rest => (a, b) :: pairs rest

@[simp] theorem length_pairs (l : List α) : (pairs l).length = (l.length + 1) / 2 := by
  fun_induction pairs l with
  | case1 => simp
  | case2 a => simp
  | case3 a b rest ih => simp only [List.length_cons, ih]; omega

theorem mem_of_mem_pairs {l : List α} {p : α × α} (h : p ∈ pairs l) : p.1 ∈ l ∧ p.2 ∈ l := by
  fun_induction pairs l with
  | case1 => simp at h
  | case2 a => simp only [List.mem_singleton] at h; subst h; simp
  | case3 a b rest ih =>
    rcases List.mem_cons.mp h with rfl | h
    · simp
    · obtain ⟨first, second⟩ := ih h
      exact ⟨by simp [first], by simp [second]⟩

theorem getElem?_pairs (l : List α) (i : Nat) (h : i < l.length) :
    (pairs l)[i / 2]? =
      if i % 2 = 1 then some (l[i - 1], l[i]) else some (l[i], (l[i + 1]?).getD l[i]) := by
  fun_induction pairs l generalizing i with
  | case1 => simp at h
  | case2 a =>
    obtain rfl : i = 0 := by simp at h; omega
    simp
  | case3 a b rest ih =>
    match i with
    | 0 => simp
    | 1 => simp
    | i + 2 =>
      have inside : i < rest.length := by simp at h; omega
      rw [show (i + 2) / 2 = i / 2 + 1 by omega, show (i + 2) % 2 = i % 2 by omega,
        List.getElem?_cons_succ, ih i inside]
      by_cases odd : i % 2 = 1
      · obtain ⟨j, rfl⟩ : ∃ j, i = j + 1 := ⟨i - 1, by omega⟩
        simp [odd]
      · simp [odd]

variable (node : α → α → α)

def pairUp (l : List α) : List α := (pairs l).map fun p => node p.1 p.2

@[simp] theorem length_pairUp (l : List α) : (pairUp node l).length = (l.length + 1) / 2 := by
  simp [pairUp]

def level (l : List α) (k : Nat) : List α := (pairUp node)^[k] l

@[simp] theorem level_zero (l : List α) : level node l 0 = l := rfl

theorem level_succ (l : List α) (k : Nat) : level node l (k + 1) = pairUp node (level node l k) :=
  Function.iterate_succ_apply' ..

theorem level_succ' (l : List α) (k : Nat) : level node l (k + 1) = level node (pairUp node l) k :=
  rfl

theorem level_forall {P : α → Prop} {l : List α} (leaves : ∀ a ∈ l, P a)
    (nodes : ∀ a b, P (node a b)) (k : Nat) : ∀ a ∈ level node l k, P a := by
  cases k with
  | zero => exact leaves
  | succ k =>
    intro a ha
    rw [level_succ, pairUp, List.mem_map] at ha
    obtain ⟨p, _, rfl⟩ := ha
    exact nodes _ _

/-! ### Depth -/

theorem clog_two_step {n : Nat} (h : 2 ≤ n) : Nat.clog 2 n = Nat.clog 2 ((n + 1) / 2) + 1 :=
  Nat.clog_of_two_le (by decide) h

/-! ### Climbing -/

/-- The pair a step makes of `x`: its flag says that `x` is the right child. -/
def join (x : α) (step : Bool × α) : α × α := if step.1 then (step.2, x) else (x, step.2)

def climb (x : α) : List (Bool × α) → α
  | [] => x
  | step :: rest => climb (node (join x step).1 (join x step).2) rest

theorem climb_append (x : α) (path rest : List (Bool × α)) :
    climb node x (path ++ rest) = climb node (climb node x path) rest := by
  induction path generalizing x with
  | nil => rfl
  | cons step path ih => exact ih _

def sibling (l : List α) (i : Nat) (h : i < l.length) : α :=
  if i % 2 = 1 then l[i - 1] else (l[i + 1]?).getD l[i]

theorem join_sibling (l : List α) (i : Nat) (h : i < l.length) :
    (pairs l)[i / 2]? = some (join l[i] (decide (i % 2 = 1), sibling l i h)) := by
  rw [getElem?_pairs l i h]
  by_cases odd : i % 2 = 1 <;> simp [join, sibling, odd]

theorem getElem?_pairUp (l : List α) (i : Nat) (h : i < l.length) :
    (pairUp node l)[i / 2]? = some (climb node l[i] [(decide (i % 2 = 1), sibling l i h)]) := by
  rw [pairUp, List.getElem?_map, join_sibling l i h]
  rfl

/-! ### Soundness

A path that arrives at a node of the tree has come through the tree, or it joined a pair which the
tree joins differently into the same node. -/

def joined (l : List α) (k : Nat) : List (α × α) :=
  (List.range k).flatMap fun j => pairs (level node l j)

def climbed (x : α) : List (Bool × α) → List (α × α)
  | [] => []
  | step :: rest => join x step :: climbed (node (join x step).1 (join x step).2) rest

theorem climbed_append (x : α) (path rest : List (Bool × α)) :
    climbed node x (path ++ rest) = climbed node x path ++ climbed node (climb node x path) rest := by
  induction path generalizing x with
  | nil => rfl
  | cons step path ih => simp [climbed, climb, ih]

/-- Two different pairs, one of each list, that `node` joins into the same value. -/
def Clash (ps qs : List (α × α)) : Prop :=
  ∃ p ∈ ps, ∃ q ∈ qs, p ≠ q ∧ node p.1 p.2 = node q.1 q.2

theorem Clash.mono {ps ps' qs qs' : List (α × α)} (h : Clash node ps qs) (left : ps ⊆ ps')
    (right : qs ⊆ qs') : Clash node ps' qs' := by
  obtain ⟨p, hp, q, hq, clash⟩ := h
  exact ⟨p, left hp, q, right hq, clash⟩

theorem joined_mono (l : List α) {k m : Nat} (h : k ≤ m) : joined node l k ⊆ joined node l m := by
  intro p hp
  simp only [joined, List.mem_flatMap, List.mem_range] at hp ⊢
  obtain ⟨j, below, member⟩ := hp
  exact ⟨j, by omega, member⟩

theorem mem_joined_of_level {l : List α} {k : Nat} {x : α} (h : x ∈ level node l (k + 1)) :
    ∃ p ∈ joined node l (k + 1), p.1 ∈ level node l k ∧ p.2 ∈ level node l k ∧ node p.1 p.2 = x := by
  rw [level_succ, pairUp, List.mem_map] at h
  obtain ⟨p, member, same⟩ := h
  refine ⟨p, ?_, (mem_of_mem_pairs member).1, (mem_of_mem_pairs member).2, same⟩
  simp only [joined, List.mem_flatMap, List.mem_range]
  exact ⟨k, by omega, member⟩

/-- One step down: whatever was joined into a node of the tree is one of its children. -/
theorem climb_descend_step {l : List α} {k : Nat} {x : α} {path : List (Bool × α)}
    {step : Bool × α} (h : climb node x (path ++ [step]) ∈ level node l (k + 1)) :
    climb node x path ∈ level node l k ∨
      Clash node (joined node l (k + 1)) (climbed node x (path ++ [step])) := by
  obtain ⟨p, member, first, second, same⟩ := mem_joined_of_level node h
  rw [climb_append] at same
  by_cases equal : p = join (climb node x path) step
  · refine Or.inl ?_
    rw [equal] at first second
    unfold join at first second
    split at first
    · simpa [*] using second
    · exact first
  · refine Or.inr ⟨p, member, join (climb node x path) step, ?_, equal, same⟩
    simp [climbed_append, climbed]

/-- A climb that ends in the tree is in the tree at every level it passed. -/
theorem climb_descend {l : List α} {x : α} (path : List (Bool × α)) (k : Nat)
    (rest : List (Bool × α)) (h : climb node x (path ++ rest) ∈ level node l (k + rest.length)) :
    climb node x path ∈ level node l k ∨
      Clash node (joined node l (k + rest.length)) (climbed node x (path ++ rest)) := by
  induction rest using List.reverseRecOn with
  | nil => exact Or.inl (by simpa using h)
  | append_singleton rest step ih =>
    rw [List.length_append, List.length_singleton, ← Nat.add_assoc, ← List.append_assoc] at *
    rcases climb_descend_step node h with inside | clash
    · rcases ih inside with inside | clash
      · exact Or.inl inside
      · refine Or.inr (clash.mono node (joined_mono node l (by omega)) ?_)
        rw [climbed_append node x (path ++ rest)]
        exact List.subset_append_left _ _
    · exact Or.inr clash

/-- A path that reaches the only node of level `depth` starts, after the steps it has too many, at
the level that its length says. -/
theorem climb_to_level {l : List α} {depth : Nat} {x : α} {path : List (Bool × α)}
    (h : climb node x path ∈ level node l depth) :
    climb node x (path.take (path.length - depth)) ∈ level node l (depth - path.length) ∨
      Clash node (joined node l depth) (climbed node x path) := by
  have split := List.take_append_drop (path.length - depth) path
  have length : depth - path.length + (path.drop (path.length - depth)).length = depth := by
    rw [List.length_drop]; omega
  have descended := climb_descend node (path.take (path.length - depth)) (depth - path.length)
    (path.drop (path.length - depth)) (by rwa [split, length])
  rwa [length, split] at descended

theorem climb_of_climbed {x : α} {path : List (Bool × α)} (h : path ≠ []) :
    ∃ q ∈ climbed node x path, node q.1 q.2 = climb node x path := by
  induction path generalizing x with
  | nil => exact absurd rfl h
  | cons step rest ih =>
    cases rest with
    | nil => exact ⟨join x step, by simp [climbed], rfl⟩
    | cons next rest =>
      obtain ⟨q, member, same⟩ := ih (x := node (join x step).1 (join x step).2) (by simp)
      exact ⟨q, List.mem_cons_of_mem _ member, same⟩

theorem joined_succ' (l : List α) (k : Nat) :
    joined node l (k + 1) = pairs l ++ joined node (pairUp node l) k := by
  simp [joined, List.range_succ_eq_map, List.flatMap_map, level_succ']

theorem joined_forall {P : α → Prop} {l : List α} (leaves : ∀ a ∈ l, P a)
    (nodes : ∀ a b, P (node a b)) (k : Nat) : ∀ p ∈ joined node l k, P p.1 ∧ P p.2 := by
  intro p hp
  simp only [joined, List.mem_flatMap] at hp
  obtain ⟨j, _, member⟩ := hp
  have inside := mem_of_mem_pairs member
  exact ⟨level_forall node leaves nodes j _ inside.1, level_forall node leaves nodes j _ inside.2⟩

theorem climbed_forall {P : α → Prop} {x : α} {path : List (Bool × α)} (start : P x)
    (siblings : ∀ step ∈ path, P step.2) (nodes : ∀ a b, P (node a b)) :
    ∀ p ∈ climbed node x path, P p.1 ∧ P p.2 := by
  induction path generalizing x with
  | nil => simp [climbed]
  | cons step path ih =>
    intro p hp
    rcases List.mem_cons.mp hp with rfl | hp
    · have second := siblings step (by simp)
      unfold join
      split <;> exact ⟨by assumption, by assumption⟩
    · exact ih (nodes _ _) (fun step member => siblings step (List.mem_cons_of_mem _ member)) p hp

/-! ### Positions

The bits of an index say at which levels its path is a right child. -/

def pathAt (i : Nat) : List α → List (Bool × α)
  | [] => []
  | sibling :: rest => (decide (i % 2 = 1), sibling) :: pathAt (i / 2) rest

/-! ### Indexes beyond the list

The bits of any index lead down from the root. A right step at an odd last element stays on it. -/

def landing (count i : Nat) : Nat :=
  if 1 < count then min (2 * landing ((count + 1) / 2) (i / 2) + i % 2) (count - 1) else 0
termination_by count

theorem landing_lt {count : Nat} (i : Nat) (some : 0 < count) : landing count i < count := by
  unfold landing
  split
  · omega
  · omega

theorem landing_of_lt {count i : Nat} (inside : i < count) : landing count i = i := by
  fun_induction landing count i with
  | case1 count i more ih =>
    rw [ih (by omega)]
    omega
  | case2 count i single => omega

theorem landing_getElem {l : List α} {i q : Nat} (within : q < (pairs l).length) {p : α × α}
    (found : (pairs l)[q]? = some p) :
    l[min (2 * q + i % 2) (l.length - 1)]? = some (if i % 2 = 1 then p.2 else p.1) := by
  rw [length_pairs] at within
  have left : 2 * q < l.length := by omega
  have pair := getElem?_pairs l (2 * q) left
  rw [show 2 * q / 2 = q by omega, found, if_neg (by omega), Option.some.injEq] at pair
  rw [pair]
  by_cases odd : i % 2 = 1
  · rw [odd, if_pos rfl]
    by_cases both : 2 * q + 1 < l.length
    · rw [show min (2 * q + 1) (l.length - 1) = 2 * q + 1 by omega, List.getElem?_eq_getElem both]
      rfl
    · have none : l[2 * q + 1]? = none := List.getElem?_eq_none (by omega)
      rw [show min (2 * q + 1) (l.length - 1) = 2 * q by omega, List.getElem?_eq_getElem left, none]
      rfl
  · rw [show i % 2 = 0 by omega, if_neg (by decide), show min (2 * q + 0) (l.length - 1) = 2 * q by omega,
      List.getElem?_eq_getElem left]

/-- A path along the bits of any index starts where they lead, if it is as long as the tree is high. -/
theorem climb_landing {l : List α} {x : α} (siblings : List α) (i : Nat) (given : l ≠ [])
    (full : siblings.length = Nat.clog 2 l.length)
    (h : level node l siblings.length = [climb node x (pathAt i siblings)]) :
    l[landing l.length i]? = some x ∨
      Clash node (joined node l siblings.length) (climbed node x (pathAt i siblings)) := by
  induction siblings generalizing l x i with
  | nil =>
    have single : l = [x] := by simpa [climb, pathAt] using h
    subst single
    left
    unfold landing
    rfl
  | cons s rest ih =>
    have more : 1 < l.length := by
      by_contra few
      rw [Nat.clog_of_right_le_one (by omega)] at full
      cases full
    have above : pairUp node l ≠ [] := List.ne_nil_of_length_pos (by rw [length_pairUp]; omega)
    rw [List.length_cons, level_succ'] at h
    rw [clog_two_step more, List.length_cons, Nat.succ.injEq, ← length_pairUp node] at full
    rw [List.length_cons, joined_succ', pathAt, climbed]
    rcases ih (i / 2) above full h with parent | clash
    · rw [length_pairUp] at parent
      have bound := landing_lt (i / 2) (show 0 < (l.length + 1) / 2 by omega)
      have within : landing ((l.length + 1) / 2) (i / 2) < (pairs l).length := by rwa [length_pairs]
      obtain ⟨p, found, same⟩ : ∃ p, (pairs l)[landing ((l.length + 1) / 2) (i / 2)]? = some p ∧
          node p.1 p.2 = node (join x (decide (i % 2 = 1), s)).1 (join x (decide (i % 2 = 1), s)).2 := by
        rw [pairUp, List.getElem?_map, Option.map_eq_some_iff] at parent
        exact parent
      by_cases equal : p = join x (decide (i % 2 = 1), s)
      · left
        rw [landing, if_pos more, landing_getElem within found, equal, join]
        by_cases odd : i % 2 = 1
        · simp [odd]
        · simp [odd]
      · exact Or.inr ⟨p, List.mem_append_left _ (List.mem_of_getElem? found), _, by simp, equal, same⟩
    · exact Or.inr (clash.mono node (List.subset_append_right _ _) (List.subset_cons_self _ _))

end PairTree
