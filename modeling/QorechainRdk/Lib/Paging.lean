import Mathlib.Data.List.Basic

/-!
# Listings read page by page

A listing in increasing order of its keys is handed out in pages. A page starts at the first item whose key
is not below the cursor, and the next cursor is the key of the first item that was left out.
-/

namespace Paging

variable {α : Type*} (key : α → Int)

def Ordered (items : List α) : Prop := items.Pairwise fun a b => key a < key b

/-- What a cursor has still before it. -/
def ahead (items : List α) (cursor : Int) : List α := items.filter fun a => cursor ≤ key a

/-- The pages that are needed are at most so many, when `size` says how long the page at a cursor is. -/
def Within (size : Int → Nat) : Nat → Int → List α → Prop
  | 0, _, _ => False
  | pages + 1, cursor, items =>
    match items.drop (size cursor) with
    | [] => True
    | next :: left => Within size pages (key next) (next :: left)

section
variable {key} {items page left : List α} {cursor : Int} {next : α}

theorem mem_ahead {a : α} : a ∈ ahead key items cursor ↔ a ∈ items ∧ cursor ≤ key a := by
  unfold ahead
  rw [List.mem_filter, decide_eq_true_iff]

theorem Ordered.ahead (ordered : Ordered key items) : Ordered key (ahead key items cursor) :=
  ordered.filter _

/-- The next cursor has before it what the page left out: nothing is lost and nothing comes twice. -/
theorem ahead_next (ordered : Ordered key items) (cut : ahead key items cursor = page ++ next :: left) :
    ahead key items (key next) = next :: left := by
  have whole : Ordered key (ahead key items cursor) := ordered.ahead
  unfold Ordered at whole
  rw [cut, List.pairwise_append] at whole
  obtain ⟨-, tail, before⟩ := whole
  obtain ⟨after, -⟩ := List.pairwise_cons.mp tail
  have reached : cursor ≤ key next := by
    have member : next ∈ ahead key items cursor := by simp [cut]
    exact (mem_ahead.mp member).2
  have twice : ahead key items (key next) = ahead key (ahead key items cursor) (key next) := by
    unfold ahead
    rw [List.filter_filter]
    apply List.filter_congr
    intro a _
    rw [← Bool.decide_and, decide_eq_decide]
    omega
  have none : page.filter (fun a => key next ≤ key a) = [] := by
    rw [List.filter_eq_nil_iff]
    intro a member
    have less := before a member next List.mem_cons_self
    rw [decide_eq_true_iff]
    omega
  have all : (next :: left).filter (fun a => key next ≤ key a) = next :: left := by
    rw [List.filter_eq_self]
    intro a member
    rw [decide_eq_true_iff]
    rcases List.mem_cons.mp member with rfl | member
    · exact Int.le_refl _
    · exact Int.le_of_lt (after a member)
  rw [twice, cut]
  unfold ahead
  rw [List.filter_append, none, all, List.nil_append]

/-- A page that leaves something out, and holds something, moves the cursor up. -/
theorem page_below (ordered : Ordered key items) {n : Nat} (some : 1 ≤ n)
    (cut : (ahead key items cursor).drop n = next :: left) :
    ∃ first page, (ahead key items cursor).take n = first :: page ∧ key first < key next := by
  have split := List.take_append_drop n (ahead key items cursor)
  obtain ⟨first, page, taken⟩ : ∃ first page, (ahead key items cursor).take n = first :: page := by
    apply List.exists_cons_of_ne_nil
    intro none
    rcases List.take_eq_nil_iff.mp none with zero | empty
    · omega
    · rw [empty, List.drop_nil] at cut
      cases cut
  have increasing : Ordered key (ahead key items cursor) := ordered.ahead
  unfold Ordered at increasing
  rw [← split, taken, cut] at increasing
  exact ⟨first, page, taken, (List.pairwise_cons.mp increasing).1 next (by simp)⟩

/-- From one page to the next: the pages that are still needed are one fewer. -/
theorem within_next {size : Int → Nat} {pages : Nat}
    (within : Within key size (pages + 1) cursor (ahead key items cursor)) (ordered : Ordered key items)
    (cut : (ahead key items cursor).drop (size cursor) = next :: left) :
    ahead key items (key next) = next :: left ∧ next ∈ items ∧
      Within key size pages (key next) (ahead key items (key next)) := by
  have split := List.take_append_drop (size cursor) (ahead key items cursor)
  rw [cut] at split
  have following : ahead key items (key next) = next :: left := ahead_next ordered split.symm
  have inside : next ∈ ahead key items cursor := by
    rw [← split]
    exact List.mem_append_right _ List.mem_cons_self
  unfold Within at within
  rw [cut] at within
  refine ⟨following, (mem_ahead.mp inside).1, ?_⟩
  rw [following]
  exact within

/-- No more pages are needed than there are items, when no page is empty. -/
theorem within_of_length {size : Int → Nat} (sizes : ∀ s, 1 ≤ size s) {pages : Nat} (enough : items.length < pages) :
    Within key size pages cursor items := by
  induction pages generalizing items cursor with
  | zero => cases enough
  | succ pages ih =>
    unfold Within
    cases rest : items.drop (size cursor) with
    | nil => trivial
    | cons next left =>
      apply ih
      have long := sizes cursor
      have shorter : (items.drop (size cursor)).length = items.length - size cursor := List.length_drop
      have nonempty := congrArg List.length rest
      rw [List.length_cons] at nonempty
      rw [List.length_cons]
      omega

end
end Paging
