import Mathlib.Data.List.Infix

/-!
# Whole words

Whether a text holds one of some words with no word character beside it.
-/

namespace QorechainRdk
namespace Words

variable {α : Type} [DecidableEq α] (isWord : α → Bool) (words : List (List α))

/-- One of the words begins here, and ends before anything that would go on with it. -/
def standsAt (cs : List α) : Bool :=
  words.any fun w => w.isPrefixOf cs && !(cs.drop w.length).head?.any isWord

/-- The search from here on; `behind` tells whether a word character comes right before. -/
def searchFrom (behind : Bool) : List α → Bool
  | [] => false
  | c :: cs => (!behind && standsAt isWord words (c :: cs)) || searchFrom (isWord c) cs

def search (cs : List α) : Bool := searchFrom isWord words false cs

/-- What is searched for are words. -/
def Proper : Prop := ∀ w ∈ words, w ≠ [] ∧ ∀ c ∈ w, isWord c = true

section
variable {isWord words} {cs rest : List α} {sep : α} (proper : Proper isWord words) (apart : isWord sep = false)

theorem standsAt_iff : standsAt isWord words cs = true ↔
    ∃ w ∈ words, w <+: cs ∧ (cs.drop w.length).head?.any isWord = false := by
  simp [standsAt]

omit [DecidableEq α] in
include proper in
theorem prefix_of_separated {w : List α} (member : w ∈ words) (apart : isWord sep = false) :
    w <+: cs ++ sep :: rest ↔ w <+: cs := by
  constructor
  · intro first
    rcases List.prefix_or_prefix_of_prefix first (List.prefix_append _ _) with inside | ⟨tail, rfl⟩
    · exact inside
    · have reaches := (List.prefix_append_right_inj cs).mp first
      cases tail with
      | nil => simp
      | cons c tail =>
        obtain rfl : c = sep := (List.cons_prefix_cons.mp reaches).1
        have word := (proper _ member).2 c (by simp)
        rw [apart] at word
        cases word
  · intro inside
    exact inside.trans (List.prefix_append _ _)

include proper apart in
theorem standsAt_separated : standsAt isWord words (cs ++ sep :: rest) = standsAt isWord words cs := by
  rw [Bool.eq_iff_iff, standsAt_iff, standsAt_iff]
  apply exists_congr
  intro w
  apply and_congr_right
  intro member
  rw [prefix_of_separated proper member apart]
  apply and_congr_right
  intro inside
  rw [List.drop_append_of_le_length inside.length_le]
  cases cs.drop w.length with
  | nil => simp [apart]
  | cons c cs => simp

include proper apart in
/-- A separator parts the search. -/
theorem searchFrom_separated (behind : Bool) : searchFrom isWord words behind (cs ++ sep :: rest) =
    (searchFrom isWord words behind cs || search isWord words rest) := by
  induction cs generalizing behind with
  | nil =>
    have nothing : standsAt isWord words ([] ++ sep :: rest) = false := by
      rw [standsAt_separated proper apart, Bool.eq_false_iff, ne_eq, standsAt_iff]
      rintro ⟨w, member, inside, -⟩
      exact (proper w member).1 (List.prefix_nil.mp inside)
    rw [List.nil_append] at nothing
    show ((!behind && standsAt isWord words (sep :: rest)) || searchFrom isWord words (isWord sep) rest) = _
    rw [nothing, apart, Bool.and_false]
    rfl
  | cons c cs ih =>
    rw [List.cons_append, searchFrom, ih, searchFrom, ← List.cons_append, standsAt_separated proper apart,
      Bool.or_assoc]

include proper apart in
theorem search_separated : search isWord words (cs ++ sep :: rest) =
    (search isWord words cs || search isWord words rest) := searchFrom_separated proper apart false

/-- Behind a word character nothing begins before the next separator. -/
theorem searchFrom_behind (word : ∀ c ∈ cs, isWord c = true) : searchFrom isWord words true cs = false := by
  induction cs with
  | nil => rfl
  | cons c cs ih =>
    rw [searchFrom, word c List.mem_cons_self, ih fun d member => word d (List.mem_cons_of_mem _ member)]
    rfl

include proper in
/-- A text without separators is found when it is one of the words. -/
theorem search_word_iff (word : ∀ c ∈ cs, isWord c = true) : search isWord words cs = true ↔ cs ∈ words := by
  cases cs with
  | nil =>
    constructor
    · intro found
      cases found
    · intro member
      exact absurd rfl (proper _ member).1
  | cons c cs =>
    unfold search searchFrom
    rw [word c List.mem_cons_self, searchFrom_behind fun d member => word d (List.mem_cons_of_mem _ member),
      Bool.or_false, Bool.not_false, Bool.true_and, standsAt_iff]
    constructor
    · intro h
      obtain ⟨w, member, ⟨tail, same⟩, ends⟩ := h
      cases tail with
      | nil =>
        rw [List.append_nil] at same
        rw [← same]
        exact member
      | cons d tail =>
        have inside : d ∈ c :: cs := by
          rw [← same]
          simp
        rw [← same, List.drop_left, List.head?_cons, Option.any_some, word d inside] at ends
        cases ends
    · intro member
      exact ⟨c :: cs, member, List.prefix_rfl, by simp⟩

end
end Words
end QorechainRdk
