import Mathlib.Algebra.Order.Ring.Nat
import Mathlib.Data.List.Basic
import Mathlib.Data.List.Induction
import Mathlib.Data.Nat.Digits.Defs
import Mathlib.Tactic.Ring

/-!
# Digits of another width

A list of digits, the most significant first, as a number and back. Groups of some bits are regrouped into groups of
others by taking bits in and putting digits out, so that both are digits of one number.
-/

namespace Regroup

def number (b : Nat) (ds : List Nat) : Nat := Nat.ofDigits b ds.reverse

/-- The last `n` digits of `v`. -/
def digits (b : Nat) : Nat → Nat → List Nat
  | 0, _ => []
  | n + 1, v => digits b n (v / b) ++ [v % b]

section
variable {b n v : Nat} {ds es : List Nat}

@[simp] theorem number_nil : number b [] = 0 := rfl

theorem number_concat (b : Nat) (ds : List Nat) (d : Nat) : number b (ds ++ [d]) = number b ds * b + d := by
  unfold number
  rw [List.reverse_append, List.reverse_singleton, List.singleton_append, Nat.ofDigits_cons]
  ring

theorem number_lt (small : ∀ d ∈ ds, d < b) : number b ds < b ^ ds.length := by
  induction ds using List.reverseRecOn with
  | nil => exact Nat.one_pos
  | append_singleton ds d ih =>
    have front := ih fun e member => small e (List.mem_append_left _ member)
    have last := small d (by simp)
    rw [number_concat, List.length_append, List.length_singleton, pow_succ]
    calc number b ds * b + d < (number b ds + 1) * b := by rw [Nat.add_mul]; omega
      _ ≤ b ^ ds.length * b := Nat.mul_le_mul_right b front

@[simp] theorem length_digits (b n v : Nat) : (digits b n v).length = n := by
  induction n generalizing v with
  | zero => rfl
  | succ n ih => rw [digits, List.length_append, ih, List.length_singleton]

theorem digits_lt (pos : 0 < b) : ∀ d ∈ digits b n v, d < b := by
  induction n generalizing v with
  | zero => simp [digits]
  | succ n ih =>
    intro d member
    rw [digits, List.mem_append, List.mem_singleton] at member
    rcases member with front | rfl
    · exact ih d front
    · exact Nat.mod_lt v pos

theorem number_digits (b n v : Nat) : number b (digits b n v) = v % b ^ n := by
  induction n generalizing v with
  | zero => rw [pow_zero, Nat.mod_one]; rfl
  | succ n ih => rw [digits, number_concat, ih, pow_succ', Nat.mod_mul, Nat.mul_comm, Nat.add_comm]

theorem number_digits_of_lt (small : v < b ^ n) : number b (digits b n v) = v := by
  rw [number_digits, Nat.mod_eq_of_lt small]

/-- Digits of a width are those of their number. -/
theorem digits_number (small : ∀ d ∈ ds, d < b) : digits b ds.length (number b ds) = ds := by
  induction ds using List.reverseRecOn with
  | nil => rfl
  | append_singleton ds d ih =>
    have last := small d (by simp)
    have pos : 0 < b := Nat.zero_lt_of_lt last
    have high : (number b ds * b + d) / b = number b ds := by
      rw [Nat.mul_comm, Nat.mul_add_div pos, Nat.div_eq_of_lt last, Nat.add_zero]
    have low : (number b ds * b + d) % b = d := by
      rw [Nat.mul_comm, Nat.mul_add_mod, Nat.mod_eq_of_lt last]
    rw [List.length_append, List.length_singleton, digits, number_concat, high, low,
      ih fun e member => small e (List.mem_append_left _ member)]

end

/-! ### Taking in and putting out -/

/-- Of a number of `total` bits, the last `bits` are still in hand: the rest is out in digits of `toBits` bits. -/
structure Grouped (toBits total N : Nat) (out : List Nat) (bits : Nat) : Prop where
  width : toBits * out.length + bits = total
  number : out = digits (2 ^ toBits) out.length (N / 2 ^ bits)

section
variable {toBits total N bits : Nat} {out : List Nat}

theorem Grouped.start : Grouped toBits 0 0 [] 0 := ⟨rfl, rfl⟩

/-- More bits come in. -/
theorem Grouped.take (h : Grouped toBits total N out bits) {width v : Nat} (small : v < 2 ^ width) :
    Grouped toBits (total + width) (N * 2 ^ width + v) out (bits + width) := by
  refine ⟨by rw [← h.width, Nat.add_assoc], ?_⟩
  have same : (N * 2 ^ width + v) / 2 ^ (bits + width) = N / 2 ^ bits := by
    rw [Nat.add_comm bits, pow_add, ← Nat.div_div_eq_div_mul, Nat.mul_comm, Nat.mul_add_div (Nat.two_pow_pos width),
      Nat.div_eq_of_lt small, Nat.add_zero]
  rw [same]
  exact h.number

/-- A digit goes out. -/
theorem Grouped.put (h : Grouped toBits total N out bits) (enough : toBits ≤ bits) :
    Grouped toBits total N (out ++ [N / 2 ^ (bits - toBits) % 2 ^ toBits]) (bits - toBits) := by
  have width := h.width
  refine ⟨?_, ?_⟩
  · rw [List.length_append, List.length_singleton, Nat.mul_add, Nat.mul_one]
    omega
  · have before : N / 2 ^ (bits - toBits) / 2 ^ toBits = N / 2 ^ bits := by
      rw [Nat.div_div_eq_div_mul, ← pow_add, Nat.sub_add_cancel enough]
    rw [List.length_append, List.length_singleton, digits, before, ← h.number]

/-- The rest is filled up with zeros. -/
theorem Grouped.fill (h : Grouped toBits total N out bits) (few : bits < toBits) :
    out ++ [N % 2 ^ bits * 2 ^ (toBits - bits)] = digits (2 ^ toBits) (out.length + 1) (N * 2 ^ (toBits - bits)) := by
  have power : 2 ^ toBits = 2 ^ bits * 2 ^ (toBits - bits) := by rw [← pow_add, Nat.add_sub_cancel' few.le]
  have high : N * 2 ^ (toBits - bits) / 2 ^ toBits = N / 2 ^ bits := by
    rw [power, Nat.mul_div_mul_right _ _ (Nat.two_pow_pos _)]
  have low : N * 2 ^ (toBits - bits) % 2 ^ toBits = N % 2 ^ bits * 2 ^ (toBits - bits) := by
    rw [power, Nat.mul_mod_mul_right]
  rw [digits, high, low, ← h.number]

end
end Regroup
