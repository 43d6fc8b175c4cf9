import Mathlib.Data.BitVec
import Mathlib.Data.List.Basic
import Mathlib.Data.Nat.Bitwise

/-!
# Checksums of a linear register

A register that is shifted by a map linear in exclusive or and takes one symbol with each shift. Where the shift
loses nothing, no change of a single symbol goes unnoticed; and one word of a given length closes any input.
-/

namespace Checksum

/-- A linear shift of the states below `2 ^ bits`, among which it sends only zero to zero. -/
structure Register (w : Nat) where
  bits : Nat
  shift : BitVec w → BitVec w
  shift_xor : ∀ a b, shift (a ^^^ b) = shift a ^^^ shift b
  shift_lt : ∀ {a}, a.toNat < 2 ^ bits → (shift a).toNat < 2 ^ bits
  eq_zero_of_shift : ∀ {a}, a.toNat < 2 ^ bits → shift a = 0#w → a = 0#w

namespace Register

variable {w : Nat} (r : Register w)

def step (s v : BitVec w) : BitVec w := r.shift s ^^^ v

def run (s : BitVec w) (vs : List (BitVec w)) : BitVec w := vs.foldl r.step s

def Fits (s : BitVec w) : Prop := s.toNat < 2 ^ r.bits

variable {r}
variable {s t v v' : BitVec w} {vs us : List (BitVec w)}

theorem run_append (s : BitVec w) (vs us : List (BitVec w)) : r.run s (vs ++ us) = r.run (r.run s vs) us :=
  List.foldl_append

theorem Fits.xor (first : r.Fits s) (second : r.Fits t) : r.Fits (s ^^^ t) := by
  unfold Fits at first second ⊢
  rw [BitVec.toNat_xor]
  exact Nat.xor_lt_two_pow first second

theorem Fits.step (state : r.Fits s) (symbol : r.Fits v) : r.Fits (r.step s v) :=
  Fits.xor (r.shift_lt state) symbol

theorem Fits.run (state : r.Fits s) (symbols : ∀ v ∈ vs, r.Fits v) : r.Fits (r.run s vs) := by
  induction vs generalizing s with
  | nil => exact state
  | cons v vs ih =>
    rw [List.forall_mem_cons] at symbols
    exact ih (state.step symbols.1) symbols.2

theorem xor_eq_zero_iff : s ^^^ t = 0#w ↔ s = t := by
  constructor
  · intro zero
    have back : s ^^^ t ^^^ t = t := by rw [zero, BitVec.zero_xor]
    rwa [BitVec.xor_assoc, BitVec.xor_self, BitVec.xor_zero] at back
  · rintro rfl
    exact BitVec.xor_self

/-! ### No change of one symbol goes unnoticed -/

/-- One step: states that differ still do. -/
theorem step_inj (first : r.Fits s) (second : r.Fits t) (same : r.step s v = r.step t v) : s = t := by
  apply xor_eq_zero_iff.mp
  apply r.eq_zero_of_shift (first.xor second)
  rw [r.shift_xor, xor_eq_zero_iff]
  have cancel := congrArg (· ^^^ v) same
  simpa only [step, BitVec.xor_assoc, BitVec.xor_self, BitVec.xor_zero] using cancel

/-- A whole run: states that differ still do. -/
theorem run_inj (first : r.Fits s) (second : r.Fits t) (symbols : ∀ v ∈ vs, r.Fits v)
    (same : r.run s vs = r.run t vs) : s = t := by
  induction vs generalizing s t with
  | nil => exact same
  | cons v vs ih =>
    rw [List.forall_mem_cons] at symbols
    exact step_inj first second (ih (first.step symbols.1) (second.step symbols.1) symbols.2 same)

theorem run_substitute {front rest : List (BitVec w)} (state : r.Fits s) (front_fits : ∀ v ∈ front, r.Fits v)
    (fits : r.Fits v) (fits' : r.Fits v') (rest_fits : ∀ v ∈ rest, r.Fits v)
    (same : r.run s (front ++ v :: rest) = r.run s (front ++ v' :: rest)) : v = v' := by
  rw [run_append, run_append] at same
  have here := state.run front_fits
  have steps := run_inj (here.step fits) (here.step fits') rest_fits same
  have cancel := congrArg (r.shift (r.run s front) ^^^ ·) steps
  simpa only [step, ← BitVec.xor_assoc, BitVec.xor_self, BitVec.zero_xor] using cancel

/-! ### One word closes an input -/

/-- A run is linear in its state and its symbols. -/
theorem run_xor (length : vs.length = us.length) :
    r.run (s ^^^ t) (List.zipWith (· ^^^ ·) vs us) = r.run s vs ^^^ r.run t us := by
  induction vs generalizing s t us with
  | nil =>
    cases us with
    | nil => rfl
    | cons u us => cases length
  | cons v vs ih =>
    cases us with
    | nil => cases length
    | cons u us =>
      have step : r.step (s ^^^ t) (v ^^^ u) = r.step s v ^^^ r.step t u := by
        unfold Register.step
        rw [r.shift_xor]
        ac_rfl
      rw [List.zipWith_cons_cons]
      show r.run (r.step (s ^^^ t) (v ^^^ u)) _ = r.run (r.step s v) vs ^^^ r.run (r.step t u) us
      rw [step, ih (Nat.succ.inj length)]

/-- The state and the symbols act apart. -/
theorem run_apart (s : BitVec w) (us : List (BitVec w)) :
    r.run s us = r.run s (List.replicate us.length 0#w) ^^^ r.run 0#w us := by
  have zeros : List.zipWith (· ^^^ ·) (List.replicate us.length 0#w) us = us := by
    induction us with
    | nil => rfl
    | cons u us ih => rw [List.length_cons, List.replicate_succ, List.zipWith_cons_cons, ih, BitVec.zero_xor]
  rw [← run_xor (by rw [List.length_replicate]), BitVec.xor_zero, zeros]

/-- The words that bring a state to a target are those that bring zero to a value of their length alone. -/
theorem run_eq_iff (s target : BitVec w) (us : List (BitVec w)) :
    r.run s us = target ↔ r.run 0#w us = r.run s (List.replicate us.length 0#w) ^^^ target := by
  rw [run_apart]
  constructor
  · rintro rfl
    rw [← BitVec.xor_assoc, BitVec.xor_self, BitVec.zero_xor]
  · intro word
    rw [word, ← BitVec.xor_assoc, BitVec.xor_self, BitVec.zero_xor]

end Register
end Checksum
