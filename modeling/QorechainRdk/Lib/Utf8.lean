import Mathlib.Data.Char
import Mathlib.Data.List.Basic

/-!
# Reading UTF-8

A decoder that reads any bytes, with a replacement character for what is no encoding, and reads back what was encoded.
-/

namespace Utf8

/-- A character begun: the bytes to come, its bits so far, and the range of the next byte. -/
structure Pending where
  needed : Nat
  code : Nat
  lower : Nat
  upper : Nat
  deriving DecidableEq, Repr

def replacement : Char := '\uFFFD'

/-- The first byte of a character. -/
def start (b : Nat) : List Char × Option Pending :=
  if b < 0x80 then ([Char.ofNat b], none)
  else if 0xC2 ≤ b ∧ b ≤ 0xDF then ([], some ⟨1, b % 32, 0x80, 0xBF⟩)
  else if 0xE0 ≤ b ∧ b ≤ 0xEF then
    ([], some ⟨2, b % 16, if b = 0xE0 then 0xA0 else 0x80, if b = 0xED then 0x9F else 0xBF⟩)
  else if 0xF0 ≤ b ∧ b ≤ 0xF4 then
    ([], some ⟨3, b % 8, if b = 0xF0 then 0x90 else 0x80, if b = 0xF4 then 0x8F else 0xBF⟩)
  else ([replacement], none)

/-- A byte out of its range ends the character before it and is read again. -/
def step (pending : Option Pending) (b : Nat) : List Char × Option Pending :=
  match pending with
  | none => start b
  | some p =>
    if p.lower ≤ b ∧ b ≤ p.upper then
      let code := p.code * 64 + b % 64
      if p.needed = 1 then ([Char.ofNat code], none) else ([], some ⟨p.needed - 1, code, 0x80, 0xBF⟩)
    else (replacement :: (start b).1, (start b).2)

def decodeFrom (pending : Option Pending) : List UInt8 → List Char
  | [] => if pending.isSome then [replacement] else []
  | b :: bs => (step pending b.toNat).1 ++ decodeFrom (step pending b.toNat).2 bs

def decode (bs : List UInt8) : List Char := decodeFrom none bs

/-! ### One character -/

section
variable {p : Pending} {b n : Nat} (bs : List UInt8)

theorem decodeFrom_byte (pending : Option Pending) (small : n < 256) :
    decodeFrom pending (UInt8.ofNat n :: bs) = (step pending n).1 ++ decodeFrom (step pending n).2 bs := by
  rw [decodeFrom, UInt8.toNat_ofNat', Nat.mod_eq_of_lt small]

theorem step_more (range : p.lower ≤ b ∧ b ≤ p.upper) (more : p.needed ≠ 1) :
    step (some p) b = ([], some ⟨p.needed - 1, p.code * 64 + b % 64, 0x80, 0xBF⟩) := by
  unfold step
  dsimp only
  rw [if_pos range, if_neg more]

theorem step_last (range : p.lower ≤ b ∧ b ≤ p.upper) (last : p.needed = 1) :
    step (some p) b = ([Char.ofNat (p.code * 64 + b % 64)], none) := by
  unfold step
  dsimp only
  rw [if_pos range, if_pos last]

theorem start_two (range : 0xC2 ≤ b ∧ b ≤ 0xDF) : start b = ([], some ⟨1, b % 32, 0x80, 0xBF⟩) := by
  unfold start
  rw [if_neg (by omega), if_pos range]

theorem start_three (range : 0xE0 ≤ b ∧ b ≤ 0xEF) :
    start b = ([], some ⟨2, b % 16, if b = 0xE0 then 0xA0 else 0x80, if b = 0xED then 0x9F else 0xBF⟩) := by
  unfold start
  rw [if_neg (by omega), if_neg (by omega), if_pos range]

theorem start_four (range : 0xF0 ≤ b ∧ b ≤ 0xF4) :
    start b = ([], some ⟨3, b % 8, if b = 0xF0 then 0x90 else 0x80, if b = 0xF4 then 0x8F else 0xBF⟩) := by
  unfold start
  rw [if_neg (by omega), if_neg (by omega), if_neg (by omega), if_pos range]

/-- The shortest encoding is the only one that the first two bytes let through, and no surrogate is. -/
theorem decodeFrom_char (c : Char) :
    decodeFrom none (String.utf8EncodeChar c ++ bs) = c :: decodeFrom none bs := by
  have valid : c.val.toNat < 0xD800 ∨ 0xDFFF < c.val.toNat ∧ c.val.toNat < 0x110000 := c.valid
  have whole : Char.ofNat c.val.toNat = c := Char.ofNat_toNat c
  unfold String.utf8EncodeChar
  dsimp only
  generalize c.val.toNat = n at valid whole
  split
  · rw [List.singleton_append, decodeFrom_byte _ _ (by omega), step, start, if_pos (by omega), whole]
    rfl
  · split
    · rw [List.cons_append, List.singleton_append, decodeFrom_byte _ _ (by omega), step, start_two (by omega),
        List.nil_append, decodeFrom_byte _ _ (by omega), step_last (by dsimp only; omega) rfl]
      dsimp only
      rw [show (n / 64 % 32 + 192) % 32 * 64 + (n % 64 + 128) % 64 = n by omega, whole]
      rfl
    · split
      · rw [List.cons_append, List.cons_append, List.singleton_append, decodeFrom_byte _ _ (by omega), step,
          start_three (by omega), List.nil_append, decodeFrom_byte _ _ (by omega),
          step_more (by dsimp only; split <;> split <;> omega) (by simp), List.nil_append,
          decodeFrom_byte _ _ (by omega), step_last (by dsimp only; omega) rfl]
        dsimp only
        rw [show ((n / 4096 % 16 + 224) % 16 * 64 + (n / 64 % 64 + 128) % 64) * 64 + (n % 64 + 128) % 64 = n by omega,
          whole]
        rfl
      · rw [List.cons_append, List.cons_append, List.cons_append, List.singleton_append,
          decodeFrom_byte _ _ (by omega), step, start_four (by omega), List.nil_append,
          decodeFrom_byte _ _ (by omega), step_more (by dsimp only; split <;> split <;> omega) (by simp),
          List.nil_append, decodeFrom_byte _ _ (by omega), step_more (by dsimp only; omega) (by simp),
          List.nil_append, decodeFrom_byte _ _ (by omega), step_last (by dsimp only; omega) rfl]
        dsimp only
        rw [show (((n / 262144 % 8 + 240) % 8 * 64 + (n / 4096 % 64 + 128) % 64) * 64 +
          (n / 64 % 64 + 128) % 64) * 64 + (n % 64 + 128) % 64 = n by omega, whole]
        rfl

end

/-- What was encoded is read back. -/
theorem decode_flatMap (cs : List Char) : decode (cs.flatMap String.utf8EncodeChar) = cs := by
  unfold decode
  induction cs with
  | nil => rfl
  | cons c cs ih => rw [List.flatMap_cons, decodeFrom_char, ih]

example : decode [0xE2, 0x82, 0x41, 0xED, 0xA0, 0x80] = ['\uFFFD', 'A', '\uFFFD', '\uFFFD', '\uFFFD'] := by decide

end Utf8
