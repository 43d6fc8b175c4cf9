import Mathlib.Algebra.Order.Ring.Nat
import Mathlib.Data.Nat.Size

/-!
# Rounding to a number of significant bits

A natural number is brought to `p` significant bits, the nearest ones, and to an even last one in a tie.
-/

namespace Rounding

/-- The bits of `n` that go beyond the first `p`. -/
def excess (p n : Nat) : Nat := n.size - p

def nearest (p n : Nat) : Nat :=
  let unit := 2 ^ excess p n
  let below := n / unit * unit
  if 2 * (n % unit) < unit ∨ (2 * (n % unit) = unit ∧ n / unit % 2 = 0) then below else below + unit

/-- The same for the fraction `n / d`. -/
def nearestRatio (p n d : Nat) : Nat :=
  let unit := 2 ^ excess p (n / d)
  let below := n / (d * unit)
  let rest := n % (d * unit)
  if 2 * rest < d * unit ∨ (2 * rest = d * unit ∧ below % 2 = 0) then below * unit else below * unit + unit

def Representable (p n : Nat) : Prop := ∃ m e, m < 2 ^ p ∧ n = m * 2 ^ e

section
variable {p b n : Nat}

theorem unit_pos (p n : Nat) : 0 < 2 ^ excess p n := Nat.two_pow_pos _

theorem nearest_of_dvd (whole : 2 ^ excess p n ∣ n) : nearest p n = n := by
  have none : n % 2 ^ excess p n = 0 := Nat.mod_eq_zero_of_dvd whole
  have pos := unit_pos p n
  unfold nearest
  dsimp only
  rw [none, if_pos (Or.inl (by omega))]
  exact Nat.div_mul_cancel whole

/-- The rounded value is off by half a unit at most. -/
theorem nearest_near (p n : Nat) :
    2 * nearest p n ≤ 2 * n + 2 ^ excess p n ∧ 2 * n ≤ 2 * nearest p n + 2 ^ excess p n := by
  have parts := Nat.div_add_mod' n (2 ^ excess p n)
  have small := Nat.mod_lt n (unit_pos p n)
  unfold nearest
  dsimp only
  split
  · omega
  · omega

theorem dvd_of_nearest (same : nearest p n = n) : 2 ^ excess p n ∣ n := by
  have parts := Nat.div_add_mod' n (2 ^ excess p n)
  have small := Nat.mod_lt n (unit_pos p n)
  apply Nat.dvd_of_mod_eq_zero
  unfold nearest at same
  dsimp only at same
  split at same
  · omega
  · omega

theorem representable_iff_dvd : Representable p n ↔ 2 ^ excess p n ∣ n := by
  constructor
  · intro h
    obtain ⟨m, e, short, rfl⟩ := h
    have width : (m * 2 ^ e).size ≤ p + e := by
      rw [Nat.size_le, pow_add]
      exact Nat.mul_lt_mul_of_pos_right short (Nat.two_pow_pos e)
    have within : excess p (m * 2 ^ e) ≤ e := by
      unfold excess
      omega
    exact (pow_dvd_pow 2 within).trans (Nat.dvd_mul_left _ _)
  · intro h
    obtain ⟨m, whole⟩ := h
    refine ⟨m, excess p n, ?_, whole.trans (Nat.mul_comm _ _)⟩
    by_contra long
    have wide : 2 ^ (p + excess p n) ≤ n := by
      rw [pow_add]
      calc 2 ^ p * 2 ^ excess p n ≤ m * 2 ^ excess p n := Nat.mul_le_mul_right _ (not_lt.mp long)
        _ = n := by rw [mul_comm]; exact whole.symm
    have size := Nat.lt_size.mpr wide
    unfold excess at size
    omega

theorem nearest_eq_iff : nearest p n = n ↔ Representable p n := by
  rw [representable_iff_dvd]
  exact ⟨dvd_of_nearest, nearest_of_dvd⟩

/-- A fraction that is whole is rounded as the number it is. -/
theorem nearestRatio_mul {d : Nat} (pos : 0 < d) : nearestRatio p (n * d) d = nearest p n := by
  have quotient : n * d / (d * 2 ^ excess p n) = n / 2 ^ excess p n := by
    rw [Nat.mul_comm n d, Nat.mul_div_mul_left _ _ pos]
  have rest : n * d % (d * 2 ^ excess p n) = d * (n % 2 ^ excess p n) := by
    rw [Nat.mul_comm n d, Nat.mul_mod_mul_left]
  have less : ∀ r u : Nat, 2 * (d * r) < d * u ↔ 2 * r < u := by
    intro r u
    rw [Nat.mul_left_comm, Nat.mul_lt_mul_left pos]
  have same : ∀ r u : Nat, 2 * (d * r) = d * u ↔ 2 * r = u := by
    intro r u
    rw [Nat.mul_left_comm, Nat.mul_right_inj pos.ne']
  unfold nearestRatio nearest
  dsimp only
  rw [Nat.mul_div_cancel _ pos, quotient, rest]
  simp only [less, same]

theorem excess_mul (k : Nat) (large : 2 ^ p ≤ n) : excess p (n * 2 ^ k) = excess p n + k := by
  have some_bits : n ≠ 0 := (Nat.lt_of_lt_of_le (Nat.two_pow_pos p) large).ne'
  have size := Nat.lt_size.mpr large
  have longer := Nat.size_shiftLeft some_bits k
  rw [Nat.shiftLeft_eq] at longer
  unfold excess
  omega

/-- Zeros behind a number are kept. -/
theorem nearest_mul_pow (k : Nat) : nearest p (n * 2 ^ k) = nearest p n * 2 ^ k := by
  by_cases small : n < 2 ^ p
  · have held : Representable p n := ⟨n, 0, small, by simp⟩
    have shifted : Representable p (n * 2 ^ k) := ⟨n, k, small, rfl⟩
    rw [nearest_eq_iff.mpr held, nearest_eq_iff.mpr shifted]
  · have pos := Nat.two_pow_pos k
    have quotient : n * 2 ^ k / (2 ^ excess p n * 2 ^ k) = n / 2 ^ excess p n := Nat.mul_div_mul_right _ _ pos
    have rest : n * 2 ^ k % (2 ^ excess p n * 2 ^ k) = n % 2 ^ excess p n * 2 ^ k := Nat.mul_mod_mul_right _ _ _
    have less : ∀ r u : Nat, 2 * (r * 2 ^ k) < u * 2 ^ k ↔ 2 * r < u := by
      intro r u
      rw [← Nat.mul_assoc, Nat.mul_lt_mul_right pos]
    have same : ∀ r u : Nat, 2 * (r * 2 ^ k) = u * 2 ^ k ↔ 2 * r = u := by
      intro r u
      rw [← Nat.mul_assoc, Nat.mul_left_inj pos.ne']
    unfold nearest
    dsimp only
    rw [excess_mul k (not_lt.mp small), pow_add, quotient, rest]
    simp only [less, same]
    split
    · rw [Nat.mul_assoc]
    · rw [Nat.add_mul, Nat.mul_assoc]

theorem representable_of_lt (h : n < 2 ^ p) : Representable p n := ⟨n, 0, h, by simp⟩

theorem representable_of_le (pos : 0 < p) (h : n ≤ 2 ^ p) : Representable p n := by
  rcases h.lt_or_eq with less | rfl
  · exact representable_of_lt less
  · exact ⟨1, p, Nat.one_lt_two_pow pos.ne', (Nat.one_mul _).symm⟩

theorem excess_le (small : n < 2 ^ b) : excess p n ≤ b - p := by
  have size := Nat.size_le.mpr small
  unfold excess
  omega

theorem nearest_lt (small : n < 2 ^ b) : nearest p n < 2 ^ (b + 1) := by
  have unit : 2 ^ excess p n ≤ 2 ^ b :=
    Nat.pow_le_pow_right (by decide) ((excess_le small).trans (Nat.sub_le b p))
  obtain ⟨above, -⟩ := nearest_near p n
  rw [pow_succ']
  omega

theorem le_nearest (pos : 0 < p) (large : 2 ^ p ≤ n) : 2 ^ p ≤ nearest p n := by
  have size : p + excess p n = n.size := by
    have wide := Nat.lt_size.mpr large
    unfold excess
    omega
  have below : n / 2 ^ excess p n * 2 ^ excess p n ≤ nearest p n := by
    unfold nearest
    dsimp only
    split
    · exact Nat.le_refl _
    · exact Nat.le_add_right _ _
  refine Nat.le_trans ?_ below
  cases more : excess p n with
  | zero => rw [pow_zero, Nat.div_one, Nat.mul_one]; exact large
  | succ e =>
    -- The first bit of `n` stays.
    have first : 2 ^ (p - 1) * 2 ^ (e + 1) ≤ n := by
      rw [← pow_add]
      exact Nat.lt_size.mp (by omega)
    calc 2 ^ p ≤ 2 ^ (p - 1) * 2 ^ (e + 1) := by
          rw [← pow_add]
          exact Nat.pow_le_pow_right (by decide) (by omega)
      _ ≤ n / 2 ^ (e + 1) * 2 ^ (e + 1) :=
          Nat.mul_le_mul_right _ ((Nat.le_div_iff_mul_le (Nat.two_pow_pos _)).mpr first)

/-- A rounded value of at most `p` bits was not rounded. -/
theorem nearest_of_nearest_lt (pos : 0 < p) (small : nearest p n < 2 ^ p) : nearest p n = n := by
  apply nearest_eq_iff.mpr
  apply representable_of_lt
  by_contra large
  exact absurd (le_nearest pos (not_lt.mp large)) (not_le.mpr small)

/-- A value below `2 ^ b` that is not representable keeps another residue modulo `2 ^ b`. -/
theorem nearest_mod_ne (bits : p ≤ b) (pos : 0 < p) (small : n < 2 ^ b) (h : ¬ Representable p n) :
    nearest p n % 2 ^ b ≠ n % 2 ^ b := by
  have width : excess p n ≤ b - 1 := (excess_le small).trans (by omega)
  have unit : 2 * 2 ^ excess p n ≤ 2 ^ b := by
    calc 2 * 2 ^ excess p n = 2 ^ (excess p n + 1) := (pow_succ' 2 _).symm
      _ ≤ 2 ^ b := Nat.pow_le_pow_right (by decide) (by omega)
  have differs : nearest p n ≠ n := mt nearest_eq_iff.mp h
  obtain ⟨above, beneath⟩ := nearest_near p n
  have some_unit := unit_pos p n
  intro same
  rw [Nat.mod_eq_of_lt small] at same
  have parts := Nat.div_add_mod (nearest p n) (2 ^ b)
  rw [same] at parts
  cases quotient : nearest p n / 2 ^ b with
  | zero =>
    rw [quotient] at parts
    omega
  | succ q =>
    rw [quotient, Nat.mul_succ] at parts
    have grows : 0 ≤ 2 ^ b * q := Nat.zero_le _
    omega

end
end Rounding
