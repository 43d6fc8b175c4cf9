import Mathlib.Algebra.Group.Int.Defs

/-!
# Integers of Go

An `int` has 64 bits. A value is the integer that it stands for, and a conversion or an overflow takes the low
64 bits.
-/

namespace QorechainRdk.Go

def uint64 (v : Int) : Nat := (v % 2 ^ 64).toNat

def int64 (v : Int) : Int :=
  if v % 2 ^ 64 < 2 ^ 63 then v % 2 ^ 64 else v % 2 ^ 64 - 2 ^ 64

theorem uint64_of_range {v : Int} (nonneg : 0 ≤ v) (small : v < 2 ^ 64) : (uint64 v : Int) = v := by
  unfold uint64
  omega

theorem int64_of_range {v : Int} (low : -2 ^ 63 ≤ v) (high : v < 2 ^ 63) : int64 v = v := by
  unfold int64
  split
  · omega
  · omega

end QorechainRdk.Go
