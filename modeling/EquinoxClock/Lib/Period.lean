/-
Sums over a period, and numbers from their bits.

What repeats with a period has the same sum over every stretch of that length, wherever the stretch
begins. The powers of two of the bits that are set add up to the number.
-/

import Mathlib.Algebra.BigOperators.Intervals
import Mathlib.Data.Nat.Bitwise

namespace EquinoxClock.Lib

open Finset

/-- **A whole period**, begun anywhere, has the same sum. -/
theorem sum_period {period : Nat} {f : Nat → Nat} (periodic : ∀ i, f (i + period) = f i)
    (start : Nat) : ∑ i ∈ range period, f (start + i) = ∑ i ∈ range period, f i := by
  induction start with
  | zero => exact sum_congr rfl fun i _ => congrArg f (Nat.zero_add i)
  | succ start ih =>
      rw [← ih]
      have last := sum_range_succ (fun i => f (start + i)) period
      rw [sum_range_succ'] at last
      have same : f (start + period) = f (start + 0) := periodic start
      rw [same] at last
      refine Eq.trans (sum_congr rfl fun i _ => ?_) (Nat.add_right_cancel last)
      rw [Nat.succ_add_eq_add_succ]

/-- The bits of a number below some bit. -/
theorem sum_bits_mod (n count : Nat) :
    ∑ bit ∈ range count, (if n.testBit bit then 2 ^ bit else 0) = n % 2 ^ count := by
  induction count with
  | zero => rw [Nat.pow_zero, Nat.mod_one, sum_range_zero]
  | succ count ih =>
      rw [sum_range_succ, ih, Nat.mod_pow_succ, Nat.testBit_eq_decide_div_mod_eq]
      rcases Nat.mod_two_eq_zero_or_one (n / 2 ^ count) with clear | set
      · simp [clear]
      · simp [set]

/-- **The bits of a number.** -/
theorem sum_bits {n count : Nat} (small : n < 2 ^ count) :
    ∑ bit ∈ range count, (if n.testBit bit then 2 ^ bit else 0) = n :=
  (sum_bits_mod n count).trans (Nat.mod_eq_of_lt small)

end EquinoxClock.Lib
