/-
Recurring days.

A set of days recurs when it contains, with every day, the day a period later. Something happens on
each of its days at the same time; `exists_isLeast_after` says that there is a first time after any
given one, and `IsLeast.unique` that there is only one.
-/

import Mathlib.Data.Int.LeastGreatest
import Mathlib.Order.Bounds.Basic

namespace EquinoxClock.Lib

/-- The set contains, with every day, the day a period later. -/
def Recurs (period : Nat) (days : Set Int) : Prop := ∀ day ∈ days, day + period ∈ days

section Recurs

variable {period : Nat} {days : Set Int}

/-- Any number of periods later is a day of the set as well. -/
theorem Recurs.add_mul (recurs : Recurs period days) {day : Int} (member : day ∈ days)
    (count : Nat) : day + period * count ∈ days := by
  induction count with
  | zero => rwa [Nat.cast_zero, mul_zero, add_zero]
  | succ count ih =>
      have later := recurs _ ih
      rwa [add_assoc, ← mul_add_one, ← Nat.cast_succ] at later

/-- **The first day after a limit.** On day `n` it happens at `first + length * n`. -/
theorem Recurs.exists_isLeast_after (recurs : Recurs period days) (positive : 0 < period)
    (nonempty : days.Nonempty) {length : Nat} (lasts : 0 < length) (first limit : Int) :
    ∃ day, IsLeast { day | day ∈ days ∧ limit < first + length * day } day := by
  have bounded : ∃ bound : Int, ∀ day, day ∈ days ∧ limit < first + length * day → bound ≤ day := by
    refine ⟨(limit - first) / length, fun day due => ?_⟩
    have after : limit - first ≤ day * length := by
      rw [mul_comm]
      omega
    exact Int.ediv_le_of_le_mul (Int.natCast_pos.mpr lasts) after
  have inhabited : ∃ day, day ∈ days ∧ limit < first + length * day := by
    obtain ⟨day, member⟩ := nonempty
    obtain ⟨count, enough⟩ : ∃ count : Nat, limit < first + length * day + count :=
      ⟨(limit - first - length * day).toNat + 1, by omega⟩
    refine ⟨day + period * count, recurs.add_mul member count, ?_⟩
    have grows : (count : Int) ≤ length * (period * count) := by
      exact_mod_cast (Nat.le_mul_of_pos_left count positive).trans (Nat.le_mul_of_pos_left _ lasts)
    rw [mul_add]
    omega
  obtain ⟨day, due, least⟩ := Int.exists_least_of_bdd bounded inhabited
  exact ⟨day, due, least⟩

end Recurs

end EquinoxClock.Lib
