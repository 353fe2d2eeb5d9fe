/-
Sums in one's complement.

Numbers up to `top` are added with the carry added back in, as the checksums of the internet
protocols do it. Such a sum is the plain sum modulo `top` (`endAround_modEq`); of the two numbers
that stand for 0 it is the lower one only where nothing but zeros were added (`endAround_eq_zero`).

In a sum of digits two by two every other digit has the higher weight (`weigh`).
-/

import Mathlib.Data.Nat.ModEq
import Mathlib.Tactic.Common

namespace EquinoxClock.Lib.OnesComplement

/-- The sum, with the carry added back in. -/
def endAround (top first second : Nat) : Nat :=
  if first + second ≤ top then first + second else first + second - top

theorem endAround_eq_zero {top first second : Nat} :
    endAround top first second = 0 ↔ first = 0 ∧ second = 0 := by
  rw [endAround]
  split <;> omega

/-- The carry counts for 1, as `top + 1` does modulo `top`. -/
theorem endAround_modEq (top first second : Nat) :
    endAround top first second ≡ first + second [MOD top] := by
  rw [endAround]
  split
  · rfl
  · next high =>
      have modEq := Nat.ModEq.symm (Nat.add_modEq_right (n := top) (a := first + second - top))
      rwa [Nat.sub_add_cancel (Nat.le_of_not_le high)] at modEq

/-- The numbers that stand for 0. -/
theorem dvd_iff {top value : Nat} (value_le : value ≤ top) :
    top ∣ value ↔ value = 0 ∨ value = top := by
  constructor
  · intro divides
    rcases Nat.eq_zero_or_pos value with zero | pos
    · exact Or.inl zero
    · exact Or.inr (Nat.le_antisymm value_le (Nat.le_of_dvd pos divides))
  · rintro (rfl | rfl)
    · exact Nat.dvd_zero top
    · exact Nat.dvd_refl value

/-- Two numbers that stand for the same one are equal, or are the two that stand for 0. -/
theorem modEq_iff {top value other : Nat} (value_le : value ≤ top) (other_le : other ≤ top) :
    value ≡ other [MOD top] ↔
      value = other ∨ value = 0 ∧ other = top ∨ value = top ∧ other = 0 := by
  have ends : top ≡ 0 [MOD top] := Nat.modEq_zero_iff_dvd.mpr dvd_rfl
  constructor
  · intro same
    rcases Nat.lt_or_eq_of_le value_le with value_lt | rfl
    · rcases Nat.lt_or_eq_of_le other_le with other_lt | rfl
      · exact Or.inl (same.eq_of_lt_of_lt value_lt other_lt)
      · have zero := (dvd_iff value_le).mp (Nat.modEq_zero_iff_dvd.mp (same.trans ends))
        exact zero.elim (fun zero => Or.inr (Or.inl ⟨zero, rfl⟩)) Or.inl
    · have zero := (dvd_iff other_le).mp (Nat.modEq_zero_iff_dvd.mp (same.symm.trans ends))
      exact zero.elim (fun zero => Or.inr (Or.inr ⟨rfl, zero⟩)) fun same => Or.inl same.symm
  · rintro (rfl | ⟨rfl, rfl⟩ | ⟨rfl, rfl⟩)
    · rfl
    · exact ends.symm
    · exact ends

/-! ### Sums two by two -/

/-- The sum of some digits two by two, the first of each two with the higher weight. It begins with a
first one, or with a second one. -/
def weigh (base : Nat) : (high : Bool) → List Nat → Nat
  | _, [] => 0
  | high, digit :: digits => (if high then base * digit else digit) + weigh base (!high) digits

variable (base : Nat)

/-- How the digits behind some others begin. -/
def begins : (high : Bool) → List Nat → Bool
  | high, [] => high
  | high, _ :: digits => begins (!high) digits

theorem begins_eq (high : Bool) (digits : List Nat) :
    begins high digits = (high == (digits.length % 2 == 0)) := by
  induction digits generalizing high with
  | nil => cases high <;> rfl
  | cons digit digits ih =>
      rw [begins, ih, List.length_cons]
      rcases Nat.mod_two_eq_zero_or_one digits.length with even | odd
      · rw [even, Nat.add_mod, even]
        cases high <;> rfl
      · rw [odd, Nat.add_mod, odd]
        cases high <;> rfl

theorem weigh_append (high : Bool) (digits others : List Nat) :
    weigh base high (digits ++ others) =
      weigh base high digits + weigh base (begins high digits) others := by
  induction digits generalizing high with
  | nil => exact (Nat.zero_add _).symm
  | cons digit digits ih => rw [List.cons_append, weigh, weigh, ih, begins, Nat.add_assoc]

end EquinoxClock.Lib.OnesComplement
