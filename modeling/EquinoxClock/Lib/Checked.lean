/-
Arithmetic in a signed type of the machine.

An operation whose result the type cannot hold has none. A number in mixed radix is evaluated digit
by digit, with a product and a sum for each; with digits and radices that are not negative, nothing
is lost on the way exactly if the type holds the number (`checkedMixed_eq`).
-/

import Mathlib.Data.Nat.Cast.Order.Ring
import Mathlib.Tactic.Positivity

namespace EquinoxClock.Lib

/-- A value, if the signed type of that many bits holds it. -/
def signed (bits : Nat) (value : Int) : Option Int :=
  if -2 ^ (bits - 1) ≤ value ∧ value < 2 ^ (bits - 1) then some value else none

/-- A sum in the signed type. -/
def checkedAdd (bits : Nat) (first second : Int) : Option Int := signed bits (first + second)

/-- A product in the signed type. -/
def checkedMul (bits : Nat) (first second : Int) : Option Int := signed bits (first * second)

/-- The number with these digits behind a first one; each digit stands beside its radix. -/
def mixed (start : Nat) : List (Nat × Nat) → Nat
  | [] => start
  | (radix, digit) :: rest => mixed (start * radix + digit) rest

/-- The evaluation of the number in the signed type. -/
def checkedMixed (bits : Nat) (start : Int) : List (Nat × Nat) → Option Int
  | [] => some start
  | (radix, digit) :: rest =>
      (checkedMul bits start radix).bind fun product =>
        (checkedAdd bits product digit).bind fun sum => checkedMixed bits sum rest

theorem signed_natCast (bits value : Nat) :
    signed bits value = if value < 2 ^ (bits - 1) then some (value : Int) else none := by
  have low : (-2 ^ (bits - 1) : Int) ≤ value := (neg_nonpos.mpr (by positivity)).trans (by positivity)
  have high : ((value : Int) < 2 ^ (bits - 1)) ↔ value < 2 ^ (bits - 1) := by
    rw [← Nat.cast_lt (α := Int), Nat.cast_pow, Nat.cast_ofNat]
  simp only [signed, low, high, true_and]

/-- Further digits make the number no smaller. -/
theorem le_mixed {digits : List (Nat × Nat)} (positive : ∀ digit ∈ digits, 1 ≤ digit.1)
    (start : Nat) : start ≤ mixed start digits := by
  induction digits generalizing start with
  | nil => exact le_rfl
  | cons digit rest ih =>
      have radix := positive digit List.mem_cons_self
      have grown : start ≤ start * digit.1 := Nat.le_mul_of_pos_right start radix
      exact (grown.trans (Nat.le_add_right _ _)).trans
        (ih (fun other member => positive other (List.mem_cons_of_mem digit member)) _)

/-- **A number is evaluated without overflow exactly if the type holds it.** -/
theorem checkedMixed_eq {bits : Nat} {digits : List (Nat × Nat)}
    (positive : ∀ digit ∈ digits, 1 ≤ digit.1) {start : Nat} (fits : start < 2 ^ (bits - 1)) :
    checkedMixed bits start digits =
      if mixed start digits < 2 ^ (bits - 1) then some (mixed start digits : Int) else none := by
  induction digits generalizing start with
  | nil => rw [checkedMixed, mixed, if_pos fits]
  | cons digit rest ih =>
      obtain ⟨radix, digit⟩ := digit
      have positive' : ∀ digit ∈ rest, 1 ≤ digit.1 :=
        fun other member => positive other (List.mem_cons_of_mem _ member)
      have grows := le_mixed positive' (start * radix + digit)
      rw [checkedMixed, mixed, checkedMul, ← Nat.cast_mul, signed_natCast]
      by_cases product : start * radix < 2 ^ (bits - 1)
      · rw [if_pos product, Option.bind_some, checkedAdd, ← Nat.cast_add, signed_natCast]
        by_cases sum : start * radix + digit < 2 ^ (bits - 1)
        · rw [if_pos sum, Option.bind_some, ih positive' sum]
        · rw [if_neg sum, if_neg (by omega)]
          rfl
      · rw [if_neg product, if_neg (by omega)]
        rfl

end EquinoxClock.Lib
