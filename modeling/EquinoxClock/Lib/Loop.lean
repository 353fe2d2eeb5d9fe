/-
Counted loops and linked chains.

A `for` loop over `0, ..., count - 1` is `Nat.fold`; `fold_invariant` is its rule. A loop that may
not end is `whileLoop`, with a bound on its passes; where it only goes on in finitely many states, it
never ends exactly if it comes back to one (`whileLoop_forever_iff`). A chain is what
one meets on following links from an address until a link is empty: `Follows next start visited`
says that `visited` is the whole of it, and there is at most one such list.
-/

import Mathlib.Data.Finset.Card
import Mathlib.Data.List.Basic
import Mathlib.Logic.Function.Iterate

namespace EquinoxClock.Lib

section Loop

variable {State : Type*}

/-- **The invariant rule for counted loops.** What the body carries from each index to the next
holds, at the count, after the loop. -/
theorem fold_invariant (invariant : Nat → State → Prop) (count : Nat)
    (body : (index : Nat) → index < count → State → State) (start : State)
    (holds : invariant 0 start)
    (preserved : ∀ index (bound : index < count) state, invariant index state →
      invariant (index + 1) (body index bound state)) :
    invariant count (Nat.fold count body start) := by
  induction count with
  | zero => exact holds
  | succ count ih =>
      rw [Nat.fold_succ]
      refine preserved count (by omega) _ (ih (fun index bound => body index (by omega)) ?_)
      exact fun index bound => preserved index (by omega)

/-- `while (guard) body`, for `fuel` passes at most: there is no result when they do not suffice. -/
def whileLoop (guard : State → Bool) (body : State → State) : (fuel : Nat) → State → Option State
  | 0, state => if guard state then none else some state
  | fuel + 1, state => if guard state then whileLoop guard body fuel (body state) else some state

variable {guard : State → Bool} {body : State → State}

/-- A loop whose guard does not hold ends at once. -/
theorem whileLoop_stop (fuel : Nat) {state : State} (stops : guard state = false) :
    whileLoop guard body fuel state = some state := by
  cases fuel <;> rw [whileLoop, stops, if_neg Bool.false_ne_true]

/-- **The rule for loops without an end.** What implies the guard and is kept by the body keeps the
loop running. -/
theorem whileLoop_forever {invariant : State → Prop}
    (guarded : ∀ state, invariant state → guard state = true)
    (preserved : ∀ state, invariant state → invariant (body state)) (fuel : Nat) {state : State}
    (holds : invariant state) : whileLoop guard body fuel state = none := by
  induction fuel generalizing state with
  | zero => rw [whileLoop, guarded state holds, if_pos rfl]
  | succ fuel ih => rw [whileLoop, guarded state holds, if_pos rfl, ih (preserved state holds)]

/-- A loop that never ends goes on in every state it comes to. -/
theorem guard_of_whileLoop_forever {state : State}
    (forever : ∀ fuel, whileLoop guard body fuel state = none) (count : Nat) :
    guard (body^[count] state) = true := by
  induction count generalizing state with
  | zero =>
      have first := forever 0
      rw [whileLoop] at first
      split at first
      · next goes => exact goes
      · exact absurd first (Option.some_ne_none _)
  | succ count ih =>
      rw [Function.iterate_succ_apply]
      refine ih fun fuel => ?_
      have more := forever (fuel + 1)
      rw [whileLoop] at more
      split at more
      · exact more
      · exact absurd more (Option.some_ne_none _)

/-- **A loop that never ends comes back to a state**, where it goes on in some states only: that many
passes show it. -/
theorem whileLoop_forever_iff {bound : Nat} {index : State → Nat} (start : State)
    (small : ∀ state, guard state = true → index state < bound)
    (injective : ∀ state other, guard state = true → guard other = true →
      index state = index other → state = other) :
    (∀ fuel, whileLoop guard body fuel start = none) ↔
      ∃ first second, first < second ∧ second ≤ bound ∧ body^[first] start = body^[second] start ∧
        ∀ pass < second, guard (body^[pass] start) = true := by
  constructor
  · intro forever
    have goes := guard_of_whileLoop_forever forever
    have more : (Finset.range bound).card < (Finset.range (bound + 1)).card := by
      rw [Finset.card_range, Finset.card_range]
      exact Nat.lt_succ_self bound
    obtain ⟨first, firstIn, second, secondIn, apart, same⟩ :=
      Finset.exists_ne_map_eq_of_card_lt_of_maps_to more
        (fun pass _ => Finset.mem_coe.mpr (Finset.mem_range.mpr (small _ (goes pass))))
    have firstLe := Nat.lt_succ_iff.mp (Finset.mem_range.mp firstIn)
    have secondLe := Nat.lt_succ_iff.mp (Finset.mem_range.mp secondIn)
    have again := injective _ _ (goes first) (goes second) same
    rcases Nat.lt_or_gt_of_ne apart with before | behind
    · exact ⟨first, second, before, secondLe, again, fun pass _ => goes pass⟩
    · exact ⟨second, first, behind, firstLe, again.symm, fun pass _ => goes pass⟩
  · rintro ⟨first, second, before, -, again, goes⟩ fuel
    refine @whileLoop_forever _ guard body (fun state => ∃ pass < second, state = body^[pass] start)
      ?_ ?_ fuel start ⟨0, by omega, rfl⟩
    · rintro _ ⟨pass, within, rfl⟩
      exact goes pass within
    · rintro _ ⟨pass, within, rfl⟩
      rw [← Function.iterate_succ_apply' body]
      by_cases last : pass + 1 = second
      · exact ⟨first, before, (congrArg (body^[·] start) last).trans again.symm⟩
      · exact ⟨pass + 1, by omega, rfl⟩

end Loop

section Chain

variable {Address : Type*} {next : Address → Option Address}

/-- Following the links from `start`, one visits these addresses and then meets the empty link. -/
inductive Follows (next : Address → Option Address) : Option Address → List Address → Prop
  | stop : Follows next none []
  | visit {address : Address} {rest : List Address} :
      Follows next (next address) rest → Follows next (some address) (address :: rest)

/-- A chain has one course. -/
theorem Follows.unique {start : Option Address} {visited visited' : List Address}
    (follows : Follows next start visited) (follows' : Follows next start visited') :
    visited = visited' := by
  induction follows generalizing visited' with
  | stop => cases follows'; rfl
  | visit _ ih =>
      cases follows' with
      | visit rest => rw [ih rest]

section Links

variable {address : Nat → Address} {last : Nat}

/-- The part of a linked row of addresses that starts at one of them. -/
theorem follows_from (linked : ∀ index < last, next (address index) = some (address (index + 1)))
    (ends : next (address last) = none) :
    ∀ count index, index + count = last →
      Follows next (some (address index)) ((List.range' index (count + 1)).map address) := by
  intro count
  induction count with
  | zero =>
      intro index reached
      refine .visit ?_
      rw [show index = last by omega, ends]
      exact .stop
  | succ count ih =>
      intro index reached
      rw [List.range'_succ, List.map_cons]
      refine .visit ?_
      rw [linked index (by omega)]
      exact ih (index + 1) (by omega)

/-- A row of addresses, each linked to the next and the last to nothing, is followed to its end. -/
theorem follows_of_links
    (linked : ∀ index < last, next (address index) = some (address (index + 1)))
    (ends : next (address last) = none) :
    Follows next (some (address 0)) ((List.range (last + 1)).map address) := by
  rw [List.range_eq_range']
  exact follows_from linked ends last 0 (Nat.zero_add last)

end Links

end Chain

end EquinoxClock.Lib
