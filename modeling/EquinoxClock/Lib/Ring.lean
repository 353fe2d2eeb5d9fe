/-
Ring buffers.

A ring buffer keeps a queue in an array: the oldest value stands at `tail`, each further one in the
next cell, with the first cell behind the last, and `head` is the cell for the next value. One cell
stays free, so that an empty ring (`head` and `tail` equal) is not a full one. `Ring.Holds` says
which queue a ring holds; a value is put at the end of it and taken from its front.
-/

import Mathlib.Logic.Function.Basic

namespace EquinoxClock.Lib.Ring

variable {Value : Type*} {cells : Nat → Value} {size tail head : Nat} {queue : List Value}

/-- The cell some places on. -/
def place (size start offset : Nat) : Nat := (start + offset) % size

/-- A ring goes around at most once. -/
theorem place_eq {start offset : Nat} (inside : start < size) (within : offset ≤ size) :
    place size start offset =
      if start + offset < size then start + offset else start + offset - size := by
  rw [place]
  split
  · next before => exact Nat.mod_eq_of_lt before
  · next behind =>
      rw [Nat.mod_eq_sub_mod (Nat.le_of_not_lt behind)]
      exact Nat.mod_eq_of_lt (by omega)

theorem place_lt (positive : 0 < size) (start offset : Nat) : place size start offset < size :=
  Nat.mod_lt _ positive

@[simp] theorem place_zero (inside : tail < size) : place size tail 0 = tail :=
  Nat.mod_eq_of_lt inside

theorem place_place (start offset further : Nat) :
    place size (place size start offset) further = place size start (offset + further) := by
  rw [place, place, place, Nat.mod_add_mod, Nat.add_assoc]

/-- Different places of one round are different cells. -/
theorem place_injective {start first second : Nat} (inside : start < size) (firstIn : first < size)
    (secondIn : second < size) (same : place size start first = place size start second) :
    first = second := by
  rw [place_eq inside (Nat.le_of_lt firstIn), place_eq inside (Nat.le_of_lt secondIn)] at same
  split at same <;> split at same <;> omega

/-- The ring holds the queue. -/
structure Holds (cells : Nat → Value) (size tail head : Nat) (queue : List Value) : Prop where
  tail_lt : tail < size
  fits : queue.length < size
  head_eq : head = place size tail queue.length
  cell : ∀ index (within : index < queue.length), cells (place size tail index) = queue[index]

/-- What is read from tail to head. -/
def contents (cells : Nat → Value) (size tail head : Nat) : List Value :=
  (List.range (place size head (size - tail))).map fun offset => cells (place size tail offset)

theorem holds_nil (cells : Nat → Value) (inside : tail < size) : Holds cells size tail tail [] where
  tail_lt := inside
  fits := Nat.zero_lt_of_lt inside
  head_eq := (place_zero inside).symm
  cell _ within := absurd within (Nat.not_lt_zero _)

namespace Holds

variable (holds : Holds cells size tail head queue)

include holds

theorem head_lt : head < size := by
  rw [holds.head_eq]
  exact place_lt (Nat.zero_lt_of_lt holds.tail_lt) ..

/-- A ring is empty exactly if head and tail are equal. -/
theorem empty_iff : head = tail ↔ queue = [] := by
  rw [← List.length_eq_zero_iff, holds.head_eq]
  have zero := place_zero holds.tail_lt
  constructor
  · intro same
    exact place_injective holds.tail_lt holds.fits (Nat.zero_lt_of_lt holds.tail_lt)
      (same.trans zero.symm)
  · intro empty
    rw [empty, zero]

/-- A ring is full exactly if one cell is left. -/
theorem full_iff : place size head 1 = tail ↔ queue.length + 1 = size := by
  have inside := holds.tail_lt
  have fits := holds.fits
  rw [holds.head_eq, place_place, place_eq inside (by omega)]
  split <;> omega

/-- **A value is put at the end.** -/
theorem push (room : queue.length + 1 ≠ size) (value : Value) :
    Holds (Function.update cells head value) size tail (place size head 1) (queue ++ [value]) := by
  have fits := holds.fits
  refine ⟨holds.tail_lt, ?_, ?_, fun index within => ?_⟩
  · rw [List.length_append, List.length_singleton]
    omega
  · rw [holds.head_eq, place_place, List.length_append, List.length_singleton]
  · rw [List.length_append, List.length_singleton] at within
    obtain before | rfl : index < queue.length ∨ index = queue.length := by omega
    · have apart : place size tail index ≠ head := by
        rw [holds.head_eq]
        intro same
        have := place_injective holds.tail_lt (by omega) fits same
        omega
      rw [Function.update_of_ne apart, List.getElem_append_left before]
      exact holds.cell index before
    · rw [← holds.head_eq, Function.update_self, List.getElem_concat_length rfl]

/-- The queue is what is read from tail to head. -/
theorem contents_eq : contents cells size tail head = queue := by
  have inside := holds.tail_lt
  have fits := holds.fits
  have length : place size head (size - tail) = queue.length := by
    rw [holds.head_eq, place_place, place, show tail + (queue.length + (size - tail)) =
      queue.length + size by omega, Nat.add_mod_right, Nat.mod_eq_of_lt fits]
  rw [contents, length]
  refine List.ext_getElem (by rw [List.length_map, List.length_range]) fun index left right => ?_
  rw [List.getElem_map, List.getElem_range]
  exact holds.cell index right

end Holds

/-- **A value is taken from the front.** -/
theorem Holds.pop {value : Value} (holds : Holds cells size tail head (value :: queue)) :
    cells tail = value ∧ Holds cells size (place size tail 1) head queue := by
  have inside := holds.tail_lt
  have fits := holds.fits
  rw [List.length_cons] at fits
  refine ⟨?_, place_lt (Nat.zero_lt_of_lt inside) .., by omega, ?_, fun index within => ?_⟩
  · have front := holds.cell 0 (Nat.succ_pos _)
    rw [place_zero inside] at front
    exact front
  · rw [place_place, holds.head_eq, List.length_cons, Nat.add_comm]
  · rw [place_place, Nat.add_comm]
    exact holds.cell (index + 1) (Nat.succ_lt_succ within)

end EquinoxClock.Lib.Ring
