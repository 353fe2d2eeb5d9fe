/-
Memory that remembers where it was touched.

A C array is a stretch of memory, and code that leaves it reads or writes what lies around it.
`Traced Index Value` is that memory, addressed from the array's start, together with the list of
all indices read or written so far; `Traced.Within good` says that all of them are good ones.
-/

import Mathlib.Logic.Function.Basic

namespace EquinoxClock.Lib

/-- Memory with a record of the indices read or written, the latest first. -/
structure Traced (Index Value : Type*) where
  cells : Index → Value
  touched : List Index

namespace Traced

variable {Index Value : Type*} {good : Index → Prop}

/-- Reading an index leaves the contents. -/
def read (index : Index) (memory : Traced Index Value) : Value × Traced Index Value :=
  (memory.cells index, { memory with touched := index :: memory.touched })

/-- Writing an index changes that cell. -/
def write [DecidableEq Index] (index : Index) (value : Value) (memory : Traced Index Value) :
    Traced Index Value where
  cells := Function.update memory.cells index value
  touched := index :: memory.touched

/-- Every index touched so far is good. -/
def Within (good : Index → Prop) (memory : Traced Index Value) : Prop :=
  ∀ index ∈ memory.touched, good index

@[simp] theorem read_fst (index : Index) (memory : Traced Index Value) :
    (read index memory).1 = memory.cells index := rfl

@[simp] theorem read_cells (index : Index) (memory : Traced Index Value) :
    (read index memory).2.cells = memory.cells := rfl

@[simp] theorem within_read (index : Index) (memory : Traced Index Value) :
    Within good (read index memory).2 ↔ good index ∧ Within good memory :=
  List.forall_mem_cons

section Write

variable [DecidableEq Index]

@[simp] theorem write_same (index : Index) (value : Value) (memory : Traced Index Value) :
    (write index value memory).cells index = value :=
  Function.update_self ..

theorem write_other {index other : Index} (apart : other ≠ index) (value : Value)
    (memory : Traced Index Value) : (write index value memory).cells other = memory.cells other :=
  Function.update_of_ne apart ..

@[simp] theorem within_write (index : Index) (value : Value) (memory : Traced Index Value) :
    Within good (write index value memory) ↔ good index ∧ Within good memory :=
  List.forall_mem_cons

end Write

/-! ### Operations that store the same at the same places -/

/-- Whatever the memory holds, the operation stores fixed values at fixed places and leaves the
rest. -/
def Stores (operation : Traced Index Value → Traced Index Value) : Prop :=
  ∃ stored : Index → Option Value, ∀ memory index,
    (operation memory).cells index = (stored index).getD (memory.cells index)

variable {first second : Traced Index Value → Traced Index Value}

theorem stores_write [DecidableEq Index] (index : Index) (value : Value) :
    Stores (write index value) := by
  refine ⟨fun other => if other = index then some value else none, fun memory other => ?_⟩
  by_cases here : other = index
  · subst here
    simp only [write_same, if_true, Option.getD_some]
  · simp only [write_other here, if_neg here, Option.getD_none]

theorem stores_id : Stores (id : Traced Index Value → Traced Index Value) :=
  ⟨fun _ => none, fun _ _ => rfl⟩

theorem Stores.comp (storesFirst : Stores first) (storesSecond : Stores second) :
    Stores fun memory => second (first memory) := by
  obtain ⟨stored, cells⟩ := storesFirst
  obtain ⟨stored', cells'⟩ := storesSecond
  refine ⟨fun index => (stored' index).or (stored index), fun memory index => ?_⟩
  rw [cells', cells, Option.getD_or]

theorem stores_fold (count : Nat)
    (body : (index : Nat) → index < count → Traced Index Value → Traced Index Value)
    (stores : ∀ index bound, Stores (body index bound)) : Stores (Nat.fold count body) := by
  induction count with
  | zero => exact stores_id
  | succ count ih =>
      have earlier := ih (fun index bound => body index (by omega)) fun index bound => stores index _
      exact earlier.comp (stores count (by omega))

/-- Memories with the same contents have the same contents afterwards. -/
theorem Stores.congr (stores : Stores first) {memory other : Traced Index Value}
    (same : memory.cells = other.cells) : (first memory).cells = (first other).cells := by
  obtain ⟨stored, cells⟩ := stores
  funext index
  rw [cells, cells, same]

/-- Doing it again changes nothing. -/
theorem Stores.again (stores : Stores first) (memory : Traced Index Value) :
    (first (first memory)).cells = (first memory).cells := by
  obtain ⟨stored, cells⟩ := stores
  funext index
  rw [cells, cells]
  cases stored index <;> rfl

end Traced

end EquinoxClock.Lib
