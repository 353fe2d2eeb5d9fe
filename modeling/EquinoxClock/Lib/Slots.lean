/-
Tables of a fixed number of slots.

A slot is used or not, and a used one has a key. What such a table has to keep is that no key stands
twice among the used ones (`KeysUnique`); everything else follows from how slots are written: a
write that keeps the key of its slot, or one with a key that was looked up in vain, is fine.
`lookup` finds the first slot with a key, which is then the only one.
-/

import Mathlib.Data.List.Basic

namespace EquinoxClock.Lib.Slots

variable {Entry Key : Type*} (used : Entry → Prop) (key : Entry → Key)

/-- No key stands twice among the used slots. -/
def KeysUnique (entries : List Entry) : Prop :=
  ∀ ⦃i j : Nat⦄ ⦃first second : Entry⦄, entries[i]? = some first → entries[j]? = some second →
    used first → used second → key first = key second → i = j

/-- Where a used slot with some key is. -/
def lookup [DecidablePred used] [DecidableEq Key] (wanted : Key) (entries : List Entry) :
    Option Nat :=
  entries.findIdx? fun entry => decide (used entry ∧ key entry = wanted)

variable {used : Entry → Prop} {key : Entry → Key}

/-- Where keys are unique, used slots with one key are equal. -/
theorem KeysUnique.eq_of_mem {entries : List Entry} (unique : KeysUnique used key entries)
    {first second : Entry} (firstIn : first ∈ entries) (secondIn : second ∈ entries)
    (firstUsed : used first) (secondUsed : used second) (same : key first = key second) :
    first = second := by
  obtain ⟨i, atFirst⟩ := List.getElem?_of_mem firstIn
  obtain ⟨j, atSecond⟩ := List.getElem?_of_mem secondIn
  rw [unique atFirst atSecond firstUsed secondUsed same] at atFirst
  exact Option.some.inj (atFirst.symm.trans atSecond)

section Lookup

variable [DecidablePred used] [DecidableEq Key] {wanted : Key} {entries : List Entry} {i : Nat}

/-- What is found is used and has the key. -/
theorem lookup_some (found : lookup used key wanted entries = some i) :
    ∃ entry, entries[i]? = some entry ∧ used entry ∧ key entry = wanted := by
  obtain ⟨within, entry, -⟩ := List.findIdx?_eq_some_iff_getElem.mp found
  exact ⟨_, List.getElem?_eq_getElem within, of_decide_eq_true entry⟩

/-- What is not found is nowhere. -/
theorem lookup_none : lookup used key wanted entries = none ↔
    ∀ entry ∈ entries, used entry → key entry ≠ wanted := by
  rw [lookup, List.findIdx?_eq_none_iff]
  simp only [decide_eq_false_iff_not, not_and, ne_eq]

end Lookup

section Writes

variable {entries : List Entry}

/-- What stands in a table after a write. -/
theorem getElem?_set_cases {i j : Nat} {written entry : Entry}
    (there : (entries.set i written)[j]? = some entry) :
    j = i ∧ entry = written ∨ j ≠ i ∧ entries[j]? = some entry := by
  rw [List.getElem?_set] at there
  by_cases same : i = j
  · rw [if_pos same] at there
    exact Or.inl ⟨same.symm, (Option.some_inj.mp (Option.ite_none_right_eq_some.mp there).2).symm⟩
  · rw [if_neg same] at there
    exact Or.inr ⟨fun again => same again.symm, there⟩

/-- Fewer used slots leave the keys unique. -/
theorem KeysUnique.map (unique : KeysUnique used key entries) {change : Entry → Entry}
    (keeps : ∀ entry, used (change entry) → used entry ∧ key (change entry) = key entry) :
    KeysUnique used key (entries.map change) := by
  intro i j first second atFirst atSecond firstUsed secondUsed same
  rw [List.getElem?_map, Option.map_eq_some_iff] at atFirst atSecond
  obtain ⟨first, atFirst, rfl⟩ := atFirst
  obtain ⟨second, atSecond, rfl⟩ := atSecond
  obtain ⟨firstUsed, firstKey⟩ := keeps first firstUsed
  obtain ⟨secondUsed, secondKey⟩ := keeps second secondUsed
  exact unique atFirst atSecond firstUsed secondUsed (firstKey.symm.trans (same.trans secondKey))

/-- **A slot is written** with a key that no other used slot has. -/
theorem KeysUnique.set (unique : KeysUnique used key entries) {i : Nat} {entry : Entry}
    (apart : used entry → ∀ j other, entries[j]? = some other → used other →
      key other = key entry → j = i) : KeysUnique used key (entries.set i entry) := by
  intro j k first second atFirst atSecond firstUsed secondUsed same
  rcases getElem?_set_cases atFirst with ⟨rfl, rfl⟩ | ⟨-, before⟩ <;>
    rcases getElem?_set_cases atSecond with ⟨rfl, rfl⟩ | ⟨-, before'⟩
  · rfl
  · exact (apart firstUsed k second before' secondUsed same.symm).symm
  · exact apart secondUsed j first before firstUsed same
  · exact unique before before' firstUsed secondUsed same

/-- A slot keeps its key, and is not used if it was not. -/
theorem KeysUnique.set_kept (unique : KeysUnique used key entries) {i : Nat} {before after : Entry}
    (there : entries[i]? = some before)
    (keeps : used after → used before ∧ key after = key before) :
    KeysUnique used key (entries.set i after) :=
  unique.set fun isUsed _ _ at_ otherUsed same =>
    unique at_ there otherUsed (keeps isUsed).1 (same.trans (keeps isUsed).2)

/-- A slot gets a key that was looked up in vain. -/
theorem KeysUnique.set_new [DecidablePred used] [DecidableEq Key]
    (unique : KeysUnique used key entries) {i : Nat} {entry : Entry}
    (new : lookup used key (key entry) entries = none) :
    KeysUnique used key (entries.set i entry) :=
  unique.set fun _ _ other at_ otherUsed same =>
    absurd same (lookup_none.mp new other (List.mem_of_getElem? at_) otherUsed)

/-- A slot stays where another one is written. -/
theorem mem_set_of_ne {entry old written : Entry} (member : entry ∈ entries) {i : Nat}
    (there : entries[i]? = some old) (apart : entry ≠ old) : entry ∈ entries.set i written := by
  obtain ⟨j, at_⟩ := List.getElem?_of_mem member
  have other : i ≠ j := by
    rintro rfl
    exact apart (Option.some.inj (at_.symm.trans there))
  exact List.mem_of_getElem? ((List.getElem?_set_ne other).trans at_)

/-- What holds of every slot still does, if it holds of what is written. -/
theorem forall_mem_set {property : Entry → Prop} (every : ∀ entry ∈ entries, property entry)
    {i : Nat} {entry : Entry} (written : property entry) :
    ∀ other ∈ entries.set i entry, property other := by
  intro other member
  rcases List.mem_or_eq_of_mem_set member with old | rfl
  · exact every other old
  · exact written

end Writes

end EquinoxClock.Lib.Slots
