/-
Where the scans of `home_page` find the names of the fields.

No name of a request begins another one, so the scan looks for each of them on its own: what it
finds is the first place where the name stands (`positions_eq`). A piece of the URL in which a name
does not begin, whatever stands behind the piece, is passed over (`firstAt_append`).
-/

import EquinoxClock.Web.Request

namespace EquinoxClock.Web

open EquinoxClock.Lib

/-- The first of `count` positions, from `start` on, at which the name stands. -/
def firstAt (url : List UInt8) (name : String) (start count : Nat) : Option Nat :=
  (List.range' start count).find? fun i => begins name (url.drop i)

/-- None of the names begins another one. -/
abbrev Apart (names : List String) : Prop :=
  names.Pairwise fun name other => differ (ascii name) (ascii other) = true

/-! ### One name after the other -/

section Keys

variable (url : List UInt8)

theorem firstAt_succ (name : String) (start count : Nat) : firstAt url name start (count + 1) =
    if begins name (url.drop start) then some start else firstAt url name (start + 1) count := by
  rw [firstAt, List.range'_succ, List.find?_cons, firstAt]
  cases begins name (url.drop start) <;> rfl

/-- What a position adds to a name. -/
def noted (i : Nat) (key : String × Option Nat) : String × Option Nat :=
  (key.1, key.2.or (if begins key.1 (url.drop i) then some i else none))

/-- What a scan adds to a name. -/
def scanned (start count : Nat) (key : String × Option Nat) : String × Option Nat :=
  (key.1, key.2.or (firstAt url key.1 start count))

variable {url}

theorem noted_same {i : Nat} {key : String × Option Nat}
    (same : key.2.isSome = true ∨ begins key.1 (url.drop i) = false) : noted url i key = key := by
  obtain ⟨name, _ | place⟩ := key
  · obtain found | notHere := same
    · exact nomatch found
    · rw [noted, notHere]
      rfl
  · rfl

theorem scanned_found {start count : Nat} {key : String × Option Nat}
    (found : key.2.isSome = true) : scanned url start count key = key := by
  obtain ⟨name, _ | place⟩ := key
  · exact nomatch found
  · rfl

theorem scanned_noted (i count : Nat) (key : String × Option Nat) :
    scanned url (i + 1) count (noted url i key) = scanned url i (count + 1) key := by
  obtain ⟨name, _ | place⟩ := key
  · rw [scanned, scanned, noted, firstAt_succ]
    cases begins name (url.drop i) <;> rfl
  · rfl

/-- At one position at most one of the names stands, so each is looked for on its own. -/
theorem noteKey_eq (i : Nat) {keys : Keys} (apart : Apart (keys.map Prod.fst)) :
    noteKey url i keys = keys.map (noted url i) := by
  induction keys with
  | nil => rfl
  | cons key keys ih =>
      obtain ⟨name, found⟩ := key
      rw [List.map_cons, Apart, List.pairwise_cons] at apart
      have later := ih apart.2
      rw [List.map_cons]
      cases found with
      | some place =>
          rw [noteKey, later]
          rfl
      | none =>
          by_cases here : begins name (url.drop i) = true
          · have notHere : ∀ key ∈ keys, begins key.1 (url.drop i) = false := fun key member =>
              begins_other here (apart.1 key.1 (List.mem_map_of_mem member))
            have others : keys.map (noted url i) = keys :=
              (List.map_congr_left fun key member => noted_same (.inr (notHere key member))).trans
                (List.map_id keys)
            rw [noteKey, if_pos here, others, noted, if_pos here]
            rfl
          · have same : noted url i (name, none) = (name, none) :=
              noted_same (.inr (Bool.eq_false_iff.mpr here))
            rw [noteKey, if_neg here, later, same]

theorem map_fst_noted (i : Nat) (keys : Keys) :
    (keys.map (noted url i)).map Prod.fst = keys.map Prod.fst := by
  rw [List.map_map]
  rfl

theorem map_fst_fresh (names : List String) :
    (names.map fun name => (name, (none : Option Nat))).map Prod.fst = names := by
  rw [List.map_map]
  exact List.map_id names

/-- **A scan finds** the names that are not found yet where they stand first. -/
theorem scanKeys_eq (count i : Nat) {keys : Keys} (apart : Apart (keys.map Prod.fst)) :
    scanKeys url count i keys = keys.map (scanned url i count) := by
  induction count generalizing i keys with
  | zero =>
      refine ((List.map_congr_left fun key _ => ?_).trans (List.map_id keys)).symm
      rw [scanned, firstAt, List.range'_zero, List.find?_nil, Option.or_none]
      rfl
  | succ count ih =>
      have whole : (keys.map (noted url i)).map (scanned url (i + 1) count) =
          keys.map (scanned url i (count + 1)) := by
        rw [List.map_map]
        exact List.map_congr_left fun key _ => scanned_noted i count key
      rw [scanKeys, noteKey_eq i apart]
      split
      · next all =>
          rw [← whole]
          exact ((List.map_congr_left fun key member => scanned_found
            (List.all_eq_true.mp all key member)).trans (List.map_id _)).symm
      · rw [ih (i + 1) (by rwa [map_fst_noted]), whole]

/-- The positions found are the first ones. -/
theorem positions_eq {names : List String} (apart : Apart names) (start stop index : Nat) :
    positions url start stop names index =
      (names.map fun name => firstAt url name start (stop - start)).getD index none := by
  rw [positions, scanKeys_eq _ _ (by rwa [map_fst_fresh]), List.map_map, List.map_map]
  rfl

end Keys

/-- Inside a string, a name is recognised as in the string alone. -/
theorem begins_terminated {name : String} (noNul : (ascii name).all (· != 0) = true)
    {line : List UInt8} {i : Nat} (within : i ≤ line.length) (behind : List UInt8) :
    begins name ((line ++ 0 :: behind).drop i) = begins name (line.drop i) := by
  have without : (0 : UInt8) ∉ ascii name := fun member => noNul_of_all noNul 0 member rfl
  rw [List.drop_append_of_le_length within, Bool.eq_iff_iff, begins_iff noNul, begins_iff noNul,
    prefix_append_cons_iff without]

/-! ### Pieces without a name -/

/-- Inside the piece the name does not begin, whatever stands behind the piece. -/
def Absent (name : String) (piece : List UInt8) : Prop :=
  ∀ place < piece.length, ∀ rest, begins name (piece.drop place ++ rest) = false

section Pieces

variable {name : String} {url front piece other rest : List UInt8}

theorem absent_nil : Absent name [] := fun place within => absurd within (Nat.not_lt_zero place)

theorem absent_append (absent : Absent name piece) (absent' : Absent name other) :
    Absent name (piece ++ other) := by
  intro place within rest
  rw [List.length_append] at within
  by_cases inFirst : place < piece.length
  · rw [List.drop_append_of_le_length inFirst.le, List.append_assoc]
    exact absent place inFirst (other ++ rest)
  · rw [List.drop_append, List.drop_eq_nil_of_le (not_lt.mp inFirst), List.nil_append]
    exact absent' _ (by omega) rest

theorem absent_flatMap {α : Type} {items : List α} {pieces : α → List UInt8}
    (absent : ∀ item ∈ items, Absent name (pieces item)) : Absent name (items.flatMap pieces) := by
  induction items with
  | nil => exact absent_nil
  | cons item items ih =>
      rw [List.flatMap_cons]
      exact absent_append (absent item List.mem_cons_self)
        (ih fun item member => absent item (List.mem_cons_of_mem _ member))

/-- A name does not begin at a character other than its first one. -/
theorem absent_of_first {c : UInt8} {cs : List UInt8} (first : ascii name = c :: cs)
    (noNul : (ascii name).all (· != 0) = true) (others : ∀ d ∈ piece, d ≠ c) :
    Absent name piece := by
  intro place within rest
  rw [← Bool.not_eq_true, begins_iff noNul, first, List.drop_eq_getElem_cons within,
    List.cons_append, List.cons_prefix_cons]
  exact fun both => others _ (List.getElem_mem within) both.1.symm

/-- A test of the piece alone: no end of it begins the name, and the name begins none. -/
def absentTest (name : String) (piece : List UInt8) : Bool :=
  (List.range piece.length).all fun place => differ (ascii name) (piece.drop place)

theorem absent_of_test (test : absentTest name piece = true) : Absent name piece := by
  intro place within rest
  have apart := List.all_eq_true.mp test place (List.mem_range.mpr within)
  simp only [differ, Bool.and_eq_true, Bool.not_eq_true', ← Bool.not_eq_true,
    List.isPrefixOf_iff_prefix] at apart
  obtain ⟨⟨noNul, -⟩, notFront, notFront'⟩ := apart
  rw [← Bool.not_eq_true, begins_iff noNul]
  intro begun
  obtain front | front := List.prefix_or_prefix_of_prefix begun (List.prefix_append _ rest)
  · exact notFront front
  · exact notFront' front

/-- A name that does not stand in a piece is not recognised there, when a character follows that it
does not have. -/
theorem absent_terminated {z : UInt8} (noNul : (ascii name).all (· != 0) = true)
    (without : z ∉ ascii name) (free : ¬ ascii name <:+: piece) :
    Absent name (piece ++ [z]) := by
  intro place within rest
  rw [List.length_append, List.length_singleton] at within
  rw [← Bool.not_eq_true, begins_iff noNul,
    List.drop_append_of_le_length (Nat.le_of_lt_succ within), List.append_assoc,
    List.singleton_append, prefix_append_cons_iff without]
  exact fun front => free (front.isInfix.trans (List.drop_suffix place piece).isInfix)

theorem firstAt_found {start count : Nat} (here : begins name (url.drop start) = true)
    (some_ : 0 < count) : firstAt url name start count = some start := by
  obtain ⟨count, rfl⟩ := Nat.exists_eq_succ_of_ne_zero some_.ne'
  rw [firstAt_succ, if_pos here]

/-- **A piece without the name** is passed over. -/
theorem firstAt_append (absent : Absent name piece) (count : Nat) :
    firstAt (front ++ (piece ++ rest)) name front.length (piece.length + count) =
      firstAt (front ++ (piece ++ rest)) name (front.length + piece.length) count := by
  have none_ : (List.range' front.length piece.length).find?
      (fun i => begins name ((front ++ (piece ++ rest)).drop i)) = none := by
    refine List.find?_eq_none.mpr fun i member => ?_
    obtain ⟨place, within, rfl⟩ := List.mem_range'.mp member
    rw [Nat.one_mul, List.drop_append, List.drop_eq_nil_of_le (by omega), List.nil_append,
      Nat.add_sub_cancel_left, List.drop_append_of_le_length within.le]
    exact Bool.eq_false_iff.mp (absent place within rest)
  rw [firstAt, ← List.range'_append_1, List.find?_append, none_]
  rfl

/-- Where a name is found behind pieces without it. -/
theorem firstAt_behind (absent : Absent name piece) (here : begins name rest = true)
    {count : Nat} (inTime : piece.length < count) :
    firstAt (front ++ (piece ++ rest)) name front.length count =
      some (front.length + piece.length) := by
  obtain ⟨more, rfl⟩ := Nat.exists_eq_add_of_lt inTime
  rw [Nat.add_assoc, firstAt_append absent (more + 1)]
  refine firstAt_found ?_ (Nat.succ_pos more)
  rwa [← List.append_assoc, ← List.length_append, List.drop_left]

end Pieces

end EquinoxClock.Web
