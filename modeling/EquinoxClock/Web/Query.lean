/-
Queries: fields with `&` between them, each a name, `=` and a text.

A name that is not recognised in the fields before its own is found at the start of its own field
(`firstAt_query`), and behind it and a character stands the text (`drop_field`).
-/

import EquinoxClock.Lib.Numeral
import EquinoxClock.Web.Scan

namespace EquinoxClock.Web

open EquinoxClock.Lib

/-- A field of a query. -/
def field (texts : String → List UInt8) (name : String) : List UInt8 :=
  ascii name ++ 61 :: texts name

/-- The fields of a query, in some order. -/
def query (texts : String → List UInt8) (order : List String) : List UInt8 :=
  [38].intercalate (order.map (field texts))

/-- What stands in front of a field: the fields before it. -/
def inFront (texts : String → List UInt8) (before : List String) : List UInt8 :=
  before.flatMap fun other => field texts other ++ [38]

/-- What stands behind a field. -/
def behindField (texts : String → List UInt8) : List String → List UInt8
  | [] => []
  | second :: later => 38 :: query texts (second :: later)

variable {texts : String → List UInt8} {name other : String} {before after : List String}
  {front gap rest : List UInt8}

theorem query_cons_cons (first second : String) (later : List String) :
    query texts (first :: second :: later) =
      (field texts first ++ [38]) ++ query texts (second :: later) :=
  List.intercalate_cons_cons

/-- The query in front of a field, the field, and what stands behind it. -/
theorem query_split (before after : List String) : query texts (before ++ name :: after) =
    inFront texts before ++ (field texts name ++ behindField texts after) := by
  induction before with
  | nil =>
      cases after with
      | nil => exact List.intercalate_singleton.trans (List.append_nil _).symm
      | cons second later => exact (query_cons_cons ..).trans (List.append_assoc ..)
  | cons first before ih =>
      have next : query texts (first :: (before ++ name :: after)) =
          (field texts first ++ [38]) ++ query texts (before ++ name :: after) := by
        cases before <;> exact query_cons_cons ..
      rw [List.cons_append, next, ih, inFront, inFront, List.flatMap_cons,
        List.append_assoc (_ ++ [38])]

theorem stops_behindField (after : List String) (behind : List UInt8) :
    Stops (behindField texts after ++ 0 :: behind) := by
  cases after with
  | nil =>
      show Stops (0 :: behind)
      rw [Stops, List.headD_cons]
      decide
  | cons second later =>
      show Stops (38 :: _)
      rw [Stops, List.headD_cons]
      decide

/-- A name is not recognised in another field, if not in its name and not in its text. -/
theorem absent_field (inName : absentTest name (ascii other ++ [61]) = true)
    (inText : Absent name (texts other ++ [38])) : Absent name (field texts other ++ [38]) := by
  have split : field texts other ++ [38] = (ascii other ++ [61]) ++ (texts other ++ [38]) := by
    simp only [field, List.append_assoc, List.cons_append, List.nil_append]
  rw [split]
  exact absent_append (absent_of_test inName) inText

/-- The memory from a field on. -/
theorem drop_query : (front ++ (gap ++ (query texts (before ++ name :: after) ++ rest))).drop
    (front.length + (gap.length + (inFront texts before).length)) =
      field texts name ++ (behindField texts after ++ rest) := by
  have whole : front ++ (gap ++ (query texts (before ++ name :: after) ++ rest)) =
      (front ++ (gap ++ inFront texts before)) ++
        (field texts name ++ (behindField texts after ++ rest)) := by
    simp only [query_split, List.append_assoc]
  rw [whole, ← List.length_append, ← List.length_append, List.drop_left]

/-- Behind the name and a character stands the text. -/
theorem drop_field : (field texts name ++ rest).drop ((ascii name).length + 1) =
    texts name ++ rest := by
  have whole : field texts name ++ rest = (ascii name ++ [61]) ++ (texts name ++ rest) := by
    simp only [field, List.append_assoc, List.cons_append, List.nil_append]
  have long : (ascii name ++ [61]).length = (ascii name).length + 1 := by
    rw [List.length_append, List.length_singleton]
  rw [whole, ← long, List.drop_left]

/-- **A field is found** at its start, if its name is not recognised before. -/
theorem firstAt_query (noNul : (ascii name).all (· != 0) = true) (inGap : Absent name gap)
    (inFields : ∀ other ∈ before, Absent name (field texts other ++ [38])) {count : Nat}
    (inTime : gap.length + (inFront texts before).length < count) :
    firstAt (front ++ (gap ++ (query texts (before ++ name :: after) ++ rest))) name front.length
      count = some (front.length + (gap.length + (inFront texts before).length)) := by
  have here : begins name (field texts name ++ (behindField texts after ++ rest)) = true := by
    rw [begins_iff noNul, field, List.append_assoc]
    exact List.prefix_append _ _
  have absent : Absent name (gap ++ inFront texts before) :=
    absent_append inGap (absent_flatMap inFields)
  have split : front ++ (gap ++ (query texts (before ++ name :: after) ++ rest)) =
      front ++ ((gap ++ inFront texts before) ++
        (field texts name ++ (behindField texts after ++ rest))) := by
    simp only [query_split, List.append_assoc]
  rw [split, ← List.length_append]
  exact firstAt_behind absent here (by rwa [List.length_append])

end EquinoxClock.Web
