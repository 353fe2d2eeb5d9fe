/-
What functions on strings of C read.

Each of them reads on from the character it is given until it has seen enough, and the end of the
string is always enough (`ReadsString`). So all that is read lies in the string exactly if the first
character does (`readsString_inside`).
-/

import EquinoxClock.Lib.Numeral

namespace EquinoxClock.Lib

/-- The number of characters of `s` that `strncmp` reads. -/
def strncmpReads : (n : Nat) → (s t : List UInt8) → Nat
  | 0, _, _ => 0
  | n + 1, s, t =>
      if s.headD 0 ≠ t.headD 0 then 1
      else if s.headD 0 = 0 then 1
      else strncmpReads n s.tail t.tail + 1

/-- The number of characters of the source that `strncpy` reads. -/
def strncpyReads : (n : Nat) → (src : List UInt8) → Nat
  | 0, _ => 0
  | n + 1, src => if src.headD 0 = 0 then 1 else strncpyReads n src.tail + 1

/-- The number of digits at the start of a string. -/
def digitCount (base : Nat) : List UInt8 → Nat
  | [] => 0
  | c :: rest => if (digit base c).isSome then digitCount base rest + 1 else 0

/-- The number of characters that `strtoul` reads to the base 10: white space, a sign, digits, and
the character behind them. -/
def strtoulReads (s : List UInt8) : Nat :=
  let number := s.dropWhile isSpace
  (s.takeWhile isSpace).length +
    if number.headD 0 == 45 || number.headD 0 == 43 then digitCount 10 number.tail + 2
    else digitCount 10 number + 1

/-- A function reads the first character of a string, and nothing behind the end. -/
structure ReadsString (reads : List UInt8 → Nat) : Prop where
  first : ∀ s, 0 < reads s
  last : ∀ s rest, reads (s ++ 0 :: rest) ≤ s.length + 1

theorem readsString_strncmp {n : Nat} (some_ : 0 < n) (t : List UInt8) :
    ReadsString fun s => strncmpReads n s t where
  first s := by
    obtain ⟨n, rfl⟩ := Nat.exists_eq_succ_of_ne_zero some_.ne'
    rw [strncmpReads]
    split_ifs <;> exact Nat.succ_pos _
  last s rest := by
    clear some_
    induction n generalizing s t with
    | zero => exact Nat.zero_le _
    | succ n ih =>
        rw [strncmpReads]
        split_ifs with apart ended
        · exact Nat.le_add_left 1 s.length
        · exact Nat.le_add_left 1 s.length
        · cases s with
          | nil => exact absurd rfl ended
          | cons c s => exact Nat.succ_le_succ (ih t.tail s)

theorem readsString_strncpy {n : Nat} (some_ : 0 < n) : ReadsString (strncpyReads n) where
  first s := by
    obtain ⟨n, rfl⟩ := Nat.exists_eq_succ_of_ne_zero some_.ne'
    rw [strncpyReads]
    split_ifs <;> exact Nat.succ_pos _
  last s rest := by
    clear some_
    induction n generalizing s with
    | zero => exact Nat.zero_le _
    | succ n ih =>
        rw [strncpyReads]
        split_ifs with ended
        · exact Nat.le_add_left 1 s.length
        · cases s with
          | nil => exact absurd rfl ended
          | cons c s => exact Nat.succ_le_succ (ih s)

theorem digitCount_le (s rest : List UInt8) : digitCount 10 (s ++ 0 :: rest) ≤ s.length := by
  induction s with
  | nil => exact Nat.le_of_eq (if_neg (by decide))
  | cons c s ih =>
      rw [List.cons_append, digitCount, List.length_cons]
      split_ifs
      · exact Nat.succ_le_succ ih
      · exact Nat.zero_le _

/-- White space ends where the string does. -/
theorem dropWhile_isSpace (s rest : List UInt8) :
    (s ++ 0 :: rest).dropWhile isSpace = s.dropWhile isSpace ++ 0 :: rest := by
  induction s with
  | nil => exact List.dropWhile_cons_of_neg (by decide)
  | cons c s ih =>
      rw [List.cons_append, List.dropWhile_cons, List.dropWhile_cons]
      split_ifs
      · exact ih
      · rfl

theorem takeWhile_isSpace (s rest : List UInt8) :
    (s ++ 0 :: rest).takeWhile isSpace = s.takeWhile isSpace := by
  induction s with
  | nil => exact List.takeWhile_cons_of_neg (by decide)
  | cons c s ih =>
      rw [List.cons_append, List.takeWhile_cons, List.takeWhile_cons, ih]

theorem headD_append_zero (s rest : List UInt8) : (s ++ 0 :: rest).headD 0 = s.headD 0 := by
  cases s <;> rfl

/-- A string that begins with a sign goes on behind it. -/
theorem tail_append_zero {s : List UInt8} (signed : (s.headD 0 == 45 || s.headD 0 == 43) = true)
    (rest : List UInt8) : ∃ c t, s = c :: t ∧ (s ++ 0 :: rest).tail = t ++ 0 :: rest := by
  cases s with
  | nil => exact absurd signed (by decide)
  | cons c t => exact ⟨c, t, rfl, rfl⟩

theorem readsString_strtoul : ReadsString strtoulReads where
  first s := by
    rw [strtoulReads]
    split_ifs <;> omega
  last s rest := by
    have parts : (s.takeWhile isSpace).length + (s.dropWhile isSpace).length = s.length := by
      rw [← List.length_append, List.takeWhile_append_dropWhile]
    rw [strtoulReads, dropWhile_isSpace, takeWhile_isSpace, headD_append_zero]
    split_ifs with signed
    · obtain ⟨c, t, number, behind⟩ := tail_append_zero signed rest
      have digits := digitCount_le t rest
      rw [behind]
      rw [number, List.length_cons] at parts
      omega
    · have digits := digitCount_le (s.dropWhile isSpace) rest
      omega

/-- What stands behind the end of a string does not matter to `strtoul`. -/
theorem strtoul_terminated (s rest : List UInt8) : strtoul (s ++ 0 :: rest) 10 = strtoul s 10 := by
  have ends : digit 10 ((0 :: rest).headD 0) = none := by
    rw [List.headD_cons]
    decide
  rw [strtoul, strtoul, dropWhile_isSpace, headD_append_zero]
  by_cases signed :
      ((s.dropWhile isSpace).headD 0 == 45 || (s.dropWhile isSpace).headD 0 == 43) = true
  · obtain ⟨c, t, number, behind⟩ := tail_append_zero signed rest
    rw [if_pos signed, if_pos signed, behind, dropHexPrefix_ten, dropHexPrefix_ten,
      digits_append ends, number, List.tail_cons]
  · rw [if_neg signed, if_neg signed, dropHexPrefix_ten, dropHexPrefix_ten, digits_append ends]

/-- **All that is read lies in the string** exactly if the first character does. -/
theorem readsString_inside {reads : List UInt8 → Nat} (readsString : ReadsString reads)
    (line behind : List UInt8) (i : Nat) :
    (∀ place ∈ List.range' i (reads ((line ++ 0 :: behind).drop i)), place ≤ line.length) ↔
      i ≤ line.length := by
  constructor
  · intro inside
    refine inside i (List.mem_range'_1.mpr ⟨le_rfl, ?_⟩)
    exact Nat.lt_add_of_pos_right (readsString.first _)
  · intro within place member
    have last := readsString.last (line.drop i) behind
    rw [List.drop_append_of_le_length within] at member
    rw [List.length_drop] at last
    have upTo := (List.mem_range'_1.mp member).2
    omega

end EquinoxClock.Lib
