/-
Strings of C.

A string is a stretch of memory, given as the list of its bytes up to the end of what can be read;
it ends at its first zero byte, and behind the list there are zeros. The functions of `string.h` and
`stdlib.h` that a development needs are defined here as the C standard describes them.
-/

import Mathlib.Algebra.Group.Nat.Defs
import Mathlib.Data.List.TakeWhile

namespace EquinoxClock.Lib

/-- The characters of a string: the bytes in front of the first zero. -/
def cString (memory : List UInt8) : List UInt8 := memory.takeWhile (· != 0)

/-- Characters without a zero, followed by one, are the string. -/
theorem cString_terminated {line : List UInt8} (rest : List UInt8) (noNul : ∀ c ∈ line, c ≠ 0) :
    cString (line ++ 0 :: rest) = line := by
  rw [cString, List.takeWhile_append_of_pos fun c member => bne_iff_ne.mpr (noNul c member),
    List.takeWhile_cons_of_neg (by decide), List.append_nil]

/-- A text without a character does not reach past it. -/
theorem prefix_append_cons_iff {text : List UInt8} {z : UInt8} (without : z ∉ text)
    (s rest : List UInt8) : text <+: s ++ z :: rest ↔ text <+: s := by
  refine ⟨fun front => ?_, fun front => front.trans (List.prefix_append _ _)⟩
  have upTo : s ++ [z] <+: s ++ z :: rest :=
    (List.prefix_append_right_inj s).mpr (List.prefix_append [z] rest)
  have last : z ∈ s ++ [z] := List.mem_append_right s (List.mem_singleton_self z)
  obtain longer | shorter := List.prefix_or_prefix_of_prefix upTo front
  · exact absurd (longer.subset last) without
  · obtain same | inside := List.prefix_concat_iff.mp shorter
    · exact absurd (same ▸ last) without
    · exact inside

/-- Inside the string, the memory holds its characters. -/
theorem getD_cString {memory : List UInt8} {index : Nat}
    (within : index < (cString memory).length) :
    memory.getD index 0 = (cString memory).getD index 0 := by
  have split : memory = cString memory ++ memory.dropWhile (· != 0) :=
    List.takeWhile_append_dropWhile.symm
  have front : memory[index]? = (cString memory)[index]? :=
    (congrArg (·[index]?) split).trans (List.getElem?_append_left within)
  rw [List.getD_eq_getElem?_getD, List.getD_eq_getElem?_getD, front]

/-- A line stored cell by cell, with a zero behind it, is the string there. -/
theorem cString_cells {cells : Nat → UInt8} {line : List UInt8} {size : Nat}
    (fits : line.length < size) (stored : ∀ index (within : index < line.length),
      cells index = (line)[index]) (closed : cells line.length = 0) (noNul : ∀ c ∈ line, c ≠ 0) :
    cString ((List.range size).map cells) = line := by
  obtain ⟨rest, rfl⟩ : ∃ rest, size = line.length + (rest + 1) := ⟨size - line.length - 1, by omega⟩
  have front : (List.range line.length).map cells = line := by
    refine List.ext_getElem (by simp) fun index _ within => ?_
    rw [List.getElem_map, List.getElem_range]
    exact stored index within
  rw [List.range_add, List.map_append, front, List.map_map, List.range_succ_eq_map, List.map_cons,
    Function.comp_apply, Nat.add_zero, closed]
  exact cString_terminated _ noNul

/-- The bytes of a text. -/
def ascii (text : String) : List UInt8 := text.toList.map fun c => UInt8.ofNat c.toNat

/-- `strncmp`, with the difference of the first bytes that differ. -/
def strncmp : (n : Nat) → (s t : List UInt8) → Int
  | 0, _, _ => 0
  | n + 1, s, t =>
      if s.headD 0 ≠ t.headD 0 then (s.headD 0).toNat - (t.headD 0).toNat
      else if s.headD 0 = 0 then 0
      else strncmp n s.tail t.tail

/-- `strncpy`, as the `n` bytes it stores: the string, filled up with zeros. -/
def strncpyBytes : (n : Nat) → (src : List UInt8) → List UInt8
  | 0, _ => []
  | n + 1, src =>
      if src.headD 0 = 0 then List.replicate (n + 1) 0
      else src.headD 0 :: strncpyBytes n src.tail

/-- `strncpy`, on the memory of the destination. -/
def strncpy (dst src : List UInt8) (n : Nat) : List UInt8 := strncpyBytes n src ++ dst.drop n

/-- `strlcpy`, as the string it leaves: what fits in front of the zero. -/
def strlcpy (src : List UInt8) (size : Nat) : List UInt8 := (cString src).take (size - 1)

/-- `strlcat`, as the string it leaves: the string that is there, and what fits behind it. -/
def strlcat (dst src : List UInt8) (size : Nat) : List UInt8 :=
  dst ++ (cString src).take (size - 1 - dst.length)

/-- `isspace`. -/
def isSpace (c : UInt8) : Bool := c == 32 || (9 ≤ c && c ≤ 13)

/-- The value of a digit in some base. -/
def digit (base : Nat) (c : UInt8) : Option Nat :=
  let value :=
    if 48 ≤ c && c ≤ 57 then c.toNat - 48
    else if 65 ≤ c && c ≤ 90 then c.toNat - 55
    else if 97 ≤ c && c ≤ 122 then c.toNat - 87
    else base
  if value < base then some value else none

/-- The digits at the start of a string, read on from a value. -/
def digits (base : Nat) : (value : Nat) → List UInt8 → Nat
  | value, [] => value
  | value, c :: rest =>
      match digit base c with
      | some d => digits base (value * base + d) rest
      | none => value

/-- The prefix `0x` of a number to the base 16. -/
def dropHexPrefix (base : Nat) : List UInt8 → List UInt8
  | 48 :: c :: rest => if base = 16 ∧ (c = 88 ∨ c = 120) then rest else 48 :: c :: rest
  | s => s

/-- `strtoul`, for 32 bits: after white space and a sign, as many digits as there are; too large a
number gives the largest one. -/
def strtoul (s : List UInt8) (base : Nat) : Nat :=
  let s := s.dropWhile isSpace
  let negative := s.headD 0 == 45
  let s := if s.headD 0 == 45 || s.headD 0 == 43 then s.tail else s
  let value := digits base 0 (dropHexPrefix base s)
  if 2 ^ 32 ≤ value then 2 ^ 32 - 1
  else if negative then (2 ^ 32 - value) % 2 ^ 32
  else value

/-- `strtol`, for 32 bits: read like `strtoul`, but too large a number gives the largest one and too
small a number the smallest. -/
def strtol (s : List UInt8) (base : Nat) : Int :=
  let s := s.dropWhile isSpace
  let negative := s.headD 0 == 45
  let s := if s.headD 0 == 45 || s.headD 0 == 43 then s.tail else s
  let value := digits base 0 (dropHexPrefix base s)
  if negative then -(min value (2 ^ 31) : Nat) else (min value (2 ^ 31 - 1) : Nat)

/-- `atoi`, which is `strtol` to the base 10. -/
def atoi (s : List UInt8) : Int := strtol s 10

theorem strncmp_cons (n : Nat) (c d : UInt8) (s t : List UInt8) :
    strncmp (n + 1) (c :: s) (d :: t) =
      if c ≠ d then (c.toNat : Int) - d.toNat else if c = 0 then 0 else strncmp n s t := rfl

/-- A text that a test finds to be without zeros. -/
theorem noNul_of_all {t : List UInt8} (noNul : t.all (· != 0) = true) : ∀ c ∈ t, c ≠ 0 :=
  fun c member => bne_iff_ne.mp (List.all_eq_true.mp noNul c member)

/-- Behind its end, a string has a zero. -/
theorem strncmp_nil (n : Nat) (t : List UInt8) : strncmp n [] t = strncmp n [0] t := by
  cases n <;> rfl

theorem sub_ne_zero_of_ne {c d : UInt8} (apart : c ≠ d) : (c.toNat : Int) - d.toNat ≠ 0 := by
  have : c.toNat ≠ d.toNat := fun same => apart (UInt8.toNat_inj.mp same)
  omega

/-- A text without zeros is found at the start of a string exactly if it is a prefix of it. -/
theorem strncmp_length_eq_zero {t : List UInt8} (noNul : ∀ c ∈ t, c ≠ 0) (s : List UInt8) :
    strncmp t.length s t = 0 ↔ t <+: s := by
  induction t generalizing s with
  | nil => exact iff_of_true rfl List.nil_prefix
  | cons d t ih =>
      have nonzero : d ≠ 0 := noNul d List.mem_cons_self
      cases s with
      | nil =>
          refine iff_of_false ?_ (by simp)
          rw [strncmp_nil, List.length_cons, strncmp_cons, if_pos (Ne.symm nonzero)]
          exact sub_ne_zero_of_ne (Ne.symm nonzero)
      | cons c s =>
          rw [List.length_cons, strncmp_cons, List.cons_prefix_cons]
          by_cases same : c = d
          · subst same
            rw [if_neg (not_not.mpr rfl), if_neg nonzero,
              ih fun e member => noNul e (List.mem_cons_of_mem _ member)]
            exact (and_iff_right rfl).symm
          · refine iff_of_false ?_ fun ⟨equal, _⟩ => same equal.symm
            rw [if_pos same]
            exact sub_ne_zero_of_ne same

/-- A text without zeros is copied as far as there is room, and the rest is filled with zeros. -/
theorem strncpyBytes_eq {src : List UInt8} (noNul : ∀ c ∈ src, c ≠ 0) (n : Nat) :
    strncpyBytes n src = src.take n ++ List.replicate (n - src.length) 0 := by
  induction n generalizing src with
  | zero => rw [strncpyBytes, List.take_zero, Nat.zero_sub, List.replicate_zero, List.append_nil]
  | succ n ih =>
      cases src with
      | nil => exact if_pos rfl
      | cons c src =>
          rw [strncpyBytes, List.headD_cons, if_neg (noNul c List.mem_cons_self), List.tail_cons,
            ih fun d member => noNul d (List.mem_cons_of_mem c member), List.take_succ_cons,
            List.length_cons, Nat.add_sub_add_right, List.cons_append]

/-- Only the first characters are compared. -/
theorem strncmp_take (n : Nat) (s t : List UInt8) : strncmp n s (t.take n) = strncmp n s t := by
  induction n generalizing s t with
  | zero => rfl
  | succ n ih =>
      cases t with
      | nil => rfl
      | cons d t =>
          rw [List.take_succ_cons, strncmp, strncmp, List.headD_cons, List.headD_cons,
            List.tail_cons, List.tail_cons, ih]

end EquinoxClock.Lib
