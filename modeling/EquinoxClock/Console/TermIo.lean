/-
Printing on the console.

`xprintf` goes through a format and hands the characters it makes to the console. `xitoa` writes the
digits of a number one behind the other into an array of twenty bytes, the last digit first, fills it
up to the width asked for, and prints it backwards. At any moment the array therefore holds a text
backwards (`Backwards`), and each store puts a character in front of it. `xitoa_spec` says what comes
out and how far the array is used, and `xitoa_filled` what that is for a number with zeros in front.
-/

import EquinoxClock.Lib.Numeral
import EquinoxClock.Lib.Traced
import Mathlib.Algebra.Group.Int.Defs
import Mathlib.Data.List.Basic

namespace EquinoxClock.Console

open EquinoxClock.Lib

/-- `xputc`, as the characters given to `comm_put`. -/
def xputc (c : UInt8) : List UInt8 := if c = 10 then [13, c] else [c]

/-- `xputs`. -/
def xputs (str : List UInt8) : List UInt8 := (cString str).flatMap xputc

/-! ### Numbers -/

/-- The character for the last digit of `v`. -/
def lastDigit (r v : Nat) : UInt8 :=
  let c := v % r % 2 ^ 8
  let c := if c ≥ 10 then c + 7 else c
  UInt8.ofNat (c + 48)

/-- The first loop of `xitoa`: the next free place of `s`, and `s`. Thirty-two rounds are enough for
a word. -/
def storeDigits (r : Nat) : (rounds v i : Nat) → Traced Nat UInt8 → Nat × Traced Nat UInt8
  | 0, _, i, s => (i, s)
  | rounds + 1, v, i, s =>
      let s := s.write i (lastDigit r v)
      let v := v / r
      if v = 0 then (i + 1, s) else storeDigits r rounds v (i + 1) s

/-- `while (i < len) s[i++] = pad`, with some places left. -/
def fillUp (pad : UInt8) : (places i : Nat) → Traced Nat UInt8 → Traced Nat UInt8
  | 0, _, s => s
  | places + 1, i, s => fillUp pad places (i + 1) (s.write i pad)

/-- `do xputc(s[--i]); while (i)`: the characters, and `s`. -/
def printBack : (i : Nat) → Traced Nat UInt8 → List UInt8 × Traced Nat UInt8
  | 0, s => ([], s)
  | i + 1, s =>
      let (c, s) := s.read i
      let (rest, s) := printBack i s
      (xputc c ++ rest, s)

/-- `xitoa`, with a number of 32 bits: the characters, and the array `s`. Every cell of it is written
before it is read. -/
def xitoa (val radix len : Int) : List UInt8 × Traced Nat UInt8 :=
  let negative : Bool := radix < 0 ∧ val < 0
  let v := ((if negative then -val else val) % 2 ^ 32).toNat
  let r := radix.natAbs % 2 ^ 8
  let pad : UInt8 := if len < 0 then 48 else 32
  let len := len.natAbs
  let s := ⟨fun _ => 0, []⟩
  if len > 20 then ([], s)
  else
    let (i, s) := storeDigits r 32 v 0 s
    let (i, s) := if negative then (i + 1, s.write i 45) else (i, s)
    let s := fillUp pad (len - i) i s
    printBack (max i len) s

/-! ### Formats -/

/-- An argument behind the format: a number, or a string. -/
inductive Arg where
  | int (value : Int)
  | str (text : List UInt8)

/-- `va_arg` for a number. -/
def Arg.value : Arg → Int
  | .int value => value
  | .str _ => 0

/-- `va_arg` for a string. -/
def Arg.text : Arg → List UInt8
  | .int _ => []
  | .str text => text

/-- `while ((d >= '0')&&(d <= '9')) { w += w * 10 + (d - '0'); d = *str++; }`: the width, and the
format from `d` on. -/
def readWidth : (w : Int) → List UInt8 → Int × List UInt8
  | w, [] => (w, [])
  | w, d :: str =>
      if 48 ≤ d ∧ d ≤ 57 then readWidth (w + (w * 10 + (d.toNat - 48))) str else (w, d :: str)

/-- The base for a conversion, negative for signed numbers. -/
def radixOf (d : UInt8) : Option Int :=
  if d = 0x75 then some 10
  else if d = 0x64 then some (-10)
  else if d = 0x58 ∨ d = 0x78 then some 16
  else if d = 0x62 then some 2
  else none

/-- What a conversion prints, unless it is none. Numbers have 32 bits, with the letter `l` or
without. -/
def convert (d : UInt8) (w : Int) (arg : Arg) : Option (List UInt8) :=
  if d = 0x73 then some (xputs arg.text)
  else if d = 0x63 then some (xputc (UInt8.ofInt arg.value))
  else (radixOf d).map fun r => (xitoa arg.value r w).1

/-- The format with a character left out, if it begins with that. -/
def skipChar (c : UInt8) : List UInt8 → Bool × List UInt8
  | [] => (false, [])
  | d :: str => if d = c then (true, str) else (false, d :: str)

/-- The loop of `xprintf`. Each round takes a character of the format at least. -/
def xprintfFrom : (rounds : Nat) → (str : List UInt8) → (arp : List Arg) → List UInt8
  | 0, _, _ => []
  | _ + 1, [], _ => []
  | rounds + 1, d :: str, arp =>
      if d = 0 then []
      else if d ≠ 0x25 then xputc d ++ xprintfFrom rounds str arp
      else
        let (s, str) := skipChar 48 str
        let (w, str) := readWidth 0 str
        let w := if s then -w else w
        let (_, str) := skipChar 0x6C str
        match str with
        | [] => []
        | d :: str =>
            match convert d w (arp.headD (.int 0)) with
            | none => []
            | some characters => characters ++ xprintfFrom rounds str arp.tail

/-- `xprintf`, as the characters given to `comm_put`. -/
def xprintf (str : List UInt8) (arp : List Arg) : List UInt8 := xprintfFrom str.length str arp

/-! ### The array of `xitoa` -/

/-- The first places of the array hold a text backwards, and no place behind them was touched. -/
structure Backwards (text : List UInt8) (i : Nat) (s : Traced Nat UInt8) : Prop where
  cells : (List.range i).reverse.map s.cells = text
  within : ∀ bound, Traced.Within (· < bound) s ↔ i ≤ bound

section Array

variable {text : List UInt8} {i : Nat} {s : Traced Nat UInt8}

theorem backwards_nil (cells : Nat → UInt8) : Backwards [] 0 ⟨cells, []⟩ where
  cells := rfl
  within bound := iff_of_true (fun _ none => nomatch none) (Nat.zero_le bound)

/-- **A store** puts a character in front of the text. -/
theorem Backwards.push (backwards : Backwards text i s) (c : UInt8) :
    Backwards (c :: text) (i + 1) (s.write i c) where
  cells := by
    rw [List.range_succ, List.reverse_append, List.reverse_singleton, List.singleton_append,
      List.map_cons, Traced.write_same, ← backwards.cells]
    refine congrArg (c :: ·) (List.map_congr_left fun index member => ?_)
    have earlier : index < i := List.mem_range.mp (List.mem_reverse.mp member)
    exact Traced.write_other (Nat.ne_of_lt earlier) ..
  within bound := by
    rw [Traced.within_write, backwards.within]
    exact and_iff_left_of_imp Nat.le_of_lt

theorem Backwards.length (backwards : Backwards text i s) : text.length = i := by
  rw [← backwards.cells, List.length_map, List.length_reverse, List.length_range]

/-- `while (i < len) s[i++] = pad` puts as many characters in front of the text as there are places
left. -/
theorem Backwards.fillUp (pad : UInt8) (places : Nat) : ∀ {text : List UInt8} {i : Nat}
    {s : Traced Nat UInt8}, Backwards text i s →
      Backwards (List.replicate places pad ++ text) (i + places) (fillUp pad places i s) := by
  induction places with
  | zero => exact fun backwards => backwards
  | succ places ih =>
      intro text i s backwards
      have filled := ih (backwards.push pad)
      rw [Nat.add_assoc, Nat.add_comm 1 places] at filled
      rw [Console.fillUp, List.replicate_succ', List.append_assoc]
      exact filled

/-- The digit that is stored for a number. -/
theorem lastDigit_eq {r : Nat} (positive : 0 < r) (few : r ≤ 16) (v : Nat) :
    lastDigit r v = UInt8.ofNat (v % r).digitChar.toUpper.toNat := by
  have digits : ∀ d < 16, lastDigit 16 d = UInt8.ofNat d.digitChar.toUpper.toNat := by decide
  have small : v % r < 16 := (Nat.mod_lt v positive).trans_le few
  rw [← digits _ small, lastDigit, lastDigit, Nat.mod_eq_of_lt small]

/-- **The first loop** puts the numeral of a number in front of the text, by induction on its
rounds. -/
theorem Backwards.storeDigits {r : Nat} (positional : 1 < r) (few : r ≤ 16) (rounds : Nat) :
    ∀ {v : Nat}, v < r ^ (rounds + 1) → ∀ {text : List UInt8} {i : Nat} {s : Traced Nat UInt8},
      Backwards text i s →
        Backwards (numeralTo r v ++ text) (storeDigits r (rounds + 1) v i s).1
          (storeDigits r (rounds + 1) v i s).2 := by
  have positive : 0 < r := Nat.zero_lt_of_lt positional
  induction rounds with
  | zero =>
      intro v small text i s backwards
      have last : v / r = 0 := Nat.div_eq_of_lt (by rwa [Nat.pow_one] at small)
      rw [Console.storeDigits, if_pos last, numeralTo_eq positional, if_pos last,
        ← lastDigit_eq positive few]
      exact backwards.push _
  | succ rounds ih =>
      intro v small text i s backwards
      have pushed := backwards.push (lastDigit r v)
      rw [Console.storeDigits, numeralTo_eq positional, ← lastDigit_eq positive few]
      by_cases last : v / r = 0
      · rw [if_pos last, if_pos last]
        exact pushed
      · rw [if_neg last, if_neg last, List.append_assoc]
        have shorter : v / r < r ^ (rounds + 1) := by
          rw [Nat.div_lt_iff_lt_mul positive, ← Nat.pow_succ]
          exact small
        exact ih shorter pushed

theorem printBack_fst (i : Nat) : ∀ s : Traced Nat UInt8,
    (printBack i s).1 = (List.range i).reverse.flatMap fun index => xputc (s.cells index) := by
  induction i with
  | zero => exact fun _ => rfl
  | succ i ih =>
      intro s
      rw [List.range_succ, List.reverse_append, List.reverse_singleton, List.singleton_append,
        List.flatMap_cons, ← ih s]
      exact congrArg (xputc (s.cells i) ++ ·) ((ih _).trans (ih s).symm)

/-- The array is printed backwards, and so the text comes out as it is. -/
theorem Backwards.printBack (backwards : Backwards text i s) (oneLine : ∀ c ∈ text, c ≠ 10) :
    (printBack i s).1 = text := by
  rw [printBack_fst, ← List.flatMap_map, backwards.cells]
  calc text.flatMap xputc = text.flatMap fun c => [c] :=
        List.flatMap_congr fun c member => if_neg (oneLine c member)
    _ = text := List.flatMap_singleton' text

theorem within_printBack (bound i : Nat) : ∀ s : Traced Nat UInt8,
    Traced.Within (· < bound) (printBack i s).2 ↔ i ≤ bound ∧ Traced.Within (· < bound) s := by
  induction i with
  | zero => exact fun s => (and_iff_right (Nat.zero_le bound)).symm
  | succ i ih =>
      intro s
      rw [Console.printBack]
      dsimp only
      rw [ih, Traced.within_read, ← and_assoc]
      exact and_congr_left' (and_iff_right_of_imp Nat.le_of_lt)

end Array

/-! ### The numeral that is printed -/

/-- A text with characters in front of it, up to a width. -/
def padded (pad : UInt8) (width : Nat) (text : List UInt8) : List UInt8 :=
  List.replicate (width - text.length) pad ++ text

/-- It is as long as the wider of the two. -/
theorem padded_length (pad : UInt8) (width : Nat) (text : List UInt8) :
    (padded pad width text).length = max text.length width := by
  rw [padded, List.length_append, List.length_replicate]
  omega

/-- Only the length tells the widths apart. -/
theorem padded_eq_iff (pad : UInt8) (text : List UInt8) (width other : Nat) :
    padded pad width text = padded pad other text ↔
      max text.length width = max text.length other := by
  rw [← padded_length pad width, ← padded_length pad other]
  refine ⟨congrArg List.length, fun same => ?_⟩
  rw [padded_length, padded_length] at same
  have places : width - text.length = other - text.length := by omega
  rw [padded, padded, places]

theorem padded_concat (pad : UInt8) (width : Nat) (text : List UInt8) (c : UInt8) :
    padded pad (width + 1) (text ++ [c]) = padded pad width text ++ [c] := by
  rw [padded, padded, List.length_append, List.length_singleton, Nat.add_sub_add_right,
    List.append_assoc]

/-- The numeral of a number to some base, with a sign in front of a negative one. -/
def numeralOf (base : Nat) (number : Int) : List UInt8 :=
  (if number < 0 then [45] else []) ++ numeralTo base number.natAbs

theorem mem_numeralTo {base n : Nat} (positional : 1 < base) (few : base ≤ 16) :
    ∀ c ∈ numeralTo base n, c ≠ 10 := by
  have digits : ∀ d < 16, UInt8.ofNat d.digitChar.toUpper.toNat ≠ 10 := by decide
  induction n using Nat.strongRecOn with
  | _ n ih =>
    intro c member
    rw [numeralTo_eq positional] at member
    obtain front | last := List.mem_append.mp member
    · by_cases single : n / base = 0
      · rw [if_pos single] at front
        exact nomatch front
      · rw [if_neg single] at front
        have nonzero : n ≠ 0 := fun zero => single (by rw [zero, Nat.zero_div])
        exact ih _ (Nat.div_lt_self (Nat.pos_of_ne_zero nonzero) positional) c front
    · rw [List.mem_singleton.mp last]
      exact digits _ ((Nat.mod_lt n (Nat.zero_lt_of_lt positional)).trans_le few)

/-- A padded numeral stands on one line. -/
theorem mem_padded {base width : Nat} {number : Int} (positional : 1 < base) (few : base ≤ 16)
    {pad : UInt8} (visible : pad ≠ 10) : ∀ c ∈ padded pad width (numeralOf base number), c ≠ 10 := by
  intro c member
  obtain front | rest := List.mem_append.mp member
  · rw [List.eq_of_mem_replicate front]
    exact visible
  · obtain minus | digit := List.mem_append.mp rest
    · split at minus
      · rw [List.mem_singleton.mp minus]
        decide
      · exact nomatch minus
    · exact mem_numeralTo positional few c digit

/-- What a call of `xitoa` does: it prints a numeral up to a width, and touches as many places of the
array as it prints characters. -/
structure PrintsNumeral (base : Nat) (number len : Int)
    (result : List UInt8 × Traced Nat UInt8) : Prop where
  text : result.1 = padded (if len < 0 then 48 else 32) len.natAbs (numeralOf base number)
  within : ∀ bound, Traced.Within (· < bound) result.2 ↔
    max (numeralOf base number).length len.natAbs ≤ bound

section Xitoa

variable {val radix len number : Int} {base : Nat} (few : base ≤ 16)
  (radix_eq : radix.natAbs = base) (most : len.natAbs ≤ 20)
  (sign : radix < 0 ∧ val < 0 ↔ number < 0)
  (magnitude : ((if number < 0 then -val else val) % 2 ^ 32).toNat = number.natAbs)

include few radix_eq most sign magnitude

theorem xitoa_eq : xitoa val radix len =
    let (i, s) := storeDigits base 32 number.natAbs 0 ⟨fun _ => 0, []⟩
    let (i, s) := if number < 0 then (i + 1, s.write i 45) else (i, s)
    printBack (max i len.natAbs)
      (fillUp (if len < 0 then 48 else 32) (len.natAbs - i) i s) := by
  have byte : base % 2 ^ 8 = base := Nat.mod_eq_of_lt (Nat.lt_of_le_of_lt few (by decide))
  rw [xitoa]
  simp only [sign, decide_eq_true_eq, magnitude, radix_eq, byte, if_neg (Nat.not_lt.mpr most)]

/-- **`xitoa`** prints the number whose sign and whose magnitude it finds. -/
theorem xitoa_spec (positional : 1 < base) (word : number.natAbs < 2 ^ 32) :
    PrintsNumeral base number len (xitoa val radix len) := by
  have small : number.natAbs < base ^ (31 + 1) := word.trans_le (Nat.pow_le_pow_left positional 32)
  have digits := (backwards_nil fun _ => 0).storeDigits positional few 31 small
  rw [List.append_nil] at digits
  rw [xitoa_eq few radix_eq most sign magnitude]
  generalize storeDigits base 32 number.natAbs 0 ⟨fun _ => 0, []⟩ = stored at digits
  obtain ⟨i, s⟩ := stored
  dsimp only at digits ⊢
  obtain ⟨j, t, signed, backwards⟩ : ∃ j t,
      (if number < 0 then (i + 1, s.write i 45) else (i, s)) = (j, t) ∧
        Backwards (numeralOf base number) j t := by
    rw [numeralOf]
    by_cases negative : number < 0
    · rw [if_pos negative, if_pos negative]
      exact ⟨_, _, rfl, digits.push 45⟩
    · rw [if_neg negative, if_neg negative]
      exact ⟨_, _, rfl, digits⟩
  rw [signed]
  dsimp only
  have filled := backwards.fillUp (if len < 0 then 48 else 32) (len.natAbs - j)
  have places : j + (len.natAbs - j) = max j len.natAbs := by omega
  rw [places] at filled
  refine ⟨?_, fun bound => ?_⟩
  · have visible : (if len < 0 then 48 else 32 : UInt8) ≠ 10 := by split <;> decide
    rw [← backwards.length] at filled ⊢
    exact filled.printBack (mem_padded positional few visible)
  · rw [within_printBack, filled.within, and_self, backwards.length]

end Xitoa

/-! ### Filled up with zeros -/

/-- The digits of a number, as many as asked for. -/
def numeral (r count v : Nat) : List UInt8 :=
  (List.range count).reverse.map fun place => lastDigit r (v / r ^ place)

/-- The last digit stands behind the digits of the number without it. -/
theorem numeral_succ (r count v : Nat) :
    numeral r (count + 1) v = numeral r count (v / r) ++ [lastDigit r v] := by
  rw [numeral, List.range_succ_eq_map, List.reverse_cons, List.map_append, ← List.map_reverse,
    List.map_map]
  refine congrArg₂ (· ++ ·) (List.map_congr_left fun place _ => ?_) ?_
  · rw [Function.comp_apply, Nat.pow_succ', ← Nat.div_div_eq_div_mul]
  · rw [List.map_singleton, Nat.pow_zero, Nat.div_one]

theorem numeral_zero (r count : Nat) : numeral r count 0 = List.replicate count 48 := by
  have zeros : ∀ place, lastDigit r (0 / r ^ place) = 48 := fun place => by
    rw [Nat.zero_div, lastDigit, Nat.zero_mod]
    rfl
  rw [numeral, List.map_congr_left fun place _ => zeros place, List.map_const', List.length_reverse,
    List.length_range]

/-- A numeral with zeros in front of it has the digits asked for, by induction on their number. -/
theorem padded_numeralTo {r : Nat} (positional : 1 < r) (few : r ≤ 16) (count : Nat) :
    ∀ {v : Nat}, v < r ^ (count + 1) →
      padded 48 (count + 1) (numeralTo r v) = numeral r (count + 1) v := by
  have positive : 0 < r := Nat.zero_lt_of_lt positional
  induction count with
  | zero =>
      intro v small
      have last : v / r = 0 := Nat.div_eq_of_lt (by rwa [Nat.pow_one] at small)
      rw [numeralTo_eq positional, if_pos last, ← lastDigit_eq positive few, numeral_succ]
      rfl
  | succ count ih =>
      intro v small
      have shorter : v / r < r ^ (count + 1) := by
        rw [Nat.div_lt_iff_lt_mul positive, ← Nat.pow_succ]
        exact small
      rw [numeralTo_eq positional, ← lastDigit_eq positive few, numeral_succ, padded_concat]
      refine congrArg (· ++ [lastDigit r v]) ?_
      by_cases last : v / r = 0
      · rw [if_pos last, last, numeral_zero, padded, List.append_nil, List.length_nil, Nat.sub_zero]
      · rw [if_neg last]
        exact ih shorter

/-- **A number filled up with zeros** is printed with as many digits as asked for. -/
theorem xitoa_filled {val : Int} {r w : Nat} (base : 2 ≤ r) (few : r ≤ 16)
    (fits : (val % 2 ^ 32).toNat < r ^ w) (some_ : 0 < w) (most : w ≤ 20) :
    (xitoa val r (-w)).1 = numeral r w (val % 2 ^ 32).toNat := by
  obtain ⟨count, rfl⟩ := Nat.exists_eq_succ_of_ne_zero (Nat.ne_of_gt some_)
  have word : (val % 2 ^ 32).toNat < 2 ^ 32 := by
    have := Int.emod_lt_of_pos val (show (0 : Int) < 2 ^ 32 by decide)
    omega
  generalize magnitude : (val % 2 ^ 32).toNat = v at fits word
  have nonneg : ¬ (v : Int) < 0 := Int.not_lt.mpr (Int.natCast_nonneg v)
  have absolute : (-(count.succ : Int)).natAbs = count.succ := Int.natAbs_neg _
  have unsigned : (r : Int) < 0 ∧ val < 0 ↔ (v : Int) < 0 :=
    iff_of_false (fun both => absurd both.1 (Int.not_lt.mpr (Int.natCast_nonneg r))) nonneg
  have printed := xitoa_spec few (Int.natAbs_natCast r) (absolute.symm ▸ most) unsigned
    (by rw [if_neg nonneg, magnitude, Int.natAbs_natCast]) base word
  rw [printed.text, absolute, if_pos (by omega), numeralOf, if_neg nonneg, List.nil_append,
    Int.natAbs_natCast]
  exact padded_numeralTo base few count fits

/-- The format of a hexadecimal number filled up with zeros. -/
theorem xprintf_hex (w : UInt8) (digit : 49 ≤ w.toNat ∧ w.toNat ≤ 57) (value : Int) :
    xprintf [0x25, 0x30, w, 0x78] [.int value] = (xitoa value 16 (-(w.toNat - 48 : Nat))).1 := by
  have isDigit : 48 ≤ w ∧ w ≤ 57 := by
    rw [UInt8.le_iff_toNat_le, UInt8.le_iff_toNat_le]
    exact ⟨by show 48 ≤ w.toNat; omega, digit.2⟩
  have width : readWidth 0 [w, 0x78] = (((w.toNat - 48 : Nat) : Int), [0x78]) := by
    rw [readWidth, if_pos isDigit, readWidth, if_neg (by decide)]
    congr 1
    omega
  have flag : skipChar 48 [0x30, w, 0x78] = (true, [w, 0x78]) := rfl
  have long : skipChar 0x6C [(0x78 : UInt8)] = (false, [0x78]) := rfl
  rw [xprintf, List.length_cons, xprintfFrom, if_neg (by decide), if_neg (by decide), flag]
  dsimp only
  rw [width]
  dsimp only
  rw [long]
  dsimp only
  rw [List.headD_cons]
  exact List.append_nil _

end EquinoxClock.Console
