/-
Decimal numbers in strings of C.

A number is written with its digits alone; `strtoul` reads digits up to the first character that is
none (`strtoul_append`).
-/

import EquinoxClock.Lib.CString

namespace EquinoxClock.Lib

/-- A digit. -/
def IsDecimal (c : UInt8) : Prop := 48 ≤ c.toNat ∧ c.toNat ≤ 57

instance : DecidablePred IsDecimal := fun c =>
  inferInstanceAs (Decidable (48 ≤ c.toNat ∧ c.toNat ≤ 57))

theorem IsDecimal.ne {c : UInt8} (isDecimal : IsDecimal c) {other : UInt8}
    (noDigit : other.toNat < 48 ∨ 57 < other.toNat) : c ≠ other := by
  rintro rfl
  obtain ⟨low, high⟩ := isDecimal
  omega

/-- The decimal digits of a number. -/
def decimal (n : Nat) : List UInt8 := ascii n.repr

theorem decimal_eq (n : Nat) :
    decimal n = (Nat.toDigits 10 n).map fun c => UInt8.ofNat c.toNat := by
  rw [decimal, ascii, Nat.toList_repr]

/-- The byte of a digit. -/
theorem toNat_of_isDigit {c : Char} (isDigit : c.isDigit = true) :
    (UInt8.ofNat c.toNat).toNat = c.toNat ∧ IsDecimal (UInt8.ofNat c.toNat) := by
  obtain ⟨low, high⟩ : 48 ≤ c.toNat ∧ c.toNat ≤ 57 := by
    rw [Char.isDigit, Bool.and_eq_true, decide_eq_true_eq, decide_eq_true_eq] at isDigit
    exact isDigit
  have byte : (UInt8.ofNat c.toNat).toNat = c.toNat := UInt8.toNat_ofNat_of_lt'
    (Nat.lt_of_le_of_lt high (by decide))
  rw [IsDecimal, byte]
  exact ⟨rfl, low, high⟩

theorem isDecimal_of_mem {n : Nat} {c : UInt8} (member : c ∈ decimal n) : IsDecimal c := by
  rw [decimal_eq] at member
  obtain ⟨d, isIn, rfl⟩ := List.mem_map.mp member
  exact (toNat_of_isDigit (Nat.isDigit_of_mem_toDigits (by decide) (by decide) isIn)).2

theorem decimal_ne_nil (n : Nat) : decimal n ≠ [] := by
  rw [decimal_eq]
  exact fun none => Nat.toDigits_ne_nil (List.map_eq_nil_iff.mp none)

theorem decimal_length_le {n count : Nat} (some_ : 0 < count) :
    (decimal n).length ≤ count ↔ n < 10 ^ count := by
  rw [decimal_eq, List.length_map]
  exact Nat.length_toDigits_le_iff (by decide) some_

/-! ### Numerals to some base -/

/-- The digits of a number to some base, the letters among them in upper case. -/
def numeralTo (base n : Nat) : List UInt8 :=
  (Nat.toDigits base n).map fun c => UInt8.ofNat c.toUpper.toNat

section Base

variable {base : Nat} (positional : 1 < base)

include positional

/-- A number below the base has one digit, any other one digit more than without its last. -/
theorem numeralTo_eq (n : Nat) : numeralTo base n =
    (if n / base = 0 then [] else numeralTo base (n / base)) ++
      [UInt8.ofNat (n % base).digitChar.toUpper.toNat] := by
  have below : n / base = 0 ↔ n < base := Nat.div_eq_zero_iff_lt (Nat.zero_lt_of_lt positional)
  unfold numeralTo
  by_cases small : n < base
  · rw [if_pos (below.mpr small), Nat.toDigits_of_lt_base small, Nat.mod_eq_of_lt small]
    rfl
  · rw [if_neg (mt below.mp small), Nat.toDigits_of_base_le positional (Nat.le_of_not_lt small),
      List.map_append]
    rfl

theorem numeralTo_length_le {n count : Nat} (some_ : 0 < count) :
    (numeralTo base n).length ≤ count ↔ n < base ^ count := by
  rw [numeralTo, List.length_map]
  exact Nat.length_toDigits_le_iff positional some_

end Base

/-! ### Reading digits -/

/-- What stands behind a number: neither a digit nor white space nor a sign. -/
def Stops (rest : List UInt8) : Prop :=
  digit 10 (rest.headD 0) = none ∧ isSpace (rest.headD 0) = false ∧ rest.headD 0 ≠ 45 ∧
    rest.headD 0 ≠ 43

theorem stops_zeros (count : Nat) : Stops (List.replicate count 0) := by
  have stops : Stops [] := by
    rw [Stops]
    decide
  cases count <;> exact stops

/-- A value, where 32 bits hold it. -/
def capped (value : Nat) : Nat := if 2 ^ 32 ≤ value then 2 ^ 32 - 1 else value

theorem digit_of_isDecimal {c : UInt8} (isDecimal : IsDecimal c) :
    digit 10 c = some (c.toNat - 48) := by
  obtain ⟨low, high⟩ := isDecimal
  have inRange : (48 ≤ c && c ≤ 57) = true := by
    rw [Bool.and_eq_true, decide_eq_true_eq, decide_eq_true_eq, UInt8.le_iff_toNat_le,
      UInt8.le_iff_toNat_le]
    exact ⟨low, high⟩
  rw [digit, if_pos inRange]
  exact if_pos (by omega)

theorem digits_stop {base : Nat} {rest : List UInt8} (stop : digit base (rest.headD 0) = none)
    (value : Nat) : digits base value rest = value := by
  cases rest with
  | nil => rfl
  | cons c rest =>
      have none : digit base c = none := stop
      rw [digits, none]

/-- Behind a number, reading ends. -/
theorem digits_append {base : Nat} {rest : List UInt8} (stop : digit base (rest.headD 0) = none)
    (s : List UInt8) (value : Nat) : digits base value (s ++ rest) = digits base value s := by
  induction s generalizing value with
  | nil => exact digits_stop stop value
  | cons c s ih =>
      rw [List.cons_append, digits, digits]
      cases digit base c with
      | none => rfl
      | some d => exact ih _

theorem dropHexPrefix_ten (s : List UInt8) : dropHexPrefix 10 s = s := by
  unfold dropHexPrefix
  split
  · exact if_neg fun both => absurd both.1 (by decide)
  · rfl

/-- A string that begins with neither white space nor a sign is read from its first digit on. -/
theorem strtoul_plain {s : List UInt8} (noSpace : isSpace (s.headD 0) = false)
    (noMinus : s.headD 0 ≠ 45) (noPlus : s.headD 0 ≠ 43) :
    strtoul s 10 = capped (digits 10 0 s) := by
  have dropped : s.dropWhile isSpace = s := by
    cases s with
    | nil => rfl
    | cons c s => exact List.dropWhile_cons_of_neg (Bool.eq_false_iff.mp noSpace)
  have minus : (s.headD 0 == 45) = false := beq_eq_false_iff_ne.mpr noMinus
  have plus : (s.headD 0 == 43) = false := beq_eq_false_iff_ne.mpr noPlus
  rw [strtoul, dropped, minus, plus]
  show (if 2 ^ 32 ≤ digits 10 0 (dropHexPrefix 10 s) then _ else digits 10 0 (dropHexPrefix 10 s)) = _
  rw [dropHexPrefix_ten]
  rfl

theorem IsDecimal.plain {c : UInt8} (isDecimal : IsDecimal c) :
    isSpace c = false ∧ c ≠ 45 ∧ c ≠ 43 := by
  obtain ⟨low, high⟩ := id isDecimal
  refine ⟨?_, isDecimal.ne (.inl (by decide)), isDecimal.ne (.inl (by decide))⟩
  rw [isSpace, Bool.or_eq_false_iff, Bool.and_eq_false_iff, beq_eq_false_iff_ne,
    decide_eq_false_iff_not, decide_eq_false_iff_not, UInt8.le_iff_toNat_le, UInt8.le_iff_toNat_le]
  refine ⟨isDecimal.ne (.inl (by decide)), .inr fun small => ?_⟩
  have small' : c.toNat ≤ 13 := small
  omega

/-- **A number in a string** is read as if it stood alone. -/
theorem strtoul_append {ds : List UInt8} (decimal : ∀ c ∈ ds, IsDecimal c) {rest : List UInt8}
    (stops : Stops rest) : strtoul (ds ++ rest) 10 = strtoul ds 10 := by
  have read := digits_append stops.1 ds 0
  cases ds with
  | nil =>
      rw [List.nil_append, strtoul_plain stops.2.1 stops.2.2.1 stops.2.2.2,
        strtoul_plain (by decide) (by decide) (by decide), digits_stop stops.1 0]
      rfl
  | cons c ds =>
      obtain ⟨noSpace, noMinus, noPlus⟩ := (decimal c List.mem_cons_self).plain
      rw [@strtoul_plain (c :: ds ++ rest) noSpace noMinus noPlus,
        @strtoul_plain (c :: ds) noSpace noMinus noPlus, read]

/-- Digits are read as the number they write. -/
theorem digits_map {cs : List Char} (isDigits : ∀ c ∈ cs, c.isDigit = true) (value : Nat) :
    digits 10 value (cs.map fun c => UInt8.ofNat c.toNat) = Nat.ofDigitChars 10 cs value := by
  induction cs generalizing value with
  | nil => rw [Nat.ofDigitChars_nil]; rfl
  | cons c cs ih =>
      obtain ⟨byte, isDecimal⟩ := toNat_of_isDigit (isDigits c List.mem_cons_self)
      rw [List.map_cons, digits, digit_of_isDecimal isDecimal, byte, Nat.ofDigitChars_cons,
        Nat.mul_comm 10 value]
      exact ih (fun d member => isDigits d (List.mem_cons_of_mem c member)) _

/-- **A number is read back** from its decimal digits, as far as 32 bits hold it. -/
theorem strtoul_decimal (n : Nat) {rest : List UInt8} (stops : Stops rest) :
    strtoul (decimal n ++ rest) 10 = capped n := by
  have isDigits : ∀ c ∈ Nat.toDigits 10 n, c.isDigit = true := fun c member =>
    Nat.isDigit_of_mem_toDigits (by decide) (by decide) member
  have read : digits 10 0 (decimal n) = n := by
    rw [decimal_eq, digits_map isDigits, Nat.ofDigitChars_ten_toDigits]
  rw [strtoul_append (fun _ => isDecimal_of_mem) stops]
  obtain ⟨c, ds, first⟩ := List.exists_cons_of_ne_nil (decimal_ne_nil n)
  obtain ⟨noSpace, noMinus, noPlus⟩ := (isDecimal_of_mem (first ▸ List.mem_cons_self)).plain
  have head : (decimal n).headD 0 = c := by rw [first]; rfl
  rw [strtoul_plain (head ▸ noSpace) (head ▸ noMinus) (head ▸ noPlus), read]

end EquinoxClock.Lib
