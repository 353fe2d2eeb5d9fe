/-
Hexadecimal digits in strings of C.

A digit is one of `0` to `9`, `A` to `F` or `a` to `f`. What holds of every byte is found by going
through the 256 of them (`forall_byte`). The digits that follow a number are part of it, so it is
read as it was written only where none do (`digits_iff`).
-/

import EquinoxClock.Lib.Numeral
import Mathlib.Tactic.Ring

namespace EquinoxClock.Lib

/-- What holds of the bytes of the first 256 numbers holds of every byte. -/
theorem forall_byte {property : UInt8 → Prop} (holds : ∀ n < 256, property (UInt8.ofNat n))
    (c : UInt8) : property c := by
  have found := holds c.toNat (UInt8.toNat_lt c)
  rwa [UInt8.ofNat_toNat] at found

/-- `isxdigit`. -/
def isxdigit (c : UInt8) : Bool :=
  (48 ≤ c && c ≤ 57) || (65 ≤ c && c ≤ 70) || (97 ≤ c && c ≤ 102)

theorem isxdigit_eq_isSome : ∀ c : UInt8, isxdigit c = (digit 16 c).isSome :=
  forall_byte (by decide +kernel)

theorem isxdigit_iff {c : UInt8} : isxdigit c = true ↔ ∃ d, digit 16 c = some d := by
  rw [isxdigit_eq_isSome, Option.isSome_iff_exists]

theorem digit_lt {base : Nat} {c : UInt8} {d : Nat} (isDigit : digit base c = some d) :
    d < base := by
  obtain ⟨small, same⟩ := Option.ite_none_right_eq_some.mp isDigit
  exact Option.some.inj same ▸ small

/-! ### Reading digits -/

/-- The digits at the start of a string. -/
def leading (s : List UInt8) : List UInt8 := s.takeWhile isxdigit

theorem leading_eq_nil (s : List UInt8) : leading s = [] ↔ digit 16 (s.headD 0) = none := by
  cases s with
  | nil => exact iff_of_true rfl (by decide)
  | cons c s =>
      rw [leading, List.takeWhile_cons, isxdigit_eq_isSome, List.headD_cons]
      cases digit 16 c with
      | none => exact iff_of_true rfl rfl
      | some d => exact iff_of_false (List.cons_ne_nil _ _) (Option.some_ne_none d)

/-- Digits are read on from the ones before them. -/
theorem digits_digits {s : List UInt8} (hex : ∀ c ∈ s, isxdigit c = true) (rest : List UInt8)
    (value : Nat) : digits 16 value (s ++ rest) = digits 16 (digits 16 value s) rest := by
  induction s generalizing value with
  | nil => rfl
  | cons c s ih =>
      obtain ⟨d, isDigit⟩ := isxdigit_iff.mp (hex c List.mem_cons_self)
      rw [List.cons_append, digits, digits, isDigit]
      exact ih (fun e member => hex e (List.mem_cons_of_mem c member)) _

/-- Each digit moves a value one place to the left. -/
theorem digits_eq (s : List UInt8) (value : Nat) :
    digits 16 value s = value * 16 ^ (leading s).length + digits 16 0 s := by
  induction s generalizing value with
  | nil => exact (Nat.mul_one value).symm
  | cons c s ih =>
      cases isDigit : digit 16 c with
      | none =>
          have noDigit : isxdigit c = false := by rw [isxdigit_eq_isSome, isDigit]; rfl
          rw [digits, digits, isDigit, leading,
            List.takeWhile_cons_of_neg (by rw [noDigit]; decide)]
          exact (Nat.mul_one value).symm
      | some d =>
          have isHex : isxdigit c = true := isxdigit_iff.mpr ⟨d, isDigit⟩
          rw [digits, digits, isDigit]
          show digits 16 (value * 16 + d) s = value * 16 ^ (leading (c :: s)).length +
            digits 16 (0 * 16 + d) s
          rw [ih (value * 16 + d), ih (0 * 16 + d), leading, leading,
            List.takeWhile_cons_of_pos isHex, List.length_cons]
          ring

theorem digits_lt (s : List UInt8) (value : Nat) :
    digits 16 value s < (value + 1) * 16 ^ s.length := by
  induction s generalizing value with
  | nil => exact (Nat.lt_succ_self value).trans_eq (Nat.mul_one _).symm
  | cons c s ih =>
      have grows : value + 1 ≤ (value + 1) * 16 ^ (c :: s).length :=
        Nat.le_mul_of_pos_right _ (Nat.pow_pos (by decide))
      cases isDigit : digit 16 c with
      | none =>
          rw [digits, isDigit]
          exact grows
      | some d =>
          rw [digits, isDigit]
          have small := digit_lt isDigit
          calc digits 16 (value * 16 + d) s < (value * 16 + d + 1) * 16 ^ s.length := ih _
            _ ≤ ((value + 1) * 16) * 16 ^ s.length := Nat.mul_le_mul_right _ (by omega)
            _ = (value + 1) * 16 ^ (c :: s).length := by rw [List.length_cons]; ring

/-- **A value with digits behind it** is the value alone only if there are none, or all is zero. -/
theorem digits_iff {value : Nat} (small : value < 2 ^ 32 - 1) (s : List UInt8) :
    capped (digits 16 value s) = value ↔ leading s = [] ∨ value = 0 ∧ digits 16 0 s = 0 := by
  have read := digits_eq s value
  constructor
  · intro same
    have exact_ : digits 16 value s = value := by
      rw [capped] at same
      split at same
      · omega
      · exact same
    by_cases none : leading s = []
    · exact .inl none
    · have longer : value * 16 ≤ value * 16 ^ (leading s).length :=
        Nat.mul_le_mul_left value (Nat.le_self_pow (by rwa [Ne, List.length_eq_zero_iff]) 16)
      exact .inr (by omega)
  · rintro (none | ⟨rfl, zero⟩)
    · rw [digits_stop ((leading_eq_nil s).mp none), capped, if_neg (by omega)]
    · rw [zero]
      rfl

/-- A character that is nothing more to `strtoul` than a digit, or the end of a number: no end of
the string, no white space, no sign and not the letter of the prefix `0x`. -/
def plain (c : UInt8) : Bool :=
  c != 0 && !isSpace c && c != 45 && c != 43 && c != 88 && c != 120

theorem plain_of_isxdigit : ∀ c : UInt8, isxdigit c = true → plain c = true :=
  forall_byte (by decide +kernel)

theorem ne_zero_of_plain {c : UInt8} (isPlain : plain c = true) : c ≠ 0 := by
  rintro rfl
  exact absurd isPlain (by decide)

/-- A number to the base 16, without a prefix. -/
theorem strtoul_hex {c d : UInt8} (plainFirst : plain c = true) (plainSecond : plain d = true)
    (rest : List UInt8) :
    strtoul (c :: d :: rest) 16 = capped (digits 16 0 (c :: d :: rest)) := by
  simp only [plain, Bool.and_eq_true, Bool.not_eq_true', bne_iff_ne] at plainFirst plainSecond
  obtain ⟨⟨⟨⟨⟨-, noSpace⟩, noMinus⟩, noPlus⟩, -⟩, -⟩ := plainFirst
  obtain ⟨⟨-, noLarge⟩, noSmall⟩ := plainSecond
  have noPrefix : dropHexPrefix 16 (c :: d :: rest) = c :: d :: rest := by
    unfold dropHexPrefix
    split
    · next same =>
        obtain ⟨rfl, rfl, rfl⟩ : 48 = c ∧ _ = d ∧ _ = rest := by simpa using same.symm
        exact if_neg fun both => both.2.elim noLarge noSmall
    · rfl
  have minus : (c == 45) = false := beq_eq_false_iff_ne.mpr noMinus
  have plus : (c == 43) = false := beq_eq_false_iff_ne.mpr noPlus
  rw [strtoul, List.dropWhile_cons_of_neg (by rw [noSpace]; decide), List.headD_cons, minus, plus]
  show (if 2 ^ 32 ≤ digits 16 0 (dropHexPrefix 16 (c :: d :: rest)) then _ else
    digits 16 0 (dropHexPrefix 16 (c :: d :: rest))) = _
  rw [noPrefix]
  rfl

end EquinoxClock.Lib
