/-
Sequence numbers.

The TCP stack keeps a sequence number of 32 bits as four bytes, the highest first, and compares two
of them byte by byte. `uip_add32` adds 16 bits to one, with the carries written out;
`toNat_uipAdd32` says that it adds modulo 2^32. Everything else counts from the number a connection
starts at (`after`).
-/

import Mathlib.Data.Nat.ModEq
import Mathlib.Tactic.Common

namespace EquinoxClock.Wifi

/-- `u8_t [4]`. -/
structure SeqNo where
  b0 : UInt8
  b1 : UInt8
  b2 : UInt8
  b3 : UInt8
  deriving DecidableEq

/-- The number the four bytes stand for. -/
def SeqNo.toNat (seqno : SeqNo) : Nat :=
  seqno.b0.toNat * 2 ^ 24 + seqno.b1.toNat * 2 ^ 16 + seqno.b2.toNat * 2 ^ 8 + seqno.b3.toNat

/-- The four bytes of a number. -/
def SeqNo.ofNat (number : Nat) : SeqNo where
  b0 := UInt8.ofNat (number / 2 ^ 24)
  b1 := UInt8.ofNat (number / 2 ^ 16)
  b2 := UInt8.ofNat (number / 2 ^ 8)
  b3 := UInt8.ofNat number

/-- `++uip_acc32[1]`, with the carry. -/
def SeqNo.increment1 (acc : SeqNo) : SeqNo :=
  let acc := { acc with b1 := acc.b1 + 1 }
  if acc.b1 = 0 then { acc with b0 := acc.b0 + 1 } else acc

/-- `++uip_acc32[2]`, with the carries. -/
def SeqNo.increment2 (acc : SeqNo) : SeqNo :=
  let acc := { acc with b2 := acc.b2 + 1 }
  if acc.b2 = 0 then acc.increment1 else acc

/-- `++iss[3]`, with the carries. -/
def SeqNo.increment3 (acc : SeqNo) : SeqNo :=
  let acc := { acc with b3 := acc.b3 + 1 }
  if acc.b3 = 0 then acc.increment2 else acc

/-- `uip_add32`, as the number it leaves in `uip_acc32`. -/
def uipAdd32 (op32 : SeqNo) (op16 : UInt16) : SeqNo :=
  let low := UInt8.ofNat (op16.toNat % 2 ^ 8)
  let high := UInt8.ofNat (op16.toNat / 2 ^ 8)
  let acc : SeqNo := ⟨op32.b0, op32.b1, op32.b2 + high, op32.b3 + low⟩
  let acc := if acc.b2 < high then acc.increment1 else acc
  if acc.b3 < low then acc.increment2 else acc

theorem SeqNo.toNat_lt (seqno : SeqNo) : seqno.toNat < 2 ^ 32 := by
  have h0 := seqno.b0.toNat_lt
  have h1 := seqno.b1.toNat_lt
  have h2 := seqno.b2.toNat_lt
  have h3 := seqno.b3.toNat_lt
  rw [SeqNo.toNat]
  omega

/-- Numbers that are equal have equal bytes. -/
theorem SeqNo.toNat_injective : Function.Injective SeqNo.toNat := by
  rintro ⟨a0, a1, a2, a3⟩ ⟨c0, c1, c2, c3⟩ same
  have ha1 := a1.toNat_lt
  have ha2 := a2.toNat_lt
  have ha3 := a3.toNat_lt
  have hc1 := c1.toNat_lt
  have hc2 := c2.toNat_lt
  have hc3 := c3.toNat_lt
  simp only [SeqNo.toNat] at same
  simp only [SeqNo.mk.injEq, ← UInt8.toNat_inj]
  omega

theorem SeqNo.toNat_ofNat (number : Nat) : (SeqNo.ofNat number).toNat = number % 2 ^ 32 := by
  simp only [SeqNo.toNat, SeqNo.ofNat, UInt8.toNat_ofNat']
  omega

theorem SeqNo.ofNat_toNat (seqno : SeqNo) : SeqNo.ofNat seqno.toNat = seqno :=
  SeqNo.toNat_injective ((SeqNo.toNat_ofNat _).trans (Nat.mod_eq_of_lt seqno.toNat_lt))

/-- The sum of two bytes is less than one of them exactly if there is a carry. -/
theorem toNat_add_carry (first second : UInt8) :
    (first + second).toNat + (if first + second < second then 2 ^ 8 else 0) =
      first.toNat + second.toNat := by
  have h1 := first.toNat_lt
  have h2 := second.toNat_lt
  simp only [UInt8.lt_iff_toNat_lt, UInt8.toNat_add]
  split <;> omega

/-- One more, with a carry where that gives zero. -/
theorem toNat_succ_carry (byte : UInt8) :
    (byte + 1).toNat + (if byte + 1 = 0 then 2 ^ 8 else 0) = byte.toNat + 1 := by
  have h := byte.toNat_lt
  have one : (1 : UInt8).toNat = 1 := rfl
  have zero : (0 : UInt8).toNat = 0 := rfl
  simp only [← UInt8.toNat_inj, UInt8.toNat_add, one, zero]
  split <;> omega

theorem SeqNo.toNat_increment1 (acc : SeqNo) :
    acc.increment1.toNat = (acc.toNat + 2 ^ 16) % 2 ^ 32 := by
  have carry := toNat_succ_carry acc.b1
  have top := toNat_succ_carry acc.b0
  have h0 := acc.b0.toNat_lt
  have h1 := acc.b1.toNat_lt
  have h2 := acc.b2.toNat_lt
  have h3 := acc.b3.toNat_lt
  have h0' := (acc.b0 + 1).toNat_lt
  have h1' := (acc.b1 + 1).toNat_lt
  simp only [SeqNo.increment1]
  by_cases zero : acc.b1 + 1 = 0
  · rw [if_pos zero] at carry ⊢
    simp only [SeqNo.toNat]
    split at top <;> omega
  · rw [if_neg zero] at carry ⊢
    simp only [SeqNo.toNat]
    omega

theorem SeqNo.toNat_increment2 (acc : SeqNo) :
    acc.increment2.toNat = (acc.toNat + 2 ^ 8) % 2 ^ 32 := by
  have carry := toNat_succ_carry acc.b2
  have lt := acc.toNat_lt
  have h2' := (acc.b2 + 1).toNat_lt
  simp only [SeqNo.increment2]
  by_cases zero : acc.b2 + 1 = 0
  · rw [if_pos zero, SeqNo.toNat_increment1]
    rw [if_pos zero] at carry
    simp only [SeqNo.toNat]
    omega
  · have h0 := acc.b0.toNat_lt
    have h1 := acc.b1.toNat_lt
    have h3 := acc.b3.toNat_lt
    rw [if_neg zero] at carry ⊢
    simp only [SeqNo.toNat]
    omega

/-- The carry out of the third byte. -/
theorem SeqNo.toNat_carryThird (op32 : SeqNo) (high last : UInt8) :
    let third := op32.b2 + high
    let acc : SeqNo := if third < high then SeqNo.increment1 ⟨op32.b0, op32.b1, third, last⟩
      else ⟨op32.b0, op32.b1, third, last⟩
    acc.b3 = last ∧ acc.toNat = (op32.b0.toNat * 2 ^ 24 + op32.b1.toNat * 2 ^ 16 +
      (op32.b2.toNat + high.toNat) * 2 ^ 8 + last.toNat) % 2 ^ 32 := by
  have h0 := op32.b0.toNat_lt
  have h1 := op32.b1.toNat_lt
  have h3 := last.toNat_lt
  have carry := toNat_add_carry op32.b2 high
  have h2 := (op32.b2 + high).toNat_lt
  dsimp only
  generalize op32.b2 + high = third at carry h2 ⊢
  split
  · next less =>
      rw [if_pos less] at carry
      refine ⟨?_, ?_⟩
      · simp only [SeqNo.increment1]
        split <;> rfl
      · rw [SeqNo.toNat_increment1]
        simp only [SeqNo.toNat]
        omega
  · next less =>
      rw [if_neg less] at carry
      refine ⟨rfl, ?_⟩
      simp only [SeqNo.toNat]
      omega

/-- **`uip_add32` adds modulo 2^32.** The carry out of the third byte is made first, and then the one
out of the last. -/
theorem toNat_uipAdd32 (op32 : SeqNo) (op16 : UInt16) :
    (uipAdd32 op32 op16).toNat = (op32.toNat + op16.toNat) % 2 ^ 32 := by
  have lt := op16.toNat_lt
  have low : (UInt8.ofNat (op16.toNat % 2 ^ 8)).toNat = op16.toNat % 2 ^ 8 := by
    rw [UInt8.toNat_ofNat', Nat.mod_mod]
  have high : (UInt8.ofNat (op16.toNat / 2 ^ 8)).toNat = op16.toNat / 2 ^ 8 := by
    rw [UInt8.toNat_ofNat']
    omega
  unfold uipAdd32
  dsimp only
  generalize UInt8.ofNat (op16.toNat / 2 ^ 8) = high8 at high ⊢
  generalize UInt8.ofNat (op16.toNat % 2 ^ 8) = low8 at low ⊢
  have carry := toNat_add_carry op32.b3 low8
  generalize op32.b3 + low8 = last at carry ⊢
  obtain ⟨acc_b3, acc_toNat⟩ := op32.toNat_carryThird high8 last
  rw [acc_b3]
  split
  · next less =>
      rw [if_pos less] at carry
      rw [SeqNo.toNat_increment2, acc_toNat, SeqNo.toNat]
      omega
  · next less =>
      rw [if_neg less] at carry
      rw [acc_toNat, SeqNo.toNat]
      omega

/-- The number some places behind another. -/
def SeqNo.after (start : SeqNo) (count : Nat) : SeqNo := SeqNo.ofNat (start.toNat + count)

theorem SeqNo.toNat_after (start : SeqNo) (count : Nat) :
    (start.after count).toNat = (start.toNat + count) % 2 ^ 32 := SeqNo.toNat_ofNat _

@[simp] theorem SeqNo.after_zero (start : SeqNo) : start.after 0 = start := by
  rw [SeqNo.after, Nat.add_zero, SeqNo.ofNat_toNat]

/-- Adding goes on from there. -/
theorem uipAdd32_after (start : SeqNo) (count : Nat) (op16 : UInt16) :
    uipAdd32 (start.after count) op16 = start.after (count + op16.toNat) := by
  refine SeqNo.toNat_injective ?_
  rw [toNat_uipAdd32, SeqNo.toNat_after, SeqNo.toNat_after, Nat.mod_add_mod, Nat.add_assoc]

/-- Places less than 2^32 apart have different numbers. -/
theorem SeqNo.after_injective (start : SeqNo) {first second : Nat} (firstSmall : first < 2 ^ 32)
    (secondSmall : second < 2 ^ 32) (same : start.after first = start.after second) :
    first = second := by
  have numbers : (start.toNat + first) % 2 ^ 32 = (start.toNat + second) % 2 ^ 32 := by
    rw [← SeqNo.toNat_after, ← SeqNo.toNat_after, same]
  have congruent : first % 2 ^ 32 = second % 2 ^ 32 := Nat.ModEq.add_left_cancel' _ numbers
  rwa [Nat.mod_eq_of_lt firstSmall, Nat.mod_eq_of_lt secondSmall] at congruent

end EquinoxClock.Wifi
