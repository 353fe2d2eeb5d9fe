/-
The checksums of the TCP/IP stack.

`chksum` adds 16 bits at a time, the higher byte first, with the carry added back in. A sum is right
if it is one of the two numbers that stand for 0, and both give the 0xffff that `uip_process` looks
for (`chksumResult_iff`). So it finds every change of two bytes that stand side by side, wherever
they are, but for one: two zeros and two 0xff are the same (`chksum_detects`).

A field of 16 bits stands in memory with its lower byte first.
-/

import EquinoxClock.Lib.OnesComplement
import Mathlib.Data.UInt

namespace EquinoxClock.Wifi

open EquinoxClock.Lib.OnesComplement

/-- `htons`. -/
def htons (val : UInt16) : UInt16 := val <<< 8 ||| val >>> 8

/-- One pass of `chksum`: `sum += t`, and the carry. -/
def addCarry (sum t : UInt16) : UInt16 :=
  let sum := sum + t
  if sum < t then sum + 1 else sum

/-- `chksum`. -/
def chksum (sum : UInt16) : (data : List UInt8) → UInt16
  | first :: second :: data => chksum (addCarry sum (first.toUInt16 <<< 8 + second.toUInt16)) data
  | [last] => addCarry sum (last.toUInt16 <<< 8 + 0)
  | [] => sum

/-- What a checksum is returned as. -/
def chksumResult (sum : UInt16) : UInt16 := if sum = 0 then 0xffff else htons sum

/-- A field of 16 bits in memory. -/
def u16Bytes (field : UInt16) : List UInt8 := [field.toUInt8, (field >>> 8).toUInt8]

/-- The header of a packet: the first half of `struct uip_tcpip_hdr`. -/
structure IpHdr where
  vhl : UInt8
  tos : UInt8
  len : UInt8 × UInt8
  ipid : UInt8 × UInt8
  ipoffset : UInt8 × UInt8
  ttl : UInt8
  proto : UInt8
  ipchksum : UInt16
  srcipaddr : UInt16 × UInt16
  destipaddr : UInt16 × UInt16
  deriving DecidableEq

namespace IpHdr

/-- The two addresses in memory. -/
def addresses (hdr : IpHdr) : List UInt8 :=
  u16Bytes hdr.srcipaddr.1 ++ u16Bytes hdr.srcipaddr.2 ++
    u16Bytes hdr.destipaddr.1 ++ u16Bytes hdr.destipaddr.2

/-- The header in memory, from `uip_buf[UIP_LLH_LEN]` on. -/
def bytes (hdr : IpHdr) : List UInt8 :=
  [hdr.vhl, hdr.tos, hdr.len.1, hdr.len.2, hdr.ipid.1, hdr.ipid.2, hdr.ipoffset.1, hdr.ipoffset.2,
    hdr.ttl, hdr.proto] ++ u16Bytes hdr.ipchksum ++ hdr.addresses

/-- The length that the header names. -/
def totalLen (hdr : IpHdr) : UInt16 := hdr.len.1.toUInt16 <<< 8 + hdr.len.2.toUInt16

end IpHdr

/-- `uip_ipchksum`. -/
def uipIpchksum (hdr : IpHdr) : UInt16 := chksumResult (chksum 0 hdr.bytes)

/-- `upper_layer_chksum`, for what stands behind the header in memory. -/
def upperLayerChksum (proto : UInt8) (hdr : IpHdr) (upper : List UInt8) : UInt16 :=
  let upperLayerLen := hdr.totalLen - 20
  let sum := upperLayerLen + proto.toUInt16
  let sum := chksum sum hdr.addresses
  chksumResult (chksum sum (upper.take upperLayerLen.toNat))

/-! ### The sums -/

/-- The weight of some bytes, from an even place on. -/
def weight (data : List UInt8) : Nat := weigh 256 true (data.map UInt8.toNat)

theorem toNat_shiftLeft_eight (byte : UInt8) :
    (byte.toUInt16 <<< 8).toNat = 256 * byte.toNat := by
  have small := byte.toNat_lt
  rw [UInt16.toNat_shiftLeft, UInt8.toNat_toUInt16]
  show byte.toNat <<< 8 % 2 ^ 16 = _
  rw [Nat.shiftLeft_eq, Nat.mod_eq_of_lt (by omega), Nat.mul_comm]

theorem toNat_word (first second : UInt8) :
    (first.toUInt16 <<< 8 + second.toUInt16).toNat = 256 * first.toNat + second.toNat := by
  have h1 := first.toNat_lt
  have h2 := second.toNat_lt
  rw [UInt16.toNat_add, toNat_shiftLeft_eight, UInt8.toNat_toUInt16, Nat.mod_eq_of_lt (by omega)]

/-- A sum below one of its terms has a carry. -/
theorem toNat_addCarry (sum t : UInt16) :
    (addCarry sum t).toNat = endAround 65535 sum.toNat t.toNat := by
  have h1 := sum.toNat_lt
  have h2 := t.toNat_lt
  have one : (1 : UInt16).toNat = 1 := rfl
  have total : (sum + t).toNat = (sum.toNat + t.toNat) % 2 ^ 16 := UInt16.toNat_add sum t
  rw [addCarry, endAround]
  by_cases carry : sum + t < t
  · rw [if_pos carry, UInt16.toNat_add, one]
    have carries := UInt16.lt_iff_toNat_lt.mp carry
    rw [if_neg (by omega)]
    omega
  · rw [if_neg carry]
    have carries := mt UInt16.lt_iff_toNat_lt.mpr carry
    rw [if_pos (by omega)]
    omega

/-- **`chksum` adds the weights of the bytes.** -/
theorem chksum_modEq (sum : UInt16) (data : List UInt8) :
    (chksum sum data).toNat ≡ sum.toNat + weight data [MOD 65535] := by
  induction sum, data using chksum.induct with
  | case1 sum first second data ih =>
      have step := endAround_modEq 65535 sum.toNat (256 * first.toNat + second.toNat)
      have total : weight (first :: second :: data) =
          256 * first.toNat + (second.toNat + weight data) := rfl
      rw [toNat_addCarry, toNat_word] at ih
      rw [chksum, total, ← Nat.add_assoc (256 * _), ← Nat.add_assoc]
      exact ih.trans (step.add_right _)
  | case2 sum last =>
      rw [chksum, toNat_addCarry, UInt16.add_zero, toNat_shiftLeft_eight]
      exact endAround_modEq _ _ _
  | case3 sum => exact Nat.ModEq.refl _

theorem addCarry_eq_zero (sum t : UInt16) : addCarry sum t = 0 ↔ sum = 0 ∧ t = 0 := by
  simp only [← UInt16.toNat_inj, UInt16.toNat_zero]
  rw [toNat_addCarry, endAround_eq_zero]

/-- Only zeros add up to zero. -/
theorem chksum_eq_zero (sum : UInt16) (data : List UInt8) :
    chksum sum data = 0 ↔ sum = 0 ∧ ∀ byte ∈ data, byte = 0 := by
  induction sum, data using chksum.induct with
  | case1 sum first second data ih =>
      have word : first.toUInt16 <<< 8 + second.toUInt16 = 0 ↔ first = 0 ∧ second = 0 := by
        simp only [← UInt16.toNat_inj, ← UInt8.toNat_inj, UInt16.toNat_zero, UInt8.toNat_zero]
        rw [toNat_word]
        omega
      rw [chksum, ih, addCarry_eq_zero, word, List.forall_mem_cons, List.forall_mem_cons, and_assoc,
        and_assoc]
  | case2 sum last =>
      have word : last.toUInt16 <<< 8 = 0 ↔ last = 0 := by
        simp only [← UInt16.toNat_inj, ← UInt8.toNat_inj, UInt16.toNat_zero, UInt8.toNat_zero]
        rw [toNat_shiftLeft_eight]
        omega
      rw [chksum, UInt16.add_zero, addCarry_eq_zero, word, List.forall_mem_singleton]
  | case3 sum => exact (and_iff_left (List.forall_mem_nil _)).symm

theorem toNat_htons (val : UInt16) :
    (htons val).toNat = 256 * (val.toNat % 256) + val.toNat / 256 := by
  have lt := val.toNat_lt
  have eight : (8 : UInt16).toNat % 16 = 8 := rfl
  have high : val.toNat * 2 ^ 8 % 2 ^ 16 = (val.toNat % 256) <<< 8 := by
    rw [Nat.shiftLeft_eq]
    omega
  rw [htons, UInt16.toNat_or, UInt16.toNat_shiftLeft, UInt16.toNat_shiftRight, eight,
    Nat.shiftLeft_eq, high, ← Nat.shiftLeft_add_eq_or_of_lt, Nat.shiftLeft_eq,
    Nat.shiftRight_eq_div_pow]
  · omega
  · rw [Nat.shiftRight_eq_div_pow]
    omega

theorem htons_htons (val : UInt16) : htons (htons val) = val := by
  have lt := val.toNat_lt
  rw [← UInt16.toNat_inj, toNat_htons, toNat_htons]
  omega

/-- What is looked for is found exactly if the sum stands for 0. -/
theorem chksumResult_iff (sum : UInt16) : chksumResult sum = 0xffff ↔ 65535 ∣ sum.toNat := by
  rw [dvd_iff (Nat.le_of_lt_succ sum.toNat_lt), chksumResult]
  by_cases zero : sum = 0
  · rw [if_pos zero, zero]
    exact iff_of_true rfl (Or.inl rfl)
  · have pos : sum.toNat ≠ 0 := fun none => zero (UInt16.toNat_inj.mp none)
    have all : htons 0xffff = 0xffff := rfl
    rw [if_neg zero, or_iff_right pos]
    constructor
    · intro found
      rw [← htons_htons sum, found, all]
      rfl
    · intro found
      rw [show sum = 0xffff from UInt16.toNat_inj.mp found, all]

theorem weight_u16Bytes (field : UInt16) : weight (u16Bytes field) = (htons field).toNat := by
  have eight : (8 : UInt16).toNat % 16 = 8 := rfl
  have lt := field.toNat_lt
  have low : field.toUInt8.toNat = field.toNat % 256 := UInt16.toNat_toUInt8 field
  have high : (field >>> 8).toUInt8.toNat = field.toNat / 256 := by
    rw [UInt16.toNat_toUInt8, UInt16.toNat_shiftRight, eight, Nat.shiftRight_eq_div_pow]
    omega
  rw [toNat_htons, ← low, ← high]
  rfl

/-- A checksum as it is filled in makes up for the sum of everything else. -/
theorem fill_modEq (sum : UInt16) :
    (htons (~~~ chksumResult sum)).toNat + sum.toNat ≡ 0 [MOD 65535] := by
  rw [chksumResult]
  by_cases zero : sum = 0
  · rw [if_pos zero, zero]
    rfl
  · have lt := sum.toNat_lt
    have filled : (~~~ htons sum).toNat = 65535 - (htons sum).toNat := UInt16.toNat_not _
    rw [if_neg zero, toNat_htons, filled, toNat_htons]
    refine Nat.modEq_zero_iff_dvd.mpr ⟨1, ?_⟩
    omega

theorem weight_append (data others : List UInt8) :
    weight (data ++ others) = weight data +
      weigh 256 (begins true (data.map UInt8.toNat)) (others.map UInt8.toNat) := by
  rw [weight, List.map_append, weigh_append, weight]

/-- Addresses that change places count for the same. -/
theorem weight_swap (hdr : IpHdr) :
    weight { hdr with srcipaddr := hdr.destipaddr, destipaddr := hdr.srcipaddr }.addresses =
      weight hdr.addresses := by
  have total (hdr : IpHdr) : weight hdr.addresses =
      weight (u16Bytes hdr.srcipaddr.1) + weight (u16Bytes hdr.srcipaddr.2) +
        weight (u16Bytes hdr.destipaddr.1) + weight (u16Bytes hdr.destipaddr.2) := by
    rw [IpHdr.addresses, weight_append, weight_append, weight_append]
    rfl
  rw [total, total, Nat.add_assoc, Nat.add_comm, ← Nat.add_assoc]

theorem begins_even {data : List UInt8} (even : data.length % 2 = 0) :
    begins true (data.map UInt8.toNat) = true := by
  rw [begins_eq, List.length_map, even]
  rfl

/-- Two bytes side by side that are not told from two others. -/
def SamePair (first second first' second' : UInt8) : Prop :=
  (first' = first ∧ second' = second) ∨
    (first = 0 ∧ second = 0 ∧ first' = 255 ∧ second' = 255) ∨
    (first = 255 ∧ second = 255 ∧ first' = 0 ∧ second' = 0)

/-- Two bytes side by side count for the same as two others only where they are equal, or where both
pairs stand for 0. -/
theorem weigh_pair (high : Bool) (first second first' second' : UInt8) :
    weigh 256 high [first'.toNat, second'.toNat] ≡ weigh 256 high [first.toNat, second.toNat]
        [MOD 65535] ↔
      SamePair first second first' second' := by
  have h1 := first.toNat_lt
  have h2 := second.toNat_lt
  have h3 := first'.toNat_lt
  have h4 := second'.toNat_lt
  have all : (255 : UInt8).toNat = 255 := rfl
  simp only [SamePair, ← UInt8.toNat_inj, UInt8.toNat_zero, all]
  cases high with
  | true =>
      have value (a b : Nat) : weigh 256 true [a, b] = 256 * a + b := rfl
      rw [value, value, modEq_iff (by omega) (by omega)]
      omega
  | false =>
      have value (a b : Nat) : weigh 256 false [a, b] = a + 256 * b := rfl
      rw [value, value, modEq_iff (by omega) (by omega)]
      omega

/-- No byte counts for the same as another. -/
theorem weigh_byte (high : Bool) (byte byte' : UInt8) :
    weigh 256 high [byte'.toNat] ≡ weigh 256 high [byte.toNat] [MOD 65535] ↔ byte' = byte := by
  have h1 := byte.toNat_lt
  have h2 := byte'.toNat_lt
  rw [← UInt8.toNat_inj]
  cases high with
  | true =>
      have value (a : Nat) : weigh 256 true [a] = 256 * a := rfl
      rw [value, value, modEq_iff (by omega) (by omega)]
      omega
  | false =>
      have value (a : Nat) : weigh 256 false [a] = a := rfl
      rw [value, value, modEq_iff (by omega) (by omega)]
      omega

section Field

variable (sum : UInt16) (before after : List UInt8)

/-- A sum is right exactly if the weights stand for 0. -/
theorem chksumResult_chksum_iff (data : List UInt8) :
    chksumResult (chksum sum data) = 0xffff ↔ sum.toNat + weight data ≡ 0 [MOD 65535] := by
  rw [chksumResult_iff, ← Nat.modEq_zero_iff_dvd]
  exact ⟨(chksum_modEq sum data).symm.trans, (chksum_modEq sum data).trans⟩

/-- **A checksum that is filled in is right**, whatever else there is: the field is set to zero, and
then to what makes up for the rest. -/
theorem chksum_filled (even : before.length % 2 = 0) :
    chksumResult (chksum sum (before ++ (u16Bytes
      (~~~ chksumResult (chksum sum (before ++ (u16Bytes 0 ++ after)))) ++ after))) = 0xffff := by
  have total (field : UInt16) : weight (before ++ (u16Bytes field ++ after)) =
      (htons field).toNat + (weight before + weight after) := by
    rw [weight_append, begins_even even, ← weight_u16Bytes]
    show weight before + weight (u16Bytes field ++ after) = _
    rw [weight_append]
    show weight before + (weight (u16Bytes field) + weight after) = _
    omega
  have zeroed := chksum_modEq sum (before ++ (u16Bytes 0 ++ after))
  have none : (htons 0).toNat = 0 := rfl
  rw [total, none, Nat.zero_add] at zeroed
  rw [chksumResult_chksum_iff, total, Nat.add_left_comm]
  exact (zeroed.symm.add_left _).trans (fill_modEq _)

theorem uipIpchksum_swap (hdr : IpHdr) :
    uipIpchksum { hdr with srcipaddr := hdr.destipaddr, destipaddr := hdr.srcipaddr } = 0xffff ↔
      uipIpchksum hdr = 0xffff := by
  have swapped := weight_swap hdr
  have total (hdr : IpHdr) : weight hdr.bytes = weight ([hdr.vhl, hdr.tos, hdr.len.1, hdr.len.2,
      hdr.ipid.1, hdr.ipid.2, hdr.ipoffset.1, hdr.ipoffset.2, hdr.ttl, hdr.proto] ++
      u16Bytes hdr.ipchksum) + weight hdr.addresses := weight_append _ _
  rw [uipIpchksum, uipIpchksum, chksumResult_chksum_iff, chksumResult_chksum_iff, total, total,
    swapped]

/-- A sum of bytes is 0xffff, and not the 0 that stands for the same, unless all are zeros. -/
theorem chksum_eq_top (data : List UInt8) :
    chksum 0 data = 0xffff ↔ weight data ≡ 0 [MOD 65535] ∧ ¬ ∀ byte ∈ data, byte = 0 := by
  have modEq := chksum_modEq 0 data
  rw [UInt16.toNat_zero, Nat.zero_add] at modEq
  have stands : weight data ≡ 0 [MOD 65535] ↔ chksum 0 data = 0 ∨ chksum 0 data = 0xffff := by
    have numbers := dvd_iff (Nat.le_of_lt_succ (chksum 0 data).toNat_lt)
    have top : (0xffff : UInt16).toNat = 65535 := rfl
    rw [← UInt16.toNat_inj, ← UInt16.toNat_inj, UInt16.toNat_zero, top, ← numbers,
      ← Nat.modEq_zero_iff_dvd]
    exact ⟨modEq.trans, modEq.symm.trans⟩
  have zeros : (∀ byte ∈ data, byte = 0) ↔ chksum 0 data = 0 := by
    rw [chksum_eq_zero, and_iff_right rfl]
  rw [stands, zeros]
  constructor
  · intro found
    rw [found]
    exact ⟨Or.inr rfl, by decide⟩
  · rintro ⟨zero | found, some_⟩
    · exact absurd zero some_
    · exact found

variable {before after}

/-- A change is not found exactly if what is changed counts for the same as before. -/
theorem chksum_changed {changed changed' : List UInt8} (length : changed'.length = changed.length)
    (right : chksumResult (chksum sum (before ++ (changed ++ after))) = 0xffff) :
    chksumResult (chksum sum (before ++ (changed' ++ after))) = 0xffff ↔
      weigh 256 (begins true (before.map UInt8.toNat)) (changed'.map UInt8.toNat) ≡
        weigh 256 (begins true (before.map UInt8.toNat)) (changed.map UInt8.toNat)
        [MOD 65535] := by
  set high := begins true (before.map UInt8.toNat) with high_eq
  have start : begins high (changed'.map UInt8.toNat) = begins high (changed.map UInt8.toNat) := by
    rw [begins_eq, begins_eq, List.length_map, List.length_map, length]
  have total (data : List UInt8) : weight (before ++ (data ++ after)) =
      weigh 256 high (data.map UInt8.toNat) + (weight before +
        weigh 256 (begins high (data.map UInt8.toNat)) (after.map UInt8.toNat)) := by
    rw [weight_append, List.map_append, weigh_append, ← high_eq]
    exact Nat.add_left_comm _ _ _
  rw [chksumResult_chksum_iff, total, Nat.add_left_comm] at right ⊢
  rw [start]
  exact ⟨fun found => Nat.ModEq.add_right_cancel' _ (found.trans right.symm),
    fun same => (same.add_right _).trans right⟩

/-- **Every change of two bytes that stand side by side is found**, at even and at odd places, but
that two zeros become two 0xff, or the other way. -/
theorem chksum_detects {first second first' second' : UInt8}
    (right : chksumResult (chksum sum (before ++ ([first, second] ++ after))) = 0xffff) :
    chksumResult (chksum sum (before ++ ([first', second'] ++ after))) = 0xffff ↔
      SamePair first second first' second' := by
  have length : [first', second'].length = [first, second].length := rfl
  rw [chksum_changed sum length right]
  exact weigh_pair _ _ _ _ _

/-- Every change of a byte is found. -/
theorem chksum_detects_byte {byte byte' : UInt8}
    (right : chksumResult (chksum sum (before ++ ([byte] ++ after))) = 0xffff) :
    chksumResult (chksum sum (before ++ ([byte'] ++ after))) = 0xffff ↔ byte' = byte := by
  have length : [byte'].length = [byte].length := rfl
  rw [chksum_changed sum length right]
  exact weigh_byte _ _ _

end Field

end EquinoxClock.Wifi
