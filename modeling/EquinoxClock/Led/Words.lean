/-
The words of the bit planes.

`calulateLedMibamBits` transposes: it gathers the bytes of `LED_RAW` in three nested loops, of which
the innermost counts an unsigned byte down until it wraps around. `gatherBits_spec` is what that
loop does, and each loop around it has an invariant that says how far it has come;
`calulateLedMibamBits_word` is the result, a word of any register in any plane bit by bit.
-/

import EquinoxClock.Led.Leds
import EquinoxClock.Lib.Loop

namespace EquinoxClock.Led

open EquinoxClock.Lib

/-- One bit of a byte at a position of a word. -/
def placedBit (byte : UInt8) (bit position : Nat) : Nat :=
  (((byte.toNat >>> bit) <<< position) &&& (1 <<< position)) % 2 ^ 16

theorem testBit_placedBit (byte : UInt8) (bit : Nat) {position : Nat} (fits : position < 16)
    (k : Nat) : (placedBit byte bit position).testBit k =
      (decide (k = position) && byte.toNat.testBit bit) := by
  rw [placedBit, Nat.testBit_mod_two_pow, Nat.testBit_and, Nat.testBit_shiftLeft,
    Nat.testBit_shiftRight, Nat.one_shiftLeft, Nat.testBit_two_pow]
  by_cases here : k = position
  · subst here
    simp [fits]
  · simp [here, Ne.symm here]

/-- What the inner loop leaves behind, entered with the counter at `count`. -/
structure Gathered (bit count led bitinreg : Nat) (tt : Nat → Nat) (raw : Traced Int UInt8)
    (result : (Nat → Nat) × Nat × Traced Int UInt8) : Prop where
  placed : ∀ j ≤ count, result.1 (count - j) = placedBit (raw.cells ↑(led + j)) bit (bitinreg + j)
  above : ∀ t, count < t → result.1 t = tt t
  next : result.2.1 = led + (count + 1)
  kept : result.2.2.cells = raw.cells

theorem gatherBits_step {bit led bitinreg : Nat} {t : UInt8} {tt : Nat → Nat}
    {raw : Traced Int UInt8} (below : t.toNat < ledsPReg) :
    gatherBits bit t led bitinreg tt raw =
      gatherBits bit (t - 1) (led + 1) (bitinreg + 1)
        (Function.update tt t.toNat (placedBit (raw.cells led) bit bitinreg)) (raw.read (led : Int)).2 := by
  rw [gatherBits, if_pos below]
  rfl

theorem gatherBits_stop {bit led bitinreg : Nat} {t : UInt8} {tt : Nat → Nat}
    {raw : Traced Int UInt8} (above : ¬ t.toNat < ledsPReg) :
    gatherBits bit t led bitinreg tt raw = (tt, led, raw) := by
  rw [gatherBits, if_neg above]

/-- The inner loop, by induction on its counter. -/
theorem gatherBits_spec (bit : Nat) : ∀ count < ledsPReg, ∀ led bitinreg tt raw,
    Gathered bit count led bitinreg tt raw
      (gatherBits bit (UInt8.ofNat count) led bitinreg tt raw) := by
  intro count
  induction count with
  | zero =>
      intro _ led bitinreg tt raw
      rw [gatherBits_step (by decide), gatherBits_stop (by decide)]
      refine ⟨fun j within => ?_, fun t positive => ?_, rfl, rfl⟩
      · obtain rfl := Nat.le_zero.mp within
        exact Function.update_self (0 : Nat) _ tt
      · exact Function.update_of_ne (Nat.ne_of_gt positive) _ tt
  | succ count ih =>
      intro below led bitinreg tt raw
      have small : count + 1 < 15 := below
      have counter : (UInt8.ofNat (count + 1)).toNat = count + 1 :=
        UInt8.toNat_ofNat_of_lt' (Nat.lt_trans small (by decide))
      have counted : UInt8.ofNat (count + 1) - 1 = UInt8.ofNat count := by
        rw [UInt8.ofNat_add]
        exact UInt8.add_sub_cancel ..
      rw [gatherBits_step (by rw [counter]; exact below), counted, counter]
      have rest := ih (by omega) (led + 1) (bitinreg + 1)
        (Function.update tt (count + 1) (placedBit (raw.cells led) bit bitinreg)) (raw.read (led : Int)).2
      refine ⟨fun j within => ?_, fun t higher => ?_, ?_, ?_⟩
      · cases j with
        | zero =>
            rw [Nat.sub_zero, rest.above _ (Nat.lt_succ_self _), Function.update_self]
            rfl
        | succ j =>
            rw [Nat.add_sub_add_right, rest.placed j (by omega), Traced.read_cells, Nat.add_assoc,
              Nat.add_assoc, Nat.add_comm 1 j]
      · rw [rest.above t (by omega), Function.update_of_ne (by omega)]
      · rw [rest.next]; omega
      · rw [rest.kept, Traced.read_cells]

/-- A bit of the assembled word comes from one of the sixteen parts. -/
theorem testBit_orAll (tt : Nat → Nat) (k : Nat) :
    (orAll tt).testBit k = (List.range 16).any fun t => (tt t).testBit k := by
  simp [orAll, Nat.testBit_or, List.range_succ, Bool.or_assoc]

/-- The word of a register holds one bit of each of its fifteen bytes. -/
def WordOf (cells : Int → UInt8) (bit reg word : Nat) : Prop :=
  ∀ k, word.testBit k =
    (decide (k < ledsPReg) && (cells ↑(ledsPReg * reg + k)).toNat.testBit bit)

theorem wordOf_orAll {cells : Int → UInt8} {bit reg : Nat} {tt : Nat → Nat}
    (placed : ∀ j ≤ 14, tt (14 - j) = placedBit (cells ↑(ledsPReg * reg + j)) bit j)
    (cleared : tt 15 = 0) : WordOf cells bit reg (orAll tt) := by
  intro k
  have part : ∀ t < 15, (tt t).testBit k =
      (decide (k = 14 - t) && (cells ↑(ledsPReg * reg + (14 - t))).toNat.testBit bit) := by
    intro t below
    have here := placed (14 - t) (by omega)
    rw [show 14 - (14 - t) = t by omega] at here
    rw [here, testBit_placedBit _ _ (by omega)]
  rw [testBit_orAll, Bool.eq_iff_iff, List.any_eq_true, Bool.and_eq_true, decide_eq_true_eq]
  constructor
  · rintro ⟨t, below, isSet⟩
    obtain below | rfl : t < 15 ∨ t = 15 := by have := List.mem_range.mp below; omega
    · rw [part t below, Bool.and_eq_true, decide_eq_true_eq] at isSet
      obtain ⟨rfl, isSet⟩ := isSet
      exact ⟨show 14 - t < 15 by omega, isSet⟩
    · rw [cleared, Nat.zero_testBit] at isSet
      cases isSet
  · rintro ⟨below, isSet⟩
    have small : k < 15 := below
    refine ⟨14 - k, List.mem_range.mpr (by omega), ?_⟩
    rw [part _ (by omega), show 14 - (14 - k) = k by omega, decide_eq_true rfl, isSet]
    rfl

/-- The loop over the registers, before the register `index`. -/
structure GatheredRegs (cells : Int → UInt8) (before : Nat × Nat × Nat → Nat) (bit index : Nat)
    (gathering : Gathering) : Prop where
  led : gathering.led = ledsPReg * index
  kept : gathering.raw.cells = cells
  words : ∀ reg < index, WordOf cells bit reg (gathering.precalc (reg, bit, 0))
  others : ∀ key, key.2.1 ≠ bit → gathering.precalc key = before key

theorem gatherReg_spec {cells : Int → UInt8} {before : Nat × Nat × Nat → Nat} {bit reg : Nat}
    {gathering : Gathering} (soFar : GatheredRegs cells before bit reg gathering) :
    GatheredRegs cells before bit (reg + 1) (gatherReg bit reg gathering) := by
  have gathered := gatherBits_spec bit 14 (by decide) gathering.led 0 (fun _ => 0) gathering.raw
  have word : WordOf cells bit reg ((gatherReg bit reg gathering).precalc (reg, bit, 0)) := by
    refine Eq.subst (Function.update_self (reg, bit, 0) _ gathering.precalc).symm ?_
    refine wordOf_orAll (fun j within => ?_) (Function.update_self ..)
    rw [Function.update_of_ne (by omega)]
    refine (gathered.placed j within).trans ?_
    rw [soFar.led, soFar.kept, Nat.zero_add]
  refine ⟨?_, gathered.kept.trans soFar.kept, fun other below => ?_, fun key apart => ?_⟩
  · refine gathered.next.trans ?_
    rw [soFar.led, Nat.mul_succ]
    rfl
  · obtain below | rfl : other < reg ∨ other = reg := by omega
    · have apart : (other, bit, 0) ≠ (reg, bit, 0) := fun same => by
        have := congrArg Prod.fst same; simp only at this; omega
      exact Eq.subst (Function.update_of_ne apart _ gathering.precalc).symm (soFar.words other below)
    · exact word
  · have other : key ≠ (reg, bit, 0) := fun same => apart (by rw [same])
    exact (Function.update_of_ne other _ gathering.precalc).trans (soFar.others key apart)

theorem gatherBit_spec (bit : Nat) (gathering : Gathering) :
    GatheredRegs gathering.raw.cells gathering.precalc bit regs (gatherBit bit gathering) :=
  fold_invariant (GatheredRegs gathering.raw.cells gathering.precalc bit) regs
    (fun reg _ gathering => gatherReg bit reg gathering) _
    ⟨rfl, rfl, fun _ below => absurd below (Nat.not_lt_zero _), fun _ _ => rfl⟩
    fun _ _ _ soFar => gatherReg_spec soFar

/-- The loop over the bits, before the bit `index`. -/
structure GatheredBits (cells : Int → UInt8) (index : Nat) (gathering : Gathering) : Prop where
  kept : gathering.raw.cells = cells
  words : ∀ bit < index, ∀ reg < regs, WordOf cells bit reg (gathering.precalc (reg, bit, 0))

theorem gatherAll_spec (gathering : Gathering) :
    GatheredBits gathering.raw.cells bits (gatherAll gathering) := by
  refine fold_invariant (GatheredBits gathering.raw.cells) bits
    (fun bit _ gathering => gatherBit bit gathering) _
    ⟨rfl, fun _ below => absurd below (Nat.not_lt_zero _)⟩ fun bit _ state soFar => ?_
  have plane := gatherBit_spec bit state
  rw [soFar.kept] at plane
  refine ⟨plane.kept, fun other below reg within => ?_⟩
  obtain below | rfl : other < bit ∨ other = bit := by omega
  · rw [plane.others _ (Nat.ne_of_lt below)]
    exact soFar.words other below reg within
  · exact plane.words reg within

/-- Recalculating leaves the bytes. -/
@[simp] theorem calulateLedMibamBits_cells (state : Leds) :
    (calulateLedMibamBits state).ledRaw.cells = state.ledRaw.cells :=
  (gatherAll_spec ⟨0, state.ledPrecalc, state.ledRaw⟩).kept

/-- **The words.** Bit `k` of a register's word in a plane is the plane's bit of the register's
byte `k`; bit 15 and what would lie above it are clear. -/
theorem calulateLedMibamBits_word (state : Leds) {bit reg : Nat} (plane : bit < bits)
    (register : reg < regs) :
    WordOf state.ledRaw.cells bit reg ((calulateLedMibamBits state).ledPrecalc (reg, bit, 0)) :=
  (gatherAll_spec ⟨0, state.ledPrecalc, state.ledRaw⟩).words bit plane reg register

end EquinoxClock.Led
