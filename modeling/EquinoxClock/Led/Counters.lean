/-
The counters of the patterns, and what they are used to address.

The patterns share `LED_Loop` and two more counters, which `setLedPattern` clears; a pattern's step
uses them as indices of `LED_RAW` and as rows of `RGB_LOOKUP`. `Counted` runs the light code next to
the number of steps taken since the pattern was selected or brought back. The rainbows wrap around
in time. The patterns that go from byte to byte do so one byte late: `tables_kept_iff` says that a
run without `LED_time` stays inside the tables exactly if none of them comes to the end of its first
turn.
-/

import EquinoxClock.Led.PausePlay
import EquinoxClock.Led.Words
import Mathlib.Tactic.IntervalCases

namespace EquinoxClock.Led

open EquinoxClock.Lib EquinoxClock.Rtc

/-- The index of a byte of `LED_RAW`. -/
def InBytes (index : Int) : Prop := 0 ≤ index ∧ index < leds

/-- Only bytes of `LED_RAW` have been touched, only the 60 lights given to `SetRGB`, and only rows
of `RGB_LOOKUP` read. -/
structure InTables (state : Leds) : Prop where
  bytes : state.ledRaw.Within InBytes
  groups : ∀ group ∈ state.groups, 0 ≤ group ∧ group < rgbs
  hues : ∀ hue ∈ state.hues, hue < rgbLookup.length

/-! ### Gathering the words stays inside -/

theorem within_gatherBits {good : Int → Prop} (bit : Nat) : ∀ count < ledsPReg,
    ∀ led bitinreg tt raw, (∀ j ≤ count, good ↑(led + j)) →
      (Traced.Within good (gatherBits bit (UInt8.ofNat count) led bitinreg tt raw).2.2 ↔
        Traced.Within good raw) := by
  intro count
  induction count with
  | zero =>
      intro _ led bitinreg tt raw inside
      rw [gatherBits_step (by decide), gatherBits_stop (by decide)]
      exact (Traced.within_read ..).trans (and_iff_right (inside 0 (Nat.le_refl 0)))
  | succ count ih =>
      intro below led bitinreg tt raw inside
      have small : count + 1 < 15 := below
      have counter : (UInt8.ofNat (count + 1)).toNat = count + 1 :=
        UInt8.toNat_ofNat_of_lt' (Nat.lt_trans small (by decide))
      have counted : UInt8.ofNat (count + 1) - 1 = UInt8.ofNat count := by
        rw [UInt8.ofNat_add]
        exact UInt8.add_sub_cancel ..
      rw [gatherBits_step (by rw [counter]; exact below), counted, counter]
      refine (ih (by omega) _ _ _ _ fun j within => ?_).trans
        ((Traced.within_read ..).trans (and_iff_right (inside 0 (by omega))))
      rw [Nat.add_assoc, Nat.add_comm 1 j]
      exact inside (j + 1) (by omega)

/-- The registers' bytes are all in the array. -/
theorem inBytes_of_reg {reg j : Nat} (register : reg < regs) (within : j ≤ 14) :
    InBytes ↑(ledsPReg * reg + j) := by
  have below : reg < 12 := register
  refine ⟨Int.natCast_nonneg _, Int.ofNat_lt.mpr ?_⟩
  show 15 * reg + j < 180
  omega

theorem within_gatherBit (bit : Nat) (gathering : Gathering) :
    (gatherBit bit gathering).raw.Within InBytes ↔ gathering.raw.Within InBytes := by
  let soFar := fun reg state => GatheredRegs gathering.raw.cells gathering.precalc bit reg state ∧
    (state.raw.Within InBytes ↔ gathering.raw.Within InBytes)
  refine (fold_invariant soFar regs (fun reg _ state => gatherReg bit reg state)
    { gathering with led := 0 }
    ⟨⟨rfl, rfl, fun _ below => absurd below (Nat.not_lt_zero _), fun _ _ => rfl⟩, Iff.rfl⟩
    fun reg register state gathered => ⟨gatherReg_spec gathered.1, ?_⟩).2
  refine (within_gatherBits bit 14 (by decide) state.led 0 (fun _ => 0) state.raw
    fun j within => ?_).trans gathered.2
  rw [gathered.1.led]
  exact inBytes_of_reg register within

theorem within_gatherAll (gathering : Gathering) :
    (gatherAll gathering).raw.Within InBytes ↔ gathering.raw.Within InBytes :=
  fold_invariant (fun _ state => state.raw.Within InBytes ↔ gathering.raw.Within InBytes) bits
    (fun bit _ state => gatherBit bit state) gathering Iff.rfl
    fun bit _ state same => (within_gatherBit bit state).trans same

@[simp] theorem inTables_calulate (state : Leds) :
    InTables (calulateLedMibamBits state) ↔ InTables state := by
  have same := within_gatherAll ⟨0, state.ledPrecalc, state.ledRaw⟩
  exact ⟨fun kept => ⟨same.mp kept.bytes, kept.groups, kept.hues⟩,
    fun kept => ⟨same.mpr kept.bytes, kept.groups, kept.hues⟩⟩

theorem ledLoop_calulate (state : Leds) :
    (calulateLedMibamBits state).ledLoop = state.ledLoop := rfl

/-! ### What each access adds -/

@[simp] theorem inTables_setLed (led v0 : UInt8) (state : Leds) :
    InTables (setLed led v0 state) ↔ led.toNat < leds ∧ InTables state := by
  have bytes : (setLed led v0 state).ledRaw.Within InBytes ↔
      InBytes led.toNat ∧ state.ledRaw.Within InBytes := Traced.within_write ..
  constructor
  · intro kept
    obtain ⟨here, before⟩ := bytes.mp kept.bytes
    exact ⟨Int.ofNat_lt.mp here.2, before, kept.groups, kept.hues⟩
  · rintro ⟨here, before⟩
    exact ⟨bytes.mpr ⟨⟨Int.natCast_nonneg _, Int.ofNat_lt.mpr here⟩, before.bytes⟩, before.groups,
      before.hues⟩

theorem within_clearRaw (raw : Traced Int UInt8) :
    (clearRaw raw).Within InBytes ↔ raw.Within InBytes := by
  refine fold_invariant (fun _ (raw' : Traced Int UInt8) => raw'.Within InBytes ↔ raw.Within InBytes)
    leds _ raw Iff.rfl fun a below raw' same => ?_
  refine (Traced.within_write ..).trans ((and_iff_right ?_).trans same)
  exact ⟨Int.natCast_nonneg _, Int.ofNat_lt.mpr below⟩

@[simp] theorem inTables_resetLeds (state : Leds) :
    InTables (resetLeds state) ↔ InTables state :=
  ⟨fun kept => ⟨(within_clearRaw _).mp kept.bytes, kept.groups, kept.hues⟩,
    fun kept => ⟨(within_clearRaw _).mpr kept.bytes, kept.groups, kept.hues⟩⟩

/-- The three stores touch the light's bytes. -/
theorem within_stores (group : Int) (r g b : UInt8) (raw : Traced Int UInt8) :
    (storeRgb group r g b raw).Within InBytes ↔
      (∀ part < 3, InBytes (rgbIndex group part)) ∧ raw.Within InBytes := by
  rw [storeRgb, Traced.within_write, Traced.within_write, Traced.within_write]
  constructor
  · rintro ⟨blue, green, red, before⟩
    refine ⟨fun part within => ?_, before⟩
    interval_cases part <;> assumption
  · rintro ⟨inside, before⟩
    exact ⟨inside 2 (by decide), inside 1 (by decide), inside 0 (by decide), before⟩

/-- The three bytes of a light are in the array. -/
theorem within_storeRgb {group : Nat} (light : group < rgbs) (r g b : UInt8)
    (raw : Traced Int UInt8) :
    (storeRgb group r g b raw).Within InBytes ↔ raw.Within InBytes := by
  have below : group < 60 := light
  refine (within_stores group r g b raw).trans (and_iff_right fun part within => ?_)
  rw [rgbIndex_of_small (by omega) within]
  exact ⟨Int.natCast_nonneg _, Int.ofNat_lt.mpr (show group * 3 + part < 180 by omega)⟩

theorem inTables_setRgb {group : Nat} (light : group < rgbs) (r g b : UInt8) (state : Leds) :
    InTables (setRgb group r g b state) ↔ InTables state := by
  have bytes := within_storeRgb light r g b state.ledRaw
  constructor
  · intro kept
    exact ⟨bytes.mp kept.bytes, (List.forall_mem_cons.mp kept.groups).2, kept.hues⟩
  · intro before
    exact ⟨bytes.mpr before.bytes, List.forall_mem_cons.mpr
      ⟨⟨Int.natCast_nonneg _, Int.ofNat_lt.mpr light⟩, before.groups⟩, before.hues⟩

/-- `SetRGBALL` is `SetRGB` for one light after the other. -/
theorem setRgbAll_eq (r g b : UInt8) (state : Leds) : setRgbAll r g b state =
    Nat.fold rgbs (fun t _ state => setRgb t r g b state) state := by
  have count : ∀ count, Nat.fold count (fun t _ state => setRgb t r g b state) state =
      { state with
        ledRaw := Nat.fold count (fun t _ raw => storeRgb t r g b raw) state.ledRaw
        groups := Nat.fold count (fun t _ groups => (t : Int) :: groups) state.groups } := by
    intro count
    induction count with
    | zero => rfl
    | succ count ih =>
        rw [Nat.fold_succ, ih]
        rfl
  exact (count rgbs).symm

theorem inTables_setRgbAll (r g b : UInt8) (state : Leds) :
    InTables (setRgbAll r g b state) ↔ InTables state := by
  rw [setRgbAll_eq]
  exact fold_invariant (fun _ state' => InTables state' ↔ InTables state) rgbs _ state Iff.rfl
    fun t light state' same => (inTables_setRgb light r g b state').trans same

/-- The tables do not depend on the counters. -/
theorem InTables.congr {state : Leds} (other : Leds) (bytes : state.ledRaw = other.ledRaw)
    (groups : state.groups = other.groups) (hues : state.hues = other.hues) :
    InTables state ↔ InTables other := by
  constructor
  · rintro ⟨bytes', groups', hues'⟩
    exact ⟨bytes ▸ bytes', groups ▸ groups', hues ▸ hues'⟩
  · rintro ⟨bytes', groups', hues'⟩
    exact ⟨bytes ▸ bytes', groups ▸ groups', hues ▸ hues'⟩

theorem rgbLookup_length : rgbLookup.length = 360 := by decide +kernel

/-! ### A step of each pattern -/

/-- A counter that wraps around. -/
theorem ledLoop_ite (wraps : Prop) [Decidable wraps] (state : Leds) (ledLoop ledLoop' : Int) :
    (if wraps then { state with ledLoop } else { state with ledLoop := ledLoop' }) =
      { state with ledLoop := if wraps then ledLoop else ledLoop' } := by
  split <;> rfl

/-- A counter that wraps around at 360 stays below. -/
theorem turn_next {ledLoop : Int} (shift : 0 ≤ ledLoop) (turn : ledLoop < 360) :
    0 ≤ (if ledLoop + 1 = 360 then 0 else ledLoop + 1) ∧
      (if ledLoop + 1 = 360 then 0 else ledLoop + 1) < 360 := by
  split <;> omega

/-- The step of `LED_one_by_one`. -/
theorem ledOneByOne_spec (state : Leds) :
    (InTables (ledOneByOne state) ↔
      (UInt8.ofInt state.ledLoop).toNat < leds ∧ InTables state) ∧
    (ledOneByOne state).ledLoop = if state.ledLoop + 1 > leds then 0 else state.ledLoop + 1 := by
  have loop : (calulateLedMibamBits (setLed (UInt8.ofInt state.ledLoop) 0xff state)).ledLoop =
      state.ledLoop := ledLoop_calulate _
  rw [ledOneByOne]
  dsimp only
  -- The calculation is kept out of the terms compared below, which would unfold it.
  generalize isLit : calulateLedMibamBits (setLed (UInt8.ofInt state.ledLoop) 0xff state) = lit
    at loop ⊢
  have kept : InTables (setLed (UInt8.ofInt lit.ledLoop) 0 lit) ↔
      (UInt8.ofInt state.ledLoop).toNat < leds ∧ InTables state := by
    rw [inTables_setLed, ← isLit, inTables_calulate, inTables_setLed, isLit, loop, and_self_left]
  rw [ledLoop_ite]
  refine ⟨Iff.trans (InTables.congr (setLed (UInt8.ofInt lit.ledLoop) 0 lit) rfl rfl rfl) kept, ?_⟩
  show (if lit.ledLoop + 1 > (leds : Int) then 0 else lit.ledLoop + 1) = _
  rw [loop]

/-- The lights after a step of `LED_one_by_one_smooth_all_on_all_off` before its first turn is over:
the next brightness, or the next light. -/
def smoothNext (colour : Nat) (state : Leds) : Leds :=
  let lit := calulateLedMibamBits (setLed (UInt8.ofInt (state.ledLoop + colour))
    (UInt8.ofInt state.ledLoopV2) state)
  if state.ledLoopV2 + 1 > maxBrightness then
    { lit with ledLoopV2 := 0, ledLoop := state.ledLoop + 3 }
  else { lit with ledLoopV2 := state.ledLoopV2 + 1 }

theorem smoothNext_spec (colour : Nat) (state : Leds) :
    (InTables (smoothNext colour state) ↔
      (UInt8.ofInt (state.ledLoop + colour)).toNat < leds ∧ InTables state) ∧
    (smoothNext colour state).ledLoopV1 = state.ledLoopV1 ∧
    (smoothNext colour state).ledLoopV2 =
      (if state.ledLoopV2 + 1 > maxBrightness then 0 else state.ledLoopV2 + 1) ∧
    (smoothNext colour state).ledLoop =
      if state.ledLoopV2 + 1 > maxBrightness then state.ledLoop + 3 else state.ledLoop := by
  let lit := calulateLedMibamBits (setLed (UInt8.ofInt (state.ledLoop + colour))
    (UInt8.ofInt state.ledLoopV2) state)
  have kept : InTables lit ↔
      (UInt8.ofInt (state.ledLoop + colour)).toNat < leds ∧ InTables state := by
    rw [inTables_calulate, inTables_setLed]
  rw [smoothNext]
  by_cases full : state.ledLoopV2 + 1 > maxBrightness
  · rw [if_pos full, if_pos full, if_pos full]
    exact ⟨Iff.trans (InTables.congr lit rfl rfl rfl) kept, rfl, rfl, rfl⟩
  · rw [if_neg full, if_neg full, if_neg full]
    exact ⟨Iff.trans (InTables.congr lit rfl rfl rfl) kept, rfl, rfl, rfl⟩

theorem ledOneByOneSmooth_eq (colour : Nat) {state : Leds} (third : state.ledLoop % 3 = 0)
    (brighter : state.ledLoopV1 = 0) (within : (smoothNext colour state).ledLoop ≤ leds) :
    ledOneByOneSmooth colour state = smoothNext colour state := by
  have lit : getBrighter colour state = smoothNext colour state := by
    rw [getBrighter, if_pos ⟨third, brighter⟩]
    exact if_neg (Int.not_lt.mpr within)
  rw [ledOneByOneSmooth, lit, getDuller, if_neg]
  rintro ⟨-, turned⟩
  rw [(smoothNext_spec colour state).2.1, brighter] at turned
  exact absurd turned (by decide)

section

variable [Board]

theorem inTables_lookupHue (hue : Nat) (state : Leds) :
    InTables (lookupHue hue state).2 ↔ hue < rgbLookup.length ∧ InTables state := by
  constructor
  · intro kept
    obtain ⟨here, before⟩ := List.forall_mem_cons.mp kept.hues
    exact ⟨here, kept.bytes, kept.groups, before⟩
  · rintro ⟨here, before⟩
    exact ⟨before.bytes, before.groups, List.forall_mem_cons.mpr ⟨here, before.hues⟩⟩

/-- With a colour shift that is not negative, every light has a hue of the table. -/
theorem paintRainbow_spec (state : Leds) (shift : 0 ≤ state.ledLoop) :
    (paintRainbow state).ledLoop = state.ledLoop ∧
      (InTables (paintRainbow state) ↔ InTables state) := by
  rw [paintRainbow]
  refine fold_invariant (fun _ state' => state'.ledLoop = state.ledLoop ∧
    (InTables state' ↔ InTables state)) rgbs _ state ⟨rfl, Iff.rfl⟩
    fun led light state' same => ?_
  refine ⟨same.1, ?_⟩
  refine (inTables_setRgb light _ _ _ _).trans
    ((inTables_lookupHue _ state').trans ((and_iff_right ?_).trans same.2))
  have place : 0 ≤ (↑(led * 360 / (rgbs - 1)) : Int) := Int.natCast_nonneg _
  have turn := Int.tmod_lt_of_pos (↑(led * 360 / (rgbs - 1)) + state.ledLoop)
    (show (0 : Int) < 360 by decide)
  have positive := Int.tmod_nonneg (360 : Int)
    (show 0 ≤ ↑(led * 360 / (rgbs - 1)) + state.ledLoop from Int.add_nonneg place shift)
  rw [same.1, rgbLookup_length]
  omega

/-- The step of `LED_rotating_rainbow`. -/
theorem ledRotatingRainbow_spec {state : Leds} (shift : 0 ≤ state.ledLoop)
    (turn : state.ledLoop < 360) :
    (InTables (ledRotatingRainbow state) ↔ InTables state) ∧
      0 ≤ (ledRotatingRainbow state).ledLoop ∧ (ledRotatingRainbow state).ledLoop < 360 := by
  let shifted :=
    { state with ledLoop := if state.ledLoop + 1 = 360 then 0 else state.ledLoop + 1 }
  have step : ledRotatingRainbow state = calulateLedMibamBits (paintRainbow shifted) := by
    rw [ledRotatingRainbow]
    exact congrArg (fun state => calulateLedMibamBits (paintRainbow state))
      (ledLoop_ite (state.ledLoop + 1 = 360) state 0 (state.ledLoop + 1))
  have range := turn_next shift turn
  obtain ⟨kept, painted⟩ := paintRainbow_spec shifted range.1
  rw [step, inTables_calulate, painted]
  refine ⟨InTables.congr state rfl rfl rfl, ?_⟩
  rw [ledLoop_calulate, kept]
  exact range

/-- The step of `LED_rainbow_all`. -/
theorem ledRainbowAll_spec {state : Leds} (shift : 0 ≤ state.ledLoop)
    (turn : state.ledLoop < 360) :
    (InTables (ledRainbowAll state) ↔ InTables state) ∧
      0 ≤ (ledRainbowAll state).ledLoop ∧ (ledRainbowAll state).ledLoop < 360 := by
  let colour := lookupHue (state.ledLoop % 2 ^ 32).toNat state
  let lit := calulateLedMibamBits (setRgbAll colour.1.1 colour.1.2.1 colour.1.2.2 colour.2)
  have step : ledRainbowAll state =
      { lit with ledLoop := if state.ledLoop + 1 = 360 then 0 else state.ledLoop + 1 } := by
    rw [← ledLoop_ite]
    rfl
  have kept : InTables lit ↔ InTables state := by
    rw [inTables_calulate, inTables_setRgbAll, inTables_lookupHue]
    refine and_iff_right ?_
    rw [rgbLookup_length]
    omega
  rw [step]
  exact ⟨Iff.trans (InTables.congr lit rfl rfl rfl) kept, turn_next shift turn⟩

end

/-! ### Counting the steps -/

/-- The counters of a pattern that has just been selected. -/
def Fresh (state : Leds) : Prop :=
  state.ledLoop = 0 ∧ state.ledLoopV1 = 0 ∧ state.ledLoopV2 = 0

/-- The counters of the pattern `no` after some steps of its first turn. -/
def Counters (no : UInt8) (state : Leds) (steps : Nat) : Prop :=
  if no = ledpOneByOne then state.ledLoop = steps ∧ steps ≤ leds
  else if Smooth no then
    state.ledLoop = ↑(3 * (steps / 256)) ∧ state.ledLoopV1 = 0 ∧
      state.ledLoopV2 = ↑(steps % 256) ∧ steps ≤ rgbs * 256
  else if no = ledpRotatingRainbow ∨ no = ledpRainbowAll then
    0 ≤ state.ledLoop ∧ state.ledLoop < 360
  else if Pausing no then Fresh state
  else True

/-- The steps of the first turn of a pattern that goes from byte to byte: one for each of the 180
bytes, or one for each brightness of each of the 60 lights. -/
def FirstTurn (no : UInt8) (steps : Nat) : Prop :=
  (no = ledpOneByOne → steps < leds) ∧ (Smooth no → steps < rgbs * 256)

theorem counters_smooth {no : UInt8} (smooth : Smooth no) (state : Leds) (steps : Nat) :
    Counters no state steps ↔ state.ledLoop = ↑(3 * (steps / 256)) ∧ state.ledLoopV1 = 0 ∧
      state.ledLoopV2 = ↑(steps % 256) ∧ steps ≤ rgbs * 256 := by
  obtain rfl | rfl | rfl := smooth <;> exact Iff.rfl

theorem counters_fresh (no : UInt8) {state : Leds} (fresh : Fresh state) :
    Counters no state 0 := by
  obtain ⟨loop, v1, v2⟩ := fresh
  rw [Counters]
  split_ifs
  · exact ⟨loop, Nat.zero_le _⟩
  · exact ⟨loop, v1, v2, Nat.zero_le _⟩
  · rw [loop]; decide
  · exact ⟨loop, v1, v2⟩

/-- What a step of the selected pattern is to do: it stays inside the tables in the first turn, and
only then, and the counters go on. -/
def Counts (no : UInt8) (steps : Nat) (next : Leds) : Prop :=
  (InTables next ↔ FirstTurn no steps) ∧
    (FirstTurn no steps →
      Counters next.ledPattern next (if Pausing no then 0 else steps + 1))

section

variable {state : Leds} {steps : Nat}

theorem ledPattern_of_numbers {next : Leds} (same : numbers next = numbers state) :
    next.ledPattern = state.ledPattern := congrArg Prod.fst same

theorem leds_eq : leds = 180 := rfl

theorem maxBrightness_eq : maxBrightness = 255 := rfl

theorem counts_oneByOne (tables : InTables state) (selected : state.ledPattern = ledpOneByOne)
    (counters : Counters ledpOneByOne state steps) :
    Counts ledpOneByOne steps (ledOneByOne state) := by
  obtain ⟨loop, within⟩ : state.ledLoop = steps ∧ steps ≤ leds := counters
  rw [leds_eq] at within
  obtain ⟨kept, next⟩ := ledOneByOne_spec state
  have pattern : (ledOneByOne state).ledPattern = ledpOneByOne :=
    (ledPattern_of_numbers (numbers_ledOneByOne state)).trans selected
  have byte : (UInt8.ofInt state.ledLoop).toNat = steps := by
    rw [loop, UInt8.ofInt, UInt8.toNat_ofNat']
    omega
  have turn : FirstTurn ledpOneByOne steps ↔ steps < leds :=
    ⟨fun turn => turn.1 rfl, fun below => ⟨fun _ => below, fun smooth => absurd smooth (by decide)⟩⟩
  refine ⟨?_, fun first => ?_⟩
  · rw [kept, byte, turn, and_iff_left tables]
  · have below : steps < leds := turn.mp first
    rw [pattern, if_neg (by decide)]
    refine ⟨?_, below⟩
    rw [next, loop, if_neg (by omega)]
    rfl

theorem counts_smooth {no : UInt8} (tables : InTables state) (selected : state.ledPattern = no)
    (smooth : Smooth no) (counters : Counters no state steps) {colour : Nat} (small : colour < 3) :
    Counts no steps (ledOneByOneSmooth colour state) := by
  obtain ⟨loop, v1, v2, within⟩ := (counters_smooth smooth ..).mp counters
  have lights : rgbs = 60 := rfl
  rw [lights] at within
  obtain ⟨kept, nextV1, nextV2, nextLoop⟩ := smoothNext_spec colour state
  rw [loop, v2, maxBrightness_eq] at nextLoop
  rw [v2, maxBrightness_eq] at nextV2
  have step : ledOneByOneSmooth colour state = smoothNext colour state := by
    refine ledOneByOneSmooth_eq colour (by omega) v1 ?_
    rw [nextLoop, leds_eq]
    split <;> omega
  have pattern : (smoothNext colour state).ledPattern = no := by
    rw [← step]
    exact (ledPattern_of_numbers (numbers_ledOneByOneSmooth state colour)).trans selected
  have byte : (UInt8.ofInt (state.ledLoop + colour)).toNat = 3 * (steps / 256) + colour := by
    rw [loop, UInt8.ofInt, UInt8.toNat_ofNat']
    omega
  have turn : FirstTurn no steps ↔ steps < rgbs * 256 := by
    refine ⟨fun turn => turn.2 smooth, fun below => ⟨fun other => ?_, fun _ => below⟩⟩
    exact absurd (other ▸ smooth) (by decide)
  have running : ¬ Pausing no := by
    obtain rfl | rfl | rfl := smooth <;> decide
  rw [step]
  refine ⟨?_, fun first => ?_⟩
  · rw [kept, byte, turn, and_iff_left tables, lights, leds_eq]
    omega
  · have below := turn.mp first
    rw [pattern, if_neg running, counters_smooth smooth]
    refine ⟨?_, nextV1.trans v1, ?_, below⟩
    · rw [nextLoop]
      split <;> omega
    · rw [nextV2]
      split <;> omega

/-- The other patterns have no turns. -/
theorem firstTurn_of {no : UInt8} (notOneByOne : no ≠ ledpOneByOne) (notSmooth : ¬ Smooth no) :
    FirstTurn no steps :=
  ⟨fun oneByOne => absurd oneByOne notOneByOne, fun smooth => absurd smooth notSmooth⟩

/-- The rainbows stay inside the tables, whatever their counter. -/
theorem counts_rainbow {no : UInt8} {next : Leds} (rainbow : no = ledpRotatingRainbow ∨
    no = ledpRainbowAll) (pattern : next.ledPattern = no) (kept : InTables next)
    (range : 0 ≤ next.ledLoop ∧ next.ledLoop < 360) : Counts no steps next := by
  refine ⟨iff_of_true kept ?_, fun _ => ?_⟩
  · obtain rfl | rfl := rainbow <;> exact firstTurn_of (by decide) (by decide)
  · rw [pattern]
    obtain rfl | rfl := rainbow <;> exact range

/-- A pattern without counters stays inside the tables. -/
theorem counts_plain {no : UInt8} {next : Leds} (first : FirstTurn no steps)
    (plain : next.ledPattern = ledpOff ∨ next.ledPattern = ledpRaw) (kept : InTables next) :
    Counts no steps next := by
  refine ⟨iff_of_true kept first, fun _ => ?_⟩
  obtain pattern | pattern := plain <;> rw [pattern] <;> trivial

/-- Pause and play bring back a pattern with its counters cleared. -/
theorem counts_pausing {no : UInt8} {next : Leds} (request : Pausing no) (fresh : Fresh next)
    (kept : InTables next) : Counts no steps next := by
  refine ⟨iff_of_true kept ?_, fun _ => ?_⟩
  · obtain rfl | rfl := request <;> exact firstTurn_of (by decide) (by decide)
  · rw [if_pos request]
    exact counters_fresh _ fresh

variable [Board]

/-- The step of any selected pattern but `LED_time`. -/
theorem counts_runPattern (clock : Clock) {no : UInt8} (selected : state.ledPattern = no)
    (tables : InTables state) (counters : Counters no state steps) (timeless : ¬ RunsTime no) :
    Counts no steps (runPattern clock state) := by
  refine runPattern_cases clock state (fun off => ?_) (fun time => ?_) (fun oneByOne => ?_)
    (fun rotating => ?_) (fun once => ?_) (fun smooth colour small => ?_) (fun rainbow => ?_)
    (fun paused => ?_) (fun played => ?_) (fun raw => ?_)
  · have cleared : InTables (ledOff state) := by
      rw [ledOff, inTables_calulate, inTables_resetLeds]
      exact ⟨tables.bytes, tables.groups, tables.hues⟩
    obtain rfl := selected.symm.trans off
    exact counts_plain (firstTurn_of (by decide) (by decide)) (.inl off) cleared
  · exact absurd (selected ▸ time) timeless
  · obtain rfl := selected.symm.trans oneByOne
    exact counts_oneByOne tables oneByOne counters
  · obtain rfl := selected.symm.trans rotating
    obtain ⟨shift, turn⟩ : 0 ≤ state.ledLoop ∧ state.ledLoop < 360 := counters
    obtain ⟨kept, range⟩ := ledRotatingRainbow_spec shift turn
    exact counts_rainbow (.inl rfl)
      ((ledPattern_of_numbers (numbers_ledRotatingRainbow state)).trans rotating) (kept.mpr tables) range
  · obtain rfl := selected.symm.trans once
    exact counts_plain (firstTurn_of (by decide) (by decide)) (.inl rfl)
      ⟨tables.bytes, tables.groups, tables.hues⟩
  · exact counts_smooth tables selected (selected ▸ smooth) counters small
  · obtain rfl := selected.symm.trans rainbow
    obtain ⟨shift, turn⟩ : 0 ≤ state.ledLoop ∧ state.ledLoop < 360 := counters
    obtain ⟨kept, range⟩ := ledRainbowAll_spec shift turn
    exact counts_rainbow (.inr rfl)
      ((ledPattern_of_numbers (numbers_ledRainbowAll state)).trans rainbow) (kept.mpr tables) range
  · obtain rfl := selected.symm.trans paused
    exact counts_pausing (.inl rfl) counters ⟨tables.bytes, tables.groups, tables.hues⟩
  · obtain rfl := selected.symm.trans played
    exact counts_pausing (.inr rfl) counters ⟨tables.bytes, tables.groups, tables.hues⟩
  · obtain rfl := selected.symm.trans raw
    exact counts_plain (firstTurn_of (by decide) (by decide)) (.inr raw) tables

end

/-! ### Runs -/

/-- The lights, with the steps taken since the pattern was selected or brought back. -/
structure Counted where
  leds : Leds
  steps : Nat

/-- The lights after `LED_init`. -/
def countedStart (transferred : Bool) : Counted := ⟨ledInit transferred Leds.initial, 0⟩

/-- A step of the main loop that runs the selected pattern runs no `LED_time`. -/
def Timeless (counted : Counted) : LedEvent → Prop
  | .loop _ => counted.leds.ledIntOccured = true → ¬ RunsTime counted.leds.ledPattern
  | .setPattern .. | .timer2 => True

/-- A step of the main loop that runs the selected pattern is one of its first turn. -/
def InFirstTurn (counted : Counted) : LedEvent → Prop
  | .loop _ => counted.leds.ledIntOccured = true →
      FirstTurn counted.leds.ledPattern counted.steps
  | .setPattern .. | .timer2 => True

/-- Between two events. -/
structure Counting (counted : Counted) : Prop where
  tables : InTables counted.leds
  counters : Counters counted.leds.ledPattern counted.leds counted.steps

theorem inTables_initial : InTables Leds.initial :=
  ⟨fun _ isIn => absurd isIn List.not_mem_nil, fun _ isIn => absurd isIn List.not_mem_nil,
    fun _ isIn => absurd isIn List.not_mem_nil⟩

theorem counting_setLedPattern {state : Leds} (tables : InTables state) (transferred : Bool)
    (no : UInt8) (delay : Nat) (bri : UInt8) :
    Counting ⟨setLedPattern transferred no delay bri state, 0⟩ := by
  obtain ⟨pot, after⟩ := setLedPattern_eq transferred no delay bri state
  rw [after]
  exact ⟨⟨(within_clearRaw _).mpr tables.bytes, tables.groups, tables.hues⟩,
    counters_fresh no ⟨rfl, rfl, rfl⟩⟩

theorem counting_start (transferred : Bool) : Counting (countedStart transferred) := by
  refine counting_setLedPattern ?_ transferred 1 121 65
  have cleared : InTables (calulateLedMibamBits (resetLeds Leds.initial)) := by
    rw [inTables_calulate, inTables_resetLeds]
    exact inTables_initial
  exact ⟨cleared.bytes, cleared.groups, cleared.hues⟩

section

variable [Board]

/-- A step of the lights, with the steps of the pattern counted. -/
def countedStep (counted : Counted) : LedEvent → Counted
  | .setPattern transferred no delay bri =>
      ⟨setLedPattern transferred no delay bri counted.leds, 0⟩
  | .timer2 => { counted with leds := timer2IrqHandler counted.leds }
  | .loop clock =>
      { leds := ledLoop clock counted.leds
        steps :=
          if ¬ counted.leds.ledIntOccured then counted.steps
          else if Pausing counted.leds.ledPattern then 0 else counted.steps + 1 }

/-- One event. -/
theorem counting_step {counted : Counted} (counting : Counting counted) (event : LedEvent)
    (timeless : Timeless counted event) :
    (InTables (countedStep counted event).leds ↔ InFirstTurn counted event) ∧
      (InFirstTurn counted event → Counting (countedStep counted event)) := by
  cases event with
  | setPattern transferred no delay bri =>
      have next := counting_setLedPattern counting.tables transferred no delay bri
      exact ⟨iff_of_true next.tables trivial, fun _ => next⟩
  | timer2 =>
      have tables : InTables (timer2IrqHandler counted.leds) :=
        ⟨counting.tables.bytes, counting.tables.groups, counting.tables.hues⟩
      exact ⟨iff_of_true tables trivial, fun _ => ⟨tables, counting.counters⟩⟩
  | loop clock =>
      by_cases occured : counted.leds.ledIntOccured = true
      · obtain ⟨kept, counts⟩ := counts_runPattern clock rfl counting.tables counting.counters
          (timeless occured)
        have step : countedStep counted (.loop clock) =
            ⟨{ runPattern clock counted.leds with ledIntOccured := false },
              if Pausing counted.leds.ledPattern then 0 else counted.steps + 1⟩ := by
          rw [countedStep, ledLoop, if_pos occured, if_neg (not_not.mpr occured)]
        have turn : InFirstTurn counted (.loop clock) ↔
            FirstTurn counted.leds.ledPattern counted.steps :=
          ⟨fun first => first occured, fun first _ => first⟩
        have tables : InTables (countedStep counted (.loop clock)).leds ↔
            InTables (runPattern clock counted.leds) := by
          rw [step]
          exact InTables.congr _ rfl rfl rfl
        rw [tables, turn]
        refine ⟨kept, fun first => ⟨tables.mpr (kept.mpr first), ?_⟩⟩
        rw [step]
        exact counts first
      · have same : countedStep counted (.loop clock) = counted := by
          rw [countedStep, ledLoop, if_neg occured, if_pos occured]
        rw [same]
        exact ⟨iff_of_true counting.tables fun isTrue => absurd isTrue occured, fun _ => counting⟩

/-- **The tables of the patterns.** In a run from `LED_init` on that never shows the time, every
index, light and hue is in its table exactly if no step of a pattern that goes from byte to byte
comes after its first turn: 180 steps of `LED_one_by_one`, or 15360 of the smooth ones. -/
theorem tables_kept_iff (transferred : Bool) (events : List LedEvent)
    (timeless : Along countedStep Timeless (countedStart transferred) events) :
    Along countedStep (fun counted event => InTables (countedStep counted event).leds)
        (countedStart transferred) events ↔
      Along countedStep InFirstTurn (countedStart transferred) events :=
  along_iff_given (fun _ event counting timeless => (counting_step counting event timeless).1)
    (fun _ event counting timeless => (counting_step counting event timeless).2) events _
    (counting_start transferred) timeless

end

/-- The main loop comes by after each of some ticks of timer 2. -/
def ticks (count : Nat) : List LedEvent :=
  (List.replicate count [.timer2, .loop Clock.cleared]).flatten

section

attribute [local instance] Board.plain

/-- A tick leaves `LED_one_by_one` selected and counts one step. -/
theorem countedStep_tick {counted : Counted} (selected : counted.leds.ledPattern = ledpOneByOne) :
    let next := countedStep (countedStep counted .timer2) (.loop Clock.cleared)
    next.leds.ledPattern = ledpOneByOne ∧ next.steps = counted.steps + 1 := by
  have pattern := (numbers_ledLoop Clock.cleared
    (show (timer2IrqHandler counted.leds).ledIntOccured = true from rfl)).1
  have steps : ¬ Pausing counted.leds.ledPattern := by rw [selected]; decide
  refine ⟨pattern.trans ?_, if_neg steps⟩
  rw [show (timer2IrqHandler counted.leds).ledPattern = ledpOneByOne from selected]
  rfl

theorem timeless_ticks (count : Nat) : ∀ counted : Counted,
    counted.leds.ledPattern = ledpOneByOne → Along countedStep Timeless counted (ticks count) := by
  induction count with
  | zero => exact fun _ _ => trivial
  | succ count ih =>
      intro counted selected
      refine ⟨trivial, fun _ time => ?_, ih _ (countedStep_tick selected).1⟩
      have time' : RunsTime counted.leds.ledPattern := time
      rw [selected] at time'
      exact absurd time' (by decide)

/-- One tick more than there are bytes. -/
theorem ticks_leave (count : Nat) : ∀ counted : Counted, Counting counted →
    counted.leds.ledPattern = ledpOneByOne → counted.steps + count = leds + 1 →
    ¬ Along countedStep (fun counted event => InTables (countedStep counted event).leds) counted
      (ticks count) := by
  induction count with
  | zero =>
      intro counted counting selected late _
      have counters := counting.counters
      rw [selected] at counters
      have within : counted.steps ≤ leds := counters.2
      omega
  | succ count ih =>
      intro counted counting selected late kept
      have ticked : Counting (countedStep counted .timer2) :=
        (counting_step counting .timer2 trivial).2 trivial
      have timeless := (timeless_ticks (count + 1) counted selected).2.1
      obtain ⟨exactly, next⟩ := counting_step ticked (.loop Clock.cleared) timeless
      obtain ⟨pattern, steps⟩ := countedStep_tick selected
      exact ih _ (next (exactly.mp kept.2.1)) pattern (by rw [steps]; omega) kept.2.2

/-- One step of the first byte. -/
theorem tables_kept_one :
    Along countedStep (fun counted event => InTables (countedStep counted event).leds)
      (countedStart true) (.setPattern true 2 0 0 :: ticks 1) := by
  have selected : (setLedPattern true 2 0 0 (countedStart true).leds).ledPattern = 2 :=
    setLedPattern_ledPattern ..
  have timeless := timeless_ticks 1 (countedStep (countedStart true) (.setPattern true 2 0 0))
    selected
  refine (tables_kept_iff true (.setPattern true 2 0 0 :: ticks 1) ⟨trivial, timeless⟩).mpr
    ⟨trivial, trivial, fun _ => ?_, trivial⟩
  exact ⟨fun _ => show 0 < leds by decide,
    fun smooth => absurd (selected ▸ smooth : Smooth 2) (by decide)⟩

/-- **One byte too far.** After 180 steps the next one lights a byte behind the array. -/
theorem tables_left :
    Along countedStep Timeless (countedStart true) (.setPattern true 2 0 0 :: ticks 181) ∧
      ¬ Along countedStep (fun counted event => InTables (countedStep counted event).leds)
        (countedStart true) (.setPattern true 2 0 0 :: ticks 181) := by
  have selected : (setLedPattern true 2 0 0 (countedStart true).leds).ledPattern = 2 :=
    setLedPattern_ledPattern ..
  have counting := counting_setLedPattern (counting_start true).tables true 2 0 0
  exact ⟨⟨trivial, timeless_ticks 181 _ selected⟩,
    fun kept => ticks_leave 181 _ counting selected rfl kept.2⟩

end

end EquinoxClock.Led
