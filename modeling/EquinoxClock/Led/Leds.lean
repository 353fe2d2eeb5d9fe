/-
The lights: their brightness values, and the words sent to the drivers.

`Leds` holds the variables of the light code. `LED_RAW` has 180 bytes, three for each of the 60
lights; it is written at indices computed by the callers, so it is traced memory. The words of
`LED_PRECALC` are its transpose: `calulateLedMibamBits` gathers, for each of the eight bits, that
bit of fifteen bytes into the word of one driver register.
-/

import EquinoxClock.Led.Hsv
import EquinoxClock.Lib.Traced
import Mathlib.Logic.Function.Basic

namespace EquinoxClock.Led

open EquinoxClock.Lib

/-- `RGBS`: the lights. -/
def rgbs : Nat := 60

/-- `REGS`: the driver registers. -/
def regs : Nat := rgbs / 5

/-- `LEDS`: the bytes of brightness. -/
def leds : Nat := rgbs * 3

/-- `LEDS_P_REG`: the bytes of one driver register. -/
def ledsPReg : Nat := leds / regs

/-- `BITS`: the bits of a brightness value. -/
def bits : Nat := 8

/-- `BUFFERS`. -/
def buffers : Nat := 1

/-- `MAX_BRIGHTNESS`. -/
def maxBrightness : Nat := 0xff

/-- The three variables of a hand's colour, such as `HC_R`, `HC_G` and `HC_B`. -/
structure Colour where
  r : Nat
  g : Nat
  b : Nat
  deriving DecidableEq, Repr

/-- The variables of the light code. `ledPrecalc` is indexed by register, bit and buffer; `pot` is
the value last taken over by the potentiometer; `tim0` and `tim2` say whether these timers run;
`groups` and `hues` list the lights given to `SetRGB` and the rows of `RGB_LOOKUP` read so far, the
latest first. -/
structure Leds where
  ledRaw : Traced Int UInt8
  ledPrecalc : Nat × Nat × Nat → Nat
  ledPattern : UInt8
  prevLedPattern : UInt8
  milliDelay : Nat
  brightness : UInt8
  pot : UInt8
  ledIntOccured : Bool
  ledLoop : Int
  ledLoopV1 : Int
  ledLoopV2 : Int
  ledLoopV3 : Int
  tim0 : Bool
  tim2 : Bool
  hc : Colour
  mc : Colour
  sc : Colour
  bc : Colour
  groups : List Int
  hues : List Nat

/-- The variables as the program starts. -/
def Leds.initial : Leds where
  ledRaw := ⟨fun _ => 0, []⟩
  ledPrecalc _ := 0
  ledPattern := 0
  prevLedPattern := 0
  milliDelay := 121
  brightness := 0
  pot := 0
  ledIntOccured := true
  ledLoop := 0
  ledLoopV1 := 0
  ledLoopV2 := 0
  ledLoopV3 := 0
  tim0 := false
  tim2 := false
  hc := ⟨maxBrightness, 0, 0⟩
  mc := ⟨0, maxBrightness, 0⟩
  sc := ⟨0, 0, maxBrightness⟩
  bc := ⟨0, 0, 0⟩
  groups := []
  hues := []

/-! ### Writing brightness values -/

/-- `SetLED`. -/
def setLed (led v0 : UInt8) (state : Leds) : Leds :=
  { state with ledRaw := state.ledRaw.write led.toNat (v0 &&& 0xff) }

/-- The index `group * 3 + part`, in the 32 bits of a signed number. -/
def rgbIndex (group : Int) (part : Nat) : Int := (group * 3 + part).bmod (2 ^ 32)

/-- The number of a light is too small to run out of the 32 bits. -/
theorem rgbIndex_of_small {group part : Nat} (small : group < 2 ^ 29) (within : part < 3) :
    rgbIndex group part = ↑(group * 3 + part) := by
  rw [rgbIndex, Int.bmod_eq_of_le (by omega) (by omega)]
  omega

/-- The three stores of `SetRGB`. -/
def storeRgb (group : Int) (r g b : UInt8) (raw : Traced Int UInt8) : Traced Int UInt8 :=
  raw |>.write (rgbIndex group 0) (r &&& 0xff)
    |>.write (rgbIndex group 1) (g &&& 0xff)
    |>.write (rgbIndex group 2) (b &&& 0xff)

/-- `SetRGB`. -/
def setRgb (group : Int) (r g b : UInt8) (state : Leds) : Leds :=
  { state with ledRaw := storeRgb group r g b state.ledRaw, groups := group :: state.groups }

/-- The loop of `SetRGBALL`. -/
def storeAll (r g b : UInt8) (raw : Traced Int UInt8) : Traced Int UInt8 :=
  Nat.fold rgbs (fun t _ raw => storeRgb t r g b raw) raw

/-- `SetRGBALL`. -/
def setRgbAll (r g b : UInt8) (state : Leds) : Leds :=
  { state with
    ledRaw := storeAll r g b state.ledRaw
    groups := Nat.fold rgbs (fun t _ groups => (t : Int) :: groups) state.groups }

/-- The loop of `resetLeds`. -/
def clearRaw (raw : Traced Int UInt8) : Traced Int UInt8 :=
  Nat.fold leds (fun a _ raw => raw.write a 0) raw

/-- `resetLeds`. -/
def resetLeds (state : Leds) : Leds := { state with ledRaw := clearRaw state.ledRaw }

section

variable [Board]

/-- `lookup_hsv2rgb` at full brightness, with the row noted. -/
def lookupHue (hue : Nat) (state : Leds) : (UInt8 × UInt8 × UInt8) × Leds :=
  (lookupHsv2rgb hue maxBrightness, { state with hues := hue :: state.hues })

/-- `SetHue`: the light becomes a signed number in the call of `SetRGB`. -/
def setHue (led hue : Nat) (state : Leds) : Leds :=
  let ((red, green, blue), state) := lookupHue hue state
  setRgb ((led : Int).bmod (2 ^ 32)) red green blue state

theorem setHue_eq (led hue : Nat) (state : Leds) : setHue led hue state =
    { state with
      ledRaw := storeRgb ((led : Int).bmod (2 ^ 32)) (lookupHsv2rgb hue maxBrightness).1
        (lookupHsv2rgb hue maxBrightness).2.1 (lookupHsv2rgb hue maxBrightness).2.2 state.ledRaw
      groups := (led : Int).bmod (2 ^ 32) :: state.groups
      hues := hue :: state.hues } := rfl

end

/-! ### Gathering the words -/

/-- `for (uint8_t t = 14; t < LEDS_P_REG; t--, led++)`, from some `t` on: below zero the counter
wraps around, and that ends the loop. The result is the array `tt`, the next `led` and the memory. -/
def gatherBits (bit : Nat) (t : UInt8) (led bitinreg : Nat) (tt : Nat → Nat)
    (raw : Traced Int UInt8) : (Nat → Nat) × Nat × Traced Int UInt8 :=
  if t.toNat < ledsPReg then
    let (byte, raw) := raw.read (led : Int)
    let l := byte.toNat >>> bit
    let tt := Function.update tt t.toNat (((l <<< bitinreg) &&& (1 <<< bitinreg)) % 2 ^ 16)
    gatherBits bit (t - 1) (led + 1) (bitinreg + 1) tt raw
  else (tt, led, raw)
  termination_by (t + 1).toNat
  decreasing_by
    have small : t.toNat < 15 := by assumption
    rw [UInt8.sub_add_cancel, UInt8.toNat_add, UInt8.toNat_one]
    omega

/-- The `or` of `tt[0]` to `tt[15]`. -/
def orAll (tt : Nat → Nat) : Nat :=
  tt 0 ||| tt 1 ||| tt 2 ||| tt 3 ||| tt 4 ||| tt 5 ||| tt 6 ||| tt 7 ||| tt 8 ||| tt 9 ||| tt 10 |||
    tt 11 ||| tt 12 ||| tt 13 ||| tt 14 ||| tt 15

/-- What the loops over bits and registers carry: the next byte, the words and the bytes. -/
structure Gathering where
  led : Nat
  precalc : Nat × Nat × Nat → Nat
  raw : Traced Int UInt8

/-- The body of the loop over the registers. Every cell of `tt` is written before it is read. -/
def gatherReg (bit reg : Nat) (gathering : Gathering) : Gathering :=
  let gathered := gatherBits bit 14 gathering.led 0 (fun _ => 0) gathering.raw
  let tt := Function.update gathered.1 15 0
  { led := gathered.2.1
    precalc := Function.update gathering.precalc (reg, bit, 0) (orAll tt)
    raw := gathered.2.2 }

/-- The body of the loop over the bits. -/
def gatherBit (bit : Nat) (gathering : Gathering) : Gathering :=
  Nat.fold regs (fun reg _ gathering => gatherReg bit reg gathering) { gathering with led := 0 }

/-- The loop over the bits. -/
def gatherAll (gathering : Gathering) : Gathering :=
  Nat.fold bits (fun bit _ gathering => gatherBit bit gathering) gathering

/-- `calulateLEDMIBAMBits`. -/
def calulateLedMibamBits (state : Leds) : Leds :=
  let gathered := gatherAll ⟨0, state.ledPrecalc, state.ledRaw⟩
  { state with ledRaw := gathered.raw, ledPrecalc := gathered.precalc }

end EquinoxClock.Led
