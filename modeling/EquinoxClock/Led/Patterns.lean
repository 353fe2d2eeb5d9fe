/-
The patterns of the lights, and how they are selected.

A pattern is a number. `setLedPattern` selects one and starts it from the beginning; `ledLoop` runs
one step of the selected pattern each time timer 2 has asked for it. Pause and play are patterns too:
their one step puts the previous number back and stops or starts the timer.
-/

import EquinoxClock.Led.Leds
import EquinoxClock.Rtc.Clock

namespace EquinoxClock.Led

open EquinoxClock.Rtc

/-- `LEDP_off`. -/
def ledpOff : UInt8 := 0

/-- `LEDP_time`. -/
def ledpTime : UInt8 := 1

/-- `LEDP_one_by_one`. -/
def ledpOneByOne : UInt8 := 2

/-- `LEDP_rotating_rainbow`. -/
def ledpRotatingRainbow : UInt8 := 3

/-- `LEDP_simple_all_colors`. -/
def ledpSimpleAllColors : UInt8 := 4

/-- `LEDP_one_by_one_smooth_all_on_all_off0`. -/
def ledpOneByOneSmooth0 : UInt8 := 5

/-- `LEDP_one_by_one_smooth_all_on_all_off1`. -/
def ledpOneByOneSmooth1 : UInt8 := 6

/-- `LEDP_one_by_one_smooth_all_on_all_off2`. -/
def ledpOneByOneSmooth2 : UInt8 := 7

/-- `LEDP_rainbow_all`. -/
def ledpRainbowAll : UInt8 := 8

/-- `LEDP_Pause`. -/
def ledpPause : UInt8 := 9

/-- `LEDP_Play`. -/
def ledpPlay : UInt8 := 10

/-- `LEDP_RAW`. -/
def ledpRaw : UInt8 := 99

/-! ### Selecting a pattern -/

/-- `setPot`, with the result of the transfer: the potentiometer takes values from 1 to 127. -/
def setPot (transferred : Bool) (pot : UInt8) (state : Leds) : Bool × Leds :=
  let pot := if pot > 0x7f then 0x7f else pot
  let pot := if pot < 0x01 then 0x01 else pot
  (transferred, if transferred then { state with pot := pot } else state)

/-- `SetBrightness`. -/
def setBrightness (transferred : Bool) (bri : UInt8) (state : Leds) : Bool × Leds :=
  setPot transferred bri { state with brightness := bri }

/-- `GetBrightness`. -/
def getBrightness (state : Leds) : UInt8 := state.brightness

/-- The first branch of `Set_LED_Pattern`. -/
def selectPattern (no : UInt8) (state : Leds) : Leds :=
  if no = 9 ∨ no = 10 then { state with prevLedPattern := state.ledPattern, ledPattern := no }
  else { state with ledPattern := no }

/-- The second branch: a delay of zero leaves the old one. -/
def setDelay (delay : Nat) (state : Leds) : Leds :=
  if delay ≠ 0 then { state with milliDelay := delay } else state

/-- The third branch: a brightness of zero leaves the old one. -/
def changeBrightness (transferred : Bool) (bri : UInt8) (state : Leds) : Leds :=
  if bri ≠ 0 then (setBrightness transferred bri state).2 else state

/-- The end of `Set_LED_Pattern`, which starts the pattern from the beginning. -/
def startPattern (state : Leds) : Leds :=
  { resetLeds state with
    ledLoop := 0
    ledLoopV1 := 0
    ledLoopV2 := 0
    ledLoopV3 := 0
    tim0 := true
    tim2 := true }

/-- `Set_LED_Pattern`, with the result of the transfer to the potentiometer. -/
def setLedPattern (transferred : Bool) (no : UInt8) (delay : Nat) (bri : UInt8) (state : Leds) :
    Leds :=
  startPattern (changeBrightness transferred bri (setDelay delay (selectPattern no state)))

section Select

variable (transferred : Bool) (no : UInt8) (delay : Nat) (bri : UInt8) (state : Leds)

theorem selectPattern_eq : selectPattern no state = { state with
    ledPattern := no
    prevLedPattern := if no = 9 ∨ no = 10 then state.ledPattern else state.prevLedPattern } := by
  rw [selectPattern]
  split <;> rfl

theorem setDelay_eq : setDelay delay state =
    { state with milliDelay := if delay ≠ 0 then delay else state.milliDelay } := by
  rw [setDelay]
  split <;> rfl

theorem changeBrightness_eq : ∃ pot, changeBrightness transferred bri state =
    { state with brightness := if bri ≠ 0 then bri else state.brightness, pot } := by
  rw [changeBrightness]
  by_cases bright : bri ≠ 0
  · rw [if_pos bright, if_pos bright]
    cases transferred
    · exact ⟨state.pot, rfl⟩
    · exact ⟨_, rfl⟩
  · rw [if_neg bright, if_neg bright]
    exact ⟨state.pot, rfl⟩

/-- All that selecting a pattern does. -/
theorem setLedPattern_eq : ∃ pot, setLedPattern transferred no delay bri state =
    { state with
      ledRaw := clearRaw state.ledRaw
      ledPattern := no
      prevLedPattern := if no = 9 ∨ no = 10 then state.ledPattern else state.prevLedPattern
      milliDelay := if delay ≠ 0 then delay else state.milliDelay
      brightness := if bri ≠ 0 then bri else state.brightness
      pot
      ledLoop := 0
      ledLoopV1 := 0
      ledLoopV2 := 0
      ledLoopV3 := 0
      tim0 := true
      tim2 := true } := by
  obtain ⟨pot, bright⟩ := changeBrightness_eq transferred bri (setDelay delay (selectPattern no state))
  refine ⟨pot, ?_⟩
  rw [setLedPattern, bright, setDelay_eq, selectPattern_eq]
  rfl

/-- `Get_LED_Pattern`: the pattern, the delay and the brightness. -/
def getLedPattern (state : Leds) : UInt8 × Nat × UInt8 :=
  (state.ledPattern, state.milliDelay, getBrightness state)

/-- **What is selected is what is set**, but for zeros, which leave the delay and the brightness. -/
theorem getLedPattern_setLedPattern :
    getLedPattern (setLedPattern transferred no delay bri state) =
      (no, if delay ≠ 0 then delay else state.milliDelay,
        if bri ≠ 0 then bri else state.brightness) := by
  obtain ⟨pot, set⟩ := setLedPattern_eq transferred no delay bri state
  rw [set]
  rfl

end Select

/-! ### The patterns -/

/-- `LED_off`. -/
def ledOff (state : Leds) : Leds := calulateLedMibamBits (resetLeds { state with tim0 := false })

/-- `Pause`. -/
def pause (state : Leds) : Leds :=
  { state with ledPattern := state.prevLedPattern, tim2 := false }

/-- `Play`. -/
def play (state : Leds) : Leds := { state with ledPattern := state.prevLedPattern, tim2 := true }

/-- `SetRGB` with a colour, each part of which is cut to a byte. -/
def setColour (group : Int) (colour : Colour) : Leds → Leds :=
  setRgb group (UInt8.ofNat colour.r) (UInt8.ofNat colour.g) (UInt8.ofNat colour.b)

/-- A colour dimmed to some fifths. -/
def Colour.fifths (colour : Colour) (parts : Nat) : Colour :=
  ⟨colour.r / 5 * parts, colour.g / 5 * parts, colour.b / 5 * parts⟩

/-- A light of a hand's tail, some places behind the hand:
`SS<1 ? SetRGB((SS+60)-1, ...) : SetRGB(SS-1, ...)`. -/
def setTail (position back : Nat) (colour : Colour) : Leds → Leds :=
  setColour (if position < back then position + 60 - back else position - back : Nat) colour

/-- A light of the hour's tail: `HH<1 ? SetRGB((HH+12)*5-1, ...) : SetRGB(HH*5-1, ...)`. -/
def setHourTail (hh back : Nat) (colour : Colour) : Leds → Leds :=
  setColour (if hh < 1 then (hh + 12) * 5 - back else hh * 5 - back : Nat) colour

/-- The background of `LED_time`, painted once for each light. -/
def paintBackground (state : Leds) : Leds :=
  Nat.fold rgbs (fun _ _ state => setRgbAll (UInt8.ofNat state.bc.r) (UInt8.ofNat state.bc.g)
    (UInt8.ofNat state.bc.b) state) state

/-- The second hand of `LED_time`, with a tail of four lights. -/
def paintSeconds (ss : Nat) (state : Leds) : Leds :=
  let sc := state.sc
  state |> setColour ss sc
    |> setTail ss 1 (sc.fifths 4)
    |> setTail ss 2 (sc.fifths 3)
    |> setTail ss 3 (sc.fifths 2)
    |> setTail ss 4 (sc.fifths 1)

/-- The minute hand, with a tail of three. -/
def paintMinutes (mm : Nat) (state : Leds) : Leds :=
  let mc := state.mc
  state |> setColour mm mc
    |> setTail mm 1 (mc.fifths 4)
    |> setTail mm 2 (mc.fifths 3)
    |> setTail mm 3 (mc.fifths 2)

/-- The hour hand, with a tail of two. Its head is painted twelve hours on, behind the last light. -/
def paintHours (hh : Nat) (state : Leds) : Leds :=
  let hc := state.hc
  state |> setColour ((hh + 12) * 5 : Nat) hc
    |> setHourTail hh 1 (hc.fifths 4)
    |> setHourTail hh 2 (hc.fifths 3)

/-- `LED_time`, painting the hands of the time the clock shows. -/
def ledTime (clock : Clock) (state : Leds) : Leds :=
  let hh := getHh clock
  let hh := if hh > 11 then hh - 12 else hh
  resetLeds state |> paintBackground
    |> paintSeconds (getSs clock)
    |> paintMinutes (getMm clock)
    |> paintHours hh
    |> calulateLedMibamBits

/-- `LED_one_by_one`. -/
def ledOneByOne (state : Leds) : Leds :=
  let state := setLed (UInt8.ofInt state.ledLoop) 0xff state
  let state := calulateLedMibamBits state
  let state := setLed (UInt8.ofInt state.ledLoop) 0 state
  let state := { state with ledLoop := state.ledLoop + 1 }
  if state.ledLoop > (leds : Int) then { state with ledLoop := 0 } else state

/-- The first half of `LED_one_by_one_smooth_all_on_all_off`: getting brighter. -/
def getBrighter (colour : Nat) (state : Leds) : Leds :=
  if state.ledLoop % 3 = 0 ∧ state.ledLoopV1 = 0 then
    let state := setLed (UInt8.ofInt (state.ledLoop + colour)) (UInt8.ofInt state.ledLoopV2) state
    let state := calulateLedMibamBits state
    let state := { state with ledLoopV2 := state.ledLoopV2 + 1 }
    let state :=
      if state.ledLoopV2 > (maxBrightness : Int) then
        { state with ledLoopV2 := 0, ledLoop := state.ledLoop + 3 }
      else state
    if state.ledLoop > (leds : Int) then
      { state with ledLoopV1 := 1, ledLoopV2 := maxBrightness, ledLoop := 0 }
    else state
  else state

/-- The second half: getting duller. -/
def getDuller (colour : Nat) (state : Leds) : Leds :=
  if state.ledLoop % 3 = 0 ∧ state.ledLoopV1 = 1 then
    let state := setLed (UInt8.ofInt (state.ledLoop + colour)) (UInt8.ofInt state.ledLoopV2) state
    let state := calulateLedMibamBits state
    let state := { state with ledLoopV2 := state.ledLoopV2 - 1 }
    let state :=
      if state.ledLoopV2 < 0 then
        { state with ledLoopV2 := maxBrightness, ledLoop := state.ledLoop + 3 }
      else state
    if state.ledLoop > (leds : Int) then
      { state with ledLoop := 0, ledLoopV1 := 0, ledLoopV2 := 0, ledLoopV3 := 0 }
    else state
  else state

/-- `LED_one_by_one_smooth_all_on_all_off`. -/
def ledOneByOneSmooth (colour : Nat) (state : Leds) : Leds :=
  getDuller colour (getBrighter colour state)

/-- `LED_simple_all_colors`: it writes test words straight to the drivers, and ends as `LEDP_off`. -/
def ledSimpleAllColors (state : Leds) : Leds := { state with tim0 := true, ledPattern := ledpOff }

section

variable [Board]

/-- The loop over the lights in `LED_rotating_rainbow`. -/
def paintRainbow (state : Leds) : Leds :=
  Nat.fold rgbs (fun led _ state =>
    let hue := Int.tmod (↑(led * 360 / (rgbs - 1)) + state.ledLoop) 360
    let ((red, green, blue), state) := lookupHue (hue % 2 ^ 32).toNat state
    setRgb led red green blue state) state

/-- `LED_rotating_rainbow`. -/
def ledRotatingRainbow (state : Leds) : Leds :=
  let state := { state with ledLoop := state.ledLoop + 1 }
  let state := if state.ledLoop = (360 : Int) then { state with ledLoop := 0 } else state
  calulateLedMibamBits (paintRainbow state)

/-- `LED_rainbow_all`, whose loop over the lights sets them all alike. -/
def ledRainbowAll (state : Leds) : Leds :=
  let ((red, green, blue), state) := lookupHue (state.ledLoop % 2 ^ 32).toNat state
  let state := setRgbAll red green blue state
  let state := calulateLedMibamBits state
  let state := { state with ledLoop := state.ledLoop + 1 }
  if state.ledLoop = (360 : Int) then { state with ledLoop := 0 } else state

/-- The `switch` of `LED_loop`. -/
def runPattern (clock : Clock) (state : Leds) : Leds :=
  if state.ledPattern = ledpOff then ledOff state
  else if state.ledPattern = ledpTime then ledTime clock state
  else if state.ledPattern = ledpOneByOne then ledOneByOne state
  else if state.ledPattern = ledpRotatingRainbow then ledRotatingRainbow state
  else if state.ledPattern = ledpSimpleAllColors then ledSimpleAllColors state
  else if state.ledPattern = ledpOneByOneSmooth0 then ledOneByOneSmooth 0 state
  else if state.ledPattern = ledpOneByOneSmooth1 then ledOneByOneSmooth 1 state
  else if state.ledPattern = ledpOneByOneSmooth2 then ledOneByOneSmooth 2 state
  else if state.ledPattern = ledpRainbowAll then ledRainbowAll state
  else if state.ledPattern = ledpPause then pause state
  else if state.ledPattern = ledpPlay then play state
  else if state.ledPattern = ledpRaw then state
  else ledTime clock state

/-- The numbers that select `LED_time`: its own and those of no pattern. -/
def RunsTime (no : UInt8) : Prop := no = ledpTime ∨ (ledpPlay < no ∧ no ≠ ledpRaw)

instance (no : UInt8) : Decidable (RunsTime no) :=
  inferInstanceAs (Decidable (no = ledpTime ∨ (ledpPlay < no ∧ no ≠ ledpRaw)))

/-- The numbers that select `LED_one_by_one_smooth_all_on_all_off`. -/
def Smooth (no : UInt8) : Prop :=
  no = ledpOneByOneSmooth0 ∨ no = ledpOneByOneSmooth1 ∨ no = ledpOneByOneSmooth2

instance (no : UInt8) : Decidable (Smooth no) :=
  inferInstanceAs (Decidable (no = ledpOneByOneSmooth0 ∨ no = ledpOneByOneSmooth1 ∨
    no = ledpOneByOneSmooth2))

omit [Board] in
/-- The numbers up to that of play are those of patterns. -/
theorem above_play {no : UInt8} (off : no ≠ 0) (time : no ≠ 1) (oneByOne : no ≠ 2)
    (rotating : no ≠ 3) (once : no ≠ 4) (smooth0 : no ≠ 5) (smooth1 : no ≠ 6) (smooth2 : no ≠ 7)
    (rainbow : no ≠ 8) (paused : no ≠ 9) (played : no ≠ 10) : ledpPlay < no := by
  simp only [ne_eq, ← UInt8.toNat_inj, UInt8.reduceToNat] at *
  refine UInt8.lt_iff_toNat_lt.mpr ?_
  show 10 < no.toNat
  omega

/-- What is shown for each pattern is shown for a step of the selected one. -/
theorem runPattern_cases {property : Leds → Prop} (clock : Clock) (state : Leds)
    (off : state.ledPattern = ledpOff → property (ledOff state))
    (time : RunsTime state.ledPattern → property (ledTime clock state))
    (oneByOne : state.ledPattern = ledpOneByOne → property (ledOneByOne state))
    (rotating : state.ledPattern = ledpRotatingRainbow → property (ledRotatingRainbow state))
    (once : state.ledPattern = ledpSimpleAllColors → property (ledSimpleAllColors state))
    (smooth : Smooth state.ledPattern → ∀ colour < 3, property (ledOneByOneSmooth colour state))
    (rainbow : state.ledPattern = ledpRainbowAll → property (ledRainbowAll state))
    (paused : state.ledPattern = ledpPause → property (pause state))
    (played : state.ledPattern = ledpPlay → property (play state))
    (raw : state.ledPattern = ledpRaw → property state) : property (runPattern clock state) := by
  refine iteInduction off fun notOff => ?_
  refine iteInduction (fun shown => time (.inl shown)) fun notTime => ?_
  refine iteInduction oneByOne fun notOneByOne => ?_
  refine iteInduction rotating fun notRotating => ?_
  refine iteInduction once fun notOnce => ?_
  refine iteInduction (fun zero => smooth (.inl zero) 0 (by decide)) fun notSmooth0 => ?_
  refine iteInduction (fun one => smooth (.inr (.inl one)) 1 (by decide)) fun notSmooth1 => ?_
  refine iteInduction (fun two => smooth (.inr (.inr two)) 2 (by decide)) fun notSmooth2 => ?_
  refine iteInduction rainbow fun notRainbow => ?_
  refine iteInduction paused fun notPaused => ?_
  refine iteInduction played fun notPlayed => ?_
  refine iteInduction raw fun notRaw => ?_
  -- no case of the `switch` has this number
  exact time (.inr ⟨above_play notOff notTime notOneByOne notRotating notOnce notSmooth0 notSmooth1
    notSmooth2 notRainbow notPaused notPlayed, notRaw⟩)

/-- `LED_loop`, reading the time from the clock. -/
def ledLoop (clock : Clock) (state : Leds) : Leds :=
  if state.ledIntOccured then { runPattern clock state with ledIntOccured := false } else state

end

/-- `TIMER2_IRQHandler`. -/
def timer2IrqHandler (state : Leds) : Leds := { state with ledIntOccured := true }

/-- What `LED_init` does to the variables of the lights. -/
def ledInit (transferred : Bool) (state : Leds) : Leds :=
  setLedPattern transferred 1 121 65
    { calulateLedMibamBits (resetLeds state) with tim0 := true, tim2 := true }

end EquinoxClock.Led
