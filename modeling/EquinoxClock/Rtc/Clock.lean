/-
The clock: the real-time clock peripheral together with `time2`, and every function that changes
them.

The definitions follow `rtc.cpp` under its own names. A second of the running clock is `rtcTick`:
the hardware advances and raises the increment interrupt, and `rtcIrqHandler` runs to completion.
The checks of the handler nest as in the source: the yearly check is reached only at midnight of a
day whose weekday register is 1, that is the first of a month, and that month January.
-/

import EquinoxClock.Rtc.DateArithmetic

namespace EquinoxClock.Rtc

open EquinoxClock.Lib

/-- `Day_Night_Num`. -/
inductive DayNight where
  | night
  | day
  | riseOnly
  | setOnly
  | allDay
  | allNight
  deriving DecidableEq, Repr

/-- The fields of `time2` that the clock's functions read or write. -/
structure Time2 where
  unix : Nat
  hh : Nat
  mm : Nat
  ss : Nat
  dstBeginCalculated : Nat
  dstEndCalculated : Nat
  sunriseUnix : Nat
  sunsetUnix : Nat
  noonUnix : Nat
  dayNight : DayNight
  noSetRise : DayNight
  secondInc : Nat
  deriving DecidableEq, Repr

/-- The state of the clock. -/
structure Clock where
  rtc : Registers
  time2 : Time2
  deriving DecidableEq, Repr

/-- A clock whose registers and variables are all zero. -/
def Clock.cleared : Clock where
  rtc := ⟨0, 0, 0, 0, 0, 0, 0, 0, 0, 0, false, false⟩
  time2 := ⟨0, 0, 0, 0, 0, 0, 0, 0, 0, .night, .night, 0⟩

/-- The arguments of `RTC_time_SetTime`. -/
structure TimeArgs where
  year : Nat
  month : Nat
  dom : Nat
  hh : Nat
  mm : Nat
  ss : Nat
  st : Nat
  deriving DecidableEq, Repr

/-- The arguments name a date of the years 2000 to 2099 and a time of day. -/
abbrev TimeArgs.Valid (args : TimeArgs) : Prop :=
  ValidTime args.year args.month args.dom args.hh args.mm args.ss

def getY (clock : Clock) : Nat := rtcGetTime clock.rtc .year

def getM (clock : Clock) : Nat := rtcGetTime clock.rtc .month

def getDom (clock : Clock) : Nat := rtcGetTime clock.rtc .dayOfMonth

def getDow (clock : Clock) : Nat := rtcGetTime clock.rtc .dayOfWeek

/-- `GetDOY`, whose result type has eight bits. -/
def getDoy (clock : Clock) : Nat := rtcGetTime clock.rtc .dayOfYear % 2 ^ 8

def getHh (clock : Clock) : Nat := rtcGetTime clock.rtc .hour

def getMm (clock : Clock) : Nat := rtcGetTime clock.rtc .minute

def getSs (clock : Clock) : Nat := rtcGetTime clock.rtc .second

/-- `RTC_SetTime` on the clock's peripheral. -/
def setTime (timetype : TimeType) (timeValue : Nat) (clock : Clock) : Clock :=
  { clock with rtc := rtcSetTime clock.rtc timetype timeValue }

/-- The word `setDSTstatus` leaves in general purpose register 3: the letters `DST`. -/
def dstWord : Nat := 0x445354

/-- `setDSTstatus`. -/
def setDstStatus (set : Bool) (clock : Clock) : Clock :=
  { clock with rtc := { clock.rtc with gpreg3 := if set then dstWord else 0 } }

/-- `getDSTstatus`. -/
def getDstStatus (clock : Clock) : Bool := clock.rtc.gpreg3 == dstWord

/-- `dst_correction_needed`. -/
def dstCorrectionNeeded (clock : Clock) : Bool :=
  clock.time2.dstBeginCalculated ≤ clock.time2.unix && clock.time2.unix ≤ clock.time2.dstEndCalculated

section

variable [Board]

/-- `DSTyearly`. -/
def dstYearly (clock : Clock) : Clock :=
  { clock with time2 := { clock.time2 with
    dstBeginCalculated := beginDstUnix (getY clock), dstEndCalculated := endDstUnix (getY clock) } }

/-- `yearlyCheck`. -/
def yearlyCheck (clock : Clock) : Clock := dstYearly clock

/-- `RTC_time_SetTime`. The status is chosen from the arguments, before any register is written. -/
def rtcTimeSetTime (args : TimeArgs) (clock : Clock) : Clock :=
  let unixt := rtcTimeFindUnixtime args.year args.month args.dom args.hh args.mm args.ss
  let dstCorrection := dstCorrectionNeededTY unixt args.year
  let clock := if dstCorrection then setDstStatus true clock else setDstStatus false clock
  let clock := setTime .year args.year clock
  let clock := setTime .month args.month clock
  let clock := setTime .dayOfMonth args.dom clock
  let clock := setTime .dayOfWeek (dayOfWeekManual args.year args.month args.dom) clock
  let clock := setTime .dayOfYear (daysFrom20xx args.year args.month args.dom) clock
  let clock := setTime .second args.ss clock
  let clock := setTime .minute args.mm clock
  let clock := setTime .hour args.hh clock
  yearlyCheck clock

/-- The Unix time of the date and time in the registers. -/
def registersUnixtime (clock : Clock) : Nat :=
  rtcTimeFindUnixtime (getY clock) (getM clock) (getDom clock) (getHh clock) (getMm clock)
    (getSs clock)

/-- `update_time`. -/
def updateTime (clock : Clock) : Clock :=
  { clock with time2 := { clock.time2 with unix := registersUnixtime clock } }

/-- `DST_check_and_correct`. The corrected time goes back with the date that is in the registers. -/
def dstCheckAndCorrect (clock : Clock) : Clock :=
  if dstCorrectionNeeded clock != getDstStatus clock then
    let clock :=
      if dstCorrectionNeeded clock then
        setDstStatus true { clock with time2 := { clock.time2 with
          unix := (dstCorrectionValueSec + clock.time2.unix) % 2 ^ 32 } }
      else
        setDstStatus false { clock with time2 := { clock.time2 with
          unix := (2 ^ 32 + clock.time2.unix - dstCorrectionValueSec) % 2 ^ 32 } }
    let time := unixToHhMmSs clock.time2.unix
    let clock := { clock with time2 := { clock.time2 with
      hh := time.1, mm := time.2.1, ss := time.2.2 } }
    rtcTimeSetTime
      ⟨getY clock, getM clock, getDom clock, clock.time2.hh, clock.time2.mm, clock.time2.ss, 0⟩ clock
  else clock

/-- `secondlyCheck`. -/
def secondlyCheck (clock : Clock) : Clock := dstCheckAndCorrect (updateTime clock)

/-- `hourlyCheck`, `weeklyCheck` and `monthlyCheck` have empty bodies. -/
def hourlyCheck (clock : Clock) : Clock := clock

@[inherit_doc hourlyCheck]
def weeklyCheck (clock : Clock) : Clock := clock

@[inherit_doc hourlyCheck]
def monthlyCheck (clock : Clock) : Clock := clock

/-- `minutelyCheck`. -/
def minutelyCheck (clock : Clock) : Clock :=
  let time2 := { clock.time2 with dayNight := .night }
  let time2 :=
    if time2.sunriseUnix < time2.unix ∧ time2.sunsetUnix < time2.unix then
      if time2.noSetRise ≠ .riseOnly ∨ time2.noSetRise ≠ .setOnly ∨ time2.noSetRise ≠ .allDay ∨
          time2.noSetRise ≠ .allNight then
        { time2 with dayNight := .day }
      else time2
    else time2
  { clock with time2 }

/-- `unix_day + 60 * Sunrise_Compute(...) + extra` in 32 bits. -/
def addMinutes (unixDay : Nat) (minutes : Int) (extra : Nat) : Nat :=
  ((unixDay + 60 * minutes + extra) % 2 ^ 32).toNat

/-- `dailyCheck`. -/
def dailyCheck (clock : Clock) : Clock :=
  let sun := Board.sunriseCompute (getM clock) (getDom clock)
  if 0 < sun .readSunrise ∧ 0 < sun .readSunset then
    let unixDay := rtcTimeFindUnixtime (getY clock) (getM clock) (getDom clock) 0 0 0
    let extra := if dstCorrectionNeeded clock then dstCorrectionValueSec else 0
    { clock with time2 := { clock.time2 with
      sunriseUnix := addMinutes unixDay (sun .readSunrise) extra
      sunsetUnix := addMinutes unixDay (sun .readSunset) extra
      noonUnix := addMinutes unixDay (sun .readNoon) extra } }
  else clock

/-- The checks that the handler runs before the secondly one. -/
def calendarChecks (clock : Clock) : Clock :=
  if getSs clock = 0 then
    let clock :=
      if getMm clock = 0 then
        let clock :=
          if getHh clock = 0 then
            let clock :=
              if 1 = getDow clock then
                let clock :=
                  if 1 = getDom clock then
                    let clock := if 1 = getM clock then yearlyCheck clock else clock
                    monthlyCheck clock
                  else clock
                weeklyCheck clock
              else clock
            dailyCheck clock
          else clock
        hourlyCheck clock
      else clock
    minutelyCheck clock
  else clock

/-- `RTC_IRQHandler`. The alarm branch only clears its pending bit: `set_next_alarm` and
`sort_alarms` have empty bodies. -/
def rtcIrqHandler (clock : Clock) : Clock :=
  let clock :=
    if clock.rtc.counterIncrease then
      let clock := { clock with rtc := { clock.rtc with counterIncrease := false } }
      let clock := { clock with time2 := { clock.time2 with secondInc := 1 } }
      secondlyCheck (calendarChecks clock)
    else clock
  if clock.rtc.alarm then { clock with rtc := { clock.rtc with alarm := false } } else clock

/-- A second of the running clock. -/
def rtcTick (clock : Clock) : Clock := rtcIrqHandler { clock with rtc := advance clock.rtc }

/-! ### Start-up -/

/-- `conv2d`: two characters as a number, in eight bits. -/
def conv2d (p : List Char) : Nat :=
  let first := (p.getD 0 '\x00').toNat
  let v := if '0'.toNat ≤ first ∧ first ≤ '9'.toNat then first - '0'.toNat else 0
  (10 * v + (p.getD 1 '\x00').toNat + 2 ^ 8 - '0'.toNat) % 2 ^ 8

/-- The month of `__DATE__`. -/
def compiledMonth (date : List Char) : Nat :=
  match date.getD 0 '\x00' with
  | 'J' => if date.getD 1 '\x00' = 'a' then 1 else if date.getD 2 '\x00' = 'n' then 6 else 7
  | 'F' => 2
  | 'A' => if date.getD 2 '\x00' = 'r' then 4 else 8
  | 'M' => if date.getD 2 '\x00' = 'r' then 3 else 5
  | 'S' => 9
  | 'O' => 10
  | 'N' => 11
  | 'D' => 12
  -- `month_as_number` stays unset; no compiler writes such a month
  | _ => 0

/-- The date and time of the compilation, as `RTC_set_default_time_to_compiled` reads them off. -/
def compiledTime : TimeArgs where
  year := conv2d (Board.date.drop 7) * 100 + conv2d (Board.date.drop 9)
  month := compiledMonth Board.date
  dom := conv2d (Board.date.drop 4)
  hh := conv2d Board.time
  mm := conv2d (Board.time.drop 3)
  ss := conv2d (Board.time.drop 6)
  st := 0

/-- `RTC_set_default_time_to_compiled`. -/
def rtcSetDefaultTimeToCompiled (clock : Clock) : Clock := rtcTimeSetTime compiledTime clock

/-- `RTC_time_Init`: the time is set only when general purpose register 4 does not say that it has
been. -/
def rtcTimeInit (clock : Clock) : Clock :=
  let clock := updateTime clock
  let clock :=
    if clock.rtc.gpreg4 = 0xaa then clock
    else
      let clock := rtcSetDefaultTimeToCompiled clock
      { clock with rtc := { clock.rtc with gpreg4 := 0xaa } }
  secondlyCheck (minutelyCheck (hourlyCheck (dailyCheck (weeklyCheck (yearlyCheck clock)))))

end

end EquinoxClock.Rtc
