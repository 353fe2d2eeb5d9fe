/-
Whether the times of sunrise, noon and sunset are those of the date shown.

They are computed in `dailyCheck`, which runs at start-up and at midnight, and summer time is added
to all three or to none, by the Unix time of the second before. So after a second that reaches
midnight they are right exactly if that decision is the one for each of the three instants; after
any other second exactly if the date, which requests may have set, has the sun times of the date
before (`sun_times_iff`).

Whether it is day is decided every minute, from the stored times; `day_night_iff` says when that is
right.
-/

import EquinoxClock.Lib.Run
import EquinoxClock.Rtc.Settled

namespace EquinoxClock.Rtc

open EquinoxClock.Lib

/-- The stored time of an event of the sun. -/
def Time2.sunField (time2 : Time2) : SunriseNum → Nat
  | .readSunset => time2.sunsetUnix
  | .readSunrise => time2.sunriseUnix
  | .readNoon => time2.noonUnix

section

variable [Board] {clock : Clock}

/-- The instant of an event of the sun on a date, in winter time. -/
def sunInstant (kind : SunriseNum) (year month dom : Nat) : Nat :=
  addMinutes (rtcTimeFindUnixtime year month dom 0 0 0) (Board.sunriseCompute month dom kind) 0

/-- The time of an event of the sun on a date: an hour later if its instant lies in the summer time
of the year. -/
def sunTime (kind : SunriseNum) (year month dom : Nat) : Nat :=
  addMinutes (rtcTimeFindUnixtime year month dom 0 0 0) (Board.sunriseCompute month dom kind)
    (if dstCorrectionNeededTY (sunInstant kind year month dom) year then dstCorrectionValueSec else 0)

/-- The time of an event of the sun on the date shown. -/
def sunTimeShown (kind : SunriseNum) (clock : Clock) : Nat :=
  sunTime kind (getY clock) (getM clock) (getDom clock)

/-- The stored times are those of the date shown. -/
def SunCurrent (clock : Clock) : Prop :=
  ∀ kind, clock.time2.sunField kind = sunTimeShown kind clock

/-- All events take place within the day. -/
def SunInDay : Prop :=
  ∀ month dom kind, 1 ≤ Board.sunriseCompute month dom kind ∧
    Board.sunriseCompute month dom kind ≤ 1439

/-- A second of the clock, with the times that requests set in front of its tick. -/
def adjusted (sets : List TimeArgs) (clock : Clock) : Clock :=
  sets.foldl (fun clock args => rtcTimeSetTime args clock) clock

@[inherit_doc adjusted]
def secondStep (clock : Clock) (sets : List TimeArgs) : Clock := rtcTick (adjusted sets clock)

/-- The clock as `dailyCheck` meets it: the limits have been renewed in the nest of tests. -/
def limitsChecked (clock : Clock) : Clock :=
  if YearlyCheckReached clock then yearlyCheck clock else clock

/-- The decision about summer time is the one for each event of the sun on the date shown. -/
def DecidesAlike (clock : Clock) : Prop :=
  ∀ kind, dstCorrectionNeeded clock =
    dstCorrectionNeededTY (sunInstant kind (getY clock) (getM clock) (getDom clock)) (getY clock)

omit [Board] in
/-- The clock shows midnight. -/
def AtMidnight (clock : Clock) : Prop := getSs clock = 0 ∧ getMm clock = 0 ∧ getHh clock = 0

instance (clock : Clock) : Decidable (AtMidnight clock) := by
  unfold AtMidnight
  infer_instance

/-- A second that reaches midnight decides alike for the three events; any other one shows a date
with the sun times of the date before it. -/
def SunKept (clock : Clock) (sets : List TimeArgs) : Prop :=
  let moved := interruptState (adjusted sets clock)
  if AtMidnight moved then DecidesAlike (limitsChecked moved)
  else ∀ kind, sunTimeShown kind moved = sunTimeShown kind clock

/-! ### What changes the stored times -/

theorem sunField_adjusted (sets : List TimeArgs) (clock : Clock) (kind : SunriseNum) :
    (adjusted sets clock).time2.sunField kind = clock.time2.sunField kind := by
  induction sets generalizing clock with
  | nil => rfl
  | cons args sets ih =>
      refine (ih (rtcTimeSetTime args clock)).trans ?_
      rw [rtcTimeSetTime_eq]
      cases kind <;> rfl

theorem sunField_dstCheckAndCorrect (clock : Clock) (kind : SunriseNum) :
    (dstCheckAndCorrect clock).time2.sunField kind = clock.time2.sunField kind := by
  unfold dstCheckAndCorrect
  split
  · dsimp only
    rw [rtcTimeSetTime_eq]
    split <;> cases kind <;> simp only [Time2.sunField, setDstStatus]
  · rfl

omit [Board] in
theorem sunField_minutelyCheck (clock : Clock) (kind : SunriseNum) :
    (minutelyCheck clock).time2.sunField kind = clock.time2.sunField kind := by
  unfold minutelyCheck
  dsimp only
  split
  · split <;> cases kind <;> rfl
  · cases kind <;> rfl

/-- The daily check stores the three times, all with the same decision. -/
theorem sunField_dailyCheck (inDay : SunInDay) (clock : Clock) (kind : SunriseNum) :
    (dailyCheck clock).time2.sunField kind =
      addMinutes (rtcTimeFindUnixtime (getY clock) (getM clock) (getDom clock) 0 0 0)
        (Board.sunriseCompute (getM clock) (getDom clock) kind)
        (if dstCorrectionNeeded clock then dstCorrectionValueSec else 0) := by
  have rises := (inDay (getM clock) (getDom clock) .readSunrise).1
  have sets := (inDay (getM clock) (getDom clock) .readSunset).1
  unfold dailyCheck
  rw [if_pos ⟨by omega, by omega⟩]
  cases kind <;> rfl

/-- The calendar checks store new times at midnight only. -/
theorem sunField_calendarChecks (clock : Clock) (kind : SunriseNum) :
    (calendarChecks clock).time2.sunField kind =
      if AtMidnight clock then (dailyCheck (limitsChecked clock)).time2.sunField kind
      else clock.time2.sunField kind := by
  unfold calendarChecks hourlyCheck weeklyCheck monthlyCheck
  by_cases second : getSs clock = 0
  swap
  · rw [if_neg second, if_neg fun midnight => second midnight.1]
  rw [if_pos second]
  dsimp only
  rw [sunField_minutelyCheck]
  by_cases minute : getMm clock = 0
  swap
  · rw [if_neg minute, if_neg fun midnight => minute midnight.2.1]
  by_cases hour : getHh clock = 0
  swap
  · rw [if_pos minute, if_neg hour, if_neg fun midnight => hour midnight.2.2]
  have midnight : AtMidnight clock := ⟨second, minute, hour⟩
  rw [if_pos minute, if_pos hour]
  -- the nest of tests below midnight ends in `yearlyCheck` or changes nothing
  have nest : (if 1 = getDow clock then
      if 1 = getDom clock then if 1 = getM clock then yearlyCheck clock else clock else clock
      else clock) = limitsChecked clock := by
    unfold limitsChecked YearlyCheckReached
    simp only [second, minute, hour, true_and, ite_and]
  rw [nest, if_pos midnight]

/-- A second is its calendar checks, for the stored times. -/
theorem sunField_rtcTick (clock : Clock) (kind : SunriseNum) :
    (rtcTick clock).time2.sunField kind =
      (calendarChecks (interruptState clock)).time2.sunField kind := by
  rw [rtcTick_eq]
  dsimp only
  split <;> exact sunField_dstCheckAndCorrect _ kind

/-- A correction keeps the date shown. -/
theorem date_dstCheckAndCorrect (clock : Clock) :
    getY (dstCheckAndCorrect clock) = getY clock ∧ getM (dstCheckAndCorrect clock) = getM clock ∧
      getDom (dstCheckAndCorrect clock) = getDom clock := by
  unfold dstCheckAndCorrect
  split
  · dsimp only
    rw [rtcTimeSetTime_eq]
    split <;> simp only [getY, getM, getDom, rtcGetTime, setDstStatus, Nat.and_assoc, Nat.and_self,
      and_self]
  · exact ⟨rfl, rfl, rfl⟩

/-- The date shown after a second is the one the hardware has moved to. -/
theorem date_rtcTick (clock : Clock) :
    getY (rtcTick clock) = getY (interruptState clock) ∧
      getM (rtcTick clock) = getM (interruptState clock) ∧
      getDom (rtcTick clock) = getDom (interruptState clock) := by
  have checked : (decisionState clock).rtc = (interruptState clock).rtc := (calendarChecks_eq _).1
  obtain ⟨year, month, dom⟩ := date_dstCheckAndCorrect (decisionState clock)
  have decided : getY (dstCheckAndCorrect (decisionState clock)) = getY (interruptState clock) ∧
      getM (dstCheckAndCorrect (decisionState clock)) = getM (interruptState clock) ∧
      getDom (dstCheckAndCorrect (decisionState clock)) = getDom (interruptState clock) := by
    rw [year, month, dom, getY, getM, getDom, checked]
    exact ⟨rfl, rfl, rfl⟩
  rw [rtcTick_eq]
  dsimp only
  split <;> exact decided

/-! ### Seconds and runs -/

omit [Board] in
/-- An hour makes a difference, also in 32 bits. -/
theorem addMinutes_inj (unixDay : Nat) (minutes : Int) (first second : Bool) :
    addMinutes unixDay minutes (if first then dstCorrectionValueSec else 0) =
      addMinutes unixDay minutes (if second then dstCorrectionValueSec else 0) ↔
        first = second := by
  refine ⟨fun same => ?_, fun same => by rw [same]⟩
  unfold addMinutes dstCorrectionValueSec at same
  cases first <;> cases second <;> simp at same ⊢ <;> omega

/-- **One second**, from a clock with current sun times. -/
theorem SunCurrent.step (inDay : SunInDay) (current : SunCurrent clock) (sets : List TimeArgs) :
    SunCurrent (secondStep clock sets) ↔ SunKept clock sets := by
  obtain ⟨year, month, dom⟩ := date_rtcTick (adjusted sets clock)
  have stored : ∀ kind, (secondStep clock sets).time2.sunField kind =
      if AtMidnight (interruptState (adjusted sets clock)) then
        (dailyCheck (limitsChecked (interruptState (adjusted sets clock)))).time2.sunField kind
      else clock.time2.sunField kind := by
    intro kind
    have kept : (interruptState (adjusted sets clock)).time2.sunField kind =
        (adjusted sets clock).time2.sunField kind := by cases kind <;> rfl
    rw [secondStep, sunField_rtcTick, sunField_calendarChecks, kept, sunField_adjusted]
  unfold SunCurrent SunKept sunTimeShown
  dsimp only
  simp only [stored]
  simp only [secondStep, year, month, dom]
  generalize interruptState (adjusted sets clock) = moved
  by_cases midnight : AtMidnight moved
  · obtain ⟨sameYear, sameMonth, sameDom⟩ : getY (limitsChecked moved) = getY moved ∧
        getM (limitsChecked moved) = getM moved ∧ getDom (limitsChecked moved) = getDom moved := by
      unfold limitsChecked
      split <;> exact ⟨rfl, rfl, rfl⟩
    rw [if_pos midnight]
    simp only [if_pos midnight]
    refine forall_congr' fun kind => ?_
    rw [sunField_dailyCheck inDay, sunTime, sameYear, sameMonth, sameDom, addMinutes_inj]
  · rw [if_neg midnight]
    simp only [if_neg midnight]
    exact forall_congr' fun kind => by rw [current kind, eq_comm, sunTimeShown]

/-- The clock as `dailyCheck` meets it at start-up. -/
def startState (clock : Clock) : Clock :=
  let clock := updateTime clock
  let clock :=
    if clock.rtc.gpreg4 = 0xaa then clock
    else
      let clock := rtcSetDefaultTimeToCompiled clock
      { clock with rtc := { clock.rtc with gpreg4 := 0xaa } }
  weeklyCheck (yearlyCheck clock)

/-- **Start-up.** -/
theorem sunCurrent_rtcTimeInit (inDay : SunInDay) (clock : Clock) :
    SunCurrent (rtcTimeInit clock) ↔ DecidesAlike (startState clock) := by
  let checked := minutelyCheck (dailyCheck (startState clock))
  have init : rtcTimeInit clock = dstCheckAndCorrect (updateTime checked) := rfl
  have same : checked.rtc = (startState clock).rtc :=
    (minutelyCheck_keeps _).1.trans (dailyCheck_keeps _).1
  obtain ⟨year, month, dom⟩ := date_dstCheckAndCorrect (updateTime checked)
  have stored : ∀ kind, (rtcTimeInit clock).time2.sunField kind =
      (dailyCheck (startState clock)).time2.sunField kind := by
    intro kind
    have updated : (updateTime checked).time2.sunField kind = checked.time2.sunField kind := by
      cases kind <;> rfl
    rw [init, sunField_dstCheckAndCorrect, updated, sunField_minutelyCheck]
  have date : getY (updateTime checked) = getY (startState clock) ∧
      getM (updateTime checked) = getM (startState clock) ∧
      getDom (updateTime checked) = getDom (startState clock) := by
    simp only [getY, getM, getDom, updateTime, same, and_self]
  unfold SunCurrent sunTimeShown
  simp only [stored]
  rw [init, year, month, dom, date.1, date.2.1, date.2.2]
  exact forall_congr' fun kind => by rw [sunField_dailyCheck inDay, sunTime, addMinutes_inj]

/-- **The sun times of a running clock.** After start-up, whatever times requests set between the
ticks: the stored times are those of the date shown, at start-up and after every second, exactly if
the decision at start-up is alike for the three events and every second keeps the sun times. -/
theorem sun_times_iff (inDay : SunInDay) (clock : Clock) (seconds : List (List TimeArgs)) :
    SunCurrent (rtcTimeInit clock) ∧
        Along secondStep (fun clock sets => SunCurrent (secondStep clock sets)) (rtcTimeInit clock)
          seconds ↔
      DecidesAlike (startState clock) ∧ Along secondStep SunKept (rtcTimeInit clock) seconds := by
  rw [← sunCurrent_rtcTimeInit inDay]
  refine and_congr_right fun current => ?_
  exact along_iff (fun _ sets current => current.step inDay sets)
    (fun _ sets current kept => (current.step inDay sets).mpr kept) seconds _ current

/-! ### Day and night -/

/-- Whether it is day, by the stored times of sunrise and sunset. -/
def Time2.daylight (time2 : Time2) : DayNight :=
  if time2.sunriseUnix ≤ time2.unix ∧ time2.unix < time2.sunsetUnix then .day else .night

omit [Board] in
/-- `minutelyCheck` takes the time after sunset for the day. The test of the flag always succeeds, as
no flag is equal to four values at once. -/
theorem dayNight_minutelyCheck (clock : Clock) : (minutelyCheck clock).time2.dayNight =
    if clock.time2.sunriseUnix < clock.time2.unix ∧ clock.time2.sunsetUnix < clock.time2.unix then
      .day else .night := by
  unfold minutelyCheck
  dsimp only
  have flags : clock.time2.noSetRise ≠ .riseOnly ∨ clock.time2.noSetRise ≠ .setOnly ∨
      clock.time2.noSetRise ≠ .allDay ∨ clock.time2.noSetRise ≠ .allNight := by
    cases clock.time2.noSetRise <;> decide
  rw [if_pos flags]
  split <;> rfl

omit [Board] in
/-- **Day or night** is decided right before sunrise and at the very second of sunset, and at no
other time. -/
theorem day_night_iff (clock : Clock) (ordered : clock.time2.sunriseUnix < clock.time2.sunsetUnix) :
    (minutelyCheck clock).time2.dayNight = clock.time2.daylight ↔
      clock.time2.unix < clock.time2.sunriseUnix ∨ clock.time2.unix = clock.time2.sunsetUnix := by
  rw [dayNight_minutelyCheck, Time2.daylight]
  split_ifs <;> simp only [true_iff, false_iff] <;> omega

end

/-- Midsummer, at a time of the day; the sun rises at four and sets at eight. -/
def midsummerAt (unix : Nat) : Clock :=
  { Clock.cleared with time2 := { Clock.cleared.time2 with
    unix, sunriseUnix := 1340251200, sunsetUnix := 1340308800 } }

/-- An hour before sunrise it is night. -/
theorem day_night_early :
    (minutelyCheck (midsummerAt 1340247600)).time2.dayNight =
        (midsummerAt 1340247600).time2.daylight ↔
      (midsummerAt 1340247600).time2.unix < (midsummerAt 1340247600).time2.sunriseUnix ∨
        (midsummerAt 1340247600).time2.unix = (midsummerAt 1340247600).time2.sunsetUnix :=
  day_night_iff (midsummerAt 1340247600) (by decide)

/-- **Noon is night.** -/
theorem day_night_noon :
    getSs (midsummerAt 1340280000) = 0 ∧
      (midsummerAt 1340280000).time2.sunriseUnix < (midsummerAt 1340280000).time2.sunsetUnix ∧
      (minutelyCheck (midsummerAt 1340280000)).time2.dayNight ≠
        (midsummerAt 1340280000).time2.daylight := by
  decide

/-- The clock was running when it was initialised, at noon of midsummer. -/
def midsummerNoon : Clock :=
  { Clock.cleared with rtc := ⟨0, 0, 12, 2, 21, 173, 6, 2012, dstWord, 0xaa, false, false⟩ }

section

attribute [local instance] Board.plain

/-- A second at noon, and the last one of the day, which a request sets. -/
theorem sun_times_noon : SunCurrent (rtcTimeInit midsummerNoon) ∧
    Along secondStep (fun clock sets => SunCurrent (secondStep clock sets))
      (rtcTimeInit midsummerNoon) [[], [⟨2012, 6, 21, 23, 59, 59, 0⟩]] := by
  have inDay : SunInDay :=
    fun _ _ _ => ⟨show (1 : Int) ≤ 720 by decide, show (720 : Int) ≤ 1439 by decide⟩
  refine (sun_times_iff inDay midsummerNoon _).mpr ⟨?_, ?_, ?_, trivial⟩
  · intro kind
    cases kind <;> decide +kernel
  · have moves : ¬ AtMidnight (interruptState (adjusted [] (rtcTimeInit midsummerNoon))) := by
      decide +kernel
    rw [SunKept, if_neg moves]
    intro kind
    cases kind <;> decide +kernel
  · have midnight : AtMidnight (interruptState (adjusted [⟨2012, 6, 21, 23, 59, 59, 0⟩]
        (secondStep (rtcTimeInit midsummerNoon) []))) := by
      decide +kernel
    rw [SunKept, if_pos midnight]
    intro kind
    cases kind <;> decide +kernel

/-- **A date set by a request.** The sun times of midsummer stay when a day in January is set. -/
theorem sun_times_january :
    ¬ Along secondStep (fun clock sets => SunCurrent (secondStep clock sets))
      (rtcTimeInit midsummerNoon) [[⟨2012, 1, 15, 12, 0, 0, 0⟩]] := by
  have stays :
      (secondStep (rtcTimeInit midsummerNoon) [⟨2012, 1, 15, 12, 0, 0, 0⟩]).time2.noonUnix ≠
        sunTimeShown .readNoon
          (secondStep (rtcTimeInit midsummerNoon) [⟨2012, 1, 15, 12, 0, 0, 0⟩]) := by
    decide +kernel
  exact fun current => stays (current.1 .readNoon)

end

end EquinoxClock.Rtc
