/-
Corrections that cross midnight.

`DST_check_and_correct` moves the Unix time by an hour, but sets the date that is in the registers
together with the new time of day. So the time set is the moved one exactly if the correction stays
within the day: forward before 23:00, backward from 01:00 on (`correction_exact_iff`).
-/

import EquinoxClock.Rtc.Settled

namespace EquinoxClock.Rtc

open EquinoxClock.Lib

/-- The moment an hour forward, or an hour backward. -/
def HourMoved (forward : Bool) (before after : Moment leapYear) : Prop :=
  if forward then after.seconds = before.seconds + dstCorrectionValueSec
  else after.seconds + dstCorrectionValueSec = before.seconds

/-- The moved time belongs to the same day. -/
def WithinDay (forward : Bool) (hour : Nat) : Prop := if forward then hour < 23 else 1 ≤ hour

section

variable [Board] {clock : Clock}

/-- A correction sets the date that is in the registers. -/
theorem secondlyCheck_date (valid : clock.rtc.Valid) :
    (secondlyCheck clock).rtc.year = clock.rtc.year ∧
      (secondlyCheck clock).rtc.month = clock.rtc.month ∧
      (secondlyCheck clock).rtc.dom = clock.rtc.dom := by
  have year : clock.rtc.year &&& TimeType.year.mask = clock.rtc.year := getY_eq valid
  have month : clock.rtc.month &&& TimeType.month.mask = clock.rtc.month := getM_eq valid
  have dom : clock.rtc.dom &&& TimeType.dayOfMonth.mask = clock.rtc.dom := getDom_eq valid
  unfold secondlyCheck dstCheckAndCorrect
  split
  · dsimp only
    rw [rtcTimeSetTime_eq]
    split <;> simp only [getY, getM, getDom, rtcGetTime, setDstStatus, updateTime, year, month, dom,
      and_self]
  · exact ⟨rfl, rfl, rfl⟩

/-- The days of the date before and after a correction. -/
theorem secondlyCheck_days (valid : clock.rtc.Valid) (shown : (secondlyCheck clock).rtc.Valid) :
    shown.moment.days = valid.moment.days := by
  obtain ⟨year, month, dom⟩ := secondlyCheck_date valid
  show yearStart leapYear (secondlyCheck clock).rtc.year +
    daysBefore leapYear (secondlyCheck clock).rtc.year (secondlyCheck clock).rtc.month +
    ((secondlyCheck clock).rtc.dom - 1) = _
  rw [year, month, dom]
  rfl

/-- A correction whose moved time is a time of the same day shows it. -/
theorem secondlyCheck_moved (valid : clock.rtc.Valid)
    (differs : dstCorrectionNeeded (updateTime clock) ≠ getDstStatus clock) {hh : Nat}
    (hour : hh < 24)
    (moved : (if dstCorrectionNeeded (updateTime clock) then
        (dstCorrectionValueSec + registersUnixtime clock) % 2 ^ 32
      else (2 ^ 32 + registersUnixtime clock - dstCorrectionValueSec) % 2 ^ 32) =
      rtcTimeFindUnixtime clock.rtc.year clock.rtc.month clock.rtc.dom hh clock.rtc.min
        clock.rtc.sec) :
    ∃ shown : (secondlyCheck clock).rtc.Valid,
      shown.moment.seconds = valid.moment.days * 86400 + (hh * 3600 + clock.rtc.min * 60 +
        clock.rtc.sec) := by
  have args : TimeArgs.Valid ⟨clock.rtc.year, clock.rtc.month, clock.rtc.dom, hh, clock.rtc.min,
      clock.rtc.sec, 0⟩ := { valid with hh_lt := hour }
  have year : getY (updateTime clock) = clock.rtc.year := getY_eq valid
  have month : getM (updateTime clock) = clock.rtc.month := getM_eq valid
  have dom : getDom (updateTime clock) = clock.rtc.dom := getDom_eq valid
  have date : ValidTime (getY (updateTime clock)) (getM (updateTime clock))
      (getDom (updateTime clock)) hh clock.rtc.min clock.rtc.sec := by
    rw [year, month, dom]
    exact args
  obtain ⟨before, result⟩ := dstCheckAndCorrect_of_moved date differs (by
    rw [year, month, dom]
    exact moved)
  rw [year, month, dom] at result
  have set : secondlyCheck clock = rtcTimeSetTime ⟨clock.rtc.year, clock.rtc.month, clock.rtc.dom,
    hh, clock.rtc.min, clock.rtc.sec, 0⟩ before := result
  obtain ⟨shown, -, unix, -⟩ := rtcTimeSetTime_valid args before
  rw [← set] at shown unix
  refine ⟨shown, ?_⟩
  have days : args.moment.days = valid.moment.days := rfl
  have time : args.moment.timeOfDay = hh * 3600 + clock.rtc.min * 60 + clock.rtc.sec := rfl
  calc shown.moment.seconds = registersUnixtime (secondlyCheck clock) + unixEpoch := by
        rw [registersUnixtime_eq shown, shown.unixtime]
    _ = args.moment.seconds := by rw [unix, args.unixtime]
    _ = _ := by rw [Moment.seconds, days, time]

/-- **A correction is exact** exactly if it stays within the day. For all valid registers, whatever
the stored limits and the status that make the check decide on a correction. -/
theorem correction_exact_iff (valid : clock.rtc.Valid)
    (differs : dstCorrectionNeeded (updateTime clock) ≠ getDstStatus clock) :
    (∃ shown : (secondlyCheck clock).rtc.Valid,
        HourMoved (dstCorrectionNeeded (updateTime clock)) valid.moment shown.moment) ↔
      WithinDay (dstCorrectionNeeded (updateTime clock)) clock.rtc.hour := by
  have hourLt := valid.hh_lt
  have minuteLt := valid.mm_lt
  have secondLt := valid.ss_lt
  have before : valid.moment.seconds = valid.moment.days * 86400 +
      (clock.rtc.hour * 3600 + clock.rtc.min * 60 + clock.rtc.sec) := rfl
  have unix : registersUnixtime clock = secondsFrom1970To2000 +
      (daysFrom2000 clock.rtc.year clock.rtc.month clock.rtc.dom * 86400 +
        (clock.rtc.hour * 3600 + clock.rtc.min * 60 + clock.rtc.sec)) := by
    rw [registersUnixtime_eq valid, valid.unixtime_eq]
  have days := valid.daysFrom2000_lt
  constructor
  · rintro ⟨shown, moved⟩
    -- the date stays, so the moved time lies in the same day
    have sameDays := secondlyCheck_days valid shown
    have timeAfter := shown.moment.timeOfDay_lt
    have after : shown.moment.seconds = valid.moment.days * 86400 + shown.moment.timeOfDay := by
      rw [Moment.seconds, sameDays]
    unfold HourMoved dstCorrectionValueSec at moved
    unfold WithinDay
    split at moved
    · next forward =>
        rw [if_pos forward]
        omega
    · next backward =>
        rw [if_neg backward]
        omega
  · intro within
    unfold WithinDay at within
    cases needed : dstCorrectionNeeded (updateTime clock) with
    | true =>
        rw [needed, if_pos rfl] at within
        have hour : clock.rtc.hour + 1 < 24 := by omega
        have later : ValidTime clock.rtc.year clock.rtc.month clock.rtc.dom (clock.rtc.hour + 1)
          clock.rtc.min clock.rtc.sec := { valid with hh_lt := hour }
        obtain ⟨shown, moved⟩ := secondlyCheck_moved valid differs hour (by
          rw [needed, if_pos rfl, later.unixtime_eq, unix, dstCorrectionValueSec,
            secondsFrom1970To2000]
          omega)
        refine ⟨shown, ?_⟩
        rw [HourMoved, if_pos rfl, moved, before, dstCorrectionValueSec]
        omega
    | false =>
        rw [needed, if_neg Bool.false_ne_true] at within
        have hour : clock.rtc.hour - 1 < 24 := by omega
        have earlier : ValidTime clock.rtc.year clock.rtc.month clock.rtc.dom (clock.rtc.hour - 1)
          clock.rtc.min clock.rtc.sec := { valid with hh_lt := hour }
        obtain ⟨shown, moved⟩ := secondlyCheck_moved valid differs hour (by
          rw [needed, if_neg Bool.false_ne_true, earlier.unixtime_eq, unix, dstCorrectionValueSec,
            secondsFrom1970To2000]
          omega)
        refine ⟨shown, ?_⟩
        rw [HourMoved, if_neg Bool.false_ne_true, moved, before, dstCorrectionValueSec]
        omega

end

/-- A clock that stands at some time, with a status that is not the one for it. -/
def misled (year month dom hh : Nat) (status : Bool) : Clock :=
  letI := Board.plain
  setDstStatus status (rtcTimeSetTime ⟨year, month, dom, hh, 30, 0, 0⟩ Clock.cleared)

/-- At noon of midsummer, in winter time. -/
theorem correction_exact_noon :
    letI := Board.plain
    let clock := misled 2012 6 21 12 false
    ∃ (valid : clock.rtc.Valid) (shown : (secondlyCheck clock).rtc.Valid),
      HourMoved true valid.moment shown.moment := by
  have valid : (misled 2012 6 21 12 false).rtc.Valid := by decide
  have needed : @dstCorrectionNeeded (@updateTime Board.plain (misled 2012 6 21 12 false)) =
      true := by
    decide +kernel
  have noon : (misled 2012 6 21 12 false).rtc.hour = 12 := by decide +kernel
  have exact := @correction_exact_iff Board.plain _ valid (by
    rw [needed, misled, getDstStatus_setDstStatus]
    decide)
  rw [needed] at exact
  refine ⟨valid, exact.mpr ?_⟩
  show (misled 2012 6 21 12 false).rtc.hour < 23
  rw [noon]
  decide

/-- **Half past eleven in the evening** the corrected clock shows half past midnight of the same
day, 23 hours back. -/
theorem correction_crossing : ¬ ∀ (_ : Board) (clock : Clock) (valid : clock.rtc.Valid),
    dstCorrectionNeeded (updateTime clock) ≠ getDstStatus clock →
    ∃ shown : (secondlyCheck clock).rtc.Valid,
      HourMoved (dstCorrectionNeeded (updateTime clock)) valid.moment shown.moment := by
  intro claim
  let _ := Board.plain
  have valid : (misled 2012 6 21 23 false).rtc.Valid := by decide
  have needed : dstCorrectionNeeded (updateTime (misled 2012 6 21 23 false)) = true := by
    decide +kernel
  obtain ⟨shown, moved⟩ := claim Board.plain _ valid (by
    rw [needed, misled, getDstStatus_setDstStatus]
    decide)
  have sameDays := secondlyCheck_days valid shown
  have hour : shown.moment.hour = 0 := rfl
  have minute : shown.moment.minute = 30 := rfl
  have before : valid.moment.timeOfDay = 23 * 3600 + 30 * 60 + 0 := by
    have evening : (misled 2012 6 21 23 false).rtc.hour = 23 := by decide +kernel
    have half : (misled 2012 6 21 23 false).rtc.min = 30 := by decide +kernel
    have zero : (misled 2012 6 21 23 false).rtc.sec = 0 := by decide +kernel
    show (misled 2012 6 21 23 false).rtc.hour * 3600 + (misled 2012 6 21 23 false).rtc.min * 60 +
      (misled 2012 6 21 23 false).rtc.sec = _
    rw [evening, half, zero]
  have second := shown.moment.second_lt
  rw [needed, HourMoved, if_pos rfl, Moment.seconds, Moment.seconds, sameDays, before,
    Moment.timeOfDay, hour, minute, dstCorrectionValueSec] at moved
  omega

end EquinoxClock.Rtc
