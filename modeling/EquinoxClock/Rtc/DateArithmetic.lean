/-
The firmware's calendar arithmetic, and what it computes.

`daysFrom2000`, `time2long` and `rtcTimeFindUnixtime` are the functions of the same names; all
intermediate values are cut where the C types cut them. On a valid date of the years 2000 to 2099
they count the seconds of the calendar (`ValidTime.unixtime`), so Unix times of valid moments can be
compared, and moved by an hour, instead of dates (`rtcTimeFindUnixtime_injective`,
`unixToHhMmSs_add`).

The summer-time limits of a year are `beginDstUnix` and `endDstUnix`.
-/

import EquinoxClock.Board
import EquinoxClock.Rtc.Registers
import Mathlib.Tactic.IntervalCases

namespace EquinoxClock.Rtc

open EquinoxClock.Lib

section

variable [Board]

/-- `daysInMonth`. -/
def daysInMonth : List Nat := [31, 28, 31, 30, 31, 30, 31, 31, 30, 31, 30, 31]

/-- A read of `daysInMonth[index]`, wherever it lands. -/
def daysInMonthAt (index : Nat) : Nat := daysInMonth.getD index (Board.pastDaysInMonth index % 2 ^ 8)

/-- The loop `for (i = 1; i < m; i++) days += daysInMonth[i-1]` on a 16-bit `days`. -/
def addMonths (days m : Nat) : Nat :=
  (List.range (m - 1)).foldl (fun days index => (days + daysInMonthAt index) % 2 ^ 16) days

/-- `days_from_2000`. The final `- 1` wraps in the 16 bits of the result. -/
def daysFrom2000 (y m d : Nat) : Nat :=
  let y := if 2000 ≤ y then y - 2000 else y
  let days := addMonths d m
  let days := if 2 < m ∧ y % 4 = 0 then (days + 1) % 2 ^ 16 else days
  (2 ^ 16 - 1 + (days + 365 * y + (y + 3) / 4)) % 2 ^ 16

/-- `days_from_20xx`, which `RTC_time_SetTime` writes to the day-of-year register. -/
def daysFrom20xx (year month dayOfM : Nat) : Nat :=
  let year := if 2000 ≤ year then year - 2000 else year
  let days := addMonths dayOfM month
  let days := if 2 < month ∧ year % 4 = 0 then (days + 1) % 2 ^ 16 else days
  (2 ^ 16 - 1 + (days + (year + 3) / 4)) % 2 ^ 16

/-- `time2long`, before it is cut to 32 bits. -/
def time2long (days hour min sec : Nat) : Nat := ((days * 24 + hour) * 60 + min) * 60 + sec

/-- `dayOfWeekManual`: Monday is 0. -/
def dayOfWeekManual (year month dayOfM : Nat) : Nat := (daysFrom2000 year month dayOfM + 5) % 7

/-- `SECONDS_FROM_1970_TO_2000`. -/
def secondsFrom1970To2000 : Nat := 946684800

/-- `RTC_time_FindUnixtime`. -/
def rtcTimeFindUnixtime (year month dayOfM hour min sec : Nat) : Nat :=
  (secondsFrom1970To2000 + time2long (daysFrom2000 year month dayOfM) hour min sec % 2 ^ 32) % 2 ^ 32

/-- `unix_to_hh_mm_ss`: the hour, the minute and the second. -/
def unixToHhMmSs (unixTime : Nat) : Nat × Nat × Nat :=
  let unixTime := (2 ^ 32 + unixTime - secondsFrom1970To2000) % 2 ^ 32
  (unixTime / 60 / 60 % 24, unixTime / 60 % 60, unixTime % 60)

/-- `DST_CORRECTION_VALUE_SEC`. -/
def dstCorrectionValueSec : Nat := 60 * 60

/-- `begin_DST_dayOfMonth`: the last Sunday of March. -/
def beginDstDayOfMonth (x : Nat) : Nat := 31 - (5 * x / 4 + 4) % 7

/-- `end_DST_dayOfMonth`: the last Sunday of October. -/
def endDstDayOfMonth (x : Nat) : Nat := 31 - (5 * x / 4 + 1) % 7

/-- `begin_DST_unix`. -/
def beginDstUnix (x : Nat) : Nat := rtcTimeFindUnixtime x 3 (beginDstDayOfMonth x) 1 0 0

/-- `end_DST_unix`. -/
def endDstUnix (x : Nat) : Nat := rtcTimeFindUnixtime x 10 (endDstDayOfMonth x) 1 0 0

/-- `dst_correction_needed_t_y`. -/
def dstCorrectionNeededTY (t year : Nat) : Bool := beginDstUnix year ≤ t && t ≤ endDstUnix year

/-! ### The arithmetic on valid dates -/

omit [Board] in
/-- The leap days of the hardware's rule, in closed form. -/
theorem yearStart_eq (year : Nat) : yearStart leapYear year = 365 * year + (year + 3) / 4 := by
  induction year with
  | zero => rfl
  | succ year ih =>
      rw [yearStart_succ, ih, yearLength_eq]
      unfold leapYear
      rcases Decidable.em (year % 4 = 0) with leap | common
      · rw [if_pos (by simpa using leap)]
        omega
      · rw [if_neg (by simpa using common)]
        omega

omit [Board] in
/-- The days of the months before a month, in a common year. -/
theorem sum_daysInMonth_le (count : Nat) : (daysInMonth.take count).sum ≤ 365 :=
  ((List.take_sublist count daysInMonth).sum_le_sum fun _ _ => Nat.zero_le _).trans (by decide)

/-- The loop over the months adds up the table; it never wraps. -/
theorem addMonths_eq (days month : Nat) (small : month ≤ 12) (day : days ≤ 31) :
    addMonths days month = days + (daysInMonth.take (month - 1)).sum := by
  have loop : ∀ count ≤ 12, (List.range count).foldl
      (fun days index => (days + daysInMonthAt index) % 2 ^ 16) days =
        days + (daysInMonth.take count).sum := by
    intro count
    induction count with
    | zero => intro _; rfl
    | succ count ih =>
        intro within
        have inside : count < daysInMonth.length := within
        have entry : daysInMonthAt count = daysInMonth[count] := by
          rw [daysInMonthAt, List.getD_eq_getElem _ _ inside]
        have bound := sum_daysInMonth_le (count + 1)
        rw [List.sum_take_succ _ _ inside] at bound ⊢
        rw [List.range_succ, List.foldl_append, ih (by omega), List.foldl_cons, List.foldl_nil,
          entry]
        omega
  exact loop _ (by omega)

omit [Board] in
/-- The table against the calendar: February counts 28, and the leap day is added by hand. -/
theorem daysBefore_eq (year month : Nat) (positive : 1 ≤ month) (small : month ≤ 12) :
    daysBefore leapYear year month = (daysInMonth.take (month - 1)).sum +
      if 2 < month ∧ year % 4 = 0 then 1 else 0 := by
  rcases Decidable.em (year % 4 = 0) with divides | divides <;>
    interval_cases month <;>
    simp [daysBefore, monthLength, leapYear, daysInMonth, Finset.sum_range_succ, divides]

/-- The first day of 2000, counted from the first day of year 0. -/
def daysBefore2000 : Nat := 730500

/-- The start of Unix time, in seconds from the first day of year 0. -/
def unixEpoch : Nat := 62168515200

section

variable {year month dom hh mm ss : Nat}

/-- **`days_from_2000` counts the days of the calendar.** -/
theorem ValidTime.daysFrom2000_eq (valid : ValidTime year month dom hh mm ss) :
    daysFrom2000 year month dom + daysBefore2000 = valid.moment.days := by
  have yearGe := valid.year_ge
  have yearLe := valid.year_le
  have domPos := valid.dom_pos
  have bound := sum_daysInMonth_le (month - 1)
  have domLe := valid.dom_le_31
  have inYear : (year - 2000) % 4 = year % 4 := by omega
  have leapDays : (year + 3) / 4 = (year - 2000 + 3) / 4 + 500 := by omega
  simp only [daysFrom2000, if_pos yearGe, inYear, addMonths_eq dom month valid.month_le domLe,
    Moment.days, ValidTime.moment, yearStart_eq, daysBefore2000, leapDays,
    daysBefore_eq year month valid.month_pos valid.month_le]
  split_ifs <;> omega

/-- `days_from_2000` stays far below its 16 bits. -/
theorem ValidTime.daysFrom2000_lt (valid : ValidTime year month dom hh mm ss) :
    daysFrom2000 year month dom < 36525 := by
  have count := valid.daysFrom2000_eq
  have inYear := valid.moment.days_bounds.2
  have yearLe := valid.year_le
  rw [yearStart_eq] at inYear
  simp only [ValidTime.moment, daysBefore2000] at count inYear
  omega

/-- The Unix time of a valid date: nothing is cut off. -/
theorem ValidTime.unixtime_eq (valid : ValidTime year month dom hh mm ss) :
    rtcTimeFindUnixtime year month dom hh mm ss = secondsFrom1970To2000 +
      (daysFrom2000 year month dom * 86400 + (hh * 3600 + mm * 60 + ss)) := by
  have days := valid.daysFrom2000_lt
  have hour := valid.hh_lt
  have minute := valid.mm_lt
  have second := valid.ss_lt
  have long : time2long (daysFrom2000 year month dom) hh mm ss =
      daysFrom2000 year month dom * 86400 + (hh * 3600 + mm * 60 + ss) := by
    unfold time2long
    omega
  rw [rtcTimeFindUnixtime, long, secondsFrom1970To2000]
  omega

/-- **`RTC_time_FindUnixtime` counts the seconds of the calendar.** -/
theorem ValidTime.unixtime (valid : ValidTime year month dom hh mm ss) :
    rtcTimeFindUnixtime year month dom hh mm ss + unixEpoch = valid.moment.seconds := by
  have count := valid.daysFrom2000_eq
  rw [valid.unixtime_eq, Moment.seconds, ← count]
  simp only [secondsFrom1970To2000, unixEpoch, daysBefore2000, Moment.timeOfDay, ValidTime.moment]
  omega

/-- **A Unix time has one date.** -/
theorem ValidTime.unixtime_injective {year' month' dom' hh' mm' ss' : Nat}
    (valid : ValidTime year month dom hh mm ss)
    (valid' : ValidTime year' month' dom' hh' mm' ss')
    (same : rtcTimeFindUnixtime year month dom hh mm ss =
      rtcTimeFindUnixtime year' month' dom' hh' mm' ss') :
    year = year' ∧ month = month' ∧ dom = dom' ∧ hh = hh' ∧ mm = mm' ∧ ss = ss' := by
  have equal : valid.moment = valid'.moment := by
    apply Moment.seconds_injective
    rw [← valid.unixtime, ← valid'.unixtime, same]
  simpa only [ValidTime.moment, Moment.mk.injEq] using equal

/-- A later year has later Unix times. -/
theorem ValidTime.unixtime_lt_of_year_lt {year' month' dom' hh' mm' ss' : Nat}
    (valid : ValidTime year month dom hh mm ss)
    (valid' : ValidTime year' month' dom' hh' mm' ss') (earlier : year < year') :
    rtcTimeFindUnixtime year month dom hh mm ss <
      rtcTimeFindUnixtime year' month' dom' hh' mm' ss' := by
  have days : valid.moment.days < valid'.moment.days := Moment.days_lt_of_year_lt earlier
  have time := valid.moment.timeOfDay_lt
  have first := valid.unixtime
  have second := valid'.unixtime
  unfold Moment.seconds at first second
  omega

/-- A later month of the same year has later Unix times. -/
theorem ValidTime.unixtime_lt_of_month_lt {month' dom' hh' mm' ss' : Nat}
    (valid : ValidTime year month dom hh mm ss)
    (valid' : ValidTime year month' dom' hh' mm' ss') (earlier : month < month') :
    rtcTimeFindUnixtime year month dom hh mm ss <
      rtcTimeFindUnixtime year month' dom' hh' mm' ss' := by
  have days : valid.moment.days < valid'.moment.days := Moment.days_lt_of_month_lt rfl earlier
  have time := valid.moment.timeOfDay_lt
  have first := valid.unixtime
  have second := valid'.unixtime
  unfold Moment.seconds at first second
  omega

omit [Board] in
/-- The three divisions of `unix_to_hh_mm_ss`. -/
theorem unixToHhMmSs_of_days (days : Nat) (small : days < 36525) (hour : hh < 24) (minute : mm < 60)
    (second : ss < 60) :
    unixToHhMmSs (secondsFrom1970To2000 + (days * 86400 + (hh * 3600 + mm * 60 + ss))) =
      (hh, mm, ss) := by
  have since2000 : (2 ^ 32 + (secondsFrom1970To2000 + (days * 86400 + (hh * 3600 + mm * 60 + ss))) -
      secondsFrom1970To2000) % 2 ^ 32 = (days * 1440 + hh * 60 + mm) * 60 + ss := by
    rw [secondsFrom1970To2000]
    omega
  have minutes : ((days * 1440 + hh * 60 + mm) * 60 + ss) / 60 = (days * 24 + hh) * 60 + mm := by
    omega
  have hours : ((days * 24 + hh) * 60 + mm) / 60 = days * 24 + hh := by omega
  simp only [unixToHhMmSs, since2000, minutes, hours, Prod.mk.injEq]
  omega

/-- `unix_to_hh_mm_ss` gives back the time of day. -/
theorem ValidTime.unixToHhMmSs_eq (valid : ValidTime year month dom hh mm ss) :
    unixToHhMmSs (rtcTimeFindUnixtime year month dom hh mm ss) = (hh, mm, ss) := by
  rw [valid.unixtime_eq]
  exact unixToHhMmSs_of_days _ valid.daysFrom2000_lt valid.hh_lt valid.mm_lt valid.ss_lt

end

/-! ### The summer-time limits -/

section

variable {year : Nat}

omit [Board] in
theorem beginDstDayOfMonth_bounds (year : Nat) :
    25 ≤ beginDstDayOfMonth year ∧ beginDstDayOfMonth year ≤ 31 := by
  unfold beginDstDayOfMonth
  omega

omit [Board] in
theorem endDstDayOfMonth_bounds (year : Nat) :
    25 ≤ endDstDayOfMonth year ∧ endDstDayOfMonth year ≤ 31 := by
  unfold endDstDayOfMonth
  omega

omit [Board] in
/-- Every hour of the day the summer time begins on is a valid time. -/
theorem beginDst_valid (yearGe : 2000 ≤ year) (yearLe : year ≤ 2099) {hh mm ss : Nat}
    (hour : hh < 24) (minute : mm < 60) (second : ss < 60) :
    ValidTime year 3 (beginDstDayOfMonth year) hh mm ss := by
  obtain ⟨low, high⟩ := beginDstDayOfMonth_bounds year
  exact ⟨yearGe, yearLe, by decide, by decide, by omega, high, hour, minute, second⟩

omit [Board] in
/-- Every hour of the day the summer time ends on is a valid time. -/
theorem endDst_valid (yearGe : 2000 ≤ year) (yearLe : year ≤ 2099) {hh mm ss : Nat}
    (hour : hh < 24) (minute : mm < 60) (second : ss < 60) :
    ValidTime year 10 (endDstDayOfMonth year) hh mm ss := by
  obtain ⟨low, high⟩ := endDstDayOfMonth_bounds year
  exact ⟨yearGe, yearLe, by decide, by decide, by omega, high, hour, minute, second⟩

/-- Summer time ends more than a day after it begins. -/
theorem beginDstUnix_lt_endDstUnix (yearGe : 2000 ≤ year) (yearLe : year ≤ 2099) :
    beginDstUnix year + 86400 < endDstUnix year := by
  have hour : 1 < 24 := by decide
  have zero : 0 < 60 := by decide
  have first := beginDst_valid yearGe yearLe hour zero zero
  have last := endDst_valid yearGe yearLe hour zero zero
  have march : first.moment.days + 1 < last.moment.days := by
    have low := endDstDayOfMonth_bounds year
    have high := beginDstDayOfMonth_bounds year
    simp only [Moment.days, ValidTime.moment, daysBefore_eq year 3 (by decide) (by decide),
      daysBefore_eq year 10 (by decide) (by decide), daysInMonth]
    simp only [List.take, List.sum_cons, List.sum_nil]
    split_ifs <;> omega
  have firstCount := first.daysFrom2000_eq
  have lastCount := last.daysFrom2000_eq
  rw [beginDstUnix, endDstUnix, first.unixtime_eq, last.unixtime_eq]
  omega

end

end

end EquinoxClock.Rtc
