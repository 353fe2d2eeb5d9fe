/-
The firmware's calendar arithmetic against the Gregorian calendar.

A moment of the `Century` is a date of the years 2000 to 2099 and a time of day. Its Unix time counts
the seconds of the calendar (`unixtimeOf_add_epoch`), from which everything about Unix times, hours
and weekdays follows (`unixtime_gregorian`), and so do the days on which the summer time changes and
the comparison with them (`summer_time_gregorian`).
-/

import EquinoxClock.Lib.Checked
import EquinoxClock.Rtc.Settled

namespace EquinoxClock.Rtc

open EquinoxClock.Lib

/-- A moment of the years 2000 to 2099. -/
abbrev Century := { moment : Moment gregorian // 2000 ≤ moment.year ∧ moment.year ≤ 2099 }

/-- In these years the hardware's leap rule is the calendar's. -/
theorem gregorian_eq_leapYear {year : Nat} (yearGe : 2000 ≤ year) (yearLe : year ≤ 2099) :
    gregorian year = leapYear year := by
  have rule : gregorian year = true ↔ leapYear year = true := by
    simp only [gregorian, leapYear, Bool.and_eq_true, Bool.or_eq_true, beq_iff_eq, bne_iff_ne]
    omega
  exact Bool.eq_iff_iff.mpr rule

namespace Century

/-- The numbers of a moment of the century are valid. -/
theorem valid (moment : Century) : ValidTime moment.1.year moment.1.month moment.1.day
    moment.1.hour moment.1.minute moment.1.second where
  year_ge := moment.2.1
  year_le := moment.2.2
  month_pos := moment.1.month_pos
  month_le := moment.1.month_le
  dom_pos := moment.1.day_pos
  dom_le := moment.1.day_le.trans
    (monthLength_congr (gregorian_eq_leapYear moment.2.1 moment.2.2) moment.1.month).le
  hh_lt := moment.1.hour_lt
  mm_lt := moment.1.minute_lt
  ss_lt := moment.1.second_lt

/-- The following second, within the century. -/
def next (moment : Century) (within : moment.1.next.year ≤ 2099) : Century :=
  ⟨moment.1.next, moment.2.1.trans (Moment.year_mono moment.1.lt_next.le), within⟩

/-- The arguments that set the moment. -/
def args (moment : Century) (st : Nat) : TimeArgs where
  year := moment.1.year
  month := moment.1.month
  dom := moment.1.day
  hh := moment.1.hour
  mm := moment.1.minute
  ss := moment.1.second
  st := st

/-- The hardware's calendar has fifteen leap days more before 2000. -/
theorem days_add (moment : Century) : moment.1.days + 15 = moment.valid.moment.days := by
  obtain ⟨moment, yearGe, yearLe⟩ := moment
  have first := yearStart_gregorian moment.year
  have second := yearStart_eq moment.year
  simp only [Moment.days, ValidTime.moment,
    daysBefore_congr (gregorian_eq_leapYear yearGe yearLe) moment.month]
  omega

end Century

/-- Valid numbers are those of a moment of the century. -/
def ValidTime.century {year month dom hh mm ss : Nat} (valid : ValidTime year month dom hh mm ss) :
    Century where
  val :=
    { valid.moment with
      day_le := valid.dom_le.trans
        (monthLength_congr (gregorian_eq_leapYear valid.year_ge valid.year_le) month).ge }
  property := ⟨valid.year_ge, valid.year_le⟩

theorem zero_lt_hours : 0 < 24 := by decide

theorem zero_lt_minutes : 0 < 60 := by decide

/-- The start of Unix time. -/
def epoch : Moment gregorian where
  year := 1970
  month := 1
  day := 1
  hour := 0
  minute := 0
  second := 0
  month_pos := le_rfl
  month_le := by decide
  day_pos := le_rfl
  day_le := by decide
  hour_lt := zero_lt_hours
  minute_lt := zero_lt_minutes
  second_lt := zero_lt_minutes

theorem seconds_epoch : epoch.seconds = 62167219200 := by
  have start := yearStart_gregorian epoch.year
  rw [← epoch.days_newYear rfl rfl, show epoch.year = 1970 from rfl] at start
  rw [Moment.seconds, show epoch.timeOfDay = 0 from rfl]
  generalize epoch.days = days at start ⊢
  omega

/-- The beginning of the summer time of a year. -/
def dstBegin (year : Nat) : Moment gregorian where
  year := year
  month := 3
  day := beginDstDayOfMonth year
  hour := 1
  minute := 0
  second := 0
  month_pos := by decide
  month_le := by decide
  day_pos := (beginDstDayOfMonth_bounds year).1.trans' (by decide)
  day_le := (beginDstDayOfMonth_bounds year).2
  hour_lt := by decide
  minute_lt := zero_lt_minutes
  second_lt := zero_lt_minutes

/-- The end of the summer time of a year. -/
def dstEnd (year : Nat) : Moment gregorian where
  year := year
  month := 10
  day := endDstDayOfMonth year
  hour := 1
  minute := 0
  second := 0
  month_pos := by decide
  month_le := by decide
  day_pos := (endDstDayOfMonth_bounds year).1.trans' (by decide)
  day_le := (endDstDayOfMonth_bounds year).2
  hour_lt := by decide
  minute_lt := zero_lt_minutes
  second_lt := zero_lt_minutes

section

variable [Board]

/-- `RTC_time_FindUnixtime` of a moment. -/
def unixtimeOf (moment : Moment gregorian) : Nat :=
  rtcTimeFindUnixtime moment.year moment.month moment.day moment.hour moment.minute moment.second

/-- `dayOfWeekManual` of a moment's date. -/
def weekdayOf (moment : Moment gregorian) : Nat :=
  dayOfWeekManual moment.year moment.month moment.day

/-- **`RTC_time_FindUnixtime` counts the seconds since the start of Unix time.** -/
theorem unixtimeOf_add_epoch (moment : Century) :
    unixtimeOf moment.1 + epoch.seconds = moment.1.seconds := by
  have count := moment.valid.unixtime
  have days := moment.days_add
  have time : moment.valid.moment.timeOfDay = moment.1.timeOfDay := rfl
  rw [Moment.seconds, ← days, time, unixEpoch] at count
  rw [seconds_epoch, Moment.seconds, unixtimeOf]
  omega

/-- The weekday is the count of days modulo seven. -/
theorem weekdayOf_eq (moment : Century) : weekdayOf moment.1 = (moment.1.days + 5) % 7 := by
  have count := moment.valid.daysFrom2000_eq
  have days := moment.days_add
  rw [← days, daysBefore2000] at count
  have since2000 : daysFrom2000 moment.1.year moment.1.month moment.1.day + 730485 =
      moment.1.days := by omega
  rw [weekdayOf, dayOfWeekManual]
  omega

/-- Unix times are ordered like the moments. -/
theorem unixtimeOf_lt_iff (first second : Century) :
    unixtimeOf first.1 < unixtimeOf second.1 ↔ first.1 < second.1 := by
  rw [← Moment.seconds_strictMono.lt_iff_lt, ← unixtimeOf_add_epoch, ← unixtimeOf_add_epoch,
    Nat.add_lt_add_iff_right]

@[inherit_doc unixtimeOf_lt_iff]
theorem unixtimeOf_le_iff (first second : Century) :
    unixtimeOf first.1 ≤ unixtimeOf second.1 ↔ first.1 ≤ second.1 := by
  rw [← not_lt, unixtimeOf_lt_iff, not_lt]

/-- The following second has the following Unix time. -/
theorem unixtimeOf_next (moment : Century) (within : moment.1.next.year ≤ 2099) :
    unixtimeOf moment.1.next = unixtimeOf moment.1 + 1 := by
  have before := unixtimeOf_add_epoch moment
  have after : unixtimeOf moment.1.next + epoch.seconds = moment.1.next.seconds :=
    unixtimeOf_add_epoch (moment.next within)
  rw [Moment.seconds_next, ← before] at after
  omega

/-- The weekday moves on at midnight. -/
theorem weekdayOf_next (moment : Century) (within : moment.1.next.year ≤ 2099) :
    weekdayOf moment.1.next =
      if moment.1.next.timeOfDay = 0 then (weekdayOf moment.1 + 1) % 7 else weekdayOf moment.1 := by
  have after : weekdayOf moment.1.next = (moment.1.next.days + 5) % 7 :=
    weekdayOf_eq (moment.next within)
  rw [after, weekdayOf_eq moment, Moment.days_next]
  split_ifs <;> omega

/-- The third of January 2000 was a Monday. -/
theorem dayOfWeekManual_monday : dayOfWeekManual 2000 1 3 = 0 := by
  simp [dayOfWeekManual, daysFrom2000, addMonths_eq]

omit [Board] in
theorem newYear2000_valid : ValidTime 2000 1 1 0 0 0 := by decide

theorem rtcTimeFindUnixtime_2000 : rtcTimeFindUnixtime 2000 1 1 0 0 0 = 946684800 := by
  simp [rtcTimeFindUnixtime, time2long, daysFrom2000, addMonths_eq, secondsFrom1970To2000]

/-- **Unix times and weekdays of the century.** A Unix time counts the seconds since 1970: it is
946684800 at the start of 2000, and the following second of the calendar has the following one, so
later moments have greater ones. The time of day is recovered from it. The weekday moves on at each
midnight, counted from a Monday, the third of January 2000. -/
theorem unixtime_gregorian :
    (∀ moment : Century, unixtimeOf moment.1 + epoch.seconds = moment.1.seconds) ∧
      rtcTimeFindUnixtime 2000 1 1 0 0 0 = 946684800 ∧
      (∀ moment : Century, moment.1.next.year ≤ 2099 →
        unixtimeOf moment.1.next = unixtimeOf moment.1 + 1) ∧
      (∀ first second : Century, first.1 < second.1 → unixtimeOf first.1 < unixtimeOf second.1) ∧
      (∀ moment : Century, unixToHhMmSs (unixtimeOf moment.1) =
        (moment.1.hour, moment.1.minute, moment.1.second)) ∧
      dayOfWeekManual 2000 1 3 = 0 ∧
      (∀ moment : Century, moment.1.next.year ≤ 2099 → weekdayOf moment.1.next =
        if moment.1.next.timeOfDay = 0 then (weekdayOf moment.1 + 1) % 7
        else weekdayOf moment.1) :=
  ⟨unixtimeOf_add_epoch, rtcTimeFindUnixtime_2000, unixtimeOf_next,
    fun first second => (unixtimeOf_lt_iff first second).mpr,
    fun moment => moment.valid.unixToHhMmSs_eq, dayOfWeekManual_monday, weekdayOf_next⟩

/-! ### The day of the year -/

/-- `days_from_20xx` counts the leap days since 2000 as well, and starts a day too early for it. -/
theorem daysFrom20xx_eq (moment : Century) :
    daysFrom20xx moment.1.year moment.1.month moment.1.day + 1 =
      moment.1.dayOfYear + (moment.1.year - 1997) / 4 := by
  obtain ⟨moment, yearGe, yearLe⟩ := moment
  have dayPos := moment.day_pos
  have dayLe := moment.day_le.trans (monthLength_le _ _ _)
  have bound := sum_daysInMonth_le (moment.month - 1)
  have inYear : (moment.year - 2000) % 4 = moment.year % 4 := by omega
  simp only [daysFrom20xx, if_pos yearGe, inYear,
    addMonths_eq moment.day moment.month moment.month_le dayLe, Moment.dayOfYear,
    daysBefore_congr (gregorian_eq_leapYear yearGe yearLe) moment.month,
    daysBefore_eq moment.year moment.month moment.month_pos moment.month_le]
  split_ifs <;> omega

/-- The day-of-year register holds what `days_from_20xx` computes; the getter cuts it to a byte. -/
theorem getDoy_args (moment : Century) (st : Nat) (clock : Clock) :
    getDoy (rtcTimeSetTime (moment.args st) clock) =
      daysFrom20xx moment.1.year moment.1.month moment.1.day % 2 ^ 9 % 2 ^ 8 := by
  rw [getDoy, rtcGetTime, rtcTimeSetTime_eq, Nat.and_assoc, Nat.and_self, TimeType.and_mask]
  rfl

/-- **The day of the year** is computed and shown right in the years 2001 to 2004 only, and only up
to the 255th. -/
theorem day_of_year_iff (moment : Century) (st : Nat) :
    (daysFrom20xx moment.1.year moment.1.month moment.1.day = moment.1.dayOfYear ∧
        ∀ clock, getDoy (rtcTimeSetTime (moment.args st) clock) = moment.1.dayOfYear) ↔
      2001 ≤ moment.1.year ∧ moment.1.year ≤ 2004 ∧ moment.1.dayOfYear ≤ 255 := by
  have count := daysFrom20xx_eq moment
  simp only [getDoy_args]
  constructor
  · rintro ⟨computed, shown⟩
    have read := shown Clock.cleared
    omega
  · rintro ⟨yearGe, yearLe, byte⟩
    have computed : daysFrom20xx moment.1.year moment.1.month moment.1.day = moment.1.dayOfYear := by
      omega
    refine ⟨computed, fun _ => ?_⟩
    rw [computed]
    omega

end

section

attribute [local instance] Board.plain

theorem newYear2012_valid : ValidTime 2012 1 1 0 0 0 := by decide

/-- **The first of January 2012** counts as the third day. -/
theorem day_of_year_2012 :
    ¬ (daysFrom20xx 2012 1 1 = newYear2012_valid.century.1.dayOfYear ∧
      ∀ clock, getDoy (rtcTimeSetTime (newYear2012_valid.century.args 0) clock) =
        newYear2012_valid.century.1.dayOfYear) := by
  have third : daysFrom20xx 2012 1 1 = 3 := by decide
  have first : newYear2012_valid.century.1.dayOfYear = 1 := by decide
  rintro ⟨computed, -⟩
  rw [third, first] at computed
  exact absurd computed (by decide)

end

/-! ### The types of the arithmetic -/

section

variable [Board]

/-- `time2long` step by step, in the 32 bits of a `long`: without a result where a step overflows. -/
def time2longChecked (days hour min sec : Nat) : Option Int := do
  let hours ← checkedAdd 32 (← checkedMul 32 days 24) hour
  let minutes ← checkedAdd 32 (← checkedMul 32 hours 60) min
  checkedAdd 32 (← checkedMul 32 minutes 60) sec

omit [Board] in
/-- No step overflows exactly if the result fits. -/
theorem time2longChecked_eq {days hour min sec : Nat} (small : days < 2 ^ 16) :
    time2longChecked days hour min sec = if time2long days hour min sec < 2 ^ 31 then
      some (time2long days hour min sec : Int) else none := by
  have radices : ∀ digit ∈ [(24, hour), (60, min), (60, sec)], 1 ≤ digit.1 := by
    simp only [List.forall_mem_cons]
    exact ⟨by decide, by decide, by decide, fun _ none => nomatch none⟩
  have chain : time2longChecked days hour min sec =
      checkedMixed 32 days [(24, hour), (60, min), (60, sec)] := by
    simp only [time2longChecked, checkedMixed, Option.bind_eq_bind, Option.bind_fun_some,
      Nat.cast_ofNat]
  exact chain.trans (checkedMixed_eq radices (small.trans (by decide)))

omit [Board] in
theorem overflow_valid : ValidTime 2068 1 19 3 14 8 := by decide

/-- The first moment whose seconds since 2000 do not fit a `long`. -/
def overflowMoment : Century := overflow_valid.century

theorem unixtimeOf_overflowMoment :
    unixtimeOf overflowMoment.1 = secondsFrom1970To2000 + 2 ^ 31 := by
  show rtcTimeFindUnixtime 2068 1 19 3 14 8 = _
  simp [rtcTimeFindUnixtime, time2long, daysFrom2000, addMonths_eq, secondsFrom1970To2000]

/-- **Overflow.** The signed arithmetic of `time2long` holds the seconds until the nineteenth of
January 2068; the unsigned sum behind it never wraps. -/
theorem arithmetic_fits_iff (moment : Century) :
    ((time2longChecked (daysFrom2000 moment.1.year moment.1.month moment.1.day) moment.1.hour
          moment.1.minute moment.1.second).isSome ∧
        time2long (daysFrom2000 moment.1.year moment.1.month moment.1.day) moment.1.hour
          moment.1.minute moment.1.second % 2 ^ 32 + secondsFrom1970To2000 < 2 ^ 32) ↔
      moment.1 < overflowMoment.1 := by
  have days := moment.valid.daysFrom2000_lt
  have unix : unixtimeOf moment.1 = _ := moment.valid.unixtime_eq
  have long : time2long (daysFrom2000 moment.1.year moment.1.month moment.1.day) moment.1.hour
      moment.1.minute moment.1.second + secondsFrom1970To2000 = unixtimeOf moment.1 := by
    rw [unix, time2long]
    omega
  have hour := moment.1.hour_lt
  have minute := moment.1.minute_lt
  have second := moment.1.second_lt
  rw [← unixtimeOf_lt_iff, unixtimeOf_overflowMoment, ← long, time2longChecked_eq (by omega)]
  rw [secondsFrom1970To2000] at unix long ⊢
  generalize time2long (daysFrom2000 moment.1.year moment.1.month moment.1.day) moment.1.hour
    moment.1.minute moment.1.second = seconds at long ⊢
  split_ifs with fits
  · simp only [Option.isSome_some, true_and]
    omega
  · simp only [Option.isSome_none, Bool.false_eq_true, false_and, false_iff]
    omega

end

section

attribute [local instance] Board.plain

/-- **The first overflow.** -/
theorem arithmetic_overflows :
    ¬ ((time2longChecked (daysFrom2000 2068 1 19) 3 14 8).isSome ∧
      time2long (daysFrom2000 2068 1 19) 3 14 8 % 2 ^ 32 + secondsFrom1970To2000 < 2 ^ 32) := by
  have none : time2longChecked (daysFrom2000 2068 1 19) 3 14 8 = none := by decide
  rintro ⟨fits, -⟩
  rw [none] at fits
  exact absurd fits (by decide)

end

/-! ### Summer time -/

section

variable [Board]

omit [Board] in
/-- The closed formula for the last Sunday of a month of 31 days, before which `before` days of a
common year lie. -/
theorem lastSunday {year before offset : Nat} (yearGe : 2000 ≤ year) (yearLe : year ≤ 2099)
    (fits : before % 7 = (offset + 6) % 7) :
    (yearStart gregorian year + (before + if year % 4 = 0 then 1 else 0) +
      (31 - (5 * year / 4 + offset) % 7 - 1) + 5) % 7 = 6 := by
  have years : yearStart gregorian year + 15 = 365 * year + (year + 3) / 4 := by
    have closed := yearStart_gregorian year
    omega
  obtain ⟨quarter, rest, small, rfl⟩ : ∃ quarter rest, rest < 4 ∧ year = 4 * quarter + rest :=
    ⟨year / 4, year % 4, Nat.mod_lt _ (by decide), (Nat.div_add_mod year 4).symm⟩
  have whole : 5 * (4 * quarter + rest) / 4 = 5 * quarter + 5 * rest / 4 := by omega
  rw [whole]
  interval_cases rest <;> split_ifs <;> omega

/-- The last Sunday of March, by the weekday of the firmware. -/
theorem dayOfWeekManual_beginDst {year : Nat} (yearGe : 2000 ≤ year) (yearLe : year ≤ 2099) :
    dayOfWeekManual year 3 (beginDstDayOfMonth year) = 6 := by
  have sunday : dayOfWeekManual year 3 (beginDstDayOfMonth year) =
      ((dstBegin year).days + 5) % 7 := weekdayOf_eq ⟨dstBegin year, yearGe, yearLe⟩
  have months := daysBefore_eq year 3 (by decide) (by decide)
  rw [← daysBefore_congr (gregorian_eq_leapYear yearGe yearLe)] at months
  rw [sunday, Moment.days, dstBegin, months]
  have fits : 59 % 7 = (4 + 6) % 7 := by decide
  simpa [daysInMonth, beginDstDayOfMonth] using lastSunday yearGe yearLe fits

/-- The last Sunday of October. -/
theorem dayOfWeekManual_endDst {year : Nat} (yearGe : 2000 ≤ year) (yearLe : year ≤ 2099) :
    dayOfWeekManual year 10 (endDstDayOfMonth year) = 6 := by
  have sunday : dayOfWeekManual year 10 (endDstDayOfMonth year) =
      ((dstEnd year).days + 5) % 7 := weekdayOf_eq ⟨dstEnd year, yearGe, yearLe⟩
  have months := daysBefore_eq year 10 (by decide) (by decide)
  rw [← daysBefore_congr (gregorian_eq_leapYear yearGe yearLe)] at months
  rw [sunday, Moment.days, dstEnd, months]
  have fits : 273 % 7 = (1 + 6) % 7 := by decide
  simpa [daysInMonth, endDstDayOfMonth] using lastSunday yearGe yearLe fits

theorem beginDstUnix_le_iff {year : Nat} (yearGe : 2000 ≤ year) (yearLe : year ≤ 2099)
    (moment : Century) : beginDstUnix year ≤ unixtimeOf moment.1 ↔ dstBegin year ≤ moment.1 :=
  unixtimeOf_le_iff ⟨dstBegin year, yearGe, yearLe⟩ moment

theorem le_endDstUnix_iff {year : Nat} (yearGe : 2000 ≤ year) (yearLe : year ≤ 2099)
    (moment : Century) : unixtimeOf moment.1 ≤ endDstUnix year ↔ moment.1 ≤ dstEnd year :=
  unixtimeOf_le_iff moment ⟨dstEnd year, yearGe, yearLe⟩

/-- The comparison of a Unix time with the limits of a year is the one of moments. -/
theorem dstCorrectionNeededTY_iff {year : Nat} (yearGe : 2000 ≤ year) (yearLe : year ≤ 2099)
    (moment : Century) : dstCorrectionNeededTY (unixtimeOf moment.1) year = true ↔
      dstBegin year ≤ moment.1 ∧ moment.1 ≤ dstEnd year := by
  rw [dstCorrectionNeededTY, Bool.and_eq_true, decide_eq_true_eq, decide_eq_true_eq,
    beginDstUnix_le_iff yearGe yearLe, le_endDstUnix_iff yearGe yearLe]

/-- **Summer time** begins on the last Sunday of March and ends on the last Sunday of October, at
one in the morning, and a Unix time of the year is compared with its limits as the moments are. -/
theorem summer_time_gregorian {year : Nat} (yearGe : 2000 ≤ year) (yearLe : year ≤ 2099) :
    (25 ≤ beginDstDayOfMonth year ∧ beginDstDayOfMonth year ≤ 31 ∧
        dayOfWeekManual year 3 (beginDstDayOfMonth year) = 6) ∧
      (25 ≤ endDstDayOfMonth year ∧ endDstDayOfMonth year ≤ 31 ∧
        dayOfWeekManual year 10 (endDstDayOfMonth year) = 6) ∧
      ∀ moment : Moment gregorian, moment.year = year →
        (dstCorrectionNeededTY (unixtimeOf moment) year = true ↔
          dstBegin year ≤ moment ∧ moment ≤ dstEnd year) := by
  obtain ⟨beginGe, beginLe⟩ := beginDstDayOfMonth_bounds year
  obtain ⟨endGe, endLe⟩ := endDstDayOfMonth_bounds year
  refine ⟨⟨beginGe, beginLe, dayOfWeekManual_beginDst yearGe yearLe⟩,
    ⟨endGe, endLe, dayOfWeekManual_endDst yearGe yearLe⟩, ?_⟩
  rintro moment rfl
  exact dstCorrectionNeededTY_iff yearGe yearLe ⟨moment, yearGe, yearLe⟩

end

section

attribute [local instance] Board.plain

/-- The summer time of 2012. -/
theorem summer_time_2012 :
    (25 ≤ beginDstDayOfMonth 2012 ∧ beginDstDayOfMonth 2012 ≤ 31 ∧
        dayOfWeekManual 2012 3 (beginDstDayOfMonth 2012) = 6) ∧
      (25 ≤ endDstDayOfMonth 2012 ∧ endDstDayOfMonth 2012 ≤ 31 ∧
        dayOfWeekManual 2012 10 (endDstDayOfMonth 2012) = 6) ∧
      ∀ moment : Moment gregorian, moment.year = 2012 →
        (dstCorrectionNeededTY (unixtimeOf moment) 2012 = true ↔
          dstBegin 2012 ≤ moment ∧ moment ≤ dstEnd 2012) :=
  summer_time_gregorian (by decide) (by decide)

end

end EquinoxClock.Rtc
