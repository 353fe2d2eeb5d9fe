/-
What a second of the running clock does.

A clock is `Settled` when its registers hold a valid date, its stored limits are those of this or an
earlier year, and its summer-time status is the one the limits give for the time shown. Setting a
valid time settles the clock (`rtcTimeSetTime_settled`), and a tick keeps it settled and does one of
three things (`Settled.tick`): it moves on by a second; at the stored beginning of summer time it
moves on by a second and an hour; and one second after the stored end of summer time it goes back by
an hour *and keeps the summer-time status*, because the time it goes back to lies before the end
again and `RTC_time_SetTime` recomputes the status from it.
-/

import EquinoxClock.Rtc.Clock

namespace EquinoxClock.Rtc

open EquinoxClock.Lib

section

variable {clock : Clock}

/-! ### The getters on valid registers -/

theorem getY_eq (valid : clock.rtc.Valid) : getY clock = clock.rtc.year :=
  TimeType.and_mask_of_le (valid.year_le.trans (by decide))

theorem getM_eq (valid : clock.rtc.Valid) : getM clock = clock.rtc.month :=
  TimeType.and_mask_of_le (valid.month_le.trans (by decide))

theorem getDom_eq (valid : clock.rtc.Valid) : getDom clock = clock.rtc.dom :=
  TimeType.and_mask_of_le valid.dom_le_31

theorem getHh_eq (valid : clock.rtc.Valid) : getHh clock = clock.rtc.hour :=
  TimeType.and_mask_of_le (valid.hh_lt.le.trans (by decide))

theorem getMm_eq (valid : clock.rtc.Valid) : getMm clock = clock.rtc.min :=
  TimeType.and_mask_of_le (valid.mm_lt.le.trans (by decide))

theorem getSs_eq (valid : clock.rtc.Valid) : getSs clock = clock.rtc.sec :=
  TimeType.and_mask_of_le (valid.ss_lt.le.trans (by decide))

variable [Board]

theorem registersUnixtime_eq (valid : clock.rtc.Valid) : registersUnixtime clock =
    rtcTimeFindUnixtime clock.rtc.year clock.rtc.month clock.rtc.dom clock.rtc.hour clock.rtc.min
      clock.rtc.sec := by
  rw [registersUnixtime, getY_eq valid, getM_eq valid, getDom_eq valid, getHh_eq valid,
    getMm_eq valid, getSs_eq valid]

/-- **The hardware adds a second** to the time in the registers. -/
theorem registersUnixtime_advance (valid : clock.rtc.Valid)
    (century : (advance clock.rtc).year ≤ 2099) (time2 : Time2) :
    (advance clock.rtc).Valid ∧
      registersUnixtime ⟨advance clock.rtc, time2⟩ = registersUnixtime clock + 1 := by
  obtain ⟨later, next⟩ := valid.advance century
  refine ⟨later, ?_⟩
  have before := valid.unixtime
  have after := later.unixtime
  rw [next, Moment.seconds_next, ← before] at after
  have shown : registersUnixtime ⟨advance clock.rtc, time2⟩ =
      rtcTimeFindUnixtime (advance clock.rtc).year (advance clock.rtc).month (advance clock.rtc).dom
        (advance clock.rtc).hour (advance clock.rtc).min (advance clock.rtc).sec :=
    registersUnixtime_eq later
  rw [registersUnixtime_eq valid, shown]
  omega

/-! ### `RTC_time_SetTime` -/

omit [Board] in
@[simp] theorem getDstStatus_setDstStatus (set : Bool) (clock : Clock) :
    getDstStatus (setDstStatus set clock) = set := by
  cases set <;> rfl

/-- `RTC_time_SetTime`, register by register. -/
theorem rtcTimeSetTime_eq (args : TimeArgs) (clock : Clock) :
    rtcTimeSetTime args clock =
      { rtc := { clock.rtc with
          year := args.year &&& TimeType.year.mask
          month := args.month &&& TimeType.month.mask
          dom := args.dom &&& TimeType.dayOfMonth.mask
          dow := dayOfWeekManual args.year args.month args.dom &&& TimeType.dayOfWeek.mask
          doy := daysFrom20xx args.year args.month args.dom &&& TimeType.dayOfYear.mask
          sec := args.ss &&& TimeType.second.mask
          min := args.mm &&& TimeType.minute.mask
          hour := args.hh &&& TimeType.hour.mask
          gpreg3 := if dstCorrectionNeededTY (rtcTimeFindUnixtime args.year args.month args.dom
            args.hh args.mm args.ss) args.year then dstWord else 0 }
        time2 := { clock.time2 with
          dstBeginCalculated := beginDstUnix (args.year &&& TimeType.year.mask)
          dstEndCalculated := endDstUnix (args.year &&& TimeType.year.mask) } } := by
  have masked : ∀ value, value &&& TimeType.year.mask &&& TimeType.year.mask =
      value &&& TimeType.year.mask := fun value => by rw [Nat.and_assoc, Nat.and_self]
  unfold rtcTimeSetTime yearlyCheck dstYearly getY
  split <;> simp_all [setTime, rtcSetTime, rtcGetTime, setDstStatus]

/-- After setting a valid time the registers show it, the status is the one that belongs to it, and
the limits are those of its year. -/
theorem rtcTimeSetTime_valid {args : TimeArgs} (valid : args.Valid) (clock : Clock) :
    (rtcTimeSetTime args clock).rtc.Valid ∧
      (rtcTimeSetTime args clock).rtc.year = args.year ∧
      registersUnixtime (rtcTimeSetTime args clock) =
        rtcTimeFindUnixtime args.year args.month args.dom args.hh args.mm args.ss ∧
      getDstStatus (rtcTimeSetTime args clock) =
        dstCorrectionNeededTY (rtcTimeFindUnixtime args.year args.month args.dom args.hh args.mm
          args.ss) args.year ∧
      (rtcTimeSetTime args clock).time2.dstBeginCalculated = beginDstUnix args.year ∧
      (rtcTimeSetTime args clock).time2.dstEndCalculated = endDstUnix args.year := by
  have year : args.year &&& TimeType.year.mask = args.year :=
    TimeType.and_mask_of_le (valid.year_le.trans (by decide))
  have month : args.month &&& TimeType.month.mask = args.month :=
    TimeType.and_mask_of_le (valid.month_le.trans (by decide))
  have dom : args.dom &&& TimeType.dayOfMonth.mask = args.dom :=
    TimeType.and_mask_of_le valid.dom_le_31
  have hour : args.hh &&& TimeType.hour.mask = args.hh :=
    TimeType.and_mask_of_le (valid.hh_lt.le.trans (by decide))
  have minute : args.mm &&& TimeType.minute.mask = args.mm :=
    TimeType.and_mask_of_le (valid.mm_lt.le.trans (by decide))
  have second : args.ss &&& TimeType.second.mask = args.ss :=
    TimeType.and_mask_of_le (valid.ss_lt.le.trans (by decide))
  have shown : (rtcTimeSetTime args clock).rtc.Valid := by
    rw [rtcTimeSetTime_eq]
    simpa only [Registers.Valid, year, month, dom, hour, minute, second] using valid
  refine ⟨shown, ?_, ?_, ?_, ?_, ?_⟩
  · rw [rtcTimeSetTime_eq]
    exact year
  · rw [registersUnixtime_eq shown, rtcTimeSetTime_eq]
    simp only [year, month, dom, hour, minute, second]
  · rw [rtcTimeSetTime_eq]
    unfold getDstStatus
    cases dstCorrectionNeededTY _ _ <;> rfl
  · rw [rtcTimeSetTime_eq]
    simp only [year]
  · rw [rtcTimeSetTime_eq]
    simp only [year]

/-! ### The checks before the secondly one -/

/-- The nest of tests leads to `yearlyCheck`. -/
def YearlyCheckReached (clock : Clock) : Prop :=
  getSs clock = 0 ∧ getMm clock = 0 ∧ getHh clock = 0 ∧ 1 = getDow clock ∧ 1 = getDom clock ∧
    1 = getM clock

instance (clock : Clock) : Decidable (YearlyCheckReached clock) := by
  unfold YearlyCheckReached
  infer_instance

theorem dailyCheck_keeps (clock : Clock) :
    (dailyCheck clock).rtc = clock.rtc ∧
      (dailyCheck clock).time2.dstBeginCalculated = clock.time2.dstBeginCalculated ∧
      (dailyCheck clock).time2.dstEndCalculated = clock.time2.dstEndCalculated := by
  unfold dailyCheck
  dsimp only
  split <;> exact ⟨rfl, rfl, rfl⟩

omit [Board] in
theorem minutelyCheck_keeps (clock : Clock) :
    (minutelyCheck clock).rtc = clock.rtc ∧
      (minutelyCheck clock).time2.dstBeginCalculated = clock.time2.dstBeginCalculated ∧
      (minutelyCheck clock).time2.dstEndCalculated = clock.time2.dstEndCalculated := by
  unfold minutelyCheck
  dsimp only
  split
  · split <;> exact ⟨rfl, rfl, rfl⟩
  · exact ⟨rfl, rfl, rfl⟩

/-- **The calendar checks** keep the registers, and touch the stored limits only through
`yearlyCheck`. -/
theorem calendarChecks_eq (clock : Clock) :
    (calendarChecks clock).rtc = clock.rtc ∧
      (calendarChecks clock).time2.dstBeginCalculated =
        (if YearlyCheckReached clock then beginDstUnix (getY clock)
          else clock.time2.dstBeginCalculated) ∧
      (calendarChecks clock).time2.dstEndCalculated =
        (if YearlyCheckReached clock then endDstUnix (getY clock)
          else clock.time2.dstEndCalculated) := by
  unfold calendarChecks
  by_cases second : getSs clock = 0
  swap
  · rw [if_neg second, if_neg fun reached => second reached.1, if_neg fun reached => second reached.1]
    exact ⟨rfl, rfl, rfl⟩
  rw [if_pos second]
  dsimp only
  rw [(minutelyCheck_keeps _).1, (minutelyCheck_keeps _).2.1, (minutelyCheck_keeps _).2.2]
  by_cases minute : getMm clock = 0
  swap
  · rw [if_neg minute, if_neg fun reached => minute reached.2.1,
      if_neg fun reached => minute reached.2.1]
    exact ⟨rfl, rfl, rfl⟩
  rw [if_pos minute]
  unfold hourlyCheck
  by_cases hour : getHh clock = 0
  swap
  · rw [if_neg hour, if_neg fun reached => hour reached.2.2.1,
      if_neg fun reached => hour reached.2.2.1]
    exact ⟨rfl, rfl, rfl⟩
  rw [if_pos hour, (dailyCheck_keeps _).1, (dailyCheck_keeps _).2.1, (dailyCheck_keeps _).2.2]
  unfold weeklyCheck monthlyCheck
  by_cases weekday : 1 = getDow clock
  swap
  · rw [if_neg weekday, if_neg fun reached => weekday reached.2.2.2.1,
      if_neg fun reached => weekday reached.2.2.2.1]
    exact ⟨rfl, rfl, rfl⟩
  by_cases day : 1 = getDom clock
  swap
  · rw [if_pos weekday, if_neg day, if_neg fun reached => day reached.2.2.2.2.1,
      if_neg fun reached => day reached.2.2.2.2.1]
    exact ⟨rfl, rfl, rfl⟩
  by_cases month : 1 = getM clock
  swap
  · rw [if_pos weekday, if_pos day, if_neg month, if_neg fun reached => month reached.2.2.2.2.2,
      if_neg fun reached => month reached.2.2.2.2.2]
    exact ⟨rfl, rfl, rfl⟩
  have reached : YearlyCheckReached clock := ⟨second, minute, hour, weekday, day, month⟩
  rw [if_pos weekday, if_pos day, if_pos month, if_pos reached, if_pos reached]
  unfold yearlyCheck dstYearly
  exact ⟨rfl, rfl, rfl⟩

/-! ### One second -/

/-- The state in which the interrupt of the following second starts its checks. -/
def interruptState (clock : Clock) : Clock where
  rtc := { advance clock.rtc with counterIncrease := false }
  time2 := { clock.time2 with secondInc := 1 }

/-- The state in which the interrupt of the following second decides about a correction. -/
def decisionState (clock : Clock) : Clock := updateTime (calendarChecks (interruptState clock))

/-- A tick is the decision about a correction, after everything else. -/
theorem rtcTick_eq (clock : Clock) : rtcTick clock =
    let decided := dstCheckAndCorrect (decisionState clock)
    if decided.rtc.alarm then { decided with rtc := { decided.rtc with alarm := false } }
    else decided := by
  have pending : (advance clock.rtc).counterIncrease = true := by
    unfold advance nextDay
    dsimp only
    split_ifs <;> rfl
  unfold rtcTick rtcIrqHandler
  rw [if_pos pending]
  rfl

/-- The time shown depends on the registers only. -/
theorem registersUnixtime_congr {first second : Clock} (same : first.rtc = second.rtc) :
    registersUnixtime first = registersUnixtime second := by
  simp only [registersUnixtime, getY, getM, getDom, getHh, getMm, getSs, same]

@[simp] theorem updateTime_updateTime (clock : Clock) :
    updateTime (updateTime clock) = updateTime clock := by
  have same : registersUnixtime (updateTime clock) = registersUnixtime clock :=
    registersUnixtime_congr rfl
  show { updateTime clock with time2 := { (updateTime clock).time2 with
    unix := registersUnixtime (updateTime clock) } } = updateTime clock
  rw [same]
  rfl

/-- The state of the decision: the registers and the Unix time have moved on by a second. -/
theorem decisionState_eq (valid : clock.rtc.Valid) (century : (advance clock.rtc).year ≤ 2099) :
    (decisionState clock).rtc = { advance clock.rtc with counterIncrease := false } ∧
      registersUnixtime (decisionState clock) = registersUnixtime clock + 1 ∧
      (decisionState clock).time2.unix = registersUnixtime clock + 1 ∧
      getDstStatus (decisionState clock) = getDstStatus clock := by
  have same : (decisionState clock).rtc = { advance clock.rtc with counterIncrease := false } :=
    (calendarChecks_eq _).1
  have unix : registersUnixtime (decisionState clock) = registersUnixtime clock + 1 := by
    rw [← (registersUnixtime_advance valid century clock.time2).2]
    simp only [registersUnixtime, getY, getM, getDom, getHh, getMm, getSs, same, rtcGetTime]
  refine ⟨same, unix, ?_, ?_⟩
  · rw [← unix]
    exact registersUnixtime_congr rfl
  · have word : (advance clock.rtc).gpreg3 = clock.rtc.gpreg3 := by
      unfold advance nextDay
      dsimp only
      split_ifs <;> rfl
    simp only [getDstStatus, same, word]

/-- A correction sets the time of day that belongs to the moved Unix time. -/
theorem dstCheckAndCorrect_of_moved {hh mm ss : Nat}
    (valid : ValidTime (getY clock) (getM clock) (getDom clock) hh mm ss)
    (differs : dstCorrectionNeeded clock ≠ getDstStatus clock)
    (moved : (if dstCorrectionNeeded clock then (dstCorrectionValueSec + clock.time2.unix) % 2 ^ 32
        else (2 ^ 32 + clock.time2.unix - dstCorrectionValueSec) % 2 ^ 32) =
      rtcTimeFindUnixtime (getY clock) (getM clock) (getDom clock) hh mm ss) :
    ∃ before, dstCheckAndCorrect clock =
      rtcTimeSetTime ⟨getY clock, getM clock, getDom clock, hh, mm, ss, 0⟩ before := by
  unfold dstCheckAndCorrect
  rw [if_pos (by simpa using differs)]
  dsimp only
  split at moved
  · rename_i needed
    rw [if_pos needed]
    simp only [setDstStatus, moved, valid.unixToHhMmSs_eq]
    exact ⟨_, rfl⟩
  · rename_i needed
    rw [if_neg needed]
    simp only [setDstStatus, moved, valid.unixToHhMmSs_eq]
    exact ⟨_, rfl⟩

/-- The clock shows a valid time, its limits are those of this or an earlier year, and its
summer-time status is the one the limits give for the time shown. -/
structure Settled (clock : Clock) : Prop where
  valid : clock.rtc.Valid
  limits : ∃ year, 2000 ≤ year ∧ year ≤ clock.rtc.year ∧
    clock.time2.dstBeginCalculated = beginDstUnix year ∧
    clock.time2.dstEndCalculated = endDstUnix year
  status : getDstStatus clock = dstCorrectionNeeded (updateTime clock)

/-- **Setting a valid time settles the clock.** -/
theorem rtcTimeSetTime_settled {args : TimeArgs} (valid : args.Valid) (clock : Clock) :
    Settled (rtcTimeSetTime args clock) := by
  obtain ⟨shown, year, unix, status, first, last⟩ := rtcTimeSetTime_valid valid clock
  refine ⟨shown, ⟨args.year, valid.year_ge, year.ge, first, last⟩, ?_⟩
  rw [status, dstCorrectionNeeded, dstCorrectionNeededTY]
  simp only [updateTime, unix, first, last]

/-- New Year's Day is over before the summer time of its year begins. -/
theorem newYear_le_beginDstUnix {year : Nat} (yearGe : 2000 ≤ year) (yearLe : year ≤ 2099) :
    rtcTimeFindUnixtime year 1 1 0 0 0 + 86400 ≤ beginDstUnix year := by
  have first : ValidTime year 1 1 23 59 59 :=
    ⟨yearGe, yearLe, by decide, by decide, by decide,
      (monthLength_pos leapYear year 1).trans' (by decide), by decide, by decide, by decide⟩
  have midnight : ValidTime year 1 1 0 0 0 :=
    { first with hh_lt := by decide, mm_lt := by decide, ss_lt := by decide }
  have zero : 0 < 60 := by decide
  have march := first.unixtime_lt_of_month_lt
    (beginDst_valid yearGe yearLe (show 1 < 24 by decide) zero zero) (by decide)
  rw [first.unixtime_eq, ← beginDstUnix] at march
  rw [midnight.unixtime_eq]
  omega

/-- The second after the summer time of a year, and the hour before it, are times of the last day of
the summer time. -/
theorem endDstUnix_succ {year : Nat} (yearGe : 2000 ≤ year) (yearLe : year ≤ 2099) :
    endDstUnix year + 1 = rtcTimeFindUnixtime year 10 (endDstDayOfMonth year) 1 0 1 ∧
      endDstUnix year + 1 =
        rtcTimeFindUnixtime year 10 (endDstDayOfMonth year) 0 0 1 + dstCorrectionValueSec := by
  have shown {hh mm ss : Nat} (hour : hh < 24) (minute : mm < 60) (second : ss < 60) :=
    (endDst_valid yearGe yearLe hour minute second).unixtime_eq
  rw [endDstUnix, shown (by decide) (by decide) (by decide),
    shown (by decide) (by decide) (by decide), shown (by decide) (by decide) (by decide),
    dstCorrectionValueSec]
  omega

/-- An hour after the beginning of the summer time is a time of its first day. -/
theorem beginDstUnix_add {year : Nat} (yearGe : 2000 ≤ year) (yearLe : year ≤ 2099) :
    beginDstUnix year + dstCorrectionValueSec =
      rtcTimeFindUnixtime year 3 (beginDstDayOfMonth year) 2 0 0 := by
  have shown {hh mm ss : Nat} (hour : hh < 24) (minute : mm < 60) (second : ss < 60) :=
    (beginDst_valid yearGe yearLe hour minute second).unixtime_eq
  rw [beginDstUnix, shown (by decide) (by decide) (by decide),
    shown (by decide) (by decide) (by decide), dstCorrectionValueSec]
  omega

/-- The limits of an earlier year lie in the past of a New Year. -/
theorem endDstUnix_lt_newYear {year later : Nat} (yearGe : 2000 ≤ year) (laterLe : later ≤ 2099)
    (earlier : year < later) :
    endDstUnix year + 1 < rtcTimeFindUnixtime later 1 1 0 0 0 := by
  rw [(endDstUnix_succ yearGe (by omega)).1]
  exact ValidTime.unixtime_lt_of_year_lt
    (endDst_valid yearGe (by omega) (by decide) (by decide) (by decide))
    ⟨by omega, laterLe, by decide, by decide, by decide,
      (monthLength_pos leapYear later 1).trans' (by decide), by decide, by decide, by decide⟩ earlier

/-- **The limits of the decision.** The stored status is also the one that the limits of the
decision give for the time before it: where `yearlyCheck` has replaced them, it is winter in both
years. -/
theorem Settled.limits_decision (settled : Settled clock)
    (century : (advance clock.rtc).year ≤ 2099) :
    ∃ year, 2000 ≤ year ∧ year ≤ (advance clock.rtc).year ∧
      (decisionState clock).time2.dstBeginCalculated = beginDstUnix year ∧
      (decisionState clock).time2.dstEndCalculated = endDstUnix year ∧
      getDstStatus clock = (decide (beginDstUnix year ≤ registersUnixtime clock) &&
        decide (registersUnixtime clock ≤ endDstUnix year)) := by
  obtain ⟨year, yearGe, yearLe, first, last⟩ := settled.limits
  have later := settled.valid.year_advance.1
  have shown := (registersUnixtime_advance settled.valid century clock.time2).1
  have status := settled.status
  simp only [dstCorrectionNeeded, updateTime, first, last] at status
  have validBefore : (interruptState clock).rtc.Valid := shown
  obtain ⟨same, firstLater, lastLater⟩ := calendarChecks_eq (interruptState clock)
  by_cases reached : YearlyCheckReached (interruptState clock)
  · rw [if_pos reached, getY_eq validBefore] at firstLater lastLater
    refine ⟨(advance clock.rtc).year, shown.year_ge, le_rfl, firstLater, lastLater, ?_⟩
    obtain ⟨second, minute, hour, -, day, month⟩ := reached
    have newYear : registersUnixtime clock + 1 =
        rtcTimeFindUnixtime (advance clock.rtc).year 1 1 0 0 0 := by
      have before : registersUnixtime (decisionState clock) =
          registersUnixtime (interruptState clock) := registersUnixtime_congr same
      rw [← (decisionState_eq settled.valid century).2.1, before, registersUnixtime, second, minute,
        hour, ← day, ← month, getY_eq validBefore]
      rfl
    have winter := newYear_le_beginDstUnix shown.year_ge century
    have notLater : ¬ beginDstUnix (advance clock.rtc).year ≤ registersUnixtime clock := by omega
    rw [status, decide_eq_false notLater, Bool.false_and]
    rcases Nat.lt_or_eq_of_le (yearLe.trans later) with earlier | same
    · have past := endDstUnix_lt_newYear yearGe century earlier
      rw [decide_eq_false (show ¬ registersUnixtime clock ≤ endDstUnix year by omega),
        Bool.and_false]
    · rw [same, decide_eq_false notLater, Bool.false_and]
  · rw [if_neg reached] at firstLater lastLater
    exact ⟨year, yearGe, yearLe.trans later, firstLater.trans first, lastLater.trans last, status⟩

/-- What the following tick does: nothing but count, or a correction, which is due at the first
second of the summer time and at the first second after it. -/
inductive TickOutcome (clock : Clock) : Prop
  | quiet (needed : dstCorrectionNeeded (decisionState clock) = getDstStatus (decisionState clock))
      (unix : registersUnixtime (rtcTick clock) = registersUnixtime clock + 1)
      (status : getDstStatus (rtcTick clock) = getDstStatus clock)
  | forward (needed : dstCorrectionNeeded (decisionState clock) = true)
      (before : getDstStatus (decisionState clock) = false)
      (due : registersUnixtime clock + 1 = beginDstUnix (advance clock.rtc).year)
      (unix : registersUnixtime (rtcTick clock) =
        registersUnixtime clock + 1 + dstCorrectionValueSec)
      (status : getDstStatus (rtcTick clock) = true)
  | backward (needed : dstCorrectionNeeded (decisionState clock) = false)
      (before : getDstStatus (decisionState clock) = true)
      (due : registersUnixtime clock = endDstUnix (advance clock.rtc).year)
      (unix : registersUnixtime (rtcTick clock) + dstCorrectionValueSec =
        registersUnixtime clock + 1)
      (status : getDstStatus (rtcTick clock) = true)

/-- The alarm branch of the handler changes nothing a clock shows. -/
theorem rtcTick_shows (clock : Clock) :
    (rtcTick clock).rtc.year = (dstCheckAndCorrect (decisionState clock)).rtc.year ∧
      registersUnixtime (rtcTick clock) =
        registersUnixtime (dstCheckAndCorrect (decisionState clock)) ∧
      getDstStatus (rtcTick clock) = getDstStatus (dstCheckAndCorrect (decisionState clock)) ∧
      (Settled (dstCheckAndCorrect (decisionState clock)) → Settled (rtcTick clock)) := by
  rw [rtcTick_eq]
  dsimp only
  split
  · refine ⟨rfl, ?_, rfl, fun settled => ⟨settled.valid, settled.limits, ?_⟩⟩
    · simp only [registersUnixtime, getY, getM, getDom, getHh, getMm, getSs, rtcGetTime]
    · have status := settled.status
      simp only [dstCorrectionNeeded, updateTime, registersUnixtime, getY, getM, getDom, getHh,
        getMm, getSs, rtcGetTime, getDstStatus] at status ⊢
      exact status
  · exact ⟨rfl, rfl, rfl, id⟩

/-- A correction on a known date, when the moved time is a time of that date. -/
theorem Settled.corrected {year month dom hh mm ss : Nat} (settled : Settled clock)
    (century : (advance clock.rtc).year ≤ 2099)
    (date : getY (decisionState clock) = year ∧ getM (decisionState clock) = month ∧
      getDom (decisionState clock) = dom)
    (valid : ValidTime year month dom hh mm ss)
    (differs : dstCorrectionNeeded (decisionState clock) ≠ getDstStatus (decisionState clock))
    (moved : (if dstCorrectionNeeded (decisionState clock) then
        (dstCorrectionValueSec + (registersUnixtime clock + 1)) % 2 ^ 32
      else (2 ^ 32 + (registersUnixtime clock + 1) - dstCorrectionValueSec) % 2 ^ 32) =
      rtcTimeFindUnixtime year month dom hh mm ss) :
    Settled (rtcTick clock) ∧ (rtcTick clock).rtc.year = year ∧
      registersUnixtime (rtcTick clock) = rtcTimeFindUnixtime year month dom hh mm ss ∧
      getDstStatus (rtcTick clock) =
        dstCorrectionNeededTY (rtcTimeFindUnixtime year month dom hh mm ss) year := by
  obtain ⟨rfl, rfl, rfl⟩ := date
  rw [← (decisionState_eq settled.valid century).2.2.1] at moved
  obtain ⟨before, result⟩ := dstCheckAndCorrect_of_moved valid differs moved
  obtain ⟨sameYear, sameUnix, sameStatus, settles⟩ := rtcTick_shows clock
  rw [result] at sameYear sameUnix sameStatus settles
  have args : TimeArgs.Valid ⟨getY (decisionState clock), getM (decisionState clock),
    getDom (decisionState clock), hh, mm, ss, 0⟩ := valid
  obtain ⟨-, year, unix, status, -, -⟩ := rtcTimeSetTime_valid args before
  exact ⟨settles (rtcTimeSetTime_settled args before), sameYear.trans year, sameUnix.trans unix,
    sameStatus.trans status⟩

/-- The date of the decision, where its Unix time is known. -/
theorem decisionState_date {year month dom hh mm ss : Nat} (valid : clock.rtc.Valid)
    (century : (advance clock.rtc).year ≤ 2099) (named : ValidTime year month dom hh mm ss)
    (time : registersUnixtime clock + 1 = rtcTimeFindUnixtime year month dom hh mm ss) :
    (advance clock.rtc).year = year ∧ getY (decisionState clock) = year ∧
      getM (decisionState clock) = month ∧ getDom (decisionState clock) = dom := by
  obtain ⟨same, unix, -, -⟩ := decisionState_eq valid century
  have shown : (decisionState clock).rtc.Valid := by
    rw [same]
    exact (registersUnixtime_advance valid century clock.time2).1
  have sameDate := shown.unixtime_injective named
    ((registersUnixtime_eq shown).symm.trans (unix.trans time))
  have sameYear : (decisionState clock).rtc.year = (advance clock.rtc).year := by rw [same]
  exact ⟨sameYear.symm.trans sameDate.1, (getY_eq shown).trans sameDate.1,
    (getM_eq shown).trans sameDate.2.1, (getDom_eq shown).trans sameDate.2.2.1⟩

/-- A second at which the status is the one that is needed. -/
theorem Settled.tick_quiet (settled : Settled clock) (century : (advance clock.rtc).year ≤ 2099)
    (agrees : dstCorrectionNeeded (decisionState clock) = getDstStatus (decisionState clock)) :
    Settled (rtcTick clock) ∧ (rtcTick clock).rtc.year = (advance clock.rtc).year ∧
      TickOutcome clock := by
  obtain ⟨year, yearGe, yearLe, first, last, -⟩ := settled.limits_decision century
  obtain ⟨same, unix, unixStored, statusKept⟩ := decisionState_eq settled.valid century
  have shown : (decisionState clock).rtc.Valid := by
    rw [same]
    exact (registersUnixtime_advance settled.valid century clock.time2).1
  have sameYear : (decisionState clock).rtc.year = (advance clock.rtc).year := by rw [same]
  obtain ⟨tickYear, tickUnix, tickStatus, settles⟩ := rtcTick_shows clock
  have nothing : dstCheckAndCorrect (decisionState clock) = decisionState clock := by
    rw [dstCheckAndCorrect, if_neg (by simpa using agrees)]
  rw [nothing] at tickYear tickUnix tickStatus settles
  refine ⟨settles ⟨shown, ⟨year, yearGe, sameYear ▸ yearLe, first, last⟩, ?_⟩,
    tickYear.trans sameYear, .quiet agrees (tickUnix.trans unix) (tickStatus.trans statusKept)⟩
  rw [← agrees]
  simp only [dstCorrectionNeeded, updateTime, unix, unixStored]

/-- The first second of the summer time. -/
theorem Settled.tick_forward (settled : Settled clock) (century : (advance clock.rtc).year ≤ 2099)
    (needed : dstCorrectionNeeded (decisionState clock) = true)
    (before : getDstStatus (decisionState clock) = false) :
    Settled (rtcTick clock) ∧ (rtcTick clock).rtc.year = (advance clock.rtc).year ∧
      TickOutcome clock := by
  obtain ⟨year, yearGe, yearLe, first, last, status⟩ := settled.limits_decision century
  obtain ⟨-, -, unixStored, statusKept⟩ := decisionState_eq settled.valid century
  have yearLe2099 : year ≤ 2099 := yearLe.trans century
  have due : registersUnixtime clock + 1 = beginDstUnix year := by
    have inside := needed
    have outside := statusKept.symm.trans before
    rw [dstCorrectionNeeded, unixStored, first, last] at inside
    rw [status] at outside
    simp only [Bool.and_eq_true, decide_eq_true_eq] at inside
    simp only [Bool.and_eq_false_iff, decide_eq_false_iff_not] at outside
    omega
  have small : endDstUnix year < 2 ^ 32 := Nat.mod_lt _ (by decide)
  have summer := beginDstUnix_lt_endDstUnix yearGe yearLe2099
  have moved := beginDstUnix_add yearGe yearLe2099
  have oClock : ValidTime year 3 (beginDstDayOfMonth year) 1 0 0 :=
    beginDst_valid yearGe yearLe2099 (by decide) (by decide) (by decide)
  have anHourLater : ValidTime year 3 (beginDstDayOfMonth year) 2 0 0 :=
    beginDst_valid yearGe yearLe2099 (by decide) (by decide) (by decide)
  obtain ⟨yearEq, onTheDay⟩ := decisionState_date settled.valid century oClock due
  obtain ⟨settles, tickYear, tickUnix, tickStatus⟩ := settled.corrected century onTheDay anHourLater
    (by rw [needed, before]; exact Bool.noConfusion)
    (by
      rw [needed, if_pos rfl, due, ← moved, dstCorrectionValueSec]
      omega)
  refine ⟨settles, tickYear.trans yearEq.symm, .forward needed before (yearEq ▸ due) ?_ ?_⟩
  · rw [tickUnix, due, moved]
  · rw [tickStatus, ← moved, dstCorrectionNeededTY, dstCorrectionValueSec]
    simp only [Bool.and_eq_true, decide_eq_true_eq]
    omega

/-- The first second after the summer time. -/
theorem Settled.tick_backward (settled : Settled clock) (century : (advance clock.rtc).year ≤ 2099)
    (needed : dstCorrectionNeeded (decisionState clock) = false)
    (before : getDstStatus (decisionState clock) = true) :
    Settled (rtcTick clock) ∧ (rtcTick clock).rtc.year = (advance clock.rtc).year ∧
      TickOutcome clock := by
  obtain ⟨year, yearGe, yearLe, first, last, status⟩ := settled.limits_decision century
  obtain ⟨-, -, unixStored, statusKept⟩ := decisionState_eq settled.valid century
  have yearLe2099 : year ≤ 2099 := yearLe.trans century
  have due : registersUnixtime clock = endDstUnix year := by
    have outside := needed
    have inside := statusKept.symm.trans before
    rw [dstCorrectionNeeded, unixStored, first, last] at outside
    rw [status] at inside
    simp only [Bool.and_eq_true, decide_eq_true_eq] at inside
    simp only [Bool.and_eq_false_iff, decide_eq_false_iff_not] at outside
    omega
  have fits : rtcTimeFindUnixtime year 10 (endDstDayOfMonth year) 0 0 1 < 2 ^ 32 :=
    Nat.mod_lt _ (by decide)
  have summer := beginDstUnix_lt_endDstUnix yearGe yearLe2099
  obtain ⟨second, moved⟩ := endDstUnix_succ yearGe yearLe2099
  have oClock : ValidTime year 10 (endDstDayOfMonth year) 1 0 1 :=
    endDst_valid yearGe yearLe2099 (by decide) (by decide) (by decide)
  have anHourBefore : ValidTime year 10 (endDstDayOfMonth year) 0 0 1 :=
    endDst_valid yearGe yearLe2099 (by decide) (by decide) (by decide)
  obtain ⟨yearEq, onTheDay⟩ := decisionState_date settled.valid century oClock
    ((congrArg (· + 1) due).trans second)
  obtain ⟨settles, tickYear, tickUnix, tickStatus⟩ := settled.corrected century onTheDay anHourBefore
    (by rw [needed, before]; exact Bool.noConfusion)
    (by
      rw [needed, if_neg Bool.false_ne_true, due, moved, dstCorrectionValueSec]
      omega)
  refine ⟨settles, tickYear.trans yearEq.symm, .backward needed before (yearEq ▸ due) ?_ ?_⟩
  · rw [tickUnix, due, moved]
  · rw [dstCorrectionValueSec] at moved
    rw [tickStatus, dstCorrectionNeededTY]
    simp only [Bool.and_eq_true, decide_eq_true_eq]
    omega

/-- **One second of a settled clock.** -/
theorem Settled.tick (settled : Settled clock) (century : (advance clock.rtc).year ≤ 2099) :
    Settled (rtcTick clock) ∧ (rtcTick clock).rtc.year = (advance clock.rtc).year ∧
      TickOutcome clock := by
  by_cases agrees : dstCorrectionNeeded (decisionState clock) = getDstStatus (decisionState clock)
  · exact settled.tick_quiet century agrees
  · cases needed : dstCorrectionNeeded (decisionState clock) with
    | true =>
        rw [needed] at agrees
        exact settled.tick_forward century needed (Bool.eq_false_iff.mpr (Ne.symm agrees))
    | false =>
        rw [needed] at agrees
        exact settled.tick_backward century needed (Bool.eq_true_of_not_eq_false (Ne.symm agrees))

/-- The year in the register after a tick, whatever the tick does. -/
theorem getY_rtcTick (clock : Clock) :
    getY (rtcTick clock) = (advance clock.rtc).year &&& TimeType.year.mask := by
  have decided : getY (dstCheckAndCorrect (decisionState clock)) =
      (decisionState clock).rtc.year &&& TimeType.year.mask := by
    unfold dstCheckAndCorrect
    split
    · dsimp only
      rw [rtcTimeSetTime_eq]
      split <;> simp only [getY, rtcGetTime, setDstStatus, Nat.and_assoc, Nat.and_self]
    · rfl
  have same : (decisionState clock).rtc.year = (advance clock.rtc).year := by
    rw [decisionState, updateTime, (calendarChecks_eq _).1]
    rfl
  rw [getY, rtcGetTime, (rtcTick_shows clock).1]
  rw [getY, rtcGetTime, same] at decided
  exact decided

/-- In its summer time a settled clock shows a time between the limits of the year it shows. -/
theorem Settled.summer (settled : Settled clock) (summer : getDstStatus clock = true) :
    beginDstUnix clock.rtc.year ≤ registersUnixtime clock ∧
      registersUnixtime clock ≤ endDstUnix clock.rtc.year := by
  obtain ⟨year, yearGe, yearLe, first, last⟩ := settled.limits
  have status := settled.status
  rw [summer, dstCorrectionNeeded, updateTime] at status
  simp only [first, last, Bool.true_eq, Bool.and_eq_true, decide_eq_true_eq] at status
  rcases Nat.lt_or_eq_of_le yearLe with earlier | rfl
  · have past := ValidTime.unixtime_lt_of_year_lt
      (endDst_valid yearGe (yearLe.trans settled.valid.year_le)
        (show 1 < 24 by decide) (show 0 < 60 by decide) (show 0 < 60 by decide))
      settled.valid earlier
    rw [← registersUnixtime_eq settled.valid, ← endDstUnix] at past
    omega
  · exact status

/-- The summer times of two years have no time in common. -/
theorem summer_year_unique {first second unix : Nat} (firstGe : 2000 ≤ first)
    (firstLe : first ≤ 2099) (secondGe : 2000 ≤ second) (secondLe : second ≤ 2099)
    (inFirst : beginDstUnix first ≤ unix ∧ unix ≤ endDstUnix first + 1)
    (inSecond : beginDstUnix second ≤ unix ∧ unix ≤ endDstUnix second + 1) : first = second := by
  have apart {earlier later : Nat} (earlierGe : 2000 ≤ earlier) (laterGe : 2000 ≤ later)
      (laterLe : later ≤ 2099) (ordered : earlier < later) :
      endDstUnix earlier + 1 < beginDstUnix later := by
    have := endDstUnix_lt_newYear earlierGe laterLe ordered
    have := newYear_le_beginDstUnix laterGe laterLe
    omega
  rcases Nat.lt_trichotomy first second with earlier | same | later
  · have := apart firstGe secondGe secondLe earlier
    omega
  · exact same
  · have := apart secondGe firstGe firstLe later
    omega

/-- In its summer time a settled clock does not enter a new year with the following second. -/
theorem Settled.summer_year (settled : Settled clock) (summer : getDstStatus clock = true) :
    (advance clock.rtc).year = clock.rtc.year := by
  have month : clock.rtc.month < 12 := by
    by_contra december
    have past := ValidTime.unixtime_lt_of_month_lt
      (endDst_valid settled.valid.year_ge settled.valid.year_le
        (show 1 < 24 by decide) (show 0 < 60 by decide) (show 0 < 60 by decide))
      settled.valid (show 10 < clock.rtc.month by omega)
    rw [← registersUnixtime_eq settled.valid, ← endDstUnix] at past
    have := (settled.summer summer).2
    omega
  unfold advance nextDay
  simp only [if_pos month]
  split_ifs <;> rfl

end

end EquinoxClock.Rtc
