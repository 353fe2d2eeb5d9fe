/-
The second after a time has been set.

Whatever the clock showed before, after `RTC_time_SetTime` the stored limits and the summer-time
status are those of the requested moment. So unless the summer time begins or ends with the following
second, the tick finds nothing to correct and shows the following second of the calendar
(`tick_after_set`). That holds for the last second of the century as well, where the hardware enters
the year 2100.
-/

import EquinoxClock.Rtc.Gregorian
import EquinoxClock.Rtc.Preempted

namespace EquinoxClock.Rtc

open EquinoxClock.Lib

/-- The registers show the moment. -/
def ShowsMoment (clock : Clock) (moment : Moment gregorian) : Prop :=
  [clock.rtc.year, clock.rtc.month, clock.rtc.dom, clock.rtc.hour, clock.rtc.min, clock.rtc.sec] =
    moment.fields

instance (clock : Clock) (moment : Moment gregorian) : Decidable (ShowsMoment clock moment) := by
  unfold ShowsMoment
  infer_instance

/-- The moment and the following second lie on the same side of both limits of the moment's year. -/
def SameSide (moment : Moment gregorian) : Prop :=
  (dstBegin moment.year ≤ moment ↔ dstBegin moment.year ≤ moment.next) ∧
    (moment ≤ dstEnd moment.year ↔ moment.next ≤ dstEnd moment.year)

section

variable [Board] {clock : Clock}

/-- A tick that decides on no correction leaves the registers to the hardware, and the Unix time is
the one they show. -/
theorem rtcTick_of_quiet (quiet :
    dstCorrectionNeeded (decisionState clock) = getDstStatus (decisionState clock)) :
    (rtcTick clock).time2.unix = registersUnixtime (rtcTick clock) ∧
      [(rtcTick clock).rtc.year, (rtcTick clock).rtc.month, (rtcTick clock).rtc.dom,
          (rtcTick clock).rtc.hour, (rtcTick clock).rtc.min, (rtcTick clock).rtc.sec] =
        [(advance clock.rtc).year, (advance clock.rtc).month, (advance clock.rtc).dom,
          (advance clock.rtc).hour, (advance clock.rtc).min, (advance clock.rtc).sec] := by
  have nothing : dstCheckAndCorrect (decisionState clock) = decisionState clock := by
    rw [dstCheckAndCorrect, if_neg (by simpa using quiet)]
  have same : (decisionState clock).rtc = { advance clock.rtc with counterIncrease := false } :=
    (calendarChecks_eq _).1
  have unix : (decisionState clock).time2.unix = registersUnixtime (decisionState clock) :=
    registersUnixtime_congr rfl
  have cleared : (rtcTick clock).time2 = (decisionState clock).time2 ∧
      registersUnixtime (rtcTick clock) = registersUnixtime (decisionState clock) := by
    refine ⟨?_, by rw [(rtcTick_shows clock).2.1, nothing]⟩
    rw [rtcTick_eq, nothing]
    dsimp only
    split <;> rfl
  have counter := (rtcTick_of_undecided quiet).1
  refine ⟨by rw [cleared.1, cleared.2, unix], ?_⟩
  have year := counter .year
  have month := counter .month
  have dom := counter .dayOfMonth
  have hour := counter .hour
  have minute := counter .minute
  have second := counter .second
  simp only [Registers.counter] at year month dom hour minute second
  rw [year, month, dom, hour, minute, second]

/-- On entering a later year than a settled clock shows, no correction is due; otherwise one is due
only at a limit of the year. -/
theorem Settled.quiet (settled : Settled clock) (century : (advance clock.rtc).year ≤ 2099)
    (notBegin : registersUnixtime clock + 1 ≠ beginDstUnix clock.rtc.year)
    (notEnd : registersUnixtime clock ≠ endDstUnix clock.rtc.year) :
    dstCorrectionNeeded (decisionState clock) = getDstStatus (decisionState clock) := by
  have unix := (settled.quiet_tick century notBegin notEnd).2.2.1
  obtain ⟨-, -, outcome⟩ := settled.tick century
  cases outcome with
  | quiet needed => exact needed
  | forward _ _ _ moved =>
      rw [unix, dstCorrectionValueSec] at moved
      omega
  | backward _ _ _ moved =>
      rw [unix, dstCorrectionValueSec] at moved
      omega

/-- The registers after a valid time has been set. -/
theorem rtcTimeSetTime_registers {args : TimeArgs} (valid : args.Valid) (clock : Clock) :
    [(rtcTimeSetTime args clock).rtc.year, (rtcTimeSetTime args clock).rtc.month,
        (rtcTimeSetTime args clock).rtc.dom, (rtcTimeSetTime args clock).rtc.hour,
        (rtcTimeSetTime args clock).rtc.min, (rtcTimeSetTime args clock).rtc.sec] =
      [args.year, args.month, args.dom, args.hh, args.mm, args.ss] := by
  obtain ⟨year, month, dom, hour, minute, second⟩ := valid.value_mask
  simp only [TimeArgs.value] at year month dom hour minute second
  rw [rtcTimeSetTime_eq]
  simp only [year, month, dom, hour, minute, second]

/-- The century ends at the Unix time 4102444800. -/
theorem unixtimeOf_lt (moment : Century) : unixtimeOf moment.1 < 4102444800 := by
  have days := moment.valid.daysFrom2000_lt
  have hour := moment.1.hour_lt
  have minute := moment.1.minute_lt
  have second := moment.1.second_lt
  rw [unixtimeOf, moment.valid.unixtime_eq, secondsFrom1970To2000]
  omega

/-- **Within the century.** -/
theorem tick_within (moment : Century) (st : Nat) (clock : Clock) (sameSide : SameSide moment.1)
    (within : moment.1.next.year ≤ 2099) :
    ShowsMoment (rtcTick (rtcTimeSetTime (moment.args st) clock)) moment.1.next ∧
      (rtcTick (rtcTimeSetTime (moment.args st) clock)).time2.unix = unixtimeOf moment.1.next := by
  have valid : (moment.args st).Valid := moment.valid
  obtain ⟨shown, year, unix, -⟩ := rtcTimeSetTime_valid valid clock
  have settled := rtcTimeSetTime_settled valid clock
  have next := unixtimeOf_next moment within
  have beforeEnd := unixtimeOf_lt (moment.next within)
  obtain ⟨sameBegin, sameEnd⟩ := sameSide
  obtain ⟨yearGe, yearLe⟩ := moment.2
  have beginsBefore := beginDstUnix_le_iff yearGe yearLe moment
  have beginsAfter := beginDstUnix_le_iff yearGe yearLe (moment.next within)
  have endsBefore := le_endDstUnix_iff yearGe yearLe moment
  have endsAfter := le_endDstUnix_iff yearGe yearLe (moment.next within)
  simp only [Century.next, next] at beginsAfter endsAfter beforeEnd
  rw [← beginsBefore, ← beginsAfter] at sameBegin
  rw [← endsBefore, ← endsAfter] at sameEnd
  generalize rtcTimeSetTime (moment.args st) clock = set at *
  change registersUnixtime set = unixtimeOf moment.1 at unix
  change set.rtc.year = moment.1.year at year
  have notBegin : registersUnixtime set + 1 ≠ beginDstUnix set.rtc.year := by
    rw [unix, year]
    omega
  have notEnd : registersUnixtime set ≠ endDstUnix set.rtc.year := by
    rw [unix, year]
    omega
  have century := advance_century shown (by omega)
  obtain ⟨settles, -, moved, -⟩ := settled.quiet_tick century notBegin notEnd
  have stored := (rtcTick_of_quiet (settled.quiet century notBegin notEnd)).1
  rw [unix, ← next] at moved
  refine ⟨?_, stored.trans moved⟩
  rw [registersUnixtime_eq settles.valid] at moved
  obtain ⟨sameYear, month, dom, hour, minute, second⟩ :=
    settles.valid.unixtime_injective (moment.next within).valid moved
  rw [ShowsMoment, sameYear, month, dom, hour, minute, second]
  rfl

omit [Board] in
theorem lastSecond_valid : ValidTime 2099 12 31 23 59 59 := by decide

/-- The limits of the last year lie before its last second. -/
theorem endDstUnix_lt_lastSecond : endDstUnix 2099 < rtcTimeFindUnixtime 2099 12 31 23 59 59 := by
  have zero : 0 < 60 := by decide
  exact (endDst_valid (by decide) (by decide) (show 1 < 24 by decide) zero
    zero).unixtime_lt_of_month_lt lastSecond_valid (by decide)

/-- The Unix time of the registers at the start of 2100. -/
theorem registersUnixtime_newCentury (shows : [clock.rtc.year, clock.rtc.month, clock.rtc.dom,
      clock.rtc.hour, clock.rtc.min, clock.rtc.sec] = [2100, 1, 1, 0, 0, 0]) :
    registersUnixtime clock = rtcTimeFindUnixtime 2100 1 1 0 0 0 := by
  simp only [List.cons.injEq, and_true] at shows
  obtain ⟨year, month, dom, hour, minute, second⟩ := shows
  simp only [registersUnixtime, getY, getM, getDom, getHh, getMm, getSs, rtcGetTime, year, month,
    dom, hour, minute, second]
  rfl

/-- From the last second of the century, the hardware enters the year 2100 and nothing is corrected:
the yearly check is not reached from a Thursday, and the limits lie in the past. -/
theorem tick_lastSecond (shows : [clock.rtc.year, clock.rtc.month, clock.rtc.dom, clock.rtc.hour,
      clock.rtc.min, clock.rtc.sec] = [2099, 12, 31, 23, 59, 59]) (weekday : clock.rtc.dow ≠ 0)
    (winter : getDstStatus clock = false)
    (last : clock.time2.dstEndCalculated = endDstUnix 2099) :
    [(rtcTick clock).rtc.year, (rtcTick clock).rtc.month, (rtcTick clock).rtc.dom,
        (rtcTick clock).rtc.hour, (rtcTick clock).rtc.min, (rtcTick clock).rtc.sec] =
      [2100, 1, 1, 0, 0, 0] ∧
    (rtcTick clock).time2.unix = rtcTimeFindUnixtime 2100 1 1 0 0 0 := by
  simp only [List.cons.injEq, and_true] at shows
  obtain ⟨year, month, dom, hour, minute, second⟩ := shows
  have moves : advance clock.rtc = { clock.rtc with
      counterIncrease := true, sec := 0, min := 0, hour := 0, dow := nextDow clock.rtc,
      doy := nextDoy clock.rtc, dom := 1, month := 1, year := 2100 } := by
    rw [advance_year (by omega) (by omega) (by omega) (by rw [year, month, dom]; decide) (by omega),
      year]
    rfl
  have enters : EntersYear clock := by
    rw [EntersYear, moves, year]
    exact show 2100 ≠ 2099 by decide
  have stays : ¬ YearlyCheckReached (interruptState clock) := by
    rwa [enters.yearlyCheckReached_iff]
  obtain ⟨same, -, lastLater⟩ := calendarChecks_eq (interruptState clock)
  rw [if_neg stays] at lastLater
  have unix : (decisionState clock).time2.unix = rtcTimeFindUnixtime 2100 1 1 0 0 0 := by
    show registersUnixtime (calendarChecks (interruptState clock)) = _
    rw [registersUnixtime_congr same]
    exact registersUnixtime_newCentury (by rw [interruptState, moves])
  have newCentury : rtcTimeFindUnixtime 2100 1 1 0 0 0 = 4102444800 := by
    simp [rtcTimeFindUnixtime, time2long, daysFrom2000, addMonths_eq, secondsFrom1970To2000]
  have past := endDstUnix_lt_lastSecond.trans (unixtimeOf_lt lastSecond_valid.century)
  have needed : dstCorrectionNeeded (decisionState clock) = false := by
    rw [dstCorrectionNeeded, unix, newCentury, show (decisionState clock).time2.dstEndCalculated =
      endDstUnix 2099 from lastLater.trans last]
    simp only [Bool.and_eq_false_iff, decide_eq_false_iff_not]
    omega
  have status : getDstStatus (decisionState clock) = getDstStatus clock := by
    rw [getDstStatus, show (decisionState clock).rtc = (interruptState clock).rtc from same,
      interruptState, moves, getDstStatus]
  obtain ⟨stored, registers⟩ := rtcTick_of_quiet (needed.trans (status.trans winter).symm)
  rw [moves] at registers
  exact ⟨registers, stored.trans (registersUnixtime_newCentury registers)⟩

/-- **At the end of the century.** -/
theorem tick_centuryEnd (moment : Century) (st : Nat) (clock : Clock)
    (leaves : ¬ moment.1.next.year ≤ 2099) :
    ShowsMoment (rtcTick (rtcTimeSetTime (moment.args st) clock)) moment.1.next ∧
      (rtcTick (rtcTimeSetTime (moment.args st) clock)).time2.unix = unixtimeOf moment.1.next := by
  have yearLe := moment.2.2
  have enters : moment.1.next.year ≠ moment.1.year := by omega
  obtain ⟨fields, nextFields⟩ := Moment.next_of_year_ne enters
  have year : moment.1.year = 2099 := by
    simp only [Moment.fields, List.cons.injEq] at nextFields
    omega
  rw [year] at fields nextFields
  have args : moment.args st = ⟨2099, 12, 31, 23, 59, 59, st⟩ := by
    simp only [Moment.fields, List.cons.injEq, and_true] at fields
    simp only [Century.args, fields]
  have valid : TimeArgs.Valid ⟨2099, 12, 31, 23, 59, 59, st⟩ := lastSecond_valid
  obtain ⟨-, -, -, status, -, last⟩ := rtcTimeSetTime_valid valid clock
  have weekday : dayOfWeekManual 2099 12 31 = 3 := by
    simp [dayOfWeekManual, daysFrom2000, addMonths_eq, daysInMonth]
  have winter : getDstStatus (rtcTimeSetTime ⟨2099, 12, 31, 23, 59, 59, st⟩ clock) = false := by
    have past := endDstUnix_lt_lastSecond
    rw [status, dstCorrectionNeededTY]
    simp only [Bool.and_eq_false_iff, decide_eq_false_iff_not]
    omega
  obtain ⟨registers, unix⟩ := tick_lastSecond (rtcTimeSetTime_registers valid clock)
    (by rw [rtcTimeSetTime_eq, weekday]; exact show 3 ≠ 0 by decide) winter last
  rw [args, ShowsMoment, nextFields]
  refine ⟨registers, unix.trans ?_⟩
  simp only [Moment.fields, List.cons.injEq, and_true] at nextFields
  simp only [unixtimeOf, nextFields]

/-- **The second after a setting.** Whatever the clock was, when a moment of the century is set and
the following second lies on the same side of both limits of its year, the tick shows the following
second, and stores its Unix time. -/
theorem tick_after_set (moment : Century) (st : Nat) (clock : Clock)
    (sameSide : SameSide moment.1) :
    ShowsMoment (rtcTick (rtcTimeSetTime (moment.args st) clock)) moment.1.next ∧
      (rtcTick (rtcTimeSetTime (moment.args st) clock)).time2.unix = unixtimeOf moment.1.next := by
  by_cases within : moment.1.next.year ≤ 2099
  · exact tick_within moment st clock sameSide within
  · exact tick_centuryEnd moment st clock within

end

section

attribute [local instance] Board.plain

theorem noon2012_valid : ValidTime 2012 6 21 12 0 0 := by decide

/-- A second after noon of midsummer. -/
theorem tick_after_noon :
    ShowsMoment (rtcTick (rtcTimeSetTime (noon2012_valid.century.args 0) Clock.cleared))
        noon2012_valid.century.1.next ∧
      (rtcTick (rtcTimeSetTime (noon2012_valid.century.args 0) Clock.cleared)).time2.unix =
        unixtimeOf noon2012_valid.century.1.next :=
  tick_after_set noon2012_valid.century 0 Clock.cleared
    ⟨iff_of_true (by decide) (by decide), iff_of_true (by decide) (by decide)⟩

end

end EquinoxClock.Rtc
