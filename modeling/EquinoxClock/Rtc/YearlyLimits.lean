/-
Whether the stored summer-time limits are those of the year in the register.

`RTC_time_Init` and every correction leave the limits of the current year behind, and a tick inside
a year keeps them. A tick into a new year replaces them only when the weekday register is 1 on New
Year's Day, a Tuesday in the numbering of `dayOfWeekManual`; so it has to be 0 before the tick
(`limits_of_run`).
-/

import EquinoxClock.Lib.Run
import EquinoxClock.Rtc.Corrections

namespace EquinoxClock.Rtc

open EquinoxClock.Lib

section

variable [Board] {clock start : Clock}

/-- The stored limits are those of the year in the register. -/
def LimitsCurrent (clock : Clock) : Prop :=
  clock.time2.dstBeginCalculated = beginDstUnix (getY clock) ∧
    clock.time2.dstEndCalculated = endDstUnix (getY clock)

instance (clock : Clock) : Decidable (LimitsCurrent clock) := by
  unfold LimitsCurrent
  infer_instance

omit [Board] in
/-- The following second belongs to another year. -/
def EntersYear (clock : Clock) : Prop := (advance clock.rtc).year ≠ clock.rtc.year

/-! ### What keeps the limits current -/

theorem limitsCurrent_setTime (args : TimeArgs) (clock : Clock) :
    LimitsCurrent (rtcTimeSetTime args clock) := by
  rw [rtcTimeSetTime_eq]
  simp only [LimitsCurrent, getY, rtcGetTime, Nat.and_assoc, Nat.and_self, and_self]

theorem LimitsCurrent.secondlyCheck (current : LimitsCurrent clock) :
    LimitsCurrent (secondlyCheck clock) := by
  unfold Rtc.secondlyCheck dstCheckAndCorrect
  split
  · exact limitsCurrent_setTime _ _
  · exact current

theorem limitsCurrent_calendarChecks
    (current : LimitsCurrent clock ∨ YearlyCheckReached clock) :
    LimitsCurrent (calendarChecks clock) := by
  obtain ⟨same, first, last⟩ := calendarChecks_eq clock
  have sameYear : getY (calendarChecks clock) = getY clock := by rw [getY, getY, same]
  rw [LimitsCurrent, first, last, sameYear]
  by_cases reached : YearlyCheckReached clock
  · rw [if_pos reached, if_pos reached]
    exact ⟨rfl, rfl⟩
  · rw [if_neg reached, if_neg reached]
    exact current.resolve_right reached

/-! ### A tick -/

omit [Board] in
/-- A year is entered from its last second. -/
theorem EntersYear.lastSecond (enters : EntersYear clock) :
    ¬ clock.rtc.sec < 59 ∧ ¬ clock.rtc.min < 59 ∧ ¬ clock.rtc.hour < 23 ∧
      ¬ clock.rtc.dom < monthLength leapYear clock.rtc.year clock.rtc.month ∧
      ¬ clock.rtc.month < 12 := by
  have second : ¬ clock.rtc.sec < 59 := fun second =>
    enters (by rw [advance_second second])
  have minute : ¬ clock.rtc.min < 59 := fun minute =>
    enters (by rw [advance_minute second minute])
  have hour : ¬ clock.rtc.hour < 23 := fun hour =>
    enters (by rw [advance_hour second minute hour])
  have day : ¬ clock.rtc.dom < monthLength leapYear clock.rtc.year clock.rtc.month := fun day =>
    enters (by rw [advance_day second minute hour day])
  exact ⟨second, minute, hour, day, fun month =>
    enters (by rw [advance_month second minute hour day month])⟩

omit [Board] in
/-- The registers on entering a year. -/
theorem EntersYear.advance_eq (enters : EntersYear clock) :
    advance clock.rtc = { clock.rtc with
      counterIncrease := true, sec := 0, min := 0, hour := 0, dow := nextDow clock.rtc,
      doy := nextDoy clock.rtc, dom := 1, month := 1,
      year := (clock.rtc.year + 1) &&& TimeType.year.mask } := by
  obtain ⟨second, minute, hour, day, month⟩ := enters.lastSecond
  exact advance_year second minute hour day month

omit [Board] in
/-- On entering a year the yearly check is reached exactly from weekday 0. -/
theorem EntersYear.yearlyCheckReached_iff (enters : EntersYear clock) :
    YearlyCheckReached (interruptState clock) ↔ clock.rtc.dow = 0 := by
  have weekday : (1 = nextDow clock.rtc &&& TimeType.dayOfWeek.mask) ↔ clock.rtc.dow = 0 := by
    rw [TimeType.and_mask, show TimeType.dayOfWeek.mask + 1 = 8 from rfl, nextDow]
    split <;> omega
  simp only [YearlyCheckReached, interruptState, enters.advance_eq, getSs, getMm, getHh, getDow,
    getDom, getM, rtcGetTime, weekday]
  exact ⟨fun reached => reached.2.2.2.1, fun monday => ⟨rfl, rfl, rfl, monday, rfl, rfl⟩⟩

/-- **A tick keeps the limits current**, on entering a year from weekday 0. -/
theorem LimitsCurrent.tick (current : LimitsCurrent clock)
    (refreshed : EntersYear clock → clock.rtc.dow = 0) : LimitsCurrent (rtcTick clock) := by
  have checked : LimitsCurrent (calendarChecks (interruptState clock)) := by
    apply limitsCurrent_calendarChecks
    by_cases enters : EntersYear clock
    · exact .inr (enters.yearlyCheckReached_iff.mpr (refreshed enters))
    · have sameYear : getY (interruptState clock) = getY clock := by
        rw [getY, getY, interruptState, rtcGetTime, rtcGetTime, not_not.mp enters]
      refine .inl ?_
      rw [LimitsCurrent, sameYear]
      exact current
  have decided := checked.secondlyCheck
  rw [rtcTick_eq]
  dsimp only
  split
  · exact decided
  · exact decided

/-- On entering a year of the century the clock moves to the midnight of its New Year. -/
theorem EntersYear.newYear (enters : EntersYear clock) (valid : clock.rtc.Valid)
    (century : (advance clock.rtc).year ≤ 2099) :
    (advance clock.rtc).year = clock.rtc.year + 1 ∧
      registersUnixtime clock + 1 = rtcTimeFindUnixtime (advance clock.rtc).year 1 1 0 0 0 := by
  obtain ⟨shown, unix⟩ := registersUnixtime_advance valid century clock.time2
  have midnight : registersUnixtime ⟨advance clock.rtc, clock.time2⟩ =
      rtcTimeFindUnixtime (advance clock.rtc).year (advance clock.rtc).month
        (advance clock.rtc).dom (advance clock.rtc).hour (advance clock.rtc).min
        (advance clock.rtc).sec := registersUnixtime_eq shown
  rw [← unix, midnight, enters.advance_eq]
  exact ⟨valid.year_succ, rfl⟩

/-- **A settled clock loses its limits** on entering a year from another weekday. -/
theorem Settled.limits_stale (settled : Settled clock) (current : LimitsCurrent clock)
    (century : (advance clock.rtc).year ≤ 2099) (enters : EntersYear clock)
    (weekday : clock.rtc.dow ≠ 0) : ¬ LimitsCurrent (rtcTick clock) := by
  have yearGe := settled.valid.year_ge
  have shown := (registersUnixtime_advance settled.valid century clock.time2).1
  obtain ⟨yearSucc, newYear⟩ := enters.newYear settled.valid century
  have winter := newYear_le_beginDstUnix shown.year_ge century
  have summer := beginDstUnix_lt_endDstUnix shown.year_ge century
  obtain ⟨-, -, outcome⟩ := settled.tick century
  cases outcome with
  | forward _ _ due => omega
  | backward _ _ due => omega
  | quiet needed =>
      have nothing : dstCheckAndCorrect (decisionState clock) = decisionState clock := by
        rw [dstCheckAndCorrect, if_neg (by simpa using needed)]
      have kept : (rtcTick clock).time2.dstBeginCalculated = beginDstUnix clock.rtc.year := by
        have stored : (decisionState clock).time2.dstBeginCalculated =
            beginDstUnix clock.rtc.year := by
          have unreached := enters.yearlyCheckReached_iff.not.mpr weekday
          have first := (calendarChecks_eq (interruptState clock)).2.1
          rw [if_neg unreached] at first
          rw [decisionState, updateTime, first, ← getY_eq settled.valid]
          exact current.1
        rw [rtcTick_eq, nothing]
        dsimp only
        split <;> exact stored
      rintro ⟨first, -⟩
      rw [kept, getY_rtcTick, TimeType.and_mask_of_le (century.trans (by decide)), yearSucc] at first
      rw [yearSucc] at winter century
      have past := endDstUnix_lt_newYear yearGe century (Nat.lt_succ_self _)
      have before := beginDstUnix_lt_endDstUnix yearGe settled.valid.year_le
      omega

/-! ### Runs after the initialisation -/

/-- The time the initialisation starts from is valid: the one in the registers, or the compiled one
where the registers were never set. -/
def StartsValid (clock : Clock) : Prop :=
  if clock.rtc.gpreg4 = 0xaa then clock.rtc.Valid else compiledTime.Valid

/-- Checking a valid clock with current limits settles it. -/
theorem LimitsCurrent.settled (current : LimitsCurrent clock) (valid : clock.rtc.Valid) :
    Settled (Rtc.secondlyCheck clock) := by
  unfold Rtc.secondlyCheck dstCheckAndCorrect
  split
  · apply rtcTimeSetTime_settled
    rename_i differs
    have date : ValidTime (getY clock) (getM clock) (getDom clock) 0 0 0 := by
      rw [getY_eq valid, getM_eq valid, getDom_eq valid]
      exact { valid with hh_lt := by decide, mm_lt := by decide, ss_lt := by decide }
    split
    · exact { date with
        hh_lt := Nat.mod_lt _ (by decide), mm_lt := Nat.mod_lt _ (by decide),
        ss_lt := Nat.mod_lt _ (by decide) }
    · exact { date with
        hh_lt := Nat.mod_lt _ (by decide), mm_lt := Nat.mod_lt _ (by decide),
        ss_lt := Nat.mod_lt _ (by decide) }
  · rename_i same
    refine ⟨valid, ⟨clock.rtc.year, valid.year_ge, le_rfl, ?_, ?_⟩, ?_⟩
    · rw [← getY_eq valid]
      exact current.1
    · rw [← getY_eq valid]
      exact current.2
    · rw [updateTime_updateTime]
      exact (not_not.mp (bne_iff_ne.not.mp same)).symm

/-- The daily and minutely checks keep registers and limits, so limits that are current before them
stay so. -/
theorem LimitsCurrent.dayAndMinute (current : LimitsCurrent clock) :
    (minutelyCheck (dailyCheck clock)).rtc = clock.rtc ∧
      LimitsCurrent (minutelyCheck (dailyCheck clock)) := by
  obtain ⟨dailySame, dailyFirst, dailyLast⟩ := dailyCheck_keeps clock
  obtain ⟨same, first, last⟩ := minutelyCheck_keeps (dailyCheck clock)
  have sameYear : getY (minutelyCheck (dailyCheck clock)) = getY clock := by
    rw [getY, getY, same, dailySame]
  refine ⟨same.trans dailySame, ?_⟩
  rw [LimitsCurrent, first, last, sameYear, dailyFirst, dailyLast]
  exact current

/-- The limits are current after the initialisation. -/
theorem limitsCurrent_rtcTimeInit (clock : Clock) : LimitsCurrent (rtcTimeInit clock) :=
  (LimitsCurrent.dayAndMinute ⟨rfl, rfl⟩).2.secondlyCheck

/-- The checks of the initialisation settle a valid clock. -/
theorem settled_of_checks (valid : clock.rtc.Valid) :
    Settled (Rtc.secondlyCheck (minutelyCheck (hourlyCheck (dailyCheck
      (weeklyCheck (yearlyCheck clock)))))) := by
  have refreshed : LimitsCurrent (yearlyCheck clock) := ⟨rfl, rfl⟩
  obtain ⟨same, current⟩ := refreshed.dayAndMinute
  refine current.settled ?_
  rw [same]
  exact valid

/-- **The initialisation settles a clock** that starts from a valid time. -/
theorem StartsValid.settled (valid : StartsValid clock) : Settled (rtcTimeInit clock) := by
  refine settled_of_checks ?_
  unfold StartsValid at valid
  by_cases kept : clock.rtc.gpreg4 = 0xaa
  · rw [if_pos kept] at valid
    rw [if_pos (show (updateTime clock).rtc.gpreg4 = 0xaa from kept)]
    exact valid
  · rw [if_neg kept] at valid
    rw [if_neg (show ¬ (updateTime clock).rtc.gpreg4 = 0xaa from kept)]
    have marked : ∀ set : Clock, set.rtc.Valid →
        ({ set with rtc := { set.rtc with gpreg4 := 0xaa } } : Clock).rtc.Valid := fun _ => id
    exact marked (rtcSetDefaultTimeToCompiled (updateTime clock))
      (rtcTimeSetTime_valid valid (updateTime clock)).1

/-- **The limits of a running clock.** After the initialisation the limits are those of the year in
the register after every tick, as long as every tick into a new year starts with weekday 0. And in a
run of valid dates of the century a tick into a new year from any other weekday leaves the limits of
the old year behind. -/
theorem limits_of_run (clock : Clock) :
    (∀ count, (∀ index < count, EntersYear (rtcTick^[index] (rtcTimeInit clock)) →
        (rtcTick^[index] (rtcTimeInit clock)).rtc.dow = 0) →
      ∀ index ≤ count, LimitsCurrent (rtcTick^[index] (rtcTimeInit clock))) ∧
    (StartsValid clock → ∀ count,
      WithinCentury (rtcTimeInit clock) count →
      (∀ index ≤ count, LimitsCurrent (rtcTick^[index] (rtcTimeInit clock))) →
      ∀ index < count, EntersYear (rtcTick^[index] (rtcTimeInit clock)) →
        (rtcTick^[index] (rtcTimeInit clock)).rtc.dow = 0) := by
  refine ⟨fun count refreshed index within => ?_, fun valid count century current index before
    enters => ?_⟩
  · have preserved : ∀ clock, LimitsCurrent clock → (EntersYear clock → clock.rtc.dow = 0) →
        LimitsCurrent (rtcTick clock) := fun _ current => current.tick
    exact iterate_invariant preserved index _ (limitsCurrent_rtcTimeInit clock)
      fun earlier less => refreshed earlier (by omega)
  · have settled := valid.settled.run fun earlier less => century earlier (less.trans before.le)
    have later := (century (index + 1) before).2
    have stays := current (index + 1) before
    rw [Function.iterate_succ_apply'] at later stays
    by_contra weekday
    exact settled.limits_stale (current index before.le) (settled.century later) enters weekday
      stays

end

/-- The clock was running when it was initialised, and it is Tuesday, 31 December 2013, 23:59:59. -/
def newYearsEve2013 : Clock :=
  { Clock.cleared with rtc :=
    ⟨59, 59, 23, 1, 31, 365, 12, 2013, 0, 0xaa, false, false⟩ }

/-- **The limits go stale.** New Year's Day of 2014 is a Wednesday, so the first tick leaves the
limits of 2013 behind. -/
theorem limits_stale_2014 : ¬ ∀ (_ : Board) (clock : Clock) (index : Nat), StartsValid clock →
    LimitsCurrent (rtcTick^[index] (rtcTimeInit clock)) := by
  intro claim
  let _ := Board.plain
  have stale : ¬ LimitsCurrent (rtcTick^[1] (rtcTimeInit newYearsEve2013)) := by decide
  exact stale (claim Board.plain newYearsEve2013 1 (by unfold StartsValid; decide))

end EquinoxClock.Rtc
