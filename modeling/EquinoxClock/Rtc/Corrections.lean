/-
How often the clock is corrected, and whether it comes back.

A run is a clock set to a valid time and then ticked. As long as no tick starts in the last second
of the summer time, in summer time, the time shown grows with every tick, so there is at most one
correction of either kind in a year and no date, time and status is ever shown twice
(`dst_corrections_in_century`). A tick that does start there sets the clock back by an hour and
leaves the status as it was; an hour later the clock is where it was, and the correction is made
again.
-/

import EquinoxClock.Lib.Run
import EquinoxClock.Rtc.Settled

namespace EquinoxClock.Rtc

open EquinoxClock.Lib

section

variable [Board]

/-- The following tick applies the correction of an hour forward. -/
def ForwardCorrection (clock : Clock) : Prop :=
  dstCorrectionNeeded (decisionState clock) = true ∧ getDstStatus (decisionState clock) = false

/-- The following tick applies the correction of an hour backward. -/
def BackwardCorrection (clock : Clock) : Prop :=
  dstCorrectionNeeded (decisionState clock) = false ∧ getDstStatus (decisionState clock) = true

/-- Of the first `count` ticks, at most one in each calendar year corrects forward and at most one
backward. -/
def CorrectsOncePerYear (start : Clock) (count : Nat) : Prop :=
  ∀ first < count, ∀ second < count,
    getY (decisionState (rtcTick^[first] start)) = getY (decisionState (rtcTick^[second] start)) →
    (ForwardCorrection (rtcTick^[first] start) → ForwardCorrection (rtcTick^[second] start) →
      first = second) ∧
    (BackwardCorrection (rtcTick^[first] start) → BackwardCorrection (rtcTick^[second] start) →
      first = second)

omit [Board] in
/-- The date, the time and the summer-time status. -/
def shows (clock : Clock) : Nat × Nat × Nat × Nat × Nat × Nat × Bool :=
  (getY clock, getM clock, getDom clock, getHh clock, getMm clock, getSs clock, getDstStatus clock)

/-- No state shown in the first `count` ticks is shown again in them. -/
def NeverReturns (start : Clock) (count : Nat) : Prop :=
  ∀ first second, first < second → second ≤ count →
    shows (rtcTick^[first] start) ≠ shows (rtcTick^[second] start)

/-- The first `count` ticks stay in the years 2000 to 2099. -/
def WithinCentury (start : Clock) (count : Nat) : Prop :=
  ∀ index ≤ count, 2000 ≤ getY (rtcTick^[index] start) ∧ getY (rtcTick^[index] start) ≤ 2099

/-- The last second of the summer time, in summer time. -/
def AtSummerEnd (clock : Clock) : Prop :=
  getDstStatus clock = true ∧ registersUnixtime clock = endDstUnix (getY clock)

/-! ### Runs that do not meet the end of the summer time -/

variable {clock start : Clock}

/-- A tick whose successor is in the century stays in it. -/
theorem Settled.century (settled : Settled clock) (later : getY (rtcTick clock) ≤ 2099) :
    (advance clock.rtc).year ≤ 2099 := by
  have bound : (advance clock.rtc).year ≤ 2100 :=
    settled.valid.year_advance.2.trans (Nat.succ_le_succ settled.valid.year_le)
  rw [getY_rtcTick, TimeType.and_mask_of_le (bound.trans (by decide))] at later
  exact later

/-- A settled clock corrects backward only at the end of the summer time. -/
theorem Settled.atSummerEnd (settled : Settled clock) (status : getDstStatus clock = true)
    {year : Nat} (yearGe : 2000 ≤ year) (yearLe : year ≤ 2099)
    (due : registersUnixtime clock = endDstUnix year) : AtSummerEnd clock := by
  have summer := settled.summer status
  have between := beginDstUnix_lt_endDstUnix yearGe yearLe
  have inYear : beginDstUnix year ≤ registersUnixtime clock ∧
      registersUnixtime clock ≤ endDstUnix year + 1 := by omega
  have same := summer_year_unique settled.valid.year_ge settled.valid.year_le yearGe yearLe
    ⟨summer.1, summer.2.trans (Nat.le_succ _)⟩ inYear
  exact ⟨status, by rw [due, getY_eq settled.valid, same]⟩

/-- The following tick stays in the century and does not start at the end of the summer time. -/
def ForwardOnly (clock : Clock) : Prop := getY (rtcTick clock) ≤ 2099 ∧ ¬ AtSummerEnd clock

/-- Such a tick keeps the clock settled and raises the time shown. -/
theorem Settled.rises (settled : Settled clock) (guard : ForwardOnly clock) :
    Settled (rtcTick clock) ∧
      registersUnixtime clock < registersUnixtime (rtcTick clock) ∧ ¬ BackwardCorrection clock ∧
      (ForwardCorrection clock →
        registersUnixtime clock + 1 = beginDstUnix (getY (decisionState clock))) := by
  obtain ⟨later, notEnd⟩ := guard
  have century := settled.century later
  obtain ⟨settles, -, outcome⟩ := settled.tick century
  have shownAdvance := (registersUnixtime_advance settled.valid century clock.time2).1
  obtain ⟨same, -, -, statusKept⟩ := decisionState_eq settled.valid century
  refine ⟨settles, ?_⟩
  cases outcome with
  | quiet needed unix =>
      refine ⟨by omega, fun backward => ?_, fun forward => ?_⟩
      · exact absurd (backward.1.symm.trans (needed.trans backward.2)) Bool.false_ne_true
      · exact absurd (forward.2.symm.trans (needed.symm.trans forward.1)) Bool.false_ne_true
  | forward needed before due unix =>
      refine ⟨by omega, fun backward => ?_, fun _ => ?_⟩
      · exact absurd (backward.1.symm.trans needed) Bool.false_ne_true
      · have shown : (decisionState clock).rtc.Valid := by
          rw [same]
          exact shownAdvance
        rw [due, getY_eq shown, same]
  | backward needed before due =>
      exact absurd (settled.atSummerEnd (statusKept ▸ before) shownAdvance.year_ge century due)
        notEnd

theorem shows_unixtime {first second : Clock} (same : shows first = shows second) :
    registersUnixtime first = registersUnixtime second := by
  simp only [shows, Prod.mk.injEq] at same
  obtain ⟨year, month, day, hour, minute, second, -⟩ := same
  rw [registersUnixtime, registersUnixtime, year, month, day, hour, minute, second]

/-- **A run that does not meet the end of the summer time** corrects at most once a year in either
direction and never comes back. -/
theorem corrections_of_not_atSummerEnd (settled : Settled start) {count : Nat}
    (within : WithinCentury start count)
    (notEnd : ∀ index < count, ¬ AtSummerEnd (rtcTick^[index] start)) :
    CorrectsOncePerYear start count ∧ NeverReturns start count := by
  have guarded : ∀ index < count, ForwardOnly (rtcTick^[index] start) := by
    intro index before
    refine ⟨?_, notEnd index before⟩
    rw [← Function.iterate_succ_apply' rtcTick]
    exact (within (index + 1) before).2
  have preserved : ∀ clock, Settled clock → ForwardOnly clock → Settled (rtcTick clock) :=
    fun _ settled guard => (settled.rises guard).1
  have settledAt : ∀ index ≤ count, Settled (rtcTick^[index] start) := fun index before =>
    iterate_invariant preserved index start settled fun earlier less => guarded earlier (by omega)
  have grows : ∀ {first second : Nat}, first < second → second ≤ count →
      registersUnixtime (rtcTick^[first] start) < registersUnixtime (rtcTick^[second] start) := by
    intro first second ordered inside
    have := iterate_progress preserved (fun _ settled guard => (settled.rises guard).2.1) count
      start settled guarded ordered.le inside
    omega
  refine ⟨fun first firstIn second secondIn sameYear => ⟨fun forward forward' => ?_,
    fun backward => ?_⟩, fun first second ordered inside same => ?_⟩
  · have due := ((settledAt first firstIn.le).rises (guarded first firstIn)).2.2.2 forward
    have due' := ((settledAt second secondIn.le).rises (guarded second secondIn)).2.2.2 forward'
    rw [sameYear, ← due'] at due
    rcases Nat.lt_trichotomy first second with earlier | same | later
    · have := grows earlier secondIn.le
      omega
    · exact same
    · have := grows later firstIn.le
      omega
  · exact absurd backward ((settledAt first firstIn.le).rises (guarded first firstIn)).2.2.1
  · exact (grows ordered inside).ne (shows_unixtime same)

/-! ### Runs that meet the end of the summer time -/

/-- In summer time a tick keeps the year and the status. Before the last second it counts, in the
last second it goes back by an hour. -/
theorem Settled.summer_tick (settled : Settled clock) (summer : getDstStatus clock = true) :
    Settled (rtcTick clock) ∧ getDstStatus (rtcTick clock) = true ∧
      (rtcTick clock).rtc.year = clock.rtc.year ∧
      (registersUnixtime clock < endDstUnix clock.rtc.year →
        registersUnixtime (rtcTick clock) = registersUnixtime clock + 1) ∧
      (registersUnixtime clock = endDstUnix clock.rtc.year →
        BackwardCorrection clock ∧
        registersUnixtime (rtcTick clock) + dstCorrectionValueSec = registersUnixtime clock + 1) := by
  have sameYear := settled.summer_year summer
  have century : (advance clock.rtc).year ≤ 2099 := sameYear.trans_le settled.valid.year_le
  obtain ⟨settles, year, outcome⟩ := settled.tick century
  obtain ⟨-, -, -, statusKept⟩ := decisionState_eq settled.valid century
  cases outcome with
  | quiet needed unix status =>
      refine ⟨settles, status.trans summer, year.trans sameYear, fun _ => unix, fun last => ?_⟩
      -- the status would be that of a time after the summer time
      have later := (settles.summer (status.trans summer)).2
      rw [year, sameYear, unix] at later
      omega
  | forward needed before =>
      exact absurd (before.symm.trans (statusKept.trans summer)) Bool.false_ne_true
  | backward needed before due unix status =>
      refine ⟨settles, status, year.trans sameYear, fun less => ?_, fun _ => ⟨⟨needed, before⟩, unix⟩⟩
      rw [sameYear] at due
      omega

/-- The hour after the correction: the clock counts up to the end of the summer time again. -/
theorem Settled.summer_hour (settled : Settled clock) (atEnd : AtSummerEnd clock) (elapsed : Nat)
    (within : elapsed < dstCorrectionValueSec) :
    Settled (rtcTick^[elapsed + 1] clock) ∧ getDstStatus (rtcTick^[elapsed + 1] clock) = true ∧
      (rtcTick^[elapsed + 1] clock).rtc.year = clock.rtc.year ∧
      registersUnixtime (rtcTick^[elapsed + 1] clock) + dstCorrectionValueSec =
        endDstUnix clock.rtc.year + 1 + elapsed := by
  obtain ⟨summer, last⟩ := atEnd
  rw [getY_eq settled.valid] at last
  induction elapsed with
  | zero =>
      obtain ⟨settles, status, year, -, backward⟩ := settled.summer_tick summer
      exact ⟨settles, status, year, last ▸ (backward last).2⟩
  | succ elapsed ih =>
      obtain ⟨settledBefore, summerBefore, yearBefore, unixBefore⟩ := ih (by omega)
      obtain ⟨settles, status, year, counts, -⟩ := settledBefore.summer_tick summerBefore
      rw [yearBefore] at year counts
      have unix := counts (by omega)
      rw [Function.iterate_succ_apply' rtcTick (elapsed + 1)]
      exact ⟨settles, status, year, by omega⟩

/-- **An hour of ticks after the end of the summer time** the clock is there again. -/
theorem Settled.returns (settled : Settled clock) (atEnd : AtSummerEnd clock) :
    AtSummerEnd (rtcTick^[dstCorrectionValueSec] clock) ∧
      shows (rtcTick^[dstCorrectionValueSec] clock) = shows clock := by
  obtain ⟨later, status, year, unix⟩ := settled.summer_hour atEnd 3599 (by decide)
  have hour : rtcTick^[3599 + 1] clock = rtcTick^[dstCorrectionValueSec] clock := rfl
  rw [hour] at later status year unix
  have last := atEnd.2
  rw [getY_eq settled.valid] at last
  have again : registersUnixtime (rtcTick^[dstCorrectionValueSec] clock) =
      registersUnixtime clock := by
    rw [last]
    rw [dstCorrectionValueSec] at unix ⊢
    omega
  refine ⟨⟨status, by rw [again, last, getY_eq later.valid, year]⟩, ?_⟩
  rw [registersUnixtime_eq later.valid, registersUnixtime_eq settled.valid] at again
  obtain ⟨sameYear, month, day, hour, minute, second⟩ :=
    later.valid.unixtime_injective settled.valid again
  simp only [shows, getY_eq later.valid, getM_eq later.valid, getDom_eq later.valid,
    getHh_eq later.valid, getMm_eq later.valid, getSs_eq later.valid, getY_eq settled.valid,
    getM_eq settled.valid, getDom_eq settled.valid, getHh_eq settled.valid, getMm_eq settled.valid,
    getSs_eq settled.valid, sameYear, month, day, hour, minute, second, status, atEnd.1]

/-- A run of settled clocks. -/
theorem Settled.run (settled : Settled start) {count : Nat} (within : WithinCentury start count) :
    Settled (rtcTick^[count] start) := by
  have preserved : ∀ clock, Settled clock → getY (rtcTick clock) ≤ 2099 →
      Settled (rtcTick clock) := fun _ settled later => (settled.tick (settled.century later)).1
  refine iterate_invariant preserved count start settled fun index before => ?_
  rw [← Function.iterate_succ_apply' rtcTick]
  exact (within (index + 1) before).2

/-- **A run that meets the end of the summer time** goes back twice that day and shows a state it
has shown. -/
theorem corrections_of_atSummerEnd (settled : Settled start) {index : Nat}
    (within : WithinCentury start index) (atEnd : AtSummerEnd (rtcTick^[index] start)) :
    ∃ count, WithinCentury start count ∧ ¬ CorrectsOncePerYear start count ∧
      ¬ NeverReturns start count := by
  have settledEnd := settled.run within
  obtain ⟨again, same⟩ := settledEnd.returns atEnd
  have settledAgain := (settledEnd.summer_hour atEnd 3599 (by decide)).1
  have hour : rtcTick^[3599 + 1] (rtcTick^[index] start) =
      rtcTick^[dstCorrectionValueSec] (rtcTick^[index] start) := rfl
  rw [hour] at settledAgain
  have backward : ∀ {clock : Clock}, Settled clock → AtSummerEnd clock →
      BackwardCorrection clock ∧ getY (decisionState clock) = getY clock := by
    intro clock settled atEnd
    have last := atEnd.2
    rw [getY_eq settled.valid] at last
    have sameYear := settled.summer_year atEnd.1
    have century : (advance clock.rtc).year ≤ 2099 := sameYear.trans_le settled.valid.year_le
    obtain ⟨moved, -⟩ := decisionState_eq settled.valid century
    refine ⟨((settled.summer_tick atEnd.1).2.2.2.2 last).1, ?_⟩
    rw [getY, getY, moved, rtcGetTime, rtcGetTime, sameYear]
  have shift : ∀ elapsed, rtcTick^[elapsed] (rtcTick^[index] start) =
      rtcTick^[index + elapsed] start := fun elapsed => by
    rw [Nat.add_comm, Function.iterate_add_apply]
  rw [shift] at again same settledAgain
  have sameYear : getY (rtcTick^[index + dstCorrectionValueSec] start) =
      getY (rtcTick^[index] start) := congrArg Prod.fst same
  refine ⟨index + dstCorrectionValueSec + 1, fun moment before => ?_, fun once => ?_,
    fun never => ?_⟩
  · rcases Nat.lt_or_ge index moment with after | early
    swap
    · exact within moment early
    rcases Nat.lt_or_eq_of_le before with hourLater | rfl
    · obtain ⟨settledThen, -, year, -⟩ :=
        settledEnd.summer_hour atEnd (moment - index - 1) (by omega)
      rw [shift, show index + (moment - index - 1 + 1) = moment by omega] at settledThen
      rw [getY_eq settledThen.valid]
      exact ⟨settledThen.valid.year_ge, settledThen.valid.year_le⟩
    · obtain ⟨settledThen, -⟩ := settledAgain.summer_tick again.1
      rw [← Function.iterate_succ_apply' rtcTick] at settledThen
      rw [getY_eq settledThen.valid]
      exact ⟨settledThen.valid.year_ge, settledThen.valid.year_le⟩
  · obtain ⟨first, firstYear⟩ := backward settledEnd atEnd
    obtain ⟨second, secondYear⟩ := backward settledAgain again
    have := (once index (by rw [dstCorrectionValueSec]; omega)
      (index + dstCorrectionValueSec) (by omega)
      (by rw [firstYear, secondYear, sameYear])).2 first second
    rw [dstCorrectionValueSec] at this
    omega
  · exact never index (index + dstCorrectionValueSec) (by rw [dstCorrectionValueSec]; omega)
      (by omega) same.symm

/-- **The corrections of a running clock.** For every clock set to a valid time: every run within
the century that never starts a tick in the last second of the summer time, in summer time, corrects
at most once a year in either direction and never comes back to a date, time and status; and a run
that does meet that second can be continued until it has done both. -/
theorem dst_corrections {args : TimeArgs} (valid : args.Valid) (clock : Clock) :
    (∀ count, WithinCentury (rtcTimeSetTime args clock) count →
      (∀ index < count, ¬ AtSummerEnd (rtcTick^[index] (rtcTimeSetTime args clock))) →
      CorrectsOncePerYear (rtcTimeSetTime args clock) count ∧
        NeverReturns (rtcTimeSetTime args clock) count) ∧
    (∀ index, WithinCentury (rtcTimeSetTime args clock) index →
      AtSummerEnd (rtcTick^[index] (rtcTimeSetTime args clock)) →
      ∃ count, WithinCentury (rtcTimeSetTime args clock) count ∧
        ¬ CorrectsOncePerYear (rtcTimeSetTime args clock) count ∧
        ¬ NeverReturns (rtcTimeSetTime args clock) count) :=
  ⟨fun _ => corrections_of_not_atSummerEnd (rtcTimeSetTime_settled valid clock),
    fun _ => corrections_of_atSummerEnd (rtcTimeSetTime_settled valid clock)⟩

end

/-- A tick at midsummer noon. -/
theorem dst_corrections_midsummer :
    letI := Board.plain
    CorrectsOncePerYear (rtcTimeSetTime ⟨2012, 6, 21, 12, 0, 0, 0⟩ Clock.cleared) 1 ∧
      NeverReturns (rtcTimeSetTime ⟨2012, 6, 21, 12, 0, 0, 0⟩ Clock.cleared) 1 := by
  let _ := Board.plain
  refine (dst_corrections (by decide) Clock.cleared).1 1 (fun index before => ?_)
    fun index before => ?_
  · interval_cases index <;> decide
  · interval_cases index
    unfold AtSummerEnd
    decide

/-- The clock is set to the last second of the summer time of 2012, 28 October, 01:00:00. -/
def summerEnd2012 : TimeArgs := ⟨2012, 10, 28, 1, 0, 0, 0⟩

/-- **The clock comes back.** Set to the last second of the summer time of 2012 it is set back by an
hour with the next tick, and again an hour later. -/
theorem clock_returns : ¬ ∀ (_ : Board) (args : TimeArgs) (clock : Clock) (count : Nat),
    args.Valid → WithinCentury (rtcTimeSetTime args clock) count →
    CorrectsOncePerYear (rtcTimeSetTime args clock) count ∧
      NeverReturns (rtcTimeSetTime args clock) count := by
  intro claim
  let _ := Board.plain
  have valid : summerEnd2012.Valid := by decide
  have within : WithinCentury (rtcTimeSetTime summerEnd2012 Clock.cleared) 0 := by
    intro index before
    rw [Nat.le_zero.mp before]
    decide
  obtain ⟨count, century, twice, -⟩ := corrections_of_atSummerEnd
    (rtcTimeSetTime_settled valid Clock.cleared) within (by unfold AtSummerEnd; decide)
  exact twice (claim Board.plain summerEnd2012 Clock.cleared count valid century).1

end EquinoxClock.Rtc
