/-
`RTC_time_SetTime` with the second interrupt in the middle of it.

The function is split into its writes (`setTimeWrites`), which one after the other make
`rtcTimeSetTime`; `preempted args clock point` lets a tick pass after the first `point` of them and
then makes the rest.

The tick sees a mixture of the old and the requested time. It does no harm when it carries into none
of the registers already written (`KeepsWritten`) and finds no reason for a correction
(`Undecided`); then the clock afterwards shows the requested time, or the second after it, and a
further tick moves it on (`preempted_shows`).
-/

import EquinoxClock.Rtc.YearlyLimits

namespace EquinoxClock.Rtc

open EquinoxClock.Lib

section

variable [Board]

/-- A write of `RTC_time_SetTime`: the status, a time counter, or one of the limits. -/
inductive Write where
  | status
  | counter (timetype : TimeType)
  | dstBegin
  | dstEnd
  deriving DecidableEq, Repr

/-- The value each counter is to have. -/
def TimeArgs.value (args : TimeArgs) : TimeType → Nat
  | .second => args.ss
  | .minute => args.mm
  | .hour => args.hh
  | .dayOfWeek => dayOfWeekManual args.year args.month args.dom
  | .dayOfMonth => args.dom
  | .dayOfYear => daysFrom20xx args.year args.month args.dom
  | .month => args.month
  | .year => args.year

/-- The Unix time that is requested. -/
def TimeArgs.unixtime (args : TimeArgs) : Nat :=
  rtcTimeFindUnixtime args.year args.month args.dom args.hh args.mm args.ss

/-- The status that belongs to it. -/
def TimeArgs.status (args : TimeArgs) : Bool := dstCorrectionNeededTY args.unixtime args.year

/-- One write. The limits are those of the year that the register holds at that moment. -/
def write (args : TimeArgs) (clock : Clock) : Write → Clock
  | .status => setDstStatus args.status clock
  | .counter timetype => setTime timetype (args.value timetype) clock
  | .dstBegin =>
      { clock with time2 := { clock.time2 with dstBeginCalculated := beginDstUnix (getY clock) } }
  | .dstEnd =>
      { clock with time2 := { clock.time2 with dstEndCalculated := endDstUnix (getY clock) } }

/-- The writes of `RTC_time_SetTime`, in order. -/
def setTimeWrites : List Write :=
  [.status, .counter .year, .counter .month, .counter .dayOfMonth, .counter .dayOfWeek,
    .counter .dayOfYear, .counter .second, .counter .minute, .counter .hour, .dstBegin, .dstEnd]

/-- Undisturbed, the writes are `RTC_time_SetTime`. -/
theorem foldl_setTimeWrites (args : TimeArgs) (clock : Clock) :
    setTimeWrites.foldl (write args) clock = rtcTimeSetTime args clock := by
  unfold rtcTimeSetTime
  have status : (if dstCorrectionNeededTY (rtcTimeFindUnixtime args.year args.month args.dom
      args.hh args.mm args.ss) args.year then setDstStatus true clock
      else setDstStatus false clock) = setDstStatus args.status clock := by
    unfold TimeArgs.status TimeArgs.unixtime
    cases dstCorrectionNeededTY _ _ <;> rfl
  dsimp only
  rw [status]
  rfl

/-- The clock after the first writes. -/
def written (args : TimeArgs) (clock : Clock) (point : Nat) : Clock :=
  (setTimeWrites.take point).foldl (write args) clock

/-- `RTC_time_SetTime` with a tick after the first `point` writes. -/
def preempted (args : TimeArgs) (clock : Clock) (point : Nat) : Clock :=
  (setTimeWrites.drop point).foldl (write args) (rtcTick (written args clock point))

/-- The clock shows the requested time a second or two later, with the status that belongs to it. -/
def ShowsRequested (args : TimeArgs) (clock : Clock) : Prop :=
  clock.rtc.Valid ∧
    (registersUnixtime clock = args.unixtime + 1 ∨ registersUnixtime clock = args.unixtime + 2) ∧
    getDstStatus clock = dstCorrectionNeededTY (registersUnixtime clock) (getY clock)

/-- The second that passes after `point` writes carries into no register that is already written.
Once the hour is written too, the carries are those of the requested time; but the two limits must
still belong to one year. -/
def KeepsWritten (args : TimeArgs) (clock : Clock) (point : Nat) : Prop :=
  let after := advance (written args clock point).rtc
  match point with
  | 2 => after.year = args.year
  | 3 => after.year = args.year ∧ after.month = args.month
  | 4 | 5 | 6 => after.year = args.year ∧ after.month = args.month ∧ after.dom = args.dom
  | 7 => args.ss ≠ 59
  | 8 => ¬ (args.ss = 59 ∧ args.mm = 59)
  | 10 => after.year = args.year
  | _ => True

/-- The interrupt after `point` writes corrects nothing: the status already stored is the one that
the old limits give for the mixed time. -/
def Undecided (args : TimeArgs) (clock : Clock) (point : Nat) : Prop :=
  dstCorrectionNeeded (decisionState (written args clock point)) =
    getDstStatus (decisionState (written args clock point))

/-- The seconds that have passed after a call with a tick in it: the second of the tick is
overwritten as long as the second of the minute is still to be written. -/
def elapsed (point : Nat) : Nat := if point ≤ 6 then 0 else 1

/-- The requested time is not followed within some seconds by the end of the century or by a change
of the summer time. -/
structure Steady (args : TimeArgs) (seconds : Nat) : Prop where
  century : args.unixtime + seconds < 4102444800
  noBegin : ¬ (args.unixtime < beginDstUnix args.year ∧
    beginDstUnix args.year ≤ args.unixtime + seconds)
  noEnd : ¬ (args.unixtime ≤ endDstUnix args.year ∧
    endDstUnix args.year < args.unixtime + seconds)

/-! ### What the writes leave in the registers -/

omit [Board] in
/-- A time counter of the peripheral. -/
def Registers.counter (registers : Registers) : TimeType → Nat
  | .second => registers.sec
  | .minute => registers.min
  | .hour => registers.hour
  | .dayOfWeek => registers.dow
  | .dayOfMonth => registers.dom
  | .dayOfYear => registers.doy
  | .month => registers.month
  | .year => registers.year

omit [Board] in
/-- A tick within a minute leaves the day. -/
theorem counter_advance_second {r : Registers} (second : r.sec < 59) {timetype : TimeType}
    (member : timetype ∈ [TimeType.year, .month, .dayOfMonth]) :
    (advance r).counter timetype = r.counter timetype := by
  rw [advance_second second]
  cases timetype with
  | year | month | dayOfMonth => rfl
  | _ => exact absurd member (by decide)

omit [Board] in
/-- A tick within an hour leaves the day. -/
theorem counter_advance_minute {r : Registers} (second : ¬ r.sec < 59) (minute : r.min < 59)
    {timetype : TimeType} (member : timetype ∈ [TimeType.year, .month, .dayOfMonth]) :
    (advance r).counter timetype = r.counter timetype := by
  rw [advance_minute second minute]
  cases timetype with
  | year | month | dayOfMonth => rfl
  | _ => exact absurd member (by decide)

omit [Board] in
theorem counter_rtcSetTime (registers : Registers) (set read : TimeType) (value : Nat) :
    (rtcSetTime registers set value).counter read =
      if set = read then value &&& read.mask else registers.counter read := by
  cases set <;> cases read <;> rfl

/-- **The writes, counter by counter**: those written have the requested value, the others the one
they had. -/
theorem counter_foldl_write (args : TimeArgs) (timetype : TimeType) (writes : List Write)
    (clock : Clock) : (writes.foldl (write args) clock).rtc.counter timetype =
      if .counter timetype ∈ writes then args.value timetype &&& timetype.mask
      else clock.rtc.counter timetype := by
  induction writes generalizing clock with
  | nil => rfl
  | cons first rest ih =>
      rw [List.foldl_cons, ih]
      by_cases later : .counter timetype ∈ rest
      · rw [if_pos later, if_pos (List.mem_cons_of_mem _ later)]
      · rw [if_neg later]
        cases first with
        | counter set =>
            rw [write, setTime, counter_rtcSetTime]
            by_cases same : set = timetype
            · subst same
              rw [if_pos rfl, if_pos List.mem_cons_self]
            · rw [if_neg same, if_neg (by simpa [later] using Ne.symm same)]
        | status => simp [write, setDstStatus, later, Registers.counter]
        | dstBegin => simp [write, later]
        | dstEnd => simp [write, later]

theorem getDstStatus_foldl_write (args : TimeArgs) (writes : List Write) (clock : Clock) :
    getDstStatus (writes.foldl (write args) clock) =
      if .status ∈ writes then args.status else getDstStatus clock := by
  induction writes generalizing clock with
  | nil => rfl
  | cons first rest ih =>
      rw [List.foldl_cons, ih]
      by_cases later : .status ∈ rest
      · rw [if_pos later, if_pos (List.mem_cons_of_mem _ later)]
      · rw [if_neg later]
        cases first with
        | status => rw [write, getDstStatus_setDstStatus, if_pos List.mem_cons_self]
        | counter set =>
            rw [if_neg (by simpa using later)]
            cases set <;> rfl
        | dstBegin => rw [if_neg (by simpa using later)]; rfl
        | dstEnd => rw [if_neg (by simpa using later)]; rfl

/-- A requested value fits its register. -/
theorem TimeArgs.Valid.value_mask {args : TimeArgs} (valid : args.Valid) :
    args.value .year &&& TimeType.year.mask = args.year ∧
      args.value .month &&& TimeType.month.mask = args.month ∧
      args.value .dayOfMonth &&& TimeType.dayOfMonth.mask = args.dom ∧
      args.value .hour &&& TimeType.hour.mask = args.hh ∧
      args.value .minute &&& TimeType.minute.mask = args.mm ∧
      args.value .second &&& TimeType.second.mask = args.ss :=
  ⟨TimeType.and_mask_of_le (valid.year_le.trans (by decide)),
    TimeType.and_mask_of_le (valid.month_le.trans (by decide)),
    TimeType.and_mask_of_le valid.dom_le_31,
    TimeType.and_mask_of_le (valid.hh_lt.le.trans (by decide)),
    TimeType.and_mask_of_le (valid.mm_lt.le.trans (by decide)),
    TimeType.and_mask_of_le (valid.ss_lt.le.trans (by decide))⟩

/-! ### The tick -/

/-- An undecided tick advances the hardware and keeps the status; within a year it keeps a stored
beginning of that year's summer time. -/
theorem rtcTick_of_undecided {clock : Clock} (undecided :
    dstCorrectionNeeded (decisionState clock) = getDstStatus (decisionState clock)) :
    (∀ timetype, (rtcTick clock).rtc.counter timetype = (advance clock.rtc).counter timetype) ∧
      getDstStatus (rtcTick clock) = getDstStatus clock ∧
      (clock.time2.dstBeginCalculated = beginDstUnix (getY clock) →
        (advance clock.rtc).year = clock.rtc.year →
        (rtcTick clock).time2.dstBeginCalculated = beginDstUnix (getY clock)) := by
  have nothing : dstCheckAndCorrect (decisionState clock) = decisionState clock := by
    rw [dstCheckAndCorrect, if_neg (by simpa using undecided)]
  obtain ⟨same, first, -⟩ := calendarChecks_eq (interruptState clock)
  have sameDecided : (decisionState clock).rtc =
      { advance clock.rtc with counterIncrease := false } := same
  have word : (advance clock.rtc).gpreg3 = clock.rtc.gpreg3 := by
    unfold advance nextDay
    dsimp only
    split_ifs <;> rfl
  rw [rtcTick_eq, nothing]
  dsimp only
  refine ⟨fun timetype => ?_, ?_, fun begins sameYear => ?_⟩
  · split <;> rw [sameDecided] <;> cases timetype <;> rfl
  · split <;> simp only [getDstStatus, sameDecided, word]
  · have stored : (decisionState clock).time2.dstBeginCalculated = beginDstUnix (getY clock) := by
      rw [decisionState, updateTime, first]
      split
      · rw [getY, getY, interruptState, rtcGetTime, rtcGetTime, sameYear]
      · exact begins
    split <;> exact stored

/-- **A second without a change of the summer time** keeps the status that belongs to the time. -/
theorem dstCorrectionNeededTY_advance {clock : Clock} (valid : clock.rtc.Valid)
    (century : (advance clock.rtc).year ≤ 2099)
    (notBegin : registersUnixtime clock + 1 ≠ beginDstUnix clock.rtc.year)
    (notEnd : registersUnixtime clock ≠ endDstUnix clock.rtc.year) :
    dstCorrectionNeededTY (registersUnixtime clock + 1) (advance clock.rtc).year =
      dstCorrectionNeededTY (registersUnixtime clock) clock.rtc.year := by
  unfold dstCorrectionNeededTY
  by_cases enters : EntersYear clock
  · obtain ⟨year, newYear⟩ := enters.newYear valid century
    have winter := newYear_le_beginDstUnix (valid.year_ge.trans (by omega)) century
    have past := endDstUnix_lt_newYear valid.year_ge century (by omega)
    rw [decide_eq_false (show ¬ beginDstUnix (advance clock.rtc).year ≤
        registersUnixtime clock + 1 by omega),
      decide_eq_false (show ¬ registersUnixtime clock ≤ endDstUnix clock.rtc.year by omega),
      Bool.false_and, Bool.and_false]
  · rw [not_not.mp enters]
    exact congrArg₂ and (decide_eq_decide.mpr (by omega)) (decide_eq_decide.mpr (by omega))

/-- A second without a change of the summer time only counts. -/
theorem Settled.quiet_tick {clock : Clock} (settled : Settled clock)
    (century : (advance clock.rtc).year ≤ 2099)
    (notBegin : registersUnixtime clock + 1 ≠ beginDstUnix clock.rtc.year)
    (notEnd : registersUnixtime clock ≠ endDstUnix clock.rtc.year) :
    Settled (rtcTick clock) ∧ (rtcTick clock).rtc.year = (advance clock.rtc).year ∧
      registersUnixtime (rtcTick clock) = registersUnixtime clock + 1 ∧
      getDstStatus (rtcTick clock) = getDstStatus clock := by
  have valid := settled.valid
  have laterGe : 2000 ≤ (advance clock.rtc).year := valid.year_ge.trans valid.year_advance.1
  obtain ⟨settles, year, outcome⟩ := settled.tick century
  have winter := newYear_le_beginDstUnix laterGe century
  have between := beginDstUnix_lt_endDstUnix laterGe century
  have stays : beginDstUnix (advance clock.rtc).year ≤ registersUnixtime clock + 1 →
      (advance clock.rtc).year = clock.rtc.year := by
    intro summer
    by_contra enters
    have newYear := (EntersYear.newYear enters valid century).2
    omega
  cases outcome with
  | quiet _ unix status => exact ⟨settles, year, unix, status⟩
  | forward _ _ due => exact absurd (stays due.ge ▸ due) notBegin
  | backward _ _ due => exact absurd (stays (by omega) ▸ due) notEnd

/-- The century is over at the Unix time 4102444800. -/
theorem advance_century {clock : Clock} (valid : clock.rtc.Valid)
    (before : registersUnixtime clock + 1 < 4102444800) : (advance clock.rtc).year ≤ 2099 := by
  by_contra past
  have yearLe := valid.year_le
  have yearAdvance := valid.year_advance
  have enters : EntersYear clock := by unfold EntersYear; omega
  obtain ⟨second, minute, hour, day, month⟩ := enters.lastSecond
  have secondLt := valid.ss_lt
  have minuteLt := valid.mm_lt
  have hourLt := valid.hh_lt
  have monthLe := valid.month_le
  have year2099 : clock.rtc.year = 2099 := by omega
  have december : clock.rtc.month = 12 := by omega
  have last : clock.rtc.dom = 31 := by
    have domLe := valid.dom_le_31
    rw [year2099, december, show monthLength leapYear 2099 12 = 31 from rfl] at day
    omega
  have days : daysFrom2000 2099 12 31 = 36524 := by
    simp [daysFrom2000, addMonths_eq, daysInMonth]
  have lastSecond : rtcTimeFindUnixtime 2099 12 31 23 59 59 = 4102444799 := by
    simp [rtcTimeFindUnixtime, time2long, days, secondsFrom1970To2000]
  rw [registersUnixtime_eq valid, year2099, december, last, show clock.rtc.hour = 23 by omega,
    show clock.rtc.min = 59 by omega, show clock.rtc.sec = 59 by omega, lastSecond] at before
  omega

/-! ### The clock after the call -/

section Finished

variable {args : TimeArgs} {clock : Clock} {point seconds : Nat}

/-- After the call the clock is some seconds past the requested time, in the requested year or at
the New Year after it, with the status that belongs to what it shows. -/
structure Finished (args : TimeArgs) (seconds : Nat) (clock : Clock) : Prop where
  settled : Settled clock
  unix : registersUnixtime clock = args.unixtime + seconds
  year : clock.rtc.year = args.year ∨
    registersUnixtime clock = rtcTimeFindUnixtime clock.rtc.year 1 1 0 0 0
  status : getDstStatus clock = dstCorrectionNeededTY (registersUnixtime clock) clock.rtc.year

/-- A clock with the limits of its year and the right status is settled. -/
theorem LimitsCurrent.settled_of_status (current : LimitsCurrent clock) (valid : clock.rtc.Valid)
    (status : getDstStatus clock =
      dstCorrectionNeededTY (registersUnixtime clock) clock.rtc.year) : Settled clock := by
  obtain ⟨first, last⟩ := current
  rw [getY_eq valid] at first last
  refine ⟨valid, ⟨clock.rtc.year, valid.year_ge, le_rfl, first, last⟩, ?_⟩
  rw [status, dstCorrectionNeededTY, dstCorrectionNeeded]
  simp only [updateTime, first, last]

/-- **The further tick** moves such a clock on by a second. -/
theorem Finished.tick (finished : Finished args seconds clock)
    (steady : Steady args (seconds + 1)) :
    (rtcTick clock).rtc.Valid ∧
      registersUnixtime (rtcTick clock) = args.unixtime + (seconds + 1) ∧
      getDstStatus (rtcTick clock) =
        dstCorrectionNeededTY (registersUnixtime (rtcTick clock)) (getY (rtcTick clock)) := by
  obtain ⟨settled, shown, shownYear, status⟩ := finished
  have valid := settled.valid
  have noBegin := steady.noBegin
  have noEnd := steady.noEnd
  have century := advance_century valid (by have := steady.century; omega)
  have winter := newYear_le_beginDstUnix valid.year_ge valid.year_le
  have between := beginDstUnix_lt_endDstUnix valid.year_ge valid.year_le
  have notBegin : registersUnixtime clock + 1 ≠ beginDstUnix clock.rtc.year := by
    rcases shownYear with sameYear | newYear
    · rw [sameYear]
      omega
    · omega
  have notEnd : registersUnixtime clock ≠ endDstUnix clock.rtc.year := by
    rcases shownYear with sameYear | newYear
    · rw [sameYear]
      omega
    · omega
  obtain ⟨settles, year, unix, kept⟩ := settled.quiet_tick century notBegin notEnd
  refine ⟨settles.valid, by omega, ?_⟩
  rw [kept, status, unix, getY_eq settles.valid, year,
    dstCorrectionNeededTY_advance valid century notBegin notEnd]

/-- A clock that shows a time of the requested day. -/
theorem finished_of_counters {hh mm ss : Nat} (steady : Steady args (seconds + 1))
    (valid : ValidTime args.year args.month args.dom hh mm ss)
    (unix : rtcTimeFindUnixtime args.year args.month args.dom hh mm ss = args.unixtime + seconds)
    (counters : clock.rtc.year = args.year ∧ clock.rtc.month = args.month ∧
      clock.rtc.dom = args.dom ∧ clock.rtc.hour = hh ∧ clock.rtc.min = mm ∧ clock.rtc.sec = ss)
    (status : getDstStatus clock = args.status) (current : LimitsCurrent clock) :
    Finished args seconds clock := by
  obtain ⟨year, month, dom, hour, minute, second⟩ := counters
  have shown : clock.rtc.Valid := by
    rw [Registers.Valid, year, month, dom, hour, minute, second]
    exact valid
  have noBegin := steady.noBegin
  have noEnd := steady.noEnd
  have time := registersUnixtime_eq shown
  rw [year, month, dom, hour, minute, second] at time
  have belongs : getDstStatus clock =
      dstCorrectionNeededTY (registersUnixtime clock) clock.rtc.year := by
    rw [status, TimeArgs.status, dstCorrectionNeededTY, dstCorrectionNeededTY, time, year]
    exact congrArg₂ and (decide_eq_decide.mpr (by omega)) (decide_eq_decide.mpr (by omega))
  exact ⟨current.settled_of_status shown belongs, time.trans unix, .inl year, belongs⟩

/-- The limits are written last, from one year. -/
theorem limitsCurrent_preempted (early : point ≤ 9) : LimitsCurrent (preempted args clock point) := by
  have split : setTimeWrites.drop point =
      (setTimeWrites.take 9).drop point ++ [.dstBegin, .dstEnd] := by
    rw [← List.drop_append_of_le_length (show point ≤ (setTimeWrites.take 9).length from early)]
    rfl
  rw [preempted, split, List.foldl_append]
  exact ⟨rfl, rfl⟩

/-- Once the status is written, an undecided tick leaves it alone. -/
theorem getDstStatus_preempted (started : 1 ≤ point) (undecided : Undecided args clock point) :
    getDstStatus (preempted args clock point) = args.status := by
  obtain ⟨point, rfl⟩ := Nat.exists_eq_add_of_le' started
  have unwritten : Write.status ∉ setTimeWrites.drop (point + 1) := fun member =>
    absurd (List.mem_of_mem_drop (show Write.status ∈ setTimeWrites.tail.drop point from member))
      (by decide)
  rw [preempted, getDstStatus_foldl_write, if_neg unwritten, (rtcTick_of_undecided undecided).2.1,
    written, getDstStatus_foldl_write, if_pos (show Write.status ∈ setTimeWrites.take (point + 1)
      from List.mem_cons_self)]

/-- **The counters after the call**: those written after the tick have the requested value, the
others the one the hardware has advanced them to. -/
theorem counter_preempted (undecided : Undecided args clock point) (timetype : TimeType) :
    (preempted args clock point).rtc.counter timetype =
      if .counter timetype ∈ setTimeWrites.drop point then args.value timetype &&& timetype.mask
      else (advance (written args clock point).rtc).counter timetype := by
  rw [preempted, counter_foldl_write, (rtcTick_of_undecided undecided).1]

/-- **Up to the day of the year**, the call ends with the requested time. -/
theorem finished_of_date (valid : args.Valid) (steady : Steady args 1) (started : 1 ≤ point)
    (early : point ≤ 6) (keeps : KeepsWritten args clock point)
    (undecided : Undecided args clock point) : Finished args 0 (preempted args clock point) := by
  obtain ⟨year, month, dom, hour, minute, second⟩ := valid.value_mask
  have counter := counter_preempted undecided
  refine finished_of_counters steady valid rfl ?_ (getDstStatus_preempted started undecided)
    (limitsCurrent_preempted (by omega))
  interval_cases point
  · exact ⟨(counter .year).trans year, (counter .month).trans month,
      (counter .dayOfMonth).trans dom, (counter .hour).trans hour, (counter .minute).trans minute,
      (counter .second).trans second⟩
  · exact ⟨(counter .year).trans keeps, (counter .month).trans month,
      (counter .dayOfMonth).trans dom, (counter .hour).trans hour, (counter .minute).trans minute,
      (counter .second).trans second⟩
  · exact ⟨(counter .year).trans keeps.1, (counter .month).trans keeps.2,
      (counter .dayOfMonth).trans dom, (counter .hour).trans hour, (counter .minute).trans minute,
      (counter .second).trans second⟩
  all_goals exact ⟨(counter .year).trans keeps.1, (counter .month).trans keeps.2.1,
    (counter .dayOfMonth).trans keeps.2.2, (counter .hour).trans hour,
    (counter .minute).trans minute, (counter .second).trans second⟩

/-- The counters of the mixture. -/
theorem counter_written (args : TimeArgs) (clock : Clock) (point : Nat) (timetype : TimeType) :
    (written args clock point).rtc.counter timetype =
      if .counter timetype ∈ setTimeWrites.take point then args.value timetype &&& timetype.mask
      else clock.rtc.counter timetype :=
  counter_foldl_write args timetype _ clock

/-- A tick that leaves the day leaves the requested one, once that is written. -/
theorem preempted_day (valid : args.Valid) (undecided : Undecided args clock point)
    (late : 7 ≤ point) (sameDay : ∀ timetype ∈ [TimeType.year, .month, .dayOfMonth],
      (advance (written args clock point).rtc).counter timetype =
        (written args clock point).rtc.counter timetype) :
    (preempted args clock point).rtc.year = args.year ∧
      (preempted args clock point).rtc.month = args.month ∧
      (preempted args clock point).rtc.dom = args.dom := by
  obtain ⟨year, month, dom, -⟩ := valid.value_mask
  have shown : ∀ timetype ∈ [TimeType.year, .month, .dayOfMonth],
      (preempted args clock point).rtc.counter timetype =
        args.value timetype &&& timetype.mask := by
    have places : ∀ timetype ∈ [TimeType.year, .month, .dayOfMonth],
        Write.counter timetype ∈ setTimeWrites.take 7 ∧
          Write.counter timetype ∉ setTimeWrites.drop 7 := by decide
    intro timetype member
    obtain ⟨early, unwritten⟩ := places timetype member
    rw [counter_preempted undecided, if_neg fun later =>
      unwritten (List.drop_subset_drop_left _ late later), sameDay timetype member,
      counter_written, if_pos (List.take_subset_take_left _ late early)]
  exact ⟨(shown .year (by decide)).trans year, (shown .month (by decide)).trans month,
    (shown .dayOfMonth (by decide)).trans dom⟩

/-- The clock shows the following second of the requested day. -/
theorem finished_of_time {hh mm ss : Nat} (valid : args.Valid) (steady : Steady args 2)
    (undecided : Undecided args clock point) (started : 1 ≤ point) (early : point ≤ 9)
    (later : ValidTime args.year args.month args.dom hh mm ss)
    (next : hh * 3600 + mm * 60 + ss = args.hh * 3600 + args.mm * 60 + args.ss + 1)
    (day : (preempted args clock point).rtc.year = args.year ∧
      (preempted args clock point).rtc.month = args.month ∧
      (preempted args clock point).rtc.dom = args.dom)
    (time : (preempted args clock point).rtc.hour = hh ∧
      (preempted args clock point).rtc.min = mm ∧ (preempted args clock point).rtc.sec = ss) :
    Finished args 1 (preempted args clock point) := by
  have unix : rtcTimeFindUnixtime args.year args.month args.dom hh mm ss = args.unixtime + 1 := by
    rw [TimeArgs.unixtime, later.unixtime_eq, valid.unixtime_eq]
    omega
  exact finished_of_counters steady later unix ⟨day.1, day.2.1, day.2.2, time⟩
    (getDstStatus_preempted started undecided) (limitsCurrent_preempted early)

/-- **After the second**, a tick that does not carry makes it the following second. -/
theorem finished_of_second (valid : args.Valid) (steady : Steady args 2)
    (undecided : Undecided args clock 7) (keeps : KeepsWritten args clock 7) :
    Finished args 1 (preempted args clock 7) := by
  obtain ⟨-, -, -, hour, minute, second⟩ := valid.value_mask
  have counter := counter_preempted undecided
  have before := counter_written args clock 7
  have secondBefore : (written args clock 7).rtc.sec = args.ss := (before .second).trans second
  have ssLt : args.ss < 59 := lt_of_le_of_ne (Nat.le_of_lt_succ valid.ss_lt) keeps
  have early : (written args clock 7).rtc.sec < 59 := secondBefore ▸ ssLt
  have day := preempted_day valid undecided le_rfl fun timetype member =>
    counter_advance_second early member
  rw [advance_second early] at counter
  have later : ValidTime args.year args.month args.dom args.hh args.mm (args.ss + 1) :=
    { valid with ss_lt := Nat.succ_lt_succ ssLt }
  refine finished_of_time valid steady undecided (by decide) (by decide) later (by omega) day ?_
  exact ⟨(counter .hour).trans hour, (counter .minute).trans minute,
    (counter .second).trans (congrArg (· + 1) secondBefore)⟩

/-- **After the minute**, a tick that does not carry into the hour makes it the following second. -/
theorem finished_of_minute (valid : args.Valid) (steady : Steady args 2)
    (undecided : Undecided args clock 8) (keeps : KeepsWritten args clock 8) :
    Finished args 1 (preempted args clock 8) := by
  obtain ⟨-, -, -, hour, minute, second⟩ := valid.value_mask
  have counter := counter_preempted undecided
  have before := counter_written args clock 8
  have secondBefore : (written args clock 8).rtc.sec = args.ss := (before .second).trans second
  have minuteBefore : (written args clock 8).rtc.min = args.mm := (before .minute).trans minute
  have ssLt := valid.ss_lt
  have mmLt := valid.mm_lt
  by_cases early : args.ss < 59
  · have earlyBefore : (written args clock 8).rtc.sec < 59 := secondBefore ▸ early
    have day := preempted_day valid undecided (by decide) fun timetype member =>
      counter_advance_second earlyBefore member
    rw [advance_second earlyBefore] at counter
    have later : ValidTime args.year args.month args.dom args.hh args.mm (args.ss + 1) :=
      { valid with ss_lt := Nat.succ_lt_succ early }
    refine finished_of_time valid steady undecided (by decide) (by decide) later (by omega) day ?_
    exact ⟨(counter .hour).trans hour, (counter .minute).trans minuteBefore,
      (counter .second).trans (congrArg (· + 1) secondBefore)⟩
  · have lastSecond : args.ss = 59 := by omega
    have earlyMinute : args.mm < 59 :=
      lt_of_le_of_ne (Nat.le_of_lt_succ mmLt) fun last => keeps ⟨lastSecond, last⟩
    have secondDone : ¬ (written args clock 8).rtc.sec < 59 := secondBefore ▸ early
    have minuteLeft : (written args clock 8).rtc.min < 59 := minuteBefore ▸ earlyMinute
    have day := preempted_day valid undecided (by decide) fun timetype member =>
      counter_advance_minute secondDone minuteLeft member
    rw [advance_minute secondDone minuteLeft] at counter
    have later : ValidTime args.year args.month args.dom args.hh (args.mm + 1) 0 :=
      { valid with mm_lt := Nat.succ_lt_succ earlyMinute, ss_lt := by decide }
    refine finished_of_time valid steady undecided (by decide) (by decide) later (by omega) day ?_
    exact ⟨(counter .hour).trans hour, (counter .minute).trans (congrArg (· + 1) minuteBefore),
      counter .second⟩

/-- The mixture is the requested time once the hour is written. -/
theorem written_shows (valid : args.Valid) (late : 9 ≤ point) :
    (written args clock point).rtc.Valid ∧
      registersUnixtime (written args clock point) = args.unixtime ∧
      (written args clock point).rtc.year = args.year := by
  obtain ⟨year, month, dom, hour, minute, second⟩ := valid.value_mask
  have before : ∀ timetype, (written args clock point).rtc.counter timetype =
      args.value timetype &&& timetype.mask := by
    intro timetype
    have early : Write.counter timetype ∈ setTimeWrites.take 9 := by cases timetype <;> decide
    rw [counter_written, if_pos ((List.take_subset_take_left _ late) early)]
  have shownYear : (written args clock point).rtc.year = args.year := (before .year).trans year
  have shownMonth : (written args clock point).rtc.month = args.month :=
    (before .month).trans month
  have shownDom : (written args clock point).rtc.dom = args.dom := (before .dayOfMonth).trans dom
  have shownHour : (written args clock point).rtc.hour = args.hh := (before .hour).trans hour
  have shownMinute : (written args clock point).rtc.min = args.mm := (before .minute).trans minute
  have shownSecond : (written args clock point).rtc.sec = args.ss := (before .second).trans second
  have shown : (written args clock point).rtc.Valid := by
    rw [Registers.Valid, shownYear, shownMonth, shownDom, shownHour, shownMinute, shownSecond]
    exact valid
  refine ⟨shown, ?_, shownYear⟩
  rw [registersUnixtime_eq shown, shownYear, shownMonth, shownDom, shownHour, shownMinute,
    shownSecond, TimeArgs.unixtime]

/-- The requested second and the one after it have the same status. -/
theorem Steady.status_advance (steady : Steady args 2) {shown : Clock} (valid : shown.rtc.Valid)
    (unix : registersUnixtime shown = args.unixtime) (year : shown.rtc.year = args.year) :
    (advance shown.rtc).year ≤ 2099 ∧
      dstCorrectionNeededTY (args.unixtime + 1) (advance shown.rtc).year = args.status := by
  have century := advance_century valid (by have := steady.century; omega)
  have noBegin := steady.noBegin
  have noEnd := steady.noEnd
  have same := dstCorrectionNeededTY_advance valid century (by rw [unix, year]; omega)
    (by rw [unix, year]; omega)
  rw [unix, year] at same
  exact ⟨century, same⟩

/-- **After the hour**, the tick counts the requested time on. -/
theorem finished_of_hour (valid : args.Valid) (steady : Steady args 2) (late : 9 ≤ point)
    (early : point ≤ 10) (undecided : Undecided args clock point)
    (current : LimitsCurrent (preempted args clock point)) :
    Finished args 1 (preempted args clock point) := by
  obtain ⟨shown, unix, year⟩ : (written args clock point).rtc.Valid ∧
    registersUnixtime (written args clock point) = args.unixtime ∧
    (written args clock point).rtc.year = args.year := written_shows valid late
  obtain ⟨century, sameStatus⟩ := steady.status_advance shown unix year
  obtain ⟨shownLater, unixLater⟩ :=
    registersUnixtime_advance shown century (preempted args clock point).time2
  have counter : ∀ timetype ∈ [TimeType.year, .month, .dayOfMonth, .hour, .minute, .second],
      (preempted args clock point).rtc.counter timetype =
        (advance (written args clock point).rtc).counter timetype := by
    intro timetype member
    have unwritten : Write.counter timetype ∉ setTimeWrites.drop 9 := by cases timetype <;> decide
    rw [counter_preempted undecided, if_neg fun later =>
      unwritten (List.drop_subset_drop_left _ late later)]
  have yearLater : (preempted args clock point).rtc.year =
      (advance (written args clock point).rtc).year := counter .year (by decide)
  have valuesLater : (preempted args clock point).rtc.month =
        (advance (written args clock point).rtc).month ∧
      (preempted args clock point).rtc.dom = (advance (written args clock point).rtc).dom ∧
      (preempted args clock point).rtc.hour = (advance (written args clock point).rtc).hour ∧
      (preempted args clock point).rtc.min = (advance (written args clock point).rtc).min ∧
      (preempted args clock point).rtc.sec = (advance (written args clock point).rtc).sec :=
    ⟨counter .month (by decide), counter .dayOfMonth (by decide), counter .hour (by decide),
      counter .minute (by decide), counter .second (by decide)⟩
  obtain ⟨monthLater, domLater, hourLater, minuteLater, secondLater⟩ := valuesLater
  have shownAfter : (preempted args clock point).rtc.Valid := by
    rw [Registers.Valid, yearLater, monthLater, domLater, hourLater, minuteLater, secondLater]
    exact shownLater
  have unixAfter : registersUnixtime (preempted args clock point) = args.unixtime + 1 := by
    rw [← unix, ← unixLater]
    simp only [registersUnixtime, getY, getM, getDom, getHh, getMm, getSs, rtcGetTime, yearLater,
      monthLater, domLater, hourLater, minuteLater, secondLater]
  have status : getDstStatus (preempted args clock point) = dstCorrectionNeededTY
      (registersUnixtime (preempted args clock point)) (preempted args clock point).rtc.year := by
    rw [getDstStatus_preempted (by omega) undecided, unixAfter, yearLater, sameStatus]
  refine ⟨current.settled_of_status shownAfter status, unixAfter, ?_, status⟩
  by_cases enters : EntersYear (written args clock point)
  · refine .inr ?_
    rw [unixAfter, yearLater, ← (enters.newYear shown century).2, unix]
  · exact .inl (yearLater.trans ((not_not.mp enters).trans year))

/-- Between the two limits the year stays, and so they are those of one year. -/
theorem limitsCurrent_preempted_ten (valid : args.Valid) (undecided : Undecided args clock 10)
    (keeps : KeepsWritten args clock 10) : LimitsCurrent (preempted args clock 10) := by
  obtain ⟨-, -, year⟩ : (written args clock 10).rtc.Valid ∧
    registersUnixtime (written args clock 10) = args.unixtime ∧
    (written args clock 10).rtc.year = args.year := written_shows valid (by decide)
  have sameYear : (advance (written args clock 10).rtc).year = (written args clock 10).rtc.year :=
    Eq.trans keeps year.symm
  obtain ⟨counter, -, begins⟩ := rtcTick_of_undecided undecided
  have yearAfter : getY (rtcTick (written args clock 10)) = getY (written args clock 10) :=
    congrArg (· &&& TimeType.year.mask) ((counter .year).trans sameYear)
  refine ⟨?_, rfl⟩
  show (rtcTick (written args clock 10)).time2.dstBeginCalculated =
    beginDstUnix (getY (rtcTick (written args clock 10)))
  rw [yearAfter]
  exact begins rfl sameYear

/-- **After the call**, a tick finds a settled clock. -/
theorem finished_of_call (valid : args.Valid) (steady : Steady args 2) (late : 11 ≤ point) :
    Finished args 1 (preempted args clock point) := by
  have length : setTimeWrites.length = 11 := rfl
  have call : preempted args clock point = rtcTick (rtcTimeSetTime args clock) := by
    rw [preempted, List.drop_of_length_le (length.trans_le late), written,
      List.take_of_length_le (length.trans_le late), foldl_setTimeWrites]
    rfl
  obtain ⟨shown, year, unix, statusSet, -, -⟩ := rtcTimeSetTime_valid valid clock
  have settled := rtcTimeSetTime_settled valid clock
  have noBegin := steady.noBegin
  have noEnd := steady.noEnd
  rw [TimeArgs.unixtime] at noBegin noEnd
  obtain ⟨century, sameStatus⟩ := steady.status_advance shown unix year
  obtain ⟨settles, yearLater, unixLater, kept⟩ := settled.quiet_tick century
    (by rw [unix, year]; omega) (by rw [unix, year]; omega)
  rw [unix] at unixLater
  rw [call]
  refine ⟨settles, unixLater, ?_, ?_⟩
  · by_cases enters : EntersYear (rtcTimeSetTime args clock)
    · refine .inr ?_
      rw [unixLater, yearLater, ← (enters.newYear shown century).2, unix]
    · exact .inl (yearLater.trans ((not_not.mp enters).trans year))
  · rw [kept, statusSet, unixLater, yearLater]
    exact sameStatus.symm

/-- **Before the call**, a tick is overwritten. -/
theorem finished_of_nothing (valid : args.Valid) : Finished args 0 (preempted args clock 0) := by
  have call : preempted args clock 0 = rtcTimeSetTime args (rtcTick clock) :=
    foldl_setTimeWrites args (rtcTick clock)
  obtain ⟨-, year, unix, status, -, -⟩ := rtcTimeSetTime_valid valid (rtcTick clock)
  rw [call]
  exact ⟨rtcTimeSetTime_settled valid _, unix, .inl year, by rw [status, unix, year]⟩

/-- The tick after `point` writes does no harm: nothing is written yet, or it carries into nothing
that is written and corrects nothing. -/
def Harmless (args : TimeArgs) (clock : Clock) (point : Nat) : Prop :=
  point = 0 ∨ KeepsWritten args clock point ∧ Undecided args clock point

/-- After the call and a harmless tick in it. -/
theorem Harmless.finished (harmless : Harmless args clock point) (valid : args.Valid)
    (steady : Steady args (elapsed point + 1)) :
    Finished args (elapsed point) (preempted args clock point) := by
  rcases harmless with rfl | ⟨keeps, undecided⟩
  · exact finished_of_nothing valid
  rcases Nat.lt_or_ge point 7 with early | late
  · have overwritten : elapsed point = 0 := if_pos (Nat.le_of_lt_succ early)
    rw [overwritten] at steady ⊢
    rcases Nat.eq_zero_or_pos point with rfl | started
    · exact finished_of_nothing valid
    · exact finished_of_date valid steady started (Nat.le_of_lt_succ early) keeps undecided
  have counts : elapsed point = 1 := if_neg (Nat.not_le_of_lt late)
  rw [counts] at steady ⊢
  rcases Nat.lt_or_ge point 11 with before | done
  swap
  · exact finished_of_call valid steady done
  obtain rfl | rfl | rfl | rfl : point = 7 ∨ point = 8 ∨ point = 9 ∨ point = 10 := by omega
  · exact finished_of_second valid steady undecided keeps
  · exact finished_of_minute valid steady undecided keeps
  · exact finished_of_hour valid steady le_rfl (by decide) undecided
      (limitsCurrent_preempted le_rfl)
  · exact finished_of_hour valid steady (by decide) le_rfl undecided
      (limitsCurrent_preempted_ten valid undecided keeps)

end Finished

end

/-- Noon of 21 June 2012. -/
def noonOfJune : TimeArgs := ⟨2012, 6, 21, 12, 0, 0, 0⟩

end EquinoxClock.Rtc
