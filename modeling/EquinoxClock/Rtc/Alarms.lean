/-
The alarms.

`addAlarm` is `add_alarm`. Its loop conditions are the wrong way round, so hardly any of them runs:
the search for a free slot ends before it starts and leaves the index behind the table
(`addAlarm_eq`), and the search for the days of a weekly alarm never stores an instant, so that what
is stored in the end is what the stack happened to hold. The minutes of a duration are added to
seconds. `add_alarm_slot`, `repeating_iff` and `weekly_unset` say what is left of each kind of alarm.

What a weekly alarm is for is said by `dueDays`, with the recurring days of the library.
-/

import EquinoxClock.Lib.Loop
import EquinoxClock.Lib.Recurrence
import EquinoxClock.Rtc.DateArithmetic
import Mathlib.Logic.Function.Basic

namespace EquinoxClock.Rtc

open EquinoxClock.Lib

/-- `Alarm_type`. -/
inductive AlarmType where
  | dayly
  | everyOtherDay
  | everyOtherDaySTomorrow
  | weekly
  | fortnightly
  | monthly
  deriving DecidableEq, Repr

/-- A record of the table `alarm`. -/
structure Alarm where
  enableDisabled : Bool
  unixAlarmSetFor : UInt32
  unixStart : UInt32
  unixFinish : UInt32
  dowDom : UInt32
  type : AlarmType
  deriving DecidableEq, Repr

/-- The records from `alarm[0]` on: the table, and the memory behind it. -/
abbrev AlarmMemory := Nat → Alarm

/-- The fields of `time2` that `add_alarm` reads. Nothing ever sets any of them but `unix`. -/
structure Today where
  unix : UInt32
  year : UInt16
  month : UInt8
  dom : UInt8
  dow : UInt8
  deriving DecidableEq, Repr

/-- The arguments of `add_alarm`. It does not read `month` and `dom`. -/
structure AlarmArgs where
  hh : UInt8
  mm : UInt8
  duration : UInt16
  dowDom : UInt32
  type : AlarmType
  deriving DecidableEq, Repr

/-- The arrays on the stack. Nothing sets them at the start. -/
structure AlarmStack where
  unixAlarmNo : Nat → UInt32
  alarmFound : Nat → UInt32

/-- The three times that are stored. -/
structure AlarmWindow where
  setFor : UInt32
  start : UInt32
  finish : UInt32
  deriving DecidableEq, Repr

/-- `MAX_NO_ALARMS`. -/
def maxNoAlarms : Nat := 10

/-- `NUM_DAYS_OF_WEEK`. -/
def numDaysOfWeek : Nat := 7

/-- `NUM_MONTHS`. -/
def numMonths : Nat := 12

/-- `SECONDS_PER_DAY`. -/
def secondsPerDay : UInt32 := 86400

/-- The search for an unused slot, `for (i = MAX_NO_ALARMS*2; ...; i++)`. -/
def unusedSlot (fuel : Nat) (alarm : AlarmMemory) : Option Nat :=
  whileLoop (fun i => maxNoAlarms * 2 < i && i < maxNoAlarms * 3)
    (fun i =>
      let i := if (alarm (i - maxNoAlarms * 2)).enableDisabled then i - maxNoAlarms * 2 else i
      (i + 1) % 2 ^ 8)
    fuel (maxNoAlarms * 2)

/-- `DAYLY` and `EVERYOTHERDAY`: an alarm that is over today is set for so many seconds later. The
branch for the middle of an alarm does what the last one does. -/
def everyDays (later : UInt32) (unix unixAlarm : UInt32) (duration : UInt16) : AlarmWindow :=
  if unixAlarm + duration.toUInt32 * 60 ≤ unix then
    { setFor := unixAlarm + later
      start := unixAlarm + later
      finish := unixAlarm + duration.toUInt32 + later }
  else if unix ≤ unixAlarm ∧ unixAlarm ≤ unix then
    { setFor := unixAlarm, start := unixAlarm, finish := unixAlarm + duration.toUInt32 }
  else { setFor := unixAlarm, start := unixAlarm, finish := unixAlarm + duration.toUInt32 }

/-- The branch of `DAYLY`. -/
def dayly (unix unixAlarm : UInt32) (duration : UInt16) : AlarmWindow :=
  everyDays secondsPerDay unix unixAlarm duration

/-- The branch of `EVERYOTHERDAY`. -/
def everyOtherDay (unix unixAlarm : UInt32) (duration : UInt16) : AlarmWindow :=
  everyDays (secondsPerDay * 2) unix unixAlarm duration

/-- `number_of_alarm_is_set_for`: the loop tests the bit behind the last one, every time. -/
def numberOfAlarmIsSetFor (number : Nat) (dowDom : UInt32) : Nat :=
  (List.range number).foldl (fun count _ => if dowDom.toNat.testBit number then count + 1 else count)
    0

/-- The variables of the loop over the bits: `l`, `alarm_found[k]` and `unix_alarm_no[k]`. -/
structure BitSearch where
  l : Nat
  found : UInt32
  no : UInt32

/-- `for (l = start; (l >= bound) || alarm_found[k]; l++)`, which stores `value` at every bit that is
set. A shift by more than the width of the word gives nothing. -/
def searchBits (fuel : Nat) (dowDom : UInt32) (bound : Nat) (value : UInt32) (start : Nat)
    (found no : UInt32) : Option BitSearch :=
  whileLoop (fun search => bound ≤ search.l || search.found != 0)
    (fun search =>
      let search :=
        if dowDom.toNat.testBit search.l then { search with no := value, found := 1 } else search
      { search with l := (search.l + 1) % 2 ^ 8 })
    fuel ⟨start, found, no⟩

/-- The body of the loop over `k`: first the days from `first` on, then those before it. -/
def findAlarm (fuel number : Nat) (dowDom unixAlarm : UInt32) (first : UInt8) (k : Nat)
    (stack : AlarmStack) : Option AlarmStack := do
  let ahead := unixAlarm + secondsPerDay * (UInt32.ofNat k - first.toUInt32)
  let search ← searchBits fuel dowDom number ahead first.toNat (stack.alarmFound k)
    (stack.unixAlarmNo k)
  let search ←
    if search.found = 0 then
      searchBits fuel dowDom first.toNat (unixAlarm + secondsPerDay * UInt32.ofNat k) 0 search.found
        search.no
    else some search
  some
    { unixAlarmNo := Function.update stack.unixAlarmNo k search.no
      alarmFound := Function.update stack.alarmFound k search.found }

/-- `WEEKLY` and `MONTHLY`: the alarms of the days whose bits are set. -/
def onDays (fuel number : Nat) (first : UInt8) (unix unixAlarm : UInt32) (duration : UInt16)
    (dowDom : UInt32) (stack : AlarmStack) : Option AlarmWindow := do
  let count := numberOfAlarmIsSetFor number dowDom
  let stack ← (List.range count).foldlM
    (fun stack k => findAlarm fuel number dowDom unixAlarm first k stack) stack
  let first := stack.unixAlarmNo 0
  let second := stack.unixAlarmNo 1
  if first + duration.toUInt32 * 60 < unix then
    if count = 1 then
      some
        { setFor := first + secondsPerDay * 7
          start := first + secondsPerDay * 7
          finish := first + duration.toUInt32 + secondsPerDay * 7 }
    else some { setFor := second, start := second, finish := second }
  else if unix ≤ first ∧ first ≤ unix then
    some { setFor := first, start := first, finish := first + duration.toUInt32 }
  else some { setFor := first, start := first, finish := first + duration.toUInt32 }

/-- The branch of `WEEKLY`. -/
def weekly (fuel : Nat) (today : Today) (unixAlarm : UInt32) (args : AlarmArgs)
    (stack : AlarmStack) : Option AlarmWindow :=
  onDays fuel numDaysOfWeek today.dow today.unix unixAlarm args.duration args.dowDom stack

/-- The branch of `MONTHLY`, a copy of the one of `WEEKLY`. -/
def monthly (fuel : Nat) (today : Today) (unixAlarm : UInt32) (args : AlarmArgs)
    (stack : AlarmStack) : Option AlarmWindow :=
  onDays fuel numMonths today.month today.unix unixAlarm args.duration args.dowDom stack

section

variable [Board]

/-- `unix_alarm`. -/
def unixAlarmOf (today : Today) (args : AlarmArgs) : UInt32 :=
  UInt32.ofNat (rtcTimeFindUnixtime today.year.toNat today.month.toNat today.dom.toNat args.hh.toNat
    args.mm.toNat 0)

/-- The times that each type of alarm is given. -/
def newWindow (fuel : Nat) (today : Today) (args : AlarmArgs) (stack : AlarmStack) :
    Option AlarmWindow :=
  let unixAlarm := unixAlarmOf today args
  match args.type with
  | .dayly => some (dayly today.unix unixAlarm args.duration)
  | .everyOtherDay => some (everyOtherDay today.unix unixAlarm args.duration)
  | .everyOtherDaySTomorrow =>
      some
        { setFor := unixAlarm + secondsPerDay
          start := unixAlarm + secondsPerDay
          finish := unixAlarm + args.duration.toUInt32 + secondsPerDay }
  | .weekly => weekly fuel today unixAlarm args stack
  | .fortnightly =>
      let start := UInt32.ofNat (rtcTimeFindUnixtime today.year.toNat today.month.toNat
        ((today.dom.toNat + 1) % 2 ^ 8) args.hh.toNat args.mm.toNat 0)
      some { setFor := start, start, finish := start + args.duration.toUInt32 }
  | .monthly => monthly fuel today unixAlarm args stack

/-- The record of a new alarm. -/
def storeAlarm (args : AlarmArgs) (window : AlarmWindow) (alarm : Alarm) : Alarm :=
  { alarm with
    unixAlarmSetFor := window.setFor
    unixStart := window.start
    unixFinish := window.finish
    enableDisabled := true
    type := args.type }

/-- `add_alarm`, unless one of its loops needs more than `fuel` passes. `sort_alarms` and
`set_next_alarm` have empty bodies. -/
def addAlarm (fuel : Nat) (today : Today) (args : AlarmArgs) (stack : AlarmStack)
    (alarm : AlarmMemory) : Option AlarmMemory := do
  let i ← unusedSlot fuel alarm
  let window ← newWindow fuel today args stack
  some (Function.update alarm i (storeAlarm args window (alarm i)))

/-- The record in the slot that `add_alarm` has chosen. -/
def addedAlarm (fuel : Nat) (today : Today) (args : AlarmArgs) (stack : AlarmStack)
    (alarm : AlarmMemory) : Option Alarm := do
  let i ← unusedSlot fuel alarm
  let alarm ← addAlarm fuel today args stack alarm
  some (alarm i)

/-! ### The slot -/

omit [Board] in
/-- The search ends before it starts, behind the table. -/
theorem unusedSlot_eq (fuel : Nat) (alarm : AlarmMemory) :
    unusedSlot fuel alarm = some (maxNoAlarms * 2) :=
  whileLoop_stop fuel (by decide)

theorem addAlarm_eq (fuel : Nat) (today : Today) (args : AlarmArgs) (stack : AlarmStack)
    (alarm : AlarmMemory) : addAlarm fuel today args stack alarm =
      (newWindow fuel today args stack).map fun window =>
        Function.update alarm 20 (storeAlarm args window (alarm 20)) := by
  rw [addAlarm, unusedSlot_eq]
  cases newWindow fuel today args stack <;> rfl

theorem addedAlarm_eq (fuel : Nat) (today : Today) (args : AlarmArgs) (stack : AlarmStack)
    (alarm : AlarmMemory) : addedAlarm fuel today args stack alarm =
      (newWindow fuel today args stack).map fun window => storeAlarm args window (alarm 20) := by
  rw [addedAlarm, addAlarm_eq, unusedSlot_eq]
  cases newWindow fuel today args stack with
  | none => rfl
  | some window => exact congrArg some (Function.update_self 20 _ alarm)

/-- Every slot of the table is as it was. -/
theorem addAlarm_table {fuel : Nat} {today : Today} {args : AlarmArgs} {stack : AlarmStack}
    {alarm alarm' : AlarmMemory} (added : addAlarm fuel today args stack alarm = some alarm')
    {slot : Nat} (inside : slot < maxNoAlarms) : alarm' slot = alarm slot := by
  rw [addAlarm_eq, Option.map_eq_some_iff] at added
  obtain ⟨window, -, rfl⟩ := added
  have apart : slot ≠ 20 := (inside.trans (by decide)).ne
  exact Function.update_of_ne apart _ alarm

/-- The new alarm is in a slot of the table that was not in use, and the other slots are as they
were. -/
def StoredInUnused (args : AlarmArgs) (alarm alarm' : AlarmMemory) : Prop :=
  ∃ slot < maxNoAlarms, (alarm slot).enableDisabled = false ∧
    (alarm' slot).enableDisabled = true ∧ (alarm' slot).type = args.type ∧
    ∀ other < maxNoAlarms, other ≠ slot → alarm' other = alarm other

/-- **An alarm is never stored in the table.** -/
theorem add_alarm_slot (fuel : Nat) (today : Today) (args : AlarmArgs) (stack : AlarmStack)
    (alarm : AlarmMemory) : ¬ ∃ alarm', addAlarm fuel today args stack alarm = some alarm' ∧
      StoredInUnused args alarm alarm' := by
  rintro ⟨alarm', added, slot, inside, unused, used, -⟩
  rw [addAlarm_table added inside, unused] at used
  exact Bool.false_ne_true used

end

section

attribute [local instance] Board.plain

/-- A table that is empty, and nothing behind it. -/
def noAlarms : AlarmMemory := fun _ => ⟨false, 0, 0, 0, 0, .dayly⟩

/-- Noon of 21 June 2012, with the date as the firmware leaves it. -/
def noonUndated : Today := ⟨1340280000, 0, 0, 0, 0⟩

/-- Half past seven, for half an hour. -/
def halfPastSeven (type : AlarmType) : AlarmArgs :=
  { hh := 7, mm := 30, duration := 30, dowDom := 1, type }

/-- A stack of zeros. -/
def zeroStack : AlarmStack := ⟨fun _ => 0, fun _ => 0⟩

/-- The empty table stays empty. -/
theorem add_alarm_empty_table : (∃ slot < maxNoAlarms, (noAlarms slot).enableDisabled = false) ∧
    ¬ ∃ alarm', addAlarm 0 noonUndated (halfPastSeven .dayly) zeroStack noAlarms = some alarm' ∧
      StoredInUnused (halfPastSeven .dayly) noAlarms alarm' := by
  refine ⟨⟨0, by decide, rfl⟩, ?_⟩
  rintro ⟨alarm', added, slot, inside, -, used, -⟩
  rw [addAlarm_table added inside] at used
  exact Bool.false_ne_true used

end

/-! ### Alarms for every day, and for every other day -/

section

variable [Board]

/-- The seconds until such an alarm comes again. -/
def repeatAfter (type : AlarmType) : Nat := if type = .everyOtherDay then 172800 else 86400

/-- The instant of today's alarm, whether 32 bits hold it or not. -/
def instantOf (today : Today) (args : AlarmArgs) : Nat :=
  secondsFrom1970To2000 + (daysFrom2000 today.year.toNat today.month.toNat today.dom.toNat * 86400 +
    args.hh.toNat * 3600 + args.mm.toNat * 60)

/-- The first instant of the alarm that lies behind the current time, as far as it is looked for:
the one of today, or the next one. -/
def nextInstant (today : Today) (args : AlarmArgs) : Nat :=
  if today.unix.toNat < instantOf today args then instantOf today args
  else instantOf today args + repeatAfter args.type

/-- The window is one of this duration, starts at the time of day that was asked for and is not
over yet. -/
def WindowFits (today : Today) (args : AlarmArgs) (alarm : Alarm) : Prop :=
  alarm.unixAlarmSetFor = alarm.unixStart ∧
    alarm.unixFinish = alarm.unixStart + 60 * args.duration.toUInt32 ∧
    alarm.unixStart.toNat % 86400 = args.hh.toNat * 3600 + args.mm.toNat * 60 ∧
    today.unix < alarm.unixFinish

theorem toNat_unixAlarmOf (today : Today) (args : AlarmArgs) :
    (unixAlarmOf today args).toNat = instantOf today args % 2 ^ 32 := by
  rw [unixAlarmOf, UInt32.toNat_ofNat', rtcTimeFindUnixtime, time2long, instantOf]
  omega

omit [Board] in
/-- Both types add the duration, in minutes, to the start, in seconds. -/
theorem everyDays_eq (later unix unixAlarm : UInt32) (duration : UInt16) :
    ∃ start, start = (if unixAlarm + duration.toUInt32 * 60 ≤ unix then unixAlarm + later
        else unixAlarm) ∧
      everyDays later unix unixAlarm duration =
        { setFor := start, start, finish := start + duration.toUInt32 } := by
  refine ⟨_, rfl, ?_⟩
  unfold everyDays
  split_ifs
  · rw [UInt32.add_assoc, UInt32.add_comm duration.toUInt32, ← UInt32.add_assoc]
  · rfl
  · rfl

omit [Board] in
/-- So many minutes are as many seconds only if there are none. -/
theorem duration_eq_zero_iff (start : UInt32) (duration : UInt16) :
    start + duration.toUInt32 = start + 60 * duration.toUInt32 ↔ duration = 0 := by
  have small := duration.toNat_lt
  rw [UInt32.add_right_inj, ← UInt32.toNat_inj, UInt32.toNat_mul, UInt16.toNat_toUInt32,
    ← UInt16.toNat_inj]
  show duration.toNat = 60 * duration.toNat % 2 ^ 32 ↔ duration.toNat = 0
  rw [Nat.mod_eq_of_lt (by omega)]
  omega

/-- The instant lies on its time of day, and at most one word further than a word holds. -/
theorem instantOf_bounds (today : Today) {args : AlarmArgs} (hour : args.hh.toNat < 24)
    (minute : args.mm.toNat < 60) :
    instantOf today args % 86400 = args.hh.toNat * 3600 + args.mm.toNat * 60 ∧
      instantOf today args + 172800 < 2 * 2 ^ 32 := by
  have days : daysFrom2000 today.year.toNat today.month.toNat today.dom.toNat < 2 ^ 16 :=
    Nat.mod_lt _ (by decide)
  rw [instantOf, secondsFrom1970To2000]
  omega

omit [Board] in
/-- With no minutes to last, the start is the next instant, as far as it fits a word; cut to a word,
it lies on another time of day. -/
theorem start_fits_iff {instant now later tod start : Nat} (onTime : instant % 86400 = tod)
    (bound : instant + 172800 < 2 * 2 ^ 32) (word : now < 2 ^ 32)
    (again : later = 86400 ∨ later = 172800)
    (start_eq : start = if instant % 2 ^ 32 ≤ now then (instant % 2 ^ 32 + later) % 2 ^ 32
      else instant % 2 ^ 32) :
    start % 86400 = tod ∧ now < start ↔
      now < (if now < instant then instant else instant + later) ∧
        (if now < instant then instant else instant + later) < 2 ^ 32 := by
  have sameTime (x : Nat) : (x + later) % 86400 = x % 86400 := by
    obtain rfl | rfl := again
    · exact Nat.add_mod_right x 86400
    · exact Nat.add_mul_mod_self_left x 86400 2
  have within : later ≤ 172800 := by omega
  by_cases fits : instant < 2 ^ 32
  · rw [Nat.mod_eq_of_lt fits] at start_eq
    by_cases past : instant ≤ now
    · rw [if_pos past] at start_eq
      rw [if_neg (Nat.not_lt.mpr past)]
      by_cases held : instant + later < 2 ^ 32
      · rw [start_eq, Nat.mod_eq_of_lt held, sameTime, onTime]
        exact ⟨fun both => ⟨both.2, held⟩, fun both => ⟨rfl, both.1⟩⟩
      · -- Cut to a word, the instant is one at the start of the calendar.
        have cut : start = instant + later - 2 ^ 32 := by
          rw [start_eq, Nat.mod_eq_sub_mod (Nat.le_of_not_lt held), Nat.mod_eq_of_lt]
          omega
        exact iff_of_false (fun both => absurd both.2 (by omega)) fun both => held both.2
    · rw [if_neg past] at start_eq
      rw [if_pos (Nat.lt_of_not_le past), start_eq]
      exact ⟨fun both => ⟨both.2, fits⟩, fun both => ⟨onTime, both.1⟩⟩
  · -- A word holds what lies behind `2 ^ 32` alone, and that is no whole number of days.
    obtain ⟨rest, rfl⟩ := Nat.exists_eq_add_of_le (Nat.le_of_not_lt fits)
    have otherTime : rest % 86400 ≠ tod := by
      rw [← onTime]
      omega
    have inside : rest < 2 ^ 32 := by omega
    have still : rest + later < 2 ^ 32 := by omega
    rw [Nat.add_mod_left, Nat.mod_eq_of_lt inside, Nat.mod_eq_of_lt still] at start_eq
    rw [if_pos (by omega)]
    refine iff_of_false (fun both => otherTime ?_) fun both => fits both.2
    rw [← both.1, start_eq]
    split
    · exact (sameTime rest).symm
    · rfl

/-- **Repeating alarms** get the window that was asked for only if it has no minutes, and if the next
instant is found and fits a word. -/
theorem repeating_iff (fuel : Nat) (today : Today) {args : AlarmArgs} (stack : AlarmStack)
    (alarm : AlarmMemory) (repeating : args.type = .dayly ∨ args.type = .everyOtherDay)
    (hour : args.hh.toNat < 24) (minute : args.mm.toNat < 60) :
    (∃ added, addedAlarm fuel today args stack alarm = some added ∧ WindowFits today args added) ↔
      args.duration = 0 ∧ today.unix.toNat < nextInstant today args ∧
        nextInstant today args < 2 ^ 32 := by
  have window : newWindow fuel today args stack = some (everyDays
      (UInt32.ofNat (repeatAfter args.type)) today.unix (unixAlarmOf today args) args.duration) := by
    obtain same | same := repeating <;> rw [newWindow, same] <;> rfl
  obtain ⟨start, start_eq, windowEq⟩ := everyDays_eq (UInt32.ofNat (repeatAfter args.type))
    today.unix (unixAlarmOf today args) args.duration
  have stored : (∃ added, addedAlarm fuel today args stack alarm = some added ∧
      WindowFits today args added) ↔ start + args.duration.toUInt32 =
        start + 60 * args.duration.toUInt32 ∧
      start.toNat % 86400 = args.hh.toNat * 3600 + args.mm.toNat * 60 ∧
      today.unix < start + args.duration.toUInt32 := by
    rw [addedAlarm_eq, window, windowEq, Option.map_some]
    simp only [Option.some.injEq, exists_eq_left', WindowFits, storeAlarm, true_and]
  rw [stored, duration_eq_zero_iff]
  refine and_congr_right fun none => ?_
  have zero : (0 : UInt16).toUInt32 = 0 := rfl
  rw [none, zero, UInt32.zero_mul, UInt32.add_zero] at start_eq
  rw [none, zero, UInt32.add_zero, UInt32.lt_iff_toNat_lt, nextInstant]
  obtain ⟨onTime, bound⟩ := instantOf_bounds today hour minute
  have again : repeatAfter args.type = 86400 ∨ repeatAfter args.type = 172800 := by
    obtain same | same := repeating <;> rw [same]
    · exact .inl rfl
    · exact .inr rfl
  have word : repeatAfter args.type % 2 ^ 32 = repeatAfter args.type := by omega
  have reached : unixAlarmOf today args ≤ today.unix ↔
      instantOf today args % 2 ^ 32 ≤ today.unix.toNat := by
    rw [UInt32.le_iff_toNat_le, toNat_unixAlarmOf]
  refine start_fits_iff onTime bound today.unix.toNat_lt again ?_
  rw [start_eq, apply_ite UInt32.toNat, UInt32.toNat_add, UInt32.toNat_ofNat', word,
    toNat_unixAlarmOf]
  exact if_congr reached rfl rfl

/-- Where the date is the one of the current time, the next instant is always found. -/
theorem lt_nextInstant {today : Today} (args : AlarmArgs) {tod : Nat} (sameDay : tod < 86400)
    (onDate : today.unix.toNat = secondsFrom1970To2000 +
      (daysFrom2000 today.year.toNat today.month.toNat today.dom.toNat * 86400 + tod)) :
    today.unix.toNat < nextInstant today args := by
  have oneDay : 86400 ≤ repeatAfter args.type := by
    unfold repeatAfter
    split <;> decide
  unfold nextInstant
  split
  · assumption
  · rw [onDate, instantOf]
    omega

end

section

attribute [local instance] Board.plain

/-- The daily alarm of half past seven lasts half a minute. -/
theorem repeating_halfPastSeven :
    ¬ ∃ added, addedAlarm 0 noonUndated (halfPastSeven .dayly) zeroStack noAlarms = some added ∧
      WindowFits noonUndated (halfPastSeven .dayly) added := by
  rintro ⟨added, ends, -, lasts, -⟩
  rw [addedAlarm_eq] at ends
  cases ends
  exact absurd lasts (by decide)

/-- Noon of 21 June 2012. -/
def noonDated : Today := ⟨1340280000, 2012, 6, 21, 3⟩

/-- A quarter to eight, for no time. -/
def quarterToEight : AlarmArgs := { hh := 7, mm := 45, duration := 0, dowDom := 1, type := .dayly }

theorem repeating_quarterToEight :
    ∃ added, addedAlarm 0 noonDated quarterToEight zeroStack noAlarms = some added ∧
      WindowFits noonDated quarterToEight added :=
  (repeating_iff 0 noonDated zeroStack noAlarms (.inl rfl) (by decide) (by decide)).mpr (by decide)

end

/-! ### Alarms for days of the week -/

section

variable [Board]

/-- The start of an alarm on the day that lies so many days from today. -/
def startOn (today : Today) (args : AlarmArgs) (day : Int) : Int :=
  (today.unix.toNat / 86400 : Nat) * 86400 + (args.hh.toNat * 3600 + args.mm.toNat * 60 : Nat) +
    86400 * day

/-- The days, counted from today, whose weekday is in the mask. -/
def maskDays (today : Today) (args : AlarmArgs) : Set Int :=
  { day | args.dowDom.toNat.testBit ((today.dow.toNat + day) % 7).toNat = true }

/-- Those of them on which the window is not over yet. -/
def dueDays (today : Today) (args : AlarmArgs) : Set Int :=
  { day | day ∈ maskDays today args ∧
    today.unix.toNat < startOn today args day + 60 * args.duration.toNat }

/-- The alarm starts on the first of these days. -/
def StartsEarliest (today : Today) (args : AlarmArgs) (alarm : Alarm) : Prop :=
  ∃ day, IsLeast (dueDays today args) day ∧ (alarm.unixStart.toNat : Int) = startOn today args day

omit [Board] in
theorem maskDays_recurs (today : Today) (args : AlarmArgs) : Recurs 7 (maskDays today args) := by
  intro day member
  show args.dowDom.toNat.testBit ((today.dow.toNat + (day + (7 : Nat))) % 7).toNat = true
  rw [← Int.add_assoc, Nat.cast_ofNat, Int.add_emod_right]
  exact member

omit [Board] in
/-- A weekday of the mask is among the seven days from today on. -/
theorem maskDays_nonempty (today : Today) {args : AlarmArgs} (some : args.dowDom ≠ 0)
    (days : args.dowDom.toNat < 2 ^ numDaysOfWeek) : (maskDays today args).Nonempty := by
  obtain ⟨bit, set⟩ := Nat.exists_testBit_of_ne_zero (UInt32.toNat_inj.not.mpr some)
  have inside : bit < 7 := by
    by_contra outside
    have low : args.dowDom.toNat < 2 ^ bit :=
      days.trans_le (Nat.pow_le_pow_right (by decide) (Nat.le_of_not_lt outside))
    rw [Nat.testBit_lt_two_pow low] at set
    exact Bool.false_ne_true set
  refine ⟨bit - today.dow.toNat, ?_⟩
  have weekday : ((today.dow.toNat + (bit - today.dow.toNat : Int)) % 7).toNat = bit := by omega
  rw [maskDays, Set.mem_ofPred_eq, weekday]
  exact set

omit [Board] in
/-- There is a day for the alarm to start on. -/
theorem exists_earliest (today : Today) {args : AlarmArgs} (some : args.dowDom ≠ 0)
    (days : args.dowDom.toNat < 2 ^ numDaysOfWeek) : ∃ day, IsLeast (dueDays today args) day := by
  have oneDay : 0 < 86400 := by decide
  obtain ⟨day, earliest⟩ := (maskDays_recurs today args).exists_isLeast_after (by decide)
    (maskDays_nonempty today some days) oneDay
    (startOn today args 0 + 60 * args.duration.toNat) today.unix.toNat
  have due : dueDays today args = { day | day ∈ maskDays today args ∧
      (today.unix.toNat : Int) <
        startOn today args 0 + 60 * args.duration.toNat + (86400 : Nat) * day } := by
    ext day
    have finish : startOn today args day + 60 * args.duration.toNat =
        startOn today args 0 + 60 * args.duration.toNat + (86400 : Nat) * day := by
      unfold startOn
      omega
    rw [dueDays, Set.mem_ofPred_eq, Set.mem_ofPred_eq, finish]
  exact ⟨day, due ▸ earliest⟩

omit [Board] in
/-- Every day is counted, or none. -/
theorem numberOfAlarmIsSetFor_eq (number : Nat) (dowDom : UInt32) :
    numberOfAlarmIsSetFor number dowDom = if dowDom.toNat.testBit number then number else 0 := by
  unfold numberOfAlarmIsSetFor
  split
  · rw [List.foldl_const, List.length_range]
    exact (add_right_iterate_apply_zero 1).trans (Nat.mul_one number)
  · rw [List.foldl_const]
    exact Function.iterate_fixed rfl _

/-- The word that becomes the start of a weekly alarm. Nothing has set it. -/
def unsetWord (today : Today) (args : AlarmArgs) (stack : AlarmStack) : UInt32 :=
  if stack.unixAlarmNo 0 + args.duration.toUInt32 * 60 < today.unix then stack.unixAlarmNo 1
  else stack.unixAlarmNo 0

omit [Board] in
/-- With no day counted, nothing is searched for. -/
theorem weekly_eq (fuel : Nat) (today : Today) (unixAlarm : UInt32) {args : AlarmArgs}
    (stack : AlarmStack) (days : args.dowDom.toNat < 2 ^ numDaysOfWeek) :
    ∃ window, weekly fuel today unixAlarm args stack = some window ∧
      window.start = unsetWord today args stack := by
  have count : numberOfAlarmIsSetFor numDaysOfWeek args.dowDom = 0 := by
    rw [numberOfAlarmIsSetFor_eq, Nat.testBit_lt_two_pow days]
    rfl
  unfold weekly onDays unsetWord
  simp only [count, List.range_zero, List.foldlM_nil, Option.pure_def, Option.bind_eq_bind,
    Option.bind_some]
  split
  · exact ⟨_, rfl, rfl⟩
  · split <;> exact ⟨_, rfl, rfl⟩

theorem weekly_returns (fuel : Nat) (today : Today) {args : AlarmArgs} (stack : AlarmStack)
    (alarm : AlarmMemory) (isWeekly : args.type = .weekly)
    (days : args.dowDom.toNat < 2 ^ numDaysOfWeek) :
    ∃ added, addedAlarm fuel today args stack alarm = some added ∧
      added.unixStart = unsetWord today args stack := by
  obtain ⟨window, ends, start⟩ := weekly_eq fuel today (unixAlarmOf today args) stack days
  have times : newWindow fuel today args stack = some window := by
    rw [newWindow, isWeekly]
    exact ends
  exact ⟨storeAlarm args window (alarm 20), by rw [addedAlarm_eq, times, Option.map_some], start⟩

/-- **A weekly alarm** is added, and there is a day it should start on, but it starts when a word
that was never set says. -/
theorem weekly_unset (fuel : Nat) (today : Today) {args : AlarmArgs} (alarm : AlarmMemory)
    (isWeekly : args.type = .weekly) (chosen : args.dowDom ≠ 0)
    (days : args.dowDom.toNat < 2 ^ numDaysOfWeek) :
    (∃ day, IsLeast (dueDays today args) day) ∧
      (∀ stack, ∃ added, addedAlarm fuel today args stack alarm = some added ∧
        added.unixStart = unsetWord today args stack) ∧
      ¬ ∀ stack, ∃ added, addedAlarm fuel today args stack alarm = some added ∧
        StartsEarliest today args added := by
  have returns := fun stack => weekly_returns fuel today stack alarm isWeekly days
  refine ⟨exists_earliest today chosen days, returns, fun claim => ?_⟩
  -- A stack full of one word makes that word the start.
  have startsAt (word : UInt32) :
      ∃ day, IsLeast (dueDays today args) day ∧ (word.toNat : Int) = startOn today args day := by
    let stack : AlarmStack := ⟨fun _ => word, fun _ => 0⟩
    obtain ⟨added, ends, start⟩ := returns stack
    obtain ⟨added', ends', day, earliest, right⟩ := claim stack
    obtain rfl : added = added' := Option.some.inj (ends.symm.trans ends')
    rw [start, unsetWord, ite_self] at right
    exact ⟨day, earliest, right⟩
  obtain ⟨day, earliest, zero⟩ := startsAt 0
  obtain ⟨day', earliest', one⟩ := startsAt 1
  obtain rfl : day = day' := earliest.unique earliest'
  exact absurd (zero.trans one.symm) (by decide)

omit [Board] in
/-- Once a bit has been found, the search never ends. -/
theorem searchBits_forever (fuel : Nat) (dowDom : UInt32) (bound : Nat) (value : UInt32)
    (start : Nat) {found : UInt32} (no : UInt32) (was : found ≠ 0) :
    searchBits fuel dowDom bound value start found no = none := by
  refine whileLoop_forever (fun search (set : search.found ≠ 0) => ?_) (fun search set => ?_) fuel
    was
  · simpa using .inr set
  · dsimp only
    split
    · exact (by decide : (1 : UInt32) ≠ 0)
    · exact set

/-- **The bit behind the last weekday** makes every search run, and then nothing returns if the
stack happens to say that a bit has been found. -/
theorem weekly_hangs (fuel : Nat) (today : Today) {args : AlarmArgs} {stack : AlarmStack}
    (alarm : AlarmMemory) (isWeekly : args.type = .weekly)
    (behind : args.dowDom.toNat.testBit numDaysOfWeek = true) (found : stack.alarmFound 0 ≠ 0) :
    addedAlarm fuel today args stack alarm = none := by
  have count : numberOfAlarmIsSetFor numDaysOfWeek args.dowDom = 6 + 1 := by
    rw [numberOfAlarmIsSetFor_eq, behind]
    rfl
  have times : newWindow fuel today args stack = none := by
    rw [newWindow, isWeekly]
    simp only [weekly, onDays, count, List.range_succ_eq_map, List.foldlM_cons, findAlarm,
      searchBits_forever _ _ _ _ _ _ found, Option.bind_eq_bind, Option.bind_none]
  rw [addedAlarm_eq, times, Option.map_none]

end

section

attribute [local instance] Board.plain

/-- On a stack of zeros, an alarm for Mondays starts in 1970. -/
theorem weekly_1970 :
    ¬ ∃ added, addedAlarm 0 noonUndated (halfPastSeven .weekly) zeroStack noAlarms = some added ∧
      StartsEarliest noonUndated (halfPastSeven .weekly) added := by
  rintro ⟨added, ends, day, ⟨⟨-, due⟩, -⟩, starts⟩
  rw [addedAlarm_eq] at ends
  cases ends
  rw [← starts] at due
  exact absurd due (by decide)

theorem weekly_mondays :
    (∃ day, IsLeast (dueDays noonDated (halfPastSeven .weekly)) day) ∧
      (∀ stack, ∃ added, addedAlarm 0 noonDated (halfPastSeven .weekly) stack noAlarms = some added ∧
        added.unixStart = unsetWord noonDated (halfPastSeven .weekly) stack) ∧
      ¬ ∀ stack, ∃ added, addedAlarm 0 noonDated (halfPastSeven .weekly) stack noAlarms = some added ∧
        StartsEarliest noonDated (halfPastSeven .weekly) added :=
  weekly_unset 0 noonDated noAlarms rfl (by decide) (by decide)

end

end EquinoxClock.Rtc
