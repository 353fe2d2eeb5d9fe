/-
A calendar of years, months, days and times of day, for an arbitrary leap-year rule.

`Moment leap` is a date and a time of day that exist in the calendar: the bounds are fields, so
the 30th of February cannot be written down. `Moment.next` moves to the following second with all
carries, and `Moment.seconds` counts the seconds since the start of year 0. The two facts everything
else needs are

* `Moment.seconds_next`: the following second counts one more;
* `Moment.seconds_strictMono`: a later moment, in the lexicographic order, counts more, so the count
  determines the moment.

`gregorian` is the leap-year rule in use.
-/

import Mathlib.Algebra.BigOperators.Group.Finset.Basic
import Mathlib.Algebra.Order.BigOperators.Group.Finset
import Mathlib.Data.List.Lex
import Mathlib.Logic.Function.Iterate

namespace EquinoxClock.Lib

/-- The leap-year rule of the Gregorian calendar. -/
def gregorian (year : Nat) : Bool :=
  year % 4 == 0 && (year % 100 != 0 || year % 400 == 0)

section Calendar

variable (leap : Nat → Bool)

/-- The number of days of a month, January being month 1. -/
def monthLength (year month : Nat) : Nat :=
  if month = 2 then (if leap year then 29 else 28)
  else if month = 4 ∨ month = 6 ∨ month = 9 ∨ month = 11 then 30 else 31

/-- The days of a year before the first of the month. -/
def daysBefore (year month : Nat) : Nat :=
  ∑ index ∈ Finset.range (month - 1), monthLength leap year (index + 1)

/-- The number of days of a year. -/
def yearLength (year : Nat) : Nat := daysBefore leap year 13

/-- The days before the first of January of a year. -/
def yearStart (year : Nat) : Nat := ∑ index ∈ Finset.range year, yearLength leap index

theorem monthLength_pos (year month : Nat) : 28 ≤ monthLength leap year month := by
  unfold monthLength
  split_ifs <;> omega

theorem monthLength_le (year month : Nat) : monthLength leap year month ≤ 31 := by
  unfold monthLength
  split_ifs <;> omega

theorem daysBefore_one (year : Nat) : daysBefore leap year 1 = 0 := rfl

theorem daysBefore_succ (year month : Nat) (positive : 1 ≤ month) :
    daysBefore leap year (month + 1) = daysBefore leap year month + monthLength leap year month := by
  obtain ⟨index, rfl⟩ := Nat.exists_eq_add_of_le' positive
  exact Finset.sum_range_succ (fun index => monthLength leap year (index + 1)) index

/-- A later month starts later. -/
theorem daysBefore_mono (year : Nat) {first second : Nat} (ordered : first ≤ second) :
    daysBefore leap year first ≤ daysBefore leap year second :=
  Finset.sum_le_sum_of_subset (Finset.range_mono (by omega))

theorem yearStart_succ (year : Nat) :
    yearStart leap (year + 1) = yearStart leap year + yearLength leap year :=
  Finset.sum_range_succ _ _

theorem yearStart_mono {first second : Nat} (ordered : first ≤ second) :
    yearStart leap first ≤ yearStart leap second :=
  Finset.sum_le_sum_of_subset (Finset.range_mono ordered)

/-- The twelve months, summed. -/
theorem yearLength_eq (year : Nat) : yearLength leap year = if leap year then 366 else 365 := by
  cases known : leap year <;>
    simp [yearLength, daysBefore, Finset.sum_range_succ, monthLength, known]

variable {leap} in
/-- The months of a year depend on the rule for that year only. -/
theorem monthLength_congr {leap' : Nat → Bool} {year : Nat} (same : leap year = leap' year)
    (month : Nat) : monthLength leap year month = monthLength leap' year month := by
  unfold monthLength
  rw [same]

variable {leap} in
@[inherit_doc monthLength_congr]
theorem daysBefore_congr {leap' : Nat → Bool} {year : Nat} (same : leap year = leap' year)
    (month : Nat) : daysBefore leap year month = daysBefore leap' year month :=
  Finset.sum_congr rfl fun index _ => monthLength_congr same (index + 1)

/-- One more multiple is counted when the year is one. -/
theorem ceilDiv_succ {divisor : Nat} (positive : 0 < divisor) (year : Nat) :
    (year + 1 + (divisor - 1)) / divisor =
      (year + (divisor - 1)) / divisor + if year % divisor = 0 then 1 else 0 := by
  have multiple : divisor ∣ year + (divisor - 1) + 1 ↔ year % divisor = 0 := by
    rw [Nat.add_assoc, Nat.sub_add_cancel positive, Nat.dvd_add_self_right,
      Nat.dvd_iff_mod_eq_zero]
  rw [Nat.add_right_comm, Nat.succ_div, if_congr multiple rfl rfl]

/-- The leap days of the Gregorian rule, in closed form. -/
theorem yearStart_gregorian (year : Nat) : yearStart gregorian year + (year + 99) / 100 =
    365 * year + (year + 3) / 4 + (year + 399) / 400 := by
  induction year with
  | zero => rfl
  | succ year ih =>
      have rule : gregorian year = true ↔ year % 4 = 0 ∧ (year % 100 ≠ 0 ∨ year % 400 = 0) := by
        simp only [gregorian, Bool.and_eq_true, Bool.or_eq_true, beq_iff_eq, bne_iff_ne]
      have fours := ceilDiv_succ (show 0 < 4 by decide) year
      have hundreds := ceilDiv_succ (show 0 < 100 by decide) year
      have fourHundreds := ceilDiv_succ (show 0 < 400 by decide) year
      have century : year % 400 = 0 → year % 100 = 0 := by omega
      have fourth : year % 100 = 0 → year % 4 = 0 := by omega
      rw [yearStart_succ, yearLength_eq, if_congr rule rfl rfl, fours, hundreds, fourHundreds]
      -- What is left says which of the three remainders are zero.
      generalize year % 4 = four at *
      generalize year % 100 = hundred at *
      generalize year % 400 = fourHundred at *
      split_ifs <;> omega

end Calendar

/-- A date and a time of day of the calendar. -/
@[ext]
structure Moment (leap : Nat → Bool) where
  year : Nat
  month : Nat
  day : Nat
  hour : Nat
  minute : Nat
  second : Nat
  month_pos : 1 ≤ month
  month_le : month ≤ 12
  day_pos : 1 ≤ day
  day_le : day ≤ monthLength leap year month
  hour_lt : hour < 24
  minute_lt : minute < 60
  second_lt : second < 60

namespace Moment

variable {leap : Nat → Bool}

/-- The following second. -/
def next (moment : Moment leap) : Moment leap :=
  if second_lt : moment.second + 1 < 60 then
    { moment with second := moment.second + 1, second_lt }
  else if minute_lt : moment.minute + 1 < 60 then
    { moment with second := 0, second_lt := by omega, minute := moment.minute + 1, minute_lt }
  else if hour_lt : moment.hour + 1 < 24 then
    { moment with
      second := 0, second_lt := by omega, minute := 0, minute_lt := by omega
      hour := moment.hour + 1, hour_lt }
  else if day_le : moment.day + 1 ≤ monthLength leap moment.year moment.month then
    { moment with
      second := 0, second_lt := by omega, minute := 0, minute_lt := by omega
      hour := 0, hour_lt := by omega, day := moment.day + 1, day_pos := by omega, day_le }
  else if month_le : moment.month + 1 ≤ 12 then
    { year := moment.year, month := moment.month + 1, day := 1, hour := 0, minute := 0, second := 0
      month_pos := by omega, month_le, day_pos := by omega
      day_le := by have := monthLength_pos leap moment.year (moment.month + 1); omega
      hour_lt := by omega, minute_lt := by omega, second_lt := by omega }
  else
    { year := moment.year + 1, month := 1, day := 1, hour := 0, minute := 0, second := 0
      month_pos := by omega, month_le := by omega, day_pos := by omega
      day_le := by have := monthLength_pos leap (moment.year + 1) 1; omega
      hour_lt := by omega, minute_lt := by omega, second_lt := by omega }

/-- The days since the first day of year 0. -/
def days (moment : Moment leap) : Nat :=
  yearStart leap moment.year + daysBefore leap moment.year moment.month + (moment.day - 1)

/-- The ordinal number of the day in its year. -/
def dayOfYear (moment : Moment leap) : Nat := daysBefore leap moment.year moment.month + moment.day

/-- The seconds since midnight. -/
def timeOfDay (moment : Moment leap) : Nat :=
  moment.hour * 3600 + moment.minute * 60 + moment.second

/-- The seconds since the start of year 0. -/
def seconds (moment : Moment leap) : Nat := moment.days * 86400 + moment.timeOfDay

/-- A year starts with the first of January. -/
theorem days_newYear (moment : Moment leap) (month : moment.month = 1) (day : moment.day = 1) :
    moment.days = yearStart leap moment.year := by
  rw [days, month, day, daysBefore_one, Nat.add_zero]

theorem timeOfDay_lt (moment : Moment leap) : moment.timeOfDay < 86400 := by
  have := moment.hour_lt
  have := moment.minute_lt
  have := moment.second_lt
  unfold timeOfDay
  omega

/-- **The following second counts one more.** One case per carry; the day, month and year carries
are `daysBefore_succ` and `yearStart_succ`. -/
theorem seconds_next (moment : Moment leap) : moment.next.seconds = moment.seconds + 1 := by
  have hour := moment.hour_lt
  have minute := moment.minute_lt
  have second := moment.second_lt
  have dayPos := moment.day_pos
  have dayLe := moment.day_le
  have month := daysBefore_succ leap moment.year moment.month moment.month_pos
  unfold next
  split_ifs with secondLt minuteLt hourLt dayLt monthLt
  · simp only [seconds, days, timeOfDay]; omega
  · simp only [seconds, days, timeOfDay]; omega
  · simp only [seconds, days, timeOfDay]; omega
  · simp only [seconds, days, timeOfDay]; omega
  · simp only [seconds, days, timeOfDay]; omega
  · have december : moment.month = 12 := by have := moment.month_le; omega
    have year := yearStart_succ leap moment.year
    have firstDay := daysBefore_one leap (moment.year + 1)
    have last : yearLength leap moment.year = daysBefore leap moment.year moment.month +
        monthLength leap moment.year moment.month := by rw [← month, december]; rfl
    simp only [seconds, days, timeOfDay]
    omega

/-- A moment lies in its own year. -/
theorem days_bounds (moment : Moment leap) :
    yearStart leap moment.year ≤ moment.days ∧ moment.days < yearStart leap (moment.year + 1) := by
  have month := daysBefore_succ leap moment.year moment.month moment.month_pos
  have whole := daysBefore_mono leap moment.year (show moment.month + 1 ≤ 13 by
    have := moment.month_le; omega)
  have year := yearStart_succ leap moment.year
  have dayPos := moment.day_pos
  have dayLe := moment.day_le
  unfold yearLength at year
  unfold days
  omega

/-- A later year has later days. -/
theorem days_lt_of_year_lt {first second : Moment leap} (earlier : first.year < second.year) :
    first.days < second.days :=
  lt_of_lt_of_le first.days_bounds.2
    ((yearStart_mono leap earlier).trans second.days_bounds.1)

/-- Within a year, a later month has later days. -/
theorem days_lt_of_month_lt {first second : Moment leap} (year : first.year = second.year)
    (earlier : first.month < second.month) : first.days < second.days := by
  have month := daysBefore_succ leap first.year first.month first.month_pos
  have later := daysBefore_mono leap first.year (Nat.succ_le_of_lt earlier)
  rw [Nat.succ_eq_add_one] at later
  have dayPos := first.day_pos
  have dayLe := first.day_le
  unfold days
  rw [← year]
  omega

/-- The numbers of a moment, the largest unit first. -/
def fields (moment : Moment leap) : List Nat :=
  [moment.year, moment.month, moment.day, moment.hour, moment.minute, moment.second]

theorem fields_injective : Function.Injective (fields : Moment leap → List Nat) := by
  intro first second same
  simp only [fields, List.cons.injEq, and_true] at same
  obtain ⟨year, month, day, hour, minute, second⟩ := same
  exact Moment.ext year month day hour minute second

/-- Moments are ordered by their numbers, the largest unit first. -/
instance : LinearOrder (Moment leap) := LinearOrder.lift' fields fields_injective

theorem lt_iff {first second : Moment leap} : first < second ↔
    first.year < second.year ∨ first.year = second.year ∧
      (first.month < second.month ∨ first.month = second.month ∧
        (first.day < second.day ∨ first.day = second.day ∧
          first.timeOfDay < second.timeOfDay)) := by
  have time : first.timeOfDay < second.timeOfDay ↔
      first.hour < second.hour ∨ first.hour = second.hour ∧
        (first.minute < second.minute ∨ first.minute = second.minute ∧
          first.second < second.second) := by
    have := first.minute_lt
    have := second.minute_lt
    have := first.second_lt
    have := second.second_lt
    unfold timeOfDay
    omega
  have lex : first < second ↔ first.fields < second.fields := Iff.rfl
  rw [lex, time]
  simp only [fields, List.cons_lt_cons_iff, List.not_lt_nil, and_false, or_false]

/-- **A later moment counts more seconds.** -/
theorem seconds_strictMono : StrictMono (seconds : Moment leap → Nat) := by
  intro first second earlier
  have firstTime := first.timeOfDay_lt
  have secondTime := second.timeOfDay_lt
  unfold seconds
  obtain year | ⟨year, month | ⟨month, day | ⟨day, time⟩⟩⟩ := lt_iff.mp earlier
  · have := days_lt_of_year_lt year
    omega
  · have := days_lt_of_month_lt year month
    omega
  · have positive := first.day_pos
    simp only [days, year, month]
    omega
  · simp only [days, year, month, day]
    omega

/-- The count of seconds determines the moment. -/
theorem seconds_injective : Function.Injective (seconds : Moment leap → Nat) :=
  seconds_strictMono.injective

/-- A year ends with the last second of December. -/
theorem next_of_year_ne {moment : Moment leap} (enters : moment.next.year ≠ moment.year) :
    moment.fields = [moment.year, 12, 31, 23, 59, 59] ∧
      moment.next.fields = [moment.year + 1, 1, 1, 0, 0, 0] := by
  have hour := moment.hour_lt
  have minute := moment.minute_lt
  have second := moment.second_lt
  have monthLe := moment.month_le
  have dayLe := moment.day_le
  unfold next at enters ⊢
  split_ifs at enters ⊢ with secondLt minuteLt hourLt dayLt monthLt
  iterate 5 exact absurd rfl enters
  have december : moment.month = 12 := by omega
  rw [december, show monthLength leap moment.year 12 = 31 from rfl] at dayLe dayLt
  simp only [fields, december, List.cons.injEq, and_true, true_and]
  omega

theorem lt_next (moment : Moment leap) : moment < moment.next := by
  rw [← seconds_strictMono.lt_iff_lt, seconds_next]
  exact Nat.lt_succ_self _

theorem year_mono {first second : Moment leap} (ordered : first ≤ second) :
    first.year ≤ second.year := by
  obtain rfl | earlier := ordered.eq_or_lt
  · exact le_rfl
  · obtain year | ⟨year, -⟩ := lt_iff.mp earlier
    · exact year.le
    · exact year.le

/-- The days change with the time of day's return to midnight. -/
theorem days_next (moment : Moment leap) :
    moment.next.days = moment.days + if moment.next.timeOfDay = 0 then 1 else 0 := by
  have count := moment.seconds_next
  have time := moment.timeOfDay_lt
  have nextTime := moment.next.timeOfDay_lt
  unfold seconds at count
  split_ifs <;> omega

/-- The moment that many seconds later. -/
def later (count : Nat) (moment : Moment leap) : Moment leap := next^[count] moment

theorem seconds_later (count : Nat) (moment : Moment leap) :
    (moment.later count).seconds = moment.seconds + count := by
  induction count with
  | zero => exact (Nat.add_zero _).symm
  | succ count ih =>
      have step : moment.later (count + 1) = (moment.later count).next :=
        Function.iterate_succ_apply' next count moment
      rw [step, seconds_next, ih, Nat.add_assoc]

end Moment

end EquinoxClock.Lib
