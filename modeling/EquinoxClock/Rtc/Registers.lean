/-
The real-time clock peripheral: its registers, the driver's access to them, and the way the
hardware advances them.

`rtcSetTime` and `rtcGetTime` are the driver's `RTC_SetTime` and `RTC_GetTime`; every value is cut
to its register's mask on the way in and again on the way out. `advance` is one second of the
hardware: each counter that has reached its last value starts over and carries. The hardware's leap
rule is "divisible by four", which is the calendar's for the years 2000 to 2099.
-/

import EquinoxClock.Lib.Calendar
import Mathlib.Data.Nat.Bitwise

namespace EquinoxClock.Rtc

open EquinoxClock.Lib

/-- The hardware's leap rule. -/
def leapYear (year : Nat) : Bool := year % 4 == 0

/-- The registers of `LPC_RTC` the firmware uses: the time counters, the two general purpose
registers that survive a reset, and the two pending bits of the interrupt location register. -/
structure Registers where
  sec : Nat
  min : Nat
  hour : Nat
  dow : Nat
  dom : Nat
  doy : Nat
  month : Nat
  year : Nat
  gpreg3 : Nat
  gpreg4 : Nat
  counterIncrease : Bool
  alarm : Bool
  deriving DecidableEq, Repr

/-- `RTC_TIMETYPE_...`: which time counter is meant. -/
inductive TimeType where
  | second
  | minute
  | hour
  | dayOfWeek
  | dayOfMonth
  | dayOfYear
  | month
  | year
  deriving DecidableEq, Repr

/-- The mask of a counter's bits. -/
def TimeType.mask : TimeType → Nat
  | .second => 0x3F
  | .minute => 0x3F
  | .hour => 0x1F
  | .dayOfWeek => 0x07
  | .dayOfMonth => 0x1F
  | .dayOfYear => 0x1FF
  | .month => 0x0F
  | .year => 0xFFF

/-- `RTC_SetTime`. -/
def rtcSetTime (registers : Registers) (timetype : TimeType) (timeValue : Nat) : Registers :=
  match timetype with
  | .second => { registers with sec := timeValue &&& TimeType.second.mask }
  | .minute => { registers with min := timeValue &&& TimeType.minute.mask }
  | .hour => { registers with hour := timeValue &&& TimeType.hour.mask }
  | .dayOfWeek => { registers with dow := timeValue &&& TimeType.dayOfWeek.mask }
  | .dayOfMonth => { registers with dom := timeValue &&& TimeType.dayOfMonth.mask }
  | .dayOfYear => { registers with doy := timeValue &&& TimeType.dayOfYear.mask }
  | .month => { registers with month := timeValue &&& TimeType.month.mask }
  | .year => { registers with year := timeValue &&& TimeType.year.mask }

/-- `RTC_GetTime`. -/
def rtcGetTime (registers : Registers) (timetype : TimeType) : Nat :=
  match timetype with
  | .second => registers.sec &&& TimeType.second.mask
  | .minute => registers.min &&& TimeType.minute.mask
  | .hour => registers.hour &&& TimeType.hour.mask
  | .dayOfWeek => registers.dow &&& TimeType.dayOfWeek.mask
  | .dayOfMonth => registers.dom &&& TimeType.dayOfMonth.mask
  | .dayOfYear => registers.doy &&& TimeType.dayOfYear.mask
  | .month => registers.month &&& TimeType.month.mask
  | .year => registers.year &&& TimeType.year.mask

/-- A mask of low bits is a remainder. -/
theorem TimeType.and_mask (value : Nat) (timetype : TimeType) :
    value &&& timetype.mask = value % (timetype.mask + 1) := by
  cases timetype
  · exact Nat.and_two_pow_sub_one_eq_mod value 6
  · exact Nat.and_two_pow_sub_one_eq_mod value 6
  · exact Nat.and_two_pow_sub_one_eq_mod value 5
  · exact Nat.and_two_pow_sub_one_eq_mod value 3
  · exact Nat.and_two_pow_sub_one_eq_mod value 5
  · exact Nat.and_two_pow_sub_one_eq_mod value 9
  · exact Nat.and_two_pow_sub_one_eq_mod value 4
  · exact Nat.and_two_pow_sub_one_eq_mod value 12

/-- A value that fits its register is stored and read as it is. -/
theorem TimeType.and_mask_of_le {value : Nat} {timetype : TimeType}
    (fits : value ≤ timetype.mask) : value &&& timetype.mask = value := by
  rw [TimeType.and_mask, Nat.mod_eq_of_lt (Nat.lt_succ_of_le fits)]

/-- The weekday counter at midnight: seven values, counted on their own. -/
def nextDow (registers : Registers) : Nat := if registers.dow < 6 then registers.dow + 1 else 0

/-- The day-of-year counter at midnight, counted on its own as well. -/
def nextDoy (registers : Registers) : Nat :=
  if registers.doy < yearLength leapYear registers.year then registers.doy + 1 else 1

/-- The registers at midnight. -/
def nextDay (registers : Registers) : Registers :=
  let midnight := { registers with
    sec := 0, min := 0, hour := 0, dow := nextDow registers, doy := nextDoy registers }
  if registers.dom < monthLength leapYear registers.year registers.month then
    { midnight with dom := registers.dom + 1 }
  else if registers.month < 12 then
    { midnight with dom := 1, month := registers.month + 1 }
  else
    { midnight with dom := 1, month := 1, year := (registers.year + 1) &&& TimeType.year.mask }

/-- One second of the hardware: the counters move and the increment interrupt becomes pending. -/
def advance (registers : Registers) : Registers :=
  let pending := { registers with counterIncrease := true }
  if registers.sec < 59 then { pending with sec := registers.sec + 1 }
  else if registers.min < 59 then { pending with sec := 0, min := registers.min + 1 }
  else if registers.hour < 23 then { pending with sec := 0, min := 0, hour := registers.hour + 1 }
  else nextDay pending

section Carries

variable {registers : Registers}

theorem advance_second (second : registers.sec < 59) : advance registers =
    { registers with counterIncrease := true, sec := registers.sec + 1 } := by
  simp only [advance, if_pos second]

theorem advance_minute (second : ¬ registers.sec < 59) (minute : registers.min < 59) :
    advance registers =
      { registers with counterIncrease := true, sec := 0, min := registers.min + 1 } := by
  simp only [advance, if_neg second, if_pos minute]

theorem advance_hour (second : ¬ registers.sec < 59) (minute : ¬ registers.min < 59)
    (hour : registers.hour < 23) : advance registers =
    { registers with counterIncrease := true, sec := 0, min := 0, hour := registers.hour + 1 } := by
  simp only [advance, if_neg second, if_neg minute, if_pos hour]

theorem advance_midnight (second : ¬ registers.sec < 59) (minute : ¬ registers.min < 59)
    (hour : ¬ registers.hour < 23) :
    advance registers = nextDay { registers with counterIncrease := true } := by
  simp only [advance, if_neg second, if_neg minute, if_neg hour]

theorem advance_day (second : ¬ registers.sec < 59) (minute : ¬ registers.min < 59)
    (hour : ¬ registers.hour < 23)
    (day : registers.dom < monthLength leapYear registers.year registers.month) :
    advance registers = { registers with
      counterIncrease := true, sec := 0, min := 0, hour := 0, dow := nextDow registers,
      doy := nextDoy registers, dom := registers.dom + 1 } := by
  rw [advance_midnight second minute hour]
  simp only [nextDay, if_pos day, nextDow, nextDoy]

theorem advance_month (second : ¬ registers.sec < 59) (minute : ¬ registers.min < 59)
    (hour : ¬ registers.hour < 23)
    (day : ¬ registers.dom < monthLength leapYear registers.year registers.month)
    (month : registers.month < 12) :
    advance registers = { registers with
      counterIncrease := true, sec := 0, min := 0, hour := 0, dow := nextDow registers,
      doy := nextDoy registers, dom := 1, month := registers.month + 1 } := by
  rw [advance_midnight second minute hour]
  simp only [nextDay, if_neg day, if_pos month, nextDow, nextDoy]

theorem advance_year (second : ¬ registers.sec < 59) (minute : ¬ registers.min < 59)
    (hour : ¬ registers.hour < 23)
    (day : ¬ registers.dom < monthLength leapYear registers.year registers.month)
    (month : ¬ registers.month < 12) :
    advance registers = { registers with
      counterIncrease := true, sec := 0, min := 0, hour := 0, dow := nextDow registers,
      doy := nextDoy registers, dom := 1, month := 1,
      year := (registers.year + 1) &&& TimeType.year.mask } := by
  rw [advance_midnight second minute hour]
  simp only [nextDay, if_neg day, if_neg month, nextDow, nextDoy]

end Carries

/-- The numbers are a date of the years 2000 to 2099 and a time of day. -/
structure ValidTime (year month dom hh mm ss : Nat) : Prop where
  year_ge : 2000 ≤ year
  year_le : year ≤ 2099
  month_pos : 1 ≤ month
  month_le : month ≤ 12
  dom_pos : 1 ≤ dom
  dom_le : dom ≤ monthLength leapYear year month
  hh_lt : hh < 24
  mm_lt : mm < 60
  ss_lt : ss < 60

instance (year month dom hh mm ss : Nat) : Decidable (ValidTime year month dom hh mm ss) :=
  decidable_of_iff (2000 ≤ year ∧ year ≤ 2099 ∧ 1 ≤ month ∧ month ≤ 12 ∧ 1 ≤ dom ∧
      dom ≤ monthLength leapYear year month ∧ hh < 24 ∧ mm < 60 ∧ ss < 60)
    ⟨fun ⟨a, b, c, d, e, f, g, h, i⟩ => ⟨a, b, c, d, e, f, g, h, i⟩,
      fun ⟨a, b, c, d, e, f, g, h, i⟩ => ⟨a, b, c, d, e, f, g, h, i⟩⟩

section ValidTime

variable {year month dom hh mm ss : Nat}

/-- The calendar moment the numbers name. -/
def ValidTime.moment (valid : ValidTime year month dom hh mm ss) : Moment leapYear where
  year := year
  month := month
  day := dom
  hour := hh
  minute := mm
  second := ss
  month_pos := valid.month_pos
  month_le := valid.month_le
  day_pos := valid.dom_pos
  day_le := valid.dom_le
  hour_lt := valid.hh_lt
  minute_lt := valid.mm_lt
  second_lt := valid.ss_lt

theorem ValidTime.dom_le_31 (valid : ValidTime year month dom hh mm ss) : dom ≤ 31 :=
  valid.dom_le.trans (monthLength_le _ _ _)

end ValidTime

/-- The registers show a date of the years 2000 to 2099 and a time of day. -/
abbrev Registers.Valid (registers : Registers) : Prop :=
  ValidTime registers.year registers.month registers.dom registers.hour registers.min registers.sec

namespace Registers

variable {registers : Registers}

/-- The year after a year of the century fits its register. -/
theorem Valid.year_succ (valid : registers.Valid) :
    (registers.year + 1) &&& TimeType.year.mask = registers.year + 1 :=
  TimeType.and_mask_of_le (by have := valid.year_le; show _ ≤ 4095; omega)

/-- The year never goes back, and moves by one at most. -/
theorem Valid.year_advance (valid : registers.Valid) :
    registers.year ≤ (Rtc.advance registers).year ∧
      (Rtc.advance registers).year ≤ registers.year + 1 := by
  have newYear := valid.year_succ
  unfold Rtc.advance nextDay
  dsimp only
  split_ifs
  case neg => exact ⟨newYear.ge.trans' (Nat.le_succ _), newYear.le⟩
  all_goals exact ⟨le_rfl, Nat.le_succ _⟩

/-- **The hardware moves to the following second of the calendar**, and so keeps a valid date valid,
as long as the century lasts. One case per carry. -/
theorem Valid.advance (valid : registers.Valid) (century : (advance registers).year ≤ 2099) :
    ∃ later : (Rtc.advance registers).Valid, later.moment = valid.moment.next := by
  have yearSucc := valid.year_succ
  have sixty : 0 < 60 := by decide
  have midnight : 0 < 24 := by decide
  have firstOf : ∀ year month, 1 ≤ monthLength leapYear year month := fun year month =>
    (show 1 ≤ 28 by decide).trans (monthLength_pos leapYear year month)
  obtain ⟨yearGe, yearLe, monthPos, monthLe, domPos, domLe, hourLt, minLt, secLt⟩ := id valid
  unfold Moment.next
  by_cases second : registers.sec < 59
  · have carry : valid.moment.second + 1 < 60 := Nat.succ_lt_succ second
    rw [advance_second second, dif_pos carry]
    exact ⟨⟨yearGe, yearLe, monthPos, monthLe, domPos, domLe, hourLt, minLt, carry⟩, rfl⟩
  rw [dif_neg (show ¬ valid.moment.second + 1 < 60 from second ∘ Nat.lt_of_succ_lt_succ)]
  by_cases minute : registers.min < 59
  · have carry : valid.moment.minute + 1 < 60 := Nat.succ_lt_succ minute
    rw [advance_minute second minute, dif_pos carry]
    exact ⟨⟨yearGe, yearLe, monthPos, monthLe, domPos, domLe, hourLt, carry, sixty⟩, rfl⟩
  rw [dif_neg (show ¬ valid.moment.minute + 1 < 60 from minute ∘ Nat.lt_of_succ_lt_succ)]
  by_cases hour : registers.hour < 23
  · have carry : valid.moment.hour + 1 < 24 := Nat.succ_lt_succ hour
    rw [advance_hour second minute hour, dif_pos carry]
    exact ⟨⟨yearGe, yearLe, monthPos, monthLe, domPos, domLe, carry, sixty, sixty⟩, rfl⟩
  rw [dif_neg (show ¬ valid.moment.hour + 1 < 24 from hour ∘ Nat.lt_of_succ_lt_succ)]
  by_cases day : registers.dom < monthLength leapYear registers.year registers.month
  · have carry : valid.moment.day + 1 ≤
        monthLength leapYear valid.moment.year valid.moment.month := Nat.succ_le_of_lt day
    rw [advance_day second minute hour day, dif_pos carry]
    exact ⟨⟨yearGe, yearLe, monthPos, monthLe, Nat.succ_pos _, carry, midnight, sixty, sixty⟩, rfl⟩
  rw [dif_neg (show ¬ valid.moment.day + 1 ≤
    monthLength leapYear valid.moment.year valid.moment.month from day ∘ Nat.lt_of_succ_le)]
  by_cases month : registers.month < 12
  · have carry : valid.moment.month + 1 ≤ 12 := Nat.succ_le_of_lt month
    rw [advance_month second minute hour day month, dif_pos carry]
    exact ⟨⟨yearGe, yearLe, Nat.succ_pos _, carry, le_rfl, firstOf _ _, midnight, sixty, sixty⟩,
      rfl⟩
  rw [dif_neg (show ¬ valid.moment.month + 1 ≤ 12 from month ∘ Nat.lt_of_succ_le)]
  rw [advance_year second minute hour day month] at century ⊢
  simp only [yearSucc] at century ⊢
  exact ⟨⟨Nat.le_succ_of_le yearGe, century, le_rfl, (show 1 ≤ 12 by decide), le_rfl, firstOf _ _,
    midnight, sixty, sixty⟩, rfl⟩

end Registers

end EquinoxClock.Rtc
