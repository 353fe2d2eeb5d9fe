/-
`/unix?`: the clock set to a Unix time.

The number is read from the request, `localtime` breaks it down, `RTC_time_SetTime` writes the parts
to the registers, and `update_time` puts them together again. When `localtime` is the breakdown of
the Gregorian calendar, what comes out is what was put in (`unix_request_exact`). `utcBoard` has such
a `localtime`.
-/

import EquinoxClock.Lib.Numeral
import EquinoxClock.Rtc.Gregorian
import EquinoxClock.Web.HomePage

namespace EquinoxClock.Web

open EquinoxClock.Led EquinoxClock.Lib EquinoxClock.Rtc

/-- The request for a Unix time. -/
def unixUrl (unixt : Nat) : List UInt8 := ascii "/unix?uni=" ++ decimal unixt

/-- The parts are those of the moment that many seconds after the start of Unix time. -/
def ExactBreakdown (timeinfo : Tm) (unixt : Nat) : Prop :=
  ∃ moment : Moment gregorian, moment.seconds = epoch.seconds + unixt ∧
    (moment.year : Int) = 1900 + timeinfo.tmYear ∧ moment.month = 1 + timeinfo.tmMon ∧
    moment.day = timeinfo.tmMday ∧ moment.hour = timeinfo.tmHour ∧
    moment.minute = timeinfo.tmMin ∧ moment.second = timeinfo.tmSec

/-! ### The number of the request -/

section

variable (unixt : Nat) (behind : List UInt8)

theorem drop_unixUrl (count : Nat) (early : count ≤ 10) : (unixUrl unixt ++ 0 :: behind).drop count =
    (ascii "/unix?uni=").drop count ++ (decimal unixt ++ 0 :: behind) := by
  rw [unixUrl, List.append_assoc, List.drop_append_of_le_length early]

theorem begins_unixUrl : begins "/unix?" (unixUrl unixt ++ 0 :: behind) = true := by
  rw [unixUrl, List.append_assoc]
  exact begins_append (by decide) _

/-- The name stands at the first position the scan looks at. -/
theorem positions_unixUrl : positions (unixUrl unixt ++ 0 :: behind) 6 100 ["uni"] 0 = some 6 := by
  have found : begins "uni" ((unixUrl unixt ++ 0 :: behind).drop 6) = true := by
    rw [drop_unixUrl unixt behind 6 (by decide)]
    exact begins_append (by decide) _
  have noted : noteKey (unixUrl unixt ++ 0 :: behind) 6 [("uni", none)] = [("uni", some 6)] := by
    rw [noteKey, if_pos found]
  have scanned : scanKeys (unixUrl unixt ++ 0 :: behind) (93 + 1) 6 [("uni", none)] =
      [("uni", some 6)] := by
    rw [scanKeys, noted]
    rfl
  exact congrArg (fun keys : Keys => (keys.map Prod.snd).getD 0 none) scanned

/-- **The number is read** as it was written. -/
theorem unixValue_unixUrl : unixValue (unixUrl unixt ++ 0 :: behind) = capped unixt := by
  have stops : Stops (0 :: behind) := by
    rw [Stops, List.headD_cons]
    decide
  have digits : (ascii "/unix?uni=").drop 10 = [] := by decide
  rw [unixValue, positions_unixUrl, numberAt, drop_unixUrl unixt behind 10 (by decide), digits,
    List.nil_append, strtoul_decimal unixt stops]

end

/-! ### The setting of the clock -/

section

variable [Board]

/-- The moments between the start of 2000 and the last second that a `time_t` holds. -/
theorem century_of_seconds {unixt : Nat} (first : 946684800 ≤ unixt) (last : unixt ≤ 2147483647)
    {moment : Moment gregorian} (count : moment.seconds = epoch.seconds + unixt) :
    2000 ≤ moment.year ∧ moment.year ≤ 2099 := by
  have start : unixtimeOf newYear2000_valid.century.1 + _ = _ :=
    unixtimeOf_add_epoch newYear2000_valid.century
  have stop := unixtimeOf_add_epoch overflowMoment
  rw [unixtimeOf_overflowMoment, secondsFrom1970To2000] at stop
  rw [show unixtimeOf newYear2000_valid.century.1 = 946684800 from rtcTimeFindUnixtime_2000] at start
  have notBefore : newYear2000_valid.century.1 ≤ moment := by
    rw [← Moment.seconds_strictMono.le_iff_le]
    omega
  have notBehind : moment ≤ overflowMoment.1 := by
    rw [← Moment.seconds_strictMono.le_iff_le]
    omega
  exact ⟨Moment.year_mono notBefore, (Moment.year_mono notBehind).trans (show 2068 ≤ 2099 by decide)⟩

/-- **A Unix time is set exactly.** From any state of the device, when `localtime` is exact for the
Unix time of the request, this is the time that `update_time` finds. -/
theorem unix_request_exact {unixt : Nat} (first : 946684800 ≤ unixt) (last : unixt ≤ 2147483647)
    (exact : ExactBreakdown (Board.localtime unixt) unixt) (behind tmp : List UInt8)
    (transferred : Bool) (device : Device) :
    (updateTime (homePage ⟨unixUrl unixt ++ 0 :: behind, tmp, transferred⟩
      device).1.clock).time2.unix = unixt := by
  obtain ⟨moment, count, year, month, day, hour, minute, second⟩ := exact
  obtain ⟨yearGe, yearLe⟩ := century_of_seconds first last count
  have read : unixValue (unixUrl unixt ++ 0 :: behind) = unixt := by
    rw [unixValue_unixUrl, capped, if_neg (by omega)]
  have args : timeArgsOf (Board.localtime unixt) = Century.args ⟨moment, yearGe, yearLe⟩ 0 := by
    have yearArg : ((1900 + (Board.localtime unixt).tmYear) % 2 ^ 16).toNat = moment.year := by omega
    rw [timeArgsOf, yearArg, ← month, ← day, ← hour, ← minute, ← second]
    rfl
  have valid := Century.valid ⟨moment, yearGe, yearLe⟩
  have counted : unixtimeOf moment + epoch.seconds = moment.seconds :=
    unixtimeOf_add_epoch ⟨moment, yearGe, yearLe⟩
  have sent := @homePage_unix _ ⟨unixUrl unixt ++ 0 :: behind, tmp, transferred⟩ device
    (begins_unixUrl unixt behind)
  rw [sent, unixRequest, read, rtcSetPrint, args]
  have shown : registersUnixtime (rtcTimeSetTime (Century.args ⟨moment, yearGe, yearLe⟩ 0)
      device.clock) = unixtimeOf moment := (rtcTimeSetTime_valid valid device.clock).2.2.1
  exact shown.trans (by omega)

end

/-! ### A `localtime` in universal time -/

/-- The parts of a moment. -/
def tmOf (moment : Moment gregorian) : Tm where
  tmYear := moment.year - 1900
  tmMon := moment.month - 1
  tmMday := moment.day
  tmHour := moment.hour
  tmMin := moment.minute
  tmSec := moment.second
  tmMon_lt := Nat.lt_succ_of_le (Nat.sub_le_sub_right moment.month_le 1)
  tmMday_pos := moment.day_pos
  tmMday_le := moment.day_le.trans (monthLength_le _ _ _)
  tmHour_lt := moment.hour_lt
  tmMin_lt := moment.minute_lt
  tmSec_le := moment.second_lt.le

/-- A board whose `localtime` counts on from the start of Unix time. -/
@[reducible]
def utcBoard : Board := { Board.plain with localtime := fun unixt => tmOf (epoch.later unixt) }

/-- It is exact. -/
theorem exactBreakdown_utcBoard (unixt : Nat) :
    ExactBreakdown (@Board.localtime utcBoard unixt) unixt := by
  have positive := (epoch.later unixt).month_pos
  refine ⟨epoch.later unixt, Moment.seconds_later unixt epoch, ?_, ?_, rfl, rfl, rfl, rfl⟩
  · show ((epoch.later unixt).year : Int) = 1900 + ((epoch.later unixt).year - 1900)
    omega
  · show (epoch.later unixt).month = 1 + ((epoch.later unixt).month - 1)
    omega

section

attribute [local instance] utcBoard

/-- The request of the source's comment. -/
theorem unix_request_2012 :
    (updateTime (homePage ⟨unixUrl 1351887087 ++ [0], [], true⟩
      ⟨Clock.cleared, Leds.initial⟩).1.clock).time2.unix = 1351887087 :=
  unix_request_exact (by decide) (by decide) (exactBreakdown_utcBoard 1351887087) [] [] true
    ⟨Clock.cleared, Leds.initial⟩

end

end EquinoxClock.Web
