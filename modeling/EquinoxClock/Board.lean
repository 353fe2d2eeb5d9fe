/-
What the firmware meets but does not define.

A `Board` fixes the values that come from outside the modelled code: the bytes the linker places
behind a constant table (a read past the table's end finds them), the floating-point sunrise
computation, the C library's `localtime`, and the two texts the compiler puts in for `__DATE__` and
`__TIME__`. Every definition and every theorem holds for an arbitrary board.
-/

namespace EquinoxClock

/-- `Sunrise_Num`. -/
inductive SunriseNum where
  | readSunset
  | readSunrise
  | readNoon
  deriving DecidableEq, Repr

/-- The part of `struct tm` the firmware reads, with the ranges `localtime` documents: the month
counts from 0, the year from 1900. -/
structure Tm where
  tmYear : Int
  tmMon : Nat
  tmMday : Nat
  tmHour : Nat
  tmMin : Nat
  tmSec : Nat
  tmMon_lt : tmMon < 12
  tmMday_pos : 1 ≤ tmMday
  tmMday_le : tmMday ≤ 31
  tmHour_lt : tmHour < 24
  tmMin_lt : tmMin < 60
  tmSec_le : tmSec ≤ 60

/-- What surrounds the firmware. -/
class Board where
  /-- The byte of flash `index` places behind the start of `daysInMonth`, past its end. -/
  pastDaysInMonth : Nat → Nat
  /-- The byte of flash `index` places behind the start of `RGB_LOOKUP`, past its end. -/
  pastRgbLookup : Nat → Nat
  /-- `Sunrise_Compute(month, day, rs)`. -/
  sunriseCompute : Nat → Nat → SunriseNum → Int
  /-- `localtime`, of the 32 bits passed as `time_t`. -/
  localtime : Nat → Tm
  /-- `__DATE__`: `Mmm dd yyyy`. -/
  date : List Char
  /-- `__TIME__`: `hh:mm:ss`. -/
  time : List Char

/-- A board on which nothing surprising lies around, for runs on fixed inputs. -/
@[reducible]
def Board.plain : Board where
  pastDaysInMonth _ := 0
  pastRgbLookup _ := 0
  sunriseCompute _ _ _ := 720
  localtime _ := ⟨100, 0, 1, 0, 0, 0, by decide, by decide, by decide, by decide, by decide,
    by decide⟩
  date := ['J', 'u', 'n', ' ', '1', '0', ' ', '2', '0', '1', '2']
  time := ['2', '0', ':', '5', '0', ':', '1', '0']

end EquinoxClock
