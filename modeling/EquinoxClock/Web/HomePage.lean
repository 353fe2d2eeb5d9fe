/-
The request handler of the web server.

`homePage` is `home_page`: it recognises the request, changes the clock and the lights, and for most
requests goes on to print a page with the date and the time. Of the page only the heading is
modelled, with the indices it uses into the tables of names.
-/

import EquinoxClock.Led.Patterns
import EquinoxClock.Web.Request

namespace EquinoxClock.Web

open EquinoxClock.Led EquinoxClock.Lib EquinoxClock.Rtc

/-- What a request can change. -/
structure Device where
  clock : Clock
  leds : Leds

/-- The device as it starts. -/
def started : Device := ⟨Clock.cleared, Leds.initial⟩

/-- A call of `home_page`: the URL, the content of the scratch buffer `tmp` before anything is stored
in it, and the result of a transfer to the potentiometer. -/
structure Request where
  url : List UInt8
  tmp : List UInt8
  transferred : Bool

/-- The heading of a page: the index into `DayOfWeekName`, the one into `Month_of_the_year`, and the
numbers. -/
structure Heading where
  dow : Nat
  dom : Nat
  monthIndex : Int
  year : Nat
  hh : Nat
  mm : Nat
  ss : Nat
  deriving DecidableEq, Repr

/-- The branch of `/off?`. -/
def offRequest (transferred : Bool) (device : Device) : Device :=
  { device with leds := setLedPattern transferred 255 1 50 (resetLeds device.leds) }

/-- The branch of `/LED?`. -/
def ledRequest (request : Request) (device : Device) : Device :=
  let (no, delay, bri) := ledValues request.url
  { device with leds := setLedPattern request.transferred no delay bri device.leds }

/-- The branch of `/setallcolour?`. -/
def allColourRequest (request : Request) (device : Device) : Device :=
  match allColourPosition request.url with
  | some i =>
      let bc := colourAt request.tmp request.url i
      let leds := setLedPattern request.transferred ledpRaw 1 0 { device.leds with bc }
      { device with leds := calulateLedMibamBits (setRgbAll (UInt8.ofNat bc.r) (UInt8.ofNat bc.g)
        (UInt8.ofNat bc.b) (resetLeds leds)) }
  | none => device

/-- The branch of `/setclockcolour?`: a colour that is not found stays. -/
def clockColourRequest (request : Request) (device : Device) : Device :=
  let colour := fun index old =>
    (clockColourPosition request.url index).elim old (colourAt request.tmp request.url)
  let leds := { device.leds with
    hc := colour 0 device.leds.hc
    mc := colour 1 device.leds.mc
    sc := colour 2 device.leds.sc
    bc := colour 3 device.leds.bc }
  { device with leds := setLedPattern request.transferred ledpTime 121 65 leds }

/-- The heading printed for URLs that begin with a slash. -/
def heading (url : List UInt8) (device : Device) : Option Heading :=
  if begins "/" url then
    some
      { dow := getDow device.clock
        dom := getDom device.clock
        monthIndex := (getM device.clock : Int) - 1
        year := getY device.clock
        hh := getHh device.clock
        mm := getMm device.clock
        ss := getSs device.clock }
  else none

/-- What a request asks for. -/
inductive Asked (url : List UInt8) : Prop
  | raw (asked : begins "/raw?" url = true)
  | calculate (asked : begins "/calc?" url = true)
  | off (asked : begins "/off?" url = true)
  | date (asked : begins "/date?" url = true)
  | unix (asked : begins "/unix?" url = true)
  | led (asked : begins "/LED?" url = true)
  | allColour (asked : begins "/setallcolour?" url = true)
  | clockColour (asked : begins "/setclockcolour?" url = true)
  | other (notRaw : begins "/raw?" url = false) (notCalc : begins "/calc?" url = false)
      (notOff : begins "/off?" url = false) (notDate : begins "/date?" url = false)
      (notUnix : begins "/unix?" url = false) (notLed : begins "/LED?" url = false)
      (notAll : begins "/setallcolour?" url = false)
      (notClock : begins "/setclockcolour?" url = false)

theorem asked (url : List UInt8) : Asked url := by
  cases notRaw : begins "/raw?" url with
  | true => exact .raw notRaw
  | false =>
  cases notCalc : begins "/calc?" url with
  | true => exact .calculate notCalc
  | false =>
  cases notOff : begins "/off?" url with
  | true => exact .off notOff
  | false =>
  cases notDate : begins "/date?" url with
  | true => exact .date notDate
  | false =>
  cases notUnix : begins "/unix?" url with
  | true => exact .unix notUnix
  | false =>
  cases notLed : begins "/LED?" url with
  | true => exact .led notLed
  | false =>
  cases notAll : begins "/setallcolour?" url with
  | true => exact .allColour notAll
  | false =>
  cases notClock : begins "/setclockcolour?" url with
  | true => exact .clockColour notClock
  | false => exact .other notRaw notCalc notOff notDate notUnix notLed notAll notClock

section

variable [Board]

/-- The branch of `/raw?`. -/
def rawRequest (request : Request) (device : Device) : Device :=
  let (l, h) := rawValues request.url
  { device with
    leds := setHue l h (setLedPattern request.transferred 255 1 0 (resetLeds device.leds)) }

/-- The branch of `/date?`. -/
def dateRequest (url : List UInt8) (device : Device) : Device :=
  { device with clock := rtcTimeSetTime (dateValues url) device.clock }

/-- The arguments `RTC_Set_print` passes on. -/
def timeArgsOf (timeinfo : Tm) : TimeArgs where
  year := ((1900 + timeinfo.tmYear) % 2 ^ 16).toNat
  month := 1 + timeinfo.tmMon
  dom := timeinfo.tmMday
  hh := timeinfo.tmHour
  mm := timeinfo.tmMin
  ss := timeinfo.tmSec
  st := 0

/-- `RTC_Set_print`. -/
def rtcSetPrint (unixt : Nat) (clock : Clock) : Clock :=
  rtcTimeSetTime (timeArgsOf (Board.localtime unixt)) clock

/-- The branch of `/unix?`. -/
def unixRequest (url : List UInt8) (device : Device) : Device :=
  { device with clock := rtcSetPrint (unixValue url) device.clock }

/-- `home_page`, with the heading of the page it prints. -/
def homePage (request : Request) (device : Device) : Device × Option Heading :=
  let url := request.url
  if begins "/raw?" url then (rawRequest request device, none)
  else if begins "/calc?" url then
    ({ device with leds := calulateLedMibamBits device.leds }, none)
  else if begins "/off?" url then (offRequest request.transferred device, none)
  else
    let device := if begins "/date?" url then dateRequest url device else device
    if begins "/unix?" url then (unixRequest url device, none)
    else
      let device := if begins "/LED?" url then ledRequest request device else device
      if begins "/setallcolour?" url then (allColourRequest request device, none)
      else if begins "/setclockcolour?" url then (clockColourRequest request device, none)
      else if begins "/jscolor/jscolor.js" url then (device, none)
      else (device, heading url device)

/-! ### The branches -/

section Branches

variable {request : Request} (device : Device)

theorem homePage_raw (asked : begins "/raw?" request.url = true) :
    homePage request device = (rawRequest request device, none) := by
  simp only [homePage, asked, if_true]

theorem homePage_calc (asked : begins "/calc?" request.url = true) : homePage request device =
    ({ device with leds := calulateLedMibamBits device.leds }, none) := by
  simp (disch := decide) only [homePage, begins_other asked, asked, if_true, Bool.false_eq_true,
    if_false]

theorem homePage_off (asked : begins "/off?" request.url = true) :
    homePage request device = (offRequest request.transferred device, none) := by
  simp (disch := decide) only [homePage, begins_other asked, asked, if_true, Bool.false_eq_true,
    if_false]

theorem homePage_date (asked : begins "/date?" request.url = true) : homePage request device =
    (dateRequest request.url device, heading request.url (dateRequest request.url device)) := by
  simp (disch := decide) only [homePage, begins_other asked, asked, if_true, Bool.false_eq_true,
    if_false]

theorem homePage_unix (asked : begins "/unix?" request.url = true) :
    homePage request device = (unixRequest request.url device, none) := by
  simp (disch := decide) only [homePage, begins_other asked, asked, if_true, Bool.false_eq_true,
    if_false]

theorem homePage_led (asked : begins "/LED?" request.url = true) : homePage request device =
    (ledRequest request device, heading request.url (ledRequest request device)) := by
  simp (disch := decide) only [homePage, begins_other asked, asked, if_true, Bool.false_eq_true,
    if_false]

theorem homePage_allColour (asked : begins "/setallcolour?" request.url = true) :
    homePage request device = (allColourRequest request device, none) := by
  simp (disch := decide) only [homePage, begins_other asked, asked, if_true, Bool.false_eq_true,
    if_false]

theorem homePage_clockColour (asked : begins "/setclockcolour?" request.url = true) :
    homePage request device = (clockColourRequest request device, none) := by
  simp (disch := decide) only [homePage, begins_other asked, asked, if_true, Bool.false_eq_true,
    if_false]

/-- Any other request changes nothing. -/
theorem homePage_other (notRaw : begins "/raw?" request.url = false)
    (notCalc : begins "/calc?" request.url = false) (notOff : begins "/off?" request.url = false)
    (notDate : begins "/date?" request.url = false) (notUnix : begins "/unix?" request.url = false)
    (notLed : begins "/LED?" request.url = false)
    (notAll : begins "/setallcolour?" request.url = false)
    (notClock : begins "/setclockcolour?" request.url = false) :
    homePage request device = (device,
      if begins "/jscolor/jscolor.js" request.url then none else heading request.url device) := by
  simp only [homePage, notRaw, notCalc, notOff, notDate, notUnix, notLed, notAll, notClock,
    Bool.false_eq_true, if_false]
  split <;> rfl

end Branches

end

end EquinoxClock.Web
