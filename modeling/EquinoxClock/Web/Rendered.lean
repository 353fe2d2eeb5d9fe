/-
The names a page prints.

The weekday and the month of the heading are looked up in tables of seven and twelve names. Ticks,
and the setting of a Unix time, keep the counters within them; `/date?` stores the low four bits of
whatever month it is given, zero where it finds none.
-/

import EquinoxClock.Lib.Run
import EquinoxClock.Rtc.Settled
import EquinoxClock.Web.HomePage

namespace EquinoxClock.Web

open EquinoxClock.Led EquinoxClock.Lib EquinoxClock.Rtc

/-- `NUM_DAYS_OF_WEEK`. -/
def numDaysOfWeek : Nat := 7

/-- `NUM_MONTHS`. -/
def numMonths : Nat := 12

/-- The indices of a heading lie in the tables of names. -/
def Heading.Named (heading : Heading) : Prop :=
  heading.dow < numDaysOfWeek ∧ 0 ≤ heading.monthIndex ∧ heading.monthIndex < numMonths

/-- The counters show a weekday and a month. -/
structure Known (registers : Registers) : Prop where
  dow_lt : registers.dow < numDaysOfWeek
  month_pos : 1 ≤ registers.month
  month_le : registers.month ≤ numMonths

/-- What happens to the device: a request, or a second. -/
inductive Event where
  | request (request : Request)
  | tick

/-- A request that sets the date gives a month, of which four bits are stored. -/
def MonthGiven : Event → Prop
  | .request request => begins "/date?" request.url = true →
      1 ≤ (dateValues request.url).month &&& TimeType.month.mask ∧
        (dateValues request.url).month &&& TimeType.month.mask ≤ numMonths
  | .tick => True

instance (event : Event) : Decidable (MonthGiven event) := by
  cases event
  · exact inferInstanceAs (Decidable (_ → _))
  · exact inferInstanceAs (Decidable True)

/-- The hardware keeps a known weekday and month. -/
theorem Known.advance {registers : Registers} (known : Known registers) :
    Known (Rtc.advance registers) := by
  obtain ⟨dow, monthPos, monthLe⟩ := known
  have nextDow : nextDow registers < numDaysOfWeek := by
    unfold Rtc.nextDow numDaysOfWeek
    split <;> omega
  by_cases second : registers.sec < 59
  · rw [advance_second second]
    exact ⟨dow, monthPos, monthLe⟩
  by_cases minute : registers.min < 59
  · rw [advance_minute second minute]
    exact ⟨dow, monthPos, monthLe⟩
  by_cases hour : registers.hour < 23
  · rw [advance_hour second minute hour]
    exact ⟨dow, monthPos, monthLe⟩
  by_cases day : registers.dom < monthLength leapYear registers.year registers.month
  · rw [advance_day second minute hour day]
    exact ⟨nextDow, monthPos, monthLe⟩
  by_cases month : registers.month < 12
  · rw [advance_month second minute hour day month]
    exact ⟨nextDow, Nat.succ_pos _, month⟩
  · rw [advance_year second minute hour day month]
    exact ⟨nextDow, Nat.le_refl 1, Nat.succ_le_succ (Nat.zero_le 11)⟩

/-- A known month is read and stored as it is. -/
theorem Known.month_mask {registers : Registers} (known : Known registers) :
    registers.month &&& TimeType.month.mask = registers.month :=
  TimeType.and_mask_of_le (known.month_le.trans (by decide))

section

variable [Board] {clock : Clock}

/-- The weekday counter is computed, so it is always known. -/
theorem known_rtcTimeSetTime (args : TimeArgs) (clock : Clock) :
    Known (rtcTimeSetTime args clock).rtc ↔ 1 ≤ args.month &&& TimeType.month.mask ∧
      args.month &&& TimeType.month.mask ≤ numMonths := by
  have weekday : dayOfWeekManual args.year args.month args.dom < numDaysOfWeek :=
    Nat.mod_lt _ (by decide)
  have fits : dayOfWeekManual args.year args.month args.dom &&& TimeType.dayOfWeek.mask =
      dayOfWeekManual args.year args.month args.dom :=
    TimeType.and_mask_of_le (weekday.le.trans (by decide))
  rw [rtcTimeSetTime_eq]
  constructor
  · rintro ⟨-, monthPos, monthLe⟩
    exact ⟨monthPos, monthLe⟩
  · rintro ⟨monthPos, monthLe⟩
    exact ⟨fits.trans_lt weekday, monthPos, monthLe⟩

theorem Known.dstCheckAndCorrect (known : Known clock.rtc) :
    Known (Rtc.dstCheckAndCorrect clock).rtc := by
  have month : 1 ≤ getM clock &&& TimeType.month.mask ∧
      getM clock &&& TimeType.month.mask ≤ numMonths := by
    rw [getM, rtcGetTime, known.month_mask, known.month_mask]
    exact ⟨known.month_pos, known.month_le⟩
  unfold Rtc.dstCheckAndCorrect
  split
  · dsimp only
    rw [known_rtcTimeSetTime]
    split <;> exact month
  · exact known

theorem Known.rtcTick (known : Known clock.rtc) : Known (Rtc.rtcTick clock).rtc := by
  have before : Known (decisionState clock).rtc := by
    rw [decisionState, updateTime, (calendarChecks_eq _).1]
    obtain ⟨dow, monthPos, monthLe⟩ := known.advance
    exact ⟨dow, monthPos, monthLe⟩
  obtain ⟨dow, monthPos, monthLe⟩ := before.dstCheckAndCorrect
  rw [rtcTick_eq]
  dsimp only
  split <;> exact ⟨dow, monthPos, monthLe⟩

/-- The months of `localtime` count from zero. -/
theorem known_rtcSetPrint (unixt : Nat) (clock : Clock) : Known (rtcSetPrint unixt clock).rtc := by
  have month := (Board.localtime unixt).tmMon_lt
  have fits : 1 + (Board.localtime unixt).tmMon ≤ numMonths := by
    rw [numMonths]
    omega
  rw [rtcSetPrint, known_rtcTimeSetTime]
  show 1 ≤ (1 + (Board.localtime unixt).tmMon) &&& TimeType.month.mask ∧
    (1 + (Board.localtime unixt).tmMon) &&& TimeType.month.mask ≤ numMonths
  rw [TimeType.and_mask_of_le (fits.trans (by decide))]
  exact ⟨Nat.le_add_right 1 _, fits⟩

/-! ### Headings -/

omit [Board] in
theorem Known.heading {url : List UInt8} {device : Device} (known : Known device.clock.rtc)
    {printed : Heading} (prints : heading url device = some printed) : printed.Named := by
  have weekday : getDow device.clock = device.clock.rtc.dow :=
    TimeType.and_mask_of_le (known.dow_lt.le.trans (by decide))
  have month : getM device.clock = device.clock.rtc.month := known.month_mask
  unfold Web.heading at prints
  split at prints
  · obtain rfl := Option.some.inj prints
    have monthPos := known.month_pos
    have monthLe := known.month_le
    refine ⟨weekday.trans_lt known.dow_lt, ?_, ?_⟩ <;> simp only [month] <;> omega
  · exact absurd prints.symm (Option.some_ne_none printed)

/-- The state after an event. -/
def serve (device : Device) : Event → Device
  | .request request => (homePage request device).1
  | .tick => { device with clock := rtcTick device.clock }

/-- A heading printed at an event has its names. -/
def Names (device : Device) : Event → Prop
  | .request request => ∀ printed, (homePage request device).2 = some printed → printed.Named
  | .tick => True

/-- The heading shows the state after the request. -/
theorem heading_of_prints {request : Request} {device : Device} {printed : Heading}
    (prints : (homePage request device).2 = some printed) :
    heading request.url (homePage request device).1 = some printed := by
  have nothing : ∀ device : Device, ¬ (device, (none : Option Heading)).2 = some printed :=
    fun _ prints => Option.some_ne_none printed prints.symm
  cases asked request.url with
  | raw asked => exact absurd (homePage_raw device asked ▸ prints) (nothing _)
  | calculate asked => exact absurd (homePage_calc device asked ▸ prints) (nothing _)
  | off asked => exact absurd (homePage_off device asked ▸ prints) (nothing _)
  | date asked =>
      rw [homePage_date device asked] at prints ⊢
      exact prints
  | unix asked => exact absurd (homePage_unix device asked ▸ prints) (nothing _)
  | led asked =>
      rw [homePage_led device asked] at prints ⊢
      exact prints
  | allColour asked => exact absurd (homePage_allColour device asked ▸ prints) (nothing _)
  | clockColour asked => exact absurd (homePage_clockColour device asked ▸ prints) (nothing _)
  | other notRaw notCalc notOff notDate notUnix notLed notAll notClock =>
      rw [homePage_other device notRaw notCalc notOff notDate notUnix notLed notAll notClock]
        at prints ⊢
      dsimp only at prints
      split at prints
      · exact absurd prints (nothing device)
      · exact prints

theorem Known.homePage {request : Request} {device : Device} (known : Known device.clock.rtc)
    (given : MonthGiven (.request request)) : Known (Web.homePage request device).1.clock.rtc := by
  cases asked request.url with
  | raw asked =>
      rw [homePage_raw device asked]
      exact known
  | calculate asked =>
      rw [homePage_calc device asked]
      exact known
  | off asked =>
      rw [homePage_off device asked]
      exact known
  | date asked =>
      rw [homePage_date device asked]
      exact (known_rtcTimeSetTime _ _).mpr (given asked)
  | unix asked =>
      rw [homePage_unix device asked]
      exact known_rtcSetPrint _ _
  | led asked =>
      rw [homePage_led device asked]
      exact known
  | allColour asked =>
      rw [homePage_allColour device asked, allColourRequest]
      split <;> exact known
  | clockColour asked =>
      rw [homePage_clockColour device asked]
      exact known
  | other notRaw notCalc notOff notDate notUnix notLed notAll notClock =>
      rw [homePage_other device notRaw notCalc notOff notDate notUnix notLed notAll notClock]
      exact known

/-- An event that gives a month where one is stored keeps the counters known, and has its names. -/
theorem Known.serve {device : Device} (known : Known device.clock.rtc) {event : Event}
    (given : MonthGiven event) : Known (serve device event).clock.rtc ∧ Names device event := by
  cases event with
  | request request =>
      have after := known.homePage given
      exact ⟨after, fun _ prints => after.heading (heading_of_prints prints)⟩
  | tick => exact ⟨known.rtcTick, trivial⟩

/-- A heading that has its names shows that a month was given. -/
theorem monthGiven_of_names {device : Device} {event : Event} (names : Names device event) :
    MonthGiven event := by
  cases event with
  | request request =>
      intro asked
      have slash : begins "/" request.url = true := begins_front asked (by decide)
      have named := names _ (by rw [homePage_date device asked, heading, if_pos slash])
      have stored : getM (dateRequest request.url device).clock =
          (dateValues request.url).month &&& TimeType.month.mask := by
        rw [dateRequest, rtcTimeSetTime_eq]
        simp only [getM, rtcGetTime, Nat.and_assoc, Nat.and_self]
      obtain ⟨-, monthGe, monthLt⟩ := named
      simp only [stored] at monthGe monthLt
      omega
  | tick => trivial

/-- **The names of the headings.** From known counters on, whatever the requests and wherever the
seconds fall, all headings have their names exactly if all dates that are set have a month. -/
theorem rendered_iff {start : Device} (known : Known start.clock.rtc) (events : List Event) :
    Along serve Names start events ↔ Along serve (fun _ => MonthGiven) start events := by
  exact @along_iff _ _ serve (fun _ => MonthGiven) (fun device => Known device.clock.rtc) Names
    (fun _ _ known => ⟨monthGiven_of_names, fun given => (known.serve given).2⟩)
    (fun _ _ known given => (known.serve given).1) events start known

end

/-- A device whose clock has been set to 2012-06-21, 12:00:00. -/
def midsummer : Device :=
  letI := Board.plain
  ⟨rtcTimeSetTime ⟨2012, 6, 21, 12, 0, 0, 0⟩ Clock.cleared, Leds.initial⟩

/-- The page, a second later. -/
theorem rendered_midsummer :
    letI := Board.plain
    Along serve Names midsummer [.tick, .request ⟨ascii "/", [], true⟩] := by
  let _ := Board.plain
  have known : Known midsummer.clock.rtc :=
    (known_rtcTimeSetTime ⟨2012, 6, 21, 12, 0, 0, 0⟩ Clock.cleared).mpr (by decide)
  exact (rendered_iff known _).mpr (by decide)

/-- **A date without a month** is printed with the name in front of the table. -/
theorem rendered_without_month :
    letI := Board.plain
    ¬ Along serve Names midsummer [.request ⟨ascii "/date?dom=1&yy=2012", [], true⟩] ∧
      (homePage ⟨ascii "/date?dom=1&yy=2012", [], true⟩ midsummer).2.map Heading.monthIndex =
        some (-1) := by
  let _ := Board.plain
  have printed : (homePage ⟨ascii "/date?dom=1&yy=2012", [], true⟩ midsummer).2.map
      Heading.monthIndex = some (-1) := by
    decide +kernel
  refine ⟨fun names => ?_, printed⟩
  obtain ⟨heading, prints, before⟩ := Option.map_eq_some_iff.mp printed
  have monthGe := (names.1 heading prints).2.1
  rw [before] at monthGe
  exact absurd monthGe (by decide)

end EquinoxClock.Web
