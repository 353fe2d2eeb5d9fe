/-
Requests that are answered more than once.

The server calls `homePage` again for every further segment of the answer, so a request should do
no more the second time. `Device.settings` is what it may have changed. Two things go wrong:
a request to pause or to play keeps itself on the second call, and a colour is read together with
whatever stands in the scratch buffer. `repeated_iff` says that there is nothing else.
-/

import EquinoxClock.Led.PausePlay
import EquinoxClock.Led.Words
import EquinoxClock.Rtc.Settled
import EquinoxClock.Web.HomePage

namespace EquinoxClock.Web

open EquinoxClock.Led EquinoxClock.Lib EquinoxClock.Rtc

/-- The pattern, the brightness values and the colours, and the registers of the clock. -/
@[ext]
structure Settings where
  ledPattern : UInt8
  prevLedPattern : UInt8
  ledRaw : Int → UInt8
  milliDelay : Nat
  brightness : UInt8
  hc : Colour
  mc : Colour
  sc : Colour
  bc : Colour
  rtc : Registers

/-- The settings of a device. -/
def Device.settings (device : Device) : Settings where
  ledPattern := device.leds.ledPattern
  prevLedPattern := device.leds.prevLedPattern
  ledRaw := device.leds.ledRaw.cells
  milliDelay := device.leds.milliDelay
  brightness := device.leds.brightness
  hc := device.leds.hc
  mc := device.leds.mc
  sc := device.leds.sc
  bc := device.leds.bc
  rtc := device.clock.rtc

/-- The colours of a request are the same numbers whichever of two contents the scratch buffer has
behind its second byte. -/
structure Alike (url tmp tmp' : List UInt8) : Prop where
  allColour : begins "/setallcolour?" url = true → ∀ i, allColourPosition url = some i →
    colourAt tmp url i = colourAt tmp' url i
  clockColour : begins "/setclockcolour?" url = true → ∀ index < 4, ∀ i,
    clockColourPosition url index = some i → colourAt tmp url i = colourAt tmp' url i

/-- A request that may be answered twice: it selects neither pause nor play, unless these wait
already, and its colours do not depend on the scratch buffer. -/
structure Repeatable (url tmp tmp' : List UInt8) (device : Device) : Prop where
  led : begins "/LED?" url = true → Pausing (ledValues url).1 →
    device.leds.ledPattern = (ledValues url).1
  alike : Alike url tmp tmp'

/-! ### Selecting a pattern twice -/

theorem stores_storeRgb (group : Int) (r g b : UInt8) : Traced.Stores (storeRgb group r g b) :=
  ((Traced.stores_write _ _).comp (Traced.stores_write _ _)).comp (Traced.stores_write _ _)

theorem stores_clearRaw : Traced.Stores clearRaw :=
  Traced.stores_fold _ _ fun _ _ => Traced.stores_write _ _

theorem stores_storeAll (r g b : UInt8) : Traced.Stores (storeAll r g b) :=
  Traced.stores_fold _ _ fun _ _ => stores_storeRgb _ _ _ _

theorem getD_again {Value : Type*} (given : Option Value) (old : Value) :
    given.getD (given.getD old) = given.getD old := by
  cases given <;> rfl

/-! ### What a request changes -/

/-- A change of the settings: what is given is set, some of the brightness values are, and all else
stays. -/
structure Change where
  ledPattern : Option UInt8
  paint : Traced Int UInt8 → Traced Int UInt8
  stores : Traced.Stores paint
  milliDelay : Option Nat
  brightness : Option UInt8
  hc : Option Colour
  mc : Option Colour
  sc : Option Colour
  bc : Option Colour
  time : Option TimeArgs

/-- What is painted depends on the bytes only. -/
theorem Change.paint_cells (change : Change) (raw : Traced Int UInt8) :
    (change.paint ⟨raw.cells, []⟩).cells = (change.paint raw).cells := change.stores.congr rfl

section

variable [Board]

/-- The registers after `RTC_time_SetTime`. -/
def timeSet (args : TimeArgs) (registers : Registers) : Registers :=
  (rtcTimeSetTime args { Clock.cleared with rtc := registers }).rtc

theorem rtcTimeSetTime_rtc (args : TimeArgs) (clock : Clock) :
    (rtcTimeSetTime args clock).rtc = timeSet args clock.rtc := by
  rw [timeSet, rtcTimeSetTime_eq, rtcTimeSetTime_eq]

theorem timeSet_again (args : TimeArgs) (registers : Registers) :
    timeSet args (timeSet args registers) = timeSet args registers := by
  simp only [timeSet, rtcTimeSetTime_eq]

/-- No change. -/
def Change.none : Change where
  ledPattern := Option.none
  paint := id
  stores := Traced.stores_id
  milliDelay := Option.none
  brightness := Option.none
  hc := Option.none
  mc := Option.none
  sc := Option.none
  bc := Option.none
  time := Option.none

/-- The settings after a change. Pause and play keep the pattern they find. -/
def Change.apply (change : Change) (settings : Settings) : Settings where
  ledPattern := change.ledPattern.getD settings.ledPattern
  prevLedPattern := change.ledPattern.elim settings.prevLedPattern fun no =>
    if Pausing no then settings.ledPattern else settings.prevLedPattern
  ledRaw := (change.paint ⟨settings.ledRaw, []⟩).cells
  milliDelay := change.milliDelay.getD settings.milliDelay
  brightness := change.brightness.getD settings.brightness
  hc := change.hc.getD settings.hc
  mc := change.mc.getD settings.mc
  sc := change.sc.getD settings.sc
  bc := change.bc.getD settings.bc
  rtc := change.time.elim settings.rtc fun args => timeSet args settings.rtc

@[simp] theorem Change.apply_none (settings : Settings) : Change.none.apply settings = settings :=
  rfl

/-- Applied to a device, a change paints the memory it has. -/
theorem Change.apply_settings (change : Change) (device : Device) :
    (change.apply device.settings).ledRaw = (change.paint device.leds.ledRaw).cells :=
  change.paint_cells device.leds.ledRaw

/-- A change made again changes nothing, unless it is a request to pause or to play and finds
another pattern. -/
theorem Change.apply_again (change : Change) (settings : Settings) :
    change.apply (change.apply settings) = change.apply settings ↔
      ∀ no, change.ledPattern = some no → Pausing no → settings.ledPattern = no := by
  constructor
  · intro same no selected pausing
    have kept := congrArg Settings.prevLedPattern same
    simp only [apply, selected, Option.elim_some, if_pos pausing, Option.getD_some] at kept
    exact kept.symm
  · intro found
    refine Settings.ext (getD_again ..) ?_ ?_ (getD_again ..) (getD_again ..) (getD_again ..)
      (getD_again ..) (getD_again ..) (getD_again ..) ?_
    · simp only [apply]
      cases selected : change.ledPattern with
      | none => rfl
      | some no =>
          simp only [Option.elim_some, Option.getD_some]
          split
          · next pausing => exact (found no selected pausing).symm
          · rfl
    · exact (change.paint_cells _).trans (change.stores.again _)
    · simp only [apply]
      cases change.time with
      | none => rfl
      | some args => exact timeSet_again args settings.rtc

/-! ### The branches as changes -/

/-- The change a selection of a pattern makes. -/
def selectChange (no : UInt8) (delay : Nat) (bri : UInt8) : Change :=
  { Change.none with
    ledPattern := some no
    paint := clearRaw
    stores := stores_clearRaw
    milliDelay := if delay ≠ 0 then some delay else none
    brightness := if bri ≠ 0 then some bri else none }

theorem settings_setLedPattern (transferred : Bool) (no : UInt8) (delay : Nat) (bri : UInt8)
    (device : Device) :
    { device with leds := setLedPattern transferred no delay bri device.leds }.settings =
      (selectChange no delay bri).apply device.settings := by
  obtain ⟨pot, after⟩ := setLedPattern_eq transferred no delay bri device.leds
  rw [after]
  refine Settings.ext rfl ?_ ?_ ?_ ?_ rfl rfl rfl rfl rfl
  · by_cases pausing : Pausing no
    · exact (if_pos pausing).trans (if_pos pausing).symm
    · exact (if_neg pausing).trans (if_neg pausing).symm
  · exact stores_clearRaw.congr rfl
  · simp only [Device.settings, selectChange, Change.apply]
    split <;> rfl
  · simp only [Device.settings, selectChange, Change.apply]
    split <;> rfl

/-- The change of `/raw?`. -/
def rawChange (l h : Nat) : Change :=
  let colour := lookupHsv2rgb h maxBrightness
  { selectChange 255 1 0 with
    paint := fun raw => storeRgb ((l : Int).bmod (2 ^ 32)) colour.1 colour.2.1 colour.2.2
      (clearRaw (clearRaw raw))
    stores := (stores_clearRaw.comp stores_clearRaw).comp (stores_storeRgb _ _ _ _) }

theorem settings_rawRequest (request : Request) (device : Device) :
    (rawRequest request device).settings =
      (rawChange (rawValues request.url).1 (rawValues request.url).2).apply device.settings := by
  obtain ⟨pot, after⟩ := setLedPattern_eq request.transferred 255 1 0 (resetLeds device.leds)
  simp only [resetLeds] at after
  simp only [rawRequest, setHue_eq, resetLeds, after]
  refine Settings.ext rfl rfl ?_ rfl rfl rfl rfl rfl rfl rfl
  rw [Change.apply_settings]
  simp only [Device.settings, rawChange]

/-- The change of `/off?`. -/
def offChange : Change :=
  { selectChange 255 1 50 with
    paint := fun raw => clearRaw (clearRaw raw)
    stores := stores_clearRaw.comp stores_clearRaw }

theorem settings_offRequest (transferred : Bool) (device : Device) :
    (offRequest transferred device).settings = offChange.apply device.settings := by
  obtain ⟨pot, after⟩ := setLedPattern_eq transferred 255 1 50 (resetLeds device.leds)
  simp only [offRequest, after]
  exact Settings.ext rfl rfl (offChange.paint_cells _).symm rfl rfl rfl rfl rfl rfl rfl

theorem settings_ledRequest (request : Request) (device : Device) :
    (ledRequest request device).settings = (selectChange (ledValues request.url).1
      (ledValues request.url).2.1 (ledValues request.url).2.2).apply device.settings :=
  settings_setLedPattern ..

/-- The change of `/setallcolour?` with a colour. -/
def allColourChange (bc : Colour) : Change :=
  { selectChange ledpRaw 1 0 with
    paint := fun raw => storeAll (UInt8.ofNat bc.r) (UInt8.ofNat bc.g) (UInt8.ofNat bc.b)
      (clearRaw (clearRaw raw))
    stores := (stores_clearRaw.comp stores_clearRaw).comp (stores_storeAll _ _ _)
    bc := some bc }

theorem settings_allColourRequest (request : Request) (device : Device) :
    (allColourRequest request device).settings =
      ((allColourPosition request.url).elim Change.none fun i =>
        allColourChange (colourAt request.tmp request.url i)).apply device.settings := by
  rw [allColourRequest]
  cases allColourPosition request.url with
  | none => exact (Change.apply_none device.settings).symm
  | some i =>
      obtain ⟨pot, after⟩ := setLedPattern_eq request.transferred ledpRaw 1 0
        { device.leds with bc := colourAt request.tmp request.url i }
      simp only [after]
      refine Settings.ext rfl rfl ?_ rfl rfl rfl rfl rfl rfl rfl
      exact (calulateLedMibamBits_cells _).trans ((allColourChange _).paint_cells _).symm

/-- The change of `/setclockcolour?` with the colours it finds. -/
def clockColourChange (colour : Nat → Option Colour) : Change :=
  { selectChange ledpTime 121 65 with
    hc := colour 0
    mc := colour 1
    sc := colour 2
    bc := colour 3 }

/-- The colours a request finds. -/
def coloursOf (tmp url : List UInt8) (index : Nat) : Option Colour :=
  (clockColourPosition url index).map (colourAt tmp url)

theorem settings_clockColourRequest (request : Request) (device : Device) :
    (clockColourRequest request device).settings =
      (clockColourChange (coloursOf request.tmp request.url)).apply device.settings := by
  have found : ∀ index old, (clockColourPosition request.url index).elim old
      (colourAt request.tmp request.url) = (coloursOf request.tmp request.url index).getD old := by
    intro index old
    rw [coloursOf]
    cases clockColourPosition request.url index <;> rfl
  simp only [clockColourRequest, found]
  obtain ⟨pot, after⟩ := setLedPattern_eq request.transferred ledpTime 121 65
    { device.leds with
      hc := (coloursOf request.tmp request.url 0).getD device.leds.hc
      mc := (coloursOf request.tmp request.url 1).getD device.leds.mc
      sc := (coloursOf request.tmp request.url 2).getD device.leds.sc
      bc := (coloursOf request.tmp request.url 3).getD device.leds.bc }
  rw [after]
  exact Settings.ext rfl rfl (stores_clearRaw.congr rfl) rfl rfl rfl rfl rfl rfl rfl

/-- The change of a time. -/
def timeChange (args : TimeArgs) : Change := { Change.none with time := some args }

/-- Setting the clock changes the registers, and no other setting. -/
theorem settings_rtcTimeSetTime (args : TimeArgs) (device : Device) :
    ({ device with clock := rtcTimeSetTime args device.clock } : Device).settings =
      (timeChange args).apply device.settings :=
  Settings.ext rfl rfl rfl rfl rfl rfl rfl rfl rfl (rtcTimeSetTime_rtc ..)

theorem settings_dateRequest (url : List UInt8) (device : Device) :
    (dateRequest url device).settings = (timeChange (dateValues url)).apply device.settings :=
  settings_rtcTimeSetTime (dateValues url) device

theorem settings_unixRequest (url : List UInt8) (device : Device) :
    (unixRequest url device).settings =
      (timeChange (timeArgsOf (Board.localtime (unixValue url)))).apply device.settings :=
  settings_rtcTimeSetTime (timeArgsOf (Board.localtime (unixValue url))) device

/-! ### A request as a change -/

/-- The change a request asks for. -/
def changeOf (tmp url : List UInt8) : Change :=
  if begins "/raw?" url then rawChange (rawValues url).1 (rawValues url).2
  else if begins "/off?" url then offChange
  else if begins "/date?" url then timeChange (dateValues url)
  else if begins "/unix?" url then timeChange (timeArgsOf (Board.localtime (unixValue url)))
  else if begins "/LED?" url then
    selectChange (ledValues url).1 (ledValues url).2.1 (ledValues url).2.2
  else if begins "/setallcolour?" url then
    (allColourPosition url).elim Change.none fun i => allColourChange (colourAt tmp url i)
  else if begins "/setclockcolour?" url then clockColourChange (coloursOf tmp url)
  else Change.none

/-- **A request is a change.** What `home_page` does to the settings is the change the URL asks
for. -/
theorem settings_homePage (request : Request) (device : Device) :
    (homePage request device).1.settings =
      (changeOf request.tmp request.url).apply device.settings := by
  cases asked request.url with
  | raw asked =>
      rw [homePage_raw device asked, changeOf, if_pos asked]
      exact settings_rawRequest request device
  | calculate asked =>
      simp (disch := decide) only [homePage_calc device asked, changeOf, begins_other asked,
        Bool.false_eq_true, if_false]
      exact Settings.ext rfl rfl (calulateLedMibamBits_cells _) rfl rfl rfl rfl rfl rfl rfl
  | off asked =>
      simp (disch := decide) only [homePage_off device asked, changeOf, begins_other asked, asked,
        if_true, Bool.false_eq_true, if_false]
      exact settings_offRequest request.transferred device
  | date asked =>
      simp (disch := decide) only [homePage_date device asked, changeOf, begins_other asked, asked,
        if_true, Bool.false_eq_true, if_false]
      exact settings_dateRequest request.url device
  | unix asked =>
      simp (disch := decide) only [homePage_unix device asked, changeOf, begins_other asked, asked,
        if_true, Bool.false_eq_true, if_false]
      exact settings_unixRequest request.url device
  | led asked =>
      simp (disch := decide) only [homePage_led device asked, changeOf, begins_other asked, asked,
        if_true, Bool.false_eq_true, if_false]
      exact settings_ledRequest request device
  | allColour asked =>
      simp (disch := decide) only [homePage_allColour device asked, changeOf, begins_other asked,
        asked, if_true, Bool.false_eq_true, if_false]
      exact settings_allColourRequest request device
  | clockColour asked =>
      simp (disch := decide) only [homePage_clockColour device asked, changeOf, begins_other asked,
        asked, if_true, Bool.false_eq_true, if_false]
      exact settings_clockColourRequest request device
  | other notRaw notCalc notOff notDate notUnix notLed notAll notClock =>
      simp only [homePage_other device notRaw notCalc notOff notDate notUnix notLed notAll notClock,
        changeOf, notRaw, notOff, notDate, notUnix, notLed, notAll, notClock, Bool.false_eq_true,
        if_false, Change.apply_none]

section Twice

variable {url tmp tmp' : List UInt8}

theorem changeOf_led (tmp : List UInt8) (asked : begins "/LED?" url = true) : changeOf tmp url =
    selectChange (ledValues url).1 (ledValues url).2.1 (ledValues url).2.2 := by
  simp (disch := decide) only [changeOf, begins_other asked, asked, if_true, Bool.false_eq_true,
    if_false]

theorem changeOf_allColour (tmp : List UInt8) (asked : begins "/setallcolour?" url = true) :
    changeOf tmp url = (allColourPosition url).elim Change.none fun i =>
      allColourChange (colourAt tmp url i) := by
  simp (disch := decide) only [changeOf, begins_other asked, asked, if_true, Bool.false_eq_true,
    if_false]

theorem changeOf_clockColour (tmp : List UInt8) (asked : begins "/setclockcolour?" url = true) :
    changeOf tmp url = clockColourChange (coloursOf tmp url) := by
  simp (disch := decide) only [changeOf, begins_other asked, asked, if_true, Bool.false_eq_true,
    if_false]

/-- Only `/LED?` selects pause and play. -/
theorem changeOf_pausing {no : UInt8} (pausing : Pausing no)
    (selected : (changeOf tmp url).ledPattern = some no) :
    begins "/LED?" url = true ∧ (ledValues url).1 = no := by
  -- Each of the other numbers selected is the number of a pattern.
  have other : ∀ pattern, ¬ Pausing pattern → some pattern ≠ some no := by
    rintro pattern notPausing found
    exact notPausing (Option.some.inj found ▸ pausing)
  rw [changeOf] at selected
  split_ifs at selected with raw off date unix led all clock
  · exact absurd selected (other 255 (by decide))
  · exact absurd selected (other 255 (by decide))
  · exact absurd selected (Option.some_ne_none no).symm
  · exact absurd selected (Option.some_ne_none no).symm
  · exact ⟨led, Option.some.inj selected⟩
  · cases found : allColourPosition url with
    | none =>
        rw [found] at selected
        exact absurd selected (Option.some_ne_none no).symm
    | some i =>
        rw [found] at selected
        exact absurd selected (other ledpRaw (by decide))
  · exact absurd selected (other ledpTime (by decide))
  · exact absurd selected (Option.some_ne_none no).symm

theorem changeOf_alike (alike : Alike url tmp tmp') : changeOf tmp' url = changeOf tmp url := by
  by_cases all : begins "/setallcolour?" url = true
  · rw [changeOf_allColour tmp all, changeOf_allColour tmp' all]
    cases found : allColourPosition url with
    | none => rw [Option.elim_none, Option.elim_none]
    | some i => rw [Option.elim_some, Option.elim_some, alike.allColour all i found]
  by_cases clock : begins "/setclockcolour?" url = true
  · have same : ∀ index < 4, coloursOf tmp' url index = coloursOf tmp url index := by
      intro index small
      rw [coloursOf, coloursOf]
      cases found : clockColourPosition url index with
      | none => rw [Option.map_none, Option.map_none]
      | some i => rw [Option.map_some, Option.map_some, alike.clockColour clock index small i found]
    rw [changeOf_clockColour tmp clock, changeOf_clockColour tmp' clock, clockColourChange,
      clockColourChange, same 0 (by decide), same 1 (by decide), same 2 (by decide),
      same 3 (by decide)]
  · rw [changeOf, changeOf, if_neg all, if_neg clock, if_neg all, if_neg clock]

/-- If the second call changes nothing, it has read the colours of the first. -/
theorem alike_of_again {settings : Settings}
    (same : (changeOf tmp' url).apply ((changeOf tmp url).apply settings) =
      (changeOf tmp url).apply settings) : Alike url tmp tmp' := by
  constructor
  · intro asked i found
    rw [changeOf_allColour tmp asked, changeOf_allColour tmp' asked, found] at same
    exact (congrArg Settings.bc same).symm
  · intro asked index small i found
    rw [changeOf_clockColour tmp asked, changeOf_clockColour tmp' asked] at same
    have read : ∀ old, (coloursOf tmp' url index).getD ((coloursOf tmp url index).getD old) =
        (coloursOf tmp url index).getD old → colourAt tmp url i = colourAt tmp' url i := by
      intro old kept
      simp only [coloursOf, found, Option.map_some, Option.getD_some] at kept
      exact kept.symm
    match index, small with
    | 0, _ => exact read settings.hc (congrArg Settings.hc same)
    | 1, _ => exact read settings.mc (congrArg Settings.mc same)
    | 2, _ => exact read settings.sc (congrArg Settings.sc same)
    | 3, _ => exact read settings.bc (congrArg Settings.bc same)

/-- **A request answered twice.** The second of two calls of `home_page` with one URL leaves the
settings as the first one left them, exactly if the request is repeatable. -/
theorem repeated_iff (url tmp tmp' : List UInt8) (transferred transferred' : Bool)
    (device : Device) :
    (homePage ⟨url, tmp', transferred'⟩ (homePage ⟨url, tmp, transferred⟩ device).1).1.settings =
        (homePage ⟨url, tmp, transferred⟩ device).1.settings ↔
      Repeatable url tmp tmp' device := by
  rw [settings_homePage, settings_homePage]
  constructor
  · intro same
    have alike := alike_of_again same
    rw [changeOf_alike alike, Change.apply_again] at same
    refine ⟨fun asked pausing => same _ ?_ pausing, alike⟩
    rw [changeOf_led tmp asked]
    rfl
  · rintro ⟨led, alike⟩
    rw [changeOf_alike alike, Change.apply_again]
    intro no selected pausing
    obtain ⟨asked, rfl⟩ := changeOf_pausing pausing selected
    exact led asked pausing

end Twice

end

/-- A request to pause, answered once more while it waits, is kept in place of the clock's pattern. -/
theorem pause_answered_twice :
    letI := Board.plain
    let pause : Request := ⟨ascii "/LED?no=9&delay=0&bri=0", [], true⟩
    let once := (homePage pause ⟨Clock.cleared, ledInit true Leds.initial⟩).1
    (homePage pause once).1.settings ≠ once.settings ∧
      once.settings.prevLedPattern = 1 ∧ (homePage pause once).1.settings.prevLedPattern = 9 := by
  let _ := Board.plain
  have asked : begins "/LED?" (ascii "/LED?no=9&delay=0&bri=0") = true := by decide
  have number : (ledValues (ascii "/LED?no=9&delay=0&bri=0")).1 = 9 := by decide +kernel
  have found : (ledInit true Leds.initial).ledPattern = 1 := setLedPattern_ledPattern ..
  simp only [settings_homePage, changeOf_led _ asked, number]
  refine ⟨fun same => ?_, found, rfl⟩
  have kept : (9 : UInt8) = 1 := (congrArg Settings.prevLedPattern same).trans found
  exact absurd kept (by decide)

end EquinoxClock.Web
