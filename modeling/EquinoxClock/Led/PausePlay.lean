/-
Pausing and going on.

A request to pause or to play keeps the number of the running pattern in one variable, and the next
step of `ledLoop` puts it back. `Watched` runs the light code next to a note of what was selected
last. A second request before that step finds the first one's number in place of a pattern's, and
keeps that; `pause_play_restores` says that nothing else goes wrong: in a run from `ledInit` on, the
pattern comes back every time exactly if no such request is made while another one waits.
-/

import EquinoxClock.Led.Patterns
import EquinoxClock.Lib.Loop
import EquinoxClock.Lib.Run

namespace EquinoxClock.Led

open EquinoxClock.Lib EquinoxClock.Rtc

/-! ### What selecting and running do to the two numbers -/

section Frames

variable (transferred : Bool) (no : UInt8) (delay : Nat) (bri : UInt8) (state : Leds)

@[simp] theorem setLedPattern_ledPattern :
    (setLedPattern transferred no delay bri state).ledPattern = no := by
  obtain ⟨pot, after⟩ := setLedPattern_eq transferred no delay bri state
  rw [after]

/-- Pause and play keep the number they find. -/
@[simp] theorem setLedPattern_prevLedPattern :
    (setLedPattern transferred no delay bri state).prevLedPattern =
      if no = 9 ∨ no = 10 then state.ledPattern else state.prevLedPattern := by
  obtain ⟨pot, after⟩ := setLedPattern_eq transferred no delay bri state
  rw [after]

end Frames

/-- The numbers of the patterns, the selected one and the kept one. -/
def numbers (state : Leds) : UInt8 × UInt8 := (state.ledPattern, state.prevLedPattern)

/-- A number is a request to pause or to play. -/
def Pausing (no : UInt8) : Prop := no = ledpPause ∨ no = ledpPlay

instance (no : UInt8) : Decidable (Pausing no) :=
  inferInstanceAs (Decidable (no = ledpPause ∨ no = ledpPlay))

/-- The number selected after one step of the pattern `no`. -/
def nextPattern (no kept : UInt8) : UInt8 :=
  if Pausing no then kept else if no = ledpSimpleAllColors then ledpOff else no

section Painting

variable (state : Leds)

theorem numbers_resetLeds : numbers (resetLeds state) = numbers state := rfl

theorem numbers_calulate : numbers (calulateLedMibamBits state) = numbers state := rfl

theorem numbers_paintSeconds (ss : Nat) : numbers (paintSeconds ss state) = numbers state := rfl

theorem numbers_paintMinutes (mm : Nat) : numbers (paintMinutes mm state) = numbers state := rfl

theorem numbers_paintHours (hh : Nat) : numbers (paintHours hh state) = numbers state := rfl

theorem numbers_paintBackground : numbers (paintBackground state) = numbers state := by
  rw [paintBackground]
  exact fold_invariant (fun _ state' => numbers state' = numbers state) rgbs _ state rfl
    fun _ _ _ same => same

theorem numbers_ledTime (clock : Clock) : numbers (ledTime clock state) = numbers state := by
  rw [ledTime, numbers_calulate, numbers_paintHours, numbers_paintMinutes, numbers_paintSeconds,
    numbers_paintBackground, numbers_resetLeds]

theorem numbers_ledOneByOne : numbers (ledOneByOne state) = numbers state := by
  rw [ledOneByOne]
  dsimp only
  split <;> rfl

theorem numbers_getBrighter (colour : Nat) : numbers (getBrighter colour state) = numbers state := by
  rw [getBrighter]
  dsimp only
  split
  · split <;> split <;> rfl
  · rfl

theorem numbers_getDuller (colour : Nat) : numbers (getDuller colour state) = numbers state := by
  rw [getDuller]
  dsimp only
  split
  · split <;> split <;> rfl
  · rfl

theorem numbers_ledOneByOneSmooth (colour : Nat) :
    numbers (ledOneByOneSmooth colour state) = numbers state := by
  rw [ledOneByOneSmooth, numbers_getDuller, numbers_getBrighter]

theorem numbers_ledOff : numbers (ledOff state) = numbers state := rfl

/-- A pattern that leaves the numbers is none of those that are to change them. -/
theorem numbers_kept {next : Leds} (kept : numbers next = numbers state)
    (notPausing : ¬ Pausing state.ledPattern) (lasting : state.ledPattern ≠ ledpSimpleAllColors) :
    numbers next = (nextPattern state.ledPattern state.prevLedPattern, state.prevLedPattern) := by
  rw [kept, nextPattern, if_neg notPausing, if_neg lasting]
  rfl

variable [Board]

theorem numbers_paintRainbow : numbers (paintRainbow state) = numbers state := by
  rw [paintRainbow]
  exact fold_invariant (fun _ state' => numbers state' = numbers state) rgbs _ state rfl
    fun _ _ _ same => same

theorem numbers_ledRotatingRainbow : numbers (ledRotatingRainbow state) = numbers state := by
  rw [ledRotatingRainbow, numbers_calulate, numbers_paintRainbow]
  split <;> rfl

theorem numbers_ledRainbowAll : numbers (ledRainbowAll state) = numbers state := by
  rw [ledRainbowAll]
  dsimp only
  split <;> rfl

/-- What one step of the selected pattern does to the numbers: pause and play put the kept one
back, and the one-shot pattern replaces itself. -/
theorem numbers_runPattern (clock : Clock) : numbers (runPattern clock state) =
    (nextPattern state.ledPattern state.prevLedPattern, state.prevLedPattern) := by
  -- The one-shot pattern, pause and play compute; the others leave the numbers.
  have kept : ∀ {next no}, state.ledPattern = no → numbers next = numbers state → ¬ Pausing no →
      no ≠ ledpSimpleAllColors → numbers next =
        (nextPattern state.ledPattern state.prevLedPattern, state.prevLedPattern) := by
    rintro next no rfl same notPausing lasting
    exact numbers_kept state same notPausing lasting
  have timeless : RunsTime state.ledPattern →
      ¬ Pausing state.ledPattern ∧ state.ledPattern ≠ ledpSimpleAllColors := by
    rintro (time | ⟨above, -⟩)
    · rw [time]
      decide
    · refine ⟨?_, fun once => ?_⟩
      · rintro (paused | played)
        · rw [paused] at above
          exact absurd above (by decide)
        · rw [played] at above
          exact absurd above (by decide)
      · rw [once] at above
        exact absurd above (by decide)
  refine @runPattern_cases _ (fun next => numbers next =
      (nextPattern state.ledPattern state.prevLedPattern, state.prevLedPattern)) clock state
    (fun off => ?_) (fun time => ?_) (fun oneByOne => ?_) (fun rotating => ?_) (fun once => ?_)
    (fun smooth colour _ => ?_) (fun rainbow => ?_) (fun paused => ?_) (fun played => ?_)
    (fun raw => ?_)
  · exact kept off (numbers_ledOff state) (by decide) (by decide)
  · exact kept rfl (numbers_ledTime state clock) (timeless time).1 (timeless time).2
  · exact kept oneByOne (numbers_ledOneByOne state) (by decide) (by decide)
  · exact kept rotating (numbers_ledRotatingRainbow state) (by decide) (by decide)
  · rw [once]
    rfl
  · have same := numbers_ledOneByOneSmooth state colour
    obtain number | number | number := smooth
    · exact kept number same (by decide) (by decide)
    · exact kept number same (by decide) (by decide)
    · exact kept number same (by decide) (by decide)
  · exact kept rainbow (numbers_ledRainbowAll state) (by decide) (by decide)
  · rw [paused]
    rfl
  · rw [played]
    rfl
  · exact kept raw rfl (by decide) (by decide)

end Painting

/-! ### Runs -/

/-- What happens to the lights: a pattern is selected, timer 2 fires, or the main loop comes by. -/
inductive LedEvent where
  | setPattern (transferred : Bool) (no : UInt8) (delay : Nat) (bri : UInt8)
  | timer2
  | loop (clock : Clock)

/-- The lights, with the last number selected that is neither pause nor play, and whether that was
the one-shot pattern and it has already run. -/
structure Watched where
  leds : Leds
  selected : UInt8
  done : Bool

/-- The number that belongs in `LED_PATTERN` while nothing waits. -/
def Watched.due (watched : Watched) : UInt8 := if watched.done then ledpOff else watched.selected

section

variable [Board]

/-- A step of the lights, with the notes kept up. -/
def watchedStep (watched : Watched) : LedEvent → Watched
  | .setPattern transferred no delay bri =>
      let leds := setLedPattern transferred no delay bri watched.leds
      if Pausing no then { watched with leds } else ⟨leds, no, false⟩
  | .timer2 => { watched with leds := timer2IrqHandler watched.leds }
  | .loop clock =>
      { watched with
        leds := ledLoop clock watched.leds
        done := watched.done ||
          (watched.leds.ledIntOccured && watched.leds.ledPattern == ledpSimpleAllColors) }

/-- The lights after `LED_init`, which selects the clock. -/
def watchedStart (transferred : Bool) : Watched := ⟨ledInit transferred Leds.initial, 1, false⟩

/-- After the step, a request to pause or to play is not what is kept; and if the step has processed
such a request, the selected pattern is back. -/
def Restores (watched : Watched) (event : LedEvent) : Prop :=
  let after := watchedStep watched event
  ¬ Pausing after.leds.prevLedPattern ∧
    ∀ clock, event = .loop clock → watched.leds.ledIntOccured → Pausing watched.leds.ledPattern →
      after.leds.ledPattern = after.due

end

/-- No request to pause or to play is made while another one waits to be processed. -/
def OneRequest (watched : Watched) : LedEvent → Prop
  | .setPattern _ no _ _ => Pausing no → ¬ Pausing watched.leds.ledPattern
  | .timer2 | .loop _ => True

/-- Between two events: what is kept is a pattern's number, and the number due is the selected one
or, while a request waits, the kept one. -/
structure Kept (watched : Watched) : Prop where
  prev : ¬ Pausing watched.leds.prevLedPattern
  due : watched.due =
    if Pausing watched.leds.ledPattern then watched.leds.prevLedPattern else watched.leds.ledPattern

/-- A normal selection is due at once. -/
theorem kept_select {watched : Watched} (kept : Kept watched) (transferred : Bool) {no : UInt8}
    (delay : Nat) (bri : UInt8) (normal : ¬ Pausing no) :
    Kept ⟨setLedPattern transferred no delay bri watched.leds, no, false⟩ := by
  have notRequest : ¬ (no = 9 ∨ no = 10) := normal
  refine ⟨?_, ?_⟩
  · simp only [setLedPattern_prevLedPattern, if_neg notRequest]
    exact kept.prev
  · simp only [setLedPattern_ledPattern, if_neg normal]
    rfl

/-- A request keeps the number due, if no other request waits. -/
theorem kept_request {watched : Watched} (kept : Kept watched) (transferred : Bool) {no : UInt8}
    (delay : Nat) (bri : UInt8) (request : Pausing no)
    (alone : ¬ Pausing watched.leds.ledPattern) :
    Kept { watched with leds := setLedPattern transferred no delay bri watched.leds } := by
  have isRequest : no = 9 ∨ no = 10 := request
  have due := kept.due
  rw [if_neg alone] at due
  refine ⟨?_, ?_⟩
  · simp only [setLedPattern_prevLedPattern, if_pos isRequest]
    exact alone
  · simp only [setLedPattern_ledPattern, setLedPattern_prevLedPattern, if_pos isRequest,
      if_pos request]
    exact due

/-- `LED_init` leaves the clock selected and nothing kept. -/
theorem kept_start (transferred : Bool) : Kept (watchedStart transferred) := by
  have pattern : (ledInit transferred Leds.initial).ledPattern = 1 := setLedPattern_ledPattern ..
  have prev : (ledInit transferred Leds.initial).prevLedPattern = 0 :=
    setLedPattern_prevLedPattern ..
  refine ⟨?_, ?_⟩
  · rw [watchedStart, prev]; decide
  · rw [watchedStart, pattern]; rfl

section

variable [Board]

theorem numbers_ledLoop (clock : Clock) {state : Leds} (occured : state.ledIntOccured = true) :
    (ledLoop clock state).ledPattern = nextPattern state.ledPattern state.prevLedPattern ∧
      (ledLoop clock state).prevLedPattern = state.prevLedPattern := by
  have numbers := numbers_runPattern state clock
  rw [ledLoop, if_pos occured]
  exact ⟨congrArg Prod.fst numbers, congrArg Prod.snd numbers⟩

/-- A step of the selected pattern leaves the number due, or makes it due. -/
theorem kept_loop {watched : Watched} (kept : Kept watched) (clock : Clock) :
    Kept (watchedStep watched (.loop clock)) ∧
      (watched.leds.ledIntOccured = true → Pausing watched.leds.ledPattern →
        (watchedStep watched (.loop clock)).leds.ledPattern =
          (watchedStep watched (.loop clock)).due) := by
  by_cases occured : watched.leds.ledIntOccured = true
  · obtain ⟨next, prev⟩ := numbers_ledLoop clock occured
    have due := kept.due
    have keptPrev : ¬ Pausing (watchedStep watched (.loop clock)).leds.prevLedPattern :=
      prev ▸ kept.prev
    by_cases waiting : Pausing watched.leds.ledPattern
    · have lasting : (watched.leds.ledPattern == ledpSimpleAllColors) = false := by
        obtain paused | played := waiting
        · rw [paused]; decide
        · rw [played]; decide
      rw [if_pos waiting] at due
      rw [nextPattern, if_pos waiting] at next
      have back : (watchedStep watched (.loop clock)).leds.ledPattern =
          (watchedStep watched (.loop clock)).due := by
        rw [Watched.due, watchedStep]
        simp only [lasting, Bool.and_false, Bool.or_false]
        rw [next, ← due, Watched.due]
      have normal : ¬ Pausing (watchedStep watched (.loop clock)).leds.ledPattern := by
        rw [watchedStep, next]
        exact kept.prev
      exact ⟨⟨keptPrev, by rw [if_neg normal, back]⟩, fun _ _ => back⟩
    · rw [if_neg waiting] at due
      rw [nextPattern, if_neg waiting] at next
      refine ⟨⟨keptPrev, ?_⟩, fun _ pausing => absurd pausing waiting⟩
      by_cases once : watched.leds.ledPattern = ledpSimpleAllColors
      · rw [if_pos once] at next
        have normal : ¬ Pausing (watchedStep watched (.loop clock)).leds.ledPattern := by
          rw [watchedStep, next]; decide
        rw [if_neg normal, Watched.due, watchedStep]
        simp only [next, once, occured, beq_self_eq_true, Bool.and_self, Bool.or_true, if_true]
      · rw [if_neg once] at next
        have normal : ¬ Pausing (watchedStep watched (.loop clock)).leds.ledPattern := by
          rw [watchedStep, next]; exact waiting
        rw [if_neg normal, Watched.due, watchedStep]
        simp only [next, beq_false_of_ne once, Bool.and_false, Bool.or_false]
        exact due
  · have same : watchedStep watched (.loop clock) = watched := by
      rw [Bool.not_eq_true] at occured
      rw [watchedStep, ledLoop, occured]
      simp
    rw [same]
    exact ⟨kept, fun isTrue => absurd isTrue occured⟩

/-- A step under the condition keeps the invariant and restores what was selected. -/
theorem kept_step {watched : Watched} {event : LedEvent} (kept : Kept watched)
    (alone : OneRequest watched event) :
    Kept (watchedStep watched event) ∧ Restores watched event := by
  cases event with
  | setPattern transferred no delay bri =>
      have next : Kept (watchedStep watched (.setPattern transferred no delay bri)) := by
        rw [watchedStep]
        split
        · next request => exact kept_request kept transferred delay bri request (alone request)
        · next normal => exact kept_select kept transferred delay bri normal
      exact ⟨next, next.prev, fun _ same => by cases same⟩
  | timer2 => exact ⟨⟨kept.prev, kept.due⟩, kept.prev, fun _ same => by cases same⟩
  | loop clock =>
      obtain ⟨next, back⟩ := kept_loop kept clock
      exact ⟨next, next.prev, fun _ _ => back⟩

/-- A second request keeps the first one's number. -/
theorem oneRequest_of_restores {watched : Watched} {event : LedEvent}
    (restores : Restores watched event) : OneRequest watched event := by
  cases event with
  | setPattern transferred no delay bri =>
      intro request waiting
      have isRequest : no = 9 ∨ no = 10 := request
      refine restores.1 ?_
      simp only [watchedStep, if_pos request, setLedPattern_prevLedPattern, if_pos isRequest]
      exact waiting
  | timer2 => trivial
  | loop => trivial

/-- **Pause and play.** In a run from `LED_init` on, no request is ever kept in place of a pattern
and each processed request brings back the pattern selected last, exactly if no request to pause or
to play is made while another one waits. -/
theorem pause_play_restores (transferred : Bool) (events : List LedEvent) :
    Along watchedStep Restores (watchedStart transferred) events ↔
      Along watchedStep OneRequest (watchedStart transferred) events := by
  exact @along_iff _ _ watchedStep OneRequest Kept Restores
    (fun _ _ kept => ⟨oneRequest_of_restores, fun alone => (kept_step kept alone).2⟩)
    (fun _ _ kept alone => (kept_step kept alone).1) events _ (kept_start transferred)

end

/-- Asked to pause twice before the main loop comes by, the lights never show the clock again. -/
theorem pause_twice :
    letI := Board.plain
    let events := [.setPattern true 9 0 0, .setPattern true 9 0 0, .loop Clock.cleared]
    ¬ Along watchedStep Restores (watchedStart true) events ∧
      (run watchedStep (watchedStart true) events).leds.ledPattern = 9 ∧
      (run watchedStep (watchedStart true) events).due = 1 := by
  let _ := Board.plain
  have occured : (setLedPattern true 9 0 0
      (setLedPattern true 9 0 0 (watchedStart true).leds)).ledIntOccured = true := rfl
  refine ⟨fun restores => ?_, ?_, rfl⟩
  · exact oneRequest_of_restores restores.2.1 (.inl rfl) (.inl (setLedPattern_ledPattern ..))
  · refine (numbers_ledLoop Clock.cleared occured).1.trans ?_
    rw [setLedPattern_ledPattern, setLedPattern_prevLedPattern, setLedPattern_ledPattern]
    rfl

end EquinoxClock.Led
