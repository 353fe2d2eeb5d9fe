/-
`Screen_loop`: what the radio shows, the buttons of the remote control, and the commands for the
phone.

The loop has three parts, one behind the other: it puts the old text back when a temporary one has
been shown long enough, it finds out from a completed message what the radio plays, and it follows a
button. `radioStep` runs them part by part, with interrupts and other texts in between. While the
radio shows a pause or traffic news, texts are refused; `obeys_iff` says what that costs. The text
`AUX` that ends a pause is answered before the pause is over, so nothing is sent; and the test that
should keep track buttons from the phone is always true.
-/

import EquinoxClock.Screen.Send

namespace EquinoxClock.Screen

open EquinoxClock.Lib

/-! ### The three parts -/

/-- A command printed for the phone. -/
def printTasker (command : Tasker) (radio : Radio) : Radio :=
  { radio with printed := radio.printed ++ [command] }

/-- The first part: a temporary text has been shown for its time. -/
def checkTimeout (waits : Nat → List (List Interrupt)) (radio : Radio) : Radio :=
  if radio.displayTimeout = 0 ∧ ¬ radio.screen.buttomPressed ∧ ¬ radio.screen.recieveComplete then
    (sendToScreen 0x121 (ascii "") returnString waits radio).2
  else radio

/-- The branch for the text `AUX`, up to the display: the first time, it gets a text of its own. -/
def refreshAux (waits : Nat → List (List Interrupt)) (radio : Radio) : Radio :=
  if radio.firstScreen then
    { printTasker .play (sendToScreen 0x121 (ascii "PHONE") newString waits radio).2 with
      firstScreen := false }
  else (sendToScreen 0x121 (ascii "") returnString waits radio).2

/-- The phone goes on after a pause or traffic news. -/
def endPause (radio : Radio) : Radio :=
  if radio.sourceTemp = .pause ∨ radio.sourceTemp = .traffic then printTasker .unpause radio
  else radio

/-- The branch for the text `AUX`: the display is refreshed first, and then the source is set. -/
def enterAux (waits : Nat → List (List Interrupt)) (radio : Radio) : Radio :=
  { endPause (refreshAux waits radio) with source := .aux, sourceTemp := .aux }

/-- The comparisons of the text of a message. -/
def followText (text : List UInt8) (waits : Nat → List (List Interrupt)) (radio : Radio) : Radio :=
  if strncmp 3 text (ascii "AUX     ") = 0 then enterAux waits radio
  else if strncmp 3 text (ascii " PAUSE  ") = 0 then
    printTasker .pause { radio with sourceTemp := .pause }
  else if strncmp 4 text (ascii " VOL ") = 0 then { radio with sourceTemp := .volume }
  else if strncmp 5 text (ascii "TRAFFIC") = 0 then
    printTasker .pause { radio with sourceTemp := .traffic }
  else if ¬ radio.sourceTemp = .traffic then
    { printTasker .stop radio with source := .radio }
  else radio

/-- The second part: a message is complete. Without a marker in it, the local array with the text
keeps the bytes that are there, `unset`. -/
def checkMessage (waits : Nat → List (List Interrupt)) (unset : List UInt8) (radio : Radio) : Radio :=
  if radio.screen.recieveComplete then
    let radio := { radio with screen := extractText radio.screen }
    let radio := followText (radio.screen.screenText.getD unset) waits radio
    { radio with screen := { radio.screen with recieveComplete := false } }
  else radio

/-- The `switch` over the buttons; the other cases only print what was pressed. -/
def followButton (waits : Nat → List (List Interrupt)) (radio : Radio) : Radio :=
  match radio.screen.buttonTempFull with
  | 0x0000 | 0x000A =>
      if radio.source = .aux then
        (sendToScreen 0x121 (ascii "=/>") tempString waits (printTasker .pause radio)).2
      else radio
  | 0x0101 =>
      if radio.source = .aux ∧ (radio.sourceTemp ≠ .pause ∨ radio.sourceTemp ≠ .traffic) then
        (sendToScreen 0x121 (ascii "Track +") tempString waits (printTasker .next radio)).2
      else radio
  | 0x0141 =>
      if radio.source = .aux ∧ (radio.sourceTemp ≠ .pause ∨ radio.sourceTemp ≠ .traffic) then
        (sendToScreen 0x121 (ascii "Track -") tempString waits (printTasker .prev radio)).2
      else radio
  | _ => radio

/-- The third part: a button is pressed. -/
def checkButton (waits : Nat → List (List Interrupt)) (radio : Radio) : Radio :=
  if radio.screen.buttomPressed then
    let radio := followButton waits radio
    { radio with screen := { radio.screen with buttomPressed := false } }
  else radio

/-- What happens to the display: an interrupt, the next part of `Screen_loop`, or a text from
elsewhere. -/
inductive RadioEvent where
  | interrupt (cause : Interrupt)
  | loop (waits : Nat → List (List Interrupt)) (unset : List UInt8)
  | send (string : List UInt8) (command : UInt8) (waits : Nat → List (List Interrupt))

/-- A step of the display. -/
def radioStep (radio : Radio) : RadioEvent → Radio
  | .interrupt cause => interrupt radio cause
  | .loop waits unset =>
      match radio.part with
      | .timeout => { checkTimeout waits radio with part := .message }
      | .message => { checkMessage waits unset radio with part := .button }
      | .button => { checkButton waits radio with part := .timeout }
  | .send string command waits => (sendToScreen 0x121 string command waits radio).2

/-! ### What a text does -/

section Sending

variable {radio : Radio} (sendId : Nat) (string : List UInt8) (command : UInt8)
  (waits : Nat → List (List Interrupt))

theorem sendToScreen_refused (refusing : Refusing radio) :
    sendToScreen sendId string command waits radio = (.error, { radio with displayTimeout := -1 }) :=
  if_pos refusing

/-- A text that is not refused is put into the frames and sent; interrupts do the rest. -/
theorem sendToScreen_accepted (accepting : ¬ Refusing radio) :
    let shown := showString string command radio
    Interrupted { shown with sent := shown.sent ++ screenFrames sendId shown.screenText }
      (sendToScreen sendId string command waits radio).2 := by
  rw [sendToScreen, if_neg accepting]
  exact sendScreen_sent sendId waits _

/-- Whatever the command, these stay. -/
theorem showString_keeps :
    (showString string command radio).source = radio.source ∧
      (showString string command radio).sourceTemp = radio.sourceTemp ∧
      (showString string command radio).part = radio.part ∧
      (showString string command radio).sent = radio.sent ∧
      (showString string command radio).printed = radio.printed := by
  rw [showString]
  split_ifs <;> exact ⟨rfl, rfl, rfl, rfl, rfl⟩

/-- Sending prints no command and leaves the source. -/
theorem sendToScreen_keeps :
    (sendToScreen sendId string command waits radio).2.source = radio.source ∧
      (sendToScreen sendId string command waits radio).2.sourceTemp = radio.sourceTemp ∧
      (sendToScreen sendId string command waits radio).2.part = radio.part ∧
      (sendToScreen sendId string command waits radio).2.printed = radio.printed := by
  by_cases refusing : Refusing radio
  · rw [sendToScreen_refused sendId string command waits refusing]
    exact ⟨rfl, rfl, rfl, rfl⟩
  · obtain ⟨screen, displayTimeout, after, -⟩ :=
      sendToScreen_accepted sendId string command waits refusing
    obtain ⟨source, sourceTemp, part, -, printed⟩ := @showString_keeps radio string command
    rw [after]
    exact ⟨source, sourceTemp, part, printed⟩

end Sending

/-! ### Commands and answers -/

/-- A message is complete, and its text starts with `AUX`. -/
def ShowsAux (radio : Radio) : Prop :=
  radio.screen.recieveComplete = true ∧
    ∃ text, (extractText radio.screen).screenText = some text ∧ ascii "AUX" <+: text

/-- A track button is pressed. -/
def TrackPressed (radio : Radio) : Prop :=
  radio.screen.buttomPressed = true ∧
    (radio.screen.buttonTempFull = 0x0101 ∨ radio.screen.buttonTempFull = 0x0141)

/-- What was printed between the two has nothing to do with tracks. -/
def Trackless (radio after : Radio) : Prop :=
  ∃ commands, after.printed = radio.printed ++ commands ∧ .next ∉ commands ∧ .prev ∉ commands

/-- While the radio shows a pause or traffic news, the phone is told nothing about tracks; and the
text `AUX` is answered with the frames of the text that is to be shown. -/
structure Obeys (radio : Radio) (event : RadioEvent) : Prop where
  quiet : Refusing radio → Trackless radio (radioStep radio event)
  refreshes : ∀ waits unset, event = .loop waits unset → radio.part = .message → ShowsAux radio →
    (radioStep radio event).sent =
        radio.sent ++ screenFrames 0x121 (radioStep radio event).screenText ∧
      (radioStep radio event).screenText.text = (radioStep radio event).prevText

/-- While the radio shows a pause or traffic news, no track button is followed with the source at
`AUX`, and no text `AUX` comes to the loop. -/
def Unrefused (radio : Radio) : RadioEvent → Prop
  | .loop _ _ =>
      match radio.part with
      | .timeout => True
      | .message => ShowsAux radio → ¬ Refusing radio
      | .button => TrackPressed radio → radio.source = .aux → ¬ Refusing radio
  | .interrupt _ | .send .. => True

/-- The test of the track buttons for a pause and traffic news is always true. -/
theorem track_test (temp : Remote) : temp ≠ .pause ∨ temp ≠ .traffic := by
  cases temp <;> decide

/-- The text `AUX` is found by its first three characters. -/
theorem strncmp_aux {text : List UInt8} (aux : ascii "AUX" <+: text) :
    strncmp 3 text (ascii "AUX     ") = 0 := by
  have three : strncmp 3 text (ascii "AUX") = 0 :=
    (strncmp_length_eq_zero (t := ascii "AUX") (noNul_of_all (by decide)) text).mpr aux
  exact (strncmp_take 3 text (ascii "AUX     ")).symm.trans three

section Printed

variable {radio middle after : Radio}

theorem trackless_of_eq (same : after.printed = radio.printed) : Trackless radio after :=
  ⟨[], same.trans (List.append_nil _).symm, List.not_mem_nil, List.not_mem_nil⟩

theorem trackless_print (command : Tasker) (other : command ≠ .next ∧ command ≠ .prev)
    (printed : after.printed = radio.printed ++ [command]) : Trackless radio after :=
  ⟨[command], printed, fun isNext => other.1 (List.mem_singleton.mp isNext).symm,
    fun isPrev => other.2 (List.mem_singleton.mp isPrev).symm⟩

theorem Trackless.trans (first : Trackless radio middle) (second : Trackless middle after) :
    Trackless radio after := by
  obtain ⟨commands, printed, noNext, noPrev⟩ := first
  obtain ⟨commands', printed', noNext', noPrev'⟩ := second
  refine ⟨commands ++ commands', ?_, fun isNext => ?_, fun isPrev => ?_⟩
  · rw [printed', printed, List.append_assoc]
  · exact (List.mem_append.mp isNext).elim noNext noNext'
  · exact (List.mem_append.mp isPrev).elim noPrev noPrev'

variable (radio) (waits : Nat → List (List Interrupt))

theorem trackless_sendToScreen (string : List UInt8) (command : UInt8) :
    Trackless radio (sendToScreen 0x121 string command waits radio).2 :=
  trackless_of_eq (sendToScreen_keeps ..).2.2.2

theorem trackless_checkTimeout : Trackless radio (checkTimeout waits radio) := by
  rw [checkTimeout]
  split
  · exact trackless_sendToScreen radio waits _ _
  · exact trackless_of_eq rfl

theorem trackless_enterAux : Trackless radio (enterAux waits radio) := by
  have refreshed : Trackless radio (refreshAux waits radio) := by
    rw [refreshAux]
    split
    · exact (trackless_sendToScreen radio waits _ _).trans
        (trackless_print .play (by decide) rfl)
    · exact trackless_sendToScreen radio waits _ _
  have ended : ∀ next, Trackless next (endPause next) := by
    intro next
    rw [endPause]
    split
    · exact trackless_print .unpause (by decide) rfl
    · exact trackless_of_eq rfl
  exact refreshed.trans ((ended _).trans (trackless_of_eq rfl))

theorem trackless_followText (text : List UInt8) :
    Trackless radio (followText text waits radio) := by
  rw [followText]
  split_ifs
  · exact trackless_enterAux radio waits
  · exact trackless_print .pause (by decide) rfl
  · exact trackless_of_eq rfl
  · exact trackless_print .pause (by decide) rfl
  · exact trackless_of_eq rfl
  · exact trackless_print .stop (by decide) rfl

theorem trackless_checkMessage (unset : List UInt8) :
    Trackless radio (checkMessage waits unset radio) := by
  rw [checkMessage]
  split
  · exact trackless_followText { radio with screen := extractText radio.screen } waits _
  · exact trackless_of_eq rfl

/-- The pause button of the source `AUX` prints a command of its own. -/
theorem trackless_enter : Trackless radio (if radio.source = .aux then
    (sendToScreen 0x121 (ascii "=/>") tempString waits (printTasker .pause radio)).2 else radio) := by
  split
  · exact Trackless.trans (trackless_print .pause (by decide) rfl)
      (trackless_sendToScreen _ waits _ _)
  · exact trackless_of_eq rfl

/-- The buttons that are not about tracks, and any button while the source is not `AUX`. -/
theorem trackless_checkButton (other : TrackPressed radio → radio.source ≠ .aux) :
    Trackless radio (checkButton waits radio) := by
  rw [checkButton]
  split
  · next pressed =>
      show Trackless radio (followButton waits radio)
      rw [followButton]
      split
      · exact trackless_enter radio waits
      · exact trackless_enter radio waits
      · next next_ =>
          rw [if_neg fun both => other ⟨pressed, .inl next_⟩ both.1]
          exact trackless_of_eq rfl
      · next prev =>
          rw [if_neg fun both => other ⟨pressed, .inr prev⟩ both.1]
          exact trackless_of_eq rfl
      · exact trackless_of_eq rfl
  · exact trackless_of_eq rfl

/-- A track button with the source at `AUX`: the test for a pause or traffic news keeps nothing. -/
theorem printed_track (pressed : TrackPressed radio) (aux : radio.source = .aux) :
    ∃ command, (command = .next ∨ command = .prev) ∧
      (checkButton waits radio).printed = radio.printed ++ [command] := by
  have always := track_test radio.sourceTemp
  obtain ⟨down, code⟩ := pressed
  have printed : ∀ command string, (sendToScreen 0x121 string tempString waits
      (printTasker command radio)).2.printed = radio.printed ++ [command] :=
    fun _ _ => (sendToScreen_keeps ..).2.2.2
  have step : (checkButton waits radio).printed = (followButton waits radio).printed := by
    rw [checkButton, if_pos down]
  rw [step, followButton]
  obtain code | code := code
  · rw [code]
    exact ⟨.next, .inl rfl, (congrArg Radio.printed (if_pos ⟨aux, always⟩)).trans (printed ..)⟩
  · rw [code]
    exact ⟨.prev, .inr rfl, (congrArg Radio.printed (if_pos ⟨aux, always⟩)).trans (printed ..)⟩

end Printed

section Answered

variable {radio : Radio} (waits : Nat → List (List Interrupt))

/-- A new text and the old one are sent as they are kept for later. -/
theorem sent_kept (string : List UInt8) {command : UInt8}
    (kept : command = newString ∨ command = returnString) (accepting : ¬ Refusing radio) :
    let after := (sendToScreen 0x121 string command waits radio).2
    after.sent = radio.sent ++ screenFrames 0x121 after.screenText ∧
      after.screenText.text = after.prevText := by
  obtain ⟨screen, displayTimeout, after, -⟩ :=
    sendToScreen_accepted 0x121 string command waits accepting
  have sent := (@showString_keeps radio string command).2.2.2.1
  rw [after]
  refine ⟨congrArg (· ++ _) sent, ?_⟩
  obtain rfl | rfl := kept
  · exact ScreenText.text_write ..
  · exact ScreenText.text_write ..

theorem enterAux_frame (radio : Radio) :
    (enterAux waits radio).sent = (refreshAux waits radio).sent ∧
      (enterAux waits radio).screenText = (refreshAux waits radio).screenText ∧
      (enterAux waits radio).prevScreenText = (refreshAux waits radio).prevScreenText := by
  rw [enterAux, endPause]
  split <;> exact ⟨rfl, rfl, rfl⟩

theorem enterAux_accepted (accepting : ¬ Refusing radio) :
    (enterAux waits radio).sent =
        radio.sent ++ screenFrames 0x121 (enterAux waits radio).screenText ∧
      (enterAux waits radio).screenText.text = (enterAux waits radio).prevText := by
  obtain ⟨sent, text, prev⟩ := enterAux_frame waits radio
  rw [sent, text, Radio.prevText, prev, refreshAux]
  split
  · exact sent_kept waits (ascii "PHONE") (.inl rfl) accepting
  · exact sent_kept waits (ascii "") (.inr rfl) accepting

theorem enterAux_refused (refusing : Refusing radio) :
    (enterAux waits radio).sent = radio.sent := by
  rw [(enterAux_frame waits radio).1, refreshAux, sendToScreen_refused _ _ _ _ refusing,
    sendToScreen_refused _ _ _ _ refusing]
  split <;> rfl

theorem screenFrames_length (id : Nat) (screenText : ScreenText) :
    (screenFrames id screenText).length = 4 := rfl

/-- The second part, with the text `AUX`, is the branch for it. -/
theorem checkMessage_aux (unset : List UInt8) (shows : ShowsAux radio) :
    let taken := { radio with screen := extractText radio.screen }
    (checkMessage waits unset radio).sent = (enterAux waits taken).sent ∧
      (checkMessage waits unset radio).screenText = (enterAux waits taken).screenText ∧
      (checkMessage waits unset radio).prevScreenText = (enterAux waits taken).prevScreenText := by
  obtain ⟨complete, text, found, aux⟩ := shows
  rw [checkMessage, if_pos complete]
  dsimp only
  rw [found, Option.getD_some, followText, if_pos (strncmp_aux aux)]
  exact ⟨rfl, rfl, rfl⟩

end Answered

section Steps

variable {radio : Radio} (waits : Nat → List (List Interrupt)) (unset : List UInt8)

theorem obeys_timeout (part : radio.part = .timeout) :
    Obeys radio (.loop waits unset) ↔ Unrefused radio (.loop waits unset) := by
  have step : radioStep radio (.loop waits unset) =
      { checkTimeout waits radio with part := .message } := by
    rw [radioStep, part]
  refine iff_of_true ⟨fun _ => ?_, fun _ _ _ isMessage => ?_⟩ ?_
  · rw [step]
    exact trackless_checkTimeout radio waits
  · cases part.symm.trans isMessage
  · rw [Unrefused, part]
    trivial

theorem obeys_message (part : radio.part = .message) :
    Obeys radio (.loop waits unset) ↔ Unrefused radio (.loop waits unset) := by
  have step : radioStep radio (.loop waits unset) =
      { checkMessage waits unset radio with part := .button } := by
    rw [radioStep, part]
  have guard : Unrefused radio (.loop waits unset) ↔ (ShowsAux radio → ¬ Refusing radio) := by
    rw [Unrefused, part]
  rw [guard]
  constructor
  · intro obeys shows refusing
    have sent := (obeys.refreshes waits unset rfl part shows).1
    rw [step] at sent
    have nothing := (checkMessage_aux waits unset shows).1.trans (enterAux_refused waits refusing)
    have frames := List.append_cancel_left
      ((List.append_nil _).trans (nothing.symm.trans sent))
    exact absurd (congrArg List.length frames) (by rw [screenFrames_length]; decide)
  · intro unrefused
    refine ⟨fun _ => ?_, fun _ _ _ _ shows => ?_⟩
    · rw [step]
      exact trackless_checkMessage radio waits unset
    · obtain ⟨sent, text, prev⟩ := checkMessage_aux waits unset shows
      obtain ⟨frames, kept⟩ := @enterAux_accepted { radio with screen := extractText radio.screen }
        waits (unrefused shows)
      rw [step]
      refine ⟨sent.trans (frames.trans ?_), ?_⟩
      · rw [text]
      · show (checkMessage waits unset radio).screenText.text =
          (List.range 8).map (checkMessage waits unset radio).prevScreenText
        rw [text, prev]
        exact kept

theorem obeys_button (part : radio.part = .button) :
    Obeys radio (.loop waits unset) ↔ Unrefused radio (.loop waits unset) := by
  have step : radioStep radio (.loop waits unset) =
      { checkButton waits radio with part := .timeout } := by
    rw [radioStep, part]
  have guard : Unrefused radio (.loop waits unset) ↔
      (TrackPressed radio → radio.source = .aux → ¬ Refusing radio) := by
    rw [Unrefused, part]
  rw [guard]
  constructor
  · intro obeys pressed aux refusing
    obtain ⟨commands, printed, noNext, noPrev⟩ := obeys.quiet refusing
    rw [step] at printed
    obtain ⟨command, track, added⟩ := printed_track radio waits pressed aux
    have only : commands = [command] := List.append_cancel_left (printed.symm.trans added)
    rw [only] at noNext noPrev
    obtain rfl | rfl := track
    · exact noNext (List.mem_singleton.mpr rfl)
    · exact noPrev (List.mem_singleton.mpr rfl)
  · intro unrefused
    refine ⟨fun refusing => ?_, fun _ _ _ isMessage => ?_⟩
    · rw [step]
      exact trackless_checkButton radio waits fun pressed aux => unrefused pressed aux refusing
    · cases part.symm.trans isMessage

theorem obeys_step (radio : Radio) (event : RadioEvent) :
    Obeys radio event ↔ Unrefused radio event := by
  cases event with
  | interrupt cause =>
      refine iff_of_true ⟨fun _ => trackless_of_eq ?_, fun _ _ isLoop => ?_⟩ trivial
      · obtain ⟨screen, displayTimeout, after, -⟩ := interrupted_interrupt radio cause
        show (interrupt radio cause).printed = radio.printed
        rw [after]
      · cases isLoop
  | send string command waits =>
      refine iff_of_true ⟨fun _ => ?_, fun _ _ isLoop => ?_⟩ trivial
      · exact trackless_sendToScreen radio waits string command
      · cases isLoop
  | loop waits unset =>
      cases part : radio.part with
      | timeout => exact obeys_timeout waits unset part
      | message => exact obeys_message waits unset part
      | button => exact obeys_button waits unset part

end Steps

/-- **A message and a button, followed.** In every run of the display, from any state: the commands
for the phone and the answers to `AUX` are right exactly if, while the radio shows a pause or
traffic news, no track button is followed with the source at `AUX` and no `AUX` comes to the loop. -/
theorem obeys_iff (radio : Radio) (events : List RadioEvent) :
    Along radioStep Obeys radio events ↔ Along radioStep Unrefused radio events :=
  along_congr obeys_step events radio

/-- Once around `Screen_loop`, with nothing coming in. -/
def onceAround : List RadioEvent := List.replicate 3 (.loop (fun _ => []) [])

/-- A text comes in, and the main loop comes by. -/
def heard (text : String) : List RadioEvent :=
  (screenFrames 0x121 (ScreenText.initial.write fun b => (ascii text).getD b 0x20)).map
    (fun msg => .interrupt (.can msg)) ++ onceAround

/-- The button for the next track. -/
def nextTrack : CanMsg := ⟨0x0A9, ![0x03, 0x89, 0x01, 0x01], ![0xA2, 0xA2, 0xA2, 0xA2]⟩

/-- The radio has played the phone, and pauses. -/
def paused : Radio := run radioStep Radio.initial (heard "AUX" ++ heard " PAUSE")

/-- Then the button comes to the third part of the loop. -/
def pausedPressed : Radio :=
  run radioStep paused (.interrupt (.can nextTrack) :: List.replicate 2 (.loop (fun _ => []) []))

/-- Or the next text comes to the second. -/
def pausedAux : Radio := run radioStep paused ((heard "AUX").take 5)

/-- **In a pause** the button for the next track is passed on to the phone; and the `AUX` at its end
finds the texts still refused. -/
theorem paused_disobeys :
    ¬ Along radioStep Obeys Radio.initial
      (heard "AUX" ++ heard " PAUSE" ++ .interrupt (.can nextTrack) :: onceAround) ∧
    ¬ Along radioStep Obeys Radio.initial (heard "AUX" ++ heard " PAUSE" ++ heard "AUX") := by
  constructor
  · intro obeys
    have pressed := ((along_append _ _ _).mp obeys).2.2.2.2.1
    have part : pausedPressed.part = .button := by decide +kernel
    have track : TrackPressed pausedPressed :=
      ⟨by decide +kernel, .inl (by decide +kernel)⟩
    have unrefused : TrackPressed pausedPressed → pausedPressed.source = .aux →
        ¬ Refusing pausedPressed := by
      have guard := (obeys_button (fun _ => []) [] part).mp pressed
      rw [Unrefused, part] at guard
      exact guard
    exact unrefused track (by decide +kernel) (by decide +kernel)
  · intro obeys
    have shown := ((along_append _ _ _).mp obeys).2.2.2.2.2.2.1
    have part : pausedAux.part = .message := by decide +kernel
    have aux : ShowsAux pausedAux :=
      ⟨by decide +kernel, ascii "AUX     ", by decide +kernel, by decide⟩
    have unrefused : ShowsAux pausedAux → ¬ Refusing pausedAux := by
      have guard := (obeys_message (fun _ => []) [] part).mp shown
      rw [Unrefused, part] at guard
      exact guard
    exact unrefused aux (by decide +kernel)

end EquinoxClock.Screen
