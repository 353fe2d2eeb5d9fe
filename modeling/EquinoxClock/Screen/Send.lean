/-
The sending side of the car display.

`sendToScreen` writes a text of eight characters into `ScreenText`, around the header of the second
frame, and `sendScreen` cuts the array into four frames, waiting for an acknowledgement behind each.
Interrupts come at any time during a wait: messages from the bus, and ticks of the system timer. As
the array keeps its layout, what the receiving side takes out of the four frames is the text, filled
up with spaces (`text_received`).
-/

import EquinoxClock.Lib.CString
import EquinoxClock.Lib.Loop
import EquinoxClock.Screen.Messages

namespace EquinoxClock.Screen

open EquinoxClock.Lib

/-! ### The text in the frames -/

/-- `Ascii3IconTextStart`. -/
def ascii3IconTextStart : Nat := 5

/-- The initial contents of `ScreenText`. -/
def initialScreenText : List UInt8 :=
  [0x10, 0x19, 0x76, 0x60, 0x01, 73, 80, 79, 0x21, 68, 32, 32, 32, 32, 0x10, 32, 0x22, 32, 32, 32,
    32, 32, 32, 32, 0x23, 32, 32, 32, 32, 0x00, 0x81, 0x81, 0xFF, 0xFF, 0x00]

/-- The place of a character of the text, which passes over the header of the second frame. -/
def textIndex (b : Nat) : Nat := if b < 3 then ascii3IconTextStart + b else ascii3IconTextStart + b + 1

/-- The loops `for (a = Ascii3IconTextStart, b = 0; b < 8; a++, b++)`, from some `a` and `b` on. -/
def copyString (string : Nat → UInt8) : (remaining a b : Nat) → (Nat → UInt8) → Nat → UInt8
  | 0, _, _, cells => cells
  | remaining + 1, a, b, cells =>
      let a := if a = 8 then a + 1 else a
      copyString string remaining (a + 1) (b + 1) (Function.update cells a (string b))

/-- The copy puts the eight characters in their places. -/
theorem copyString_text (string cells : Nat → UInt8) {b : Nat} (inText : b < 8) :
    copyString string 8 ascii3IconTextStart 0 cells (textIndex b) = string b := by
  interval_cases b <;> rfl

/-- The copy leaves the rest. -/
theorem copyString_rest (string cells : Nat → UInt8) {index : Nat}
    (apart : ∀ b < 8, index ≠ textIndex b) :
    copyString string 8 ascii3IconTextStart 0 cells index = cells index := by
  have other : ∀ b < 8, ∀ (cells : Nat → UInt8) value,
      Function.update cells (textIndex b) value index = cells index :=
    fun b inText cells value => Function.update_of_ne (apart b inText) value cells
  exact (other 7 (by decide) _ _).trans ((other 6 (by decide) _ _).trans
    ((other 5 (by decide) _ _).trans ((other 4 (by decide) _ _).trans
      ((other 3 (by decide) _ _).trans ((other 2 (by decide) _ _).trans
        ((other 1 (by decide) _ _).trans (other 0 (by decide) cells _)))))))

/-- `ScreenText`: the array from its start on. Only the characters of the text ever change. -/
structure ScreenText where
  cells : Nat → UInt8
  layout : ∀ index, (∀ b < 8, index ≠ textIndex b) → cells index = initialScreenText.getD index 0

namespace ScreenText

/-- The array as the program starts. -/
def initial : ScreenText := ⟨fun index => initialScreenText.getD index 0, fun _ _ => rfl⟩

/-- The array with another text. -/
def write (string : Nat → UInt8) (screenText : ScreenText) : ScreenText where
  cells := copyString string 8 ascii3IconTextStart 0 screenText.cells
  layout index apart :=
    (copyString_rest string screenText.cells apart).trans (screenText.layout index apart)

/-- The eight characters of the text. -/
def text (screenText : ScreenText) : List UInt8 :=
  (List.range 8).map fun b => screenText.cells (textIndex b)

@[simp] theorem text_write (string : Nat → UInt8) (screenText : ScreenText) :
    (screenText.write string).text = (List.range 8).map string :=
  List.map_congr_left fun _ inText => copyString_text _ _ (List.mem_range.mp inText)

end ScreenText

/-! ### The state of the radio's display -/

/-- `CR` and `ERROR`. -/
inductive Status where
  | cr
  | error
  deriving DecidableEq, Repr

/-- The values of `Source` and `SourceTemp`: none, and those of the `REMOTE_` constants in use. -/
inductive Remote where
  | unset
  | volume
  | radio
  | aux
  | traffic
  | pause
  deriving DecidableEq, Repr

/-- The commands printed for the phone. -/
inductive Tasker where
  | play
  | unpause
  | pause
  | stop
  | next
  | prev
  deriving DecidableEq, Repr

/-- Where the main loop is: `Screen_loop` has three parts, one behind the other. -/
inductive Part where
  | timeout
  | message
  | button
  deriving DecidableEq, Repr

/-- The variables of the display. `part` is the part of `Screen_loop` that comes next; `sent` lists
the frames sent and `printed` the commands printed, in order, and `newStrings` the texts shown as new
ones, the latest first. -/
structure Radio where
  screen : Receiver
  screenText : ScreenText
  prevScreenText : Nat → UInt8
  displayTimeout : Int
  source : Remote
  sourceTemp : Remote
  firstScreen : Bool
  part : Part
  sent : List CanMsg
  printed : List Tasker
  newStrings : List (List UInt8)

/-- The variables as the program starts. -/
def Radio.initial : Radio where
  screen := Receiver.cleared
  screenText := ScreenText.initial
  prevScreenText a := (ascii "PHONE").getD a 0
  displayTimeout := -1
  source := .unset
  sourceTemp := .unset
  firstScreen := false
  part := .timeout
  sent := []
  printed := []
  newStrings := []

/-- The eight characters of `PrevScreenText`. -/
def Radio.prevText (radio : Radio) : List UInt8 := (List.range 8).map radio.prevScreenText

/-! ### Sending -/

/-- What interrupts the main program: a message from the bus, or the system timer. -/
inductive Interrupt where
  | can (msg : CanMsg)
  | sysTick

/-- `CAN_IRQHandler` and `SysTick_Handler`. -/
def interrupt (radio : Radio) : Interrupt → Radio
  | .can msg => { radio with screen := screenInterrupt msg radio.screen }
  | .sysTick =>
      if 0 < radio.displayTimeout then { radio with displayTimeout := radio.displayTimeout - 1 }
      else radio

/-- `WaitFor521`, with the interrupts of each of its delays. The blocking wait that a timeout of 0
would start is never asked for. -/
def waitFor521 : (timeout : Nat) → (delays : List (List Interrupt)) → Radio → Status × Radio
  | timeout, delays, radio =>
      if radio.screen.recieve521Count = 1 then
        (.cr, { radio with screen := { radio.screen with recieve521Count := 0 } })
      else
        match timeout with
        | 0 => (.error, radio)
        | timeout + 1 =>
            waitFor521 timeout delays.tail (run interrupt radio (delays.headD []))

section Wait

variable {radio : Radio} (timeout : Nat) (delays : List (List Interrupt))

theorem waitFor521_found (found : radio.screen.recieve521Count = 1) :
    waitFor521 timeout delays radio =
      (.cr, { radio with screen := { radio.screen with recieve521Count := 0 } }) := by
  cases timeout <;> rw [waitFor521, if_pos found]

theorem waitFor521_failed (missed : radio.screen.recieve521Count ≠ 1) :
    waitFor521 0 delays radio = (.error, radio) := by
  rw [waitFor521, if_neg missed]

theorem waitFor521_missed (missed : radio.screen.recieve521Count ≠ 1) :
    waitFor521 (timeout + 1) delays radio =
      waitFor521 timeout delays.tail (run interrupt radio (delays.headD [])) := by
  rw [waitFor521, if_neg missed]

end Wait

/-- The frame that `SendScreen` puts into `TXMsg`. -/
def screenFrame (id : Nat) (screenText : ScreenText) (noSent : Nat) : CanMsg :=
  let screenPacketNo := noSent * 8
  { id
    dataA := ![screenText.cells screenPacketNo, screenText.cells (screenPacketNo + 1),
      screenText.cells (screenPacketNo + 2), screenText.cells (screenPacketNo + 3)]
    dataB := ![screenText.cells (screenPacketNo + 4), screenText.cells (screenPacketNo + 5),
      screenText.cells (screenPacketNo + 6), screenText.cells (screenPacketNo + 7)] }

/-- The frames that make up a text, as many as `Screen_tx.NoToSend`. -/
def screenFrames (id : Nat) (screenText : ScreenText) : List CanMsg :=
  (List.range 4).map (screenFrame id screenText)

/-- The body of the loop of `SendScreen`: a frame, and the wait behind it, whose result is not used.
The first interrupts are those between the frame and the first test of the wait. -/
def sendFrame (id : Nat) (delays : List (List Interrupt)) (noSent : Nat) (radio : Radio) : Radio :=
  let radio := { radio with sent := radio.sent ++ [screenFrame id radio.screenText noSent] }
  (waitFor521 100 delays.tail (run interrupt radio (delays.headD []))).2

/-- `SendScreen`, with the interrupts during each of the four waits. -/
def sendScreen (id : Nat) (waits : Nat → List (List Interrupt)) (radio : Radio) : Status × Radio :=
  (.cr, Nat.fold 4 (fun noSent _ radio => sendFrame id (waits noSent) noSent radio) radio)

/-- `NEW_STRING`. -/
def newString : UInt8 := 0x52

/-- `TEMP_STRING`. -/
def tempString : UInt8 := 0x54

/-- `RETURN_STRING`. -/
def returnString : UInt8 := 0x58

/-- `BUTTON_TIMEOUT`. -/
def buttonTimeout : Int := 1000

/-- `Spaces`. -/
def spaces : List UInt8 := ascii "        "

/-- `temp_string`: the text cut to eight characters, or filled up with spaces. -/
def filled (string : List UInt8) : List UInt8 := strlcat (strlcpy string 9) spaces 9

/-- The loop that copies `temp_string` to `PrevScreenText`. -/
def copyPrev (string prev : Nat → UInt8) : Nat → UInt8 :=
  Nat.fold 8 (fun a _ prev => Function.update prev a (string a)) prev

/-- The radio shows something of its own, and texts are refused. -/
def Refusing (radio : Radio) : Prop := radio.sourceTemp = .pause ∨ radio.sourceTemp = .traffic

instance (radio : Radio) : Decidable (Refusing radio) :=
  inferInstanceAs (Decidable (radio.sourceTemp = .pause ∨ radio.sourceTemp = .traffic))

/-- The branches of `SendToScreen` for the commands. -/
def showString (string : List UInt8) (command : UInt8) (radio : Radio) : Radio :=
  let character := fun b => (filled string).getD b 0
  if command = newString then
    { radio with
      prevScreenText := copyPrev character radio.prevScreenText
      screenText := radio.screenText.write character
      displayTimeout := -1
      newStrings := string :: radio.newStrings }
  else if command = tempString then
    { radio with
      screenText := radio.screenText.write character, displayTimeout := buttonTimeout }
  else if command = returnString then
    { radio with
      screenText := radio.screenText.write radio.prevScreenText, displayTimeout := -1 }
  else { radio with displayTimeout := -1 }

/-- `SendToScreen`. Its argument for the icons is not used. -/
def sendToScreen (sendId : Nat) (string : List UInt8) (command : UInt8)
    (waits : Nat → List (List Interrupt)) (radio : Radio) : Status × Radio :=
  if Refusing radio then (.error, { radio with displayTimeout := -1 })
  else sendScreen sendId waits (showString string command radio)

/-! ### What waiting leaves alone -/

/-- Interrupts change the receiving side, and count the timeout down to zero. -/
def Interrupted (radio after : Radio) : Prop :=
  ∃ screen displayTimeout, after = { radio with screen, displayTimeout } ∧
    (0 ≤ displayTimeout ↔ 0 ≤ radio.displayTimeout)

theorem interrupted_refl (radio : Radio) : Interrupted radio radio := ⟨_, _, rfl, Iff.rfl⟩

theorem Interrupted.trans {radio middle after : Radio} (first : Interrupted radio middle)
    (second : Interrupted middle after) : Interrupted radio after := by
  obtain ⟨screen, displayTimeout, rfl, sign⟩ := first
  obtain ⟨screen', displayTimeout', rfl, sign'⟩ := second
  exact ⟨screen', displayTimeout', rfl, sign'.trans sign⟩

theorem interrupted_interrupt (radio : Radio) (cause : Interrupt) :
    Interrupted radio (interrupt radio cause) := by
  cases cause with
  | can msg => exact ⟨_, _, rfl, Iff.rfl⟩
  | sysTick =>
      rw [interrupt]
      split
      · next running =>
          refine ⟨_, _, rfl, ?_⟩
          omega
      · exact interrupted_refl radio

theorem interrupted_run (radio : Radio) (causes : List Interrupt) :
    Interrupted radio (run interrupt radio causes) :=
  run_invariant (fun _ cause interrupted _ => interrupted.trans (interrupted_interrupt _ cause))
    causes radio (interrupted_refl radio) (along_trivial causes radio)

theorem interrupted_waitFor521 (timeout : Nat) : ∀ (delays : List (List Interrupt)) (radio : Radio),
    Interrupted radio (waitFor521 timeout delays radio).2 := by
  induction timeout with
  | zero =>
      intro delays radio
      by_cases found : radio.screen.recieve521Count = 1
      · rw [waitFor521_found 0 delays found]
        exact ⟨_, _, rfl, Iff.rfl⟩
      · rw [waitFor521_failed delays found]
        exact interrupted_refl radio
  | succ timeout ih =>
      intro delays radio
      by_cases found : radio.screen.recieve521Count = 1
      · rw [waitFor521_found _ delays found]
        exact ⟨_, _, rfl, Iff.rfl⟩
      · rw [waitFor521_missed timeout delays found]
        exact (interrupted_run radio _).trans (ih _ _)

/-- **Sending** puts the four frames on the bus and changes nothing else but what interrupts do. -/
theorem sendScreen_sent (id : Nat) (waits : Nat → List (List Interrupt)) (radio : Radio) :
    Interrupted { radio with sent := radio.sent ++ screenFrames id radio.screenText }
      (sendScreen id waits radio).2 := by
  refine fold_invariant (fun noSent after => Interrupted
    { radio with sent := radio.sent ++ (List.range noSent).map (screenFrame id radio.screenText) }
    after) 4 (fun noSent _ radio => sendFrame id (waits noSent) noSent radio) radio ?_
    fun noSent _ after soFar => ?_
  · rw [List.range_zero, List.map_nil, List.append_nil]
    exact interrupted_refl radio
  · obtain ⟨screen, displayTimeout, rfl, sign⟩ := soFar
    rw [List.range_succ, List.map_append, ← List.append_assoc]
    exact Interrupted.trans ⟨screen, displayTimeout, rfl, sign⟩
      ((interrupted_run _ _).trans (interrupted_waitFor521 ..))

/-! ### The text, filled up -/

/-- A text is cut to eight characters, or filled up with spaces. -/
theorem filled_eq (string : List UInt8) : filled string =
    (cString string).take 8 ++ List.replicate (8 - (cString string).length) 0x20 := by
  have blank : cString spaces = List.replicate 8 0x20 := by decide
  rw [filled, strlcat, strlcpy, blank, List.take_replicate, List.length_take]
  congr 2
  omega

theorem filled_length (string : List UInt8) : (filled string).length = 8 := by
  rw [filled_eq, List.length_append, List.length_take, List.length_replicate]
  omega

/-- The eight characters that are copied are the whole text. -/
theorem filled_characters (string : List UInt8) :
    (List.range 8).map (fun b => (filled string).getD b 0) = filled string := by
  refine List.ext_getElem ?_ fun b _ inText => ?_
  · rw [List.length_map, List.length_range, filled_length]
  · rw [List.getElem_map, List.getElem_range, List.getD_eq_getElem?_getD,
      List.getElem?_eq_getElem inText, Option.getD_some]

theorem copyPrev_text (string prev : Nat → UInt8) :
    (List.range 8).map (copyPrev string prev) = (List.range 8).map string := rfl

/-! ### The text, received -/

/-- The headers count the frames. -/
theorem ScreenText.header_cells (screenText : ScreenText) {number : Nat} (sent : number < 4) :
    (screenText.cells (number * 8) &&& 0x0F).toNat = number := by
  have fixed : screenText.cells (number * 8) = initialScreenText.getD (number * 8) 0 :=
    screenText.layout _ fun b _ => by
      rw [textIndex, ascii3IconTextStart]
      split <;> omega
  rw [fixed]
  interval_cases number <;> decide

/-- The byte that belongs to an index in `ScreenTempData`: the headers are left out. -/
def ScreenText.payload (screenText : ScreenText) (index : Nat) : UInt8 :=
  screenText.cells ((index - 1) / 7 * 8 + (index - 1) % 7 + 1)

/-- The filler stands in the last frame. -/
theorem ScreenText.payload_filler (screenText : ScreenText) : screenText.payload 27 = 0x81 :=
  (screenText.layout 30 (by decide)).trans (by decide)

/-- As many frames as `Screen_tx.NoToSend` are those of a message. -/
theorem ScreenText.frames_eq : 4 = 4 ∨ 4 = 5 := .inl rfl

/-- The frames as a message on the bus. -/
def ScreenText.message (screenText : ScreenText) : ScreenMessage where
  frames := 4
  header number := screenText.cells (number * 8)
  payload := screenText.payload
  frames_eq := ScreenText.frames_eq
  header_nibble _ sent := screenText.header_cells sent
  filler := screenText.payload_filler

namespace ScreenText

variable (screenText : ScreenText)

theorem screenFrame_eq {noSent : Nat} (sent : noSent < 4) :
    screenFrame 0x121 screenText noSent = screenText.message.frame noSent := by
  interval_cases noSent <;> rfl

theorem firstMarker_message : firstMarker screenText.message.bytes = some 4 := by
  refine firstMarker_eq_some.mpr ⟨by decide, screenText.layout 4 (by decide), fun index before => ?_⟩
  have fixed : ∀ number, 1 ≤ number → number < 4 →
      screenText.message.bytes number = initialScreenText.getD number 0 := by
    intro number low high
    interval_cases number
    · exact screenText.layout 1 (by decide)
    · exact screenText.layout 2 (by decide)
    · exact screenText.layout 3 (by decide)
  rcases Nat.eq_zero_or_pos index with rfl | positive
  · exact show (0 : UInt8) ≠ 0x01 by decide
  · rw [fixed index positive before]
    interval_cases index <;> decide

theorem text_message : screenText.message.text = some screenText.text := by
  rw [ScreenMessage.text, firstMarker_message]
  rfl

theorem texted_message : screenText.message.Texted := by
  refine ⟨4, screenText.firstMarker_message, ?_⟩
  rw [ScreenMessage.fillerIndex]
  split <;> decide

end ScreenText

/-- A receiver in front of the frame `count`: it is complete exactly behind the fourth. -/
structure Taking (screenText : ScreenText) (count : Nat) (receiver : Receiver) : Prop where
  complete : receiver.recieveComplete = decide (count = 4)
  receiving : count < 4 → Receiving [screenText.message] receiver.screenTempData.cells
    screenText.message count
  text : count = 4 → (extractText receiver).screenText = some screenText.text

theorem Taking.next {screenText : ScreenText} {count : Nat} {receiver : Receiver}
    (taking : Taking screenText count receiver) (sent : count < 4) :
    Taking screenText (count + 1)
      (screenStep receiver (.interrupt (screenFrame 0x121 screenText count))) := by
  let message := screenText.message
  have arrives : screenStep receiver (.interrupt (screenFrame 0x121 screenText count)) =
      receiveScreenData (message.frame count) receiver := by
    rw [screenText.screenFrame_eq sent]
    exact @screenInterrupt_of_eq (message.frame count) rfl receiver
  have clear : receiver.recieveComplete = false :=
    taking.complete.trans (decide_eq_false (by omega))
  obtain ⟨-, complete, cells⟩ := @receiveScreenData_frame message count sent receiver clear
  have last : (count = 3 ∨ count = 4) ∧ message.payload (7 * count + 6) = 0x81 ↔ count = 3 := by
    refine ⟨fun both => by omega, fun third => ⟨.inl third, ?_⟩⟩
    rw [third]
    exact screenText.payload_filler
  rw [arrives]
  refine ⟨complete.trans ?_, fun more => ?_, fun done => ?_⟩
  · rw [decide_eq_decide, last]
    omega
  · have notThird : count ≠ 3 := by omega
    have notFourth : count ≠ 4 := by omega
    refine (taking.receiving sent).next fun index => (cells index).trans ?_
    simp only [notThird, notFourth, or_self, false_and, and_false, if_false]
    rfl
  · obtain rfl : count = 3 := by omega
    have filler : message.payload (7 * 3 + 6) = 0x81 := screenText.payload_filler
    have whole : screenText.message.fillerIndex ≤ 7 * 3 + 6 := by
      rw [ScreenMessage.fillerIndex, if_pos filler]
    obtain ⟨earlier, known, marker, holds⟩ := (taking.receiving sent).complete
      (List.mem_singleton.mpr rfl) screenText.texted_message whole fun index =>
        (cells index).trans (by simp only [filler, true_or, and_true]; rfl)
    rw [(extractText_eq _).2.2.1, holds.text, List.mem_singleton.mp known, screenText.text_message]

/-- **The frames of a text**, received by a receiver that waits for a message and has no marker in
its first byte. -/
theorem taking_frames (screenText : ScreenText) {receiver : Receiver}
    (ready : receiver.recieveComplete = false)
    (unmarked : receiver.screenTempData.cells 0 ≠ 0x01) {count : Nat} (within : count ≤ 4) :
    Taking screenText count
      (run screenStep receiver (((screenFrames 0x121 screenText).take count).map .interrupt)) := by
  have frames : (screenFrames 0x121 screenText).take count =
      (List.range count).map (screenFrame 0x121 screenText) := by
    rw [screenFrames, ← List.map_take, List.take_range, Nat.min_eq_left within]
  rw [frames, List.map_map]
  clear frames
  induction count with
  | zero => exact ⟨ready, fun _ => receiving_zero unmarked, fun none => absurd none (by decide)⟩
  | succ count ih =>
      rw [List.range_succ, List.map_append, run_append]
      exact (ih (by omega)).next (by omega)

/-- **A text sent is the text received.** The four frames of a text that is not refused complete the
message with the fourth, and the text taken out is the one sent, filled up with spaces. -/
theorem text_received {radio : Radio} (accepting : ¬ Refusing radio) {text : List UInt8}
    (short : text.length ≤ 8) (noNul : ∀ c ∈ text, c ≠ 0) {command : UInt8}
    (shown : command = newString ∨ command = tempString) (waits : Nat → List (List Interrupt))
    {receiver : Receiver} (ready : receiver.recieveComplete = false)
    (unmarked : receiver.screenTempData.cells 0 ≠ 0x01) :
    ∃ frames, (sendToScreen 0x121 text command waits radio).2.sent = radio.sent ++ frames ∧
      frames.length = 4 ∧
      (∀ count ≤ 4, (run screenStep receiver
        ((frames.take count).map .interrupt)).recieveComplete = decide (count = 4)) ∧
      (extractText (run screenStep receiver (frames.map .interrupt))).screenText =
        some (text ++ List.replicate (8 - text.length) 0x20) := by
  let after := showString text command radio
  have written : after.screenText.text = text ++ List.replicate (8 - text.length) 0x20 := by
    have plain : cString text = text :=
      List.takeWhile_eq_self_iff.mpr fun c member => bne_iff_ne.mpr (noNul c member)
    have characters : after.screenText.text = filled text := by
      obtain rfl | rfl := shown
      · exact (ScreenText.text_write ..).trans (filled_characters text)
      · exact (ScreenText.text_write ..).trans (filled_characters text)
    rw [characters, filled_eq, plain, List.take_of_length_le short]
  have sending : sendToScreen 0x121 text command waits radio = sendScreen 0x121 waits after :=
    if_neg accepting
  have before : after.sent = radio.sent := by
    obtain rfl | rfl := shown <;> rfl
  obtain ⟨screen, displayTimeout, same, -⟩ := sendScreen_sent 0x121 waits after
  refine ⟨screenFrames 0x121 after.screenText, ?_, rfl, fun count within => ?_, ?_⟩
  · rw [sending, same, before]
  · exact (taking_frames after.screenText ready unmarked within).complete
  · rw [← written]
    exact (taking_frames after.screenText ready unmarked (Nat.le_refl 4)).text rfl

/-- The four characters of the command line's test. -/
theorem text_received_test :
    ∃ frames, (sendToScreen 0x121 (ascii "TEST") newString (fun _ => []) Radio.initial).2.sent =
        [] ++ frames ∧ frames.length = 4 ∧
      (∀ count ≤ 4, (run screenStep Receiver.cleared
        ((frames.take count).map .interrupt)).recieveComplete = decide (count = 4)) ∧
      (extractText (run screenStep Receiver.cleared (frames.map .interrupt))).screenText =
        some (ascii "TEST" ++ List.replicate (8 - (ascii "TEST").length) 0x20) :=
  text_received (show ¬ Refusing Radio.initial by decide) (by decide) (noNul_of_all (by decide))
    (.inl rfl) _ rfl (show (0 : UInt8) ≠ 0x01 by decide)

end EquinoxClock.Screen
