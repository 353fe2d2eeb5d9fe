/-
Whole screen messages, and the text the main loop takes out of them.

A message is four or five frames, sent in order; its text is the eight bytes behind its first
marker. `Bus` runs the receiving side against a list of messages still to be sent, with the events
of the main loop anywhere between two frames.

While `RecieveComplete` is set, frames are dropped one by one, so clearing the flag can cut a
message. The cut is harmless when the text in the buffer lies in front of the first frame that will
be stored again, or when neither it nor the text of the cut message reaches in front of that frame
(`HarmlessCut`). Runs with harmless cuts only take out texts of single messages
(`screen_texts_single`).
-/

import EquinoxClock.Screen.Receive
import Mathlib.Tactic.IntervalCases

namespace EquinoxClock.Screen

open EquinoxClock.Lib

/-- A screen message of four or five frames. `payload index` is the byte that belongs to `index` in
`ScreenTempData`; the low half of each header is the number of the frame, and the last frame carries
the filler where the receiver looks for it. -/
structure ScreenMessage where
  frames : Nat
  header : Nat → UInt8
  payload : Nat → UInt8
  frames_eq : frames = 4 ∨ frames = 5
  header_nibble : ∀ number < frames, (header number &&& 0x0F).toNat = number
  filler : payload (7 * (frames - 1) + 6) = 0x81

namespace ScreenMessage

/-- A frame of a message, as it stands in `RXMsg`. -/
def frame (message : ScreenMessage) (number : Nat) : CanMsg where
  id := 0x121
  dataA := ![message.header number, message.payload (7 * number + 1),
    message.payload (7 * number + 2), message.payload (7 * number + 3)]
  dataB := ![message.payload (7 * number + 4), message.payload (7 * number + 5),
    message.payload (7 * number + 6), message.payload (7 * number + 7)]

/-- The bytes of the message's own frames. -/
def bytes (message : ScreenMessage) (index : Nat) : UInt8 :=
  if 1 ≤ index ∧ index ≤ 7 * message.frames then message.payload index else 0

/-- The text of a message: the eight bytes behind its first marker. -/
def text (message : ScreenMessage) : Option (List UInt8) :=
  (firstMarker message.bytes).map (textBehind message.bytes)

/-- The first place where the receiver finds the filler. -/
def fillerIndex (message : ScreenMessage) : Nat :=
  if message.payload 27 = 0x81 then 27 else 34

/-- The message has a text, and it stands in front of the filler. -/
def Texted (message : ScreenMessage) : Prop :=
  ∃ marker, firstMarker message.bytes = some marker ∧ marker + 8 < message.fillerIndex

end ScreenMessage

/-- The receiving side and the sender: the messages not yet sent completely, the number of frames of
the first of them that have been sent, and the texts the main loop has taken out, the latest first.
-/
structure Bus where
  screen : Receiver
  pending : List ScreenMessage
  position : Nat
  texts : List (Option (List UInt8))

/-- The sender sends the next frame, or the main loop starts or ends its branch. -/
inductive BusEvent where
  | receive
  | loopStart
  | loopEnd
  deriving DecidableEq, Repr

/-- The next frame of the first message arrives. -/
def receiveNext (bus : Bus) : Bus :=
  match bus.pending with
  | [] => bus
  | message :: rest =>
      let screen := screenStep bus.screen (.interrupt (message.frame bus.position))
      if bus.position + 1 < message.frames then
        { bus with screen, position := bus.position + 1 }
      else { bus with screen, pending := rest, position := 0 }

/-- A step of the bus. -/
def busStep (bus : Bus) : BusEvent → Bus
  | .receive => receiveNext bus
  | .loopStart =>
      if ¬ bus.screen.processing ∧ bus.screen.recieveComplete then
        let screen := screenStep bus.screen .loopStart
        { bus with screen, texts := screen.screenText :: bus.texts }
      else bus
  | .loopEnd => { bus with screen := screenStep bus.screen .loopEnd }

/-- After start-up, with these messages to come. -/
def Bus.start (messages : List ScreenMessage) : Bus := ⟨Receiver.cleared, messages, 0, []⟩

/-- Clearing `RecieveComplete` when `position` frames of a message have been dropped does no harm:
the text in the buffer ends in front of the next frame, or neither the buffer nor the message has a
marker in front of it (apart from the very last byte, where both may have it). -/
def HarmlessCut (data : Nat → UInt8) (message : ScreenMessage) (position : Nat) : Prop :=
  (∃ marker, firstMarker data = some marker ∧ marker + 8 ≤ 7 * position) ∨
    (∀ index < 7 * position, data index ≠ 0x01 ∧ message.bytes index ≠ 0x01) ∧
      (data (7 * position) = 0x01 ↔ message.bytes (7 * position) = 0x01)

/-- The step does not cut a message, or the cut is harmless. -/
def Uncut (bus : Bus) : BusEvent → Prop
  | .loopEnd => bus.screen.processing = true → ∀ message rest, bus.pending = message :: rest →
      0 < bus.position → HarmlessCut bus.screen.screenTempData.cells message bus.position
  | _ => True

/-! ### A frame in the buffer -/

theorem rec121_frame {message : ScreenMessage} {number : Nat} (sent : number < message.frames) :
    (message.frame number).rec121 = number := message.header_nibble number sent

/-- A stored frame replaces seven bytes. -/
theorem cells_storeFrame {message : ScreenMessage} {number : Nat} (sent : number < message.frames)
    (data : Traced Nat UInt8) (index : Nat) :
    (storeFrame (message.frame number) data).cells index =
      if 7 * number < index ∧ index ≤ 7 * number + 7 then message.bytes index
      else data.cells index := by
  have own : ∀ offset, 1 ≤ offset → offset ≤ 7 →
      message.bytes (7 * number + offset) = message.payload (7 * number + offset) := by
    intro offset low high
    exact if_pos ⟨by omega, by omega⟩
  simp only [storeFrame, rec121_frame sent, Nat.mul_comm number, Traced.write,
    Function.update_apply]
  by_cases inside : 7 * number < index ∧ index ≤ 7 * number + 7
  · obtain ⟨offset, rfl⟩ := Nat.exists_eq_add_of_le inside.1.le
    have low : 1 ≤ offset := by omega
    have high : offset ≤ 7 := by omega
    rw [if_pos inside, own offset low high]
    interval_cases offset <;> simp [ScreenMessage.frame]
  · have apart : ∀ offset, 1 ≤ offset → offset ≤ 7 → index ≠ 7 * number + offset := by
      intro offset low high same
      omega
    rw [if_neg inside, if_neg (apart 7 (by decide) (by decide)),
      if_neg (apart 6 (by decide) (by decide)), if_neg (apart 5 (by decide) (by decide)),
      if_neg (apart 4 (by decide) (by decide)), if_neg (apart 3 (by decide) (by decide)),
      if_neg (apart 2 (by decide) (by decide)), if_neg (apart 1 (by decide) (by decide))]

/-- What a screen frame does while no message is complete: its bytes are stored, and where it is
frame 3 or 4 and carries the filler, the message is complete and the filler is cleared. -/
theorem receiveScreenData_frame {message : ScreenMessage} {number : Nat}
    (sent : number < message.frames) {screen : Receiver} (clear : screen.recieveComplete = false) :
    (receiveScreenData (message.frame number) screen).processing = screen.processing ∧
      (receiveScreenData (message.frame number) screen).recieveComplete =
        decide ((number = 3 ∨ number = 4) ∧ message.payload (7 * number + 6) = 0x81) ∧
      ∀ index, (receiveScreenData (message.frame number) screen).screenTempData.cells index =
        if 7 * number < index ∧ index ≤ 7 * number + 7 then
          if index = 7 * number + 6 ∧ (number = 3 ∨ number = 4) ∧
            message.payload (7 * number + 6) = 0x81 then 0 else message.bytes index
        else screen.screenTempData.cells index := by
  have stored := cells_storeFrame sent screen.screenTempData
  have last : (storeFrame (message.frame number) screen.screenTempData).cells (number * 7 + 6) =
      message.payload (7 * number + 6) := by
    rw [Nat.mul_comm, stored, if_pos ⟨by omega, by omega⟩]
    exact if_pos ⟨by omega, by omega⟩
  unfold receiveScreenData
  rw [if_neg (by simp [clear])]
  dsimp only
  rw [rec121_frame sent]
  by_cases late : number = 3 ∨ number = 4
  swap
  · rw [if_neg late]
    refine ⟨rfl, ?_, fun index => ?_⟩
    · simp only [late, false_and, decide_false, clear]
    · simp only [stored, late, false_and, and_false, if_false]
  rw [if_pos late, Traced.read_fst, last]
  by_cases filled : message.payload (7 * number + 6) = 0x81
  swap
  · rw [if_neg filled]
    refine ⟨rfl, ?_, fun index => ?_⟩
    · simp only [filled, and_false, decide_false, clear]
    · simp only [Traced.read_cells, stored, filled, and_false, if_false]
  rw [if_pos filled]
  refine ⟨rfl, ?_, fun index => ?_⟩
  · simp only [late, filled, and_self, decide_true]
  · simp only [Traced.write, Traced.read_cells, Function.update_apply, stored, late, filled, and_true]
    by_cases hit : index = 7 * number + 6
    · rw [if_pos (show index = 6 + number * 7 by omega), if_pos ⟨by omega, by omega⟩, if_pos hit]
    · rw [if_neg (show ¬ index = 6 + number * 7 by omega), if_neg hit]

/-! ### Texts of single messages -/

/-- The text in the buffer is the text of a message, at the same place. -/
structure HoldsText (data : Nat → UInt8) (message : ScreenMessage) (marker : Nat) : Prop where
  own : firstMarker message.bytes = some marker
  found : firstMarker data = some marker
  same : ∀ index, marker < index → index ≤ marker + 8 → data index = message.bytes index

/-- Then that text is the one taken out. -/
theorem HoldsText.text {data : Nat → UInt8} {message : ScreenMessage} {marker : Nat}
    (holds : HoldsText data message marker) :
    (firstMarker data).map (textBehind data) = message.text := by
  rw [ScreenMessage.text, holds.own, holds.found]
  refine congrArg some (List.map_congr_left fun t inText => ?_)
  have := List.mem_range.mp inText
  exact holds.same _ (by omega) (by omega)

/-- A buffer that agrees up to the end of the text holds it too. -/
theorem HoldsText.congr {data later : Nat → UInt8} {message : ScreenMessage} {marker : Nat}
    (holds : HoldsText data message marker)
    (agree : ∀ index ≤ marker + 8, later index = data index) : HoldsText later message marker := by
  obtain ⟨inside, marked, first⟩ := firstMarker_eq_some.mp holds.found
  refine ⟨holds.own, firstMarker_eq_some.mpr ⟨inside, ?_, fun index before => ?_⟩,
    fun index low high => (agree index high).trans (holds.same index low high)⟩
  · rw [agree marker (by omega), marked]
  · rw [agree index (by omega)]
    exact first index before

/-- **What the buffer holds in the middle of a message**, of which `position` frames have been sent
and the next one will be stored: either the text of some message, in front of the next frame, or the
frames of this message from a cut on, with no marker in front of the cut. -/
inductive Receiving (messages : List ScreenMessage) (data : Nat → UInt8) (message : ScreenMessage)
    (position : Nat) : Prop
  | kept (earlier : ScreenMessage) (known : earlier ∈ messages) (marker : Nat)
      (holds : HoldsText data earlier marker) (ends : marker + 8 ≤ 7 * position)
  | stored (cut : Nat) (before : cut ≤ position)
      (same : ∀ index, 7 * cut < index → index ≤ 7 * position → data index = message.bytes index)
      (unmarked : ∀ index < 7 * cut, data index ≠ 0x01 ∧ message.bytes index ≠ 0x01)
      (boundary : data (7 * cut) = 0x01 ↔ message.bytes (7 * cut) = 0x01)

section Receiving

variable {messages : List ScreenMessage} {data later : Nat → UInt8} {message : ScreenMessage}
  {position : Nat}

/-- The byte in front of the first frame is never written. -/
theorem receiving_zero (zero : data 0 ≠ 0x01) : Receiving messages data message 0 := by
  have own : message.bytes 0 ≠ 0x01 := by
    rw [ScreenMessage.bytes, if_neg (by omega)]
    decide
  exact .stored 0 le_rfl (fun index low high => by omega) (fun index low => by omega)
    ⟨fun marked => absurd marked zero, fun marked => absurd marked own⟩

/-- A harmless cut leaves such a buffer. -/
theorem HarmlessCut.receiving (harmless : HarmlessCut data message position)
    (complete : ∃ earlier ∈ messages, ∃ marker, HoldsText data earlier marker) :
    Receiving messages data message position := by
  rcases harmless with ⟨marker, found, ends⟩ | ⟨unmarked, boundary⟩
  · obtain ⟨earlier, known, own, holds⟩ := complete
    have same : own = marker := Option.some.inj (holds.found.symm.trans found)
    exact .kept earlier known own holds (same ▸ ends)
  · exact .stored position le_rfl (fun index low high => by omega) unmarked boundary

/-- Storing a frame that does not complete the message. -/
theorem Receiving.next (receiving : Receiving messages data message position)
    (frame : ∀ index, later index = if 7 * position < index ∧ index ≤ 7 * position + 7 then
      message.bytes index else data index) :
    Receiving messages later message (position + 1) := by
  have below : ∀ index ≤ 7 * position, later index = data index := by
    intro index low
    rw [frame, if_neg (by omega)]
  cases receiving with
  | kept earlier known marker holds ends =>
      exact .kept earlier known marker (holds.congr fun index low => below index (by omega))
        (by omega)
  | stored cut before same unmarked boundary =>
      refine .stored cut (by omega) (fun index low high => ?_) (fun index low => ?_) ?_
      · by_cases old : index ≤ 7 * position
        · rw [below index old, same index low old]
        · rw [frame, if_pos (by omega)]
      · rw [below index (by omega)]
        exact unmarked index low
      · rw [below _ (by omega)]
        exact boundary

/-- **Storing the frame that completes the message**: the buffer then holds the text of one
message. -/
theorem Receiving.complete (receiving : Receiving messages data message position)
    (known : message ∈ messages) (texted : message.Texted)
    (filler : message.fillerIndex ≤ 7 * position + 6)
    (frame : ∀ index, later index = if 7 * position < index ∧ index ≤ 7 * position + 7 then
      (if index = 7 * position + 6 then 0 else message.bytes index) else data index) :
    ∃ earlier ∈ messages, ∃ marker, HoldsText later earlier marker := by
  have below : ∀ index ≤ 7 * position, later index = data index := by
    intro index low
    rw [frame, if_neg (by omega)]
  cases receiving with
  | kept earlier known marker holds ends =>
      exact ⟨earlier, known, marker, holds.congr fun index low => below index (by omega)⟩
  | stored cut before same unmarked boundary =>
      obtain ⟨marker, own, ends⟩ := texted
      obtain ⟨inside, marked, first⟩ := firstMarker_eq_some.mp own
      have behind : 7 * cut ≤ marker := by
        by_contra early
        exact (unmarked marker (by omega)).2 marked
      -- in front of the filler and behind the cut, the buffer is the message
      have agree : ∀ index, 7 * cut < index → index ≤ marker + 8 →
          later index = message.bytes index := by
        intro index low high
        by_cases old : index ≤ 7 * position
        · rw [below index old, same index low old]
        · rw [frame, if_pos (by omega), if_neg (by omega)]
      refine ⟨message, known, marker, own, firstMarker_eq_some.mpr ⟨inside, ?_, ?_⟩,
        fun index low high => agree index (by omega) high⟩
      · rcases Nat.eq_or_lt_of_le behind with boundaryMarker | inMessage
        · rw [← boundaryMarker, below _ (by omega)]
          exact boundary.mpr (boundaryMarker ▸ marked)
        · rw [agree marker inMessage (by omega), marked]
      · intro index early
        rcases Nat.lt_trichotomy index (7 * cut) with low | atCut | high
        · rw [below index (by omega)]
          exact (unmarked index low).1
        · rw [atCut, below _ (by omega)]
          exact fun wrong => first index early (atCut ▸ boundary.mp wrong)
        · rw [agree index high (by omega)]
          exact first index early

end Receiving

/-! ### Runs -/

/-- **The invariant of the bus.** -/
structure Sound (messages : List ScreenMessage) (bus : Bus) : Prop where
  known : ∀ message ∈ bus.pending, message ∈ messages
  inMessage : ∀ message rest, bus.pending = message :: rest → bus.position < message.frames
  zero : bus.screen.screenTempData.cells 0 ≠ 0x01
  texts : ∀ text ∈ bus.texts, ∃ message ∈ messages, text = message.text
  processing : bus.screen.processing = true → bus.screen.recieveComplete = true
  complete : bus.screen.recieveComplete = true → ∃ message ∈ messages, ∃ marker,
    HoldsText bus.screen.screenTempData.cells message marker
  receiving : bus.screen.recieveComplete = false → ∀ message rest, bus.pending = message :: rest →
    Receiving messages bus.screen.screenTempData.cells message bus.position

section Sound

variable {messages : List ScreenMessage} {bus : Bus}

theorem sound_start (messages : List ScreenMessage) : Sound messages (Bus.start messages) where
  known _ member := member
  inMessage message _ _ := by
    have := message.frames_eq
    show 0 < message.frames
    omega
  zero := show (0 : UInt8) ≠ 0x01 by decide
  texts _ member := by cases member
  processing wrong := by cases wrong
  complete wrong := by cases wrong
  receiving _ _ _ _ := receiving_zero (show (0 : UInt8) ≠ 0x01 by decide)

/-- A dropped frame. -/
theorem receiveScreenData_dropped {screen : Receiver} (complete : screen.recieveComplete = true)
    (msg : CanMsg) : receiveScreenData msg screen = screen := if_pos complete

/-- The frame that is stored next keeps the text, or makes one. -/
theorem Sound.stored (sound : Sound messages bus) (texted : ∀ message ∈ messages, message.Texted)
    {message : ScreenMessage} {rest : List ScreenMessage} (pending : bus.pending = message :: rest)
    (clear : bus.screen.recieveComplete = false) :
    let screen := receiveScreenData (message.frame bus.position) bus.screen
    screen.screenTempData.cells 0 ≠ 0x01 ∧ screen.processing = bus.screen.processing ∧
      (screen.recieveComplete = true → ∃ earlier ∈ messages, ∃ marker,
        HoldsText screen.screenTempData.cells earlier marker) ∧
      (screen.recieveComplete = false →
        Receiving messages screen.screenTempData.cells message (bus.position + 1)) ∧
      (bus.position + 1 = message.frames → screen.recieveComplete = true) := by
  intro screen
  have known := sound.known message (pending ▸ List.mem_cons_self)
  have sent := sound.inMessage message rest pending
  have receiving := sound.receiving clear message rest pending
  obtain ⟨processing, complete, cells⟩ := receiveScreenData_frame sent clear
  refine ⟨?_, processing, fun done => ?_, fun goesOn => ?_, fun last => ?_⟩
  · rw [cells, if_neg (by omega)]
    exact sound.zero
  · have filled := of_decide_eq_true (complete.symm.trans done)
    refine receiving.complete known (texted message known) ?_ fun index => ?_
    · unfold ScreenMessage.fillerIndex
      obtain ⟨third | fourth, filler⟩ := filled
      · rw [third] at filler ⊢
        rw [if_pos filler]
      · rw [fourth]
        split <;> decide
    · rw [cells]
      simp only [filled, and_self, and_true]
  · have unfilled := of_decide_eq_false (complete.symm.trans goesOn)
    refine receiving.next fun index => ?_
    rw [cells]
    simp only [unfilled, and_false, if_false]
  · refine complete.trans (decide_eq_true ⟨?_, ?_⟩)
    · have := message.frames_eq
      omega
    · have filler := message.filler
      rw [← last, Nat.add_sub_cancel] at filler
      exact filler

/-- A frame keeps the invariant. -/
theorem Sound.receiveNext (sound : Sound messages bus)
    (texted : ∀ message ∈ messages, message.Texted) : Sound messages (receiveNext bus) := by
  unfold Screen.receiveNext
  split
  · exact sound
  rename_i message rest pending
  have sent := sound.inMessage message rest pending
  have data : (message.frame bus.position).id = 0x121 := rfl
  have arrives : screenStep bus.screen (.interrupt (message.frame bus.position)) =
      receiveScreenData (message.frame bus.position) bus.screen := screenInterrupt_of_eq data _
  have pendingKnown : ∀ next ∈ rest, next ∈ messages := fun next member =>
    sound.known next (pending ▸ List.mem_cons_of_mem _ member)
  have first : ∀ next : ScreenMessage, 0 < next.frames := fun next => by
    have := next.frames_eq
    omega
  dsimp only
  rw [arrives]
  cases complete : bus.screen.recieveComplete with
  | true =>
      rw [receiveScreenData_dropped complete]
      split
      · rename_i goesOn
        refine { sound with inMessage := fun next later same => ?_, receiving := fun clear => ?_ }
        · exact (List.cons.inj (pending.symm.trans same)).1 ▸ goesOn
        · exact absurd (complete.symm.trans clear) Bool.noConfusion
      · exact { sound with
          known := pendingKnown
          inMessage := fun next _ _ => first next
          receiving := fun clear => absurd (complete.symm.trans clear) Bool.noConfusion }
  | false =>
      obtain ⟨zero, processing, done, goesOn, last⟩ := sound.stored texted pending complete
      have idle : bus.screen.processing = false := by
        by_contra busy
        exact absurd (complete.symm.trans (sound.processing (Bool.not_eq_false _ ▸ busy)))
          Bool.noConfusion
      have waits {screen : Receiver} (same : screen.processing = bus.screen.processing) :
          screen.processing = true → screen.recieveComplete = true := fun busy =>
        absurd (busy.symm.trans (same.trans idle)) Bool.noConfusion
      split
      · rename_i more
        refine ⟨sound.known, fun next later same => ?_,
          zero, sound.texts, waits processing, done, fun clear next later same => ?_⟩
        · exact (List.cons.inj (pending.symm.trans same)).1 ▸ more
        · exact (List.cons.inj (pending.symm.trans same)).1 ▸ goesOn clear
      · rename_i lastFrame
        have complete := last (by omega)
        exact ⟨pendingKnown, fun next _ _ => first next, zero, sound.texts, waits processing, done,
          fun clear => absurd (complete.symm.trans clear) Bool.noConfusion⟩

/-- The loop takes out the text that the buffer holds. -/
theorem Sound.loopStart (sound : Sound messages bus) : Sound messages (busStep bus .loopStart) := by
  unfold busStep
  dsimp only
  split
  swap
  · exact sound
  rename_i starts
  have taken : screenStep bus.screen .loopStart =
      { extractText bus.screen with processing := true } := if_pos starts
  obtain ⟨cells, complete, text, -⟩ := extractText_eq bus.screen
  obtain ⟨message, known, marker, holds⟩ := sound.complete starts.2
  rw [taken]
  refine ⟨sound.known, sound.inMessage, ?_, fun other member => ?_, fun _ => ?_, fun _ => ?_,
    fun clear => ?_⟩
  · rw [cells]
    exact sound.zero
  · rcases List.mem_cons.mp member with rfl | old
    · exact ⟨message, known, text.trans holds.text⟩
    · exact sound.texts other old
  · exact complete.trans starts.2
  · rw [cells]
    exact ⟨message, known, marker, holds⟩
  · exact absurd (complete.symm.trans clear) (by simp [starts.2])

/-- Clearing the flag, at a harmless place. -/
theorem Sound.loopEnd (sound : Sound messages bus) (uncut : Uncut bus .loopEnd) :
    Sound messages (busStep bus .loopEnd) := by
  unfold busStep screenStep
  dsimp only
  split
  swap
  · exact sound
  rename_i busy
  have complete := sound.complete (sound.processing busy)
  refine ⟨sound.known, sound.inMessage, sound.zero, sound.texts, Bool.noConfusion,
    Bool.noConfusion, fun _ message rest pending => ?_⟩
  rcases Nat.eq_zero_or_pos bus.position with start | middle
  · show Receiving messages bus.screen.screenTempData.cells message bus.position
    rw [start]
    exact receiving_zero sound.zero
  · exact (uncut busy message rest pending middle).receiving complete

/-- **A step of the bus keeps the invariant.** -/
theorem Sound.busStep (sound : Sound messages bus) (texted : ∀ message ∈ messages, message.Texted)
    (event : BusEvent) (uncut : Uncut bus event) : Sound messages (Screen.busStep bus event) := by
  cases event with
  | receive => exact sound.receiveNext texted
  | loopStart => exact sound.loopStart
  | loopEnd => exact sound.loopEnd uncut

end Sound

/-- **The texts taken out of the display's messages.** For every list of messages with a text, and
every interleaving of their frames with the main loop in which no message is cut harmfully: every
text taken out is the text of one of the messages. -/
theorem screen_texts_single (messages : List ScreenMessage)
    (texted : ∀ message ∈ messages, message.Texted) (events : List BusEvent)
    (uncut : Along busStep Uncut (Bus.start messages) events) :
    ∀ text ∈ (run busStep (Bus.start messages) events).texts,
      ∃ message ∈ messages, text = message.text :=
  (run_invariant (fun _ event sound => sound.busStep texted event) events _ (sound_start messages)
    uncut).texts

/-- A message of four frames with the given bytes; the first byte belongs to index 1. -/
def fourFrames (payload : List UInt8) (filler : payload.getD 26 0 = 0x81) : ScreenMessage where
  frames := 4
  header number := if number = 0 then 0x10 else 0x20 ||| UInt8.ofNat number
  payload index := payload.getD (index - 1) 0
  frames_eq := .inl rfl
  header_nibble := by decide
  filler := filler

/-- `TR 06 CD`. -/
def trackSix : ScreenMessage := fourFrames
  [0x19, 0x76, 0x60, 0x01, 0x54, 0x52, 0x20, 0x30, 0x36, 0x20, 0x43, 0x44, 0x10, 0x43, 0x44, 0x20,
    0x20, 0x20, 0x54, 0x52, 0x20, 0x30, 0x36, 0x20, 0x20, 0x00, 0x81, 0x81] rfl

/-- `AUX`, with five blanks. -/
def aux : ScreenMessage := fourFrames
  [0x19, 0x7E, 0x60, 0x01, 0x41, 0x55, 0x58, 0x20, 0x20, 0x20, 0x20, 0x20, 0x10, 0x41, 0x55, 0x58,
    0x20, 0x20, 0x20, 0x20, 0x20, 0x20, 0x20, 0x20, 0x20, 0x00, 0x81, 0x81] rfl

theorem trackSix_aux_texted : ∀ message ∈ [trackSix, aux], message.Texted := by
  intro message member
  simp only [List.mem_cons, List.not_mem_nil, or_false] at member
  rcases member with rfl | rfl
  · exact ⟨4, by decide, by decide⟩
  · exact ⟨4, by decide, by decide⟩

/-- The branch of the main loop lies between the two messages. -/
theorem screen_texts_between :
    let bus := run busStep (Bus.start [trackSix, aux]) [.receive, .receive, .receive, .receive,
      .loopStart, .loopEnd, .receive]
    bus.texts.length = 1 ∧
      ∀ text ∈ bus.texts, ∃ message ∈ [trackSix, aux], text = message.text := by
  refine ⟨by decide, screen_texts_single _ trackSix_aux_texted _
    ⟨trivial, trivial, trivial, trivial, trivial, fun _ _ _ _ middle => ?_, trivial, trivial⟩⟩
  exact absurd middle (by decide)

/-- **A joined text.** The flag is cleared after the first frame of the second message has been
dropped: the main loop then takes out `TR` with the blanks of `AUX`. -/
theorem screen_texts_joined : ¬ ∀ (messages : List ScreenMessage),
    (∀ message ∈ messages, message.Texted) → ∀ events : List BusEvent,
      ∀ text ∈ (run busStep (Bus.start messages) events).texts,
        ∃ message ∈ messages, text = message.text := by
  intro claim
  have joined : some [0x54, 0x52, 0x20, 0x20, 0x20, 0x20, 0x20, 0x20] ∈
      (run busStep (Bus.start [trackSix, aux]) [.receive, .receive, .receive, .receive, .loopStart,
        .receive, .loopEnd, .receive, .receive, .receive, .loopStart]).texts := by decide
  obtain ⟨message, member, same⟩ := claim [trackSix, aux] trackSix_aux_texted _ _ joined
  simp only [List.mem_cons, List.not_mem_nil, or_false] at member
  rcases member with rfl | rfl
  · exact absurd same (by decide)
  · exact absurd same (by decide)

end EquinoxClock.Screen
