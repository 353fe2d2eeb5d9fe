/-
The receiving side of the car display: the CAN interrupt stores screen frames, and the main loop
takes the eight characters of text out of them.

`screenInterrupt` is `Screen_Interrupt` and `extractText` the text extraction of `Screen_loop`. The
array `ScreenTempData` has 36 bytes; a frame is stored at seven times a nibble taken from the bus,
and the text is read behind a marker found anywhere in the array. `screen_accesses_iff` says which
runs stay inside it.
-/

import EquinoxClock.Lib.Run
import EquinoxClock.Lib.Traced
import Mathlib.Algebra.Group.Nat.Defs
import Mathlib.Data.Fin.VecNotation

namespace EquinoxClock.Screen

open EquinoxClock.Lib

/-- `CAN_MSG_Type`: the identifier and the data bytes. -/
structure CanMsg where
  id : Nat
  dataA : Fin 4 → UInt8
  dataB : Fin 4 → UInt8

/-- The variables of the receiving side. `screenTempData` is the memory from the array's start on;
`screenText` is the text last taken out of it, absent when the local array of the loop was left
unset. `processing` is set while the main loop is inside the branch for a completed message. -/
structure Receiver where
  screenTempData : Traced Nat UInt8
  recieveComplete : Bool
  recieve521Count : Int
  buttonTempFull : Nat
  buttomPressed : Bool
  offTimeout : Nat
  screenTextStart : Nat
  screenText : Option (List UInt8)
  processing : Bool

/-- The length of `ScreenTempData`. -/
def screenTempDataSize : Nat := 36

/-- `rec_121`: the number of the frame, from the low half of its header. -/
def CanMsg.rec121 (msg : CanMsg) : Nat := (msg.dataA 0 &&& 0x0F).toNat

/-- The seven stores of a screen frame. -/
def storeFrame (msg : CanMsg) (data : Traced Nat UInt8) : Traced Nat UInt8 :=
  let rxScreenPacketNo := msg.rec121 * 7
  data |>.write (rxScreenPacketNo + 1) (msg.dataA 1)
    |>.write (rxScreenPacketNo + 2) (msg.dataA 2)
    |>.write (rxScreenPacketNo + 3) (msg.dataA 3)
    |>.write (rxScreenPacketNo + 4) (msg.dataB 0)
    |>.write (rxScreenPacketNo + 5) (msg.dataB 1)
    |>.write (rxScreenPacketNo + 6) (msg.dataB 2)
    |>.write (rxScreenPacketNo + 7) (msg.dataB 3)

/-- `case 0x121` of `Screen_Interrupt`. The number of the frame is compared with 4 only after the
stores, and only to print an error. -/
def receiveScreenData (msg : CanMsg) (screen : Receiver) : Receiver :=
  if screen.recieveComplete then screen
  else
    let rec121 := msg.rec121
    let data := storeFrame msg screen.screenTempData
    if rec121 = 3 ∨ rec121 = 4 then
      let (last, data) := data.read (rec121 * 7 + 6)
      if last = 0x81 then
        { screen with
          screenTempData := data.write (6 + rec121 * 7) 0
          recieveComplete := true
          recieve521Count := -1 }
      else { screen with screenTempData := data }
    else { screen with screenTempData := data }

/-- `Screen_Interrupt`, with the received message in `RXMsg`. The remaining identifiers do nothing,
or print that they are not known. -/
def screenInterrupt (msg : CanMsg) (screen : Receiver) : Receiver :=
  match msg.id with
  | 0x0A9 => { screen with
      buttonTempFull := (msg.dataA 2).toNat * 2 ^ 8 ||| (msg.dataA 3).toNat, buttomPressed := true }
  | 0x121 => receiveScreenData msg screen
  | 0x3CF | 0x3DF => { screen with offTimeout := 0xFF }
  | 0x521 => { screen with recieve521Count := screen.recieve521Count + 1 }
  | _ => screen

/-- `for (t = 0; t < 8; t++) ScreenText[t] = ScreenTempData[ScreenTextStart + t]`, from some `t` on:
the text and the memory after the reads. -/
def copyText (start : Nat) : (remaining t : Nat) → Traced Nat UInt8 → List UInt8 × Traced Nat UInt8
  | 0, _, data => ([], data)
  | remaining + 1, t, data =>
      let (character, data) := data.read (start + t)
      let (rest, data) := copyText start remaining (t + 1) data
      (character :: rest, data)

/-- The loop over `IBCopy`, which looks for the marker `0x01` and copies the text behind it. -/
def scanText : (remaining ibCopy : Nat) → Receiver → Receiver
  | 0, _, screen => screen
  | remaining + 1, ibCopy, screen =>
      let (byte, data) := screen.screenTempData.read ibCopy
      if byte = 0x01 then
        let (text, data) := copyText (ibCopy + 1) 8 0 data
        { screen with
          screenTempData := data, screenTextStart := ibCopy + 1, screenText := some text }
      else scanText remaining (ibCopy + 1) { screen with screenTempData := data }

/-- The text extraction of `Screen_loop`: the local text is unset before. -/
def extractText (screen : Receiver) : Receiver :=
  scanText (7 * 5 + 1) 0 { screen with screenText := none }

/-- What happens to the receiving side: a frame arrives, or the main loop reaches the test of
`RecieveComplete` in `Screen_loop`, or it reaches the end of that branch. As nothing is stored while
`RecieveComplete` is set, the extraction is one event. -/
inductive ScreenEvent where
  | interrupt (msg : CanMsg)
  | loopStart
  | loopEnd

/-- A step of the receiving side. -/
def screenStep (screen : Receiver) : ScreenEvent → Receiver
  | .interrupt msg => screenInterrupt msg screen
  | .loopStart =>
      if ¬ screen.processing ∧ screen.recieveComplete then
        { extractText screen with processing := true }
      else screen
  | .loopEnd =>
      if screen.processing then { screen with recieveComplete := false, processing := false }
      else screen

/-! ### What the extraction finds -/

/-- The index of the first marker in the array. -/
def firstMarker (data : Nat → UInt8) : Option Nat :=
  (List.range screenTempDataSize).find? fun index => data index == 0x01

/-- The eight bytes behind a marker. -/
def textBehind (data : Nat → UInt8) (marker : Nat) : List UInt8 :=
  (List.range 8).map fun t => data (marker + 1 + t)

/-- The first marker, spelled out. -/
theorem firstMarker_eq_some {data : Nat → UInt8} {marker : Nat} :
    firstMarker data = some marker ↔
      marker < screenTempDataSize ∧ data marker = 0x01 ∧ ∀ index < marker, data index ≠ 0x01 := by
  simp only [firstMarker, List.find?_range_eq_some, List.mem_range, beq_iff_eq, Bool.not_eq_eq_eq_not,
    Bool.not_true, beq_eq_false_iff_ne]
  exact ⟨fun ⟨marked, inside, first⟩ => ⟨inside, marked, first⟩,
    fun ⟨inside, marked, first⟩ => ⟨marked, inside, first⟩⟩

/-- The copy of the text reads eight bytes and changes none. -/
theorem copyText_eq (start remaining t : Nat) (data : Traced Nat UInt8) :
    (copyText start remaining t data).1 =
        (List.range' t remaining).map (fun t => data.cells (start + t)) ∧
      (copyText start remaining t data).2.cells = data.cells ∧
      ∀ good, Traced.Within good (copyText start remaining t data).2 ↔
        (∀ offset, t ≤ offset → offset < t + remaining → good (start + offset)) ∧
          Traced.Within good data := by
  induction remaining generalizing t data with
  | zero =>
      refine ⟨rfl, rfl, fun good => (and_iff_right ?_).symm⟩
      intro offset low high
      omega
  | succ remaining ih =>
      obtain ⟨text, cells, within⟩ := ih (t + 1) (data.read (start + t)).2
      refine ⟨?_, cells, fun good => ?_⟩
      · rw [List.range'_succ, List.map_cons]
        exact congrArg (data.cells (start + t) :: ·) text
      · refine (within good).trans ?_
        rw [Traced.within_read, ← and_assoc]
        refine and_congr_left fun _ => ⟨fun both offset low high => ?_, fun all =>
          ⟨fun offset low high => all offset (by omega) (by omega), all t (Nat.le_refl t) (by omega)⟩⟩
        rcases Nat.eq_or_lt_of_le low with rfl | later
        · exact both.2
        · exact both.1 offset later (by omega)

/-- **The scan**: the text is that behind the first marker in the part scanned, and only the array
is read, apart from the text itself. -/
theorem scanText_eq (remaining ibCopy : Nat) (screen : Receiver)
    (all : ibCopy + remaining = screenTempDataSize) :
    (scanText remaining ibCopy screen).screenTempData.cells = screen.screenTempData.cells ∧
      (scanText remaining ibCopy screen).recieveComplete = screen.recieveComplete ∧
      (scanText remaining ibCopy screen).screenText =
        (((List.range' ibCopy remaining).find? fun index =>
          screen.screenTempData.cells index == 0x01).map
            (textBehind screen.screenTempData.cells)).or screen.screenText ∧
      (Traced.Within (· < screenTempDataSize) (scanText remaining ibCopy screen).screenTempData ↔
        (∀ marker, ((List.range' ibCopy remaining).find? fun index =>
          screen.screenTempData.cells index == 0x01) = some marker →
            marker + 8 < screenTempDataSize) ∧
        Traced.Within (· < screenTempDataSize) screen.screenTempData) := by
  induction remaining generalizing ibCopy screen with
  | zero => exact ⟨rfl, rfl, rfl, (and_iff_right fun _ found => by cases found).symm⟩
  | succ remaining ih =>
      have inside : ibCopy < screenTempDataSize := by omega
      rw [scanText, List.range'_succ, List.find?_cons]
      dsimp only
      rw [Traced.read_fst]
      by_cases marker : screen.screenTempData.cells ibCopy = 0x01
      · rw [if_pos marker, beq_iff_eq.mpr marker]
        obtain ⟨text, cells, within⟩ :=
          copyText_eq (ibCopy + 1) 8 0 (screen.screenTempData.read ibCopy).2
        refine ⟨cells, rfl, ?_, (within _).trans ?_⟩
        · exact congrArg some (text.trans (by rw [List.range'_eq_map_range]; simp [textBehind]))
        · rw [Traced.within_read]
          refine ⟨fun ⟨behind, _, before⟩ => ⟨?_, before⟩, fun ⟨fits, before⟩ =>
            ⟨fun offset _ high => ?_, inside, before⟩⟩
          · rintro found ⟨⟩
            have := behind 7 (by decide) (by decide)
            omega
          · have := fits ibCopy rfl
            omega
      · rw [if_neg marker, beq_false_of_ne marker]
        obtain ⟨cells, complete, text, within⟩ := ih (ibCopy + 1)
          { screen with screenTempData := (screen.screenTempData.read ibCopy).2 } (by omega)
        refine ⟨cells, complete, text, within.trans ?_⟩
        refine and_congr_right fun _ => (Traced.within_read ibCopy _).trans ?_
        exact and_iff_right inside

/-- **The extraction**: the text behind the first marker of the array, if there is one. -/
theorem extractText_eq (screen : Receiver) :
    (extractText screen).screenTempData.cells = screen.screenTempData.cells ∧
      (extractText screen).recieveComplete = screen.recieveComplete ∧
      (extractText screen).screenText =
        (firstMarker screen.screenTempData.cells).map (textBehind screen.screenTempData.cells) ∧
      (Traced.Within (· < screenTempDataSize) (extractText screen).screenTempData ↔
        (∀ marker, firstMarker screen.screenTempData.cells = some marker →
          marker + 8 < screenTempDataSize) ∧
        Traced.Within (· < screenTempDataSize) screen.screenTempData) := by
  obtain ⟨cells, complete, text, within⟩ :=
    scanText_eq (7 * 5 + 1) 0 { screen with screenText := none } rfl
  rw [← List.range_eq_range'] at text within
  exact ⟨cells, complete, text.trans (Option.or_none ..), within⟩

/-! ### Staying inside the array -/

/-- A frame stores bytes up to seven times its number and seven more. -/
theorem within_storeFrame (msg : CanMsg) (data : Traced Nat UInt8) :
    Traced.Within (· < screenTempDataSize) (storeFrame msg data) ↔
      msg.rec121 ≤ 4 ∧ Traced.Within (· < screenTempDataSize) data := by
  simp only [storeFrame, Traced.within_write, ← and_assoc, screenTempDataSize]
  refine and_congr_left fun _ => ?_
  omega

/-- An event touches only the array: a screen frame that is stored has a number up to 4, and the
first marker found by the main loop stands in front of eight bytes of the array. -/
def InBounds (screen : Receiver) : ScreenEvent → Prop
  | .interrupt msg => msg.id = 0x121 → screen.recieveComplete = false → msg.rec121 ≤ 4
  | .loopStart => screen.processing = false → screen.recieveComplete = true →
      ∀ marker, firstMarker screen.screenTempData.cells = some marker → marker ≤ 27
  | .loopEnd => True

theorem within_receiveScreenData (msg : CanMsg) (screen : Receiver) :
    Traced.Within (· < screenTempDataSize) (receiveScreenData msg screen).screenTempData ↔
      Traced.Within (· < screenTempDataSize) screen.screenTempData ∧
        (screen.recieveComplete = false → msg.rec121 ≤ 4) := by
  unfold receiveScreenData
  by_cases complete : screen.recieveComplete = true
  · rw [if_pos complete]
    exact (and_iff_left fun clear => absurd (complete.symm.trans clear) Bool.noConfusion).symm
  rw [if_neg complete]
  have clear : screen.recieveComplete = false := Bool.eq_false_iff.mpr complete
  have stored := within_storeFrame msg screen.screenTempData
  dsimp only
  split
  · rename_i last
    have inside : msg.rec121 * 7 + 6 < screenTempDataSize := by
      unfold screenTempDataSize
      omega
    split
    · rw [Traced.within_write, Traced.within_read, stored, Nat.add_comm 6]
      simp only [inside, clear, true_and, forall_const]
      exact and_comm
    · rw [Traced.within_read, stored]
      simp only [inside, clear, true_and, forall_const]
      exact and_comm
  · rw [stored]
    simp only [clear, forall_const]
    exact and_comm

/-- A message with another identifier leaves the array alone. -/
theorem screenInterrupt_of_ne {msg : CanMsg} (other : msg.id ≠ 0x121) (screen : Receiver) :
    (screenInterrupt msg screen).screenTempData = screen.screenTempData ∧
      (screenInterrupt msg screen).recieveComplete = screen.recieveComplete ∧
      (screenInterrupt msg screen).processing = screen.processing := by
  unfold screenInterrupt
  split
  case h_2 known => exact absurd known other
  all_goals exact ⟨rfl, rfl, rfl⟩

theorem screenInterrupt_of_eq {msg : CanMsg} (data : msg.id = 0x121) (screen : Receiver) :
    screenInterrupt msg screen = receiveScreenData msg screen := by
  unfold screenInterrupt
  rw [data]
  rfl

/-- Only the array has been touched so far. -/
def InArray (screen : Receiver) : Prop :=
  Traced.Within (· < screenTempDataSize) screen.screenTempData

/-- **An event stays inside the array** exactly when it is in bounds. -/
theorem inArray_screenStep (screen : Receiver) (event : ScreenEvent) :
    InArray (screenStep screen event) ↔ InArray screen ∧ InBounds screen event := by
  unfold InArray
  cases event with
  | interrupt msg =>
      unfold screenStep InBounds
      by_cases data : msg.id = 0x121
      · simp only [screenInterrupt_of_eq data, within_receiveScreenData, data, forall_const]
      · simp only [(screenInterrupt_of_ne data screen).1, data, false_implies, and_true]
  | loopStart =>
      unfold screenStep InBounds
      dsimp only
      split
      · rename_i starts
        obtain ⟨idle, complete⟩ := starts
        have waits : screen.processing = false := Bool.eq_false_iff.mpr idle
        rw [(extractText_eq screen).2.2.2, and_comm]
        simp only [waits, complete, forall_const, screenTempDataSize]
        refine and_congr_right fun _ => forall₂_congr fun marker _ => ?_
        omega
      · rename_i nothing
        refine (and_iff_left fun idle complete => ?_).symm
        exact absurd ⟨Bool.eq_false_iff.mp idle, complete⟩ nothing
  | loopEnd =>
      unfold screenStep InBounds
      dsimp only
      split <;> exact (and_iff_left trivial).symm

/-- **The accesses to `ScreenTempData`.** For every sequence of received frames and loop steps, from
any contents of the memory: all reads and writes use the indices 0 to 35 exactly when every step is
in bounds. -/
theorem screen_accesses_iff (start : Receiver) (untouched : start.screenTempData.touched = [])
    (events : List ScreenEvent) :
    (∀ index ∈ (run screenStep start events).screenTempData.touched, index < screenTempDataSize) ↔
      Along screenStep InBounds start events := by
  have nothing : InArray start := by
    intro index member
    rw [untouched] at member
    cases member
  exact (run_iff_along inArray_screenStep events start).trans (and_iff_right nothing)

/-- The receiving side after start-up: all variables are zero. -/
def Receiver.cleared : Receiver where
  screenTempData := ⟨fun _ => 0, []⟩
  recieveComplete := false
  recieve521Count := 0
  buttonTempFull := 0
  buttomPressed := false
  offTimeout := 0
  screenTextStart := 0
  screenText := none
  processing := false

/-- A screen frame with the given header, which starts with the marker. -/
def markerFrame (header : UInt8) : CanMsg where
  id := 0x121
  dataA := ![header, 0x01, 0, 0]
  dataB := ![0, 0, 0x81, 0]

/-- The last frame of a message is stored and its text is taken. -/
theorem screen_accesses_frameThree :
    let touched := (run screenStep Receiver.cleared
      [.interrupt (markerFrame 0x23), .loopStart]).screenTempData.touched
    28 ∈ touched ∧ ∀ index ∈ touched, index < screenTempDataSize := by
  refine ⟨by decide, (screen_accesses_iff Receiver.cleared rfl _).mpr
    ⟨fun _ _ => by decide, fun _ _ marker found => ?_, trivial⟩⟩
  have first : firstMarker (screenStep Receiver.cleared
      (.interrupt (markerFrame 0x23))).screenTempData.cells = some 22 := by decide
  rw [first, Option.some.injEq] at found
  omega

/-- **A frame number 5 is stored behind the array**, at 36 and beyond. -/
theorem screen_accesses_frameFive : ¬ ∀ (events : List ScreenEvent),
    ∀ index ∈ (run screenStep Receiver.cleared events).screenTempData.touched,
      index < screenTempDataSize := by
  intro claim
  have outside : 42 ∈ (run screenStep Receiver.cleared
      [.interrupt (markerFrame 0x25)]).screenTempData.touched := by decide
  exact absurd (claim _ 42 outside) (by decide)

end EquinoxClock.Screen
