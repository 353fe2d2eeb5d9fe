/-
What stands on the display, and whether it will be put back.

`Shown` is the display in short: the text in the frames, the text kept for later, and whether a
timeout is running. A call of `sendToScreen` is one of five things to it, and everything else leaves
it alone (`shown_step`). A temporary text starts the timeout; a call that is refused, or has no known
command, clears the timeout and leaves the text. `reverts_iff` says that a temporary text is left on
the display in no other way.
-/

import EquinoxClock.Screen.Loop

namespace EquinoxClock.Screen

open EquinoxClock.Lib

/-! ### The display in short -/

/-- The text in the frames, the text kept for later, whether a timeout is running or over, and the
texts sent as new ones, the latest first. -/
structure Shown where
  text : List UInt8
  kept : List UInt8
  pending : Bool
  latest : List (List UInt8)
  deriving DecidableEq

/-- What a call of `SendToScreen` is to the display. -/
inductive Call where
  | refused
  | newText (string : List UInt8)
  | tempText (string : List UInt8)
  | oldText
  | unknown
  deriving DecidableEq

/-- The display after a call, or after anything else. -/
def Shown.next (shown : Shown) : Option Call → Shown
  | none => shown
  | some .refused | some .unknown => { shown with pending := false }
  | some (.newText string) =>
      ⟨filled string, filled string, false, string :: shown.latest⟩
  | some (.tempText string) => { shown with text := filled string, pending := true }
  | some .oldText => { shown with text := shown.kept, pending := false }

/-- The text is the one kept, or it will be. -/
def Shown.Reverts (shown : Shown) : Prop := shown.text = shown.kept ∨ shown.pending = true

/-- The text kept is the latest new one. -/
def Shown.Keeps (shown : Shown) : Prop :=
  ∃ string rest, shown.latest = string :: rest ∧ shown.kept = filled string

/-- A call that only clears the timeout does so for the text kept. -/
def Shown.Clears (shown : Shown) (call : Option Call) : Prop :=
  call = some .refused ∨ call = some .unknown → shown.text = shown.kept

/-- **One call.** The text is put back later exactly if no timeout is cleared for nothing. -/
theorem Shown.reverts_next {shown : Shown} (reverts : shown.Reverts) (call : Option Call) :
    (shown.next call).Reverts ↔ shown.Clears call := by
  cases call with
  | none => exact iff_of_true reverts fun wrong => by simp at wrong
  | some call =>
      cases call with
      | refused =>
          exact ⟨fun after _ => after.resolve_right Bool.noConfusion,
            fun clears => .inl (clears (.inl rfl))⟩
      | unknown =>
          exact ⟨fun after _ => after.resolve_right Bool.noConfusion,
            fun clears => .inl (clears (.inr rfl))⟩
      | newText string => exact iff_of_true (.inl rfl) fun wrong => by simp at wrong
      | tempText string => exact iff_of_true (.inr rfl) fun wrong => by simp at wrong
      | oldText => exact iff_of_true (.inl rfl) fun wrong => by simp at wrong

theorem Shown.keeps_next {shown : Shown} (keeps : shown.Keeps) (call : Option Call) :
    (shown.next call).Keeps := by
  cases call with
  | none => exact keeps
  | some call =>
      cases call with
      | newText string => exact ⟨string, shown.latest, rfl, rfl⟩
      | refused | unknown | tempText _ | oldText => exact keeps

/-! ### The calls of the display -/

/-- The display of the radio, in short. -/
def Radio.shown (radio : Radio) : Shown :=
  ⟨radio.screenText.text, radio.prevText, decide (0 ≤ radio.displayTimeout), radio.newStrings⟩

/-- What a call with this text and command is. -/
def classify (radio : Radio) (string : List UInt8) (command : UInt8) : Call :=
  if Refusing radio then .refused
  else if command = newString then .newText string
  else if command = tempString then .tempText string
  else if command = returnString then .oldText
  else .unknown

/-- The call of the first part of `Screen_loop`. -/
def timeoutCall (radio : Radio) : Option Call :=
  if radio.displayTimeout = 0 ∧ ¬ radio.screen.buttomPressed ∧ ¬ radio.screen.recieveComplete then
    some (classify radio (ascii "") returnString)
  else none

/-- The call of the second part. -/
def messageCall (radio : Radio) (unset : List UInt8) : Option Call :=
  if radio.screen.recieveComplete = true ∧ strncmp 3
      ((extractText radio.screen).screenText.getD unset) (ascii "AUX     ") = 0 then
    if radio.firstScreen then some (classify radio (ascii "PHONE") newString)
    else some (classify radio (ascii "") returnString)
  else none

/-- The text that a button gives to `SendToScreen`. -/
def buttonString (radio : Radio) : Option (List UInt8) :=
  match radio.screen.buttonTempFull with
  | 0x0000 | 0x000A => some (ascii "=/>")
  | 0x0101 => some (ascii "Track +")
  | 0x0141 => some (ascii "Track -")
  | _ => none

/-- The call of the third part. -/
def buttonCall (radio : Radio) : Option Call :=
  if radio.screen.buttomPressed = true ∧ radio.source = .aux then
    (buttonString radio).map fun string => classify radio string tempString
  else none

/-- The call that a step makes, if it makes one. -/
def callOf (radio : Radio) : RadioEvent → Option Call
  | .interrupt _ => none
  | .send string command _ => some (classify radio string command)
  | .loop _ unset =>
      match radio.part with
      | .timeout => timeoutCall radio
      | .message => messageCall radio unset
      | .button => buttonCall radio

theorem shown_interrupted {radio after : Radio} (interrupted : Interrupted radio after) :
    after.shown = radio.shown := by
  obtain ⟨screen, displayTimeout, rfl, sign⟩ := interrupted
  rw [Radio.shown, Radio.shown, decide_eq_decide.mpr sign]
  rfl

/-- What the branches for the commands are to the display. -/
theorem shown_showString {radio : Radio} (accepting : ¬ Refusing radio) (string : List UInt8)
    (command : UInt8) : (showString string command radio).shown =
      radio.shown.next (some (classify radio string command)) := by
  have characters : ∀ screenText : ScreenText,
      (screenText.write fun b => (filled string).getD b 0).text = filled string :=
    fun screenText => (screenText.text_write _).trans (filled_characters string)
  rw [showString, classify, if_neg accepting]
  split_ifs
  · refine congrArg₂ (fun text kept => Shown.mk text kept false (string :: radio.newStrings))
      (characters radio.screenText) ?_
    exact (copyPrev_text _ radio.prevScreenText).trans (filled_characters string)
  · exact congrArg (fun text => Shown.mk text radio.prevText true radio.newStrings)
      (characters radio.screenText)
  · exact congrArg (fun text => Shown.mk text radio.prevText false radio.newStrings)
      (radio.screenText.text_write radio.prevScreenText)
  · rfl

/-- **A call**, whatever comes in while it sends. -/
theorem shown_sendToScreen (radio : Radio) (sendId : Nat) (string : List UInt8) (command : UInt8)
    (waits : Nat → List (List Interrupt)) :
    (sendToScreen sendId string command waits radio).2.shown =
      radio.shown.next (some (classify radio string command)) := by
  by_cases refusing : Refusing radio
  · rw [sendToScreen_refused sendId string command waits refusing, classify, if_pos refusing]
    rfl
  · rw [shown_interrupted (sendToScreen_accepted sendId string command waits refusing)]
    exact shown_showString refusing string command

section Parts

variable (radio : Radio) (waits : Nat → List (List Interrupt))

theorem shown_checkTimeout :
    (checkTimeout waits radio).shown = radio.shown.next (timeoutCall radio) := by
  rw [checkTimeout, timeoutCall]
  split
  · exact shown_sendToScreen radio 0x121 (ascii "") returnString waits
  · rfl

/-- The branch for `AUX` shows the text for it, and sets the source. -/
theorem shown_enterAux : (enterAux waits radio).shown = radio.shown.next (some
    (if radio.firstScreen then classify radio (ascii "PHONE") newString
      else classify radio (ascii "") returnString)) := by
  have refreshed : (enterAux waits radio).shown = (refreshAux waits radio).shown := by
    rw [enterAux, endPause]
    split <;> rfl
  rw [refreshed, refreshAux]
  split
  · exact shown_sendToScreen radio 0x121 (ascii "PHONE") newString waits
  · exact shown_sendToScreen radio 0x121 (ascii "") returnString waits

/-- The other texts only change the source. -/
theorem shown_followText {text : List UInt8} (other : strncmp 3 text (ascii "AUX     ") ≠ 0) :
    (followText text waits radio).shown = radio.shown := by
  rw [followText, if_neg other]
  split_ifs <;> rfl

theorem shown_checkMessage (unset : List UInt8) :
    (checkMessage waits unset radio).shown = radio.shown.next (messageCall radio unset) := by
  let taken := { radio with screen := extractText radio.screen }
  rw [checkMessage, messageCall]
  split
  · next complete =>
      by_cases aux : strncmp 3 ((extractText radio.screen).screenText.getD unset)
          (ascii "AUX     ") = 0
      · have entered : followText (taken.screen.screenText.getD unset) waits taken =
            enterAux waits taken := if_pos aux
        rw [if_pos ⟨complete, aux⟩, ← apply_ite some]
        exact (congrArg Radio.shown entered).trans (shown_enterAux taken waits)
      · rw [if_neg fun both => aux both.2]
        exact shown_followText taken waits aux
  · next incomplete =>
      rw [if_neg fun both => incomplete both.1]
      rfl

theorem shown_followButton : (followButton waits radio).shown = radio.shown.next
    (if radio.source = .aux then
      (buttonString radio).map fun string => classify radio string tempString else none) := by
  have always := track_test radio.sourceTemp
  have pressed : ∀ command string, (if radio.source = .aux then (sendToScreen 0x121 string
      tempString waits (printTasker command radio)).2 else radio).shown = radio.shown.next
        (if radio.source = .aux then some (classify radio string tempString) else none) := by
    intro command string
    split
    · exact shown_sendToScreen (printTasker command radio) 0x121 string tempString waits
    · rfl
  rw [followButton]
  split
  · next code =>
      rw [buttonString, code]
      exact pressed .pause (ascii "=/>")
  · next code =>
      rw [buttonString, code]
      exact pressed .pause (ascii "=/>")
  · next code =>
      rw [buttonString, code, if_congr (and_iff_left always) rfl rfl]
      exact pressed .next (ascii "Track +")
  · next code =>
      rw [buttonString, code, if_congr (and_iff_left always) rfl rfl]
      exact pressed .prev (ascii "Track -")
  · next notEnter notEnterToo notNext notPrev =>
      have none : buttonString radio = none := by
        rw [buttonString]
        split <;> first | rfl | contradiction
      rw [none]
      split <;> rfl

theorem shown_checkButton :
    (checkButton waits radio).shown = radio.shown.next (buttonCall radio) := by
  rw [checkButton, buttonCall]
  split
  · next pressed =>
      rw [if_congr (and_iff_right pressed) rfl rfl]
      exact shown_followButton radio waits
  · next up =>
      rw [if_neg fun both => up both.1]
      rfl

end Parts

/-- **The display in short follows its calls.** -/
theorem shown_step (radio : Radio) (event : RadioEvent) :
    (radioStep radio event).shown = radio.shown.next (callOf radio event) := by
  cases event with
  | interrupt cause => exact shown_interrupted (interrupted_interrupt radio cause)
  | send string command waits => exact shown_sendToScreen radio 0x121 string command waits
  | loop waits unset =>
      rw [radioStep, callOf]
      cases radio.part with
      | timeout => exact shown_checkTimeout radio waits
      | message => exact shown_checkMessage radio waits unset
      | button => exact shown_checkButton radio waits

/-! ### A temporary text -/

/-- After a step the text is the one kept or the timeout runs, the text kept is the latest new one,
and the old text, where it is asked for and not refused, is back. -/
structure Reverting (radio : Radio) (event : RadioEvent) : Prop where
  reverts : (radioStep radio event).screenText.text = (radioStep radio event).prevText ∨
    0 ≤ (radioStep radio event).displayTimeout
  keeps : ∃ string rest, (radioStep radio event).newStrings = string :: rest ∧
    (radioStep radio event).prevText = filled string
  returns : callOf radio event = some .oldText →
    (radioStep radio event).screenText.text = (radioStep radio event).prevText

/-- A call that is refused, or has no known command, finds the text that is kept. -/
def ClearsKept (radio : Radio) (event : RadioEvent) : Prop := radio.shown.Clears (callOf radio event)

theorem reverting_step {radio : Radio} (holds : radio.shown.Reverts ∧ radio.shown.Keeps)
    (event : RadioEvent) : Reverting radio event ↔ ClearsKept radio event := by
  have reverts : (radioStep radio event).shown.Reverts ↔ ClearsKept radio event := by
    rw [shown_step]
    exact Shown.reverts_next holds.1 (callOf radio event)
  have pending : (radioStep radio event).shown.Reverts ↔
      (radioStep radio event).screenText.text = (radioStep radio event).prevText ∨
        0 ≤ (radioStep radio event).displayTimeout := or_congr_right decide_eq_true_iff
  refine ⟨fun reverting => reverts.mp (pending.mpr reverting.reverts), fun clears =>
    ⟨pending.mp (reverts.mpr clears), ?_, fun old => ?_⟩⟩
  · have keeps := Shown.keeps_next holds.2 (callOf radio event)
    rw [← shown_step] at keeps
    exact keeps
  · have back : (radioStep radio event).shown.text = (radioStep radio event).shown.kept := by
      rw [shown_step, old]
      rfl
    exact back

/-- **A temporary text.** After a new text that was sent, in every run: the text on the display is
put back, or will be, exactly if every call that only clears the timeout is made while the text kept
is on the display. -/
theorem reverts_iff {radio : Radio} (accepting : ¬ Refusing radio) (string : List UInt8)
    (waits : Nat → List (List Interrupt)) (events : List RadioEvent) :
    Along radioStep Reverting (sendToScreen 0x121 string newString waits radio).2 events ↔
      Along radioStep ClearsKept (sendToScreen 0x121 string newString waits radio).2 events := by
  have start : (sendToScreen 0x121 string newString waits radio).2.shown =
      radio.shown.next (some (.newText string)) := by
    rw [shown_sendToScreen, classify, if_neg accepting, if_pos rfl]
  refine @along_iff _ _ radioStep ClearsKept
    (fun radio => radio.shown.Reverts ∧ radio.shown.Keeps) Reverting
    (fun radio event holds => reverting_step holds event) (fun radio event holds clears => ?_)
    events _ ?_
  · rw [shown_step]
    exact ⟨(Shown.reverts_next holds.1 _).mpr clears, Shown.keeps_next holds.2 _⟩
  · rw [start]
    exact ⟨.inl rfl, string, radio.newStrings, rfl, rfl⟩

/-- The system timer counts the timeout down. -/
theorem run_ticks (count : Nat) : ∀ {radio : Radio}, (count : Int) ≤ radio.displayTimeout →
    run radioStep radio (List.replicate count (.interrupt .sysTick)) =
      { radio with displayTimeout := radio.displayTimeout - count } := by
  induction count with
  | zero =>
      intro radio _
      rw [Nat.cast_zero, Int.sub_zero]
      rfl
  | succ count ih =>
      intro radio left
      have ticked : radioStep radio (.interrupt .sysTick) =
          { radio with displayTimeout := radio.displayTimeout - 1 } :=
        if_pos (show 0 < radio.displayTimeout by omega)
      rw [List.replicate_succ, run_cons, ticked, ih (show (count : Int) ≤ radio.displayTimeout - 1 by
        omega)]
      refine congrArg (fun displayTimeout => { radio with displayTimeout }) ?_
      show radio.displayTimeout - 1 - (count : Int) = radio.displayTimeout - (count + 1 : Nat)
      omega

/-- **A text that will be put back is put back**: once the time is over, with nothing else to do and
texts not refused, the main loop shows the text kept. -/
theorem timeout_returns {radio : Radio} {count : Nat} (pending : radio.displayTimeout = count)
    (accepting : ¬ Refusing radio) (part : radio.part = .timeout)
    (idle : radio.screen.buttomPressed = false ∧ radio.screen.recieveComplete = false)
    (waits : Nat → List (List Interrupt)) (unset : List UInt8) :
    let after := run radioStep radio
      (List.replicate count (.interrupt .sysTick) ++ [.loop waits unset])
    after.screenText.text = after.prevText := by
  have finished : run radioStep radio (List.replicate count (.interrupt .sysTick)) =
      { radio with displayTimeout := 0 } := by
    rw [run_ticks count (pending ▸ Int.le_refl _), pending, Int.sub_self]
  have call : callOf { radio with displayTimeout := 0 } (.loop waits unset) = some .oldText := by
    have asked : timeoutCall { radio with displayTimeout := 0 } =
        some (classify radio (ascii "") returnString) :=
      if_pos ⟨rfl, Bool.not_eq_true _ ▸ idle.1, Bool.not_eq_true _ ▸ idle.2⟩
    rw [callOf, part]
    exact asked.trans (congrArg some (if_neg accepting))
  have shown : (radioStep { radio with displayTimeout := 0 } (.loop waits unset)).shown =
      Shown.next { radio with displayTimeout := 0 }.shown (some .oldText) := by
    rw [shown_step, call]
  rw [run_append, finished]
  exact (congrArg Shown.text shown).trans (congrArg Shown.kept shown).symm

/-- The display after the command line's test, with a temporary text for it. -/
def tested : Radio := (sendToScreen 0x121 (ascii "TEST") newString (fun _ => []) Radio.initial).2

/-- A temporary text comes and goes. -/
def comesAndGoes : List RadioEvent :=
  .send (ascii "Track +") tempString (fun _ => []) ::
    (List.replicate 1000 (.interrupt .sysTick) ++ onceAround)

/-- A temporary text, and a pause before its time is over. -/
def comesAndPauses : List RadioEvent :=
  .send (ascii "Track +") tempString (fun _ => []) ::
    (heard " PAUSE" ++ List.replicate 1000 (.interrupt .sysTick))

/-- The time is over, and the main loop comes by. -/
def pausedOver : Radio := run radioStep tested comesAndPauses

theorem reverts_shown :
    Along radioStep Reverting tested comesAndGoes ↔ Along radioStep ClearsKept tested comesAndGoes :=
  reverts_iff (show ¬ Refusing Radio.initial by decide) (ascii "TEST") (fun _ => []) comesAndGoes

/-- **The time is over during a pause**: the old text is refused, and the timeout is cleared. -/
theorem reverts_paused : ¬ Along radioStep Reverting tested (comesAndPauses ++ onceAround) := by
  intro reverting
  have reverts := ((along_append _ _ _).mp reverting).2.1.reverts
  have left : ¬ ((radioStep pausedOver (.loop (fun _ => []) [])).screenText.text =
      (radioStep pausedOver (.loop (fun _ => []) [])).prevText ∨
        0 ≤ (radioStep pausedOver (.loop (fun _ => []) [])).displayTimeout) := by decide +kernel
  exact left reverts

end EquinoxClock.Screen
