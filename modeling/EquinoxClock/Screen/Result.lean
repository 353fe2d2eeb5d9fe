/-
What sending reports.

A frame can fail twice: `CAN_SendMsg` may refuse it, and the wait behind it may run out before a
message 0x521 has come. `SendScreen` looks at neither result and reports success in any case, so its
result is right exactly when nothing failed (`sendScreen_result`).
-/

import EquinoxClock.Screen.Handshake

namespace EquinoxClock.Screen

open EquinoxClock.Lib

/-! ### Sending, with frames refused -/

/-- `CAN_SendMsg`: the frame goes on the bus, if there is a transmit buffer for it. -/
def canSendMsg (accepted : Bool) (msg : CanMsg) (radio : Radio) : Radio :=
  if accepted then { radio with sent := radio.sent ++ [msg] } else radio

/-- The body of the loop of `SendScreen` up to the wait: the state in which the wait begins. -/
def offerFrame (id : Nat) (accepted : Bool) (noSent : Nat) (radio : Radio) : Radio :=
  canSendMsg accepted (screenFrame id radio.screenText noSent) radio

/-- The body of the loop of `SendScreen`, with the result of `CAN_SendMsg`. -/
def tryFrame (id : Nat) (accepted : Bool) (delays : List (List Interrupt)) (noSent : Nat)
    (radio : Radio) : Radio :=
  let radio := offerFrame id accepted noSent radio
  (waitFor521 100 delays.tail (run interrupt radio (delays.headD []))).2

/-- The state in front of a frame. -/
def tryFrames (id : Nat) (accepted : Nat → Bool) (waits : Nat → List (List Interrupt))
    (radio : Radio) (count : Nat) : Radio :=
  Nat.fold count (fun noSent _ radio => tryFrame id (accepted noSent) (waits noSent) noSent radio)
    radio

/-- `SendScreen`, with the results of `CAN_SendMsg` and the interrupts during the four waits. -/
def trySendScreen (id : Nat) (accepted : Nat → Bool) (waits : Nat → List (List Interrupt))
    (radio : Radio) : Status × Radio :=
  (.cr, tryFrames id accepted waits radio 4)

/-- `SendToScreen`, with the results of `CAN_SendMsg`. -/
def trySendToScreen (sendId : Nat) (string : List UInt8) (command : UInt8) (accepted : Nat → Bool)
    (waits : Nat → List (List Interrupt)) (radio : Radio) : Status × Radio :=
  if Refusing radio then (.error, { radio with displayTimeout := -1 })
  else
    match trySendScreen sendId accepted waits (showString string command radio) with
    | (.cr, radio) => (.cr, radio)
    | (.error, radio) => (.error, radio)

/-- With every frame accepted, this is `SendScreen` on a free bus. -/
theorem trySendScreen_accepted (id : Nat) (waits : Nat → List (List Interrupt)) (radio : Radio) :
    trySendScreen id (fun _ => true) waits radio = sendScreen id waits radio := rfl

theorem trySendToScreen_accepted (sendId : Nat) (string : List UInt8) (command : UInt8)
    (waits : Nat → List (List Interrupt)) (radio : Radio) :
    trySendToScreen sendId string command (fun _ => true) waits radio =
      sendToScreen sendId string command waits radio := rfl

/-! ### Acknowledged frames -/

/-- The interrupts that come while `WaitFor521` waits. -/
def arriving : (timeout : Nat) → (delays : List (List Interrupt)) → Radio → List Interrupt
  | timeout, delays, radio =>
      if radio.screen.recieve521Count = 1 then []
      else
        match timeout with
        | 0 => []
        | timeout + 1 =>
            delays.headD [] ++ arriving timeout delays.tail (run interrupt radio (delays.headD []))

/-- A message 0x521 is among the interrupts. -/
def HasAcknowledgement (causes : List Interrupt) : Prop :=
  ∃ msg, .can msg ∈ causes ∧ msg.id = 0x521

/-- The frame goes on the bus, and a message 0x521 comes behind it before the wait is over. -/
def Delivered (id : Nat) (accepted : Nat → Bool) (waits : Nat → List (List Interrupt))
    (radio : Radio) (noSent : Nat) : Prop :=
  let before := offerFrame id (accepted noSent) noSent (tryFrames id accepted waits radio noSent)
  let first := (waits noSent).headD []
  accepted noSent = true ∧
    HasAcknowledgement (first ++ arriving 100 (waits noSent).tail (run interrupt before first))

/-- All frames of a text are delivered. -/
def AllDelivered (id : Nat) (accepted : Nat → Bool) (waits : Nat → List (List Interrupt))
    (radio : Radio) : Prop := ∀ noSent < 4, Delivered id accepted waits radio noSent

/-- Without interrupts, nothing is heard. -/
theorem arriving_nil (timeout : Nat) (radio : Radio) : arriving timeout [] radio = [] := by
  induction timeout with
  | zero => rw [arriving, ite_self]
  | succ timeout ih =>
      rw [arriving]
      split
      · rfl
      · exact ih

/-- Without a message 0x521, the count does not become one. -/
theorem count_ne_one_run (causes : List Interrupt) : ∀ {radio : Radio},
    radio.screen.recieve521Count ≠ 1 → ¬ HasAcknowledgement causes →
      (run interrupt radio causes).screen.recieve521Count ≠ 1 := by
  induction causes with
  | nil => exact fun missed _ => missed
  | cons cause causes ih =>
      intro radio missed none
      refine ih ?_ fun ⟨msg, member, id⟩ => none ⟨msg, List.mem_cons_of_mem _ member, id⟩
      cases cause with
      | can msg =>
          have other : msg.id ≠ 0x521 := fun id => none ⟨msg, List.mem_cons_self, id⟩
          rw [interrupt, screenInterrupt_count other]
          split
          · decide
          · exact missed
      | sysTick =>
          rw [interrupt]
          split <;> exact missed

/-- A wait that ends well has heard an acknowledgement, or one was counted before it began. -/
theorem waitFor521_acknowledged (timeout : Nat) :
    ∀ {delays : List (List Interrupt)} {radio : Radio},
    radio.screen.recieve521Count ≠ 1 → (waitFor521 timeout delays radio).1 = .cr →
      HasAcknowledgement (arriving timeout delays radio) := by
  induction timeout with
  | zero =>
      intro delays radio missed ended
      rw [waitFor521_failed delays missed] at ended
      cases ended
  | succ timeout ih =>
      intro delays radio missed ended
      rw [waitFor521_missed timeout delays missed] at ended
      rw [arriving, if_neg missed]
      by_cases first : HasAcknowledgement (delays.headD [])
      · obtain ⟨msg, member, id⟩ := first
        exact ⟨msg, List.mem_append_left _ member, id⟩
      · obtain ⟨msg, member, id⟩ := ih (count_ne_one_run _ missed first) ended
        exact ⟨msg, List.mem_append_right _ member, id⟩

/-- **The result of sending.** `SendScreen` reports success whatever happens, so its report is right
exactly if all four frames are accepted and acknowledged; and `SendToScreen`, which passes it on,
also if the text is refused. -/
theorem sendScreen_result (id : Nat) (accepted : Nat → Bool) (waits : Nat → List (List Interrupt))
    (radio : Radio) :
    (((trySendScreen id accepted waits radio).1 = .cr ↔ AllDelivered id accepted waits radio) ↔
      AllDelivered id accepted waits radio) ∧
    ∀ string command,
      (((trySendToScreen id string command accepted waits radio).1 = .cr ↔
          ¬ Refusing radio ∧ AllDelivered id accepted waits (showString string command radio)) ↔
        Refusing radio ∨ AllDelivered id accepted waits (showString string command radio)) := by
  refine ⟨iff_true_left rfl, fun string command => ?_⟩
  by_cases refusing : Refusing radio
  · have refused : (trySendToScreen id string command accepted waits radio).1 = .error := by
      rw [trySendToScreen, if_pos refusing]
    refine iff_of_true ?_ (.inl refusing)
    rw [refused]
    exact iff_of_false (by decide) fun both => both.1 refusing
  · have reported : (trySendToScreen id string command accepted waits radio).1 = .cr := by
      rw [trySendToScreen, if_neg refusing]
      rfl
    rw [iff_true_left reported, and_iff_right refusing, or_iff_right refusing]

/-- **A text nobody acknowledges** is reported as sent. -/
theorem sendScreen_unacknowledged :
    ¬ ((trySendScreen 0x121 (fun _ => true) (fun _ => []) Radio.initial).1 = .cr ↔
      AllDelivered 0x121 (fun _ => true) (fun _ => []) Radio.initial) := by
  intro right
  obtain ⟨-, msg, member, -⟩ := right.mp rfl 0 (by decide)
  rw [List.headD_nil, List.nil_append, List.tail_nil, arriving_nil] at member
  exact absurd member List.not_mem_nil

end EquinoxClock.Screen
