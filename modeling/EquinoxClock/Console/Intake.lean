/-
The receive ring of the serial port.

The receive interrupt puts each byte into a ring of 1024 and drops it when the ring is full;
`uartReceive` takes bytes out, for its caller or for `comm_get`. The ring itself loses nothing and
keeps the order. `comm_get` however returns the address of its buffer in place of the byte in it:
`uart_received_iff` says that the callers get what was received exactly if that address always ends
in the byte.
-/

import EquinoxClock.Console.Transmit

namespace EquinoxClock.Console

open EquinoxClock.Lib

/-- What `comm_init` does to the receive side. -/
def commInitReceive (comm : Comm) : Comm := { comm with rxHead := 0, rxTail := 0, uartLineLen := 0 }

/-- The loop of `UARTReceive`: the bytes stored from `rxbuf` on, and the state. -/
def takeBytes : (buflen : Nat) → Comm → List UInt8 × Comm
  | 0, comm => ([], comm)
  | buflen + 1, comm =>
      if bufIsEmpty comm.rxHead comm.rxTail then ([], comm)
      else
        let data := comm.rx comm.rxTail
        let (bytes, comm) := takeBytes buflen { comm with rxTail := bufIncr comm.rxTail }
        (data :: bytes, comm)

/-- `UARTReceive`. The receive interrupt is locked out during the call. -/
def uartReceive (buflen : UInt8) (comm : Comm) : List UInt8 × Comm := takeBytes buflen.toNat comm

/-- The first statements of `comm_get`. -/
def commGetStart (comm : Comm) : Comm :=
  { comm with lineReady := false, uartLineLen := 0, uartLine := comm.uartLine.write 0 0 }

/-- A pass of the loop of `comm_get`, with the address of its buffer: unless `len` stays zero, it is
`return buffer`, the address cut to eight bits. -/
def commGetPass (buffer : Nat) (comm : Comm) : Option UInt8 × Comm :=
  let (bytes, comm) := uartReceive 1 comm
  (if bytes.length = 0 then none else some (UInt8.ofNat buffer), comm)

/-- What happens to the receive side: a byte arrives, the main program calls `UARTReceive` or enters
`comm_get`, or `comm_get` comes to a pass of its loop. -/
inductive IntakeEvent where
  | receive (tmpc : UInt8)
  | uartReceive (buflen : UInt8)
  | commGet
  | pass (buffer : Nat)

/-- The receive side. `waiting` is set while the main program is inside `comm_get`; `kept` lists the
bytes received, but for those that arrived while the ring held 1023, and `handed` the bytes given to
the callers. -/
structure Intake where
  comm : Comm
  waiting : Bool
  kept : List UInt8
  handed : List UInt8

/-- The bytes in the receive ring. -/
def Comm.held (comm : Comm) : List UInt8 :=
  Ring.contents comm.rx uartRingBufsize comm.rxTail comm.rxHead

/-- A step of the receive side. The main program does one thing at a time. -/
def intakeStep (intake : Intake) : IntakeEvent → Intake
  | .receive tmpc =>
      { intake with
        comm := uartIntReceive tmpc intake.comm
        kept := if intake.comm.held.length = 1023 then intake.kept else intake.kept ++ [tmpc] }
  | .uartReceive buflen =>
      if intake.waiting then intake
      else
        let (bytes, comm) := uartReceive buflen intake.comm
        { intake with comm, handed := intake.handed ++ bytes }
  | .commGet =>
      if intake.waiting then intake
      else { intake with comm := commGetStart intake.comm, waiting := true }
  | .pass buffer =>
      if intake.waiting then
        match commGetPass buffer intake.comm with
        | (none, comm) => { intake with comm }
        | (some byte, comm) =>
            { intake with comm, waiting := false, handed := intake.handed ++ [byte] }
      else intake

/-- After `comm_init`. -/
def Intake.start (comm : Comm) : Intake := ⟨commInitReceive comm, false, [], []⟩

/-- The bytes given to the callers and then those in the ring are the bytes kept. -/
def InOrder (intake : Intake) : Prop := intake.handed ++ intake.comm.held = intake.kept

/-- When `comm_get` finds a byte, the address of its buffer ends in the oldest one. -/
def EndsInOldest (intake : Intake) : IntakeEvent → Prop
  | .pass buffer => intake.waiting = true →
      ∀ byte ∈ intake.comm.held.head?, UInt8.ofNat buffer = byte
  | .receive _ | .uartReceive _ | .commGet => True

/-! ### The ring -/

/-- The receive ring holds a queue. -/
abbrev Comm.Holds (comm : Comm) (queue : List UInt8) : Prop :=
  Ring.Holds comm.rx uartRingBufsize comm.rxTail comm.rxHead queue

section Steps

variable {comm : Comm} {queue : List UInt8}

theorem storeByte_rx (tmpc : UInt8) (comm : Comm) :
    (storeByte tmpc comm).rxHead = comm.rxHead ∧ (storeByte tmpc comm).rxTail = comm.rxTail ∧
      (storeByte tmpc comm).rx = comm.rx := by
  rw [storeByte]
  split <;> exact ⟨rfl, rfl, rfl⟩

/-- **Receiving** puts the byte at the end of the queue, unless the ring is full. -/
theorem uartIntReceive_holds (holds : comm.Holds queue) (tmpc : UInt8) :
    (uartIntReceive tmpc comm).Holds (if queue.length = 1023 then queue else queue ++ [tmpc]) := by
  obtain ⟨head, tail, cells⟩ := storeByte_rx tmpc comm
  have stored : (storeByte tmpc comm).Holds queue := by
    unfold Comm.Holds
    rw [head, tail, cells]
    exact holds
  have full := bufIsFull_iff stored
  rw [uartIntReceive]
  by_cases last : queue.length = 1023
  · rw [if_pos last, if_pos (full.mpr (congrArg Nat.succ last))]
    exact stored
  · have room : queue.length + 1 ≠ uartRingBufsize := fun same => last (Nat.succ.inj same)
    rw [if_neg last, if_neg fun isFull => room (full.mp isFull), bufIncr_eq]
    exact stored.push room tmpc

/-- **Taking** moves bytes from the front of the queue to the caller, as many as there are and he
asks for. -/
theorem takeBytes_spec (buflen : Nat) : ∀ {comm : Comm} {queue : List UInt8}, comm.Holds queue →
    (takeBytes buflen comm).1 = queue.take buflen ∧
      (takeBytes buflen comm).2.Holds (queue.drop buflen) := by
  induction buflen with
  | zero => exact fun holds => ⟨rfl, holds⟩
  | succ buflen ih =>
      intro comm queue holds
      rw [takeBytes]
      cases queue with
      | nil =>
          rw [if_pos ((bufIsEmpty_iff holds).mpr rfl)]
          exact ⟨rfl, holds⟩
      | cons byte queue =>
          rw [if_neg fun empty => List.cons_ne_nil _ _ ((bufIsEmpty_iff holds).mp empty)]
          obtain ⟨front, behind⟩ := holds.pop
          rw [← bufIncr_eq] at behind
          obtain ⟨taken, left⟩ := @ih { comm with rxTail := bufIncr comm.rxTail } queue behind
          exact ⟨by rw [List.take_succ_cons, ← taken, ← front], left⟩

/-- The queue behind the ring. -/
structure Queueing (intake : Intake) (queue : List UInt8) : Prop where
  holds : intake.comm.Holds queue
  inOrder : intake.handed ++ queue = intake.kept

theorem Queueing.held {intake : Intake} (queueing : Queueing intake queue) :
    intake.comm.held = queue := queueing.holds.contents_eq

theorem inOrder_iff {intake : Intake} (holds : intake.comm.Holds queue) :
    InOrder intake ↔ intake.handed ++ queue = intake.kept := by
  rw [InOrder, Comm.held, holds.contents_eq]

/-- **A pass of the loop of `comm_get`** takes the oldest byte, and gives back what the address ends
in. -/
theorem pass_spec {intake : Intake} (queueing : Queueing intake queue) (waits : intake.waiting = true)
    (buffer : Nat) : (intakeStep intake (.pass buffer)).comm.Holds queue.tail ∧
      (intakeStep intake (.pass buffer)).kept = intake.kept ∧
      (intakeStep intake (.pass buffer)).handed =
        intake.handed ++ queue.head?.toList.map fun _ => UInt8.ofNat buffer := by
  obtain ⟨taken, left⟩ := takeBytes_spec 1 queueing.holds
  have pass : commGetPass buffer intake.comm =
      (if (queue.take 1).length = 0 then none else some (UInt8.ofNat buffer),
        (takeBytes 1 intake.comm).2) := by
    rw [← taken]
    rfl
  simp only [intakeStep, waits, if_true, pass]
  cases queue with
  | nil => exact ⟨left, rfl, (List.append_nil _).symm⟩
  | cons byte queue => exact ⟨left, rfl, rfl⟩

/-- **A step keeps the order** exactly if `comm_get` gives back the oldest byte. -/
theorem inOrder_step {intake : Intake} (queueing : Queueing intake queue) (event : IntakeEvent) :
    ∃ rest, (intakeStep intake event).comm.Holds rest ∧
      (InOrder (intakeStep intake event) ↔ EndsInOldest intake event) := by
  have idle : InOrder intake := (inOrder_iff queueing.holds).mpr queueing.inOrder
  cases event with
  | receive tmpc =>
      have holds := uartIntReceive_holds queueing.holds tmpc
      refine ⟨_, holds, iff_of_true ?_ trivial⟩
      rw [inOrder_iff holds]
      simp only [intakeStep, queueing.held, ← queueing.inOrder]
      split
      · rfl
      · exact (List.append_assoc ..).symm
  | uartReceive buflen =>
      cases waits : intake.waiting with
      | true =>
          simp only [intakeStep, waits, if_true]
          exact ⟨queue, queueing.holds, iff_of_true idle trivial⟩
      | false =>
          obtain ⟨taken, left⟩ := takeBytes_spec buflen.toNat queueing.holds
          refine ⟨queue.drop buflen.toNat, ?_⟩
          simp only [intakeStep, waits, Bool.false_eq_true, if_false, uartReceive]
          refine ⟨left, iff_of_true ?_ trivial⟩
          rw [inOrder_iff left, taken, List.append_assoc, List.take_append_drop]
          exact queueing.inOrder
  | commGet =>
      refine ⟨queue, ?_⟩
      simp only [intakeStep]
      split
      · exact ⟨queueing.holds, iff_of_true idle trivial⟩
      · exact ⟨queueing.holds, iff_of_true idle trivial⟩
  | pass buffer =>
      cases waits : intake.waiting with
      | true =>
          obtain ⟨left, kept, handed⟩ := pass_spec queueing waits buffer
          refine ⟨queue.tail, left, ?_⟩
          rw [inOrder_iff left, kept, handed, ← queueing.inOrder, List.append_assoc,
            List.append_cancel_left_eq, EndsInOldest, forall_prop_of_true waits, queueing.held]
          cases queue with
          | nil => exact iff_of_true rfl fun _ none => nomatch none
          | cons byte queue => simp
      | false =>
          simp only [intakeStep, waits, Bool.false_eq_true, if_false]
          exact ⟨queue, queueing.holds, iff_of_true idle fun isWaiting => nomatch waits ▸ isWaiting⟩

end Steps

theorem queueing_start (comm : Comm) : Queueing (Intake.start comm) [] where
  holds := Ring.holds_nil _ (Nat.succ_pos 1023)
  inOrder := rfl

/-- **What is received is handed over**, in order, with nothing lost but what arrives at a full ring,
exactly in the runs in which every address that `comm_get` returns ends in the oldest byte. -/
theorem uart_received_iff (before : Comm) (events : List IntakeEvent) :
    Along intakeStep (fun intake event => InOrder (intakeStep intake event)) (Intake.start before)
        events ↔
      Along intakeStep EndsInOldest (Intake.start before) events := by
  refine @along_iff _ _ intakeStep EndsInOldest (fun intake => ∃ queue, Queueing intake queue) _
    (fun intake event ⟨_, queueing⟩ => (inOrder_step queueing event).choose_spec.2)
    (fun intake event ⟨_, queueing⟩ oldest => ?_) events _ ⟨[], queueing_start before⟩
  obtain ⟨rest, holds, exactly⟩ := inOrder_step queueing event
  exact ⟨rest, holds, (inOrder_iff holds).mp (exactly.mpr oldest)⟩

/-- **One byte.** With its buffer at an address that ends in `0xFC`, `comm_get` gives that back for
the letter that was typed. -/
theorem uart_received_letter :
    ¬ Along intakeStep (fun intake event => InOrder (intakeStep intake event))
      (Intake.start Comm.initial) [.commGet, .receive 97, .pass 0x10007FFC] := by
  rintro ⟨-, -, last, -⟩
  exact absurd last (by unfold InOrder; decide +kernel)

end EquinoxClock.Console
