/-
The transmit ring of the serial port.

`uartSend` puts bytes into a ring of 1024 and `uartIntTransmit` moves them on to the UART, from the
interrupt or at the end of `uartSend`, when no interrupt is due. `TxIntStat` is the code's own note
of whether the interrupt is enabled. `uart_flows` says that in every order of calls and interrupts no
byte is lost, doubled or moved, and that bytes in the ring always have an interrupt to come.
-/

import EquinoxClock.Console.Line
import EquinoxClock.Lib.Ring
import Mathlib.Data.Nat.Bitwise

namespace EquinoxClock.Console

open EquinoxClock.Lib

/-- The transmit half of `rb`, `TxIntStat`, and the UART: whether its THRE interrupt is enabled, and
the bytes given to it so far. -/
structure Transmitter where
  txHead : Nat
  txTail : Nat
  tx : Nat → UInt8
  txIntStat : Bool
  thre : Bool
  given : List UInt8

/-- `UART_RING_BUFSIZE`. -/
def uartRingBufsize : Nat := 1024

/-- `__BUF_IS_EMPTY`. -/
def bufIsEmpty (head tail : Nat) : Bool := (head &&& bufMask) == (tail &&& bufMask)

/-- What `comm_init` does to the transmit side, before anything is given to the UART. `UART_Init`
disables all interrupts. -/
def commInit (transmitter : Transmitter) : Transmitter :=
  { transmitter with txHead := 0, txTail := 0, txIntStat := false, thre := false, given := [] }

/-- The loop of `UART_IntTransmit`, with a UART that accepts some bytes more. -/
def drain : (accepts : Nat) → Transmitter → Transmitter
  | 0, transmitter => transmitter
  | accepts + 1, transmitter =>
      if bufIsEmpty transmitter.txHead transmitter.txTail then transmitter
      else
        drain accepts { transmitter with
          given := transmitter.given ++ [transmitter.tx transmitter.txTail]
          txTail := bufIncr transmitter.txTail }

/-- `UART_IntTransmit`. -/
def uartIntTransmit (accepts : Nat) (transmitter : Transmitter) : Transmitter :=
  let transmitter := { transmitter with thre := false }
  let transmitter := drain accepts transmitter
  if bufIsEmpty transmitter.txHead transmitter.txTail then
    { transmitter with thre := false, txIntStat := false }
  else { transmitter with txIntStat := true, thre := true }

/-- The loop of `UARTSend`, with some bytes left from `data` on: the number of bytes put into the
ring. -/
def fill (txbuf : Nat → UInt8) : (buflen data : Nat) → Transmitter → Nat × Transmitter
  | 0, _, transmitter => (0, transmitter)
  | buflen + 1, data, transmitter =>
      if bufIsFull transmitter.txHead transmitter.txTail then (0, transmitter)
      else
        let (bytes, transmitter) := fill txbuf buflen (data + 1) { transmitter with
          tx := Function.update transmitter.tx transmitter.txHead (txbuf data)
          txHead := bufIncr transmitter.txHead }
        (bytes + 1, transmitter)

/-- `UARTSend`, with the memory at `txbuf` and the number of bytes the UART accepts should the call
come to `UART_IntTransmit`: the number of bytes it reports, and the state. -/
def uartSend (txbuf : Nat → UInt8) (buflen : UInt8) (accepts : Nat) (transmitter : Transmitter) :
    Nat × Transmitter :=
  let transmitter := { transmitter with thre := false }
  let (bytes, transmitter) := fill txbuf buflen.toNat 0 transmitter
  if transmitter.txIntStat = false then (bytes, uartIntTransmit accepts transmitter)
  else (bytes, { transmitter with thre := true })

/-- A call of `UARTSend`, or an interrupt of the UART. -/
inductive TransmitEvent where
  | uartSend (txbuf : Nat → UInt8) (buflen : UInt8) (accepts : Nat)
  | uartIntTransmit (accepts : Nat)

/-- The transmit side, with all bytes the calls reported as accepted. -/
structure Output where
  transmitter : Transmitter
  accepted : List UInt8

/-- A step of the transmit side. -/
def outputStep (output : Output) : TransmitEvent → Output
  | .uartSend txbuf buflen accepts =>
      let (bytes, transmitter) := uartSend txbuf buflen accepts output.transmitter
      ⟨transmitter, output.accepted ++ (List.range bytes).map txbuf⟩
  | .uartIntTransmit accepts =>
      { output with transmitter := uartIntTransmit accepts output.transmitter }

/-- After `comm_init`. -/
def Output.start (transmitter : Transmitter) : Output := ⟨commInit transmitter, []⟩

/-- The bytes in the ring. -/
def Transmitter.held (transmitter : Transmitter) : List UInt8 :=
  Ring.contents transmitter.tx uartRingBufsize transmitter.txTail transmitter.txHead

/-- Between two steps: what was accepted has been given to the UART or is in the ring, which holds
1023 bytes at most, and while it holds some the interrupt is noted and enabled. -/
structure Flows (output : Output) : Prop where
  inOrder : output.transmitter.given ++ output.transmitter.held = output.accepted
  held_le : output.transmitter.held.length ≤ 1023
  armed : output.transmitter.held ≠ [] →
    output.transmitter.txIntStat = true ∧ output.transmitter.thre = true

/-! ### The macros -/

theorem and_bufMask (index : Nat) : index &&& bufMask = index % uartRingBufsize :=
  Nat.and_two_pow_sub_one_eq_mod index 10

theorem bufIncr_eq (index : Nat) : bufIncr index = Ring.place uartRingBufsize index 1 :=
  and_bufMask (index + 1)

/-- The ring holds a queue. -/
abbrev Transmitter.Holds (transmitter : Transmitter) (queue : List UInt8) : Prop :=
  Ring.Holds transmitter.tx uartRingBufsize transmitter.txTail transmitter.txHead queue

section Ring

variable {cells : Nat → UInt8} {tail head : Nat} {queue : List UInt8}

theorem bufIsEmpty_iff (holds : Ring.Holds cells uartRingBufsize tail head queue) :
    bufIsEmpty head tail = true ↔ queue = [] := by
  rw [bufIsEmpty, beq_iff_eq, and_bufMask, and_bufMask, Nat.mod_eq_of_lt holds.head_lt,
    Nat.mod_eq_of_lt holds.tail_lt, holds.empty_iff]

theorem bufIsFull_iff (holds : Ring.Holds cells uartRingBufsize tail head queue) :
    bufIsFull head tail = true ↔ queue.length + 1 = uartRingBufsize := by
  rw [bufIsFull, beq_iff_eq, and_bufMask, and_bufMask, Nat.mod_eq_of_lt holds.tail_lt, eq_comm]
  exact holds.full_iff

end Ring

section Steps

variable {transmitter : Transmitter} {queue : List UInt8}

/-! ### The two loops -/

/-- **Draining** moves bytes from the front of the queue to the UART. -/
theorem drain_spec (accepts : Nat) (holds : transmitter.Holds queue) :
    ∃ sent rest, queue = sent ++ rest ∧ (drain accepts transmitter).Holds rest ∧
      (drain accepts transmitter).given = transmitter.given ++ sent := by
  induction accepts generalizing transmitter queue with
  | zero => exact ⟨[], queue, rfl, holds, (List.append_nil _).symm⟩
  | succ accepts ih =>
      rw [drain]
      by_cases empty : bufIsEmpty transmitter.txHead transmitter.txTail = true
      · rw [if_pos empty]
        exact ⟨[], queue, rfl, holds, (List.append_nil _).symm⟩
      rw [if_neg empty]
      cases queue with
      | nil => exact absurd ((bufIsEmpty_iff holds).mpr rfl) empty
      | cons byte queue =>
          obtain ⟨front, behind⟩ := holds.pop
          rw [← bufIncr_eq] at behind
          obtain ⟨sent, rest, split, left, given⟩ := @ih { transmitter with
            given := transmitter.given ++ [transmitter.tx transmitter.txTail]
            txTail := bufIncr transmitter.txTail } queue behind
          refine ⟨byte :: sent, rest, by rw [split, List.cons_append], left, ?_⟩
          rw [given, front, List.append_assoc, List.singleton_append]

/-- **Filling** puts bytes of the buffer to the end of the queue, and reports their number. -/
theorem fill_spec (txbuf : Nat → UInt8) (buflen data : Nat) (holds : transmitter.Holds queue) :
    let filled := fill txbuf buflen data transmitter
    filled.2.Holds (queue ++ (List.range' data filled.1).map txbuf) ∧
      filled.2.given = transmitter.given ∧ filled.2.txIntStat = transmitter.txIntStat := by
  induction buflen generalizing transmitter queue data with
  | zero => exact ⟨(List.append_nil queue).symm ▸ holds, rfl, rfl⟩
  | succ buflen ih =>
      rw [fill]
      by_cases full : bufIsFull transmitter.txHead transmitter.txTail = true
      · rw [if_pos full]
        exact ⟨(List.append_nil queue).symm ▸ holds, rfl, rfl⟩
      rw [if_neg full]
      have room := fun last => full ((bufIsFull_iff holds).mpr last)
      have pushed := holds.push room (txbuf data)
      rw [← bufIncr_eq] at pushed
      obtain ⟨filled, given, status⟩ := @ih { transmitter with
        tx := Function.update transmitter.tx transmitter.txHead (txbuf data)
        txHead := bufIncr transmitter.txHead } _ (data + 1) pushed
      refine ⟨?_, given, status⟩
      rw [List.append_assoc, List.singleton_append] at filled
      exact filled

/-! ### Steps and runs -/

/-- The queue behind the invariant. -/
structure Queued (output : Output) (queue : List UInt8) : Prop where
  holds : output.transmitter.Holds queue
  inOrder : output.transmitter.given ++ queue = output.accepted
  armed : queue ≠ [] → output.transmitter.txIntStat = true ∧ output.transmitter.thre = true

theorem Queued.flows {output : Output} (queued : Queued output queue) : Flows output := by
  have held : output.transmitter.held = queue := queued.holds.contents_eq
  exact ⟨held.symm ▸ queued.inOrder, held.symm ▸ Nat.le_of_lt_succ queued.holds.fits,
    held.symm ▸ queued.armed⟩

/-- `UART_IntTransmit` leaves the interrupt enabled exactly if bytes are left. -/
theorem uartIntTransmit_spec (accepts : Nat) (holds : transmitter.Holds queue) :
    ∃ rest, (uartIntTransmit accepts transmitter).Holds rest ∧
      (uartIntTransmit accepts transmitter).given ++ rest = transmitter.given ++ queue ∧
      (rest ≠ [] → (uartIntTransmit accepts transmitter).txIntStat = true ∧
        (uartIntTransmit accepts transmitter).thre = true) := by
  obtain ⟨sent, rest, split, left, given⟩ :=
    @drain_spec { transmitter with thre := false } queue accepts holds
  refine ⟨rest, ?_⟩
  have moved : (drain accepts { transmitter with thre := false }).given ++ rest =
      transmitter.given ++ queue := by
    rw [given, split, List.append_assoc]
  unfold uartIntTransmit
  dsimp only
  by_cases empty : bufIsEmpty (drain accepts { transmitter with thre := false }).txHead
      (drain accepts { transmitter with thre := false }).txTail = true
  · rw [if_pos empty]
    exact ⟨left, moved, fun some => absurd ((bufIsEmpty_iff left).mp empty) some⟩
  · rw [if_neg empty]
    exact ⟨left, moved, fun _ => ⟨rfl, rfl⟩⟩

/-- **A step keeps the queue in order**: what is accepted goes to its end, and what is given to the
UART was at its front. -/
theorem queued_step {output : Output} (queued : Queued output queue) (event : TransmitEvent) :
    ∃ rest, Queued (outputStep output event) rest := by
  cases event with
  | uartSend txbuf buflen accepts =>
      obtain ⟨filled, given, status⟩ := @fill_spec { output.transmitter with thre := false } queue
        txbuf buflen.toNat 0 queued.holds
      simp only [outputStep, uartSend]
      generalize fill txbuf buflen.toNat 0 { output.transmitter with thre := false } = after
        at filled given status ⊢
      rw [← List.range_eq_range'] at filled
      have accepted : after.2.given ++ (queue ++ (List.range after.1).map txbuf) =
          output.accepted ++ (List.range after.1).map txbuf := by
        rw [given, ← List.append_assoc, queued.inOrder]
      by_cases reset : after.2.txIntStat = false
      · rw [if_pos reset]
        obtain ⟨rest, left, moved, armed⟩ := uartIntTransmit_spec accepts filled
        exact ⟨rest, left, moved.trans accepted, armed⟩
      · rw [if_neg reset]
        exact ⟨_, filled, accepted, fun _ => ⟨Bool.eq_true_of_not_eq_false reset, rfl⟩⟩
  | uartIntTransmit accepts =>
      obtain ⟨rest, left, moved, armed⟩ := uartIntTransmit_spec accepts queued.holds
      exact ⟨rest, left, moved.trans queued.inOrder, armed⟩

end Steps

theorem queued_start (before : Transmitter) : Queued (Output.start before) [] where
  holds := Ring.holds_nil _ (Nat.succ_pos 1023)
  inOrder := rfl
  armed some := absurd rfl some

/-- **The transmit side flows.** From `comm_init` on, whatever was in the ring, in every order of
calls and interrupts and with a UART that accepts any number of bytes each time: the bytes given to
the UART and those in the ring are those accepted, in order, and output never stalls. -/
theorem uart_flows (before : Transmitter) (events : List TransmitEvent) :
    Flows (run outputStep (Output.start before) events) := by
  have kept : ∀ output event, (∃ queue, Queued output queue) → True →
      ∃ queue, Queued (outputStep output event) queue :=
    fun _ event ⟨_, queued⟩ _ => queued_step queued event
  obtain ⟨queue, queued⟩ :=
    run_invariant kept events _ ⟨[], queued_start before⟩ (along_trivial events _)
  exact queued.flows

end EquinoxClock.Console
