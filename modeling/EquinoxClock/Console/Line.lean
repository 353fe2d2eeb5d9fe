/-
The command line of the console: one buffer, two ports, and the main loop.

The receive interrupts of the serial port and of USB store their bytes into the one buffer
`UART_LINE`; a carriage return or a line feed closes the string there and sets `LINE_READY`, on which
the main loop passes the buffer to `exec_cmd` and clears the flag. `Session` runs this next to what
was typed. A byte that arrives between the end of a line and the end of its command overwrites it,
and so does the line feed behind a carriage return; `lines_handed` says that in runs where that
does not happen, and no line runs into another or out of the buffer, every line is handed over once
and unchanged.
-/

import EquinoxClock.Lib.CString
import EquinoxClock.Lib.Run
import EquinoxClock.Lib.Traced

namespace EquinoxClock.Console

open EquinoxClock.Lib

/-- The length of `UART_LINE`. -/
def uartLineSize : Nat := 50

/-- `__BUF_MASK`. -/
def bufMask : Nat := 1024 - 1

/-- `__BUF_IS_FULL`. -/
def bufIsFull (head tail : Nat) : Bool := (tail &&& bufMask) == ((head + 1) &&& bufMask)

/-- `__BUF_INCR`. -/
def bufIncr (bufidx : Nat) : Nat := (bufidx + 1) &&& bufMask

/-- The variables of the comm. `uartLine` is the memory from the array's start on; `executing` is
set while the main loop is inside `exec_cmd`, and `handed` lists the strings passed to it. -/
structure Comm where
  uartLine : Traced Nat UInt8
  uartLineLen : Nat
  lineReady : Bool
  rxHead : Nat
  rxTail : Nat
  rx : Nat → UInt8
  executing : Bool
  handed : List (List UInt8)

/-- The variables as the program starts. -/
def Comm.initial : Comm where
  uartLine := ⟨fun _ => 0, []⟩
  uartLineLen := 0
  lineReady := false
  rxHead := 0
  rxTail := 0
  rx _ := 0
  executing := false
  handed := []

/-- `(tmpc=='\r')||(tmpc=='\n')`. -/
def isEnd (tmpc : UInt8) : Bool := tmpc == 13 || tmpc == 10

/-- What both receive interrupts do with a byte. -/
def storeByte (tmpc : UInt8) (comm : Comm) : Comm :=
  let uartLine := comm.uartLine.write comm.uartLineLen tmpc
  let uartLineLen := comm.uartLineLen + 1
  if isEnd tmpc then
    { comm with
      lineReady := true, uartLine := uartLine.write (uartLineLen - 1) 0, uartLineLen := 0 }
  else { comm with uartLine, uartLineLen }

/-- `UART_IntReceive`, for one byte: it goes into the receive ring as well, if there is room. -/
def uartIntReceive (tmpc : UInt8) (comm : Comm) : Comm :=
  let comm := storeByte tmpc comm
  if bufIsFull comm.rxHead comm.rxTail then comm
  else
    { comm with
      rx := Function.update comm.rx comm.rxHead tmpc, rxHead := bufIncr comm.rxHead }

/-- The loop of `BulkOut`, for one byte. -/
def bulkOut (tmpc : UInt8) (comm : Comm) : Comm := storeByte tmpc comm

/-- The string in `UART_LINE`. -/
def Comm.line (comm : Comm) : List UInt8 :=
  cString ((List.range uartLineSize).map comm.uartLine.cells)

/-- The two ports. -/
inductive Port where
  | uart
  | usb
  deriving DecidableEq, Repr

/-- The other port. -/
def Port.other : Port → Port
  | .uart => .usb
  | .usb => .uart

/-- What happens to the console: a byte arrives, the main loop reaches the test of `LINE_READY`, or
it reaches the end of that branch. -/
inductive CommEvent where
  | receive (port : Port) (tmpc : UInt8)
  | pollStart
  | pollEnd

/-- A step of the comm. -/
def commStep (comm : Comm) : CommEvent → Comm
  | .receive .uart tmpc => uartIntReceive tmpc comm
  | .receive .usb tmpc => bulkOut tmpc comm
  | .pollStart =>
      if ¬ comm.executing ∧ comm.lineReady then
        { comm with executing := true, handed := comm.handed ++ [comm.line] }
      else comm
  | .pollEnd =>
      if comm.executing then { comm with executing := false, lineReady := false }
      else comm

/-! ### Staying inside the buffer -/

/-- Only the buffer has been written, and the next byte goes into it. -/
structure InBuffer (comm : Comm) : Prop where
  written : Traced.Within (· < uartLineSize) comm.uartLine
  length : comm.uartLineLen < uartLineSize

/-- A byte that is not the end of a line leaves room for a further one. -/
def LeavesRoom (comm : Comm) : CommEvent → Prop
  | .receive _ tmpc => isEnd tmpc = false → comm.uartLineLen + 1 < uartLineSize
  | .pollStart | .pollEnd => True

@[simp] theorem storeByte_executing (tmpc : UInt8) (comm : Comm) :
    (storeByte tmpc comm).executing = comm.executing := by
  rw [storeByte]
  split <;> rfl

@[simp] theorem storeByte_handed (tmpc : UInt8) (comm : Comm) :
    (storeByte tmpc comm).handed = comm.handed := by
  rw [storeByte]
  split <;> rfl

/-- The receive ring takes no part in the command line. -/
theorem receive_line (port : Port) (tmpc : UInt8) (comm : Comm) :
    let after := commStep comm (.receive port tmpc)
    let stored := storeByte tmpc comm
    after.uartLine = stored.uartLine ∧ after.uartLineLen = stored.uartLineLen ∧
      after.lineReady = stored.lineReady ∧ after.executing = comm.executing ∧
      after.handed = comm.handed := by
  cases port with
  | uart =>
      simp only [commStep, uartIntReceive]
      split <;> exact ⟨rfl, rfl, rfl, storeByte_executing .., storeByte_handed ..⟩
  | usb => exact ⟨rfl, rfl, rfl, storeByte_executing .., storeByte_handed ..⟩

theorem storeByte_character {tmpc : UInt8} (character : isEnd tmpc = false) (comm : Comm) :
    storeByte tmpc comm = { comm with
      uartLine := comm.uartLine.write comm.uartLineLen tmpc
      uartLineLen := comm.uartLineLen + 1 } := by
  rw [storeByte, character]
  rfl

theorem storeByte_end {tmpc : UInt8} (ends : isEnd tmpc = true) (comm : Comm) :
    storeByte tmpc comm = { comm with
      lineReady := true
      uartLine := (comm.uartLine.write comm.uartLineLen tmpc).write comm.uartLineLen 0
      uartLineLen := 0 } := by
  rw [storeByte, ends]
  rfl

/-- **A step stays inside the buffer** exactly if it leaves room. -/
theorem inBuffer_step {comm : Comm} (inside : InBuffer comm) (event : CommEvent) :
    InBuffer (commStep comm event) ↔ LeavesRoom comm event := by
  cases event with
  | receive port tmpc =>
      obtain ⟨memory, length, -⟩ := receive_line port tmpc comm
      have stored : InBuffer (commStep comm (.receive port tmpc)) ↔
          InBuffer (storeByte tmpc comm) :=
        ⟨fun ⟨written, fits⟩ => ⟨memory ▸ written, length ▸ fits⟩,
          fun ⟨written, fits⟩ => ⟨memory ▸ written, length ▸ fits⟩⟩
      rw [stored]
      cases ends : isEnd tmpc with
      | true =>
          rw [storeByte_end ends]
          refine iff_of_true ⟨?_, ?_⟩ fun character => ?_
          · exact (Traced.within_write ..).mpr
              ⟨inside.length, (Traced.within_write ..).mpr ⟨inside.length, inside.written⟩⟩
          · exact Nat.succ_pos 49
          · exact absurd (ends.symm.trans character) (by decide)
      | false =>
          rw [storeByte_character ends]
          refine ⟨fun ⟨_, fits⟩ _ => fits, fun room => ⟨?_, room ends⟩⟩
          exact (Traced.within_write ..).mpr ⟨inside.length, inside.written⟩
  | pollStart =>
      simp only [commStep]
      split <;> exact iff_of_true ⟨inside.written, inside.length⟩ trivial
  | pollEnd =>
      simp only [commStep]
      split <;> exact iff_of_true ⟨inside.written, inside.length⟩ trivial

theorem inBuffer_initial : InBuffer Comm.initial where
  written := fun _ member => absurd member List.not_mem_nil
  length := Nat.succ_pos 49

/-- **The writes to `UART_LINE`.** For every sequence of bytes on the two ports, with the main loop
anywhere between them: all writes and the length stay below 50 exactly if no byte other than the end
of a line arrives as the fiftieth. -/
theorem line_writes_iff (events : List CommEvent) :
    Along commStep (fun comm event => InBuffer (commStep comm event)) Comm.initial events ↔
      Along commStep LeavesRoom Comm.initial events :=
  along_iff (fun _ event inside => inBuffer_step inside event)
    (fun _ event inside room => (inBuffer_step inside event).mpr room) events _ inBuffer_initial

/-- Fifty characters without an end are one too many, and one more is stored behind the array. -/
theorem line_writes_fifty :
    ¬ Along commStep (fun comm event => InBuffer (commStep comm event)) Comm.initial
        (List.replicate 50 (.receive .uart 97)) ∧
      50 ∈ (run commStep Comm.initial
        (List.replicate 51 (.receive .uart 97))).uartLine.touched := by
  have last : (run commStep Comm.initial
      (List.replicate 50 (.receive .uart 97))).uartLineLen = 50 := by decide +kernel
  refine ⟨fun inside => ?_, by decide +kernel⟩
  have after := run_invariant
    (fun comm event (_ : InBuffer comm) (after : InBuffer (commStep comm event)) => after) _ _
    inBuffer_initial inside
  exact absurd (last ▸ after.length) (by decide)

/-! ### What was typed -/

/-- The variables, with the unfinished line of each port and the non-empty lines finished so far. -/
structure Session where
  comm : Comm
  typed : Port → List UInt8
  lines : List (List UInt8)

/-- The notes about a byte. -/
def noteByte (port : Port) (tmpc : UInt8) (session : Session) : Session :=
  if isEnd tmpc then
    { session with
      typed := Function.update session.typed port []
      lines := if session.typed port = [] then session.lines
        else session.lines ++ [session.typed port] }
  else
    { session with
      typed := Function.update session.typed port (session.typed port ++ [tmpc]) }

/-- A step of the session. -/
def sessionStep (session : Session) (event : CommEvent) : Session :=
  match event with
  | .receive port tmpc =>
      { noteByte port tmpc session with comm := commStep session.comm event }
  | .pollStart | .pollEnd => { session with comm := commStep session.comm event }

/-- Before anything is typed. -/
def Session.initial : Session := ⟨Comm.initial, fun _ => [], []⟩

/-- The strings that are not empty. -/
def commands (strings : List (List UInt8)) : List (List UInt8) := strings.filter (· != [])

/-- The line the next poll hands over: `LINE_READY` is set, its command does not run yet, and no
later byte is in the buffer. -/
def Comm.waiting (comm : Comm) : List (List UInt8) :=
  if comm.lineReady ∧ ¬ comm.executing ∧ comm.uartLineLen = 0 then [comm.line] else []

/-- Every non-empty line finished so far was handed over, once, in order and unchanged, or is the one
the next poll hands over; and while a command runs, the buffer it reads holds its own characters. -/
structure Served (session : Session) : Prop where
  handed : commands (session.comm.handed ++ session.comm.waiting) = session.lines
  reads : session.comm.executing = true →
    session.comm.handed.getLast? = some session.comm.line

/-- A byte arrives in the buffer's bounds, is not zero, does not mix with a line of the other port,
and comes neither while a line waits nor while a command runs; and no poll finds the beginning of a
line behind an empty one. -/
def OneLine (session : Session) : CommEvent → Prop
  | .receive port tmpc => tmpc ≠ 0 ∧ session.comm.uartLineLen < uartLineSize ∧
      session.typed port.other = [] ∧ commands session.comm.waiting = [] ∧
      session.comm.executing = false
  | .pollStart => session.comm.lineReady = true → session.comm.uartLineLen = 0
  | .pollEnd => True

instance (session : Session) : (event : CommEvent) → Decidable (OneLine session event)
  | .receive port tmpc => inferInstanceAs (Decidable (tmpc ≠ 0 ∧
      session.comm.uartLineLen < uartLineSize ∧ session.typed port.other = [] ∧
      commands session.comm.waiting = [] ∧ session.comm.executing = false))
  | .pollStart => inferInstanceAs (Decidable (_ → _))
  | .pollEnd => isTrue trivial

/-! ### Lines in the buffer -/

/-- The buffer holds the beginning of a line. -/
structure Stored (comm : Comm) (line : List UInt8) : Prop where
  length : comm.uartLineLen = line.length
  cells : ∀ index (within : index < line.length), comm.uartLine.cells index = (line)[index]
  noNul : ∀ c ∈ line, c ≠ 0

theorem Stored.of_receive {port : Port} {tmpc : UInt8} {comm : Comm} {line : List UInt8}
    (stored : Stored (storeByte tmpc comm) line) :
    Stored (commStep comm (.receive port tmpc)) line := by
  obtain ⟨memory, length, -⟩ := receive_line port tmpc comm
  exact ⟨length.trans stored.length, fun index within => by rw [memory]; exact stored.cells index within,
    stored.noNul⟩

/-- A further character is stored behind the beginning of the line. -/
theorem stored_character {comm : Comm} {line : List UInt8} (stored : Stored comm line)
    {tmpc : UInt8} (character : isEnd tmpc = false) (nonzero : tmpc ≠ 0) :
    Stored (storeByte tmpc comm) (line ++ [tmpc]) := by
  rw [storeByte_character character]
  refine ⟨?_, fun index within => ?_, fun c member => ?_⟩
  · rw [List.length_append, List.length_singleton, ← stored.length]
  · rw [List.length_append, List.length_singleton] at within
    obtain before | rfl : index < line.length ∨ index = line.length := by omega
    · rw [List.getElem_append_left before, ← stored.cells index before]
      exact Traced.write_other (by rw [stored.length]; omega) ..
    · rw [List.getElem_concat_length rfl, ← stored.length]
      exact Traced.write_same ..
  · obtain earlier | last := List.mem_append.mp member
    · exact stored.noNul c earlier
    · rwa [List.mem_singleton.mp last]

/-- The end of a line closes the string in the buffer. -/
theorem line_end {comm : Comm} {line : List UInt8} (stored : Stored comm line) {tmpc : UInt8}
    (ends : isEnd tmpc = true) (within : comm.uartLineLen < uartLineSize) :
    (storeByte tmpc comm).line = line := by
  rw [storeByte_end ends, Comm.line]
  rw [stored.length] at within ⊢
  refine cString_cells within (fun index before => ?_) (Traced.write_same ..) stored.noNul
  rw [Traced.write_other (Nat.ne_of_lt before), Traced.write_other (Nat.ne_of_lt before)]
  exact stored.cells index before

/-! ### What a run does -/

theorem commands_append (first second : List (List UInt8)) :
    commands (first ++ second) = commands first ++ commands second := List.filter_append ..

theorem commands_single (line : List UInt8) :
    commands [line] = if line = [] then [] else [line] := by
  cases line <;> rfl

/-- Between two events: the lines so far are served, and the buffer holds the one unfinished line. -/
structure Orderly (session : Session) : Prop where
  served : Served session
  stored : ∃ port, session.typed port.other = [] ∧ Stored session.comm (session.typed port)

/-- The unfinished line is the one of any port whose other port has none. -/
theorem Orderly.stored_at {session : Session} (orderly : Orderly session) {port : Port}
    (alone : session.typed port.other = []) : Stored session.comm (session.typed port) := by
  obtain ⟨owner, ownerAlone, stored⟩ := orderly.stored
  have same : owner = port ∨ owner = port.other ∧ owner.other = port := by
    cases owner <;> cases port <;> simp [Port.other]
  obtain rfl | ⟨isOther, back⟩ := same
  · exact stored
  · rw [back] at ownerAlone
    rw [isOther, alone] at stored
    rwa [ownerAlone]

theorem orderly_receive {session : Session} (orderly : Orderly session) {port : Port}
    {tmpc : UInt8} (alone : OneLine session (.receive port tmpc)) :
    Orderly (sessionStep session (.receive port tmpc)) := by
  obtain ⟨nonzero, within, otherIdle, noneWaits, idle⟩ := alone
  have stored := orderly.stored_at otherIdle
  obtain ⟨memory, length, ready, running, handed⟩ := receive_line port tmpc session.comm
  have servedSoFar : commands session.comm.handed = session.lines := by
    rw [← orderly.served.handed, commands_append, noneWaits, List.append_nil]
  have notRunning := running.trans idle
  have apart : port.other ≠ port := by cases port <;> decide
  cases ends : isEnd tmpc with
  | true =>
      have waits : (commStep session.comm (.receive port tmpc)).waiting = [session.typed port] := by
        rw [Comm.waiting, ready, notRunning, length, Comm.line, memory,
          ← line_end stored ends within, storeByte_end ends]
        rfl
      have noted : noteByte port tmpc session = { session with
          typed := Function.update session.typed port []
          lines := session.lines ++ commands [session.typed port] } := by
        rw [noteByte, ends, commands_single]
        simp only [if_true]
        split <;> simp
      refine ⟨⟨?_, fun isRunning => ?_⟩, port, ?_, ?_⟩
      · simp only [sessionStep, noted, handed, waits, commands_append, servedSoFar]
      · exact absurd (notRunning.symm.trans isRunning) (by decide)
      · simp only [sessionStep, noted, Function.update_of_ne apart, otherIdle]
      · simp only [sessionStep, noted, Function.update_self]
        refine .of_receive ⟨?_, fun _ below => absurd below (Nat.not_lt_zero _), ?_⟩
        · rw [storeByte_end ends]; rfl
        · intro c member; cases member
  | false =>
      have noted : noteByte port tmpc session = { session with
          typed := Function.update session.typed port (session.typed port ++ [tmpc]) } := by
        rw [noteByte, ends]
        rfl
      have waits : (commStep session.comm (.receive port tmpc)).waiting = [] := by
        rw [Comm.waiting, length, storeByte_character ends]
        exact if_neg fun ⟨_, _, empty⟩ => Nat.succ_ne_zero _ empty
      refine ⟨⟨?_, fun isRunning => ?_⟩, port, ?_, ?_⟩
      · simp only [sessionStep, noted, handed, waits, List.append_nil, servedSoFar]
      · exact absurd (notRunning.symm.trans isRunning) (by decide)
      · simp only [sessionStep, noted, Function.update_of_ne apart, otherIdle]
      · simp only [sessionStep, noted, Function.update_self]
        exact .of_receive (stored_character stored ends nonzero)

/-- A poll hands over the waiting line, and the buffer still holds it. -/
theorem orderly_pollStart {session : Session} (orderly : Orderly session)
    (complete : session.comm.lineReady = true → session.comm.uartLineLen = 0) :
    Orderly (sessionStep session .pollStart) := by
  by_cases polled : ¬ session.comm.executing ∧ session.comm.lineReady
  · have waits : session.comm.waiting = [session.comm.line] :=
      if_pos ⟨polled.2, polled.1, complete polled.2⟩
    have after : commStep session.comm .pollStart = { session.comm with
        executing := true, handed := session.comm.handed ++ [session.comm.line] } := if_pos polled
    obtain ⟨port, alone, stored⟩ := orderly.stored
    refine ⟨⟨?_, fun _ => ?_⟩, port, alone, ?_⟩
    · simp only [sessionStep, after]
      rw [← orderly.served.handed, waits, Comm.waiting, if_neg fun ⟨_, notRunning, _⟩ => notRunning rfl,
        List.append_nil]
    · simp only [sessionStep, after]
      exact List.getLast?_concat ..
    · simp only [sessionStep, after]
      exact ⟨stored.length, stored.cells, stored.noNul⟩
  · have same : commStep session.comm .pollStart = session.comm := if_neg polled
    rw [sessionStep, same]
    exact orderly

/-- The end of a command clears the flag of a line that was handed over. -/
theorem orderly_pollEnd {session : Session} (orderly : Orderly session) :
    Orderly (sessionStep session .pollEnd) := by
  by_cases running : session.comm.executing = true
  · have waits : session.comm.waiting = [] := if_neg fun ⟨_, notRunning, _⟩ => notRunning running
    have after : commStep session.comm .pollEnd = { session.comm with
        executing := false, lineReady := false } := if_pos running
    obtain ⟨port, alone, stored⟩ := orderly.stored
    refine ⟨⟨?_, fun isRunning => ?_⟩, port, alone, ?_⟩
    · simp only [sessionStep, after]
      rw [← orderly.served.handed, waits, Comm.waiting, if_neg fun ⟨isReady, _⟩ => Bool.noConfusion isReady]
    · simp only [sessionStep, after] at isRunning
      exact Bool.noConfusion isRunning
    · simp only [sessionStep, after]
      exact ⟨stored.length, stored.cells, stored.noNul⟩
  · have same : commStep session.comm .pollEnd = session.comm := if_neg running
    rw [sessionStep, same]
    exact orderly

/-- A step under the condition keeps the session orderly. -/
theorem orderly_step (session : Session) (event : CommEvent) (orderly : Orderly session)
    (alone : OneLine session event) : Orderly (sessionStep session event) := by
  cases event with
  | receive port tmpc => exact orderly_receive orderly alone
  | pollStart => exact orderly_pollStart orderly alone
  | pollEnd => exact orderly_pollEnd orderly

theorem orderly_initial : Orderly Session.initial where
  served := ⟨rfl, fun running => by cases running⟩
  stored := ⟨.uart, rfl, rfl, fun _ within => absurd within (Nat.not_lt_zero _), by
    intro c member; cases member⟩

/-- **Every line is served.** In a run without bytes between the end of a line and the end of its
command, without lines that mix, and within the buffer, each non-empty line is handed to `exec_cmd`
once, in order and unchanged. -/
theorem lines_handed (events : List CommEvent)
    (alone : Along sessionStep OneLine Session.initial events) :
    Served (run sessionStep Session.initial events) :=
  (run_invariant orderly_step events _ orderly_initial alone).served

/-- Two lines, `p` with a line feed behind its carriage return and `q`, each polled in time. -/
def twoLines : List CommEvent :=
  [.receive .uart 112, .receive .uart 13, .pollStart, .pollEnd, .receive .uart 10, .pollStart,
    .pollEnd, .receive .usb 113, .receive .usb 10, .pollStart, .pollEnd]

theorem lines_handed_two : Served (run sessionStep Session.initial twoLines) ∧
    commands (run sessionStep Session.initial twoLines).comm.handed = [[112], [113]] :=
  ⟨lines_handed twoLines (by decide), by decide⟩

/-- The line `p`, ended by a carriage return and a line feed before the main loop comes by. -/
def lineBeforePoll : List CommEvent :=
  [.receive .usb 112, .receive .usb 13, .receive .usb 10, .pollStart, .pollEnd]

/-- Such a line is never handed over: the line feed leaves an empty string in its place. -/
theorem line_before_poll_lost :
    [112] ∈ (run sessionStep Session.initial lineBeforePoll).lines ∧
      [112] ∉ (run sessionStep Session.initial lineBeforePoll).comm.handed ∧
      ¬ ∀ events, Served (run sessionStep Session.initial events) := by
  refine ⟨by decide, by decide, fun all => ?_⟩
  have handed := (all lineBeforePoll).handed
  revert handed
  decide

end EquinoxClock.Console
