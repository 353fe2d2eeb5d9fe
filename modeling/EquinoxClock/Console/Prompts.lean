/-
The commands of the console that ask for a number.

`lp`, `ls` and `ps` print the range of the numbers they take and then read lines until one of them
passes their test. The number in a line is cut to eight bits before it is tested, and `ls` selects
pattern 0 along with the delay it was asked for; `prompts_iff` says in which runs every line that is
taken has a number of the range, and just that number is set.
-/

import EquinoxClock.Console.Formats
import EquinoxClock.Led.Patterns
import EquinoxClock.Lib.Run

namespace EquinoxClock.Console

open EquinoxClock.Lib EquinoxClock.Led

/-- `MAX_PATTERNS`. -/
def maxPatterns : Nat := 11

/-- `MAX_DELAY`. -/
def maxDelay : Nat := 1024

/-- `INFO`. -/
def info : List UInt8 := ascii "[INFO]-"

/-- `ERR`. -/
def err : List UInt8 := ascii "[ERR]-"

/-- The result of a transfer as `setPot` returns it: `SUCCESS` or `ERROR` of `lpc_types.h`. -/
def status (transferred : Bool) : UInt8 := if transferred then 1 else 0

/-- `ERROR` where the commands are: `canlib.h` defines it as a letter. -/
def error : UInt8 := 0x65

/-- The line of `p` and `ps` that reports a failure. -/
def failedToSetPot : List UInt8 := xprintf (err ++ ascii "Failed to set pot") []

/-! ### The commands -/

/-- A call that changes settings of the lights. -/
inductive Setter where
  | setLedPattern (no : UInt8) (delay : Nat) (bri : UInt8)
  | setBrightness (bri : UInt8)
  deriving DecidableEq, Repr

/-- What a call does, with the result of the transfer to the potentiometer. -/
def Setter.run (transferred : Bool) : Setter → Leds → Leds
  | .setLedPattern no delay bri, leds => Led.setLedPattern transferred no delay bri leds
  | .setBrightness bri, leds => (Led.setBrightness transferred bri leds).2

/-- The parts of a command that asks for a number: what it does and prints as it starts, the largest
number its test lets pass, what it prints for any other, and the call it makes in the end, with what
is printed around it. -/
structure Asking where
  prepare : Leds → Leds
  announce : List (List UInt8)
  limit : Nat
  refuse : List UInt8
  call : (number : UInt8) → Leds → Setter
  report : (transferred : Bool) → (number : UInt8) → (after : Leds) → List (List UInt8)

/-- `lp`. -/
def lp : Asking where
  prepare leds := leds
  announce := [xprintf (info ++ ascii "led set pattern running") [],
    xprintf (info ++ ascii "enter number between 0 and %d") [.int maxPatterns]]
  limit := 0x5
  refuse := xprintf (err ++ ascii "less than %d please") [.int maxPatterns]
  call number leds := .setLedPattern number 250 (getBrightness leds)
  report _ number _ := [xprintf (info ++ ascii "led pattern set to %d") [.int number.toNat],
    xprintf (info ++ ascii "led pattern finished") []]

/-- `ls`. -/
def ls : Asking where
  prepare leds := leds
  announce := [xprintf (info ++ ascii "led set DELAY") [],
    xprintf (info ++ ascii "enter number between 1 and %d") [.int maxDelay]]
  limit := maxDelay
  refuse := xprintf (err ++ ascii "less than %d please") [.int maxDelay]
  call number leds := .setLedPattern 0 number.toNat (getBrightness leds)
  report _ number _ := [xprintf (info ++ ascii "led selay set to %d") [.int number.toNat],
    xprintf (info ++ ascii "led delay finished") []]

/-- `ps`, which lights the first group to begin with. -/
def ps : Asking where
  prepare leds := calulateLedMibamBits (setRgb 1 0x7f 0x7f 0x7f leds)
  announce := [xprintf (info ++ ascii "enter number between 0 and 127") []]
  limit := 0x7f
  refuse := xprintf (err ++ ascii "less than 128 please") []
  call number _ := .setBrightness number
  report transferred pot after :=
    xprintf (info ++ ascii "setting pot to 0x%x(%d)") [.int pot.toNat, .int pot.toNat] ::
      (if status transferred = error then [failedToSetPot] else []) ++
      [xprintf (info ++ ascii "(verify) pot=0x%x(%d)")
        [.int (getBrightness after).toNat, .int (getBrightness after).toNat]]

/-- The commands that ask for a number. -/
inductive Prompt where
  | lp
  | ls
  | ps
  deriving DecidableEq, Repr

namespace Prompt

/-- The parts of a command. -/
def asking : Prompt → Asking
  | lp => Console.lp
  | ls => Console.ls
  | ps => Console.ps

/-- The smallest number of the range that is announced. -/
def low : Prompt → Nat
  | lp | ps => 0
  | ls => 1

/-- The largest number of the range that is announced. -/
def high : Prompt → Nat
  | lp => maxPatterns
  | ls => maxDelay
  | ps => 127

/-- **The range is the one printed** in front of the first line. -/
theorem announce_eq (prompt : Prompt) : prompt.asking.announce.getLast? =
    some (info ++ ascii "enter number between " ++ decimal prompt.low ++ ascii " and " ++
      decimal prompt.high) := by
  cases prompt <;> decide

end Prompt

/-! ### Lines typed at the prompts -/

/-- The lights and the command that waits for a line. `printed` has what the last event printed, and
`called` the call it made. -/
structure Terminal where
  leds : Leds
  waiting : Option Prompt
  printed : List (List UInt8)
  called : Option Setter

/-- What happens at the console: a command starts, a line is ready in `UART_LINE`, given as the
memory from there on, or the main loop comes round and leaves the lights in some state. -/
inductive TerminalEvent where
  | command (prompt : Prompt)
  | line (uartLine : List UInt8) (transferred : Bool)
  | elsewhere (leds : Leds)

/-- `atoi (UART_LINE)`, as it is stored into eight bits. -/
def readNumber (uartLine : List UInt8) : UInt8 := UInt8.ofInt (atoi uartLine)

/-- The test of a command. -/
def Prompt.passes (prompt : Prompt) (number : UInt8) : Bool := number.toNat ≤ prompt.asking.limit

/-- A round of the loop of a command. A line that passes the test ends the command. -/
def answer (prompt : Prompt) (uartLine : List UInt8) (transferred : Bool) (terminal : Terminal) :
    Terminal :=
  let number := readNumber uartLine
  if prompt.passes number then
    let call := prompt.asking.call number terminal.leds
    let leds := call.run transferred terminal.leds
    { leds
      waiting := none
      printed := prompt.asking.report transferred number leds
      called := some call }
  else { terminal with printed := [prompt.asking.refuse], called := none }

/-- A step of the console. While a command waits, the main loop does nothing else. -/
def terminalStep (terminal : Terminal) : TerminalEvent → Terminal
  | .command prompt =>
      match terminal.waiting with
      | none =>
          { leds := prompt.asking.prepare terminal.leds
            waiting := some prompt
            printed := prompt.asking.announce
            called := none }
      | some _ => terminal
  | .line uartLine transferred =>
      match terminal.waiting with
      | none => terminal
      | some prompt => answer prompt uartLine transferred terminal
  | .elsewhere leds =>
      match terminal.waiting with
      | none => { terminal with leds }
      | some _ => terminal

namespace Prompt

/-- The number that a call sets for a command. -/
def argument : Prompt → Setter → Option Int
  | lp, .setLedPattern no _ _ => some no.toNat
  | ls, .setLedPattern _ delay _ => some delay
  | ps, .setBrightness bri => some bri.toNat
  | lp, .setBrightness _ | ls, .setBrightness _ | ps, .setLedPattern .. => none

/-- The setting that a command is for. -/
def setting : Prompt → Leds → Int
  | lp, leds => leds.ledPattern.toNat
  | ls, leds => leds.milliDelay
  | ps, leds => (getBrightness leds).toNat

end Prompt

/-- A number is of the range announced, it is the one given to the call and the one set, and the
settings that the command is not for are left. The delay that `lp` sets besides is not among them
(`LeavesDelay`). -/
structure Honoured (prompt : Prompt) (number : Int) (before : Leds) (after : Terminal) : Prop where
  low : prompt.low ≤ number
  high : number ≤ prompt.high
  called : after.called.bind prompt.argument = some number
  set : prompt.setting after.leds = number
  pattern : prompt ≠ .lp → after.leds.ledPattern = before.ledPattern
  delay : prompt = .ps → after.leds.milliDelay = before.milliDelay
  brightness : prompt ≠ .ps → getBrightness after.leds = getBrightness before

/-- A line that is taken has its number honoured. -/
def HonoursLine (terminal : Terminal) : TerminalEvent → Prop
  | .line uartLine transferred => ∀ prompt ∈ terminal.waiting,
      (terminalStep terminal (.line uartLine transferred)).waiting = none →
        Honoured prompt (atoi uartLine) terminal.leds
          (terminalStep terminal (.line uartLine transferred))
  | .command _ | .elsewhere _ => True

/-- A number that the test lets pass is none that was cut for it. The delay fits into eight bits and
is not zero, and pattern 0 runs already. -/
def Prompt.Serves (leds : Leds) (number : Int) : Prompt → Prop
  | lp => UInt8.ofInt number ≤ 5 → 0 ≤ number ∧ number ≤ 5
  | ls => (1 ≤ number ∧ number ≤ 255) ∧ leds.ledPattern = 0
  | ps => UInt8.ofInt number ≤ 0x7f → 0 ≤ number ∧ number ≤ 0x7f

/-- The line serves the command that waits. -/
def ServesLine (terminal : Terminal) : TerminalEvent → Prop
  | .line uartLine _ => ∀ prompt ∈ terminal.waiting,
      prompt.Serves terminal.leds (atoi uartLine)
  | .command _ | .elsewhere _ => True

section Lines

variable {terminal : Terminal} {prompt : Prompt}

/-- A number is what eight bits leave of it exactly if they hold it. -/
theorem toNat_ofInt_eq_iff (number : Int) :
    ((UInt8.ofInt number).toNat : Int) = number ↔ 0 ≤ number ∧ number ≤ 255 := by
  have byte : (UInt8.ofInt number).toNat = (number % 256).toNat % 256 := rfl
  rw [byte]
  omega

/-- Where the numbers that pass are bytes of the range, a number that passes was not cut exactly if it
is one of them. -/
theorem uncut_iff {limit high : Nat} (inRange : limit ≤ high) (byte : limit ≤ 255) (number : Int) :
    ((UInt8.ofInt number).toNat ≤ limit →
        (0 ≤ number ∧ number ≤ high) ∧ ((UInt8.ofInt number).toNat : Int) = number) ↔
      ((UInt8.ofInt number).toNat ≤ limit → 0 ≤ number ∧ number ≤ limit) := by
  have cut := toNat_ofInt_eq_iff number
  refine forall_congr' fun passes => ⟨fun ⟨_, whole⟩ => ?_, fun ⟨low, small⟩ => ?_⟩
  · omega
  · exact ⟨⟨low, by omega⟩, cut.mpr ⟨low, by omega⟩⟩

theorem terminalStep_line (waits : terminal.waiting = some prompt) (uartLine : List UInt8)
    (transferred : Bool) : terminalStep terminal (.line uartLine transferred) =
      answer prompt uartLine transferred terminal := by
  rw [terminalStep, waits]

/-- **A line that passes the test** ends the command with its call. -/
theorem answer_taken {uartLine : List UInt8} (passes : prompt.passes (readNumber uartLine) = true)
    (transferred : Bool) (terminal : Terminal) :
    answer prompt uartLine transferred terminal =
      let number := readNumber uartLine
      let call := prompt.asking.call number terminal.leds
      let leds := call.run transferred terminal.leds
      ⟨leds, none, prompt.asking.report transferred number leds, some call⟩ :=
  if_pos passes

/-- A line that passes the test is taken, and no other is. -/
theorem taken_iff (waits : terminal.waiting = some prompt) (uartLine : List UInt8)
    (transferred : Bool) : (terminalStep terminal (.line uartLine transferred)).waiting = none ↔
      prompt.passes (readNumber uartLine) = true := by
  rw [terminalStep_line waits]
  by_cases passes : prompt.passes (readNumber uartLine) = true
  · rw [answer_taken passes]
    exact iff_of_true rfl passes
  · rw [answer]
    dsimp only
    rw [if_neg passes]
    exact iff_of_false (fun none => nomatch waits.symm.trans none) passes

/-- The pattern, the delay and the brightness that a command leaves for a number it takes. -/
def Prompt.settings (number : UInt8) (leds : Leds) : Prompt → UInt8 × Nat × UInt8
  | lp => (number, 250, leds.brightness)
  | ls => (0, if number.toNat ≠ 0 then number.toNat else leds.milliDelay, leds.brightness)
  | ps => (leds.ledPattern, leds.milliDelay, number)

/-- **What a command sets.** -/
theorem getLedPattern_run (prompt : Prompt) (transferred : Bool) (number : UInt8) (leds : Leds) :
    getLedPattern ((prompt.asking.call number leds).run transferred leds) =
      prompt.settings number leds := by
  cases prompt with
  | lp =>
      refine (getLedPattern_setLedPattern transferred number 250 leds.brightness leds).trans ?_
      rw [ite_self]
      rfl
  | ls =>
      refine (getLedPattern_setLedPattern transferred 0 number.toNat leds.brightness leds).trans ?_
      rw [ite_self]
      rfl
  | ps => cases transferred <;> rfl

/-- The setting that a command is for becomes the number, unless `ls` is given a zero. -/
theorem setting_run {number : UInt8} (nonzero : prompt = .ls → number.toNat ≠ 0)
    (transferred : Bool) (leds : Leds) :
    prompt.setting ((prompt.asking.call number leds).run transferred leds) = number.toNat := by
  have after := getLedPattern_run prompt transferred number leds
  generalize (prompt.asking.call number leds).run transferred leds = set at after
  cases prompt with
  | lp => exact congrArg (fun settings : UInt8 × Nat × UInt8 => (settings.1.toNat : Int)) after
  | ls => exact congrArg Nat.cast ((congrArg (·.2.1) after).trans (if_pos (nonzero rfl)))
  | ps => exact congrArg (fun settings : UInt8 × Nat × UInt8 => (settings.2.2.toNat : Int)) after

/-- A number that passes the test is honoured exactly if it is of the range and none was cut off, and
for `ls` pattern 0 was selected before. -/
theorem honoured_answer {uartLine : List UInt8}
    (passes : prompt.passes (readNumber uartLine) = true) (transferred : Bool) :
    Honoured prompt (atoi uartLine) terminal.leds (answer prompt uartLine transferred terminal) ↔
      ((prompt.low ≤ atoi uartLine ∧ atoi uartLine ≤ prompt.high) ∧
        ((readNumber uartLine).toNat : Int) = atoi uartLine) ∧
        (prompt = .ls → terminal.leds.ledPattern = 0) := by
  rw [answer_taken passes]
  generalize readNumber uartLine = number
  have after := getLedPattern_run prompt transferred number terminal.leds
  have called : prompt.argument (prompt.asking.call number terminal.leds) =
      some (number.toNat : Int) := by
    cases prompt <;> rfl
  refine ⟨fun honoured => ⟨⟨⟨honoured.low, honoured.high⟩, ?_⟩, fun same => ?_⟩,
    fun ⟨⟨⟨low, high⟩, whole⟩, off⟩ =>
      ⟨low, high, called.trans (congrArg some whole), ?_, ?_, ?_, ?_⟩⟩
  · exact Option.some.inj (called.symm.trans honoured.called)
  · subst same
    exact (honoured.pattern nofun).symm.trans (congrArg Prod.fst after)
  · refine (setting_run (fun same => ?_) transferred terminal.leds).trans whole
    subst same
    have positive : (1 : Int) ≤ atoi uartLine := low
    omega
  · intro other
    cases prompt with
    | lp => exact absurd rfl other
    | ls => exact (congrArg Prod.fst after).trans (off rfl).symm
    | ps => exact congrArg Prod.fst after
  · intro same
    subst same
    exact congrArg (·.2.1) after
  · intro other
    cases prompt with
    | lp | ls => exact congrArg (·.2.2) after
    | ps => exact absurd rfl other

/-- A number is honoured exactly if it serves the command. -/
theorem honoured_iff (waits : terminal.waiting = some prompt) (uartLine : List UInt8)
    (transferred : Bool) :
    ((terminalStep terminal (.line uartLine transferred)).waiting = none →
        Honoured prompt (atoi uartLine) terminal.leds
          (terminalStep terminal (.line uartLine transferred))) ↔
      prompt.Serves terminal.leds (atoi uartLine) := by
  rw [taken_iff waits, terminalStep_line waits,
    forall_congr fun passes => propext (honoured_answer passes transferred),
    readNumber, Prompt.passes, decide_eq_true_iff]
  generalize atoi uartLine = number
  cases prompt with
  | lp =>
      refine Iff.trans ?_ (uncut_iff (show 5 ≤ maxPatterns by decide) (by decide) number)
      exact forall_congr' fun _ => and_iff_left fun none => nomatch none
  | ps =>
      refine Iff.trans ?_ (uncut_iff (show 127 ≤ 127 by decide) (by decide) number)
      exact forall_congr' fun _ => and_iff_left fun none => nomatch none
  | ls =>
      have cut := toNat_ofInt_eq_iff number
      have byte := UInt8.toNat_lt (UInt8.ofInt number)
      -- eight bits cannot exceed the limit, so that every line passes
      have passes : (UInt8.ofInt number).toNat ≤ 1024 := by omega
      refine (forall_prop_of_true passes).trans
        (and_congr ⟨fun ⟨⟨low, _⟩, whole⟩ => ?_, fun ⟨low, high⟩ => ?_⟩ (forall_prop_of_true rfl))
      · exact ⟨low, (cut.mp whole).2⟩
      · exact ⟨⟨low, by show number ≤ 1024; omega⟩, cut.mpr ⟨by omega, high⟩⟩

end Lines

/-- `lp` leaves the delay. -/
def LeavesDelay (terminal : Terminal) : TerminalEvent → Prop
  | .line uartLine transferred => terminal.waiting = some .lp →
      (terminalStep terminal (.line uartLine transferred)).waiting = none →
        (terminalStep terminal (.line uartLine transferred)).leds.milliDelay =
          terminal.leds.milliDelay
  | .command _ | .elsewhere _ => True

/-- The delay is the one of `lp` when that takes a line. -/
def DelayOfLp (terminal : Terminal) : TerminalEvent → Prop
  | .line uartLine _ => terminal.waiting = some .lp → readNumber uartLine ≤ 5 →
      terminal.leds.milliDelay = 250
  | .command _ | .elsewhere _ => True

theorem honoursLine_iff (terminal : Terminal) (event : TerminalEvent) :
    HonoursLine terminal event ↔ ServesLine terminal event := by
  cases event with
  | command prompt => exact Iff.rfl
  | elsewhere leds => exact Iff.rfl
  | line uartLine transferred =>
      exact forall₂_congr fun prompt waits => honoured_iff waits uartLine transferred

theorem leavesDelay_iff (terminal : Terminal) (event : TerminalEvent) :
    LeavesDelay terminal event ↔ DelayOfLp terminal event := by
  cases event with
  | command prompt => exact Iff.rfl
  | elsewhere leds => exact Iff.rfl
  | line uartLine transferred =>
      refine forall_congr' fun waits => ?_
      have passes : Prompt.lp.passes (readNumber uartLine) = true ↔ readNumber uartLine ≤ 5 :=
        decide_eq_true_iff
      rw [taken_iff waits, passes]
      refine forall_congr' fun small => ?_
      have after := getLedPattern_run .lp transferred (readNumber uartLine) terminal.leds
      have delay := congrArg (·.2.1) after
      rw [terminalStep_line waits, answer_taken (passes.mpr small)]
      exact (Eq.congr_left delay).trans eq_comm

/-- **What is typed is set**, in the range announced and as it was typed, exactly in the runs in which
every line serves the command it is typed for; and `lp` leaves the delay exactly in those in which
the delay is the one it sets. -/
theorem prompts_iff (start : Terminal) (events : List TerminalEvent) :
    (Along terminalStep HonoursLine start events ↔ Along terminalStep ServesLine start events) ∧
      (Along terminalStep LeavesDelay start events ↔ Along terminalStep DelayOfLp start events) :=
  ⟨along_congr honoursLine_iff events start, along_congr leavesDelay_iff events start⟩

/-- **256, and a delay.** `lp` takes 256 as pattern 0, and `ls` turns a running pattern off. -/
theorem prompts_cut_and_off :
    ¬ Along terminalStep HonoursLine ⟨Leds.initial, none, [], none⟩
        [.command .lp, .line (ascii "256") true] ∧
      ¬ Along terminalStep HonoursLine ⟨{ Leds.initial with ledPattern := 3 }, none, [], none⟩
        [.command .ls, .line (ascii "20") true] := by
  refine ⟨fun ⟨_, line, _⟩ => ?_, fun ⟨_, line, _⟩ => ?_⟩
  · exact absurd (line .lp rfl rfl).high (by decide)
  · exact absurd ((line .ls rfl rfl).pattern nofun) (by decide)

end EquinoxClock.Console
