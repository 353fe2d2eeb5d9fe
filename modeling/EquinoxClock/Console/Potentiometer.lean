/-
The brightness, and what the potentiometer was last set to.

`SetBrightness` keeps the value it is given before `setPot` has brought it into the range from 1 to
127 and before the transfer has succeeded or failed. The result of the transfer is a `Status`, and
where `p` and `ps` look for a failure, `ERROR` is the letter that `canlib.h` makes of it, which no
result equals. `brightness_and_reports_iff` says in which runs the value kept is the one written, and
every failure is reported.
-/

import EquinoxClock.Console.Prompts
import EquinoxClock.Lib.Hex
import Mathlib.Data.Bool.AllAny

namespace EquinoxClock.Console

open EquinoxClock.Lib EquinoxClock.Led

/-! ### What was written last -/

/-- A value brought into the range of the potentiometer. -/
def clamped (pot : UInt8) : UInt8 := max 1 (min pot 127)

/-- A value of the range stays as it is, and no other does. -/
theorem clamped_eq_iff : ∀ pot : UInt8, clamped pot = pot ↔ 1 ≤ pot ∧ pot ≤ 127 :=
  forall_byte (by decide +kernel)

/-- **`setPot`** writes the value brought into the range, if the transfer succeeds. -/
theorem setPot_eq (transferred : Bool) (pot : UInt8) (leds : Leds) :
    setPot transferred pot leds =
      (transferred, if transferred then { leds with pot := clamped pot } else leds) := by
  have range : ∀ pot : UInt8, (let pot := if pot > 0x7f then 0x7f else pot
      if pot < 0x01 then 0x01 else pot) = clamped pot := forall_byte (by decide +kernel)
  rw [← range, setPot]

/-- A call of `SetBrightness`, with the result of its transfer. -/
structure BrightnessCall where
  bri : UInt8
  transferred : Bool

/-- The lights, and the value last written to the potentiometer, if any was. -/
structure Written where
  leds : Leds
  last : Option UInt8

/-- A call of `SetBrightness`. -/
def writtenStep (written : Written) (call : BrightnessCall) : Written where
  leds := (setBrightness call.transferred call.bri written.leds).2
  last := if call.transferred then some (clamped call.bri) else written.last

/-- `GetBrightness` gives what was written last. -/
def Cached (written : Written) : Prop := ∀ value ∈ written.last, getBrightness written.leds = value

/-- A value that is written is of the range, and one that is not is the one written last. -/
def KeepsCached (written : Written) (call : BrightnessCall) : Prop :=
  if call.transferred then 1 ≤ call.bri ∧ call.bri ≤ 127
  else ∀ value ∈ written.last, call.bri = value

theorem setBrightness_eq (transferred : Bool) (bri : UInt8) (leds : Leds) :
    setBrightness transferred bri leds = (transferred, { leds with
      brightness := bri, pot := if transferred then clamped bri else leds.pot }) := by
  rw [setBrightness, setPot_eq]
  cases transferred <;> rfl

/-- The potentiometer holds what was written last. -/
theorem pot_of_last (calls : List BrightnessCall) (leds : Leds) :
    ∀ value ∈ (run writtenStep ⟨leds, none⟩ calls).last,
      (run writtenStep ⟨leds, none⟩ calls).leds.pot = value := by
  refine @run_invariant _ _ writtenStep (fun _ _ => True)
    (fun written => ∀ value ∈ written.last, written.leds.pot = value)
    (fun written call holds _ => ?_) calls ⟨leds, none⟩ (fun _ none => nomatch none)
    (along_trivial calls _)
  simp only [writtenStep, setBrightness_eq]
  cases call.transferred with
  | true => exact fun value last => Option.some.inj last
  | false => exact holds

/-- **A call** keeps what was written last exactly if it meets the condition. -/
theorem cached_step (written : Written) (call : BrightnessCall) :
    Cached (writtenStep written call) ↔ KeepsCached written call := by
  simp only [Cached, KeepsCached, writtenStep, setBrightness_eq, getBrightness]
  cases call.transferred with
  | true =>
      rw [if_pos rfl, if_pos rfl, ← clamped_eq_iff]
      refine ⟨fun cached => (cached _ rfl).symm, fun same value last => ?_⟩
      rw [← Option.some.inj last, same]
  | false => exact Iff.rfl

/-! ### What is reported -/

/-- No result of a transfer is the letter. -/
theorem status_ne_error (transferred : Bool) : status transferred ≠ error := by
  cases transferred <;> decide

/-- A line of information is no report of a failure. -/
theorem info_ne_failed (str : List UInt8) (arp : List Arg) :
    xprintf (info ++ str) arp ≠ failedToSetPot := by
  have plainInfo : ∀ c ∈ info, c ≠ 0 ∧ c ≠ 0x25 ∧ c ≠ 10 :=
    List.all_iff_forall_prop.mp (by decide)
  have plainErr : ∀ c ∈ err, c ≠ 0 ∧ c ≠ 0x25 ∧ c ≠ 10 :=
    List.all_iff_forall_prop.mp (by decide)
  rw [failedToSetPot, xprintf_append plainInfo, xprintf_append plainErr]
  intro same
  have second : some (73 : UInt8) = some 69 := congrArg (·[1]?) same
  exact absurd second (by decide)

/-- A call of `setPot` by `p`: the result of its transfer, and what is printed for it. -/
structure PotCall where
  transferred : Bool
  printed : List (List UInt8)

/-- The loop of `p`, with some rounds left: its calls, and the lights. The results of the transfers
are given for each value of `pot`, and so is what `readPot` finds after it. -/
def setPots (transferred : UInt8 → Bool) (readPot : UInt8 → UInt8) :
    (rounds : Nat) → (pot : UInt8) → Leds → List PotCall × Leds
  | 0, _, leds => ([], leds)
  | rounds + 1, pot, leds =>
      let setting := xprintf (info ++ ascii "setting pot to 0x%x") [.int pot.toNat]
      let (result, leds) := setPot (transferred pot) pot leds
      if status result = error then ([⟨result, [setting, failedToSetPot]⟩], leds)
      else
        let verify := xprintf (info ++ ascii "(verify) pot=0x%x") [.int (readPot pot).toNat]
        let (calls, leds) := setPots transferred readPot rounds (pot + 1) leds
        (⟨result, [setting, verify]⟩ :: calls, leds)

/-- `p`. -/
def p (transferred : UInt8 → Bool) (readPot : UInt8 → UInt8) (leds : Leds) :
    List PotCall × Leds :=
  setPots transferred readPot 128 0 leds

/-- A failure is reported for a call exactly if its transfer failed. -/
def PotCall.Reported (call : PotCall) : Prop :=
  failedToSetPot ∈ call.printed ↔ call.transferred = false

/-- Information alone reports no failure. -/
theorem failed_not_mem_info (first second : List UInt8) (args args' : List Arg) :
    failedToSetPot ∉ [xprintf (info ++ first) args, xprintf (info ++ second) args'] := by
  simp only [List.mem_cons, List.not_mem_nil, or_false, not_or]
  exact ⟨(info_ne_failed _ _).symm, (info_ne_failed _ _).symm⟩

/-- Where only information is printed, no transfer may have failed. -/
theorem reported_of_info {result : Bool} {first second : List UInt8} {args args' : List Arg} :
    (PotCall.mk result [xprintf (info ++ first) args, xprintf (info ++ second) args']).Reported ↔
      result = true := by
  rw [PotCall.Reported, iff_false_left (failed_not_mem_info first second args args'),
    Bool.not_eq_false]

/-- **The loop of `p`** reports nothing and runs to its end, by induction on its rounds. -/
theorem setPots_reported (transferred : UInt8 → Bool) (readPot : UInt8 → UInt8) (rounds : Nat) :
    ∀ (pot : UInt8) (leds : Leds),
      (∀ call ∈ (setPots transferred readPot rounds pot leds).1, call.Reported) ↔
        ∀ round < rounds, transferred (pot + UInt8.ofNat round) = true := by
  induction rounds with
  | zero => exact fun _ _ => iff_of_true (fun _ none => nomatch none) fun _ none => nomatch none
  | succ rounds ih =>
      intro pot leds
      rw [setPots, setPot_eq]
      dsimp only
      rw [if_neg (status_ne_error _), List.forall_mem_cons, reported_of_info, ih,
        Nat.forall_lt_succ_left]
      have next : ∀ round, pot + 1 + UInt8.ofNat round = pot + UInt8.ofNat (round + 1) := by
        intro round
        rw [UInt8.add_assoc, UInt8.add_comm 1, UInt8.ofNat_add]
        rfl
      refine and_congr ?_ (forall₂_congr fun round _ => by rw [next])
      rw [show pot + UInt8.ofNat 0 = pot from UInt8.add_zero pot]

/-- **`p`** reports every failure exactly if there is none. -/
theorem p_reported_iff (transferred : UInt8 → Bool) (readPot : UInt8 → UInt8) (leds : Leds) :
    (∀ call ∈ (p transferred readPot leds).1, call.Reported) ↔
      ∀ pot < 128, transferred pot = true := by
  rw [p, setPots_reported]
  refine ⟨fun all pot below => ?_, fun all round below => ?_⟩
  · have found := all pot.toNat (UInt8.lt_iff_toNat_lt.mp below)
    rwa [UInt8.zero_add, UInt8.ofNat_toNat] at found
  · refine all _ (UInt8.lt_iff_toNat_lt.mpr ?_)
    rw [UInt8.zero_add, UInt8.toNat_ofNat_of_lt' (below.trans (by decide))]
    exact below

/-- A line that `ps` takes is reported as a failure exactly if its transfer failed. -/
def ReportsFailure (terminal : Terminal) : TerminalEvent → Prop
  | .line uartLine transferred =>
      let after := terminalStep terminal (.line uartLine transferred)
      terminal.waiting = some .ps → after.waiting = none →
        (failedToSetPot ∈ after.printed ↔ transferred = false)
  | .command _ | .elsewhere _ => True

/-- The transfer succeeds for a line that `ps` takes. -/
def Transfers (terminal : Terminal) : TerminalEvent → Prop
  | .line uartLine transferred =>
      terminal.waiting = some .ps → readNumber uartLine ≤ 0x7f → transferred = true
  | .command _ | .elsewhere _ => True

/-- **`ps`** reports no failure. -/
theorem ps_report (transferred : Bool) (pot : UInt8) (after : Leds) :
    failedToSetPot ∉ ps.report transferred pot after := by
  have report : ps.report transferred pot after =
      [xprintf (info ++ ascii "setting pot to 0x%x(%d)") [.int pot.toNat, .int pot.toNat],
        xprintf (info ++ ascii "(verify) pot=0x%x(%d)")
          [.int (getBrightness after).toNat, .int (getBrightness after).toNat]] := by
    rw [ps]
    dsimp only
    rw [if_neg (status_ne_error transferred)]
    rfl
  rw [report]
  exact failed_not_mem_info _ _ _ _

theorem reports_step (terminal : Terminal) (event : TerminalEvent) :
    ReportsFailure terminal event ↔ Transfers terminal event := by
  cases event with
  | command prompt => exact Iff.rfl
  | elsewhere leds => exact Iff.rfl
  | line uartLine transferred =>
      refine forall_congr' fun waits => ?_
      have taken := taken_iff waits uartLine transferred
      have passes : Prompt.ps.passes (readNumber uartLine) = true ↔ readNumber uartLine ≤ 0x7f :=
        decide_eq_true_iff
      rw [taken, passes]
      refine forall_congr' fun small => ?_
      rw [terminalStep_line waits, answer_taken (passes.mpr small)]
      exact (iff_false_left (ps_report _ _ _)).trans (iff_of_eq (Bool.not_eq_false _))

/-- **The brightness and the reports.** `GetBrightness` gives what was last written exactly in the
runs in which each value written is of the range, and each that is not is the one last written; and
failures are reported exactly if there are none. -/
theorem brightness_and_reports_iff (start : Written) (calls : List BrightnessCall)
    (transferred : UInt8 → Bool) (readPot : UInt8 → UInt8) (leds : Leds) (terminal : Terminal)
    (events : List TerminalEvent) :
    (Along writtenStep (fun written call => Cached (writtenStep written call)) start calls ↔
        Along writtenStep KeepsCached start calls) ∧
      ((∀ call ∈ (p transferred readPot leds).1, call.Reported) ↔
        ∀ pot < 128, transferred pot = true) ∧
      (Along terminalStep ReportsFailure terminal events ↔
        Along terminalStep Transfers terminal events) :=
  ⟨along_congr cached_step calls start, p_reported_iff transferred readPot leds,
    along_congr reports_step events terminal⟩

/-- **A brightness of zero, and failures.** Zero is kept, but one is written; `p` and `ps` say nothing
of a transfer that failed. -/
theorem brightness_zero_and_silence :
    ¬ Along writtenStep (fun written call => Cached (writtenStep written call)) ⟨Leds.initial, none⟩
        [⟨0, true⟩] ∧
      ¬ (∀ call ∈ (p (fun pot => pot != 0) id Leds.initial).1, call.Reported) ∧
      ¬ Along terminalStep ReportsFailure ⟨Leds.initial, none, [], none⟩
        [.command .ps, .line (ascii "5") false] := by
  refine ⟨fun ⟨cached, _⟩ => ?_, fun all => ?_, fun ⟨_, line, _⟩ => ?_⟩
  · exact absurd (cached 1 rfl) (by decide)
  · exact absurd ((p_reported_iff ..).mp all 0 (by decide)) (by decide)
  · exact absurd ((line rfl rfl).mpr rfl) (by decide)

end EquinoxClock.Console
