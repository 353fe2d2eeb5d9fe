/-
Messages printed, and read back.

`printMessage` prints a message in the form of a command line. Its numbers go through `xprintf`,
which writes capital digits and fills up with zeros; `execUsartCmd` converts the characters one by
one. What is printed for a standard data frame is the text of that frame (`frameText_print`), so the
line given back as a command makes the same frame.
-/

import EquinoxClock.Can.Command

namespace EquinoxClock.Can

open EquinoxClock.Console EquinoxClock.Lib

/-- The identifiers that are not printed. -/
def ignored : List Nat := [0x521, 0x0A9, 0x4A9, 0x3CF, 0x3DF, 0x1C1, 0x5C1, 0x1B1, 0x5B1]

/-- A word passed on as a signed number. -/
def word (n : Nat) : Arg := .int ((n : Int).bmod (2 ^ 32))

/-- The loop over the data of `PrintMessage`. -/
def printData (msg : CanMsgType) : List UInt8 :=
  (List.range msg.len.toNat).flatMap fun i => xprintf (ascii "%02x") [word (msg.byteAt i).toNat]

/-- `PrintMessage`, with `ram_timestamp_status` and `sys_millis()`, as the characters given to
`comm_put`. -/
def printMessage (ramTimestampStatus : UInt8) (sysMillis : Nat) (msg : CanMsgType) : List UInt8 :=
  if msg.id ∈ ignored then []
  else
    let tag : UInt8 :=
      if msg.format = stdIdFormat then if msg.type = dataFrame then 0x74 else 0x72
      else if msg.type = dataFrame then 0x54 else 0x52
    tag :: xprintf (ascii "%03x") [word msg.id] ++ [msg.len + 0x30] ++
      (if msg.type = dataFrame then printData msg else []) ++
      (if ramTimestampStatus ≠ 0 then xprintf (ascii "%03x") [word sysMillis] else []) ++
      xprintf (ascii "\r\n") []

/-! ### Printed digits -/

/-- A word is printed with as many hexadecimal digits as the format asks for. -/
theorem xprintf_word (w : UInt8) (width : 49 ≤ w.toNat ∧ w.toNat ≤ 57) {n : Nat}
    (fits : n < 16 ^ (w.toNat - 48)) (small : n < 2 ^ 32) :
    xprintf [0x25, 0x30, w, 0x78] [word n] = numeral 16 (w.toNat - 48) n := by
  have value : ((n : Int).bmod (2 ^ 32) % 2 ^ 32).toNat = n := by
    have residue : (n : Int).bmod (2 ^ 32) % 2 ^ 32 = n % 2 ^ 32 := Int.bmod_emod
    rw [residue, Int.emod_eq_of_lt (Int.natCast_nonneg n) (by omega)]
    exact Int.toNat_natCast n
  have printed := @xitoa_filled ((n : Int).bmod (2 ^ 32)) 16 (w.toNat - 48) (by decide) (by decide)
    (value.symm ▸ fits) (by omega) (by omega)
  rw [value] at printed
  exact (xprintf_hex w width _).trans printed

theorem digit_lastDigit (v : Nat) : digit 16 (lastDigit 16 v) = some (v % 16) := by
  have digits : ∀ d < 16, digit 16 (lastDigit 16 d) = some d := by decide
  have last := digits (v % 16) (Nat.mod_lt v (by decide))
  rwa [lastDigit, Nat.mod_mod] at last

/-- The data are printed as pairs of digits. -/
theorem pairs_printed (data : List UInt8) :
    Pairs (data.flatMap fun byte => numeral 16 2 byte.toNat) data := by
  induction data with
  | nil => exact .nil
  | cons byte data ih =>
      have small := byte.toNat_lt
      have pair := Pairs.cons (digit_lastDigit (byte.toNat / 16 ^ 1))
        (digit_lastDigit (byte.toNat / 16 ^ 0)) ih
      have value : 16 * (byte.toNat / 16 ^ 1 % 16) + byte.toNat / 16 ^ 0 % 16 = byte.toNat := by
        omega
      rw [value, UInt8.ofNat_toNat] at pair
      exact pair

/-! ### The line of a frame -/

/-- The data bytes of a message. -/
def CanMsgType.data (msg : CanMsgType) : List UInt8 := (List.range msg.len.toNat).map msg.byteAt

theorem CanMsgType.length_data (msg : CanMsgType) : msg.data.length = msg.len.toNat := by
  rw [CanMsgType.data, List.length_map, List.length_range]

/-- What `PrintMessage` prints behind the `t`. -/
def printedText (msg : CanMsgType) : List UInt8 :=
  numeral 16 3 msg.id ++ [msg.len + 0x30] ++ msg.data.flatMap fun byte => numeral 16 2 byte.toNat

section Frame

variable {msg : CanMsgType} (format : msg.format = stdIdFormat) (type : msg.type = dataFrame)
  (small : msg.id ≤ 0x7FF) (shown : msg.id ∉ ignored) (short : msg.len.toNat ≤ 8)

include small short in
/-- **A message is printed as the text of its frame.** -/
theorem frameText_print : FrameText (printedText msg) msg.id msg.data := by
  have length := msg.length_data
  have value : 256 * (msg.id / 16 ^ 2 % 16) + 16 * (msg.id / 16 ^ 1 % 16) + msg.id / 16 ^ 0 % 16 =
      msg.id := by omega
  have count : (msg.len + 0x30).toNat = 48 + msg.data.length := by
    rw [length, UInt8.toNat_add, Nat.add_comm]
    exact Nat.mod_eq_of_lt (by show 48 + msg.len.toNat < 256; omega)
  have frame := FrameText.intro (digit_lastDigit (msg.id / 16 ^ 2))
    (digit_lastDigit (msg.id / 16 ^ 1)) (digit_lastDigit (msg.id / 16 ^ 0)) (value.symm ▸ small)
    count (length.symm ▸ short) (pairs_printed msg.data)
  rw [value] at frame
  exact frame

include format type small shown in
/-- The line, with its end. -/
theorem printMessage_eq (sysMillis : Nat) : printMessage 0 sysMillis msg =
    0x74 :: printedText msg ++ xprintf (ascii "\r\n") [] := by
  have id : xprintf (ascii "%03x") [word msg.id] = numeral 16 3 msg.id :=
    xprintf_word 51 (by decide) (by show msg.id < 4096; omega) (by omega)
  have data : printData msg = msg.data.flatMap fun byte => numeral 16 2 byte.toNat := by
    rw [printData, CanMsgType.data, List.flatMap_map]
    refine List.flatMap_congr fun i _ => ?_
    have byte := (msg.byteAt i).toNat_lt
    exact xprintf_word 50 (by decide) (by show _ < 256; omega) (by omega)
  rw [printMessage, if_neg shown, format, type, id, data]
  simp only [if_true, ne_eq, not_true_eq_false, if_false, List.append_nil, printedText,
    List.cons_append, List.append_assoc]

include format type small shown short in
/-- **A message printed and given back** as a command, wherever the line stands in memory, is
accepted, and makes `TXMsg` the same frame. -/
theorem print_exec {bus : Bus} (on : bus.on = true) (idle : bus.txIdle = true) (sysMillis : Nat)
    (behind : List UInt8) (adapter : Adapter) :
    ∃ line, printMessage 0 sysMillis msg = line ++ xprintf (ascii "\r\n") [] ∧
      let result := execUsartCmd bus (line ++ 0 :: behind) adapter
      result.1 = (if bus.accepts then .cr else .error) ∧
      result.2.given = adapter.given ++ [result.2.txMsg] ∧
      result.2.txMsg.id = msg.id ∧ result.2.txMsg.format = msg.format ∧
      result.2.txMsg.type = msg.type ∧ result.2.txMsg.len = msg.len ∧
      ∀ index < msg.len.toNat, result.2.txMsg.byteAt index = msg.byteAt index := by
  obtain ⟨accepted, -, id, data⟩ := (frameText_print small short).accepted
  refine ⟨0x74 :: printedText msg, printMessage_eq format type small shown sysMillis, ?_⟩
  have noNul : ∀ c ∈ 0x74 :: printedText msg, c ≠ 0 := by
    refine List.forall_mem_cons.mpr ⟨by decide, fun c member zero => ?_⟩
    exact absurd (accepted.hex c member) (zero ▸ by decide)
  have command : cString (0x74 :: printedText msg ++ 0 :: behind) = 0x74 :: printedText msg :=
    cString_terminated behind noNul
  have carries := accepted.carries command adapter.txMsg
  rw [← id, ← data] at carries
  dsimp only
  rw [exec_accepted command accepted on idle]
  have length := msg.length_data
  refine ⟨rfl, rfl, carries.id, carries.format.trans format.symm, carries.type.trans type.symm,
    UInt8.toNat_inj.mp (carries.len.trans length), fun index within => ?_⟩
  refine (carries.data index (length.symm ▸ within)).trans ?_
  simp only [CanMsgType.data, List.getElem_map, List.getElem_range]

end Frame

/-- A message with five bytes. -/
def fiveBytes : CanMsgType where
  id := 0x00F
  dataA := ![0xA0, 0xB1, 0xC2, 0xD3]
  dataB := ![0xE4, 0, 0, 0]
  len := 5
  format := stdIdFormat
  type := dataFrame

example : printMessage 0 0 fiveBytes = ascii "t00F5A0B1C2D3E4\r\r\n" := by decide +kernel

theorem print_exec_five : ∃ line, printMessage 0 0 fiveBytes = line ++ xprintf (ascii "\r\n") [] ∧
    (execUsartCmd ⟨true, true, true⟩ (line ++ [0]) Adapter.initial).1 = .cr := by
  obtain ⟨line, printed, result, -⟩ := @print_exec fiveBytes rfl rfl (by decide) (by decide)
    (by decide) ⟨true, true, true⟩ rfl rfl 0 [] Adapter.initial
  exact ⟨line, printed, result⟩

end EquinoxClock.Can
