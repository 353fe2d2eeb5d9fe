/-
The commands of the CAN adapter.

`execUsartCmd` executes a command line. The command `t` puts a standard frame on the bus: three
digits of identifier, one for the number of bytes, and two for each byte. The code compares the
number of bytes with half the length of the line, which it keeps in eight bits, and it never looks
at the size of the identifier: `sendFrame_iff` says which lines it therefore misreads. `TXMsg` is
written while the line is still being checked (`txMsg_error`).
-/

import EquinoxClock.Console.TermIo
import EquinoxClock.Lib.Hex
import EquinoxClock.Lib.Loop
import EquinoxClock.Screen.Send

namespace EquinoxClock.Can

open EquinoxClock.Console EquinoxClock.Lib
open EquinoxClock.Screen (CanMsg Status)

/-! ### Messages -/

/-- `STD_ID_FORMAT`. -/
def stdIdFormat : UInt8 := 0

/-- `DATA_FRAME`. -/
def dataFrame : UInt8 := 0

/-- `CAN_MSG_Type`, with the fields that the display has no use for. -/
structure CanMsgType extends CanMsg where
  len : UInt8
  format : UInt8
  type : UInt8

/-- A data field has four bytes. -/
theorem neZero_four : NeZero 4 := ⟨Nat.succ_ne_zero 3⟩

attribute [local instance] neZero_four

/-- A byte of the two data fields. -/
def CanMsgType.byteAt (msg : CanMsgType) (index : Nat) : UInt8 :=
  if index < 4 then msg.dataA (Fin.ofNat 4 index) else msg.dataB (Fin.ofNat 4 (index - 4))

/-- A byte stored in one of the two data fields. -/
def CanMsgType.store (index : Nat) (byte : UInt8) (msg : CanMsgType) : CanMsgType :=
  if index < 4 then { msg with dataA := Function.update msg.dataA (Fin.ofNat 4 index) byte }
  else { msg with dataB := Function.update msg.dataB (Fin.ofNat 4 (index - 4)) byte }

/-- What the bus answers during a command: `CANBUS_ON`, `TX_IDLE`, and the result of `CAN_SendMsg`.
-/
structure Bus where
  on : Bool
  txIdle : Bool
  accepts : Bool

/-- The variables of the adapter: `TXMsg`, the messages given to `CAN_SendMsg`, and the characters
printed in answer to a command. -/
structure Adapter where
  txMsg : CanMsgType
  given : List CanMsgType
  printed : List UInt8

/-! ### Commands -/

/-- `ascii2byte`. -/
def ascii2byte (val : UInt8) : UInt8 :=
  let temp := if val > 0x60 then val - 0x27 else if val > 0x40 then val - 0x07 else val
  (temp - 0x30) &&& 0x0F

/-- Two digits of the line, read into a byte. -/
def readByte (cmdBuf : List UInt8) (place : Nat) : UInt8 :=
  (ascii2byte (cmdBuf.getD place 0) <<< 4) + ascii2byte (cmdBuf.getD (place + 1) 0)

/-- The three digits of the identifier. -/
def readId (cmdBuf : List UInt8) : Nat :=
  let id := (ascii2byte (cmdBuf.getD 1 0)).toNat
  let id := (id <<< 4) + (ascii2byte (cmdBuf.getD 2 0)).toNat
  (id <<< 4) + (ascii2byte (cmdBuf.getD 3 0)).toNat

/-- `CAN_SendMsg`, with `TXMsg`. -/
def canSendMsg (bus : Bus) (adapter : Adapter) : Status × Adapter :=
  (if bus.accepts then .cr else .error,
    { adapter with given := adapter.given ++ [adapter.txMsg] })

/-- `TXMsg` with the type, the format, the identifier and the length of the line. -/
def storeHeader (cmdBuf : List UInt8) (msg : CanMsgType) : CanMsgType :=
  { msg with
    type := dataFrame
    format := stdIdFormat
    id := readId cmdBuf
    len := ascii2byte (cmdBuf.getD 4 0) }

/-- The loop that stores the data. -/
def storeData (cmdBuf : List UInt8) (msg : CanMsgType) : CanMsgType :=
  Nat.fold msg.len.toNat (fun index _ msg => msg.store index (readByte cmdBuf (5 + 2 * index))) msg

/-- `case SEND_11BIT_ID`. -/
def send11BitId (bus : Bus) (cmdBuf : List UInt8) (cmdLen : Nat) (adapter : Adapter) :
    Status × Adapter :=
  if ¬ bus.on then (.error, adapter)
  else if ¬ bus.txIdle then (.error, adapter)
  else if cmdLen < 5 ∨ 21 < cmdLen then (.error, adapter)
  else
    let txMsg := storeHeader cmdBuf adapter.txMsg
    let adapter := { adapter with txMsg }
    if txMsg.len.toNat ≠ (cmdLen - 5) / 2 then (.error, adapter)
    else if txMsg.len.toNat > 8 then (.error, adapter)
    else canSendMsg bus { adapter with txMsg := storeData cmdBuf txMsg }

/-- An answer printed with `xprintf`. -/
def answer (characters : List UInt8) (adapter : Adapter) : Status × Adapter :=
  (.cr, { adapter with printed := adapter.printed ++ characters })

/-- `exec_usart_cmd`, on the memory from the start of the command line on. Of what it prints, the
answers are kept, and the explanations of errors left out. -/
def execUsartCmd (bus : Bus) (cmdBuf : List UInt8) (adapter : Adapter) : Status × Adapter :=
  let cmdLen := (cString cmdBuf).length % 2 ^ 8
  let letter := cmdBuf.headD 0
  if ¬ (cString cmdBuf.tail).all isxdigit then (.error, adapter)
  else if letter = 0x4E then
    answer (xprintf (ascii "%c%s") [.int 0x4E, .str (ascii "0001")]) adapter
  else if letter = 0x56 then
    answer (xprintf (ascii "%c%x%x") [.int 0x56, .int 0x99, .int 0x99]) adapter
  else if letter = 0x76 then
    answer (xprintf (ascii "%c%x%x") [.int 0x76, .int 0x01, .int 0x06]) adapter
  else if letter = 0x46 then
    if ¬ bus.on then (.error, adapter) else answer (xprintf (ascii "%c00") [.int 0x46]) adapter
  else if letter = 0x6D ∨ letter = 0x4D then
    if cmdLen ≠ 9 then (.error, adapter) else (.cr, adapter)
  else if letter = 0x74 then send11BitId bus cmdBuf cmdLen adapter
  else if letter ∈ ascii "ZsSOCrRTEAGWL" then (.cr, adapter)
  else (.error, adapter)

/-! ### The text of a frame -/

/-- Pairs of digits, and the bytes they write. -/
inductive Pairs : (text data : List UInt8) → Prop
  | nil : Pairs [] []
  | cons {high low : UInt8} {x y : Nat} {text data : List UInt8} (highDigit : digit 16 high = some x)
      (lowDigit : digit 16 low = some y) (rest : Pairs text data) :
      Pairs (high :: low :: text) (UInt8.ofNat (16 * x + y) :: data)

/-- The text of a frame: three digits of an identifier of eleven bits, the number of bytes, and a
pair of digits for each byte. -/
inductive FrameText : (text : List UInt8) → (id : Nat) → (data : List UInt8) → Prop
  | intro {a b c n : UInt8} {x y z : Nat} {text data : List UInt8} (first : digit 16 a = some x)
      (second : digit 16 b = some y) (third : digit 16 c = some z)
      (small : 256 * x + 16 * y + z ≤ 0x7FF) (count : n.toNat = 48 + data.length)
      (short : data.length ≤ 8) (bytes : Pairs text data) :
      FrameText (a :: b :: c :: n :: text) (256 * x + 16 * y + z) data

/-- A standard data frame with an identifier and data. -/
structure Carries (msg : CanMsgType) (id : Nat) (data : List UInt8) : Prop where
  type : msg.type = dataFrame
  format : msg.format = stdIdFormat
  id : msg.id = id
  len : msg.len.toNat = data.length
  data : ∀ index (within : index < data.length), msg.byteAt index = data[index]

/-- The answer to the command `t`, with some text behind it: `CR` and the frame, if the text is that
of a frame, and otherwise `ERROR` and no message. -/
structure Answers (text : List UInt8) (before : Adapter) (result : Status × Adapter) : Prop where
  frame : ∀ {id data}, FrameText text id data → result.1 = .cr ∧
    ∃ msg, result.2.given = before.given ++ [msg] ∧ Carries msg id data
  other : (∀ id data, ¬ FrameText text id data) → result.1 = .error ∧ result.2.given = before.given

/-! ### Digits -/

theorem ascii2byte_lt (c : UInt8) : (ascii2byte c).toNat < 16 :=
  Nat.lt_succ_of_le Nat.and_le_right

/-- A digit is converted to its value. -/
theorem digit_ascii2byte : ∀ {c : UInt8}, isxdigit c = true →
    digit 16 c = some (ascii2byte c).toNat :=
  @(forall_byte (by decide +kernel))

theorem ascii2byte_of_digit {c : UInt8} {d : Nat} (isDigit : digit 16 c = some d) :
    isxdigit c = true ∧ (ascii2byte c).toNat = d := by
  have hex := isxdigit_iff.mpr ⟨d, isDigit⟩
  exact ⟨hex, Option.some.inj ((digit_ascii2byte hex).symm.trans isDigit)⟩

/-- The digits up to 8 are the characters from `0` on. -/
theorem ascii2byte_count : ∀ c : UInt8, ∀ count ≤ 8,
    (c.toNat = 48 + count ↔ isxdigit c = true ∧ (ascii2byte c).toNat = count) :=
  forall_byte (by decide +kernel)

theorem ofNat_pair : ∀ x < 16, ∀ y < 16,
    (UInt8.ofNat x <<< 4) + UInt8.ofNat y = UInt8.ofNat (16 * x + y) := by decide

/-- A pair of digits is read as the byte it writes. -/
theorem readByte_pair (high low : UInt8) (text : List UInt8) : readByte (high :: low :: text) 0 =
    UInt8.ofNat (16 * (ascii2byte high).toNat + (ascii2byte low).toNat) := by
  have pair := ofNat_pair _ (ascii2byte_lt high) _ (ascii2byte_lt low)
  rwa [UInt8.ofNat_toNat, UInt8.ofNat_toNat] at pair

theorem readByte_cons (c : UInt8) (text : List UInt8) (place : Nat) :
    readByte (c :: text) (place + 1) = readByte text place := rfl

/-- The bytes that are read from a text. -/
def readBytes (text : List UInt8) (place count : Nat) : List UInt8 :=
  (List.range count).map fun index => readByte text (place + 2 * index)

theorem length_readBytes (text : List UInt8) (place count : Nat) :
    (readBytes text place count).length = count := by
  rw [readBytes, List.length_map, List.length_range]

theorem readBytes_cons (c : UInt8) (text : List UInt8) (place count : Nat) :
    readBytes (c :: text) (place + 1) count = readBytes text place count := by
  refine List.map_congr_left fun index _ => ?_
  rw [Nat.add_right_comm, readByte_cons]

theorem readBytes_succ (high low : UInt8) (text : List UInt8) (count : Nat) :
    readBytes (high :: low :: text) 0 (count + 1) =
      UInt8.ofNat (16 * (ascii2byte high).toNat + (ascii2byte low).toNat) ::
        readBytes text 0 count := by
  rw [readBytes, List.range_succ_eq_map, List.map_cons, List.map_map, Nat.mul_zero, Nat.zero_add,
    readByte_pair]
  refine congrArg _ (List.map_congr_left fun index _ => ?_)
  show readByte (high :: low :: text) (0 + 2 * (index + 1)) = readByte text (0 + 2 * index)
  rw [Nat.mul_succ, ← Nat.add_assoc, readByte_cons, readByte_cons]

/-- **Pairs of digits** are what the code reads two by two. -/
theorem pairs_iff {text data : List UInt8} : Pairs text data ↔
    (∀ c ∈ text, isxdigit c = true) ∧ text.length = 2 * data.length ∧
      data = readBytes text 0 data.length := by
  constructor
  · intro pairs
    induction pairs with
    | nil => exact ⟨fun _ none => absurd none List.not_mem_nil, rfl, rfl⟩
    | cons highDigit lowDigit _ ih =>
        obtain ⟨hex, length, read⟩ := ih
        obtain ⟨highHex, highValue⟩ := ascii2byte_of_digit highDigit
        obtain ⟨lowHex, lowValue⟩ := ascii2byte_of_digit lowDigit
        refine ⟨List.forall_mem_cons.mpr ⟨highHex, List.forall_mem_cons.mpr ⟨lowHex, hex⟩⟩, ?_, ?_⟩
        · simp only [List.length_cons, length, Nat.mul_succ]
        · rw [List.length_cons, readBytes_succ, ← read, highValue, lowValue]
  · rintro ⟨hex, length, read⟩
    induction data generalizing text with
    | nil =>
        obtain rfl := List.length_eq_zero_iff.mp length
        exact .nil
    | cons byte data ih =>
        rcases text with _ | ⟨high, _ | ⟨low, text⟩⟩
        · cases length
        · simp only [List.length_cons, List.length_nil] at length
          omega
        · obtain ⟨highHex, hex⟩ := List.forall_mem_cons.mp hex
          obtain ⟨lowHex, hex⟩ := List.forall_mem_cons.mp hex
          rw [List.length_cons, readBytes_succ] at read
          obtain ⟨same, rest⟩ := List.cons.inj read
          rw [same]
          refine .cons (digit_ascii2byte highHex) (digit_ascii2byte lowHex) (ih hex ?_ rest)
          simp only [List.length_cons] at length
          omega

/-- **The text of a frame**, as the code reads it. -/
theorem frameText_iff {text : List UInt8} {id : Nat} {data : List UInt8} :
    FrameText text id data ↔ (∀ c ∈ text, isxdigit c = true) ∧ text.length = 4 + 2 * data.length ∧
      (ascii2byte (text.getD 3 0)).toNat = data.length ∧ data.length ≤ 8 ∧
      readId (0x74 :: text) = id ∧ id ≤ 0x7FF ∧
      data = readBytes (0x74 :: text) 5 data.length := by
  have shifted : ∀ a b c n rest, readBytes (0x74 :: a :: b :: c :: n :: rest) 5 data.length =
      readBytes rest 0 data.length := fun a b c n rest => by
    rw [readBytes_cons, readBytes_cons, readBytes_cons, readBytes_cons, readBytes_cons]
  have value : ∀ a b c rest, readId (0x74 :: a :: b :: c :: rest) =
      256 * (ascii2byte a).toNat + 16 * (ascii2byte b).toNat + (ascii2byte c).toNat :=
    fun a b c rest => by
      show (((ascii2byte a).toNat <<< 4) + (ascii2byte b).toNat) <<< 4 + (ascii2byte c).toNat = _
      rw [Nat.shiftLeft_eq, Nat.shiftLeft_eq]
      omega
  constructor
  · rintro ⟨first, second, third, small, count, short, bytes⟩
    obtain ⟨hex, length, read⟩ := pairs_iff.mp bytes
    obtain ⟨firstHex, rfl⟩ := ascii2byte_of_digit first
    obtain ⟨secondHex, rfl⟩ := ascii2byte_of_digit second
    obtain ⟨thirdHex, rfl⟩ := ascii2byte_of_digit third
    obtain ⟨countHex, countValue⟩ := (ascii2byte_count _ _ short).mp count
    refine ⟨?_, ?_, countValue, short, value .., small, ?_⟩
    · simp only [List.forall_mem_cons]
      exact ⟨firstHex, secondHex, thirdHex, countHex, hex⟩
    · simp only [List.length_cons, length]
      omega
    · rw [shifted]
      exact read
  · rintro ⟨hex, length, count, short, rfl, small, read⟩
    obtain ⟨a, b, c, n, text, rfl⟩ : ∃ a b c n rest, text = a :: b :: c :: n :: rest := by
      rcases text with _ | ⟨a, _ | ⟨b, _ | ⟨c, _ | ⟨n, rest⟩⟩⟩⟩ <;>
        first
          | exact ⟨_, _, _, _, _, rfl⟩
          | (simp only [List.length_cons, List.length_nil] at length; omega)
    simp only [List.forall_mem_cons] at hex
    obtain ⟨firstHex, secondHex, thirdHex, countHex, hex⟩ := hex
    rw [shifted] at read
    rw [value] at small ⊢
    refine .intro (digit_ascii2byte firstHex) (digit_ascii2byte secondHex)
      (digit_ascii2byte thirdHex) small ?_ short (pairs_iff.mpr ⟨hex, ?_, read⟩)
    · exact (ascii2byte_count n _ short).mpr ⟨countHex, count⟩
    · simp only [List.length_cons] at length
      omega

/-! ### Storing a frame -/

theorem CanMsgType.byteAt_store (msg : CanMsgType) (byte : UInt8) {index other : Nat}
    (within : index < 8) (otherWithin : other < 8) :
    (msg.store index byte).byteAt other = if other = index then byte else msg.byteAt other := by
  have same : ∀ {i j}, i < 4 → j < 4 → (Fin.ofNat 4 i = Fin.ofNat 4 j ↔ i = j) := by
    intro i j left right
    rw [Fin.ext_iff, Fin.val_ofNat, Fin.val_ofNat, Nat.mod_eq_of_lt left, Nat.mod_eq_of_lt right]
  rw [store, byteAt, byteAt]
  by_cases lower : index < 4
  · rw [if_pos lower]
    by_cases otherLower : other < 4
    · simp only [if_pos otherLower, Function.update_apply, same otherLower lower]
    · rw [if_neg otherLower, if_neg otherLower, if_neg (by omega)]
  · rw [if_neg lower]
    by_cases otherLower : other < 4
    · rw [if_pos otherLower, if_pos otherLower, if_neg (by omega)]
    · have apart : other - 4 = index - 4 ↔ other = index := by omega
      simp only [if_neg otherLower, Function.update_apply,
        same (show other - 4 < 4 by omega) (show index - 4 < 4 by omega), apart]

theorem CanMsgType.store_header (msg : CanMsgType) (index : Nat) (byte : UInt8) :
    (msg.store index byte).type = msg.type ∧ (msg.store index byte).format = msg.format ∧
      (msg.store index byte).id = msg.id ∧ (msg.store index byte).len = msg.len := by
  rw [store]
  split <;> exact ⟨rfl, rfl, rfl, rfl⟩

/-- **Storing the data** leaves the header. -/
theorem storeData_spec (cmdBuf : List UInt8) (msg : CanMsgType) (short : msg.len.toNat ≤ 8) :
    ((storeData cmdBuf msg).type = msg.type ∧ (storeData cmdBuf msg).format = msg.format ∧
      (storeData cmdBuf msg).id = msg.id ∧ (storeData cmdBuf msg).len = msg.len) ∧
    ∀ index < msg.len.toNat,
      (storeData cmdBuf msg).byteAt index = readByte cmdBuf (5 + 2 * index) := by
  refine fold_invariant (fun count (after : CanMsgType) =>
    (after.type = msg.type ∧ after.format = msg.format ∧ after.id = msg.id ∧ after.len = msg.len) ∧
      ∀ index < count, after.byteAt index = readByte cmdBuf (5 + 2 * index)) msg.len.toNat
    (fun index _ msg => msg.store index (readByte cmdBuf (5 + 2 * index))) msg
    ⟨⟨rfl, rfl, rfl, rfl⟩, fun _ none => absurd none (Nat.not_lt_zero _)⟩ ?_
  rintro count within after ⟨⟨type, format, id, len⟩, bytes⟩
  obtain ⟨type', format', id', len'⟩ :=
    after.store_header count (readByte cmdBuf (5 + 2 * count))
  refine ⟨⟨type'.trans type, format'.trans format, id'.trans id, len'.trans len⟩,
    fun index below => ?_⟩
  rw [after.byteAt_store _ (by omega) (by omega)]
  split
  · next here => rw [here]
  · next apart => exact bytes index (by omega)

/-! ### The command line in memory -/

section Line

variable {cmdBuf text : List UInt8} (command : cString cmdBuf = 0x74 :: text)

include command

theorem getD_line {place : Nat} (within : place < text.length + 1) :
    cmdBuf.getD place 0 = (0x74 :: text).getD place 0 := by
  rw [getD_cString (command ▸ within), command]

theorem cString_tail : cString cmdBuf.tail = text := by
  rcases cmdBuf with _ | ⟨c, rest⟩
  · cases command
  · rw [cString, List.takeWhile_cons] at command
    split at command
    · exact (List.cons.inj command).2
    · cases command

theorem readByte_line {place : Nat} (within : place + 1 < text.length + 1) :
    readByte cmdBuf place = readByte (0x74 :: text) place := by
  rw [readByte, readByte, getD_line command (by omega), getD_line command within]

theorem readId_line (long : 3 ≤ text.length) : readId cmdBuf = readId (0x74 :: text) := by
  rw [readId, readId, getD_line command (by omega), getD_line command (by omega),
    getD_line command (by omega)]

theorem len_line (long : 4 ≤ text.length) (msg : CanMsgType) :
    (storeHeader cmdBuf msg).len = ascii2byte (text.getD 3 0) :=
  congrArg ascii2byte (getD_line command (Nat.succ_lt_succ long))

theorem headD_line : cmdBuf.headD 0 = 0x74 := by
  rcases cmdBuf with _ | ⟨c, rest⟩
  · cases command
  · exact getD_line command (Nat.succ_pos _)

/-- The command `t`. -/
theorem exec_t (bus : Bus) (adapter : Adapter) : execUsartCmd bus cmdBuf adapter =
    if text.all isxdigit then send11BitId bus cmdBuf ((text.length + 1) % 2 ^ 8) adapter
    else (.error, adapter) := by
  rw [execUsartCmd, headD_line command, cString_tail command, command, List.length_cons]
  by_cases hex : text.all isxdigit = true
  · rw [if_pos hex, if_neg (not_not.mpr hex)]
    rfl
  · rw [if_neg hex, if_pos hex]

end Line

/-- The three checks in one: the one for more than eight bytes never fails, as sixteen digits are
left of the longest line. -/
theorem send11BitId_eq (bus : Bus) (cmdBuf : List UInt8) (cmdLen : Nat) (adapter : Adapter) :
    send11BitId bus cmdBuf cmdLen adapter =
      if bus.on = true ∧ bus.txIdle = true ∧ 5 ≤ cmdLen ∧ cmdLen ≤ 21 then
        if (storeHeader cmdBuf adapter.txMsg).len.toNat = (cmdLen - 5) / 2 then
          canSendMsg bus { adapter with
            txMsg := storeData cmdBuf (storeHeader cmdBuf adapter.txMsg) }
        else (.error, { adapter with txMsg := storeHeader cmdBuf adapter.txMsg })
      else (.error, adapter) := by
  rw [send11BitId]
  by_cases off : ¬ bus.on = true
  · rw [if_pos off, if_neg fun all => off all.1]
  by_cases busy : ¬ bus.txIdle = true
  · rw [if_neg off, if_pos busy, if_neg fun all => busy all.2.1]
  by_cases outside : cmdLen < 5 ∨ 21 < cmdLen
  · rw [if_neg off, if_neg busy, if_pos outside, if_neg fun all => by omega]
  have ready : bus.on = true ∧ bus.txIdle = true ∧ 5 ≤ cmdLen ∧ cmdLen ≤ 21 :=
    ⟨not_not.mp off, not_not.mp busy, by omega, by omega⟩
  rw [if_neg off, if_neg busy, if_neg outside, if_pos ready]
  dsimp only
  by_cases count : (storeHeader cmdBuf adapter.txMsg).len.toNat = (cmdLen - 5) / 2
  · rw [if_neg (not_not.mpr count), if_neg (by omega), if_pos count]
  · rw [if_pos count, if_neg count]

/-- The code takes the text for that of a frame. -/
structure Accepted (text : List UInt8) : Prop where
  hex : ∀ c ∈ text, isxdigit c = true
  window : 5 ≤ (text.length + 1) % 2 ^ 8 ∧ (text.length + 1) % 2 ^ 8 ≤ 21
  count : (ascii2byte (text.getD 3 0)).toNat = ((text.length + 1) % 2 ^ 8 - 5) / 2

theorem Accepted.count_le {text : List UInt8} (accepted : Accepted text) :
    (ascii2byte (text.getD 3 0)).toNat ≤ 8 := by
  have most := accepted.window.2
  have count := accepted.count
  omega

theorem Accepted.length_le {text : List UInt8} (accepted : Accepted text) :
    4 + 2 * (ascii2byte (text.getD 3 0)).toNat ≤ text.length := by
  obtain ⟨least, -⟩ := accepted.window
  have count := accepted.count
  have below := Nat.mod_le (text.length + 1) (2 ^ 8)
  omega

section Line

variable {cmdBuf text : List UInt8} (command : cString cmdBuf = 0x74 :: text)

include command

/-- A text that is taken for a frame is given to `CAN_SendMsg`. -/
theorem exec_accepted (accepted : Accepted text) {bus : Bus} (on : bus.on = true)
    (idle : bus.txIdle = true) (adapter : Adapter) : execUsartCmd bus cmdBuf adapter =
      canSendMsg bus { adapter with
        txMsg := storeData cmdBuf (storeHeader cmdBuf adapter.txMsg) } := by
  have long := accepted.length_le
  rw [exec_t command, if_pos (List.all_eq_true.mpr accepted.hex), send11BitId_eq,
    if_pos ⟨on, idle, accepted.window⟩, len_line command (by omega), if_pos accepted.count]

/-- Any other text is an error, and nothing is given to `CAN_SendMsg`. -/
theorem exec_rejected (rejected : ¬ Accepted text) (bus : Bus) (adapter : Adapter) :
    (execUsartCmd bus cmdBuf adapter).1 = .error ∧
      (execUsartCmd bus cmdBuf adapter).2.given = adapter.given := by
  rw [exec_t command]
  by_cases hex : text.all isxdigit = true
  · rw [if_pos hex, send11BitId_eq]
    split
    · next ready =>
        have below := Nat.mod_le (text.length + 1) (2 ^ 8)
        have mismatch : (ascii2byte (text.getD 3 0)).toNat ≠ ((text.length + 1) % 2 ^ 8 - 5) / 2 :=
          fun count => rejected ⟨List.all_eq_true.mp hex, ready.2.2, count⟩
        rw [len_line command (by omega), if_neg mismatch]
        exact ⟨rfl, rfl⟩
    · exact ⟨rfl, rfl⟩
  · rw [if_neg hex]
    exact ⟨rfl, rfl⟩

/-- What is sent for a text that is taken for a frame. -/
theorem Accepted.carries (accepted : Accepted text) (msg : CanMsgType) :
    Carries (storeData cmdBuf (storeHeader cmdBuf msg)) (readId (0x74 :: text))
      (readBytes (0x74 :: text) 5 (ascii2byte (text.getD 3 0)).toNat) := by
  have long := accepted.length_le
  have len := len_line command (by omega) msg
  have short : (storeHeader cmdBuf msg).len.toNat ≤ 8 := len ▸ accepted.count_le
  obtain ⟨⟨type, format, id, len'⟩, bytes⟩ := storeData_spec cmdBuf _ short
  refine ⟨type, format, id.trans (readId_line command (by omega)), ?_, fun index within => ?_⟩
  · rw [len', len, length_readBytes]
  · rw [length_readBytes] at within
    rw [bytes index (len.symm ▸ within), readByte_line command (by omega)]
    simp only [readBytes, List.getElem_map, List.getElem_range]

end Line

/-! ### Misread lines -/

/-- A text that is taken for that of a frame and is none: its digits fill the window of lengths and
agree with the number of bytes, but the line is too long for the eight bits of its length, or it has
half a byte too many, or the identifier has more than eleven bits. -/
structure Misread (text : List UInt8) : Prop where
  hex : ∀ c ∈ text, isxdigit c = true
  window : 5 ≤ (text.length + 1) % 2 ^ 8 ∧ (text.length + 1) % 2 ^ 8 ≤ 21
  count : digit 16 (text.getD 3 0) = some (((text.length + 1) % 2 ^ 8 - 5) / 2)
  wrong : 255 ≤ text.length ∨ text.length % 2 = 1 ∨ 0x7FF < digits 16 0 (text.take 3)

/-- The identifier, read by the code, is the number its digits write. -/
theorem digits_readId {text : List UInt8} (hex : ∀ c ∈ text, isxdigit c = true)
    (long : 3 ≤ text.length) : digits 16 0 (text.take 3) = readId (0x74 :: text) := by
  rcases text with _ | ⟨a, _ | ⟨b, _ | ⟨c, rest⟩⟩⟩
  · exact absurd long (by decide)
  · exact absurd long (by simp)
  · exact absurd long (by simp)
  · simp only [List.forall_mem_cons] at hex
    obtain ⟨first, second, third, -⟩ := hex
    show digits 16 0 [a, b, c] = ((ascii2byte a).toNat <<< 4 + (ascii2byte b).toNat) <<< 4 +
      (ascii2byte c).toNat
    simp only [digits, digit_ascii2byte first, digit_ascii2byte second, digit_ascii2byte third,
      Nat.shiftLeft_eq]
    omega

theorem getD_mem {text : List UInt8} {index : Nat} (within : index < text.length) :
    text.getD index 0 ∈ text := by
  rw [List.getD_eq_getElem?_getD, List.getElem?_eq_getElem within]
  exact List.getElem_mem within

/-- Of the texts that are taken for a frame, the others are those of frames. -/
theorem Accepted.frameText {text : List UInt8} (accepted : Accepted text)
    (right : ¬ Misread text) : FrameText text (readId (0x74 :: text))
      (readBytes (0x74 :: text) 5 (ascii2byte (text.getD 3 0)).toNat) := by
  have long := accepted.length_le
  have count : digit 16 (text.getD 3 0) = some (((text.length + 1) % 2 ^ 8 - 5) / 2) := by
    rw [digit_ascii2byte (accepted.hex _ (getD_mem (by omega))), accepted.count]
  have fine : ¬ (255 ≤ text.length ∨ text.length % 2 = 1 ∨ 0x7FF < digits 16 0 (text.take 3)) :=
    fun wrong => right ⟨accepted.hex, accepted.window, count, wrong⟩
  rw [digits_readId accepted.hex (by omega)] at fine
  have value := accepted.count
  rw [Nat.mod_eq_of_lt (by omega)] at value
  rw [frameText_iff, length_readBytes]
  refine ⟨accepted.hex, ?_, rfl, accepted.count_le, rfl, by omega, rfl⟩
  omega

/-- The text of a frame is taken for one, and it is not misread. -/
theorem FrameText.accepted {text : List UInt8} {id : Nat} {data : List UInt8}
    (frame : FrameText text id data) : Accepted text ∧ ¬ Misread text ∧
      id = readId (0x74 :: text) ∧
      data = readBytes (0x74 :: text) 5 (ascii2byte (text.getD 3 0)).toNat := by
  obtain ⟨hex, length, count, short, value, small, read⟩ := frameText_iff.mp frame
  have whole : (text.length + 1) % 2 ^ 8 = text.length + 1 := Nat.mod_eq_of_lt (by omega)
  refine ⟨⟨hex, by omega, ?_⟩, fun misread => ?_, value.symm, count.symm ▸ read⟩
  · rw [count, whole, length]
    omega
  · obtain long | odd | large := misread.wrong
    · omega
    · omega
    · rw [digits_readId hex (by omega), value] at large
      omega

/-- **The command `t`** answers as it should exactly if its text is not misread. -/
theorem sendFrame_iff {cmdBuf text : List UInt8} (command : cString cmdBuf = 0x74 :: text)
    {bus : Bus} (on : bus.on = true) (idle : bus.txIdle = true) (accepts : bus.accepts = true)
    (adapter : Adapter) :
    Answers text adapter (execUsartCmd bus cmdBuf adapter) ↔ ¬ Misread text := by
  constructor
  · intro answers misread
    have digit := isxdigit_iff.mpr ⟨_, misread.count⟩
    have accepted : Accepted text := ⟨misread.hex, misread.window,
      Option.some.inj ((digit_ascii2byte digit).symm.trans misread.count)⟩
    have noFrame : ∀ id data, ¬ FrameText text id data :=
      fun id data frame => frame.accepted.2.1 misread
    have failed := (answers.other noFrame).1
    rw [exec_accepted command accepted on idle, canSendMsg, accepts] at failed
    cases failed
  · intro right
    refine ⟨fun {id data} frame => ?_, fun noFrame => ?_⟩
    · obtain ⟨accepted, -, rfl, rfl⟩ := frame.accepted
      rw [exec_accepted command accepted on idle, canSendMsg, accepts]
      exact ⟨rfl, _, rfl, accepted.carries command _⟩
    · exact exec_rejected command (fun accepted => noFrame _ _ (accepted.frameText right)) bus
        adapter

/-- The variables as the program starts. -/
def Adapter.initial : Adapter where
  txMsg := { id := 0, dataA := fun _ => 0, dataB := fun _ => 0, len := 0, format := 0, type := 0 }
  given := []
  printed := []

/-- One byte for the identifier 0x123. -/
theorem sendFrame_one : Answers (ascii "1231FF") Adapter.initial
    (execUsartCmd ⟨true, true, true⟩ (ascii "t1231FF") Adapter.initial) :=
  (sendFrame_iff (by decide) rfl rfl rfl Adapter.initial).mpr
    fun misread => absurd misread.wrong (by decide)

/-- **Twelve bits** of identifier are accepted. -/
theorem sendFrame_twelve : ¬ Answers (ascii "FFF0") Adapter.initial
    (execUsartCmd ⟨true, true, true⟩ (ascii "tFFF0") Adapter.initial) := by
  intro answers
  have misread : Misread (ascii "FFF0") :=
    ⟨List.all_eq_true.mp (by decide), by decide, by decide, .inr (.inr (by decide))⟩
  have failed := (answers.other fun id data frame => frame.accepted.2.1 misread).1
  exact absurd failed (by decide)

/-! ### Errors -/

/-- The line comes as far as the comparison of its length with the number of bytes. -/
structure StoresHeader (bus : Bus) (cmdBuf : List UInt8) : Prop where
  hex : ∀ c ∈ cString cmdBuf.tail, isxdigit c = true
  letter : cmdBuf.headD 0 = 0x74
  on : bus.on = true
  txIdle : bus.txIdle = true
  window : 5 ≤ (cString cmdBuf).length % 2 ^ 8 ∧ (cString cmdBuf).length % 2 ^ 8 ≤ 21

section Errors

variable {bus : Bus} {cmdBuf : List UInt8} {adapter : Adapter}

/-- The other commands leave `TXMsg`. -/
theorem exec_txMsg (other : cmdBuf.headD 0 ≠ 0x74) :
    (execUsartCmd bus cmdBuf adapter).2.txMsg = adapter.txMsg := by
  rw [execUsartCmd]
  split
  · rfl
  split
  · rfl
  split
  · rfl
  split
  · rfl
  split
  · split <;> rfl
  split
  · split <;> rfl
  -- The command `t` is excluded by `other`.
  split <;> rfl

/-- The command `t` stores the header before it compares the lengths, and the data behind it. -/
theorem send11BitId_txMsg {cmdLen : Nat}
    (uncalled : (send11BitId bus cmdBuf cmdLen adapter).2.given = adapter.given) :
    (send11BitId bus cmdBuf cmdLen adapter).2.txMsg =
      if bus.on = true ∧ bus.txIdle = true ∧ 5 ≤ cmdLen ∧ cmdLen ≤ 21 then
        storeHeader cmdBuf adapter.txMsg
      else adapter.txMsg := by
  rw [send11BitId_eq] at uncalled ⊢
  split at uncalled
  · next ready =>
      rw [if_pos ready, if_pos ready]
      split at uncalled
      · exact absurd (List.append_right_eq_self.mp uncalled) (List.cons_ne_nil _ _)
      · next mismatch => rw [if_neg mismatch]
  · next missing => rw [if_neg missing, if_neg missing]

/-- **`TXMsg` after an error.** When `CAN_SendMsg` is not reached, the type, the format, the
identifier and the length of the line have been stored if the line came as far as the comparison of
its length, and nothing has been stored if it did not. -/
theorem txMsg_error (_failed : (execUsartCmd bus cmdBuf adapter).1 = .error)
    (uncalled : (execUsartCmd bus cmdBuf adapter).2.given = adapter.given) :
    (StoresHeader bus cmdBuf → (execUsartCmd bus cmdBuf adapter).2.txMsg =
      { adapter.txMsg with
        type := dataFrame
        format := stdIdFormat
        id := readId cmdBuf
        len := ascii2byte (cmdBuf.getD 4 0) }) ∧
    (¬ StoresHeader bus cmdBuf → (execUsartCmd bus cmdBuf adapter).2.txMsg = adapter.txMsg) := by
  by_cases letter : cmdBuf.headD 0 = 0x74
  · obtain ⟨text, command⟩ : ∃ text, cString cmdBuf = 0x74 :: text := by
      rcases cmdBuf with _ | ⟨c, rest⟩
      · cases letter
      · obtain rfl : c = 0x74 := letter
        exact ⟨cString rest, List.takeWhile_cons_of_pos (by decide)⟩
    have tail := cString_tail command
    have stores : StoresHeader bus cmdBuf ↔ text.all isxdigit = true ∧ bus.on = true ∧
        bus.txIdle = true ∧ 5 ≤ (text.length + 1) % 2 ^ 8 ∧ (text.length + 1) % 2 ^ 8 ≤ 21 := by
      constructor
      · rintro ⟨hex, -, on, idle, window⟩
        rw [command] at window
        exact ⟨List.all_eq_true.mpr (tail ▸ hex), on, idle, window⟩
      · rintro ⟨hex, on, idle, window⟩
        exact ⟨tail.symm ▸ List.all_eq_true.mp hex, letter, on, idle, command.symm ▸ window⟩
    rw [exec_t command] at uncalled ⊢
    rw [stores]
    by_cases hex : text.all isxdigit = true
    · rw [if_pos hex] at uncalled ⊢
      rw [send11BitId_txMsg uncalled, and_iff_right hex]
      exact ⟨fun all => if_pos all, fun missing => if_neg missing⟩
    · rw [if_neg hex]
      exact ⟨fun all => absurd all.1 hex, fun _ => rfl⟩
  · exact ⟨fun stores => absurd stores.letter letter, fun _ => exec_txMsg letter⟩

end Errors

/-- A line without its byte, at a free bus. -/
theorem txMsg_error_short :
    (execUsartCmd ⟨true, true, true⟩ (ascii "t1231") Adapter.initial).2.txMsg.id = 0x123 := by
  have stores : StoresHeader ⟨true, true, true⟩ (ascii "t1231") :=
    ⟨List.all_eq_true.mp (by decide), rfl, rfl, rfl, by decide⟩
  have stored := (@txMsg_error ⟨true, true, true⟩ (ascii "t1231") Adapter.initial (by decide) rfl).1
    stores
  rw [stored]
  decide

/-- **A line without its byte** is an error that leaves its identifier in `TXMsg`. -/
theorem txMsg_short :
    (execUsartCmd ⟨true, true, true⟩ (ascii "t1231") Adapter.initial).1 = .error ∧
      (execUsartCmd ⟨true, true, true⟩ (ascii "t1231") Adapter.initial).2.given = [] ∧
      (execUsartCmd ⟨true, true, true⟩ (ascii "t1231") Adapter.initial).2.txMsg ≠
        Adapter.initial.txMsg := by
  refine ⟨by decide, rfl, fun same => ?_⟩
  have id : (execUsartCmd ⟨true, true, true⟩ (ascii "t1231") Adapter.initial).2.txMsg.id = 0 :=
    congrArg (fun msg => msg.id) same
  exact absurd id (by decide)

end EquinoxClock.Can
