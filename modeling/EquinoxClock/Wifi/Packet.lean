/-
The packets of a web request.

`processPacket` looks for line feeds in the bytes of a packet and gives each line that ends in the
packet to `processLine`, with a zero where the line ends. `processLine` keeps the URL of a GET line,
unless the connection has one, and says whether the line is empty; at the first empty line
`processPacket` stops and reports that the request is complete. Neither keeps anything about a line
that is cut by the end of a packet, and `processLine` goes on looking for the space behind the URL
three bytes behind the end of its line.
-/

import EquinoxClock.Lib.CString
import Mathlib.Logic.Function.Basic

namespace EquinoxClock.Wifi

open EquinoxClock.Lib

/-- `LF`. -/
def lf : UInt8 := 10

/-- `CR`. -/
def cr : UInt8 := 13

/-- `httpGET`. -/
def httpGet : List UInt8 := ascii "GET /"

/-- `WISERVER_GET_STRING_MAX`. -/
def wiserverGetStringMax : Nat := 64

/-- What the two functions read and write: `uip_buf` from `uip_appdata` on, with the header of the
packet in front of it; whether `request` of the connection points to `get_string_global` and not to
nothing; and that array, which all connections share. -/
structure Incoming where
  memory : Int → UInt8
  request : Bool
  getStringGlobal : List UInt8

/-- Some bytes of the memory. -/
def bytesFrom (memory : Int → UInt8) (start : Int) (count : Nat) : List UInt8 :=
  (List.range count).map fun (index : Nat) => memory (start + index)

/-- `while (++data < end)`, with some rounds left: where the space is. -/
def findSpace (memory : Int → UInt8) (stop : Int) : (rounds : Nat) → (data : Int) → Option Int
  | 0, _ => none
  | rounds + 1, data =>
      let data := data + 1
      if data < stop then
        if memory data = 32 then some data else findSpace memory stop rounds data
      else none

/-- `processLine`. -/
def processLine (data len : Int) (incoming : Incoming) : Bool × Incoming :=
  if incoming.request = false ∧ strncmp 4 (bytesFrom incoming.memory data 4) httpGet = 0 then
    let start := data + 4
    match findSpace incoming.memory (start + len) len.toNat start with
    | some space =>
        let memory := Function.update incoming.memory space 0
        let count := wiserverGetStringMax - 1
        (false, {
          memory
          request := true
          getStringGlobal := strncpy incoming.getStringGlobal (bytesFrom memory start count) count })
    | none => (len == 0, incoming)
  else (len == 0, incoming)

/-- The loop of `processPacket`, with some bytes left from `data` on. -/
def scanPacket : (left : Nat) → (start data : Int) → Incoming → Bool × Incoming
  | 0, _, _, incoming => (false, incoming)
  | left + 1, start, data, incoming =>
      if incoming.memory data = lf then
        let lineLength := data - start
        let lineLength := if incoming.memory (data - 1) = cr then lineLength - 1 else lineLength
        let incoming :=
          { incoming with memory := Function.update incoming.memory (start + lineLength) 0 }
        let (complete, incoming) := processLine start lineLength incoming
        if complete then (true, incoming) else scanPacket left (data + 1) (data + 1) incoming
      else scanPacket left start (data + 1) incoming

/-- `processPacket`, for the bytes at `uip_appdata`. -/
def processPacket (len : Nat) (incoming : Incoming) : Bool × Incoming := scanPacket len 0 0 incoming

/-- A line takes no request away. -/
theorem processLine_request (data len : Int) (incoming : Incoming)
    (request : incoming.request = true) : (processLine data len incoming).2.request = true := by
  rw [processLine, if_neg fun free => Bool.false_ne_true (free.1.symm.trans request)]
  exact request

theorem scanPacket_request (left : Nat) :
    ∀ (start data : Int) (incoming : Incoming), incoming.request = true →
      (scanPacket left start data incoming).2.request = true := by
  induction left with
  | zero => exact fun _ _ _ request => request
  | succ left ih =>
      intro start data incoming request
      rw [scanPacket]
      split
      · dsimp only
        generalize (if incoming.memory (data - 1) = cr then data - start - 1 else data - start) =
          lineLength
        split
        · exact processLine_request _ _ _ request
        · exact ih _ _ _ (processLine_request _ _ _ request)
      · exact ih _ _ _ request

/-- Nor does a packet. -/
theorem processPacket_request (len : Nat) (incoming : Incoming) (request : incoming.request = true) :
    (processPacket len incoming).2.request = true :=
  scanPacket_request len 0 0 incoming request

end EquinoxClock.Wifi
