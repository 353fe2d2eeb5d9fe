/-
The pages of the web server.

The server does not keep the page it sends. Whenever a part of it is due, `sendPage` has the whole
page printed again, from the first byte on; `write` counts the bytes in `cursor` and stores only
those that stand behind the bytes acknowledged so far and fit into a packet. `send` passes as many
of them on and notes their number in `sentCount`. `server_task_impl` is called for each event of a
connection and does one of three things: it starts with a page, goes on to the next part when the
last one is acknowledged, or sends that again.

The page itself comes from the function given to `init`, with the URL, and may be another one each
time. `rendered` lists what it came to, with the heading, for the proofs only.
-/

import EquinoxClock.Wifi.Packet
import Mathlib.Data.List.Basic

namespace EquinoxClock.Wifi

open EquinoxClock.Lib

/-- `uip_flags`. -/
structure Flags where
  ackdata : Bool := false
  newdata : Bool := false
  rexmit : Bool := false
  poll : Bool := false
  close : Bool := false
  abort : Bool := false
  connected : Bool := false
  timedout : Bool := false

/-- What the web server reads and writes when it is called for an event of a connection: the packet,
the state of the connection (`conn_state`), its packet size, the flags, `uip_slen`, and whatever the
pages depend on. -/
structure App (World : Type*) extends Incoming where
  ackedCount : Int
  sentCount : Int
  cursor : Int
  mss : UInt16
  flags : Flags
  slen : UInt16
  world : World
  rendered : List (List UInt8)

/-- `pageServingFunction`: the bytes it prints for a URL, and whether it knows the URL. It is given
the array the URL is stored in, and may read all of it. -/
abbrev PageServingFunction (World : Type*) := List UInt8 → World → List UInt8 × Bool × World

variable {World : Type*}

/-- `write`. -/
def write (app : App World) (b : UInt8) : App World :=
  let offset := app.cursor - app.ackedCount
  let app := { app with cursor := app.cursor + 1 }
  if offset ≥ 0 ∧ offset < app.mss.toNat then
    { app with memory := Function.update app.memory offset b }
  else app

/-- Some bytes, one after the other. -/
def writeAll (app : App World) (bytes : List UInt8) : App World := bytes.foldl write app

/-- The loop of `print_P`, with a character and the string that `s` points to. -/
def printLoop : (c : UInt8) → (s : List UInt8) → List UInt8
  | c, [] => if c = 0 then [] else [c]
  | c, d :: s => if c = 0 then [] else c :: printLoop d s

/-- `print_P`. The character read first is the one that `s` still points to. -/
def printP (s : List UInt8) : List UInt8 := printLoop (s.headD 0) s

/-- `println`. -/
def println : List UInt8 := [13, 10]

/-- `println_P`. -/
def printlnP (c : List UInt8) : List UInt8 := printP c ++ println

/-- `httpOK`. -/
def httpOk : List UInt8 := ascii "HTTP/1.0 200 OK"

/-- `httpNotFound`. -/
def httpNotFound : List UInt8 := ascii "HTTP/1.0 404 Not Found"

/-- `uip_send`, of the bytes that stand at `uip_appdata` already. -/
def uipSend (len : Int) (app : App World) : App World :=
  if len > 0 then { app with slen := UInt16.ofNat len.toNat } else app

/-- `send`. -/
def send (app : App World) : App World :=
  let len := app.cursor - app.ackedCount
  let len := if len < 0 then 0 else len
  let len := if len > app.mss.toNat then (app.mss.toNat : Int) else len
  { uipSend len app with sentCount := len }

/-- The heading and the page, or the error in their place. -/
def response (bytes : List UInt8) (found : Bool) : List UInt8 :=
  if found then printlnP httpOk ++ println ++ bytes else printlnP httpNotFound ++ println

/-- What a page comes to, with its heading. -/
def pageOf (callbackFunc : PageServingFunction World) (url : List UInt8) (world : World) :
    List UInt8 :=
  response (callbackFunc url world).1 (callbackFunc url world).2.1

/-- `sendPage`. -/
def sendPage (callbackFunc : PageServingFunction World) (app : App World) : App World :=
  let app := { app with cursor := 0 }
  let app := writeAll app (printlnP httpOk ++ println)
  let (bytes, found, world) := callbackFunc app.getStringGlobal app.world
  let app := writeAll { app with world } bytes
  let app :=
    if found then app
    else writeAll { app with cursor := 0 } (printlnP httpNotFound ++ println)
  send { app with rendered := response bytes found :: app.rendered }

/-- The first part of `server_task_impl`: a new connection has no request. -/
def onConnected (app : App World) : App World :=
  if app.flags.connected then { app with ackedCount := 0, request := false } else app

/-- The second part: a request that is complete is answered. -/
def onNewdata (callbackFunc : PageServingFunction World) (datalen : Nat) (app : App World) :
    App World :=
  if app.flags.newdata then
    let (complete, incoming) := processPacket datalen app.toIncoming
    let app := { app with toIncoming := incoming }
    if complete && app.request then sendPage callbackFunc app else app
  else app

/-- The third part: what was sent has arrived, and it is the end of the page or not. `uip_close`
sets `UIP_CLOSE` and no other flag. -/
def onAcked (callbackFunc : PageServingFunction World) (app : App World) : App World :=
  if app.flags.ackdata then
    let app := { app with ackedCount := app.ackedCount + app.sentCount, sentCount := 0 }
    if app.ackedCount = app.cursor then { app with flags := { close := true } }
    else sendPage callbackFunc app
  else app

/-- The fourth part: the same again. -/
def onRexmit (callbackFunc : PageServingFunction World) (app : App World) : App World :=
  if app.flags.rexmit then sendPage callbackFunc app else app

/-- The last part: at the end of the connection it has no request again. -/
def onEnded (app : App World) : App World :=
  if app.flags.abort || app.flags.close || app.flags.timedout then { app with request := false }
  else app

/-- `server_task_impl`. -/
def serverTaskImpl (callbackFunc : PageServingFunction World) (datalen : Nat) (app : App World) :
    App World :=
  let app := onConnected app
  let app := onNewdata callbackFunc datalen app
  let app := onAcked callbackFunc app
  let app := onRexmit callbackFunc app
  onEnded app

/-- Printing touches the cursor and the memory only. -/
theorem writeAll_frame (bytes : List UInt8) :
    ∀ app : App World, ∃ memory cursor, writeAll app bytes = { app with memory, cursor } := by
  induction bytes with
  | nil => exact fun app => ⟨app.memory, app.cursor, rfl⟩
  | cons b bytes ih =>
      intro app
      obtain ⟨memory, cursor, rest⟩ := ih (write app b)
      refine ⟨memory, cursor, rest.trans ?_⟩
      unfold write
      dsimp only
      split <;> rfl

/-- Some bytes were printed: those behind the acknowledged ones are in the packet, as far as it
goes. -/
structure Printed (acked : Nat) (printed : List UInt8) (app : App World) : Prop where
  ackedCount : app.ackedCount = acked
  cursor : app.cursor = printed.length
  memory : ∀ place < app.mss.toNat, ∀ byte, printed[acked + place]? = some byte →
    app.memory place = byte

/-- **`write` prints one more**, by cases on whether its place is in the packet. -/
theorem Printed.one {acked : Nat} {printed : List UInt8} {app : App World}
    (before : Printed acked printed app) (b : UInt8) :
    Printed acked (printed ++ [b]) (write app b) := by
  have offset : app.cursor - app.ackedCount = printed.length - (acked : Int) := by
    rw [before.cursor, before.ackedCount]
  unfold write
  simp only [offset]
  split
  · next within =>
      refine ⟨before.ackedCount, ?_, fun place small byte found => ?_⟩
      · dsimp only
        rw [before.cursor, List.length_append, List.length_singleton, Int.natCast_add]
        rfl
      · dsimp only at small ⊢
        by_cases last : (place : Int) = printed.length - (acked : Int)
        · rw [last, Function.update_self]
          have index : acked + place = printed.length := by omega
          rw [index, List.getElem?_concat_length] at found
          exact Option.some_inj.mp found
        · rw [Function.update_of_ne last]
          have index := (List.getElem?_eq_some_iff.mp found).1
          rw [List.length_append, List.length_singleton] at index
          rw [List.getElem?_append_left (by omega)] at found
          exact before.memory place small byte found
  · next outside =>
      refine ⟨before.ackedCount, ?_, fun place small byte found => ?_⟩
      · dsimp only
        rw [before.cursor, List.length_append, List.length_singleton, Int.natCast_add]
        rfl
      · dsimp only at small ⊢
        have index := (List.getElem?_eq_some_iff.mp found).1
        rw [List.length_append, List.length_singleton] at index
        rw [List.getElem?_append_left (by omega)] at found
        exact before.memory place small byte found

theorem Printed.more {acked : Nat} (bytes : List UInt8) :
    ∀ {printed : List UInt8} {app : App World}, Printed acked printed app →
      Printed acked (printed ++ bytes) (writeAll app bytes) := by
  induction bytes with
  | nil =>
      intro printed app before
      rwa [List.append_nil]
  | cons b bytes ih =>
      intro printed app before
      rw [List.append_cons]
      exact ih (before.one b)

theorem Printed.frame {acked : Nat} {printed : List UInt8} {app : App World}
    (before : Printed acked printed app) (bytes : List UInt8) :
    ∃ memory cursor, writeAll app bytes = { app with memory, cursor } ∧
      Printed acked (printed ++ bytes) { app with memory, cursor } := by
  obtain ⟨memory, cursor, frame⟩ := writeAll_frame bytes app
  exact ⟨memory, cursor, frame, frame ▸ before.more bytes⟩

/-- What the pages depend on may change meanwhile. -/
theorem Printed.withWorld {acked : Nat} {printed : List UInt8} {app : App World}
    (before : Printed acked printed app) (world : World) :
    Printed acked printed { app with world } :=
  ⟨before.ackedCount, before.cursor, before.memory⟩

/-- How much of a page goes into the next packet. -/
def due (acked : Nat) (mss : UInt16) (page : List UInt8) : Nat :=
  min mss.toNat (page.length - acked)

/-- What `sendPage` leaves, for what the page came to. -/
structure PageSent (acked : Nat) (page : List UInt8) (app next : App World) : Prop where
  printed : Printed acked page next
  nonempty : page ≠ []
  sentCount : next.sentCount = due acked app.mss page
  slen : next.slen =
    if 0 < due acked app.mss page then UInt16.ofNat (due acked app.mss page) else app.slen
  rendered : next.rendered = page :: app.rendered
  mss : next.mss = app.mss
  flags : next.flags = app.flags
  request : next.request = app.request
  getStringGlobal : next.getStringGlobal = app.getStringGlobal

theorem response_ne_nil (bytes : List UInt8) (found : Bool) : response bytes found ≠ [] := by
  rw [response]
  split <;> simp [println]

/-- `send` sends what is due, after the page is printed. -/
theorem send_pageSent {acked : Nat} {page : List UInt8} {app : App World}
    (printed : Printed acked page app) (nonempty : page ≠ []) :
    PageSent acked page app (send { app with rendered := page :: app.rendered }) := by
  have length : (if app.cursor - app.ackedCount < 0 then 0 else app.cursor - app.ackedCount) =
      ((page.length - acked : Nat) : Int) := by
    rw [printed.cursor, printed.ackedCount]
    split <;> omega
  have sent : (if ((page.length - acked : Nat) : Int) > app.mss.toNat then (app.mss.toNat : Int)
      else ((page.length - acked : Nat) : Int)) = due acked app.mss page := by
    rw [due]
    split <;> omega
  have positive : ((due acked app.mss page : Nat) : Int) > 0 ↔ 0 < due acked app.mss page := by omega
  unfold send uipSend
  simp only [length, sent, positive, Int.toNat_natCast]
  split
  · exact ⟨⟨printed.ackedCount, printed.cursor, printed.memory⟩, nonempty, rfl,
      by rw [if_pos ‹_›], rfl, rfl, rfl, rfl, rfl⟩
  · exact ⟨⟨printed.ackedCount, printed.cursor, printed.memory⟩, nonempty, rfl,
      by rw [if_neg ‹_›], rfl, rfl, rfl, rfl, rfl⟩

/-- Printing starts anew at the cursor 0. -/
theorem printed_start {acked : Nat} {app : App World} (ackedCount : app.ackedCount = acked)
    (cursor : app.cursor = 0) : Printed acked [] app :=
  ⟨ackedCount, cursor, fun _ _ _ found => by simp at found⟩

/-- **`sendPage` prints the whole page** and sends the part of it that is due. -/
theorem sendPage_pageSent (callbackFunc : PageServingFunction World) {acked : Nat} (app : App World)
    (ackedCount : app.ackedCount = acked) :
    PageSent acked (pageOf callbackFunc app.getStringGlobal app.world) app
      (sendPage callbackFunc app) := by
  unfold sendPage pageOf
  dsimp only
  obtain ⟨memory, cursor, heading, printed⟩ :=
    (@printed_start _ _ { app with cursor := 0 } ackedCount rfl).frame (printlnP httpOk ++ println)
  rw [heading]
  rcases callbackFunc app.getStringGlobal app.world with ⟨bytes, found, world⟩
  obtain ⟨memory', cursor', content, printedContent⟩ := (printed.withWorld world).frame bytes
  cases found with
  | true =>
      have sent := @send_pageSent _ acked (response bytes true) _ printedContent
        (response_ne_nil bytes true)
      dsimp only at content ⊢
      rw [content]
      exact { sent with }
  | false =>
      obtain ⟨memory'', cursor'', notFound, printedNotFound⟩ :=
        (@printed_start _ _ { app with memory := memory', cursor := 0, world } ackedCount rfl).frame
          (printlnP httpNotFound ++ println)
      have sent := @send_pageSent _ acked (response bytes false) _ printedNotFound
        (response_ne_nil bytes false)
      dsimp only at content ⊢
      rw [content, if_neg Bool.false_ne_true, notFound]
      exact { sent with }

/-- The bytes of the packet are those of the page behind the acknowledged ones. -/
theorem PageSent.payload {acked : Nat} {page : List UInt8} {app next : App World}
    (sent : PageSent acked page app next) :
    bytesFrom next.memory 0 (due acked app.mss page) =
      (page.drop acked).take (due acked app.mss page) := by
  have due_le : due acked app.mss page ≤ app.mss.toNat ∧
      due acked app.mss page ≤ page.length - acked := by
    rw [due]
    omega
  refine List.ext_getElem ?_ fun index within _ => ?_
  · rw [bytesFrom, List.length_map, List.length_range, List.length_take, List.length_drop]
    omega
  · rw [bytesFrom, List.length_map, List.length_range] at within
    rw [List.getElem_take, List.getElem_drop]
    simp only [bytesFrom, List.getElem_map, List.getElem_range, Int.zero_add]
    exact sent.printed.memory index (by rw [sent.mss]; omega) _ (List.getElem?_eq_getElem _)

/-- **New data** leaves everything but the packet, the request and the URL, or it is the rest of a
request and the page is sent. -/
theorem onNewdata_cases (callbackFunc : PageServingFunction World) (datalen : Nat) {acked : Nat}
    (app : App World) (ackedCount : app.ackedCount = acked) :
    ∃ incoming : Incoming, (app.request = true → incoming.request = true) ∧
      (onNewdata callbackFunc datalen app = { app with toIncoming := incoming } ∨
        app.flags.newdata = true ∧ incoming.request = true ∧
          PageSent acked (pageOf callbackFunc incoming.getStringGlobal app.world)
            { app with toIncoming := incoming } (onNewdata callbackFunc datalen app)) := by
  unfold onNewdata
  split
  · next newdata =>
      have kept := processPacket_request datalen app.toIncoming
      rcases result : processPacket datalen app.toIncoming with ⟨complete, incoming⟩
      rw [result] at kept
      refine ⟨incoming, kept, ?_⟩
      dsimp only
      split
      · next answered =>
          obtain ⟨-, request⟩ := Bool.and_eq_true_iff.mp answered
          exact Or.inr ⟨newdata, request,
            sendPage_pageSent callbackFunc { app with toIncoming := incoming } ackedCount⟩
      · exact Or.inl rfl
  · exact ⟨app.toIncoming, id, Or.inl rfl⟩

/-- **An acknowledgement** ends the page, or its next part is sent. -/
theorem onAcked_cases (callbackFunc : PageServingFunction World) {acked : Nat} (app : App World)
    (ackdata : app.flags.ackdata = true) (sum : app.ackedCount + app.sentCount = acked) :
    app.cursor = acked ∧ onAcked callbackFunc app =
        { app with ackedCount := acked, sentCount := 0, flags := { close := true } } ∨
      app.cursor ≠ acked ∧
        PageSent acked (pageOf callbackFunc app.getStringGlobal app.world)
          { app with ackedCount := acked, sentCount := 0 } (onAcked callbackFunc app) := by
  rw [onAcked, if_pos ackdata, sum]
  by_cases finished : (acked : Int) = app.cursor
  · exact Or.inl ⟨finished.symm, if_pos finished⟩
  · refine Or.inr ⟨fun same => finished same.symm, ?_⟩
    dsimp only
    rw [if_neg finished]
    exact sendPage_pageSent callbackFunc { app with ackedCount := acked, sentCount := 0 } rfl

theorem writeAll_keeps (app : App World) (bytes : List UInt8) :
    (writeAll app bytes).rendered = app.rendered ∧ (writeAll app bytes).flags = app.flags := by
  obtain ⟨memory, cursor, frame⟩ := writeAll_frame bytes app
  rw [frame]
  exact ⟨rfl, rfl⟩

theorem uipSend_keeps (len : Int) (app : App World) :
    (uipSend len app).rendered = app.rendered ∧ (uipSend len app).flags = app.flags := by
  unfold uipSend
  split <;> exact ⟨rfl, rfl⟩

/-- Every page that was printed stays on the list. -/
theorem sendPage_rendered (callbackFunc : PageServingFunction World) (app : App World) :
    app.rendered <:+ (sendPage callbackFunc app).rendered := by
  unfold sendPage send
  dsimp only
  rw [(uipSend_keeps _ _).1]
  split <;> simp only [(writeAll_keeps _ _).1] <;> exact List.suffix_cons _ _

theorem sendPage_flags (callbackFunc : PageServingFunction World) (app : App World) :
    (sendPage callbackFunc app).flags = app.flags := by
  unfold sendPage send
  dsimp only
  rw [(uipSend_keeps _ _).2]
  split <;> simp only [(writeAll_keeps _ _).2]

theorem onNewdata_flags (callbackFunc : PageServingFunction World) (datalen : Nat)
    (app : App World) : (onNewdata callbackFunc datalen app).flags = app.flags := by
  unfold onNewdata
  rcases processPacket datalen app.toIncoming with ⟨complete, incoming⟩
  dsimp only
  split
  · split
    · exact sendPage_flags callbackFunc { app with toIncoming := incoming }
    · rfl
  · rfl

/-- An acknowledgement does not ask for anything to be sent again. -/
theorem onAcked_rexmit (callbackFunc : PageServingFunction World) (app : App World)
    (rexmit : app.flags.rexmit = false) : (onAcked callbackFunc app).flags.rexmit = false := by
  unfold onAcked
  dsimp only
  split
  · split
    · rfl
    · rw [sendPage_flags]
      exact rexmit
  · exact rexmit

theorem onConnected_flags (app : App World) : (onConnected app).flags = app.flags := by
  unfold onConnected
  split <;> rfl

/-- What is done for a segment. -/
theorem serverTaskImpl_segment (callbackFunc : PageServingFunction World) (datalen : Nat)
    (app : App World) (rexmit : app.flags.rexmit = false) :
    serverTaskImpl callbackFunc datalen app =
      onEnded (onAcked callbackFunc (onNewdata callbackFunc datalen (onConnected app))) := by
  have stays := onAcked_rexmit callbackFunc (onNewdata callbackFunc datalen (onConnected app))
    (by rw [onNewdata_flags, onConnected_flags, rexmit])
  unfold serverTaskImpl
  dsimp only
  rw [onRexmit, stays]
  rfl

theorem onEnded_stays (app : App World)
    (stays : app.flags.abort = false ∧ app.flags.close = false ∧ app.flags.timedout = false) :
    onEnded app = app := by
  rw [onEnded, stays.1, stays.2.1, stays.2.2]
  rfl

/-- What is done for a segment that acknowledges nothing. -/
theorem serverTaskImpl_newdata (callbackFunc : PageServingFunction World) (datalen : Nat)
    (app : App World) (quiet : app.flags.rexmit = false ∧ app.flags.ackdata = false)
    (stays : app.flags.abort = false ∧ app.flags.close = false ∧ app.flags.timedout = false) :
    serverTaskImpl callbackFunc datalen app =
      onNewdata callbackFunc datalen (onConnected app) := by
  have flags : (onNewdata callbackFunc datalen (onConnected app)).flags = app.flags :=
    (onNewdata_flags callbackFunc datalen _).trans (onConnected_flags app)
  rw [serverTaskImpl_segment _ _ _ quiet.1, onAcked, flags, quiet.2, if_neg Bool.false_ne_true]
  exact onEnded_stays _ (flags ▸ stays)

/-- What is done when the timer has run out. -/
theorem serverTaskImpl_rexmit (callbackFunc : PageServingFunction World) (datalen : Nat)
    (app : App World) (flags : app.flags = { rexmit := true }) :
    serverTaskImpl callbackFunc datalen app = sendPage callbackFunc app := by
  unfold serverTaskImpl onConnected onNewdata onAcked onRexmit onEnded
  simp only [flags, Bool.false_eq_true, if_false, if_true, sendPage_flags, Bool.or_self]

theorem onNewdata_rendered (callbackFunc : PageServingFunction World) (datalen : Nat)
    (app : App World) : app.rendered <:+ (onNewdata callbackFunc datalen app).rendered := by
  unfold onNewdata
  rcases processPacket datalen app.toIncoming with ⟨complete, incoming⟩
  dsimp only
  split
  · split
    · exact sendPage_rendered callbackFunc { app with toIncoming := incoming }
    · exact List.suffix_rfl
  · exact List.suffix_rfl

theorem onAcked_rendered (callbackFunc : PageServingFunction World) (app : App World) :
    app.rendered <:+ (onAcked callbackFunc app).rendered := by
  unfold onAcked
  dsimp only
  split
  · split
    · exact List.suffix_rfl
    · exact sendPage_rendered callbackFunc { app with
        ackedCount := app.ackedCount + app.sentCount, sentCount := 0 }
  · exact List.suffix_rfl

theorem onEnded_rendered (app : App World) : (onEnded app).rendered = app.rendered := by
  unfold onEnded
  split <;> rfl

/-- **No event takes a page off the list.** -/
theorem serverTaskImpl_rendered (callbackFunc : PageServingFunction World) (datalen : Nat)
    (app : App World) : app.rendered <:+ (serverTaskImpl callbackFunc datalen app).rendered := by
  have connected : (onConnected app).rendered = app.rendered := by
    unfold onConnected
    split <;> rfl
  have rexmit (app : App World) : app.rendered <:+ (onRexmit callbackFunc app).rendered := by
    unfold onRexmit
    split
    · exact sendPage_rendered callbackFunc app
    · exact List.suffix_rfl
  unfold serverTaskImpl
  dsimp only
  rw [onEnded_rendered, ← connected]
  exact ((onNewdata_rendered callbackFunc datalen _).trans (onAcked_rendered callbackFunc _)).trans
    (rexmit _)

end EquinoxClock.Wifi
