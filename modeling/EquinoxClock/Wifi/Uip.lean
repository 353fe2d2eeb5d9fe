/-
The TCP connection under the web server.

`uip_process` is called for each segment that arrives for a connection and twice a second for its
timer. It has no memory for what it sends: the one segment under way is known by its length alone,
and the web server is called to print it again when the timer runs out. What is modelled is what
happens to a connection from the label `found` on, from the moment it is made for a SYN
(`foundListen`) until it is closed; segments with urgent data are left out. What is called for
`UIP_APPCALL` is a parameter, `task`: for the connections of port 80 it is the web server.
-/

import EquinoxClock.Wifi.Page
import EquinoxClock.Wifi.Sequence

namespace EquinoxClock.Wifi

open EquinoxClock.Lib

/-- `UIP_TS_MASK`. A connection that is not opened from here is never in `UIP_SYN_SENT`. -/
inductive TcpState where
  | closed
  | synRcvd
  | established
  | finWait1
  | finWait2
  | closing
  | timeWait
  | lastAck
  deriving DecidableEq

/-- `UIP_TCP_MSS`: `UIP_BUFSIZE` without the headers. -/
def uipTcpMss : UInt16 := 4000 - 14 - 40 - 17

/-- `UIP_RTO`. -/
def uipRto : UInt8 := 3

/-- `UIP_MAXRTX`. -/
def uipMaxrtx : UInt8 := 8

/-- `UIP_MAXSYNRTX`. -/
def uipMaxsynrtx : UInt8 := 5

/-- `UIP_TIME_WAIT_TIMEOUT`. -/
def uipTimeWaitTimeout : UInt8 := 120

/-- `struct uip_conn`, with its `conn_state`. -/
structure UipConn where
  rcvNxt : SeqNo
  sndNxt : SeqNo
  len : UInt16
  mss : UInt16
  initialmss : UInt16
  sa : UInt8
  sv : UInt8
  rto : UInt8
  tcpstateflags : TcpState
  timer : UInt8
  nrtx : UInt8
  ackedCount : Int
  sentCount : Int
  cursor : Int
  request : Bool

/-- What all connections share: `get_string_global`, and what the pages depend on. -/
structure Shared (World : Type*) where
  getStringGlobal : List UInt8
  world : World
  rendered : List (List UInt8)

/-- A segment that arrives: what is read of its header, and the number of bytes it carries. -/
structure Segment where
  seqno : SeqNo
  ackno : SeqNo
  fin : Bool
  syn : Bool
  rst : Bool
  ack : Bool
  wnd : UInt16
  len : UInt16

/-- A segment that is sent. -/
structure Packet where
  seqno : SeqNo
  ackno : SeqNo
  fin : Bool := false
  syn : Bool := false
  rst : Bool := false
  payload : List UInt8 := []

variable {World : Type*}

/-- A connection, what it shares, and what is sent. -/
abbrev Outcome (World : Type*) := UipConn × Shared World × Option Packet

/-- `found_listen`, for a place of the table that may have been used before: `mssOption` is the size
the SYN names, if it does. -/
def foundListen (slot : UipConn) (iss seqno : SeqNo) (mssOption : Option UInt16) : UipConn :=
  let conn := { slot with
    rto := uipRto, timer := uipRto, sa := 0, sv := 4, nrtx := 0, tcpstateflags := .synRcvd
    sndNxt := iss, len := 1, rcvNxt := uipAdd32 seqno 1 }
  match mssOption with
  | some tmp16 =>
      let mss := if tmp16 > uipTcpMss then uipTcpMss else tmp16
      { conn with initialmss := mss, mss := mss }
  | none => conn

/-- `uip_add_rcv_nxt`. -/
def uipAddRcvNxt (n : UInt16) (conn : UipConn) : UipConn :=
  { conn with rcvNxt := uipAdd32 conn.rcvNxt n }

/-- What the web server finds when it is called for a connection. -/
def UipConn.app (flags : Flags) (memory : Int → UInt8) (conn : UipConn) (shared : Shared World) :
    App World where
  memory := memory
  request := conn.request
  getStringGlobal := shared.getStringGlobal
  ackedCount := conn.ackedCount
  sentCount := conn.sentCount
  cursor := conn.cursor
  mss := conn.mss
  flags := flags
  slen := 0
  world := shared.world
  rendered := shared.rendered

/-- `UIP_APPCALL`, with some flags, for the bytes at `uip_appdata`. -/
def appcall (task : Nat → App World → App World) (flags : Flags) (datalen : UInt16)
    (memory : Int → UInt8) (conn : UipConn) (shared : Shared World) : App World :=
  task datalen.toNat (conn.app flags memory shared)

/-- The connection after the call. -/
def UipConn.called (conn : UipConn) (app : App World) : UipConn :=
  { conn with
    ackedCount := app.ackedCount, sentCount := app.sentCount, cursor := app.cursor
    request := app.request }

/-- What is shared, after the call. -/
def App.shared (app : App World) : Shared World :=
  ⟨app.getStringGlobal, app.world, app.rendered⟩

/-- `tcp_send`. -/
def tcpSend (conn : UipConn) (payload : List UInt8) : Packet :=
  { seqno := conn.sndNxt, ackno := conn.rcvNxt, payload }

/-- `tcp_send_finack`. -/
def tcpSendFinack (conn : UipConn) : Packet := { tcpSend conn [] with fin := true }

/-- `apprexmit`: the bytes under way, or else an acknowledgement of what has come. -/
def apprexmit (slen : UInt16) (conn : UipConn) (app : App World) : Outcome World :=
  if slen > 0 ∧ conn.len > 0 then
    (conn, app.shared, some (tcpSend conn (bytesFrom app.memory 0 conn.len.toNat)))
  else if app.flags.newdata then (conn, app.shared, some (tcpSend conn []))
  else (conn, app.shared, none)

/-- The first part of `appsend`: `uip_slen` within its limits, and the length under way. -/
def takeSlen (app : App World) (conn : UipConn) : UInt16 × UipConn :=
  if app.slen > 0 then
    let conn := if app.flags.ackdata then { conn with len := 0 } else conn
    if conn.len = 0 then
      let slen := if app.slen > conn.mss then conn.mss else app.slen
      (slen, { conn with len := slen })
    else (conn.len, conn)
  else (app.slen, conn)

/-- `appsend`. -/
def appsend (conn : UipConn) (app : App World) : Outcome World :=
  let conn := conn.called app
  if app.flags.abort then
    let conn := { conn with tcpstateflags := .closed }
    (conn, app.shared, some { tcpSend conn [] with rst := true })
  else if app.flags.close then
    let conn := { conn with len := 1, tcpstateflags := .finWait1, nrtx := 0 }
    (conn, app.shared, some (tcpSendFinack conn))
  else
    let (slen, conn) := takeSlen app conn
    apprexmit slen { conn with nrtx := 0 } app

/-- The estimate of the round trip, unless something was sent again. -/
def estimateRtt (conn : UipConn) : UipConn :=
  if conn.nrtx = 0 then
    let m := conn.rto - conn.timer
    let m := m - conn.sa >>> 3
    let sa := conn.sa + m
    let m := if m ≥ 128 then -m else m
    let m := m - conn.sv >>> 2
    let sv := conn.sv + m
    { conn with sa, sv, rto := sa >>> 3 + sv }
  else conn

/-- Whether a segment acknowledges what is under way. -/
def acknowledges (seg : Segment) (conn : UipConn) : Bool :=
  seg.ack && conn.len != 0 && seg.ackno == uipAdd32 conn.sndNxt conn.len

/-- What an acknowledgement changes. -/
def acknowledge (conn : UipConn) : UipConn :=
  let conn := estimateRtt { conn with sndNxt := uipAdd32 conn.sndNxt conn.len }
  { conn with timer := conn.rto, len := 0 }

/-- The packet size that a segment leaves, by the window it names. -/
def windowMss (seg : Segment) (conn : UipConn) : UInt16 :=
  if seg.wnd > conn.initialmss ∨ seg.wnd = 0 then conn.initialmss else seg.wnd

section Process

variable (task : Nat → App World → App World)

/-- A call that leads to nothing being sent by itself. -/
def notify (flags : Flags) (memory : Int → UInt8) (conn : UipConn) (shared : Shared World) :
    UipConn × Shared World :=
  let app := appcall task flags 0 memory conn shared
  (conn.called app, app.shared)

/-- `UIP_SYN_RCVD`. -/
def inSynRcvd (seg : Segment) (memory : Int → UInt8) (ackdata : Bool) (conn : UipConn)
    (shared : Shared World) : Outcome World :=
  if ackdata then
    let conn := { conn with tcpstateflags := .established, len := 0 }
    let conn := if seg.len > 0 then uipAddRcvNxt seg.len conn else conn
    let flags : Flags := { connected := true, newdata := seg.len > 0 }
    appsend conn (appcall task flags seg.len memory conn shared)
  else (conn, shared, none)

/-- `UIP_ESTABLISHED`. -/
def inEstablished (seg : Segment) (memory : Int → UInt8) (ackdata : Bool) (conn : UipConn)
    (shared : Shared World) : Outcome World :=
  let newdata : Bool := seg.len > 0
  let flags : Flags := { ackdata, newdata }
  if seg.fin then
    if conn.len ≠ 0 then (conn, shared, none)
    else
      let conn := uipAddRcvNxt (1 + seg.len) conn
      let app := appcall task { flags with close := true } seg.len memory conn shared
      let conn := { conn.called app with len := 1, tcpstateflags := .lastAck, nrtx := 0 }
      (conn, app.shared, some (tcpSendFinack conn))
  else
    let conn := if newdata then uipAddRcvNxt seg.len conn else conn
    let conn := { conn with mss := windowMss seg conn }
    if newdata || ackdata then appsend conn (appcall task flags seg.len memory conn shared)
    else (conn, shared, none)

/-- `UIP_LAST_ACK`. -/
def inLastAck (memory : Int → UInt8) (ackdata : Bool) (conn : UipConn) (shared : Shared World) :
    Outcome World :=
  if ackdata then
    let (conn, shared) :=
      notify task { close := true } memory { conn with tcpstateflags := .closed } shared
    (conn, shared, none)
  else (conn, shared, none)

/-- The end of `UIP_FIN_WAIT_1` and of `UIP_FIN_WAIT_2`, when the peer closes too. -/
def finReceived (memory : Int → UInt8) (conn : UipConn) (shared : Shared World) : Outcome World :=
  let (conn, shared) := notify task { close := true } memory (uipAddRcvNxt 1 conn) shared
  (conn, shared, some (tcpSend conn []))

/-- `UIP_FIN_WAIT_1`. -/
def inFinWait1 (seg : Segment) (memory : Int → UInt8) (ackdata : Bool) (conn : UipConn)
    (shared : Shared World) : Outcome World :=
  let conn := if seg.len > 0 then uipAddRcvNxt seg.len conn else conn
  if seg.fin then
    let conn :=
      if ackdata then { conn with tcpstateflags := .timeWait, timer := 0, len := 0 }
      else { conn with tcpstateflags := .closing }
    finReceived task memory conn shared
  else if ackdata then ({ conn with tcpstateflags := .finWait2, len := 0 }, shared, none)
  else (conn, shared, if seg.len > 0 then some (tcpSend conn []) else none)

/-- `UIP_FIN_WAIT_2`. -/
def inFinWait2 (seg : Segment) (memory : Int → UInt8) (conn : UipConn) (shared : Shared World) :
    Outcome World :=
  let conn := if seg.len > 0 then uipAddRcvNxt seg.len conn else conn
  if seg.fin then
    finReceived task memory { conn with tcpstateflags := .timeWait, timer := 0 } shared
  else (conn, shared, if seg.len > 0 then some (tcpSend conn []) else none)

/-- `UIP_CLOSING`. -/
def inClosing (ackdata : Bool) (conn : UipConn) : UipConn :=
  if ackdata then { conn with tcpstateflags := .timeWait, timer := 0 } else conn

/-- `uip_process` for a segment, from the label `found` on. A segment for a closed connection is not
found to be for it. -/
def uipInput (seg : Segment) (memory : Int → UInt8) (conn : UipConn) (shared : Shared World) :
    Outcome World :=
  if conn.tcpstateflags = .closed then (conn, shared, none)
  else if seg.rst then
    let (conn, shared) :=
      notify task { abort := true } memory { conn with tcpstateflags := .closed } shared
    (conn, shared, none)
  else if (seg.len > 0 ∨ seg.syn ∨ seg.fin) ∧ seg.seqno ≠ conn.rcvNxt then
    (conn, shared, some (tcpSend conn []))
  else
    let ackdata := acknowledges seg conn
    let conn := if ackdata then acknowledge conn else conn
    match conn.tcpstateflags with
    | .closed => (conn, shared, none)
    | .synRcvd => inSynRcvd task seg memory ackdata conn shared
    | .established => inEstablished task seg memory ackdata conn shared
    | .lastAck => inLastAck task memory ackdata conn shared
    | .finWait1 => inFinWait1 task seg memory ackdata conn shared
    | .finWait2 => inFinWait2 task seg memory conn shared
    | .timeWait => (conn, shared, some (tcpSend conn []))
    | .closing => (inClosing ackdata conn, shared, none)

/-- The retransmission, when the timer has run out. -/
def retransmit (memory : Int → UInt8) (conn : UipConn) (shared : Shared World) : Outcome World :=
  match conn.tcpstateflags with
  | .synRcvd => (conn, shared, some { tcpSend conn [] with syn := true })
  | .established =>
      let app := appcall task { rexmit := true } 0 memory conn shared
      apprexmit app.slen (conn.called app) app
  | .finWait1 | .closing | .lastAck => (conn, shared, some (tcpSendFinack conn))
  | .closed | .finWait2 | .timeWait => (conn, shared, none)

/-- `uip_process` for the timer. -/
def uipTimer (memory : Int → UInt8) (conn : UipConn) (shared : Shared World) : Outcome World :=
  if conn.tcpstateflags = .timeWait ∨ conn.tcpstateflags = .finWait2 then
    let conn := { conn with timer := conn.timer + 1 }
    (if conn.timer = uipTimeWaitTimeout then { conn with tcpstateflags := .closed } else conn,
      shared, none)
  else if conn.tcpstateflags ≠ .closed then
    if conn.len ≠ 0 then
      let expired := conn.timer = 0
      let conn := { conn with timer := conn.timer - 1 }
      if expired then
        if conn.nrtx = uipMaxrtx ∨
            conn.tcpstateflags = .synRcvd ∧ conn.nrtx = uipMaxsynrtx then
          let (conn, shared) := notify task { timedout := true } memory
            { conn with tcpstateflags := .closed } shared
          (conn, shared, some { tcpSend conn [] with rst := true })
        else
          let timer := uipRto <<< (if conn.nrtx > 4 then (4 : UInt8) else conn.nrtx)
          retransmit task memory { conn with timer, nrtx := conn.nrtx + 1 } shared
      else (conn, shared, none)
    else if conn.tcpstateflags = .established then
      appsend conn (appcall task { poll := true } 0 memory conn shared)
    else (conn, shared, none)
  else (conn, shared, none)

end Process

/-- An acknowledgement changes the number, the length and the timer. -/
theorem acknowledge_frame (conn : UipConn) : ∃ sa sv rto timer, acknowledge conn =
    { conn with sndNxt := uipAdd32 conn.sndNxt conn.len, len := 0, sa, sv, rto, timer } := by
  unfold acknowledge estimateRtt
  dsimp only
  split <;> exact ⟨_, _, _, _, rfl⟩

theorem acknowledge_tcpstateflags (ackdata : Bool) (conn : UipConn) :
    (if ackdata then acknowledge conn else conn).tcpstateflags = conn.tcpstateflags := by
  obtain ⟨sa, sv, rto, timer, frame⟩ := acknowledge_frame conn
  cases ackdata with
  | false => rfl
  | true => rw [if_pos rfl, frame]

/-- A connection knows how large its packets may be. -/
def UipConn.Sized (conn : UipConn) : Prop := conn.mss ≠ 0 ∧ conn.initialmss ≠ 0

theorem acknowledge_sized (ackdata : Bool) (conn : UipConn) :
    (if ackdata then acknowledge conn else conn).Sized ↔ conn.Sized := by
  obtain ⟨sa, sv, rto, timer, frame⟩ := acknowledge_frame conn
  cases ackdata with
  | false => rfl
  | true =>
      rw [if_pos rfl, frame]
      rfl

/-- A segment that is taken changes the number of the next one and the packet size. -/
theorem windowMss_frame (seg : Segment) (newdata : Bool) (conn : UipConn) :
    ∃ rcvNxt, ({ (if newdata then uipAddRcvNxt seg.len conn else conn) with
      mss := windowMss seg (if newdata then uipAddRcvNxt seg.len conn else conn) } : UipConn) =
        { conn with rcvNxt, mss := windowMss seg conn } := by
  cases newdata <;> exact ⟨_, rfl⟩

/-- A segment that acknowledges names the number behind what is under way. -/
theorem acknowledges_iff {seg : Segment} {conn : UipConn} :
    acknowledges seg conn = true ↔
      seg.ack = true ∧ conn.len ≠ 0 ∧ seg.ackno = uipAdd32 conn.sndNxt conn.len := by
  simp only [acknowledges, Bool.and_eq_true, bne_iff_ne, beq_iff_eq, and_assoc]

/-- A segment that comes next is passed on, on an established connection. -/
theorem uipInput_established {task : Nat → App World → App World} {seg : Segment} {conn : UipConn}
    (memory : Int → UInt8) (shared : Shared World) (established : conn.tcpstateflags = .established)
    (rst : seg.rst = false)
    (next : seg.len > 0 ∨ seg.syn = true ∨ seg.fin = true → seg.seqno = conn.rcvNxt) :
    uipInput task seg memory conn shared =
      inEstablished task seg memory (acknowledges seg conn)
        (if acknowledges seg conn then acknowledge conn else conn) shared := by
  have stays := acknowledge_tcpstateflags (acknowledges seg conn) conn
  unfold uipInput
  rw [if_neg (established ▸ TcpState.noConfusion), rst, if_neg Bool.false_ne_true,
    if_neg fun strange => strange.2 (next strange.1)]
  dsimp only
  rw [stays, established]

section Sending

variable {conn : UipConn} {app : App World}

/-- Nothing to send: new data is acknowledged. -/
theorem appsend_quiet (stays : app.flags.abort = false ∧ app.flags.close = false)
    (slen : app.slen = 0) : appsend conn app =
      ({ conn.called app with nrtx := 0 }, app.shared,
        if app.flags.newdata then some (tcpSend conn []) else none) := by
  have none : takeSlen app (conn.called app) = (0, conn.called app) := by
    rw [takeSlen, slen, if_neg (UInt16.lt_irrefl 0)]
  unfold appsend
  simp only [stays.1, stays.2, Bool.false_eq_true, if_false, none]
  unfold apprexmit
  rw [if_neg fun sends => UInt16.lt_irrefl 0 sends.1]
  split <;> rfl

/-- The end of the connection. -/
theorem appsend_close (stays : app.flags.abort = false) (close : app.flags.close = true) :
    appsend conn app =
      ({ conn.called app with len := 1, tcpstateflags := .finWait1, nrtx := 0 }, app.shared,
        some (tcpSendFinack conn)) := by
  unfold appsend
  simp only [stays, close, Bool.false_eq_true, if_false, if_true]
  rfl

/-- A part of the page takes its own length, whether it is the first time or not. -/
theorem takeSlen_part (slen : 0 < app.slen) (fits : app.slen ≤ conn.mss)
    (flow : conn.len = 0 ∨ conn.len = app.slen) :
    takeSlen app conn = (app.slen, { conn with len := app.slen }) := by
  have smaller : ¬ app.slen > conn.mss := UInt16.not_lt.mpr fits
  rw [takeSlen, if_pos slen]
  dsimp only
  split
  · rw [if_pos rfl]
  · rcases flow with idle | again
    · rw [if_pos idle]
    · rw [again, if_neg (UInt16.ne_of_lt slen).symm, ← again]

/-- A part of the page is sent. -/
theorem appsend_part (stays : app.flags.abort = false ∧ app.flags.close = false)
    (slen : 0 < app.slen) (fits : app.slen ≤ conn.mss) (flow : conn.len = 0 ∨ conn.len = app.slen) :
    appsend conn app =
      ({ conn.called app with len := app.slen, nrtx := 0 }, app.shared,
        some (tcpSend conn (bytesFrom app.memory 0 app.slen.toNat))) := by
  unfold appsend
  simp only [stays.1, stays.2, Bool.false_eq_true, if_false]
  rw [show takeSlen app (conn.called app) = (app.slen, { conn.called app with len := app.slen })
    from takeSlen_part slen fits flow]
  unfold apprexmit
  rw [if_pos ⟨slen, slen⟩]
  rfl

/-- **What is due of a page is sent**, and is under way then. It may have been under way before. -/
theorem appsend_pageSent {acked : Nat} {page : List UInt8} {called : App World}
    (pageSent : PageSent acked page called app)
    (stays : app.flags.abort = false ∧ app.flags.close = false) (mss : conn.mss = called.mss)
    (more : 0 < due acked called.mss page)
    (flow : conn.len.toNat = 0 ∨ conn.len.toNat = due acked called.mss page) :
    appsend conn app =
      ({ conn.called app with len := UInt16.ofNat (due acked called.mss page), nrtx := 0 },
        app.shared,
        some (tcpSend conn ((page.drop acked).take (due acked called.mss page)))) := by
  have due_le : due acked called.mss page ≤ conn.mss.toNat := mss ▸ Nat.min_le_left _ _
  have slen := pageSent.slen
  rw [if_pos more] at slen
  have toNat : app.slen.toNat = due acked called.mss page := by
    rw [slen]
    exact UInt16.toNat_ofNat_of_lt' (due_le.trans_lt conn.mss.toNat_lt)
  have positive : 0 < app.slen := UInt16.lt_iff_toNat_lt.mpr (toNat ▸ more)
  have fits : app.slen ≤ conn.mss := UInt16.le_iff_toNat_le.mpr (toNat ▸ due_le)
  have flow : conn.len = 0 ∨ conn.len = app.slen :=
    flow.imp UInt16.toNat_inj.mp fun again => UInt16.toNat_inj.mp (again.trans toNat.symm)
  rw [appsend_part stays positive fits flow, toNat, pageSent.payload, slen]

theorem takeSlen_frame (app : App World) (conn : UipConn) :
    ∃ len, (takeSlen app conn).2 = { conn with len } := by
  unfold takeSlen
  dsimp only
  split
  · split
    · split
      · exact ⟨_, rfl⟩
      · exact ⟨_, rfl⟩
    · split <;> exact ⟨_, rfl⟩
  · exact ⟨conn.len, rfl⟩

/-- `appsend` leaves the state and the count alone, unless it is the end. -/
theorem appsend_stays (stays : app.flags.abort = false ∧ app.flags.close = false) :
    (appsend conn app).1.tcpstateflags = conn.tcpstateflags ∧
      (appsend conn app).1.ackedCount = app.ackedCount := by
  obtain ⟨len, frame⟩ := takeSlen_frame app (conn.called app)
  unfold appsend apprexmit
  simp only [stays.1, stays.2, Bool.false_eq_true, if_false, frame]
  split
  · exact ⟨rfl, rfl⟩
  · split <;> exact ⟨rfl, rfl⟩

end Sending

theorem apprexmit_shared (slen : UInt16) (conn : UipConn) (app : App World) :
    (apprexmit slen conn app).2.1 = app.shared := by
  unfold apprexmit
  split
  · rfl
  · split <;> rfl

theorem appsend_shared (conn : UipConn) (app : App World) :
    (appsend conn app).2.1 = app.shared := by
  unfold appsend
  dsimp only
  split
  · rfl
  · split
    · rfl
    · exact apprexmit_shared ..

section Rendered

variable {task : Nat → App World → App World}
  (keeps : ∀ datalen app, app.rendered <:+ (task datalen app).rendered)
  (memory : Int → UInt8) (shared : Shared World)

include keeps

theorem appcall_rendered (flags : Flags) (datalen : UInt16) (conn : UipConn) :
    shared.rendered <:+ (appcall task flags datalen memory conn shared).shared.rendered :=
  keeps datalen.toNat (conn.app flags memory shared)

/-- **No segment takes a page off the list.** -/
theorem uipInput_rendered (seg : Segment) (conn : UipConn) :
    shared.rendered <:+ (uipInput task seg memory conn shared).2.1.rendered := by
  unfold uipInput
  split
  · exact List.suffix_rfl
  split
  · exact appcall_rendered keeps ..
  split
  · exact List.suffix_rfl
  dsimp only
  generalize (if acknowledges seg conn = true then acknowledge conn else conn) = conn
  split
  · exact List.suffix_rfl
  · unfold inSynRcvd
    split
    · rw [appsend_shared]
      exact appcall_rendered keeps ..
    · exact List.suffix_rfl
  · unfold inEstablished
    dsimp only
    split
    · split
      · exact List.suffix_rfl
      · exact appcall_rendered keeps ..
    · split
      · rw [appsend_shared]
        exact appcall_rendered keeps ..
      · exact List.suffix_rfl
  · unfold inLastAck
    split
    · exact appcall_rendered keeps ..
    · exact List.suffix_rfl
  · unfold inFinWait1
    dsimp only
    split
    · exact appcall_rendered keeps ..
    · split <;> exact List.suffix_rfl
  · unfold inFinWait2
    dsimp only
    split
    · exact appcall_rendered keeps ..
    · exact List.suffix_rfl
  · exact List.suffix_rfl
  · exact List.suffix_rfl

theorem retransmit_rendered (conn : UipConn) :
    shared.rendered <:+ (retransmit task memory conn shared).2.1.rendered := by
  unfold retransmit
  split
  · exact List.suffix_rfl
  · dsimp only
    rw [apprexmit_shared]
    exact appcall_rendered keeps ..
  all_goals exact List.suffix_rfl

/-- **Nor does the timer.** -/
theorem uipTimer_rendered (conn : UipConn) :
    shared.rendered <:+ (uipTimer task memory conn shared).2.1.rendered := by
  unfold uipTimer
  split
  · exact List.suffix_rfl
  split
  · split
    · dsimp only
      split
      · split
        · exact appcall_rendered keeps ..
        · exact retransmit_rendered keeps ..
      · exact List.suffix_rfl
    · split
      · rw [appsend_shared]
        exact appcall_rendered keeps ..
      · exact List.suffix_rfl
  · exact List.suffix_rfl

end Rendered

end EquinoxClock.Wifi
