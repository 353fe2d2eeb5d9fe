/-
Which requests are answered.

A request that arrives in one segment is answered at once, with the first part of the page for its
URL (`request_answered`). A request whose first line is cut between two segments is not answered at
all: the server keeps nothing of a line that does not end in its segment, and goes on to read the
headers of a request it does not know. `rendered_nil` says so of whole runs: as long as no segment
has a whole line that asks, no page is ever printed.
-/

import EquinoxClock.Wifi.Delivery
import EquinoxClock.Wifi.Lines

namespace EquinoxClock.Wifi

open EquinoxClock.Lib

variable {World : Type*} (callbackFunc : PageServingFunction World)

/-- **A request that stands in the packet has the page sent** for its URL. -/
theorem serverTaskImpl_requestText {app : App World} {eol url version : List UInt8}
    {headers : List (List UInt8)} (flags : app.flags = { newdata := true })
    (fresh : app.request = false) (last : app.getStringGlobal.drop 63 = [0]) (isEol : IsEol eol)
    (nonempty : url ≠ []) (plain : ∀ c ∈ url, c ≠ 0 ∧ c ≠ 32 ∧ c ≠ lf)
    (holds : Holds app.memory (requestText eol url version headers)) :
    ∃ incoming : Incoming, incoming.getStringGlobal = strncpyBytes 63 url ++ [0] ∧
      serverTaskImpl callbackFunc (requestText eol url version headers).length app =
        sendPage callbackFunc { app with toIncoming := incoming } := by
  have read := processPacket_requestText isEol nonempty plain holds fresh last
  rcases result : processPacket (requestText eol url version headers).length app.toIncoming
    with ⟨complete, incoming⟩
  rw [result] at read
  obtain ⟨rfl, request, stored⟩ := read
  refine ⟨incoming, stored, ?_⟩
  rw [serverTaskImpl_newdata _ _ _ (by rw [flags]; exact ⟨rfl, rfl⟩)
    (by rw [flags]; exact ⟨rfl, rfl, rfl⟩), onConnected, flags, if_neg Bool.false_ne_true, onNewdata,
    flags, if_pos rfl, result]
  dsimp only
  rw [request]
  rfl

/-- **A request in one segment is answered** with the first part of the page for its URL. -/
theorem request_answered {conn : UipConn} {shared : Shared World} {seg : Segment}
    {memory : Int → UInt8} {eol url version : List UInt8} {headers : List (List UInt8)}
    (established : conn.tcpstateflags = .established)
    (fresh : conn.len = 0 ∧ conn.request = false ∧ conn.ackedCount = 0)
    (last : shared.getStringGlobal.drop 63 = [0])
    (next : seg.seqno = conn.rcvNxt ∧ seg.rst = false ∧ seg.fin = false)
    (sized : windowMss seg conn ≠ 0)
    (isEol : IsEol eol) (nonempty : url ≠ []) (plain : ∀ c ∈ url, c ≠ 0 ∧ c ≠ 32 ∧ c ≠ lf)
    (len : seg.len.toNat = (requestText eol url version headers).length)
    (holds : Holds memory (requestText eol url version headers)) :
    let page := pageOf callbackFunc (strncpyBytes 63 url ++ [0]) shared.world
    let outcome := uipInput (serverTaskImpl callbackFunc) seg memory conn shared
    outcome.2.1.rendered = page :: shared.rendered ∧
      outcome.2.2 = some {
        seqno := conn.sndNxt, ackno := uipAdd32 conn.rcvNxt seg.len
        payload := page.take (windowMss seg conn).toNat } := by
  intro page outcome
  obtain ⟨idle, request, ackedCount⟩ := fresh
  obtain ⟨seqno, rst, fin⟩ := next
  have newdata : seg.len > 0 := by
    rw [gt_iff_lt, UInt16.lt_iff_toNat_lt, len, UInt16.toNat_zero, requestText]
    simp [ascii]
  have unknown : acknowledges seg conn = false :=
    Bool.eq_false_iff.mpr fun ackdata => (acknowledges_iff.mp ackdata).2.1 idle
  set conn' : UipConn := { uipAddRcvNxt seg.len conn with mss := windowMss seg conn } with conn'_eq
  have input : outcome =
      appsend conn'
        (appcall (serverTaskImpl callbackFunc) { newdata := true } seg.len memory conn' shared) := by
    show uipInput _ _ _ _ _ = _
    rw [uipInput_established memory shared established rst fun _ => seqno, unknown,
      if_neg Bool.false_ne_true, inEstablished, fin, if_neg Bool.false_ne_true, decide_eq_true newdata]
    rfl
  -- the request is read, and the page is sent
  obtain ⟨incoming, stored, called⟩ := @serverTaskImpl_requestText _ callbackFunc
    (conn'.app { newdata := true } memory shared) eol url version headers rfl request last isEol
    nonempty plain holds
  rw [← len] at called
  have pageSent : PageSent 0 page
      { conn'.app { newdata := true } memory shared with toIncoming := incoming }
      (appcall (serverTaskImpl callbackFunc) { newdata := true } seg.len memory conn' shared) := by
    rw [appcall, called, show page = pageOf callbackFunc incoming.getStringGlobal shared.world by
      rw [stored]]
    exact @sendPage_pageSent _ callbackFunc 0
      { conn'.app { newdata := true } memory shared with toIncoming := incoming } ackedCount
  have more : 0 < due 0 conn'.mss page :=
    lt_min (UInt16.pos_iff_ne_zero.mpr sized) (List.length_pos_iff.mpr pageSent.nonempty)
  have sent : appsend conn' _ = _ := appsend_pageSent pageSent
    (by rw [pageSent.flags]; exact ⟨rfl, rfl⟩) rfl more (Or.inl (congrArg UInt16.toNat idle))
  rw [input, sent]
  refine ⟨pageSent.rendered, ?_⟩
  show some (tcpSend conn' ((page.drop 0).take (min (windowMss seg conn).toNat page.length))) = _
  rw [List.drop_zero, ← List.take_eq_take_min]
  rfl

theorem request_answered_countedPages :
    let page := pageOf countedPages (strncpyBytes 63 (ascii "/") ++ [0]) 48
    let outcome := uipInput (serverTaskImpl countedPages) (ackOf 0 1 8)
      (fun place => (ascii "GET / \n\n").getD place.toNat 0)
      { unusedSlot with tcpstateflags := .established, rcvNxt := ⟨0, 0, 0, 1⟩, initialmss := 12 }
      ⟨List.replicate 64 0, 48, []⟩
    outcome.2.1.rendered = [page] ∧
      outcome.2.2 = some { seqno := ⟨0, 0, 0, 0⟩, ackno := ⟨0, 0, 0, 9⟩, payload := page.take 12 } :=
  @request_answered _ countedPages
    { unusedSlot with tcpstateflags := .established, rcvNxt := ⟨0, 0, 0, 1⟩, initialmss := 12 }
    ⟨List.replicate 64 0, 48, []⟩ (ackOf 0 1 8)
    (fun place => (ascii "GET / \n\n").getD place.toNat 0) [lf] (ascii "/") [] []
    rfl ⟨rfl, rfl, rfl⟩ rfl ⟨rfl, rfl, rfl⟩ (by decide) (Or.inl rfl) (by decide)
    (List.forall_mem_singleton.mpr ⟨by decide, by decide, by decide⟩) rfl
    fun index byte found => by
      show (requestText [lf] (ascii "/") [] []).getD index 0 = byte
      rw [List.getD_eq_getElem?_getD, found, Option.getD_some]

/-- No line of a segment asks for a page. -/
def Unread (memory : Int → UInt8) (len : UInt16) : Prop :=
  ¬ ∃ start stop, GetLine memory start stop ∧ stop < len.toNat

/-- Nothing was printed, and the connection has no request. -/
def Unasked (shared : Shared World) (conn : UipConn) : Prop :=
  shared.rendered = [] ∧
    (conn.tcpstateflags = .established → conn.request = false ∧ conn.len = 0)

section Unasked

variable {conn : UipConn} {shared : Shared World} {seg : Segment} {memory : Int → UInt8}

/-- It is so of a connection that is not established. -/
theorem unasked_of_ne (none : shared.rendered = []) (state : conn.tcpstateflags ≠ .established) :
    Unasked shared conn :=
  ⟨none, fun established => absurd established state⟩

/-- New data without such a line leaves the connection without a request. -/
theorem onNewdata_unread {datalen : UInt16} {app : App World} (fresh : app.request = false)
    (unread : Unread app.memory datalen) : ∃ incoming : Incoming, incoming.request = false ∧
      onNewdata callbackFunc datalen.toNat app = { app with toIncoming := incoming } := by
  unfold onNewdata
  split
  · have kept : (processPacket datalen.toNat app.toIncoming).2.request = false :=
      Bool.eq_false_iff.mpr fun asked =>
        unread (processPacket_request_line datalen.toNat app.toIncoming fresh asked)
    rcases result : processPacket datalen.toNat app.toIncoming with ⟨complete, incoming⟩
    rw [result] at kept
    refine ⟨incoming, kept, ?_⟩
    dsimp only at kept ⊢
    rw [kept, Bool.and_false, if_neg Bool.false_ne_true]
  · exact ⟨app.toIncoming, fresh, rfl⟩

theorem serverTaskImpl_unread {datalen : UInt16} {app : App World}
    (quiet : app.flags.connected = false ∧ app.flags.ackdata = false ∧ app.flags.rexmit = false)
    (fresh : app.request = false) (unread : Unread app.memory datalen) :
    (serverTaskImpl callbackFunc datalen.toNat app).rendered = app.rendered := by
  obtain ⟨incoming, -, unchanged⟩ := onNewdata_unread callbackFunc fresh unread
  rw [serverTaskImpl_segment _ _ _ quiet.2.2, onEnded_rendered, onConnected, quiet.1,
    if_neg Bool.false_ne_true, unchanged, onAcked]
  dsimp only
  rw [quiet.2.1, if_neg Bool.false_ne_true]

/-- What is sent then is an acknowledgement at most. -/
theorem appsend_unread {datalen : UInt16} {app : App World} (fresh : app.request = false)
    (unread : Unread app.memory datalen) (stays : app.flags.abort = false ∧ app.flags.close = false)
    (slen : app.slen = 0) (none : app.rendered = []) (idle : conn.len = 0) :
    let outcome := appsend conn (onNewdata callbackFunc datalen.toNat app)
    Unasked outcome.2.1 outcome.1 ∧ Bare outcome.2.2 := by
  obtain ⟨incoming, request, unchanged⟩ := onNewdata_unread callbackFunc fresh unread
  rw [unchanged, @appsend_quiet _ conn { app with toIncoming := incoming } stays slen]
  exact ⟨⟨none, fun _ => ⟨request, idle⟩⟩, bare_if _ conn⟩

/-- After the end nothing is printed. -/
theorem unasked_served {outcome : Outcome World} (none : shared.rendered = [])
    (same : outcome.2.1.rendered = shared.rendered)
    (served : outcome.1.tcpstateflags.served = true ∧ Bare outcome.2.2) :
    Unasked outcome.2.1 outcome.1 ∧ Bare outcome.2.2 := by
  refine ⟨unasked_of_ne (same.trans none) fun established => ?_, served.2⟩
  rw [established] at served
  exact Bool.false_ne_true served.1

theorem inSynRcvd_unasked {ackdata : Bool} (none : shared.rendered = [])
    (synRcvd : conn.tcpstateflags = .synRcvd) (unread : Unread memory seg.len) :
    let outcome := inSynRcvd (serverTaskImpl callbackFunc) seg memory ackdata conn shared
    Unasked outcome.2.1 outcome.1 ∧ Bare outcome.2.2 := by
  unfold inSynRcvd
  cases ackdata with
  | false =>
      have state : conn.tcpstateflags ≠ .established := by
        rw [synRcvd]
        exact TcpState.noConfusion
      exact ⟨unasked_of_ne none state, bare_none⟩
  | true =>
      rw [if_pos rfl]
      dsimp only
      rw [appcall, serverTaskImpl_newdata _ _ _ ⟨rfl, rfl⟩ ⟨rfl, rfl, rfl⟩]
      refine appsend_unread callbackFunc rfl unread ⟨rfl, rfl⟩ rfl none ?_
      split <;> rfl

theorem inEstablished_unasked (unasked : Unasked shared conn)
    (established : conn.tcpstateflags = .established) (unread : Unread memory seg.len) :
    let outcome := inEstablished (serverTaskImpl callbackFunc) seg memory false conn shared
    Unasked outcome.2.1 outcome.1 ∧ Bare outcome.2.2 := by
  obtain ⟨none, fresh⟩ := unasked
  obtain ⟨request, idle⟩ := fresh established
  obtain ⟨rcvNxt, frame⟩ := windowMss_frame seg (decide (seg.len > 0)) conn
  unfold inEstablished
  dsimp only
  split
  · rw [if_neg fun outstanding => outstanding idle]
    have rendered := @serverTaskImpl_unread _ callbackFunc seg.len
      ((uipAddRcvNxt (1 + seg.len) conn).app { newdata := seg.len > 0, close := true } memory shared)
      ⟨rfl, rfl, rfl⟩ request unread
    exact ⟨unasked_of_ne (rendered.trans none) TcpState.noConfusion, bare_tcpSendFinack _⟩
  · rw [frame]
    split
    · rw [appcall, serverTaskImpl_newdata _ _ _ ⟨rfl, rfl⟩ ⟨rfl, rfl, rfl⟩]
      exact appsend_unread callbackFunc request unread ⟨rfl, rfl⟩ rfl none idle
    · exact ⟨⟨none, fun _ => ⟨request, idle⟩⟩, bare_none⟩

/-- **A segment without such a line** has nothing printed, by cases on the state of the connection.
-/
theorem uipInput_unasked (unasked : Unasked shared conn) (unread : Unread memory seg.len) :
    let outcome := uipInput (serverTaskImpl callbackFunc) seg memory conn shared
    Unasked outcome.2.1 outcome.1 ∧ Bare outcome.2.2 := by
  obtain ⟨none, idle⟩ := unasked
  have kept := acknowledge_tcpstateflags (acknowledges seg conn) conn
  unfold uipInput
  by_cases closed : conn.tcpstateflags = .closed
  · rw [if_pos closed]
    exact ⟨⟨none, idle⟩, bare_none⟩
  rw [if_neg closed]
  by_cases rst : seg.rst = true
  · rw [if_pos rst]
    exact ⟨unasked_of_ne none TcpState.noConfusion, bare_none⟩
  rw [if_neg rst]
  by_cases strange : (seg.len > 0 ∨ seg.syn ∨ seg.fin) ∧ seg.seqno ≠ conn.rcvNxt
  · rw [if_pos strange]
    exact ⟨⟨none, idle⟩, bare_tcpSend conn⟩
  rw [if_neg strange]
  dsimp only
  cases state : conn.tcpstateflags <;> rw [state] at kept <;> rw [kept] <;> dsimp only
  case closed => exact absurd state closed
  case synRcvd => exact inSynRcvd_unasked callbackFunc none kept unread
  case established =>
    have unknown : acknowledges seg conn = false :=
      Bool.eq_false_iff.mpr fun ackdata => (acknowledges_iff.mp ackdata).2.1 (idle state).2
    rw [unknown, if_neg Bool.false_ne_true]
    exact inEstablished_unasked callbackFunc ⟨none, idle⟩ state unread
  case finWait1 =>
    refine unasked_served none ?_ (inFinWait1_served callbackFunc _ kept)
    unfold inFinWait1
    dsimp only
    split
    · rfl
    · split <;> rfl
  case finWait2 =>
    refine unasked_served none ?_ (inFinWait2_served callbackFunc kept)
    unfold inFinWait2
    dsimp only
    split <;> rfl
  case closing =>
    exact @unasked_served _ _ (_, shared, Option.none) none rfl
      ⟨inClosing_served _ kept, bare_none⟩
  case timeWait =>
    refine ⟨unasked_of_ne none ?_, bare_tcpSend _⟩
    rw [kept]
    exact TcpState.noConfusion
  case lastAck =>
    unfold inLastAck
    split
    · exact ⟨unasked_of_ne none TcpState.noConfusion, bare_none⟩
    · refine ⟨unasked_of_ne none ?_, bare_none⟩
      rw [state]
      exact TcpState.noConfusion

/-- Nor has the timer anything printed. -/
theorem uipTimer_unasked (unasked : Unasked shared conn) :
    let outcome := uipTimer (serverTaskImpl callbackFunc) memory conn shared
    Unasked outcome.2.1 outcome.1 ∧ Bare outcome.2.2 := by
  obtain ⟨none, idle⟩ := unasked
  unfold uipTimer
  by_cases waiting : conn.tcpstateflags = .timeWait ∨ conn.tcpstateflags = .finWait2
  · rw [if_pos waiting]
    refine ⟨unasked_of_ne none ?_, bare_none⟩
    dsimp only
    split
    · exact TcpState.noConfusion
    · rcases waiting with is | is <;> rw [is] <;> exact TcpState.noConfusion
  rw [if_neg waiting]
  by_cases closed : conn.tcpstateflags ≠ .closed
  · rw [if_pos closed]
    by_cases outstanding : conn.len ≠ 0
    · have state : conn.tcpstateflags ≠ .established :=
        fun established => outstanding (idle established).2
      rw [if_pos outstanding]
      dsimp only
      split
      · split
        · refine ⟨unasked_of_ne none TcpState.noConfusion, fun packet member => ?_⟩
          rw [← Option.mem_some.mp member]
          rfl
        · generalize uipRto <<< _ = timer
          obtain ⟨conn_eq, shared_eq, bare⟩ := @retransmit_headers _
            { conn with timer, nrtx := conn.nrtx + 1 } shared callbackFunc memory state
          rw [conn_eq, shared_eq]
          exact ⟨unasked_of_ne none state, bare⟩
      · exact ⟨unasked_of_ne none state, bare_none⟩
    · rw [if_neg outstanding]
      by_cases established : conn.tcpstateflags = .established
      · rw [if_pos established]
        have poll : appcall (serverTaskImpl callbackFunc) { poll := true } 0 memory conn shared =
            conn.app { poll := true } memory shared := rfl
        rw [poll, @appsend_quiet _ conn (conn.app { poll := true } memory shared) ⟨rfl, rfl⟩ rfl]
        exact ⟨⟨none, fun _ => idle established⟩, bare_none⟩
      · rw [if_neg established]
        exact ⟨unasked_of_ne none established, bare_none⟩
  · rw [if_neg closed]
    exact ⟨⟨none, idle⟩, bare_none⟩

end Unasked

/-- What happens is not that a line arrives that asks. -/
def NetEvent.Unread : NetEvent World → Prop
  | .segment seg memory => Wifi.Unread memory seg.len
  | _ => True

/-- Nothing was printed, and so nothing was sent or received but headers. -/
structure Silent (net : Net World) : Prop where
  unasked : Unasked net.shared net.conn
  sent : ∀ packet ∈ net.sent, packet.payload = []
  received : net.received = []

theorem Silent.after {net : Net World} {outcome : Outcome World} (silent : Silent net)
    (step : Unasked outcome.2.1 outcome.1 ∧ Bare outcome.2.2) : Silent (net.after outcome) where
  unasked := step.1
  sent packet member := by
    rcases List.mem_append.mp member with new | old
    · exact step.2 packet (Option.mem_toList.mp new)
    · exact silent.sent packet old
  received := silent.received

theorem silent_step {iss : SeqNo} (net : Net World) (event : NetEvent World) (silent : Silent net)
    (unread : event.Unread) : Silent (netStep callbackFunc iss net event) := by
  cases event with
  | segment seg memory => exact silent.after (uipInput_unasked callbackFunc silent.unasked unread)
  | timer memory => exact silent.after (uipTimer_unasked callbackFunc silent.unasked)
  | elsewhere getStringGlobal world => exact { silent with unasked := silent.unasked }
  | deliver index limit =>
      rw [netStep, Net.deliver]
      split
      · next packet found =>
          have empty := silent.sent packet (List.mem_of_getElem? found)
          exact { silent with received := (take_empty empty).trans silent.received }
      · exact silent
  | acknowledge => exact { silent with unasked := silent.unasked }

/-- **What was not asked for in one segment is never served**: as long as no segment has a whole line
that asks, no page is printed and no byte reaches the client, whatever else arrives. -/
theorem rendered_nil (slot : UipConn) (iss seqno : SeqNo) (mssOption : Option UInt16)
    (getStringGlobal : List UInt8) (world : World) (events : List (NetEvent World))
    (unread : ∀ event ∈ events, event.Unread) :
    let net := run (netStep callbackFunc iss)
      (netStart slot iss seqno mssOption getStringGlobal world) events
    net.shared.rendered = [] ∧ net.received = [] ∧ ∀ packet ∈ net.sent, packet.payload = [] := by
  intro net
  have start : Silent (netStart slot iss seqno mssOption getStringGlobal world) := by
    refine ⟨unasked_of_ne rfl ?_, fun packet member => absurd member List.not_mem_nil, rfl⟩
    cases mssOption <;> exact TcpState.noConfusion
  have silent : Silent net := @run_invariant _ _ (netStep callbackFunc iss)
    (fun _ event => event.Unread) Silent (silent_step callbackFunc) events _ start
    (along_of_forall events _ fun event member _ => unread event member)
  exact ⟨silent.unasked.1, silent.received, silent.sent⟩

/-- Two bytes of a request, and the other six in a second segment. -/
def cutRequest : List (NetEvent UInt8) :=
  [.segment (ackOf 0 1 2) fun place => (ascii "GE").getD place.toNat 0,
    .segment (ackOf 0 3 6) fun place => (ascii "T / \n\n").getD place.toNat 0,
    .timer fun _ => 0, .deliver 0 100]

theorem rendered_nil_cutRequest :
    let net := run (netStep countedPages ⟨0, 0, 0, 5⟩)
      (netStart unusedSlot ⟨0, 0, 0, 5⟩ ⟨0, 0, 0, 0⟩ (some 12) [] 48) cutRequest
    net.shared.rendered = [] ∧ net.received = [] ∧ ∀ packet ∈ net.sent, packet.payload = [] := by
  refine rendered_nil countedPages unusedSlot ⟨0, 0, 0, 5⟩ ⟨0, 0, 0, 0⟩ (some 12) [] 48 cutRequest
    fun event member => ?_
  rcases member with _ | ⟨_, _ | ⟨_, _ | ⟨_, _ | ⟨_, none⟩⟩⟩⟩
  · rintro ⟨start, stop, line, before⟩
    have before : stop < 2 := before
    have long := line.long
    have zero_le := line.zero_le
    omega
  · rintro ⟨start, stop, line, before⟩
    have before : stop < 6 := before
    have long := line.long
    have zero_le := line.zero_le
    have first := (asksAt_iff.mp line.asks).1
    obtain rfl | rfl : start = 0 ∨ start = 1 := by omega
    · exact absurd first (by decide)
    · exact absurd first (by decide)
  · trivial
  · trivial
  · exact absurd none List.not_mem_nil

end EquinoxClock.Wifi
