/-
A web page on its way to a client.

A connection, the network and the client take steps in any order: segments arrive, made by anybody;
the timer runs out; other connections are served, which may leave another URL and another state of
whatever the pages depend on; and any packet ever sent may reach the client, once, twice or never.
The client puts a packet where its sequence number says. Two things are taken for granted of a
segment that reaches an established connection: it acknowledges nothing that the client does not
have (`Honest`), and it leaves the packet size alone while a part of the page is under way
(`KeepsSize`). Nothing in the code makes sure of the second.

Each step of the connection is then a step of sending piece by piece, or two of them
(`uipInput_carries`, `uipTimer_carries`), and so the client has, at each place, a byte of a page that
was printed (`received_printed`).
-/

import EquinoxClock.Lib.Pieces
import EquinoxClock.Lib.Run
import EquinoxClock.Wifi.Uip

namespace EquinoxClock.Wifi

open EquinoxClock.Lib
open Pieces (Piece Link Step Steps AllowedFrom Sound)

variable {World : Type*}

/-- A connection with what it shares, the packets it has sent, and the client: the bytes it has, and
the numbers of bytes it has acknowledged. -/
structure Net (World : Type*) where
  conn : UipConn
  shared : Shared World
  sent : List Packet
  received : List UInt8
  acks : List Nat

/-- What can happen next. -/
inductive NetEvent (World : Type*)
  | segment (seg : Segment) (memory : Int → UInt8)
  | timer (memory : Int → UInt8)
  | elsewhere (getStringGlobal : List UInt8) (world : World)
  | deliver (index limit : Nat)
  | acknowledge

/-- The connection after a segment or the timer, and what it sends. -/
def Net.after (net : Net World) (outcome : Outcome World) : Net World :=
  { net with
    conn := outcome.1, shared := outcome.2.1, sent := outcome.2.2.toList ++ net.sent }

/-- How far the client is ahead of a packet: from its sequence number to the next byte. -/
def lead (iss : SeqNo) (received : List UInt8) (packet : Packet) : Nat :=
  (2 ^ 32 - packet.seqno.toNat + (iss.after (1 + received.length)).toNat) % 2 ^ 32

/-- The client takes from a packet what comes next for it, as far as there is room. -/
def take (iss : SeqNo) (limit : Nat) (received : List UInt8) (packet : Packet) : List UInt8 :=
  if lead iss received packet ≤ packet.payload.length then
    received ++ (packet.payload.drop (lead iss received packet)).take limit
  else received

/-- One of the packets reaches the client. -/
def Net.deliver (iss : SeqNo) (index limit : Nat) (net : Net World) : Net World :=
  match net.sent[index]? with
  | some packet => { net with received := take iss limit net.received packet }
  | none => net

/-- One step. -/
def netStep (callbackFunc : PageServingFunction World) (iss : SeqNo) (net : Net World) :
    NetEvent World → Net World
  | .segment seg memory => net.after (uipInput (serverTaskImpl callbackFunc) seg memory net.conn net.shared)
  | .timer memory => net.after (uipTimer (serverTaskImpl callbackFunc) memory net.conn net.shared)
  | .elsewhere getStringGlobal world =>
      { net with shared := { net.shared with getStringGlobal, world } }
  | .deliver index limit => net.deliver iss index limit
  | .acknowledge => { net with acks := net.received.length :: net.acks }

/-- A connection that has just been made. -/
def netStart (slot : UipConn) (iss seqno : SeqNo) (mssOption : Option UInt16)
    (getStringGlobal : List UInt8) (world : World) : Net World where
  conn := foundListen slot iss seqno mssOption
  shared := ⟨getStringGlobal, world, []⟩
  sent := []
  received := []
  acks := []

/-- A segment acknowledges only what the client has acknowledged. -/
def Honest (iss : SeqNo) (acks : List Nat) (seg : Segment) (conn : UipConn) : Prop :=
  acknowledges seg conn = true → ∃ count ∈ acks, seg.ackno = iss.after (1 + count)

/-- A segment leaves the packet size alone, unless nothing is under way or just then everything
arrives. -/
def KeepsSize (seg : Segment) (conn : UipConn) : Prop :=
  windowMss seg conn = conn.mss ∨ conn.len = 0 ∨ acknowledges seg conn = true ∧ seg.len = 0

/-- What is taken for granted of a step. -/
def Fair (iss : SeqNo) (net : Net World) : NetEvent World → Prop
  | .segment seg _ => net.conn.tcpstateflags = .established →
      Honest iss net.acks seg net.conn ∧ KeepsSize seg net.conn
  | _ => True

instance (iss : SeqNo) (acks : List Nat) (seg : Segment) (conn : UipConn) :
    Decidable (Honest iss acks seg conn) :=
  inferInstanceAs (Decidable (_ → ∃ count ∈ acks, _))

instance (seg : Segment) (conn : UipConn) : Decidable (KeepsSize seg conn) :=
  inferInstanceAs (Decidable (_ ∨ _ ∨ _ ∧ _))

instance (iss : SeqNo) : ∀ (net : Net World) (event : NetEvent World), Decidable (Fair iss net event)
  | net, .segment seg _ =>
      inferInstanceAs (Decidable (net.conn.tcpstateflags = .established →
        Honest iss net.acks seg net.conn ∧ KeepsSize seg net.conn))
  | _, .timer _ | _, .elsewhere _ _ | _, .deliver _ _ | _, .acknowledge => isTrue trivial

/-- Some page has that byte at that place. -/
def PrintedAt (rendered : List (List UInt8)) (place : Nat) (byte : UInt8) : Prop :=
  ∃ page ∈ rendered, page[place]? = some byte

/-- What the web server knows of a connection agrees with what is under way. -/
structure Ready (total : Nat) (link : Link UInt8) (app : App World) : Prop where
  ackedCount : app.ackedCount = link.acked
  fresh : app.rendered = [] → link.acked = 0 ∧ link.pending = 0
  begun : app.rendered ≠ [] →
    app.cursor = total ∧ app.request = true ∧ link.acked < total
  part : link.pending ≠ 0 → app.sentCount = link.pending ∧
    link.pending = min app.mss.toNat (total - link.acked)

/-- So does the connection. Where the size of its packets is known, a page that has begun is always
under way. -/
structure Serving (iss : SeqNo) (total : Nat) (sized : Prop) (shared : Shared World) (conn : UipConn)
    (link : Link UInt8) : Prop where
  sndNxt : conn.sndNxt = iss.after (1 + link.acked)
  len : conn.len.toNat = link.pending
  ready : Ready total link (conn.app {} (fun _ => 0) shared)
  sizes : sized → conn.Sized
  flows : sized → shared.rendered ≠ [] → link.pending ≠ 0

/-- The states after the web server has closed the connection by itself. -/
def TcpState.served : TcpState → Bool
  | .finWait1 | .finWait2 | .closing | .timeWait => true
  | .closed | .synRcvd | .established | .lastAck => false

/-- How far a connection is. -/
def Stage (iss : SeqNo) (total : Nat) (sized : Prop) (shared : Shared World) (conn : UipConn)
    (link : Link UInt8) : Prop :=
  match conn.tcpstateflags with
  | .synRcvd => conn.sndNxt = iss ∧ conn.len = 1 ∧ shared.rendered = [] ∧
      link.acked = 0 ∧ link.pending = 0 ∧ (sized → conn.Sized)
  | .established => Serving iss total sized shared conn link
  | .finWait1 | .finWait2 | .closing | .timeWait => link.acked = total ∧ link.pending = 0
  | .lastAck | .closed => True

/-- A packet carries nothing, or a piece that was sent. -/
def OnLink (iss : SeqNo) (link : Link UInt8) (packet : Packet) : Prop :=
  packet.payload = [] ∨
    ∃ piece ∈ link.sent, packet.seqno = iss.after (1 + piece.place) ∧ packet.payload = piece.values

/-- A packet is the part under way. -/
def Current (iss : SeqNo) (link : Link UInt8) (packet : Packet) : Prop :=
  packet.seqno = iss.after (1 + link.acked) ∧ packet.payload.length = link.pending

/-- What a step of the connection comes to on the link. -/
structure Carries (iss : SeqNo) (total : Nat) (sized : Prop) (link next : Link UInt8) (outcome : Outcome World) :
    Prop where
  steps : Steps (PrintedAt outcome.2.1.rendered) link next
  received : next.received = link.received
  acks : next.acks = link.acks
  sent : ∀ piece ∈ link.sent, piece ∈ next.sent
  packet : ∀ packet ∈ outcome.2.2, OnLink iss next packet
  current : next.pending ≠ 0 →
    (∃ packet ∈ outcome.2.2, Current iss next packet) ∨
      next.acked = link.acked ∧ next.pending = link.pending
  bound : next.acked + next.pending ≤ total
  stage : Stage iss total sized outcome.2.1 outcome.1 next

/-- No packet at all, or one without data. -/
def Bare (packet : Option Packet) : Prop := ∀ sent ∈ packet, sent.payload = []

theorem bare_none : Bare none := fun _ member => absurd member (Option.not_mem_none _)

theorem bare_tcpSend (conn : UipConn) : Bare (some (tcpSend conn [])) := by
  intro sent member
  rw [← Option.mem_some.mp member]
  rfl

theorem bare_if (sends : Prop) [Decidable sends] (conn : UipConn) :
    Bare (if sends then some (tcpSend conn []) else none) := by
  split
  · exact bare_tcpSend conn
  · exact bare_none

theorem bare_tcpSendFinack (conn : UipConn) : Bare (some (tcpSendFinack conn)) := by
  intro sent member
  rw [← Option.mem_some.mp member]
  rfl

section Carries

variable {iss : SeqNo} {total : Nat} {sized : Prop} {link : Link UInt8} {conn : UipConn}
  {shared : Shared World}

/-- Nothing is sent but headers. -/
theorem carries_idle {outcome : Outcome World} (bound : link.acked + link.pending ≤ total)
    (bare : Bare outcome.2.2)
    (stage : Stage iss total sized outcome.2.1 outcome.1 link) : Carries iss total sized link link outcome where
  steps := Relation.ReflTransGen.refl
  received := rfl
  acks := rfl
  sent _ member := member
  packet packet member := Or.inl (bare packet member)
  current _ := Or.inr ⟨rfl, rfl⟩
  bound := bound
  stage := stage

/-- An established connection that serves. -/
theorem Serving.stage (serving : Serving iss total sized shared conn link)
    (established : conn.tcpstateflags = .established) : Stage iss total sized shared conn link := by
  rw [Stage, established]
  exact serving

theorem Stage.serving (stage : Stage iss total sized shared conn link)
    (established : conn.tcpstateflags = .established) : Serving iss total sized shared conn link := by
  rw [Stage, established] at stage
  exact stage

/-- An acknowledgement comes first. -/
theorem Carries.acked {next : Link UInt8} {outcome : Outcome World}
    (known : link.acked + link.pending ∈ link.acks)
    (carries : Carries iss total sized { link with acked := link.acked + link.pending, pending := 0 } next
      outcome) : Carries iss total sized link next outcome :=
  { carries with
    steps := carries.steps.head (Step.acked link known)
    current := fun more =>
      (carries.current more).imp_right fun same => absurd same.2 more }

/-- A part of a page is as its place allows. -/
theorem allowedFrom_part {rendered : List (List UInt8)} {page : List UInt8}
    (member : page ∈ rendered) (place count : Nat) :
    AllowedFrom (PrintedAt rendered) place ((page.drop place).take count) := by
  intro index byte found
  rw [List.getElem?_take] at found
  obtain ⟨-, found⟩ := Option.ite_none_right_eq_some.mp found
  rw [List.getElem?_drop] at found
  exact ⟨page, member, found⟩

/-- **A part of the page** goes out as the next piece, or as the one under way again. -/
theorem carries_part {app printing : App World} {page : List UInt8}
    (established : conn.tcpstateflags = .established)
    (pageSent : PageSent link.acked page app printing)
    (stays : printing.flags.abort = false ∧ printing.flags.close = false)
    (length : page.length = total) (unfinished : link.acked < total)
    (request : printing.request = true) (sndNxt : conn.sndNxt = iss.after (1 + link.acked))
    (len : conn.len.toNat = link.pending) (mss : conn.mss = app.mss)
    (whole : link.pending ≠ 0 → link.pending = min conn.mss.toNat (total - link.acked))
    (slen : conn.mss.toNat = 0 → app.slen = 0) (sizes : sized → conn.Sized) :
    ∃ next, Carries iss total sized link next (appsend conn printing) := by
  have due_eq : due link.acked app.mss page = min conn.mss.toNat (total - link.acked) := by
    rw [due, mss, length]
  have slen_eq := pageSent.slen
  have sentCount := pageSent.sentCount
  rw [due_eq] at slen_eq sentCount
  have member : page ∈ printing.shared.rendered := by
    rw [App.shared, pageSent.rendered]
    exact List.mem_cons_self
  have ready (pending : Nat) (sent : List (Piece UInt8)) (nrtx : UInt8) (length16 : UInt16)
      (whole : pending ≠ 0 → pending = min conn.mss.toNat (total - link.acked)) :
      Ready total { link with pending, sent }
        (UipConn.app {} (fun _ => 0)
          { conn.called printing with len := length16, nrtx } printing.shared) := {
    ackedCount := pageSent.printed.ackedCount
    fresh none := absurd none (List.ne_nil_of_mem member)
    begun _ := ⟨by rw [← length]; exact pageSent.printed.cursor, request, unfinished⟩
    part more := ⟨by rw [whole more]; exact sentCount, whole more⟩ }
  by_cases nothing : conn.mss.toNat = 0
  · have pending : link.pending = 0 := by
      by_contra more
      have := whole more
      omega
    rw [if_neg (by omega)] at slen_eq
    rw [appsend_quiet stays (slen_eq.trans (slen nothing))]
    exact ⟨link, carries_idle (by omega) (bare_if _ conn)
      (Serving.stage ⟨sndNxt, len, ready link.pending link.sent 0 conn.len whole, sizes,
        fun known => absurd (UInt16.toNat_inj.mp nothing) (sizes known).1⟩ established)⟩
  · have flow : conn.len.toNat = 0 ∨ conn.len.toNat = min conn.mss.toNat (total - link.acked) := by
      rw [len]
      exact (Nat.eq_zero_or_pos link.pending).imp_right fun more => whole more.ne'
    have toNat : (UInt16.ofNat (min conn.mss.toNat (total - link.acked))).toNat =
        min conn.mss.toNat (total - link.acked) :=
      UInt16.toNat_ofNat_of_lt' ((min_le_left _ _).trans_lt conn.mss.toNat_lt)
    rw [appsend_pageSent pageSent stays mss (by rw [due_eq]; omega) (by rwa [due_eq]), due_eq]
    have count : ((page.drop link.acked).take (min conn.mss.toNat (total - link.acked))).length =
        min conn.mss.toNat (total - link.acked) := by
      rw [List.length_take, List.length_drop]
      omega
    have fits := allowedFrom_part member link.acked (min conn.mss.toNat (total - link.acked))
    generalize (page.drop link.acked).take (min conn.mss.toNat (total - link.acked)) = values
      at count fits ⊢
    refine ⟨{ link with pending := values.length, sent := ⟨link.acked, values⟩ :: link.sent }, {
      steps := Relation.ReflTransGen.single ?_
      received := rfl
      acks := rfl
      sent := fun piece earlier => List.mem_cons_of_mem _ earlier
      packet := fun packet found => ?_
      current := fun _ => Or.inl ⟨_, Option.mem_some_self _, sndNxt, rfl⟩
      bound := by dsimp only; omega
      stage := Serving.stage ⟨sndNxt, toNat.trans count.symm, ready _ _ 0 _ fun _ => count, sizes,
        fun _ _ => by dsimp only; omega⟩ established }⟩
    · by_cases idle : link.pending = 0
      · exact Step.send link values idle fits
      · have same : values.length = link.pending := by rw [count, ← whole idle]
        rw [same]
        exact Step.resend link values same fits
    · rw [← Option.mem_some.mp found]
      exact Or.inr ⟨_, List.mem_cons_self, sndNxt, rfl⟩

variable (callbackFunc : PageServingFunction World) (datalen : Nat) {app : App World}

/-- What there is of a page is not all of it yet, whether this is its first part or not. -/
theorem Ready.unfinished (ready : Ready total link app) {page : List UInt8} (nonempty : page ≠ [])
    (length : page.length = total) : link.acked < total := by
  by_cases fresh : app.rendered = []
  · rw [(ready.fresh fresh).1, ← length]
    exact List.length_pos_iff.mpr nonempty
  · exact (ready.begun fresh).2.2

/-- **New data** and nothing acknowledged. -/
theorem carries_newdata (ready : Ready total link app)
    (bound : link.acked + link.pending ≤ total)
    (established : conn.tcpstateflags = .established)
    (stays : app.flags.abort = false ∧ app.flags.close = false)
    (sndNxt : conn.sndNxt = iss.after (1 + link.acked)) (len : conn.len.toNat = link.pending)
    (mss : conn.mss = app.mss) (slen : app.slen = 0) (sizes : sized → conn.Sized)
    (flows : sized → app.rendered ≠ [] → link.pending ≠ 0)
    (same : ∀ page ∈ (onNewdata callbackFunc datalen app).rendered, page.length = total) :
    ∃ next, Carries iss total sized link next (appsend conn (onNewdata callbackFunc datalen app)) := by
  obtain ⟨incoming, kept, unchanged | ⟨-, request, pageSent⟩⟩ :=
    onNewdata_cases callbackFunc datalen app ready.ackedCount
  · rw [unchanged, @appsend_quiet _ conn { app with toIncoming := incoming } stays slen]
    exact ⟨link, carries_idle bound (bare_if _ conn) (Serving.stage ⟨sndNxt, len, {
      ackedCount := ready.ackedCount
      fresh := ready.fresh
      begun := fun begun => ⟨(ready.begun begun).1, kept (ready.begun begun).2.1,
        (ready.begun begun).2.2⟩
      part := fun more => ⟨(ready.part more).1, (ready.part more).2.trans
        (congrArg (min ·.toNat (total - link.acked)) mss.symm)⟩ }, sizes, flows⟩ established)⟩
  · have length := same _ (by rw [pageSent.rendered]; exact List.mem_cons_self)
    refine carries_part established pageSent ?_ length
      (ready.unfinished pageSent.nonempty length) (pageSent.request.trans request) sndNxt len mss
      (fun more => ?_) (fun _ => slen) sizes
    · rw [pageSent.flags]
      exact stays
    · rw [mss]
      exact (ready.part more).2

/-- **What was under way has arrived**: the next part goes out, or the connection is closed. -/
theorem carries_acked {acked : Nat} (idle : link.acked = acked ∧ link.pending = 0)
    (ackdata : app.flags.ackdata = true) (stays : app.flags.abort = false ∧ app.flags.close = false ∧
      app.flags.timedout = false)
    (sum : app.ackedCount + app.sentCount = acked) (cursor : app.cursor = total)
    (request : app.request = true) (acked_le : acked ≤ total)
    (established : conn.tcpstateflags = .established)
    (sndNxt : conn.sndNxt = iss.after (1 + acked)) (len : conn.len = 0)
    (mss : conn.mss = app.mss) (slen : conn.mss.toNat = 0 → app.slen = 0)
    (sizes : sized → conn.Sized)
    (same : ∀ page ∈ (onEnded (onAcked callbackFunc app)).rendered, page.length = total) :
    ∃ next, Carries iss total sized link next (appsend conn (onEnded (onAcked callbackFunc app))) := by
  obtain ⟨rfl, pending⟩ := idle
  rcases onAcked_cases callbackFunc app ackdata sum with ⟨finished, closed⟩ | ⟨more, pageSent⟩
  · have all : link.acked = total := by
      rw [cursor] at finished
      omega
    rw [closed, appsend_close rfl rfl]
    exact ⟨link, carries_idle (by omega) (bare_tcpSendFinack conn) ⟨all, pending⟩⟩
  · have flags : (onAcked callbackFunc app).flags = app.flags := pageSent.flags
    have ended : onEnded (onAcked callbackFunc app) = onAcked callbackFunc app := by
      rw [onEnded, flags, stays.1, stays.2.1, stays.2.2]
      rfl
    rw [ended] at same ⊢
    have length := same _ (by rw [pageSent.rendered]; exact List.mem_cons_self)
    refine carries_part established pageSent ?_ length ?_ (pageSent.request.trans request) sndNxt
      (by rw [len, pending]; rfl) mss (fun more => absurd pending more) slen sizes
    · rw [flags]
      exact ⟨stays.1, stays.2.1⟩
    · rw [cursor] at more
      omega

variable {seg : Segment} {memory : Int → UInt8}

/-- The connection is made: nothing is under way, and the request may have come already. -/
theorem carries_inSynRcvd {ackdata : Bool} (synRcvd : conn.tcpstateflags = .synRcvd)
    (sndNxt : ackdata = true → conn.sndNxt = iss.after 1)
    (waiting : ackdata = false → conn.sndNxt = iss ∧ conn.len = 1)
    (fresh : shared.rendered = [] ∧ link.acked = 0 ∧ link.pending = 0 ∧ (sized → conn.Sized))
    (same : ∀ page ∈ (inSynRcvd (serverTaskImpl callbackFunc) seg memory ackdata conn shared).2.1.rendered,
      page.length = total) :
    ∃ next, Carries iss total sized link next
      (inSynRcvd (serverTaskImpl callbackFunc) seg memory ackdata conn shared) := by
  obtain ⟨none, acked, pending, sizes⟩ := fresh
  unfold inSynRcvd at same ⊢
  cases ackdata with
  | false =>
      refine ⟨link, carries_idle (by omega) bare_none ?_⟩
      show Stage iss total sized shared conn link
      rw [Stage, synRcvd]
      exact ⟨(waiting rfl).1, (waiting rfl).2, none, acked, pending, sizes⟩
  | true =>
      rw [if_pos rfl] at same ⊢
      dsimp only at same ⊢
      rw [appsend_shared] at same
      generalize made : (if seg.len > 0 then uipAddRcvNxt seg.len
        { conn with tcpstateflags := .established, len := 0 } else
        { conn with tcpstateflags := .established, len := 0 }) = conn' at same ⊢
      have facts : conn'.tcpstateflags = .established ∧ conn'.sndNxt = conn.sndNxt ∧
          conn'.len = 0 ∧ (conn'.Sized ↔ conn.Sized) := by
        rw [← made]
        split <;> exact ⟨rfl, rfl, rfl, Iff.rfl⟩
      rw [appcall, serverTaskImpl_newdata _ _ _ ⟨rfl, rfl⟩ ⟨rfl, rfl, rfl⟩] at same ⊢
      refine carries_newdata callbackFunc seg.len.toNat ⟨acked ▸ rfl, fun _ => ⟨acked, pending⟩,
        fun begun => absurd none begun, fun more => absurd pending more⟩ (by omega) facts.1 ⟨rfl, rfl⟩
        ?_ ?_ rfl rfl (fun known => facts.2.2.2.mpr (sizes known))
        (fun _ begun => absurd none begun) same
      · rw [facts.2.1, sndNxt rfl, acked]
      · rw [facts.2.2.1, pending]
        rfl

/-- What was under way has arrived, and there may be new data with the acknowledgement. -/
theorem carries_established_acked {conn' : UipConn} (serving : Serving iss total sized shared conn link)
    (bound : link.acked + link.pending ≤ total) (pending : link.pending ≠ 0)
    (known : link.acked + link.pending ∈ link.acks)
    (keeps : seg.len > 0 → conn'.mss = conn.mss)
    (established : conn'.tcpstateflags = .established)
    (state : conn'.ackedCount = conn.ackedCount ∧ conn'.sentCount = conn.sentCount ∧
      conn'.cursor = conn.cursor ∧ conn'.request = conn.request)
    (sndNxt : conn'.sndNxt = iss.after (1 + (link.acked + link.pending))) (len : conn'.len = 0)
    (sizes : sized → conn'.Sized)
    (same : ∀ page ∈ (appcall (serverTaskImpl callbackFunc) { ackdata := true, newdata := seg.len > 0 } seg.len
      memory conn' shared).rendered, page.length = total) :
    ∃ next, Carries iss total sized link next (appsend conn'
      (appcall (serverTaskImpl callbackFunc) { ackdata := true, newdata := seg.len > 0 } seg.len memory conn'
        shared)) := by
  obtain ⟨ackedCount, sentCount, cursor, request⟩ := state
  have part := serving.ready.part pending
  have started : shared.rendered ≠ [] := fun none => pending (serving.ready.fresh none).2
  have begun := serving.ready.begun started
  rw [appcall, serverTaskImpl_segment _ _ _ rfl] at same ⊢
  have unconnected : onConnected (conn'.app { ackdata := true, newdata := seg.len > 0 } memory
      shared) = conn'.app { ackdata := true, newdata := seg.len > 0 } memory shared := rfl
  rw [unconnected] at same ⊢
  have next (app : App World) (flags : app.flags = { ackdata := true, newdata := seg.len > 0 })
      (counts : app.ackedCount = link.acked ∧ app.sentCount = link.pending ∧ app.cursor = total)
      (requested : app.request = true) (mss : conn'.mss = app.mss)
      (slen : conn'.mss.toNat = 0 → app.slen = 0)
      (same : ∀ page ∈ (onEnded (onAcked callbackFunc app)).rendered, page.length = total) :
      ∃ next, Carries iss total sized link next
        (appsend conn' (onEnded (onAcked callbackFunc app))) := by
    obtain ⟨next, carries⟩ := @carries_acked _ iss total sized
      { link with acked := link.acked + link.pending, pending := 0 } conn' callbackFunc app _
      ⟨rfl, rfl⟩ (by rw [flags]) (by rw [flags]; exact ⟨rfl, rfl, rfl⟩)
      (by rw [counts.1, counts.2.1, Int.natCast_add]) counts.2.2 requested bound established sndNxt
      len mss slen sizes same
    exact ⟨next, carries.acked known⟩
  obtain ⟨incoming, kept, unchanged | ⟨newdata, requested, pageSent⟩⟩ :=
    onNewdata_cases callbackFunc seg.len.toNat
      (conn'.app { ackdata := true, newdata := seg.len > 0 } memory shared)
      (ackedCount.trans serving.ready.ackedCount)
  · rw [unchanged] at same ⊢
    exact next _ rfl ⟨ackedCount.trans serving.ready.ackedCount, sentCount.trans part.1,
      cursor.trans begun.1⟩ (kept (request.trans begun.2.1)) rfl (fun _ => rfl) same
  · have mss := keeps (of_decide_eq_true newdata)
    have length := same _ (by
      rw [onEnded_rendered]
      exact (onAcked_rendered callbackFunc _).mem (by
        rw [pageSent.rendered]
        exact List.mem_cons_self))
    have sent := pageSent.sentCount
    rw [due, length] at sent
    have whole : link.pending = min conn'.mss.toNat (total - link.acked) := by
      rw [mss]
      exact part.2
    refine next _ pageSent.flags ⟨pageSent.printed.ackedCount, sent.trans ?_,
      by rw [pageSent.printed.cursor, length]⟩ (pageSent.request.trans requested)
      pageSent.mss.symm (fun nothing => ?_) same
    · rw [whole]
      rfl
    · rw [nothing, Nat.zero_min] at whole
      exact absurd whole pending

/-- The window of a segment leaves a packet size that is known. -/
theorem Serving.windowMss (serving : Serving iss total sized shared conn link) (seg : Segment) :
    sized → Wifi.windowMss seg conn ≠ 0 ∧ conn.initialmss ≠ 0 := by
  intro known
  refine ⟨?_, (serving.sizes known).2⟩
  rw [Wifi.windowMss]
  split
  · exact (serving.sizes known).2
  · next named => exact (not_or.mp named).2

/-- The peer closes, which counts for nothing as long as something is under way. -/
theorem carries_finReceived (serving : Serving iss total sized shared conn link)
    (bound : link.acked + link.pending ≤ total) (established : conn.tcpstateflags = .established)
    (fin : seg.fin = true) :
    ∃ next, Carries iss total sized link next (inEstablished (serverTaskImpl callbackFunc) seg memory
      (acknowledges seg conn) (if acknowledges seg conn then acknowledge conn else conn)
      shared) := by
  unfold inEstablished
  dsimp only
  rw [if_pos fin]
  by_cases outstanding :
      (if acknowledges seg conn = true then acknowledge conn else conn).len ≠ 0
  · rw [if_pos outstanding]
    have unknown : ¬ acknowledges seg conn = true := by
      intro ackdata
      obtain ⟨sa, sv, rto, timer, frame⟩ := acknowledge_frame conn
      rw [if_pos ackdata, frame] at outstanding
      exact outstanding rfl
    rw [if_neg unknown]
    exact ⟨link, carries_idle bound bare_none (serving.stage established)⟩
  · rw [if_neg outstanding]
    exact ⟨link, carries_idle bound (bare_tcpSendFinack _) trivial⟩

section Open

variable (serving : Serving iss total sized shared conn link)
  (bound : link.acked + link.pending ≤ total) (established : conn.tcpstateflags = .established)
  (keeps : KeepsSize seg conn) (open_ : ¬ seg.fin = true)

include serving bound established keeps open_

/-- **What was under way is acknowledged**, and there may be new data. -/
theorem carries_acknowledged (ackdata : acknowledges seg conn = true)
    (honest : link.acked + link.pending ∈ link.acks)
    (same : ∀ page ∈ (inEstablished (serverTaskImpl callbackFunc) seg memory true (acknowledge conn)
      shared).2.1.rendered, page.length = total) :
    ∃ next, Carries iss total sized link next
      (inEstablished (serverTaskImpl callbackFunc) seg memory true (acknowledge conn) shared) := by
  obtain ⟨-, outstanding, -⟩ := acknowledges_iff.mp ackdata
  obtain ⟨sa, sv, rto, timer, acked⟩ := acknowledge_frame conn
  obtain ⟨rcvNxt, frame⟩ := windowMss_frame seg (decide (seg.len > 0)) (acknowledge conn)
  unfold inEstablished at same ⊢
  dsimp only at same ⊢
  rw [if_neg open_, frame, if_pos (Bool.or_true _)] at same ⊢
  rw [appsend_shared] at same
  have pending : link.pending ≠ 0 := by
    rw [← serving.len]
    exact fun idle => outstanding (UInt16.toNat_inj.mp idle)
  rw [acked] at same ⊢
  refine carries_established_acked callbackFunc serving bound pending honest (fun more => ?_)
    established ⟨rfl, rfl, rfl, rfl⟩ ?_ rfl (serving.windowMss seg) same
  · rcases keeps with kept | idle | ⟨-, none⟩
    · exact kept
    · exact absurd idle outstanding
    · exact absurd none (UInt16.ne_of_lt more).symm
  · show uipAdd32 conn.sndNxt conn.len = _
    rw [serving.sndNxt, uipAdd32_after, serving.len, Nat.add_assoc]

/-- **Nothing is acknowledged**, and there may be new data. -/
theorem carries_unacknowledged (unknown : acknowledges seg conn = false)
    (same : ∀ page ∈ (inEstablished (serverTaskImpl callbackFunc) seg memory false conn
      shared).2.1.rendered, page.length = total) :
    ∃ next, Carries iss total sized link next
      (inEstablished (serverTaskImpl callbackFunc) seg memory false conn shared) := by
  obtain ⟨rcvNxt, frame⟩ := windowMss_frame seg (decide (seg.len > 0)) conn
  have kept : link.pending ≠ 0 → windowMss seg conn = conn.mss := by
    intro outstanding
    rcases keeps with kept | idle | ⟨known, -⟩
    · exact kept
    · exact absurd (serving.len.symm.trans (congrArg UInt16.toNat idle)) outstanding
    · exact absurd known (Bool.eq_false_iff.mp unknown)
  have ready (flags : Flags) : Ready total link
      (UipConn.app flags memory { conn with rcvNxt, mss := windowMss seg conn } shared) := {
    ackedCount := serving.ready.ackedCount
    fresh := serving.ready.fresh
    begun := serving.ready.begun
    part := fun more => ⟨(serving.ready.part more).1, (serving.ready.part more).2.trans
      (congrArg (min ·.toNat (total - link.acked)) (kept more).symm)⟩ }
  unfold inEstablished at same ⊢
  dsimp only at same ⊢
  rw [if_neg open_, frame, Bool.or_false] at same ⊢
  split
  · next newdata =>
      rw [if_pos newdata, appsend_shared] at same
      rw [appcall, serverTaskImpl_newdata _ _ _ ⟨rfl, rfl⟩ ⟨rfl, rfl, rfl⟩] at same ⊢
      exact carries_newdata callbackFunc seg.len.toNat (ready _) bound established ⟨rfl, rfl⟩
        serving.sndNxt serving.len rfl rfl (serving.windowMss seg) serving.flows same
  · exact ⟨link, carries_idle bound bare_none
      (Serving.stage ⟨serving.sndNxt, serving.len, { ready {} with }, serving.windowMss seg,
        serving.flows⟩ established)⟩

end Open

/-- **An established connection**, by cases on whether the segment closes, acknowledges or brings
data. -/
theorem carries_inEstablished (serving : Serving iss total sized shared conn link)
    (bound : link.acked + link.pending ≤ total) (established : conn.tcpstateflags = .established)
    (honest : acknowledges seg conn = true → link.acked + link.pending ∈ link.acks)
    (keeps : KeepsSize seg conn)
    (same : ∀ page ∈ (inEstablished (serverTaskImpl callbackFunc) seg memory (acknowledges seg conn)
      (if acknowledges seg conn then acknowledge conn else conn) shared).2.1.rendered,
      page.length = total) :
    ∃ next, Carries iss total sized link next (inEstablished (serverTaskImpl callbackFunc) seg memory
      (acknowledges seg conn) (if acknowledges seg conn then acknowledge conn else conn)
      shared) := by
  by_cases fin : seg.fin = true
  · exact carries_finReceived callbackFunc serving bound established fin
  · cases ackdata : acknowledges seg conn with
    | true =>
        rw [ackdata, if_pos rfl] at same
        rw [if_pos rfl]
        exact carries_acknowledged callbackFunc serving bound established keeps fin ackdata
          (honest ackdata) same
    | false =>
        rw [ackdata, if_neg Bool.false_ne_true] at same
        rw [if_neg Bool.false_ne_true]
        exact carries_unacknowledged callbackFunc serving bound established keeps fin ackdata same

/-- After the page nothing more is sent. -/
theorem carries_served {outcome : Outcome World} (bound : link.acked + link.pending ≤ total)
    (all : link.acked = total ∧ link.pending = 0)
    (served : outcome.1.tcpstateflags.served = true)
    (bare : Bare outcome.2.2) : Carries iss total sized link link outcome := by
  refine carries_idle bound bare ?_
  rw [Stage]
  cases state : outcome.1.tcpstateflags <;> rw [state] at served
  case finWait1 | finWait2 | closing | timeWait => exact all
  case closed | synRcvd | established | lastAck => exact absurd served Bool.false_ne_true

theorem inFinWait1_served (ackdata : Bool) (state : conn.tcpstateflags = .finWait1) :
    (inFinWait1 (serverTaskImpl callbackFunc) seg memory ackdata conn shared).1.tcpstateflags.served = true ∧
      Bare (inFinWait1 (serverTaskImpl callbackFunc) seg memory ackdata conn shared).2.2 := by
  unfold inFinWait1
  dsimp only
  have kept : (if seg.len > 0 then uipAddRcvNxt seg.len conn else conn).tcpstateflags =
      .finWait1 := by
    split <;> exact state
  generalize (if seg.len > 0 then uipAddRcvNxt seg.len conn else conn) = conn at kept ⊢
  split
  · refine ⟨?_, bare_tcpSend _⟩
    cases ackdata <;> rfl
  · split
    · exact ⟨rfl, bare_none⟩
    · exact ⟨by rw [kept]; rfl, bare_if _ conn⟩

theorem inFinWait2_served (state : conn.tcpstateflags = .finWait2) :
    (inFinWait2 (serverTaskImpl callbackFunc) seg memory conn shared).1.tcpstateflags.served = true ∧
      Bare (inFinWait2 (serverTaskImpl callbackFunc) seg memory conn shared).2.2 := by
  unfold inFinWait2
  dsimp only
  have kept : (if seg.len > 0 then uipAddRcvNxt seg.len conn else conn).tcpstateflags =
      .finWait2 := by
    split <;> exact state
  generalize (if seg.len > 0 then uipAddRcvNxt seg.len conn else conn) = conn at kept ⊢
  split
  · exact ⟨rfl, bare_tcpSend _⟩
  · exact ⟨by rw [kept]; rfl, bare_if _ conn⟩

theorem inClosing_served (ackdata : Bool) (state : conn.tcpstateflags = .closing) :
    (inClosing ackdata conn).tcpstateflags.served = true := by
  cases ackdata with
  | false =>
      show conn.tcpstateflags.served = true
      rw [state]
      rfl
  | true => rfl

theorem inLastAck_stage (ackdata : Bool) (state : conn.tcpstateflags = .lastAck) :
    Stage iss total sized (inLastAck (serverTaskImpl callbackFunc) memory ackdata conn shared).2.1
        (inLastAck (serverTaskImpl callbackFunc) memory ackdata conn shared).1 link ∧
      Bare (inLastAck (serverTaskImpl callbackFunc) memory ackdata conn shared).2.2 := by
  cases ackdata with
  | false =>
      refine ⟨?_, bare_none⟩
      show Stage iss total sized shared conn link
      rw [Stage, state]
      trivial
  | true => exact ⟨trivial, bare_none⟩

/-- **A segment is some steps on the link**, by cases on the state of the connection. -/
theorem uipInput_carries (stage : Stage iss total sized shared conn link)
    (bound : link.acked + link.pending ≤ total)
    (fair : conn.tcpstateflags = .established →
      (acknowledges seg conn = true → link.acked + link.pending ∈ link.acks) ∧ KeepsSize seg conn)
    (same : ∀ page ∈ (uipInput (serverTaskImpl callbackFunc) seg memory conn shared).2.1.rendered,
      page.length = total) :
    ∃ next, Carries iss total sized link next (uipInput (serverTaskImpl callbackFunc) seg memory conn shared) := by
  unfold uipInput at same ⊢
  by_cases closed : conn.tcpstateflags = .closed
  · rw [if_pos closed]
    exact ⟨link, carries_idle bound bare_none stage⟩
  rw [if_neg closed] at same ⊢
  by_cases rst : seg.rst = true
  · rw [if_pos rst]
    exact ⟨link, carries_idle bound bare_none trivial⟩
  rw [if_neg rst] at same ⊢
  by_cases strange : (seg.len > 0 ∨ seg.syn ∨ seg.fin) ∧ seg.seqno ≠ conn.rcvNxt
  · rw [if_pos strange]
    exact ⟨link, carries_idle bound (bare_tcpSend conn) stage⟩
  rw [if_neg strange] at same ⊢
  dsimp only at same ⊢
  have kept := acknowledge_tcpstateflags (acknowledges seg conn) conn
  unfold Stage at stage
  cases state : conn.tcpstateflags <;> rw [state] at kept stage fair <;> rw [kept] at same ⊢ <;>
    dsimp only at same stage ⊢
  case closed => exact absurd state closed
  case synRcvd =>
    obtain ⟨sndNxt, len, fresh⟩ := stage
    refine carries_inSynRcvd callbackFunc kept (fun ackdata => ?_) (fun unknown => ?_)
      ⟨fresh.1, fresh.2.1, fresh.2.2.1, fun known =>
        (acknowledge_sized _ conn).mpr (fresh.2.2.2 known)⟩ same
    · obtain ⟨sa, sv, rto, timer, frame⟩ := acknowledge_frame conn
      rw [if_pos ackdata, frame]
      show uipAdd32 conn.sndNxt conn.len = _
      rw [sndNxt, len, ← SeqNo.after_zero iss, uipAdd32_after, SeqNo.after_zero]
      rfl
    · rw [unknown]
      exact ⟨sndNxt, len⟩
  case established =>
    exact carries_inEstablished callbackFunc stage bound state (fair rfl).1 (fair rfl).2 same
  case finWait1 =>
    obtain ⟨served, bare⟩ := inFinWait1_served callbackFunc (acknowledges seg conn) kept
    exact ⟨link, carries_served bound stage served bare⟩
  case finWait2 =>
    obtain ⟨served, bare⟩ := inFinWait2_served callbackFunc kept
    exact ⟨link, carries_served bound stage served bare⟩
  case closing =>
    exact ⟨link, carries_served bound stage (inClosing_served _ kept) bare_none⟩
  case timeWait =>
    refine ⟨link, carries_served bound stage ?_ (bare_tcpSend _)⟩
    dsimp only
    rw [kept]
    rfl
  case lastAck =>
    obtain ⟨stage, bare⟩ := inLastAck_stage callbackFunc (acknowledges seg conn) kept
    exact ⟨link, carries_idle bound bare stage⟩

/-- The timer is no part of what is known. -/
theorem Serving.timed (serving : Serving iss total sized shared conn link) (timer nrtx : UInt8) :
    Serving iss total sized shared { conn with timer, nrtx } link where
  sndNxt := serving.sndNxt
  len := serving.len
  ready := { serving.ready with }
  sizes := serving.sizes
  flows := serving.flows

theorem Stage.timed (stage : Stage iss total sized shared conn link) (timer nrtx : UInt8) :
    Stage iss total sized shared { conn with timer, nrtx } link := by
  by_cases established : conn.tcpstateflags = .established
  · exact Serving.stage ((stage.serving established).timed timer nrtx) established
  · rw [Stage] at stage ⊢
    dsimp only
    cases state : conn.tcpstateflags <;> rw [state] at stage
    case established => exact absurd state established
    all_goals exact stage

/-- The part of the page that is under way goes out again, printed anew. -/
theorem carries_rexmit (serving : Serving iss total sized shared conn link)
    (bound : link.acked + link.pending ≤ total) (established : conn.tcpstateflags = .established)
    (outstanding : conn.len ≠ 0)
    (same : ∀ page ∈ (retransmit (serverTaskImpl callbackFunc) memory conn shared).2.1.rendered,
      page.length = total) :
    ∃ next, Carries iss total sized link next (retransmit (serverTaskImpl callbackFunc) memory conn shared) := by
  have pending : link.pending ≠ 0 := by
    rw [← serving.len]
    exact fun idle => outstanding (UInt16.toNat_inj.mp idle)
  obtain ⟨-, part⟩ := serving.ready.part pending
  have started : shared.rendered ≠ [] := fun none => pending (serving.ready.fresh none).2
  obtain ⟨-, request, unfinished⟩ := serving.ready.begun started
  have pageSent := sendPage_pageSent callbackFunc (conn.app { rexmit := true } memory shared)
    serving.ready.ackedCount
  unfold retransmit at same ⊢
  rw [established] at same ⊢
  dsimp only at same ⊢
  rw [apprexmit_shared] at same
  rw [appcall, serverTaskImpl_rexmit _ _ _ rfl] at same ⊢
  generalize sendPage callbackFunc (conn.app { rexmit := true } memory shared) = app at same pageSent ⊢
  generalize pageOf callbackFunc _ _ = page at pageSent
  have member : page ∈ app.shared.rendered := by
    rw [App.shared, pageSent.rendered]
    exact List.mem_cons_self
  have length := same page member
  have due_eq : due link.acked conn.mss page = link.pending := by
    rw [due, length]
    exact part.symm
  have mss : (conn.app { rexmit := true } memory shared).mss = conn.mss := rfl
  have payload := pageSent.payload
  have slen := pageSent.slen
  have sentCount := pageSent.sentCount
  rw [mss, due_eq] at payload slen sentCount
  rw [if_pos (Nat.pos_of_ne_zero pending)] at slen
  have slen_len : app.slen = conn.len := by
    rw [slen, ← serving.len, UInt16.ofNat_toNat]
  have positive : conn.len > 0 := by
    rw [gt_iff_lt, UInt16.lt_iff_toNat_lt, serving.len, UInt16.toNat_zero]
    omega
  unfold apprexmit
  rw [slen_len, if_pos ⟨positive, positive⟩,
    show (conn.called app).len.toNat = link.pending from serving.len, payload]
  have fits := allowedFrom_part member link.acked link.pending
  have count : ((page.drop link.acked).take link.pending).length = link.pending := by
    rw [List.length_take, List.length_drop]
    omega
  generalize (page.drop link.acked).take link.pending = values at count fits ⊢
  refine ⟨{ link with sent := ⟨link.acked, values⟩ :: link.sent }, {
    steps := Relation.ReflTransGen.single (Step.resend link values count fits)
    received := rfl
    acks := rfl
    sent := fun piece earlier => List.mem_cons_of_mem _ earlier
    packet := fun packet found => ?_
    current := fun _ => Or.inr ⟨rfl, rfl⟩
    bound := bound
    stage := Serving.stage ⟨serving.sndNxt, serving.len, {
      ackedCount := pageSent.printed.ackedCount
      fresh := fun none => absurd none (List.ne_nil_of_mem member)
      begun := fun _ => ⟨pageSent.printed.cursor.trans (congrArg _ length),
        pageSent.request.trans request, unfinished⟩
      part := fun _ => ⟨sentCount, part⟩ }, serving.sizes, fun _ _ => pending⟩ established }⟩
  rw [← Option.mem_some.mp found]
  exact Or.inr ⟨_, List.mem_cons_self, serving.sndNxt, rfl⟩

/-- Where no page is sent, headers are sent again and nothing else happens. -/
theorem retransmit_headers (state : conn.tcpstateflags ≠ .established) :
    (retransmit (serverTaskImpl callbackFunc) memory conn shared).1 = conn ∧
      (retransmit (serverTaskImpl callbackFunc) memory conn shared).2.1 = shared ∧
      Bare (retransmit (serverTaskImpl callbackFunc) memory conn shared).2.2 := by
  unfold retransmit
  cases is : conn.tcpstateflags
  case established => exact absurd is state
  case synRcvd =>
    refine ⟨rfl, rfl, fun packet member => ?_⟩
    rw [← Option.mem_some.mp member]
    rfl
  case finWait1 | closing | lastAck => exact ⟨rfl, rfl, bare_tcpSendFinack conn⟩
  case closed | finWait2 | timeWait => exact ⟨rfl, rfl, bare_none⟩

/-- The timer has run out. -/
theorem retransmit_carries (stage : Stage iss total sized shared conn link)
    (bound : link.acked + link.pending ≤ total) (outstanding : conn.len ≠ 0)
    (same : ∀ page ∈ (retransmit (serverTaskImpl callbackFunc) memory conn shared).2.1.rendered,
      page.length = total) :
    ∃ next, Carries iss total sized link next (retransmit (serverTaskImpl callbackFunc) memory conn shared) := by
  by_cases established : conn.tcpstateflags = .established
  · exact carries_rexmit callbackFunc (stage.serving established) bound established outstanding same
  · obtain ⟨conn_eq, shared_eq, bare⟩ :=
      @retransmit_headers _ conn shared callbackFunc memory established
    refine ⟨link, carries_idle bound bare ?_⟩
    rw [conn_eq, shared_eq]
    exact stage

/-- **The timer is some steps on the link**, by cases on what it finds. -/
theorem uipTimer_carries (stage : Stage iss total sized shared conn link)
    (bound : link.acked + link.pending ≤ total)
    (same : ∀ page ∈ (uipTimer (serverTaskImpl callbackFunc) memory conn shared).2.1.rendered,
      page.length = total) :
    ∃ next, Carries iss total sized link next (uipTimer (serverTaskImpl callbackFunc) memory conn shared) := by
  unfold uipTimer at same ⊢
  by_cases waiting : conn.tcpstateflags = .timeWait ∨ conn.tcpstateflags = .finWait2
  · rw [if_pos waiting]
    refine ⟨link, carries_idle bound bare_none ?_⟩
    dsimp only
    split
    · trivial
    · exact stage.timed (conn.timer + 1) conn.nrtx
  rw [if_neg waiting] at same ⊢
  by_cases closed : conn.tcpstateflags ≠ .closed
  · rw [if_pos closed] at same ⊢
    by_cases outstanding : conn.len ≠ 0
    · rw [if_pos outstanding] at same ⊢
      dsimp only at same ⊢
      by_cases expired : conn.timer = 0
      · rw [if_pos expired] at same ⊢
        by_cases given_up : conn.nrtx = uipMaxrtx ∨
            conn.tcpstateflags = .synRcvd ∧ conn.nrtx = uipMaxsynrtx
        · rw [if_pos given_up]
          refine ⟨link, carries_idle bound (fun packet member => ?_) trivial⟩
          rw [← Option.mem_some.mp member]
          rfl
        · rw [if_neg given_up] at same ⊢
          exact retransmit_carries callbackFunc (stage.timed _ _) bound outstanding same
      · rw [if_neg expired]
        exact ⟨link, carries_idle bound bare_none (stage.timed (conn.timer - 1) conn.nrtx)⟩
    · rw [if_neg outstanding] at same ⊢
      by_cases established : conn.tcpstateflags = .established
      · rw [if_pos established]
        have serving := stage.serving established
        have poll : appcall (serverTaskImpl callbackFunc) { poll := true } 0 memory conn shared =
            conn.app { poll := true } memory shared := rfl
        rw [poll, @appsend_quiet _ conn (conn.app { poll := true } memory shared) ⟨rfl, rfl⟩ rfl]
        exact ⟨link, carries_idle bound bare_none
          (Serving.stage ⟨serving.sndNxt, serving.len, { serving.ready with }, serving.sizes,
            serving.flows⟩ established)⟩
      · rw [if_neg established]
        exact ⟨link, carries_idle bound bare_none stage⟩
  · rw [if_neg closed]
    exact ⟨link, carries_idle bound bare_none stage⟩

end Carries

/-- How the whole agrees with a link. -/
structure Tracks (iss : SeqNo) (total : Nat) (sized : Prop) (net : Net World) (link : Link UInt8) : Prop where
  received : net.received = link.received
  acks : net.acks = link.acks
  sent : ∀ packet ∈ net.sent, OnLink iss link packet
  current : link.pending ≠ 0 → ∃ packet ∈ net.sent, Current iss link packet
  bound : link.acked + link.pending ≤ total
  stage : Stage iss total sized net.shared net.conn link
  sound : Sound (PrintedAt net.shared.rendered) link

section Tracks

variable {iss : SeqNo} {total : Nat} {sized : Prop} {net : Net World} {link : Link UInt8}

/-- A packet stays on the link. -/
theorem OnLink.mono {next : Link UInt8} {packet : Packet} (onLink : OnLink iss link packet)
    (sent : ∀ piece ∈ link.sent, piece ∈ next.sent) : OnLink iss next packet :=
  onLink.imp_right fun ⟨piece, member, found⟩ => ⟨piece, sent piece member, found⟩

/-- More pages allow more. -/
theorem PrintedAt.mono {rendered more : List (List UInt8)} (suffix : rendered <:+ more)
    {place : Nat} {byte : UInt8} : PrintedAt rendered place byte → PrintedAt more place byte :=
  fun ⟨page, member, found⟩ => ⟨page, suffix.mem member, found⟩

/-- A step of the connection is followed on the link. -/
theorem Tracks.after {next : Link UInt8} {outcome : Outcome World}
    (tracks : Tracks iss total sized net link) (carries : Carries iss total sized link next outcome)
    (more : net.shared.rendered <:+ outcome.2.1.rendered) :
    Tracks iss total sized (net.after outcome) next where
  received := tracks.received.trans carries.received.symm
  acks := tracks.acks.trans carries.acks.symm
  sent packet member := by
    rcases List.mem_append.mp member with new | old
    · exact carries.packet packet (Option.mem_toList.mp new)
    · exact (tracks.sent packet old).mono carries.sent
  current more := by
    rcases carries.current more with ⟨packet, new, current⟩ | ⟨acked, pending⟩
    · exact ⟨packet, List.mem_append_left _ (Option.mem_toList.mpr new), current⟩
    · obtain ⟨packet, old, current⟩ := tracks.current (pending ▸ more)
      exact ⟨packet, List.mem_append_right _ old, acked ▸ current.1, current.2.trans pending.symm⟩
  bound := carries.bound
  stage := carries.stage
  sound := (tracks.sound.mono fun _ _ => PrintedAt.mono more).steps carries.steps

/-- The client is as far ahead of a piece as it has bytes behind the first of it. -/
theorem lead_eq {received : List UInt8} {packet : Packet} {place : Nat}
    (seqno : packet.seqno = iss.after (1 + place)) (reached : place ≤ received.length)
    (small : received.length < 2 ^ 32) : lead iss received packet = received.length - place := by
  rw [lead, seqno, SeqNo.toNat_after, SeqNo.toNat_after]
  omega

/-- **The client takes from a packet what it would take from the piece.** -/
theorem take_eq {limit : Nat} {packet : Packet} {piece : Piece UInt8} {received : List UInt8}
    (seqno : packet.seqno = iss.after (1 + piece.place)) (payload : packet.payload = piece.values)
    (reached : piece.place ≤ received.length) (small : received.length < 2 ^ 32) :
    take iss limit received packet = Pieces.accept limit received piece := by
  rw [take, Pieces.accept, lead_eq seqno reached small, payload, if_pos reached]
  split
  · rfl
  · next beyond =>
      rw [List.drop_eq_nil_of_le (by omega), List.take_nil, List.append_nil]

/-- Headers bring nothing. -/
theorem take_empty {limit : Nat} {packet : Packet} {received : List UInt8}
    (empty : packet.payload = []) : take iss limit received packet = received := by
  rw [take, empty, List.drop_nil, List.take_nil, List.append_nil, ite_self]

/-- Other connections change nothing of this one but the URL and what the pages depend on. -/
theorem Stage.elsewhere {shared : Shared World} {conn : UipConn}
    (stage : Stage iss total sized shared conn link) (getStringGlobal : List UInt8) (world : World) :
    Stage iss total sized { shared with getStringGlobal, world } conn link := by
  by_cases established : conn.tcpstateflags = .established
  · have serving := stage.serving established
    exact Serving.stage ⟨serving.sndNxt, serving.len, { serving.ready with }, serving.sizes,
      serving.flows⟩ established
  · rw [Stage] at stage ⊢
    cases state : conn.tcpstateflags <;> rw [state] at stage
    case established => exact absurd state established
    all_goals exact stage

/-- The client's side is no part of it. -/
theorem Stage.client {shared : Shared World} {conn : UipConn}
    (stage : Stage iss total sized shared conn link) (received : List UInt8) (acks : List Nat) :
    Stage iss total sized shared conn { link with received, acks } := by
  by_cases established : conn.tcpstateflags = .established
  · have serving := stage.serving established
    exact Serving.stage ⟨serving.sndNxt, serving.len, { serving.ready with }, serving.sizes,
      serving.flows⟩ established
  · rw [Stage] at stage ⊢
    cases state : conn.tcpstateflags <;> rw [state] at stage
    case established => exact absurd state established
    all_goals exact stage

/-- What an honest segment acknowledges has arrived. -/
theorem Tracks.known {seg : Segment} (tracks : Tracks iss total sized net link) (small : total < 2 ^ 31)
    (established : net.conn.tcpstateflags = .established)
    (honest : Honest iss net.acks seg net.conn) (ackdata : acknowledges seg net.conn = true) :
    link.acked + link.pending ∈ link.acks := by
  obtain ⟨count, member, ackno⟩ := honest ackdata
  rw [tracks.acks] at member
  have bound := tracks.bound
  have count_le := tracks.sound.acks count member
  have received_le := tracks.sound.length_le
  have serving := tracks.stage.serving established
  rw [(acknowledges_iff.mp ackdata).2.2, serving.sndNxt, uipAdd32_after, serving.len] at ackno
  have places : 1 + link.acked + link.pending = 1 + count :=
    SeqNo.after_injective iss (by omega) (by omega) ackno
  have arrived : link.acked + link.pending = count := by omega
  rwa [arrived]

/-- The client takes from a packet what it would take on the link. -/
theorem Tracks.deliver (tracks : Tracks iss total sized net link) (small : total < 2 ^ 31) (limit : Nat)
    {packet : Packet} (member : packet ∈ net.sent) :
    ∃ next, Tracks iss total sized { net with received := take iss limit net.received packet } next := by
  rcases tracks.sent packet member with empty | ⟨piece, known, seqno, payload⟩
  · exact ⟨link, { tracks with received := (take_empty empty).trans tracks.received }⟩
  · have bound := tracks.bound
    have received_le := tracks.sound.length_le
    have taken := @take_eq iss limit packet piece link.received seqno payload
      (tracks.sound.reached known) (by omega)
    refine ⟨{ link with received := Pieces.accept limit link.received piece }, { tracks with
      received := ?_
      stage := tracks.stage.client _ _
      sound := tracks.sound.step (Step.deliver link limit piece known) }⟩
    rw [tracks.received, taken]

/-- **Each step is followed on the link**, by cases on what happens. -/
theorem tracks_step (callbackFunc : PageServingFunction World) (event : NetEvent World)
    (small : total < 2 ^ 31) (tracks : Tracks iss total sized net link) (fair : Fair iss net event)
    (same : ∀ page ∈ (netStep callbackFunc iss net event).shared.rendered, page.length = total) :
    ∃ next, Tracks iss total sized (netStep callbackFunc iss net event) next := by
  cases event with
  | segment seg memory =>
      obtain ⟨next, carries⟩ := uipInput_carries callbackFunc tracks.stage tracks.bound
        (fun established => ⟨tracks.known small established (fair established).1,
          (fair established).2⟩) same
      exact ⟨next, tracks.after carries (uipInput_rendered (serverTaskImpl_rendered callbackFunc) ..)⟩
  | timer memory =>
      obtain ⟨next, carries⟩ := uipTimer_carries callbackFunc tracks.stage tracks.bound same
      exact ⟨next, tracks.after carries (uipTimer_rendered (serverTaskImpl_rendered callbackFunc) ..)⟩
  | elsewhere getStringGlobal world =>
      exact ⟨link, { tracks with stage := tracks.stage.elsewhere getStringGlobal world }⟩
  | deliver index limit =>
      rw [netStep, Net.deliver]
      split
      · next packet found => exact tracks.deliver small limit (List.mem_of_getElem? found)
      · exact ⟨link, tracks⟩
  | acknowledge =>
      exact ⟨{ link with acks := link.received.length :: link.acks }, {
        received := tracks.received
        acks := congrArg₂ List.cons (congrArg List.length tracks.received) tracks.acks
        sent := tracks.sent
        current := tracks.current
        bound := tracks.bound
        stage := tracks.stage.client _ _
        sound := tracks.sound.step (Step.acknowledge link) }⟩

/-- What the client has was printed. -/
theorem Tracks.printed (tracks : Tracks iss total sized net link) (place : Nat) (byte : UInt8)
    (found : net.received[place]? = some byte) : PrintedAt net.shared.rendered place byte := by
  rw [tracks.received] at found
  have printed := tracks.sound.received place byte found
  rwa [Nat.zero_add] at printed

/-- After the page, it has all of it. -/
theorem Tracks.arrived (tracks : Tracks iss total sized net link)
    (served : net.conn.tcpstateflags.served = true) : net.received.length = total := by
  have stage := tracks.stage
  rw [Stage] at stage
  have all : link.acked = total ∧ link.pending = 0 := by
    cases state : net.conn.tcpstateflags <;> rw [state] at stage served
    case finWait1 | finWait2 | closing | timeWait => exact stage
    case closed | synRcvd | established | lastAck => exact absurd served Bool.false_ne_true
  rw [tracks.received, tracks.sound.arrived all.2, all.1]

/-- Where all pages are one, it has the front of it, and after the page all of it. -/
theorem Tracks.page {page : List UInt8} (tracks : Tracks iss page.length sized net link)
    (same : ∀ printed ∈ net.shared.rendered, printed = page) :
    net.received <+: page ∧ (net.conn.tcpstateflags.served = true → net.received = page) := by
  have front : net.received <+: page := by
    refine Pieces.allowedFrom_source.mp fun place byte found => ?_
    rw [Nat.zero_add]
    obtain ⟨printed, member, there⟩ := tracks.printed place byte found
    rwa [same printed member] at there
  exact ⟨front, fun served => front.eq_of_length (tracks.arrived served)⟩

end Tracks

section Runs

variable (callbackFunc : PageServingFunction World) {iss : SeqNo}

theorem net_deliver_keeps (index limit : Nat) (net : Net World) :
    (net.deliver iss index limit).shared = net.shared ∧
      (net.deliver iss index limit).conn = net.conn := by
  unfold Net.deliver
  split <;> exact ⟨rfl, rfl⟩

theorem netStep_rendered (net : Net World) (event : NetEvent World) :
    net.shared.rendered <:+ (netStep callbackFunc iss net event).shared.rendered := by
  cases event with
  | segment seg memory => exact uipInput_rendered (serverTaskImpl_rendered callbackFunc) ..
  | timer memory => exact uipTimer_rendered (serverTaskImpl_rendered callbackFunc) ..
  | elsewhere getStringGlobal world => exact List.suffix_rfl
  | deliver index limit =>
      have kept := (@net_deliver_keeps _ iss index limit net).1
      exact kept.symm ▸ List.suffix_refl net.shared.rendered
  | acknowledge => exact List.suffix_rfl

/-- A connection starts with nothing sent. -/
theorem tracks_start (total : Nat) {sized : Prop} (slot : UipConn) (seqno : SeqNo)
    (mssOption : Option UInt16) (getStringGlobal : List UInt8) (world : World)
    (sizes : sized → (foundListen slot iss seqno mssOption).Sized) :
    Tracks iss total sized (netStart slot iss seqno mssOption getStringGlobal world) Link.start where
  received := rfl
  acks := rfl
  sent _ member := absurd member List.not_mem_nil
  current more := absurd rfl more
  bound := Nat.zero_le total
  stage := by
    cases mssOption <;> exact ⟨rfl, rfl, rfl, rfl, rfl, sizes⟩
  sound := Pieces.sound_start

/-- That a link follows, if the pages have one length, is kept. -/
theorem tracks_kept {total : Nat} {sized : Prop} (small : total < 2 ^ 31) (net : Net World)
    (event : NetEvent World)
    (before : (∀ page ∈ net.shared.rendered, page.length = total) →
      ∃ link, Tracks iss total sized net link) (fair : Fair iss net event)
    (same : ∀ page ∈ (netStep callbackFunc iss net event).shared.rendered, page.length = total) :
    ∃ next, Tracks iss total sized (netStep callbackFunc iss net event) next := by
  obtain ⟨link, tracks⟩ := before fun page member =>
    same page ((netStep_rendered callbackFunc net event).mem member)
  exact tracks_step callbackFunc event small tracks fair same

/-- **A whole run is followed on a link**, if its pages have one length. -/
theorem tracks_run {total : Nat} {sized : Prop} (small : total < 2 ^ 31) (events : List (NetEvent World))
    {start : Net World} (tracks : ∃ link, Tracks iss total sized start link)
    (fair : Along (netStep callbackFunc iss) (Fair iss) start events)
    (same : ∀ page ∈ (run (netStep callbackFunc iss) start events).shared.rendered,
      page.length = total) :
    ∃ link, Tracks iss total sized (run (netStep callbackFunc iss) start events) link :=
  @run_invariant _ _ (netStep callbackFunc iss) (Fair iss)
    (fun net => (∀ page ∈ net.shared.rendered, page.length = total) →
      ∃ link, Tracks iss total sized net link)
    (fun net event before fair => tracks_kept callbackFunc small net event before fair)
    events start (fun _ => tracks) fair same

end Runs

/-- **What a client has is a page, put together from the pages that were printed.** The pages have
one length. At each place the client has a byte that one of them has there, and when the server has
closed the connection by itself, it has as many bytes as a page. -/
theorem received_printed (callbackFunc : PageServingFunction World) (slot : UipConn)
    (iss seqno : SeqNo) (mssOption : Option UInt16) (getStringGlobal : List UInt8) (world : World)
    (events : List (NetEvent World)) (total : Nat) (small : total < 2 ^ 31)
    (fair : Along (netStep callbackFunc iss) (Fair iss)
      (netStart slot iss seqno mssOption getStringGlobal world) events)
    (same : ∀ page ∈ (run (netStep callbackFunc iss)
      (netStart slot iss seqno mssOption getStringGlobal world) events).shared.rendered,
      page.length = total) :
    let net := run (netStep callbackFunc iss)
      (netStart slot iss seqno mssOption getStringGlobal world) events
    (∀ place byte, net.received[place]? = some byte → PrintedAt net.shared.rendered place byte) ∧
      (net.conn.tcpstateflags.served = true → net.received.length = total) := by
  intro net
  obtain ⟨link, tracks⟩ := tracks_run callbackFunc small events
    ⟨_, tracks_start total slot seqno mssOption getStringGlobal world False.elim⟩ fair same
  exact ⟨tracks.printed, tracks.arrived⟩

section Example

/-- A page that is another one each time. -/
def countedPages : PageServingFunction UInt8 :=
  fun _ count => (ascii "hi" ++ [count], true, count + 1)

/-- A place of the table that was never used. -/
def unusedSlot : UipConn where
  rcvNxt := ⟨0, 0, 0, 0⟩
  sndNxt := ⟨0, 0, 0, 0⟩
  len := 0
  mss := 0
  initialmss := 0
  sa := 0
  sv := 0
  rto := 0
  tcpstateflags := .closed
  timer := 0
  nrtx := 0
  ackedCount := 0
  sentCount := 0
  cursor := 0
  request := false

/-- A segment that acknowledges some bytes behind the sequence number 6. -/
def ackOf (count : Nat) (seqno : UInt8) (len : UInt16) : Segment where
  seqno := ⟨0, 0, 0, seqno⟩
  ackno := ⟨0, 0, 0, UInt8.ofNat (6 + count)⟩
  fin := false
  syn := false
  rst := false
  ack := true
  wnd := 0
  len := len

/-- A request of eight bytes, and a page of 23 bytes in two parts; the first is sent twice. -/
def twoParts : List (NetEvent UInt8) :=
  [.segment (ackOf 0 1 8) fun place => (ascii "GET / \n\n").getD place.toNat 0,
    .timer fun _ => 0, .timer fun _ => 0, .timer fun _ => 0, .timer fun _ => 0,
    .deliver 1 5, .deliver 0 100, .acknowledge, .segment (ackOf 12 9 0) fun _ => 0,
    .deliver 0 100, .acknowledge, .segment (ackOf 23 9 0) fun _ => 0]

theorem received_printed_twoParts :
    let net := run (netStep countedPages ⟨0, 0, 0, 5⟩)
      (netStart unusedSlot ⟨0, 0, 0, 5⟩ ⟨0, 0, 0, 0⟩ (some 12) [] 48) twoParts
    (∀ place byte, net.received[place]? = some byte → PrintedAt net.shared.rendered place byte) ∧
      (net.conn.tcpstateflags.served = true → net.received.length = 23) :=
  received_printed countedPages unusedSlot ⟨0, 0, 0, 5⟩ ⟨0, 0, 0, 0⟩ (some 12) [] 48 twoParts 23
    (by decide) (by decide +kernel) (by decide +kernel)

end Example

/-- **What a client has is the front of the page**, where the page is the same each time it is
printed, and when the server has closed the connection by itself, it is the page. -/
theorem received_page (callbackFunc : PageServingFunction World) (slot : UipConn)
    (iss seqno : SeqNo) (mssOption : Option UInt16) (getStringGlobal : List UInt8) (world : World)
    (events : List (NetEvent World)) (page : List UInt8) (small : page.length < 2 ^ 31)
    (fair : Along (netStep callbackFunc iss) (Fair iss)
      (netStart slot iss seqno mssOption getStringGlobal world) events)
    (same : ∀ printed ∈ (run (netStep callbackFunc iss)
      (netStart slot iss seqno mssOption getStringGlobal world) events).shared.rendered,
      printed = page) :
    let net := run (netStep callbackFunc iss)
      (netStart slot iss seqno mssOption getStringGlobal world) events
    net.received <+: page ∧ (net.conn.tcpstateflags.served = true → net.received = page) := by
  intro net
  obtain ⟨link, tracks⟩ := tracks_run callbackFunc small events
    ⟨_, tracks_start page.length slot seqno mssOption getStringGlobal world False.elim⟩ fair
    fun printed member => congrArg List.length (same printed member)
  exact tracks.page same

theorem received_page_twoParts :
    let net := run (netStep (fun _ world => (ascii "hi!", true, world)) ⟨0, 0, 0, 5⟩)
      (netStart unusedSlot ⟨0, 0, 0, 5⟩ ⟨0, 0, 0, 0⟩ (some 12) [] 48) twoParts
    net.received <+: response (ascii "hi!") true ∧
      (net.conn.tcpstateflags.served = true → net.received = response (ascii "hi!") true) :=
  received_page (fun _ world => (ascii "hi!", true, world)) unusedSlot ⟨0, 0, 0, 5⟩ ⟨0, 0, 0, 0⟩
    (some 12) [] 48 twoParts (response (ascii "hi!") true) (by decide +kernel) (by decide +kernel)
    (by decide +kernel)

end EquinoxClock.Wifi
