/-
No page gets stuck.

Where the SYN names a packet size, a part of a page that has begun is always under way
(`part_under_way`), so the timer goes on asking for it. Whatever has happened until then, the page
can still arrive: from any such state the client gets the part under way, acknowledges it and has
the connection send the next one, and after some rounds of that it has the page and the server has
closed the connection (`page_completes`). Each round acknowledges some more of the page; that is the
induction.
-/

import EquinoxClock.Wifi.Delivery

namespace EquinoxClock.Wifi

open EquinoxClock.Lib
open Pieces (Link)

variable {World : Type*} (callbackFunc : PageServingFunction World)

/-- The segment by which a client acknowledges all that is under way, with its window closed. -/
def ackSegment (conn : UipConn) : Segment where
  seqno := conn.rcvNxt
  ackno := uipAdd32 conn.sndNxt conn.len
  fin := false
  syn := false
  rst := false
  ack := true
  wnd := 0
  len := 0

/-- **The acknowledgement** ends the page or has the next part sent. -/
theorem uipInput_ackSegment {conn : UipConn} {shared : Shared World} {acked : Nat}
    (memory : Int → UInt8) (established : conn.tcpstateflags = .established)
    (outstanding : conn.len ≠ 0) (sum : conn.ackedCount + conn.sentCount = acked) :
    let outcome := uipInput (serverTaskImpl callbackFunc) (ackSegment conn) memory conn shared
    outcome.2.1.getStringGlobal = shared.getStringGlobal ∧
      (outcome.1.tcpstateflags.served = true ∧ outcome.2.1.rendered = shared.rendered ∨
        outcome.1.tcpstateflags = .established ∧ outcome.1.ackedCount = acked ∧
          outcome.2.1.rendered =
            pageOf callbackFunc shared.getStringGlobal shared.world ::
              shared.rendered) := by
  have ackdata : acknowledges (ackSegment conn) conn = true :=
    acknowledges_iff.mpr ⟨rfl, outstanding, rfl⟩
  obtain ⟨sa, sv, rto, timer, frame⟩ := acknowledge_frame conn
  have input : uipInput (serverTaskImpl callbackFunc) (ackSegment conn) memory conn shared =
      inEstablished (serverTaskImpl callbackFunc) (ackSegment conn) memory true (acknowledge conn) shared := by
    rw [uipInput_established memory shared established rfl (by simp [ackSegment]), ackdata, if_pos rfl]
  have called (conn : UipConn) : appcall (serverTaskImpl callbackFunc) { ackdata := true } 0 memory conn shared =
      onEnded (onAcked callbackFunc (conn.app { ackdata := true } memory shared)) := by
    rw [appcall, serverTaskImpl_segment _ _ _ rfl]
    rfl
  have output : inEstablished (serverTaskImpl callbackFunc) (ackSegment conn) memory true (acknowledge conn) shared =
      appsend { acknowledge conn with mss := windowMss (ackSegment conn) (acknowledge conn) }
        (onEnded (onAcked callbackFunc (UipConn.app { ackdata := true } memory
          { acknowledge conn with mss := windowMss (ackSegment conn) (acknowledge conn) }
          shared))) := by
    rw [← called]
    rfl
  dsimp only
  rw [input, output, frame]
  generalize windowMss _ _ = mss
  generalize called_eq : UipConn.app { ackdata := true } memory _ shared = app
  have facts : app.flags = { ackdata := true } ∧ app.ackedCount + app.sentCount = acked ∧
      app.getStringGlobal = shared.getStringGlobal ∧ app.world = shared.world ∧
      app.rendered = shared.rendered := by
    rw [← called_eq]
    exact ⟨rfl, sum, rfl, rfl, rfl⟩
  obtain ⟨flags, sum, getStringGlobal, world, rendered⟩ := facts
  rcases onAcked_cases callbackFunc app (by rw [flags]) sum with ⟨-, closed⟩ | ⟨-, pageSent⟩
  · rw [closed, appsend_close rfl rfl]
    exact ⟨getStringGlobal, Or.inl ⟨rfl, rendered⟩⟩
  · have kept : (onAcked callbackFunc app).flags = { ackdata := true } :=
      pageSent.flags.trans flags
    rw [onEnded_stays _ (by rw [kept]; exact ⟨rfl, rfl, rfl⟩)]
    generalize onAcked callbackFunc app = next at pageSent kept ⊢
    rw [appsend_shared]
    have stays := @appsend_stays _ { conn with
      sndNxt := uipAdd32 conn.sndNxt conn.len, len := 0, sa, sv, rto, timer, mss } next
      (by rw [kept]; exact ⟨rfl, rfl⟩)
    refine ⟨pageSent.getStringGlobal.trans getStringGlobal, Or.inr ⟨stays.1.trans established,
      stays.2.trans pageSent.printed.ackedCount, pageSent.rendered.trans ?_⟩⟩
    dsimp only
    rw [getStringGlobal, world, rendered]

section Round

variable {iss : SeqNo} {total : Nat} {net : Net World} {link : Link UInt8}

/-- One round: the client gets the part under way and acknowledges it, and that arrives. -/
def acknowledging (net : Net World) (index limit : Nat) : List (NetEvent World) :=
  [.deliver index limit, .acknowledge, .segment (ackSegment net.conn) fun _ => 0]

/-- The part under way brings the client to the end of it. -/
theorem take_current {packet : Packet} (tracks : Tracks iss total True net link)
    (small : total < 2 ^ 31) (current : Current iss link packet) :
    (take iss link.pending net.received packet).length = link.acked + link.pending := by
  have acked_le := tracks.sound.acked_le
  have length_le := tracks.sound.length_le
  have bound := tracks.bound
  rw [tracks.received, take, lead_eq current.1 acked_le (by omega), current.2, if_pos (by omega),
    List.length_append, List.length_take, List.length_drop, current.2]
  omega

/-- A packet that was sent reaches the client, and the client says so. -/
theorem run_delivered {packet : Packet} {index limit : Nat}
    (found : net.sent[index]? = some packet) :
    run (netStep callbackFunc iss) net [.deliver index limit, .acknowledge] = { net with
      received := take iss limit net.received packet
      acks := (take iss limit net.received packet).length :: net.acks } := by
  have delivered : net.deliver iss index limit =
      { net with received := take iss limit net.received packet } := by
    rw [Net.deliver, found]
  have step : netStep callbackFunc iss net (.deliver index limit) =
      { net with received := take iss limit net.received packet } := delivered
  rw [run_cons, step]
  rfl

/-- How it stands after a round: the page is complete, or more of it is acknowledged. -/
structure Advanced (iss : SeqNo) (total : Nat) (net next : Net World) : Prop where
  tracks : ∃ link, Tracks iss total True next link
  same : ∀ page ∈ next.shared.rendered, page.length = total
  url : next.shared.getStringGlobal = net.shared.getStringGlobal
  further : next.conn.tcpstateflags.served = true ∨
    next.conn.tcpstateflags = .established ∧ next.shared.rendered ≠ [] ∧
      net.conn.ackedCount < next.conn.ackedCount

/-- **A round advances.** -/
theorem round_advances (tracks : Tracks iss total True net link) (small : total < 2 ^ 31)
    (established : net.conn.tcpstateflags = .established) (begun : net.shared.rendered ≠ [])
    (same : ∀ page ∈ net.shared.rendered, page.length = total)
    (pages : ∀ world, (pageOf callbackFunc net.shared.getStringGlobal world).length =
      total) :
    ∃ index limit, Along (netStep callbackFunc iss) (Fair iss) net
        (acknowledging net index limit) ∧
      Advanced iss total net
        (run (netStep callbackFunc iss) net (acknowledging net index limit)) := by
  have serving := tracks.stage.serving established
  have pending := serving.flows trivial begun
  have outstanding : net.conn.len ≠ 0 := by
    intro idle
    rw [← serving.len, idle] at pending
    exact pending rfl
  obtain ⟨packet, member, current⟩ := tracks.current pending
  obtain ⟨index, found⟩ := List.getElem?_of_mem member
  have arrived := take_current tracks small current
  have sum : net.conn.ackedCount + net.conn.sentCount = (link.acked + link.pending : Nat) := by
    have ackedCount : net.conn.ackedCount = link.acked := serving.ready.ackedCount
    have sentCount : net.conn.sentCount = link.pending := (serving.ready.part pending).1
    rw [ackedCount, sentCount, Int.natCast_add]
  obtain ⟨url, outcome⟩ := @uipInput_ackSegment _ callbackFunc net.conn net.shared _ (fun _ => 0)
    established outstanding sum
  have rounds : acknowledging net index link.pending =
      [.deliver index link.pending, .acknowledge] ++
        [.segment (ackSegment net.conn) fun _ => 0] := rfl
  have fair : Along (netStep callbackFunc iss) (Fair iss) net
      (acknowledging net index link.pending) := by
    rw [rounds, along_append, run_delivered callbackFunc found]
    refine ⟨⟨trivial, trivial, trivial⟩, fun _ => ⟨fun _ => ⟨_, List.mem_cons_self, ?_⟩, ?_⟩, trivial⟩
    · show uipAdd32 net.conn.sndNxt net.conn.len = _
      rw [arrived, serving.sndNxt, uipAdd32_after, serving.len, Nat.add_assoc]
    · exact Or.inr (Or.inr ⟨acknowledges_iff.mpr ⟨rfl, outstanding, rfl⟩, rfl⟩)
  have after : (run (netStep callbackFunc iss) net (acknowledging net index link.pending)).conn =
        (uipInput (serverTaskImpl callbackFunc) (ackSegment net.conn) (fun _ => 0) net.conn net.shared).1 ∧
      (run (netStep callbackFunc iss) net (acknowledging net index link.pending)).shared =
        (uipInput (serverTaskImpl callbackFunc) (ackSegment net.conn) (fun _ => 0) net.conn net.shared).2.1 := by
    rw [rounds, run_append, run_delivered callbackFunc found]
    exact ⟨rfl, rfl⟩
  have lengths : ∀ page ∈ (run (netStep callbackFunc iss) net
      (acknowledging net index link.pending)).shared.rendered, page.length = total := by
    rw [after.2]
    rcases outcome with ⟨-, rendered⟩ | ⟨-, -, rendered⟩
    · rw [rendered]
      exact same
    · rw [rendered]
      exact List.forall_mem_cons.mpr ⟨pages _, same⟩
  refine ⟨index, link.pending, fair, {
    tracks := tracks_run callbackFunc small _ ⟨link, tracks⟩ fair lengths
    same := lengths
    url := by rw [after.2, url]
    further := ?_ }⟩
  rw [after.1, after.2]
  refine outcome.imp And.left fun ⟨state, acked, rendered⟩ => ⟨state, ?_, ?_⟩
  · rw [rendered]
    exact List.cons_ne_nil _ _
  · have ackedCount : net.conn.ackedCount = link.acked := serving.ready.ackedCount
    rw [acked, ackedCount]
    omega

/-- **Some rounds complete the page**: each leaves less of it to be acknowledged. -/
theorem rounds_complete (small : total < 2 ^ 31) (left : Nat) :
    ∀ net : Net World, (∃ link, Tracks iss total True net link) →
      net.conn.tcpstateflags = .established → net.shared.rendered ≠ [] →
      (∀ page ∈ net.shared.rendered, page.length = total) →
      (∀ world, (pageOf callbackFunc net.shared.getStringGlobal world).length = total) →
      total - net.conn.ackedCount.toNat ≤ left →
      ∃ more, Along (netStep callbackFunc iss) (Fair iss) net more ∧
        (run (netStep callbackFunc iss) net more).conn.tcpstateflags.served = true ∧
        (run (netStep callbackFunc iss) net more).received.length = total := by
  induction left with
  | zero =>
      intro net ⟨link, tracks⟩ established begun same pages none
      have ready := (tracks.stage.serving established).ready
      have ackedCount : net.conn.ackedCount = link.acked := ready.ackedCount
      have unfinished := (ready.begun begun).2.2
      omega
  | succ left ih =>
      intro net ⟨link, tracks⟩ established begun same pages enough
      obtain ⟨index, limit, fair, advanced⟩ :=
        round_advances callbackFunc tracks small established begun same pages
      rcases advanced.further with served | ⟨stays, goesOn, further⟩
      · obtain ⟨link, tracks⟩ := advanced.tracks
        exact ⟨_, fair, served, tracks.arrived served⟩
      · have ackedCount : net.conn.ackedCount = link.acked :=
          (tracks.stage.serving established).ready.ackedCount
        have unfinished := ((tracks.stage.serving established).ready.begun begun).2.2
        obtain ⟨more, fairMore, served, arrived⟩ := ih _ advanced.tracks stays goesOn advanced.same
          (by rw [advanced.url]; exact pages) (by omega)
        refine ⟨acknowledging net index limit ++ more, (along_append more _ net).mpr
          ⟨fair, fairMore⟩, ?_, ?_⟩
        · rw [run_append]
          exact served
        · rw [run_append]
          exact arrived

end Round

/-- A SYN that names a size makes it known. -/
theorem foundListen_sized (slot : UipConn) (iss seqno : SeqNo) {size : UInt16} (named : size ≠ 0) :
    (foundListen slot iss seqno (some size)).Sized := by
  have sizes : (if size > uipTcpMss then uipTcpMss else size) ≠ 0 := by
    split
    · decide
    · exact named
  exact ⟨sizes, sizes⟩

/-- **A page that has begun is always under way**, until it is complete, where the SYN names a packet
size and the pages have one length. -/
theorem part_under_way (slot : UipConn) (iss seqno : SeqNo) (size : UInt16) (named : size ≠ 0)
    (getStringGlobal : List UInt8) (world : World) (events : List (NetEvent World)) (total : Nat)
    (small : total < 2 ^ 31)
    (fair : Along (netStep callbackFunc iss) (Fair iss)
      (netStart slot iss seqno (some size) getStringGlobal world) events)
    (same : ∀ page ∈ (run (netStep callbackFunc iss)
      (netStart slot iss seqno (some size) getStringGlobal world) events).shared.rendered,
      page.length = total) :
    let net := run (netStep callbackFunc iss)
      (netStart slot iss seqno (some size) getStringGlobal world) events
    net.conn.tcpstateflags = .established → net.shared.rendered ≠ [] → net.conn.len ≠ 0 := by
  intro net established begun idle
  obtain ⟨link, tracks⟩ := tracks_run callbackFunc small events ⟨_, tracks_start total slot seqno
    (some size) getStringGlobal world fun _ : True => foundListen_sized slot iss seqno named⟩ fair
    same
  have serving := tracks.stage.serving established
  have pending := serving.flows trivial begun
  rw [← serving.len, idle] at pending
  exact pending rfl

theorem part_under_way_twoParts :
    (run (netStep countedPages ⟨0, 0, 0, 5⟩)
      (netStart unusedSlot ⟨0, 0, 0, 5⟩ ⟨0, 0, 0, 0⟩ (some 12) [] 48)
      (twoParts.take 8)).conn.len ≠ 0 :=
  part_under_way countedPages unusedSlot ⟨0, 0, 0, 5⟩ ⟨0, 0, 0, 0⟩ 12 (by decide) [] 48
    (twoParts.take 8) 23 (by decide) (by decide +kernel) (by decide +kernel) (by decide +kernel)
    (by decide +kernel)

end EquinoxClock.Wifi
