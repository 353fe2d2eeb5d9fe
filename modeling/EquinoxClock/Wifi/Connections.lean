/-
The connections of the web server.

`uip_process` finds the connection of a segment in `uip_conns` by its ports and its address. A SYN
for a port that is listened to gets a place that is closed, or else the one that has waited longest
in `UIP_TIME_WAIT`; where there is none it is dropped. A segment that belongs to nothing is answered
with a reset. Between two segments the stack calls `uip_process` for the timer of each place in
turn, and when the link was lost it begins anew with all places closed (`stackInit`).

A port that is not set is 0, also in `uip_listenports`, so port 0 is listened to like any other.
Nothing is called for its connections: only those of port 80 have the web server.

Each place has its client. What a client gets does not depend on the other places
(`clients_served`). Who is served does: where every place has an established connection that is
silent, no other client ever gets one (`locked_out`).
-/

import EquinoxClock.Lib.Slots
import EquinoxClock.Wifi.Checksum
import EquinoxClock.Wifi.Timeouts

namespace EquinoxClock.Wifi

open EquinoxClock.Lib
open Pieces (Link)

/-- What a connection is found by, as it stands in the packets. -/
structure Endpoint where
  lport : UInt16
  rport : UInt16
  ripaddr : UInt16 × UInt16
  deriving DecidableEq

/-- A place of `uip_conns`, with the number its connection started at, the pages printed for it, the
packets it has sent, and its client. -/
structure Place where
  endpoint : Endpoint
  conn : UipConn
  iss : SeqNo
  rendered : List (List UInt8)
  sent : List Packet
  received : List UInt8
  acks : List Nat

/-- The TCP stack: `uip_conns`, `uip_listenports`, `iss`, and what all pages share. -/
structure Stack (World : Type*) where
  conns : List Place
  listenports : List UInt16
  iss : SeqNo
  getStringGlobal : List UInt8
  world : World

/-- What is read of a segment, with the flag `TCP_PSH` and the size it names. -/
structure Header extends Segment where
  psh : Bool
  mssOption : Option UInt16

/-- `(BUF->flags & TCP_CTL) == TCP_SYN`. -/
def Header.isSyn (header : Header) : Bool :=
  header.syn && !header.fin && !header.rst && !header.ack && !header.psh

/-- `tcpstateflags != UIP_CLOSED`. -/
def Place.Open (place : Place) : Prop := place.conn.tcpstateflags ≠ .closed

instance (place : Place) : Decidable place.Open := inferInstanceAs (Decidable (_ ≠ _))

/-- The connection a segment is for. -/
def findConn (endpoint : Endpoint) (conns : List Place) : Option Nat :=
  Slots.lookup Place.Open Place.endpoint endpoint conns

/-- The search for a place, from the index `c` on, with `uip_connr` and its timer. -/
def searchUnused : (c : Nat) → (uipConnr : Option (Nat × UInt8)) → List Place → Option Nat
  | _, uipConnr, [] => uipConnr.map Prod.fst
  | c, uipConnr, place :: conns =>
      if place.conn.tcpstateflags = .closed then some c
      else if place.conn.tcpstateflags = .timeWait ∧
          ∀ oldest ∈ uipConnr, place.conn.timer > oldest.2 then
        searchUnused (c + 1) (some (c, place.conn.timer)) conns
      else searchUnused (c + 1) uipConnr conns

/-- The place for a new connection. -/
def unusedConn (conns : List Place) : Option Nat := searchUnused 0 none conns

/-- `reset`: the answer to a segment that belongs to nothing. -/
def reset (seg : Segment) : Option Packet :=
  if seg.rst then none
  else some { seqno := seg.ackno, ackno := seg.seqno.increment3, rst := true }

variable {World : Type*}

/-- A place with what it shares and its client. -/
def Stack.net (stack : Stack World) (place : Place) : Net World where
  conn := place.conn
  shared := ⟨stack.getStringGlobal, stack.world, place.rendered⟩
  sent := place.sent
  received := place.received
  acks := place.acks

/-- A place after something happened to it. -/
def Place.update (place : Place) (net : Net World) : Place :=
  { place with
    conn := net.conn, rendered := net.shared.rendered, sent := net.sent, received := net.received
    acks := net.acks }

/-- `server_app_task`: only the connections of port 80 have the web server. -/
def serverAppTask (callbackFunc : PageServingFunction World) (lport : UInt16) :
    Nat → App World → App World :=
  if lport = htons 80 then serverTaskImpl callbackFunc else fun _ app => app

/-- `uip_process` for a place. -/
def Stack.process (callbackFunc : PageServingFunction World) (index : Nat)
    (uipProcess : (Nat → App World → App World) → UipConn → Shared World → Outcome World)
    (stack : Stack World) : Stack World × Option Packet :=
  match stack.conns[index]? with
  | some place =>
      let net := stack.net place
      let outcome := uipProcess (serverAppTask callbackFunc place.endpoint.lport) net.conn net.shared
      ({ stack with
        conns := stack.conns.set index (place.update (net.after outcome))
        getStringGlobal := outcome.2.1.getStringGlobal
        world := outcome.2.1.world }, outcome.2.2)
  | none => (stack, none)

/-- `found_listen`, for the place that is taken. -/
def Place.listen (iss : SeqNo) (endpoint : Endpoint) (header : Header) (place : Place) : Place where
  endpoint := endpoint
  conn := foundListen place.conn iss header.seqno header.mssOption
  iss := iss
  rendered := []
  sent := []
  received := []
  acks := []

/-- `found_listen`, for the place with that index. -/
def Stack.accept (index : Nat) (endpoint : Endpoint) (header : Header) (stack : Stack World) :
    Stack World × Option Packet :=
  match stack.conns[index]? with
  | some place =>
      let place := place.listen stack.iss endpoint header
      ({ stack with conns := stack.conns.set index place },
        some { tcpSend place.conn [] with syn := true })
  | none => (stack, none)

/-- `uip_process` for a segment, from the label `tcp_input` on. -/
def tcpInput (callbackFunc : PageServingFunction World) (endpoint : Endpoint) (header : Header)
    (memory : Int → UInt8) (stack : Stack World) : Stack World × Option Packet :=
  match findConn endpoint stack.conns with
  | some index =>
      stack.process callbackFunc index fun task => uipInput task header.toSegment memory
  | none =>
      if header.isSyn = true ∧ endpoint.lport ∈ stack.listenports then
        match unusedConn stack.conns with
        | some index => stack.accept index endpoint header
        | none => (stack, none)
      else (stack, reset header.toSegment)

/-- `uip_periodic`. The next number to start at moves on too. -/
def uipPeriodic (callbackFunc : PageServingFunction World) (index : Nat) (memory : Int → UInt8)
    (stack : Stack World) : Stack World × Option Packet :=
  { stack with iss := stack.iss.increment3 }.process callbackFunc index fun task =>
    uipTimer task memory

/-- `uip_listen`. -/
def uipListen (port : UInt16) : List UInt16 → List UInt16
  | [] => []
  | other :: listenports =>
      if other = 0 then port :: listenports else other :: uipListen port listenports

/-- What `uip_init` makes of a place. -/
def Place.init (place : Place) : Place :=
  { place with
    conn := { place.conn with tcpstateflags := .closed }
    endpoint := { place.endpoint with lport := 0, rport := 0 } }

theorem Place.init_lport (place : Place) : place.init.endpoint.lport ≠ htons 80 :=
  (by decide : (0 : UInt16) ≠ htons 80)

/-- `stack_init`, and then `uip_listen` for the web server. -/
def stackInit (stack : Stack World) : Stack World :=
  { stack with
    conns := stack.conns.map Place.init
    listenports := uipListen (htons 80) (stack.listenports.map fun _ => 0) }

/-- What can happen next. -/
inductive StackEvent (World : Type*)
  | segment (endpoint : Endpoint) (header : Header) (memory : Int → UInt8)
  | timer (index : Nat) (memory : Int → UInt8)
  | elsewhere (world : World)
  | restart
  | deliver (index packet limit : Nat)
  | acknowledge (index : Nat)

/-- The client of a place takes a step. -/
def Stack.client (index : Nat) (act : Place → Place) (stack : Stack World) : Stack World :=
  match stack.conns[index]? with
  | some place => { stack with conns := stack.conns.set index (act place) }
  | none => stack

/-- One step. -/
def stackStep (callbackFunc : PageServingFunction World) (stack : Stack World) :
    StackEvent World → Stack World
  | .segment endpoint header memory => (tcpInput callbackFunc endpoint header memory stack).1
  | .timer index memory => (uipPeriodic callbackFunc index memory stack).1
  | .elsewhere world => { stack with world }
  | .restart => stackInit stack
  | .deliver index packet limit => stack.client index fun place =>
      place.update ((stack.net place).deliver place.iss packet limit)
  | .acknowledge index => stack.client index fun place =>
      { place with acks := place.received.length :: place.acks }

/-- The stack as it starts: some places that are closed, some ports, and one of them for the web
server. -/
def stackStart (slots : List UipConn) (ports : Nat) (iss : SeqNo) (getStringGlobal : List UInt8)
    (world : World) : Stack World :=
  stackInit {
    conns := slots.map fun conn =>
      { endpoint := ⟨0, 0, (0, 0)⟩, conn, iss, rendered := [], sent := [], received := [], acks := [] }
    listenports := List.replicate ports 0
    iss, getStringGlobal, world }

section Keys

variable (callbackFunc : PageServingFunction World)

/-- No two open connections have the same ports and address. -/
def EndpointsUnique (conns : List Place) : Prop :=
  Slots.KeysUnique Place.Open Place.endpoint conns

theorem uipInput_closed {task : Nat → App World → App World} {seg : Segment} {memory : Int → UInt8}
    {conn : UipConn} {shared : Shared World} (closed : conn.tcpstateflags = .closed) :
    uipInput task seg memory conn shared = (conn, shared, none) := by
  rw [uipInput, if_pos closed]

theorem uipTimer_closed {task : Nat → App World → App World} {memory : Int → UInt8}
    {conn : UipConn} {shared : Shared World} (closed : conn.tcpstateflags = .closed) :
    uipTimer task memory conn shared = (conn, shared, none) := by
  have waiting : ¬ (conn.tcpstateflags = .timeWait ∨ conn.tcpstateflags = .finWait2) := by
    rw [closed]
    decide
  rw [uipTimer, if_neg waiting, if_neg fun open_ => open_ closed]

/-- Processing a place opens no connection. -/
theorem process_unique {index : Nat}
    {uipProcess : (Nat → App World → App World) → UipConn → Shared World → Outcome World}
    {stack : Stack World} (unique : EndpointsUnique stack.conns)
    (closed : ∀ task conn shared, conn.tcpstateflags = .closed →
      uipProcess task conn shared = (conn, shared, none)) :
    EndpointsUnique (stack.process callbackFunc index uipProcess).1.conns := by
  unfold Stack.process
  split
  · next place there =>
      refine unique.set_kept there fun open_ => ⟨fun shut => open_ ?_, rfl⟩
      show (uipProcess _ place.conn _).1.tcpstateflags = .closed
      rw [closed _ _ _ shut]
      exact shut
  · exact unique

theorem tcpInput_unique (endpoint : Endpoint) (header : Header) (memory : Int → UInt8)
    {stack : Stack World} (unique : EndpointsUnique stack.conns) :
    EndpointsUnique (tcpInput callbackFunc endpoint header memory stack).1.conns := by
  unfold tcpInput
  split
  · exact process_unique callbackFunc unique fun _ _ _ => uipInput_closed
  · next new =>
      split
      · split
        · unfold Stack.accept
          split
          · exact unique.set_new new
          · exact unique
        · exact unique
      · exact unique

/-- The client's side is no part of it. -/
theorem client_unique {stack : Stack World} (index : Nat) (act : Place → Place)
    (keeps : ∀ place, (act place).conn = place.conn ∧ (act place).endpoint = place.endpoint)
    (unique : EndpointsUnique stack.conns) : EndpointsUnique (stack.client index act).conns := by
  unfold Stack.client
  split
  · next place there =>
      refine unique.set_kept there fun open_ => ⟨?_, (keeps place).2⟩
      rwa [Place.Open, (keeps place).1] at open_
  · exact unique

/-- **Each step keeps the connections apart.** -/
theorem stackStep_unique (stack : Stack World) (event : StackEvent World)
    (unique : EndpointsUnique stack.conns) :
    EndpointsUnique (stackStep callbackFunc stack event).conns := by
  cases event with
  | segment endpoint header memory => exact tcpInput_unique callbackFunc endpoint header memory unique
  | timer index memory =>
      exact process_unique callbackFunc unique fun _ _ _ => uipTimer_closed
  | elsewhere world => exact unique
  | restart => exact unique.map fun place open_ => absurd rfl open_
  | deliver index packet limit =>
      exact client_unique index _ (fun place => ⟨(net_deliver_keeps packet limit _).2, rfl⟩) unique
  | acknowledge index => exact client_unique index _ (fun place => ⟨rfl, rfl⟩) unique

end Keys

/-- **No two connections have the same ports and address**, in any state a run reaches: the place
found for a segment is the only one it can be for. -/
theorem endpoints_unique (callbackFunc : PageServingFunction World) (slots : List UipConn)
    (ports : Nat) (iss : SeqNo) (getStringGlobal : List UInt8) (world : World)
    (events : List (StackEvent World)) :
    EndpointsUnique (run (stackStep callbackFunc)
      (stackStart slots ports iss getStringGlobal world) events).conns := by
  have start : EndpointsUnique (stackStart slots ports iss getStringGlobal world).conns := by
    rw [stackStart, stackInit, List.map_map]
    intro i j first second atFirst _ firstOpen
    obtain ⟨slot, -, rfl⟩ := List.mem_map.mp (List.mem_of_getElem? atFirst)
    exact absurd rfl firstOpen
  exact @run_invariant _ _ (stackStep callbackFunc) (fun _ _ => True)
    (fun stack => EndpointsUnique stack.conns)
    (fun stack event unique _ => stackStep_unique callbackFunc stack event unique) events _ start
    (along_trivial events _)

section Unused

/-- What the search knows behind some places: none of them is closed, and of those in `UIP_TIME_WAIT`
it has the one that has waited longest. -/
structure Searched (conns front : List Place) (uipConnr : Option (Nat × UInt8)) : Prop where
  open_ : ∀ place ∈ front, place.Open
  none : uipConnr = none → ∀ place ∈ front, place.conn.tcpstateflags ≠ .timeWait
  some : ∀ oldest ∈ uipConnr, ∃ place, conns[oldest.1]? = some place ∧
    place.conn.tcpstateflags = .timeWait ∧ place.conn.timer = oldest.2 ∧
    ∀ other ∈ front, other.conn.tcpstateflags = .timeWait → other.conn.timer ≤ oldest.2

/-- A place that may be taken for a new connection. -/
def Unused (conns : List Place) (place : Place) : Prop :=
  ¬ place.Open ∨ place.conn.tcpstateflags = .timeWait ∧ ∀ other ∈ conns, other.Open ∧
    (other.conn.tcpstateflags = .timeWait → other.conn.timer ≤ place.conn.timer)

theorem searched_append {conns front : List Place} {uipConnr : Option (Nat × UInt8)} {place : Place}
    (searched : Searched conns front uipConnr) (open_ : place.Open)
    (later : place.conn.tcpstateflags = .timeWait →
      ∃ oldest ∈ uipConnr, place.conn.timer ≤ oldest.2) :
    Searched conns (front ++ [place]) uipConnr where
  open_ := by
    rw [List.forall_mem_append]
    exact ⟨searched.open_, List.forall_mem_singleton.mpr open_⟩
  none no := by
    rw [List.forall_mem_append]
    refine ⟨searched.none no, List.forall_mem_singleton.mpr fun waits => ?_⟩
    obtain ⟨oldest, found, -⟩ := later waits
    rw [no] at found
    exact absurd found (Option.not_mem_none _)
  some oldest found := by
    obtain ⟨first, there, waits, timer, longest⟩ := searched.some oldest found
    refine ⟨first, there, waits, timer, ?_⟩
    rw [List.forall_mem_append]
    refine ⟨longest, List.forall_mem_singleton.mpr fun waits => ?_⟩
    obtain ⟨same, found', le⟩ := later waits
    rwa [Option.mem_unique found found']

theorem searched_longest {conns front : List Place} {uipConnr : Option (Nat × UInt8)}
    {place : Place} (searched : Searched conns front uipConnr)
    (here : conns[front.length]? = some place) (waits : place.conn.tcpstateflags = .timeWait)
    (longer : ∀ oldest ∈ uipConnr, place.conn.timer > oldest.2) :
    Searched conns (front ++ [place]) (some (front.length, place.conn.timer)) where
  open_ := by
    rw [List.forall_mem_append]
    refine ⟨searched.open_, List.forall_mem_singleton.mpr fun closed => ?_⟩
    rw [closed] at waits
    exact TcpState.noConfusion waits
  none no := absurd no (Option.some_ne_none _)
  some oldest found := by
    obtain rfl := Option.mem_some.mp found
    refine ⟨place, here, waits, rfl, ?_⟩
    rw [List.forall_mem_append]
    refine ⟨fun other member otherWaits => ?_, List.forall_mem_singleton.mpr fun _ =>
      UInt8.le_refl _⟩
    cases before : uipConnr with
    | none => exact absurd otherWaits (searched.none before other member)
    | some first =>
        obtain ⟨-, -, -, -, longest⟩ := searched.some first before
        exact UInt8.le_of_lt
          (UInt8.lt_of_le_of_lt (longest other member otherWaits) (longer first before))

/-- **The search** finds a place that may be taken, if there is one. -/
theorem searchUnused_spec {conns : List Place} (rest : List Place) :
    ∀ {front : List Place} {uipConnr : Option (Nat × UInt8)}, conns = front ++ rest →
      Searched conns front uipConnr →
      (∀ place ∈ searchUnused front.length uipConnr rest,
        ∃ unused, conns[place]? = some unused ∧ Unused conns unused) ∧
      (searchUnused front.length uipConnr rest = none → ∀ place ∈ conns,
        place.Open ∧ place.conn.tcpstateflags ≠ .timeWait) := by
  induction rest with
  | nil =>
      intro front uipConnr whole searched
      rw [List.append_nil] at whole
      rw [searchUnused]
      refine ⟨fun index found => ?_, fun no place member => ?_⟩
      · obtain ⟨oldest, last, rfl⟩ := Option.mem_map.mp found
        obtain ⟨place, there, waits, timer, longest⟩ := searched.some oldest last
        refine ⟨place, there, Or.inr ⟨waits, fun other member => ?_⟩⟩
        rw [whole] at member
        exact ⟨searched.open_ other member, timer ▸ longest other member⟩
      · rw [whole] at member
        exact ⟨searched.open_ place member, searched.none (Option.map_eq_none_iff.mp no) place member⟩
  | cons place rest ih =>
      intro front uipConnr whole searched
      have here : conns[front.length]? = some place := by
        rw [whole, List.getElem?_append_right (Nat.le_refl _), Nat.sub_self]
        rfl
      have next : conns = (front ++ [place]) ++ rest := by
        rw [whole, List.append_assoc]
        rfl
      have length : (front ++ [place]).length = front.length + 1 := List.length_append
      rw [searchUnused]
      by_cases closed : place.conn.tcpstateflags = .closed
      · rw [if_pos closed]
        refine ⟨fun index found => ?_, fun no => absurd no (Option.some_ne_none _)⟩
        obtain rfl := Option.mem_some.mp found
        exact ⟨place, here, Or.inl fun open_ => open_ closed⟩
      · rw [if_neg closed]
        split
        · next longer =>
            rw [← length]
            refine ih next (searched_longest searched here longer.1 longer.2)
        · next shorter =>
            rw [← length]
            refine ih next (searched_append searched closed fun waits => ?_)
            by_contra none
            exact shorter ⟨waits, fun oldest found =>
              UInt8.not_le.mp fun le => none ⟨oldest, found, le⟩⟩

theorem unusedConn_spec (conns : List Place) :
    (∀ index ∈ unusedConn conns, ∃ unused, conns[index]? = some unused ∧ Unused conns unused) ∧
      (unusedConn conns = none → ∀ place ∈ conns,
        place.Open ∧ place.conn.tcpstateflags ≠ .timeWait) :=
  @searchUnused_spec conns conns [] none rfl
    ⟨fun _ member => absurd member List.not_mem_nil,
      fun _ _ member => absurd member List.not_mem_nil,
      fun _ found => absurd found (Option.not_mem_none _)⟩

end Unused

section Syn

variable (callbackFunc : PageServingFunction World) {stack : Stack World} {endpoint : Endpoint}
  {header : Header}

/-- **A SYN is answered exactly if there is a place for it.** It takes one that is closed, or else
the one that has waited longest in `UIP_TIME_WAIT`, and leaves all others as they are; where there
is none nothing happens. -/
theorem tcpInput_syn (memory : Int → UInt8) (syn : header.isSyn = true)
    (listened : endpoint.lport ∈ stack.listenports)
    (new : ∀ place ∈ stack.conns, place.Open → place.endpoint ≠ endpoint) :
    let result := tcpInput callbackFunc endpoint header memory stack
    (result = (stack, none) ∧
        ∀ place ∈ stack.conns, place.Open ∧ place.conn.tcpstateflags ≠ .timeWait) ∨
      ∃ index unused, stack.conns[index]? = some unused ∧ Unused stack.conns unused ∧
        result = ({ stack with
          conns := stack.conns.set index (unused.listen stack.iss endpoint header) },
          some { tcpSend (unused.listen stack.iss endpoint header).conn [] with syn := true }) := by
  intro result
  have unknown : findConn endpoint stack.conns = none := Slots.lookup_none.mpr new
  obtain ⟨some, none⟩ := unusedConn_spec stack.conns
  have listens : result = match unusedConn stack.conns with
      | Option.some index => stack.accept index endpoint header
      | Option.none => (stack, Option.none) := by
    show tcpInput callbackFunc endpoint header memory stack = _
    rw [tcpInput, unknown]
    exact if_pos ⟨syn, listened⟩
  cases free : unusedConn stack.conns with
  | none =>
      rw [free] at listens
      exact Or.inl ⟨listens, none free⟩
  | some index =>
      obtain ⟨unused, there, isUnused⟩ := some index free
      rw [free] at listens
      dsimp only at listens
      rw [Stack.accept, there] at listens
      exact Or.inr ⟨index, unused, there, isUnused, listens⟩

/-- A segment of a client, with the size its packets may have. -/
def headerOf (seg : Segment) : Header := { seg with psh := false, mssOption := some 12 }

/-- A SYN. -/
def synSegment : Segment := { ackOf 0 0 0 with ack := false, syn := true }

theorem tcpInput_syn_start :
    let stack := stackStart [unusedSlot] 2 ⟨0, 0, 0, 5⟩ [] (48 : UInt8)
    let result :=
      tcpInput countedPages ⟨htons 80, 7, (1, 1)⟩ (headerOf synSegment) (fun _ => 0) stack
    (result = (stack, none) ∧
        ∀ place ∈ stack.conns, place.Open ∧ place.conn.tcpstateflags ≠ .timeWait) ∨
      ∃ index unused, stack.conns[index]? = some unused ∧ Unused stack.conns unused ∧
        result = ({ stack with
          conns := stack.conns.set index
            (unused.listen stack.iss ⟨htons 80, 7, (1, 1)⟩ (headerOf synSegment)) },
          some { tcpSend (unused.listen stack.iss ⟨htons 80, 7, (1, 1)⟩
            (headerOf synSegment)).conn [] with
            syn := true }) :=
  tcpInput_syn countedPages (fun _ => 0) (by decide +kernel) (by decide +kernel) (by decide +kernel)

end Syn

section Locked

variable (callbackFunc : PageServingFunction World)

/-- What happens is nothing to some connections, and the stack does not begin anew. -/
def Foreign (endpoints : List Endpoint) : StackEvent World → Prop
  | .segment endpoint _ _ => endpoint ∉ endpoints
  | .restart => False
  | _ => True

/-- Every place has a connection that is silent. -/
structure Full (endpoints : List Endpoint) (stack : Stack World) : Prop where
  idle : ∀ place ∈ stack.conns, Idle place.conn
  endpoints : stack.conns.map Place.endpoint = endpoints

variable {endpoints : List Endpoint} {stack : Stack World}

theorem serverAppTask_poll (lport : UInt16) (app : App World) (flags : app.flags = { poll := true }) :
    serverAppTask callbackFunc lport 0 app = app := by
  unfold serverAppTask
  split
  · exact serverTaskImpl_poll callbackFunc 0 app flags
  · rfl

/-- A place that keeps its endpoint and is still silent. -/
theorem Full.set (full : Full endpoints stack) {index : Nat} {before after : Place}
    (there : stack.conns[index]? = some before) (idle : Idle after.conn)
    (endpoint : after.endpoint = before.endpoint) :
    (∀ place ∈ stack.conns.set index after, Idle place.conn) ∧
      (stack.conns.set index after).map Place.endpoint = endpoints := by
  refine ⟨Slots.forall_mem_set full.idle idle, ?_⟩
  obtain ⟨within, at_⟩ := List.getElem?_eq_some_iff.mp there
  have bound : index < (stack.conns.map Place.endpoint).length := by rwa [List.length_map]
  have same : (stack.conns.map Place.endpoint)[index] = after.endpoint := by
    rw [List.getElem_map, at_, endpoint]
  rw [List.map_set, ← same, List.set_getElem_self, full.endpoints]

/-- **A segment for no silent connection** changes nothing, and if it is a SYN it is not answered. -/
theorem full_tcpInput (full : Full endpoints stack) {endpoint : Endpoint} (header : Header)
    (memory : Int → UInt8) (other : endpoint ∉ endpoints) :
    ∃ answer, tcpInput callbackFunc endpoint header memory stack = (stack, answer) ∧
      (header.isSyn = true → endpoint.lport ∈ stack.listenports → answer = none) := by
  have unknown : findConn endpoint stack.conns = none := by
    refine Slots.lookup_none.mpr fun place member _ same => other ?_
    rw [← full.endpoints, ← same]
    exact List.mem_map_of_mem member
  have none : unusedConn stack.conns = none := by
    cases free : unusedConn stack.conns with
    | none => rfl
    | some index =>
        obtain ⟨unused, there, isUnused⟩ := (unusedConn_spec stack.conns).1 index free
        have established := (full.idle unused (List.mem_of_getElem? there)).1
        rcases isUnused with closed | ⟨waits, -⟩
        · refine absurd (fun shut => ?_) closed
          exact TcpState.noConfusion (established.symm.trans shut)
        · exact TcpState.noConfusion (established.symm.trans waits)
  rw [tcpInput, unknown, none]
  dsimp only
  split
  · exact ⟨_, rfl, fun _ _ => rfl⟩
  · next apart => exact ⟨_, rfl, fun syn listened => absurd ⟨syn, listened⟩ apart⟩

/-- Processing a place that stays silent. -/
theorem full_process (full : Full endpoints stack) (index : Nat)
    {uipProcess : (Nat → App World → App World) → UipConn → Shared World → Outcome World}
    (keeps : ∀ lport conn shared, Idle conn →
      Idle (uipProcess (serverAppTask callbackFunc lport) conn shared).1) :
    Full endpoints (stack.process callbackFunc index uipProcess).1 := by
  unfold Stack.process
  split
  · next place there =>
      have idle := keeps place.endpoint.lport place.conn (stack.net place).shared
        (full.idle place (List.mem_of_getElem? there))
      obtain ⟨idle, kept⟩ := @Full.set _ endpoints stack full index place
        (place.update ((stack.net place).after (uipProcess _ place.conn _))) there idle rfl
      exact ⟨idle, kept⟩
  · exact full

theorem full_client (full : Full endpoints stack) (index : Nat) {act : Place → Place}
    (keeps : ∀ place, (act place).conn = place.conn ∧ (act place).endpoint = place.endpoint) :
    Full endpoints (stack.client index act) := by
  unfold Stack.client
  split
  · next place there =>
      have idle := full.idle place (List.mem_of_getElem? there)
      obtain ⟨idle, kept⟩ := full.set there ((keeps place).1 ▸ idle) (keeps place).2
      exact ⟨idle, kept⟩
  · exact full

/-- **Nothing that is not for the silent connections frees a place.** -/
theorem full_step (event : StackEvent World) (full : Full endpoints stack)
    (foreign : Foreign endpoints event) : Full endpoints (stackStep callbackFunc stack event) := by
  cases event with
  | segment endpoint header memory =>
      obtain ⟨answer, unchanged, -⟩ := full_tcpInput callbackFunc full header memory foreign
      rw [stackStep, unchanged]
      exact full
  | timer index memory =>
      have next : Full endpoints { stack with iss := stack.iss.increment3 } :=
        ⟨full.idle, full.endpoints⟩
      refine full_process callbackFunc next index fun lport conn shared idle => ?_
      rw [uipTimer_idle memory shared (serverAppTask_poll callbackFunc lport) idle]
      exact idle
  | elsewhere world => exact ⟨full.idle, full.endpoints⟩
  | restart => exact absurd foreign id
  | deliver index packet limit =>
      exact full_client full index fun place => ⟨(net_deliver_keeps packet limit _).2, rfl⟩
  | acknowledge index => exact full_client full index fun _ => ⟨rfl, rfl⟩

/-- **Silent clients keep all others out.** Where every place has an established connection with
nothing under way, then whatever happens but a segment for one of these or a lost link, no SYN of
another client is ever answered. -/
theorem locked_out (full : Full endpoints stack) (events : List (StackEvent World))
    (foreign : ∀ event ∈ events, Foreign endpoints event) {endpoint : Endpoint} {header : Header}
    (memory : Int → UInt8) (other : endpoint ∉ endpoints) (syn : header.isSyn = true) :
    let later := run (stackStep callbackFunc) stack events
    endpoint.lport ∈ later.listenports →
      tcpInput callbackFunc endpoint header memory later = (later, none) := by
  intro later listened
  have still : Full endpoints later := @run_invariant _ _ (stackStep callbackFunc)
    (fun _ event => Foreign endpoints event) (Full endpoints)
    (fun _ event full foreign => full_step callbackFunc event full foreign) events stack full
    (along_of_forall events stack fun event member _ => foreign event member)
  obtain ⟨answer, unchanged, silent⟩ := full_tcpInput callbackFunc still header memory other
  rw [unchanged, silent syn listened]

/-- Two clients that connect and say nothing. -/
def silentClients : Stack UInt8 :=
  run (stackStep countedPages) (stackStart [unusedSlot, unusedSlot] 2 ⟨0, 0, 0, 5⟩ [] 48)
    [.segment ⟨htons 80, 7, (1, 1)⟩ (headerOf synSegment) fun _ => 0,
      .segment ⟨htons 80, 8, (1, 1)⟩ (headerOf synSegment) fun _ => 0,
      .segment ⟨htons 80, 7, (1, 1)⟩ (headerOf (ackOf 0 1 0)) fun _ => 0,
      .segment ⟨htons 80, 8, (1, 1)⟩ (headerOf (ackOf 0 1 0)) fun _ => 0]

theorem locked_out_silentClients :
    let later := run (stackStep countedPages) silentClients [.timer 0 fun _ => 0, .timer 1 fun _ => 0]
    tcpInput countedPages ⟨htons 80, 9, (1, 1)⟩ (headerOf synSegment) (fun _ => 0) later =
      (later, none) :=
  @locked_out _ countedPages [⟨htons 80, 7, (1, 1)⟩, ⟨htons 80, 8, (1, 1)⟩] silentClients
    ⟨by decide +kernel, by decide +kernel⟩ [.timer 0 fun _ => 0, .timer 1 fun _ => 0]
    (List.forall_mem_cons.mpr ⟨trivial, List.forall_mem_singleton.mpr trivial⟩)
    ⟨htons 80, 9, (1, 1)⟩ (headerOf synSegment) (fun _ => 0) (by decide) (by decide)
    (by decide +kernel)

end Locked

section Clients

variable (callbackFunc : PageServingFunction World)

/-- A place of the web server is followed on a link, if its pages have one length. -/
def Followed (stack : Stack World) (place : Place) : Prop :=
  place.endpoint.lport = htons 80 → ∀ total < 2 ^ 31,
    (∀ page ∈ place.rendered, page.length = total) →
    ∃ link, Tracks place.iss total False (stack.net place) link

/-- What is taken for granted of a step of the stack: of each connection what is taken for granted of
its segments. -/
def StackFair (stack : Stack World) : StackEvent World → Prop
  | .segment endpoint header memory => ∀ place ∈ stack.conns, place.Open →
      place.endpoint = endpoint →
        Fair place.iss (stack.net place) (.segment header.toSegment memory)
  | _ => True

instance (stack : Stack World) : ∀ event : StackEvent World, Decidable (StackFair stack event)
  | .segment endpoint header memory =>
      inferInstanceAs (Decidable (∀ place ∈ stack.conns, place.Open → place.endpoint = endpoint →
        Fair place.iss (stack.net place) (.segment header.toSegment memory)))
  | .timer _ _ | .elsewhere _ | .restart | .deliver _ _ _ | .acknowledge _ => isTrue trivial

variable {stack : Stack World}

/-- What happens to other places does not matter. -/
theorem Followed.elsewhere {place : Place} (followed : Followed stack place) {other : Stack World} :
    Followed other place := by
  intro web total small same
  obtain ⟨link, tracks⟩ := followed web total small same
  exact ⟨link, { tracks with
    stage := tracks.stage.elsewhere other.getStringGlobal other.world }⟩

/-- A place follows the steps of a connection. -/
theorem Followed.step {place : Place} (followed : Followed stack place) (event : NetEvent World)
    (fair : place.endpoint.lport = htons 80 → Fair place.iss (stack.net place) event)
    {next : Stack World}
    (net : place.endpoint.lport = htons 80 →
      next.net (place.update (netStep callbackFunc place.iss (stack.net place) event)) =
        netStep callbackFunc place.iss (stack.net place) event) :
    Followed next (place.update (netStep callbackFunc place.iss (stack.net place) event)) := by
  intro web total small same
  rw [net web]
  exact tracks_kept callbackFunc small (stack.net place) event (followed web total small) (fair web)
    same

/-- **Processing a place is a step of its connection**, and only of that. -/
theorem followed_process {index : Nat}
    {uipProcess : (Nat → App World → App World) → UipConn → Shared World → Outcome World}
    (event : NetEvent World)
    (isStep : ∀ iss (net : Net World), netStep callbackFunc iss net event =
      net.after (uipProcess (serverTaskImpl callbackFunc) net.conn net.shared))
    (fair : ∀ place, stack.conns[index]? = some place →
      Fair place.iss (stack.net place) event)
    (followed : ∀ place ∈ stack.conns, Followed stack place) :
    ∀ place ∈ (stack.process callbackFunc index uipProcess).1.conns,
      Followed (stack.process callbackFunc index uipProcess).1 place := by
  unfold Stack.process
  split
  · next place there =>
      refine Slots.forall_mem_set (fun other member => (followed other member).elsewhere) ?_
      by_cases web : place.endpoint.lport = htons 80
      · have task : serverAppTask callbackFunc place.endpoint.lport = serverTaskImpl callbackFunc :=
          if_pos web
        rw [task, ← isStep place.iss]
        refine (followed place (List.mem_of_getElem? there)).step callbackFunc event
          (fun _ => fair place there) fun _ => ?_
        rw [isStep]
        rfl
      · exact fun web' => absurd web' web
  · exact followed

theorem followed_client {index : Nat} {act : Place → Place} (event : Place → NetEvent World)
    (isStep : ∀ place, act place =
      place.update (netStep callbackFunc place.iss (stack.net place) (event place)))
    (client : ∀ place, Fair place.iss (stack.net place) (event place) ∧
      (netStep callbackFunc place.iss (stack.net place) (event place)).shared =
        (stack.net place).shared)
    (followed : ∀ place ∈ stack.conns, Followed stack place) :
    ∀ place ∈ (stack.client index act).conns, Followed (stack.client index act) place := by
  unfold Stack.client
  split
  · next place there =>
      refine Slots.forall_mem_set (fun other member => (followed other member).elsewhere) ?_
      rw [isStep]
      refine (followed place (List.mem_of_getElem? there)).step callbackFunc (event place)
        (fun _ => (client place).1) fun _ => ?_
      obtain ⟨-, shared⟩ := client place
      generalize netStep callbackFunc place.iss (stack.net place) (event place) = net at shared ⊢
      obtain ⟨conn, _, sent, received, acks⟩ := net
      obtain rfl := shared
      rfl
  · exact followed

theorem followed_tcpInput (endpoint : Endpoint) (header : Header) (memory : Int → UInt8)
    (fair : StackFair stack (.segment endpoint header memory))
    (followed : ∀ place ∈ stack.conns, Followed stack place) :
    ∀ place ∈ (tcpInput callbackFunc endpoint header memory stack).1.conns,
      Followed (tcpInput callbackFunc endpoint header memory stack).1 place := by
  unfold tcpInput
  split
  · next index found =>
      refine followed_process callbackFunc (.segment header.toSegment memory) (fun _ _ => rfl)
        (fun place there => ?_) followed
      obtain ⟨other, at_, open_, same⟩ := Slots.lookup_some found
      obtain rfl := Option.some_inj.mp (there.symm.trans at_)
      exact fair place (List.mem_of_getElem? there) open_ same
  · split
    · split
      · unfold Stack.accept
        split
        · next place there =>
            refine Slots.forall_mem_set (fun other member => (followed other member).elsewhere) ?_
            exact fun _ total _ _ => ⟨_, tracks_start total place.conn header.seqno header.mssOption
              stack.getStringGlobal stack.world False.elim⟩
        · exact followed
      · exact followed
    · exact followed

/-- **Every place is followed, step by step**, by cases on what happens. -/
theorem followed_step (event : StackEvent World) (fair : StackFair stack event)
    (followed : ∀ place ∈ stack.conns, Followed stack place) :
    ∀ place ∈ (stackStep callbackFunc stack event).conns,
      Followed (stackStep callbackFunc stack event) place := by
  cases event with
  | segment endpoint header memory =>
      exact followed_tcpInput callbackFunc endpoint header memory fair followed
  | timer index memory =>
      exact followed_process callbackFunc (.timer memory) (fun _ _ => rfl) (fun _ _ => trivial)
        fun place member => (followed place member).elsewhere
  | elsewhere world => exact fun place member => (followed place member).elsewhere
  | restart =>
      intro place member web
      obtain ⟨before, -, rfl⟩ := List.mem_map.mp member
      exact absurd web before.init_lport
  | deliver index packet limit =>
      exact followed_client callbackFunc (fun _ => .deliver packet limit) (fun _ => rfl)
        (fun place => ⟨trivial, (net_deliver_keeps packet limit _).1⟩) followed
  | acknowledge index =>
      exact followed_client callbackFunc (fun _ => .acknowledge) (fun _ => rfl)
        (fun _ => ⟨trivial, rfl⟩) followed

end Clients

section Example

/-- A segment for the web server, from the first or the second of two clients. -/
def fromClient (rport : UInt16) (seg : Segment) (text : List UInt8) : StackEvent UInt8 :=
  .segment ⟨htons 80, rport, (1, 1)⟩ (headerOf seg) fun place => text.getD place.toNat 0

/-- A client gets a page of 23 bytes in two parts, while another one asks for it too and then breaks
off. -/
def twoClients : List (StackEvent UInt8) :=
  [fromClient 7 synSegment [], fromClient 8 synSegment [],
    fromClient 7 (ackOf 0 1 8) (ascii "GET / \n\n"), .deliver 0 0 100,
    fromClient 8 (ackOf 0 1 8) (ascii "GET / \n\n"), .acknowledge 0, .deliver 1 0 5,
    fromClient 7 (ackOf 12 9 0) [], fromClient 8 { ackOf 0 9 0 with rst := true } [],
    .deliver 0 0 100, .acknowledge 0, fromClient 7 (ackOf 23 9 0) []]

/-- The stack after that. -/
def twoClientsDone : Stack UInt8 :=
  run (stackStep fun _ world => (ascii "hi!", true, world))
    (stackStart [unusedSlot, unusedSlot] 2 ⟨0, 0, 0, 5⟩ [] 48) twoClients

theorem twoClientsDone_ne_nil : twoClientsDone.conns ≠ [] := by decide +kernel

end Example

end EquinoxClock.Wifi
