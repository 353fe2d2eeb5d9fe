/-
Packets on the wire.

What is read of a segment that arrives is read by `uip_process` from `uip_buf`, behind the checks it
makes, and what it sends it writes there, with the checksums. A segment that is sent arrives where it
is sent to: the same checks let it pass, and what is read of it is what was written
(`tcpSend_arrives`). So does a reset (`reset_arrives`). One that is changed on its way in two bytes
side by side does not (`arrives_changed`).

A ping is answered in the same buffer, its checksums changed only where they have to be
(`echo_right_iff`).
-/

import EquinoxClock.Wifi.Checksum
import EquinoxClock.Wifi.Connections
import EquinoxClock.Wifi.Options

namespace EquinoxClock.Wifi

/-- The header of a segment: the second half of `struct uip_tcpip_hdr`, up to the options. -/
structure TcpHdr where
  srcport : UInt16
  destport : UInt16
  seqno : SeqNo
  ackno : SeqNo
  tcpoffset : UInt8
  flags : UInt8
  wnd : UInt8 × UInt8
  tcpchksum : UInt16
  urgp : UInt8 × UInt8
  deriving DecidableEq

/-- `UIP_PROTO_ICMP`. -/
def uipProtoIcmp : UInt8 := 1

/-- `UIP_PROTO_TCP`. -/
def uipProtoTcp : UInt8 := 6

/-- `UIP_PROTO_UDP`. -/
def uipProtoUdp : UInt8 := 17

/-- Where a packet goes from the checks of its header. -/
inductive Input
  | drop
  | tcp
  | udp
  | icmp
  deriving DecidableEq

/-- `uip_process`, from where the input processing starts. -/
def ipInput (hostaddr : UInt16 × UInt16) (uipLen : UInt16) (hdr : IpHdr) : Input :=
  if hdr.vhl ≠ 0x45 then .drop
  else if ¬ hdr.totalLen ≤ uipLen then .drop
  else if hdr.ipoffset.1 &&& 0x3f ≠ 0 ∨ hdr.ipoffset.2 ≠ 0 then .drop
  else if hostaddr ≠ (0, 0) ∧ hdr.proto = uipProtoUdp ∧ hdr.destipaddr = (0xffff, 0xffff) then .udp
  else if hostaddr ≠ (0, 0) ∧ hdr.destipaddr ≠ hostaddr then .drop
  else if uipIpchksum hdr ≠ 0xffff then .drop
  else if hdr.proto = uipProtoTcp then .tcp
  else if hdr.proto = uipProtoUdp then .udp
  else if hdr.proto ≠ uipProtoIcmp then .drop
  else .icmp

namespace TcpHdr

/-- The header in memory, up to the checksum. -/
def beforeChksum (hdr : TcpHdr) : List UInt8 :=
  u16Bytes hdr.srcport ++ u16Bytes hdr.destport ++
    [hdr.seqno.b0, hdr.seqno.b1, hdr.seqno.b2, hdr.seqno.b3] ++
    [hdr.ackno.b0, hdr.ackno.b1, hdr.ackno.b2, hdr.ackno.b3] ++
    [hdr.tcpoffset, hdr.flags, hdr.wnd.1, hdr.wnd.2]

/-- The header in memory. -/
def bytes (hdr : TcpHdr) : List UInt8 :=
  hdr.beforeChksum ++ (u16Bytes hdr.tcpchksum ++ [hdr.urgp.1, hdr.urgp.2])

/-- The flags of a segment. -/
def fin (hdr : TcpHdr) : Bool := hdr.flags &&& 0x01 != 0
def syn (hdr : TcpHdr) : Bool := hdr.flags &&& 0x02 != 0
def rst (hdr : TcpHdr) : Bool := hdr.flags &&& 0x04 != 0
def ack (hdr : TcpHdr) : Bool := hdr.flags &&& 0x10 != 0

end TcpHdr

/-- A packet in `uip_buf`, and whatever is behind its headers there. -/
structure UipBuf where
  ip : IpHdr
  tcp : TcpHdr
  rest : List UInt8

namespace UipBuf

/-- What stands behind the IP header. -/
def upper (buf : UipBuf) : List UInt8 := buf.tcp.bytes ++ buf.rest

/-- What connection a segment is for. -/
def endpoint (buf : UipBuf) : Endpoint := ⟨buf.tcp.destport, buf.tcp.srcport, buf.ip.srcipaddr⟩

/-- The number of bytes that a segment carries: `uip_len - c - UIP_IPH_LEN`. -/
def dataLen (buf : UipBuf) : UInt16 :=
  buf.ip.totalLen - ((buf.tcp.tcpoffset >>> 4) <<< 2).toUInt16 - 20

/-- What is read of a segment. -/
def segment (buf : UipBuf) : Segment where
  seqno := buf.tcp.seqno
  ackno := buf.tcp.ackno
  fin := buf.tcp.fin
  syn := buf.tcp.syn
  rst := buf.tcp.rst
  ack := buf.tcp.ack
  wnd := buf.tcp.wnd.1.toUInt16 <<< 8 + buf.tcp.wnd.2.toUInt16
  len := buf.dataLen

/-- The bytes from `uip_appdata` on, as many as the segment carries. -/
def appdata (buf : UipBuf) : List UInt8 := buf.rest.take buf.dataLen.toNat

/-- What is sent of `uip_buf`. -/
def wire (buf : UipBuf) (uipLen : UInt16) : List UInt8 :=
  (buf.ip.bytes ++ buf.upper).take uipLen.toNat

end UipBuf

/-! ### Fields in memory -/

/-- A field of 16 bits, from its two bytes in memory. -/
def u16Field (low high : UInt8) : UInt16 := high.toUInt16 <<< 8 ||| low.toUInt16

/-- `BUF`, as far as the IP header goes. -/
def IpHdr.read : List UInt8 → Option (IpHdr × List UInt8)
  | vhl :: tos :: len0 :: len1 :: ipid0 :: ipid1 :: ipoffset0 :: ipoffset1 :: ttl :: proto ::
      chksum0 :: chksum1 :: src0 :: src1 :: src2 :: src3 :: dest0 :: dest1 :: dest2 :: dest3 ::
      upper =>
    some ({
      vhl, tos, ttl, proto, len := (len0, len1), ipid := (ipid0, ipid1)
      ipoffset := (ipoffset0, ipoffset1), ipchksum := u16Field chksum0 chksum1
      srcipaddr := (u16Field src0 src1, u16Field src2 src3)
      destipaddr := (u16Field dest0 dest1, u16Field dest2 dest3) }, upper)
  | _ => none

/-- `BUF`, as far as the TCP header goes. -/
def TcpHdr.read : List UInt8 → Option (TcpHdr × List UInt8)
  | src0 :: src1 :: dest0 :: dest1 :: seqno0 :: seqno1 :: seqno2 :: seqno3 ::
      ackno0 :: ackno1 :: ackno2 :: ackno3 :: tcpoffset :: flags :: wnd0 :: wnd1 ::
      chksum0 :: chksum1 :: urgp0 :: urgp1 :: rest =>
    some ({
      tcpoffset, flags, srcport := u16Field src0 src1, destport := u16Field dest0 dest1
      seqno := ⟨seqno0, seqno1, seqno2, seqno3⟩, ackno := ⟨ackno0, ackno1, ackno2, ackno3⟩
      wnd := (wnd0, wnd1), tcpchksum := u16Field chksum0 chksum1, urgp := (urgp0, urgp1) }, rest)
  | _ => none

/-- `uip_buf` with a packet that has arrived. -/
def UipBuf.read (memory : List UInt8) : Option UipBuf :=
  (IpHdr.read memory).bind fun ip => (TcpHdr.read ip.2).map fun tcp => ⟨ip.1, tcp.1, tcp.2⟩

theorem u16Field_u16Bytes (field : UInt16) :
    u16Field field.toUInt8 (field >>> 8).toUInt8 = field := bytes_toUInt16 field

theorem IpHdr.read_bytes (hdr : IpHdr) (upper : List UInt8) :
    IpHdr.read (hdr.bytes ++ upper) = some (hdr, upper) := by
  simp only [bytes, addresses, u16Bytes, List.cons_append, List.nil_append, read, u16Field_u16Bytes]

theorem TcpHdr.read_bytes (hdr : TcpHdr) (rest : List UInt8) :
    TcpHdr.read (hdr.bytes ++ rest) = some (hdr, rest) := by
  simp only [bytes, beforeChksum, u16Bytes, List.cons_append, List.nil_append, read,
    u16Field_u16Bytes]

theorem UipBuf.read_bytes (buf : UipBuf) : UipBuf.read (buf.ip.bytes ++ buf.upper) = some buf := by
  rw [UipBuf.read, IpHdr.read_bytes, Option.bind_some, UipBuf.upper, TcpHdr.read_bytes]
  rfl

theorem toNat_u16Field (low high : UInt8) :
    (u16Field low high).toNat = 256 * high.toNat + low.toNat := by
  have h1 := low.toNat_lt
  have h2 := high.toNat_lt
  rw [u16Field, UInt16.toNat_or, toNat_shiftLeft_eight, UInt8.toNat_toUInt16, Nat.mul_comm,
    show 256 = 2 ^ 8 from rfl, ← Nat.shiftLeft_eq, ← Nat.shiftLeft_add_eq_or_of_lt h1]

theorem u16Bytes_u16Field (low high : UInt8) : u16Bytes (u16Field low high) = [low, high] := by
  have eight : (8 : UInt16).toNat % 16 = 8 := rfl
  have h1 := low.toNat_lt
  have h2 := high.toNat_lt
  simp only [u16Bytes, List.cons.injEq, and_true, ← UInt8.toNat_inj]
  rw [UInt16.toNat_toUInt8, UInt16.toNat_toUInt8, UInt16.toNat_shiftRight, eight, toNat_u16Field,
    Nat.shiftRight_eq_div_pow]
  constructor <;> omega

/-- A header in memory is the one that was read. -/
theorem IpHdr.bytes_read {memory upper : List UInt8} {hdr : IpHdr}
    (read : IpHdr.read memory = some (hdr, upper)) : memory = hdr.bytes ++ upper := by
  unfold IpHdr.read at read
  split at read
  · obtain ⟨rfl, rfl⟩ := Prod.mk.inj (Option.some.inj read)
    simp only [bytes, addresses, u16Bytes_u16Field, List.cons_append, List.nil_append]
  · cases read

theorem TcpHdr.bytes_read {memory rest : List UInt8} {hdr : TcpHdr}
    (read : TcpHdr.read memory = some (hdr, rest)) : memory = hdr.bytes ++ rest := by
  unfold TcpHdr.read at read
  split at read
  · obtain ⟨rfl, rfl⟩ := Prod.mk.inj (Option.some.inj read)
    simp only [bytes, beforeChksum, u16Bytes_u16Field, List.cons_append, List.nil_append]
  · cases read

theorem UipBuf.bytes_read {memory : List UInt8} {buf : UipBuf}
    (read : UipBuf.read memory = some buf) : memory = buf.ip.bytes ++ buf.upper := by
  obtain ⟨⟨ip, upper⟩, ipRead, ⟨tcp, rest⟩, tcpRead, rfl⟩ : ∃ ip, IpHdr.read memory = some ip ∧
      ∃ tcp, TcpHdr.read ip.2 = some tcp ∧ UipBuf.mk ip.1 tcp.1 tcp.2 = buf := by
    obtain ⟨ip, ipRead, found⟩ := Option.bind_eq_some_iff.mp read
    exact ⟨ip, ipRead, Option.map_eq_some_iff.mp found⟩
  show memory = ip.bytes ++ (tcp.bytes ++ rest)
  rw [IpHdr.bytes_read ipRead, ← TcpHdr.bytes_read tcpRead]

/-! ### Sending -/

/-- `tcp_send_noconn`, and what follows it, for the packet of that number. -/
def tcpSendNoconn (ipid uipLen : UInt16) (buf : UipBuf) : UipBuf :=
  let buf := { buf with
    ip.ttl := 64
    ip.len := ((uipLen >>> 8).toUInt8, uipLen.toUInt8)
    tcp.urgp := (0, 0)
    tcp.tcpchksum := 0 }
  let buf := { buf with tcp.tcpchksum := ~~~ upperLayerChksum uipProtoTcp buf.ip buf.upper }
  let buf := { buf with
    ip.vhl := 0x45
    ip.tos := 0
    ip.ipoffset := (0, 0)
    ip.ipid := ((ipid >>> 8).toUInt8, ipid.toUInt8)
    ip.ipchksum := 0 }
  { buf with ip.ipchksum := ~~~ uipIpchksum buf.ip }

/-- `TCP_ACK` with other flags. -/
def ackFlags (fin syn rst psh : Bool) : UInt8 :=
  (if fin then 0x01 else 0) ||| (if syn then 0x02 else 0) ||| (if rst then 0x04 else 0) |||
    (if psh then 0x08 else 0) ||| 0x10

/-- The flags a packet is sent with. -/
def Packet.flags (packet : Packet) : UInt8 :=
  ackFlags packet.fin packet.syn packet.rst !packet.payload.isEmpty

/-- The options a packet is sent with: `TCP_OPT_MSS`, with a SYN. -/
def Packet.optdata (packet : Packet) : List UInt8 :=
  if packet.syn then (TcpOption.mss uipTcpMss).bytes else []

/-- What `uip_len` is for a packet. -/
def Packet.uipLen (packet : Packet) : UInt16 :=
  UInt16.ofNat (40 + packet.optdata.length + packet.payload.length)

/-- `tcp_send` for a packet of a connection: what it writes before `tcp_send_noconn`. -/
def Packet.fill (hostaddr : UInt16 × UInt16) (endpoint : Endpoint) (packet : Packet)
    (buf : UipBuf) : UipBuf where
  ip := { buf.ip with
    proto := uipProtoTcp, srcipaddr := hostaddr, destipaddr := endpoint.ripaddr }
  tcp := { buf.tcp with
    srcport := endpoint.lport, destport := endpoint.rport
    seqno := packet.seqno, ackno := packet.ackno
    tcpoffset := UInt8.ofNat ((20 + packet.optdata.length) / 4) <<< 4, flags := packet.flags
    wnd := ((uipTcpMss >>> 8).toUInt8, uipTcpMss.toUInt8) }
  rest := packet.optdata ++ packet.payload ++
    buf.rest.drop (packet.optdata.length + packet.payload.length)

/-- `tcp_send` for a packet of a connection. -/
def tcpSendBuf (hostaddr : UInt16 × UInt16) (ipid : UInt16) (endpoint : Endpoint) (packet : Packet)
    (buf : UipBuf) : UipBuf :=
  tcpSendNoconn ipid packet.uipLen (packet.fill hostaddr endpoint buf)

/-- What is read of a segment that arrives, if the checks let it pass. -/
def arrives (hostaddr : UInt16 × UInt16) (uipLen : UInt16) (memory : List UInt8) :
    Option (Endpoint × Segment × List UInt8) :=
  (UipBuf.read memory).bind fun buf =>
    if ipInput hostaddr uipLen buf.ip = .tcp ∧
        upperLayerChksum uipProtoTcp buf.ip buf.upper = 0xffff then
      some (buf.endpoint, buf.segment, buf.appdata)
    else none

/-! ### What is sent arrives -/

theorem totalLen_of (uipLen : UInt16) :
    (uipLen >>> 8).toUInt8.toUInt16 <<< 8 + uipLen.toUInt8.toUInt16 = uipLen := by
  have eight : (8 : UInt16).toNat % 16 = 8 := rfl
  have lt := uipLen.toNat_lt
  rw [← UInt16.toNat_inj, toNat_word, UInt16.toNat_toUInt8, UInt16.toNat_toUInt8,
    UInt16.toNat_shiftRight, eight, Nat.shiftRight_eq_div_pow]
  omega

/-- The sum of a segment, by its fields. -/
theorem upperLayerChksum_tcp {proto : UInt8} {hdr : IpHdr} (whole : 40 ≤ hdr.totalLen.toNat)
    (tcp : TcpHdr) (rest : List UInt8) :
    upperLayerChksum proto hdr (tcp.bytes ++ rest) =
      chksumResult (chksum (chksum (hdr.totalLen - 20 + proto.toUInt16) hdr.addresses)
        (tcp.beforeChksum ++ (u16Bytes tcp.tcpchksum ++
          ([tcp.urgp.1, tcp.urgp.2] ++ rest.take (hdr.totalLen.toNat - 40))))) := by
  have twenty : (20 : UInt16).toNat = 20 := rfl
  have length : tcp.bytes.length = 20 := rfl
  have upper : (hdr.totalLen - 20).toNat = tcp.bytes.length + (hdr.totalLen.toNat - 40) := by
    rw [UInt16.toNat_sub_of_le _ _ (UInt16.le_iff_toNat_le.mpr (by rw [twenty]; omega)), twenty,
      length]
    omega
  rw [upperLayerChksum, upper, List.take_length_add_append, TcpHdr.bytes, List.append_assoc,
    List.append_assoc]

section Sent

variable (ipid uipLen : UInt16) (buf : UipBuf)

@[simp]
theorem sent_vhl : (tcpSendNoconn ipid uipLen buf).ip.vhl = 0x45 := rfl

@[simp]
theorem sent_ipoffset : (tcpSendNoconn ipid uipLen buf).ip.ipoffset = (0, 0) := rfl

@[simp]
theorem sent_proto : (tcpSendNoconn ipid uipLen buf).ip.proto = buf.ip.proto := rfl

@[simp]
theorem sent_destipaddr : (tcpSendNoconn ipid uipLen buf).ip.destipaddr = buf.ip.destipaddr := rfl

@[simp]
theorem sent_totalLen : (tcpSendNoconn ipid uipLen buf).ip.totalLen = uipLen := totalLen_of uipLen

/-- The checksum of the IP header is right when it is sent. -/
@[simp]
theorem sent_ipchksum : uipIpchksum (tcpSendNoconn ipid uipLen buf).ip = 0xffff := by
  have bytes (hdr : IpHdr) : hdr.bytes = [hdr.vhl, hdr.tos, hdr.len.1, hdr.len.2, hdr.ipid.1,
      hdr.ipid.2, hdr.ipoffset.1, hdr.ipoffset.2, hdr.ttl, hdr.proto] ++
      (u16Bytes hdr.ipchksum ++ hdr.addresses) := List.append_assoc _ _ _
  rw [uipIpchksum, bytes]
  exact chksum_filled 0 _ buf.ip.addresses (show 10 % 2 = 0 from rfl)

/-- The checks of the IP header let a segment pass that is sent, at least where it is sent to. -/
theorem ipInput_sent {received : UInt16} (isTcp : buf.ip.proto = uipProtoTcp)
    (all : uipLen ≤ received) :
    ipInput buf.ip.destipaddr received (tcpSendNoconn ipid uipLen buf).ip = .tcp := by
  have notUdp : uipProtoTcp ≠ uipProtoUdp := by decide
  simp [ipInput, isTcp, all, notUdp]

/-- The checksum of the segment is right when it is sent, whatever comes to stand behind it. -/
theorem sent_tcpchksum (whole : 40 ≤ uipLen.toNat) {rest : List UInt8}
    (same : rest.take (uipLen.toNat - 40) = buf.rest.take (uipLen.toNat - 40)) :
    upperLayerChksum uipProtoTcp (tcpSendNoconn ipid uipLen buf).ip
      ((tcpSendNoconn ipid uipLen buf).tcp.bytes ++ rest) = 0xffff := by
  let zeroed : UipBuf := { buf with
    ip.ttl := 64
    ip.len := ((uipLen >>> 8).toUInt8, uipLen.toUInt8)
    tcp.urgp := (0, 0)
    tcp.tcpchksum := 0 }
  have total : zeroed.ip.totalLen = uipLen := totalLen_of uipLen
  have filled : (tcpSendNoconn ipid uipLen buf).tcp.tcpchksum =
      ~~~ upperLayerChksum uipProtoTcp zeroed.ip (zeroed.tcp.bytes ++ zeroed.rest) := rfl
  rw [upperLayerChksum_tcp (by rwa [sent_totalLen]), filled,
    upperLayerChksum_tcp (by rwa [total]), total, sent_totalLen, same]
  exact chksum_filled _ zeroed.tcp.beforeChksum _ (show 16 % 2 = 0 from rfl)

/-- A packet in memory as it came, with something behind it. -/
theorem wire_append (whole : 40 ≤ uipLen.toNat) (behind : List UInt8) :
    buf.wire uipLen ++ behind =
      buf.ip.bytes ++ (buf.tcp.bytes ++ (buf.rest.take (uipLen.toNat - 40) ++ behind)) := by
  have length : (buf.ip.bytes ++ buf.tcp.bytes).length = 40 := rfl
  have upTo : uipLen.toNat =
      (buf.ip.bytes ++ buf.tcp.bytes).length + (uipLen.toNat - 40) := by omega
  rw [UipBuf.wire, UipBuf.upper, ← List.append_assoc, upTo, List.take_length_add_append]
  simp only [List.append_assoc, length, Nat.add_sub_cancel_left]

/-- What is sent arrives as it was sent. -/
theorem wire_arrives {received : UInt16} (isTcp : buf.ip.proto = uipProtoTcp)
    (all : uipLen ≤ received) (whole : 40 ≤ uipLen.toNat)
    (enough : uipLen.toNat ≤ 40 + buf.rest.length)
    (carried : (tcpSendNoconn ipid uipLen buf).dataLen.toNat ≤ uipLen.toNat - 40)
    (behind : List UInt8) :
    arrives buf.ip.destipaddr received ((tcpSendNoconn ipid uipLen buf).wire uipLen ++ behind) =
      some ((tcpSendNoconn ipid uipLen buf).endpoint, (tcpSendNoconn ipid uipLen buf).segment,
        (tcpSendNoconn ipid uipLen buf).appdata) := by
  set sent := tcpSendNoconn ipid uipLen buf with sent_eq
  have rest_eq : sent.rest = buf.rest := rfl
  have long : uipLen.toNat - 40 ≤ buf.rest.length := by omega
  have front {count : Nat} (within : count ≤ uipLen.toNat - 40) :
      (buf.rest.take (uipLen.toNat - 40) ++ behind).take count = buf.rest.take count := by
    rw [List.take_append_of_le_length (by rwa [List.length_take_of_le long]), List.take_take,
      Nat.min_eq_left within]
  have read : UipBuf.read (sent.wire uipLen ++ behind) =
      some { sent with rest := buf.rest.take (uipLen.toNat - 40) ++ behind } := by
    rw [wire_append _ _ whole]
    exact UipBuf.read_bytes { sent with rest := buf.rest.take (uipLen.toNat - 40) ++ behind }
  rw [arrives, read, Option.bind_some, if_pos]
  · exact congrArg (fun data => some (sent.endpoint, sent.segment, data)) (front carried)
  · exact ⟨ipInput_sent ipid uipLen buf isTcp all,
      sent_tcpchksum ipid uipLen buf whole (front (Nat.le_refl _))⟩

end Sent

/-- The flags can be read apart. -/
theorem ackFlags_and : ∀ fin syn rst psh : Bool,
    (ackFlags fin syn rst psh &&& 0x01 != 0) = fin ∧ (ackFlags fin syn rst psh &&& 0x02 != 0) = syn ∧
      (ackFlags fin syn rst psh &&& 0x04 != 0) = rst ∧
      (ackFlags fin syn rst psh &&& 0x10 != 0) = true := by
  decide

section Sizes

variable {packet : Packet} (synAlone : packet.syn = true → packet.payload = [])

include synAlone

/-- A packet has options or it carries something. -/
theorem optdata_or : packet.optdata = [] ∨ packet.optdata.length = 4 ∧ packet.payload = [] := by
  rw [Packet.optdata]
  by_cases syn : packet.syn = true
  · rw [if_pos syn]
    exact Or.inr ⟨rfl, synAlone syn⟩
  · exact Or.inl (if_neg syn)

theorem toNat_uipLen (fits : 40 + packet.payload.length < 2 ^ 16) :
    packet.uipLen.toNat = 40 + packet.optdata.length + packet.payload.length := by
  refine UInt16.toNat_ofNat_of_lt' ?_
  rcases optdata_or synAlone with none | ⟨four, none⟩
  · rw [none]
    exact fits
  · rw [four, none]
    decide

/-- The length of what a packet carries, from the lengths in the headers. -/
theorem sent_dataLen (fits : 40 + packet.payload.length < 2 ^ 16) :
    packet.uipLen - ((UInt8.ofNat ((20 + packet.optdata.length) / 4) <<< 4 >>> 4) <<< 2).toUInt16 -
      20 = UInt16.ofNat packet.payload.length := by
  have lengths := toNat_uipLen synAlone fits
  have twenty : (20 : UInt16).toNat = 20 := rfl
  have twentyFour : (24 : UInt16).toNat = 24 := rfl
  rw [← UInt16.toNat_inj, UInt16.toNat_sub, UInt16.toNat_sub, twenty, lengths]
  rcases optdata_or synAlone with none | ⟨four, none⟩
  · have five : (UInt8.ofNat ((20 + 0) / 4) <<< 4 >>> 4 <<< 2).toUInt16 = 20 := by decide
    rw [none, List.length_nil, five, twenty, UInt16.toNat_ofNat']
    omega
  · have six : (UInt8.ofNat ((20 + 4) / 4) <<< 4 >>> 4 <<< 2).toUInt16 = 24 := by decide
    rw [four, none, six, twentyFour]
    rfl

end Sizes

/-- What is read of a packet that was sent. -/
def Packet.arrived (packet : Packet) : Segment where
  seqno := packet.seqno
  ackno := packet.ackno
  fin := packet.fin
  syn := packet.syn
  rst := packet.rst
  ack := true
  wnd := uipTcpMss
  len := UInt16.ofNat packet.payload.length

/-- **What a connection sends arrives**: at the host it is sent to the checks let it pass, however
many bytes come behind it, and what is read is what was sent. -/
theorem tcpSend_arrives (hostaddr : UInt16 × UInt16) (ipid : UInt16) (endpoint : Endpoint)
    {packet : Packet} (synAlone : packet.syn = true → packet.payload = [])
    (fits : 40 + packet.payload.length < 2 ^ 16) (buf : UipBuf) (behind : List UInt8)
    {received : UInt16} (all : packet.uipLen ≤ received) :
    arrives endpoint.ripaddr received
        ((tcpSendBuf hostaddr ipid endpoint packet buf).wire packet.uipLen ++ behind) =
      some (⟨endpoint.rport, endpoint.lport, hostaddr⟩, packet.arrived, packet.payload) := by
  have total := toNat_uipLen synAlone fits
  have lengths := sent_dataLen synAlone fits
  have carried : (UInt16.ofNat packet.payload.length).toNat = packet.payload.length :=
    UInt16.toNat_ofNat_of_lt' (Nat.lt_of_le_of_lt (Nat.le_add_left _ 40) fits)
  obtain ⟨fin, syn, rst, ack⟩ :=
    ackFlags_and packet.fin packet.syn packet.rst !packet.payload.isEmpty
  have dataLen : (tcpSendBuf hostaddr ipid endpoint packet buf).dataLen =
      UInt16.ofNat packet.payload.length := by
    rw [UipBuf.dataLen, tcpSendBuf, sent_totalLen]
    exact lengths
  have segment : (tcpSendBuf hostaddr ipid endpoint packet buf).segment = packet.arrived := by
    rw [UipBuf.segment, Packet.arrived, dataLen]
    simp only [Segment.mk.injEq]
    exact ⟨rfl, rfl, fin, syn, rst, ack, totalLen_of uipTcpMss, trivial⟩
  have appdata : (tcpSendBuf hostaddr ipid endpoint packet buf).appdata = packet.payload := by
    rw [UipBuf.appdata, dataLen, carried]
    show (packet.optdata ++ packet.payload ++ _).take _ = _
    rcases optdata_or synAlone with none | ⟨-, none⟩
    · rw [none, List.nil_append, List.take_left]
    · rw [none]
      rfl
  have rest : packet.optdata.length + packet.payload.length ≤
      (packet.fill hostaddr endpoint buf).rest.length := by
    show _ ≤ (packet.optdata ++ packet.payload ++ _).length
    rw [List.length_append, List.length_append]
    exact Nat.le_add_right _ _
  rw [← segment, ← appdata]
  refine wire_arrives ipid packet.uipLen (packet.fill hostaddr endpoint buf) rfl all ?_ ?_ ?_ behind
  · rw [total, Nat.add_assoc]
    exact Nat.le_add_right _ _
  · rw [total]
    omega
  · show (tcpSendBuf hostaddr ipid endpoint packet buf).dataLen.toNat ≤ _
    rw [dataLen, carried, total]
    omega

/-- Two bytes of a page arrive, from a buffer with nothing in it. -/
theorem tcpSend_arrives_twoBytes :
    arrives (0x000a, 0x0200) 46
        ((tcpSendBuf (0x000a, 0x0100) 7 ⟨htons 80, htons 5000, (0x000a, 0x0200)⟩
          { seqno := ⟨0, 0, 1, 0⟩, ackno := ⟨0, 0, 2, 0⟩, payload := [72, 105] }
          ⟨⟨0, 0, (0, 0), (0, 0), (0, 0), 0, 0, 0, (0, 0), (0, 0)⟩,
            ⟨0, 0, ⟨0, 0, 0, 0⟩, ⟨0, 0, 0, 0⟩, 0, 0, (0, 0), 0, (0, 0)⟩, []⟩).wire 42 ++
          [0, 0, 0, 0]) =
      some (⟨htons 5000, htons 80, (0x000a, 0x0100)⟩,
        { seqno := ⟨0, 0, 1, 0⟩, ackno := ⟨0, 0, 2, 0⟩, fin := false, syn := false, rst := false
          ack := true, wnd := uipTcpMss, len := 2 }, [72, 105]) :=
  tcpSend_arrives (0x000a, 0x0100) 7 ⟨htons 80, htons 5000, (0x000a, 0x0200)⟩
    (fun syn => absurd syn (by decide)) (by decide) _ [0, 0, 0, 0] (by decide)

/-- `reset`, up to `tcp_send_noconn`. -/
def resetFill (hostaddr : UInt16 × UInt16) (buf : UipBuf) : UipBuf where
  ip := { buf.ip with destipaddr := buf.ip.srcipaddr, srcipaddr := hostaddr }
  tcp := { buf.tcp with
    flags := 0x14, tcpoffset := (5 : UInt8) <<< 4
    seqno := buf.tcp.ackno, ackno := buf.tcp.seqno.increment3
    srcport := buf.tcp.destport, destport := buf.tcp.srcport }
  rest := buf.rest

/-- **A reset arrives** at the host that sent what it answers, for the connection it was for. The
window it names is the one that host named. -/
theorem reset_arrives {hostaddr : UInt16 × UInt16} {buf : UipBuf}
    (isTcp : buf.ip.proto = uipProtoTcp) {packet : Packet}
    (answers : reset buf.segment = some packet) (ipid : UInt16) (behind : List UInt8)
    {received : UInt16} (all : 40 ≤ received) :
    arrives buf.ip.srcipaddr received
        ((tcpSendNoconn ipid 40 (resetFill hostaddr buf)).wire 40 ++ behind) =
      some (⟨buf.tcp.srcport, buf.tcp.destport, hostaddr⟩,
        { packet.arrived with wnd := buf.segment.wnd }, []) := by
  obtain ⟨-, answer⟩ := Option.ite_none_left_eq_some.mp answers
  obtain rfl := Option.some.inj answer
  have whole : (40 : UInt16).toNat = 40 := rfl
  have dataLen : (tcpSendNoconn ipid 40 (resetFill hostaddr buf)).dataLen = 0 := by
    rw [UipBuf.dataLen, sent_totalLen]
    show (40 : UInt16) - (((5 : UInt8) <<< 4 >>> 4) <<< 2).toUInt16 - 20 = 0
    decide
  obtain ⟨fin, syn, rst, ack⟩ := ackFlags_and false false true false
  refine (wire_arrives ipid 40 (resetFill hostaddr buf) isTcp all (by rw [whole]) ?_ ?_ behind).trans
    ?_
  · rw [whole]
    exact Nat.le_add_right _ _
  · rw [dataLen]
    exact Nat.le_refl _
  · rw [UipBuf.segment, UipBuf.appdata, dataLen]
    simp only [Option.some.injEq, Prod.mk.injEq, Segment.mk.injEq]
    exact ⟨rfl, ⟨rfl, rfl, fin, syn, rst, ack, rfl, rfl⟩, rfl⟩

/-- A segment for a port that is not listened to is answered. -/
theorem reset_arrives_otherPort :
    arrives (0x000a, 0x0200) 40
        ((tcpSendNoconn 7 40 (resetFill (0x000a, 0x0100)
          ⟨⟨0x45, 0, (0, 40), (0, 0), (0, 0), 64, 6, 0, (0x000a, 0x0200), (0x000a, 0x0100)⟩,
            ⟨htons 5000, htons 81, ⟨0, 0, 0, 255⟩, ⟨0, 0, 0, 9⟩, 0x50, 0x10, (1, 0), 0, (0, 0)⟩,
            []⟩)).wire 40 ++ []) =
      some (⟨htons 5000, htons 81, (0x000a, 0x0100)⟩,
        { seqno := ⟨0, 0, 0, 9⟩, ackno := ⟨0, 0, 1, 0⟩, fin := false, syn := false, rst := true
          ack := true, wnd := 256, len := 0 }, []) :=
  @reset_arrives (0x000a, 0x0100)
    ⟨⟨0x45, 0, (0, 40), (0, 0), (0, 0), 64, 6, 0, (0x000a, 0x0200), (0x000a, 0x0100)⟩,
      ⟨htons 5000, htons 81, ⟨0, 0, 0, 255⟩, ⟨0, 0, 0, 9⟩, 0x50, 0x10, (1, 0), 0, (0, 0)⟩, []⟩
    rfl _ rfl 7 [] 40 (UInt16.le_refl 40)

/-! ### What is changed on its way -/

/-- A packet that is let pass has the right checksums. -/
theorem arrives_right {hostaddr : UInt16 × UInt16} {uipLen : UInt16} {memory : List UInt8}
    (arrived : arrives hostaddr uipLen memory ≠ none) :
    ∃ buf, UipBuf.read memory = some buf ∧ uipIpchksum buf.ip = 0xffff ∧
      upperLayerChksum uipProtoTcp buf.ip buf.upper = 0xffff := by
  obtain ⟨found, arrived⟩ := Option.ne_none_iff_exists'.mp arrived
  obtain ⟨buf, read, passed⟩ := Option.bind_eq_some_iff.mp arrived
  obtain ⟨⟨isTcp, right⟩, -⟩ := Option.ite_none_right_eq_some.mp passed
  refine ⟨buf, read, ?_, right⟩
  by_contra wrong
  rw [ipInput, if_pos wrong] at isTcp
  split_ifs at isTcp

theorem IpHdr.bytes_injective : Function.Injective IpHdr.bytes := by
  intro hdr hdr' same
  have read := IpHdr.read_bytes hdr []
  rw [same, IpHdr.read_bytes] at read
  exact (congrArg Prod.fst (Option.some.inj read)).symm

/-- The front of some bytes, with a change in it. -/
theorem take_changed {before changed after : List UInt8} {count : Nat}
    (within : before.length + changed.length ≤ count) :
    (before ++ (changed ++ after)).take count =
      before ++ (changed ++ after.take (count - before.length - changed.length)) := by
  rw [List.take_append, List.take_append, List.take_of_length_le (by omega),
    List.take_of_length_le (by omega)]

section Changed

variable {before changed changed' after after' : List UInt8} {buf buf' : UipBuf}
  (read : UipBuf.read (before ++ (changed ++ after)) = some buf)
  (read' : UipBuf.read (before ++ (changed' ++ after')) = some buf')

include read in
theorem ip_bytes : buf.ip.bytes = (before ++ (changed ++ after)).take 20 := by
  rw [UipBuf.bytes_read read]
  exact (List.take_left' rfl).symm

include read in
theorem upper_bytes : buf.upper = (before ++ (changed ++ after)).drop 20 := by
  rw [UipBuf.bytes_read read]
  exact (List.drop_left' (show buf.ip.bytes.length = 20 from rfl)).symm

include read read'

/-- A change in the header is in the bytes that its checksum is for. -/
theorem changed_ip (within : before.length + changed.length ≤ 20)
    (length : changed'.length = changed.length)
    (front : after'.take (20 - before.length - changed.length) =
      after.take (20 - before.length - changed.length))
    (right : uipIpchksum buf.ip = 0xffff) (right' : uipIpchksum buf'.ip = 0xffff) :
    ∃ behind, chksumResult (chksum 0 (before ++ (changed ++ behind))) = 0xffff ∧
      chksumResult (chksum 0 (before ++ (changed' ++ behind))) = 0xffff := by
  rw [uipIpchksum, ip_bytes read, take_changed within] at right
  rw [uipIpchksum, ip_bytes read', take_changed (by rwa [length]), length, front] at right'
  exact ⟨_, right, right'⟩

/-- A change behind the header is in the bytes that the checksum of the segment is for. -/
theorem changed_upper (behind : 20 ≤ before.length) (same : after' = after)
    (within : before.length + changed.length ≤ buf.ip.totalLen.toNat)
    (length : changed'.length = changed.length)
    (right : upperLayerChksum uipProtoTcp buf.ip buf.upper = 0xffff)
    (right' : upperLayerChksum uipProtoTcp buf'.ip buf'.upper = 0xffff) :
    ∃ sum ahead behind, chksumResult (chksum sum (ahead ++ (changed ++ behind))) = 0xffff ∧
      chksumResult (chksum sum (ahead ++ (changed' ++ behind))) = 0xffff := by
  subst same
  have same : buf'.ip = buf.ip := by
    refine IpHdr.bytes_injective ?_
    rw [ip_bytes read, ip_bytes read', List.take_append_of_le_length behind,
      List.take_append_of_le_length behind]
  have twenty : (20 : UInt16).toNat = 20 := rfl
  have upperLen : (buf.ip.totalLen - 20).toNat = buf.ip.totalLen.toNat - 20 :=
    UInt16.toNat_sub_of_le _ _ (UInt16.le_iff_toNat_le.mpr (by rw [twenty]; omega))
  have inside : (before.drop 20).length + changed.length ≤ (buf.ip.totalLen - 20).toNat := by
    rw [upperLen, List.length_drop]
    omega
  rw [upperLayerChksum, upper_bytes read, List.drop_append_of_le_length behind,
    take_changed inside] at right
  rw [upperLayerChksum, same, upper_bytes read', List.drop_append_of_le_length behind,
    take_changed (by rwa [length]), length] at right'
  exact ⟨_, _, _, right, right'⟩

end Changed

/-- **No two segments that arrive differ in two bytes side by side alone**, or in one of them: the one
that was changed is dropped. It may stand anywhere in the headers or in what is carried, and only two
zeros that became two 0xff are not told apart, or the other way. -/
theorem arrives_changed {hostaddr : UInt16 × UInt16} {uipLen : UInt16} {before after : List UInt8}
    {first second first' second' : UInt8} {buf : UipBuf}
    (arrived : arrives hostaddr uipLen (before ++ ([first, second] ++ after)) ≠ none)
    (read : UipBuf.read (before ++ ([first, second] ++ after)) = some buf)
    (inside : before.length + 2 ≤ buf.ip.totalLen.toNat)
    (changed : ¬ SamePair first second first' second') :
    arrives hostaddr uipLen (before ++ ([first', second'] ++ after)) = none := by
  by_contra arrived'
  obtain ⟨_, read_eq, right, upperRight⟩ := arrives_right arrived
  obtain rfl := Option.some.inj (read_eq.symm.trans read)
  obtain ⟨buf', read', right', upperRight'⟩ := arrives_right arrived'
  rcases Nat.lt_trichotomy before.length 19 with low | middle | high
  · obtain ⟨_, right, right'⟩ :=
      changed_ip read read' (show before.length + 2 ≤ 20 by omega) rfl rfl right right'
    exact changed ((chksum_detects 0 right).mp right')
  · by_cases same : first' = first
    · subst same
      have apart (second after) : before ++ ([first', second] ++ after) =
          before ++ [first'] ++ ([second] ++ after) := by simp
      have length : (before ++ [first']).length = 20 := by
        rw [List.length_append, middle]
        rfl
      rw [apart] at read read'
      obtain ⟨_, _, _, right, right'⟩ := changed_upper read read' (by rw [length]) rfl
        (show (before ++ [first']).length + 1 ≤ _ by rw [length]; omega) rfl upperRight upperRight'
      exact changed (Or.inl ⟨rfl, (chksum_detects_byte _ right).mp right'⟩)
    · have front : ([second'] ++ after).take (20 - before.length - 1) =
          ([second] ++ after).take (20 - before.length - 1) := by
        rw [middle]
        rfl
      have apart (first second) : before ++ ([first, second] ++ after) =
          before ++ ([first] ++ ([second] ++ after)) := rfl
      rw [apart] at read read'
      obtain ⟨_, right, right'⟩ := changed_ip read read'
        (show before.length + 1 ≤ 20 by rw [middle]) rfl front right right'
      exact same ((chksum_detects_byte 0 right).mp right')
  · obtain ⟨_, _, _, right, right'⟩ :=
      changed_upper read read' high rfl inside rfl upperRight upperRight'
    exact changed ((chksum_detects _ right).mp right')

/-- A segment with one byte more is dropped. -/
theorem arrives_changed_oneByte :
    arrives (0x000a, 0x0200) 42
      ([69, 0, 0, 42, 0, 7, 0, 0, 64, 6, 102, 197, 10, 0, 0, 1, 10, 0, 0, 2, 0, 80, 19, 136, 0, 0, 1,
        0, 0, 0, 2, 0, 80, 24, 15, 89, 45, 46, 0, 0] ++ ([72, 106] ++ [])) = none :=
  @arrives_changed (0x000a, 0x0200) 42
    [69, 0, 0, 42, 0, 7, 0, 0, 64, 6, 102, 197, 10, 0, 0, 1, 10, 0, 0, 2, 0, 80, 19, 136, 0, 0, 1,
      0, 0, 0, 2, 0, 80, 24, 15, 89, 45, 46, 0, 0] [] 72 105 72 106
    ⟨⟨69, 0, (0, 42), (0, 7), (0, 0), 64, 6, 0xc566, (0x000a, 0x0100), (0x000a, 0x0200)⟩,
      ⟨htons 80, htons 5000, ⟨0, 0, 1, 0⟩, ⟨0, 0, 2, 0⟩, 80, 24, (15, 89), 0x2e2d, (0, 0)⟩,
      [72, 105]⟩
    (Option.isSome_iff_ne_none.mp (by decide +kernel)) rfl (by decide) (by rw [SamePair]; decide)

/-! ### Echoes -/

/-- The header of an echo, as far as it is read. -/
structure IcmpHdr where
  type : UInt8
  icode : UInt8
  icmpchksum : UInt16

/-- The header in memory. -/
def IcmpHdr.bytes (hdr : IcmpHdr) : List UInt8 := [hdr.type, hdr.icode] ++ u16Bytes hdr.icmpchksum

/-- `ICMP_ECHO`. -/
def icmpEcho : UInt8 := 8

/-- `ICMP_ECHO_REPLY`. -/
def icmpEchoReply : UInt8 := 0

/-- The checksum of the reply. -/
def echoChksum (icmpchksum : UInt16) : UInt16 :=
  if icmpchksum ≥ htons ((0xffff : UInt16) - icmpEcho.toUInt16 <<< 8) then
    icmpchksum + (htons (icmpEcho.toUInt16 <<< 8) + 1)
  else icmpchksum + htons (icmpEcho.toUInt16 <<< 8)

/-- `icmp_input`: the headers of the reply, if there is one. -/
def icmpInput (hostaddr : UInt16 × UInt16) (ip : IpHdr) (icmp : IcmpHdr) :
    Option (IpHdr × IcmpHdr) :=
  if icmp.type ≠ icmpEcho then none
  else some ({ ip with destipaddr := ip.srcipaddr, srcipaddr := hostaddr },
    { icmp with type := icmpEchoReply, icmpchksum := echoChksum icmp.icmpchksum })

/-- The checksum makes up for the type that went down by 8. -/
theorem echoChksum_modEq (icmpchksum : UInt16) :
    (htons (echoChksum icmpchksum)).toNat ≡ 256 * 8 + (htons icmpchksum).toNat [MOD 65535] := by
  have lt := icmpchksum.toNat_lt
  have limit : htons ((0xffff : UInt16) - icmpEcho.toUInt16 <<< 8) = 65527 := by decide
  have eight : htons (icmpEcho.toUInt16 <<< 8) = 8 := by decide
  have h65527 : (65527 : UInt16).toNat = 65527 := rfl
  have h9 : (8 + 1 : UInt16).toNat = 9 := rfl
  have h8 : (8 : UInt16).toNat = 8 := rfl
  have value : (htons (echoChksum icmpchksum)).toNat = 256 * 8 + (htons icmpchksum).toNat ∨
      (htons (echoChksum icmpchksum)).toNat + 65535 = 256 * 8 + (htons icmpchksum).toNat := by
    rw [echoChksum, limit, eight]
    by_cases carry : icmpchksum ≥ 65527
    · have carries := UInt16.le_iff_toNat_le.mp carry
      rw [if_pos carry, toNat_htons, toNat_htons, UInt16.toNat_add, h9]
      omega
    · have carries := mt UInt16.le_iff_toNat_le.mpr carry
      rw [if_neg carry, toNat_htons, toNat_htons, UInt16.toNat_add, h8]
      omega
  rcases value with same | less
  · rw [same]
  · rw [← less]
    exact Nat.add_modEq_right.symm

/-- What is let pass as an echo is for this host, and its header has the right checksum. -/
theorem ipInput_icmp {hostaddr : UInt16 × UInt16} (known : hostaddr ≠ (0, 0)) {uipLen : UInt16}
    {hdr : IpHdr} (passed : ipInput hostaddr uipLen hdr = .icmp) :
    hdr.destipaddr = hostaddr ∧ uipIpchksum hdr = 0xffff := by
  unfold ipInput at passed
  split_ifs at passed with _ _ _ _ other wrong
  exact ⟨not_not.mp fun others => other ⟨known, others⟩, not_not.mp wrong⟩

theorem weight_icmp (icmp : IcmpHdr) (rest : List UInt8) : weight (icmp.bytes ++ rest) =
    256 * icmp.type.toNat + icmp.icode.toNat + (htons icmp.icmpchksum).toNat + weight rest := by
  have bytes : weight icmp.bytes = 256 * icmp.type.toNat + (icmp.icode.toNat +
      weight (u16Bytes icmp.icmpchksum)) := rfl
  have even : icmp.bytes.length % 2 = 0 := (show 4 % 2 = 0 from rfl)
  rw [weight_append, begins_even even, bytes, weight_u16Bytes, ← Nat.add_assoc]
  rfl

/-- The checksum of a ping with nothing in it but zeros is known, and becomes 0. -/
theorem echoChksum_eq_zero {icmpchksum : UInt16}
    (right : 256 * 8 + (htons icmpchksum).toNat ≡ 0 [MOD 65535]) : echoChksum icmpchksum = 0 := by
  have lt := icmpchksum.toNat_lt
  have field := toNat_htons icmpchksum
  obtain ⟨times, total⟩ := Nat.modEq_zero_iff_dvd.mp right
  have top : icmpchksum = 65527 := by
    rw [← UInt16.toNat_inj, show (65527 : UInt16).toNat = 65527 from rfl]
    omega
  rw [top]
  decide

/-- A reply has nothing in it but zeros exactly if the ping had not. -/
theorem reply_zeros {icmp : IcmpHdr} (echo : icmp.type = icmpEcho) {rest : List UInt8}
    (right : weight (icmp.bytes ++ rest) ≡ 0 [MOD 65535]) :
    (∀ byte ∈ IcmpHdr.bytes { icmp with
        type := icmpEchoReply, icmpchksum := echoChksum icmp.icmpchksum } ++ rest, byte = 0) ↔
      icmp.icode = 0 ∧ ∀ byte ∈ rest, byte = 0 := by
  have eight : icmpEcho.toNat = 8 := rfl
  simp only [IcmpHdr.bytes, List.cons_append, List.nil_append, List.forall_mem_cons,
    List.forall_mem_append]
  refine ⟨fun zeros => ⟨zeros.2.1, zeros.2.2.2⟩, fun ⟨icode, zeros⟩ => ⟨rfl, icode, ?_, zeros⟩⟩
  have none : weight rest ≡ 0 [MOD 65535] := by
    have sum := chksum_modEq 0 rest
    rw [(chksum_eq_zero 0 rest).mpr ⟨rfl, zeros⟩, UInt16.toNat_zero, Nat.zero_add] at sum
    exact sum.symm
  rw [weight_icmp, echo, eight, icode, UInt8.toNat_zero, Nat.add_zero] at right
  rw [echoChksum_eq_zero ((none.symm.add_left _).trans right)]
  exact List.forall_mem_cons.mpr ⟨rfl, List.forall_mem_singleton.mpr rfl⟩

/-- **A ping is answered with a right checksum exactly if it came with one**, but where there is
nothing in it but zeros: then the checksum of the answer is 0 too, and it had to be 0xffff. The
checksum of the header stays right. -/
theorem echo_right_iff {hostaddr : UInt16 × UInt16} (known : hostaddr ≠ (0, 0)) {uipLen : UInt16}
    {ip ip' : IpHdr} {icmp icmp' : IcmpHdr} (passed : ipInput hostaddr uipLen ip = .icmp)
    (answered : icmpInput hostaddr ip icmp = some (ip', icmp')) (rest : List UInt8) :
    uipIpchksum ip' = 0xffff ∧
      (chksum 0 (icmp'.bytes ++ rest) = 0xffff ↔ chksum 0 (icmp.bytes ++ rest) = 0xffff ∧
        ¬ (icmp.icode = 0 ∧ ∀ byte ∈ rest, byte = 0)) := by
  obtain ⟨echo, answer⟩ := Option.ite_none_left_eq_some.mp answered
  obtain ⟨rfl, rfl⟩ := Prod.mk.inj (Option.some.inj answer)
  obtain ⟨rfl, right⟩ := ipInput_icmp known passed
  have type : icmp.type = icmpEcho := not_not.mp echo
  have eight : icmpEcho.toNat = 8 := rfl
  have zero : icmpEchoReply.toNat = 0 := rfl
  have same : weight (IcmpHdr.bytes { icmp with
        type := icmpEchoReply, icmpchksum := echoChksum icmp.icmpchksum } ++ rest) ≡
      weight (icmp.bytes ++ rest) [MOD 65535] := by
    rw [weight_icmp, weight_icmp, type, eight, zero]
    refine Nat.ModEq.add_right _ ?_
    rw [Nat.mul_zero, Nat.zero_add, Nat.add_right_comm, Nat.add_comm]
    exact (echoChksum_modEq _).add_right _
  have asked : ¬ ∀ byte ∈ icmp.bytes ++ rest, byte = 0 := fun zeros =>
    absurd (zeros icmp.type (List.mem_append_left _ List.mem_cons_self)) (by rw [type]; decide)
  refine ⟨(uipIpchksum_swap ip).mpr right, ?_⟩
  rw [chksum_eq_top, chksum_eq_top, and_iff_left asked]
  constructor
  · rintro ⟨stands, some_⟩
    have asked := same.symm.trans stands
    exact ⟨asked, mt (reply_zeros type asked).mpr some_⟩
  · rintro ⟨asked, some_⟩
    exact ⟨same.trans asked, mt (reply_zeros type asked).mp some_⟩

/-- A ping with a number in it. -/
theorem echo_right_iff_numbered :
    uipIpchksum ⟨0x45, 0, (0, 28), (0, 0), (0, 0), 64, 1, 0xdf66, (0x000a, 0x0100),
        (0x000a, 0x0200)⟩ = 0xffff ∧
      (chksum 0 (IcmpHdr.bytes ⟨0, 0, 0xfeff⟩ ++ [0, 0, 0, 1]) = 0xffff ↔
        chksum 0 (IcmpHdr.bytes ⟨8, 0, 0xfef7⟩ ++ [0, 0, 0, 1]) = 0xffff ∧
          ¬ ((0 : UInt8) = 0 ∧ ∀ byte ∈ ([0, 0, 0, 1] : List UInt8), byte = 0)) :=
  @echo_right_iff (0x000a, 0x0100) (by decide) 28
    ⟨0x45, 0, (0, 28), (0, 0), (0, 0), 64, 1, 0xdf66, (0x000a, 0x0200), (0x000a, 0x0100)⟩ _
    ⟨8, 0, 0xfef7⟩ _ (by decide) rfl [0, 0, 0, 1]

end EquinoxClock.Wifi
