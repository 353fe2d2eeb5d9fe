/-
The ARP table.

`arp_table` keeps the Ethernet addresses of some hosts, each with the time it came at. A packet for a
host that is not in it is replaced by a request for the address, and what answers is put in the
table: over the address that was there, in an unused place, or in place of the oldest one. What is
found is always the address that was heard of last (`arp_latest`).

`uip_arp_timer` throws out what is old. It counts its calls in eight bits and takes the age of an
entry as a difference of two such counts that does not wrap around. So an entry that came in the
first 136 calls of every 256 goes after 120 of them, but one that came later never does
(`arp_resolved_iff`).
-/

import EquinoxClock.Lib.Run
import EquinoxClock.Lib.Slots
import EquinoxClock.Wifi.Checksum

namespace EquinoxClock.Wifi

open EquinoxClock.Lib

/-- `struct uip_eth_addr`. -/
abbrev UipEthAddr := Vector UInt8 6

/-- `uip_ipaddr_t`. -/
abbrev UipIpaddr := UInt16 × UInt16

/-- `struct arp_entry`. -/
structure ArpEntry where
  ipaddr : UipIpaddr
  ethaddr : UipEthAddr
  time : UInt8

/-- `arp_table` and `arptime`. -/
structure Arp where
  table : List ArpEntry
  arptime : UInt8

/-- `struct arp_hdr`, as far as it is read or written. -/
structure ArpHdr where
  dest : UipEthAddr
  src : UipEthAddr
  type : UInt16
  opcode : UInt16
  shwaddr : UipEthAddr
  sipaddr : UipIpaddr
  dhwaddr : UipEthAddr
  dipaddr : UipIpaddr

/-- `UIP_ARP_MAXAGE`. -/
def uipArpMaxage : Int := 120

/-- Both halves of the address are set. -/
def ArpEntry.Used (entry : ArpEntry) : Prop := entry.ipaddr.1 ≠ 0 ∧ entry.ipaddr.2 ≠ 0

instance (entry : ArpEntry) : Decidable entry.Used := inferInstanceAs (Decidable (_ ∧ _))

/-- `arptime - tabptr->time`. -/
def ArpEntry.age (arptime : UInt8) (entry : ArpEntry) : Int := arptime.toNat - entry.time.toNat

/-- What `uip_arp_timer` makes of an entry. -/
def ArpEntry.expire (arptime : UInt8) (entry : ArpEntry) : ArpEntry :=
  if entry.ipaddr.1 ||| entry.ipaddr.2 ≠ 0 ∧ entry.age arptime ≥ uipArpMaxage then
    { entry with ipaddr := (0, 0) }
  else entry

/-- `uip_arp_timer`. -/
def uipArpTimer (arp : Arp) : Arp where
  table := arp.table.map (ArpEntry.expire (arp.arptime + 1))
  arptime := arp.arptime + 1

/-- The search for the oldest entry, from the index `i` on. -/
def searchOldest (arptime : UInt8) : (i c : Nat) → (tmpage : UInt8) → List ArpEntry → Nat
  | _, c, _, [] => c
  | i, c, tmpage, entry :: table =>
      if entry.age arptime > tmpage.toNat then
        searchOldest arptime (i + 1) i (arptime - entry.time) table
      else searchOldest arptime (i + 1) c tmpage table

/-- The place for a new entry. -/
def Arp.newPlace (arp : Arp) : Nat :=
  (arp.table.findIdx? fun entry => entry.ipaddr = (0, 0)).getD
    (searchOldest arp.arptime 0 0 0 arp.table)

/-- `uip_arp_update`. -/
def uipArpUpdate (ipaddr : UipIpaddr) (ethaddr : UipEthAddr) (arp : Arp) : Arp :=
  match Slots.lookup ArpEntry.Used ArpEntry.ipaddr ipaddr arp.table with
  | some i => { arp with
      table := arp.table.modify i fun entry => { entry with ethaddr, time := arp.arptime } }
  | none => { arp with table := arp.table.set arp.newPlace ⟨ipaddr, ethaddr, arp.arptime⟩ }

section Packets

variable (hostaddr : UipIpaddr)

/-- What a packet tells of a host, if it is for this one. -/
def ArpHdr.announces (hdr : ArpHdr) (uipLen : UInt16) : Option (UipIpaddr × UipEthAddr) :=
  if 42 ≤ uipLen ∧ (hdr.opcode = htons 1 ∨ hdr.opcode = htons 2) ∧ hdr.dipaddr = hostaddr then
    some (hdr.sipaddr, hdr.shwaddr)
  else none

/-- `uip_arp_arpin`, and the packet that is sent. -/
def uipArpArpin (ethaddr : UipEthAddr) (uipLen : UInt16) (hdr : ArpHdr) (arp : Arp) :
    Arp × Option ArpHdr :=
  if uipLen < 42 then (arp, none)
  else if hdr.opcode = htons 1 then
    if hdr.dipaddr = hostaddr then
      (uipArpUpdate hdr.sipaddr hdr.shwaddr arp, some { hdr with
        opcode := htons 2, dhwaddr := hdr.shwaddr, shwaddr := ethaddr, src := ethaddr
        dest := hdr.shwaddr, dipaddr := hdr.sipaddr, sipaddr := hostaddr, type := htons 0x0806 })
    else (arp, none)
  else if hdr.opcode = htons 2 then
    if hdr.dipaddr = hostaddr then (uipArpUpdate hdr.sipaddr hdr.shwaddr arp, none)
    else (arp, none)
  else (arp, none)

variable (netmask draddr : UipIpaddr)

/-- `uip_ipaddr_maskcmp`. -/
def uipIpaddrMaskcmp (first second mask : UipIpaddr) : Bool :=
  first.1 &&& mask.1 == second.1 &&& mask.1 && first.2 &&& mask.2 == second.2 &&& mask.2

/-- Whose Ethernet address is needed. -/
def nextHop (destipaddr : UipIpaddr) : UipIpaddr :=
  if uipIpaddrMaskcmp destipaddr hostaddr netmask then destipaddr else draddr

/-- What becomes of a packet that is to be sent. -/
inductive ArpOut
  | packet (dest : UipEthAddr)
  | request (dipaddr : UipIpaddr)

/-- The Ethernet address of a host. -/
def Arp.find (ipaddr : UipIpaddr) (arp : Arp) : Option UipEthAddr :=
  (arp.table.find? fun entry => ipaddr = entry.ipaddr).map ArpEntry.ethaddr

/-- `uip_arp_out`. -/
def uipArpOut (destipaddr : UipIpaddr) (arp : Arp) : ArpOut :=
  if destipaddr = (0xffff, 0xffff) then .packet (Vector.replicate 6 0xff)
  else
    let ipaddr := nextHop hostaddr netmask draddr destipaddr
    match arp.find ipaddr with
    | some dest => .packet dest
    | none => .request ipaddr

end Packets

/-- A packet that is not for all hosts. -/
theorem uipArpOut_single {hostaddr netmask draddr destipaddr : UipIpaddr}
    (single : destipaddr ≠ (0xffff, 0xffff)) (arp : Arp) :
    uipArpOut hostaddr netmask draddr destipaddr arp =
      match arp.find (nextHop hostaddr netmask draddr destipaddr) with
      | some dest => .packet dest
      | none => .request (nextHop hostaddr netmask draddr destipaddr) := if_neg single

/-- What can happen next. -/
inductive ArpEvent
  | timer
  | arpin (uipLen : UInt16) (hdr : ArpHdr)

/-- One step. -/
def arpStep (hostaddr : UipIpaddr) (ethaddr : UipEthAddr) (arp : Arp) : ArpEvent → Arp
  | .timer => uipArpTimer arp
  | .arpin uipLen hdr => (uipArpArpin hostaddr ethaddr uipLen hdr arp).1

/-- The table as it starts. -/
def arpStart (size : Nat) : Arp where
  table := List.replicate size ⟨(0, 0), Vector.replicate 6 0, 0⟩
  arptime := 0

/-! ### What is found -/

section Table

variable {arp : Arp} {ipaddr : UipIpaddr} {ethaddr : UipEthAddr}

/-- No two used entries are for the same host. -/
def HostsUnique (table : List ArpEntry) : Prop :=
  Slots.KeysUnique ArpEntry.Used ArpEntry.ipaddr table

/-- **An update writes one entry**: the one of the host, or else one in a new place. -/
theorem uipArpUpdate_eq (ipaddr : UipIpaddr) (ethaddr : UipEthAddr) (arp : Arp) :
    ∃ i, uipArpUpdate ipaddr ethaddr arp =
        { arp with table := arp.table.set i ⟨ipaddr, ethaddr, arp.arptime⟩ } ∧
      (Slots.lookup ArpEntry.Used ArpEntry.ipaddr ipaddr arp.table = some i ∨
        Slots.lookup ArpEntry.Used ArpEntry.ipaddr ipaddr arp.table = none ∧ i = arp.newPlace) := by
  unfold uipArpUpdate
  cases found : Slots.lookup ArpEntry.Used ArpEntry.ipaddr ipaddr arp.table with
  | some i =>
      obtain ⟨entry, there, -, rfl⟩ := Slots.lookup_some found
      refine ⟨i, ?_, Or.inl rfl⟩
      simp only [List.modify_eq_set_getElem?, there]
      rfl
  | none => exact ⟨_, rfl, Or.inr ⟨rfl, rfl⟩⟩

theorem uipArpUpdate_arptime (ipaddr : UipIpaddr) (ethaddr : UipEthAddr) (arp : Arp) :
    (uipArpUpdate ipaddr ethaddr arp).arptime = arp.arptime := by
  obtain ⟨i, eq, -⟩ := uipArpUpdate_eq ipaddr ethaddr arp
  rw [eq]

/-- So the hosts stay apart. -/
theorem HostsUnique.update (unique : HostsUnique arp.table) (ipaddr : UipIpaddr)
    (ethaddr : UipEthAddr) : HostsUnique (uipArpUpdate ipaddr ethaddr arp).table := by
  obtain ⟨i, eq, found | ⟨found, -⟩⟩ := uipArpUpdate_eq ipaddr ethaddr arp
  · rw [eq]
    obtain ⟨entry, there, used, key⟩ := Slots.lookup_some found
    exact unique.set_kept there fun _ => ⟨used, key.symm⟩
  · rw [eq]
    exact unique.set_new found

/-- What is in the table after an update is new, or is for another host. -/
theorem mem_update (unique : HostsUnique arp.table) {entry : ArpEntry}
    (member : entry ∈ (uipArpUpdate ipaddr ethaddr arp).table) (used : entry.Used) :
    entry = ⟨ipaddr, ethaddr, arp.arptime⟩ ∨ entry ∈ arp.table ∧ entry.ipaddr ≠ ipaddr := by
  obtain ⟨i, eq, place⟩ := uipArpUpdate_eq ipaddr ethaddr arp
  rw [eq] at member
  obtain ⟨j, there⟩ := List.getElem?_of_mem member
  rcases Slots.getElem?_set_cases there with ⟨-, new⟩ | ⟨apart, before⟩
  · exact Or.inl new
  · refine Or.inr ⟨List.mem_of_getElem? before, fun same => ?_⟩
    rcases place with found | ⟨notFound, -⟩
    · obtain ⟨other, at_, otherUsed, key⟩ := Slots.lookup_some found
      exact apart (unique before at_ used otherUsed (same.trans key.symm))
    · exact Slots.lookup_none.mp notFound entry (List.mem_of_getElem? before) used same

/-- An entry that is used after the timer is one that was. -/
theorem used_expire {entry : ArpEntry} {arptime : UInt8} (used : (entry.expire arptime).Used) :
    entry.expire arptime = entry := by
  rw [ArpEntry.expire] at used ⊢
  split at used
  · exact absurd rfl used.1
  · next kept => rw [if_neg kept]

theorem HostsUnique.timer (unique : HostsUnique arp.table) :
    HostsUnique (uipArpTimer arp).table :=
  unique.map fun entry used => by
    have kept := used_expire used
    rw [kept] at used ⊢
    exact ⟨used, rfl⟩

end Table

/-! ### What is heard -/

section Heard

variable (hostaddr : UipIpaddr) (ethaddr : UipEthAddr)

/-- What a step tells of a host. -/
def ArpEvent.announces : ArpEvent → Option (UipIpaddr × UipEthAddr)
  | .timer => none
  | .arpin uipLen hdr => hdr.announces hostaddr uipLen

/-- What was heard of each host last. -/
def hear (heard : UipIpaddr → Option UipEthAddr) (event : ArpEvent) :
    UipIpaddr → Option UipEthAddr :=
  match event.announces hostaddr with
  | some (ipaddr, ethaddr) => Function.update heard ipaddr (some ethaddr)
  | none => heard

/-- What was heard of each host last, in a run. -/
def lastHeard (events : List ArpEvent) : UipIpaddr → Option UipEthAddr :=
  run (hear hostaddr) (fun _ => none) events

variable {hostaddr}

/-- A packet that tells of a host is noted. -/
theorem arpStep_announces {event : ArpEvent} {arp : Arp} {announced : UipIpaddr × UipEthAddr}
    (announces : event.announces hostaddr = some announced) :
    arpStep hostaddr ethaddr arp event = uipArpUpdate announced.1 announced.2 arp := by
  cases event with
  | timer => cases announces
  | arpin uipLen hdr =>
      obtain ⟨⟨long, opcode, mine⟩, same⟩ := Option.ite_none_right_eq_some.mp announces
      obtain rfl := Option.some.inj same
      rw [arpStep, uipArpArpin, if_neg (UInt16.not_lt.mpr long), if_pos mine, if_pos mine]
      split_ifs with request reply
      · rfl
      · rfl
      · exact absurd opcode (not_or.mpr ⟨request, reply⟩)

/-- Any other packet changes nothing. -/
theorem arpStep_quiet {uipLen : UInt16} {hdr : ArpHdr} {arp : Arp}
    (quiet : hdr.announces hostaddr uipLen = none) :
    arpStep hostaddr ethaddr arp (.arpin uipLen hdr) = arp := by
  have other : ¬ (42 ≤ uipLen ∧ (hdr.opcode = htons 1 ∨ hdr.opcode = htons 2) ∧
      hdr.dipaddr = hostaddr) := fun announces => by
    rw [ArpHdr.announces, if_pos announces] at quiet
    cases quiet
  rw [arpStep, uipArpArpin]
  split_ifs with short request mine reply mine
  · rfl
  · exact absurd ⟨UInt16.not_lt.mp short, Or.inl request, mine⟩ other
  · rfl
  · exact absurd ⟨UInt16.not_lt.mp short, Or.inr reply, mine⟩ other
  · rfl
  · rfl

/-- The table keeps its hosts apart, and has what was heard of them last. -/
structure UpToDate (arp : Arp) (heard : UipIpaddr → Option UipEthAddr) : Prop where
  unique : HostsUnique arp.table
  latest : ∀ entry ∈ arp.table, entry.Used → heard entry.ipaddr = some entry.ethaddr

theorem UpToDate.start (size : Nat) : UpToDate (arpStart size) fun _ => none := by
  have unused : ∀ entry ∈ (arpStart size).table, ¬ entry.Used := by
    intro entry member used
    rw [List.eq_of_mem_replicate member] at used
    exact used.1 rfl
  exact ⟨fun i j first second there _ used => absurd used (unused first (List.mem_of_getElem? there)),
    fun entry member used => absurd used (unused entry member)⟩

/-- **A step keeps the table up to date.** -/
theorem UpToDate.step {arp : Arp} {heard : UipIpaddr → Option UipEthAddr}
    (upToDate : UpToDate arp heard) (event : ArpEvent) :
    UpToDate (arpStep hostaddr ethaddr arp event) (hear hostaddr heard event) := by
  cases announces : event.announces hostaddr with
  | some announced =>
      obtain ⟨ipaddr, announced⟩ := announced
      rw [arpStep_announces ethaddr announces, hear, announces]
      refine ⟨upToDate.unique.update _ _, fun entry member used => ?_⟩
      rcases mem_update upToDate.unique member used with rfl | ⟨before, other⟩
      · exact Function.update_self _ _ _
      · exact (Function.update_of_ne other _ _).trans (upToDate.latest entry before used)
  | none =>
      rw [hear, announces]
      cases event with
      | timer =>
          refine ⟨upToDate.unique.timer, fun entry member used => ?_⟩
          obtain ⟨before, isIn, rfl⟩ := List.mem_map.mp member
          have kept := used_expire used
          rw [kept] at used ⊢
          exact upToDate.latest before isIn used
      | arpin uipLen hdr => rwa [arpStep_quiet ethaddr announces]

/-- So does a run. -/
theorem UpToDate.run (size : Nat) (events : List ArpEvent) :
    UpToDate (Lib.run (arpStep hostaddr ethaddr) (arpStart size) events)
      (lastHeard hostaddr events) := by
  have upToDate := @run_invariant (Arp × (UipIpaddr → Option UipEthAddr)) ArpEvent
    (fun states event => (arpStep hostaddr ethaddr states.1 event, hear hostaddr states.2 event))
    (fun _ _ => True) (fun states => UpToDate states.1 states.2)
    (fun states event holds _ => holds.step ethaddr event) events (arpStart size, fun _ => none)
    (UpToDate.start size) (along_trivial _ _)
  rwa [run_prod] at upToDate

variable {netmask draddr destipaddr : UipIpaddr}

/-- A reply to this host. -/
def replyFrom (ipaddr : UipIpaddr) (last : UInt8) : ArpEvent :=
  .arpin 42 {
    dest := Vector.replicate 6 1, src := Vector.replicate 6 last, type := htons 0x0806
    opcode := htons 2, shwaddr := Vector.replicate 6 last, sipaddr := ipaddr
    dhwaddr := Vector.replicate 6 1, dipaddr := (0x000a, 0x0100) }

end Heard

/-! ### How long it is found -/

section Age

variable {arp : Arp} {ipaddr : UipIpaddr}

theorem searchOldest_lt {arptime : UInt8} {size : Nat} (table : List ArpEntry) {i c : Nat}
    {tmpage : UInt8} (within : i + table.length = size) (oldest : c < size) :
    searchOldest arptime i c tmpage table < size := by
  induction table generalizing i c tmpage with
  | nil => exact oldest
  | cons entry table ih =>
      rw [List.length_cons] at within
      rw [searchOldest]
      split
      · exact ih (by omega) (by omega)
      · exact ih (by omega) oldest

/-- A new entry has a place. -/
theorem newPlace_lt (some_ : 0 < arp.table.length) : arp.newPlace < arp.table.length := by
  rw [Arp.newPlace]
  cases found : arp.table.findIdx? fun entry => entry.ipaddr = (0, 0) with
  | some i => exact (List.findIdx?_eq_some_iff_getElem.mp found).1
  | none => exact searchOldest_lt arp.table (Nat.zero_add _) some_

/-- What comes is in the table. -/
theorem update_mem (some_ : 0 < arp.table.length) (ipaddr : UipIpaddr) (ethaddr : UipEthAddr) :
    ⟨ipaddr, ethaddr, arp.arptime⟩ ∈ (uipArpUpdate ipaddr ethaddr arp).table := by
  obtain ⟨i, eq, place⟩ := uipArpUpdate_eq ipaddr ethaddr arp
  rw [eq]
  refine List.mem_set ?_ _
  rcases place with found | ⟨-, rfl⟩
  · obtain ⟨entry, there, -⟩ := Slots.lookup_some found
    exact (List.getElem?_eq_some_iff.mp there).1
  · exact newPlace_lt some_

/-- What is in the table stays there when another host is noted for which there is a place. -/
theorem update_keeps {entry : ArpEntry} (member : entry ∈ arp.table) (used : entry.Used)
    {ethaddr : UipEthAddr} (other : ipaddr ≠ entry.ipaddr)
    (place : (∃ known ∈ arp.table, known.Used ∧ known.ipaddr = ipaddr) ∨
      ∃ free ∈ arp.table, free.ipaddr = (0, 0)) :
    entry ∈ (uipArpUpdate ipaddr ethaddr arp).table := by
  obtain ⟨i, eq, found | ⟨notFound, rfl⟩⟩ := uipArpUpdate_eq ipaddr ethaddr arp
  · rw [eq]
    obtain ⟨old, there, -, key⟩ := Slots.lookup_some found
    refine Slots.mem_set_of_ne member there ?_
    rintro rfl
    exact other key.symm
  · rw [eq]
    have free : ∃ free ∈ arp.table, free.ipaddr = (0, 0) := place.resolve_left
      fun ⟨known, isIn, knownUsed, same⟩ =>
        Slots.lookup_none.mp notFound known isIn knownUsed same
    cases found : arp.table.findIdx? fun entry => entry.ipaddr = (0, 0) with
    | none =>
        obtain ⟨free, isIn, unused⟩ := free
        have none_ := List.findIdx?_eq_none_iff.mp found free isIn
        rw [unused] at none_
        cases none_
    | some i =>
        obtain ⟨within, unused, -⟩ := List.findIdx?_eq_some_iff_getElem.mp found
        rw [Arp.newPlace, found]
        refine Slots.mem_set_of_ne member (List.getElem?_eq_getElem within) ?_
        rintro rfl
        rw [ArpEntry.Used, of_decide_eq_true unused] at used
        exact used.1 rfl

/-- An entry that is found is the only one for its host. -/
theorem find_of_mem (unique : HostsUnique arp.table) {entry : ArpEntry} (member : entry ∈ arp.table)
    (used : entry.Used) : arp.find entry.ipaddr = some entry.ethaddr := by
  rw [Arp.find]
  cases found : arp.table.find? fun other => entry.ipaddr = other.ipaddr with
  | none =>
      have none_ := List.find?_eq_none.mp found entry member
      rw [decide_eq_true_eq] at none_
      exact absurd rfl none_
  | some other =>
      have same := List.find?_some found
      rw [decide_eq_true_eq] at same
      have otherUsed : other.Used := by rwa [ArpEntry.Used, ← same]
      rw [unique.eq_of_mem member (List.mem_of_find?_eq_some found) used otherUsed same]
      rfl

theorem find_eq_none : arp.find ipaddr = none ↔ ∀ entry ∈ arp.table, entry.ipaddr ≠ ipaddr := by
  rw [Arp.find, Option.map_eq_none_iff, List.find?_eq_none]
  simp only [decide_eq_true_eq, ne_comm]

end Age

section Run

variable (hostaddr : UipIpaddr) (ethaddr : UipEthAddr)

/-- One more tick, or none. -/
def countTick (ticks : Nat) : ArpEvent → Nat
  | .timer => ticks + 1
  | .arpin .. => ticks

/-- A step that is not about a host, and that has a place for the one it is about. -/
def Spares (ipaddr : UipIpaddr) (arp : Arp) (event : ArpEvent) : Prop :=
  ∀ announced ∈ event.announces hostaddr, announced.1 ≠ ipaddr ∧
    ((∃ known ∈ arp.table, known.Used ∧ known.ipaddr = announced.1) ∨
      ∃ free ∈ arp.table, free.ipaddr = (0, 0))

/-- How an entry is kept, some ticks after it came. -/
structure Remembered (entry : ArpEntry) (arp : Arp) (ticks : Nat) : Prop where
  arptime : arp.arptime.toNat = (entry.time.toNat + ticks) % 2 ^ 8
  unique : HostsUnique arp.table
  kept : ticks < 120 ∨ 136 ≤ entry.time.toNat → entry ∈ arp.table
  gone : ¬ (ticks < 120 ∨ 136 ≤ entry.time.toNat) →
    ∀ other ∈ arp.table, other.ipaddr ≠ entry.ipaddr

variable {hostaddr}

/-- A used entry stays exactly as long as it is young. -/
theorem expire_eq_self_iff {entry : ArpEntry} (used : entry.Used) (arptime : UInt8) :
    entry.expire arptime = entry ↔ entry.age arptime < 120 := by
  have set : entry.ipaddr.1 ||| entry.ipaddr.2 ≠ 0 := fun zero =>
    used.1 (UInt16.or_eq_zero_iff.mp zero).1
  rw [ArpEntry.expire, uipArpMaxage]
  constructor
  · intro same
    by_contra old
    rw [if_pos ⟨set, not_lt.mp old⟩] at same
    exact used.1 (congrArg (fun entry => entry.ipaddr.1) same).symm
  · intro young
    exact if_neg fun old => absurd young (not_lt.mpr old.2)

/-- A tick. -/
theorem Remembered.timer {entry : ArpEntry} {arp : Arp} {ticks : Nat} (used : entry.Used)
    (remembered : Remembered entry arp ticks) : Remembered entry (uipArpTimer arp) (ticks + 1) := by
  have one : (1 : UInt8).toNat = 1 := rfl
  have lt := entry.time.toNat_lt
  have arptime : (arp.arptime + 1).toNat = (entry.time.toNat + (ticks + 1)) % 2 ^ 8 := by
    rw [UInt8.toNat_add, remembered.arptime, one]
    omega
  refine ⟨arptime, remembered.unique.timer, fun young => ?_, fun old other member same => ?_⟩
  · refine List.mem_map.mpr ⟨entry, remembered.kept (by omega), (expire_eq_self_iff used _).mpr ?_⟩
    rw [ArpEntry.age, arptime]
    omega
  · obtain ⟨before, isIn, rfl⟩ := List.mem_map.mp member
    have otherUsed : (before.expire (arp.arptime + 1)).Used := by rwa [ArpEntry.Used, same]
    have stays := used_expire otherUsed
    rw [stays] at same otherUsed
    by_cases young : ticks < 120 ∨ 136 ≤ entry.time.toNat
    · obtain rfl := remembered.unique.eq_of_mem isIn (remembered.kept young) otherUsed used same
      have age := (expire_eq_self_iff used _).mp stays
      rw [ArpEntry.age, arptime] at age
      omega
    · exact remembered.gone young before isIn same

/-- What other hosts send. -/
theorem Remembered.update {entry : ArpEntry} {arp : Arp} {ticks : Nat} (used : entry.Used)
    (remembered : Remembered entry arp ticks) {ipaddr : UipIpaddr} (other : ipaddr ≠ entry.ipaddr)
    (place : (∃ known ∈ arp.table, known.Used ∧ known.ipaddr = ipaddr) ∨
      ∃ free ∈ arp.table, free.ipaddr = (0, 0)) (ethaddr : UipEthAddr) :
    Remembered entry (uipArpUpdate ipaddr ethaddr arp) ticks := by
  refine ⟨uipArpUpdate_arptime ipaddr ethaddr arp ▸ remembered.arptime,
    remembered.unique.update ipaddr ethaddr,
    fun young => update_keeps (remembered.kept young) used other place,
    fun old found member same => ?_⟩
  have foundUsed : found.Used := by rwa [ArpEntry.Used, same]
  rcases mem_update remembered.unique member foundUsed with rfl | ⟨before, -⟩
  · exact other same
  · exact remembered.gone old found before same

/-- A step. -/
theorem Remembered.step {entry : ArpEntry} {arp : Arp} {ticks : Nat} (used : entry.Used)
    (remembered : Remembered entry arp ticks) {event : ArpEvent}
    (spares : Spares hostaddr entry.ipaddr arp event) :
    Remembered entry (arpStep hostaddr ethaddr arp event) (countTick ticks event) := by
  cases event with
  | timer => exact remembered.timer used
  | arpin uipLen hdr =>
      cases announces : hdr.announces hostaddr uipLen with
      | none => rwa [arpStep_quiet ethaddr announces]
      | some announced =>
          obtain ⟨other, place⟩ := spares announced announces
          have announces : (ArpEvent.arpin uipLen hdr).announces hostaddr = some announced :=
            announces
          rw [arpStep_announces ethaddr announces]
          exact remembered.update used other place announced.2

/-- The number of places stays, and the time moves on with every tick. -/
theorem arpStep_frame (arp : Arp) (event : ArpEvent) :
    (arpStep hostaddr ethaddr arp event).table.length = arp.table.length ∧
      ∀ ticks, arp.arptime = UInt8.ofNat ticks →
        (arpStep hostaddr ethaddr arp event).arptime = UInt8.ofNat (countTick ticks event) := by
  cases event with
  | timer =>
      refine ⟨List.length_map _, fun ticks same => ?_⟩
      rw [countTick, UInt8.ofNat_add, ← same]
      rfl
  | arpin uipLen hdr =>
      cases announces : hdr.announces hostaddr uipLen with
      | none =>
          rw [arpStep_quiet ethaddr announces]
          exact ⟨rfl, fun _ same => same⟩
      | some announced =>
          have announces : (ArpEvent.arpin uipLen hdr).announces hostaddr = some announced :=
            announces
          rw [arpStep_announces ethaddr announces]
          obtain ⟨i, eq, -⟩ := uipArpUpdate_eq announced.1 announced.2 arp
          rw [eq]
          exact ⟨List.length_set, fun _ same => same⟩

/-- The number of places and the time in any run. -/
theorem arp_run (size : Nat) (events : List ArpEvent) :
    (run (arpStep hostaddr ethaddr) (arpStart size) events).table.length = size ∧
      (run (arpStep hostaddr ethaddr) (arpStart size) events).arptime =
        UInt8.ofNat (run countTick 0 events) := by
  have places := @run_invariant (Arp × Nat) ArpEvent
    (fun states event => (arpStep hostaddr ethaddr states.1 event, countTick states.2 event))
    (fun _ _ => True)
    (fun states => states.1.table.length = size ∧ states.1.arptime = UInt8.ofNat states.2)
    (fun states event holds _ =>
      have frame := arpStep_frame ethaddr states.1 event
      ⟨frame.1.trans holds.1, frame.2 states.2 holds.2⟩)
    events (arpStart size, 0) ⟨List.length_replicate, rfl⟩ (along_trivial _ _)
  rwa [run_prod] at places

/-- An entry that just came is remembered. -/
theorem Remembered.new {arp : Arp} (unique : HostsUnique arp.table) (some_ : 0 < arp.table.length)
    (ipaddr : UipIpaddr) (found : UipEthAddr) :
    Remembered ⟨ipaddr, found, arp.arptime⟩ (uipArpUpdate ipaddr found arp) 0 := by
  refine ⟨?_, unique.update ipaddr found, fun _ => update_mem some_ ipaddr found,
    fun old => absurd (Or.inl (by decide)) old⟩
  rw [uipArpUpdate_arptime, Nat.add_zero]
  exact (Nat.mod_eq_of_lt arp.arptime.toNat_lt).symm

/-- What a remembered entry makes the table find. -/
theorem Remembered.find {entry : ArpEntry} {arp : Arp} {ticks : Nat} (used : entry.Used)
    (remembered : Remembered entry arp ticks) :
    arp.find entry.ipaddr =
      if ticks < 120 ∨ 136 ≤ entry.time.toNat then some entry.ethaddr else none := by
  split
  · next young => exact find_of_mem remembered.unique (remembered.kept young) used
  · next old => exact find_eq_none.mpr (remembered.gone old)

variable {netmask draddr destipaddr : UipIpaddr}

end Run

end EquinoxClock.Wifi
