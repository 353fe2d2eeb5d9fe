/-
The eight bit planes on their way to the drivers.

For each bit there is a chain of twelve DMA descriptors in `LinkerList`, built once by `LED_init`,
whose sources are the words of `LED_PRECALC` for that bit; `TIMER0_IRQHandler` hands the head of one
chain to the DMA channel. `planes_sent` says what a chain sends: each byte of `LED_RAW` contributes
its bit of the plane at exactly one place, so the bytes can be read back from the eight planes.
-/

import EquinoxClock.Led.Words
import Mathlib.Data.Nat.Bitwise

namespace EquinoxClock.Led

open EquinoxClock.Lib

/-- An address the DMA meets: an entry of `LinkerList`, a word of `LED_PRECALC`, the data register
of the serial port, or zero. -/
inductive Pointer where
  | null
  | linkerList (no bit buf : Nat)
  | ledPrecalc (reg bit buf : Nat)
  | ssp0Dr
  deriving DecidableEq, Repr

/-- `GPDMA_LLI_Type`. -/
structure GpdmaLli where
  srcAddr : Pointer
  dstAddr : Pointer
  nextLli : Pointer
  control : Nat
  deriving DecidableEq, Repr

/-- `LinkerListControl`: one transfer of a halfword, bursts of one, the source incremented. -/
def linkerListControl : Nat :=
  (1 &&& 0xFFF) ||| ((0 &&& 0x07) <<< 12) ||| ((0 &&& 0x07) <<< 15) ||| ((1 &&& 0x07) <<< 18) |||
    ((1 &&& 0x07) <<< 21) ||| (1 <<< 26)

/-- The variables of the transmission. `linkerList` is indexed by entry, bit and buffer. -/
structure Dma where
  linkerList : Nat × Nat × Nat → GpdmaLli
  dmaLli : Pointer
  bufferNo : Nat
  sendSeq : Nat
  sendBit : Nat
  delayTime : Nat
  seqBit : Nat → Nat
  seqTime : Nat → Nat

/-- `no_SEQ_BITS`. -/
def noSeqBits : Nat := 16

/-- `START_TIME`. -/
def startTime : Nat := 1024

/-- `BITORDER`. -/
def bitOrder : List Nat := [0, 1, 2, 3, 4, 5, 6, 7, 0, 1, 2, 3, 4, 5, 6, 7]

/-- `BITTIME`. -/
def bitTime : List Nat :=
  [startTime / 128, startTime / 64, startTime / 32, startTime / 16, startTime / 8, startTime / 4,
    startTime / 2, startTime]

/-- The first loop of `LED_init`. -/
def fillSequence (dma : Dma) : Dma :=
  Nat.fold noSeqBits (fun tmp _ dma =>
    { dma with
      seqBit := Function.update dma.seqBit tmp (bitOrder.getD tmp 0)
      seqTime := Function.update dma.seqTime tmp (bitTime.getD (bitOrder.getD tmp 0) 0) }) dma

/-- The entry that sends the word of `reg` and leads to `next`. -/
def entry (reg bit buf : Nat) (next : Pointer) : GpdmaLli :=
  ⟨.ledPrecalc reg bit buf, .ssp0Dr, next, linkerListControl⟩

/-- The four stores into an entry of `LinkerList`. -/
def storeLink (reg linkerListNo bit buf : Nat) (next : Pointer)
    (list : Nat × Nat × Nat → GpdmaLli) : Nat × Nat × Nat → GpdmaLli :=
  Function.update list (linkerListNo, bit, buf) (entry reg bit buf next)

/-- `for (...; stop < reg; reg--, linkerListNo++)`: each entry is linked to the next. The result is
the last `reg` and `linkerListNo`, and the list. -/
def linkDown (bit buf stop : Nat) : (reg linkerListNo : Nat) → (Nat × Nat × Nat → GpdmaLli) →
    Nat × Nat × (Nat × Nat × Nat → GpdmaLli)
  | 0, linkerListNo, list => (0, linkerListNo, list)
  | reg + 1, linkerListNo, list =>
      if stop < reg + 1 then
        linkDown bit buf stop reg (linkerListNo + 1)
          (storeLink (reg + 1) linkerListNo bit buf (.linkerList (linkerListNo + 1) bit buf) list)
      else (reg + 1, linkerListNo, list)

/-- The body of the loop over the bits in `LED_init`: the registers 5 to 0, then 11 to 6. -/
def linkPlane (bit buf : Nat) (list : Nat × Nat × Nat → GpdmaLli) : Nat × Nat × Nat → GpdmaLli :=
  let (reg, linkerListNo, list) := linkDown bit buf 0 5 0 list
  let list := storeLink reg linkerListNo bit buf (.linkerList (linkerListNo + 1) bit buf) list
  let (reg, linkerListNo, list) := linkDown bit buf 6 11 (linkerListNo + 1) list
  storeLink reg linkerListNo bit buf .null list

/-- What `LED_init` does to the variables of the transmission. -/
def ledInitDma (dma : Dma) : Dma :=
  let dma := fillSequence dma
  { dma with
    linkerList := Nat.fold buffers (fun buf _ list =>
      Nat.fold bits (fun bit _ list => linkPlane bit buf list) list) dma.linkerList
    dmaLli := .linkerList 0 0 0 }

/-- `TIMER0_IRQHandler`. -/
def timer0IrqHandler (dma : Dma) : Dma :=
  { dma with
    delayTime := dma.seqTime dma.sendSeq
    sendBit := dma.seqBit dma.sendSeq % 2 ^ 8
    sendSeq :=
      let next := (dma.sendSeq + 1) % 2 ^ 8
      if next ≥ noSeqBits then 0 else next
    dmaLli := .linkerList 0 (dma.seqBit dma.sendSeq % 2 ^ 8) dma.bufferNo }

/-! ### Building a chain -/

/-- What a downward loop leaves behind, entered at `reg` and `linkerListNo`. -/
structure LinkedDown (bit buf stop reg linkerListNo : Nat) (list : Nat × Nat × Nat → GpdmaLli)
    (result : Nat × Nat × (Nat × Nat × Nat → GpdmaLli)) : Prop where
  last : result.1 = stop
  next : result.2.1 = linkerListNo + (reg - stop)
  linked : ∀ j < reg - stop, result.2.2 (linkerListNo + j, bit, buf) =
    entry (reg - j) bit buf (.linkerList (linkerListNo + j + 1) bit buf)
  below : ∀ no < linkerListNo, result.2.2 (no, bit, buf) = list (no, bit, buf)
  others : ∀ no plane, plane ≠ (bit, buf) → result.2.2 (no, plane) = list (no, plane)

theorem storeLink_same (reg no bit buf : Nat) (next : Pointer)
    (list : Nat × Nat × Nat → GpdmaLli) :
    storeLink reg no bit buf next list (no, bit, buf) = entry reg bit buf next :=
  Function.update_self ..

theorem storeLink_other {reg no bit buf no' : Nat} {plane : Nat × Nat} {next : Pointer}
    {list : Nat × Nat × Nat → GpdmaLli} (apart : no' ≠ no ∨ plane ≠ (bit, buf)) :
    storeLink reg no bit buf next list (no', plane) = list (no', plane) := by
  refine Function.update_of_ne (fun same => ?_) ..
  obtain ⟨rfl, rfl⟩ := Prod.mk.injEq .. ▸ same
  simp at apart

/-- A downward loop, by induction on its counter. -/
theorem linkDown_spec (bit buf stop : Nat) : ∀ reg, stop ≤ reg → ∀ no list,
    LinkedDown bit buf stop reg no list (linkDown bit buf stop reg no list) := by
  intro reg
  induction reg with
  | zero =>
      intro ordered no list
      obtain rfl := Nat.le_zero.mp ordered
      exact ⟨rfl, rfl, fun _ below => absurd below (Nat.not_lt_zero _), fun _ _ => rfl,
        fun _ _ _ => rfl⟩
  | succ reg ih =>
      intro ordered no list
      by_cases more : stop < reg + 1
      · rw [linkDown, if_pos more]
        have rest := ih (by omega) (no + 1)
          (storeLink (reg + 1) no bit buf (.linkerList (no + 1) bit buf) list)
        refine ⟨rest.last, ?_, fun j within => ?_, fun other lower => ?_, fun other plane apart => ?_⟩
        · rw [rest.next]; omega
        · cases j with
          | zero =>
              exact (rest.below no (Nat.lt_succ_self no)).trans (storeLink_same ..)
          | succ j =>
              have later := rest.linked j (by omega)
              rwa [show no + 1 + j = no + (j + 1) by omega, show reg - j = reg + 1 - (j + 1) by omega]
                at later
        · exact (rest.below other (by omega)).trans (storeLink_other (.inl (by omega)))
        · exact (rest.others other plane apart).trans (storeLink_other (.inr apart))
      · rw [linkDown, if_neg more]
        obtain rfl : stop = reg + 1 := by omega
        exact ⟨rfl, by rw [Nat.sub_self]; rfl, fun _ below => by omega, fun _ _ => rfl,
          fun _ _ _ => rfl⟩

/-- The register an entry of a chain sends. -/
def sentRegister (no : Nat) : Nat := if no ≤ 5 then 5 - no else 17 - no

/-- The link of an entry of a chain. -/
def nextPointer (no bit buf : Nat) : Pointer :=
  if no < 11 then .linkerList (no + 1) bit buf else .null

/-- A chain built by `LED_init`. -/
def ChainBuilt (list : Nat × Nat × Nat → GpdmaLli) (bit buf : Nat) : Prop :=
  ∀ no < regs, list (no, bit, buf) = entry (sentRegister no) bit buf (nextPointer no bit buf)

theorem linkPlane_built (bit buf : Nat) (list : Nat × Nat × Nat → GpdmaLli) :
    ChainBuilt (linkPlane bit buf list) bit buf := by
  rcases first : linkDown bit buf 0 5 0 list with ⟨reg1, no1, list1⟩
  have upper := linkDown_spec bit buf 0 5 (by omega) 0 list
  rw [first] at upper
  obtain rfl : reg1 = 0 := upper.last
  obtain rfl : no1 = 5 := upper.next
  rcases second : linkDown bit buf 6 11 6
    (storeLink 0 5 bit buf (.linkerList 6 bit buf) list1) with ⟨reg2, no2, list2⟩
  have lower := linkDown_spec bit buf 6 11 (by omega) 6
    (storeLink 0 5 bit buf (.linkerList 6 bit buf) list1)
  rw [second] at lower
  obtain rfl : reg2 = 6 := lower.last
  obtain rfl : no2 = 11 := lower.next
  have built : linkPlane bit buf list = storeLink 6 11 bit buf .null list2 := by
    simp only [linkPlane, first, second]
  rw [built]
  intro no within
  have small : no < 12 := within
  obtain rfl | earlier : no = 11 ∨ no < 11 := by omega
  · exact storeLink_same ..
  rw [storeLink_other (.inl (by omega)), nextPointer, if_pos earlier, sentRegister]
  by_cases upperHalf : no ≤ 5
  · rw [if_pos upperHalf]
    refine (lower.below no (by omega)).trans ?_
    obtain rfl | before : no = 5 ∨ no < 5 := by omega
    · exact storeLink_same ..
    · rw [storeLink_other (.inl (by omega))]
      have linked := upper.linked no before
      rwa [Nat.zero_add] at linked
  · rw [if_neg upperHalf]
    have linked := lower.linked (no - 6) (by omega)
    rwa [show 6 + (no - 6) = no by omega, show 11 - (no - 6) = 17 - no by omega] at linked

theorem linkPlane_others (bit buf : Nat) (list : Nat × Nat × Nat → GpdmaLli) {plane : Nat × Nat}
    (apart : plane ≠ (bit, buf)) (no : Nat) :
    linkPlane bit buf list (no, plane) = list (no, plane) := by
  rw [linkPlane]
  simp only
  rw [storeLink_other (.inr apart),
    (linkDown_spec bit buf 6 11 (by omega) _ _).others no plane apart,
    storeLink_other (.inr apart), (linkDown_spec bit buf 0 5 (by omega) 0 list).others no plane apart]

/-- Filling the tables of the sequence leaves the number of the buffer. -/
theorem fillSequence_bufferNo (dma : Dma) : (fillSequence dma).bufferNo = dma.bufferNo :=
  fold_invariant (fun _ (state : Dma) => state.bufferNo = dma.bufferNo) noSeqBits _ dma rfl
    fun _ _ _ same => same

/-- The tables of the sequence. -/
theorem fillSequence_tables (dma : Dma) {seq : Nat} (within : seq < noSeqBits) :
    (fillSequence dma).seqBit seq = bitOrder.getD seq 0 ∧
      (fillSequence dma).seqTime seq = bitTime.getD (bitOrder.getD seq 0) 0 := by
  refine fold_invariant (fun index (dma : Dma) => ∀ seq < index,
    dma.seqBit seq = bitOrder.getD seq 0 ∧
      dma.seqTime seq = bitTime.getD (bitOrder.getD seq 0) 0) noSeqBits _ dma
    (fun _ below => absurd below (Nat.not_lt_zero _)) ?_ seq within
  intro index _ state soFar other below
  obtain below | rfl : other < index ∨ other = index := by omega
  · simpa only [Function.update_of_ne (Nat.ne_of_lt below)] using soFar other below
  · exact ⟨Function.update_self .., Function.update_self ..⟩

/-- **The chains.** `LED_init` builds the chain of every plane. -/
theorem ledInitDma_built (dma : Dma) {bit : Nat} (plane : bit < bits) :
    ChainBuilt (ledInitDma dma).linkerList bit 0 := by
  refine fold_invariant (fun index (list : Nat × Nat × Nat → GpdmaLli) =>
    ∀ bit < index, ChainBuilt list bit 0) bits (fun bit _ list => linkPlane bit 0 list)
    (fillSequence dma).linkerList (fun _ below => absurd below (Nat.not_lt_zero _)) ?_ bit plane
  intro index _ list soFar other below
  obtain below | rfl : other < index ∨ other = index := by omega
  · intro no within
    have apart : (other, 0) ≠ (index, 0) := fun same => by
      have := congrArg Prod.fst same; simp only at this; omega
    rw [linkPlane_others index 0 list apart no]
    exact soFar other below no within
  · exact linkPlane_built other 0 list

/-! ### What a chain sends -/

/-- The link the DMA follows from a pointer. It does not get past anything but a descriptor. -/
def followLink (list : Nat × Nat × Nat → GpdmaLli) : Pointer → Option Pointer
  | .linkerList no bit buf =>
      match (list (no, bit, buf)).nextLli with
      | .null => none
      | next => some next
  | other => some other

/-- The source of the entry a pointer leads to. -/
def sourceOf (list : Nat × Nat × Nat → GpdmaLli) : Pointer → Pointer
  | .linkerList no bit buf => (list (no, bit, buf)).srcAddr
  | other => other

/-- The word a source holds. -/
def wordAt (precalc : Nat × Nat × Nat → Nat) : Pointer → Nat
  | .ledPrecalc reg bit buf => precalc (reg, bit, buf)
  | _ => 0

/-- Followed from `head` to its end, the chain sends from these sources, in this order. -/
def Sends (dma : Dma) (head : Pointer) (sources : List Pointer) : Prop :=
  ∃ visited, Follows (followLink dma.linkerList) (some head) visited ∧
    visited.map (sourceOf dma.linkerList) = sources

/-- The bit of `led` is at a place of the plane: a number of the word and a position in it. -/
def SentAt (dma : Dma) (bit led : Nat) (place : Nat × Nat) : Prop :=
  ∃ sources, Sends dma (.linkerList 0 bit 0) sources ∧
    ∃ reg, sources[place.1]? = some (.ledPrecalc reg bit 0) ∧ place.2 < ledsPReg ∧
      ledsPReg * reg + place.2 = led

/-- A brightness value, read back from the words of the eight planes. -/
def readBack (planes : Nat → List Nat) (led : Nat) : UInt8 :=
  UInt8.ofNat (Nat.ofBits fun bit : Fin 8 =>
    ((planes bit).getD (sentRegister (led / ledsPReg)) 0).testBit (led % ledsPReg))

/-- The order in which a chain sends the registers. -/
def registerOrder : List Nat := [5, 4, 3, 2, 1, 0, 11, 10, 9, 8, 7, 6]

/-- The order is its own inverse. -/
theorem registerOrder_getElem? {no reg : Nat} :
    registerOrder[no]? = some reg ↔ reg < regs ∧ no = sentRegister reg := by
  constructor
  · intro sent
    have within : no < 12 := (List.getElem?_eq_some_iff.mp sent).1
    revert sent reg
    revert no
    decide
  · rintro ⟨within, rfl⟩
    revert reg
    decide

theorem chain_follows {list : Nat × Nat × Nat → GpdmaLli} {bit : Nat}
    (built : ChainBuilt list bit 0) :
    Follows (followLink list) (some (.linkerList 0 bit 0))
      ((List.range regs).map fun no => .linkerList no bit 0) := by
  refine @follows_of_links _ (followLink list) (fun no => .linkerList no bit 0) 11 ?_ ?_
  · intro no before
    simp only [followLink, built no (Nat.lt_succ_of_lt before), entry, nextPointer, if_pos before]
  · simp only [followLink, built 11 (by decide), entry, nextPointer, if_neg (Nat.lt_irrefl 11)]

/-- The sources of a chain. -/
def chainSources (bit : Nat) : List Pointer := registerOrder.map fun reg => .ledPrecalc reg bit 0

/-- The words of a chain come from the registers in order, and from nothing else. -/
theorem sends_iff (dma : Dma) {bit : Nat} (plane : bit < bits) (sources : List Pointer) :
    Sends (ledInitDma dma) (.linkerList 0 bit 0) sources ↔ sources = chainSources bit := by
  have built := ledInitDma_built dma plane
  have follows := chain_follows built
  have named : ((List.range regs).map fun no => Pointer.linkerList no bit 0).map
      (sourceOf (ledInitDma dma).linkerList) = chainSources bit := by
    have order : registerOrder = (List.range regs).map sentRegister := by decide
    rw [chainSources, order, List.map_map, List.map_map]
    refine List.map_congr_left fun no within => ?_
    simp only [Function.comp_apply, sourceOf, built no (List.mem_range.mp within), entry]
  constructor
  · rintro ⟨visited, visits, rfl⟩
    rw [visits.unique follows, named]
  · rintro rfl
    exact ⟨_, follows, named⟩

/-! ### The planes as a whole -/

/-- Every byte belongs to a register. -/
theorem register_of_byte {led : Nat} (within : led < leds) :
    led / ledsPReg < regs ∧ led % ledsPReg < ledsPReg := by
  have small : led < 180 := within
  exact ⟨show led / 15 < 12 by omega, show led % 15 < 15 by omega⟩

theorem byte_of_register {reg position : Nat} (register : reg < regs) (within : position < ledsPReg) :
    ledsPReg * reg + position < leds ∧ (ledsPReg * reg + position) / ledsPReg = reg ∧
      (ledsPReg * reg + position) % ledsPReg = position := by
  have small : reg < 12 := register
  have low : position < 15 := within
  exact ⟨show 15 * reg + position < 180 by omega, show (15 * reg + position) / 15 = reg by omega,
    show (15 * reg + position) % 15 = position by omega⟩

/-- The place of a byte's bit in a plane. -/
theorem sentAt_iff (dma : Dma) {bit : Nat} (plane : bit < bits) (led : Nat) (place : Nat × Nat) :
    SentAt (ledInitDma dma) bit led place ↔
      led < leds ∧ place = (sentRegister (led / ledsPReg), led % ledsPReg) := by
  constructor
  · rintro ⟨sources, sends, reg, sent, position, rfl⟩
    rw [(sends_iff dma plane sources).mp sends, chainSources, List.getElem?_map,
      Option.map_eq_some_iff] at sent
    obtain ⟨reg', ordered, same⟩ := sent
    obtain rfl : reg' = reg := by injection same
    obtain ⟨within, number⟩ := registerOrder_getElem?.mp ordered
    obtain ⟨small, register, low⟩ := byte_of_register within position
    exact ⟨small, Prod.ext (by rw [number, register]) low.symm⟩
  · rintro ⟨within, rfl⟩
    obtain ⟨register, position⟩ := register_of_byte within
    refine ⟨_, (sends_iff dma plane _).mpr rfl, led / ledsPReg, ?_, position, Nat.div_add_mod ..⟩
    rw [chainSources, List.getElem?_map, registerOrder_getElem?.mpr ⟨register, rfl⟩]
    rfl

/-- What the handler of timer 0 hands over is the head of one of the eight chains. -/
theorem timer0_hands (dma : Dma) {seq : Nat} (within : seq < noSeqBits) (buffer : dma.bufferNo = 0) :
    ∃ bit < bits, (timer0IrqHandler { ledInitDma dma with sendSeq := seq }).dmaLli =
      .linkerList 0 bit 0 := by
  have table : ∀ seq < noSeqBits, bitOrder.getD seq 0 < bits := by decide
  have plane := table seq within
  have filled : (ledInitDma dma).seqBit seq = bitOrder.getD seq 0 :=
    (fillSequence_tables dma within).1
  have kept : (ledInitDma dma).bufferNo = 0 := by rw [← buffer, ← fillSequence_bufferNo dma]; rfl
  refine ⟨_, plane, ?_⟩
  rw [timer0IrqHandler]
  simp only [filled, kept]
  rw [Nat.mod_eq_of_lt (Nat.lt_trans plane (by decide))]

/-- Reading back gives the byte whose bits the planes hold. -/
theorem readBack_planes (dma : Dma) (state : Leds) {planes : Nat → List Nat}
    (sent : ∀ bit < bits, ∃ sources, Sends (ledInitDma dma) (.linkerList 0 bit 0) sources ∧
      planes bit = sources.map (wordAt (calulateLedMibamBits state).ledPrecalc))
    {led : Nat} (within : led < leds) : readBack planes led = state.ledRaw.cells led := by
  obtain ⟨register, position⟩ := register_of_byte within
  have bitOf : ∀ bit : Fin 8,
      ((planes bit).getD (sentRegister (led / ledsPReg)) 0).testBit (led % ledsPReg) =
        (state.ledRaw.cells led).toNat.testBit bit := by
    intro bit
    obtain ⟨sources, sends, words⟩ := sent bit bit.isLt
    have ordered : registerOrder[sentRegister (led / ledsPReg)]? = some (led / ledsPReg) :=
      registerOrder_getElem?.mpr ⟨register, rfl⟩
    rw [words, (sends_iff dma bit.isLt sources).mp sends, chainSources, List.map_map,
      List.getD_eq_getElem?_getD, List.getElem?_map, ordered]
    refine (calulateLedMibamBits_word state bit.isLt register (led % ledsPReg)).trans ?_
    rw [Nat.div_add_mod, decide_eq_true position, Bool.true_and]
  rw [readBack]
  simp only [bitOf, Nat.ofBits_testBit]
  rw [Nat.mod_eq_of_lt (UInt8.toNat_lt _), UInt8.ofNat_toNat]

end EquinoxClock.Led
