/-
The lines of a web request.

`processPacket` writes zeros into the packet while it looks for lines, one at the end of each line
and one behind the URL, and reads on behind them. `Scanned` says what of the packet it still finds:
where a line is looked for everything but some spaces. So what it does can be said of the packet as
it arrived: it reports a request complete exactly if there is an empty line
(`processPacket_complete_iff`), and it stores an URL only for a line that begins with `GET ` and ends
in the same packet (`processPacket_request_line`). `processPacket_requestText` is the round trip: a
request in one packet is complete, and its URL is stored, up to the size of the array.
-/

import EquinoxClock.Wifi.Packet

namespace EquinoxClock.Wifi

open EquinoxClock.Lib

/-- A line of a packet, from its first byte to its line feed. -/
structure IsLine (memory : Int → UInt8) (start stop : Int) : Prop where
  starts : start = 0 ∨ 0 < start ∧ memory (start - 1) = lf
  ordered : start ≤ stop
  inside : ∀ place, start ≤ place → place < stop → memory place ≠ lf
  ends : memory stop = lf

/-- The length of a line, without the bytes that end it. -/
def lineLength (memory : Int → UInt8) (start stop : Int) : Int :=
  if memory (stop - 1) = cr then stop - start - 1 else stop - start

/-- `GET ` stands there. -/
def AsksAt (memory : Int → UInt8) (start : Int) : Prop := ascii "GET " <+: bytesFrom memory start 4

/-- A line that asks for a page. -/
structure GetLine (memory : Int → UInt8) (start stop : Int) : Prop extends
    IsLine memory start stop where
  long : start + 4 ≤ stop
  asks : AsksAt memory start

/-- What is still found of a packet from `start` on, where a line begins. -/
structure Scanned (memory : Int → UInt8) (start : Int) (incoming : Incoming) : Prop where
  ahead : ∀ place, start ≤ place → incoming.memory place = memory place ∨
    memory place = 32 ∧ incoming.memory place = 0
  behind : start = 0 ∧ incoming.memory (-1) = memory (-1) ∨
    0 < start ∧ memory (start - 1) = lf ∧ incoming.memory (start - 1) ≠ cr
  fresh : incoming.request = false → ∀ place, start ≤ place →
    incoming.memory place = memory place

section Scan

variable {memory : Int → UInt8} {start stop data : Int} {incoming : Incoming}

theorem IsLine.zero_le (line : IsLine memory start stop) : 0 ≤ start := by
  rcases line.starts with zero | ⟨positive, -⟩ <;> omega

/-- A byte ends one line only. -/
theorem IsLine.unique {other : Int} (line : IsLine memory start stop)
    (line' : IsLine memory other stop) : start = other := by
  have zero_le := line.zero_le
  have zero_le' := line'.zero_le
  rcases Int.lt_trichotomy start other with less | same | more
  · rcases line'.starts with zero | ⟨-, feed⟩
    · omega
    · exact absurd feed (line.inside _ (by omega) (by have := line'.ordered; omega))
  · exact same
  · rcases line.starts with zero | ⟨-, feed⟩
    · omega
    · exact absurd feed (line'.inside _ (by omega) (by have := line.ordered; omega))

/-- Spaces and zeros are no line feeds. -/
theorem Scanned.ahead_iff (scanned : Scanned memory start incoming) {place : Int}
    (from_ : start ≤ place) {byte : UInt8} (other : byte ≠ 32 ∧ byte ≠ 0) :
    incoming.memory place = byte ↔ memory place = byte := by
  rcases scanned.ahead place from_ with same | ⟨space, zero⟩
  · rw [same]
  · rw [space, zero]
    exact iff_of_false other.2.symm other.1.symm

/-- Whether a line ends in a carriage return is still known at its end. -/
theorem Scanned.cr_iff (scanned : Scanned memory start incoming) (reached : start ≤ data) :
    incoming.memory (data - 1) = cr ↔ memory (data - 1) = cr := by
  by_cases inside : start ≤ data - 1
  · exact scanned.ahead_iff inside (by decide)
  · have first : data - 1 = start - 1 := by omega
    rw [first]
    rcases scanned.behind with ⟨rfl, same⟩ | ⟨-, feed, other⟩
    · rw [Int.zero_sub, same]
    · rw [feed]
      exact iff_of_false other (by decide)

/-- A space is found in the range and nowhere else. -/
theorem findSpace_some {rounds : Nat} {space : Int} :
    ∀ {data : Int}, findSpace memory stop rounds data = some space →
      data < space ∧ space < stop ∧ memory space = 32 := by
  induction rounds with
  | zero => exact fun found => nomatch found
  | succ rounds ih =>
      intro data found
      rw [findSpace] at found
      split at found
      · split at found
        · obtain rfl := Option.some_inj.mp found
          exact ⟨by omega, ‹_›, ‹_›⟩
        · obtain ⟨after, before, there⟩ := ih found
          exact ⟨by omega, before, there⟩
      · exact absurd found (by simp)

/-- **`processLine`** says whether the line is empty, and writes over spaces only. -/
theorem processLine_spec {len : Int} (closed : len = 0 → incoming.memory data = 0) :
    (processLine data len incoming).1 = (len == 0) ∧
      (∀ place, (processLine data len incoming).2.memory place = incoming.memory place ∨
        incoming.memory place = 32 ∧ (processLine data len incoming).2.memory place = 0) ∧
      ((processLine data len incoming).2.request = true → incoming.request = true ∨
        AsksAt incoming.memory data) ∧
      ((processLine data len incoming).2.request = false →
        (processLine data len incoming).2 = incoming) := by
  have get : strncmp 4 (bytesFrom incoming.memory data 4) httpGet = 0 ↔
      AsksAt incoming.memory data := by
    rw [AsksAt, ← strncmp_take 4 _ httpGet]
    exact @strncmp_length_eq_zero (ascii "GET ") (noNul_of_all (by decide)) _
  unfold processLine
  split
  · next asks =>
      have line := get.mp asks.2
      have some : len ≠ 0 := by
        intro empty
        obtain ⟨rest, bytes⟩ := line
        have first : (71 : UInt8) = incoming.memory (data + (0 : Nat)) := congrArg (·.headD 0) bytes
        rw [Int.natCast_zero, Int.add_zero, closed empty] at first
        exact absurd first (by decide)
      dsimp only
      split
      · next space found =>
          refine ⟨(beq_eq_false_iff_ne.mpr some).symm, fun place => ?_, fun _ => Or.inr line,
            fun none => Bool.noConfusion none⟩
          by_cases there : place = space
          · rw [there]
            exact Or.inr ⟨(findSpace_some found).2.2, Function.update_self ..⟩
          · exact Or.inl (Function.update_of_ne there ..)
      · exact ⟨rfl, fun _ => Or.inl rfl, Or.inl, fun _ => rfl⟩
  · exact ⟨rfl, fun _ => Or.inl rfl, Or.inl, fun _ => rfl⟩

theorem asksAt_iff : AsksAt memory start ↔ memory start = 71 ∧ memory (start + 1) = 69 ∧
    memory (start + 2) = 84 ∧ memory (start + 3) = 32 := by
  have text : ascii "GET " = [71, 69, 84, 32] := rfl
  have bytes : bytesFrom memory start 4 =
      [memory (start + (0 : Nat)), memory (start + (1 : Nat)), memory (start + (2 : Nat)),
        memory (start + (3 : Nat))] := rfl
  rw [AsksAt, text, bytes]
  simp [eq_comm]

theorem lineLength_cases (ordered : start ≤ stop) :
    start + lineLength memory start stop ≤ stop ∧
      (0 ≤ lineLength memory start stop ∨ start = stop) := by
  rw [lineLength]
  split <;> omega

/-- **A line** is read, and the packet is scanned up to its end. -/
theorem Scanned.line (scanned : Scanned memory start incoming) (line : IsLine memory start stop) :
    let result := processLine start (lineLength memory start stop) { incoming with
      memory := Function.update incoming.memory (start + lineLength memory start stop) 0 }
    result.1 = (lineLength memory start stop == 0) ∧ Scanned memory (stop + 1) result.2 ∧
      (result.2.request = true → incoming.request = true ∨ GetLine memory start stop) := by
  have zero_le := line.zero_le
  obtain ⟨within, length⟩ := @lineLength_cases memory start stop line.ordered
  generalize lineLength memory start stop = len at within length
  have other {place : Int} (away : place ≠ start + len) :
      Function.update incoming.memory (start + len) 0 place = incoming.memory place :=
    Function.update_of_ne away ..
  have zero : Function.update incoming.memory (start + len) 0 (start + len) = 0 :=
    Function.update_self ..
  generalize Function.update incoming.memory (start + len) 0 = closed at other zero
  obtain ⟨complete, written, asked, fresh⟩ := @processLine_spec start
    { incoming with memory := closed } len fun empty => by rwa [empty, Int.add_zero] at zero
  have feed : incoming.memory stop = lf :=
    (scanned.ahead_iff line.ordered (by decide)).mpr line.ends
  generalize processLine start len { incoming with memory := closed } = result
    at complete written asked fresh ⊢
  dsimp only at written asked
  refine ⟨complete, ⟨fun place behind => ?_, Or.inr ⟨by omega, ?_, ?_⟩, fun none place behind => ?_⟩,
    fun some => ?_⟩
  · have unwritten := other (show place ≠ start + len by omega)
    have before := scanned.ahead place (by omega)
    rcases written place with same | ⟨space, cleared⟩
    · rw [same, unwritten]
      exact before
    · rw [unwritten] at space
      rcases before with same | ⟨-, already⟩
      · exact Or.inr ⟨same.symm.trans space, cleared⟩
      · rw [already] at space
        exact absurd space (by decide)
  · rw [Int.add_sub_cancel]
    exact line.ends
  · rw [Int.add_sub_cancel]
    rcases written stop with same | ⟨-, cleared⟩
    · rw [same]
      by_cases there : stop = start + len
      · rw [there, zero]
        decide
      · rw [other there, feed]
        decide
    · rw [cleared]
      decide
  · have same := fresh none
    rw [same] at none ⊢
    exact (other (by omega)).trans (scanned.fresh none place (by omega))
  · by_cases already : incoming.request = true
    · exact Or.inl already
    · have unread := scanned.fresh (Bool.eq_false_iff.mpr already)
      have asks := asksAt_iff.mp ((asked some).resolve_left already)
      have written (place : Int) (from_ : start ≤ place) (byte : UInt8) (other0 : byte ≠ 0)
          (found : closed place = byte) : place ≠ start + len ∧ memory place = byte := by
        have away : place ≠ start + len := by
          rintro rfl
          exact other0 (found.symm.trans zero)
        exact ⟨away, (unread place from_).symm.trans ((other away).symm.trans found)⟩
      obtain ⟨away0, at0⟩ := written start (by omega) 71 (by decide) asks.1
      obtain ⟨away1, at1⟩ := written (start + 1) (by omega) 69 (by decide) asks.2.1
      obtain ⟨away2, at2⟩ := written (start + 2) (by omega) 84 (by decide) asks.2.2.1
      obtain ⟨away3, at3⟩ := written (start + 3) (by omega) 32 (by decide) asks.2.2.2
      have apart : start ≠ stop := by
        rintro rfl
        exact absurd (at0.symm.trans line.ends) (by decide)
      exact Or.inr { line with
        long := by omega
        asks := asksAt_iff.mpr ⟨at0, at1, at2, at3⟩ }

/-- Where no empty line ends, the search may as well begin behind. -/
theorem emptyLine_next {data : Int} (left : Nat)
    (apart : ∀ first, IsLine memory first data → lineLength memory first data ≠ 0) :
    (∃ first last, IsLine memory first last ∧ data + 1 ≤ last ∧ last < data + 1 + left ∧
        lineLength memory first last = 0) ↔
      ∃ first last, IsLine memory first last ∧ data ≤ last ∧ last < data + (left + 1 : Nat) ∧
        lineLength memory first last = 0 := by
  refine exists₂_congr fun first last => and_congr_right fun line => ?_
  constructor
  · rintro ⟨behind, before, empty⟩
    exact ⟨by omega, by omega, empty⟩
  · rintro ⟨behind, before, empty⟩
    refine ⟨?_, by omega, empty⟩
    have other : last ≠ data := by
      rintro rfl
      exact apart first line empty
    omega

/-- **The scan of a packet** finds its empty lines, and its lines that ask. -/
theorem scanPacket_spec (left : Nat) :
    ∀ {start data : Int} {incoming : Incoming}, Scanned memory start incoming → start ≤ data →
      (∀ place, start ≤ place → place < data → memory place ≠ lf) →
      ((scanPacket left start data incoming).1 = true ↔ ∃ first last, IsLine memory first last ∧
        data ≤ last ∧ last < data + left ∧ lineLength memory first last = 0) ∧
      ((scanPacket left start data incoming).2.request = true → incoming.request = true ∨
        ∃ first last, GetLine memory first last ∧ last < data + left) := by
  induction left with
  | zero =>
      intro start data incoming scanned ordered inside
      refine ⟨iff_of_false Bool.false_ne_true ?_, Or.inl⟩
      rintro ⟨first, last, -, behind, before, -⟩
      omega
  | succ left ih =>
      intro start data incoming scanned ordered inside
      rw [scanPacket]
      by_cases feed : memory data = lf
      · have line : IsLine memory start data := {
          starts := scanned.behind.imp And.left fun behind => ⟨behind.1, behind.2.1⟩
          ordered, inside
          ends := feed }
        rw [if_pos ((scanned.ahead_iff ordered (by decide)).mpr feed)]
        have length : (if incoming.memory (data - 1) = cr then data - start - 1
            else data - start) = lineLength memory start data := by
          rw [lineLength, if_congr (scanned.cr_iff ordered) rfl rfl]
        obtain ⟨complete, next, asked⟩ := scanned.line line
        dsimp only
        rw [length]
        generalize processLine start (lineLength memory start data) _ = result
          at complete next asked ⊢
        by_cases empty : lineLength memory start data = 0
        · rw [if_pos (complete.trans (beq_iff_eq.mpr empty))]
          refine ⟨iff_of_true rfl ⟨start, data, line, Int.le_refl _, by omega, empty⟩, fun some => ?_⟩
          exact (asked some).imp_right fun line => ⟨start, data, line, by omega⟩
        · have more : ¬ result.1 = true := by
            rw [complete, beq_iff_eq]
            exact empty
          rw [if_neg more]
          obtain ⟨found, asks⟩ := ih next (Int.le_refl _) fun place behind before => by omega
          refine ⟨found.trans (emptyLine_next left fun first other => line.unique other ▸ empty),
            fun some => ?_⟩
          rcases asks some with before | ⟨first, last, line, before⟩
          · exact (asked before).imp_right fun line => ⟨start, data, line, by omega⟩
          · exact Or.inr ⟨first, last, line, by omega⟩
      · rw [if_neg fun same => feed ((scanned.ahead_iff ordered (by decide)).mp same)]
        obtain ⟨found, asks⟩ := @ih start (data + 1) incoming scanned (by omega)
          fun place from_ before => by
            by_cases last : place = data
            · rw [last]
              exact feed
            · exact inside place from_ (by omega)
        exact ⟨found.trans (emptyLine_next left fun first line => absurd line.ends feed),
          fun some => (asks some).imp_right (Exists.imp fun first => Exists.imp fun last line =>
            ⟨line.1, by omega⟩)⟩

end Scan

/-- A line feed that ends an empty line, which may have a carriage return. -/
def EmptyLineAt (memory : Int → UInt8) (stop : Int) : Prop :=
  memory stop = lf ∧
    (stop = 0 ∧ memory (-1) ≠ cr ∨ 0 < stop ∧ memory (stop - 1) = lf ∨
      memory (stop - 1) = cr ∧ (stop = 1 ∨ 1 < stop ∧ memory (stop - 2) = lf))

section Packet

variable {memory : Int → UInt8} {stop : Int} (len : Nat) (incoming : Incoming)

theorem emptyLineAt_iff (zero_le : 0 ≤ stop) : EmptyLineAt memory stop ↔
    ∃ start, IsLine memory start stop ∧ lineLength memory start stop = 0 := by
  constructor
  · rintro ⟨feed, ⟨rfl, other⟩ | ⟨positive, before⟩ | ⟨return_, before⟩⟩
    · refine ⟨0, ⟨Or.inl rfl, Int.le_refl 0, fun place behind before => by omega, feed⟩, ?_⟩
      rw [lineLength, Int.zero_sub, if_neg other, Int.sub_self]
    · refine ⟨stop, ⟨Or.inr ⟨positive, before⟩, Int.le_refl _, fun place behind before => by omega, feed⟩,
        ?_⟩
      rw [lineLength, before, if_neg (by decide)]
      omega
    · refine ⟨stop - 1, ⟨?_, by omega, fun place behind ahead => ?_, feed⟩, ?_⟩
      · rcases before with rfl | ⟨more, before⟩
        · exact Or.inl rfl
        · have two : stop - 1 - 1 = stop - 2 := by omega
          exact Or.inr ⟨by omega, two ▸ before⟩
      · obtain rfl : place = stop - 1 := by omega
        rw [return_]
        decide
      · rw [lineLength, if_pos return_]
        omega
  · rintro ⟨start, line, empty⟩
    refine ⟨line.ends, ?_⟩
    rw [lineLength] at empty
    split at empty
    · next return_ =>
        obtain rfl : start = stop - 1 := by omega
        refine Or.inr (Or.inr ⟨return_, line.starts.imp (fun zero => by omega) fun behind => ?_⟩)
        have two : stop - 1 - 1 = stop - 2 := by omega
        exact ⟨by omega, two ▸ behind.2⟩
    · next other =>
        obtain rfl : start = stop := by omega
        rcases line.starts with rfl | behind
        · exact Or.inl ⟨rfl, other⟩
        · exact Or.inr (Or.inl behind)

/-- A packet as it arrives is not read yet. -/
theorem scanned_start : Scanned incoming.memory 0 incoming :=
  ⟨fun _ _ => Or.inl rfl, Or.inl ⟨rfl, rfl⟩, fun _ _ _ => rfl⟩

/-- **A request is complete exactly if there is an empty line in the packet**, whatever the lines in
front of it are, and although they are written over while they are read. -/
theorem processPacket_complete_iff :
    (processPacket len incoming).1 = true ↔
      ∃ stop < len, EmptyLineAt incoming.memory (stop : Int) := by
  rw [processPacket, (scanPacket_spec len (scanned_start incoming) (Int.le_refl 0)
    fun place behind before => by omega).1, Int.zero_add]
  constructor
  · rintro ⟨first, last, line, behind, before, empty⟩
    obtain ⟨stop, rfl⟩ := Int.eq_ofNat_of_zero_le behind
    exact ⟨stop, by omega, (emptyLineAt_iff behind).mpr ⟨first, line, empty⟩⟩
  · rintro ⟨stop, before, there⟩
    have behind : 0 ≤ (stop : Int) := by omega
    obtain ⟨first, line, empty⟩ := (emptyLineAt_iff behind).mp there
    exact ⟨first, stop, line, behind, by omega, empty⟩

/-- **A URL is stored only for a line that asks for it** and ends in the packet. -/
theorem processPacket_request_line (fresh : incoming.request = false)
    (some : (processPacket len incoming).2.request = true) :
    ∃ start stop, GetLine incoming.memory start stop ∧ stop < len := by
  have found := (scanPacket_spec len (scanned_start incoming) (Int.le_refl 0)
    fun place behind before => by omega).2 some
  rw [Int.zero_add] at found
  exact found.resolve_left fun already => Bool.false_ne_true (fresh.symm.trans already)

end Packet

/-- A text stands at the start of the packet. -/
def Holds (memory : Int → UInt8) (text : List UInt8) : Prop :=
  ∀ (index : Nat) (byte : UInt8), text[index]? = some byte → memory index = byte

section Request

variable {memory : Int → UInt8} {incoming : Incoming}

theorem Holds.getElem {text : List UInt8} (holds : Holds memory text) {index : Nat}
    (within : index < text.length) : memory (index : Int) = text[index] :=
  holds index _ (List.getElem?_eq_getElem within)

/-- A part of the text stands where it begins. -/
theorem Holds.append {front back : List UInt8} (holds : Holds memory (front ++ back)) :
    Holds memory front ∧ Holds (fun place => memory (front.length + place)) back := by
  constructor
  · intro index byte found
    refine holds index byte ?_
    rwa [List.getElem?_append_left (List.getElem?_eq_some_iff.mp found).1]
  · intro index byte found
    have there := holds (front.length + index) byte (by
      rwa [List.getElem?_append_right (Nat.le_add_right _ _), Nat.add_sub_cancel_left])
    rwa [Int.natCast_add] at there

/-- The first space is found. -/
theorem findSpace_eq {stop : Int} {gap : Nat} :
    ∀ {rounds : Nat} {data : Int}, gap < rounds → data + gap + 1 < stop →
      memory (data + gap + 1) = 32 →
      (∀ index < gap, memory (data + 1 + (index : Nat)) ≠ 32) →
      findSpace memory stop rounds data = some (data + gap + 1) := by
  induction gap with
  | zero =>
      intro rounds data enough before space _
      obtain ⟨rounds, rfl⟩ := Nat.exists_eq_add_of_lt enough
      rw [Int.natCast_zero, Int.add_zero] at before space ⊢
      rw [Nat.zero_add, findSpace, if_pos before, if_pos space]
  | succ gap ih =>
      intro rounds data enough before space apart
      obtain ⟨rounds, rfl⟩ := Nat.exists_eq_add_of_lt enough
      have next : data + 1 + gap + 1 = data + (gap + 1 : Nat) + 1 := by omega
      have here := apart 0 (Nat.succ_pos gap)
      rw [Int.natCast_zero, Int.add_zero] at here
      rw [findSpace, if_pos (by omega), if_neg here, ← next]
      refine ih (by omega) (by omega) (by rwa [next]) fun index less => ?_
      have there := apart (index + 1) (by omega)
      have place : data + 1 + ((index + 1 : Nat) : Int) = data + 1 + 1 + (index : Nat) := by omega
      rwa [place] at there

/-- The scan comes to the first line feed. -/
theorem scanPacket_first (left : Nat) {start : Int} (gap : Nat) :
    ∀ {data : Int}, (∀ index < gap, incoming.memory (data + (index : Nat)) ≠ lf) →
      scanPacket (gap + left) start data incoming =
        scanPacket left start (data + gap) incoming := by
  induction gap with
  | zero =>
      intro data _
      rw [Nat.zero_add, Int.natCast_zero, Int.add_zero]
  | succ gap ih =>
      intro data apart
      have here := apart 0 (Nat.succ_pos gap)
      rw [Int.natCast_zero, Int.add_zero] at here
      have next : data + ((gap + 1 : Nat) : Int) = data + 1 + gap := by omega
      rw [Nat.succ_add, scanPacket, if_neg here, next]
      refine ih fun index less => ?_
      have there := apart (index + 1) (by omega)
      have place : data + ((index + 1 : Nat) : Int) = data + 1 + (index : Nat) := by omega
      rwa [place] at there

/-- Once there is a request, the URL stays. -/
theorem scanPacket_keeps (left : Nat) :
    ∀ (start data : Int) (incoming : Incoming), incoming.request = true →
      (scanPacket left start data incoming).2.getStringGlobal = incoming.getStringGlobal := by
  have line (data len : Int) (incoming : Incoming) (request : incoming.request = true) :
      (processLine data len incoming).2 = incoming := by
    rw [processLine, if_neg fun free => Bool.false_ne_true (free.1.symm.trans request)]
  induction left with
  | zero => exact fun _ _ _ _ => rfl
  | succ left ih =>
      intro start data incoming request
      rw [scanPacket]
      split
      · dsimp only
        generalize (if incoming.memory (data - 1) = cr then data - start - 1 else data - start) =
          len
        rw [line _ _ _ (by exact request)]
        split
        · rfl
        · exact ih _ _ { incoming with
            memory := Function.update incoming.memory (start + len) 0 } request
      · exact ih _ _ _ request

/-- A copied string is the same as its characters copied. -/
theorem strncpyBytes_cString (n : Nat) (src : List UInt8) :
    strncpyBytes n src = strncpyBytes n (cString src) := by
  induction n generalizing src with
  | zero => rfl
  | succ n ih =>
      cases src with
      | nil => rfl
      | cons c src =>
          by_cases zero : c = 0
          · rw [zero]
            rfl
          · have more : cString (c :: src) = c :: cString src :=
              List.takeWhile_cons_of_pos (bne_iff_ne.mpr zero)
            rw [more, strncpyBytes, strncpyBytes, List.headD_cons, List.headD_cons, if_neg zero,
              if_neg zero, List.tail_cons, List.tail_cons, ih]

/-- Characters behind those that are copied do not matter. -/
theorem strncpyBytes_take (n : Nat) (src : List UInt8) :
    strncpyBytes n (src.take n) = strncpyBytes n src := by
  induction n generalizing src with
  | zero => rfl
  | succ n ih =>
      cases src with
      | nil => rfl
      | cons c src =>
          rw [List.take_succ_cons, strncpyBytes, strncpyBytes, List.headD_cons, List.headD_cons,
            List.tail_cons, List.tail_cons, ih]

theorem bytesFrom_add (start : Int) (first second : Nat) :
    bytesFrom memory start (first + second) =
      bytesFrom memory start first ++ bytesFrom memory (start + (first : Nat)) second := by
  unfold bytesFrom
  rw [List.range_add, List.map_append, List.map_map]
  congr 1
  refine List.map_congr_left fun index _ => ?_
  rw [Function.comp_apply, Int.natCast_add, Int.add_assoc]

/-- What is copied of a URL that has a zero behind it. -/
theorem strncpyBytes_url {url : List UInt8} {n : Nat} {start : Int} (noNul : ∀ c ∈ url, c ≠ 0)
    (bytes : ∀ index (within : index < url.length), memory (start + (index : Nat)) = url[index])
    (closed : memory (start + (url.length : Nat)) = 0) :
    strncpyBytes n (bytesFrom memory start n) = strncpyBytes n url := by
  have text : bytesFrom memory start url.length = url := by
    refine List.ext_getElem (by rw [bytesFrom, List.length_map, List.length_range])
      fun index _ within => ?_
    simp only [bytesFrom, List.getElem_map, List.getElem_range]
    exact bytes index within
  have long : bytesFrom memory start (url.length + 1 + n) =
      url ++ 0 :: bytesFrom memory (start + (url.length + 1 : Nat)) n := by
    rw [bytesFrom_add, bytesFrom_add, text, List.append_assoc]
    congr 1
    show memory (start + (url.length : Nat) + (0 : Nat)) :: _ = _
    rw [Int.natCast_zero, Int.add_zero, closed]
    rfl
  have enough : (bytesFrom memory start (url.length + 1 + n)).take n = bytesFrom memory start n := by
    rw [Nat.add_comm _ n, bytesFrom_add]
    exact List.take_left' (by rw [bytesFrom, List.length_map, List.length_range])
  rw [← enough, strncpyBytes_take, long, strncpyBytes_cString, cString_terminated _ noNul]

/-- **The line that asks**: the URL is stored up to its space. -/
theorem processLine_get {url : List UInt8} {len : Int} (fresh : incoming.request = false)
    (asks : AsksAt incoming.memory 0) (nonempty : url ≠ []) (noNul : ∀ c ∈ url, c ≠ 0)
    (without : 32 ∉ url)
    (bytes : ∀ index (within : index < url.length),
      incoming.memory (4 + (index : Nat)) = url[index])
    (space : incoming.memory (4 + (url.length : Nat)) = 32) (long : url.length < len) :
    ∃ memory, processLine 0 len incoming = (false, {
      memory, request := true
      getStringGlobal := strncpyBytes 63 url ++ incoming.getStringGlobal.drop 63 }) := by
  have get : strncmp 4 (bytesFrom incoming.memory 0 4) httpGet = 0 := by
    rw [← strncmp_take 4 _ httpGet]
    exact (@strncmp_length_eq_zero (ascii "GET ") (noNul_of_all (by decide)) _).mpr asks
  have positive : 0 < url.length := List.length_pos_iff.mpr nonempty
  have gap : ((4 : Int) + (url.length - 1 : Nat) + 1) = 4 + (url.length : Nat) := by omega
  have found : findSpace incoming.memory (4 + len) len.toNat 4 =
      some ((4 : Int) + (url.length : Nat)) := by
    rw [← gap]
    refine findSpace_eq (by omega) (by omega) (by rwa [gap]) fun index less => ?_
    have place : (4 : Int) + 1 + (index : Nat) = 4 + ((index + 1 : Nat) : Int) := by omega
    rw [place, bytes (index + 1) (by omega)]
    exact fun same => without (same ▸ List.getElem_mem _)
  refine ⟨Function.update incoming.memory (4 + (url.length : Nat)) 0, ?_⟩
  rw [processLine, if_pos ⟨fresh, get⟩]
  dsimp only
  rw [Int.zero_add, found]
  dsimp only
  rw [strncpy, strncpyBytes_url noNul (fun index within => ?_) (Function.update_self ..)]
  · rfl
  · rw [Function.update_of_ne (by omega)]
    exact bytes index within

/-- A request: the line that asks, and some lines that end like it, the last of them empty. -/
def requestText (eol url version : List UInt8) (headers : List (List UInt8)) : List UInt8 :=
  ascii "GET " ++ (url ++ 32 :: (version ++ eol ++ headers.flatMap (· ++ eol) ++ eol))

/-- The end of a line. -/
def IsEol (eol : List UInt8) : Prop := eol = [lf] ∨ eol = [cr, lf]

/-- A request ends in an empty line. -/
theorem requestText_empty {eol url version : List UInt8} {headers : List (List UInt8)}
    (isEol : IsEol eol) (holds : Holds memory (requestText eol url version headers)) :
    ∃ stop < (requestText eol url version headers).length, EmptyLineAt memory (stop : Int) := by
  obtain ⟨front, lines⟩ : ∃ front, version ++ eol ++ headers.flatMap (· ++ eol) = front ++ eol := by
    rcases List.eq_nil_or_concat headers with rfl | ⟨others, header, rfl⟩
    · exact ⟨version, by rw [List.flatMap_nil, List.append_nil]⟩
    · refine ⟨version ++ eol ++ others.flatMap (· ++ eol) ++ header, ?_⟩
      simp only [List.concat_eq_append, List.flatMap_append, List.flatMap_cons, List.flatMap_nil,
        List.append_nil, List.append_assoc]
  have text : requestText eol url version headers =
      (ascii "GET " ++ url ++ 32 :: front) ++ (eol ++ eol) := by
    rw [requestText, lines]
    simp only [List.append_assoc, List.cons_append]
  rw [text] at holds ⊢
  generalize ascii "GET " ++ url ++ 32 :: front = front at holds ⊢
  obtain ⟨-, back⟩ := holds.append
  have at_ (index : Nat) (place : Int) (byte : UInt8) (there : (eol ++ eol)[index]? = some byte)
      (same : place = (front.length : Int) + (index : Nat)) : memory place = byte :=
    same ▸ back index byte there
  rcases isEol with rfl | rfl
  · exact ⟨front.length + 1, by simp, at_ 1 _ lf rfl (by omega),
      Or.inr (Or.inl ⟨by omega, at_ 0 _ lf rfl (by omega)⟩)⟩
  · exact ⟨front.length + 3, by simp, at_ 3 _ lf rfl (by omega),
      Or.inr (Or.inr ⟨at_ 2 _ cr rfl (by omega),
        Or.inr ⟨by omega, at_ 1 _ lf rfl (by omega)⟩⟩)⟩

section FirstLine

variable {url line : List UInt8}

/-- A request begins with a line that ends in a line feed. -/
theorem requestText_firstLine {eol : List UInt8} (isEol : IsEol eol) (url version : List UInt8)
    (headers : List (List UInt8)) : ∃ line more, requestText eol url version headers =
      (ascii "GET " ++ url ++ 32 :: line) ++ lf :: more ∧ lf ∉ line := by
  obtain ⟨line, more, rest, plainLine⟩ : ∃ line more,
      version ++ eol ++ headers.flatMap (· ++ eol) ++ eol = line ++ lf :: more ∧ lf ∉ line := by
    refine List.eq_append_cons_of_mem ?_
    rcases isEol with rfl | rfl <;> simp
  refine ⟨line, more, ?_, plainLine⟩
  rw [requestText, rest]
  simp only [List.append_assoc, List.cons_append]

/-- It is the first one. -/
theorem firstLine_plain (plain : lf ∉ url) (plainLine : lf ∉ line) :
    ∀ c ∈ ascii "GET " ++ url ++ 32 :: line, c ≠ lf := by
  rintro c member rfl
  rcases List.mem_append.mp member with before | behind
  · have others : lf ∉ ascii "GET " := by decide
    exact (List.mem_append.mp before).elim others plain
  · rcases List.mem_cons.mp behind with space | inside
    · exact absurd space (by decide)
    · exact plainLine inside

/-- It asks for the page, and the URL stands in it, with a space behind. -/
theorem Holds.firstLine (holds : Holds memory (ascii "GET " ++ url ++ 32 :: line)) :
    AsksAt memory 0 ∧
      (∀ index (within : index < url.length), memory (4 + (index : Nat)) = url[index]) ∧
      memory (4 + (url.length : Nat)) = 32 := by
  obtain ⟨start, text⟩ := holds.append.1.append
  refine ⟨asksAt_iff.mpr ⟨start 0 71 rfl, start 1 69 rfl, start 2 84 rfl, start 3 32 rfl⟩,
    fun index within => text.getElem within, ?_⟩
  have there : memory (((ascii "GET " ++ url).length : Int) + (0 : Nat)) = 32 :=
    holds.append.2 0 32 rfl
  rwa [List.length_append, Int.natCast_add, Int.natCast_zero, Int.add_zero] at there

/-- The line ends behind the space, with a carriage return or without. -/
theorem lineEnd_long (space : memory (4 + (url.length : Nat)) = 32) {size : Nat}
    (long : 5 + url.length ≤ size) :
    (5 : Int) + url.length ≤
      if memory ((size : Int) - 1) = cr then (size : Int) - 0 - 1 else (size : Int) - 0 := by
  split
  · next return_ =>
      have longer : size ≠ 5 + url.length := by
        rintro rfl
        have place : ((5 + url.length : Nat) : Int) - 1 = 4 + (url.length : Nat) := by omega
        rw [place, space] at return_
        exact absurd return_ (by decide)
      omega
  · omega

/-- **The line that asks is read** when its end is reached, and nothing behind it counts. -/
theorem scanPacket_get {size : Nat} (left : Nat) (fresh : incoming.request = false)
    (asks : AsksAt incoming.memory 0) (nonempty : url ≠ []) (noNul : ∀ c ∈ url, c ≠ 0)
    (without : 32 ∉ url)
    (bytes : ∀ index (within : index < url.length),
      incoming.memory (4 + (index : Nat)) = url[index])
    (space : incoming.memory (4 + (url.length : Nat)) = 32) (long : 5 + url.length ≤ size)
    (feed : incoming.memory (size : Int) = lf) :
    (scanPacket (left + 1) 0 (size : Int) incoming).2.request = true ∧
      (scanPacket (left + 1) 0 (size : Int) incoming).2.getStringGlobal =
        strncpyBytes 63 url ++ incoming.getStringGlobal.drop 63 := by
  have behind := lineEnd_long space long
  rw [scanPacket, if_pos feed]
  dsimp only
  generalize (if incoming.memory ((size : Int) - 1) = cr then
      (size : Int) - 0 - 1 else (size : Int) - 0) = len at behind ⊢
  -- the zero that ends the line changes nothing in front of it
  have kept {place : Int} (before : place < len) :
      Function.update incoming.memory (0 + len) 0 place = incoming.memory place :=
    Function.update_of_ne (by omega) ..
  obtain ⟨at0, at1, at2, at3⟩ := asksAt_iff.mp asks
  obtain ⟨memory, line⟩ := @processLine_get
    { incoming with memory := Function.update incoming.memory (0 + len) 0 } url len fresh
    (asksAt_iff.mpr ⟨(kept (by omega)).trans at0, (kept (by omega)).trans at1,
      (kept (by omega)).trans at2, (kept (by omega)).trans at3⟩)
    nonempty noNul without (fun index within => (kept (by omega)).trans (bytes index within))
    ((kept (by omega)).trans space) (by omega)
  rw [line, if_neg Bool.false_ne_true]
  exact ⟨scanPacket_request _ _ _ _ rfl, scanPacket_keeps _ _ _ _ rfl⟩

end FirstLine

/-- **A request in one packet** is complete, and its URL is stored as far as there is room, with
zeros behind it. -/
theorem processPacket_requestText {eol url version : List UInt8} {headers : List (List UInt8)}
    (isEol : IsEol eol) (nonempty : url ≠ [])
    (plain : ∀ c ∈ url, c ≠ 0 ∧ c ≠ 32 ∧ c ≠ lf)
    (holds : Holds incoming.memory (requestText eol url version headers))
    (fresh : incoming.request = false) (last : incoming.getStringGlobal.drop 63 = [0]) :
    let result := processPacket (requestText eol url version headers).length incoming
    result.1 = true ∧ result.2.request = true ∧
      result.2.getStringGlobal = strncpyBytes 63 url ++ [0] := by
  intro result
  refine ⟨(processPacket_complete_iff _ incoming).mpr (requestText_empty isEol holds), ?_⟩
  obtain ⟨line, more, text, plainLine⟩ := requestText_firstLine isEol url version headers
  rw [text] at holds
  obtain ⟨front, behind⟩ := holds.append
  obtain ⟨asks, bytes, space⟩ := front.firstLine
  have long : 5 + url.length ≤ (ascii "GET " ++ url ++ 32 :: line).length := by
    have get : (ascii "GET ").length = 4 := rfl
    rw [List.length_append, List.length_append, List.length_cons, get]
    omega
  have others := firstLine_plain (fun inside => (plain lf inside).2.2 rfl) plainLine
  have scanned : result = scanPacket (more.length + 1) 0
      ((ascii "GET " ++ url ++ 32 :: line).length : Int) incoming := by
    show processPacket _ incoming = _
    rw [processPacket, text, List.length_append, List.length_cons, scanPacket_first, Int.zero_add]
    intro index less
    rw [Int.zero_add, front.getElem less]
    exact others _ (List.getElem_mem _)
  have feed : incoming.memory ((ascii "GET " ++ url ++ 32 :: line).length : Int) = lf := by
    rw [← behind 0 lf rfl]
    exact congrArg incoming.memory (Int.add_zero _).symm
  rw [scanned, ← last]
  exact scanPacket_get more.length fresh asks nonempty (fun c member => (plain c member).1)
    (fun member => (plain 32 member).2.1 rfl) bytes space long feed

end Request

end EquinoxClock.Wifi
