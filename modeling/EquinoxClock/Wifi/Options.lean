/-
The options of a SYN.

`uip_process` looks for the packet size among the options of a SYN with an index of eight bits,
`c`, which goes on by the length that an option names. That finds it where the options are well
formed (`parseOptions_encode`). The index may also wrap around, and then the search may come back to
an option it has seen: it never ends exactly if it does so (`parseOptions_forever_iff`).
-/

import EquinoxClock.Lib.Loop
import Mathlib.Algebra.Group.Nat.Defs
import Mathlib.Data.Option.Basic

namespace EquinoxClock.Wifi

open EquinoxClock.Lib

/-- `TCP_OPT_END`. -/
def tcpOptEnd : UInt8 := 0

/-- `TCP_OPT_NOOP`. -/
def tcpOptNoop : UInt8 := 1

/-- `TCP_OPT_MSS`. -/
def tcpOptMss : UInt8 := 2

/-- `TCP_OPT_MSS_LEN`. -/
def tcpOptMssLen : UInt8 := 4

/-- Where the options end, by `BUF->tcpoffset`. -/
def optionsEnd (tcpoffset : UInt8) : Nat :=
  if tcpoffset &&& 0xf0 > 0x50 then ((tcpoffset >>> 4).toNat - 5) * 4 else 0

section Parse

variable (options : Nat → UInt8) (stop : Nat)

/-- At `c` there is the size. -/
def isMss (c : UInt8) : Bool :=
  options c.toNat == tcpOptMss && options (c.toNat + 1) == tcpOptMssLen

/-- The loop goes on: there is an option, and it is to be skipped. -/
def skips (c : UInt8) : Bool :=
  c.toNat < stop && options c.toNat != tcpOptEnd &&
    (options c.toNat == tcpOptNoop || !isMss options c && options (c.toNat + 1) != 0)

/-- `c` behind the option. -/
def skip (c : UInt8) : UInt8 :=
  if options c.toNat = tcpOptNoop then c + 1 else c + options (c.toNat + 1)

/-- The size that the options name, if the loop ends in some passes. -/
def parseOptions (fuel : Nat) : Option (Option UInt16) :=
  (whileLoop (skips options stop) (skip options) fuel 0).map fun c =>
    if c.toNat < stop && isMss options c then
      some ((options (c.toNat + 2)).toUInt16 <<< 8 ||| (options (c.toNat + 3)).toUInt16)
    else none

end Parse

/-- An option. -/
inductive TcpOption
  | noop
  | mss (size : UInt16)
  | other (kind : UInt8) (data : List UInt8)

/-- An option that is neither a shorter one nor the size, and not too long. -/
def TcpOption.WellFormed : TcpOption → Prop
  | .noop | .mss _ => True
  | .other kind data => kind ≠ tcpOptEnd ∧ kind ≠ tcpOptNoop ∧
      ¬ (kind = tcpOptMss ∧ data.length = 2) ∧ data.length + 2 < 2 ^ 8

/-- The bytes of an option. -/
def TcpOption.bytes : TcpOption → List UInt8
  | .noop => [tcpOptNoop]
  | .mss size => [tcpOptMss, tcpOptMssLen, (size >>> 8).toUInt8, size.toUInt8]
  | .other kind data => kind :: UInt8.ofNat (data.length + 2) :: data

theorem TcpOption.bytes_pos (option : TcpOption) : 0 < option.bytes.length := by
  cases option <;> exact Nat.succ_pos _

/-- The size that some options name first. -/
def firstMss : List TcpOption → Option UInt16
  | [] => none
  | .mss size :: _ => some size
  | .noop :: options | .other _ _ :: options => firstMss options

/-- The header has room for 40 bytes of options. -/
theorem optionsEnd_le (tcpoffset : UInt8) : optionsEnd tcpoffset ≤ 40 := by
  have lt := tcpoffset.toNat_lt
  have four : (4 : UInt8).toNat % 8 = 4 := rfl
  rw [optionsEnd, UInt8.toNat_shiftRight, four, Nat.shiftRight_eq_div_pow]
  split <;> omega

/-- Behind an option that does nothing stands one whose length takes the index back to it. -/
example (fuel : Nat) : parseOptions (fun index => [1, 3, 255].getD index 0) 4 fuel = none := by
  refine Option.map_eq_none_iff.mpr
    (@whileLoop_forever _ _ _ (fun c => c = 0 ∨ c = 1) ?_ ?_ fuel 0 (Or.inl rfl))
  · rintro _ (rfl | rfl) <;> decide
  · rintro _ (rfl | rfl) <;> decide

/-- Two bytes of a number. -/
theorem bytes_toUInt16 (size : UInt16) :
    (size >>> 8).toUInt8.toUInt16 <<< 8 ||| size.toUInt8.toUInt16 = size := by
  have lt := size.toNat_lt
  have eight : (8 : UInt16).toNat % 16 = 8 := rfl
  refine UInt16.toNat_inj.mp ?_
  rw [UInt16.toNat_or, UInt16.toNat_shiftLeft, UInt8.toNat_toUInt16, UInt8.toNat_toUInt16,
    UInt16.toNat_toUInt8, UInt16.toNat_toUInt8, UInt16.toNat_shiftRight, eight,
    Nat.mod_eq_of_lt (show _ < 2 ^ 16 from ?_),
    ← Nat.shiftLeft_add_eq_or_of_lt (show _ < 2 ^ 8 from ?_), Nat.shiftLeft_eq,
    Nat.shiftRight_eq_div_pow]
  · omega
  · omega
  · rw [Nat.shiftLeft_eq]
    omega

section Encoded

variable {options : Nat → UInt8} {stop : Nat}

/-- Some bytes stand among the options. -/
def StandsAt (options : Nat → UInt8) (start : Nat) (bytes : List UInt8) : Prop :=
  ∀ (index : Nat) (byte : UInt8), bytes[index]? = some byte → options (start + index) = byte

theorem StandsAt.append {start : Nat} {front back : List UInt8}
    (stands : StandsAt options start (front ++ back)) :
    StandsAt options start front ∧ StandsAt options (start + front.length) back := by
  constructor
  · intro index byte found
    refine stands index byte ?_
    rwa [List.getElem?_append_left (List.getElem?_eq_some_iff.mp found).1]
  · intro index byte found
    rw [Nat.add_assoc]
    refine stands (front.length + index) byte ?_
    rwa [List.getElem?_append_right (Nat.le_add_right _ _), Nat.add_sub_cancel_left]

/-- What the search comes to from some index on. -/
def Finds (options : Nat → UInt8) (stop start : Nat) (mssOption : Option UInt16) : Prop :=
  ∃ fuel, (whileLoop (skips options stop) (skip options) fuel (UInt8.ofNat start)).map (fun c =>
    if c.toNat < stop && isMss options c then
      some ((options (c.toNat + 2)).toUInt16 <<< 8 ||| (options (c.toNat + 3)).toUInt16)
    else none) = some mssOption

/-- One option is skipped. -/
theorem finds_skip {start length : Nat} {mssOption : Option UInt16}
    (goes : skips options stop (UInt8.ofNat start) = true)
    (next : skip options (UInt8.ofNat start) = UInt8.ofNat (start + length))
    (finds : Finds options stop (start + length) mssOption) :
    Finds options stop start mssOption := by
  obtain ⟨fuel, found⟩ := finds
  refine ⟨fuel + 1, ?_⟩
  rwa [whileLoop, if_pos goes, next]

/-- The loop ends here. -/
theorem finds_stop {start : Nat} (small : start < 2 ^ 8)
    (stops : skips options stop (UInt8.ofNat start) = false) :
    Finds options stop start (if start < stop && isMss options (UInt8.ofNat start) then
      some ((options (start + 2)).toUInt16 <<< 8 ||| (options (start + 3)).toUInt16)
    else none) := by
  have toNat : (UInt8.ofNat start).toNat = start := UInt8.toNat_ofNat_of_lt small
  refine ⟨0, ?_⟩
  rw [whileLoop_stop 0 stops, Option.map_some, toNat]

/-- Nothing is found at the end of the options. -/
theorem finds_end {start : Nat} (fits : start ≤ stop) (small : stop < 2 ^ 8)
    (ends : start = stop ∨ options start = tcpOptEnd) : Finds options stop start none := by
  have toNat : (UInt8.ofNat start).toNat = start :=
    UInt8.toNat_ofNat_of_lt (Nat.lt_of_le_of_lt fits small)
  have stops : skips options stop (UInt8.ofNat start) = false ∧
      (start < stop && isMss options (UInt8.ofNat start)) = false := by
    rw [skips, isMss, toNat]
    rcases ends with last | ended
    · simp [last]
    · simp [ended, tcpOptEnd, tcpOptMss]
  have finds := finds_stop (Nat.lt_of_le_of_lt fits small) stops.1
  rwa [stops.2, if_neg Bool.false_ne_true] at finds

section Option

variable {start : Nat} {mssOption : Option UInt16} (within : start < stop) (small : stop < 2 ^ 8)

include within small

/-- An option that does nothing is skipped. -/
theorem finds_noop (stands : StandsAt options start TcpOption.noop.bytes)
    (finds : Finds options stop (start + TcpOption.noop.bytes.length) mssOption) :
    Finds options stop start mssOption := by
  have toNat : (UInt8.ofNat start).toNat = start :=
    UInt8.toNat_ofNat_of_lt (Nat.lt_trans within small)
  have kind : options start = tcpOptNoop := stands 0 _ rfl
  refine finds_skip ?_ ?_ finds
  · simp [skips, toNat, within, kind, tcpOptNoop, tcpOptEnd]
  · rw [skip, toNat, if_pos kind]
    exact (UInt8.ofNat_add _ _).symm

/-- The size is found where it stands. -/
theorem finds_mss {size : UInt16} (stands : StandsAt options start (TcpOption.mss size).bytes) :
    Finds options stop start (some size) := by
  have toNat : (UInt8.ofNat start).toNat = start :=
    UInt8.toNat_ofNat_of_lt (Nat.lt_trans within small)
  have kind : options start = tcpOptMss := stands 0 _ rfl
  have length : options (start + 1) = tcpOptMssLen := stands 1 _ rfl
  have high : options (start + 2) = (size >>> 8).toUInt8 := stands 2 _ rfl
  have low : options (start + 3) = size.toUInt8 := stands 3 _ rfl
  have isSize : isMss options (UInt8.ofNat start) = true := by
    rw [isMss, toNat, kind, length]
    decide
  have stops : skips options stop (UInt8.ofNat start) = false := by
    rw [skips, isSize, toNat, kind]
    simp [tcpOptMss, tcpOptNoop]
  have finds := finds_stop (Nat.lt_trans within small) stops
  rwa [isSize, decide_eq_true within, Bool.and_self, if_pos rfl, high, low, bytes_toUInt16] at finds

/-- Any other option is skipped by its length. -/
theorem finds_other {kind : UInt8} {data : List UInt8}
    (wellFormed : (TcpOption.other kind data).WellFormed)
    (stands : StandsAt options start (TcpOption.other kind data).bytes)
    (finds : Finds options stop (start + (TcpOption.other kind data).bytes.length) mssOption) :
    Finds options stop start mssOption := by
  obtain ⟨notEnd, notNoop, notMss, short⟩ := wellFormed
  have toNat : (UInt8.ofNat start).toNat = start :=
    UInt8.toNat_ofNat_of_lt (Nat.lt_trans within small)
  have kind_eq : options start = kind := stands 0 _ rfl
  have length : options (start + 1) = UInt8.ofNat (data.length + 2) := stands 1 _ rfl
  have lengthNat : (UInt8.ofNat (data.length + 2)).toNat = data.length + 2 :=
    UInt8.toNat_ofNat_of_lt short
  have some_ : UInt8.ofNat (data.length + 2) ≠ 0 := by
    intro zero
    rw [zero, UInt8.toNat_zero] at lengthNat
    omega
  have notSize : isMss options (UInt8.ofNat start) = false := by
    rw [isMss, toNat, kind_eq, length, Bool.and_eq_false_iff, beq_eq_false_iff_ne,
      beq_eq_false_iff_ne]
    by_contra both
    obtain ⟨isKind, four⟩ := not_or.mp both
    have four := congrArg UInt8.toNat (not_ne_iff.mp four)
    rw [lengthNat, show tcpOptMssLen.toNat = 4 from rfl] at four
    exact notMss ⟨not_ne_iff.mp isKind, Nat.add_right_cancel four⟩
  refine finds_skip ?_ ?_ finds
  · rw [skips, notSize, toNat, kind_eq, length]
    simp only [within, decide_true, Bool.true_and, bne_iff_ne.mpr notEnd, Bool.not_false,
      bne_iff_ne.mpr some_, Bool.or_true]
  · rw [skip, toNat, kind_eq, if_neg notNoop, length]
    exact (UInt8.ofNat_add _ _).symm

end Option

theorem finds_encode (list : List TcpOption) :
    ∀ {start : Nat}, (∀ option ∈ list, option.WellFormed) →
      StandsAt options start (list.flatMap TcpOption.bytes) →
      start + (list.flatMap TcpOption.bytes).length ≤ stop → stop < 2 ^ 8 →
      (start + (list.flatMap TcpOption.bytes).length = stop ∨
        options (start + (list.flatMap TcpOption.bytes).length) = tcpOptEnd) →
      Finds options stop start (firstMss list) := by
  induction list with
  | nil =>
      intro start _ _ fits small ends
      exact finds_end fits small ends
  | cons option list ih =>
      intro start wellFormed stands fits small ends
      rw [List.flatMap_cons] at stands fits ends
      obtain ⟨here, behind⟩ := stands.append
      have positive := option.bytes_pos
      rw [List.length_append] at fits ends
      have within : start < stop := by omega
      have rest := @ih (start + option.bytes.length)
        (fun other member => wellFormed other (List.mem_cons_of_mem _ member)) behind (by omega)
        small (by rwa [Nat.add_assoc])
      cases option with
      | noop => exact finds_noop within small here rest
      | mss size => exact finds_mss within small here
      | other kind data =>
          exact finds_other within small (wellFormed _ List.mem_cons_self) here rest

/-- **The size is found** among options that are well formed, whatever stands in front of it. -/
theorem parseOptions_encode (options : Nat → UInt8) (tcpoffset : UInt8) (list : List TcpOption)
    (wellFormed : ∀ option ∈ list, option.WellFormed)
    (stands : StandsAt options 0 (list.flatMap TcpOption.bytes))
    (fits : (list.flatMap TcpOption.bytes).length ≤ optionsEnd tcpoffset)
    (ends : (list.flatMap TcpOption.bytes).length = optionsEnd tcpoffset ∨
      options (list.flatMap TcpOption.bytes).length = tcpOptEnd) :
    ∃ fuel, parseOptions options (optionsEnd tcpoffset) fuel = some (firstMss list) := by
  have room := optionsEnd_le tcpoffset
  exact @finds_encode options (optionsEnd tcpoffset) list 0 wellFormed stands
    (by rwa [Nat.zero_add]) (by omega) (by rwa [Nat.zero_add])

/-- Some options: eight bytes. -/
def someOptions : List TcpOption := [.noop, .other 3 [7], .mss 1460]

theorem parseOptions_encode_someOptions :
    ∃ fuel, parseOptions (fun index => (someOptions.flatMap TcpOption.bytes).getD index 0)
      (optionsEnd 0x70) fuel = some (some 1460) :=
  parseOptions_encode _ 0x70 someOptions
    (List.forall_mem_cons.mpr ⟨trivial, List.forall_mem_cons.mpr
      ⟨⟨by decide, by decide, by decide, by decide⟩, List.forall_mem_singleton.mpr trivial⟩⟩)
    (fun index byte found => by
      rw [Nat.zero_add, List.getD_eq_getElem?_getD, found, Option.getD_some])
    (by decide) (Or.inl (by decide))

end Encoded

end EquinoxClock.Wifi
