/-
`/date?`: the clock set to a date and a time.

The seven fields come in any order. No name begins inside another field, as the other names, `=`,
`&` and the digits are too different from it; so each name is found where its field begins
(`firstAt_dateUrl`), and the number behind it is the one that was entered (`date_request`).
-/

import EquinoxClock.Web.HomePage
import EquinoxClock.Web.Query
import Mathlib.Data.Bool.AllAny

namespace EquinoxClock.Web

open EquinoxClock.Led EquinoxClock.Lib EquinoxClock.Rtc

/-- The fields of `/date?`. -/
def dateNames : List String := ["dom", "month", "yy", "hh", "mm", "ss", "st"]

/-- The request with the fields in some order. -/
def dateUrl (texts : String → List UInt8) (order : List String) : List UInt8 :=
  ascii "/date?" ++ query texts order

/-- What is entered: numbers that the variables hold, and the summer time in minutes. -/
structure Entered where
  dom : Nat
  month : Nat
  yy : Nat
  hh : Nat
  mm : Nat
  ss : Nat
  st : Int
  dom_lt : dom < 2 ^ 8
  month_lt : month < 2 ^ 8
  yy_lt : yy < 2 ^ 16
  hh_lt : hh < 2 ^ 8
  mm_lt : mm < 2 ^ 8
  ss_lt : ss < 2 ^ 8
  st_ge : -2 ^ 7 ≤ st
  st_lt : st < 2 ^ 7

/-- The seven values as arguments of `RTC_time_SetTime`; the last one as the byte of an `int8_t`. -/
def Entered.args (entered : Entered) : TimeArgs where
  year := entered.yy
  month := entered.month
  dom := entered.dom
  hh := entered.hh
  mm := entered.mm
  ss := entered.ss
  st := (entered.st % 2 ^ 8).toNat

/-- The text writes the number in decimal digits. -/
structure Writes (text : List UInt8) (value : Nat) : Prop where
  some_ : text ≠ []
  decimal : ∀ c ∈ text, IsDecimal c
  value_eq : digits 10 0 text = value

/-- The text writes the number, with a sign if it is negative. -/
inductive WritesSigned : List UInt8 → Int → Prop
  | positive {text value} (writes : Writes text value) : WritesSigned text value
  | negative {text value} (writes : Writes text value) : WritesSigned (45 :: text) (-value)

/-- The texts of the fields write what is entered. -/
structure WritesAll (texts : String → List UInt8) (entered : Entered) : Prop where
  dom : Writes (texts "dom") entered.dom
  month : Writes (texts "month") entered.month
  yy : Writes (texts "yy") entered.yy
  hh : Writes (texts "hh") entered.hh
  mm : Writes (texts "mm") entered.mm
  ss : Writes (texts "ss") entered.ss
  st : WritesSigned (texts "st") entered.st

/-! ### Numbers with a sign -/

/-- A digit or a minus sign. -/
def Numeric (c : UInt8) : Prop := IsDecimal c ∨ c = 45

theorem Writes.strtoul_eq {text rest : List UInt8} {value : Nat} (writes : Writes text value)
    (small : value < 2 ^ 32) (stops : Stops rest) : strtoul (text ++ rest) 10 = value := by
  obtain ⟨c, cs, rfl⟩ := List.exists_cons_of_ne_nil writes.some_
  obtain ⟨noSpace, noMinus, noPlus⟩ := (writes.decimal c List.mem_cons_self).plain
  rw [strtoul_append writes.decimal stops, @strtoul_plain (c :: cs) noSpace noMinus noPlus,
    writes.value_eq, capped, if_neg (not_le.mpr small)]

/-- Behind a minus sign, a number is read as its negative in 32 bits. -/
theorem Writes.strtoul_minus {text rest : List UInt8} {value : Nat} (writes : Writes text value)
    (small : value < 2 ^ 32) (stops : Stops rest) :
    strtoul (45 :: text ++ rest) 10 = (2 ^ 32 - value) % 2 ^ 32 := by
  have read : digits 10 0 (dropHexPrefix 10 (text ++ rest)) = value := by
    rw [dropHexPrefix_ten, digits_append stops.1, writes.value_eq]
  show (if 2 ^ 32 ≤ digits 10 0 (dropHexPrefix 10 (text ++ rest)) then _ else
    (2 ^ 32 - digits 10 0 (dropHexPrefix 10 (text ++ rest))) % 2 ^ 32) = _
  rw [read, if_neg (not_le.mpr small)]

/-- A signed number is read as its byte. -/
theorem WritesSigned.strtoul_eq {text rest : List UInt8} {value : Int}
    (writes : WritesSigned text value) (low : -2 ^ 7 ≤ value) (high : value < 2 ^ 7)
    (stops : Stops rest) : strtoul (text ++ rest) 10 % 2 ^ 8 = (value % 2 ^ 8).toNat := by
  cases writes with
  | positive writes =>
      rw [writes.strtoul_eq (by omega) stops]
      omega
  | negative writes =>
      rw [writes.strtoul_minus (by omega) stops]
      omega

theorem Writes.numeric {text : List UInt8} {value : Nat} (writes : Writes text value) :
    ∀ c ∈ text, Numeric c := fun c member => .inl (writes.decimal c member)

theorem WritesSigned.numeric {text : List UInt8} {value : Int} (writes : WritesSigned text value) :
    ∀ c ∈ text, Numeric c := by
  cases writes with
  | positive writes => exact writes.numeric
  | negative writes =>
      rintro c (_ | ⟨_, member⟩)
      · exact .inr rfl
      · exact writes.numeric c member

/-! ### The request -/

section

variable {texts : String → List UInt8} {order : List String}

/-- No name is recognised in another field. -/
theorem absent_dateField {name other : String} (isName : name ∈ dateNames)
    (isName' : other ∈ dateNames) (apart : other ≠ name) (numeric : ∀ c ∈ texts other, Numeric c) :
    Absent name (field texts other ++ [38]) := by
  have tests : ∀ name ∈ dateNames, ∀ other ∈ dateNames, other ≠ name →
      absentTest name (ascii other ++ [61]) = true := by decide +kernel
  have letters : ∀ name ∈ dateNames, (ascii name).all (· != 0) = true ∧
      57 < ((ascii name).headD 0).toNat := by decide +kernel
  obtain ⟨noNul, letter⟩ := letters name isName
  have some_ : ascii name ≠ [] := fun none => by
    rw [none] at letter
    exact absurd letter (by decide)
  obtain ⟨c, cs, first⟩ := List.exists_cons_of_ne_nil some_
  rw [first, List.headD_cons] at letter
  refine absent_field (tests name isName other isName' apart)
    (absent_of_first first noNul fun d member => ?_)
  obtain inText | separator := List.mem_append.mp member
  · obtain isDecimal | rfl := numeric d inText
    · exact isDecimal.ne (.inr letter)
    · rintro rfl
      exact absurd letter (by decide)
  · rintro rfl
    obtain rfl := List.mem_singleton.mp separator
    exact absurd letter (by decide)

theorem apart_dateNames : Apart dateNames := by decide +kernel

/-- **Each field is found**, and its number stands behind the name and a character. -/
theorem firstAt_dateUrl (permuted : order.Perm dateNames)
    (numeric : ∀ name ∈ dateNames, ∀ c ∈ texts name, Numeric c)
    (fits : (dateUrl texts order).length ≤ 63) (behind : List UInt8) {name : String}
    (isName : name ∈ dateNames) :
    ∃ place rest, firstAt (dateUrl texts order ++ 0 :: behind) name 6 94 = some place ∧
      (dateUrl texts order ++ 0 :: behind).drop (place + ((ascii name).length + 1)) =
        texts name ++ rest ∧ Stops rest := by
  obtain ⟨before, after, rfl⟩ := List.append_of_mem (permuted.mem_iff.mpr isName)
  have once : name ∉ before := by
    have nodup : (before ++ name :: after).Nodup := permuted.nodup_iff.mpr (by decide +kernel)
    exact fun member => (List.nodup_append.mp nodup).2.2 name member name List.mem_cons_self rfl
  have absent : ∀ other ∈ before, Absent name (field texts other ++ [38]) := by
    intro other member
    have isName' : other ∈ dateNames := permuted.mem_iff.mp (List.mem_append_left _ member)
    exact absent_dateField isName isName' (fun same => once (same ▸ member)) (numeric other isName')
  have noNul : ∀ name ∈ dateNames, (ascii name).all (· != 0) = true := by decide +kernel
  have inTime : 0 + (inFront texts before).length < 94 := by
    rw [dateUrl, query_split, List.length_append, List.length_append] at fits
    omega
  have found := @firstAt_query texts name before after (ascii "/date?") [] (0 :: behind)
    (noNul name isName) absent_nil absent 94 inTime
  have dropped := @drop_query texts name before after (ascii "/date?") [] (0 :: behind)
  rw [dateUrl, List.append_assoc]
  refine ⟨_, behindField texts after ++ 0 :: behind, found, ?_, stops_behindField after behind⟩
  rw [← List.drop_drop]
  exact (congrArg (List.drop _) dropped).trans drop_field

variable {entered : Entered}

theorem WritesAll.numeric (writes : WritesAll texts entered) :
    ∀ name ∈ dateNames, ∀ c ∈ texts name, Numeric c := by
  simp only [dateNames, List.forall_mem_cons]
  exact ⟨writes.dom.numeric, writes.month.numeric, writes.yy.numeric, writes.hh.numeric,
    writes.mm.numeric, writes.ss.numeric, writes.st.numeric, fun _ none => nomatch none⟩

/-- The arguments that are read. -/
theorem dateValues_dateUrl (permuted : order.Perm dateNames) (writes : WritesAll texts entered)
    (fits : (dateUrl texts order).length ≤ 63) (behind : List UInt8) :
    dateValues (dateUrl texts order ++ 0 :: behind) = entered.args := by
  have found : ∀ {name : String}, name ∈ dateNames → ∃ rest,
      numberAt (dateUrl texts order ++ 0 :: behind) ((ascii name).length + 1)
        (firstAt (dateUrl texts order ++ 0 :: behind) name 6 94) =
          strtoul (texts name ++ rest) 10 ∧ Stops rest := by
    intro name isName
    obtain ⟨place, rest, at_place, value, stops⟩ :=
      firstAt_dateUrl permuted writes.numeric fits behind isName
    refine ⟨rest, ?_, stops⟩
    rw [at_place, numberAt, value]
  have number : ∀ {name : String} {value bound : Nat}, name ∈ dateNames →
      Writes (texts name) value → value < bound → bound ≤ 2 ^ 32 →
      numberAt (dateUrl texts order ++ 0 :: behind) ((ascii name).length + 1)
        (firstAt (dateUrl texts order ++ 0 :: behind) name 6 94) % bound = value := by
    intro name value bound isName written small below
    obtain ⟨rest, read, stops⟩ := found isName
    rw [read, written.strtoul_eq (small.trans_le below) stops, Nat.mod_eq_of_lt small]
  have positions : positions (dateUrl texts order ++ 0 :: behind) 6 100 dateNames =
      fun index => (dateNames.map fun name =>
        firstAt (dateUrl texts order ++ 0 :: behind) name 6 94).getD index none :=
    funext fun index => positions_eq apart_dateNames 6 100 index
  have dom := number (show "dom" ∈ dateNames by decide +kernel) writes.dom entered.dom_lt
    (by decide)
  have month := number (show "month" ∈ dateNames by decide +kernel) writes.month entered.month_lt
    (by decide)
  have yy := number (show "yy" ∈ dateNames by decide +kernel) writes.yy entered.yy_lt (by decide)
  have hh := number (show "hh" ∈ dateNames by decide +kernel) writes.hh entered.hh_lt (by decide)
  have mm := number (show "mm" ∈ dateNames by decide +kernel) writes.mm entered.mm_lt (by decide)
  have ss := number (show "ss" ∈ dateNames by decide +kernel) writes.ss entered.ss_lt (by decide)
  have st : numberAt (dateUrl texts order ++ 0 :: behind) ((ascii "st").length + 1)
      (firstAt (dateUrl texts order ++ 0 :: behind) "st" 6 94) % 2 ^ 8 =
        (entered.st % 2 ^ 8).toNat := by
    obtain ⟨rest, read, stops⟩ := found (show "st" ∈ dateNames by decide +kernel)
    rw [read, writes.st.strtoul_eq entered.st_ge entered.st_lt stops]
  rw [dateNames] at positions
  rw [Entered.args, ← dom, ← month, ← yy, ← hh, ← mm, ← ss, ← st, dateValues, positions]
  rfl

/-- The last argument is the summer time, as `RTC_time_SetTime` takes it. -/
theorem Entered.args_st (entered : Entered) :
    (entered.args.st : Int).bmod (2 ^ 8) = entered.st := by
  have byte : ((entered.st % 2 ^ 8).toNat : Int) = entered.st % (2 ^ 8 : Nat) :=
    Int.toNat_of_nonneg (Int.emod_nonneg _ (by decide))
  have low := entered.st_ge
  have high := entered.st_lt
  rw [Entered.args, byte, Int.emod_bmod]
  exact Int.bmod_eq_of_le low high

variable [Board]

/-- **A date and a time are set as entered.** In whatever order the fields come, `RTC_time_SetTime`
is called with the seven values. -/
theorem date_request (permuted : order.Perm dateNames) (writes : WritesAll texts entered)
    (fits : (dateUrl texts order).length ≤ 63) (behind tmp : List UInt8) (transferred : Bool)
    (device : Device) :
    dateValues (dateUrl texts order ++ 0 :: behind) = entered.args ∧
      (entered.args.st : Int).bmod (2 ^ 8) = entered.st ∧
      (homePage ⟨dateUrl texts order ++ 0 :: behind, tmp, transferred⟩ device).1 =
        { device with clock := rtcTimeSetTime entered.args device.clock } := by
  have asked : begins "/date?" (dateUrl texts order ++ 0 :: behind) = true := by
    rw [dateUrl, List.append_assoc]
    exact begins_append (by decide) _
  have read := dateValues_dateUrl permuted writes fits behind
  have sent := @homePage_date _ ⟨dateUrl texts order ++ 0 :: behind, tmp, transferred⟩ device asked
  refine ⟨read, entered.args_st, ?_⟩
  rw [sent, dateRequest, read]

end

section

attribute [local instance] Board.plain

/-- The texts of a date and a time. -/
def sampleTexts : String → List UInt8
  | "dom" => ascii "01"
  | "month" => ascii "10"
  | "yy" => ascii "2012"
  | "hh" => ascii "23"
  | "mm" => ascii "59"
  | "ss" => ascii "7"
  | _ => ascii "-60"

/-- What they write. -/
def sample : Entered :=
  ⟨1, 10, 2012, 23, 59, 7, -60, by decide, by decide, by decide, by decide, by decide, by decide,
    by decide, by decide⟩

theorem sample_written : WritesAll sampleTexts sample where
  dom := ⟨by decide, List.all_iff_forall_prop.mp (by decide), by decide⟩
  month := ⟨by decide, List.all_iff_forall_prop.mp (by decide), by decide⟩
  yy := ⟨by decide, List.all_iff_forall_prop.mp (by decide), by decide⟩
  hh := ⟨by decide, List.all_iff_forall_prop.mp (by decide), by decide⟩
  mm := ⟨by decide, List.all_iff_forall_prop.mp (by decide), by decide⟩
  ss := ⟨by decide, List.all_iff_forall_prop.mp (by decide), by decide⟩
  st := @WritesSigned.negative (ascii "60") 60
    ⟨by decide, List.all_iff_forall_prop.mp (by decide), by decide⟩

/-- The fields in another order than that of the form. -/
def sampleOrder : List String := ["st", "hh", "ss", "yy", "mm", "dom", "month"]

/-- The request with these fields. -/
theorem date_request_2012 :
    dateValues (dateUrl sampleTexts sampleOrder ++ [0]) = ⟨2012, 10, 1, 23, 59, 7, 196⟩ ∧
      ((196 : Nat) : Int).bmod (2 ^ 8) = -60 ∧
      (homePage ⟨dateUrl sampleTexts sampleOrder ++ [0], [], true⟩ started).1 =
        { started with clock := rtcTimeSetTime ⟨2012, 10, 1, 23, 59, 7, 196⟩ started.clock } :=
  date_request (by decide +kernel) sample_written (by decide +kernel) [] [] true started

end

end EquinoxClock.Web
