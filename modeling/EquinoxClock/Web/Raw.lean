/-
`/raw?`: one light in one hue.

The scan of the request looks for two letters and reads the numbers behind them; `scanRaw_eq` takes
it apart into two searches, and `rawValues_rawUrl` says what they find in a request for a light and a
hue. The hue is read one place too late, so its first digit is left out. The pattern selected is not
the one that leaves the lights alone, so the clock paints over them. And nothing keeps the numbers
inside the arrays. `raw_iff` puts the three together.
-/

import EquinoxClock.Led.Counters
import EquinoxClock.Led.Face
import EquinoxClock.Lib.Numeral
import EquinoxClock.Web.HomePage

namespace EquinoxClock.Web

open EquinoxClock.Led EquinoxClock.Lib EquinoxClock.Rtc

/-! ### The numbers that are read -/

/-- `get_string_global`, with a URL copied into it: `strncpy` fills it up with zeros. -/
def getStringGlobal (url : List UInt8) : List UInt8 := strncpyBytes 63 url ++ [0]

/-- The request for a light and a hue. -/
def rawUrl (l h : Nat) : List UInt8 :=
  ascii "/raw?" ++ 108 :: 61 :: (decimal l ++ 38 :: 104 :: 61 :: decimal h)

/-- The first number other than zero that stands `skip` places behind a letter. -/
def numberBehind (letter : UInt8) (skip : Nat) : (count : Nat) → (memory : List UInt8) → Nat
  | 0, _ => 0
  | count + 1, memory =>
      if memory.headD 0 = letter ∧ strtoul (memory.drop skip) 10 ≠ 0 then
        strtoul (memory.drop skip) 10
      else numberBehind letter skip count memory.tail

/-- The light that the request is read to name: its digits, as far as the buffer holds them. -/
def lightRead (l : Nat) : Nat := strtoul ((decimal l).take 56) 10

/-- The hue that the request is read to name: its digits but for the first. Behind twelve digits of
the light, none is found. -/
def hueRead (l h : Nat) : Nat :=
  if (decimal l).length < 12 then
    strtoul ((decimal h).take (53 - (decimal l).length)).tail 10
  else 0

theorem begins_letter {letter : String} {c : UInt8} (one : ascii letter = [c]) (nonzero : c ≠ 0)
    (memory : List UInt8) : begins letter memory = true ↔ memory.headD 0 = c := by
  rw [begins, one, beq_iff_eq, List.length_singleton, strncmp, List.headD_cons]
  split
  · next apart => exact iff_of_false (sub_ne_zero_of_ne apart) apart
  · next same =>
      have found : memory.headD 0 = c := not_not.mp same
      rw [if_neg (found ▸ nonzero)]
      exact iff_of_true rfl found

section Behind

variable {letter : UInt8} {skip count : Nat} {memory : List UInt8}

theorem numberBehind_other (other : memory.headD 0 ≠ letter) :
    numberBehind letter skip (count + 1) memory = numberBehind letter skip count memory.tail :=
  if_neg fun both => other both.1

theorem numberBehind_found (found : memory.headD 0 = letter)
    (nonzero : strtoul (memory.drop skip) 10 ≠ 0) :
    numberBehind letter skip (count + 1) memory = strtoul (memory.drop skip) 10 :=
  if_pos ⟨found, nonzero⟩

theorem numberBehind_zero (zero : strtoul (memory.drop skip) 10 = 0) :
    numberBehind letter skip (count + 1) memory = numberBehind letter skip count memory.tail :=
  if_neg fun both => both.2 zero

theorem numberBehind_cons (c : UInt8) (rest : List UInt8) (other : c ≠ letter) :
    numberBehind letter skip (count + 1) (c :: rest) = numberBehind letter skip count rest :=
  numberBehind_other other

/-- Characters other than the letter are passed over. -/
theorem numberBehind_append {front : List UInt8} (others : ∀ c ∈ front, c ≠ letter) :
    numberBehind letter skip (front.length + count) (front ++ memory) =
      numberBehind letter skip count memory := by
  induction front with
  | nil => rw [List.length_nil, Nat.zero_add, List.nil_append]
  | cons c front ih =>
      rw [List.length_cons, Nat.add_right_comm, List.cons_append,
        numberBehind_cons c _ (others c List.mem_cons_self)]
      exact ih fun d member => others d (List.mem_cons_of_mem c member)

/-- Where the letter does not stand, there is no number behind it. -/
theorem numberBehind_none (nonzero : letter ≠ 0) (others : ∀ c ∈ memory.take count, c ≠ letter) :
    numberBehind letter skip count memory = 0 := by
  induction count generalizing memory with
  | zero => rfl
  | succ count ih =>
      cases memory with
      | nil =>
          rw [@numberBehind_other letter skip count [] nonzero.symm]
          exact ih (by rw [List.tail_nil, List.take_nil]; exact fun _ none => nomatch none)
      | cons c rest =>
          rw [List.take_succ_cons] at others
          rw [numberBehind_cons c rest (others c List.mem_cons_self)]
          exact ih fun d member => others d (List.mem_cons_of_mem c member)

end Behind

/-- The number read behind a letter, or the one that is found later. -/
theorem numberBehind_here {letter : UInt8} {skip count : Nat} {memory : List UInt8}
    (found : memory.headD 0 = letter) : numberBehind letter skip (count + 1) memory =
      if strtoul (memory.drop skip) 10 = 0 then numberBehind letter skip count memory.tail
      else strtoul (memory.drop skip) 10 := by
  by_cases zero : strtoul (memory.drop skip) 10 = 0
  · rw [numberBehind_zero zero, if_pos zero]
  · rw [numberBehind_found found zero, if_neg zero]

/-- If the letter does not come again, it is the number behind it. -/
theorem numberBehind_only {letter : UInt8} {skip count : Nat} {rest : List UInt8}
    (nonzero : letter ≠ 0) (others : ∀ c ∈ rest, c ≠ letter) :
    numberBehind letter skip (count + 1) (letter :: rest) =
      strtoul ((letter :: rest).drop skip) 10 := by
  rw [@numberBehind_here letter skip count (letter :: rest) rfl, List.tail_cons,
    numberBehind_none nonzero fun c member =>
    others c (List.mem_of_mem_take member)]
  exact ite_eq_right_iff.mpr Eq.symm

/-- **The scan**, in short: each number is looked for on its own. -/
theorem scanRaw_eq (url : List UInt8) (count : Nat) : ∀ i l h, scanRaw url count i l h =
    (if l = 0 then numberBehind 108 2 count (url.drop i) else l,
      if h = 0 then numberBehind 104 3 count (url.drop i) else h) := by
  induction count with
  | zero =>
      intro i l h
      refine Prod.ext ?_ ?_
      · exact (ite_eq_right_iff.mpr fun zero => zero.symm).symm
      · exact (ite_eq_right_iff.mpr fun zero => zero.symm).symm
  | succ count ih =>
      intro i l h
      have next : ∀ l h, (if l ≠ 0 ∧ h ≠ 0 then (l, h) else scanRaw url count (i + 1) l h) =
          (if l = 0 then numberBehind 108 2 count (url.drop i).tail else l,
            if h = 0 then numberBehind 104 3 count (url.drop i).tail else h) := by
        intro l h
        rw [List.tail_drop]
        split
        · next both => rw [if_neg both.1, if_neg both.2]
        · exact ih (i + 1) l h
      have isH := begins_letter (show ascii "h" = [104] by decide) (by decide) (url.drop i)
      have isL := begins_letter (show ascii "l" = [108] by decide) (by decide) (url.drop i)
      by_cases readsH : h = 0 ∧ begins "h" (url.drop i)
      · rw [scanRaw, if_pos readsH]
        obtain ⟨rfl, beginsH⟩ := readsH
        have here := isH.mp beginsH
        have notL : (url.drop i).headD 0 ≠ 108 := by rw [here]; decide
        rw [numberBehind_other notL, numberBehind_here here, List.drop_drop, if_pos rfl]
        exact next l _
      · have laterH : (if h = 0 then numberBehind 104 3 (count + 1) (url.drop i) else h) =
            if h = 0 then numberBehind 104 3 count (url.drop i).tail else h :=
          ite_congr rfl (fun zero => numberBehind_other fun here => readsH ⟨zero, isH.mpr here⟩)
            fun _ => rfl
        rw [scanRaw, if_neg readsH, laterH]
        by_cases readsL : l = 0 ∧ begins "l" (url.drop i)
        · rw [if_pos readsL]
          obtain ⟨rfl, beginsL⟩ := readsL
          rw [numberBehind_here (isL.mp beginsL), List.drop_drop, if_pos rfl]
          exact next _ h
        · have laterL : (if l = 0 then numberBehind 108 2 (count + 1) (url.drop i) else l) =
              if l = 0 then numberBehind 108 2 count (url.drop i).tail else l :=
            ite_congr rfl (fun zero => numberBehind_other fun here => readsL ⟨zero, isL.mpr here⟩)
              fun _ => rfl
          rw [if_neg readsL, laterL]
          exact next l h

/-! ### The request in the buffer -/

/-- What stands behind the digits of the light. -/
def behindLight (l h zeros : Nat) : List UInt8 :=
  (38 :: 104 :: 61 :: decimal h).take (56 - (decimal l).length) ++ List.replicate (zeros + 1) 0

theorem getStringGlobal_rawUrl (l h : Nat) : ∃ zeros, getStringGlobal (rawUrl l h) =
    ascii "/raw?" ++ 108 :: 61 :: ((decimal l).take 56 ++ behindLight l h zeros) := by
  have digits : ∀ n, ∀ c ∈ decimal n, c ≠ 0 := fun n c member =>
    (isDecimal_of_mem member).ne (.inl (by decide))
  have noNul : ∀ c ∈ rawUrl l h, c ≠ 0 := by
    simp only [rawUrl, List.forall_mem_cons, List.forall_mem_append]
    exact ⟨noNul_of_all (by decide), by decide, by decide, digits l, by decide, by decide, by decide,
      digits h⟩
  refine ⟨63 - (rawUrl l h).length, ?_⟩
  rw [getStringGlobal, strncpyBytes_eq noNul, List.append_assoc, ← List.replicate_succ', behindLight,
    ← List.append_assoc, ← List.take_append]
  generalize List.replicate (63 - (rawUrl l h).length + 1) (0 : UInt8) = zeros
  rw [rawUrl, show ascii "/raw?" = [47, 114, 97, 119, 63] by decide]
  rfl

theorem isDecimal_of_take {n count : Nat} {c : UInt8} (member : c ∈ (decimal n).take count) :
    IsDecimal c :=
  isDecimal_of_mem (List.mem_of_mem_take member)

theorem stops_behindLight (l h zeros : Nat) : Stops (behindLight l h zeros) := by
  have head : (behindLight l h zeros).headD 0 = 38 ∨ (behindLight l h zeros).headD 0 = 0 := by
    rw [behindLight]
    cases 56 - (decimal l).length
    · exact .inr rfl
    · exact .inl rfl
  rw [Stops]
  obtain head | head := head <;> rw [head] <;> decide

/-- The letter `l` stands in front of the light's number only. -/
theorem others_light (l h zeros : Nat) :
    ∀ c ∈ 61 :: ((decimal l).take 56 ++ behindLight l h zeros), c ≠ 108 := by
  have text : ∀ c ∈ 38 :: 104 :: 61 :: decimal h, c ≠ 108 := by
    simp only [List.forall_mem_cons]
    exact ⟨by decide, by decide, by decide, fun c member =>
      (isDecimal_of_mem member).ne (.inr (by decide))⟩
  simp only [behindLight, List.forall_mem_cons, List.forall_mem_append]
  refine ⟨by decide, fun c member => (isDecimal_of_take member).ne (.inr (by decide)),
    fun c member => text c (List.mem_of_mem_take member), fun c member => ?_⟩
  rw [List.eq_of_mem_replicate member]
  decide

theorem numberBehind_light (l h zeros : Nat) :
    numberBehind 108 2 15 (108 :: 61 :: ((decimal l).take 56 ++ behindLight l h zeros)) =
      lightRead l :=
  (numberBehind_only (by decide) (others_light l h zeros)).trans
    (strtoul_append (fun _ => isDecimal_of_take) (stops_behindLight l h zeros))

/-- In front of the letter `h` there is none. -/
theorem others_front (l : Nat) : ∀ c ∈ 108 :: 61 :: ((decimal l) ++ [38]), c ≠ 104 := by
  simp only [List.forall_mem_cons, List.forall_mem_append]
  exact ⟨by decide, by decide, fun c member => (isDecimal_of_mem member).ne (.inr (by decide)),
    by decide, fun _ none => nomatch none⟩

/-- Behind a short number, the letter `h` comes in time. -/
theorem numberBehind_near (l h zeros : Nat) (near : (decimal l).length < 12) :
    numberBehind 104 3 15 (108 :: 61 :: ((decimal l).take 56 ++ behindLight l h zeros)) =
      strtoul ((decimal h).take (53 - (decimal l).length)).tail 10 := by
  have whole : (decimal l).take 56 = decimal l := List.take_of_length_le (by omega)
  obtain ⟨more, room⟩ : ∃ more, 53 - (decimal l).length = more + 1 :=
    ⟨52 - (decimal l).length, by omega⟩
  obtain ⟨left, count⟩ : ∃ left, 15 = (108 :: 61 :: (decimal l ++ [38])).length + (left + 1) := by
    refine ⟨11 - (decimal l).length, ?_⟩
    simp only [List.length_cons, List.length_append, List.length_nil]
    omega
  obtain ⟨c, ds, digits⟩ := List.exists_cons_of_ne_nil (decimal_ne_nil h)
  have text : 108 :: 61 :: ((decimal l).take 56 ++ behindLight l h zeros) =
      (108 :: 61 :: (decimal l ++ [38])) ++
        104 :: 61 :: c :: (ds.take more ++ List.replicate (zeros + 1) 0) := by
    rw [whole, behindLight, show 56 - (decimal l).length = more + 4 by omega, digits]
    simp only [List.cons_append, List.append_assoc, List.nil_append, List.take_succ_cons]
  have isDecimal : ∀ d ∈ ds, IsDecimal d := fun d member =>
    isDecimal_of_mem (digits ▸ List.mem_cons_of_mem c member)
  have others : ∀ d ∈ 61 :: c :: (ds.take more ++ List.replicate (zeros + 1) 0), d ≠ 104 := by
    simp only [List.forall_mem_cons, List.forall_mem_append]
    refine ⟨by decide, (isDecimal_of_mem (digits ▸ List.mem_cons_self)).ne (.inr (by decide)),
      fun d member => (isDecimal d (List.mem_of_mem_take member)).ne (.inr (by decide)),
      fun d member => ?_⟩
    rw [List.eq_of_mem_replicate member]
    decide
  rw [text, count, numberBehind_append (others_front l), room, digits, List.take_succ_cons,
    List.tail_cons, numberBehind_only (by decide) others]
  exact strtoul_append (fun d member => isDecimal d (List.mem_of_mem_take member))
    (stops_zeros (zeros + 1))

/-- Behind a long one, the scan ends before it comes. -/
theorem numberBehind_far (l h zeros : Nat) (far : ¬ (decimal l).length < 12) :
    numberBehind 104 3 15 (108 :: 61 :: ((decimal l).take 56 ++ behindLight l h zeros)) = 0 := by
  have front : ((decimal l).take 56 ++ behindLight l h zeros).take 13 =
      (decimal l ++ [38]).take 13 := by
    have split : decimal l ++ 38 :: 104 :: 61 :: decimal h =
        (decimal l ++ [38]) ++ 104 :: 61 :: decimal h := by
      rw [List.append_assoc, List.singleton_append]
    rw [behindLight, ← List.append_assoc, ← List.take_append, split,
      List.take_append_of_le_length, List.take_take, List.take_append_of_le_length]
    · rfl
    · rw [List.length_append, List.length_singleton]
      omega
    · simp only [List.length_take, List.length_append, List.length_cons, List.length_nil]
      omega
  refine numberBehind_none (by decide) fun c member => others_front l c ?_
  rw [List.take_succ_cons, List.take_succ_cons, front] at member
  simp only [List.mem_cons] at member ⊢
  exact member.imp_right (Or.imp_right List.mem_of_mem_take)

/-- **What a request is read to name.** -/
theorem rawValues_rawUrl (l h : Nat) :
    rawValues (getStringGlobal (rawUrl l h)) = (lightRead l, hueRead l h) := by
  obtain ⟨zeros, buffer⟩ := getStringGlobal_rawUrl l h
  have query : (getStringGlobal (rawUrl l h)).drop 5 =
      108 :: 61 :: ((decimal l).take 56 ++ behindLight l h zeros) := by
    rw [buffer, show ascii "/raw?" = [47, 114, 97, 119, 63] by decide]
    rfl
  rw [rawValues, scanRaw_eq, query, if_pos rfl, if_pos rfl]
  refine congrArg₂ Prod.mk (numberBehind_light l h zeros) ?_
  rw [hueRead]
  split
  · next near => exact numberBehind_near l h zeros near
  · next far => exact numberBehind_far l h zeros far

/-! ### The hues of the table -/

/-- The bytes of a row. -/
def rowBytes (row : Nat × Nat × Nat) : UInt8 × UInt8 × UInt8 :=
  (UInt8.ofNat (row.1 * maxBrightness / redReduction),
    UInt8.ofNat (row.2.1 * maxBrightness / greenReduction),
    UInt8.ofNat (row.2.2 * maxBrightness / blueReduction))

theorem lookupHsv2rgb_row [Board] {hue : Nat} (row : hue < rgbLookup.length) :
    lookupHsv2rgb hue maxBrightness = rowBytes (rgbLookup)[hue] := by
  rw [lookupHsv2rgb, rgbLookupAt, List.getD_eq_getElem _ _ row]
  rfl

/-- How far green is ahead of red. -/
def greenLead (bytes : UInt8 × UInt8 × UInt8) : Int := bytes.2.1.toNat - bytes.1.toNat

/-- From red to green, green gets ahead; up to there is no blue, and from there on there is. -/
theorem rgbLookup_rows :
    ((rgbLookup.take 121).map fun row => greenLead (rowBytes row)).IsChain (· < ·) ∧
      (∀ row ∈ rgbLookup.take 100, (rowBytes row).2.2 = 0) ∧
      ∀ row ∈ rgbLookup.drop 121, (rowBytes row).2.2 ≠ 0 := by
  decide +kernel

theorem getElem_mem_drop {Row : Type*} {rows : List Row} {index count : Nat}
    (row : index < rows.length) (behind : count ≤ index) : (rows)[index] ∈ rows.drop count := by
  refine List.mem_drop_iff_getElem.mpr ⟨index - count, by omega, ?_⟩
  congr 1
  omega

/-- A hue has another colour than a smaller one below 100. -/
theorem lookupHsv2rgb_ne [Board] {read hue : Nat} (short : read < 100) (before : read < hue)
    (row : hue < rgbLookup.length) :
    lookupHsv2rgb read maxBrightness ≠ lookupHsv2rgb hue maxBrightness := by
  obtain ⟨leads, noBlue, blue⟩ := rgbLookup_rows
  have length := rgbLookup_length
  rw [lookupHsv2rgb_row row, lookupHsv2rgb_row (show read < rgbLookup.length by omega)]
  intro same
  by_cases near : hue < 121
  · have ordered := List.pairwise_iff_getElem.mp (List.isChain_iff_pairwise.mp leads) read hue
      (by rw [List.length_map, List.length_take]; omega)
      (by rw [List.length_map, List.length_take]; omega) before
    rw [List.getElem_map, List.getElem_map, List.getElem_take, List.getElem_take, same] at ordered
    exact Int.lt_irrefl _ ordered
  · refine blue _ (getElem_mem_drop row (by omega)) ?_
    rw [← same]
    exact noBlue _ (List.mem_take_iff_getElem.mpr ⟨read, by omega, rfl⟩)

/-- Without its first digit a hue is smaller. -/
theorem strtoul_tail : ∀ hue < 360,
    let read := strtoul ((Nat.toDigits 10 hue).map fun c => UInt8.ofNat c.toNat).tail 10
    read < 100 ∧ (hue = 0 → read = 0) ∧ (hue ≠ 0 → read < hue) := by
  decide +kernel

theorem lightRead_of_light {l : Nat} (light : l < rgbs) : lightRead l = l := by
  have lights : l < 60 := light
  have short : (decimal l).length ≤ 2 := (decimal_length_le (by decide)).mpr (by omega)
  have read := strtoul_decimal l (stops_zeros 0)
  rw [List.replicate_zero, List.append_nil, capped, if_neg (by omega)] at read
  rw [lightRead, List.take_of_length_le (by omega), read]

theorem hueRead_of_hue {l h : Nat} (light : l < rgbs) (hue : h < rgbLookup.length) :
    hueRead l h < 100 ∧ (h = 0 → hueRead l h = 0) ∧ (h ≠ 0 → hueRead l h < h) := by
  have lights : l < 60 := light
  have length := rgbLookup_length
  have shortL : (decimal l).length ≤ 2 := (decimal_length_le (by decide)).mpr (by omega)
  have shortH : (decimal h).length ≤ 3 := (decimal_length_le (by decide)).mpr (by omega)
  have read : hueRead l h =
      strtoul ((Nat.toDigits 10 h).map fun c => UInt8.ofNat c.toNat).tail 10 := by
    rw [hueRead, if_pos (by omega), List.take_of_length_le (by omega), decimal_eq]
  rw [read]
  exact strtoul_tail h (by omega)

/-! ### What a request does -/

section

variable [Board]

/-- A light shows a hue. -/
def ShowsHue (l h : Nat) (leds : Leds) : Prop :=
  lightAt leds.ledRaw l = lookupHsv2rgb h maxBrightness

/-- The light set last is this one, and it shows the hue. -/
def SetTo (l h : Nat) (leds : Leds) : Prop :=
  leds.groups.head? = some (l : Int) ∧ ShowsHue l h leds

/-- The lights after the request. -/
def answered (l h : Nat) (tmp : List UInt8) (transferred : Bool) (device : Device) : Leds :=
  (homePage ⟨getStringGlobal (rawUrl l h), tmp, transferred⟩ device).1.leds

variable (l h : Nat) (tmp : List UInt8) (transferred : Bool) (device : Device)

theorem answered_eq : answered l h tmp transferred device =
    setHue (lightRead l) (hueRead l h) (setLedPattern transferred 255 1 0 (resetLeds device.leds)) := by
  obtain ⟨zeros, buffer⟩ := getStringGlobal_rawUrl l h
  have asked : begins "/raw?" (getStringGlobal (rawUrl l h)) = true := by
    rw [buffer]
    exact begins_append (by decide) _
  have values := rawValues_rawUrl l h
  have sent := @homePage_raw _ ⟨getStringGlobal (rawUrl l h), tmp, transferred⟩ device asked
  rw [answered, sent]
  dsimp only
  rw [rawRequest]
  dsimp only
  rw [values]

/-- The request leaves the colours of the clock. -/
theorem face_answered (clock : Clock) (light : Nat) :
    face clock (answered l h tmp transferred device) light = face clock device.leds light := by
  obtain ⟨pot, selected⟩ := setLedPattern_eq transferred 255 1 0 (resetLeds device.leds)
  rw [answered_eq, setHue_eq, selected]
  rfl

theorem answered_ledPattern : (answered l h tmp transferred device).ledPattern = 255 := by
  have kept : ∀ led hue state, (setHue led hue state).ledPattern = state.ledPattern :=
    fun _ _ _ => rfl
  rw [answered_eq, kept, setLedPattern_ledPattern]

/-- **The light** shows the hue asked for exactly if that is the hue zero: of the others, the first
digit is left out. -/
theorem setTo_iff {l h : Nat} (light : l < rgbs) (hue : h < rgbLookup.length) :
    SetTo l h (answered l h tmp transferred device) ↔ h = 0 := by
  have lights : l < 60 := light
  have group : ((lightRead l : Nat) : Int).bmod (2 ^ 32) = l := by
    rw [lightRead_of_light light]
    exact Int.bmod_eq_of_le (by omega) (by omega)
  obtain ⟨short, zero, smaller⟩ := hueRead_of_hue light hue
  have shows : ShowsHue l h (answered l h tmp transferred device) ↔
      lookupHsv2rgb (hueRead l h) maxBrightness = lookupHsv2rgb h maxBrightness := by
    rw [ShowsHue, answered_eq, setHue_eq, group, lightAt_storeRgb (by omega), if_pos rfl]
  have given : (answered l h tmp transferred device).groups.head? = some (l : Int) := by
    rw [answered_eq, setHue_eq, group]
    rfl
  rw [SetTo, shows, and_iff_right given]
  by_cases none : h = 0
  · subst none
    exact iff_of_true (congrArg (lookupHsv2rgb · maxBrightness) (zero rfl)) rfl
  · exact iff_of_false (lookupHsv2rgb_ne short (smaller none) hue) none

/-! ### What follows -/

/-- What goes on without a further request: timer 2 fires, or the main loop comes by. -/
inductive Following where
  | timer2
  | loop (clock : Clock)

/-- A step of what follows. -/
def followStep (leds : Leds) : Following → Leds
  | .timer2 => timer2IrqHandler leds
  | .loop clock => ledLoop clock leds

/-- The light still shows the hue after the step. -/
def Stays (l h : Nat) (leds : Leds) (event : Following) : Prop := ShowsHue l h (followStep leds event)

/-- If the step runs the selected pattern, the face of the clock has the light in that very colour. -/
def FaceAgrees (l h : Nat) (leds : Leds) : Following → Prop
  | .timer2 => True
  | .loop clock => leds.ledIntOccured = true →
      (face clock leds l).bytes = lookupHsv2rgb h maxBrightness

/-- The number that `/raw?` selects is not that of `LEDP_RAW`, but of no pattern. -/
theorem runPattern_raw (clock : Clock) {leds : Leds} (selected : leds.ledPattern = 255) :
    runPattern clock leds = ledTime clock leds := by
  have other : ∀ no, (255 : UInt8) ≠ no → leds.ledPattern ≠ no := fun _ apart => selected ▸ apart
  refine @runPattern_cases _ (fun next => next = ledTime clock leds) clock leds
    (absurd · (other _ (by decide))) (fun _ => rfl) (absurd · (other _ (by decide)))
    (absurd · (other _ (by decide))) (absurd · (other _ (by decide))) (fun smooth => ?_)
    (absurd · (other _ (by decide))) (absurd · (other _ (by decide)))
    (absurd · (other _ (by decide))) (absurd · (other _ (by decide)))
  rw [selected] at smooth
  exact absurd smooth (by decide)

theorem stays_step {l h : Nat} (light : l < rgbs) {leds : Leds} (selected : leds.ledPattern = 255)
    (shows : ShowsHue l h leds) (event : Following) :
    (Stays l h leds event ↔ FaceAgrees l h leds event) ∧
      (followStep leds event).ledPattern = 255 := by
  cases event with
  | timer2 => exact ⟨iff_of_true shows trivial, selected⟩
  | loop clock =>
      by_cases occured : leds.ledIntOccured = true
      · have step : followStep leds (.loop clock) =
            { ledTime clock leds with ledIntOccured := false } := by
          rw [followStep, ledLoop, if_pos occured, runPattern_raw clock selected]
        have face : ShowsHue l h (followStep leds (.loop clock)) ↔
            (face clock leds l).bytes = lookupHsv2rgb h maxBrightness := by
          rw [step, ShowsHue, ← lightAt_ledTime clock leds light]
        refine ⟨face.trans ⟨fun same _ => same, fun agrees => agrees occured⟩, ?_⟩
        have pattern := (numbers_ledLoop clock occured).1
        rw [selected] at pattern
        exact pattern
      · have same : followStep leds (.loop clock) = leds := by
          rw [followStep, ledLoop, if_neg occured]
        rw [Stays, same]
        exact ⟨iff_of_true shows fun isTrue => absurd isTrue occured, selected⟩

/-! ### The arrays -/

/-- Only bytes of `LED_RAW` have been touched, and only rows of `RGB_LOOKUP` read. -/
def InArrays (leds : Leds) : Prop :=
  leds.ledRaw.Within InBytes ∧ ∀ hue ∈ leds.hues, hue < rgbLookup.length

omit [Board] in
/-- The bytes of a light are in the array, if the 32 bits of their indices say so. -/
theorem inBytes_rgbIndex (light : Nat) :
    (∀ part < 3, InBytes (rgbIndex ((light : Int).bmod (2 ^ 32)) part)) ↔
      3 * light % 2 ^ 32 < 178 := by
  have index : ∀ part < 3, InBytes (rgbIndex ((light : Int).bmod (2 ^ 32)) part) ↔
      (3 * light % 2 ^ 32 + part) % 2 ^ 32 < 180 := by
    intro part within
    rw [InBytes, leds_eq, rgbIndex, Int.bmod_def, Int.bmod_def, Nat.mod_add_mod]
    split_ifs <;> omega
  have below := Nat.mod_lt (3 * light) (show 0 < 2 ^ 32 by decide)
  generalize 3 * light % 2 ^ 32 = start at *
  constructor
  · intro inside
    have first := (index 0 (by decide)).mp (inside 0 (by decide))
    have last := (index 2 (by decide)).mp (inside 2 (by decide))
    omega
  · intro small part within
    refine (index part within).mpr ?_
    omega

omit [Board] in
theorem inArrays_resetLeds (leds : Leds) : InArrays (resetLeds leds) ↔ InArrays leds :=
  and_congr_left fun _ => within_clearRaw leds.ledRaw

omit [Board] in
theorem inArrays_setLedPattern (no : UInt8) (delay : Nat) (bri : UInt8) (leds : Leds) :
    InArrays (setLedPattern transferred no delay bri leds) ↔ InArrays leds := by
  obtain ⟨pot, after⟩ := setLedPattern_eq transferred no delay bri leds
  rw [after]
  exact and_congr_left fun _ => within_clearRaw leds.ledRaw

/-- A light and a hue are three bytes and a row. -/
theorem inArrays_setHue (light hue : Nat) (leds : Leds) : InArrays (setHue light hue leds) ↔
    InArrays leds ∧ 3 * light % 2 ^ 32 < 178 ∧ hue < rgbLookup.length := by
  have bytes : (setHue light hue leds).ledRaw.Within InBytes ↔
      3 * light % 2 ^ 32 < 178 ∧ leds.ledRaw.Within InBytes :=
    (within_stores ..).trans (and_congr_left fun _ => inBytes_rgbIndex light)
  have hues : (∀ row ∈ (setHue light hue leds).hues, row < rgbLookup.length) ↔
      hue < rgbLookup.length ∧ ∀ row ∈ leds.hues, row < rgbLookup.length := List.forall_mem_cons
  rw [InArrays, InArrays, bytes, hues]
  constructor
  · rintro ⟨⟨small, before⟩, row, rows⟩
    exact ⟨⟨before, rows⟩, small, row⟩
  · rintro ⟨⟨before, rows⟩, small, row⟩
    exact ⟨⟨small, before⟩, row, rows⟩

/-- The accesses of the request. -/
theorem inArrays_iff : InArrays (answered l h tmp transferred device) ↔
    InArrays device.leds ∧ 3 * lightRead l % 2 ^ 32 < 178 ∧ hueRead l h < rgbLookup.length := by
  have before := (inArrays_setLedPattern transferred 255 1 0 (resetLeds device.leds)).trans
    (inArrays_resetLeds device.leds)
  rw [answered_eq, inArrays_setHue]
  exact and_congr_left fun _ => before

/-- **A light and a hue.** The request for a light and a hue sets them, and they stay, exactly if the
hue is zero and the clock's face, where it is painted, happens to agree. And for all numbers the
request stays inside the arrays exactly if the ones it reads do. -/
theorem raw_iff (following : List Following) :
    (l < rgbs → h < rgbLookup.length →
      (SetTo l h (answered l h tmp transferred device) ∧
          Along followStep (Stays l h) (answered l h tmp transferred device) following ↔
        h = 0 ∧ Along followStep (FaceAgrees l h) (answered l h tmp transferred device) following)) ∧
    (InArrays (answered l h tmp transferred device) ↔
      InArrays device.leds ∧ 3 * lightRead l % 2 ^ 32 < 178 ∧ hueRead l h < rgbLookup.length) := by
  refine ⟨fun light hue => ?_, inArrays_iff l h tmp transferred device⟩
  rw [← setTo_iff tmp transferred device light hue]
  refine and_congr_right fun set => ?_
  exact @along_iff _ _ followStep (FaceAgrees l h)
    (fun leds => leds.ledPattern = 255 ∧ ShowsHue l h leds) (Stays l h)
    (fun leds event holds => (stays_step light holds.1 holds.2 event).1)
    (fun leds event holds agrees => ⟨(stays_step light holds.1 holds.2 event).2,
      (stays_step light holds.1 holds.2 event).1.mpr agrees⟩) following _
    ⟨answered_ledPattern l h tmp transferred device, set.2⟩

end

section

attribute [local instance] Board.plain

/-- Light 5 in the hue zero, until the main loop comes by. -/
theorem raw_five :
    SetTo 5 0 (answered 5 0 [] true started) ∧
      Along followStep (Stays 5 0) (answered 5 0 [] true started) [.timer2] :=
  ((raw_iff 5 0 [] true started [.timer2]).1 (by decide) (by rw [rgbLookup_length]; decide)).mpr
    ⟨rfl, trivial, trivial⟩

/-- **The first digit is left out**, the clock paints over the light, and light 100 lies behind the
array. -/
theorem raw_fails :
    ¬ SetTo 5 123 (answered 5 123 [] true started) ∧
      ¬ Along followStep (Stays 5 0) (answered 5 0 [] true started) [.timer2, .loop Clock.cleared] ∧
      ¬ InArrays (answered 100 0 [] true started) := by
  have light : 5 < rgbs := by decide
  have hue : ∀ h < 360, h < rgbLookup.length := by
    rw [rgbLookup_length]
    exact fun _ => id
  refine ⟨fun set => ?_, fun stays => ?_, fun inside => ?_⟩
  · exact absurd ((setTo_iff [] true started light (hue 123 (by decide))).mp set) (by decide)
  · have set := (setTo_iff [] true started light (hue 0 (by decide))).mpr rfl
    have ticked := stays_step light (answered_ledPattern 5 0 [] true started) set.2 .timer2
    have agrees := (stays_step light ticked.2 stays.1 (.loop Clock.cleared)).1.mp stays.2.1 rfl
    have painted : (face Clock.cleared (answered 5 0 [] true started) 5).bytes =
        lookupHsv2rgb 0 maxBrightness := agrees
    rw [face_answered] at painted
    exact absurd painted (by decide +kernel)
  · have read : lightRead 100 = 100 := by
      rw [lightRead, decimal_eq]
      decide +kernel
    obtain ⟨-, small, -⟩ := (inArrays_iff 100 0 [] true started).mp inside
    rw [read] at small
    exact absurd small (by decide)

end

end EquinoxClock.Web
