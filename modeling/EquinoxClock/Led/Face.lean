/-
The face of the clock.

`LED_time` paints the background and then the parts of the hands, one over the other. A part is a
stroke: a light and its colour. What a light shows in the end is the colour of the last stroke that
covers it (`lightAt_ledTime`); strokes for lights behind the last one show nowhere.
-/

import EquinoxClock.Led.Patterns
import EquinoxClock.Led.Words

namespace EquinoxClock.Led

open EquinoxClock.Lib EquinoxClock.Rtc

/-! ### Painting -/

/-- What a light shows after some strokes over a background: the last stroke covers the others. -/
def painted {Paint : Type*} (strokes : List (Nat × Paint)) (light : Nat) (background : Paint) :
    Paint :=
  strokes.foldl (fun shown stroke => if stroke.1 = light then stroke.2 else shown) background

section Painted

variable {Paint : Type*} {light : Nat}

theorem painted_cons (stroke : Nat × Paint) (strokes : List (Nat × Paint)) (background : Paint) :
    painted (stroke :: strokes) light background =
      painted strokes light (if stroke.1 = light then stroke.2 else background) := rfl

theorem painted_append (first second : List (Nat × Paint)) (background : Paint) :
    painted (first ++ second) light background =
      painted second light (painted first light background) :=
  List.foldl_append ..

/-- Strokes for other lights leave what a light shows. -/
theorem painted_other {strokes : List (Nat × Paint)} (apart : ∀ stroke ∈ strokes, stroke.1 ≠ light)
    (background : Paint) : painted strokes light background = background := by
  induction strokes with
  | nil => rfl
  | cons stroke strokes ih =>
      obtain ⟨first, later⟩ := List.forall_mem_cons.mp apart
      rw [painted_cons, if_neg first]
      exact ih later

end Painted

/-- The three bytes of a light. -/
def lightAt (raw : Traced Int UInt8) (light : Nat) : UInt8 × UInt8 × UInt8 :=
  (raw.cells ↑(light * 3 + 0), raw.cells ↑(light * 3 + 1), raw.cells ↑(light * 3 + 2))

/-- The bytes that are stored for a colour. -/
def Colour.bytes (colour : Colour) : UInt8 × UInt8 × UInt8 :=
  (UInt8.ofNat colour.r, UInt8.ofNat colour.g, UInt8.ofNat colour.b)

/-- The light of a tail. -/
def tailLight (position back : Nat) : Nat :=
  if position < back then position + 60 - back else position - back

/-- The light of the hour's tail. -/
def hourTailLight (hh back : Nat) : Nat :=
  if hh < 1 then (hh + 12) * 5 - back else hh * 5 - back

/-- The parts of the hands, in the order in which they are painted. -/
def handStrokes (hh mm ss : Nat) (hc mc sc : Colour) : List (Nat × Colour) :=
  [(ss, sc), (tailLight ss 1, sc.fifths 4), (tailLight ss 2, sc.fifths 3),
    (tailLight ss 3, sc.fifths 2), (tailLight ss 4, sc.fifths 1),
    (mm, mc), (tailLight mm 1, mc.fifths 4), (tailLight mm 2, mc.fifths 3),
    (tailLight mm 3, mc.fifths 2),
    ((hh + 12) * 5, hc), (hourTailLight hh 1, hc.fifths 4), (hourTailLight hh 2, hc.fifths 3)]

/-- The hour on the face. -/
def faceHour (clock : Clock) : Nat := if getHh clock > 11 then getHh clock - 12 else getHh clock

/-- The face of the clock in the colours of the lights' code. -/
def face (clock : Clock) (state : Leds) (light : Nat) : Colour :=
  painted (handStrokes (faceHour clock) (getMm clock) (getSs clock) state.hc state.mc state.sc) light
    state.bc

/-! ### One light -/

theorem and_maxBrightness (byte : UInt8) : byte &&& 0xff = byte := by
  refine UInt8.toNat_inj.mp ?_
  rw [UInt8.toNat_and]
  exact Nat.and_two_pow_sub_one_of_lt_two_pow (n := 8) byte.toNat_lt

/-- With a light's colour stored, that light has it, and the others keep theirs. -/
theorem lightAt_storeRgb {group : Nat} (small : group < 2 ^ 29) (r g b : UInt8)
    (raw : Traced Int UInt8) (light : Nat) :
    lightAt (storeRgb group r g b raw) light =
      if group = light then (r, g, b) else lightAt raw light := by
  have stored : ∀ part < 3, rgbIndex group part = ↑(group * 3 + part) :=
    fun part within => rgbIndex_of_small small within
  rw [storeRgb, stored 0 (by decide), stored 1 (by decide), stored 2 (by decide),
    and_maxBrightness, and_maxBrightness, and_maxBrightness]
  by_cases here : group = light
  · subst here
    have red : (raw.write ↑(group * 3 + 0) r |>.write ↑(group * 3 + 1) g
        |>.write ↑(group * 3 + 2) b).cells ↑(group * 3 + 0) = r := by
      rw [Traced.write_other (by omega), Traced.write_other (by omega), Traced.write_same]
    have green : (raw.write ↑(group * 3 + 0) r |>.write ↑(group * 3 + 1) g
        |>.write ↑(group * 3 + 2) b).cells ↑(group * 3 + 1) = g := by
      rw [Traced.write_other (by omega), Traced.write_same]
    rw [if_pos rfl, lightAt, red, green, Traced.write_same]
  · have apart : ∀ part < 3, ∀ part' < 3,
        (↑(light * 3 + part) : Int) ≠ ↑(group * 3 + part') := by omega
    have kept : ∀ part < 3, (raw.write ↑(group * 3 + 0) r |>.write ↑(group * 3 + 1) g
        |>.write ↑(group * 3 + 2) b).cells ↑(light * 3 + part) = raw.cells ↑(light * 3 + part) := by
      intro part within
      rw [Traced.write_other (apart part within 2 (by decide)),
        Traced.write_other (apart part within 1 (by decide)),
        Traced.write_other (apart part within 0 (by decide))]
    rw [if_neg here, lightAt, kept 0 (by decide), kept 1 (by decide), kept 2 (by decide)]
    rfl

theorem lightAt_setColour {group : Nat} (small : group < 2 ^ 29) (colour : Colour) (state : Leds)
    (light : Nat) : lightAt (setColour group colour state).ledRaw light =
      if group = light then colour.bytes else lightAt state.ledRaw light :=
  lightAt_storeRgb small ..

/-- **Strokes**, painted one after the other. -/
theorem lightAt_strokes {strokes : List (Nat × Colour)}
    (small : ∀ stroke ∈ strokes, stroke.1 < 2 ^ 29) (light : Nat) : ∀ {state : Leds} {colour : Colour},
      lightAt state.ledRaw light = colour.bytes →
      lightAt (strokes.foldl (fun state stroke => setColour stroke.1 stroke.2 state) state).ledRaw
        light = (painted strokes light colour).bytes := by
  induction strokes with
  | nil => exact fun shows => shows
  | cons stroke strokes ih =>
      intro state colour shows
      obtain ⟨first, later⟩ := List.forall_mem_cons.mp small
      refine ih later ?_
      rw [lightAt_setColour first, shows]
      exact (apply_ite Colour.bytes ..).symm

/-! ### The background -/

theorem lightAt_storeAll (r g b : UInt8) (raw : Traced Int UInt8) {light : Nat}
    (isLight : light < rgbs) : lightAt (storeAll r g b raw) light = (r, g, b) := by
  have soFar : (light < rgbs → lightAt (storeAll r g b raw) light = (r, g, b)) :=
    fold_invariant (fun count raw => light < count → lightAt raw light = (r, g, b)) rgbs
      (fun t _ raw => storeRgb t r g b raw) raw (fun none => absurd none (Nat.not_lt_zero _))
      fun t bound raw shows below => by
        have small : t < 60 := bound
        rw [lightAt_storeRgb (by omega)]
        split
        · rfl
        · exact shows (by omega)
  exact soFar isLight

/-- The background is on all lights, and nothing but lights is changed. -/
theorem paintBackground_eq (state : Leds) : ∃ ledRaw groups,
    paintBackground state = { state with ledRaw, groups } ∧
      ∀ light < rgbs, lightAt ledRaw light = state.bc.bytes := by
  let colour := state.bc.bytes
  have soFar := fold_invariant (fun count after => ∃ ledRaw groups,
      after = { state with ledRaw, groups } ∧
        (0 < count → ∀ light < rgbs, lightAt ledRaw light = colour)) rgbs
    (fun _ _ state => setRgbAll (UInt8.ofNat state.bc.r) (UInt8.ofNat state.bc.g)
      (UInt8.ofNat state.bc.b) state) state
    ⟨_, _, rfl, fun none => absurd none (by decide)⟩ fun count _ after before => by
      obtain ⟨ledRaw, groups, rfl, -⟩ := before
      exact ⟨_, _, rfl, fun _ light isLight => lightAt_storeAll _ _ _ ledRaw isLight⟩
  obtain ⟨ledRaw, groups, after, shows⟩ := soFar
  exact ⟨ledRaw, groups, after, shows (by decide)⟩

/-! ### The hands -/

theorem getSs_le (clock : Clock) : getSs clock ≤ 63 := Nat.and_le_right

theorem getMm_le (clock : Clock) : getMm clock ≤ 63 := Nat.and_le_right

theorem faceHour_le (clock : Clock) : faceHour clock ≤ 31 := by
  have hour : getHh clock ≤ 31 := Nat.and_le_right
  rw [faceHour]
  split <;> omega

theorem tailLight_lt {position back : Nat} (small : position ≤ 63) :
    tailLight position back < 2 ^ 29 := by
  rw [tailLight]
  split <;> omega

theorem hourTailLight_lt {hh back : Nat} (small : hh ≤ 31) : hourTailLight hh back < 2 ^ 29 := by
  rw [hourTailLight]
  split <;> omega

theorem handStrokes_lt {hh mm ss : Nat} (hour : hh ≤ 31) (minute : mm ≤ 63) (second : ss ≤ 63)
    (hc mc sc : Colour) : ∀ stroke ∈ handStrokes hh mm ss hc mc sc, stroke.1 < 2 ^ 29 := by
  simp only [handStrokes, List.forall_mem_cons]
  refine ⟨by omega, tailLight_lt second, tailLight_lt second, tailLight_lt second,
    tailLight_lt second, by omega, tailLight_lt minute, tailLight_lt minute, tailLight_lt minute,
    by omega, hourTailLight_lt hour, hourTailLight_lt hour, fun _ none => nomatch none⟩

/-- `LED_time` paints the background, and then one part of a hand after the other. -/
theorem ledTime_strokes (clock : Clock) (state : Leds) : ledTime clock state =
    calulateLedMibamBits ((handStrokes (faceHour clock) (getMm clock) (getSs clock) state.hc state.mc
      state.sc).foldl (fun state stroke => setColour stroke.1 stroke.2 state)
      (paintBackground (resetLeds state))) := by
  obtain ⟨ledRaw, groups, background, -⟩ := paintBackground_eq (resetLeds state)
  rw [ledTime, background]
  rfl

/-- **The clock's face.** After `LED_time`, each light shows the last stroke that covers it. -/
theorem lightAt_ledTime (clock : Clock) (state : Leds) {light : Nat} (isLight : light < rgbs) :
    lightAt (ledTime clock state).ledRaw light = (face clock state light).bytes := by
  obtain ⟨ledRaw, groups, background, shows⟩ := paintBackground_eq (resetLeds state)
  rw [ledTime_strokes, lightAt, calulateLedMibamBits_cells, background]
  exact lightAt_strokes
    (handStrokes_lt (faceHour_le clock) (getMm_le clock) (getSs_le clock) state.hc state.mc state.sc)
    light (shows light isLight)

end EquinoxClock.Led
