/-
The hands as they are seen.

A hand has a head and a tail of lights behind it, around the face, and `wantedFace` is the face with
the three hands on it. `LED_time` paints it but for the head of the hour hand: that one goes twelve
hours on, behind the last light, at every hour (`ledTime_head`).
-/

import EquinoxClock.Led.Counters
import EquinoxClock.Led.Face

namespace EquinoxClock.Led

open EquinoxClock.Lib EquinoxClock.Rtc

/-! ### The face that is wanted -/

/-- The light some places behind another, around the face. -/
def behind (position back : Nat) : Nat := (position + rgbs - back) % rgbs

/-- A hand: its head, and a tail that fades. -/
def hand (position : Nat) (colour : Colour) (tail : Nat) : List (Nat × Colour) :=
  (position, colour) ::
    (List.range tail).map fun back => (behind position (back + 1), colour.fifths (4 - back))

/-- The face that is wanted: the background, and over it the hands of the seconds, of the minutes
and of the hours. -/
def wantedFace (clock : Clock) (state : Leds) (light : Nat) : Colour :=
  painted (hand (getSs clock) state.sc 4 ++ hand (getMm clock) state.mc 3 ++
    hand (getHh clock % 12 * 5) state.hc 2) light state.bc

/-- A light of the face. -/
def IsLight (group : Int) : Prop := 0 ≤ group ∧ group < rgbs

/-- `LED_time` paints lights only, and the lights then show the face that is wanted. -/
def PaintsFace (clock : Clock) (state : Leds) : Prop :=
  (∀ group ∈ (ledTime clock { state with groups := [] }).groups, IsLight group) ∧
    ∀ light < rgbs,
      lightAt (ledTime clock state).ledRaw light = (wantedFace clock state light).bytes

/-! ### The strokes -/

theorem tailLight_eq {position back : Nat} (within : position < rgbs) (short : back ≤ 4) :
    tailLight position back = behind position back := by
  have small : position < 60 := within
  show _ = (position + 60 - back) % 60
  rw [tailLight]
  split <;> omega

theorem hourTailLight_eq {hh back : Nat} (hour : hh < 12) (tail : 0 < back) (short : back ≤ 2) :
    hourTailLight hh back = behind (hh * 5) back := by
  show _ = (hh * 5 + 60 - back) % 60
  rw [hourTailLight]
  split <;> omega

theorem faceHour_eq {clock : Clock} (hour : getHh clock < 24) :
    faceHour clock = getHh clock % 12 := by
  rw [faceHour]
  split <;> omega

/-- The strokes of `LED_time` are those of the three hands, but for the head of the hour. -/
theorem handStrokes_eq {hh mm ss : Nat} (hour : hh < 12) (minute : mm < rgbs) (second : ss < rgbs)
    (hc mc sc : Colour) : handStrokes hh mm ss hc mc sc =
      hand ss sc 4 ++ hand mm mc 3 ++ ((hh + 12) * 5, hc) :: (hand (hh * 5) hc 2).tail := by
  rw [handStrokes, tailLight_eq second (by decide), tailLight_eq second (by decide),
    tailLight_eq second (by decide), tailLight_eq second (by decide),
    tailLight_eq minute (by decide), tailLight_eq minute (by decide),
    tailLight_eq minute (by decide), hourTailLight_eq hour (by decide) (by decide),
    hourTailLight_eq hour (by decide) (by decide)]
  rfl

/-- A tail does not come round to its head. -/
theorem behind_ne {position back : Nat} (within : position < rgbs) (tail : 0 < back)
    (short : back ≤ 4) : behind position back ≠ position := by
  have small : position < 60 := within
  show (position + 60 - back) % 60 ≠ position
  omega

theorem behind_lt (position back : Nat) : behind position back < rgbs :=
  Nat.mod_lt _ (by decide)

/-- A hand paints its head first. -/
theorem painted_hand (position : Nat) (colour : Colour) (tail light : Nat) (background : Colour) :
    painted (hand position colour tail) light background =
      painted (hand position colour tail).tail light
        (if position = light then colour else background) := rfl

theorem hand_tail_ne {position : Nat} (within : position < rgbs) (colour : Colour) :
    ∀ stroke ∈ (hand position colour 2).tail, stroke.1 ≠ position := by
  intro stroke member
  obtain ⟨back, short, rfl⟩ := List.mem_map.mp member
  have small : back < 2 := List.mem_range.mp short
  exact behind_ne within (Nat.succ_pos _) (by omega)

theorem hand_lt {position tail : Nat} (within : position < rgbs) (colour : Colour) :
    ∀ stroke ∈ hand position colour tail, stroke.1 < rgbs := by
  refine List.forall_mem_cons.mpr ⟨within, fun stroke member => ?_⟩
  obtain ⟨back, -, rfl⟩ := List.mem_map.mp member
  exact behind_lt ..

/-! ### The lights given to `SetRGB` -/

theorem groups_calulate (state : Leds) : (calulateLedMibamBits state).groups = state.groups := rfl

theorem groups_strokes (strokes : List (Nat × Colour)) : ∀ state : Leds,
    (strokes.foldl (fun state stroke => setColour stroke.1 stroke.2 state) state).groups =
      (strokes.map fun stroke => (stroke.1 : Int)).reverse ++ state.groups := by
  induction strokes with
  | nil => exact fun _ => rfl
  | cons stroke strokes ih =>
      intro state
      rw [List.foldl_cons, ih, List.map_cons, List.reverse_cons, List.append_assoc]
      rfl

theorem groups_background {state : Leds} (lights : ∀ group ∈ state.groups, IsLight group) :
    ∀ group ∈ (paintBackground state).groups, IsLight group := by
  refine fold_invariant (fun _ (state : Leds) => ∀ group ∈ state.groups, IsLight group) rgbs _ state
    lights fun _ _ state lights => ?_
  refine fold_invariant (fun _ groups => ∀ group ∈ groups, IsLight group) rgbs
    (fun t _ groups => (t : Int) :: groups) state.groups lights fun t below groups lights => ?_
  exact List.forall_mem_cons.mpr ⟨⟨Int.natCast_nonneg t, Int.ofNat_lt.mpr below⟩, lights⟩

/-- A light is given to `SetRGB` by the background or by a stroke. -/
theorem mem_groups_ledTime {clock : Clock} {state : Leds} {group : Int} :
    group ∈ (ledTime clock { state with groups := [] }).groups ↔
      group ∈ (paintBackground (resetLeds { state with groups := [] })).groups ∨
      ∃ stroke ∈ handStrokes (faceHour clock) (getMm clock) (getSs clock) state.hc state.mc state.sc,
        (stroke.1 : Int) = group := by
  rw [ledTime_strokes, groups_calulate, groups_strokes, List.mem_append, List.mem_reverse,
    List.mem_map, or_comm]

/-! ### The face that is painted -/

section Painted

variable {clock : Clock} (hour : getHh clock < 24) (minute : getMm clock < 60)
  (second : getSs clock < 60) (state : Leds)

include hour minute second

/-- The code's face: the head of the hour is missing. -/
theorem face_eq {light : Nat} (isLight : light < rgbs) : face clock state light =
    painted (hand (getHh clock % 12 * 5) state.hc 2).tail light
      (painted (hand (getSs clock) state.sc 4 ++ hand (getMm clock) state.mc 3) light state.bc) := by
  have small : light < 60 := isLight
  rw [face, faceHour_eq hour, handStrokes_eq (Nat.mod_lt _ (by decide)) minute second,
    painted_append, painted_cons, if_neg (by omega)]

/-- A light shows the face that is wanted if it is not where the hour's head belongs, or if the head
would not be seen there. -/
theorem face_bytes_iff {light : Nat} (isLight : light < rgbs) :
    (face clock state light).bytes = (wantedFace clock state light).bytes ↔
      light ≠ getHh clock % 12 * 5 ∨
        (painted (hand (getSs clock) state.sc 4 ++ hand (getMm clock) state.mc 3) light
          state.bc).bytes = state.hc.bytes := by
  have head : getHh clock % 12 * 5 < rgbs := show _ < 60 by omega
  have wanted : wantedFace clock state light =
      painted (hand (getHh clock % 12 * 5) state.hc 2).tail light
        (if getHh clock % 12 * 5 = light then state.hc
          else painted (hand (getSs clock) state.sc 4 ++ hand (getMm clock) state.mc 3) light
            state.bc) := by
    rw [wantedFace, painted_append, painted_hand]
  rw [face_eq hour minute second state isLight, wanted]
  by_cases here : light = getHh clock % 12 * 5
  · subst here
    rw [if_pos rfl, painted_other (hand_tail_ne head _), painted_other (hand_tail_ne head _)]
    exact ⟨fun same => .inr same, fun seen => seen.resolve_left fun apart => apart rfl⟩
  · rw [if_neg (Ne.symm here)]
    exact ⟨fun _ => .inl here, fun _ => rfl⟩

/-- The one group behind the lights is the head of the hour. -/
theorem groups_ledTime : ∀ group ∈ (ledTime clock { state with groups := [] }).groups,
    IsLight group ∨ group = ↑((getHh clock % 12 + 12) * 5) := by
  intro group member
  obtain background | ⟨stroke, painted, rfl⟩ := mem_groups_ledTime.mp member
  · exact .inl (groups_background (fun _ none => absurd none List.not_mem_nil) group background)
  · have head : getHh clock % 12 * 5 < rgbs := show _ < 60 by omega
    have light : stroke.1 < rgbs → IsLight stroke.1 :=
      fun below => ⟨Int.natCast_nonneg _, Int.ofNat_lt.mpr below⟩
    rw [faceHour_eq hour, handStrokes_eq (Nat.mod_lt _ (by decide)) minute second,
      List.mem_append, List.mem_append, List.mem_cons] at painted
    obtain (ofSecond | ofMinute) | rfl | ofHour := painted
    · exact .inl (light (hand_lt second _ stroke ofSecond))
    · exact .inl (light (hand_lt minute _ stroke ofMinute))
    · exact .inr rfl
    · exact .inl (light (hand_lt head _ stroke (List.mem_of_mem_tail ofHour)))

theorem head_mem_groups :
    (↑((getHh clock % 12 + 12) * 5) : Int) ∈ (ledTime clock { state with groups := [] }).groups := by
  refine mem_groups_ledTime.mpr (.inr ⟨((getHh clock % 12 + 12) * 5, state.hc), ?_, rfl⟩)
  rw [faceHour_eq hour, handStrokes_eq (Nat.mod_lt _ (by decide)) minute second]
  exact List.mem_append_right _ List.mem_cons_self

/-- **The head of the hour hand.** `LED_time` never paints the face that is wanted: at every hour it
writes one group behind the lights, twelve hours after the head's place. All other groups are
lights, and every light shows what it should, but for the head's place; there the hands below it and
the background show, so that it is right only if these happen to have the colour of the hour. -/
theorem ledTime_head : ¬ PaintsFace clock state ∧
    (∀ group ∈ (ledTime clock { state with groups := [] }).groups,
      IsLight group ∨ group = ↑((getHh clock % 12 + 12) * 5)) ∧
    (∀ light < rgbs,
      (lightAt (ledTime clock state).ledRaw light = (wantedFace clock state light).bytes ↔
        light ≠ getHh clock % 12 * 5 ∨
          (painted (hand (getSs clock) state.sc 4 ++ hand (getMm clock) state.mc 3) light
            state.bc).bytes = state.hc.bytes)) := by
  refine ⟨fun paints => ?_, groups_ledTime hour minute second state, fun light isLight => ?_⟩
  · have light : (↑((getHh clock % 12 + 12) * 5) : Int) < 60 :=
      (paints.1 _ (head_mem_groups hour minute second state)).2
    omega
  · rw [lightAt_ledTime clock state isLight]
    exact face_bytes_iff hour minute second state isLight

end Painted

/-- At midnight, light 0 does not have the colour of the hour. -/
theorem ledTime_head_midnight :
    lightAt (ledTime Clock.cleared Leds.initial).ledRaw 0 ≠
      (wantedFace Clock.cleared Leds.initial 0).bytes := by
  have shows := (@ledTime_head Clock.cleared (by decide) (by decide) (by decide)
    Leds.initial).2.2 0 (by decide)
  exact fun same => absurd (shows.mp same) (by decide)

/-- **Midnight**: the head of the hour hand is stored for group 60. -/
theorem ledTime_midnight : ¬ PaintsFace Clock.cleared Leds.initial := by
  intro paints
  have head := @head_mem_groups Clock.cleared (by decide) (by decide) (by decide)
    Leds.initial
  exact absurd (paints.1 _ head).2 (by decide)

end EquinoxClock.Led
