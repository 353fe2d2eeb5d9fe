/-
Sending a text piece by piece.

A sender has a text for a receiver and keeps at most one piece of it under way: it sends the piece,
again and again if it likes, and goes on to the next one when the receiver has acknowledged all of
it. Between the two, anything may be lost, repeated, delayed or overtaken; the receiver takes from a
piece what comes next for it, or the front of that, and acknowledges the number of values it has.

The text need not be the same each time it is looked at. `allowed` says which values may stand at a
place of it, and `Sound.received` that the receiver has an allowed value at each place. Where one
text allows its own values only, that means the receiver has the front of it
(`allowedFrom_source`).
-/

import Mathlib.Logic.Relation

namespace EquinoxClock.Lib.Pieces

variable {Value : Type*}

/-- Values, and the place of the first of them. -/
structure Piece (Value : Type*) where
  place : Nat
  values : List Value

/-- The place behind the last value. -/
def Piece.stop (piece : Piece Value) : Nat := piece.place + piece.values.length

/-- The receiver takes what comes next for it, up to a limit. -/
def accept (limit : Nat) (received : List Value) (piece : Piece Value) : List Value :=
  if piece.place ≤ received.length then
    received ++ (piece.values.drop (received.length - piece.place)).take limit
  else received

/-- Each of the values is allowed at its place. -/
def AllowedFrom (allowed : Nat → Value → Prop) (place : Nat) (values : List Value) : Prop :=
  ∀ index value, values[index]? = some value → allowed (place + index) value

/-- The two ends and what is between them: how much the sender knows to have arrived, how much it
has under way, the pieces and the acknowledgements ever sent, and what the receiver has. -/
structure Link (Value : Type*) where
  acked : Nat
  pending : Nat
  sent : List (Piece Value)
  received : List Value
  acks : List Nat

/-- Before the first piece. -/
def Link.start : Link Value := ⟨0, 0, [], [], []⟩

/-- What the two ends and the network between them do. -/
inductive Step (allowed : Nat → Value → Prop) : Link Value → Link Value → Prop
  | send (link : Link Value) (values : List Value) (idle : link.pending = 0)
      (fits : AllowedFrom allowed link.acked values) :
      Step allowed link
        { link with pending := values.length, sent := ⟨link.acked, values⟩ :: link.sent }
  | resend (link : Link Value) (values : List Value) (same : values.length = link.pending)
      (fits : AllowedFrom allowed link.acked values) :
      Step allowed link { link with sent := ⟨link.acked, values⟩ :: link.sent }
  | deliver (link : Link Value) (limit : Nat) (piece : Piece Value) (known : piece ∈ link.sent) :
      Step allowed link { link with received := accept limit link.received piece }
  | acknowledge (link : Link Value) :
      Step allowed link { link with acks := link.received.length :: link.acks }
  | acked (link : Link Value) (known : link.acked + link.pending ∈ link.acks) :
      Step allowed link { link with acked := link.acked + link.pending, pending := 0 }

/-- Some steps, one after the other. -/
abbrev Steps (allowed : Nat → Value → Prop) : Link Value → Link Value → Prop :=
  Relation.ReflTransGen (Step allowed)

/-- What holds of the two ends at any time. -/
structure Sound (allowed : Nat → Value → Prop) (link : Link Value) : Prop where
  received : AllowedFrom allowed 0 link.received
  sent : ∀ piece ∈ link.sent, AllowedFrom allowed piece.place piece.values ∧
    (piece.stop ≤ link.acked ∨
      piece.place = link.acked ∧ piece.stop = link.acked + link.pending)
  acked_le : link.acked ≤ link.received.length
  length_le : link.received.length ≤ link.acked + link.pending
  acks : ∀ count ∈ link.acks, count ≤ link.received.length

section Receiver

variable {allowed other : Nat → Value → Prop} {received values : List Value}

/-- What is allowed stays allowed where more is. -/
theorem AllowedFrom.mono (more : ∀ place value, allowed place value → other place value)
    {place : Nat} (fits : AllowedFrom allowed place values) : AllowedFrom other place values :=
  fun index value found => more _ _ (fits index value found)

theorem allowedFrom_append {place : Nat} {front back : List Value}
    (fitsFront : AllowedFrom allowed place front)
    (fitsBack : AllowedFrom allowed (place + front.length) back) :
    AllowedFrom allowed place (front ++ back) := by
  intro index value found
  by_cases before : index < front.length
  · rw [List.getElem?_append_left before] at found
    exact fitsFront index value found
  · have behind : front.length ≤ index := Nat.le_of_not_lt before
    rw [List.getElem?_append_right behind] at found
    have fits := fitsBack _ value found
    rwa [Nat.add_assoc, Nat.add_sub_cancel' behind] at fits

/-- One text allows the values it has. What is allowed then is a part of the text. -/
theorem allowedFrom_source {source : List Value} :
    AllowedFrom (fun place value => source[place]? = some value) 0 received ↔
      received <+: source := by
  rw [List.prefix_iff_getElem?]
  constructor
  · intro fits index within
    have found := fits index received[index] (List.getElem?_eq_getElem within)
    rwa [Nat.zero_add] at found
  · intro front index value found
    obtain ⟨within, rfl⟩ := List.getElem?_eq_some_iff.mp found
    rw [Nat.zero_add]
    exact front index within

/-- The receiver keeps what it has and goes no further than the piece does. -/
theorem accept_length (limit : Nat) (received : List Value) (piece : Piece Value) :
    received.length ≤ (accept limit received piece).length ∧
      (accept limit received piece).length ≤ max received.length piece.stop := by
  rw [accept]
  split
  · rw [List.length_append, List.length_take, List.length_drop, Piece.stop]
    omega
  · omega

/-- **Accepting** keeps the receiver's values allowed. -/
theorem allowedFrom_accept (limit : Nat) {piece : Piece Value}
    (fits : AllowedFrom allowed 0 received)
    (fitsPiece : AllowedFrom allowed piece.place piece.values) :
    AllowedFrom allowed 0 (accept limit received piece) := by
  rw [accept]
  split
  · next reached =>
      refine allowedFrom_append fits fun index value found => ?_
      rw [List.getElem?_take] at found
      obtain ⟨-, found⟩ := Option.ite_none_right_eq_some.mp found
      rw [List.getElem?_drop] at found
      have allowedThere := fitsPiece _ value found
      rwa [← Nat.add_assoc, Nat.add_sub_cancel' reached, ← Nat.zero_add received.length]
        at allowedThere
  · exact fits

end Receiver

section Steps

variable {allowed other : Nat → Value → Prop} {link next : Link Value}

theorem sound_start : Sound allowed (Link.start : Link Value) where
  received _ _ found := nomatch found
  sent _ member := nomatch member
  acked_le := Nat.le_refl 0
  length_le := Nat.le_refl 0
  acks _ member := nomatch member

theorem Sound.mono (more : ∀ place value, allowed place value → other place value)
    (sound : Sound allowed link) : Sound other link where
  received := sound.received.mono more
  sent piece member := ⟨(sound.sent piece member).1.mono more, (sound.sent piece member).2⟩
  acked_le := sound.acked_le
  length_le := sound.length_le
  acks := sound.acks

/-- No piece begins behind what the receiver has. -/
theorem Sound.reached (sound : Sound allowed link) {piece : Piece Value}
    (member : piece ∈ link.sent) : piece.place ≤ link.received.length := by
  have ends := (sound.sent piece member).2
  have acked_le := sound.acked_le
  rw [Piece.stop] at ends
  omega

/-- **A step keeps it**, by cases on what is done. -/
theorem Sound.step (sound : Sound allowed link) (step : Step allowed link next) :
    Sound allowed next := by
  have acked_le := sound.acked_le
  have length_le := sound.length_le
  cases step with
  | send values idle fits =>
      refine ⟨sound.received, fun piece member => ?_, acked_le, by dsimp only; omega, sound.acks⟩
      obtain rfl | earlier := List.mem_cons.mp member
      · exact ⟨fits, Or.inr ⟨rfl, rfl⟩⟩
      · obtain ⟨fitsPiece, ends⟩ := sound.sent piece earlier
        exact ⟨fitsPiece, Or.inl (by dsimp only; omega)⟩
  | resend values same fits =>
      refine ⟨sound.received, fun piece member => ?_, acked_le, length_le, sound.acks⟩
      obtain rfl | earlier := List.mem_cons.mp member
      · exact ⟨fits, Or.inr ⟨rfl, congrArg (link.acked + ·) same⟩⟩
      · exact sound.sent piece earlier
  | deliver limit piece known =>
      obtain ⟨fitsPiece, ends⟩ := sound.sent piece known
      have length := accept_length limit link.received piece
      refine ⟨allowedFrom_accept limit sound.received fitsPiece, sound.sent, ?_, ?_,
        fun count member => ?_⟩
      · dsimp only
        omega
      · dsimp only
        omega
      · have earlier := sound.acks count member
        dsimp only
        omega
  | acknowledge =>
      refine ⟨sound.received, sound.sent, acked_le, length_le, fun count member => ?_⟩
      obtain rfl | earlier := List.mem_cons.mp member
      · exact Nat.le_refl _
      · exact sound.acks count earlier
  | acked known =>
      have arrived := sound.acks _ known
      refine ⟨sound.received, fun piece member => ?_, arrived, length_le, sound.acks⟩
      obtain ⟨fitsPiece, ends⟩ := sound.sent piece member
      exact ⟨fitsPiece, Or.inl (by dsimp only; omega)⟩

/-- **So do some steps.** -/
theorem Sound.steps (sound : Sound allowed link) (steps : Steps allowed link next) :
    Sound allowed next := by
  induction steps with
  | refl => exact sound
  | tail _ step ih => exact ih.step step

/-- With nothing under way, the receiver has what the sender knows to have arrived. -/
theorem Sound.arrived (sound : Sound allowed link) (idle : link.pending = 0) :
    link.received.length = link.acked := by
  have acked_le := sound.acked_le
  have length_le := sound.length_le
  omega

end Steps

end EquinoxClock.Lib.Pieces
