/-
Runs of a deterministic machine.

A machine is a step function `step : State → Input → State`; a run feeds it a list of inputs. What
a development proves about a machine is one of two things: something is true in every state a run
reaches (`run_invariant`), or something is true of every step the run takes (`Along`). Both come
down to one step lemma, and the rules below are the only inductions over runs there are.

A machine without inputs is an iterated function; `iterate_invariant` and `iterate_progress` are its
rules.
-/

import Mathlib.Logic.Function.Iterate

namespace EquinoxClock.Lib

section Inputs

variable {State Input : Type*}

/-- The state after feeding the inputs one after the other. -/
def run (step : State → Input → State) (start : State) (inputs : List Input) : State :=
  inputs.foldl step start

variable {step : State → Input → State}

@[simp] theorem run_nil (start : State) : run step start [] = start := rfl

@[simp] theorem run_cons (start : State) (input : Input) (rest : List Input) :
    run step start (input :: rest) = run step (step start input) rest := rfl

theorem run_append (start : State) (first second : List Input) :
    run step start (first ++ second) = run step (run step start first) second :=
  List.foldl_append

/-- Every step of the run meets `guard`, which sees the state before the step and its input. -/
def Along (step : State → Input → State) (guard : State → Input → Prop) :
    State → List Input → Prop
  | _, [] => True
  | start, input :: rest => guard start input ∧ Along step guard (step start input) rest

variable {guard : State → Input → Prop}

@[simp] theorem along_nil (start : State) : Along step guard start [] := trivial

@[simp] theorem along_cons (start : State) (input : Input) (rest : List Input) :
    Along step guard start (input :: rest) ↔
      guard start input ∧ Along step guard (step start input) rest := Iff.rfl

/-- A run of two parts meets the guard exactly if both parts do. -/
theorem along_append (second : List Input) : ∀ (first : List Input) (start : State),
    Along step guard start (first ++ second) ↔
      Along step guard start first ∧ Along step guard (run step start first) second := by
  intro first
  induction first with
  | nil => exact fun start => (and_iff_right trivial).symm
  | cons input rest ih =>
      intro start
      rw [List.cons_append, along_cons, along_cons, run_cons, ih, and_assoc]

/-- A guard that always holds holds along every run. -/
theorem along_trivial :
    ∀ (inputs : List Input) (start : State), Along step (fun _ _ => True) start inputs
  | [], _ => trivial
  | _ :: rest, _ => ⟨trivial, along_trivial rest _⟩

/-- So does one that every input meets, whatever the state. -/
theorem along_of_forall :
    ∀ (inputs : List Input) (start : State), (∀ input ∈ inputs, ∀ state, guard state input) →
      Along step guard start inputs
  | [], _, _ => trivial
  | input :: rest, start, every =>
      ⟨every input List.mem_cons_self start,
        along_of_forall rest _ fun other member => every other (List.mem_cons_of_mem input member)⟩

instance Along.decidable [decide : ∀ state input, Decidable (guard state input)] :
    ∀ (inputs : List Input) (start : State), Decidable (Along step guard start inputs)
  | [], _ => isTrue trivial
  | input :: rest, start =>
      have := Along.decidable rest (step start input)
      inferInstanceAs (Decidable (guard start input ∧ Along step guard (step start input) rest))

/-- **The invariant rule.** What one guarded step preserves, a guarded run preserves. -/
theorem run_invariant {invariant : State → Prop}
    (preserved : ∀ state input, invariant state → guard state input →
      invariant (step state input)) :
    ∀ (inputs : List Input) (start : State), invariant start → Along step guard start inputs →
      invariant (run step start inputs) := by
  intro inputs
  induction inputs with
  | nil => exact fun _ holds _ => holds
  | cons input rest ih =>
      intro start holds guarded
      exact ih _ (preserved start input holds guarded.1) guarded.2

/-- **The record rule.** When a step keeps a property of the state exactly if it meets the guard,
the property holds after a run exactly if it held before and every step met the guard. -/
theorem run_iff_along {property : State → Prop}
    (exactly : ∀ state input, property (step state input) ↔ property state ∧ guard state input) :
    ∀ (inputs : List Input) (start : State),
      property (run step start inputs) ↔ property start ∧ Along step guard start inputs := by
  intro inputs
  induction inputs with
  | nil => exact fun start => (and_iff_left (along_nil start)).symm
  | cons input rest ih =>
      intro start
      rw [run_cons, ih, exactly, along_cons, and_assoc]

/-- **The equivalence rule.** Where a property of a step is its guard, under an invariant of the
guarded steps, a run has the property at every step exactly if it meets the guard at every step. The
run may be assumed to meet something else at every step. -/
theorem along_iff_given {invariant : State → Prop} {property assumed : State → Input → Prop}
    (exactly : ∀ state input, invariant state → assumed state input →
      (property state input ↔ guard state input))
    (preserved : ∀ state input, invariant state → assumed state input → guard state input →
      invariant (step state input)) :
    ∀ (inputs : List Input) (start : State), invariant start → Along step assumed start inputs →
      (Along step property start inputs ↔ Along step guard start inputs) := by
  intro inputs
  induction inputs with
  | nil => exact fun _ _ _ => Iff.rfl
  | cons input rest ih =>
      intro start holds given
      rw [along_cons, along_cons, exactly start input holds given.1]
      exact and_congr_right fun guarded =>
        ih _ (preserved start input holds given.1 guarded) given.2

/-- The equivalence rule for runs of which nothing is assumed. -/
theorem along_iff {invariant : State → Prop} {property : State → Input → Prop}
    (exactly : ∀ state input, invariant state → (property state input ↔ guard state input))
    (preserved : ∀ state input, invariant state → guard state input →
      invariant (step state input)) (inputs : List Input) (start : State)
    (holds : invariant start) : Along step property start inputs ↔ Along step guard start inputs :=
  along_iff_given (fun state input holds _ => exactly state input holds)
    (fun state input holds _ => preserved state input holds) inputs start holds
    (along_trivial inputs start)

/-- Where a property of every step is its guard, no invariant is needed. -/
theorem along_congr {property : State → Input → Prop}
    (exactly : ∀ state input, property state input ↔ guard state input) (inputs : List Input)
    (start : State) : Along step property start inputs ↔ Along step guard start inputs := by
  have same : property = guard := funext₂ fun state input => propext (exactly state input)
  rw [same]

/-- **The countdown rule.** Where each step leaves one less, until nothing is left, a run is done
exactly when it is as long as what was left at its start. -/
theorem run_countdown {invariant done : State → Prop} {left : State → Nat}
    (zero : ∀ state, invariant state → (done state ↔ left state = 0))
    (counts : ∀ state input, invariant state →
      invariant (step state input) ∧ left (step state input) = left state - 1) :
    ∀ (inputs : List Input) (start : State), invariant start →
      (done (run step start inputs) ↔ left start ≤ inputs.length) := by
  intro inputs
  induction inputs with
  | nil => exact fun start holds => (zero start holds).trans Nat.le_zero.symm
  | cons input rest ih =>
      intro start holds
      obtain ⟨kept, less⟩ := counts start input holds
      rw [run_cons, ih _ kept, less, List.length_cons]
      omega

/-- Two machines that get the same inputs run side by side. -/
theorem run_prod {Other : Type*} {other : Other → Input → Other} :
    ∀ (inputs : List Input) (start : State) (start' : Other),
      run (fun (states : State × Other) input => (step states.1 input, other states.2 input))
        (start, start') inputs = (run step start inputs, run other start' inputs) := by
  intro inputs
  induction inputs with
  | nil => exact fun _ _ => rfl
  | cons input rest ih => exact fun start start' => ih (step start input) (other start' input)

/-- Such a run meets a guard of the first machine exactly if that one does. -/
theorem along_prod {Other : Type*} {other : Other → Input → Other} {inputs : List Input}
    {start : State} {start' : Other} :
    Along (fun (states : State × Other) input => (step states.1 input, other states.2 input))
        (fun states input => guard states.1 input) (start, start') inputs ↔
      Along step guard start inputs := by
  induction inputs generalizing start start' with
  | nil => exact Iff.rfl
  | cons input rest ih => exact and_congr_right fun _ => ih

end Inputs

section Iterate

variable {State : Type*} {step : State → State} {guard invariant : State → Prop}

/-- **The invariant rule for a machine without inputs.** -/
theorem iterate_invariant
    (preserved : ∀ state, invariant state → guard state → invariant (step state))
    (count : Nat) (start : State) (holds : invariant start)
    (guarded : ∀ index < count, guard (step^[index] start)) : invariant (step^[count] start) := by
  induction count with
  | zero => exact holds
  | succ count ih =>
      rw [Function.iterate_succ_apply']
      exact preserved _ (ih fun index before => guarded index (by omega)) (guarded count (by omega))

/-- **The progress rule.** A measure that every guarded step raises is raised by at least one for
each step between two states of the run, so a guarded run never comes back. -/
theorem iterate_progress {measure : State → Nat}
    (preserved : ∀ state, invariant state → guard state → invariant (step state))
    (raises : ∀ state, invariant state → guard state → measure state < measure (step state))
    (count : Nat) (start : State) (holds : invariant start)
    (guarded : ∀ index < count, guard (step^[index] start)) {first second : Nat}
    (ordered : first ≤ second) (within : second ≤ count) :
    measure (step^[first] start) + (second - first) ≤ measure (step^[second] start) := by
  obtain ⟨gap, rfl⟩ := Nat.exists_eq_add_of_le ordered
  induction gap with
  | zero => simp only [Nat.add_zero, Nat.sub_self, Nat.le_refl]
  | succ gap ih =>
      have before := iterate_invariant preserved (first + gap) start holds
        fun index earlier => guarded index (by omega)
      have raised := raises _ before (guarded (first + gap) (by omega))
      have soFar := ih (by omega) (by omega)
      rw [← Nat.add_assoc, Function.iterate_succ_apply']
      omega

end Iterate

end EquinoxClock.Lib
