/-
Runs of an input-driven program.  A program is a deterministic step on its state for
each input.  `EveryStep` says of a run that something holds of each of its steps: that
the environment was allowed to give the input, or that the step has a property.  An
invariant kept by every permitted step holds after every such run, and two properties
that agree wherever the invariant holds are properties of the same runs.
-/

import Mathlib.Order.Defs.Unbundled

namespace CPE464.General

variable {State Input : Type}

def run (step : State → Input → State) (start : State) (inputs : List Input) : State :=
  inputs.foldl step start

/-- `holds` is true of every step of the run, in the state in which the step is taken. -/
def EveryStep (step : State → Input → State) (holds : State → Input → Prop) :
    State → List Input → Prop
  | _, [] => True
  | state, input :: rest =>
      holds state input ∧ EveryStep step holds (step state input) rest

instance EveryStep.decidable (step : State → Input → State)
    (holds : State → Input → Prop) [each : ∀ state input, Decidable (holds state input)] :
    (state : State) → (inputs : List Input) → Decidable (EveryStep step holds state inputs)
  | _, [] => isTrue trivial
  | state, input :: rest =>
      match each state input, EveryStep.decidable step holds (step state input) rest with
      | isTrue first, isTrue later => isTrue ⟨first, later⟩
      | isFalse refused, _ => isFalse (fun both => refused both.1)
      | _, isFalse refused => isFalse (fun both => refused both.2)

variable {step : State → Input → State} {holds : State → Input → Prop}

@[simp] theorem run_nil (start : State) : run step start [] = start := rfl

@[simp] theorem run_cons (start : State) (input : Input) (rest : List Input) :
    run step start (input :: rest) = run step (step start input) rest := rfl

theorem run_append (start : State) (first second : List Input) :
    run step start (first ++ second) = run step (run step start first) second :=
  List.foldl_append

theorem everyStep_append (start : State) (first second : List Input) :
    EveryStep step holds start (first ++ second) ↔
      EveryStep step holds start first ∧ EveryStep step holds (run step start first) second := by
  induction first generalizing start with
  | nil => simp [EveryStep]
  | cons input rest ih => simp only [List.cons_append, EveryStep, run_cons, ih, and_assoc]

theorem EveryStep.mono {weaker : State → Input → Prop}
    (weaken : ∀ state input, holds state input → weaker state input)
    {start : State} {inputs : List Input} (each : EveryStep step holds start inputs) :
    EveryStep step weaker start inputs := by
  induction inputs generalizing start with
  | nil => trivial
  | cons input rest ih => exact ⟨weaken _ _ each.1, ih each.2⟩

theorem everyStep_true (start : State) (inputs : List Input) :
    EveryStep step (fun _ _ => True) start inputs := by
  induction inputs generalizing start with
  | nil => trivial
  | cons input rest ih => exact ⟨trivial, ih _⟩

theorem EveryStep.and {other : State → Input → Prop} {start : State} {inputs : List Input}
    (first : EveryStep step holds start inputs) (second : EveryStep step other start inputs) :
    EveryStep step (fun state input => holds state input ∧ other state input) start inputs := by
  induction inputs generalizing start with
  | nil => trivial
  | cons input rest ih => exact ⟨⟨first.1, second.1⟩, ih first.2 second.2⟩

theorem run_invariant (invariant : State → Prop)
    (kept : ∀ state input, invariant state → holds state input → invariant (step state input))
    {start : State} {inputs : List Input} (initially : invariant start)
    (each : EveryStep step holds start inputs) : invariant (run step start inputs) := by
  induction inputs generalizing start with
  | nil => exact initially
  | cons input rest ih => exact ih (kept start input initially each.1) each.2

theorem everyStep_of_invariant (invariant : State → Prop) {allowed : State → Input → Prop}
    (kept : ∀ state input, invariant state → allowed state input → invariant (step state input))
    (does : ∀ state input, invariant state → allowed state input → holds state input)
    {start : State} {inputs : List Input} (initially : invariant start)
    (each : EveryStep step allowed start inputs) : EveryStep step holds start inputs := by
  induction inputs generalizing start with
  | nil => trivial
  | cons input rest ih =>
      exact ⟨does start input initially each.1, ih (kept start input initially each.1) each.2⟩

/-- Two properties of steps that agree in every state with an invariant hold of the same
runs, when the steps with the first of them keep the invariant. -/
theorem everyStep_congr (invariant : State → Prop) {allowed first second : State → Input → Prop}
    (kept : ∀ state input, invariant state → allowed state input → first state input →
      invariant (step state input))
    (agree : ∀ state input, invariant state → allowed state input →
      (first state input ↔ second state input))
    {start : State} {inputs : List Input} (initially : invariant start)
    (each : EveryStep step allowed start inputs) :
    EveryStep step first start inputs ↔ EveryStep step second start inputs := by
  induction inputs generalizing start with
  | nil => exact Iff.rfl
  | cons input rest ih =>
      have here := agree start input initially each.1
      constructor
      · rintro ⟨now, later⟩
        have next := kept start input initially each.1 now
        exact ⟨here.mp now, (ih next each.2).mp later⟩
      · rintro ⟨now, later⟩
        have next := kept start input initially each.1 (here.mpr now)
        exact ⟨here.mpr now, (ih next each.2).mpr later⟩

theorem everyStep_until_end (invariant good : State → Prop)
    (kept : ∀ state input, invariant state → invariant (step state input))
    (lost : ∀ state input, invariant state → ¬good state → ¬good (step state input))
    {start : State} {inputs : List Input} (initially : invariant start) (fine : good start) :
    EveryStep step (fun state input => good (step state input)) start inputs ↔
      good (run step start inputs) := by
  induction inputs generalizing start with
  | nil => exact iff_of_true trivial fine
  | cons input rest ih =>
      have next := kept start input initially
      by_cases now : good (step start input)
      · rw [EveryStep, ih next now, and_iff_right now, run_cons]
      · have later : ¬good (run step (step start input) rest) := by
          clear ih fine initially
          induction rest generalizing start input with
          | nil => exact now
          | cons following rest ih =>
              exact ih following (kept _ following next) (lost _ following next now)
        exact iff_of_false (fun each => now each.1) later

theorem everyStep_avoids (bad : State → Prop)
    (stays : ∀ state input, bad state → bad (step state input))
    {start : State} {inputs : List Input} (fine : ¬bad start) :
    EveryStep step (fun state input => ¬bad (step state input)) start inputs ↔
      ¬bad (run step start inputs) :=
  everyStep_until_end (fun _ => True) (fun state => ¬bad state) (fun _ _ _ => trivial)
    (fun state input _ isBad avoided => isBad (fun now => avoided (stays state input now)))
    trivial fine

end CPE464.General
