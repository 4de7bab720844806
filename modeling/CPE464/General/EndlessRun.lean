/-
Runs of an input-driven program that go on for ever, and the argument that something must
happen in one: a rank that no step raises cannot fall again and again.
-/

import Mathlib.Order.Monotone.Basic
import CPE464.General.GuardedRun

namespace CPE464.General

variable {State Input : Type}

def trajectory (step : State → Input → State) (start : State) (inputs : Nat → Input)
    (time : Nat) : State :=
  run step start ((List.range time).map inputs)

theorem trajectory_succ (step : State → Input → State) (start : State)
    (inputs : Nat → Input) (time : Nat) :
    trajectory step start inputs (time + 1) =
      step (trajectory step start inputs time) (inputs time) := by
  rw [trajectory, List.range_succ, List.map_append, run_append]
  rfl

theorem not_falling_for_ever (rank : Nat → Nat) (kept : ∀ time, rank (time + 1) ≤ rank time)
    (falls : ∀ time, ∃ later, time ≤ later ∧ rank (later + 1) < rank later) : False := by
  have antitone : Antitone rank := antitone_nat_of_succ_le kept
  suffices below : ∀ bound time, rank time < bound → False from
    below (rank 0 + 1) 0 (Nat.lt_succ_self _)
  intro bound
  induction bound with
  | zero => exact fun time no => absurd no (Nat.not_lt_zero _)
  | succ bound ih =>
      intro time small
      obtain ⟨later, after, falling⟩ := falls time
      have notAbove := antitone after
      exact ih (later + 1) (by omega)

/-- A goal is reached when, short of it, an invariant holds, no step raises the rank and
every moment has a later one at which it falls. -/
theorem eventually_of_rank {step : State → Input → State} {start : State}
    {inputs : Nat → Input} (invariant goal : State → Prop) (rank : State → Nat)
    (initially : invariant start)
    (onward : ∀ time, let state := trajectory step start inputs time
      invariant state → ¬goal (step state (inputs time)) →
        invariant (step state (inputs time)) ∧ rank (step state (inputs time)) ≤ rank state)
    (falls : (∀ time, invariant (trajectory step start inputs time)) →
      ∀ time, ∃ later, time ≤ later ∧
        (let state := trajectory step start inputs later
        ¬goal (step state (inputs later)) → rank (step state (inputs later)) < rank state)) :
    ∃ time, goal (trajectory step start inputs time) := by
  by_contra never
  have short : ∀ time, ¬goal (step (trajectory step start inputs time) (inputs time)) := by
    intro time reached
    rw [← trajectory_succ step] at reached
    exact never ⟨time + 1, reached⟩
  have holds : ∀ time, invariant (trajectory step start inputs time) := by
    intro time
    induction time with
    | zero => exact initially
    | succ time ih =>
        rw [trajectory_succ]
        exact (onward time ih (short time)).1
  apply not_falling_for_ever (fun time => rank (trajectory step start inputs time))
  · intro time
    rw [trajectory_succ]
    exact (onward time (holds time) (short time)).2
  · intro time
    obtain ⟨later, after, falling⟩ := falls holds time
    refine ⟨later, after, ?_⟩
    rw [trajectory_succ]
    exact falling (short later)

end CPE464.General
