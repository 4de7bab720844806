/-
Runs that come to an end: every permitted step lowers a rank.

The rank bounds the length of every run.  When a step is permitted in every state short of a
goal as well, a run that cannot be continued has reached the goal, and every run can be
continued until it has.
-/

import CPE464.General.GuardedRun
import Mathlib.Tactic

namespace CPE464.General

variable {State Input : Type} {step : State → Input → State} {allowed : State → Input → Prop}
  {start : State} {inputs : List Input} (invariant : State → Prop) (rank : State → Nat)

section Falling

variable
  (onward : ∀ state input, invariant state → allowed state input →
    invariant (step state input) ∧ rank (step state input) < rank state)
  (initially : invariant start) (each : EveryStep step allowed start inputs)

include onward initially each

theorem length_add_rank_le : inputs.length + rank (run step start inputs) ≤ rank start := by
  induction inputs generalizing start with
  | nil => exact Nat.le_of_eq (Nat.zero_add _)
  | cons input rest ih =>
      obtain ⟨kept, lower⟩ := onward start input initially each.1
      have later := ih kept each.2
      rw [List.length_cons, run_cons]
      omega

variable {goal : State → Prop}
  (progress : ∀ state, invariant state → ¬goal state → ∃ input, allowed state input)

include progress

theorem goal_of_stuck (stuck : ∀ input, ¬allowed (run step start inputs) input) :
    goal (run step start inputs) := by
  have reached := run_invariant invariant
    (fun state input holds permitted => (onward state input holds permitted).1) initially each
  by_contra short
  obtain ⟨input, permitted⟩ := progress _ reached short
  exact stuck input permitted

theorem exists_run_to_goal : ∃ more, EveryStep step allowed start (inputs ++ more) ∧
    goal (run step start (inputs ++ more)) := by
  have reached := run_invariant invariant
    (fun state input holds permitted => (onward state input holds permitted).1) initially each
  suffices onwards : ∀ bound state, invariant state → rank state ≤ bound →
      ∃ more, EveryStep step allowed state more ∧ goal (run step state more) by
    obtain ⟨more, permitted, ends⟩ := onwards _ _ reached (Nat.le_refl _)
    exact ⟨more, (everyStep_append _ _ _).mpr ⟨each, permitted⟩, by rwa [run_append]⟩
  intro bound
  induction bound with
  | zero =>
      intro state holds atMost
      refine ⟨[], trivial, ?_⟩
      by_contra short
      obtain ⟨input, permitted⟩ := progress state holds short
      have lower := (onward state input holds permitted).2
      omega
  | succ bound ih =>
      intro state holds atMost
      by_cases ended : goal state
      · exact ⟨[], trivial, ended⟩
      · obtain ⟨input, permitted⟩ := progress state holds ended
        obtain ⟨kept, lower⟩ := onward state input holds permitted
        obtain ⟨more, rest, ends⟩ := ih _ kept (by omega)
        exact ⟨input :: more, ⟨permitted, rest⟩, ends⟩

end Falling

theorem sum_of_one_changed {Part : Type} {parts : List Part} (distinct : parts.Nodup) {part : Part}
    (member : part ∈ parts) {before after : Part → Nat}
    (same : ∀ other, other ≠ part → after other = before other) :
    (parts.map after).sum + before part = (parts.map before).sum + after part := by
  induction parts with
  | nil => cases member
  | cons first others ih =>
      rw [List.nodup_cons] at distinct
      rw [List.map_cons, List.map_cons, List.sum_cons, List.sum_cons]
      rcases List.mem_cons.mp member with rfl | later
      · have unchanged : others.map after = others.map before := by
          refine List.map_congr_left fun other isOther => same other ?_
          rintro rfl
          exact distinct.1 isOther
        rw [unchanged]
        omega
      · have different : first ≠ part := by
          rintro rfl
          exact distinct.1 later
        have here := same first different
        have rest := ih distinct.2 later
        omega

theorem everyStep_of_inputs {permitted : Input → Prop}
    (each : ∀ input ∈ inputs, permitted input) :
    EveryStep step (fun _ input => permitted input) start inputs := by
  induction inputs generalizing start with
  | nil => trivial
  | cons input rest ih =>
      exact ⟨each input List.mem_cons_self,
        ih fun later member => each later (List.mem_cons_of_mem _ member)⟩

theorem goal_of_long {goal : State → Prop} (ended : ∀ state, rank state = 0 → goal state)
    (stays : ∀ state input, goal state → allowed state input → goal (step state input))
    (falls : ∀ state input, invariant state → ¬goal state → allowed state input →
      invariant (step state input) ∧ rank (step state input) < rank state)
    (initially : invariant start) (each : EveryStep step allowed start inputs)
    (long : rank start ≤ inputs.length) : goal (run step start inputs) := by
  induction inputs generalizing start with
  | nil => exact ended start (Nat.le_zero.mp long)
  | cons input rest ih =>
      by_cases reached : goal start
      · exact run_invariant goal stays reached each
      · obtain ⟨kept, lower⟩ := falls start input initially reached each.1
        rw [List.length_cons] at long
        exact ih kept each.2 (by omega)

end CPE464.General
