/-
Attempts that fail or are answered, and what a retry counter knows of them.

A program that gives up after a number of failures may count the failures since the last
answer, or all of them.  `silence` is the first number and `failures` the second, and they
agree as long as no answer has come after a failure.
-/

import Mathlib.Data.List.Count
import Mathlib.Tactic

namespace CPE464.General

inductive Attempt where
  | failed
  | answered
  deriving DecidableEq, Repr

/-- All the failures of a trace, oldest attempt first. -/
def failures (trace : List Attempt) : Nat := trace.count .failed

def countSilence (count : Nat) : Attempt → Nat
  | .failed => count + 1
  | .answered => 0

def silence (trace : List Attempt) : Nat := trace.foldl countSilence 0

def Unbroken (trace : List Attempt) : Prop :=
  trace.Pairwise (fun earlier later => earlier = .failed → later = .failed)

instance (trace : List Attempt) : Decidable (Unbroken trace) :=
  inferInstanceAs (Decidable (List.Pairwise _ _))

/-- A program together with the attempts of its main loop and those of the loop in which it
ends. -/
structure Observed (State : Type) where
  state : State
  main : List Attempt
  last : List Attempt

section Observe

variable {State Input : Type} (step : State → Input → State)
  (attempt : State → Input → Option Attempt) (inLast : State → Bool)

def Observed.next (observed : Observed State) (input : Input) : Observed State where
  state := step observed.state input
  main :=
    if inLast observed.state then observed.main
    else observed.main ++ (attempt observed.state input).toList
  last :=
    if inLast observed.state then observed.last ++ (attempt observed.state input).toList
    else observed.last

end Observe

variable {trace : List Attempt}

theorem failures_append (first second : List Attempt) :
    failures (first ++ second) = failures first + failures second :=
  List.count_append

theorem silence_append (first second : List Attempt) :
    silence (first ++ second) = second.foldl countSilence (silence first) :=
  List.foldl_append

@[simp] theorem silence_failed (trace : List Attempt) :
    silence (trace ++ [.failed]) = silence trace + 1 := silence_append trace [.failed]

@[simp] theorem silence_answered (trace : List Attempt) :
    silence (trace ++ [.answered]) = 0 := silence_append trace [.answered]

@[simp] theorem failures_failed (trace : List Attempt) :
    failures (trace ++ [.failed]) = failures trace + 1 := failures_append trace [.failed]

@[simp] theorem failures_answered (trace : List Attempt) :
    failures (trace ++ [.answered]) = failures trace := failures_append trace [.answered]

theorem failures_attempt (trace : List Attempt) (attempt : Option Attempt) :
    failures (trace ++ attempt.toList) =
      failures trace + (if attempt = some .failed then 1 else 0) := by
  cases attempt with
  | none => simp
  | some attempt => cases attempt <;> simp

theorem foldl_countSilence (trace : List Attempt) (count : Nat) :
    trace.foldl countSilence count =
      if .answered ∈ trace then silence trace else count + failures trace := by
  induction trace using List.reverseRecOn generalizing count with
  | nil => rfl
  | append_singleton trace attempt ih =>
      rw [List.foldl_append]
      cases attempt with
      | answered => simp [countSilence]
      | failed =>
          simp only [List.foldl_cons, List.foldl_nil, countSilence, ih count, silence_failed,
            failures_failed, List.mem_append, List.mem_singleton, reduceCtorEq, or_false]
          split <;> rfl

theorem silence_le_failures (trace : List Attempt) : silence trace ≤ failures trace := by
  induction trace using List.reverseRecOn with
  | nil => exact Nat.le_refl 0
  | append_singleton trace attempt ih =>
      cases attempt with
      | answered =>
          rw [silence_answered]
          exact Nat.zero_le _
      | failed =>
          rw [silence_failed, failures_failed]
          exact Nat.succ_le_succ ih

theorem unbroken_failed : Unbroken (trace ++ [.failed]) ↔ Unbroken trace := by
  simp [Unbroken, List.pairwise_append]

theorem unbroken_answered : Unbroken (trace ++ [.answered]) ↔ failures trace = 0 := by
  rw [failures, List.count_eq_zero]
  constructor
  · intro unbroken earlier
    have broken := (List.pairwise_append.mp unbroken).2.2 _ earlier _ (List.mem_singleton_self _)
    cases broken rfl
  · intro never
    have allAnswered : ∀ attempt ∈ trace ++ [.answered], attempt ≠ .failed := by
      intro attempt member
      rcases List.mem_append.mp member with earlier | last
      · rintro rfl
        exact never earlier
      · rw [List.mem_singleton.mp last]
        decide
    exact List.pairwise_of_forall_mem_list (fun earlier member _ _ isFailed =>
      absurd isFailed (allAnswered earlier member))

theorem silence_eq_failures_iff (trace : List Attempt) :
    silence trace = failures trace ↔ Unbroken trace := by
  induction trace using List.reverseRecOn with
  | nil => exact iff_of_true rfl .nil
  | append_singleton trace attempt ih =>
      cases attempt with
      | answered =>
          rw [silence_answered, failures_answered, unbroken_answered]
          exact eq_comm
      | failed => rw [silence_failed, failures_failed, unbroken_failed, ← ih, Nat.succ_inj]

/-- A program that has counted `limit` failures in all gave up after so many in a row exactly
when none of the answers came after one of them. -/
theorem le_silence_iff (first : List Attempt) {second : List Attempt} {limit : Nat}
    (counted : failures second = limit) :
    limit ≤ silence (first ++ second) ↔ Unbroken second := by
  rw [silence_append, foldl_countSilence, ← silence_eq_failures_iff]
  have atMost := silence_le_failures second
  split
  · omega
  · next silent =>
      have same : silence second = failures second := by
        have counted := foldl_countSilence second 0
        rwa [if_neg silent, Nat.zero_add] at counted
      omega

end CPE464.General
