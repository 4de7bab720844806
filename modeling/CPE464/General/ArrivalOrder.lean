/-
Numbered messages under way to a receiver, over a channel that loses messages but keeps
their order.

The sender numbers its new messages upwards and repeats old ones in between.  It repeats
what the receiver may still expect, and nothing beyond, so whatever arrives above the
expected number is new, and newer than everything that came before it.
-/

import Mathlib.Tactic

namespace CPE464.General

/-- Messages under way, oldest first, to a receiver that waits for `expected` and has seen
no number from `ahead` on. -/
structure Arriving (expected ahead : Nat) (numbers : List Nat) : Prop where
  ordered : numbers.Pairwise (fun earlier later => later ≤ expected ∨ earlier < later)
  beyond : ∀ number ∈ numbers, number ≤ expected ∨ ahead ≤ number

namespace Arriving

variable {expected ahead : Nat} {numbers rest : List Nat}

theorem initially (expected ahead : Nat) : Arriving expected ahead [] where
  ordered := .nil
  beyond := fun _ absent => by cases absent

theorem sublist (arriving : Arriving expected ahead numbers) (remain : rest.Sublist numbers) :
    Arriving expected ahead rest where
  ordered := arriving.ordered.sublist remain
  beyond := fun number member => arriving.beyond number (remain.subset member)

theorem send (arriving : Arriving expected ahead numbers) {next : Nat}
    (newest : ∀ number ∈ numbers, number < next) (unseen : ahead ≤ next) :
    Arriving expected ahead (numbers ++ [next]) where
  ordered := by
    rw [List.pairwise_append]
    refine ⟨arriving.ordered, List.pairwise_singleton _ _, fun number member last isNext => ?_⟩
    rw [List.mem_singleton.mp isNext]
    exact .inr (newest number member)
  beyond := by
    intro number member
    rcases List.mem_append.mp member with old | isNext
    · exact arriving.beyond number old
    · rw [List.mem_singleton.mp isNext]
      exact .inr unseen

theorem resend (arriving : Arriving expected ahead numbers) {repeated : List Nat}
    (old : ∀ number ∈ repeated, number ≤ expected) :
    Arriving expected ahead (numbers ++ repeated) where
  ordered := by
    rw [List.pairwise_append]
    exact ⟨arriving.ordered,
      List.pairwise_of_forall_mem_list (fun _ _ later member => .inl (old later member)),
      fun _ _ later member => .inl (old later member)⟩
  beyond := by
    intro number member
    rcases List.mem_append.mp member with before | isRepeated
    · exact arriving.beyond number before
    · exact .inl (old number isRepeated)

theorem receive {number later aheadLater : Nat}
    (arriving : Arriving expected ahead (number :: rest)) (onward : expected ≤ later)
    (seen : aheadLater ≤ max ahead (number + 1)) : Arriving later aheadLater rest where
  ordered := by
    refine (List.pairwise_cons.mp arriving.ordered).2.imp ?_
    intro earlier after order
    exact order.imp_left (fun old => Nat.le_trans old onward)
  beyond := by
    intro other member
    have inOrder := (List.pairwise_cons.mp arriving.ordered).1 other member
    have unseen := arriving.beyond other (List.mem_cons_of_mem number member)
    omega

end Arriving

end CPE464.General
