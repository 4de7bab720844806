/-
A sliding window with cumulative acknowledgements over a channel that loses messages but
keeps their order.

The sender numbers what it sends and may be at most `size` ahead of `base`.  The receiver
reports how far it has come, and `base` follows the reports that arrive.  The numbers are
all that matters here: which messages carry them, how losses are repaired and what the
receiver keeps while something is missing is left to the protocol.
-/

import Mathlib.Logic.Relation
import Mathlib.Tactic

namespace CPE464.General.SlidingWindow

/-- The numbers of both parties, and the acknowledgements on their way back, oldest first. -/
structure Counters where
  base : Nat
  next : Nat
  delivered : Nat
  acks : List Nat

inductive Step (size : Nat) (counters : Counters) : Counters → Prop
  | send (room : counters.next < counters.base + size) :
      Step size counters { counters with next := counters.next + 1 }
  | deliver (delivered : Nat) (onward : counters.delivered ≤ delivered)
      (sent : delivered ≤ counters.next) : Step size counters { counters with delivered }
  | acknowledge : Step size counters { counters with acks := counters.acks ++ [counters.delivered] }
  | lose (acks : List Nat) (remain : acks.Sublist counters.acks) :
      Step size counters { counters with acks }
  | receive (ack : Nat) (rest : List Nat) (oldest : counters.acks = ack :: rest) :
      Step size counters { counters with base := ack, acks := rest }

/-- Acknowledgements never step back, and the numbers of the parties stay in order. -/
structure Invariant (size : Nat) (counters : Counters) : Prop where
  sorted : counters.acks.Pairwise (· ≤ ·)
  above : ∀ ack ∈ counters.acks, counters.base ≤ ack
  below : ∀ ack ∈ counters.acks, ack ≤ counters.delivered
  base_le : counters.base ≤ counters.delivered
  delivered_le : counters.delivered ≤ counters.next
  near : counters.next ≤ counters.base + size

variable {size : Nat} {counters later : Counters}

theorem Invariant.initially (size first : Nat) :
    Invariant size { base := first, next := first, delivered := first, acks := [] } where
  sorted := .nil
  above := fun _ absent => by cases absent
  below := fun _ absent => by cases absent
  base_le := Nat.le_refl first
  delivered_le := Nat.le_refl first
  near := Nat.le_add_right first size

theorem Step.invariant (step : Step size counters later) (inv : Invariant size counters) :
    Invariant size later := by
  obtain ⟨sorted, above, below, base_le, delivered_le, near⟩ := inv
  cases step with
  | send room => exact ⟨sorted, above, below, base_le, Nat.le_succ_of_le delivered_le, room⟩
  | deliver delivered onward sent =>
      exact ⟨sorted, above, fun ack member => Nat.le_trans (below ack member) onward,
        Nat.le_trans base_le onward, sent, near⟩
  | acknowledge =>
      refine ⟨?_, ?_, ?_, base_le, delivered_le, near⟩
      · rw [List.pairwise_append]
        refine ⟨sorted, List.pairwise_singleton _ _, fun ack old newest isNewest => ?_⟩
        rw [List.mem_singleton.mp isNewest]
        exact below ack old
      · intro ack member
        rcases List.mem_append.mp member with old | newest
        · exact above ack old
        · rw [List.mem_singleton.mp newest]
          exact base_le
      · intro ack member
        rcases List.mem_append.mp member with old | newest
        · exact below ack old
        · rw [List.mem_singleton.mp newest]
  | lose acks remain =>
      exact ⟨sorted.sublist remain, fun ack member => above ack (remain.subset member),
        fun ack member => below ack (remain.subset member), base_le, delivered_le, near⟩
  | receive ack rest oldest =>
      have first : ack ∈ counters.acks := oldest ▸ List.mem_cons_self
      rw [oldest, List.pairwise_cons] at sorted
      refine ⟨sorted.2, sorted.1, ?_, below ack first, delivered_le, ?_⟩
      · intro other member
        exact below other (oldest ▸ List.mem_cons_of_mem _ member)
      · exact Nat.le_trans near (Nat.add_le_add_right (above ack first) size)

abbrev Steps (size : Nat) : Counters → Counters → Prop := Relation.ReflTransGen (Step size)

theorem Steps.invariant (steps : Steps size counters later) (inv : Invariant size counters) :
    Invariant size later := by
  induction steps with
  | refl => exact inv
  | tail _ step ih => exact step.invariant ih

theorem Steps.base_le (steps : Steps size counters later) (inv : Invariant size counters) :
    counters.base ≤ later.base := by
  induction steps with
  | refl => exact Nat.le_refl _
  | tail before step ih =>
      have reached := Steps.invariant before inv
      cases step with
      | receive ack rest oldest =>
          exact Nat.le_trans ih (reached.above ack (oldest ▸ List.mem_cons_self))
      | send | deliver | acknowledge | lose => exact ih

/-- Acknowledgements may be dropped and repeated as long as they keep their order. -/
theorem Invariant.rearrange {acks : List Nat} (inv : Invariant size counters)
    (sorted : acks.Pairwise (· ≤ ·)) (members : ∀ ack ∈ acks, ack ∈ counters.acks) :
    Invariant size { counters with acks } :=
  { inv with
    sorted
    above := fun ack member => inv.above ack (members ack member)
    below := fun ack member => inv.below ack (members ack member) }

theorem Invariant.oldest_in_window (inv : Invariant size counters) {ack : Nat} {rest : List Nat}
    (oldest : counters.acks = ack :: rest) : counters.base ≤ ack ∧ ack ≤ counters.next := by
  have member : ack ∈ counters.acks := oldest ▸ List.mem_cons_self
  exact ⟨inv.above ack member, Nat.le_trans (inv.below ack member) inv.delivered_le⟩

theorem Steps.acknowledge_all {acks : List Nat} (each : ∀ ack ∈ acks, ack = counters.delivered) :
    Steps size counters { counters with acks := counters.acks ++ acks } := by
  induction acks generalizing counters with
  | nil => rw [List.append_nil]
  | cons ack rest ih =>
      obtain rfl := each ack List.mem_cons_self
      have later : Steps size { counters with acks := counters.acks ++ [counters.delivered] }
          { counters with acks := counters.acks ++ [counters.delivered] ++ rest } :=
        ih (fun other member => each other (List.mem_cons_of_mem _ member))
      rw [List.append_assoc, List.singleton_append] at later
      exact .head .acknowledge later

end CPE464.General.SlidingWindow
