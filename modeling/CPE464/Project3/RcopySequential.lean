/-
rcopy when the data packets come in order, but for losses and repetitions.

Above the expected number each packet that arrives is then newer than all before it.  So
`highest` stays one behind `current`, the slot of the expected packet is never filled, and
outside buffering mode no slot is.
-/

import CPE464.Project3.Drain

namespace CPE464.Project3.Rcopy

open General

/-- The packet is an old one, or newer than all that have been stored. -/
def Follows (statics : Statics) (seqNum : Nat) : Prop :=
  seqNum ≤ statics.expected ∨ statics.window.current ≤ seqNum

structure Sequential (statics : Statics) (buffering : Bool) : Prop where
  expected_free : packetValidInWindow statics.window statics.expected = false
  empty : buffering = false → ∀ index, (statics.window.elements index).valid = false
  highest_eq : buffering = true → statics.highest + 1 = statics.window.current

variable {transfer : Transfer} {statics : Statics} {packet : Packet} {seqNum dataSize : Nat}
  {buffering : Bool}

theorem Sequential.of_frame {later : Statics} (sequential : Sequential statics buffering)
    (window : later.window = statics.window) (expected : later.expected = statics.expected)
    (highest : buffering = true → later.highest = statics.highest) :
    Sequential later buffering := by
  constructor
  · rw [window, expected]
    exact sequential.expected_free
  · rw [window]
    exact sequential.empty
  · intro buffered
    rw [window, highest buffered]
    exact sequential.highest_eq buffered

/-! ### Storing -/

section Stored

variable (inv : StaticsInv transfer statics)
  (carries : Carries transfer seqNum packet.bytes dataSize)
  (above : statics.expected < seqNum) (near : seqNum < statics.expected + transfer.windowSize)
  (isOpen : isWindowOpen statics.window = true)

include inv carries above near isOpen

theorem addPacket_keeps_free
    (free : packetValidInWindow statics.window statics.expected = false) :
    packetValidInWindow (addPacket statics.window packet dataSize).2 statics.expected = false := by
  have numbered : packet.seqNum = seqNum := carries.seqNumOf_eq
  have noWrap := inv.receive.current_succ.resolve_right (by omega)
  have otherSlot : statics.window.slot statics.expected ≠ statics.window.slot packet.seqNum := by
    rw [numbered, Window.slot, Window.slot, inv.receive.windowSize_eq]
    exact mod_ne_of_near above near
  rw [addPacket_open _ _ _ isOpen (numbered ▸ carries.seqNum_lt) noWrap]
  exact ReceiveWindow.added_free packet dataSize free otherSlot

theorem addPacket_current_of_follows (follows : Follows statics seqNum) :
    (addPacket statics.window packet dataSize).2.current = packet.seqNum + 1 := by
  have numbered : packet.seqNum = seqNum := carries.seqNumOf_eq
  have noWrap := inv.receive.current_succ.resolve_right (by omega)
  have newer : statics.window.current ≤ seqNum := follows.resolve_left (Nat.not_le.mpr above)
  rw [addPacket_open _ _ _ isOpen (numbered ▸ carries.seqNum_lt) noWrap]
  exact Nat.max_eq_right (by omega)

end Stored

/-! ### Draining -/

section Drained

variable (inv : StaticsInv transfer statics)
  (carries : Carries transfer statics.expected packet.bytes dataSize)
  (behind : statics.expected < statics.window.current)

include inv carries behind

theorem drain_expected_free :
    packetValidInWindow (drain statics packet dataSize).window
      (drain statics packet dataSize).expected = false := by
  have moved := drain_expected inv carries behind
  have later := drain_inv inv carries behind
  by_contra filled
  have inside : (drain statics packet dataSize).expected < statics.window.current := by
    obtain ⟨number, low, high, sameSlot, _⟩ := later.receive.held _ (Bool.not_eq_false _ ▸ filled)
    rw [later.lower_eq] at low
    rw [drain_current inv carries behind] at high
    exact Nat.lt_of_le_of_lt low high
  have stopped : packetValidInWindow (replacePacket statics.window packet dataSize)
      (drain statics packet dataSize).expected = false := by
    rw [moved] at inside ⊢
    exact drain_stops inv behind inside
  apply filled
  rw [drain_window inv carries behind]
  exact ReceiveWindow.removed_free _ stopped

end Drained

/-! ### Handlers -/

section Handlers

variable {handled : Handled} (inv : StaticsInv transfer statics)
  (mode : BufferingOk statics buffering) (carries : Carries transfer seqNum packet.bytes dataSize)
  (outcome : Outcome statics packet dataSize buffering handled)

include inv carries outcome

variable (before : Sequential statics buffering)
  (near : seqNum < statics.expected + transfer.windowSize)

include mode before near

theorem Outcome.expected_free :
    packetValidInWindow handled.statics.window handled.statics.expected = false := by
  have numbered : packet.seqNum = seqNum := carries.seqNumOf_eq
  cases outcome with
  | inOrder here =>
      exact ReceiveWindow.removed_free _ (before.empty rfl _)
  | stored _ above isOpen free =>
      rw [numbered] at above
      change packetValidInWindow (addPacket statics.window packet dataSize).2
        (rejectGap statics buffering).expected = false
      rw [(rejectGap_frame statics buffering).2.1]
      exact addPacket_keeps_free inv carries above near isOpen before.expected_free
  | refused _ highest above closed free =>
      obtain ⟨window, expected, _⟩ := rejectGap_frame statics buffering
      rw [window, expected]
      exact before.expected_free
  | drainedPart here free more =>
      obtain rfl : seqNum = statics.expected := numbered.symm.trans here
      obtain ⟨window, expected, _⟩ := acknowledge_frame (drain statics packet dataSize) true
      rw [window, expected]
      exact drain_expected_free inv carries (Nat.lt_trans (mode rfl).1 (mode rfl).2)
  | drainedAll here free done =>
      obtain rfl : seqNum = statics.expected := numbered.symm.trans here
      obtain ⟨window, expected, _⟩ := acknowledge_frame (drain statics packet dataSize) false
      rw [window, expected]
      exact drain_expected_free inv carries (Nat.lt_trans (mode rfl).1 (mode rfl).2)
  | repeated _ known =>
      obtain ⟨window, expected, _⟩ := acknowledge_frame statics buffering
      rw [window, expected]
      exact before.expected_free

theorem Outcome.sequential (follows : Follows statics seqNum) (alive : handled.next ≠ .exit) :
    Sequential handled.statics handled.buffering := by
  have numbered : packet.seqNum = seqNum := carries.seqNumOf_eq
  have free := outcome.expected_free inv mode carries before near
  cases outcome with
  | inOrder here =>
      refine ⟨free, fun _ index => ?_, fun no => by cases no⟩
      exact ReceiveWindow.removed_free _ (before.empty rfl index)
  | stored _ above isOpen _ =>
      rw [numbered] at above
      refine ⟨free, fun no => (by cases no), fun _ => ?_⟩
      exact (addPacket_current_of_follows inv carries above near isOpen follows).symm
  | refused => exact absurd rfl alive
  | drainedPart here _ more =>
      obtain rfl : seqNum = statics.expected := numbered.symm.trans here
      have behind := Nat.lt_trans (mode rfl).1 (mode rfl).2
      obtain ⟨window, _, highest, _⟩ := acknowledge_frame (drain statics packet dataSize) true
      refine ⟨free, fun no => (by cases no), fun _ => ?_⟩
      rw [window, highest, drain_current inv carries behind, (drain_frame inv carries behind).2.1]
      exact before.highest_eq rfl
  | drainedAll here _ done =>
      obtain rfl : seqNum = statics.expected := numbered.symm.trans here
      have behind := Nat.lt_trans (mode rfl).1 (mode rfl).2
      obtain ⟨window, expected, _⟩ := acknowledge_frame (drain statics packet dataSize) false
      refine ⟨free, fun _ index => ?_, fun no => by cases no⟩
      rw [window] at free ⊢
      rw [expected] at free
      by_contra filled
      have later := drain_inv inv carries behind
      obtain ⟨number, low, high, atIndex, _⟩ := later.receive.held _ (Bool.not_eq_false _ ▸ filled)
      rw [later.lower_eq] at low
      rw [drain_current inv carries behind] at high
      rw [(drain_frame inv carries behind).2.1] at done
      have last := before.highest_eq rfl
      -- nothing is held between the expected number and `current`
      obtain rfl : number = (drain statics packet dataSize).expected := by omega
      rw [← atIndex] at filled
      exact filled free
  | repeated _ known =>
      obtain ⟨window, expected, highest, _⟩ := acknowledge_frame statics buffering
      exact before.of_frame window expected (fun _ => highest)

end Handlers

end CPE464.Project3.Rcopy
