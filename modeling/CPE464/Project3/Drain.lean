/-
What rcopy writes when the packet it waits for fills the gap.

In buffering mode the expected packet goes into its slot, and the window is scanned from
there on.  With every arrival inside the window, `current` is at most one turn of the ring
ahead, so that the scan finds the longest run of consecutive packets and none of them twice.
-/

import CPE464.Project3.RcopyRun

namespace CPE464.Project3

open General

/-! ### The scan -/

theorem inorderFrom_stops (window : Window) (count number : Nat)
    (short : (inorderFrom window count number).length < count) :
    packetValidInWindow window (number + (inorderFrom window count number).length) = false := by
  induction count generalizing number with
  | zero => exact absurd short (Nat.not_lt_zero _)
  | succ count ih =>
      cases valid : packetValidInWindow window number with
      | false =>
          have ended : inorderFrom window (count + 1) number = [] := if_pos valid
          rw [ended]
          exact valid
      | true =>
          have goesOn : inorderFrom window (count + 1) number =
              seqNumOf (window.elements (window.slot number)).packet ::
                inorderFrom window count (number + 1) := by
            apply if_neg
            rw [← packetValidInWindow, valid]
            decide
          rw [goesOn, List.length_cons] at short ⊢
          have later := ih (number + 1) (Nat.lt_of_succ_lt_succ short)
          rwa [Nat.add_right_comm, Nat.add_assoc] at later

def HeldValid (window : Window) (number : Nat) : Prop :=
  packetValidInWindow window number = true ∧
    seqNumOf (window.elements (window.slot number)).packet = number

/-- The lengths of the runs from `first` on in which at most the first packet is missing. -/
def drainable (window : Window) (first : Nat) : Set Nat :=
  {count | 1 ≤ count ∧
    ∀ offset, 1 ≤ offset → offset < count → HeldValid window (first + offset)}

theorem ReceiveWindow.heldValid_bounds {transfer : Transfer} {window : Window} {number : Nat}
    (inv : ReceiveWindow transfer window) (held : HeldValid window number) :
    window.lower ≤ number ∧ number < window.current := by
  obtain ⟨valid, numbered⟩ := held
  obtain ⟨seqNum, low, high, _, carried⟩ := inv.held _ valid
  obtain rfl : seqNum = number := carried.seqNumOf_eq.symm.trans numbered
  exact ⟨low, high⟩

theorem Transfer.delivered_add (transfer : Transfer) (first count : Nat) :
    transfer.delivered (first + count) = transfer.delivered first ++
      (List.range count).flatMap (fun offset => transfer.chunk (first + 1 + offset)) := by
  induction count with
  | zero => rw [List.range_zero, List.flatMap_nil, List.append_nil, Nat.add_zero]
  | succ count ih =>
      rw [← Nat.add_assoc, transfer.delivered_succ, ih, List.range_succ, List.flatMap_append,
        List.flatMap_singleton, List.append_assoc, Nat.add_right_comm]

namespace Rcopy

/-! ### The drain -/

/-- `count` packets have been written, from the expected one on, and removed from the
window. -/
structure DrainsTo (transfer : Transfer) (count : Nat) (statics later : Statics) : Prop where
  toFile : later.toFile = statics.toFile ++
    (List.range count).flatMap (fun offset => transfer.chunk (statics.expected + offset))
  expected : later.expected = statics.expected + count
  lower : later.window.lower = statics.expected + count
  upper : later.window.upper = wrap32 (statics.expected + count + transfer.windowSize)
  current : later.window.current = statics.window.current
  drained : ∀ offset < count,
    packetValidInWindow later.window (statics.expected + offset) = false
  others : ∀ number, HeldValid statics.window number →
    (∀ offset < count, number ≠ statics.expected + offset) →
    later.window.elements (later.window.slot number) =
      statics.window.elements (statics.window.slot number)
  replies : ∃ srejs rr, later.sent = statics.sent ++ srejs ++ [rr] ∧
    IsControl .rr (statics.expected + count) rr ∧
    ∀ srej ∈ srejs, IsControl .srej (statics.expected + count) srej

/-- A step that handles the missing packet in buffering mode writes it and the longest run
of packets held after it. -/
def DrainsExactly (transfer : Transfer) (process : Process) (input : Input) : Prop :=
  ∀ handled ∈ handling process input, activeBuffering process = true →
    handled.1.seqNum = process.statics.expected →
    packetValidInWindow process.statics.window handled.1.seqNum = false →
    ∃ count, IsGreatest (drainable process.statics.window process.statics.expected) count ∧
      DrainsTo transfer count process.statics (stateMachine process input).statics

section Drain

variable {transfer : Transfer} {statics : Statics} {packet : Packet} {dataSize : Nat}
  (inv : StaticsInv transfer statics)
  (carries : Carries transfer statics.expected packet.bytes dataSize)
  (behind : statics.expected < statics.window.current)
  (near : statics.window.current ≤ statics.expected + transfer.windowSize)

include inv carries behind near

theorem drainNumbers_held {offset : Nat} (positive : 1 ≤ offset)
    (found : offset < (drainNumbers statics packet dataSize).length) :
    HeldValid statics.window (statics.expected + offset) := by
  have numbered : packet.seqNum = statics.expected := carries.seqNumOf_eq
  have atMost := drainNumbers_le packet dataSize inv behind
  have otherSlot : statics.window.slot (statics.expected + offset) ≠
      statics.window.slot packet.seqNum := by
    rw [numbered, Window.slot, Window.slot, inv.receive.windowSize_eq]
    exact (mod_ne_of_near (by omega) (by omega)).symm
  obtain ⟨valid, number⟩ := inorderFrom_getElem (placed statics packet dataSize).window
    (statics.window.current - statics.window.lower) statics.window.lower offset found
  rw [show statics.window.lower = statics.expected from inv.lower_eq] at valid
  obtain ⟨isNext, carried⟩ := drainNumbers_consecutive inv carries behind near offset found
  rw [isNext, ReceiveWindow.replaced_other _ _ _ otherSlot] at carried
  change ((replacePacket statics.window packet dataSize).elements
    (statics.window.slot (statics.expected + offset))).valid = true at valid
  rw [ReceiveWindow.replaced_other _ _ _ otherSlot] at valid
  exact ⟨valid, carried.seqNumOf_eq⟩

omit carries near in
theorem drain_stops (short : statics.expected + (drainNumbers statics packet dataSize).length <
      statics.window.current) :
    packetValidInWindow (replacePacket statics.window packet dataSize)
      (statics.expected + (drainNumbers statics packet dataSize).length) = false := by
  have lower := inv.lower_eq
  rw [← lower]
  apply inorderFrom_stops
  change (drainNumbers statics packet dataSize).length <
    statics.window.current - statics.window.lower
  omega

theorem drainNumbers_greatest :
    IsGreatest (drainable statics.window statics.expected)
      (drainNumbers statics packet dataSize).length := by
  have numbered : packet.seqNum = statics.expected := carries.seqNumOf_eq
  have positive := drainNumbers_pos inv carries behind
  refine ⟨⟨positive, fun offset above found =>
    drainNumbers_held inv carries behind near above found⟩, ?_⟩
  rintro count ⟨_, held⟩
  by_contra longer
  have next := held _ positive (Nat.lt_of_not_le longer)
  have bounds := inv.receive.heldValid_bounds next
  have lower := inv.lower_eq
  have otherSlot : statics.window.slot (statics.expected +
      (drainNumbers statics packet dataSize).length) ≠ statics.window.slot packet.seqNum := by
    rw [numbered, Window.slot, Window.slot, inv.receive.windowSize_eq]
    exact (mod_ne_of_near (by omega) (by omega)).symm
  have stopped := drain_stops inv behind bounds.2
  have unchanged := congrArg WindowElement.valid
    (ReceiveWindow.replaced_other statics.window packet dataSize otherSlot)
  exact Bool.false_ne_true (stopped.symm.trans (unchanged.trans next.1))

omit near in
theorem drain_swept {offset : Nat}
    (found : offset < (drainNumbers statics packet dataSize).length) :
    packetValidInWindow (drain statics packet dataSize).window (statics.expected + offset) =
      false := by
  have lower := inv.lower_eq
  rw [drain_window inv carries behind, drain_expected inv carries behind]
  apply congrArg WindowElement.valid
    (ReceiveWindow.removed_swept (replacePacket statics.window packet dataSize) _)
  refine ⟨statics.expected + offset, ?_, by omega, rfl⟩
  change statics.window.lower ≤ _
  omega

theorem drain_others {number : Nat} (held : HeldValid statics.window number)
    (apart : ∀ offset < (drainNumbers statics packet dataSize).length,
      number ≠ statics.expected + offset) :
    (drain statics packet dataSize).window.elements (statics.window.slot number) =
      statics.window.elements (statics.window.slot number) := by
  have numbered : packet.seqNum = statics.expected := carries.seqNumOf_eq
  have lower := inv.lower_eq
  have sized := inv.receive.windowSize_eq
  have positive := drainNumbers_pos inv carries behind
  obtain ⟨low, high⟩ := inv.receive.heldValid_bounds held
  have behindIt : statics.expected + (drainNumbers statics packet dataSize).length ≤ number := by
    by_contra inside
    exact apart (number - statics.expected) (by omega) (by omega)
  rw [drain_window inv carries behind, drain_expected inv carries behind,
    ReceiveWindow.removed_unswept, ReceiveWindow.replaced_other]
  · rw [numbered, Window.slot, Window.slot, sized]
    exact (mod_ne_of_near (by omega) (by omega)).symm
  · intro swept first last
    change statics.window.lower ≤ swept at first
    change statics.window.slot swept ≠ statics.window.slot number
    rw [Window.slot, Window.slot, sized]
    exact mod_ne_of_near (by omega) (by omega)

end Drain

theorem acknowledge_rr (statics : Statics) (buffering : Bool)
    (small : statics.expected < 2 ^ 32) :
    ∃ srejs rr, (acknowledge statics buffering).sent = statics.sent ++ srejs ++ [rr] ∧
      IsControl .rr statics.expected rr ∧
      ∀ srej ∈ srejs, IsControl .srej statics.expected srej := by
  cases buffering with
  | false =>
      exact ⟨[], _, by rw [List.append_nil]; rfl, buildRrPacket_isControl _ small,
        fun _ absent => by cases absent⟩
  | true =>
      refine ⟨[_], _, rfl, buildRrPacket_isControl _ small, fun srej member => ?_⟩
      rw [List.mem_singleton.mp member]
      exact buildSrejPacket_isControl _ small

theorem drain_drainsTo {transfer : Transfer} {statics : Statics} {packet : Packet}
    {dataSize : Nat} (inv : StaticsInv transfer statics) (inside : InWindow transfer statics)
    (carries : Carries transfer statics.expected packet.bytes dataSize)
    (behind : statics.expected < statics.window.current) (buffering : Bool) :
    DrainsTo transfer (drainNumbers statics packet dataSize).length statics
      (acknowledge (drain statics packet dataSize) buffering) := by
  have moved := drain_expected inv carries behind
  have later := drain_inv inv carries behind
  have window := drain_window inv carries behind
  have sized := inv.receive.windowSize_eq
  have before := inside.delivered.toFile_eq
  have after := (drain_delivered inv carries behind inside.delivered inside.current_le).toFile_eq
  have sent := (drain_frame inv carries behind).1
  obtain ⟨framed, expected, _, toFile, _⟩ :=
    acknowledge_frame (drain statics packet dataSize) buffering
  obtain ⟨first, isNext⟩ := Nat.exists_eq_add_of_le' inv.expected_pos
  constructor
  · rw [toFile, after, before, moved, isNext, Nat.add_sub_cancel, Nat.add_right_comm,
      Nat.add_sub_cancel, transfer.delivered_add]
  · rw [expected, moved]
  · rw [framed, later.lower_eq, moved]
  · rw [framed, later.receive.upper_eq, later.lower_eq, moved]
  · rw [framed, window]
    rfl
  · intro offset found
    rw [framed]
    exact drain_swept inv carries behind found
  · intro number held apart
    have slot : (drain statics packet dataSize).window.slot number =
        statics.window.slot number := by
      rw [later.receive.slot_eq, inv.receive.slot_eq]
    rw [framed, slot]
    exact drain_others inv carries behind inside.current_le held apart
  · rw [← sent, ← moved]
    exact acknowledge_rr _ buffering later.expected_lt

theorem drainsExactly {transfer : Transfer} {process : Process} {input : Input}
    (inv : WindowedInv transfer process)
    (allowed : Allowed transfer (inWindowArrival transfer) process input) :
    DrainsExactly transfer process input := by
  rintro handled isHandled buffered here free
  have statics := inv.holds.statics
  rcases stateMachine_step statics inv.holds.control allowed with
    ⟨packet, dataSize, seqNum, isThis, handles⟩ | ⟨nothing, _⟩
  · obtain rfl := Option.some.inj (isThis.symm.trans isHandled)
    have numbered : packet.seqNum = seqNum := handles.carries.seqNumOf_eq
    have carries : Carries transfer process.statics.expected packet.bytes dataSize :=
      here ▸ numbered ▸ handles.carries
    have mode := inv.holds.mode handles.alive buffered
    have behind := Nat.lt_trans mode.1 mode.2
    have drains := drain_drainsTo statics inv.inside.inWindow carries behind
    refine ⟨_, drainNumbers_greatest statics carries behind inv.inside.inWindow.current_le, ?_⟩
    have outcome := handleData_outcome process.statics packet dataSize true
      (isDataFlag_of_carries carries)
    rw [handles.statics, buffered]
    generalize handleData process.statics packet dataSize true = result at outcome ⊢
    cases outcome with
    | stored _ above => exact absurd here (Nat.ne_of_gt above)
    | refused _ highest above => exact absurd here (Nat.ne_of_gt above)
    | drainedPart => exact drains true
    | drainedAll => exact drains false
    | repeated _ known =>
        rcases known with below | ⟨_, filled⟩
        · exact absurd here (Nat.ne_of_lt below)
        · exact absurd (free.symm.trans filled) Bool.false_ne_true
  · exact absurd isHandled (not_mem_handling nothing)

/-- With every arrival inside the window, in any order and any number of times: whenever
the missing packet is handled in buffering mode and its slot is free, it is written along
with all the packets that follow it without a gap, and nothing else. -/
theorem drain_exact_and_maximal (transfer : Transfer) (fromFileName : List UInt8)
    (inputs : List Input)
    (allowed : EveryStep stateMachine (Allowed transfer (inWindowArrival transfer))
      (start transfer.windowSize transfer.bufferSize fromFileName) inputs) :
    EveryStep stateMachine (DrainsExactly transfer)
      (start transfer.windowSize transfer.bufferSize fromFileName) inputs :=
  everyStep_of_invariant (WindowedInv transfer) (fun _ _ inv permitted => inv.step permitted)
    (fun _ _ inv permitted => drainsExactly inv permitted) (.initially transfer fromFileName)
    allowed

/-- Packet 1 fills a gap before a whole window of held packets. -/
theorem drain_exact_and_maximal_full_window :
    EveryStep stateMachine (DrainsExactly (eightBytes 4)) (start 4 1 [])
      (handshake ++ arriving (eightBytes 4) [2, 3, 4, 1]) :=
  drain_exact_and_maximal (eightBytes 4) [] _ (by decide +kernel)

end Rcopy

end CPE464.Project3
