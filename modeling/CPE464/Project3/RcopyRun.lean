/-
Whole runs of rcopy, from the start of `stateMachine`.

`ProcessInv` holds in every state of every run, and `ProcessInWindow` as long as nothing is
stored beyond the upper edge of the receive window.
-/

import CPE464.General.GuardedRun
import CPE464.Project3.RcopyProcess

namespace CPE464.Project3.Rcopy

open General

/-- An arrival rule that does not read the sequence number of rcopy's own packets. -/
def Arrival.Stable (arrival : Arrival) : Prop :=
  ∀ statics seqNum buffering number, arrival statics buffering number →
    arrival { statics with seqNum } buffering number

theorem anyArrival_stable : anyArrival.Stable := fun _ _ _ _ arrived => arrived

theorem inWindowArrival_stable (transfer : Transfer) : (inWindowArrival transfer).Stable :=
  fun _ _ _ _ arrived => arrived

def StoresNear (transfer : Transfer) (process : Process) (input : Input) : Prop :=
  ∀ handled ∈ handling process input,
    stores process.statics (activeBuffering process) handled.1.seqNum = true →
      handled.1.seqNum < process.statics.expected + transfer.windowSize

structure ProcessInv (transfer : Transfer) (arrival : Arrival) (process : Process) : Prop where
  statics : StaticsInv transfer process.statics
  mode : Alive process → BufferingOk process.statics (activeBuffering process)
  control : ControlInv transfer arrival process

structure ProcessInWindow (transfer : Transfer) (process : Process) : Prop where
  inWindow : InWindow transfer process.statics
  roomy : Alive process → Roomy transfer process.statics (activeBuffering process)

section Run

variable {transfer : Transfer} {arrival : Arrival} {process later : Process} {input : Input}

theorem Quiet.statics_inv (quiet : Quiet process later)
    (inv : StaticsInv transfer process.statics) : StaticsInv transfer later.statics :=
  inv.of_window quiet.window quiet.expected quiet.bufferSize

theorem Quiet.buffering_ok (quiet : Quiet process later)
    (ok : Alive process → BufferingOk process.statics (activeBuffering process))
    (alive : Alive later) : BufferingOk later.statics (activeBuffering later) := by
  intro buffering
  rw [quiet.mode alive] at buffering
  rw [quiet.window, quiet.expected, quiet.highest buffering]
  exact ok (quiet.alive alive) buffering

theorem Quiet.in_window (quiet : Quiet process later)
    (inside : ProcessInWindow transfer process) : ProcessInWindow transfer later := by
  refine ⟨inside.inWindow.of_frame quiet.window quiet.expected quiet.toFile quiet.wrote, ?_⟩
  intro alive buffering
  rw [quiet.mode alive] at buffering
  rw [quiet.window, quiet.expected]
  exact inside.roomy (quiet.alive alive) buffering

theorem stateMachine_inv (stable : arrival.Stable) (inv : ProcessInv transfer arrival process)
    (allowed : Allowed transfer arrival process input) :
    ProcessInv transfer arrival (stateMachine process input) := by
  have control := stateMachine_control inv.control inv.statics.bufferSize_eq
    (stable process.statics) allowed
  rcases stateMachine_step inv.statics inv.control allowed with
    ⟨packet, dataSize, seqNum, _, handles⟩ | ⟨_, quiet⟩
  · have ok := handleData_ok inv.statics (inv.mode handles.alive) handles.carries
    refine ⟨handles.statics ▸ ok.inv, ?_, control⟩
    intro alive
    rw [handles.mode alive, handles.statics]
    exact ok.mode (fun isExit => alive.1 (handles.exits.mpr isExit))
  · exact ⟨quiet.statics_inv inv.statics, quiet.buffering_ok inv.mode, control⟩

theorem stateMachine_inWindow (inv : ProcessInv transfer arrival process)
    (inside : ProcessInWindow transfer process)
    (allowed : Allowed transfer arrival process input)
    (near : StoresNear transfer process input) :
    ProcessInWindow transfer (stateMachine process input) := by
  rcases stateMachine_step inv.statics inv.control allowed with
    ⟨packet, dataSize, seqNum, isHandled, handles⟩ | ⟨_, quiet⟩
  · have numbered : packet.seqNum = seqNum := handles.carries.seqNumOf_eq
    obtain ⟨inWindow, roomy⟩ := handleData_inWindow inv.statics (inv.mode handles.alive)
      inside.inWindow (inside.roomy handles.alive) handles.carries
      (numbered ▸ near _ isHandled)
    refine ⟨handles.statics ▸ inWindow, ?_⟩
    intro alive
    rw [handles.mode alive, handles.statics]
    exact roomy
  · exact quiet.in_window inside

theorem not_mem_handling {handled : Packet × Nat} (nothing : handling process input = none) :
    handled ∉ handling process input := by
  rw [nothing]
  exact fun absent => by cases absent

theorem storesNear_of_arrival
    (below : ∀ statics buffering number, arrival statics buffering number →
      number < statics.expected + transfer.windowSize)
    (inv : ProcessInv transfer arrival process) (allowed : Allowed transfer arrival process input) :
    StoresNear transfer process input := by
  intro handled member _
  rcases stateMachine_step inv.statics inv.control allowed with
    ⟨packet, dataSize, seqNum, isHandled, handles⟩ | ⟨nothing, _⟩
  · obtain rfl : (packet, dataSize) = handled := Option.some.inj (isHandled.symm.trans member)
    have numbered : packet.seqNum = seqNum := handles.carries.seqNumOf_eq
    exact numbered ▸ below _ _ _ handles.arrived
  · exact absurd member (not_mem_handling nothing)

theorem ProcessInv.mono {looser : Arrival}
    (loosen : ∀ statics buffering number, arrival statics buffering number →
      looser statics buffering number)
    (inv : ProcessInv transfer arrival process) : ProcessInv transfer looser process where
  statics := inv.statics
  mode := inv.mode
  control :=
    { fresh := inv.control.fresh
      pending := fun pending =>
        have ⟨seqNum, carries, arrived, mode⟩ := inv.control.pending pending
        ⟨seqNum, carries, loosen _ _ _ arrived, mode⟩ }

theorem start_inv (transfer : Transfer) (arrival : Arrival) (fromFileName : List UInt8) :
    ProcessInv transfer arrival
      (start transfer.windowSize transfer.bufferSize fromFileName) where
  statics := ⟨ReceiveWindow.initially transfer, rfl, rfl⟩
  mode := fun _ no => by cases no
  control := .of_handshake rfl (by simp [start])

theorem start_inWindow (transfer : Transfer) (fromFileName : List UInt8) :
    ProcessInWindow transfer
      (start transfer.windowSize transfer.bufferSize fromFileName) where
  inWindow := by
    have positive := transfer.windowSize_pos
    refine ⟨⟨rfl, ?_⟩, ?_, ?_⟩
    · simp only [start, Bool.false_eq_true, false_iff]
      exact fun last => Nat.noConfusion (Nat.succ.inj last)
    · exact Nat.le_add_right _ _
    · intro index
      change ntohl (List.replicate _ 0) < _
      rw [ntohl_replicate_zero]
      exact Nat.lt_add_right _ Nat.one_pos
  roomy := fun _ _ => Nat.lt_add_of_pos_right transfer.windowSize_pos

structure WindowedInv (transfer : Transfer) (process : Process) : Prop where
  holds : ProcessInv transfer (inWindowArrival transfer) process
  inside : ProcessInWindow transfer process

theorem WindowedInv.initially (transfer : Transfer) (fromFileName : List UInt8) :
    WindowedInv transfer (start transfer.windowSize transfer.bufferSize fromFileName) :=
  ⟨start_inv transfer _ fromFileName, start_inWindow transfer fromFileName⟩

theorem WindowedInv.step (inv : WindowedInv transfer process)
    (allowed : Allowed transfer (inWindowArrival transfer) process input) :
    WindowedInv transfer (stateMachine process input) := by
  have near := storesNear_of_arrival (fun _ _ _ arrived => arrived) inv.holds allowed
  exact ⟨stateMachine_inv (inWindowArrival_stable transfer) inv.holds allowed,
    stateMachine_inWindow inv.holds inv.inside allowed near⟩

theorem run_inv (stable : arrival.Stable) {fromFileName : List UInt8} {inputs : List Input}
    (allowed : EveryStep stateMachine (Allowed transfer arrival)
      (start transfer.windowSize transfer.bufferSize fromFileName) inputs) :
    ProcessInv transfer arrival (run stateMachine
      (start transfer.windowSize transfer.bufferSize fromFileName) inputs) :=
  run_invariant (ProcessInv transfer arrival)
    (fun _ _ => stateMachine_inv stable)
    (start_inv transfer arrival fromFileName) allowed

end Run

end CPE464.Project3.Rcopy
