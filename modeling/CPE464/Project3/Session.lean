/-
rcopy inside a session: what it keeps when every data packet that arrives has been sent.

`bound` is the number of the next packet the server will send.  The client comes no
further than that, and it sends the acknowledgement of the whole file only when it has it.
-/

import CPE464.Project3.RcopyRun

namespace CPE464.Project3.Rcopy

open General

def belowArrival (transfer : Transfer) (bound : Nat) : Arrival :=
  fun statics _ seqNum => seqNum < statics.expected + transfer.windowSize ∧ seqNum < bound

theorem belowArrival_stable (transfer : Transfer) (bound : Nat) :
    (belowArrival transfer bound).Stable :=
  fun _ _ _ _ arrived => arrived

/-- An acknowledgement of the end of the file comes from a client that has all of it. -/
def AcksWhole (transfer : Transfer) (expected : Nat) (datagram : Datagram) : Prop :=
  flagOf datagram = FlagType.eofAck.code → expected = transfer.packetCount + 1

structure SessionInv (transfer : Transfer) (bound : Nat) (process : Process) : Prop where
  holds : ProcessInv transfer (belowArrival transfer bound) process
  inWindow : ProcessInWindow transfer process
  expected_le : process.statics.expected ≤ bound
  current_le : process.statics.window.current ≤ bound
  sent : ∀ datagram ∈ process.statics.sent,
    AcksWhole transfer process.statics.expected datagram

/-- A step moves `expected` on and sends messages; the RRs among them name `expected`. -/
structure Advances (transfer : Transfer) (earlier later : Statics) : Prop where
  onward : earlier.expected ≤ later.expected
  sends : ∃ sent, later.sent = earlier.sent ++ sent ∧ ∀ datagram ∈ sent,
    AcksWhole transfer later.expected datagram ∧
      (rrNumber? datagram = none ∨ rrNumber? datagram = some later.expected)

variable {transfer : Transfer} {bound : Nat} {process : Process} {input : Input}

theorem AcksWhole.mono {expected later : Nat} {datagram : Datagram}
    (acks : AcksWhole transfer expected datagram) (onward : expected ≤ later)
    (last : later ≤ transfer.packetCount + 1) : AcksWhole transfer later datagram :=
  fun isAck => Nat.le_antisymm last (acks isAck ▸ onward)

theorem acksWhole_of_flag {flag : FlagType} {datagram : Datagram}
    (flagged : flagOf datagram = flag.code) (other : flag ≠ .eofAck) (expected : Nat) :
    AcksWhole transfer expected datagram :=
  fun isAck => absurd (FlagType.code_injective (flagged.symm.trans isAck)) other

theorem Reply.acksWhole {statics : Statics} {datagram : Datagram}
    (reply : Reply statics datagram) : AcksWhole transfer statics.expected datagram := by
  cases reply with
  | rr control => exact acksWhole_of_flag control.flag_eq (by decide) _
  | srej control => exact acksWhole_of_flag control.flag_eq (by decide) _

theorem Notice.acksWhole (delivered : Delivered transfer process.statics) {datagram : Datagram}
    (notice : Notice process datagram) :
    AcksWhole transfer process.statics.expected datagram := by
  cases notice with
  | fileName early flagged => exact acksWhole_of_flag flagged (by decide) _
  | srej number control => exact acksWhole_of_flag control.flag_eq (by decide) _
  | eofAck wrote control => exact fun _ => delivered.wrote_iff.mp wrote

theorem SessionInv.mono {later : Nat} (inv : SessionInv transfer bound process)
    (ordered : bound ≤ later) : SessionInv transfer later process where
  holds := inv.holds.mono (fun _ _ _ arrived =>
    ⟨arrived.1, Nat.lt_of_lt_of_le arrived.2 ordered⟩)
  inWindow := inv.inWindow
  expected_le := Nat.le_trans inv.expected_le ordered
  current_le := Nat.le_trans inv.current_le ordered
  sent := inv.sent

theorem start_session (transfer : Transfer) (fromFileName : List UInt8) :
    SessionInv transfer seqNumStart
      (start transfer.windowSize transfer.bufferSize fromFileName) where
  holds := start_inv transfer _ fromFileName
  inWindow := start_inWindow transfer fromFileName
  expected_le := Nat.le_refl _
  current_le := Nat.le_refl _
  sent := fun _ absent => by cases absent

theorem Advances.acksWhole {earlier later : Statics} (advances : Advances transfer earlier later)
    (last : later.expected ≤ transfer.packetCount + 1)
    (before : ∀ datagram ∈ earlier.sent, AcksWhole transfer earlier.expected datagram) :
    ∀ datagram ∈ later.sent, AcksWhole transfer later.expected datagram := by
  obtain ⟨onward, sent, grown, each⟩ := advances
  intro datagram member
  rw [grown] at member
  rcases List.mem_append.mp member with old | new
  · exact (before datagram old).mono onward last
  · exact (each datagram new).1

theorem session_step (inv : SessionInv transfer bound process)
    (allowed : Allowed transfer (belowArrival transfer bound) process input) :
    SessionInv transfer bound (stateMachine process input) ∧
      Advances transfer process.statics (stateMachine process input).statics := by
  have near := storesNear_of_arrival (fun _ _ _ arrived => arrived.1) inv.holds allowed
  have later := stateMachine_inv (belowArrival_stable transfer bound) inv.holds allowed
  have inside := stateMachine_inWindow inv.holds inv.inWindow allowed near
  have last := later.statics.expected_le
  rcases stateMachine_step inv.holds.statics inv.holds.control allowed with
    ⟨packet, dataSize, seqNum, _, handles⟩ | ⟨_, quiet⟩
  · have mode := inv.holds.mode handles.alive
    have ok := handleData_ok inv.holds.statics mode handles.carries
    obtain ⟨expected, current⟩ := handleData_bound inv.holds.statics mode handles.carries
      handles.arrived.2 inv.expected_le inv.current_le
    obtain ⟨replies, grown, each⟩ := ok.replies
    have onward := ok.expected_le
    rw [← handles.statics] at expected current grown each onward
    have advances : Advances transfer process.statics (stateMachine process input).statics :=
      ⟨onward, replies, grown, fun datagram member =>
        ⟨(each datagram member).acksWhole, (each datagram member).rrNumber?⟩⟩
    exact ⟨⟨later, inside, expected, current, advances.acksWhole last inv.sent⟩, advances⟩
  · obtain ⟨notices, grown, each⟩ := quiet.notices
    have same := quiet.expected
    have advances : Advances transfer process.statics (stateMachine process input).statics := by
      refine ⟨Nat.le_of_eq same.symm, notices, grown, fun datagram member => ?_⟩
      rw [same]
      exact ⟨(each datagram member).acksWhole inv.inWindow.inWindow.delivered,
        .inl (each datagram member).rrNumber?⟩
    exact ⟨⟨later, inside, same.symm ▸ inv.expected_le, quiet.window.symm ▸ inv.current_le,
      advances.acksWhole last inv.sent⟩, advances⟩

end CPE464.Project3.Rcopy
