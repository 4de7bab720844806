/-
Data packets that arrive inside the receive window, in any order, with duplicates and
losses: the file grows packet by packet in order, and the acknowledgements follow it.
-/

import CPE464.Project3.RcopyRun

namespace CPE464.Project3.Rcopy

open General

def rrNumbers (statics : Statics) : List Nat := statics.sent.filterMap rrNumber?

/-- The RRs sent so far never run ahead of the expected packet and never step back. -/
structure RrLog (statics : Statics) : Prop where
  sorted : (rrNumbers statics).Pairwise (· ≤ ·)
  bounded : ∀ number ∈ rrNumbers statics, 1 ≤ number ∧ number ≤ statics.expected

section Log

variable {transfer : Transfer} {arrival : Arrival} {process : Process} {input : Input}

theorem RrLog.grow {earlier later : Statics} (log : RrLog earlier)
    (positive : 1 ≤ later.expected) (ordered : earlier.expected ≤ later.expected)
    {sent : List Datagram} (grown : later.sent = earlier.sent ++ sent)
    (each : ∀ datagram ∈ sent,
      rrNumber? datagram = none ∨ rrNumber? datagram = some later.expected) :
    RrLog later := by
  have split : rrNumbers later = rrNumbers earlier ++ sent.filterMap rrNumber? := by
    rw [rrNumbers, grown, List.filterMap_append]
    rfl
  have fresh : ∀ number ∈ sent.filterMap rrNumber?, number = later.expected := by
    intro number member
    obtain ⟨datagram, isSent, names⟩ := List.mem_filterMap.mp member
    rcases each datagram isSent with noRr | isRr
    · rw [noRr] at names
      cases names
    · exact (Option.some.inj (isRr.symm.trans names)).symm
  constructor
  · rw [split, List.pairwise_append]
    refine ⟨log.sorted, ?_, ?_⟩
    · rw [List.pairwise_iff_forall_sublist]
      intro first second pair
      have members := pair.subset
      rw [fresh first (members (by simp)), fresh second (members (by simp))]
    · intro old known new added
      rw [fresh new added]
      exact Nat.le_trans (log.bounded old known).2 ordered
  · intro number member
    rw [split] at member
    rcases List.mem_append.mp member with known | added
    · obtain ⟨first, last⟩ := log.bounded number known
      exact ⟨first, Nat.le_trans last ordered⟩
    · rw [fresh number added]
      exact ⟨positive, Nat.le_refl _⟩

theorem stateMachine_rrLog (inv : ProcessInv transfer arrival process)
    (log : RrLog process.statics) (allowed : Allowed transfer arrival process input) :
    RrLog (stateMachine process input).statics := by
  rcases stateMachine_step inv.statics inv.control allowed with
    ⟨packet, dataSize, seqNum, _, handles⟩ | ⟨_, quiet⟩
  · have ok := handleData_ok inv.statics (inv.mode handles.alive) handles.carries
    obtain ⟨replies, grown, each⟩ := ok.replies
    rw [handles.statics]
    exact log.grow ok.inv.expected_pos ok.expected_le grown
      (fun datagram member => (each datagram member).rrNumber?)
  · obtain ⟨notices, grown, each⟩ := quiet.notices
    refine log.grow ?_ (Nat.le_of_eq quiet.expected.symm) grown
      (fun datagram member => .inl (each datagram member).rrNumber?)
    rw [quiet.expected]
    exact inv.statics.expected_pos

end Log

/-- Whatever order, duplicates and losses the arrivals inside the window have, and
wherever timeouts and damaged datagrams fall between them: the file is the payloads before
the expected packet, the window starts there, the RRs acknowledge what has been written,
and the last packet counts as written when all are.  `expected + windowSize` is a
`uint32_t` sum. -/
theorem receiver_in_order (transfer : Transfer) (fromFileName : List UInt8)
    (inputs : List Input)
    (allowed : EveryStep stateMachine (Allowed transfer (inWindowArrival transfer))
      (start transfer.windowSize transfer.bufferSize fromFileName) inputs) :
    let statics := (run stateMachine
      (start transfer.windowSize transfer.bufferSize fromFileName) inputs).statics
    statics.toFile = transfer.delivered (statics.expected - 1) ∧
      statics.window.lower = statics.expected ∧
      statics.window.upper = wrap32 (statics.expected + transfer.windowSize) ∧
      (∀ number ∈ rrNumbers statics,
        1 ≤ number ∧ transfer.delivered (number - 1) <+: statics.toFile) ∧
      (rrNumbers statics).Pairwise (· ≤ ·) ∧
      (statics.wroteLastData = true ↔ statics.expected = transfer.packetCount + 1) := by
  obtain ⟨⟨inv, inside⟩, log⟩ := run_invariant
    (fun process => WindowedInv transfer process ∧ RrLog process.statics)
    (fun process input kept permitted =>
      ⟨kept.1.step permitted, stateMachine_rrLog kept.1.holds kept.2 permitted⟩)
    ⟨.initially transfer fromFileName, ⟨.nil, fun _ absent => by cases absent⟩⟩ allowed
  have written := inside.inWindow.delivered
  refine ⟨written.toFile_eq, inv.statics.lower_eq, ?_, ?_, log.sorted, written.wrote_iff⟩
  · rw [← inv.statics.lower_eq]
    exact inv.statics.receive.upper_eq
  · intro number member
    obtain ⟨first, last⟩ := log.bounded number member
    rw [written.toFile_eq]
    exact ⟨first, transfer.delivered_mono (by omega)⟩

/-- Packet 2 is late, packet 3 comes twice, and a poll times out in between. -/
theorem receiver_in_order_late_packet :
    let transfer := eightBytes 4
    let statics := (run stateMachine (start 4 1 [])
      (handshake ++ arriving transfer [1, 3, 4, 3] ++ [pass none, pass none] ++
        arriving transfer [2, 5, 6, 7, 8, 9])).statics
    statics.toFile = transfer.delivered (statics.expected - 1) ∧
      statics.window.lower = statics.expected ∧
      statics.window.upper = wrap32 (statics.expected + transfer.windowSize) ∧
      (∀ number ∈ rrNumbers statics,
        1 ≤ number ∧ transfer.delivered (number - 1) <+: statics.toFile) ∧
      (rrNumbers statics).Pairwise (· ≤ ·) ∧
      (statics.wroteLastData = true ↔ statics.expected = transfer.packetCount + 1) :=
  receiver_in_order (eightBytes 4) []
    (handshake ++ arriving (eightBytes 4) [1, 3, 4, 3] ++
      [pass none, pass none] ++ arriving (eightBytes 4) [2, 5, 6, 7, 8, 9])
    (by decide +kernel)

end CPE464.Project3.Rcopy
