/-
What the two programs guarantee together.

Whatever is lost or damaged on the way and in whatever order the programs take their steps,
rcopy writes nothing but the file, both agree that it is complete only when it is, and the
server can still resend every packet that rcopy lacks.
-/

import CPE464.Project3.SystemInvariant

namespace CPE464.Project3.System

open General

section Written

variable {transfer : Transfer} {system : System}

theorem JointInv.toFile_eq (inv : JointInv transfer system) :
    system.rcopy.statics.toFile = transfer.delivered (system.rcopy.statics.expected - 1) :=
  inv.rcopy.inWindow.inWindow.delivered.toFile_eq

theorem JointInv.toFile_prefix (inv : JointInv transfer system) :
    system.rcopy.statics.toFile <+: transfer.file := by
  rw [inv.toFile_eq]
  exact transfer.delivered_prefix _

theorem JointInv.toFile_whole (inv : JointInv transfer system)
    (complete : system.rcopy.statics.expected = transfer.packetCount + 1) :
    system.rcopy.statics.toFile = transfer.file := by
  rw [inv.toFile_eq, complete, Nat.add_sub_cancel, transfer.delivered_packetCount]

end Written

/-- In every state reached, the file written is the payloads of the packets before the
expected one and so a prefix of the source file.  It is the source file once rcopy has sent
`FLAG_TYPE_EOF_ACK`, and in particular when the server leaves `lastData` on it. -/
theorem file_transfer (transfer : Transfer) (start : System) (actions : List Action)
    (begins : Begins transfer start)
    (enabled : EveryStep step (Enabled transfer) start actions) :
    let system := run step start actions
    let statics := system.rcopy.statics
    statics.toFile = transfer.delivered (statics.expected - 1) ∧
      statics.toFile <+: transfer.file ∧
      (∀ datagram ∈ statics.sent, flagOf datagram = FlagType.eofAck.code →
        statics.toFile = transfer.file) ∧
      (system.server.state = .eofAcked → statics.toFile = transfer.file) := by
  intro system statics
  have inv : JointInv transfer system := run_inv begins enabled
  refine ⟨inv.toFile_eq, inv.toFile_prefix, ?_, fun acked => inv.toFile_whole (inv.acked acked)⟩
  exact fun datagram member isAck => inv.toFile_whole (inv.rcopy.sent datagram member isAck)

theorem oneByte_begins : Begins oneByte (afterHandshake oneByte) where
  server := rfl
  rcopy := ⟨[], Rcopy.handshake, by decide +kernel, by rw [afterHandshake]⟩
  waiting := by decide +kernel
  toClient := rfl
  toServer := rfl

/-- Both packets are sent, the first one is lost and asked for again. -/
def firstPacketLost : List Action :=
  [.serverStep .zero, .serverStep .zero, .serverStep .zero, .loseToClient 0,
    .rcopyReceive .zero, .rcopyStep .zero, .serverReceive .zero]

/-- The packet arrives, the RR for both is damaged on its way, and the end of the file is
acknowledged. -/
def acknowledged : List Action :=
  [.rcopyStep .zero, .rcopyReceive .zero, .rcopyStep .zero,
    .serverReceiveDamaged [0, 0, 0, 2] .zero, .serverReceive .zero]

theorem file_transfer_lost_packet :
    (run step (afterHandshake oneByte) (firstPacketLost ++ acknowledged)).server.state =
        .eofAcked ∧
      (run step (afterHandshake oneByte) (firstPacketLost ++ acknowledged)).rcopy.statics.toFile =
        [65] := by
  have acked : (run step (afterHandshake oneByte)
      (firstPacketLost ++ acknowledged)).server.state = .eofAcked := by decide +kernel
  exact ⟨acked, (file_transfer oneByte _ (firstPacketLost ++ acknowledged) oneByte_begins
    (by decide +kernel)).2.2.2 acked⟩

/-- In every state reached, the window of the server spans the packets rcopy lacks, and
`getPacket` yields each of them as it was first built and sent. -/
theorem lacking_packets_kept (transfer : Transfer) (start : System) (actions : List Action)
    (begins : Begins transfer start)
    (enabled : EveryStep step (Enabled transfer) start actions) :
    let system := run step start actions
    let window := system.server.window
    let expected := system.rcopy.statics.expected
    window.lower ≤ expected ∧ expected ≤ window.current ∧
      window.current ≤ window.lower + transfer.windowSize ∧
      ∀ seqNum, expected ≤ seqNum → seqNum < window.current → ∀ stack,
        let slot := getPacket window stack seqNum
        system.server.sent.find? (Server.named seqNum) = some (slot.1.bytes.take slot.2) ∧
          slot.1.seqNum = seqNum ∧
          slot.2 = dataPacketSsize (transfer.chunk seqNum).length ∧
          slot.1.payload.take (transfer.chunk seqNum).length = transfer.chunk seqNum ∧
          (slot.1.flag = FlagType.eof.code ↔ seqNum = transfer.packetCount) := by
  intro system window expected
  have inv : JointInv transfer system := run_inv begins enabled
  have behind : window.lower ≤ expected := inv.counters.base_le
  have near : window.current ≤ window.lower + transfer.windowSize := inv.counters.near
  refine ⟨behind, inv.counters.delivered_le, near, ?_⟩
  intro seqNum lacking sent stack slot
  have first : 1 ≤ seqNum := Nat.le_trans inv.rcopy.holds.statics.expected_pos lacking
  have last : seqNum ≤ transfer.packetCount :=
    Nat.le_of_lt_succ (Nat.lt_of_lt_of_le sent inv.server.window.current_le)
  have inRing : InRing transfer window seqNum := ⟨first, sent, by omega⟩
  obtain ⟨carried, sized⟩ := inv.server.window.getPacket_inRing inRing rfl stack
  have carries : Carries transfer seqNum slot.1.bytes slot.2 :=
    ⟨carried ▸ transfer.datagram_isDataPacket first last
      (transfer.flagged_flagFor seqNum (.inl rfl)), sized⟩
  refine ⟨?_, carries.seqNumOf_eq, sized, carries.payload_take, ?_⟩
  · rw [carried]
    exact inv.server.firsts seqNum first sent
  · exact beq_iff_eq.symm.trans carries.isEof_iff

/-- While packet 1 is missing, the server still has both packets. -/
theorem lacking_packets_kept_lost_packet :
    let system := run step (afterHandshake oneByte) firstPacketLost
    let slot := getPacket system.server.window .zero 1
    system.rcopy.statics.expected = 1 ∧ slot.2 = 8 ∧ slot.1.payload.take 1 = [65] := by
  have kept := (lacking_packets_kept oneByte _ firstPacketLost oneByte_begins
    (by decide +kernel)).2.2.2 1 (by decide +kernel) (by decide +kernel) .zero
  exact ⟨by decide +kernel, kept.2.2.1, kept.2.2.2.1⟩

/-- The server never takes back what it has let go. -/
theorem lower_never_retreats (transfer : Transfer) (start : System)
    (actions later : List Action) (begins : Begins transfer start)
    (enabled : EveryStep step (Enabled transfer) start (actions ++ later)) :
    (run step start actions).server.window.lower ≤
      (run step start (actions ++ later)).server.window.lower := by
  obtain ⟨before, after⟩ := (everyStep_append start actions later).mp enabled
  have reached := run_inv begins before
  rw [run_append]
  exact (run_refines reached after).1.base_le reached.counters

end CPE464.Project3.System
