/-
How much of a frame the program reads, whatever is in it.

The capture length is printed and not used.  What is read is decided by the type, the header
length, the protocol and the total length; a frame that was cut off before is read past its end.
-/

import CPE464.P1.CaptureBounds

namespace CPE464.P1

open General

theorem noFault {Report : Type} (report : Report) :
    (.ok report : Except Fault Report) ≠ .error .outside ∧
      ((.ok report : Except Fault Report) = .error .overflow ↔ False) := by
  simp

section Fields

variable {capture : List UInt8}

theorem readsTo_printMac (packet : Nat) : ReadsTo (printMac packet) capture (packet + 6)
    (.ok ((capture.drop packet).take 6, packet + 6)) :=
  (ReadsTo.bytesAt packet 6).map _

theorem readsTo_printIp (packet : Nat) : ReadsTo (printIp packet) capture (packet + 4)
    (.ok ((capture.drop packet).take 4, packet + 4)) :=
  (ReadsTo.bytesAt packet 4).map _

theorem readsTo_getByte (packet : Nat) : ReadsTo (getByte packet) capture (packet + 1)
    (.ok (capture.getD packet 0, packet + 1)) :=
  (ReadsTo.byteAt packet).map _

theorem readsTo_getShort (packet : Nat) : ReadsTo (getShort packet true) capture (packet + 2)
    (.ok (ntohs (capture.drop packet), packet + 2)) := by
  rw [← ntohs_take _ 2 le_rfl]
  exact (ReadsTo.bytesAt packet 2).map _

theorem readsTo_getLong (packet : Nat) : ReadsTo (getLong packet true) capture (packet + 4)
    (.ok (ntohl (capture.drop packet), packet + 4)) := by
  rw [← ntohl_take _ 4 le_rfl]
  exact (ReadsTo.bytesAt packet 4).map _

theorem readsTo_printTcpUdpPort (packet : Nat) :
    ReadsTo (printTcpUdpPort packet) capture (packet + 2)
      (.ok (portName (ntohs (capture.drop packet)), packet + 2)) :=
  (readsTo_getShort packet).map _

end Fields

/-! ### The headers -/

def copied (capture : List UInt8) (packet tcpSt tcpPduLen : Nat) (ipPtcl : UInt8) : List UInt8 :=
  checksummed ((capture.drop tcpSt).take 8) ipPtcl ((capture.drop packet).take tcpPduLen)

section Headers

variable (capture : List UInt8)

theorem readsTo_readIpHdr (packet : Nat) : ∃ report,
    ReadsTo (readIpHdr packet) capture (packet + max 20 (headerLength (capture.drop packet)))
      (.ok (report, nextHeader (protocolField (capture.drop packet)) packet
        (headerLength (capture.drop packet)) (packet + 12)
        (totalLength (capture.drop packet)))) := by
  have first : headerLength (capture.drop packet) =
      (capture.getD packet 0 &&& 0xf).toNat * 4 := by
    simp [headerLength]
  have protocol : protocolField (capture.drop packet) = capture.getD (packet + 9) 0 := by
    simp [protocolField]
  have total : totalLength (capture.drop packet) = ntohs (capture.drop (packet + 2)) := by
    simp [totalLength]
  have bound := headerLength_le (capture.drop packet)
  rw [protocol, total]
  rw [first] at bound ⊢
  have summed := inCksum_ok (show ((capture.drop packet).take
      ((capture.getD packet 0 &&& 0xf).toNat * 4)).length ≤ 65536 by
    rw [List.length_take]
    omega)
  unfold readIpHdr
  exact ⟨_, (readsTo_getByte packet).bind ((readsTo_getByte _).bind ((readsTo_getShort _).bind
    ((readsTo_getByte _).bind ((readsTo_getByte _).bind ((ReadsTo.bytesAt _ _).bind
      ((ReadsTo.lift summed).bind ((readsTo_getShort _).bind ((readsTo_printIp _).bind
        ((readsTo_printIp _).bind (ReadsTo.pure _) rfl) rfl) rfl) rfl) rfl) rfl) rfl) rfl) rfl)
    (by simp only [longBytes]; omega)⟩

theorem readsTo_buildTcpChksm (packet tcpSt tcpPduLen : Nat) (ipPtcl : UInt8) :
    ReadsTo (buildTcpChksm packet tcpSt tcpPduLen ipPtcl) capture
      (max (tcpSt + 8) (packet + tcpPduLen))
      (.ok (copied capture packet tcpSt tcpPduLen ipPtcl)) := by
  constructor
  · intro inside
    exact buildTcpChksm_inside ipPtcl ((Nat.le_max_left _ _).trans inside)
      ((Nat.le_max_right _ _).trans inside)
  · intro outside
    rcases lt_or_ge capture.length (tcpSt + 8) with short | header
    · exact run_bind_error (bytesAt_outside short)
    · exact buildTcpChksm_outside ipPtcl header
        ((lt_max_iff.mp outside).resolve_left (not_lt.mpr header))

theorem copied_length_le (packet tcpSt tcpPduLen : Nat) (ipPtcl : UInt8) :
    (copied capture packet tcpSt tcpPduLen ipPtcl).length ≤ 12 + tcpPduLen := by
  simp only [copied, checksummed, List.length_append, List.length_take, List.length_cons,
    List.length_nil, htons_length]
  omega

theorem readsTo_processTcpHdr (packet tcpSt tcpPduLen : Nat) (ipPtcl : UInt8) : ∃ outcome,
    ReadsTo (processTcpHdr packet tcpSt tcpPduLen ipPtcl) capture
      (max (tcpSt + 8) (packet + max 18 tcpPduLen)) outcome ∧ outcome ≠ .error .outside ∧
      (outcome = .error .overflow ↔
        2 ^ 31 ≤ wordSum (copied capture packet tcpSt tcpPduLen ipPtcl)) := by
  have copies := readsTo_buildTcpChksm capture packet tcpSt tcpPduLen ipPtcl
  have summed := inCksum_eq (copied capture packet tcpSt tcpPduLen ipPtcl)
  unfold processTcpHdr
  by_cases fits : wordSum (copied capture packet tcpSt tcpPduLen ipPtcl) < 2 ^ 31
  · rw [if_pos fits] at summed
    refine ⟨_, (readsTo_printTcpUdpPort packet).bind ((readsTo_printTcpUdpPort _).bind
      ((readsTo_getLong _).bind ((readsTo_getLong _).bind ((readsTo_getByte _).bind
        ((readsTo_getByte _).bind ((readsTo_getShort _).bind (copies.bind
          ((ReadsTo.lift summed).bind ((readsTo_getShort _).bind (ReadsTo.pure _)
            rfl) rfl) rfl) rfl) rfl) rfl) rfl) rfl) rfl) (by omega), ?_, ?_⟩
    · exact fun isError => by cases isError
    · exact iff_of_false (fun isError => by cases isError) (not_le.mpr fits)
  · rw [if_neg fits] at summed
    have long : 18 ≤ tcpPduLen := by
      have sum := wordSum_le (copied capture packet tcpSt tcpPduLen ipPtcl)
      have length := copied_length_le capture packet tcpSt tcpPduLen ipPtcl
      omega
    refine ⟨_, (readsTo_printTcpUdpPort packet).bind ((readsTo_printTcpUdpPort _).bind
      ((readsTo_getLong _).bind ((readsTo_getLong _).bind ((readsTo_getByte _).bind
        ((readsTo_getByte _).bind ((readsTo_getShort _).bind (copies.bind
          ((ReadsTo.lift summed).bind_fault _) rfl) rfl) rfl) rfl) rfl) rfl) rfl) (by omega),
      ?_, ?_⟩
    · exact fun isError => by cases isError
    · exact iff_of_true rfl (not_lt.mp fits)

theorem readsTo_processIcmpHdr (packet : Nat) : ∃ report,
    ReadsTo (processIcmpHdr packet) capture (packet + 1) (.ok report) :=
  ⟨_, (readsTo_getByte packet).bind (ReadsTo.pure _) (Nat.max_zero _).symm⟩

theorem readsTo_processUdpHdr (packet : Nat) : ∃ report,
    ReadsTo (processUdpHdr packet) capture (packet + 4) (.ok report) := by
  unfold processUdpHdr
  exact ⟨_, (readsTo_printTcpUdpPort packet).bind ((readsTo_printTcpUdpPort _).bind
    (ReadsTo.pure _) rfl) (by omega)⟩

theorem readsTo_processArpHdr (packet : Nat) : ∃ report,
    ReadsTo (processArpHdr packet) capture (packet + 28) (.ok report) := by
  unfold processArpHdr
  exact ⟨_, (readsTo_getShort _).bind ((readsTo_printMac _).bind ((readsTo_printIp _).bind
    ((readsTo_printMac _).bind ((readsTo_printIp _).bind (ReadsTo.pure _) rfl) rfl) rfl) rfl)
    (by simp only [shortBytes]; omega)⟩

def NextHeader.last : NextHeader → Nat
  | .icmp packet => packet + 1
  | .tcp packet tcpSt tcpPduLen _ => max (tcpSt + 8) (packet + max 18 tcpPduLen)
  | .udp packet => packet + 4
  | .unknown => 0

def NextHeader.SumTooLarge (capture : List UInt8) : NextHeader → Prop
  | .tcp packet tcpSt tcpPduLen ipPtcl =>
      2 ^ 31 ≤ wordSum (copied capture packet tcpSt tcpPduLen ipPtcl)
  | .icmp _ | .udp _ | .unknown => False

theorem readsTo_process (next : NextHeader) : ∃ outcome,
    ReadsTo next.process capture next.last outcome ∧ outcome ≠ .error .outside ∧
      (outcome = .error .overflow ↔ next.SumTooLarge capture) := by
  cases next with
  | icmp packet =>
      obtain ⟨report, reads⟩ := readsTo_processIcmpHdr capture packet
      exact ⟨_, reads.map NextReport.icmp, noFault _⟩
  | tcp packet tcpSt tcpPduLen ipPtcl =>
      obtain ⟨outcome, reads, inside, overflows⟩ :=
        readsTo_processTcpHdr capture packet tcpSt tcpPduLen ipPtcl
      refine ⟨_, reads.map NextReport.tcp, ?_, ?_⟩
      · exact fun outside => inside ((map_error_iff _ _ _).mp outside)
      · rw [map_error_iff]
        exact overflows
  | udp packet =>
      obtain ⟨report, reads⟩ := readsTo_processUdpHdr capture packet
      exact ⟨_, reads.map NextReport.udp, noFault _⟩
  | unknown => exact ⟨_, ReadsTo.pure _, noFault _⟩

end Headers

/-! ### The frame -/

def behindIpHdr (ip : List UInt8) : Nat :=
  if protocolField ip = 1 then 1
  else if protocolField ip = 6 then max 18 (wrap16 (totalLength ip - headerLength ip))
  else if protocolField ip = 17 then 4
  else 0

/-- The bytes of a frame that are read. -/
def bytesNeeded (frame : List UInt8) : Nat :=
  if ntohs (frame.drop 12) = 0x0800 then
    ethHdrLen + max 20 (headerLength (ipPacket frame) + behindIpHdr (ipPacket frame))
  else if ntohs (frame.drop 12) = 0x0806 then ethHdrLen + 28
  else ethHdrLen

def nextOfFrame (frame : List UInt8) : NextHeader :=
  nextHeader (protocolField (ipPacket frame)) ethHdrLen (headerLength (ipPacket frame))
    (ethHdrLen + 12) (totalLength (ipPacket frame))

theorem last_nextOfFrame (frame : List UInt8) :
    max (ethHdrLen + max 20 (headerLength (ipPacket frame))) (nextOfFrame frame).last =
      ethHdrLen + max 20 (headerLength (ipPacket frame) + behindIpHdr (ipPacket frame)) := by
  unfold nextOfFrame nextHeader behindIpHdr
  split
  · simp only [NextHeader.last]
    omega
  · split
    · simp only [NextHeader.last]
      omega
    · split
      · simp only [NextHeader.last]
        omega
      · simp only [NextHeader.last]
        omega

theorem readsTo_processIpHdr (frame : List UInt8) : ∃ outcome,
    ReadsTo (processIpHdr ethHdrLen) frame
      (ethHdrLen + max 20 (headerLength (ipPacket frame) + behindIpHdr (ipPacket frame)))
      outcome ∧ outcome ≠ .error .outside ∧
      (outcome = .error .overflow ↔ (nextOfFrame frame).SumTooLarge frame) := by
  obtain ⟨report, header⟩ := readsTo_readIpHdr frame ethHdrLen
  obtain ⟨outcome, reads, inside, overflows⟩ := readsTo_process frame (nextOfFrame frame)
  refine ⟨_, header.bind (reads.map fun nextReport => (report, nextReport))
    (last_nextOfFrame frame).symm, ?_, ?_⟩
  · exact fun outside => inside ((map_error_iff _ _ _).mp outside)
  · rw [map_error_iff]
    exact overflows

theorem readsTo_processEthHdr (frame : List UInt8) : ∃ outcome,
    ReadsTo (processEthHdr 0) frame (bytesNeeded frame) outcome ∧ outcome ≠ .error .outside ∧
      (outcome = .error .overflow ↔ ntohs (frame.drop 12) = 0x0800 ∧
        (nextOfFrame frame).SumTooLarge frame) := by
  unfold processEthHdr bytesNeeded
  by_cases isIp : ntohs (frame.drop 12) = 0x0800
  · obtain ⟨outcome, reads, inside, overflows⟩ := readsTo_processIpHdr frame
    have fault : ∀ kind, outcome = .error kind → kind = .overflow := by
      rintro (_ | _) isError
      · exact absurd isError inside
      · rfl
    rw [if_pos isIp, and_iff_right isIp, ← overflows]
    cases outcome with
    | ok reports =>
        obtain ⟨header, next⟩ := reports
        rw [(noFault (header, next)).2]
        exact ⟨_, (readsTo_printMac 0).bind ((readsTo_printMac _).bind ((readsTo_getShort _).bind
          (.thenBranch isIp (reads.bind (ReadsTo.pure _) rfl)) rfl) rfl)
          (by unfold ethHdrLen; omega), noFault _⟩
    | error kind =>
        cases fault kind rfl
        exact ⟨_, (readsTo_printMac 0).bind ((readsTo_printMac _).bind ((readsTo_getShort _).bind
          (.thenBranch isIp (reads.bind_fault _)) rfl) rfl) (by unfold ethHdrLen; omega),
          by simp, iff_of_true rfl rfl⟩
  · rw [if_neg isIp, iff_false_intro (not_and_of_not_left _ isIp)]
    by_cases isArp : ntohs (frame.drop 12) = 0x0806
    · obtain ⟨report, reads⟩ := readsTo_processArpHdr frame ethHdrLen
      rw [if_pos isArp]
      exact ⟨_, (readsTo_printMac 0).bind ((readsTo_printMac _).bind ((readsTo_getShort _).bind
        (.elseBranch isIp (.thenBranch isArp (reads.bind (ReadsTo.pure _) rfl))) rfl) rfl)
        (by unfold ethHdrLen; omega), noFault _⟩
    · rw [if_neg isArp]
      exact ⟨_, (readsTo_printMac 0).bind ((readsTo_printMac _).bind ((readsTo_getShort _).bind
        (.elseBranch isIp (.elseBranch isArp (ReadsTo.pure _))) rfl) rfl)
        (by unfold ethHdrLen; omega), noFault _⟩

/-- Whatever the frame holds: the program reads past the end of the capture exactly when fewer
bytes were captured than `bytesNeeded`, its sum overflows exactly when that many were captured
and the words of the TCP segment do not fit an `int`, and otherwise it prints a report. -/
theorem process_eth_hdr_outcome (frame : List UInt8) :
    ((processEthHdr 0).run frame = .error .outside ↔ frame.length < bytesNeeded frame) ∧
      ((processEthHdr 0).run frame = .error .overflow ↔
        bytesNeeded frame ≤ frame.length ∧ ntohs (frame.drop 12) = 0x0800 ∧
          (nextOfFrame frame).SumTooLarge frame) := by
  obtain ⟨outcome, reads, inside, overflows⟩ := readsTo_processEthHdr frame
  rcases lt_or_ge frame.length (bytesNeeded frame) with short | enough
  · rw [reads.outside short]
    refine ⟨iff_of_true rfl short, iff_of_false (by simp) ?_⟩
    exact fun both => absurd short (not_lt.mpr both.1)
  · rw [reads.inside enough]
    exact ⟨iff_of_false inside (not_lt.mpr enough), overflows.trans (and_iff_right enough).symm⟩

end CPE464.P1
