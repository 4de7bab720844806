/-
What the functions of trace.c do with a frame, as far as all bytes they read were captured.

The program follows two fields of the IP header, its length and the total length, and
everything else is at a fixed distance from these.
-/

import CPE464.P1.Trace

namespace CPE464.P1

open General

/-! ### The IP header -/

def headerLength (ip : List UInt8) : Nat := (ip.getD 0 0 &&& 0xf).toNat * 4

def totalLength (ip : List UInt8) : Nat := ntohs (ip.drop 2)

def protocolField (ip : List UInt8) : UInt8 := ip.getD 9 0

theorem headerLength_le (ip : List UInt8) : headerLength ip ≤ 60 := by
  have nibble : (ip.getD 0 0 &&& 0xf).toNat ≤ 15 := by
    rw [UInt8.toNat_and]
    exact Nat.and_le_right
  unfold headerLength
  omega

/-! The fields lie in the first ten bytes. -/

theorem headerLength_take (ip : List UInt8) {count : Nat} (enough : 1 ≤ count) :
    headerLength (ip.take count) = headerLength ip := by
  simp only [headerLength, List.getD_eq_getElem?_getD, List.getElem?_take_of_lt enough]

theorem totalLength_take (ip : List UInt8) {count : Nat} (enough : 4 ≤ count) :
    totalLength (ip.take count) = totalLength ip := by
  rw [totalLength, List.drop_take, ntohs_take _ _ (by omega), totalLength]

theorem protocolField_take (ip : List UInt8) {count : Nat} (enough : 10 ≤ count) :
    protocolField (ip.take count) = protocolField ip := by
  simp only [protocolField, List.getD_eq_getElem?_getD, List.getElem?_take_of_lt enough]

theorem verdict_eq_correct (sum : Nat) : verdict sum = .correct ↔ sum = 0 := by
  unfold verdict
  split <;> simp_all

theorem inCksum_run {bytes : List UInt8} (short : bytes.length ≤ 65536) (capture : List UInt8) :
    (liftM (inCksum bytes) : Scan Nat).run capture = .ok (complementSum bytes) :=
  inCksum_ok short

section Headers

variable {capture : List UInt8} {packet : Nat}

theorem readIpHdr_run (fixed : packet + 20 ≤ capture.length)
    (options : packet + headerLength (capture.drop packet) ≤ capture.length) :
    ∃ report, (readIpHdr packet).run capture =
      .ok (report, nextHeader (protocolField (capture.drop packet)) packet
        (headerLength (capture.drop packet)) (packet + 12)
        (totalLength (capture.drop packet))) := by
  have first : headerLength (capture.drop packet) =
      (capture.getD packet 0 &&& 0xf).toNat * 4 := by
    simp [headerLength]
  have protocol : protocolField (capture.drop packet) = capture.getD (packet + 9) 0 := by
    simp [protocolField]
  have total : totalLength (capture.drop packet) = ntohs (capture.drop (packet + 2)) := by
    simp [totalLength]
  have bound := headerLength_le (capture.drop packet)
  rw [first] at options bound
  have short : ((capture.drop packet).take
      ((capture.getD packet 0 &&& 0xf).toNat * 4)).length ≤ 65536 := by
    rw [List.length_take]
    omega
  rw [first, protocol, total]
  simp (disch := first | omega | assumption) only [readIpHdr, ReaderT.run_bind, ok_bind,
    getByte_run, getShort_run, bytesAt_inside, inCksum_run, printIp_run, ReaderT.run_pure,
    longBytes, Nat.add_assoc, Nat.reduceAdd]
  exact ⟨_, rfl⟩

end Headers

/-! ### The TCP header -/

def checksummed (addresses : List UInt8) (protocol : UInt8) (segment : List UInt8) :
    List UInt8 :=
  addresses ++ [0, protocol] ++ htons segment.length ++ segment

theorem checksummed_length {addresses : List UInt8} (eight : addresses.length = 8)
    (protocol : UInt8) (segment : List UInt8) :
    (checksummed addresses protocol segment).length = 12 + segment.length := by
  simp only [checksummed, List.length_append, eight, List.length_cons, List.length_nil,
    htons_length]

theorem pHdr_eq {addresses : List UInt8} (eight : addresses.length = 8) (ipPtcl : UInt8)
    (tcpPduLen : Nat) :
    overwrite
        (overwrite (overwrite (List.replicate tcpPHdrLen 0) 0 addresses)
          (2 * ipAddrSize + 1) [ipPtcl])
        (2 * ipAddrSize + 2) (htons tcpPduLen) =
      addresses ++ [0, ipPtcl] ++ htons tcpPduLen := by
  have first := overwrite_append [] (List.replicate 8 0) [0, 0, 0, 0] addresses 0 rfl
    (by rw [eight, List.length_replicate])
  have second := overwrite_append (addresses ++ [0]) [0] [0, 0] [ipPtcl] 9
    (by rw [List.length_append, eight, List.length_singleton]) rfl
  have third := overwrite_append (addresses ++ [0, ipPtcl]) [0, 0] [] (htons tcpPduLen) 10
    (by rw [List.length_append, eight, List.length_cons, List.length_singleton]) rfl
  simp only [List.nil_append, List.append_nil, List.append_assoc, List.cons_append]
    at first second third
  have blank : List.replicate tcpPHdrLen (0 : UInt8) = List.replicate 8 0 ++ [0, 0, 0, 0] := rfl
  simp only [blank, first, ipAddrSize, Nat.reduceMul, Nat.reduceAdd, second, third,
    List.append_assoc, List.cons_append, List.nil_append]

section Segment

variable {capture : List UInt8} {packet tcpSt tcpPduLen : Nat} (ipPtcl : UInt8)

theorem buildTcpChksm_inside (header : tcpSt + 8 ≤ capture.length)
    (inside : packet + tcpPduLen ≤ capture.length) :
    (buildTcpChksm packet tcpSt tcpPduLen ipPtcl).run capture =
      .ok (checksummed ((capture.drop tcpSt).take 8) ipPtcl
        ((capture.drop packet).take tcpPduLen)) := by
  have eight : ((capture.drop tcpSt).take 8).length = 8 := by
    rw [List.length_take, List.length_drop]
    omega
  have length : ((capture.drop packet).take tcpPduLen).length = tcpPduLen := by
    rw [List.length_take, List.length_drop]
    omega
  have pHdr := pHdr_eq eight ipPtcl tcpPduLen
  have pHdrLen : ((capture.drop tcpSt).take 8 ++ [0, ipPtcl] ++ htons tcpPduLen).length =
      tcpPHdrLen := by
    simp only [List.length_append, eight, List.length_cons, List.length_nil, htons_length,
      tcpPHdrLen]
  have front := overwrite_append [] (List.replicate tcpPHdrLen 0)
    (List.replicate tcpPduLen 0)
    ((capture.drop tcpSt).take 8 ++ [0, ipPtcl] ++ htons tcpPduLen) 0 rfl
    (by rw [pHdrLen, List.length_replicate])
  have back := overwrite_append
    ((capture.drop tcpSt).take 8 ++ [0, ipPtcl] ++ htons tcpPduLen)
    (List.replicate tcpPduLen 0) [] ((capture.drop packet).take tcpPduLen) tcpPHdrLen pHdrLen.symm
    (by rw [length, List.length_replicate])
  rw [List.nil_append, List.nil_append] at front
  rw [List.append_nil, List.append_nil] at back
  have addresses : (bytesAt tcpSt (2 * ipAddrSize)).run capture =
      .ok ((capture.drop tcpSt).take 8) := bytesAt_inside header
  simp only [buildTcpChksm, ReaderT.run_bind, addresses, ok_bind, pHdr, bytesAt_inside inside,
    List.replicate_add, front, back, ReaderT.run_pure, checksummed, length]
  rfl

theorem buildTcpChksm_outside (header : tcpSt + 8 ≤ capture.length)
    (outside : capture.length < packet + tcpPduLen) :
    (buildTcpChksm packet tcpSt tcpPduLen ipPtcl).run capture = .error .outside := by
  have addresses : (bytesAt tcpSt (2 * ipAddrSize)).run capture =
      .ok ((capture.drop tcpSt).take 8) := bytesAt_inside header
  simp only [buildTcpChksm, ReaderT.run_bind, addresses, ok_bind, bytesAt_outside outside,
    error_bind]

theorem processTcpHdr_run (fixed : packet + 18 ≤ capture.length) :
    ∃ report : Nat → TcpReport,
      (processTcpHdr packet tcpSt tcpPduLen ipPtcl).run capture =
        (do
          let tcpChksm ← (buildTcpChksm packet tcpSt tcpPduLen ipPtcl).run capture
          let sum ← inCksum tcpChksm
          return report sum) ∧
      ∀ sum, (report sum).checksum = verdict sum := by
  simp (disch := omega) only [processTcpHdr, ReaderT.run_bind, ok_bind, printTcpUdpPort_run,
    getLong_run, getByte_run, getShort_run, Nat.add_assoc, Nat.reduceAdd]
  exact ⟨_, rfl, fun _ => rfl⟩

end Segment

/-! ### The frame -/

def ethHdrLen : Nat := 14

def ipPacket (frame : List UInt8) : List UInt8 := frame.drop ethHdrLen

theorem ipPacket_length (frame : List UInt8) :
    (ipPacket frame).length = frame.length - ethHdrLen :=
  List.length_drop

theorem readIpHdr_frame {frame : List UInt8} (fixed : 20 ≤ (ipPacket frame).length)
    (options : headerLength (ipPacket frame) ≤ (ipPacket frame).length) :
    ∃ report, (readIpHdr ethHdrLen).run frame =
      .ok (report, nextHeader (protocolField (ipPacket frame)) ethHdrLen
        (headerLength (ipPacket frame)) (ethHdrLen + 12) (totalLength (ipPacket frame))) := by
  rw [ipPacket_length] at fixed options
  apply readIpHdr_run
  · omega
  · rw [← ipPacket]
    omega

theorem processIpHdr_run {capture : List UInt8} {packet : Nat} {report : IpReport}
    {next : NextHeader} (header : (readIpHdr packet).run capture = .ok (report, next)) :
    (processIpHdr packet).run capture =
      (next.process.run capture).map fun nextReport => (report, nextReport) := by
  rw [processIpHdr, run_bind_ok header]
  simp only [ReaderT.run_bind, ReaderT.run_pure]
  cases next.process.run capture <;> rfl

theorem process_tcp_run (capture : List UInt8) (packet tcpSt tcpPduLen : Nat)
    (ipPtcl : UInt8) :
    (NextHeader.tcp packet tcpSt tcpPduLen ipPtcl).process.run capture =
      ((processTcpHdr packet tcpSt tcpPduLen ipPtcl).run capture).map .tcp := by
  simp only [NextHeader.process, ReaderT.run_bind, ReaderT.run_pure]
  cases (processTcpHdr packet tcpSt tcpPduLen ipPtcl).run capture <;> rfl

theorem processEthHdr_run {frame : List UInt8} (whole : ethHdrLen ≤ frame.length)
    (type : ntohs (frame.drop 12) = 0x0800) :
    ∃ destMac sourceMac, (processEthHdr 0).run frame =
      ((processIpHdr ethHdrLen).run frame).map fun report =>
        ⟨destMac, sourceMac, .ip report.1 report.2⟩ := by
  unfold ethHdrLen at *
  refine ⟨frame.take 6, (frame.drop 6).take 6, ?_⟩
  simp (disch := omega) only [processEthHdr, ReaderT.run_bind, ok_bind, printMac_run,
    getShort_run, Nat.zero_add, Nat.reduceAdd, List.drop_zero, type, if_true]
  cases (processIpHdr 14).run frame <;> rfl

/-! ### A longer capture -/

theorem stable_processIcmpHdr (packet : Nat) : Stable (processIcmpHdr packet) := by
  unfold processIcmpHdr
  apply (stable_getByte packet).bind
  rintro ⟨type, packet⟩
  exact Stable.pure _

theorem stable_processUdpHdr (packet : Nat) : Stable (processUdpHdr packet) := by
  unfold processUdpHdr
  apply (stable_printTcpUdpPort packet).bind
  rintro ⟨sourcePort, packet⟩
  apply (stable_printTcpUdpPort packet).bind
  rintro ⟨destPort, packet⟩
  exact Stable.pure _

theorem stable_buildTcpChksm (tcpBegin tcpSt tcpPduLen : Nat) (ipPtcl : UInt8) :
    Stable (buildTcpChksm tcpBegin tcpSt tcpPduLen ipPtcl) := by
  unfold buildTcpChksm
  refine (Stable.bytesAt _ _).bind fun addresses => ?_
  exact (Stable.bytesAt _ _).bind fun segment => Stable.pure _

theorem stable_processTcpHdr (packet tcpSt tcpPduLen : Nat) (ipPtcl : UInt8) :
    Stable (processTcpHdr packet tcpSt tcpPduLen ipPtcl) := by
  unfold processTcpHdr
  apply (stable_printTcpUdpPort _).bind
  rintro ⟨sourcePort, packet⟩
  apply (stable_printTcpUdpPort _).bind
  rintro ⟨destPort, packet⟩
  apply (stable_getLong _ _).bind
  rintro ⟨sequenceNumber, packet⟩
  apply (stable_getLong _ _).bind
  rintro ⟨ackNumber, packet⟩
  apply (stable_getByte _).bind
  rintro ⟨offset, packet⟩
  apply (stable_getByte _).bind
  rintro ⟨flags, packet⟩
  apply (stable_getShort _ _).bind
  rintro ⟨windowSize, packet⟩
  refine (stable_buildTcpChksm _ _ _ _).bind fun tcpChksm => ?_
  refine (Stable.lift _).bind fun sum => ?_
  apply (stable_getShort _ _).bind
  rintro ⟨checksumField, packet⟩
  exact Stable.pure _

theorem stable_readIpHdr (packet : Nat) : Stable (readIpHdr packet) := by
  unfold readIpHdr
  apply (stable_getByte _).bind
  rintro ⟨first, packet⟩
  apply (stable_getByte _).bind
  rintro ⟨tos, packet⟩
  apply (stable_getShort _ _).bind
  rintro ⟨pduLen, packet⟩
  apply (stable_getByte _).bind
  rintro ⟨ttl, packet⟩
  apply (stable_getByte _).bind
  rintro ⟨protocol, packet⟩
  refine (Stable.bytesAt _ _).bind fun header => ?_
  refine (Stable.lift _).bind fun sum => ?_
  apply (stable_getShort _ _).bind
  rintro ⟨checksumField, packet⟩
  apply (stable_printIp _).bind
  rintro ⟨senderIp, packet⟩
  apply (stable_printIp _).bind
  rintro ⟨destIp, packet⟩
  exact Stable.pure _

theorem stable_process (next : NextHeader) : Stable next.process := by
  cases next with
  | icmp packet => exact (stable_processIcmpHdr packet).bind fun _ => Stable.pure _
  | tcp packet tcpSt tcpPduLen ipPtcl =>
      exact (stable_processTcpHdr packet tcpSt tcpPduLen ipPtcl).bind fun _ => Stable.pure _
  | udp packet => exact (stable_processUdpHdr packet).bind fun _ => Stable.pure _
  | unknown => exact Stable.pure _

theorem stable_processIpHdr (packet : Nat) : Stable (processIpHdr packet) := by
  unfold processIpHdr
  apply (stable_readIpHdr _).bind
  rintro ⟨report, next⟩
  exact (stable_process next).bind fun nextReport => Stable.pure _

theorem stable_processArpHdr (packet : Nat) : Stable (processArpHdr packet) := by
  unfold processArpHdr
  apply (stable_getShort _ _).bind
  rintro ⟨opcode, packet⟩
  apply (stable_printMac _).bind
  rintro ⟨senderMac, packet⟩
  apply (stable_printIp _).bind
  rintro ⟨senderIp, packet⟩
  apply (stable_printMac _).bind
  rintro ⟨targetMac, packet⟩
  apply (stable_printIp _).bind
  rintro ⟨targetIp, packet⟩
  exact Stable.pure _

/-- The report on a frame does not depend on captured bytes that were not needed. -/
theorem stable_processEthHdr (packet : Nat) : Stable (processEthHdr packet) := by
  unfold processEthHdr
  apply (stable_printMac _).bind
  rintro ⟨destMac, packet⟩
  apply (stable_printMac _).bind
  rintro ⟨sourceMac, packet⟩
  apply (stable_getShort _ _).bind
  rintro ⟨type, packet⟩
  by_cases ip : type = 0x0800
  · simp only [if_pos ip]
    apply (stable_processIpHdr _).bind
    rintro ⟨header, next⟩
    exact Stable.pure _
  · by_cases arp : type = 0x0806
    · simp only [if_neg ip, if_pos arp]
      exact (stable_processArpHdr _).bind fun report => Stable.pure _
    · simp only [if_neg ip, if_neg arp]
      exact Stable.pure _

end CPE464.P1
