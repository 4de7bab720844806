/-
The verdict on the TCP checksum, against the sum that RFC 793 defines.
-/

import CPE464.P1.TraceRun

namespace CPE464.P1

open General

/-! ### The sum that is to be all ones -/

def pseudoHeader (ip : List UInt8) : List UInt8 :=
  (ip.drop 12).take 4 ++ (ip.drop 16).take 4 ++ [0, protocolField ip] ++
    htons (totalLength ip - headerLength ip)

def segment (ip : List UInt8) : List UInt8 :=
  (ip.drop (headerLength ip)).take (totalLength ip - headerLength ip)

/-- A frame with an IP packet that holds the start of a TCP segment and was captured up to
its total length.  There may be IP options in it, and padding behind it. -/
structure TcpCapture (frame : List UInt8) : Prop where
  type_eq : ntohs (frame.drop 12) = 0x0800
  protocol_eq : protocolField (ipPacket frame) = 6
  le_header : 20 ≤ headerLength (ipPacket frame)
  le_segment : headerLength (ipPacket frame) + 18 ≤ totalLength (ipPacket frame)
  total_le : totalLength (ipPacket frame) ≤ (ipPacket frame).length

theorem checksummed_segment {ip : List UInt8} (captured : totalLength ip ≤ ip.length) :
    checksummed ((ip.drop 12).take 8) (protocolField ip) (segment ip) =
      pseudoHeader ip ++ segment ip := by
  have length : (segment ip).length = totalLength ip - headerLength ip := by
    rw [segment, List.length_take, List.length_drop]
    omega
  have addresses : (ip.drop 12).take 8 = (ip.drop 12).take 4 ++ (ip.drop 16).take 4 := by
    rw [← List.take_append_drop 4 ((ip.drop 12).take 8), List.take_take, List.drop_take,
      List.drop_drop]
    rfl
  rw [checksummed, pseudoHeader, length, addresses]

/-! ### A run on such a frame -/

section Run

variable {frame : List UInt8}

theorem TcpCapture.bounds (captured : TcpCapture frame) :
    20 ≤ headerLength (ipPacket frame) ∧
      headerLength (ipPacket frame) + 18 ≤ totalLength (ipPacket frame) ∧
      totalLength (ipPacket frame) < 65536 ∧
      totalLength (ipPacket frame) ≤ (ipPacket frame).length ∧
      ethHdrLen + totalLength (ipPacket frame) ≤ frame.length := by
  obtain ⟨_, _, fixed, least, total⟩ := captured
  have behind := ipPacket_length frame
  exact ⟨fixed, least, ntohs_lt _, total, by omega⟩

theorem TcpCapture.next_eq (captured : TcpCapture frame) :
    nextHeader (protocolField (ipPacket frame)) ethHdrLen
        (headerLength (ipPacket frame)) (ethHdrLen + 12)
        (totalLength (ipPacket frame)) =
      .tcp (ethHdrLen + headerLength (ipPacket frame)) (ethHdrLen + 12)
        (totalLength (ipPacket frame) - headerLength (ipPacket frame))
        (protocolField (ipPacket frame)) := by
  have bounds := captured.bounds
  have length : wrap16 (totalLength (ipPacket frame) - headerLength (ipPacket frame)) =
      totalLength (ipPacket frame) - headerLength (ipPacket frame) := by
    unfold wrap16
    omega
  rw [nextHeader, captured.protocol_eq, length]
  rfl

/-- The longest string that is checksummed is 12 bytes and 65515. -/
theorem TcpCapture.length_checked (captured : TcpCapture frame) :
    (pseudoHeader (ipPacket frame) ++ segment (ipPacket frame)).length ≤ 65536 := by
  have bounds := captured.bounds
  have eight : ((ipPacket frame).drop 12 |>.take 8).length = 8 := by
    rw [List.length_take, List.length_drop]
    omega
  rw [← checksummed_segment captured.total_le, checksummed_length eight, segment, List.length_take]
  omega

theorem TcpCapture.tcp_run (captured : TcpCapture frame) :
    ∃ tcp, (processTcpHdr (ethHdrLen + headerLength (ipPacket frame)) (ethHdrLen + 12)
        (totalLength (ipPacket frame) - headerLength (ipPacket frame))
        (protocolField (ipPacket frame))).run frame = .ok tcp ∧
      tcp.checksum = verdict (complementSum (pseudoHeader (ipPacket frame) ++
        segment (ipPacket frame))) := by
  have bounds := captured.bounds
  have built := buildTcpChksm_inside (protocolField (ipPacket frame))
    (show ethHdrLen + 12 + 8 ≤ frame.length by omega)
    (show ethHdrLen + headerLength (ipPacket frame) +
      (totalLength (ipPacket frame) - headerLength (ipPacket frame)) ≤ frame.length by omega)
  rw [← List.drop_drop, ← List.drop_drop] at built
  have string := checksummed_segment captured.total_le
  obtain ⟨tcp, ran, judged⟩ := processTcpHdr_run (protocolField (ipPacket frame))
    (show ethHdrLen + headerLength (ipPacket frame) + 18 ≤ frame.length by omega)
  refine ⟨tcp _, ?_, judged _⟩
  rw [ran, built, ← ipPacket, ← segment, string, ok_bind, inCksum_ok captured.length_checked,
    ok_bind]
  rfl

theorem TcpCapture.run (captured : TcpCapture frame) :
    ∃ report header tcp, (processEthHdr 0).run frame = .ok report ∧
      report.payload = .ip header (.tcp tcp) ∧
      tcp.checksum = verdict (complementSum (pseudoHeader (ipPacket frame) ++
        segment (ipPacket frame))) := by
  have bounds := captured.bounds
  obtain ⟨header, read⟩ := readIpHdr_frame
    (show 20 ≤ (ipPacket frame).length by omega)
    (show headerLength (ipPacket frame) ≤ (ipPacket frame).length by omega)
  rw [captured.next_eq] at read
  obtain ⟨destMac, sourceMac, eth⟩ :=
    processEthHdr_run (show ethHdrLen ≤ frame.length by omega) captured.type_eq
  obtain ⟨tcp, ran, judged⟩ := captured.tcp_run
  refine ⟨⟨destMac, sourceMac, .ip header (.tcp tcp)⟩, header, tcp, ?_, rfl, judged⟩
  rw [eth, processIpHdr_run read, process_tcp_run, ran]
  rfl

theorem TcpCapture.truncated (captured : TcpCapture frame) :
    TcpCapture (frame.take (ethHdrLen + totalLength (ipPacket frame))) := by
  have bounds := captured.bounds
  have packet : ipPacket (frame.take (ethHdrLen + totalLength (ipPacket frame))) =
      (ipPacket frame).take (totalLength (ipPacket frame)) := by
    rw [ipPacket, List.drop_take, Nat.add_sub_cancel_left, ← ipPacket]
  have sameHeader := headerLength_take (ipPacket frame)
    (show 1 ≤ totalLength (ipPacket frame) by omega)
  have sameTotal := totalLength_take (ipPacket frame)
    (show 4 ≤ totalLength (ipPacket frame) by omega)
  have sameProtocol := protocolField_take (ipPacket frame)
    (show 10 ≤ totalLength (ipPacket frame) by omega)
  constructor
  · rw [List.drop_take, ntohs_take, captured.type_eq]
    unfold ethHdrLen
    omega
  · rw [packet, sameProtocol, captured.protocol_eq]
  · rw [packet, sameHeader]
    exact captured.le_header
  · rw [packet, sameHeader, sameTotal]
    exact captured.le_segment
  · rw [packet, sameTotal, List.length_take]
    omega

end Run

/-- The program judges the TCP checksum by the one's-complement sum of the pseudo-header
and the segment.  It comes to an end, so its `int` accumulators do not overflow, that of the
TCP checksum in particular, and what follows the IP packet makes no difference. -/
theorem tcp_checksum_verdict {frame : List UInt8} (captured : TcpCapture frame) :
    ∃ report header tcp, (processEthHdr 0).run frame = .ok report ∧
      report.payload = .ip header (.tcp tcp) ∧
      (tcp.checksum = .correct ↔
        endAroundSum (pseudoHeader (ipPacket frame) ++ segment (ipPacket frame)) =
          0xffff) ∧
      wordSum (pseudoHeader (ipPacket frame) ++ segment (ipPacket frame)) < 2 ^ 31 ∧
      ∀ padding,
        (processEthHdr 0).run
            (frame.take (ethHdrLen + totalLength (ipPacket frame)) ++ padding) =
          .ok report := by
  obtain ⟨report, header, tcp, ran, payload, judged⟩ := captured.run
  have bound := wordSum_le (pseudoHeader (ipPacket frame) ++ segment (ipPacket frame))
  have short := captured.length_checked
  refine ⟨report, header, tcp, ran, payload, ?_, by omega, ?_⟩
  · rw [judged, verdict_eq_correct, complementSum_eq_zero_iff_endAroundSum _ (by omega)]
  · intro padding
    obtain ⟨short, _, _, ranShort, _⟩ := captured.truncated.run
    have onFrame := stable_processEthHdr 0 _
      (frame.drop (ethHdrLen + totalLength (ipPacket frame))) short ranShort
    rw [List.take_append_drop, ran, Except.ok.injEq] at onFrame
    rw [onFrame]
    exact stable_processEthHdr 0 _ padding short ranShort

/-- The third frame of smallTCP.pcap, padded to the least length of an Ethernet frame. -/
def paddedAck : List UInt8 :=
  [0, 6, 37, 120, 196, 125, 0, 2, 45, 144, 117, 137, 8, 0, 69, 0, 0, 40, 59, 145, 64, 0, 128, 6,
    137, 234, 192, 168, 1, 102, 129, 65, 242, 4, 6, 139, 0, 22, 7, 50, 165, 62, 196, 15, 163, 95,
    80, 16, 64, 176, 31, 79, 0, 0, 0, 0, 0, 0, 0, 0]

theorem tcp_checksum_verdict_paddedAck :
    ∃ report header tcp, (processEthHdr 0).run paddedAck = .ok report ∧
      report.payload = .ip header (.tcp tcp) ∧
      (tcp.checksum = .correct ↔
        endAroundSum (pseudoHeader (ipPacket paddedAck) ++ segment (ipPacket paddedAck)) =
          0xffff) ∧
      wordSum (pseudoHeader (ipPacket paddedAck) ++ segment (ipPacket paddedAck)) < 2 ^ 31 ∧
      ∀ padding,
        (processEthHdr 0).run
            (paddedAck.take (ethHdrLen + totalLength (ipPacket paddedAck)) ++ padding) =
          .ok report :=
  tcp_checksum_verdict ⟨by decide, by decide, by decide, by decide, by decide⟩

end CPE464.P1
