/-
The lengths in the IP header against the bytes that were captured.

Nothing tells `process_ip_hdr` how many bytes there are.  The length of the TCP segment is
a difference of two fields in 16 bits, and that many bytes are copied.
-/

import CPE464.P1.TraceRun

namespace CPE464.P1

open General

/-- A captured IPv4 frame, with room for the longest IP header and for the fixed part of a
TCP header behind the one that the header length field gives. -/
structure CapturedIp (frame : List UInt8) : Prop where
  type_eq : ntohs (frame.drop 12) = 0x0800
  room : 60 ≤ (ipPacket frame).length
  tcpHeader : headerLength (ipPacket frame) + 20 ≤ (ipPacket frame).length

/-- `process_tcp_hdr` is told the true length of the segment, and no byte is read outside
the frame. -/
def LengthsInside (frame : List UInt8) : Prop :=
  (∀ report packet tcpSt tcpPduLen ipPtcl,
    (readIpHdr ethHdrLen).run frame = .ok (report, .tcp packet tcpSt tcpPduLen ipPtcl) →
      (tcpPduLen : Int) = totalLength (ipPacket frame) - headerLength (ipPacket frame)) ∧
  (processEthHdr 0).run frame ≠ .error .outside

theorem nextHeader_ne_tcp {protocol : UInt8} (other : protocol ≠ 6)
    {ipBegin hdrLen tcpBegin pduLen packet tcpSt tcpPduLen : Nat} {ipPtcl : UInt8} :
    nextHeader protocol ipBegin hdrLen tcpBegin pduLen ≠ .tcp packet tcpSt tcpPduLen ipPtcl := by
  rw [nextHeader, if_neg other]
  split
  · simp
  · split <;> simp

theorem map_outside_iff {α β : Type} (result : Except Fault α) (next : α → β) :
    result.map next = .error .outside ↔ result = .error .outside := by
  cases result <;> simp [Except.map]

section Frame

variable {frame : List UInt8}

theorem CapturedIp.outside_iff (captured : CapturedIp frame) {report : IpReport}
    {next : NextHeader} (header : (readIpHdr ethHdrLen).run frame = .ok (report, next)) :
    (processEthHdr 0).run frame = .error .outside ↔
      next.process.run frame = .error .outside := by
  have room := captured.room
  rw [ipPacket_length] at room
  obtain ⟨destMac, sourceMac, eth⟩ :=
    processEthHdr_run (show ethHdrLen ≤ frame.length by omega) captured.type_eq
  rw [eth, processIpHdr_run header, map_outside_iff, map_outside_iff]

theorem CapturedIp.other_runs (captured : CapturedIp frame)
    (other : protocolField (ipPacket frame) ≠ 6) (tcpBegin pduLen : Nat) :
    ∃ nextReport,
      (nextHeader (protocolField (ipPacket frame)) ethHdrLen (headerLength (ipPacket frame))
        tcpBegin pduLen).process.run frame = .ok nextReport := by
  have header := captured.tcpHeader
  rw [ipPacket_length] at header
  rw [nextHeader, if_neg other]
  split
  · simp (disch := omega) only [NextHeader.process, processIcmpHdr, ReaderT.run_bind, ok_bind,
      getByte_run]
    exact ⟨_, rfl⟩
  · split
    · simp (disch := omega) only [NextHeader.process, processUdpHdr, ReaderT.run_bind, ok_bind,
        printTcpUdpPort_run]
      exact ⟨_, rfl⟩
    · exact ⟨_, rfl⟩

theorem CapturedIp.tcp_inside_iff (captured : CapturedIp frame) (tcpPduLen : Nat)
    (ipPtcl : UInt8) :
    (processTcpHdr (ethHdrLen + headerLength (ipPacket frame)) (ethHdrLen + 12) tcpPduLen
        ipPtcl).run frame ≠ .error .outside ↔
      headerLength (ipPacket frame) + tcpPduLen ≤ (ipPacket frame).length := by
  have room := captured.room
  have header := captured.tcpHeader
  rw [ipPacket_length] at room header
  obtain ⟨report, ran, _⟩ := processTcpHdr_run ipPtcl
    (show ethHdrLen + headerLength (ipPacket frame) + 18 ≤ frame.length by omega)
  rw [ran, ipPacket_length]
  have addresses : ethHdrLen + 12 + 8 ≤ frame.length := by omega
  rcases le_or_gt (ethHdrLen + headerLength (ipPacket frame) + tcpPduLen) frame.length with
    inside | outside
  · rw [buildTcpChksm_inside ipPtcl addresses inside, ok_bind]
    refine iff_of_true ?_ (by omega)
    rw [inCksum_eq]
    -- a sum that is no `int` is a fault of another kind
    split <;> simp [pure, Except.pure]
  · rw [buildTcpChksm_outside ipPtcl addresses outside, error_bind]
    exact iff_of_false (fun inside => inside rfl) (by omega)

end Frame

/-- The lengths stay inside the capture exactly when the fields are in order. -/
theorem lengths_inside_iff {frame : List UInt8} (captured : CapturedIp frame) :
    LengthsInside frame ↔
      (protocolField (ipPacket frame) = 6 →
        headerLength (ipPacket frame) ≤ totalLength (ipPacket frame) ∧
          totalLength (ipPacket frame) ≤ (ipPacket frame).length) := by
  have room := captured.room
  have header := captured.tcpHeader
  obtain ⟨report, read⟩ := readIpHdr_frame (show 20 ≤ (ipPacket frame).length by omega)
    (show headerLength (ipPacket frame) ≤ (ipPacket frame).length by omega)
  rw [LengthsInside, ne_eq, captured.outside_iff read, read]
  by_cases tcp : protocolField (ipPacket frame) = 6
  · have next : nextHeader (protocolField (ipPacket frame)) ethHdrLen
        (headerLength (ipPacket frame)) (ethHdrLen + 12) (totalLength (ipPacket frame)) =
          .tcp (ethHdrLen + headerLength (ipPacket frame)) (ethHdrLen + 12)
            (wrap16 (totalLength (ipPacket frame) - headerLength (ipPacket frame))) 6 := by
      rw [tcp]
      rfl
    have wraps := wrap16_eq_iff (totalLength (ipPacket frame) - headerLength (ipPacket frame))
    have total : totalLength (ipPacket frame) < 65536 := ntohs_lt _
    have inside := captured.tcp_inside_iff
      (wrap16 (totalLength (ipPacket frame) - headerLength (ipPacket frame))) 6
    rw [next, process_tcp_run, map_outside_iff, ← ne_eq, inside]
    constructor
    · rintro ⟨lengths, copied⟩ _
      have true := wraps.mp (lengths _ _ _ _ _ rfl)
      omega
    · intro ordered
      obtain ⟨le_total, total_le⟩ := ordered tcp
      have true := wraps.mpr (by omega)
      constructor
      · rintro _ _ _ _ _ ⟨⟩
        exact true
      · omega
  · obtain ⟨nextReport, runs⟩ := captured.other_runs tcp (ethHdrLen + 12)
      (totalLength (ipPacket frame))
    rw [runs]
    refine iff_of_true ⟨?_, ?_⟩ (fun is => absurd is tcp)
    · intro report' packet tcpSt tcpPduLen ipPtcl same
      have call := (Prod.mk.inj (Except.ok.inj same)).2
      exact absurd call (nextHeader_ne_tcp tcp)
    · exact fun isError => by cases isError

/-- A frame whose total length field is `high`, `low`, with 60 bytes behind the Ethernet
header and an IP header of 20. -/
def frameOfLength (high low : UInt8) : List UInt8 :=
  List.replicate 12 0 ++ [8, 0, 0x45, 0, high, low, 0, 0, 0, 0, 64, 6] ++ List.replicate 50 0

theorem frameOfLength_captured (high low : UInt8) : CapturedIp (frameOfLength high low) where
  type_eq := rfl
  room := Nat.le_refl 60
  tcpHeader := by
    have header : headerLength (ipPacket (frameOfLength high low)) = 20 := by
      change ((0x45 : UInt8) &&& 0xf).toNat * 4 = 20
      decide
    have length : (ipPacket (frameOfLength high low)).length = 60 := rfl
    omega

theorem lengths_inside_iff_of_length :
    LengthsInside (frameOfLength 0 60) ↔
      (protocolField (ipPacket (frameOfLength 0 60)) = 6 →
        headerLength (ipPacket (frameOfLength 0 60)) ≤
            totalLength (ipPacket (frameOfLength 0 60)) ∧
          totalLength (ipPacket (frameOfLength 0 60)) ≤
            (ipPacket (frameOfLength 0 60)).length) :=
  lengths_inside_iff (frameOfLength_captured 0 60)

/-- A total length of zero, as captures of segmentation offload have it. -/
theorem zero_length_leaves_capture :
    CapturedIp (frameOfLength 0 0) ∧ ¬LengthsInside (frameOfLength 0 0) := by
  have captured := frameOfLength_captured 0 0
  refine ⟨captured, fun inside => ?_⟩
  obtain ⟨report, read⟩ := readIpHdr_frame
    (show 20 ≤ (ipPacket (frameOfLength 0 0)).length by decide)
    (show headerLength (ipPacket (frameOfLength 0 0)) ≤ (ipPacket (frameOfLength 0 0)).length
      by decide)
  have length := inside.1 _ _ _ _ _ read
  exact absurd length (by decide)

end CPE464.P1
