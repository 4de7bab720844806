/-
The program prints the fields of a frame as they were sent, and finds its checksums correct.
-/

import CPE464.P1.WireFormat

namespace CPE464.P1

open General

/-! ### Fields at a pointer -/

section Fields

variable {capture : List UInt8} {packet : Nat}

theorem bytesAt_at {bytes : List UInt8} {count : Nat} (holds : At capture packet bytes)
    (length : bytes.length = count) : (bytesAt packet count).run capture = .ok bytes :=
  length ▸ holds.bytesAt

theorem bytesAt_octets {count : Nat} {octets : Octets count}
    (holds : At capture packet octets.toList) :
    (bytesAt packet count).run capture = .ok octets.toList :=
  bytesAt_at holds octets.toList_length

theorem printMac_at {mac : Octets macAddrSize} (holds : At capture packet mac.toList) :
    (printMac packet).run capture = .ok (mac.toList, packet + 6) :=
  run_bind_ok (bytesAt_octets holds)

theorem printIp_at {ip : Octets ipAddrSize} (holds : At capture packet ip.toList) :
    (printIp packet).run capture = .ok (ip.toList, packet + 4) :=
  run_bind_ok (bytesAt_octets holds)

theorem getByte_at {byte : UInt8} (holds : At capture packet [byte]) :
    (getByte packet).run capture = .ok (byte, packet + 1) :=
  run_bind_ok holds.byteAt

theorem getShort_at {number : Nat} (holds : At capture packet (htons number))
    (small : number < 65536) :
    (getShort packet true).run capture = .ok (number, packet + 2) := by
  have value : ntohs (htons number) = number := by
    have swapped := ntohs_swapped_append number []
    rw [List.append_nil] at swapped
    exact swapped.trans (Nat.mod_eq_of_lt small)
  have read : (bytesAt packet shortBytes).run capture = .ok (htons number) := bytesAt_at holds rfl
  rw [getShort, run_bind_ok read, if_pos rfl, value]
  rfl

theorem getLong_at {number : UInt32} (holds : At capture packet (htonl number.toNat)) :
    (getLong packet true).run capture = .ok (number.toNat, packet + 4) := by
  have read : (bytesAt packet longBytes).run capture = .ok (htonl number.toNat) :=
    bytesAt_at holds rfl
  rw [getLong, run_bind_ok read, if_pos rfl, ntohl_htonl, Nat.mod_eq_of_lt number.toNat_lt]
  rfl

theorem printTcpUdpPort_at {port : UInt16} (holds : At capture packet (htons port.toNat)) :
    (printTcpUdpPort packet).run capture = .ok (portName port.toNat, packet + 2) :=
  run_bind_ok (getShort_at holds port.toNat_lt)

end Fields

/-! ### TCP -/

section Headers

variable {capture : List UInt8} {packet : Nat}

theorem verdict_of_sum (capture : List UInt8) {bytes : List UInt8}
    (short : bytes.length ≤ 65536) (allOnes : endAroundSum bytes = 65535) :
    (liftM (inCksum bytes) : Scan Nat).run capture = .ok 0 := by
  have bound := wordSum_le bytes
  rw [inCksum_run short]
  exact congrArg _ ((complementSum_eq_zero_iff_endAroundSum bytes (by omega)).mpr allOnes)

theorem buildTcpChksm_at {tcpSt : Nat} {addresses segment : List UInt8}
    (eight : addresses.length = 8) (front : At capture tcpSt addresses)
    (holds : At capture packet segment) (ipPtcl : UInt8) :
    (buildTcpChksm packet tcpSt segment.length ipPtcl).run capture =
      .ok (checksummed addresses ipPtcl segment) := by
  have header : tcpSt + 8 ≤ capture.length := eight ▸ front.inside
  have taken := front.take_eq
  rw [eight] at taken
  rw [buildTcpChksm_inside ipPtcl header holds.inside, taken, holds.take_eq]

theorem processTcpHdr_at {segment : TcpSegment} {addresses : List UInt8} {tcpSt : Nat}
    (eight : addresses.length = 8) (short : segment.length < 65516)
    (front : At capture tcpSt addresses)
    (holds : At capture packet (segment.encode (segment.checksum addresses))) :
    (processTcpHdr packet tcpSt segment.length 6).run capture =
      .ok (segment.report addresses) := by
  have built := buildTcpChksm_at eight front holds 6
  rw [segment.encode_length] at built
  have summed : (checksummed addresses 6
      (segment.encode (segment.checksum addresses))).length ≤ 65536 := by
    rw [checksummed_length eight, segment.encode_length]
    omega
  have correct := verdict_of_sum capture summed (segment.checksummed_correct eight)
  have small : segment.checksum addresses < 65536 := by
    unfold TcpSegment.checksum internetChecksum
    omega
  obtain ⟨syn, rst, fin, ack⟩ := segment.flags.byte_tests
  simp only [TcpSegment.encode, TcpSegment.front, At.append_iff, List.length_append, htons_length,
    htonl_length, List.length_singleton, Nat.add_assoc, Nat.reduceAdd] at holds
  obtain ⟨⟨⟨sourcePort, destPort, sequence, acknowledged, offset, flags, window⟩, checksum⟩, -⟩ :=
    holds
  simp only [processTcpHdr, ReaderT.run_bind, ok_bind, printTcpUdpPort_at sourcePort,
    printTcpUdpPort_at destPort, getLong_at sequence, getLong_at acknowledged, getByte_at offset,
    getByte_at flags, getShort_at window segment.windowSize.toNat_lt, Nat.add_assoc, Nat.reduceAdd,
    built, correct, getShort_at checksum small, ReaderT.run_pure, nibbles_high, syn, rst, fin, ack]
  rfl

theorem processIcmpHdr_at {type : UInt8} (holds : At capture packet [type]) :
    (processIcmpHdr packet).run capture = .ok (icmpType type) :=
  run_bind_ok (getByte_at holds)

theorem processUdpHdr_at {sourcePort destPort : UInt16}
    (source : At capture packet (htons sourcePort.toNat))
    (dest : At capture (packet + 2) (htons destPort.toNat)) :
    (processUdpHdr packet).run capture =
      .ok ⟨portName sourcePort.toNat, portName destPort.toNat⟩ := by
  simp only [processUdpHdr, ReaderT.run_bind, ok_bind, printTcpUdpPort_at source,
    printTcpUdpPort_at dest, ReaderT.run_pure]
  rfl

end Headers

/-! ### IP -/

namespace IpPacket

theorem tos_high : ∀ (diffserv : Fin 64) (ecn : Fin 4),
    (UInt8.ofNat (4 * diffserv + ecn) >>> 2).toNat = diffserv := by
  decide

theorem tos_low : ∀ (diffserv : Fin 64) (ecn : Fin 4),
    (UInt8.ofNat (4 * diffserv + ecn) &&& 0x3).toNat = ecn := by
  decide

variable {capture : List UInt8} {pointer : Nat} {packet : IpPacket}

theorem totalLen_lt (packet : IpPacket) : packet.totalLen < 65536 := packet.fits

theorem readIpHdr_at (holds : At capture pointer packet.encode) :
    (readIpHdr pointer).run capture = .ok (packet.report,
      nextHeader packet.payload.protocol pointer packet.headerLen (pointer + 12)
        packet.totalLen) := by
  obtain ⟨header, -⟩ := At.append_iff.mp holds
  have length := packet.header_length packet.checksum
  have read := bytesAt_at header length
  have short : (packet.header packet.checksum).length ≤ 65536 := by
    rw [length]
    exact Nat.le_of_lt (Nat.lt_of_le_of_lt (Nat.le_add_right _ _) packet.totalLen_lt)
  have correct := verdict_of_sum capture short packet.header_correct
  have words : (nibbles packet.version packet.headerWords &&& 0xf).toNat * 4 =
      packet.headerLen := by
    rw [nibbles_low]
    change (5 + (packet.optionWords : Nat)) * 4 = 20 + 4 * packet.optionWords
    omega
  have four : packet.sender.toList.length = 4 := packet.sender.toList_length
  have small : packet.checksum < 65536 := by
    unfold checksum internetChecksum
    omega
  simp only [IpPacket.header, front, back, At.append_iff, List.length_append, htons_length,
    List.length_singleton, List.Vector.toList_length packet.fragment, four, Nat.add_assoc,
    Nat.reduceAdd] at header
  obtain ⟨⟨⟨first, tos, total, -, ttl, protocol⟩, checksum⟩, sender, dest, -⟩ := header
  simp only [readIpHdr, ReaderT.run_bind, ok_bind, getByte_at first, getByte_at tos,
    getShort_at total packet.totalLen_lt, longBytes, Nat.add_assoc, Nat.reduceAdd, getByte_at ttl,
    getByte_at protocol, words, read, correct, getShort_at checksum small, printIp_at sender,
    printIp_at dest, ReaderT.run_pure, nibbles_high, IpPacket.tos, tos_high, tos_low]
  rfl

theorem addresses_at (header : At capture pointer (packet.header packet.checksum)) :
    At capture (pointer + 12) packet.addresses := by
  have split : packet.header packet.checksum =
      (packet.front ++ htons packet.checksum) ++ (packet.addresses ++ packet.options.toList) := by
    simp only [IpPacket.header, back, addresses, List.append_assoc]
  rw [split, At.append_iff] at header
  have twelve : (packet.front ++ htons packet.checksum).length = 12 := by
    rw [List.length_append, packet.front_length, htons_length]
  exact twelve ▸ (At.append_iff.mp header.2).1

theorem process_at (holds : At capture pointer packet.encode) :
    (nextHeader packet.payload.protocol pointer packet.headerLen (pointer + 12)
        packet.totalLen).process.run capture = .ok (packet.payload.report packet.addresses) := by
  obtain ⟨header, payload⟩ := At.append_iff.mp holds
  rw [packet.header_length] at payload
  have fits := packet.fits
  have totalLen : packet.totalLen = packet.headerLen + packet.payload.length := rfl
  cases isPayload : packet.payload with
  | icmp type rest =>
      rw [isPayload, Payload.encode, At.append_iff] at payload
      simp only [Payload.protocol, nextHeader, if_true, NextHeader.process, ReaderT.run_bind,
        processIcmpHdr_at payload.1, ok_bind, ReaderT.run_pure]
      rfl
  | tcp segment =>
      rw [isPayload] at payload fits totalLen
      have left : wrap16 ((packet.totalLen : Int) - packet.headerLen) = segment.length := by
        rw [totalLen]
        unfold wrap16
        simp only [Payload.length] at fits ⊢
        omega
      have eight : packet.addresses.length = 8 := by
        rw [addresses, List.length_append, packet.sender.toList_length,
          packet.dest.toList_length]
        rfl
      have short : segment.length < 65516 := by
        simp only [Payload.length] at fits
        omega
      have ran := processTcpHdr_at eight short (addresses_at header) payload
      have notIcmp : (6 : UInt8) ≠ 1 := by decide
      simp only [Payload.protocol, nextHeader, if_neg notIcmp, if_true, left]
      rw [process_tcp_run, ran]
      rfl
  | udp sourcePort destPort rest =>
      rw [isPayload, Payload.encode, At.append_iff, At.append_iff] at payload
      have notIcmp : (17 : UInt8) ≠ 1 := by decide
      have notTcp : (17 : UInt8) ≠ 6 := by decide
      simp only [Payload.protocol, nextHeader, if_neg notIcmp, if_neg notTcp, if_true,
        NextHeader.process, ReaderT.run_bind, processUdpHdr_at payload.1 payload.2.1, ok_bind,
        ReaderT.run_pure]
      rfl
  | other protocol bytes unknown =>
      have none : nextHeader protocol pointer packet.headerLen (pointer + 12) packet.totalLen =
          .unknown := by
        rw [nextHeader, if_neg unknown.1, if_neg unknown.2.1, if_neg unknown.2.2]
      rw [Payload.protocol, none]
      rfl

theorem processIpHdr_at (holds : At capture pointer packet.encode) :
    (processIpHdr pointer).run capture =
      .ok (packet.report, packet.payload.report packet.addresses) := by
  rw [processIpHdr_run (readIpHdr_at holds), process_at holds]
  rfl

end IpPacket

theorem processArpHdr_at {capture : List UInt8} {pointer : Nat} {packet : ArpPacket}
    (holds : At capture pointer packet.encode) :
    (processArpHdr pointer).run capture = .ok packet.report := by
  have six : packet.senderMac.toList.length = 6 := packet.senderMac.toList_length
  have four : packet.senderIp.toList.length = 4 := packet.senderIp.toList_length
  have six' : packet.targetMac.toList.length = 6 := packet.targetMac.toList_length
  simp only [ArpPacket.encode, At.append_iff, List.Vector.toList_length packet.hardware,
    htons_length, six, six', four, Nat.add_assoc, Nat.reduceAdd] at holds
  obtain ⟨-, opcode, senderMac, senderIp, targetMac, targetIp⟩ := holds
  simp only [processArpHdr, shortBytes, Nat.reduceMul, ReaderT.run_bind, ok_bind,
    getShort_at opcode packet.opcode.toNat_lt, printMac_at senderMac, printIp_at senderIp,
    printMac_at targetMac, printIp_at targetIp, Nat.add_assoc, Nat.reduceAdd, ReaderT.run_pure]
  rfl

/-! ### The frame -/

/-- Whatever the fields of a frame are, and whatever was captured behind it, the program prints
these fields, and it finds the checksums correct that the sender has filled in. -/
theorem prints_sent_fields (frame : EthFrame) (padding : List UInt8) :
    (processEthHdr 0).run (frame.encode ++ padding) = .ok frame.report := by
  have holds := At.start frame.encode padding
  have six : frame.dest.toList.length = 6 := frame.dest.toList_length
  have six' : frame.source.toList.length = 6 := frame.source.toList_length
  simp only [EthFrame.encode, At.append_iff, six, six', htons_length, Nat.zero_add,
    Nat.reduceAdd] at holds
  obtain ⟨dest, source, type, payload⟩ := holds
  rw [← EthFrame.encode] at dest source type payload
  simp only [processEthHdr, ReaderT.run_bind, ok_bind, printMac_at dest, printMac_at source,
    getShort_at type frame.payload.type.toNat_lt, Nat.zero_add, Nat.reduceAdd]
  cases isPayload : frame.payload with
  | ip packet =>
      rw [isPayload] at payload
      have isIp : (FramePayload.ip packet).type.toNat = 0x0800 := rfl
      simp only [if_pos isIp, ReaderT.run_bind, IpPacket.processIpHdr_at payload, ok_bind]
      rw [EthFrame.report, isPayload]
      rfl
  | arp packet =>
      rw [isPayload] at payload
      have notIp : (FramePayload.arp packet).type.toNat ≠ 0x0800 := by
        change (0x0806 : UInt16).toNat ≠ 0x0800
        decide
      have isArp : (FramePayload.arp packet).type.toNat = 0x0806 := rfl
      simp only [if_neg notIp, if_pos isArp, ReaderT.run_bind, processArpHdr_at payload, ok_bind]
      rw [EthFrame.report, isPayload]
      rfl
  | other type bytes unknown =>
      have notIp : (FramePayload.other type bytes unknown).type.toNat ≠ 0x0800 :=
        fun same => unknown.1 (UInt16.toNat_inj.mp same)
      have notArp : (FramePayload.other type bytes unknown).type.toNat ≠ 0x0806 :=
        fun same => unknown.2 (UInt16.toNat_inj.mp same)
      simp only [if_neg notIp, if_neg notArp]
      rw [EthFrame.report, isPayload]
      rfl

/-- The acknowledgement that smallTCP.pcap has as its third frame. -/
def ackFrame : EthFrame where
  dest := ⟨[0, 6, 37, 120, 196, 125], rfl⟩
  source := ⟨[0, 2, 45, 144, 117, 137], rfl⟩
  payload := .ip
    { version := 4
      diffserv := 0
      ecn := 0
      fragment := ⟨[59, 145, 64, 0], rfl⟩
      ttl := 128
      sender := ⟨[192, 168, 1, 102], rfl⟩
      dest := ⟨[129, 65, 242, 4], rfl⟩
      optionWords := 0
      options := ⟨[], rfl⟩
      payload := .tcp
        { sourcePort := 1675
          destPort := 22
          sequenceNumber := 120759614
          ackNumber := 3289359199
          dataOffset := 5
          reserved := 0
          flags := ⟨false, false, false, true, false, false, false, false⟩
          windowSize := 16560
          urgentPointer := 0
          optionsAndData := [] }
      fits := by decide }

example : ackFrame.encode =
    [0, 6, 37, 120, 196, 125, 0, 2, 45, 144, 117, 137, 8, 0, 69, 0, 0, 40, 59, 145, 64, 0, 128, 6,
      137, 234, 192, 168, 1, 102, 129, 65, 242, 4, 6, 139, 0, 22, 7, 50, 165, 62, 196, 15, 163, 95,
      80, 16, 64, 176, 31, 79, 0, 0] := by
  decide +kernel

end CPE464.P1
