/-
Frames as they are sent, and what the program prints of them.

A frame is given by its fields.  The sender writes them in network order, and fills in the
checksums so that the one's-complement sums are all ones.
-/

import CPE464.P1.TraceRun
import Mathlib.Data.Vector.Basic

namespace CPE464.P1

open General

abbrev Octets (count : Nat) : Type := List.Vector UInt8 count

def nibbles (high low : Fin 16) : UInt8 := UInt8.ofNat (16 * high + low)

theorem nibbles_high : ∀ high low : Fin 16, (nibbles high low >>> 4 &&& 0xf).toNat = high := by
  decide

theorem nibbles_low : ∀ high low : Fin 16, (nibbles high low &&& 0xf).toNat = low := by
  decide

/-! ### TCP -/

structure TcpFlags where
  cwr : Bool
  ece : Bool
  urg : Bool
  ack : Bool
  psh : Bool
  rst : Bool
  syn : Bool
  fin : Bool
  deriving DecidableEq, Repr

def TcpFlags.byte (flags : TcpFlags) : UInt8 :=
  (if flags.cwr then 0x80 else 0) ||| (if flags.ece then 0x40 else 0) |||
    (if flags.urg then 0x20 else 0) ||| (if flags.ack then 0x10 else 0) |||
    (if flags.psh then 0x08 else 0) ||| (if flags.rst then 0x04 else 0) |||
    (if flags.syn then 0x02 else 0) ||| (if flags.fin then 0x01 else 0)

theorem TcpFlags.byte_tests (flags : TcpFlags) :
    decide (flags.byte &&& 0x2 ≠ 0) = flags.syn ∧ decide (flags.byte &&& 0x4 ≠ 0) = flags.rst ∧
      decide (flags.byte &&& 0x1 ≠ 0) = flags.fin ∧
      decide (flags.byte &&& 0x10 ≠ 0) = flags.ack := by
  obtain ⟨cwr, ece, urg, ack, psh, rst, syn, fin⟩ := flags
  revert cwr ece urg ack psh rst syn fin
  decide

structure TcpSegment where
  sourcePort : UInt16
  destPort : UInt16
  sequenceNumber : UInt32
  ackNumber : UInt32
  dataOffset : Fin 16
  reserved : Fin 16
  flags : TcpFlags
  windowSize : UInt16
  urgentPointer : UInt16
  optionsAndData : List UInt8

namespace TcpSegment

def front (segment : TcpSegment) : List UInt8 :=
  htons segment.sourcePort.toNat ++ (htons segment.destPort.toNat ++
    (htonl segment.sequenceNumber.toNat ++ (htonl segment.ackNumber.toNat ++
      ([nibbles segment.dataOffset segment.reserved] ++ ([segment.flags.byte] ++
        htons segment.windowSize.toNat)))))

def back (segment : TcpSegment) : List UInt8 :=
  htons segment.urgentPointer.toNat ++ segment.optionsAndData

def length (segment : TcpSegment) : Nat := 20 + segment.optionsAndData.length

def encode (segment : TcpSegment) (checksum : Nat) : List UInt8 :=
  segment.front ++ htons checksum ++ segment.back

def pseudoHeader (segment : TcpSegment) (addresses : List UInt8) : List UInt8 :=
  addresses ++ [0, 6] ++ htons segment.length

def checksum (segment : TcpSegment) (addresses : List UInt8) : Nat :=
  internetChecksum (segment.pseudoHeader addresses ++ segment.encode 0)

theorem encode_length (segment : TcpSegment) (checksum : Nat) :
    (segment.encode checksum).length = segment.length := by
  simp only [encode, front, back, length, List.length_append, htons_length, htonl_length,
    List.length_singleton]
  omega

theorem checksummed_correct (segment : TcpSegment) {addresses : List UInt8}
    (eight : addresses.length = 8) :
    endAroundSum (checksummed addresses 6 (segment.encode (segment.checksum addresses))) =
      65535 := by
  have even : (segment.pseudoHeader addresses ++ segment.front).length % 2 = 0 := by
    simp only [pseudoHeader, front, List.length_append, eight, htons_length, htonl_length,
      List.length_cons, List.length_nil]
  have stamped := endAroundSum_stamped (segment.pseudoHeader addresses ++ segment.front)
    segment.back even
  have cleared : segment.pseudoHeader addresses ++ segment.front ++ [0, 0] ++ segment.back =
      segment.pseudoHeader addresses ++ segment.encode 0 := by
    simp only [encode, List.append_assoc]
    rfl
  rw [cleared, ← checksum] at stamped
  rw [checksummed, encode_length, ← pseudoHeader, encode]
  simpa only [List.append_assoc] using stamped

end TcpSegment

/-! ### IP -/

inductive Payload where
  | icmp (type : UInt8) (rest : List UInt8)
  | tcp (segment : TcpSegment)
  | udp (sourcePort destPort : UInt16) (rest : List UInt8)
  | other (protocol : UInt8) (bytes : List UInt8)
      (unknown : protocol ≠ 1 ∧ protocol ≠ 6 ∧ protocol ≠ 17)

namespace Payload

def protocol : Payload → UInt8
  | .icmp _ _ => 1
  | .tcp _ => 6
  | .udp _ _ _ => 17
  | .other protocol _ _ => protocol

def length : Payload → Nat
  | .icmp _ rest => 1 + rest.length
  | .tcp segment => segment.length
  | .udp _ _ rest => 4 + rest.length
  | .other _ bytes _ => bytes.length

def encode (addresses : List UInt8) : Payload → List UInt8
  | .icmp type rest => [type] ++ rest
  | .tcp segment => segment.encode (segment.checksum addresses)
  | .udp sourcePort destPort rest =>
      htons sourcePort.toNat ++ (htons destPort.toNat ++ rest)
  | .other _ bytes _ => bytes

end Payload

/-- An IP packet without its checksum.  `fragment` is the identification with the fields of
fragmentation, and there may be options of up to ten words. -/
structure IpPacket where
  version : Fin 16
  diffserv : Fin 64
  ecn : Fin 4
  fragment : Octets 4
  ttl : UInt8
  sender : Octets ipAddrSize
  dest : Octets ipAddrSize
  optionWords : Fin 11
  options : Octets (4 * optionWords)
  payload : Payload
  fits : 20 + 4 * optionWords + payload.length < 65536

namespace IpPacket

def headerLen (packet : IpPacket) : Nat := 20 + 4 * packet.optionWords

def headerWords (packet : IpPacket) : Fin 16 := ⟨5 + packet.optionWords, by omega⟩

def totalLen (packet : IpPacket) : Nat := packet.headerLen + packet.payload.length

def addresses (packet : IpPacket) : List UInt8 := packet.sender.toList ++ packet.dest.toList

def tos (packet : IpPacket) : UInt8 := UInt8.ofNat (4 * packet.diffserv + packet.ecn)

def front (packet : IpPacket) : List UInt8 :=
  [nibbles packet.version packet.headerWords] ++ ([packet.tos] ++ (htons packet.totalLen ++
    (packet.fragment.toList ++ ([packet.ttl] ++ [packet.payload.protocol]))))

def back (packet : IpPacket) : List UInt8 :=
  packet.sender.toList ++ (packet.dest.toList ++ packet.options.toList)

def header (packet : IpPacket) (checksum : Nat) : List UInt8 :=
  packet.front ++ htons checksum ++ packet.back

def checksum (packet : IpPacket) : Nat := internetChecksum (packet.header 0)

def encode (packet : IpPacket) : List UInt8 :=
  packet.header packet.checksum ++ packet.payload.encode packet.addresses

theorem front_length (packet : IpPacket) : packet.front.length = 10 := by
  simp [front]

theorem header_length (packet : IpPacket) (checksum : Nat) :
    (packet.header checksum).length = packet.headerLen := by
  simp only [header, back, headerLen, List.length_append, front_length, htons_length,
    List.Vector.toList_length]
  unfold ipAddrSize
  omega

theorem header_correct (packet : IpPacket) :
    endAroundSum (packet.header packet.checksum) = 65535 :=
  endAroundSum_stamped packet.front packet.back (by rw [front_length])

end IpPacket

/-! ### The frame -/

structure ArpPacket where
  hardware : Octets 6
  opcode : UInt16
  senderMac : Octets macAddrSize
  senderIp : Octets ipAddrSize
  targetMac : Octets macAddrSize
  targetIp : Octets ipAddrSize

def ArpPacket.encode (packet : ArpPacket) : List UInt8 :=
  packet.hardware.toList ++ (htons packet.opcode.toNat ++ (packet.senderMac.toList ++
    (packet.senderIp.toList ++ (packet.targetMac.toList ++ packet.targetIp.toList))))

inductive FramePayload where
  | ip (packet : IpPacket)
  | arp (packet : ArpPacket)
  | other (type : UInt16) (bytes : List UInt8) (unknown : type ≠ 0x0800 ∧ type ≠ 0x0806)

def FramePayload.type : FramePayload → UInt16
  | .ip _ => 0x0800
  | .arp _ => 0x0806
  | .other type _ _ => type

def FramePayload.encode : FramePayload → List UInt8
  | .ip packet => packet.encode
  | .arp packet => packet.encode
  | .other _ bytes _ => bytes

structure EthFrame where
  dest : Octets macAddrSize
  source : Octets macAddrSize
  payload : FramePayload

def EthFrame.encode (frame : EthFrame) : List UInt8 :=
  frame.dest.toList ++ (frame.source.toList ++ (htons frame.payload.type.toNat ++
    frame.payload.encode))

/-! ### The reports -/

def TcpSegment.report (segment : TcpSegment) (addresses : List UInt8) : TcpReport where
  sourcePort := portName segment.sourcePort.toNat
  destPort := portName segment.destPort.toNat
  sequenceNumber := segment.sequenceNumber.toNat
  ackNumber := segment.ackNumber.toNat
  dataOffset := segment.dataOffset * 4
  syn := segment.flags.syn
  rst := segment.flags.rst
  fin := segment.flags.fin
  ack := segment.flags.ack
  windowSize := segment.windowSize.toNat
  checksum := .correct
  checksumField := segment.checksum addresses

def Payload.report (addresses : List UInt8) : Payload → NextReport
  | .icmp type _ => .icmp (icmpType type)
  | .tcp segment => .tcp (segment.report addresses)
  | .udp sourcePort destPort _ =>
      .udp ⟨portName sourcePort.toNat, portName destPort.toNat⟩
  | .other _ _ _ => .unknown

def IpPacket.report (packet : IpPacket) : IpReport where
  version := packet.version
  headerLen := packet.headerLen
  diffserv := packet.diffserv
  ecn := packet.ecn
  ttl := packet.ttl.toNat
  protocol := protocolName packet.payload.protocol
  checksum := .correct
  checksumField := packet.checksum
  senderIp := packet.sender.toList
  destIp := packet.dest.toList

def ArpPacket.report (packet : ArpPacket) : ArpReport where
  opcode := arpOpcode packet.opcode.toNat
  senderMac := packet.senderMac.toList
  senderIp := packet.senderIp.toList
  targetMac := packet.targetMac.toList
  targetIp := packet.targetIp.toList

def FramePayload.report : FramePayload → FrameReport
  | .ip packet => .ip packet.report (packet.payload.report packet.addresses)
  | .arp packet => .arp packet.report
  | .other _ _ _ => .unknown

def EthFrame.report (frame : EthFrame) : EthReport where
  destMac := frame.dest.toList
  sourceMac := frame.source.toList
  payload := frame.payload.report

end CPE464.P1
