/-
trace.c: taking the headers of a captured frame apart.

A report holds what the program prints about a header, in the order of printing.  The
bytes that are read are those that were captured of one frame; the loop over the frames
of a file and the texts around the printed values are left out.
-/

import CPE464.P1.Checksum
import CPE464.P1.Utility

namespace CPE464.P1

open General

inductive Verdict where
  | correct
  | incorrect
  deriving DecidableEq, Repr

def verdict (sum : Nat) : Verdict := if sum = 0 then .correct else .incorrect

/-! ### Behind the IP header -/

/-- The type is a `char`. -/
def icmpType (type : UInt8) : String :=
  if type = 8 then "Request" else if type = 0 then "Reply" else toString type.toInt8.toInt

def processIcmpHdr (packet : Nat) : Scan String := do
  let (type, _) ← getByte packet
  return icmpType type

structure UdpReport where
  sourcePort : String
  destPort : String
  deriving DecidableEq, Repr

def processUdpHdr (packet : Nat) : Scan UdpReport := do
  let (sourcePort, packet) ← printTcpUdpPort packet
  let (destPort, _) ← printTcpUdpPort packet
  return { sourcePort, destPort }

structure TcpReport where
  sourcePort : String
  destPort : String
  sequenceNumber : Nat
  ackNumber : Nat
  dataOffset : Nat
  syn : Bool
  rst : Bool
  fin : Bool
  ack : Bool
  windowSize : Nat
  checksum : Verdict
  checksumField : Nat
  deriving DecidableEq, Repr

def buildTcpChksm (tcpBegin tcpSt tcpPduLen : Nat) (ipPtcl : UInt8) : Scan (List UInt8) := do
  let addresses ← bytesAt tcpSt (2 * ipAddrSize)
  let pHdr := overwrite (List.replicate tcpPHdrLen 0) 0 addresses
  let pHdr := overwrite pHdr (2 * ipAddrSize + 1) [ipPtcl]
  let pHdr := overwrite pHdr (2 * ipAddrSize + 2) (htons tcpPduLen)
  let segment ← bytesAt tcpBegin tcpPduLen
  let tcpChksm := overwrite (List.replicate (tcpPHdrLen + tcpPduLen) 0) 0 pHdr
  return overwrite tcpChksm tcpPHdrLen segment

def processTcpHdr (packet tcpSt tcpPduLen : Nat) (ipPtcl : UInt8) : Scan TcpReport := do
  let tcpBegin := packet
  let (sourcePort, packet) ← printTcpUdpPort packet
  let (destPort, packet) ← printTcpUdpPort packet
  let (sequenceNumber, packet) ← getLong packet true
  let (ackNumber, packet) ← getLong packet true
  let (offset, packet) ← getByte packet
  let (flags, packet) ← getByte packet
  let (windowSize, packet) ← getShort packet true
  let tcpChksm ← buildTcpChksm tcpBegin tcpSt tcpPduLen ipPtcl
  let sum ← inCksum tcpChksm
  let (checksumField, _) ← getShort packet true
  return {
    sourcePort, destPort, sequenceNumber, ackNumber
    dataOffset := (offset >>> 4 &&& 0xf).toNat * 4
    syn := flags &&& 0x2 ≠ 0
    rst := flags &&& 0x4 ≠ 0
    fin := flags &&& 0x1 ≠ 0
    ack := flags &&& 0x10 ≠ 0
    windowSize
    checksum := verdict sum
    checksumField }

/-! ### The IP header -/

/-- The call that `process_ip_hdr` ends with. -/
inductive NextHeader where
  | icmp (packet : Nat)
  | tcp (packet tcpSt tcpPduLen : Nat) (ipPtcl : UInt8)
  | udp (packet : Nat)
  | unknown
  deriving DecidableEq, Repr

structure IpReport where
  version : Nat
  headerLen : Nat
  diffserv : Nat
  ecn : Nat
  ttl : Nat
  protocol : String
  checksum : Verdict
  checksumField : Nat
  senderIp : List UInt8
  destIp : List UInt8
  deriving DecidableEq, Repr

def protocolName (protocol : UInt8) : String :=
  if protocol = 1 then "ICMP" else if protocol = 6 then "TCP"
  else if protocol = 17 then "UDP" else "Unknown"

def nextHeader (protocol : UInt8) (ipBegin hdrLen tcpBegin pduLen : Nat) : NextHeader :=
  if protocol = 1 then .icmp (ipBegin + hdrLen)
  else if protocol = 6 then
    .tcp (ipBegin + hdrLen) tcpBegin (wrap16 (pduLen - hdrLen)) protocol
  else if protocol = 17 then .udp (ipBegin + hdrLen)
  else .unknown

/-- `process_ip_hdr` up to its last switch. -/
def readIpHdr (packet : Nat) : Scan (IpReport × NextHeader) := do
  let ipBegin := packet
  let (first, packet) ← getByte packet
  let hdrLen := (first &&& 0xf).toNat * 4
  let (tos, packet) ← getByte packet
  let (pduLen, packet) ← getShort packet true
  let packet := packet + longBytes
  let (ttl, packet) ← getByte packet
  let (protocol, packet) ← getByte packet
  let header ← bytesAt ipBegin hdrLen
  let sum ← inCksum header
  let (checksumField, packet) ← getShort packet true
  let tcpBegin := packet
  let (senderIp, packet) ← printIp packet
  let (destIp, _) ← printIp packet
  return ({
    version := (first >>> 4 &&& 0xf).toNat
    headerLen := hdrLen
    diffserv := (tos >>> 2).toNat
    ecn := (tos &&& 0x3).toNat
    ttl := ttl.toNat
    protocol := protocolName protocol
    checksum := verdict sum
    checksumField, senderIp, destIp },
    nextHeader protocol ipBegin hdrLen tcpBegin pduLen)

inductive NextReport where
  | icmp (type : String)
  | tcp (report : TcpReport)
  | udp (report : UdpReport)
  | unknown
  deriving DecidableEq, Repr

def NextHeader.process : NextHeader → Scan NextReport
  | .icmp packet => do return .icmp (← processIcmpHdr packet)
  | .tcp packet tcpSt tcpPduLen ipPtcl => do
      return .tcp (← processTcpHdr packet tcpSt tcpPduLen ipPtcl)
  | .udp packet => do return .udp (← processUdpHdr packet)
  | .unknown => return .unknown

def processIpHdr (packet : Nat) : Scan (IpReport × NextReport) := do
  let (report, next) ← readIpHdr packet
  let nextReport ← next.process
  return (report, nextReport)

/-! ### The frame -/

structure ArpReport where
  opcode : String
  senderMac : List UInt8
  senderIp : List UInt8
  targetMac : List UInt8
  targetIp : List UInt8
  deriving DecidableEq, Repr

def arpOpcode (opcode : Nat) : String :=
  match opcode with
  | 1 => "Request"
  | 2 => "Reply"
  | _ => toString opcode

def processArpHdr (packet : Nat) : Scan ArpReport := do
  let packet := packet + 2 * shortBytes + 2
  let (opcode, packet) ← getShort packet true
  let (senderMac, packet) ← printMac packet
  let (senderIp, packet) ← printIp packet
  let (targetMac, packet) ← printMac packet
  let (targetIp, _) ← printIp packet
  return { opcode := arpOpcode opcode, senderMac, senderIp, targetMac, targetIp }

inductive FrameReport where
  | ip (header : IpReport) (next : NextReport)
  | arp (report : ArpReport)
  | unknown
  deriving DecidableEq, Repr

structure EthReport where
  destMac : List UInt8
  sourceMac : List UInt8
  payload : FrameReport
  deriving DecidableEq, Repr

def processEthHdr (packet : Nat) : Scan EthReport := do
  let (destMac, packet) ← printMac packet
  let (sourceMac, packet) ← printMac packet
  let (type, packet) ← getShort packet true
  if type = 0x0800 then
    let (header, next) ← processIpHdr packet
    return { destMac, sourceMac, payload := .ip header next }
  else if type = 0x0806 then
    let report ← processArpHdr packet
    return { destMac, sourceMac, payload := .arp report }
  else
    return { destMac, sourceMac, payload := .unknown }

end CPE464.P1
