/-
utility.c: reading a field and advancing the packet pointer past it.

Each function returns what it reads or prints, and the pointer behind it.
-/

import CPE464.General.Bytes
import CPE464.General.Capture

namespace CPE464.P1

open General

def macAddrSize : Nat := 6
def ipAddrSize : Nat := 4
def shortBytes : Nat := 2
def longBytes : Nat := 4
def tcpPHdrLen : Nat := 12

def printMac (packet : Nat) : Scan (List UInt8 × Nat) := do
  let bytes ← bytesAt packet macAddrSize
  return (bytes, packet + macAddrSize)

def printIp (packet : Nat) : Scan (List UInt8 × Nat) := do
  let bytes ← bytesAt packet ipAddrSize
  return (bytes, packet + ipAddrSize)

/-- `(*packet)++[0]`. -/
def getByte (packet : Nat) : Scan (UInt8 × Nat) := do
  let byte ← byteAt packet
  return (byte, packet + 1)

def getShort (packet : Nat) (conv : Bool) : Scan (Nat × Nat) := do
  let bytes ← bytesAt packet shortBytes
  return (ntohs (if conv then bytes else bytes.reverse), packet + shortBytes)

def getLong (packet : Nat) (conv : Bool) : Scan (Nat × Nat) := do
  let bytes ← bytesAt packet longBytes
  return (ntohl (if conv then bytes else bytes.reverse), packet + longBytes)

def portName (port : Nat) : String :=
  match port with
  | 21 => "FTP"
  | 23 => "Telnet"
  | 25 => "SMTP"
  | 53 => "DNS"
  | 80 => "HTTP"
  | 110 => "POP3"
  | _ => toString port

def printTcpUdpPort (packet : Nat) : Scan (String × Nat) := do
  let (port, packet) ← getShort packet true
  return (portName port, packet)

/-! ### Inside the capture -/

section Inside

variable {capture : List UInt8} {packet : Nat}

theorem printMac_run (inside : packet + 6 ≤ capture.length) :
    (printMac packet).run capture = .ok ((capture.drop packet).take 6, packet + 6) :=
  run_bind_ok (bytesAt_inside inside)

theorem printIp_run (inside : packet + 4 ≤ capture.length) :
    (printIp packet).run capture = .ok ((capture.drop packet).take 4, packet + 4) :=
  run_bind_ok (bytesAt_inside inside)

theorem getByte_run (inside : packet < capture.length) :
    (getByte packet).run capture = .ok (capture.getD packet 0, packet + 1) :=
  run_bind_ok (byteAt_inside inside)

theorem getShort_run (inside : packet + 2 ≤ capture.length) :
    (getShort packet true).run capture = .ok (ntohs (capture.drop packet), packet + 2) := by
  rw [← ntohs_take _ 2 le_rfl]
  exact run_bind_ok (bytesAt_inside inside)

theorem getLong_run (inside : packet + 4 ≤ capture.length) :
    (getLong packet true).run capture = .ok (ntohl (capture.drop packet), packet + 4) := by
  rw [← ntohl_take _ 4 le_rfl]
  exact run_bind_ok (bytesAt_inside inside)

theorem printTcpUdpPort_run (inside : packet + 2 ≤ capture.length) :
    (printTcpUdpPort packet).run capture =
      .ok (portName (ntohs (capture.drop packet)), packet + 2) :=
  run_bind_ok (getShort_run inside)

end Inside

/-! ### A longer capture -/

theorem stable_printMac (packet : Nat) : Stable (printMac packet) :=
  (Stable.bytesAt packet macAddrSize).bind fun _ => Stable.pure _

theorem stable_printIp (packet : Nat) : Stable (printIp packet) :=
  (Stable.bytesAt packet ipAddrSize).bind fun _ => Stable.pure _

theorem stable_getByte (packet : Nat) : Stable (getByte packet) :=
  (Stable.byteAt packet).bind fun _ => Stable.pure _

theorem stable_getShort (packet : Nat) (conv : Bool) : Stable (getShort packet conv) :=
  (Stable.bytesAt packet shortBytes).bind fun _ => Stable.pure _

theorem stable_getLong (packet : Nat) (conv : Bool) : Stable (getLong packet conv) :=
  (Stable.bytesAt packet longBytes).bind fun _ => Stable.pure _

theorem stable_printTcpUdpPort (packet : Nat) : Stable (printTcpUdpPort packet) :=
  (stable_getShort packet true).bind fun _ => Stable.pure _

end CPE464.P1
