/-
server.c: the forked child that sends one file.

The child runs `sendAndReceiveData` and then `lastData`.  Their loops are cut at
every test and every `pollCall`, so that one step is one pass through one loop body;
`State` says at which loop the child stands.  The file is the part of it that has
not been read yet, and reading does not fail.
-/

import CPE464.Project3.Window

namespace CPE464.Project3.Server

open General

/-- Where the child stands: at the test of the sending loop, in the non-blocking
poll loop, in the loop of the closed window, in `lastData`, or past them.  `eofAcked`
is the return from `lastData` on `FLAG_TYPE_EOF_ACK`; `kill` is every other end. -/
inductive State where
  | windowOpen
  | checkRrSrej
  | windowClosed
  | lastData
  | eofAcked
  | kill
  deriving DecidableEq, Repr

structure Child where
  windowSize : Nat
  bufferSize : Nat
  file : List UInt8
  seqNum : Nat
  window : Window
  sent : List Datagram
  state : State
  atEof : Bool
  timeout : Nat
  lastTimeout : Nat

/-- What one step reads from outside: the result of `pollCall` and the receive
after it, and the garbage in the uninitialised packet of `processRrSrej`. -/
structure Input where
  poll : Option Datagram
  stack : Packet

def safeSendto (child : Child) (datagram : Datagram) : Child :=
  { child with sent := child.sent ++ [datagram] }

/-- `receiveAndValidateData`, with `validateSize` as its callers pass it. -/
def receiveAndValidateData (packet : Packet) (datagram : Datagram) (expectedSize : Nat)
    (validateSize : Bool) : Bool × Packet × Nat :=
  let buffer := datagram.take expectedSize
  let received := packet.memcpy 0 buffer
  (!(validateSize && buffer.length < expectedSize) && isValidPacket received buffer.length,
    received, buffer.length)

/-- Change the flag of a packet taken from the window, unless it is the last packet
of the file. -/
def restampUnlessEof (packet : Packet) (flag : FlagType) (dataSize : Nat) : Packet :=
  if packet.flag ≠ FlagType.eof.code then restamp packet flag dataSize else packet

def resendRejected (child : Child) (seqNum : Nat) (stack : Packet) : Child :=
  let slot := getPacket child.window stack seqNum
  safeSendto child ((restampUnlessEof slot.1 .srejData slot.2).bytes.take slot.2)

def processRrSrej (child : Child) (datagram : Datagram) (stack : Packet) : Child × Int :=
  let (valid, packet, _) := receiveAndValidateData Packet.zero datagram rrPacketSsize true
  if !valid then (child, -1)
  else if packet.flag = FlagType.rr.code then
    ({ child with window := removePacket child.window packet.number }, FlagType.rr.code.toNat)
  else if packet.flag = FlagType.srej.code then
    (resendRejected child packet.number stack, FlagType.srej.code.toNat)
  else if packet.flag = FlagType.eofAck.code then
    (child, FlagType.eofAck.code.toNat)
  else (child, -1)

def buildFilePacket (seqNum : Nat) (data : List UInt8) (atEof : Bool) : Packet :=
  if atEof then restamp (buildDataPacket seqNum data) .eof (dataPacketSsize data.length)
  else buildDataPacket seqNum data

/-- `fread` returns fewer bytes than asked for exactly at the end of the file. -/
def readFromDiskAndSend (child : Child) : Child :=
  let data := child.file.take child.bufferSize
  let atEof := child.atEof || data.length < child.bufferSize
  let dataSize := dataPacketSsize data.length
  let packet := buildFilePacket child.seqNum data atEof
  let sending := safeSendto child (packet.bytes.take dataSize)
  { sending with
    file := child.file.drop child.bufferSize
    seqNum := wrap32 (child.seqNum + 1)
    atEof := atEof
    window := (addPacket child.window packet dataSize).2 }

/-- The timeout in the closed-window loop changes the flag unconditionally. -/
def resendLowestClosed (child : Child) : Child :=
  let slot := getLowestPacket child.window Packet.zero
  safeSendto child ((restamp slot.1 .timeoutData slot.2).bytes.take slot.2)

/-- The timeout in `lastData` keeps `FLAG_TYPE_EOF`. -/
def resendLowestLast (child : Child) : Child :=
  let slot := getLowestPacket child.window Packet.zero
  safeSendto child ((restampUnlessEof slot.1 .timeoutData slot.2).bytes.take slot.2)

def sendAndReceiveData (child : Child) (input : Input) : Child :=
  match child.state with
  | .windowOpen =>
      if isWindowOpen child.window then
        let sending := readFromDiskAndSend child
        { sending with state := if sending.atEof then .lastData else .checkRrSrej }
      else
        { child with state := if child.atEof then .lastData else .windowClosed }
  | .checkRrSrej =>
      match input.poll with
      | none => { child with state := .windowOpen }
      | some datagram => (processRrSrej child datagram input.stack).1
  | .windowClosed =>
      if isWindowOpen child.window then
        { child with state := if child.atEof then .kill else .windowOpen }
      else if child.timeout > timeoutMax then
        { child with state := .kill }
      else
        match input.poll with
        | none => resendLowestClosed { child with timeout := child.timeout + 1 }
        | some datagram =>
            (processRrSrej { child with timeout := 0 } datagram input.stack).1
  | _ => child

/-- One pass of the `do` loop of `lastData`.  After an RR the source also copies a
slot into a packet that the next pass clears, which has no effect. -/
def lastData (child : Child) (input : Input) : Child :=
  match input.poll with
  | none =>
      let resent := resendLowestLast { child with lastTimeout := child.lastTimeout + 1 }
      { resent with
        state := if child.lastTimeout + 1 < timeoutMax then .lastData else .kill }
  | some datagram =>
      let (handled, result) := processRrSrej child datagram input.stack
      -- the result is stored in a `uint8_t`
      if result % 256 = FlagType.eofAck.code.toNat then { handled with state := .eofAcked }
      else { handled with state := if child.lastTimeout < timeoutMax then .lastData else .kill }

def step (child : Child) (input : Input) : Child :=
  match child.state with
  | .windowOpen | .checkRrSrej | .windowClosed => sendAndReceiveData child input
  | .lastData => lastData child input
  | .eofAcked | .kill => child

def polls (child : Child) : Bool :=
  match child.state with
  | .checkRrSrej | .lastData => true
  | .windowClosed => !isWindowOpen child.window && child.timeout ≤ timeoutMax
  | _ => false

/-- The child on entry to `sendAndReceiveData`: the file is open at its start and the
filename response has used sequence number 0. -/
def start (windowSize bufferSize : Nat) (file : List UInt8) : Child where
  windowSize := windowSize
  bufferSize := bufferSize
  file := file
  seqNum := seqNumStart
  window := windowInit windowSize bufferSize
  sent := []
  state := .windowOpen
  atEof := false
  timeout := 0
  lastTimeout := 0

end CPE464.Project3.Server
