/-
rcopy.c: the receiving client.

`Statics` holds the file-scope variables together with what they act on: the
window of window.c, the bytes written to `toFile` and the datagrams handed to
`safeSendto`.  `Process` adds the locals of `stateMachine`.  One call of
`stateMachine` below is one pass of its `while` loop; `lastData` polls in a loop of
its own, which gets a state of its own, so that every `pollCall` of the program is
one step.  A poll that times out is `none`.
-/

import CPE464.Project3.Window

namespace CPE464.Project3.Rcopy

open General

/-- `enum rcopyState`, with `lastDataLoop` for the inside of `lastData` and `exit`
for a process that has called `exit(1)`. -/
inductive State where
  | sendFilename
  | sendFilenameTimeout
  | waitForFilenameAck
  | receiveFirstData
  | receiveData
  | receiveDataTimeout
  | badData
  | bufferData
  | processData
  | lastData
  | lastDataLoop
  | kill
  | exit
  deriving DecidableEq, Repr

/-- The file-scope variables of rcopy.c and the settings its handlers read. -/
structure Statics where
  fromFileName : List UInt8
  windowSize : Nat
  bufferSize : Nat
  seqNum : Nat
  expected : Nat
  highest : Nat
  wroteLastData : Bool
  window : Window
  toFile : List UInt8
  sent : List Datagram

structure LastDataFrame where
  packet : Packet
  timeout : Nat
  dataSize : Nat
  buffering : Bool

structure Process where
  statics : Statics
  state : State
  timeout : Nat
  buffering : Bool
  currPacket : Packet
  dataSize : Nat
  frame : LastDataFrame

/-- What one step reads from outside: the result of `pollCall` and the receive
after it, and the garbage in `lastData`'s uninitialised packet. -/
structure Input where
  poll : Option Datagram
  stack : Packet

/-! ### Sending and writing -/

def safeSendto (statics : Statics) (datagram : Datagram) : Statics :=
  { statics with sent := statics.sent ++ [datagram] }

def sendFileName (statics : Statics) : Statics :=
  safeSendto statics
    ((buildFileNamePacket statics.seqNum statics.windowSize statics.bufferSize
      statics.fromFileName).bytes.take (filenamePacketSsize statics.fromFileName.length))

def sendSREJ (statics : Statics) (srejNum : Nat) : Statics :=
  safeSendto { statics with seqNum := wrap32 (statics.seqNum + 1) }
    ((buildSrejPacket statics.seqNum srejNum).bytes.take srejPacketSsize)

def sendRR (statics : Statics) : Statics :=
  safeSendto { statics with seqNum := wrap32 (statics.seqNum + 1) }
    ((buildRrPacket statics.seqNum statics.expected).bytes.take rrPacketSsize)

/-- The acknowledgement of the whole file in `lastData`: an RR packet re-stamped
with `FLAG_TYPE_EOF_ACK`. -/
def sendEofAck (statics : Statics) : Statics :=
  safeSendto { statics with seqNum := wrap32 (statics.seqNum + 1) }
    ((restamp (buildRrPacket statics.seqNum statics.expected) .eofAck
      rrPacketSsize).bytes.take rrPacketSsize)

/-- `dataSize - sizeof(PacketHeader_t)` as the `uint16_t` argument it becomes. -/
def writeSize (dataSize : Nat) : Nat := (dataSize + 2 ^ 16 - packetHeaderSsize) % 2 ^ 16

theorem writeSize_eq (size : Nat) (small : size < 2 ^ 16) :
    writeSize (packetHeaderSsize + size) = size := by
  rw [writeSize, packetHeaderSsize]
  omega

/-- `writeDataToDisk`, on a disk that takes every write. -/
def writeDataToDisk (statics : Statics) (data : List UInt8) (dataSize : Nat) : Statics :=
  { statics with toFile := statics.toFile ++ data.take dataSize }

def moveWindow (statics : Statics) (seqNum : Nat) : Statics :=
  { statics with window := removePacket statics.window seqNum }

/-! ### Flushing the window -/

def flushPacket (statics : Statics) (currSeqNum : Nat) : Statics :=
  let slot := getPacket statics.window Packet.zero currSeqNum
  let written := writeDataToDisk statics slot.1.payload (writeSize slot.2)
  { written with
    wroteLastData := statics.wroteLastData || slot.1.flag == FlagType.eof.code
    expected := wrap32 (statics.expected + 1) }

def flushWindow (statics : Statics) (validPackets : List Nat) : Statics :=
  let flushed := validPackets.foldl flushPacket statics
  moveWindow flushed flushed.expected

def checkWindowState (statics : Statics) : Statics :=
  let validPackets := inorderValidPackets statics.window
  if validPackets.length > 0 then flushWindow statics validPackets else statics

/-! ### The two data handlers -/

/-- What a data handler leaves behind: the statics, `*buffering` and its return
value. -/
structure Handled where
  statics : Statics
  buffering : Bool
  next : State

def isDataFlag (flag : UInt8) : Bool :=
  flag == FlagType.srejData.code || flag == FlagType.timeoutData.code ||
    flag == FlagType.data.code || flag == FlagType.eof.code

/-- The state both handlers return for a data packet. -/
def stateAfter (packet : Packet) : State :=
  if packet.flag = FlagType.eof.code then .lastData else .receiveData

def writeInOrder (statics : Statics) (packet : Packet) (dataSize : Nat) : Statics :=
  let written := writeDataToDisk statics packet.payload (writeSize dataSize)
  let counted :=
    { written with
      wroteLastData := statics.wroteLastData || packet.flag == FlagType.eof.code
      highest := statics.expected
      expected := wrap32 (statics.expected + 1) }
  sendRR (moveWindow counted counted.expected)

def processData (statics : Statics) (packet : Packet) (dataSize : Nat)
    (buffering : Bool) : Handled :=
  if !isDataFlag packet.flag then
    { statics, buffering, next := .receiveData }
  else if packet.seqNum = statics.expected then
    { statics := writeInOrder statics packet dataSize, buffering, next := stateAfter packet }
  else if packet.seqNum > statics.expected then
    let rejected := { sendSREJ statics statics.expected with highest := packet.seqNum }
    match addPacket rejected.window packet dataSize with
    | (false, _) => { statics := rejected, buffering := true, next := .exit }
    | (true, window) =>
        { statics := { rejected with window }, buffering := true, next := stateAfter packet }
  else
    { statics := sendRR statics, buffering, next := stateAfter packet }

def processDataBuffering (statics : Statics) (packet : Packet) (dataSize : Nat)
    (buffering : Bool) : Handled :=
  if !isDataFlag packet.flag then
    { statics, buffering, next := .receiveData }
  else if !packetValidInWindow statics.window packet.seqNum then
    if packet.seqNum = statics.expected then
      let drained := checkWindowState
        { statics with window := replacePacket statics.window packet dataSize }
      if drained.expected < drained.highest then
        { statics := sendRR (sendSREJ drained drained.expected), buffering,
          next := stateAfter packet }
      else
        { statics := sendRR drained, buffering := false, next := stateAfter packet }
    else if packet.seqNum > statics.expected then
      match addPacket statics.window packet dataSize with
      | (false, _) => { statics, buffering, next := .exit }
      | (true, window) =>
          { statics := { statics with window, highest := packet.seqNum }, buffering,
            next := stateAfter packet }
    else
      { statics := sendRR (sendSREJ statics statics.expected), buffering,
        next := stateAfter packet }
  else
    -- a slot that is already valid makes the packet a duplicate
    { statics := sendRR (sendSREJ statics statics.expected), buffering,
      next := stateAfter packet }

def handleData (statics : Statics) (packet : Packet) (dataSize : Nat)
    (buffering : Bool) : Handled :=
  if buffering then processDataBuffering statics packet dataSize buffering
  else processData statics packet dataSize buffering

/-! ### Receiving -/

/-- `receiveAndValidateData`: whether the packet is valid, the packet memory with
the datagram copied over it, and the length received. -/
def receiveAndValidateData (packet : Packet) (datagram : Datagram) (expectedSize : Nat) :
    Bool × Packet × Nat :=
  let buffer := datagram.take expectedSize
  let received := packet.memcpy 0 buffer
  (isValidPacket received buffer.length, received, buffer.length)

def waitForFileNameAck (process : Process) (poll : Option Datagram) : Process :=
  match poll with
  | none => { process with state := .sendFilenameTimeout }
  | some datagram =>
      let (valid, packet, _) :=
        receiveAndValidateData process.currPacket datagram filenameRespPacketSsize
      let received := { process with currPacket := packet }
      if !valid then { received with state := .sendFilenameTimeout }
      else if packet.flag ≠ FlagType.filenameResp.code then
        { received with state := .sendFilenameTimeout }
      else if packet.payload.getD 0 0 ≠ 1 then { received with state := .kill }
      else
        { received with
          statics := { process.statics with highest := wrap32 (process.statics.highest + 1) }
          state := .receiveFirstData }

def recvData (process : Process) (poll : Option Datagram) (firstPacket buffering : Bool) :
    Process :=
  match poll with
  | none =>
      { process with
        state := if firstPacket then .sendFilenameTimeout else .receiveDataTimeout }
  | some datagram =>
      let (valid, packet, dataSize) := receiveAndValidateData process.currPacket datagram
        (dataPacketSsize process.statics.bufferSize)
      { process with
        currPacket := packet
        dataSize := dataSize
        state := if !valid then .badData else if buffering then .bufferData else .processData }

/-! ### The teardown loop and the state machine -/

/-- One pass of the `do` loop of `lastData`.  Returning from it lets `stateMachine`
go to `STATE_KILL`. -/
def lastData (process : Process) (poll : Option Datagram) : Process :=
  if process.statics.wroteLastData then
    { process with statics := sendEofAck process.statics, state := .kill }
  else
    match poll with
    | none =>
        { process with
          frame := { process.frame with timeout := process.frame.timeout + 1 }
          state := if process.frame.timeout + 1 < timeoutMax then .lastDataLoop else .kill }
    | some datagram =>
        let (valid, packet, dataSize) := receiveAndValidateData process.frame.packet datagram
          (dataPacketSsize process.statics.bufferSize)
        let frame := { process.frame with packet, dataSize, timeout := 0 }
        if !valid then
          { process with statics := sendSREJ process.statics packet.seqNum, frame }
        else
          let handled := handleData process.statics packet dataSize frame.buffering
          { process with
            statics := handled.statics
            frame := { frame with buffering := handled.buffering }
            state := if handled.next = .exit then .exit else .lastDataLoop }

/-- The head of the `while` loop: give up after `TIMEOUT_MAX` timeouts, and clear the
packet before receiving data. -/
def enterIteration (process : Process) : Process :=
  let checked :=
    if process.timeout ≥ timeoutMax then { process with state := .kill } else process
  if checked.state = .receiveData then { checked with currPacket := Packet.zero } else checked

def afterHandler (process : Process) (handled : Handled) : Process :=
  { process with
    statics := handled.statics
    buffering := handled.buffering
    state := handled.next }

def dispatch (process : Process) (input : Input) : Process :=
  match process.state with
  | .sendFilename =>
      { process with
        statics := sendFileName { process.statics with seqNum := 0 }
        state := .waitForFilenameAck }
  | .sendFilenameTimeout =>
      { process with timeout := process.timeout + 1, state := .sendFilename }
  | .waitForFilenameAck => waitForFileNameAck process input.poll
  | .receiveFirstData =>
      recvData
        { process with
          statics := { process.statics with seqNum := wrap32 (process.statics.seqNum + 1) } }
        input.poll true false
  | .receiveData => recvData process input.poll false process.buffering
  | .receiveDataTimeout =>
      { process with timeout := process.timeout + 1, state := .receiveData }
  | .badData => { process with state := .receiveData }
  | .processData =>
      afterHandler process
        (processData process.statics process.currPacket process.dataSize process.buffering)
  | .bufferData =>
      afterHandler process
        (processDataBuffering process.statics process.currPacket process.dataSize
          process.buffering)
  | .lastData =>
      { process with
        frame := { packet := input.stack, timeout := 0, dataSize := 0,
                   buffering := process.buffering }
        state := .lastDataLoop }
  | .lastDataLoop | .kill | .exit => process

def stateMachine (process : Process) (input : Input) : Process :=
  match process.state with
  | .lastDataLoop => lastData process input.poll
  | .exit => process
  | _ => dispatch (enterIteration process) input

def polls (process : Process) : Bool :=
  match process.state with
  | .waitForFilenameAck | .receiveFirstData | .receiveData => process.timeout < timeoutMax
  | .lastDataLoop => !process.statics.wroteLastData
  | _ => false

end CPE464.Project3.Rcopy
