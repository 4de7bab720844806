/-
server.c: the process on the main socket.

One pass of `stateMachine` in the parent either receives a datagram in `waitFileName`
or acts on it in `processFileName`, which forks; the child goes on with
`sendAndReceiveData`, which Server.lean models.  `currPacket` is static, so what an
earlier datagram left in it is there until it is cleared.  The file system is a
function from names to contents, and `fork` and `socket` do not fail.
-/

import CPE464.Project3.PacketImage
import CPE464.Project3.Server

namespace CPE464.Project3

open General

/-! ### The filename packet -/

def filenameMaxSsize : Nat := filenamePacketSsize filenameMaxLen

def Packet.windowSize (packet : Packet) : Nat := ntohl packet.payload

def Packet.bufferSize (packet : Packet) : Nat := ntohs (packet.payload.drop 4)

/-- The string at `payload.fileName.fileName`: it ends before the first zero byte, which
may lie behind the field. -/
def Packet.fileName (packet : Packet) : List UInt8 :=
  (packet.payload.drop 6).takeWhile (· ≠ 0)

namespace MainServer

inductive State where
  | waitFilename
  | processFilename
  | sendReceiveData
  | lastData
  | kill
  deriving DecidableEq, Repr

/-- The fields of `ClientSettings_t` that do not name sockets. -/
structure ClientSettings where
  windowSize : Nat
  bufferSize : Nat
  file : Option (List UInt8)

/-- A process of server.c: the statics of `stateMachine`, `seqNum` and what was sent. -/
structure Main where
  state : State
  client : ClientSettings
  currPacket : Packet
  seqNum : Nat
  sent : List Datagram

structure Fork where
  parent : Main
  child : Main

def waitFileName (main : Main) (datagram : Datagram) : Main :=
  let (valid, packet, _) :=
    Server.receiveAndValidateData main.currPacket datagram filenameMaxSsize false
  { main with
    currPacket := packet
    state := if valid then .processFilename else .waitFilename }

/-- `processFileName`.  The file is opened before the fork, so in both processes. -/
def processFileName (files : List UInt8 → Option (List UInt8)) (main : Main) : Fork :=
  let file := files main.currPacket.fileName
  let response := buildFileNameRespPacket main.seqNum file.isSome
  { parent := { main with
      client := { main.client with file := file }
      state := .waitFilename }
    child := { main with
      client :=
        { windowSize := main.currPacket.windowSize
          bufferSize := main.currPacket.bufferSize
          file := file }
      seqNum := wrap32 (main.seqNum + 1)
      sent := main.sent ++ [response.bytes.take filenameRespPacketSsize]
      state := if file.isSome then .sendReceiveData else .kill } }

def enterPass (main : Main) : Main :=
  match main.state with
  | .waitFilename =>
      { main with client := { main.client with file := none }, currPacket := Packet.zero }
  | .sendReceiveData => { main with currPacket := Packet.zero }
  | _ => main

/-- One pass of the loop in the parent, which is never in the last three states. -/
def stateMachine (files : List UInt8 → Option (List UInt8)) (main : Main)
    (datagram : Datagram) : Main :=
  let entered := enterPass main
  match entered.state with
  | .waitFilename => waitFileName entered datagram
  | .processFilename => (processFileName files entered).parent
  | .sendReceiveData | .lastData | .kill => entered

/-- The passes of the parent that one datagram on the main socket leads to. -/
def serve (files : List UInt8 → Option (List UInt8)) (main : Main) (datagram : Datagram) :
    Main :=
  let received := stateMachine files main datagram
  if received.state = .processFilename then stateMachine files received datagram else received

def forked (files : List UInt8 → Option (List UInt8)) (main : Main) (datagram : Datagram) :
    Option Main :=
  let received := stateMachine files main datagram
  if received.state = .processFilename then some (processFileName files received).child
  else none

def start : Main where
  state := .waitFilename
  client := { windowSize := 0, bufferSize := 0, file := none }
  currPacket := Packet.zero
  seqNum := 0
  sent := []

/-! ### One datagram -/

/-- Between two datagrams the parent waits for the next one, and it has numbered nothing. -/
structure Waiting (main : Main) : Prop where
  state_eq : main.state = .waitFilename
  seqNum_eq : main.seqNum = 0

section Pass

variable {files : List UInt8 → Option (List UInt8)} {main : Main}

theorem stateMachine_receives (waiting : Waiting main) (datagram : Datagram) :
    stateMachine files main datagram =
      { main with
        client := { main.client with file := none }
        currPacket := Packet.zero.memcpy 0 (datagram.take filenameMaxSsize)
        state := if inCksum (datagram.take filenameMaxSsize) == 0 then .processFilename
          else .waitFilename } := by
  have fits : (datagram.take filenameMaxSsize).length ≤ packetMaxSsize :=
    Nat.le_trans (List.length_take_le _ _) (by decide)
  have entered : enterPass main = { main with
      client := { main.client with file := none }, currPacket := Packet.zero } := by
    simp only [enterPass, waiting.state_eq]
  simp only [stateMachine, entered, waiting.state_eq, waitFileName,
    Server.receiveAndValidateData, isValidPacket_memcpy _ fits, Bool.false_and,
    Bool.not_false, Bool.true_and]

theorem stateMachine_forks (processing : main.state = .processFilename)
    (datagram : Datagram) :
    stateMachine files main datagram = (processFileName files main).parent := by
  have entered : enterPass main = main := by
    simp only [enterPass, processing]
  simp only [stateMachine, entered, processing]

theorem Waiting.served (waiting : Waiting main) (datagram : Datagram) :
    Waiting (serve files main datagram) := by
  have received : stateMachine files main datagram = _ := stateMachine_receives waiting datagram
  by_cases valid : (inCksum (datagram.take filenameMaxSsize) == 0) = true
  · have processing : (stateMachine files main datagram).state = .processFilename := by
      rw [received]
      exact if_pos valid
    rw [serve, if_pos processing, stateMachine_forks processing, received]
    exact ⟨rfl, waiting.seqNum_eq⟩
  · have rejected : (stateMachine files main datagram).state = .waitFilename := by
      rw [received]
      exact if_neg valid
    rw [serve, if_neg (by rw [rejected]; decide)]
    refine ⟨rejected, ?_⟩
    rw [received]
    exact waiting.seqNum_eq

end Pass

theorem waiting_after (files : List UInt8 → Option (List UInt8)) (history : List Datagram) :
    Waiting (history.foldl (serve files) start) := by
  suffices kept : ∀ main, Waiting main → Waiting (history.foldl (serve files) main) from
    kept start ⟨rfl, rfl⟩
  induction history with
  | nil => exact fun main waiting => waiting
  | cons datagram history ih => exact fun main waiting => ih _ (waiting.served datagram)

/-! ### The filename request -/

theorem fileNameRequest_fields {packet : Packet} {seqNum cksum name : List UInt8}
    {flag : UInt8} (windowSize bufferSize : Nat) (rest : Nat)
    (image : packet.bytes = packetImage seqNum cksum flag
      (htonl windowSize ++ (littleEndian16 bufferSize).reverse ++ name) ++
        List.replicate rest 0)
    (seqNumSize : seqNum.length = 4) (cksumSize : cksum.length = 2) (noNul : 0 ∉ name) :
    packet.windowSize = windowSize % 2 ^ 32 ∧ packet.bufferSize = bufferSize % 2 ^ 16 ∧
      packet.fileName = name := by
  have payload : packet.payload = htonl windowSize ++
      ((littleEndian16 bufferSize).reverse ++ (name ++ List.replicate rest 0)) := by
    rw [Packet.payload, image, packetImage, List.append_assoc, List.cons_append, ← packetImage,
      payloadOf_packetImage _ _ seqNumSize cksumSize]
    simp only [List.append_assoc]
  refine ⟨?_, ?_, ?_⟩
  · rw [Packet.windowSize, payload, ntohl_htonl_append]
  · rw [Packet.bufferSize, payload, ← htonl_length windowSize, List.drop_left,
      ntohs_swapped_append]
  · have nameStart : 6 = (htonl windowSize).length +
        (littleEndian16 bufferSize).reverse.length := rfl
    rw [Packet.fileName, payload, nameStart, ← List.drop_drop, List.drop_left, List.drop_left,
      List.takeWhile_append_of_pos, List.takeWhile_replicate]
    · simp
    · intro byte inName
      have nonzero : byte ≠ 0 := ne_of_mem_of_not_mem inName noNul
      simpa using nonzero

/-- A filename packet sent with `FILENAME_PACKET_SSIZE` bytes is accepted, the file of
exactly that name is opened, and the child has exactly the sizes of the client. -/
def RequestServed (files : List UInt8 → Option (List UInt8)) (main : Main)
    (seqNum windowSize bufferSize : Nat) (fileName : List UInt8) : Prop :=
  let datagram := (buildFileNamePacket seqNum windowSize bufferSize fileName).bytes.take
    (filenamePacketSsize fileName.length)
  let received := stateMachine files main datagram
  let child := (processFileName files received).child
  main.state = .waitFilename ∧ received.state = .processFilename ∧
    received.currPacket.fileName = fileName ∧ child.client.file = files fileName ∧
    child.client.windowSize = windowSize ∧ child.client.bufferSize = bufferSize

/-- Whatever the main socket has received before, a request of rcopy is served. -/
theorem filename_round_trip (files : List UInt8 → Option (List UInt8))
    (history : List Datagram) (seqNum windowSize bufferSize : Nat) (fileName : List UInt8)
    (windowMax : windowSize ≤ 2 ^ 30) (bufferMax : bufferSize ≤ payloadMax)
    (nameMax : fileName.length ≤ filenameMaxLen) (noNul : 0 ∉ fileName) :
    RequestServed files (history.foldl (serve files) start) seqNum windowSize bufferSize
      fileName := by
  unfold RequestServed
  intro datagram received child
  have waiting := waiting_after files history
  obtain ⟨cksum, cksumSize, image⟩ : ∃ cksum, cksum.length = 2 ∧
      datagram = packetImage (htonl seqNum) cksum FlagType.filename.code
        (htonl windowSize ++ (littleEndian16 bufferSize).reverse ++ fileName) :=
    fileNamePacket_image seqNum windowSize bufferSize nameMax
  have accepted : (inCksum datagram == 0) = true :=
    (Built.fileName seqNum windowSize bufferSize fileName nameMax).verifies
  have size : datagram.length = packetHeaderSsize + (6 + fileName.length) := by
    rw [image, packetImage_length _ _ (htonl_length seqNum) cksumSize]
    simp only [List.length_append, List.length_reverse, htonl_length, littleEndian16_length]
  have whole : datagram.take filenameMaxSsize = datagram := by
    apply List.take_of_length_le
    rw [size, filenameMaxSsize, filenamePacketSsize_eq]
    omega
  have fits : datagram.length ≤ packetMaxSsize := by
    rw [size]
    simp only [packetHeaderSsize, packetMaxSsize, filenameMaxLen] at *
    omega
  have isReceived : received = _ := stateMachine_receives waiting datagram
  rw [whole, if_pos accepted] at isReceived
  have bytes : received.currPacket.bytes = datagram ++
      List.replicate (packetMaxSsize - datagram.length) 0 := by
    rw [isReceived, Packet.memcpy_zero_bytes _ fits, Packet.zero, List.drop_replicate]
  rw [image] at bytes
  obtain ⟨windowRead, bufferRead, nameRead⟩ :=
    fileNameRequest_fields windowSize bufferSize _ bytes (htonl_length seqNum) cksumSize noNul
  refine ⟨waiting.state_eq, ?_, nameRead, congrArg files nameRead, windowRead.trans ?_,
    bufferRead.trans ?_⟩
  · rw [isReceived]
  · exact Nat.mod_eq_of_lt (Nat.lt_of_le_of_lt windowMax (by decide))
  · exact Nat.mod_eq_of_lt (Nat.lt_of_le_of_lt bufferMax (by decide))

/-- The name of the only file, which fills its field, after a datagram that is accepted and one
that is not. -/
theorem filename_round_trip_full_name :
    let files := fun name => if name = List.replicate 100 65 then some [66, 67] else none
    RequestServed files ([List.replicate 112 255, [1, 2]].foldl (serve files) start) 0 (2 ^ 30)
      1400 (List.replicate 100 65) :=
  filename_round_trip _ _ 0 (2 ^ 30) 1400 _ (by decide) (by decide) (by decide) (by decide)

end MainServer

end CPE464.Project3
