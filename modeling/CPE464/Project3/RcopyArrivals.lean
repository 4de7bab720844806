/-
What the network may deliver to rcopy, and what it receives of it.

`Allowed` is the environment of a run: anything while the filename handshake waits for
its answer, and afterwards datagrams that `isValidPacket` rejects and data packets of the
file, the latter only as far as an `Arrival` rule permits.  `handling` names the packet a
step hands to a data handler.
-/

import CPE464.Project3.DataPackets
import CPE464.Project3.RcopyStep

namespace CPE464.Project3.Rcopy

open General

def start (windowSize bufferSize : Nat) (fromFileName : List UInt8) : Process where
  statics :=
    { fromFileName := fromFileName
      windowSize := windowSize
      bufferSize := bufferSize
      seqNum := 0
      expected := seqNumStart
      highest := seqNumStart
      wroteLastData := false
      window := windowInit windowSize bufferSize
      toFile := []
      sent := [] }
  state := .sendFilename
  timeout := 0
  buffering := false
  currPacket := Packet.zero
  dataSize := 0
  frame := { packet := Packet.zero, timeout := 0, dataSize := 0, buffering := false }

def activeBuffering (process : Process) : Bool :=
  match process.state with
  | .lastDataLoop => process.frame.buffering
  | _ => process.buffering

def Alive (process : Process) : Prop := process.state ≠ .exit ∧ process.state ≠ .kill

def handling (process : Process) (input : Input) : Option (Packet × Nat) :=
  match process.state with
  | .processData | .bufferData =>
      if process.timeout < timeoutMax then some (process.currPacket, process.dataSize) else none
  | .lastDataLoop =>
      if process.statics.wroteLastData then none
      else
        match input.poll with
        | none => none
        | some datagram =>
            let (valid, packet, dataSize) := receiveAndValidateData process.frame.packet datagram
              (dataPacketSsize process.statics.bufferSize)
            if valid then some (packet, dataSize) else none
  | _ => none

def Waits (process : Process) : Prop :=
  process.state = .processData ∨ process.state = .bufferData

section Handling

variable {process : Process} (input : Input)

theorem handling_waits (waits : Waits process) (under : process.timeout < timeoutMax) :
    handling process input = some (process.currPacket, process.dataSize) := by
  rcases waits with atState | atState <;> simp only [handling, atState, under, if_true]

variable (notLoop : process.state ≠ .lastDataLoop)

include notLoop

theorem handling_of_idle (notWaiting : ¬Waits process) : handling process input = none := by
  unfold handling
  split
  · next atState => exact absurd (.inl atState) notWaiting
  · next atState => exact absurd (.inr atState) notWaiting
  · next isLoop => exact absurd isLoop notLoop
  · rfl

theorem handling_expired (expired : timeoutMax ≤ process.timeout) :
    handling process input = none := by
  unfold handling
  split
  · exact if_neg (Nat.not_lt.mpr expired)
  · exact if_neg (Nat.not_lt.mpr expired)
  · next isLoop => exact absurd isLoop notLoop
  · rfl

end Handling

/-! ### Arrivals -/

/-- Which data packets may arrive in which state, by number. -/
abbrev Arrival := Statics → Bool → Nat → Prop

def anyArrival : Arrival := fun _ _ _ => True

def inWindowArrival (transfer : Transfer) : Arrival :=
  fun statics _ seqNum => seqNum < statics.expected + transfer.windowSize

def Rejected (bufferSize : Nat) (datagram : Datagram) : Prop :=
  (receiveAndValidateData Packet.zero datagram (dataPacketSsize bufferSize)).1 = false

def Arrives (transfer : Transfer) (arrival : Arrival) (process : Process)
    (datagram : Datagram) : Prop :=
  process.state = .waitForFilenameAck ∨ Rejected transfer.bufferSize datagram ∨
    IsDataPacket transfer (seqNumOf datagram) datagram ∧
      arrival process.statics (activeBuffering process) (seqNumOf datagram)

/-- What the environment may do in one step.  Every poll may time out. -/
def Allowed (transfer : Transfer) (arrival : Arrival) (process : Process) (input : Input) :
    Prop :=
  polls process = true → ∀ datagram ∈ input.poll, Arrives transfer arrival process datagram

section Decidable

instance (statics : Statics) (buffering : Bool) (seqNum : Nat) :
    Decidable (anyArrival statics buffering seqNum) :=
  isTrue trivial

instance (transfer : Transfer) (statics : Statics) (buffering : Bool) (seqNum : Nat) :
    Decidable (inWindowArrival transfer statics buffering seqNum) :=
  inferInstanceAs (Decidable (_ < _))

instance (bufferSize : Nat) (datagram : Datagram) : Decidable (Rejected bufferSize datagram) :=
  inferInstanceAs (Decidable (_ = _))

variable (transfer : Transfer) (arrival : Arrival)
  [∀ statics buffering seqNum, Decidable (arrival statics buffering seqNum)]

instance (process : Process) (datagram : Datagram) :
    Decidable (Arrives transfer arrival process datagram) :=
  inferInstanceAs (Decidable (_ ∨ _ ∨ _ ∧ _))

instance (process : Process) (input : Input) :
    Decidable (Allowed transfer arrival process input) :=
  inferInstanceAs (Decidable (_ → _))

end Decidable

def pass (poll : Option Datagram) : Input := ⟨poll, Packet.zero⟩

/-- The filename is sent and the server answers that it has the file. -/
def handshake : List Input :=
  [pass none, pass (some ((buildFileNameRespPacket 0 true).bytes.take filenameRespPacketSsize))]

def arriving (transfer : Transfer) (numbers : List Nat) : List Input :=
  numbers.flatMap (fun number =>
    [pass (some (transfer.datagram number
      (if number = transfer.packetCount then .eof else .data))), pass none])

/-! ### Receiving -/

theorem receive_valid_iff (packet : Packet) (datagram : Datagram) {size : Nat}
    (fits : size ≤ packetMaxSsize) :
    (receiveAndValidateData packet datagram size).1 = true ↔
      inCksum (datagram.take size) = 0 := by
  have length : (datagram.take size).length ≤ packetMaxSsize :=
    Nat.le_trans (List.length_take_le _ _) fits
  simp only [receiveAndValidateData, isValidPacket_memcpy _ length, beq_iff_eq]

theorem dataPacketSsize_le (transfer : Transfer) :
    dataPacketSsize transfer.bufferSize ≤ packetMaxSsize := by
  have bound := transfer.bufferSize_max
  simp only [dataPacketSsize, packetHeaderSsize, packetMaxSsize, payloadMax] at *
  omega

theorem Rejected.receive {transfer : Transfer} {datagram : Datagram}
    (rejected : Rejected transfer.bufferSize datagram) (packet : Packet) :
    (receiveAndValidateData packet datagram
      (dataPacketSsize transfer.bufferSize)).1 = false := by
  rw [Rejected, ← Bool.not_eq_true,
    receive_valid_iff _ _ (dataPacketSsize_le transfer)] at rejected
  rw [← Bool.not_eq_true, receive_valid_iff _ _ (dataPacketSsize_le transfer)]
  exact rejected

theorem isDataPacket_length {transfer : Transfer} {seqNum : Nat} {datagram : Datagram}
    (isPacket : IsDataPacket transfer seqNum datagram) :
    datagram.length = packetHeaderSsize + (transfer.chunk seqNum).length := by
  have header := isPacket.header
  rw [← isPacket.payload_eq, payloadOf, List.length_drop]
  omega

theorem receive_isDataPacket {transfer : Transfer} {seqNum : Nat} {datagram : Datagram}
    (isPacket : IsDataPacket transfer seqNum datagram) (packet : Packet) :
    ∃ received, receiveAndValidateData packet datagram (dataPacketSsize transfer.bufferSize) =
        (true, received, datagram.length) ∧
      Carries transfer seqNum received.bytes datagram.length := by
  have length := isDataPacket_length isPacket
  have chunk := transfer.chunk_length_le seqNum
  have fits := dataPacketSsize_le transfer
  have whole : datagram.take (dataPacketSsize transfer.bufferSize) = datagram :=
    List.take_of_length_le (by rw [length, dataPacketSsize]; omega)
  have copied : (packet.memcpy 0 datagram).bytes.take datagram.length = datagram :=
    packet.memcpy_take (by rw [length]; rw [dataPacketSsize] at fits; omega)
  refine ⟨packet.memcpy 0 datagram, ?_, copied.symm ▸ isPacket, length⟩
  have accepted : (receiveAndValidateData packet datagram
      (dataPacketSsize transfer.bufferSize)).1 = true := by
    rw [receive_valid_iff _ _ fits, whole]
    exact isPacket.verifies
  refine Prod.ext accepted ?_
  simp only [receiveAndValidateData, whole]

end CPE464.Project3.Rcopy
