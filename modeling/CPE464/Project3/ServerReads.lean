/-
What `readFromDiskAndSend` builds, sends and stores, whatever the file and however many
packets have gone before: sequence numbers may have wrapped around.
-/

import CPE464.Project3.DataPackets
import CPE464.Project3.Server

namespace CPE464.Project3

open General

theorem seqNum_of_dataDatagram {packet : Packet} {seqNum dataSize : Nat} {flag : FlagType}
    {data : List UInt8} (header : packetHeaderSsize ≤ dataSize)
    (carried : packet.bytes.take dataSize = dataDatagram seqNum flag data) :
    packet.seqNum = wrap32 seqNum := by
  have enough : 4 ≤ dataSize := Nat.le_trans (by decide) header
  rw [Packet.seqNum, seqNumOf, ← ntohl_take _ _ enough, carried]
  exact dataDatagram_seqNum seqNum flag data

namespace Server

theorem buildFilePacket_dataDatagram (seqNum : Nat) {data : List UInt8} (atEof : Bool)
    (fits : data.length ≤ payloadMax) :
    (buildFilePacket seqNum data atEof).bytes.take (dataPacketSsize data.length) =
      dataDatagram seqNum (if atEof then .eof else .data) data := by
  have built := buildDataPacket_datagram seqNum fits
  cases atEof with
  | false => exact built
  | true => exact restamp_dataDatagram _ _ _ built rfl

def nextData (child : Child) : List UInt8 := child.file.take child.bufferSize

def meetsEof (child : Child) : Bool :=
  child.atEof || decide ((nextData child).length < child.bufferSize)

def nextPacket (child : Child) : Packet :=
  buildFilePacket child.seqNum (nextData child) (meetsEof child)

def nextDatagram (child : Child) : Datagram :=
  dataDatagram child.seqNum (if meetsEof child then .eof else .data) (nextData child)

section Reads

variable {child : Child}

theorem nextData_length_le (bound : child.bufferSize ≤ payloadMax) :
    (nextData child).length ≤ payloadMax :=
  Nat.le_trans (List.length_take_le _ _) bound

theorem nextPacket_take (bound : child.bufferSize ≤ payloadMax) :
    (nextPacket child).bytes.take (nextDatagram child).length = nextDatagram child := by
  rw [nextDatagram, dataDatagram_length]
  exact buildFilePacket_dataDatagram _ _ (nextData_length_le bound)

theorem nextPacket_seqNum (bound : child.bufferSize ≤ payloadMax) :
    (nextPacket child).seqNum = wrap32 child.seqNum :=
  seqNum_of_dataDatagram (Nat.le_add_right _ (nextData child).length)
    (buildFilePacket_dataDatagram _ _ (nextData_length_le bound))

theorem readFromDiskAndSend_frame (bound : child.bufferSize ≤ payloadMax) :
    readFromDiskAndSend child =
      { child with
        file := child.file.drop child.bufferSize
        seqNum := wrap32 (child.seqNum + 1)
        atEof := meetsEof child
        window := (addPacket child.window (nextPacket child) (nextDatagram child).length).2
        sent := child.sent ++ [nextDatagram child] } := by
  have sized : (nextDatagram child).length = dataPacketSsize (nextData child).length :=
    dataDatagram_length _ _ _
  have carried := nextPacket_take bound
  rw [sized] at carried ⊢
  rw [← carried]
  rfl

end Reads

end Server

end CPE464.Project3
