/-
The datagrams that carry the packets of a file, under each of the flags they are sent and
resent with.
-/

import CPE464.Project3.PacketImage
import CPE464.Project3.Transfer

namespace CPE464.Project3

open General

/-! ### A packet of any payload -/

def dataDatagram (seqNum : Nat) (flag : FlagType) (data : List UInt8) : Datagram :=
  packetImage (htonl seqNum)
    (littleEndian16 (inCksum (packetImage (htonl seqNum) [0, 0] flag.code data))) flag.code data

section DataDatagram

variable (seqNum : Nat) (flag : FlagType) (data : List UInt8)

theorem dataDatagram_length :
    (dataDatagram seqNum flag data).length = dataPacketSsize data.length :=
  packetImage_length _ _ rfl (littleEndian16_length _)

theorem dataDatagram_flag : flagOf (dataDatagram seqNum flag data) = flag.code :=
  flagOf_packetImage _ _ rfl (littleEndian16_length _)

theorem dataDatagram_payload : payloadOf (dataDatagram seqNum flag data) = data :=
  payloadOf_packetImage _ _ rfl (littleEndian16_length _)

theorem dataDatagram_seqNum : seqNumOf (dataDatagram seqNum flag data) = wrap32 seqNum := by
  rw [dataDatagram, seqNumOf_packetImage _ _ rfl, ntohl_htonl]
  rfl

variable {data} (fits : data.length ≤ payloadMax)

include fits

theorem dataDatagram_verifies : inCksum (dataDatagram seqNum flag data) = 0 := by
  have image : (buildPacketHeader seqNum flag |>.memcpy packetHeaderSsize data).bytes =
      packetImage (htonl seqNum) [0, 0] flag.code
        (overwrite (List.replicate payloadMax 0) 0 data) := builder_image seqNum flag 0 data
  have payload : (overwrite (List.replicate payloadMax 0) 0 data).take data.length = data :=
    overwrite_zero_take _ _ (by rw [List.length_replicate]; exact fits)
  have sent := stamp_image image rfl data.length
  have accepted := stamp_verifies image rfl flag.code_ne_zero _ fits
  rw [payload] at sent
  rw [isValidPacket, sent, beq_iff_eq] at accepted
  exact accepted

theorem buildDataPacket_datagram :
    (buildDataPacket seqNum data).bytes.take (dataPacketSsize data.length) =
      dataDatagram seqNum .data data := by
  have sent := stamp_image (builder_image seqNum .data 0 data) rfl data.length
  rw [overwrite_zero_take _ _ (by rw [List.length_replicate]; exact fits)] at sent
  exact sent

omit fits in
theorem restamp_dataDatagram {packet : Packet} {dataSize : Nat} (resent : FlagType)
    (carried : packet.bytes.take dataSize = dataDatagram seqNum flag data)
    (sized : dataSize = dataPacketSsize data.length) :
    (restamp packet resent dataSize).bytes.take dataSize = dataDatagram seqNum resent data := by
  subst sized
  have size4 : (packet.bytes.take 4).length = 4 := by
    rw [List.length_take, packet.size_eq]
    rfl
  have number : packet.bytes.take 4 = htonl seqNum := by
    calc packet.bytes.take 4
        = (packet.bytes.take (dataPacketSsize data.length)).take 4 := by
          rw [List.take_take, Nat.min_eq_left]
          exact Nat.le_trans (by decide) (Nat.le_add_right packetHeaderSsize _)
      _ = htonl seqNum := by
          rw [carried, dataDatagram, packetImage, List.append_assoc]
          exact List.take_left' rfl
  have payload : packet.payload.take data.length = data := by
    have read := dataDatagram_payload seqNum flag data
    rw [← carried, payloadOf, List.drop_take, dataPacketSsize, Nat.add_sub_cancel_left] at read
    exact read
  have sent := stamp_image (reflag_image packet resent) size4 data.length
  rw [payload, number] at sent
  exact sent

end DataDatagram

/-! ### The packets of a file -/

namespace Transfer

def datagram (transfer : Transfer) (seqNum : Nat) (flag : FlagType) : Datagram :=
  packetImage (htonl seqNum)
    (littleEndian16 (inCksum (packetImage (htonl seqNum) [0, 0] flag.code
      (transfer.chunk seqNum))))
    flag.code (transfer.chunk seqNum)

variable (transfer : Transfer) (seqNum : Nat) (flag : FlagType)

theorem datagram_eq :
    transfer.datagram seqNum flag = dataDatagram seqNum flag (transfer.chunk seqNum) := rfl

theorem datagram_length : (transfer.datagram seqNum flag).length =
    dataPacketSsize (transfer.chunk seqNum).length :=
  dataDatagram_length seqNum flag (transfer.chunk seqNum)

theorem datagram_flag : flagOf (transfer.datagram seqNum flag) = flag.code :=
  dataDatagram_flag seqNum flag (transfer.chunk seqNum)

theorem datagram_payload :
    payloadOf (transfer.datagram seqNum flag) = transfer.chunk seqNum :=
  dataDatagram_payload seqNum flag (transfer.chunk seqNum)

theorem datagram_seqNum (small : seqNum < 2 ^ 32) :
    seqNumOf (transfer.datagram seqNum flag) = seqNum := by
  rw [datagram_eq, dataDatagram_seqNum, wrap32, Nat.mod_eq_of_lt small]

theorem datagram_verifies : inCksum (transfer.datagram seqNum flag) = 0 :=
  dataDatagram_verifies seqNum flag (transfer.chunk_length_le_payloadMax seqNum)

def Flagged (seqNum : Nat) (flag : FlagType) : Prop :=
  (flag = .eof ↔ seqNum = transfer.packetCount) ∧
    (flag = .eof ∨ flag = .data ∨ flag = .srejData ∨ flag = .timeoutData)

theorem datagram_isDataPacket {transfer : Transfer} {seqNum : Nat} {flag : FlagType}
    (first : 1 ≤ seqNum) (last : seqNum ≤ transfer.packetCount)
    (flagged : transfer.Flagged seqNum flag) :
    IsDataPacket transfer seqNum (transfer.datagram seqNum flag) := by
  have room := transfer.packetCount_add_lt
  refine ⟨first, last, ?_, transfer.datagram_seqNum seqNum flag (by omega),
    transfer.datagram_payload seqNum flag, ?_, ?_, transfer.datagram_verifies seqNum flag⟩
  · rw [datagram_length]
    exact Nat.le_add_right _ _
  · rw [datagram_flag, FlagType.code_injective.eq_iff]
    exact flagged.1
  · rw [datagram_flag]
    simp only [FlagType.code_injective.eq_iff]
    exact flagged.2

/-- The flag of a packet: the last one of the file keeps `FLAG_TYPE_EOF`. -/
def flagFor (transfer : Transfer) (seqNum : Nat) (usual : FlagType) : FlagType :=
  if seqNum = transfer.packetCount then .eof else usual

theorem flagFor_eof_iff {usual : FlagType} (notEof : usual ≠ .eof) :
    transfer.flagFor seqNum usual = .eof ↔ seqNum = transfer.packetCount := by
  unfold flagFor
  split
  · next last => exact iff_of_true rfl last
  · next notLast => exact iff_of_false notEof notLast

theorem flagged_flagFor {usual : FlagType}
    (allowed : usual = .data ∨ usual = .srejData ∨ usual = .timeoutData) :
    transfer.Flagged seqNum (transfer.flagFor seqNum usual) := by
  refine ⟨flagFor_eof_iff _ _ ?_, ?_⟩
  · rintro rfl
    simp at allowed
  · unfold flagFor
    split
    · exact .inl rfl
    · exact .inr allowed

/-! ### Building and re-stamping -/

section Build

variable {transfer seqNum} {packet : Packet} {resent : FlagType}

theorem restamp_datagram {dataSize : Nat}
    (carried : packet.bytes.take dataSize = transfer.datagram seqNum flag)
    (sized : dataSize = dataPacketSsize (transfer.chunk seqNum).length) :
    (restamp packet resent dataSize).bytes.take dataSize =
      transfer.datagram seqNum resent :=
  restamp_dataDatagram seqNum flag resent carried sized

end Build

end Transfer

def eightBytes (windowSize : Nat) (positive : 1 ≤ windowSize := by decide)
    (small : windowSize ≤ 100 := by decide) : Transfer where
  file := [65, 66, 67, 68, 69, 70, 71, 72]
  windowSize := windowSize
  bufferSize := 1
  windowSize_pos := positive
  bufferSize_min := by decide
  bufferSize_max := by decide
  short := by simp only [List.length_cons, List.length_nil]; omega

def oneByte : Transfer where
  file := [65]
  windowSize := 2
  bufferSize := 1
  windowSize_pos := by decide
  bufferSize_min := by decide
  bufferSize_max := by decide
  short := by decide

end CPE464.Project3
