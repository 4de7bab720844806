/-
What one transfer is about: the source file, cut into the chunks that the packets
1, 2, ... carry, and the ranges that `checkArgs` of rcopy.c enforces.

`delivered count` is the purpose of the protocol in one definition: what the
receiver must have written once it has everything up to packet `count`.
-/

import CPE464.Project3.Packet

namespace CPE464.Project3

open General

/-! ### Cutting a file -/

def fileChunk (file : List UInt8) (bufferSize index : Nat) : List UInt8 :=
  (file.drop (index * bufferSize)).take bufferSize

section Chunks

variable (file : List UInt8) (bufferSize : Nat)

theorem fileChunk_length (index : Nat) :
    (fileChunk file bufferSize index).length =
      min bufferSize (file.length - index * bufferSize) := by
  rw [fileChunk, List.length_take, List.length_drop]

theorem fileChunk_length_le (index : Nat) :
    (fileChunk file bufferSize index).length ≤ bufferSize := by
  rw [fileChunk_length]
  exact Nat.min_le_left _ _

theorem flatMap_fileChunk (count : Nat) :
    (List.range count).flatMap (fileChunk file bufferSize) = file.take (count * bufferSize) := by
  induction count with
  | zero => simp
  | succ count ih =>
      rw [List.range_succ, List.flatMap_append, ih, List.flatMap_singleton, fileChunk,
        Nat.succ_mul, List.take_add]

variable {bufferSize} (positive : 0 < bufferSize)

include positive

theorem length_lt_of_chunks :
    file.length < (file.length / bufferSize + 1) * bufferSize := by
  have remainder := Nat.mod_lt file.length positive
  have split := Nat.div_add_mod file.length bufferSize
  rw [Nat.add_mul, Nat.one_mul, Nat.mul_comm]
  omega

theorem fileChunk_length_lt_iff {index : Nat} (last : index ≤ file.length / bufferSize) :
    (fileChunk file bufferSize index).length < bufferSize ↔
      index = file.length / bufferSize := by
  have whole := length_lt_of_chunks file positive
  rw [fileChunk_length]
  constructor
  · intro isShort
    by_contra notLast
    have room : (index + 1) * bufferSize ≤ file.length :=
      Nat.le_trans (Nat.mul_le_mul_right _ (by omega)) (Nat.div_mul_le_self _ _)
    rw [Nat.succ_mul] at room
    omega
  · rintro rfl
    rw [Nat.succ_mul] at whole
    omega

end Chunks

/-- A file and the two sizes of a session, short of sequence-number wrap-around. -/
structure Transfer where
  file : List UInt8
  windowSize : Nat
  bufferSize : Nat
  windowSize_pos : 1 ≤ windowSize
  bufferSize_min : payloadMin ≤ bufferSize
  bufferSize_max : bufferSize ≤ payloadMax
  short : file.length / bufferSize + 1 + windowSize < 2 ^ 32

namespace Transfer

variable (transfer : Transfer)

/-- The number of the last packet: a file whose length is a multiple of the buffer
size ends with an empty packet. -/
def packetCount : Nat := transfer.file.length / transfer.bufferSize + 1

def chunk (seqNum : Nat) : List UInt8 :=
  (transfer.file.drop ((seqNum - 1) * transfer.bufferSize)).take transfer.bufferSize

def delivered (count : Nat) : List UInt8 :=
  (List.range count).flatMap (fun index => transfer.chunk (index + 1))

theorem bufferSize_pos : 0 < transfer.bufferSize := transfer.bufferSize_min

theorem packetCount_add_lt : transfer.packetCount + transfer.windowSize < 2 ^ 32 :=
  transfer.short

theorem file_length_lt : transfer.file.length < transfer.packetCount * transfer.bufferSize :=
  length_lt_of_chunks transfer.file transfer.bufferSize_pos

theorem chunk_eq (seqNum : Nat) :
    transfer.chunk seqNum = fileChunk transfer.file transfer.bufferSize (seqNum - 1) := rfl

theorem chunk_length_le (seqNum : Nat) :
    (transfer.chunk seqNum).length ≤ transfer.bufferSize :=
  fileChunk_length_le transfer.file transfer.bufferSize (seqNum - 1)

theorem chunk_length_le_payloadMax (seqNum : Nat) :
    (transfer.chunk seqNum).length ≤ payloadMax :=
  Nat.le_trans (transfer.chunk_length_le seqNum) transfer.bufferSize_max

theorem chunk_length_lt_iff {seqNum : Nat} (first : 1 ≤ seqNum)
    (last : seqNum ≤ transfer.packetCount) :
    (transfer.chunk seqNum).length < transfer.bufferSize ↔ seqNum = transfer.packetCount := by
  rw [packetCount] at last ⊢
  rw [chunk_eq, fileChunk_length_lt_iff transfer.file transfer.bufferSize_pos (by omega)]
  omega

theorem delivered_succ (count : Nat) :
    transfer.delivered (count + 1) = transfer.delivered count ++ transfer.chunk (count + 1) := by
  simp only [delivered, List.range_succ, List.flatMap_append, List.flatMap_cons,
    List.flatMap_nil, List.append_nil]

theorem delivered_eq_take (count : Nat) :
    transfer.delivered count = transfer.file.take (count * transfer.bufferSize) :=
  flatMap_fileChunk transfer.file transfer.bufferSize count

theorem delivered_prefix (count : Nat) : transfer.delivered count <+: transfer.file := by
  rw [delivered_eq_take]
  exact List.take_prefix _ _

theorem delivered_mono {count later : Nat} (ordered : count ≤ later) :
    transfer.delivered count <+: transfer.delivered later := by
  obtain ⟨more, rfl⟩ := Nat.exists_eq_add_of_le ordered
  rw [delivered_eq_take, delivered_eq_take, Nat.add_mul, List.take_add]
  exact List.prefix_append _ _

theorem delivered_packetCount : transfer.delivered transfer.packetCount = transfer.file := by
  rw [delivered_eq_take]
  exact List.take_of_length_le (Nat.le_of_lt transfer.file_length_lt)

end Transfer

/-! ### Data packets -/

/-- A datagram is the data packet `seqNum` of the transfer, under any of the flags it
is sent and resent with, and its checksum verifies. -/
structure IsDataPacket (transfer : Transfer) (seqNum : Nat) (datagram : Datagram) : Prop where
  first : 1 ≤ seqNum
  last : seqNum ≤ transfer.packetCount
  header : packetHeaderSsize ≤ datagram.length
  seqNum_eq : seqNumOf datagram = seqNum
  payload_eq : payloadOf datagram = transfer.chunk seqNum
  eof_iff : flagOf datagram = FlagType.eof.code ↔ seqNum = transfer.packetCount
  flag_data : flagOf datagram = FlagType.eof.code ∨ flagOf datagram = FlagType.data.code ∨
    flagOf datagram = FlagType.srejData.code ∨ flagOf datagram = FlagType.timeoutData.code
  verifies : inCksum datagram = 0

instance IsDataPacket.decidable (transfer : Transfer) (seqNum : Nat) (datagram : Datagram) :
    Decidable (IsDataPacket transfer seqNum datagram) :=
  decidable_of_iff
    (1 ≤ seqNum ∧ seqNum ≤ transfer.packetCount ∧ packetHeaderSsize ≤ datagram.length ∧
      seqNumOf datagram = seqNum ∧ payloadOf datagram = transfer.chunk seqNum ∧
      (flagOf datagram = FlagType.eof.code ↔ seqNum = transfer.packetCount) ∧
      (flagOf datagram = FlagType.eof.code ∨ flagOf datagram = FlagType.data.code ∨
        flagOf datagram = FlagType.srejData.code ∨
        flagOf datagram = FlagType.timeoutData.code) ∧
      inCksum datagram = 0)
    ⟨fun ⟨first, last, header, seqNum, payload, eof, flag, verifies⟩ =>
        ⟨first, last, header, seqNum, payload, eof, flag, verifies⟩,
      fun ⟨first, last, header, seqNum, payload, eof, flag, verifies⟩ =>
        ⟨first, last, header, seqNum, payload, eof, flag, verifies⟩⟩

end CPE464.Project3
