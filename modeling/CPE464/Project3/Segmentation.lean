/-
Cutting the file into packets and putting it together again.

The server reads until a read comes back short, so a file whose length is a multiple of the
buffer size ends with an empty packet.  What rcopy writes for each packet in turn is the file.
-/

import CPE464.Project3.Rcopy
import CPE464.Project3.ServerReads

namespace CPE464.Project3

open General

/-- What rcopy writes to disk for a datagram that is the expected one. -/
def Rcopy.writtenFor (bufferSize : Nat) (datagram : Datagram) : List UInt8 :=
  let (_, packet, dataSize) :=
    receiveAndValidateData Packet.zero datagram (dataPacketSsize bufferSize)
  packet.payload.take (writeSize dataSize)

theorem Rcopy.writtenFor_dataDatagram {bufferSize : Nat} (bound : bufferSize ≤ payloadMax)
    (seqNum : Nat) (flag : FlagType) {data : List UInt8} (fits : data.length ≤ bufferSize) :
    writtenFor bufferSize (dataDatagram seqNum flag data) = data := by
  have length := dataDatagram_length seqNum flag data
  have whole : (dataDatagram seqNum flag data).take (dataPacketSsize bufferSize) =
      dataDatagram seqNum flag data := by
    apply List.take_of_length_le
    rw [length]
    exact Nat.add_le_add_left fits _
  have small : (dataDatagram seqNum flag data).length ≤ packetMaxSsize := by
    rw [length]
    simp only [dataPacketSsize, packetHeaderSsize, packetMaxSsize, payloadMax] at *
    omega
  have copied := Packet.zero.memcpy_take small
  have size : writeSize (dataDatagram seqNum flag data).length = data.length := by
    rw [length]
    exact writeSize_eq _ (by rw [payloadMax] at bound; omega)
  simp only [writtenFor, receiveAndValidateData, whole, size]
  calc (Packet.zero.memcpy 0 (dataDatagram seqNum flag data)).payload.take data.length
      = payloadOf ((Packet.zero.memcpy 0 (dataDatagram seqNum flag data)).bytes.take
          (dataDatagram seqNum flag data).length) := by
        rw [payloadOf, List.drop_take, length, dataPacketSsize, Nat.add_sub_cancel_left]
        rfl
    _ = data := by rw [copied, dataDatagram_payload]

namespace Server

/-- `readFromDiskAndSend` called again and again until it sets `atEof`, at most `calls`
times. -/
def sendFile : Nat → Child → Child
  | 0, child => child
  | calls + 1, child => if child.atEof then child else sendFile calls (readFromDiskAndSend child)

def segment (file : List UInt8) (bufferSize index : Nat) : Datagram :=
  dataDatagram (wrap32 (seqNumStart + index))
    (if index = file.length / bufferSize then .eof else .data) (fileChunk file bufferSize index)

structure Sent (file : List UInt8) (bufferSize count : Nat) (child : Child) : Prop where
  bufferSize_eq : child.bufferSize = bufferSize
  file_eq : child.file = file.drop (count * bufferSize)
  seqNum_eq : child.seqNum = wrap32 (seqNumStart + count)
  sent_eq : child.sent = (List.range count).map (segment file bufferSize)
  atEof_iff : child.atEof = true ↔ count = file.length / bufferSize + 1

section Sending

variable {file : List UInt8} {bufferSize count : Nat} {child : Child}

theorem start_sent (windowSize bufferSize : Nat) (file : List UInt8) :
    Sent file bufferSize 0 (start windowSize bufferSize file) where
  bufferSize_eq := rfl
  file_eq := by rw [Nat.zero_mul, List.drop_zero]; rfl
  seqNum_eq := rfl
  sent_eq := rfl
  atEof_iff := iff_of_false Bool.false_ne_true (Nat.succ_ne_zero _).symm

theorem Sent.read (sent : Sent file bufferSize count child) (positive : 0 < bufferSize)
    (bound : bufferSize ≤ payloadMax) (more : count ≤ file.length / bufferSize) :
    Sent file bufferSize (count + 1) (readFromDiskAndSend child) := by
  have notEof : child.atEof = false := by
    rw [← Bool.not_eq_true, sent.atEof_iff]
    omega
  have data : nextData child = fileChunk file bufferSize count := by
    rw [nextData, sent.file_eq, sent.bufferSize_eq, fileChunk]
  have last : meetsEof child = decide (count = file.length / bufferSize) := by
    rw [meetsEof, notEof, Bool.false_or, data, sent.bufferSize_eq]
    exact decide_eq_decide.mpr (fileChunk_length_lt_iff file positive more)
  have datagram : nextDatagram child = segment file bufferSize count := by
    rw [nextDatagram, data, last, sent.seqNum_eq, segment]
    simp only [decide_eq_true_eq]
  rw [readFromDiskAndSend_frame (sent.bufferSize_eq ▸ bound)]
  constructor
  · exact sent.bufferSize_eq
  · change child.file.drop child.bufferSize = _
    rw [sent.file_eq, sent.bufferSize_eq, List.drop_drop, Nat.succ_mul]
  · change wrap32 (child.seqNum + 1) = _
    rw [sent.seqNum_eq, wrap32, wrap32, wrap32, Nat.mod_add_mod, Nat.add_assoc]
  · change child.sent ++ [nextDatagram child] = _
    rw [sent.sent_eq, datagram, List.range_succ, List.map_append, List.map_singleton]
  · change meetsEof child = true ↔ _
    rw [last, decide_eq_true_iff, Nat.add_right_cancel_iff]

theorem Sent.sendFile (sent : Sent file bufferSize count child) (positive : 0 < bufferSize)
    (bound : bufferSize ≤ payloadMax) (atMost : count ≤ file.length / bufferSize + 1)
    {calls : Nat} (enough : file.length / bufferSize + 1 ≤ count + calls) :
    Sent file bufferSize (file.length / bufferSize + 1) (sendFile calls child) := by
  induction calls generalizing count child with
  | zero =>
      have whole : count = file.length / bufferSize + 1 := by omega
      rw [Server.sendFile]
      exact whole ▸ sent
  | succ calls ih =>
      rw [Server.sendFile]
      by_cases whole : count = file.length / bufferSize + 1
      · rw [if_pos (sent.atEof_iff.mpr whole)]
        exact whole ▸ sent
      · rw [if_neg (mt sent.atEof_iff.mp whole)]
        exact ih (sent.read positive bound (by omega)) (by omega) (by omega)

end Sending

theorem flatMap_writtenFor (file : List UInt8) {bufferSize : Nat} (positive : 0 < bufferSize)
    (bound : bufferSize ≤ payloadMax) :
    ((List.range (file.length / bufferSize + 1)).map (segment file bufferSize)).flatMap
      (Rcopy.writtenFor bufferSize) = file := by
  have written : ∀ index, Rcopy.writtenFor bufferSize (segment file bufferSize index) =
      fileChunk file bufferSize index := fun index =>
    Rcopy.writtenFor_dataDatagram bound _ _ (fileChunk_length_le file bufferSize index)
  rw [List.flatMap_map]
  simp only [written]
  rw [flatMap_fileChunk]
  exact List.take_of_length_le (Nat.le_of_lt (length_lt_of_chunks file positive))

/-- The packets of a file: numbered from `SEQ_NUM_START` as long as the numbers do not wrap
around, full but for the last one, which alone is flagged as the end of the file, and what rcopy
writes for them is the file. -/
theorem file_segmented_and_reassembled (windowSize bufferSize : Nat) (file : List UInt8)
    (bufferMin : payloadMin ≤ bufferSize) (bufferMax : bufferSize ≤ payloadMax) (calls : Nat)
    (enough : file.length / bufferSize + 1 ≤ calls) :
    let child := sendFile calls (start windowSize bufferSize file)
    child.atEof = true ∧
      (file.length / bufferSize + 1 < 2 ^ 32 → ∀ index (inside : index < child.sent.length),
        seqNumOf child.sent[index] = seqNumStart + index) ∧
      (∀ datagram ∈ child.sent.dropLast, flagOf datagram = FlagType.data.code ∧
        (payloadOf datagram).length = bufferSize) ∧
      (∃ datagram ∈ child.sent.getLast?, flagOf datagram = FlagType.eof.code ∧
        (payloadOf datagram).length < bufferSize) ∧
      child.sent.flatMap (Rcopy.writtenFor bufferSize) = file := by
  intro child
  have positive : 0 < bufferSize := bufferMin
  have sent : Sent file bufferSize (file.length / bufferSize + 1) child :=
    (start_sent windowSize bufferSize file).sendFile positive bufferMax (Nat.zero_le _)
      (by omega)
  refine ⟨sent.atEof_iff.mpr rfl, ?_, ?_, ?_, ?_⟩
  · intro short index inside
    simp only [sent.sent_eq, List.length_map, List.length_range] at inside
    simp only [sent.sent_eq, List.getElem_map, List.getElem_range, segment,
      dataDatagram_seqNum, seqNumStart, wrap32]
    omega
  · intro datagram member
    rw [sent.sent_eq, List.range_succ, List.map_append, List.map_singleton,
      List.dropLast_concat] at member
    obtain ⟨index, isIndex, rfl⟩ := List.mem_map.mp member
    have before : index < file.length / bufferSize := List.mem_range.mp isIndex
    have full := mt (fileChunk_length_lt_iff file positive (Nat.le_of_lt before)).mp
      (Nat.ne_of_lt before)
    have atMost := fileChunk_length_le file bufferSize index
    rw [segment, if_neg (Nat.ne_of_lt before), dataDatagram_flag, dataDatagram_payload]
    exact ⟨rfl, by omega⟩
  · refine ⟨segment file bufferSize (file.length / bufferSize), ?_, ?_⟩
    · rw [sent.sent_eq, List.range_succ, List.map_append, List.map_singleton]
      exact List.getLast?_concat
    · rw [segment, if_pos rfl, dataDatagram_flag, dataDatagram_payload]
      exact ⟨rfl, (fileChunk_length_lt_iff file positive (Nat.le_refl _)).mpr rfl⟩
  · rw [sent.sent_eq]
    exact flatMap_writtenFor file positive bufferMax

/-- Four bytes in twos: two full packets and an empty one. -/
theorem file_segmented_and_reassembled_multiple :
    (sendFile 3 (start 1 2 [65, 66, 67, 68])).sent.flatMap (Rcopy.writtenFor 2) =
      [65, 66, 67, 68] :=
  (file_segmented_and_reassembled 1 2 [65, 66, 67, 68] (by decide) (by decide) 3
    (by decide)).2.2.2.2

end Server

end CPE464.Project3
