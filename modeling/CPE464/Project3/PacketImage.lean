/-
The bytes that the builders of packet.c and the in-line re-stamps produce, and the
checksum soundness of every one of them.

A packet image is four bytes of sequence number, two of checksum, the flag and the
payload.  Every builder makes an image with a cleared checksum field and then stamps
it, so one theorem about `stamp` serves them all.
-/

import Mathlib.Data.List.GetD
import CPE464.Project3.Packet

namespace CPE464.Project3

open General

/-! ### Images -/

def packetImage (seqNum cksum : List UInt8) (flag : UInt8) (payload : List UInt8) :
    List UInt8 :=
  seqNum ++ cksum ++ flag :: payload

section Fields

variable {seqNum cksum : List UInt8} (flag : UInt8) (payload : List UInt8)
  (seqNumSize : seqNum.length = 4) (cksumSize : cksum.length = 2)

include seqNumSize cksumSize

theorem packetImage_length :
    (packetImage seqNum cksum flag payload).length = packetHeaderSsize + payload.length := by
  simp only [packetImage, packetHeaderSsize, List.length_append, List.length_cons]
  omega

theorem packetImage_take (size : Nat) :
    (packetImage seqNum cksum flag payload).take (packetHeaderSsize + size) =
      packetImage seqNum cksum flag (payload.take size) := by
  have front : packetHeaderSsize + size = (seqNum ++ cksum).length + (size + 1) := by
    rw [List.length_append, seqNumSize, cksumSize, packetHeaderSsize]
    omega
  rw [packetImage, front, List.take_length_add_append, List.take_succ_cons, packetImage]

theorem flagOf_packetImage : flagOf (packetImage seqNum cksum flag payload) = flag := by
  have front : 6 = (seqNum ++ cksum).length + 0 := by
    rw [List.length_append, seqNumSize, cksumSize]
  rw [flagOf, packetImage, List.getD_append_right _ _ _ _ (by omega), front]
  simp only [Nat.add_zero, Nat.sub_self, List.getD_cons_zero]

theorem payloadOf_packetImage :
    payloadOf (packetImage seqNum cksum flag payload) = payload := by
  have front : packetHeaderSsize = (seqNum ++ cksum).length + 1 := by
    rw [List.length_append, seqNumSize, cksumSize, packetHeaderSsize]
  rw [payloadOf, packetImage, front, List.drop_length_add_append, List.drop_succ_cons,
    List.drop_zero]

omit cksumSize in
theorem seqNumOf_packetImage :
    seqNumOf (packetImage seqNum cksum flag payload) = ntohl seqNum := by
  rw [seqNumOf, ← ntohl_take _ 4 (Nat.le_refl 4), packetImage, List.append_assoc,
    ← seqNumSize, List.take_left]

end Fields

theorem Packet.bytes_eq_image (packet : Packet) :
    packet.bytes = packetImage (packet.bytes.take 4) ((packet.bytes.drop 4).take 2)
      packet.flag packet.payload := by
  have split : packet.bytes.drop 6 = packet.flag :: packet.payload := by
    have inside : 6 < packet.bytes.length := by
      rw [packet.size_eq]
      decide
    rw [List.drop_eq_getElem_cons inside, Packet.flag, flagOf,
      List.getD_eq_getElem _ _ inside, Packet.payload, payloadOf, packetHeaderSsize]
  calc packet.bytes
      = packet.bytes.take 4 ++ packet.bytes.drop 4 := (List.take_append_drop 4 _).symm
    _ = packet.bytes.take 4 ++ ((packet.bytes.drop 4).take 2 ++ packet.bytes.drop 6) := by
        have rest : packet.bytes.drop 6 = (packet.bytes.drop 4).drop 2 := by
          rw [List.drop_drop]
        rw [rest, List.take_append_drop 2]
    _ = _ := by rw [split, packetImage, List.append_assoc]

/-! ### Writing fields -/

section Writes

variable {packet : Packet} {seqNum cksum : List UInt8} {flag : UInt8} {payload : List UInt8}
  (image : packet.bytes = packetImage seqNum cksum flag payload)
  (seqNumSize : seqNum.length = 4) (cksumSize : cksum.length = 2)

include image seqNumSize cksumSize

theorem setCksum_image (newCksum : Nat) :
    (packet.setCksum newCksum).bytes =
      packetImage seqNum (littleEndian16 newCksum) flag payload := by
  rw [Packet.setCksum, Packet.memcpy_bytes, image, packetImage,
    overwrite_append _ _ _ _ _ seqNumSize.symm (by rw [cksumSize]; rfl), packetImage]

theorem setFlag_image (newFlag : FlagType) :
    (packet.setFlag newFlag).bytes = packetImage seqNum cksum newFlag.code payload := by
  have front : 6 = (seqNum ++ cksum).length := by
    rw [List.length_append, seqNumSize, cksumSize]
  have whole : seqNum ++ cksum ++ flag :: payload = seqNum ++ cksum ++ [flag] ++ payload := by
    rw [List.append_assoc (seqNum ++ cksum), List.singleton_append]
  rw [Packet.setFlag, Packet.memcpy_bytes, image, packetImage, whole,
    overwrite_append (seqNum ++ cksum) [flag] payload [newFlag.code] 6 front rfl, packetImage,
    List.append_assoc (seqNum ++ cksum), List.singleton_append]

theorem memcpy_image (offset : Nat) (data : List UInt8) :
    (packet.memcpy (packetHeaderSsize + offset) data).bytes =
      packetImage seqNum cksum flag (overwrite payload offset data) := by
  have whole : seqNum ++ cksum ++ flag :: payload = seqNum ++ cksum ++ [flag] ++ payload := by
    rw [List.append_assoc (seqNum ++ cksum), List.singleton_append]
  have front : packetHeaderSsize + offset = (seqNum ++ cksum ++ [flag]).length + offset := by
    rw [List.length_append, List.length_append, seqNumSize, cksumSize, List.length_singleton,
      packetHeaderSsize]
  rw [Packet.memcpy_bytes, image, packetImage, whole, overwrite_append_right _ _ _ _ _ front,
    packetImage, List.append_assoc (seqNum ++ cksum), List.singleton_append]

end Writes

theorem buildPacketHeader_image (seqNum : Nat) (flag : FlagType) :
    (buildPacketHeader seqNum flag).bytes =
      packetImage (htonl seqNum) [0, 0] flag.code (List.replicate payloadMax 0) := by
  have cleared : Packet.zero.bytes =
      [] ++ List.replicate 4 0 ++ (List.replicate 2 0 ++ 0 :: List.replicate payloadMax 0) := by
    rw [← List.replicate_succ, List.nil_append, List.replicate_append_replicate,
      List.replicate_append_replicate]
    rfl
  have numbered : (Packet.zero.setSeqNum seqNum).bytes =
      packetImage (htonl seqNum) [0, 0] 0 (List.replicate payloadMax 0) := by
    rw [Packet.setSeqNum, Packet.memcpy_bytes, cleared,
      overwrite_append [] (List.replicate 4 0) _ (htonl seqNum) 0 rfl rfl, packetImage,
      List.nil_append, List.append_assoc]
    rfl
  rw [buildPacketHeader, setFlag_image (setCksum_image numbered rfl rfl 0) rfl rfl]
  rfl

theorem fileNamePayload (windowSize bufferSize name : List UInt8)
    (fourBytes : windowSize.length = 4) (twoBytes : bufferSize.length = 2)
    (fits : 6 + name.length ≤ payloadMax) :
    (overwrite (overwrite (overwrite (List.replicate payloadMax 0) 4 bufferSize) 0 windowSize)
        6 name).take (6 + name.length) = windowSize ++ bufferSize ++ name := by
  obtain ⟨rest, split⟩ := Nat.exists_eq_add_of_le fits
  let zeros (count : Nat) : List UInt8 := List.replicate count 0
  have cleared : zeros payloadMax = zeros 4 ++ zeros 2 ++ (zeros name.length ++ zeros rest) := by
    simp only [zeros, List.replicate_append_replicate, split, Nat.add_assoc, Nat.reduceAdd]
  have front : (windowSize ++ bufferSize).length = 6 := by
    rw [List.length_append, fourBytes, twoBytes]
  have sized : overwrite (zeros payloadMax) 4 bufferSize =
      [] ++ zeros 4 ++ (bufferSize ++ (zeros name.length ++ zeros rest)) := by
    rw [cleared, overwrite_append (zeros 4) (zeros 2) _ bufferSize 4 rfl twoBytes,
      List.append_assoc, List.nil_append]
  have windowed : overwrite (overwrite (zeros payloadMax) 4 bufferSize) 0 windowSize =
      windowSize ++ bufferSize ++ zeros name.length ++ zeros rest := by
    rw [sized, overwrite_append [] (zeros 4) _ windowSize 0 rfl fourBytes]
    simp only [List.nil_append, List.append_assoc]
  rw [windowed, overwrite_append _ (zeros name.length) _ name 6 front.symm
    List.length_replicate.symm, ← front, ← List.length_append, List.take_left]

theorem filenamePacketSsize_eq (size : Nat) :
    filenamePacketSsize size = packetHeaderSsize + (6 + size) := by
  rw [filenamePacketSsize, Nat.add_assoc, Nat.add_assoc, ← Nat.add_assoc 4 2]

/-! ### Stamping -/

section Stamp

variable {packet : Packet} {seqNum : List UInt8} {flag : UInt8} {payload : List UInt8}
  (image : packet.bytes = packetImage seqNum [0, 0] flag payload)
  (seqNumSize : seqNum.length = 4)

include image seqNumSize

/-- What is sent after stamping: the same fields under a computed checksum. -/
theorem stamp_image (size : Nat) :
    ((packet.stamp (packetHeaderSsize + size)).bytes.take (packetHeaderSsize + size)) =
      packetImage seqNum
        (littleEndian16 (inCksum (packetImage seqNum [0, 0] flag (payload.take size))))
        flag (payload.take size) := by
  rw [Packet.stamp, setCksum_image image seqNumSize rfl,
    packetImage_take _ _ seqNumSize (littleEndian16_length _), image,
    packetImage_take _ _ seqNumSize rfl]

theorem stamp_verifies (nonzero : flag ≠ 0) (size : Nat) (inPacket : size ≤ payloadMax) :
    isValidPacket (packet.stamp (packetHeaderSsize + size)) (packetHeaderSsize + size) =
      true := by
  have sizes : (packetImage seqNum [0, 0] flag (payload.take size)).length =
      packetHeaderSsize + (payload.take size).length :=
    packetImage_length flag (payload.take size) seqNumSize rfl
  have bounded := wordSum_fits_int (packetImage seqNum [0, 0] flag (payload.take size)) (by
    rw [sizes, List.length_take]
    simp only [packetHeaderSsize, payloadMax] at *
    omega)
  have flagged : flag ∈ packetImage seqNum [0, 0] flag (payload.take size) := by
    simp [packetImage]
  have positive := wordSum_pos_of_mem flagged nonzero
  rw [isValidPacket, beq_iff_eq, stamp_image image seqNumSize, inCksum_eq_complementSum]
  exact complementSum_stamped seqNum (flag :: payload.take size) (by rw [seqNumSize])
    positive bounded

end Stamp

theorem reflag_image (packet : Packet) (flag : FlagType) :
    ((packet.setCksum 0).setFlag flag).bytes =
      packetImage (packet.bytes.take 4) [0, 0] flag.code packet.payload := by
  have size4 : (packet.bytes.take 4).length = 4 := by
    rw [List.length_take, packet.size_eq]
    rfl
  have size2 : ((packet.bytes.drop 4).take 2).length = 2 := by
    rw [List.length_take, List.length_drop, packet.size_eq]
    rfl
  exact setFlag_image (setCksum_image packet.bytes_eq_image size4 size2 0) size4
    (littleEndian16_length 0) flag

theorem builder_image (seqNum : Nat) (flag : FlagType) (offset : Nat) (data : List UInt8) :
    ((buildPacketHeader seqNum flag).memcpy (packetHeaderSsize + offset) data).bytes =
      packetImage (htonl seqNum) [0, 0] flag.code
        (overwrite (List.replicate payloadMax 0) offset data) :=
  memcpy_image (buildPacketHeader_image seqNum flag) rfl rfl offset data

theorem fileNamePacket_image (seqNum windowSize bufferSize : Nat) {name : List UInt8}
    (inPacket : name.length ≤ filenameMaxLen) :
    ∃ cksum, cksum.length = 2 ∧
      (buildFileNamePacket seqNum windowSize bufferSize name).bytes.take
          (filenamePacketSsize name.length) =
        packetImage (htonl seqNum) cksum FlagType.filename.code
          (htonl windowSize ++ (littleEndian16 bufferSize).reverse ++ name) := by
  have sized := builder_image seqNum .filename 4 (littleEndian16 bufferSize).reverse
  have windowed := memcpy_image sized rfl rfl 0 (htonl windowSize)
  have named := memcpy_image windowed rfl rfl 6 name
  have fits : 6 + name.length ≤ payloadMax := by
    simp only [filenameMaxLen, payloadMax] at *
    omega
  have sent := stamp_image named rfl (6 + name.length)
  rw [fileNamePayload _ _ _ (htonl_length windowSize) rfl fits] at sent
  rw [filenamePacketSsize_eq, buildFileNamePacket, filenamePacketSsize_eq]
  exact ⟨_, littleEndian16_length _, sent⟩

/-! ### Checksum soundness -/

/-- The packets the two programs send, each with the size it is sent with: the results
of the five builders, and what becomes of them by re-stamping. -/
inductive Built : Packet → Nat → Prop
  | rr (seqNum rrSeqNum : Nat) : Built (buildRrPacket seqNum rrSeqNum) rrPacketSsize
  | srej (seqNum srejSeqNum : Nat) : Built (buildSrejPacket seqNum srejSeqNum) srejPacketSsize
  | data (seqNum : Nat) (data : List UInt8) (inPacket : data.length ≤ payloadMax) :
      Built (buildDataPacket seqNum data) (dataPacketSsize data.length)
  | fileNameResp (seqNum : Nat) (response : Bool) :
      Built (buildFileNameRespPacket seqNum response) filenameRespPacketSsize
  | fileName (seqNum windowSize bufferSize : Nat) (name : List UInt8)
      (inPacket : name.length ≤ filenameMaxLen) :
      Built (buildFileNamePacket seqNum windowSize bufferSize name)
        (filenamePacketSsize name.length)
  | restamped (packet : Packet) (size : Nat) (flag : FlagType) (built : Built packet size)
      (resent : flag = .eof ∨ flag = .srejData ∨ flag = .timeoutData ∨ flag = .eofAck) :
      Built (restamp packet flag size) size

theorem Built.size_bounds {packet : Packet} {size : Nat} (built : Built packet size) :
    ∃ payloadSize, size = packetHeaderSsize + payloadSize ∧ payloadSize ≤ payloadMax := by
  induction built with
  | rr => exact ⟨4, rfl, by decide⟩
  | srej => exact ⟨4, rfl, by decide⟩
  | data seqNum data inPacket => exact ⟨data.length, rfl, inPacket⟩
  | fileNameResp => exact ⟨1, rfl, by decide⟩
  | fileName seqNum windowSize bufferSize name inPacket =>
      refine ⟨6 + name.length, ?_, ?_⟩
      · exact filenamePacketSsize_eq name.length
      · simp only [filenameMaxLen, payloadMax] at *
        omega
  | restamped packet size flag built resent ih => exact ih

theorem Built.verifies {packet : Packet} {size : Nat} (built : Built packet size) :
    isValidPacket packet size = true := by
  cases built with
  | rr seqNum rrSeqNum =>
      exact stamp_verifies (builder_image seqNum .rr 0 (htonl rrSeqNum)) rfl (by decide) 4
        (by decide)
  | srej seqNum srejSeqNum =>
      exact stamp_verifies (builder_image seqNum .srej 0 (htonl srejSeqNum)) rfl (by decide) 4
        (by decide)
  | data seqNum data inPacket =>
      exact stamp_verifies (builder_image seqNum .data 0 data) rfl (by decide) data.length
        inPacket
  | fileNameResp seqNum response =>
      exact stamp_verifies (builder_image seqNum .filenameResp 0 _) rfl (by decide) 1
        (by decide)
  | fileName seqNum windowSize bufferSize name inPacket =>
      obtain ⟨payloadSize, sizeEq, bound⟩ :=
        (Built.fileName seqNum windowSize bufferSize name inPacket).size_bounds
      have sized := builder_image seqNum .filename 4 (littleEndian16 bufferSize).reverse
      have windowed := memcpy_image sized rfl rfl 0 (htonl windowSize)
      have named := memcpy_image windowed rfl rfl 6 name
      rw [sizeEq, buildFileNamePacket, sizeEq]
      exact stamp_verifies named rfl (by decide) payloadSize bound
  | restamped packet size flag built resent =>
      obtain ⟨payloadSize, rfl, bound⟩ := built.size_bounds
      refine stamp_verifies (reflag_image packet flag) ?_ flag.code_ne_zero payloadSize bound
      rw [List.length_take, packet.size_eq]
      rfl

def Packet.setByte (packet : Packet) (index : Nat) (value : UInt8) : Packet :=
  packet.memcpy index [value]

/-- Each packet sent verifies at the size it is sent with, and no longer does once any
one of the bytes sent is replaced by another value. -/
theorem built_checksum_sound {packet : Packet} {size : Nat} (built : Built packet size) :
    isValidPacket packet size = true ∧
      ∀ index, index < size → ∀ value : UInt8, value ≠ packet.bytes.getD index 0 →
        isValidPacket (packet.setByte index value) size = false := by
  refine ⟨built.verifies, ?_⟩
  intro index inside value changed
  obtain ⟨payloadSize, sizeEq, bound⟩ := built.size_bounds
  have whole : size ≤ packet.bytes.length := by
    rw [packet.size_eq, sizeEq]
    simp only [packetHeaderSsize, packetMaxSsize, payloadMax] at *
    omega
  have sizeTaken : (packet.bytes.take size).length = size := by
    rw [List.length_take, Nat.min_eq_left whole]
  have replaced : (packet.setByte index value).bytes.take size =
      (packet.bytes.take size).set index value := by
    rw [Packet.setByte, Packet.memcpy_bytes, overwrite_singleton _ _ _ (by omega),
      List.take_set]
  have accepted := beq_iff_eq.mp built.verifies
  rw [inCksum_eq_complementSum] at accepted
  rw [isValidPacket, replaced, beq_eq_false_iff_ne, inCksum_eq_complementSum]
  refine complementSum_set_ne_zero _ ?_ accepted index (by omega) value ?_
  · rw [sizeTaken, sizeEq]
    simp only [packetHeaderSsize, payloadMax] at *
    omega
  · rw [List.getElem_take, ← List.getD_eq_getElem _ 0]
    exact changed

/-- The final empty packet of a file, whose odd size leaves a lone last byte. -/
theorem built_checksum_sound_empty_eof :
    isValidPacket (restamp (buildDataPacket 3 []) .eof 7) 7 = true ∧
      ∀ index, index < 7 → ∀ value : UInt8,
        value ≠ (restamp (buildDataPacket 3 []) .eof 7).bytes.getD index 0 →
          isValidPacket ((restamp (buildDataPacket 3 []) .eof 7).setByte index value) 7 =
            false :=
  built_checksum_sound
    (.restamped _ _ .eof (.data 3 [] (by decide)) (.inl rfl))

end CPE464.Project3
