/-
The control messages rcopy sends: RR, SREJ and the acknowledgement of the end of the
file.  All three have the same layout, so the server can read any of them as a
sequence number under a flag.
-/

import CPE464.Project3.PacketImage
import CPE464.Project3.Rcopy

namespace CPE464.Project3

open General

/-- A verifying datagram of `RR_PACKET_SSIZE` bytes with this flag and number. -/
structure IsControl (flag : FlagType) (number : Nat) (datagram : Datagram) : Prop where
  length_eq : datagram.length = rrPacketSsize
  flag_eq : flagOf datagram = flag.code
  number_eq : numberOf datagram = number
  verifies : inCksum datagram = 0

def rrNumber? (datagram : Datagram) : Option Nat :=
  if flagOf datagram = FlagType.rr.code then some (numberOf datagram) else none

theorem IsControl.rrNumber?_rr {number : Nat} {datagram : Datagram}
    (control : IsControl .rr number datagram) : rrNumber? datagram = some number := by
  rw [rrNumber?, if_pos control.flag_eq, control.number_eq]

theorem IsControl.rrNumber?_none {flag : FlagType} {number : Nat} {datagram : Datagram}
    (control : IsControl flag number datagram) (notRr : flag ≠ .rr) :
    rrNumber? datagram = none := by
  rw [rrNumber?, control.flag_eq, if_neg]
  exact fun same => notRr (FlagType.code_injective same)

theorem isControl_of_image {packet : Packet} {seqNum payload : List UInt8} {flag : FlagType}
    {number : Nat} (image : packet.bytes = packetImage seqNum [0, 0] flag.code payload)
    (seqNumSize : seqNum.length = 4) (numbered : payload.take 4 = htonl number)
    (small : number < 2 ^ 32) :
    IsControl flag number ((packet.stamp rrPacketSsize).bytes.take rrPacketSsize) := by
  have sent := stamp_image image seqNumSize 4
  have accepted := stamp_verifies image seqNumSize flag.code_ne_zero 4 (by decide)
  rw [numbered] at sent
  constructor
  · rw [List.length_take, (packet.stamp rrPacketSsize).size_eq]
    rfl
  · rw [rrPacketSsize, sent,
      flagOf_packetImage _ _ seqNumSize (littleEndian16_length _)]
  · rw [rrPacketSsize, numberOf, sent,
      payloadOf_packetImage _ _ seqNumSize (littleEndian16_length _), ntohl_htonl,
      Nat.mod_eq_of_lt small]
  · exact beq_iff_eq.mp accepted

theorem numbered_payload (number : Nat) :
    (overwrite (List.replicate payloadMax 0) 0 (htonl number)).take 4 = htonl number :=
  overwrite_zero_take _ (htonl number) (by rw [List.length_replicate, htonl_length]; decide)

theorem buildRrPacket_isControl (seqNum : Nat) {number : Nat} (small : number < 2 ^ 32) :
    IsControl .rr number ((buildRrPacket seqNum number).bytes.take rrPacketSsize) :=
  isControl_of_image (builder_image seqNum .rr 0 (htonl number)) rfl
    (numbered_payload number) small

theorem buildSrejPacket_isControl (seqNum : Nat) {number : Nat} (small : number < 2 ^ 32) :
    IsControl .srej number ((buildSrejPacket seqNum number).bytes.take srejPacketSsize) :=
  isControl_of_image (builder_image seqNum .srej 0 (htonl number)) rfl
    (numbered_payload number) small

theorem restampedRr_isControl (seqNum : Nat) {number : Nat} (flag : FlagType)
    (small : number < 2 ^ 32) :
    IsControl flag number
      ((restamp (buildRrPacket seqNum number) flag rrPacketSsize).bytes.take rrPacketSsize) := by
  have built := builder_image seqNum .rr 0 (htonl number)
  have stamped := setCksum_image built rfl rfl
    (inCksum (((buildPacketHeader seqNum .rr).memcpy packetHeaderSsize
      (htonl number)).bytes.take rrPacketSsize))
  have flagged := setFlag_image (setCksum_image stamped rfl (littleEndian16_length _) 0) rfl
    (littleEndian16_length 0) flag
  exact isControl_of_image flagged rfl (numbered_payload number) small

theorem buildFileNamePacket_flag (seqNum windowSize bufferSize : Nat)
    (fileName : List UInt8) :
    flagOf ((buildFileNamePacket seqNum windowSize bufferSize fileName).bytes.take
      (filenamePacketSsize fileName.length)) = FlagType.filename.code := by
  have sized := builder_image seqNum .filename 4 (littleEndian16 bufferSize).reverse
  have windowed := memcpy_image sized rfl rfl 0 (htonl windowSize)
  have named := memcpy_image windowed rfl rfl 6 fileName
  have sent := stamp_image named rfl (6 + fileName.length)
  rw [filenamePacketSsize_eq, buildFileNamePacket, filenamePacketSsize_eq]
  exact (congrArg flagOf sent).trans
    (flagOf_packetImage _ _ rfl (littleEndian16_length _))

namespace Rcopy

inductive Reply (statics : Statics) (datagram : Datagram) : Prop
  | rr (control : IsControl .rr statics.expected datagram)
  | srej (control : IsControl .srej statics.expected datagram)

theorem Reply.rrNumber? {statics : Statics} {datagram : Datagram}
    (reply : Reply statics datagram) :
    CPE464.Project3.rrNumber? datagram = none ∨
      CPE464.Project3.rrNumber? datagram = some statics.expected := by
  cases reply with
  | rr control => exact .inr control.rrNumber?_rr
  | srej control => exact .inl (control.rrNumber?_none (by decide))

/-- `later` has sent only replies, naming its own `expected`, since `earlier`. -/
def RepliesSince (earlier later : Statics) : Prop :=
  ∃ replies, later.sent = earlier.sent ++ replies ∧
    ∀ datagram ∈ replies, Reply later datagram

end Rcopy

end CPE464.Project3
