/-
packet.h and packet.c: the packet formats of the selective-reject transfer.

`Packet_t` is a packed struct, so it is modelled as the bytes it occupies and
its fields are read at their offsets: the sequence number at 0, the checksum at
4, the flag at 6 and the payload union at 7.  What a program sends is a prefix of
these bytes, and what it receives is copied over them, so a short datagram leaves
the tail of an earlier packet in place exactly as in the source.
-/

import CPE464.Checksum

namespace CPE464.Project3

open General

abbrev Datagram := List UInt8

/-! ### Constants -/

def timeoutMax : Nat := 10

def payloadMin : Nat := 1

def payloadMax : Nat := 1400

def filenameMaxLen : Nat := 100

def seqNumStart : Nat := 1

def packetHeaderSsize : Nat := 7

def packetMaxSsize : Nat := 1407

def filenameRespPacketSsize : Nat := packetHeaderSsize + 1

def rrPacketSsize : Nat := packetHeaderSsize + 4

def srejPacketSsize : Nat := packetHeaderSsize + 4

def dataPacketSsize (size : Nat) : Nat := packetHeaderSsize + size

def filenamePacketSsize (size : Nat) : Nat := packetHeaderSsize + 4 + 2 + size

/-- `SeqNum_t` arithmetic is on `uint32_t`. -/
def wrap32 (number : Nat) : Nat := number % 2 ^ 32

inductive FlagType where
  | rr
  | srej
  | filename
  | filenameResp
  | eof
  | data
  | srejData
  | timeoutData
  | eofAck
  deriving DecidableEq, Repr

def FlagType.code : FlagType → UInt8
  | .rr => 5
  | .srej => 6
  | .filename => 8
  | .filenameResp => 9
  | .eof => 10
  | .data => 16
  | .srejData => 17
  | .timeoutData => 18
  | .eofAck => 32

theorem FlagType.code_injective : Function.Injective FlagType.code := by
  intro left right same
  cases left <;> cases right <;> first | rfl | (revert same; decide)

theorem FlagType.code_ne_zero (flag : FlagType) : flag.code ≠ 0 := by
  cases flag <;> decide

/-! ### Fields -/

def seqNumOf (bytes : List UInt8) : Nat := ntohl bytes

def flagOf (bytes : List UInt8) : UInt8 := bytes.getD 6 0

def payloadOf (bytes : List UInt8) : List UInt8 := bytes.drop packetHeaderSsize

/-- `ntohl(payload.rr.seqNum)`, which is also `ntohl(payload.srej.seqNum)`. -/
def numberOf (bytes : List UInt8) : Nat := ntohl (payloadOf bytes)

theorem flagOf_take (bytes : List UInt8) {size : Nat} (enough : packetHeaderSsize ≤ size) :
    flagOf (bytes.take size) = flagOf bytes := by
  have inside : 6 < size := enough
  simp only [flagOf, List.getD_eq_getElem?_getD, List.getElem?_take_of_lt inside]

theorem numberOf_take (bytes : List UInt8) {size : Nat} (enough : rrPacketSsize ≤ size) :
    numberOf (bytes.take size) = numberOf bytes := by
  rw [numberOf, numberOf, payloadOf, payloadOf, List.drop_take]
  exact ntohl_take _ _ (Nat.le_sub_of_add_le' enough)

structure Packet where
  bytes : List UInt8
  size_eq : bytes.length = packetMaxSsize
  deriving DecidableEq

def Packet.zero : Packet := ⟨List.replicate packetMaxSsize 0, List.length_replicate⟩

def Packet.memcpy (packet : Packet) (offset : Nat) (data : List UInt8) : Packet :=
  ⟨overwrite packet.bytes offset data, by rw [overwrite_length, packet.size_eq]⟩

@[simp] theorem Packet.memcpy_bytes (packet : Packet) (offset : Nat) (data : List UInt8) :
    (packet.memcpy offset data).bytes = overwrite packet.bytes offset data := rfl

theorem Packet.memcpy_take (packet : Packet) {data : List UInt8}
    (fits : data.length ≤ packetMaxSsize) :
    (packet.memcpy 0 data).bytes.take data.length = data := by
  rw [Packet.memcpy_bytes]
  exact overwrite_zero_take _ _ (packet.size_eq ▸ fits)

theorem Packet.memcpy_zero_bytes (packet : Packet) {data : List UInt8}
    (fits : data.length ≤ packetMaxSsize) :
    (packet.memcpy 0 data).bytes = data ++ packet.bytes.drop data.length := by
  rw [Packet.memcpy_bytes, overwrite, List.take_zero, List.nil_append, Nat.zero_add]
  apply List.take_of_length_le
  rw [List.length_append, List.length_drop, packet.size_eq]
  omega

def Packet.seqNum (packet : Packet) : Nat := seqNumOf packet.bytes

def Packet.flag (packet : Packet) : UInt8 := flagOf packet.bytes

def Packet.payload (packet : Packet) : List UInt8 := payloadOf packet.bytes

def Packet.number (packet : Packet) : Nat := numberOf packet.bytes

def Packet.setSeqNum (packet : Packet) (seqNum : Nat) : Packet :=
  packet.memcpy 0 (htonl seqNum)

/-- `header.cksum = cksum`, stored as the machine stores a `uint16_t`. -/
def Packet.setCksum (packet : Packet) (cksum : Nat) : Packet :=
  packet.memcpy 4 (littleEndian16 cksum)

def Packet.setFlag (packet : Packet) (flag : FlagType) : Packet :=
  packet.memcpy 6 [flag.code]

def Packet.stamp (packet : Packet) (size : Nat) : Packet :=
  packet.setCksum (inCksum (packet.bytes.take size))

/-! ### packet.c -/

/-- `buildPacketHeader`.  It clears the whole packet first, so the old contents
behind the pointer play no part. -/
def buildPacketHeader (seqNum : Nat) (flag : FlagType) : Packet :=
  ((Packet.zero.setSeqNum seqNum).setCksum 0).setFlag flag

def buildRrPacket (seqNum rrSeqNum : Nat) : Packet :=
  ((buildPacketHeader seqNum .rr).memcpy packetHeaderSsize (htonl rrSeqNum)).stamp rrPacketSsize

def buildSrejPacket (seqNum srejSeqNum : Nat) : Packet :=
  ((buildPacketHeader seqNum .srej).memcpy packetHeaderSsize
    (htonl srejSeqNum)).stamp srejPacketSsize

def buildDataPacket (seqNum : Nat) (data : List UInt8) : Packet :=
  ((buildPacketHeader seqNum .data).memcpy packetHeaderSsize
    data).stamp (dataPacketSsize data.length)

def buildFileNameRespPacket (seqNum : Nat) (response : Bool) : Packet :=
  ((buildPacketHeader seqNum .filenameResp).memcpy packetHeaderSsize
    [if response then 1 else 0]).stamp filenameRespPacketSsize

/-- `htons(bufferSize)` puts the high byte first. -/
def buildFileNamePacket (seqNum windowSize bufferSize : Nat) (fileName : List UInt8) : Packet :=
  ((((buildPacketHeader seqNum .filename).memcpy (packetHeaderSsize + 4)
    (littleEndian16 bufferSize).reverse).memcpy packetHeaderSsize (htonl windowSize)).memcpy
      (packetHeaderSsize + 6) fileName).stamp (filenamePacketSsize fileName.length)

def isValidPacket (packet : Packet) (packetSize : Nat) : Bool :=
  inCksum (packet.bytes.take packetSize) == 0

theorem isValidPacket_memcpy (packet : Packet) {data : List UInt8}
    (fits : data.length ≤ packetMaxSsize) :
    isValidPacket (packet.memcpy 0 data) data.length = (inCksum data == 0) := by
  rw [isValidPacket, packet.memcpy_take fits]

/-- The re-stamp that both programs write out in line: clear the checksum, change
the flag, recompute the checksum over the packet's size. -/
def restamp (packet : Packet) (flag : FlagType) (size : Nat) : Packet :=
  ((packet.setCksum 0).setFlag flag).stamp size

end CPE464.Project3
