/-
window.h and window.c: the ring of packets both programs keep.

The ring is a function from slot indices; only the indices below `windowSize`
are ever used, since every access is modulo `windowSize`.  A slot's packet is the
block of `WINDOW_ELEMENT_PACKET_SSIZE` bytes that `windowInit` allocates.
-/

import CPE464.General.RingSlots
import CPE464.Project3.Packet

namespace CPE464.Project3

open General

structure WindowElement where
  valid : Bool
  dataSize : Nat
  packet : List UInt8
  deriving DecidableEq

/-- `Window_t` with its `WindowState_t` fields in line. -/
structure Window where
  windowSize : Nat
  bufferSize : Nat
  lower : Nat
  current : Nat
  upper : Nat
  elements : Nat → WindowElement

/-- `WINDOW_ELEMENT_PACKET_SSIZE`: the header and one full buffer. -/
def windowElementPacketSsize (bufferSize : Nat) : Nat :=
  packetMaxSsize - payloadMax + bufferSize

def Window.slot (window : Window) (seqNum : Nat) : Nat := seqNum % window.windowSize

def windowInit (windowSize bufferSize : Nat) : Window where
  windowSize := windowSize
  bufferSize := bufferSize
  lower := seqNumStart
  current := seqNumStart
  upper := wrap32 (seqNumStart + windowSize)
  elements := fun _ =>
    { valid := false
      dataSize := 0
      packet := List.replicate (windowElementPacketSsize bufferSize) 0 }

def isWindowOpen (window : Window) : Bool := window.current != window.upper

def packetValidInWindow (window : Window) (seqNum : Nat) : Bool :=
  (window.elements (window.slot seqNum)).valid

def storedElement (window : Window) (packet : Packet) (dataSize : Nat) : WindowElement where
  valid := true
  dataSize := dataSize
  packet := packet.bytes.take (windowElementPacketSsize window.bufferSize)

theorem storedElement_length {window : Window} (packet : Packet) (dataSize : Nat)
    (fits : window.bufferSize ≤ payloadMax) :
    (storedElement window packet dataSize).packet.length =
      windowElementPacketSsize window.bufferSize := by
  rw [storedElement, List.length_take, packet.size_eq]
  simp only [windowElementPacketSsize, packetMaxSsize, payloadMax] at *
  omega

def replacePacket (window : Window) (packet : Packet) (dataSize : Nat) : Window :=
  { window with
    elements := setCell window.elements (window.slot packet.seqNum)
      (storedElement window packet dataSize) }

/-- The loop body of `addPacket` for a skipped number. -/
def clearElement (element : WindowElement) : WindowElement :=
  { element with valid := false, dataSize := 0 }

/-- The loop body of `removePacket`. -/
def invalidateElement (element : WindowElement) : WindowElement :=
  { element with valid := false }

def addPacket (window : Window) (packet : Packet) (dataSize : Nat) : Bool × Window :=
  if !isWindowOpen window then
    (false, window)
  else
    let seqNum := packet.seqNum
    let stored := replacePacket window packet dataSize
    if wrap32 (seqNum + 1) = wrap32 (window.current + 1) then
      (true, { stored with current := wrap32 (window.current + 1) })
    else if wrap32 (seqNum + 1) > wrap32 (window.current + 1) then
      (true,
        { stored with
          elements := sweep window.windowSize clearElement stored.elements
            window.current (seqNum - window.current)
          current := wrap32 (seqNum + 1) })
    else
      (true, stored)

theorem addPacket_frame (window : Window) (packet : Packet) (dataSize : Nat) :
    (addPacket window packet dataSize).2.lower = window.lower ∧
      (addPacket window packet dataSize).2.bufferSize = window.bufferSize := by
  unfold addPacket
  split
  · exact ⟨rfl, rfl⟩
  · dsimp only
    split
    · exact ⟨rfl, rfl⟩
    · split <;> exact ⟨rfl, rfl⟩

/-- The packet at `current` is appended, also when `current + 1` wraps around to 0. -/
theorem addPacket_current (window : Window) (packet : Packet) (dataSize : Nat)
    (isOpen : isWindowOpen window = true) (next : packet.seqNum = window.current) :
    addPacket window packet dataSize =
      (true, { replacePacket window packet dataSize with
        current := wrap32 (window.current + 1) }) := by
  simp only [addPacket, isOpen, next, Bool.not_true, Bool.false_eq_true, if_false, if_true]

/-- `getPacket`: the packet behind the pointer with the slot copied over it, and
the slot's size. -/
def getPacket (window : Window) (packet : Packet) (seqNum : Nat) : Packet × Nat :=
  let element := window.elements (window.slot seqNum)
  (packet.memcpy 0 element.packet, element.dataSize)

def getLowestPacket (window : Window) (packet : Packet) : Packet × Nat :=
  let element := window.elements (window.slot window.lower)
  (packet.memcpy 0 element.packet, element.dataSize)

theorem getLowestPacket_eq (window : Window) (packet : Packet) :
    getLowestPacket window packet = getPacket window packet window.lower := rfl

theorem getPacket_take (window : Window) (packet : Packet) (seqNum : Nat)
    (inPacket : (window.elements (window.slot seqNum)).packet.length ≤ packetMaxSsize)
    (inSlot : (window.elements (window.slot seqNum)).dataSize ≤
      (window.elements (window.slot seqNum)).packet.length) :
    (getPacket window packet seqNum).1.bytes.take (getPacket window packet seqNum).2 =
      (window.elements (window.slot seqNum)).packet.take
        (window.elements (window.slot seqNum)).dataSize := by
  calc (getPacket window packet seqNum).1.bytes.take (getPacket window packet seqNum).2
      = ((packet.memcpy 0 (window.elements (window.slot seqNum)).packet).bytes.take
          (window.elements (window.slot seqNum)).packet.length).take
            (window.elements (window.slot seqNum)).dataSize := by
        rw [List.take_take, Nat.min_eq_left inSlot]
        rfl
    _ = _ := by rw [packet.memcpy_take inPacket]

def removePacket (window : Window) (seqNum : Nat) : Window :=
  { window with
    elements := sweep window.windowSize invalidateElement window.elements
      window.lower (seqNum - window.lower)
    lower := seqNum
    upper := wrap32 (seqNum + window.windowSize) }

/-- The scan of `inorderValidPackets` from `number` on, at most `count` slots. -/
def inorderFrom (window : Window) : Nat → Nat → List Nat
  | 0, _ => []
  | count + 1, number =>
      let currElement := window.elements (window.slot number)
      if currElement.valid = false then []
      else seqNumOf currElement.packet :: inorderFrom window count (number + 1)

def inorderValidPackets (window : Window) : List Nat :=
  inorderFrom window (window.current - window.lower) window.lower

end CPE464.Project3
