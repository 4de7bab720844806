/-
The window as the server child uses it: packets are appended at `current`, and `lower`
follows the acknowledgements.

`SendWindow` holds as long as every RR acknowledges no less than the one before and no more
than has been sent.  The ring then holds the last `windowSize` packets that were sent,
acknowledged or not, each as it was first built.
-/

import CPE464.Project3.DataPackets
import CPE464.Project3.Window

namespace CPE464.Project3

open General

structure Stored (transfer : Transfer) (seqNum : Nat) (element : WindowElement) : Prop where
  dataSize_eq : element.dataSize = dataPacketSsize (transfer.chunk seqNum).length
  packet_eq : element.packet.take element.dataSize =
    transfer.datagram seqNum (transfer.flagFor seqNum .data)

def InRing (transfer : Transfer) (window : Window) (seqNum : Nat) : Prop :=
  1 ≤ seqNum ∧ seqNum < window.current ∧ window.current ≤ seqNum + transfer.windowSize

structure SendWindow (transfer : Transfer) (window : Window) : Prop where
  windowSize_eq : window.windowSize = transfer.windowSize
  bufferSize_eq : window.bufferSize = transfer.bufferSize
  lower_pos : 1 ≤ window.lower
  lower_le : window.lower ≤ window.current
  near : window.current ≤ window.lower + transfer.windowSize
  current_le : window.current ≤ transfer.packetCount + 1
  upper_eq : window.upper = wrap32 (window.lower + transfer.windowSize)
  block_length : ∀ index, (window.elements index).packet.length =
    windowElementPacketSsize transfer.bufferSize
  holds : ∀ seqNum, InRing transfer window seqNum →
    Stored transfer seqNum (window.elements (window.slot seqNum))
  unused : ∀ index, (∀ seqNum, InRing transfer window seqNum → window.slot seqNum ≠ index) →
    (window.elements index).dataSize = 0

def appended (window : Window) (packet : Packet) (dataSize : Nat) : Window :=
  { replacePacket window packet dataSize with current := window.current + 1 }

theorem addPacket_append (window : Window) (packet : Packet) (dataSize : Nat)
    (isOpen : isWindowOpen window = true) (next : packet.seqNum = window.current)
    (small : window.current + 1 < 2 ^ 32) :
    addPacket window packet dataSize = (true, appended window packet dataSize) := by
  have noWrap : wrap32 (window.current + 1) = window.current + 1 := Nat.mod_eq_of_lt small
  rw [addPacket_current _ _ _ isOpen next, noWrap, appended]

namespace SendWindow

variable {transfer : Transfer} {window : Window}

theorem initially (transfer : Transfer) :
    SendWindow transfer (windowInit transfer.windowSize transfer.bufferSize) where
  windowSize_eq := rfl
  bufferSize_eq := rfl
  lower_pos := Nat.le_refl 1
  lower_le := Nat.le_refl 1
  near := Nat.le_add_right 1 _
  current_le := Nat.le_add_left 1 _
  upper_eq := rfl
  block_length := fun _ => List.length_replicate
  holds := fun _ inRing => absurd inRing.1 (Nat.not_le.mpr inRing.2.1)
  unused := fun _ _ => rfl

theorem isWindowOpen_eq_false_iff (inv : SendWindow transfer window) :
    isWindowOpen window = false ↔ window.current = window.lower + transfer.windowSize := by
  have room := transfer.packetCount_add_lt
  have positive := transfer.windowSize_pos
  have lower := inv.lower_le
  have last := inv.current_le
  have first := inv.lower_pos
  rw [isWindowOpen, bne_eq_false_iff_eq, inv.upper_eq, wrap32]
  omega

theorem current_lt (inv : SendWindow transfer window) (isOpen : isWindowOpen window = true) :
    window.current < window.lower + transfer.windowSize := by
  have near := inv.near
  have notFull := mt inv.isWindowOpen_eq_false_iff.mpr (by simp [isOpen])
  omega

theorem slot_ne (inv : SendWindow transfer window) {low high : Nat} (before : low < high)
    (near : high < low + transfer.windowSize) : window.slot low ≠ window.slot high := by
  rw [Window.slot, Window.slot, inv.windowSize_eq]
  exact mod_ne_of_near before near

theorem getPacket_inRing (inv : SendWindow transfer window) {seqNum number : Nat}
    (inRing : InRing transfer window seqNum)
    (sameSlot : window.slot number = window.slot seqNum) (stack : Packet) :
    (getPacket window stack number).1.bytes.take (getPacket window stack number).2 =
        transfer.datagram seqNum (transfer.flagFor seqNum .data) ∧
      (getPacket window stack number).2 = dataPacketSsize (transfer.chunk seqNum).length := by
  have held := inv.holds seqNum inRing
  have block := inv.block_length (window.slot seqNum)
  have chunk := transfer.chunk_length_le seqNum
  have bound := transfer.bufferSize_max
  have sized : (getPacket window stack number).2 =
      dataPacketSsize (transfer.chunk seqNum).length :=
    (congrArg (fun slot => (window.elements slot).dataSize) sameSlot).trans held.dataSize_eq
  have read := getPacket_take window stack number
  rw [sameSlot, block, held.packet_eq] at read
  refine ⟨read ?_ ?_, sized⟩
  · simp only [windowElementPacketSsize, packetMaxSsize, payloadMax] at *
    omega
  · rw [held.dataSize_eq]
    simp only [dataPacketSsize, windowElementPacketSsize, packetHeaderSsize, packetMaxSsize,
      payloadMax] at *
    omega

section Append

variable {packet : Packet} {dataSize : Nat}

theorem stored_length (inv : SendWindow transfer window) (packet : Packet) (dataSize : Nat) :
    (storedElement window packet dataSize).packet.length =
      windowElementPacketSsize transfer.bufferSize := by
  rw [← inv.bufferSize_eq]
  exact storedElement_length packet dataSize (inv.bufferSize_eq ▸ transfer.bufferSize_max)

theorem appended_other (inv : SendWindow transfer window) (next : packet.seqNum = window.current)
    {seqNum : Nat} (before : seqNum < window.current)
    (near : window.current < seqNum + transfer.windowSize) :
    (appended window packet dataSize).elements (window.slot seqNum) =
      window.elements (window.slot seqNum) :=
  setCell_of_ne _ _ (next ▸ inv.slot_ne before near)

theorem appended_own (next : packet.seqNum = window.current) :
    (appended window packet dataSize).elements (window.slot window.current) =
      storedElement window packet dataSize := by
  rw [← next]
  exact setCell_same _ _ _

theorem appended_elsewhere (next : packet.seqNum = window.current) {index : Nat}
    (different : index ≠ window.slot window.current) :
    (appended window packet dataSize).elements index = window.elements index := by
  rw [← next] at different
  exact setCell_of_ne _ _ different

theorem stored_next (inv : SendWindow transfer window)
    (sized : dataSize = dataPacketSsize (transfer.chunk window.current).length)
    (carried : packet.bytes.take dataSize =
      transfer.datagram window.current (transfer.flagFor window.current .data)) :
    Stored transfer window.current (storedElement window packet dataSize) := by
  refine ⟨sized, ?_⟩
  have chunk := transfer.chunk_length_le window.current
  change (packet.bytes.take (windowElementPacketSsize window.bufferSize)).take dataSize = _
  rw [List.take_take, Nat.min_eq_left, carried]
  rw [sized, inv.bufferSize_eq]
  simp only [dataPacketSsize, windowElementPacketSsize, packetHeaderSsize, packetMaxSsize,
    payloadMax]
  omega

theorem append (inv : SendWindow transfer window) (isOpen : isWindowOpen window = true)
    (more : window.current ≤ transfer.packetCount) (next : packet.seqNum = window.current)
    (sized : dataSize = dataPacketSsize (transfer.chunk window.current).length)
    (carried : packet.bytes.take dataSize =
      transfer.datagram window.current (transfer.flagFor window.current .data)) :
    SendWindow transfer (appended window packet dataSize) := by
  have room := inv.current_lt isOpen
  have positive := transfer.windowSize_pos
  have lower := inv.lower_le
  refine ⟨inv.windowSize_eq, inv.bufferSize_eq, inv.lower_pos, Nat.le_succ_of_le lower, room,
    Nat.succ_le_succ more, inv.upper_eq, ?_, ?_, ?_⟩
  · intro index
    by_cases own : index = window.slot window.current
    · rw [own, appended_own next]
      exact inv.stored_length packet dataSize
    · rw [appended_elsewhere next own]
      exact inv.block_length index
  · rintro seqNum ⟨first, last, near⟩
    change seqNum < window.current + 1 at last
    change window.current + 1 ≤ _ at near
    by_cases isNext : seqNum = window.current
    · subst isNext
      exact appended_own next ▸ inv.stored_next sized carried
    · have kept : (appended window packet dataSize).elements (window.slot seqNum) =
          window.elements (window.slot seqNum) :=
        inv.appended_other next (by omega) (by omega)
      have held := inv.holds seqNum ⟨first, by omega, by omega⟩
      rw [← kept] at held
      exact held
  · intro index outside
    have notOwn : index ≠ window.slot window.current := fun own =>
      outside window.current ⟨Nat.le_trans inv.lower_pos lower, Nat.lt_succ_self _,
        by change window.current + 1 ≤ _; omega⟩ own.symm
    rw [appended_elsewhere next notOwn]
    apply inv.unused
    rintro seqNum ⟨first, last, near⟩ atIndex
    by_cases oldest : window.current = seqNum + transfer.windowSize
    · -- the packet that leaves the ring shared the slot of the new one
      apply notOwn
      rw [← atIndex, oldest, Window.slot, Window.slot, inv.windowSize_eq, Nat.add_mod_right]
    · refine outside seqNum ⟨first, Nat.lt_succ_of_lt last, ?_⟩ atIndex
      change window.current + 1 ≤ _
      omega

end Append

theorem removed_other (inv : SendWindow transfer window) {number seqNum : Nat}
    (above : number ≤ seqNum) (below : seqNum < window.current) :
    (removePacket window number).elements (window.slot seqNum) =
      window.elements (window.slot seqNum) := by
  have near := inv.near
  apply sweep_miss
  intro swept low high
  exact inv.slot_ne (by omega) (by omega)

theorem remove (inv : SendWindow transfer window) {number : Nat}
    (above : window.lower ≤ number) (below : number ≤ window.current) :
    SendWindow transfer (removePacket window number) := by
  have near := inv.near
  have bytes : ∀ index, ((removePacket window number).elements index).packet =
      (window.elements index).packet := fun index =>
    sweep_keeps WindowElement.packet _ invalidateElement (fun _ => rfl) _ _ _ _
  have sizes : ∀ index, ((removePacket window number).elements index).dataSize =
      (window.elements index).dataSize := fun index =>
    sweep_keeps WindowElement.dataSize _ invalidateElement (fun _ => rfl) _ _ _ _
  refine ⟨inv.windowSize_eq, inv.bufferSize_eq, Nat.le_trans inv.lower_pos above, below, ?_,
    inv.current_le, ?_, ?_, ?_, ?_⟩
  · change window.current ≤ number + transfer.windowSize
    omega
  · rw [removePacket, inv.windowSize_eq]
  · intro index
    rw [bytes]
    exact inv.block_length index
  · intro seqNum inRing
    have held := inv.holds seqNum inRing
    refine ⟨(sizes _).trans held.dataSize_eq, ?_⟩
    rw [bytes, sizes]
    exact held.packet_eq
  · intro index outside
    rw [sizes]
    exact inv.unused index outside

end SendWindow

end CPE464.Project3
