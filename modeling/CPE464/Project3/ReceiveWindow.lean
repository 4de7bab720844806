/-
The window as rcopy uses it: holes are filled in any order, and `current` is only
moved by `addPacket`, so it may lie behind `lower` after an in-order run.

`ReceiveWindow` is what holds of this window whatever data packets arrive: a valid
slot holds a packet of the file whose number is at least `lower` and below `current`
and belongs to that slot.  `addPacket_open` says in one formula what `addPacket` does
short of wrap-around; the three operations keep the invariant.
-/

import CPE464.Project3.Window
import CPE464.Project3.Transfer

namespace CPE464.Project3

open General

/-! ### Packets in memory -/

/-- The first `size` bytes of `bytes` are the data packet `seqNum`. -/
structure Carries (transfer : Transfer) (seqNum : Nat) (bytes : List UInt8) (size : Nat) :
    Prop where
  isPacket : IsDataPacket transfer seqNum (bytes.take size)
  size_eq : size = packetHeaderSsize + (transfer.chunk seqNum).length

namespace Carries

variable {transfer : Transfer} {seqNum size : Nat} {bytes : List UInt8}

theorem size_le (carries : Carries transfer seqNum bytes size) :
    size ≤ windowElementPacketSsize transfer.bufferSize := by
  have bound := transfer.chunk_length_le seqNum
  rw [carries.size_eq]
  simp only [windowElementPacketSsize, packetHeaderSsize, packetMaxSsize, payloadMax]
  omega

theorem header_le (carries : Carries transfer seqNum bytes size) : packetHeaderSsize ≤ size := by
  rw [carries.size_eq]
  exact Nat.le_add_right _ _

theorem seqNumOf_eq (carries : Carries transfer seqNum bytes size) :
    seqNumOf bytes = seqNum := by
  have enough : 4 ≤ size := Nat.le_trans (by decide) carries.header_le
  have read := carries.isPacket.seqNum_eq
  rwa [seqNumOf, ntohl_take _ _ enough] at read

theorem flagOf_eq (carries : Carries transfer seqNum bytes size) :
    flagOf bytes = flagOf (bytes.take size) :=
  (flagOf_take bytes carries.header_le).symm

theorem payload_take (carries : Carries transfer seqNum bytes size) :
    (payloadOf bytes).take (transfer.chunk seqNum).length = transfer.chunk seqNum := by
  have read := carries.isPacket.payload_eq
  rw [payloadOf, List.drop_take, carries.size_eq, Nat.add_sub_cancel_left] at read
  exact read

theorem of_take_eq {copy : List UInt8} (carries : Carries transfer seqNum bytes size)
    (same : copy.take size = bytes.take size) : Carries transfer seqNum copy size :=
  ⟨same ▸ carries.isPacket, carries.size_eq⟩

theorem take (carries : Carries transfer seqNum bytes size) {count : Nat}
    (enough : size ≤ count) : Carries transfer seqNum (bytes.take count) size :=
  carries.of_take_eq (by rw [List.take_take, Nat.min_eq_left enough])

theorem isEof_iff (carries : Carries transfer seqNum bytes size) :
    (flagOf bytes == FlagType.eof.code) = true ↔ seqNum = transfer.packetCount := by
  rw [beq_iff_eq, carries.flagOf_eq]
  exact carries.isPacket.eof_iff

theorem seqNum_lt (carries : Carries transfer seqNum bytes size) : seqNum + 1 < 2 ^ 32 := by
  have last := carries.isPacket.last
  have room := transfer.packetCount_add_lt
  have positive := transfer.windowSize_pos
  omega

end Carries

/-! ### The operations short of wrap-around -/

def clearedWindow (window : Window) (packet : Packet) (dataSize first count current : Nat) :
    Window :=
  { replacePacket window packet dataSize with
    elements := sweep window.windowSize clearElement
      (replacePacket window packet dataSize).elements first count
    current := current }

/-- The window after `addPacket` has accepted a packet.  All three branches of the
source are this: the sweep is empty unless numbers are skipped. -/
def addedWindow (window : Window) (packet : Packet) (dataSize : Nat) : Window :=
  clearedWindow window packet dataSize window.current (packet.seqNum - window.current)
    (max window.current (packet.seqNum + 1))

theorem addPacket_open (window : Window) (packet : Packet) (dataSize : Nat)
    (isOpen : isWindowOpen window = true) (seqNumSmall : packet.seqNum + 1 < 2 ^ 32)
    (currentSmall : window.current + 1 < 2 ^ 32) :
    addPacket window packet dataSize = (true, addedWindow window packet dataSize) := by
  have wrapSeq : wrap32 (packet.seqNum + 1) = packet.seqNum + 1 := Nat.mod_eq_of_lt seqNumSmall
  have wrapCurrent : wrap32 (window.current + 1) = window.current + 1 :=
    Nat.mod_eq_of_lt currentSmall
  simp only [addPacket, isOpen, wrapSeq, wrapCurrent, Bool.not_true, Bool.false_eq_true, if_false]
  rcases Nat.lt_trichotomy packet.seqNum window.current with below | same | above
  · rw [if_neg (by omega), if_neg (by omega)]
    simp only [addedWindow, clearedWindow, Nat.sub_eq_zero_of_le (Nat.le_of_lt below), sweep,
      Nat.max_eq_left (Nat.succ_le_of_lt below)]
    rfl
  · rw [if_pos (by omega)]
    simp only [addedWindow, clearedWindow, same, Nat.sub_self, sweep,
      Nat.max_eq_right (Nat.le_succ _)]
  · rw [if_neg (by omega), if_pos (by omega)]
    have onward : window.current ≤ packet.seqNum + 1 := by omega
    simp only [addedWindow, clearedWindow, Nat.max_eq_right onward]

/-- When `current + 1` wraps around to 0, every packet is taken for one ahead of it. -/
theorem addPacket_wrapped (window : Window) (packet : Packet) (dataSize : Nat)
    (isOpen : isWindowOpen window = true) (seqNumSmall : packet.seqNum + 1 < 2 ^ 32)
    (currentLast : window.current + 1 = 2 ^ 32) :
    addPacket window packet dataSize =
      (true, clearedWindow window packet dataSize window.current
        (packet.seqNum - window.current) (packet.seqNum + 1)) := by
  have wrapSeq : wrap32 (packet.seqNum + 1) = packet.seqNum + 1 := Nat.mod_eq_of_lt seqNumSmall
  have wrapCurrent : wrap32 (window.current + 1) = 0 := by
    rw [currentLast, wrap32, Nat.mod_self]
  simp only [addPacket, isOpen, wrapSeq, wrapCurrent, Bool.not_true, Bool.false_eq_true, if_false]
  rw [if_neg (by omega), if_pos (by omega)]
  rfl

theorem clearElement_idempotent (element : WindowElement) :
    clearElement (clearElement element) = clearElement element := rfl

theorem invalidateElement_idempotent (element : WindowElement) :
    invalidateElement (invalidateElement element) = invalidateElement element := rfl

/-! ### The invariant -/

/-- The receiver's window after any arrivals of data packets. -/
structure ReceiveWindow (transfer : Transfer) (window : Window) : Prop where
  windowSize_eq : window.windowSize = transfer.windowSize
  bufferSize_eq : window.bufferSize = transfer.bufferSize
  lower_pos : 1 ≤ window.lower
  lower_le : window.lower ≤ transfer.packetCount + 1
  upper_eq : window.upper = wrap32 (window.lower + transfer.windowSize)
  current_le : window.current ≤ transfer.packetCount + 1
  block_length : ∀ index, (window.elements index).packet.length =
    windowElementPacketSsize transfer.bufferSize
  held : ∀ index, (window.elements index).valid = true →
    ∃ seqNum, window.lower ≤ seqNum ∧ seqNum < window.current ∧
      window.slot seqNum = index ∧
      Carries transfer seqNum (window.elements index).packet (window.elements index).dataSize

namespace ReceiveWindow

variable {transfer : Transfer} {window : Window}

theorem initially (transfer : Transfer) :
    ReceiveWindow transfer (windowInit transfer.windowSize transfer.bufferSize) where
  windowSize_eq := rfl
  bufferSize_eq := rfl
  lower_pos := Nat.le_refl 1
  lower_le := Nat.le_add_left 1 _
  upper_eq := rfl
  current_le := Nat.le_add_left 1 _
  block_length := fun _ => List.length_replicate
  held := fun _ valid => by cases valid

/-- Only a ring of one slot can come as far as the last `uint32_t`. -/
theorem current_succ (inv : ReceiveWindow transfer window) :
    window.current + 1 < 2 ^ 32 ∨ window.current + 1 = 2 ^ 32 ∧ transfer.windowSize = 1 := by
  have bound := inv.current_le
  have room := transfer.packetCount_add_lt
  have positive := transfer.windowSize_pos
  omega

theorem slot_eq (inv : ReceiveWindow transfer window) (seqNum : Nat) :
    window.slot seqNum = seqNum % transfer.windowSize := by
  rw [Window.slot, inv.windowSize_eq]

/-! ### `addPacket` -/

section Added

variable {packet : Packet} {seqNum dataSize : Nat}

theorem added_swept (window : Window) (packet : Packet) (dataSize index : Nat)
    (hit : ∃ number, window.current ≤ number ∧ number < packet.seqNum ∧
      window.slot number = index) :
    (addedWindow window packet dataSize).elements index =
      clearElement ((replacePacket window packet dataSize).elements index) := by
  obtain ⟨number, above, below, atIndex⟩ := hit
  exact sweep_hit _ _ clearElement_idempotent _ _ _ _ ⟨number, above, by omega, atIndex⟩

theorem added_unswept (window : Window) (packet : Packet) (dataSize index : Nat)
    (missed : ∀ number, window.current ≤ number → number < packet.seqNum →
      window.slot number ≠ index) :
    (addedWindow window packet dataSize).elements index =
      (replacePacket window packet dataSize).elements index :=
  sweep_miss _ _ _ _ _ _ (fun number above below => missed number above (by omega))

theorem added_packet (window : Window) (packet : Packet) (dataSize index : Nat) :
    ((addedWindow window packet dataSize).elements index).packet =
      ((replacePacket window packet dataSize).elements index).packet :=
  sweep_keeps WindowElement.packet _ clearElement (fun _ => rfl) _ _ _ _

theorem replaced_same (window : Window) (packet : Packet) (dataSize : Nat) :
    (replacePacket window packet dataSize).elements (window.slot packet.seqNum) =
      storedElement window packet dataSize :=
  setCell_same _ _ _

theorem replaced_other (window : Window) (packet : Packet) (dataSize : Nat) {index : Nat}
    (different : index ≠ window.slot packet.seqNum) :
    (replacePacket window packet dataSize).elements index = window.elements index :=
  setCell_of_ne _ _ different

theorem added_free {window : Window} (packet : Packet) (dataSize : Nat) {number : Nat}
    (free : packetValidInWindow window number = false)
    (otherSlot : window.slot number ≠ window.slot packet.seqNum) :
    packetValidInWindow (addedWindow window packet dataSize) number = false := by
  by_contra filled
  have kept : (addedWindow window packet dataSize).elements (window.slot number) =
      (replacePacket window packet dataSize).elements (window.slot number) :=
    sweep_survivor WindowElement.valid _ clearElement (fun _ => rfl) _ _ _ _
      (Bool.not_eq_false _ ▸ filled)
  rw [replaced_other _ _ _ otherSlot] at kept
  exact filled ((congrArg WindowElement.valid kept).trans free)

theorem stored_block_length (inv : ReceiveWindow transfer window) (packet : Packet)
    (dataSize : Nat) : (storedElement window packet dataSize).packet.length =
      windowElementPacketSsize transfer.bufferSize := by
  rw [← inv.bufferSize_eq]
  exact storedElement_length packet dataSize (inv.bufferSize_eq ▸ transfer.bufferSize_max)

theorem replaced_block_length (inv : ReceiveWindow transfer window) (packet : Packet)
    (dataSize index : Nat) :
    ((replacePacket window packet dataSize).elements index).packet.length =
      windowElementPacketSsize transfer.bufferSize := by
  by_cases same : index = window.slot packet.seqNum
  · rw [same, replaced_same]
    exact inv.stored_block_length packet dataSize
  · rw [replaced_other _ _ _ same]
    exact inv.block_length index

theorem stored_carries (inv : ReceiveWindow transfer window)
    (carries : Carries transfer seqNum packet.bytes dataSize) :
    Carries transfer seqNum (storedElement window packet dataSize).packet
      (storedElement window packet dataSize).dataSize := by
  have enough := carries.size_le
  rw [← inv.bufferSize_eq] at enough
  exact carries.take enough

theorem cleared_valid (cells : Nat → WindowElement) (size first count index : Nat)
    (valid : (sweep size clearElement cells first count index).valid = true) :
    sweep size clearElement cells first count index = cells index :=
  sweep_survivor WindowElement.valid size clearElement (fun _ => rfl) _ _ _ _ valid

/-- Writing a packet with a number of the window into its slot keeps the invariant, when
`current` is moved past the number; clearing slots on the way does no harm. -/
theorem cleared (inv : ReceiveWindow transfer window)
    (carries : Carries transfer seqNum packet.bytes dataSize) (above : window.lower ≤ seqNum)
    (first count current : Nat) (covered : seqNum < current)
    (bound : current ≤ transfer.packetCount + 1)
    (later : window.current ≤ current ∨ transfer.windowSize = 1) :
    ReceiveWindow transfer (clearedWindow window packet dataSize first count current) where
  windowSize_eq := inv.windowSize_eq
  bufferSize_eq := inv.bufferSize_eq
  lower_pos := inv.lower_pos
  lower_le := inv.lower_le
  upper_eq := inv.upper_eq
  current_le := bound
  block_length := by
    intro index
    rw [clearedWindow, sweep_keeps WindowElement.packet _ clearElement (fun _ => rfl)]
    exact inv.replaced_block_length packet dataSize index
  held := by
    intro index valid
    have numbered : packet.seqNum = seqNum := carries.seqNumOf_eq
    have kept : (clearedWindow window packet dataSize first count current).elements index =
        (replacePacket window packet dataSize).elements index := cleared_valid _ _ _ _ _ valid
    rw [kept] at valid ⊢
    by_cases same : index = window.slot packet.seqNum
    · refine ⟨seqNum, above, covered, by rw [same, numbered]; rfl, ?_⟩
      rw [same, replaced_same]
      exact inv.stored_carries carries
    · rw [replaced_other _ _ _ same] at valid ⊢
      obtain ⟨number, low, high, atIndex, carried⟩ := inv.held index valid
      refine ⟨number, low, ?_, atIndex, carried⟩
      rcases later with moved | single
      · exact Nat.lt_of_lt_of_le high moved
      · refine absurd ?_ same
        rw [← atIndex, inv.slot_eq, inv.slot_eq, single, Nat.mod_one, Nat.mod_one]

theorem added (inv : ReceiveWindow transfer window)
    (carries : Carries transfer seqNum packet.bytes dataSize) (above : window.lower ≤ seqNum)
    (isOpen : isWindowOpen window = true) :
    ReceiveWindow transfer (addPacket window packet dataSize).2 ∧
      packet.seqNum < (addPacket window packet dataSize).2.current := by
  have numbered : packet.seqNum = seqNum := carries.seqNumOf_eq
  have last := carries.isPacket.last
  have bound := inv.current_le
  have small := carries.seqNum_lt
  rw [← numbered] at small
  rcases inv.current_succ with noWrap | ⟨wraps, single⟩
  · rw [addPacket_open _ _ _ isOpen small noWrap]
    refine ⟨inv.cleared carries above _ _ _ ?_ ?_ (.inl (Nat.le_max_left _ _)), ?_⟩
    · omega
    · omega
    · exact Nat.lt_of_lt_of_le (Nat.lt_succ_self _) (Nat.le_max_right _ _)
  · rw [addPacket_wrapped _ _ _ isOpen small wraps]
    exact ⟨inv.cleared carries above _ _ _ (by omega) (by omega) (.inr single),
      Nat.lt_succ_self _⟩

theorem added_current_le (inv : ReceiveWindow transfer window)
    (small : packet.seqNum + 1 < 2 ^ 32) (isOpen : isWindowOpen window = true) :
    (addPacket window packet dataSize).2.current ≤ max window.current (packet.seqNum + 1) := by
  rcases inv.current_succ with noWrap | ⟨wraps, _⟩
  · rw [addPacket_open _ _ _ isOpen small noWrap]
    exact Nat.le_refl _
  · rw [addPacket_wrapped _ _ _ isOpen small wraps]
    exact Nat.le_max_right _ _

theorem replaced (inv : ReceiveWindow transfer window)
    (carries : Carries transfer seqNum packet.bytes dataSize) (above : window.lower ≤ seqNum)
    (covered : seqNum < window.current) :
    ReceiveWindow transfer (replacePacket window packet dataSize) :=
  inv.cleared carries above 0 0 window.current covered inv.current_le (.inl (Nat.le_refl _))

end Added

/-! ### `removePacket` -/

theorem removed_swept (window : Window) {seqNum index : Nat}
    (hit : ∃ number, window.lower ≤ number ∧ number < seqNum ∧ window.slot number = index) :
    (removePacket window seqNum).elements index = invalidateElement (window.elements index) := by
  obtain ⟨number, above, below, atIndex⟩ := hit
  exact sweep_hit _ _ invalidateElement_idempotent _ _ _ _ ⟨number, above, by omega, atIndex⟩

theorem removed_unswept (window : Window) {seqNum index : Nat}
    (missed : ∀ number, window.lower ≤ number → number < seqNum →
      window.slot number ≠ index) :
    (removePacket window seqNum).elements index = window.elements index :=
  sweep_miss _ _ _ _ _ _ (fun number above below => missed number above (by omega))

theorem removed_valid (window : Window) (seqNum index : Nat)
    (valid : ((removePacket window seqNum).elements index).valid = true) :
    (removePacket window seqNum).elements index = window.elements index :=
  sweep_survivor WindowElement.valid _ invalidateElement (fun _ => rfl) _ _ _ _ valid

theorem removed_free {window : Window} {index : Nat} (seqNum : Nat)
    (free : (window.elements index).valid = false) :
    ((removePacket window seqNum).elements index).valid = false := by
  by_contra filled
  have kept := removed_valid window seqNum index (Bool.not_eq_false _ ▸ filled)
  exact filled ((congrArg WindowElement.valid kept).trans free)

theorem removed_packet (window : Window) (seqNum index : Nat) :
    ((removePacket window seqNum).elements index).packet = (window.elements index).packet :=
  sweep_keeps WindowElement.packet _ invalidateElement (fun _ => rfl) _ _ _ _

theorem removed (inv : ReceiveWindow transfer window) {seqNum : Nat}
    (above : window.lower ≤ seqNum) (last : seqNum ≤ transfer.packetCount + 1) :
    ReceiveWindow transfer (removePacket window seqNum) where
  windowSize_eq := inv.windowSize_eq
  bufferSize_eq := inv.bufferSize_eq
  lower_pos := Nat.le_trans inv.lower_pos above
  lower_le := last
  upper_eq := by rw [removePacket, inv.windowSize_eq]
  current_le := inv.current_le
  block_length := by
    intro index
    rw [removed_packet]
    exact inv.block_length index
  held := by
    intro index valid
    by_cases hit : ∃ number, window.lower ≤ number ∧ number < seqNum ∧
        window.slot number = index
    · rw [removed_swept _ hit] at valid
      cases valid
    · rw [removed_unswept _ (fun number low high atIndex =>
        hit ⟨number, low, high, atIndex⟩)] at valid ⊢
      obtain ⟨number, low, high, atIndex, carried⟩ := inv.held index valid
      refine ⟨number, ?_, high, atIndex, carried⟩
      by_contra below
      exact hit ⟨number, low, Nat.lt_of_not_le below, atIndex⟩

end ReceiveWindow

/-! ### `inorderValidPackets` -/

theorem inorderFrom_length_le (window : Window) (count number : Nat) :
    (inorderFrom window count number).length ≤ count := by
  induction count generalizing number with
  | zero => exact Nat.le_refl 0
  | succ count ih =>
      simp only [inorderFrom]
      split
      · exact Nat.zero_le _
      · exact Nat.succ_le_succ (ih (number + 1))

theorem inorderFrom_getElem (window : Window) (count number offset : Nat)
    (found : offset < (inorderFrom window count number).length) :
    (window.elements (window.slot (number + offset))).valid = true ∧
      (inorderFrom window count number)[offset] =
        seqNumOf (window.elements (window.slot (number + offset))).packet := by
  induction count generalizing number offset with
  | zero => exact absurd found (Nat.not_lt_zero _)
  | succ count ih =>
      by_cases valid : (window.elements (window.slot number)).valid = false
      · simp only [inorderFrom, valid, if_true, List.length_nil] at found
        exact absurd found (Nat.not_lt_zero _)
      · simp only [inorderFrom, if_neg valid, List.length_cons] at found ⊢
        match offset with
        | 0 =>
            simp only [List.getElem_cons_zero, Nat.add_zero, and_true]
            exact Bool.not_eq_false _ ▸ valid
        | offset + 1 =>
            have deeper := ih (number + 1) offset (by omega)
            rw [Nat.add_right_comm] at deeper
            exact deeper

theorem inorderFrom_ne_nil (window : Window) (count number : Nat) (some : 0 < count)
    (valid : (window.elements (window.slot number)).valid = true) :
    0 < (inorderFrom window count number).length := by
  obtain ⟨rest, rfl⟩ := Nat.exists_eq_succ_of_ne_zero (Nat.ne_of_gt some)
  simp only [inorderFrom, valid, Bool.true_eq_false, if_false, List.length_cons]
  exact Nat.succ_pos _

end CPE464.Project3
