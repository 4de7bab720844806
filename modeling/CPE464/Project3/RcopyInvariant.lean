/-
The invariants of the client's statics under its two data handlers.

`StaticsInv` holds whatever packets of the file arrive.  `InWindow` needs every arrival
to lie below `expected + windowSize`; it is the part that says what has been written to
disk.  `BufferingOk` ties the buffering flag to the window: while it is set, `highest`
lies strictly between `expected` and `current`, so the drain after the expected packet
always finds something.  `Roomy` is the other half: while it is clear, the window is open.
-/

import CPE464.Project3.RcopyHandlers

namespace CPE464.Project3.Rcopy

open General

/-- What holds of the statics after any arrivals of data packets. -/
structure StaticsInv (transfer : Transfer) (statics : Statics) : Prop where
  receive : ReceiveWindow transfer statics.window
  bufferSize_eq : statics.bufferSize = transfer.bufferSize
  lower_eq : statics.window.lower = statics.expected

/-- What has been written is the file up to the expected packet. -/
structure Delivered (transfer : Transfer) (statics : Statics) : Prop where
  toFile_eq : statics.toFile = transfer.delivered (statics.expected - 1)
  wrote_iff : statics.wroteLastData = true ↔ statics.expected = transfer.packetCount + 1

structure InWindow (transfer : Transfer) (statics : Statics) : Prop where
  delivered : Delivered transfer statics
  current_le : statics.window.current ≤ statics.expected + transfer.windowSize
  stored_lt : ∀ index, seqNumOf (statics.window.elements index).packet <
    statics.expected + transfer.windowSize

/-- While buffering, something beyond the expected packet has been stored. -/
def BufferingOk (statics : Statics) (buffering : Bool) : Prop :=
  buffering = true →
    statics.expected < statics.highest ∧ statics.highest < statics.window.current

/-- Outside buffering mode `current` has not reached the upper edge. -/
def Roomy (transfer : Transfer) (statics : Statics) (buffering : Bool) : Prop :=
  buffering = false → statics.window.current < statics.expected + transfer.windowSize

variable {transfer : Transfer} {statics : Statics} {packet : Packet}
  {seqNum dataSize : Nat}

namespace StaticsInv

theorem expected_pos (inv : StaticsInv transfer statics) : 1 ≤ statics.expected :=
  inv.lower_eq ▸ inv.receive.lower_pos

theorem expected_le (inv : StaticsInv transfer statics) :
    statics.expected ≤ transfer.packetCount + 1 :=
  inv.lower_eq ▸ inv.receive.lower_le

theorem expected_lt (inv : StaticsInv transfer statics) : statics.expected < 2 ^ 32 := by
  have bound := inv.expected_le
  have room := transfer.packetCount_add_lt
  have positive := transfer.windowSize_pos
  omega

theorem of_window {later : Statics} (inv : StaticsInv transfer statics)
    (window : later.window = statics.window) (expected : later.expected = statics.expected)
    (bufferSize : later.bufferSize = statics.bufferSize) : StaticsInv transfer later :=
  ⟨window ▸ inv.receive, bufferSize.trans inv.bufferSize_eq, by
    rw [window, expected, inv.lower_eq]⟩

end StaticsInv

/-! ### Writing one packet -/

theorem written_eq (carries : Carries transfer seqNum packet.bytes dataSize) :
    packet.payload.take (writeSize dataSize) = transfer.chunk seqNum := by
  have bound := transfer.chunk_length_le_payloadMax seqNum
  rw [carries.size_eq, writeSize_eq _ (by rw [payloadMax] at bound; omega)]
  exact carries.payload_take

theorem Delivered.next {later : Statics} (delivered : Delivered transfer statics)
    (positive : 1 ≤ statics.expected)
    (carries : Carries transfer statics.expected packet.bytes dataSize)
    (toFile : later.toFile = statics.toFile ++ packet.payload.take (writeSize dataSize))
    (wrote : later.wroteLastData =
      (statics.wroteLastData || packet.flag == FlagType.eof.code))
    (expected : later.expected = statics.expected + 1) : Delivered transfer later := by
  constructor
  · obtain ⟨previous, isNext⟩ := Nat.exists_eq_add_of_le' positive
    rw [toFile, written_eq carries, delivered.toFile_eq, expected, isNext,
      Nat.add_sub_cancel, Nat.add_sub_cancel, transfer.delivered_succ]
  · have last := carries.isPacket.last
    have isEof : (packet.flag == FlagType.eof.code) = true ↔
        statics.expected = transfer.packetCount := carries.isEof_iff
    rw [wrote, Bool.or_eq_true, delivered.wrote_iff, isEof, expected]
    omega

/-! ### Flushing -/

theorem getPacket_carries {window : Window} (receive : ReceiveWindow transfer window)
    (stack : Packet) (number : Nat)
    (carries : Carries transfer seqNum (window.elements (window.slot number)).packet
      (window.elements (window.slot number)).dataSize) :
    Carries transfer seqNum (getPacket window stack number).1.bytes
      (getPacket window stack number).2 := by
  have block := receive.block_length (window.slot number)
  have short := carries.size_le
  rw [← block] at short
  apply carries.of_take_eq
  refine getPacket_take window stack number ?_ short
  rw [block]
  have bound := transfer.bufferSize_max
  simp only [windowElementPacketSsize, packetMaxSsize, payloadMax] at *
  omega

theorem flushPackets_frame (numbers : List Nat) (statics : Statics) :
    (numbers.foldl flushPacket statics).window = statics.window ∧
      (numbers.foldl flushPacket statics).sent = statics.sent ∧
      (numbers.foldl flushPacket statics).highest = statics.highest ∧
      (numbers.foldl flushPacket statics).bufferSize = statics.bufferSize := by
  induction numbers generalizing statics with
  | nil => exact ⟨rfl, rfl, rfl, rfl⟩
  | cons number rest ih => exact ih (flushPacket statics number)

theorem flushPackets_small (numbers : List Nat) (statics : Statics)
    (small : statics.expected < 2 ^ 32) :
    (numbers.foldl flushPacket statics).expected < 2 ^ 32 := by
  induction numbers generalizing statics with
  | nil => exact small
  | cons number rest ih => exact ih (flushPacket statics number) (Nat.mod_lt _ (by decide))

theorem flushPackets_expected (numbers : List Nat) (statics : Statics)
    (small : statics.expected + numbers.length < 2 ^ 32) :
    (numbers.foldl flushPacket statics).expected = statics.expected + numbers.length := by
  induction numbers generalizing statics with
  | nil => rfl
  | cons number rest ih =>
      simp only [List.length_cons] at small
      have counted : (flushPacket statics number).expected = statics.expected + 1 :=
        Nat.mod_eq_of_lt (by omega)
      rw [List.foldl_cons, ih _ (by omega), counted, List.length_cons]
      omega

theorem flushPackets_delivered (numbers : List Nat) (statics : Statics)
    (receive : ReceiveWindow transfer statics.window) (delivered : Delivered transfer statics)
    (positive : 1 ≤ statics.expected)
    (consecutive : ∀ offset (found : offset < numbers.length),
      numbers[offset] = statics.expected + offset ∧
        Carries transfer (statics.expected + offset)
          (statics.window.elements (statics.window.slot numbers[offset])).packet
          (statics.window.elements (statics.window.slot numbers[offset])).dataSize) :
    Delivered transfer (numbers.foldl flushPacket statics) := by
  induction numbers generalizing statics with
  | nil => exact delivered
  | cons number rest ih =>
      obtain ⟨_, carried⟩ := consecutive 0 (Nat.succ_pos _)
      have slot := getPacket_carries receive Packet.zero number carried
      have small := slot.seqNum_lt
      have counted : (flushPacket statics number).expected = statics.expected + 1 :=
        Nat.mod_eq_of_lt small
      apply ih (flushPacket statics number) receive
      · exact delivered.next positive slot rfl rfl counted
      · omega
      · intro offset found
        have later := consecutive (offset + 1) (Nat.succ_lt_succ found)
        rw [counted, Nat.add_assoc, Nat.add_comm 1 offset]
        exact later

/-! ### Draining the window -/

/-- The numbers the drain finds once the expected packet is in its slot. -/
def drainNumbers (statics : Statics) (packet : Packet) (dataSize : Nat) : List Nat :=
  inorderValidPackets (placed statics packet dataSize).window

theorem drain_eq (found : 0 < (drainNumbers statics packet dataSize).length) :
    drain statics packet dataSize =
      flushWindow (placed statics packet dataSize) (drainNumbers statics packet dataSize) :=
  if_pos found

theorem drain_sends (packet : Packet) (dataSize : Nat) (small : statics.expected < 2 ^ 32) :
    (drain statics packet dataSize).sent = statics.sent ∧
      (drain statics packet dataSize).expected < 2 ^ 32 := by
  by_cases found : 0 < (drainNumbers statics packet dataSize).length
  · rw [drain_eq found]
    exact ⟨(flushPackets_frame _ (placed statics packet dataSize)).2.1,
      flushPackets_small _ (placed statics packet dataSize) small⟩
  · have kept : drain statics packet dataSize = placed statics packet dataSize := if_neg found
    rw [kept]
    exact ⟨rfl, small⟩

theorem drainNumbers_le (packet : Packet) (dataSize : Nat) (inv : StaticsInv transfer statics)
    (behind : statics.expected < statics.window.current) :
    statics.expected + (drainNumbers statics packet dataSize).length ≤
      statics.window.current := by
  have lower := inv.lower_eq
  have short : (drainNumbers statics packet dataSize).length ≤
      statics.window.current - statics.window.lower :=
    inorderFrom_length_le (placed statics packet dataSize).window _ _
  omega

section Drain

variable (inv : StaticsInv transfer statics)
  (carries : Carries transfer statics.expected packet.bytes dataSize)
  (behind : statics.expected < statics.window.current)

include inv carries behind

theorem drainNumbers_pos : 0 < (drainNumbers statics packet dataSize).length := by
  have lower := inv.lower_eq
  have numbered : packet.seqNum = statics.window.lower := carries.seqNumOf_eq.trans lower.symm
  apply inorderFrom_ne_nil
  · change 0 < statics.window.current - statics.window.lower
    omega
  · change ((replacePacket statics.window packet dataSize).elements
      (statics.window.slot statics.window.lower)).valid = true
    rw [← numbered, ReceiveWindow.replaced_same]
    rfl

theorem drain_expected :
    (drain statics packet dataSize).expected =
      statics.expected + (drainNumbers statics packet dataSize).length := by
  have found := drainNumbers_pos inv carries behind
  have bound := drainNumbers_le packet dataSize inv behind
  have last := inv.receive.current_le
  have room := transfer.packetCount_add_lt
  have positive := transfer.windowSize_pos
  rw [drain_eq found]
  exact flushPackets_expected (drainNumbers statics packet dataSize)
    (placed statics packet dataSize) (by change statics.expected + _ < _; omega)

theorem drain_window :
    (drain statics packet dataSize).window =
      removePacket (replacePacket statics.window packet dataSize)
        (drain statics packet dataSize).expected := by
  have frame := flushPackets_frame (drainNumbers statics packet dataSize)
    (placed statics packet dataSize)
  rw [drain_eq (drainNumbers_pos inv carries behind), flushWindow, moveWindow]
  exact congrArg (removePacket · _) frame.1

theorem drain_frame :
    (drain statics packet dataSize).sent = statics.sent ∧
      (drain statics packet dataSize).highest = statics.highest ∧
      (drain statics packet dataSize).bufferSize = statics.bufferSize := by
  rw [drain_eq (drainNumbers_pos inv carries behind)]
  exact (flushPackets_frame (drainNumbers statics packet dataSize)
    (placed statics packet dataSize)).2

theorem replaced_receive :
    ReceiveWindow transfer (replacePacket statics.window packet dataSize) :=
  inv.receive.replaced carries (Nat.le_of_eq inv.lower_eq) behind

theorem drain_inv : StaticsInv transfer (drain statics packet dataSize) := by
  have moved := drain_expected inv carries behind
  have bound := drainNumbers_le packet dataSize inv behind
  have last := inv.receive.current_le
  have lower := inv.lower_eq
  refine ⟨?_, (drain_frame inv carries behind).2.2.trans inv.bufferSize_eq, ?_⟩
  · rw [drain_window inv carries behind]
    refine (replaced_receive inv carries behind).removed ?_ ?_
    · change statics.window.lower ≤ _
      omega
    · omega
  · rw [drain_window inv carries behind]
    rfl

theorem drainNumbers_consecutive
    (near : statics.window.current ≤ statics.expected + transfer.windowSize)
    (offset : Nat) (found : offset < (drainNumbers statics packet dataSize).length) :
    (drainNumbers statics packet dataSize)[offset] = statics.expected + offset ∧
      Carries transfer (statics.expected + offset)
        ((replacePacket statics.window packet dataSize).elements
          (statics.window.slot (drainNumbers statics packet dataSize)[offset])).packet
        ((replacePacket statics.window packet dataSize).elements
          (statics.window.slot (drainNumbers statics packet dataSize)[offset])).dataSize := by
  have receive := replaced_receive inv carries behind
  have bound := drainNumbers_le packet dataSize inv behind
  have lower := inv.lower_eq
  obtain ⟨valid, number⟩ := inorderFrom_getElem (placed statics packet dataSize).window
    (statics.window.current - statics.window.lower) statics.window.lower offset found
  obtain ⟨held, low, high, sameSlot, carried⟩ := receive.held _ valid
  change statics.window.lower ≤ held at low
  change held < statics.window.current at high
  change held % statics.window.windowSize =
    (statics.window.lower + offset) % statics.window.windowSize at sameSlot
  rw [inv.receive.windowSize_eq] at sameSlot
  -- both numbers lie within one turn of the ring, so sharing the slot makes them equal
  have isNumber : held = statics.window.lower + offset := by
    rcases Nat.le_total held (statics.window.lower + offset) with below | above
    · exact eq_of_mod_eq below (by omega) sameSlot
    · exact (eq_of_mod_eq above (by omega) sameSlot.symm).symm
  rw [isNumber] at carried
  have read : (drainNumbers statics packet dataSize)[offset] = statics.window.lower + offset :=
    number.trans carried.seqNumOf_eq
  rw [read, ← lower]
  exact ⟨rfl, carried⟩

theorem drain_delivered (delivered : Delivered transfer statics)
    (near : statics.window.current ≤ statics.expected + transfer.windowSize) :
    Delivered transfer (drain statics packet dataSize) := by
  have flushed := flushPackets_delivered (drainNumbers statics packet dataSize)
    (placed statics packet dataSize) (replaced_receive inv carries behind)
    ⟨delivered.toFile_eq, delivered.wrote_iff⟩ inv.expected_pos
    (drainNumbers_consecutive inv carries behind near)
  rw [drain_eq (drainNumbers_pos inv carries behind)]
  exact ⟨flushed.toFile_eq, flushed.wrote_iff⟩

end Drain

/-! ### Replies -/

theorem acknowledge_frame (statics : Statics) (buffering : Bool) :
    (acknowledge statics buffering).window = statics.window ∧
      (acknowledge statics buffering).expected = statics.expected ∧
      (acknowledge statics buffering).highest = statics.highest ∧
      (acknowledge statics buffering).toFile = statics.toFile ∧
      (acknowledge statics buffering).wroteLastData = statics.wroteLastData ∧
      (acknowledge statics buffering).bufferSize = statics.bufferSize := by
  cases buffering <;> exact ⟨rfl, rfl, rfl, rfl, rfl, rfl⟩

theorem acknowledge_replies {earlier : Statics} (buffering : Bool)
    (small : statics.expected < 2 ^ 32) (sent : statics.sent = earlier.sent) :
    RepliesSince earlier (acknowledge statics buffering) := by
  cases buffering with
  | false =>
      refine ⟨_, congrArg (· ++ _) sent, ?_⟩
      intro datagram member
      rw [List.mem_singleton.mp member]
      exact .rr (buildRrPacket_isControl _ small)
  | true =>
      refine ⟨_, (List.append_assoc _ _ _).trans (congrArg (· ++ _) sent), ?_⟩
      intro datagram member
      rcases List.mem_append.mp member with first | second
      · rw [List.mem_singleton.mp first]
        exact .srej (buildSrejPacket_isControl _ small)
      · rw [List.mem_singleton.mp second]
        exact .rr (buildRrPacket_isControl _ small)

theorem rejectGap_frame (statics : Statics) (buffering : Bool) :
    (rejectGap statics buffering).window = statics.window ∧
      (rejectGap statics buffering).expected = statics.expected ∧
      (rejectGap statics buffering).toFile = statics.toFile ∧
      (rejectGap statics buffering).wroteLastData = statics.wroteLastData ∧
      (rejectGap statics buffering).bufferSize = statics.bufferSize := by
  cases buffering <;> exact ⟨rfl, rfl, rfl, rfl, rfl⟩

theorem rejectGap_replies (buffering : Bool) (small : statics.expected < 2 ^ 32)
    {later : Statics} (sent : later.sent = (rejectGap statics buffering).sent)
    (expected : later.expected = statics.expected) : RepliesSince statics later := by
  cases buffering with
  | false =>
      refine ⟨_, sent, ?_⟩
      intro datagram member
      rw [List.mem_singleton.mp member]
      exact .srej (expected.symm ▸ buildSrejPacket_isControl _ small)
  | true => exact ⟨[], sent.trans (List.append_nil _).symm, fun _ absent => by cases absent⟩

end CPE464.Project3.Rcopy
