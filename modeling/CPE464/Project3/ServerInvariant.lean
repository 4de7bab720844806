/-
The invariant of the server child, as long as every RR acknowledges no less than the one
before and no more than has been sent.

`ServerInv` ties the window to the file: what is unread starts at packet `current`, what
has been sent are packets of the file below `current`, and the first datagram sent with
each number is the packet as it was built.
-/

import CPE464.Project3.SendWindow
import CPE464.Project3.ServerReads
import CPE464.Project3.ServerStep

namespace CPE464.Project3.Server

open General

def AcksInWindow (child : Child) (input : Input) : Prop :=
  ∀ number ∈ rrReceived child input,
    child.window.lower ≤ number ∧ number ≤ child.window.current

instance (child : Child) (input : Input) : Decidable (AcksInWindow child input) :=
  inferInstanceAs (Decidable (∀ _ ∈ rrReceived child input, _ ∧ _))

/-- A packet of the file below `current`, or the empty datagram of a slot never used. -/
def IsSent (transfer : Transfer) (current : Nat) (datagram : Datagram) : Prop :=
  datagram = [] ∨ ∃ seqNum flag, 1 ≤ seqNum ∧ seqNum < current ∧
    transfer.Flagged seqNum flag ∧ datagram = transfer.datagram seqNum flag

def named (seqNum : Nat) (datagram : Datagram) : Bool := seqNumOf datagram == seqNum

structure ServerInv (transfer : Transfer) (child : Child) : Prop where
  bufferSize_eq : child.bufferSize = transfer.bufferSize
  window : SendWindow transfer child.window
  seqNum_eq : child.seqNum = child.window.current
  file_eq : child.file = transfer.file.drop ((child.window.current - 1) * transfer.bufferSize)
  atEof_iff : child.atEof = true ↔ child.window.current = transfer.packetCount + 1
  fits : Fits child.atEof child.state
  sent : ∀ datagram ∈ child.sent, IsSent transfer child.window.current datagram
  firsts : ∀ seqNum, 1 ≤ seqNum → seqNum < child.window.current →
    child.sent.find? (named seqNum) =
      some (transfer.datagram seqNum (transfer.flagFor seqNum .data))

variable {transfer : Transfer} {child : Child} {input : Input}

theorem IsSent.mono {current later : Nat} {datagram : Datagram}
    (sent : IsSent transfer current datagram) (ordered : current ≤ later) :
    IsSent transfer later datagram := by
  rcases sent with rfl | ⟨seqNum, flag, first, below, flagged, rfl⟩
  · exact .inl rfl
  · exact .inr ⟨seqNum, flag, first, Nat.lt_of_lt_of_le below ordered, flagged, rfl⟩

theorem IsSent.seqNum_lt {current : Nat} {datagram : Datagram}
    (sent : IsSent transfer current datagram) (positive : 1 ≤ current)
    (small : current < 2 ^ 32) : seqNumOf datagram < current := by
  rcases sent with rfl | ⟨seqNum, flag, first, below, flagged, rfl⟩
  · exact positive
  · rw [transfer.datagram_seqNum _ _ (Nat.lt_trans below small)]
    exact below

theorem start_inv (transfer : Transfer) :
    ServerInv transfer (start transfer.windowSize transfer.bufferSize transfer.file) where
  bufferSize_eq := rfl
  window := .initially transfer
  seqNum_eq := rfl
  file_eq := by
    change transfer.file = transfer.file.drop ((1 - 1) * _)
    rw [Nat.sub_self, Nat.zero_mul, List.drop_zero]
  atEof_iff := by
    simp only [start, windowInit, seqNumStart, Bool.false_eq_true, false_iff]
    exact fun last => Nat.noConfusion (Nat.succ.inj last)
  fits := rfl
  sent := fun _ absent => by cases absent
  firsts := fun seqNum first below => absurd first (Nat.not_le.mpr below)

namespace ServerInv

theorem current_pos (inv : ServerInv transfer child) : 1 ≤ child.window.current :=
  Nat.le_trans inv.window.lower_pos inv.window.lower_le

theorem current_lt (inv : ServerInv transfer child) : child.window.current < 2 ^ 32 := by
  have last := inv.window.current_le
  have room := transfer.packetCount_add_lt
  have positive := transfer.windowSize_pos
  omega

theorem current_le (inv : ServerInv transfer child)
    (sending : child.state = .windowOpen ∨ child.state = .windowClosed) :
    child.window.current ≤ transfer.packetCount := by
  have notEof : child.atEof = false := by
    have fits := inv.fits
    rcases sending with atState | atState <;> rw [atState] at fits <;> exact fits
  have last := inv.window.current_le
  have notLast : child.window.current ≠ transfer.packetCount + 1 :=
    fun isLast => by simp [inv.atEof_iff.mpr isLast] at notEof
  omega

theorem firsts_append (inv : ServerInv transfer child) (datagram : Datagram) {seqNum : Nat}
    (first : 1 ≤ seqNum) (below : seqNum < child.window.current) :
    (child.sent ++ [datagram]).find? (named seqNum) =
      some (transfer.datagram seqNum (transfer.flagFor seqNum .data)) := by
  rw [List.find?_append, inv.firsts seqNum first below]
  rfl

theorem of_control (inv : ServerInv transfer child) (state : State) (timeout lastTimeout : Nat)
    (fits : Fits child.atEof child.state → Fits child.atEof state) :
    ServerInv transfer { child with state, timeout, lastTimeout } :=
  ⟨inv.bufferSize_eq, inv.window, inv.seqNum_eq, inv.file_eq, inv.atEof_iff, fits inv.fits,
    inv.sent, inv.firsts⟩

end ServerInv

/-! ### Sending the next packet -/

theorem readFromDiskAndSend_eq (inv : ServerInv transfer child)
    (atTest : child.state = .windowOpen) (isOpen : isWindowOpen child.window = true) :
    ∃ packet dataSize,
      packet.seqNum = child.window.current ∧
      dataSize = dataPacketSsize (transfer.chunk child.window.current).length ∧
      packet.bytes.take dataSize = transfer.datagram child.window.current
        (transfer.flagFor child.window.current .data) ∧
      readFromDiskAndSend child =
        { child with
          file := child.file.drop transfer.bufferSize
          seqNum := child.window.current + 1
          atEof := decide (child.window.current = transfer.packetCount)
          window := appended child.window packet dataSize
          sent := child.sent ++ [transfer.datagram child.window.current
            (transfer.flagFor child.window.current .data)] } := by
  have more := inv.current_le (.inl atTest)
  have positive := inv.current_pos
  have small := inv.current_lt
  have room := transfer.packetCount_add_lt
  have oneSlot := transfer.windowSize_pos
  have bound : child.bufferSize ≤ payloadMax := inv.bufferSize_eq ▸ transfer.bufferSize_max
  have notEof : child.atEof = false := by
    have fits := inv.fits
    rw [atTest] at fits
    exact fits
  have data : nextData child = transfer.chunk child.window.current := by
    rw [nextData, inv.file_eq, inv.bufferSize_eq, Transfer.chunk]
  have atEof : meetsEof child = decide (child.window.current = transfer.packetCount) := by
    rw [meetsEof, notEof, Bool.false_or, data, inv.bufferSize_eq]
    exact decide_eq_decide.mpr (transfer.chunk_length_lt_iff positive more)
  have datagram : nextDatagram child = transfer.datagram child.window.current
      (transfer.flagFor child.window.current .data) := by
    rw [nextDatagram, data, atEof, inv.seqNum_eq, transfer.datagram_eq, Transfer.flagFor]
    simp only [decide_eq_true_eq]
  have numbered : (nextPacket child).seqNum = child.window.current := by
    rw [nextPacket_seqNum bound, inv.seqNum_eq, wrap32, Nat.mod_eq_of_lt small]
  have noWrap : wrap32 (child.window.current + 1) = child.window.current + 1 :=
    Nat.mod_eq_of_lt (by omega)
  refine ⟨nextPacket child, (nextDatagram child).length, numbered, ?_, ?_, ?_⟩
  · rw [datagram, transfer.datagram_length]
  · rw [nextPacket_take bound, datagram]
  · rw [readFromDiskAndSend_frame bound,
      addPacket_append _ _ _ isOpen numbered (by omega), atEof, inv.seqNum_eq, noWrap,
      inv.bufferSize_eq, datagram]

theorem sent_inv (inv : ServerInv transfer child) (atTest : child.state = .windowOpen)
    (isOpen : isWindowOpen child.window = true) :
    ServerInv transfer { readFromDiskAndSend child with
      state := if (readFromDiskAndSend child).atEof then .lastData else .checkRrSrej } := by
  obtain ⟨packet, dataSize, numbered, sized, carried, sends⟩ :=
    readFromDiskAndSend_eq inv atTest isOpen
  have more := inv.current_le (.inl atTest)
  have positive := inv.current_pos
  have small := inv.current_lt
  have flagged : transfer.Flagged child.window.current
      (transfer.flagFor child.window.current .data) :=
    transfer.flagged_flagFor child.window.current (.inl rfl)
  rw [sends]
  refine ⟨inv.bufferSize_eq, inv.window.append isOpen more numbered sized carried, rfl, ?_, ?_,
    ?_, ?_, ?_⟩
  · change child.file.drop transfer.bufferSize =
      transfer.file.drop ((child.window.current + 1 - 1) * transfer.bufferSize)
    rw [inv.file_eq, List.drop_drop, Nat.add_sub_cancel]
    congr 1
    obtain ⟨previous, isNext⟩ := Nat.exists_eq_add_of_le' positive
    rw [isNext, Nat.add_sub_cancel, Nat.succ_mul]
  · change decide _ = true ↔ child.window.current + 1 = _
    rw [decide_eq_true_iff, Nat.add_right_cancel_iff]
  · change Fits (decide _) (if decide _ = true then _ else _)
    split
    · next last => exact last
    · next notLast => exact Bool.eq_false_iff.mpr notLast
  · intro datagram member
    rcases List.mem_append.mp member with old | new
    · exact (inv.sent datagram old).mono (Nat.le_succ _)
    · rw [List.mem_singleton.mp new]
      exact .inr ⟨_, _, positive, Nat.lt_succ_self _, flagged, rfl⟩
  · intro seqNum first below
    change seqNum < child.window.current + 1 at below
    rcases Nat.lt_succ_iff_lt_or_eq.mp below with before | isNext
    · exact inv.firsts_append _ first before
    · subst isNext
      have noneBefore : child.sent.find? (named child.window.current) = none := by
        rw [List.find?_eq_none]
        intro datagram member isNamed
        have low := (inv.sent datagram member).seqNum_lt positive small
        rw [named, beq_iff_eq] at isNamed
        omega
      have isNamed : named child.window.current (transfer.datagram child.window.current
          (transfer.flagFor child.window.current .data)) = true :=
        beq_iff_eq.mpr (transfer.datagram_seqNum _ _ small)
      change (child.sent ++ [_]).find? _ = _
      rw [List.find?_append, noneBefore, Option.none_or, List.find?_cons_of_pos isNamed]

/-! ### Acknowledgements -/

theorem acknowledged_inv (inv : ServerInv transfer child) {number : Nat}
    (above : child.window.lower ≤ number) (below : number ≤ child.window.current) :
    ServerInv transfer { child with window := removePacket child.window number } :=
  ⟨inv.bufferSize_eq, inv.window.remove above below, inv.seqNum_eq, inv.file_eq, inv.atEof_iff,
    inv.fits, inv.sent, inv.firsts⟩

/-! ### Resending -/

/-- A packet read from the ring is resent under the flag asked for, the last packet of the
file under `FLAG_TYPE_EOF`. -/
theorem restamp_resent {packet : Packet} {seqNum dataSize : Nat} {flag : FlagType}
    (unconditional : Bool)
    (carried : packet.bytes.take dataSize =
      transfer.datagram seqNum (transfer.flagFor seqNum .data))
    (sized : dataSize = dataPacketSsize (transfer.chunk seqNum).length)
    (notLast : unconditional = true → seqNum ≠ transfer.packetCount) :
    (if unconditional then restamp packet flag dataSize
      else restampUnlessEof packet flag dataSize).bytes.take dataSize =
      transfer.datagram seqNum (transfer.flagFor seqNum flag) := by
  have restamped : (restamp packet flag dataSize).bytes.take dataSize =
      transfer.datagram seqNum flag := Transfer.restamp_datagram _ carried sized
  have header : packetHeaderSsize ≤ dataSize := sized ▸ Nat.le_add_right _ _
  have flagRead : packet.flag = (transfer.flagFor seqNum .data).code := by
    rw [Packet.flag, ← flagOf_take _ header, carried, transfer.datagram_flag]
  have isEof : packet.flag = FlagType.eof.code ↔ seqNum = transfer.packetCount := by
    rw [flagRead, FlagType.code_injective.eq_iff]
    exact transfer.flagFor_eof_iff seqNum (by decide)
  by_cases last : seqNum = transfer.packetCount
  · have conditional : unconditional = false :=
      Bool.eq_false_iff.mpr (fun isSet => notLast isSet last)
    simp only [conditional, Bool.false_eq_true, if_false, restampUnlessEof, ne_eq, isEof, last,
      not_true]
    rw [last] at carried
    simpa only [Transfer.flagFor, if_true] using carried
  · have flag : transfer.flagFor seqNum flag = flag := if_neg last
    rw [flag]
    cases unconditional with
    | true => exact restamped
    | false =>
        simp only [Bool.false_eq_true, if_false, restampUnlessEof, ne_eq, isEof, last,
          not_false_iff, if_true]
        exact restamped

theorem resend_inRing (inv : SendWindow transfer child.window) {seqNum number : Nat}
    (inRing : InRing transfer child.window seqNum)
    (sameSlot : child.window.slot number = child.window.slot seqNum) (stack : Packet)
    (flag : FlagType) (unconditional : Bool)
    (notLast : unconditional = true → seqNum ≠ transfer.packetCount) :
    resend child stack number flag unconditional =
      safeSendto child (transfer.datagram seqNum (transfer.flagFor seqNum flag)) := by
  obtain ⟨carried, sized⟩ := inv.getPacket_inRing inRing sameSlot stack
  exact congrArg (safeSendto child) (restamp_resent unconditional carried sized notLast)

theorem resend_unused {number : Nat}
    (empty : (child.window.elements (child.window.slot number)).dataSize = 0) (stack : Packet)
    (flag : FlagType) (unconditional : Bool) :
    resend child stack number flag unconditional = safeSendto child [] := by
  have size : (getPacket child.window stack number).2 = 0 := empty
  rw [resend]
  simp only [size, List.take_zero]

/-- Whatever number is asked for, a packet of the file goes out, or nothing; it is no later
one when the number is not below the window. -/
theorem resend_sends (inv : ServerInv transfer child) (stack : Packet) (number : Nat)
    {flag : FlagType} (unconditional : Bool) (resendFlag : flag = .srejData ∨ flag = .timeoutData)
    (inClosed : unconditional = true → child.state = .windowClosed) :
    ∃ datagram, IsSent transfer child.window.current datagram ∧
      (child.window.lower ≤ number → seqNumOf datagram ≤ number) ∧
      resend child stack number flag unconditional = safeSendto child datagram := by
  by_cases used : ∃ seqNum, InRing transfer child.window seqNum ∧
      child.window.slot seqNum = child.window.slot number
  · obtain ⟨seqNum, inRing, sameSlot⟩ := used
    refine ⟨_, .inr ⟨seqNum, _, inRing.1, inRing.2.1, transfer.flagged_flagFor seqNum
      (.inr resendFlag), rfl⟩, ?_, resend_inRing inv.window inRing sameSlot.symm stack flag
        unconditional ?_⟩
    · intro above
      have near := inv.window.near
      have below := inRing.2.1
      rw [transfer.datagram_seqNum _ _ (Nat.lt_trans below inv.current_lt)]
      by_contra later
      exact inv.window.slot_ne (Nat.lt_of_not_le later) (by omega) sameSlot.symm
    · intro isSet last
      have more := inv.current_le (.inr (inClosed isSet))
      have below := inRing.2.1
      omega
  · refine ⟨[], .inl rfl, fun _ => Nat.zero_le _,
      resend_unused (inv.window.unused _ ?_) stack flag unconditional⟩
    intro seqNum inRing sameSlot
    exact used ⟨seqNum, inRing, sameSlot⟩

theorem safeSendto_inv (inv : ServerInv transfer child) {datagram : Datagram}
    (isSent : IsSent transfer child.window.current datagram) :
    ServerInv transfer (safeSendto child datagram) := by
  refine ⟨inv.bufferSize_eq, inv.window, inv.seqNum_eq, inv.file_eq, inv.atEof_iff, inv.fits, ?_,
    fun seqNum first below => inv.firsts_append datagram first below⟩
  intro other member
  rcases List.mem_append.mp member with old | new
  · exact inv.sent other old
  · rw [List.mem_singleton.mp new]
    exact isSent

/-! ### The step lemma -/

theorem step_inv (inv : ServerInv transfer child) (acks : AcksInWindow child input) :
    ServerInv transfer (step child input) := by
  have outcome := step_outcome child input
  generalize step child input = later at outcome ⊢
  cases outcome with
  | sent atTest isOpen => exact sent_inv inv atTest isOpen
  | acknowledged number state timeout lastTimeout rr fits notAcked =>
      obtain ⟨above, below⟩ := acks number rr
      exact (acknowledged_inv inv above below).of_control state timeout lastTimeout fits
  | resent number flag stack unconditional state timeout lastTimeout asked noRr resendFlag
      inClosed fits notAcked =>
      obtain ⟨datagram, isSent, _, sends⟩ := resend_sends inv stack number unconditional
        resendFlag inClosed
      rw [sends]
      exact (safeSendto_inv inv isSent).of_control state timeout lastTimeout fits
  | idle state timeout lastTimeout noRr noResend fits acked =>
      exact inv.of_control state timeout lastTimeout fits

/-! ### What a step moves -/

theorem step_of_rr {number : Nat} (rr : rrReceived child input = some number) :
    (step child input).window = removePacket child.window number := by
  have outcome := step_outcome child input
  generalize step child input = later at outcome ⊢
  cases outcome with
  | sent atTest isOpen =>
      simp [rrReceived, received, polls, atTest] at rr
  | acknowledged other state timeout lastTimeout isRr fits notAcked =>
      obtain rfl := Option.some.inj (isRr.symm.trans rr)
      rfl
  | resent other flag stack unconditional state timeout lastTimeout asked noRr resendFlag
      inClosed fits notAcked =>
      cases noRr.symm.trans rr
  | idle state timeout lastTimeout noRr noResend fits acked =>
      cases noRr.symm.trans rr

/-- Without an RR `lower` stays, the packets in the window are left alone, and at most one
packet is appended. -/
theorem step_without_rr (inv : ServerInv transfer child)
    (noRr : rrReceived child input = none) :
    (step child input).window.lower = child.window.lower ∧
      (∀ seqNum < child.window.current, child.window.lower ≤ seqNum →
        (step child input).window.elements (child.window.slot seqNum) =
          child.window.elements (child.window.slot seqNum)) ∧
      ((step child input).window.current = child.window.current ∨
        (step child input).window.current = child.window.current + 1 ∧
          child.window.current < child.window.lower + transfer.windowSize) := by
  have outcome := step_outcome child input
  generalize step child input = later at outcome ⊢
  cases outcome with
  | sent atTest isOpen =>
      obtain ⟨packet, dataSize, numbered, _, _, sends⟩ :=
        readFromDiskAndSend_eq inv atTest isOpen
      have room := inv.window.current_lt isOpen
      rw [sends]
      exact ⟨rfl, fun seqNum before above =>
        inv.window.appended_other numbered before (by omega), .inr ⟨rfl, room⟩⟩
  | acknowledged other state timeout lastTimeout isRr fits notAcked =>
      cases noRr.symm.trans isRr
  | resent other flag stack unconditional state timeout lastTimeout asked noRr resendFlag
      inClosed fits notAcked => exact ⟨rfl, fun _ _ _ => rfl, .inl rfl⟩
  | idle state timeout lastTimeout noRr noResend fits acked =>
      exact ⟨rfl, fun _ _ _ => rfl, .inl rfl⟩

theorem rrReceived_none {request : Nat × FlagType}
    (asked : retransmits child input = some request) : rrReceived child input = none := by
  cases receives : received child input with
  | none => simp only [rrReceived, receives]
  | some packet =>
      by_cases isSrej : packet.flag = FlagType.srej.code
      · simp only [rrReceived, receives, isSrej]
        exact if_neg (by decide)
      · simp [retransmits, receives, isSrej] at asked

theorem step_resent (inv : ServerInv transfer child) {number : Nat} {flag : FlagType}
    (asked : retransmits child input = some (number, flag))
    (above : child.window.lower ≤ number) (below : number < child.window.current) :
    (step child input).sent =
      child.sent ++ [transfer.datagram number (transfer.flagFor number flag)] := by
  have outcome := step_outcome child input
  generalize step child input = later at outcome ⊢
  cases outcome with
  | sent atTest isOpen =>
      simp [retransmits, received, polls, atTest] at asked
  | acknowledged other state timeout lastTimeout rr fits notAcked =>
      cases (rrReceived_none asked).symm.trans rr
  | idle state timeout lastTimeout noRr noResend fits acked =>
      cases noResend.symm.trans asked
  | resent other otherFlag stack unconditional state timeout lastTimeout request noRr resendFlag
      inClosed fits notAcked =>
      obtain ⟨rfl, rfl⟩ : other = number ∧ otherFlag = flag := by
        simpa using request.symm.trans asked
      have near := inv.window.near
      have notLast : unconditional = true → other ≠ transfer.packetCount := by
        intro isSet
        have more := inv.current_le (.inr (inClosed isSet))
        omega
      have inRing : InRing transfer child.window other :=
        ⟨Nat.le_trans inv.window.lower_pos above, below, by omega⟩
      rw [resend_inRing inv.window inRing rfl stack otherFlag unconditional notLast]
      rfl

theorem step_sent (child : Child) (input : Input) :
    child.sent <+: (step child input).sent := by
  have outcome := step_outcome child input
  generalize step child input = later at outcome ⊢
  cases outcome with
  | sent atTest isOpen => exact List.prefix_append _ _
  | acknowledged number state timeout lastTimeout rr fits notAcked => exact List.prefix_rfl
  | resent number flag stack unconditional state timeout lastTimeout asked noRr resendFlag
      inClosed fits notAcked => exact List.prefix_append _ _
  | idle state timeout lastTimeout noRr noResend fits acked => exact List.prefix_rfl

theorem step_numbers (inv : ServerInv transfer child)
    (asked : ∀ request ∈ retransmits child input, child.window.lower ≤ request.1) :
    ∃ new, (step child input).sent = child.sent ++ new ∧
      (new.map seqNumOf = [child.window.current] ∨
        ∀ datagram ∈ new, ∃ request ∈ retransmits child input, seqNumOf datagram ≤ request.1) := by
  have outcome := step_outcome child input
  generalize step child input = later at outcome ⊢
  cases outcome with
  | sent atTest isOpen =>
      obtain ⟨_, _, _, _, _, sends⟩ := readFromDiskAndSend_eq inv atTest isOpen
      rw [sends]
      refine ⟨_, rfl, .inl ?_⟩
      rw [List.map_singleton, transfer.datagram_seqNum _ _ inv.current_lt]
  | acknowledged number state timeout lastTimeout rr fits notAcked =>
      exact ⟨[], (List.append_nil _).symm, .inr (fun _ absent => by cases absent)⟩
  | resent number flag stack unconditional state timeout lastTimeout request noRr resendFlag
      inClosed fits notAcked =>
      obtain ⟨datagram, _, atMost, sends⟩ := resend_sends inv stack number unconditional
        resendFlag inClosed
      rw [sends]
      refine ⟨[datagram], rfl, .inr (fun other member => ⟨_, request, ?_⟩)⟩
      rw [List.mem_singleton.mp member]
      exact atMost (asked _ request)
  | idle state timeout lastTimeout noRr noResend fits acked =>
      exact ⟨[], (List.append_nil _).symm, .inr (fun _ absent => by cases absent)⟩

theorem step_eofAcked (acked : (step child input).state = .eofAcked) :
    child.state = .eofAcked ∨
      ∃ packet, received child input = some packet ∧ packet.flag = FlagType.eofAck.code := by
  have outcome := step_outcome child input
  generalize step child input = later at outcome acked
  cases outcome with
  | sent atTest isOpen =>
      change (if _ then _ else _) = State.eofAcked at acked
      split at acked <;> cases acked
  | acknowledged number state timeout lastTimeout rr fits notAcked => exact absurd acked notAcked
  | resent number flag stack unconditional state timeout lastTimeout asked noRr resendFlag
      inClosed fits notAcked => exact absurd acked notAcked
  | idle state timeout lastTimeout noRr noResend fits isAcked =>
      rcases isAcked acked with already | ⟨_, packet, receives, isAck⟩
      · exact .inl already
      · exact .inr ⟨packet, receives, isAck⟩

end CPE464.Project3.Server
