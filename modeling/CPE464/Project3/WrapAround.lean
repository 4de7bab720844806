/-
The send window when sequence numbers wrap around.

`acked` and the number of packets built count without bound; `lower` and `current` are
their low 32 bits.  As long as the RRs are in order the two counts stay within one window.
The slots are chosen by the wrapped numbers, so two packets of a window share one exactly
when they lie on either side of the wrap at a distance of `2 ^ 32 % windowSize`.
-/

import CPE464.Project3.SendHistory

namespace CPE464.Project3

open General

def outstanding (window : Window) : Nat := wrap32 (window.current + 2 ^ 32 - window.lower)

/-- The packets in the window are the last ones built.  They are at most `windowSize`, with
consecutive numbers from `lower` on and a slot each, and `getPacket` returns them. -/
structure WindowSound (packets : List Datagram) (window : Window) : Prop where
  consecutive : outstanding window ≤ window.windowSize
  distinct : ∀ low high, low < high → high < outstanding window →
    window.slot (wrap32 (window.lower + low)) ≠ window.slot (wrap32 (window.lower + high))
  reads : ∀ offset < outstanding window, ∀ stack,
    let slot := getPacket window stack (wrap32 (window.lower + offset))
    slot.1.seqNum = wrap32 (window.lower + offset) ∧
      packets[packets.length - outstanding window + offset]? = some (slot.1.bytes.take slot.2)

/-- The window size divides `2 ^ 32`, or the window does not reach across the wrap, or it is
too short for two of its packets to meet in a slot. -/
def SafeAtWrap (window : Window) : Prop :=
  2 ^ 32 % window.windowSize = 0 ∨ window.current = 0 ∨ window.lower ≤ window.current ∨
    outstanding window ≤ 2 ^ 32 % window.windowSize

structure Spans (windowSize acked packets : Nat) (window : Window) : Prop where
  behind : acked ≤ packets
  near : packets ≤ acked + windowSize
  lower_eq : window.lower = wrap32 (seqNumStart + acked)
  current_eq : window.current = wrap32 (seqNumStart + packets)
  upper_eq : window.upper = wrap32 (window.lower + windowSize)

section Arithmetic

/-- Two numbers of one turn of the ring that meet in a slot are `2 ^ 32 % size` apart, on
either side of the wrap. -/
theorem meet_across_wrap {size first low high : Nat} (small : first < 2 ^ 32)
    (before : low < high) (near : high < low + size) (bounded : high < 2 ^ 32)
    (meet : wrap32 (first + low) % size = wrap32 (first + high) % size) :
    first + low < 2 ^ 32 ∧ 2 ^ 32 ≤ first + high ∧ high - low = 2 ^ 32 % size := by
  simp only [wrap32] at meet
  by_cases lowBelow : first + low < 2 ^ 32
  · rw [Nat.mod_eq_of_lt lowBelow] at meet
    by_cases highBelow : first + high < 2 ^ 32
    · rw [Nat.mod_eq_of_lt highBelow] at meet
      exact absurd meet (mod_ne_of_near (by omega) (by omega))
    · have wrapped : (first + high) % 2 ^ 32 + 2 ^ 32 = first + low + (high - low) := by omega
      refine ⟨lowBelow, by omega, ?_⟩
      have apart : (first + low + 2 ^ 32) % size = (first + low + (high - low)) % size := by
        rw [← wrapped, Nat.add_mod, meet, ← Nat.add_mod]
      have same : 2 ^ 32 % size = (high - low) % size :=
        Nat.ModEq.add_left_cancel' (first + low) apart
      rw [same, Nat.mod_eq_of_lt (by omega)]
  · have lowWrapped : (first + low) % 2 ^ 32 = first + low - 2 ^ 32 := by omega
    have highWrapped : (first + high) % 2 ^ 32 = first + high - 2 ^ 32 := by omega
    rw [lowWrapped, highWrapped] at meet
    exact absurd meet (mod_ne_of_near (by omega) (by omega))

theorem met_across_wrap {size first low : Nat} (below : first + low < 2 ^ 32)
    (above : 2 ^ 32 ≤ first + (low + 2 ^ 32 % size)) (short : low + 2 ^ 32 % size < 2 ^ 32) :
    wrap32 (first + low) % size = wrap32 (first + (low + 2 ^ 32 % size)) % size := by
  have wrapped : (first + (low + 2 ^ 32 % size)) % 2 ^ 32 + 2 ^ 32 =
      first + low + 2 ^ 32 % size := by omega
  have same : ((first + (low + 2 ^ 32 % size)) % 2 ^ 32 + 2 ^ 32) % size =
      (first + low + 2 ^ 32) % size := by
    rw [wrapped, Nat.add_mod_mod]
  rw [wrap32, wrap32, Nat.mod_eq_of_lt below]
  exact (Nat.ModEq.add_right_cancel' (2 ^ 32) same).symm

end Arithmetic

namespace Spans

variable {windowSize acked packets : Nat} {window : Window}

theorem outstanding_eq (spans : Spans windowSize acked packets window)
    (bound : windowSize < 2 ^ 32) : outstanding window = packets - acked := by
  have behind := spans.behind
  have near := spans.near
  rw [outstanding, spans.lower_eq, spans.current_eq, wrap32, wrap32, wrap32]
  omega

theorem edges_lt (spans : Spans windowSize acked packets window) :
    window.lower < 2 ^ 32 ∧ window.current < 2 ^ 32 := by
  rw [spans.lower_eq, spans.current_eq]
  exact ⟨Nat.mod_lt _ (by decide), Nat.mod_lt _ (by decide)⟩

theorem lower_add (spans : Spans windowSize acked packets window) (bound : windowSize < 2 ^ 32) :
    window.lower + outstanding window = window.current ∨
      window.lower + outstanding window = window.current + 2 ^ 32 ∧
        window.current < window.lower := by
  have behind := spans.behind
  have near := spans.near
  rw [spans.outstanding_eq bound, spans.lower_eq, spans.current_eq, wrap32, wrap32]
  omega

theorem distinct_iff (spans : Spans windowSize acked packets window)
    (bound : windowSize < 2 ^ 32) (sized : window.windowSize = windowSize) :
    (∀ low high, low < high → high < outstanding window →
      window.slot (wrap32 (window.lower + low)) ≠ window.slot (wrap32 (window.lower + high))) ↔
      SafeAtWrap window := by
  obtain ⟨below, currentBelow⟩ := spans.edges_lt
  have ends := spans.lower_add bound
  have near := spans.near
  have spanned := spans.outstanding_eq bound
  simp only [Window.slot, SafeAtWrap, sized]
  constructor
  · intro distinct
    by_contra meeting
    simp only [not_or, Nat.not_le] at meeting
    obtain ⟨divides, wrapped, across, long⟩ := meeting
    -- the pair that ends right behind the wrap, or that begins the window
    apply distinct (2 ^ 32 - window.lower - 2 ^ 32 % windowSize)
      (2 ^ 32 - window.lower - 2 ^ 32 % windowSize + 2 ^ 32 % windowSize) (by omega) (by omega)
    exact met_across_wrap (by omega) (by omega) (by omega)
  · intro apartOrShort low high before inside meet
    obtain ⟨lowBelow, highAbove, apart⟩ :=
      meet_across_wrap below before (by omega) (by omega) meet
    omega

theorem acknowledge (spans : Spans windowSize acked packets window)
    (bound : windowSize < 2 ^ 32) (sized : window.windowSize = windowSize) {number : Nat}
    (small : number < 2 ^ 32)
    (inOrder : wrap32 (number + 2 ^ 32 - window.lower) ≤ outstanding window) :
    Spans windowSize (acked + wrap32 (number + 2 ^ 32 - window.lower)) packets
      (removePacket window number) := by
  have behind := spans.behind
  have near := spans.near
  have lower := spans.lower_eq
  rw [spans.outstanding_eq bound] at inOrder
  refine ⟨by omega, by omega, ?_, spans.current_eq, ?_⟩
  · change number = _
    rw [wrap32] at lower inOrder ⊢
    rw [wrap32]
    omega
  · rw [removePacket, sized]

theorem send (spans : Spans windowSize acked packets window) (isOpen : isWindowOpen window = true)
    {later : Window} (lower : later.lower = window.lower) (upper : later.upper = window.upper)
    (current : later.current = wrap32 (window.current + 1)) :
    Spans windowSize acked (packets + 1) later := by
  have behind := spans.behind
  have near := spans.near
  have notFull : packets ≠ acked + windowSize := by
    intro full
    rw [isWindowOpen, bne_iff_ne, spans.current_eq, spans.upper_eq, spans.lower_eq, full] at isOpen
    apply isOpen
    rw [wrap32, wrap32, wrap32, Nat.mod_add_mod, Nat.add_assoc]
  refine ⟨by omega, by omega, lower.trans spans.lower_eq, ?_, ?_⟩
  · rw [current, spans.current_eq, wrap32, wrap32, wrap32, Nat.mod_add_mod, Nat.add_assoc]
  · rw [upper, lower, spans.upper_eq]

end Spans

namespace Server

/-- An RR acknowledges no less than the one before, and no more than has been sent, in the
order in which the numbers are used. -/
def AcksInOrder (child : Child) (input : Input) : Prop :=
  ∀ number ∈ rrReceived child input,
    wrap32 (number + 2 ^ 32 - child.window.lower) ≤ outstanding child.window

section Step

variable {windowSize bufferSize acked : Nat} {packets : List Datagram} {child : Child}
  {input : Input}

theorem rrReceived_lt {number : Nat} (follows : rrReceived child input = some number) :
    number < 2 ^ 32 := by
  cases receives : received child input with
  | none => simp [rrReceived, receives] at follows
  | some packet =>
      simp only [rrReceived, receives] at follows
      split at follows
      · obtain rfl := Option.some.inj follows
        exact ntohl_lt _
      · cases follows

theorem SendHistory.spans_step (history : SendHistory windowSize bufferSize packets child)
    (bufferMax : bufferSize ≤ payloadMax) (bound : windowSize < 2 ^ 32)
    (spans : Spans windowSize acked packets.length child.window)
    (inOrder : AcksInOrder child input) :
    ∃ later, Spans windowSize later
      (packets ++ if sends child then [nextDatagram child] else []).length
      (step child input).window := by
  cases sending : sends child with
  | true =>
      have isOpen : isWindowOpen child.window = true := by
        simp only [sends, Bool.and_eq_true] at sending
        exact sending.2
      have small : child.bufferSize ≤ payloadMax := history.bufferSize_eq ▸ bufferMax
      have numbered : (nextPacket child).seqNum = child.window.current := by
        rw [nextPacket_seqNum small, history.current_eq, history.seqNum_eq, wrap32, wrap32,
          Nat.mod_mod]
      rw [step_of_sends sending, readFromDiskAndSend_frame small,
        addPacket_current _ _ _ isOpen numbered, if_pos rfl, List.length_append,
        List.length_singleton]
      exact ⟨acked, spans.send isOpen rfl rfl rfl⟩
  | false =>
      rw [if_neg Bool.false_ne_true, List.append_nil]
      have outcome := step_outcome child input
      generalize step child input = later at outcome ⊢
      cases outcome with
      | sent atTest isOpen => simp [sends, atTest, isOpen] at sending
      | acknowledged number state timeout lastTimeout rr fits notAcked =>
          exact ⟨_, spans.acknowledge bound history.windowSize_eq (rrReceived_lt rr)
            (inOrder number rr)⟩
      | resent number flag stack unconditional state timeout lastTimeout asked noRr resendFlag
          inClosed fits notAcked => exact ⟨acked, spans⟩
      | idle state timeout lastTimeout noRr noResend fits isAcked => exact ⟨acked, spans⟩

theorem SendHistory.spans_run {inputs : List Input}
    (history : SendHistory windowSize bufferSize packets child)
    (bufferMax : bufferSize ≤ payloadMax) (bound : windowSize < 2 ^ 32)
    (spans : ∃ acked, Spans windowSize acked packets.length child.window)
    (inOrder : EveryStep step AcksInOrder child inputs) :
    ∃ acked, Spans windowSize acked (packets ++ built child inputs).length
      (run step child inputs).window := by
  induction inputs generalizing packets child with
  | nil =>
      rw [built, List.append_nil]
      exact spans
  | cons input rest ih =>
      obtain ⟨acked, spans⟩ := spans
      rw [built, ← List.append_assoc]
      exact ih (history.onward bufferMax input)
        (history.spans_step bufferMax bound spans inOrder.1) inOrder.2

theorem SendHistory.sound_iff (history : SendHistory windowSize bufferSize packets child)
    (bufferMax : bufferSize ≤ payloadMax) (bound : windowSize < 2 ^ 32)
    (spans : Spans windowSize acked packets.length child.window) :
    WindowSound packets child.window ↔ SafeAtWrap child.window := by
  have sized := history.windowSize_eq
  have spanned := spans.outstanding_eq bound
  have behind := spans.behind
  have near := spans.near
  have number : ∀ offset, wrap32 (child.window.lower + offset) =
      wrap32 (seqNumStart + (acked + offset)) := fun offset => by
    rw [spans.lower_eq, wrap32, wrap32, wrap32, Nat.mod_add_mod, Nat.add_assoc]
  rw [← spans.distinct_iff bound sized]
  refine ⟨fun sound => sound.distinct, fun distinct => ⟨by omega, distinct, ?_⟩⟩
  intro offset inside stack
  have kept : ∀ later, acked + offset < later → later < packets.length →
      place windowSize later ≠ place windowSize (acked + offset) := by
    intro later above below
    have apart := distinct offset (later - acked) (by omega) (by omega)
    rw [number, number, Nat.add_sub_cancel' (by omega), Window.slot, Window.slot, sized] at apart
    exact apart.symm
  have atSlot : wrap32 (child.window.lower + offset) % windowSize =
      place windowSize (acked + offset) := by
    rw [number, place]
  obtain ⟨numbered, held⟩ := history.read bufferMax (by omega) kept atSlot stack
  refine ⟨by rw [numbered, number], ?_⟩
  have write : packets.length - outstanding child.window + offset = acked + offset := by omega
  rw [write]
  exact held

end Step

theorem start_spans (windowSize bufferSize : Nat) (file : List UInt8) :
    Spans windowSize 0 0 (start windowSize bufferSize file).window where
  behind := Nat.le_refl 0
  near := Nat.zero_le _
  lower_eq := rfl
  current_eq := rfl
  upper_eq := rfl

theorem run_spans {windowSize bufferSize : Nat} (bufferMax : bufferSize ≤ payloadMax)
    (bound : windowSize < 2 ^ 32) (file : List UInt8) {inputs : List Input}
    (inOrder : EveryStep step AcksInOrder (start windowSize bufferSize file) inputs) :
    ∃ acked, Spans windowSize acked (built (start windowSize bufferSize file) inputs).length
      (run step (start windowSize bufferSize file) inputs).window :=
  (start_history windowSize bufferSize file).spans_run bufferMax bound
    ⟨0, start_spans windowSize bufferSize file⟩ inOrder

/-! ### A file of more than 2 ^ 32 packets -/

/-- The child stands at a loop with these counts, in a file that it reads byte by byte. -/
structure At (state : State) (windowSize acked next : Nat) (child : Child) : Prop where
  state_eq : child.state = state
  atEof_eq : child.atEof = false
  bufferSize_eq : child.bufferSize = 1
  windowSize_eq : child.window.windowSize = windowSize
  seqNum_eq : child.seqNum = wrap32 next
  lower_eq : child.window.lower = wrap32 acked
  current_eq : child.window.current = wrap32 next
  upper_eq : child.window.upper = wrap32 (acked + windowSize)

namespace At

variable {windowSize acked next : Nat} {child : Child}

theorem send (stands : At .windowOpen windowSize acked next child) (bound : windowSize < 2 ^ 32)
    (behind : acked ≤ next) (room : next < acked + windowSize) (more : 1 ≤ child.file.length) :
    At .checkRrSrej windowSize acked (next + 1) (step child (pass none)) ∧
      (step child (pass none)).file = child.file.drop 1 := by
  have isOpen : isWindowOpen child.window = true := by
    rw [isWindowOpen, bne_iff_ne, stands.current_eq, stands.upper_eq, wrap32, wrap32]
    omega
  have sending : sends child = true := by
    simp [sends, stands.state_eq, isOpen]
  have small : child.bufferSize ≤ payloadMax := by
    rw [stands.bufferSize_eq]
    decide
  have numbered : (nextPacket child).seqNum = child.window.current := by
    rw [nextPacket_seqNum small, stands.current_eq, stands.seqNum_eq, wrap32, wrap32, Nat.mod_mod]
  have notEof : meetsEof child = false := by
    rw [meetsEof, stands.atEof_eq, Bool.false_or, nextData, stands.bufferSize_eq, List.length_take,
      decide_eq_false_iff_not]
    omega
  have succ : wrap32 (wrap32 next + 1) = wrap32 (next + 1) := by
    rw [wrap32, wrap32, wrap32, Nat.mod_add_mod]
  rw [step_of_sends sending, readFromDiskAndSend_frame small,
    addPacket_current _ _ _ isOpen numbered, notEof]
  exact ⟨⟨rfl, rfl, stands.bufferSize_eq, stands.windowSize_eq,
    (congrArg (fun number => wrap32 (number + 1)) stands.seqNum_eq).trans succ, stands.lower_eq,
    (congrArg (fun number => wrap32 (number + 1)) stands.current_eq).trans succ, stands.upper_eq⟩,
    congrArg child.file.drop stands.bufferSize_eq⟩

theorem poll (stands : At .checkRrSrej windowSize acked next child) :
    At .windowOpen windowSize acked next (step child (pass none)) ∧
      (step child (pass none)).file = child.file := by
  have moved : step child (pass none) = { child with state := .windowOpen } := by
    simp only [step, stands.state_eq, sendAndReceiveData, pass]
  rw [moved]
  exact ⟨⟨rfl, stands.atEof_eq, stands.bufferSize_eq, stands.windowSize_eq, stands.seqNum_eq,
    stands.lower_eq, stands.current_eq, stands.upper_eq⟩, rfl⟩

theorem hear (stands : At .checkRrSrej windowSize acked next child) (number : Nat) :
    At .checkRrSrej windowSize number next (step child (rrArrives (wrap32 number))) ∧
      (step child (rrArrives (wrap32 number))).file = child.file := by
  have control : IsControl .rr (wrap32 number)
      ((buildRrPacket 0 (wrap32 number)).bytes.take rrPacketSsize) :=
    buildRrPacket_isControl 0 (Nat.mod_lt number (by decide))
  have moved : step child (rrArrives (wrap32 number)) =
      { child with window := removePacket child.window (wrap32 number) } := by
    refine Eq.trans ?_ (processRrSrej_rr control child Packet.zero)
    simp only [step, stands.state_eq, sendAndReceiveData, rrArrives, pass]
  rw [moved]
  refine ⟨⟨stands.state_eq, stands.atEof_eq, stands.bufferSize_eq, stands.windowSize_eq,
    stands.seqNum_eq, rfl, stands.current_eq, ?_⟩, rfl⟩
  change wrap32 (wrap32 number + child.window.windowSize) = _
  rw [stands.windowSize_eq, wrap32, wrap32, wrap32, Nat.mod_add_mod]

theorem hear_inOrder (stands : At .checkRrSrej windowSize acked next child)
    (bound : windowSize < 2 ^ 32) (near : next ≤ acked + windowSize) {number : Nat}
    (above : acked ≤ number) (below : number ≤ next) :
    AcksInOrder child (rrArrives (wrap32 number)) := by
  have polling : polls child = true := by
    simp only [polls, stands.state_eq]
  have control : IsControl .rr (wrap32 number)
      ((buildRrPacket 0 (wrap32 number)).bytes.take rrPacketSsize) :=
    buildRrPacket_isControl 0 (Nat.mod_lt number (by decide))
  have heard : rrReceived child (rrArrives (wrap32 number)) = some (wrap32 number) :=
    rrReceived_rr polling control Packet.zero
  intro other follows
  obtain rfl := Option.some.inj (heard.symm.trans follows)
  rw [outstanding, stands.lower_eq, stands.current_eq]
  simp only [wrap32]
  omega

end At

theorem pass_inOrder (child : Child) : AcksInOrder child (pass none) := by
  intro number follows
  simp [rrReceived, received, pass] at follows

def acknowledging (next : Nat) : List Input :=
  [pass none, rrArrives (wrap32 (next + 1)), pass none]

theorem At.acknowledging {windowSize next : Nat} {child : Child}
    (stands : At .windowOpen windowSize next next child) (positive : 1 ≤ windowSize)
    (bound : windowSize < 2 ^ 32) (more : 1 ≤ child.file.length) :
    At .windowOpen windowSize (next + 1) (next + 1) (run step child (acknowledging next)) ∧
      (run step child (acknowledging next)).file = child.file.drop 1 ∧
      EveryStep step AcksInOrder child (acknowledging next) := by
  obtain ⟨sent, read⟩ := stands.send bound (Nat.le_refl _) (by omega) more
  obtain ⟨heard, unread⟩ := sent.hear (next + 1)
  obtain ⟨polled, unreadStill⟩ := heard.poll
  have inOrder := sent.hear_inOrder bound (by omega) (Nat.le_succ next) (Nat.le_refl _)
  exact ⟨polled, unreadStill.trans (unread.trans read),
    pass_inOrder _, inOrder, pass_inOrder _, trivial⟩

theorem At.acknowledging_run {windowSize next : Nat} {child : Child}
    (stands : At .windowOpen windowSize next next child) (positive : 1 ≤ windowSize)
    (bound : windowSize < 2 ^ 32) (count : Nat) (more : count ≤ child.file.length) :
    let inputs := (List.range count).flatMap (fun index => Server.acknowledging (next + index))
    At .windowOpen windowSize (next + count) (next + count) (run step child inputs) ∧
      (run step child inputs).file = child.file.drop count ∧
      EveryStep step AcksInOrder child inputs := by
  intro inputs
  induction count with
  | zero => exact ⟨stands, rfl, trivial⟩
  | succ count ih =>
      obtain ⟨reached, read, inOrder⟩ := ih (Nat.le_of_succ_le more)
      obtain ⟨onward, readOn, inOrderOn⟩ := reached.acknowledging positive bound (by
        rw [read, List.length_drop]
        omega)
      have split : inputs = (List.range count).flatMap
          (fun index => Server.acknowledging (next + index)) ++
            Server.acknowledging (next + count) := by
        simp only [inputs, List.range_succ, List.flatMap_append, List.flatMap_singleton]
      rw [split, run_append]
      refine ⟨onward, ?_, (everyStep_append _ _ _).mpr ⟨inOrder, inOrderOn⟩⟩
      rw [readOn, read, List.drop_drop]

theorem start_at (windowSize : Nat) (file : List UInt8) :
    At .windowOpen windowSize 1 1 (start windowSize 1 file) :=
  ⟨rfl, rfl, rfl, rfl, rfl, rfl, rfl, rfl⟩

/-- So many packets are acknowledged one by one, and two more are sent. -/
def twoUnacknowledged (count : Nat) : List Input :=
  (List.range count).flatMap (fun index => acknowledging (1 + index)) ++
    [pass none, pass none, pass none]

theorem twoUnacknowledged_run {windowSize : Nat} (wide : 2 ≤ windowSize)
    (bound : windowSize < 2 ^ 32) {file : List UInt8} (count : Nat)
    (long : count + 2 ≤ file.length) :
    At .checkRrSrej windowSize (1 + count) (1 + count + 2)
        (run step (start windowSize 1 file) (twoUnacknowledged count)) ∧
      EveryStep step AcksInOrder (start windowSize 1 file) (twoUnacknowledged count) := by
  obtain ⟨reached, read, inOrder⟩ :=
    (start_at windowSize file).acknowledging_run (by omega) bound count (by
      change count ≤ file.length
      omega)
  change _ = file.drop count at read
  obtain ⟨first, readFirst⟩ := reached.send bound (Nat.le_refl _) (by omega) (by
    rw [read, List.length_drop]
    omega)
  obtain ⟨polled, unread⟩ := first.poll
  obtain ⟨second, _⟩ := polled.send bound (by omega) (by omega) (by
    rw [unread, readFirst, read, List.length_drop, List.length_drop]
    omega)
  rw [twoUnacknowledged, run_append]
  exact ⟨second, (everyStep_append _ _ _).mpr
    ⟨inOrder, pass_inOrder _, pass_inOrder _, pass_inOrder _, trivial⟩⟩

/-! ### Every run -/

/-- While the RRs are in order, however many packets have been sent: the window is sound in
exactly the states in which none of its packets meet across the wrap. -/
theorem window_sound_iff (windowSize bufferSize : Nat) (windowMax : windowSize ≤ 2 ^ 30)
    (bufferMax : bufferSize ≤ payloadMax) (file : List UInt8) (inputs : List Input)
    (inOrder : EveryStep step AcksInOrder (start windowSize bufferSize file) inputs) :
    let child := run step (start windowSize bufferSize file) inputs
    WindowSound (built (start windowSize bufferSize file) inputs) child.window ↔
      SafeAtWrap child.window := by
  intro child
  have bound : windowSize < 2 ^ 32 := Nat.lt_of_le_of_lt windowMax (by decide)
  obtain ⟨acked, spans⟩ := run_spans bufferMax bound file inOrder
  exact (run_history windowSize bufferMax file inputs).sound_iff bufferMax bound spans

/-- Two unacknowledged packets lie on either side of the wrap, in a window whose size divides
2 ^ 32. -/
theorem window_sound_iff_across_wrap :
    ∃ (file : List UInt8) (inputs : List Input),
      let child := run step (start 4 1 file) inputs
      child.window.lower = 2 ^ 32 - 1 ∧ child.window.current = 1 ∧
        WindowSound (built (start 4 1 file) inputs) child.window := by
  obtain ⟨file, long⟩ : ∃ file : List UInt8, file.length = 2 ^ 32 :=
    ⟨List.replicate (2 ^ 32) 65, List.length_replicate⟩
  obtain ⟨count, countEq⟩ : ∃ count, count = 2 ^ 32 - 2 := ⟨_, rfl⟩
  obtain ⟨reached, inOrder⟩ := twoUnacknowledged_run (show 2 ≤ 4 by decide) (by decide) count
    (show count + 2 ≤ file.length by omega)
  refine ⟨file, twoUnacknowledged count, ?_, ?_,
    (window_sound_iff 4 1 (by decide) (by decide) file _ inOrder).mpr (.inl ?_)⟩
  · rw [reached.lower_eq, countEq]
    decide
  · rw [reached.current_eq, countEq]
    decide
  · rw [reached.windowSize_eq]
    decide

/-- The packets numbered 2 ^ 32 - 1 and 0 are in one window of three slots, and both belong
to slot 0. -/
theorem window_across_wrap_collides :
    ¬∀ (windowSize bufferSize : Nat) (file : List UInt8) (inputs : List Input),
      1 ≤ windowSize → windowSize ≤ 2 ^ 30 → payloadMin ≤ bufferSize → bufferSize ≤ payloadMax →
      EveryStep step AcksInOrder (start windowSize bufferSize file) inputs →
      WindowSound (built (start windowSize bufferSize file) inputs)
        (run step (start windowSize bufferSize file) inputs).window := by
  intro claim
  obtain ⟨file, long⟩ : ∃ file : List UInt8, file.length = 2 ^ 32 :=
    ⟨List.replicate (2 ^ 32) 65, List.length_replicate⟩
  obtain ⟨count, countEq⟩ : ∃ count, count = 2 ^ 32 - 2 := ⟨_, rfl⟩
  have enough : count + 2 ≤ file.length := by omega
  obtain ⟨reached, inOrder⟩ :=
    twoUnacknowledged_run (show 2 ≤ 3 by decide) (by decide) count enough
  obtain ⟨acked, spans⟩ := run_spans (show 1 ≤ payloadMax by decide)
    (show 3 < 2 ^ 32 by decide) file inOrder
  have sound := claim 3 1 file (twoUnacknowledged count) (by decide) (by decide) (by decide)
    (by decide) inOrder
  have safe := ((run_history 3 (by decide) file _).sound_iff (by decide) (by decide) spans).mp
    sound
  rw [SafeAtWrap, outstanding, reached.windowSize_eq, reached.lower_eq, reached.current_eq,
    countEq] at safe
  exact absurd safe (by decide)

end Server

end CPE464.Project3
