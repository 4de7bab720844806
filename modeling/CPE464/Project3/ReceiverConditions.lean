/-
When the receive window of rcopy does what its callers expect of it.

The handlers rely on four properties of the window that it has under a condition only:
`addPacket` keeps what it accepts, it never refuses a packet of the window, the slot of the
expected packet is free, and a packet beyond the window is not stored.  Each is shown to
fail on a short run, and to hold exactly under the condition stated for it.
-/

import CPE464.Project3.ReceiverCorrectness

namespace CPE464.Project3.Rcopy

open General

/-! ### Storing -/

/-- What `addPacket` returns `true` for is held afterwards, along with everything that was
held before. -/
def KeepsAccepted (window : Window) (packet : Packet) (dataSize : Nat) : Prop :=
  (addPacket window packet dataSize).1 = true →
    packetValidInWindow (addPacket window packet dataSize).2 packet.seqNum = true ∧
      (∀ stack, getPacket (addPacket window packet dataSize).2 stack packet.seqNum =
        (stack.memcpy 0 (packet.bytes.take (packetHeaderSsize + window.bufferSize)),
          dataSize)) ∧
      ∀ number, window.lower ≤ number → number < window.upper → number ≠ packet.seqNum →
        packetValidInWindow window number = true →
          (addPacket window packet dataSize).2.elements
              ((addPacket window packet dataSize).2.slot number) =
            window.elements (window.slot number)

section Storing

variable {transfer : Transfer} {window : Window} {packet : Packet} {dataSize : Nat}

/-- A packet less than a turn of the ring ahead of `current` stays in its slot. -/
theorem added_own_element (near : packet.seqNum < window.current + window.windowSize) :
    (addedWindow window packet dataSize).elements (window.slot packet.seqNum) =
      storedElement window packet dataSize := by
  rw [ReceiveWindow.added_unswept, ReceiveWindow.replaced_same]
  intro number above below
  exact mod_ne_of_near below (by omega)

/-- A packet further ahead has its slot cleared again by the sweep. -/
theorem added_own_cleared (inv : ReceiveWindow transfer window)
    (ahead : window.current + window.windowSize ≤ packet.seqNum) :
    packetValidInWindow (addedWindow window packet dataSize) packet.seqNum = false := by
  have positive := transfer.windowSize_pos
  have sized := inv.windowSize_eq
  have swept := ReceiveWindow.added_swept window packet dataSize (window.slot packet.seqNum)
    ⟨packet.seqNum - window.windowSize, by omega, by omega, by
      rw [Window.slot, Window.slot, ← Nat.mod_eq_sub_mod (by omega)]⟩
  exact congrArg WindowElement.valid swept

theorem added_other_slot (inv : ReceiveWindow transfer window)
    (inside : window.lower ≤ packet.seqNum ∧ packet.seqNum < window.lower + window.windowSize)
    {number : Nat} (above : window.lower ≤ number)
    (below : number < window.lower + window.windowSize) (other : number ≠ packet.seqNum)
    (valid : packetValidInWindow window number = true) :
    (addedWindow window packet dataSize).elements (window.slot number) =
      window.elements (window.slot number) := by
  obtain ⟨held, low, high, sameSlot, _⟩ := inv.held _ valid
  change held % window.windowSize = number % window.windowSize at sameSlot
  have ownSlot : window.slot number ≠ window.slot packet.seqNum := by
    rcases Nat.lt_or_gt_of_ne other with before | after
    · exact mod_ne_of_near before (by omega)
    · exact (mod_ne_of_near after (by omega)).symm
  rw [ReceiveWindow.added_unswept, ReceiveWindow.replaced_other _ _ _ ownSlot]
  intro swept first last atSlot
  change swept % window.windowSize = number % window.windowSize at atSlot
  -- a swept number lies in the window and above everything that is held
  have isNumber : swept = number := by
    rcases Nat.le_total swept number with before | after
    · exact eq_of_mod_eq before (by omega) atSlot
    · exact (eq_of_mod_eq after (by omega) atSlot.symm).symm
  have isHeld : held = number := by
    rcases Nat.le_total held number with before | after
    · exact eq_of_mod_eq before (by omega) sameSlot
    · exact (eq_of_mod_eq after (by omega) sameSlot.symm).symm
  omega

theorem keepsAccepted_iff (inv : ReceiveWindow transfer window)
    (carries : Carries transfer packet.seqNum packet.bytes dataSize)
    (above : window.lower < packet.seqNum) (below : packet.seqNum < window.upper) :
    KeepsAccepted window packet dataSize ↔
      (isWindowOpen window = true → packet.seqNum < window.current + window.windowSize) := by
  have edge : window.upper ≤ window.lower + window.windowSize := by
    rw [inv.upper_eq, inv.windowSize_eq]
    exact Nat.mod_le _ _
  have sized := inv.windowSize_eq
  have accepted := addPacket_accepts window packet dataSize
  cases isOpen : isWindowOpen window with
  | false =>
      rw [isOpen] at accepted
      exact iff_of_true (fun isTrue => by simp [accepted] at isTrue) (fun no => by cases no)
  | true =>
      have noWrap := inv.current_succ.resolve_right (by omega)
      have added := addPacket_open window packet dataSize isOpen carries.seqNum_lt noWrap
      rw [KeepsAccepted, added]
      constructor
      · intro keeps _
        by_contra ahead
        have cleared : packetValidInWindow (addedWindow window packet dataSize)
            packet.seqNum = false := added_own_cleared inv (Nat.not_lt.mp ahead)
        cases cleared.symm.trans (keeps rfl).1
      · intro near _
        have own : (addedWindow window packet dataSize).elements (window.slot packet.seqNum) =
            storedElement window packet dataSize := added_own_element (near rfl)
        refine ⟨congrArg WindowElement.valid own, ?_, ?_⟩
        · intro stack
          exact congrArg (fun element => (stack.memcpy 0 element.packet, element.dataSize)) own
        · intro number low high other valid
          exact added_other_slot inv ⟨by omega, by omega⟩ low (by omega) other valid

end Storing

/-- In every state that any arrivals of packets of the file lead to, and for every packet of
the file strictly inside the receive window: `addPacket` keeps what it accepts exactly when
the window is closed, so that it accepts nothing, or the packet is less than a turn of the
ring ahead of `current`. -/
theorem addPacket_keeps_accepted_iff (transfer : Transfer) (fromFileName : List UInt8)
    (inputs : List Input)
    (allowed : EveryStep stateMachine (Allowed transfer anyArrival)
      (start transfer.windowSize transfer.bufferSize fromFileName) inputs)
    (packet : Packet) (dataSize : Nat)
    (carries : Carries transfer packet.seqNum packet.bytes dataSize) :
    let window := (run stateMachine
      (start transfer.windowSize transfer.bufferSize fromFileName) inputs).statics.window
    window.lower < packet.seqNum → packet.seqNum < window.upper →
      (KeepsAccepted window packet dataSize ↔
        (isWindowOpen window = true →
          packet.seqNum < window.current + window.windowSize)) :=
  fun above below =>
    keepsAccepted_iff (run_inv anyArrival_stable allowed).statics.receive carries above below

theorem addPacket_keeps_accepted_iff_first_gap :
    let window := (run stateMachine (start 3 1 [])
      (handshake ++ arriving (eightBytes 3) [1])).statics.window
    let packet := Packet.zero.memcpy 0 ((eightBytes 3).datagram 3 .data)
    isWindowOpen window = true ∧ KeepsAccepted window packet 8 :=
  ⟨by decide +kernel,
    (addPacket_keeps_accepted_iff (eightBytes 3) []
      (handshake ++ arriving (eightBytes 3) [1]) (by decide +kernel)
      (Packet.zero.memcpy 0 ((eightBytes 3).datagram 3 .data)) 8
      ⟨by decide +kernel, by decide +kernel⟩ (by decide +kernel) (by decide +kernel)).mpr
      (by decide +kernel)⟩

/-- Packet 1 arrives in order and leaves `current` behind; packet 3, the last of a window of
two, is then accepted and its slot cleared by the same call. -/
theorem stale_current_clears_slot :
    ¬∀ (transfer : Transfer) (fromFileName : List UInt8) (inputs : List Input),
      EveryStep stateMachine (Allowed transfer anyArrival)
        (start transfer.windowSize transfer.bufferSize fromFileName) inputs →
      ∀ (packet : Packet) (dataSize : Nat),
        Carries transfer packet.seqNum packet.bytes dataSize →
        let window := (run stateMachine
          (start transfer.windowSize transfer.bufferSize fromFileName) inputs).statics.window
        window.lower < packet.seqNum → packet.seqNum < window.upper →
          KeepsAccepted window packet dataSize :=
  fun claim => absurd
    (claim (eightBytes 2) []
      (handshake ++ arriving (eightBytes 2) [1]) (by decide +kernel)
      (Packet.zero.memcpy 0 ((eightBytes 2).datagram 3 .data)) 8
      ⟨by decide +kernel, by decide +kernel⟩ (by decide +kernel) (by decide +kernel)
      (by decide +kernel)).1
    (by decide +kernel)

/-! ### Refusals -/

/-- `addPacket` is called while buffering, with `current` at the upper edge: the packet is
beyond the expected one and its slot is free. -/
def RefusedAt (process : Process) (seqNum : Nat) : Prop :=
  activeBuffering process = true ∧ isWindowOpen process.statics.window = false ∧
    process.statics.expected < seqNum ∧
    packetValidInWindow process.statics.window seqNum = false

instance (process : Process) (seqNum : Nat) : Decidable (RefusedAt process seqNum) :=
  inferInstanceAs (Decidable (_ ∧ _ ∧ _ ∧ _))

section Refusals

variable {transfer : Transfer} {process : Process} {input : Input} {seqNum : Nat}

/-- Short of wrap-around the window is open until `current` reaches the upper edge. -/
theorem isWindowOpen_of_roomy (inv : StaticsInv transfer process.statics)
    (roomy : process.statics.window.current <
      process.statics.expected + transfer.windowSize)
    (above : process.statics.expected < transfer.packetCount) :
    isWindowOpen process.statics.window = true := by
  have room := transfer.packetCount_add_lt
  have upper := inv.receive.upper_eq
  rw [inv.lower_eq, wrap32, Nat.mod_eq_of_lt (by omega)] at upper
  rw [isWindowOpen, bne_iff_ne]
  omega

theorem refuses_iff (inv : StaticsInv transfer process.statics)
    (roomy : Roomy transfer process.statics (activeBuffering process))
    (last : seqNum ≤ transfer.packetCount) :
    refuses process.statics (activeBuffering process) seqNum = true ↔
      RefusedAt process seqNum := by
  cases buffering : activeBuffering process with
  | true => simp [refuses, RefusedAt, buffering, and_assoc, and_left_comm]
  | false =>
      refine iff_of_false ?_ (fun refused => by simp [refused.1] at buffering)
      intro refused
      simp only [refuses, Bool.and_eq_true, decide_eq_true_eq, Bool.not_eq_true'] at refused
      have isOpen := isWindowOpen_of_roomy inv (roomy buffering) (by omega)
      rw [isOpen] at refused
      cases refused.1.2

theorem continues_iff (inv : WindowedInv transfer process) (running : process.state ≠ .exit)
    (allowed : Allowed transfer (inWindowArrival transfer) process input) :
    (stateMachine process input).state ≠ .exit ↔
      ∀ handled ∈ handling process input, ¬RefusedAt process handled.1.seqNum := by
  rcases stateMachine_step inv.holds.statics inv.holds.control allowed with
    ⟨packet, dataSize, seqNum, isHandled, handles⟩ | ⟨nothing, quiet⟩
  · have numbered : packet.seqNum = seqNum := handles.carries.seqNumOf_eq
    have refused := refuses_iff inv.holds.statics (inv.inside.roomy handles.alive)
      handles.carries.isPacket.last
    rw [ne_eq, handles.exits, handleData_exit_iff _ handles.carries, refused, isHandled]
    constructor
    · intro accepted handled isThis
      obtain rfl := Option.some.inj isThis
      exact numbered.symm ▸ accepted
    · intro accepted
      exact numbered ▸ accepted _ rfl
  · apply iff_of_true
    · exact fun isExit => running (quiet.exits isExit)
    · exact fun handled isHandled => absurd isHandled (not_mem_handling nothing)

end Refusals

/-- With every arrival inside the window, rcopy is still running after a run, or has ended
in good order, exactly when no handled packet of it was refused. -/
theorem runs_without_exit_iff (transfer : Transfer) (fromFileName : List UInt8)
    (inputs : List Input)
    (allowed : EveryStep stateMachine (Allowed transfer (inWindowArrival transfer))
      (start transfer.windowSize transfer.bufferSize fromFileName) inputs) :
    (run stateMachine
        (start transfer.windowSize transfer.bufferSize fromFileName) inputs).state ≠ .exit ↔
      EveryStep stateMachine
        (fun process input =>
          ∀ handled ∈ handling process input, ¬RefusedAt process handled.1.seqNum)
        (start transfer.windowSize transfer.bufferSize fromFileName) inputs := by
  have avoids : EveryStep stateMachine
      (fun process input => (stateMachine process input).state ≠ .exit)
        (start transfer.windowSize transfer.bufferSize fromFileName) inputs ↔
      (run stateMachine
        (start transfer.windowSize transfer.bufferSize fromFileName) inputs).state ≠ .exit :=
    everyStep_avoids (fun process : Process => process.state = .exit)
      (fun process input isExit => by simp only [stateMachine, isExit]) (by simp [start])
  refine avoids.symm.trans (everyStep_congr
    (fun process => WindowedInv transfer process ∧ process.state ≠ .exit) ?_ ?_
    ⟨.initially transfer fromFileName, by simp [start]⟩ allowed)
  · rintro process input ⟨inv, _⟩ permitted continues
    exact ⟨inv.step permitted, continues⟩
  · rintro process input ⟨inv, running⟩ permitted
    exact continues_iff inv running permitted

theorem runs_without_exit_iff_in_order :
    (run stateMachine (start 3 1 [])
        (handshake ++ arriving (eightBytes 3) [1, 3, 2])).state ≠ .exit :=
  (runs_without_exit_iff (eightBytes 3) [] _ (by decide +kernel)).mpr (by decide +kernel)

/-- The last packet of the window arrives first and moves `current` to the upper edge; the
next one that fills a hole ends the program. -/
theorem hole_below_last_slot_exits :
    ¬∀ (transfer : Transfer) (fromFileName : List UInt8) (inputs : List Input),
      EveryStep stateMachine (Allowed transfer (inWindowArrival transfer))
        (start transfer.windowSize transfer.bufferSize fromFileName) inputs →
      (run stateMachine
        (start transfer.windowSize transfer.bufferSize fromFileName) inputs).state ≠ .exit :=
  fun claim => claim (eightBytes 3) []
    (handshake ++ arriving (eightBytes 3) [3, 2])
    (by decide +kernel) (by decide +kernel)

/-! ### Progress -/

/-- A step that handles the expected packet writes its payload and counts it. -/
def Progresses (process : Process) (input : Input) : Prop :=
  ∀ handled ∈ handling process input, handled.1.seqNum = process.statics.expected →
    process.statics.toFile ++ payloadOf (handled.1.bytes.take handled.2) <+:
        (stateMachine process input).statics.toFile ∧
      process.statics.expected < (stateMachine process input).statics.expected

/-- While buffering, the slot of the expected packet counts as filled when that packet
arrives. -/
def FindsSlotFilled (process : Process) (input : Input) : Prop :=
  ∃ handled ∈ handling process input, handled.1.seqNum = process.statics.expected ∧
    activeBuffering process = true ∧
    packetValidInWindow process.statics.window process.statics.expected = true

instance (process : Process) (input : Input) : Decidable (Progresses process input) :=
  inferInstanceAs (Decidable (∀ _ ∈ handling process input, _ → _ ∧ _))

instance (process : Process) (input : Input) : Decidable (FindsSlotFilled process input) :=
  inferInstanceAs (Decidable (∃ _ ∈ handling process input, _ ∧ _ ∧ _))

section Progress

variable {transfer : Transfer} {process : Process} {input : Input} {statics : Statics}
  {packet : Packet} {dataSize : Nat}

theorem written_of_expected_lt {later : Statics} (inside : InWindow transfer statics)
    (insideAfter : InWindow transfer later) (positive : 1 ≤ statics.expected)
    (carries : Carries transfer statics.expected packet.bytes dataSize)
    (further : statics.expected < later.expected) :
    statics.toFile ++ payloadOf (packet.bytes.take dataSize) <+: later.toFile := by
  obtain ⟨previous, isNext⟩ := Nat.exists_eq_add_of_le' positive
  have written : statics.toFile ++ payloadOf (packet.bytes.take dataSize) =
      transfer.delivered statics.expected := by
    rw [carries.isPacket.payload_eq, inside.delivered.toFile_eq, isNext, Nat.add_sub_cancel,
      transfer.delivered_succ]
  rw [written, insideAfter.delivered.toFile_eq]
  exact transfer.delivered_mono (by omega)

theorem handleData_expected_lt_iff {buffering : Bool} (inv : StaticsInv transfer statics)
    (mode : BufferingOk statics buffering)
    (carries : Carries transfer statics.expected packet.bytes dataSize) :
    statics.expected < (handleData statics packet dataSize buffering).statics.expected ↔
      ¬(buffering = true ∧ packetValidInWindow statics.window statics.expected = true) := by
  have numbered : packet.seqNum = statics.expected := carries.seqNumOf_eq
  have outcome := handleData_outcome statics packet dataSize buffering
    (isDataFlag_of_carries carries)
  generalize handleData statics packet dataSize buffering = handled at outcome ⊢
  cases outcome with
  | inOrder here =>
      have counted := advance_expected carries
      refine iff_of_true ?_ (fun filled => by cases filled.1)
      change statics.expected < (advance statics packet dataSize).expected
      omega
  | stored _ above isOpen free => omega
  | refused _ highest above closed free => omega
  | drainedPart here free more =>
      rw [numbered] at free
      have behind := Nat.lt_trans (mode rfl).1 (mode rfl).2
      exact iff_of_true (drain_expected_lt inv carries behind) (by simp [free])
  | drainedAll here free done =>
      rw [numbered] at free
      have behind := Nat.lt_trans (mode rfl).1 (mode rfl).2
      exact iff_of_true (drain_expected_lt inv carries behind) (by simp [free])
  | repeated _ known =>
      have same := (acknowledge_frame statics buffering).2.1
      rw [numbered] at known
      refine iff_of_false (Nat.not_lt.mpr (Nat.le_of_eq same)) (fun notFilled => notFilled ?_)
      rcases known with below | filled
      · exact absurd below (Nat.lt_irrefl _)
      · exact filled

theorem progresses_iff (inv : WindowedInv transfer process)
    (allowed : Allowed transfer (inWindowArrival transfer) process input) :
    Progresses process input ↔ ¬FindsSlotFilled process input := by
  have later := inv.step allowed
  have positive := inv.holds.statics.expected_pos
  rcases stateMachine_step inv.holds.statics inv.holds.control allowed with
    ⟨packet, dataSize, seqNum, isHandled, handles⟩ | ⟨nothing, _⟩
  · have numbered : packet.seqNum = seqNum := handles.carries.seqNumOf_eq
    by_cases here : packet.seqNum = process.statics.expected
    · have carries : Carries transfer process.statics.expected packet.bytes dataSize :=
        here ▸ numbered ▸ handles.carries
      have moves := handleData_expected_lt_iff inv.holds.statics
        (inv.holds.mode handles.alive) carries
      rw [← handles.statics] at moves
      constructor
      · rintro progresses ⟨handled, isThis, _, filled⟩
        obtain rfl := Option.some.inj (isHandled.symm.trans isThis)
        exact moves.mp (progresses _ isHandled here).2 filled
      · intro free handled isThis _
        obtain rfl := Option.some.inj (isHandled.symm.trans isThis)
        have further := moves.mpr (fun filled => free ⟨_, isHandled, here, filled⟩)
        have written := written_of_expected_lt inv.inside.inWindow later.inside.inWindow
          positive carries further
        exact ⟨written, further⟩
    · apply iff_of_true
      · intro handled isThis isExpected
        obtain rfl := Option.some.inj (isHandled.symm.trans isThis)
        exact absurd isExpected here
      · rintro ⟨handled, isThis, isExpected, _⟩
        obtain rfl := Option.some.inj (isHandled.symm.trans isThis)
        exact here isExpected
  · apply iff_of_true
    · exact fun handled isHandled => absurd isHandled (not_mem_handling nothing)
    · rintro ⟨handled, isHandled, _⟩
      exact not_mem_handling nothing isHandled

end Progress

/-- With every arrival inside the window, the expected packet is written and counted
whenever it is handled, in exactly the runs in which its slot never counts as filled. -/
theorem expected_packet_progresses_iff (transfer : Transfer) (fromFileName : List UInt8)
    (inputs : List Input)
    (allowed : EveryStep stateMachine (Allowed transfer (inWindowArrival transfer))
      (start transfer.windowSize transfer.bufferSize fromFileName) inputs) :
    EveryStep stateMachine Progresses
        (start transfer.windowSize transfer.bufferSize fromFileName) inputs ↔
      EveryStep stateMachine (fun process input => ¬FindsSlotFilled process input)
        (start transfer.windowSize transfer.bufferSize fromFileName) inputs := by
  exact everyStep_congr (WindowedInv transfer) (fun _ _ inv permitted _ => inv.step permitted)
    (fun _ _ inv permitted => progresses_iff inv permitted)
    (.initially transfer fromFileName) allowed

theorem expected_packet_progresses_iff_in_order :
    EveryStep stateMachine Progresses (start 5 1 [])
      (handshake ++ arriving (eightBytes 5) [2, 3, 1, 4]) :=
  (expected_packet_progresses_iff (eightBytes 5) [] _ (by decide +kernel)).mpr
    (by decide +kernel)

/-- Packet 4 stays marked as held when buffering mode is left at 3, with `highest` set back
by packet 2.  Packet 5 starts buffering again, and packet 4 is then thrown out. -/
theorem leftover_slot_blocks_expected :
    ¬∀ (transfer : Transfer) (fromFileName : List UInt8) (inputs : List Input),
      EveryStep stateMachine (Allowed transfer (inWindowArrival transfer))
        (start transfer.windowSize transfer.bufferSize fromFileName) inputs →
      EveryStep stateMachine Progresses
        (start transfer.windowSize transfer.bufferSize fromFileName) inputs :=
  fun claim => absurd
    (claim (eightBytes 5) []
      (handshake ++ arriving (eightBytes 5) [4, 2, 1, 3, 5, 4])
      (by decide +kernel))
    (by decide +kernel)

/-! ### Beyond the window -/

/-- A step that handles a packet from beyond the window leaves the file, the expected
number and every slot alone. -/
def LeavesBeyondAlone (process : Process) (input : Input) : Prop :=
  ∀ handled ∈ handling process input,
    process.statics.expected + process.statics.window.windowSize ≤ handled.1.seqNum →
      (stateMachine process input).statics.toFile = process.statics.toFile ∧
        (stateMachine process input).statics.expected = process.statics.expected ∧
        ∀ index < process.statics.window.windowSize,
          (stateMachine process input).statics.window.elements index =
            process.statics.window.elements index

/-- A packet from beyond the window meets an open window, and no slot that buffering mode
would take for its own. -/
def TakesBeyond (process : Process) (input : Input) : Prop :=
  ∃ handled ∈ handling process input,
    process.statics.expected + process.statics.window.windowSize ≤ handled.1.seqNum ∧
      isWindowOpen process.statics.window = true ∧
      ¬(activeBuffering process = true ∧
        packetValidInWindow process.statics.window handled.1.seqNum = true)

instance (process : Process) (input : Input) : Decidable (LeavesBeyondAlone process input) :=
  inferInstanceAs (Decidable (∀ _ ∈ handling process input, _ → _ ∧ _ ∧ ∀ _ < _, _))

instance (process : Process) (input : Input) : Decidable (TakesBeyond process input) :=
  inferInstanceAs (Decidable (∃ _ ∈ handling process input, _ ∧ _ ∧ ¬(_ ∧ _)))

section Beyond

variable {transfer : Transfer} {statics : Statics} {packet : Packet} {seqNum dataSize : Nat}

theorem addPacket_packet (window : Window) (packet : Packet) (dataSize : Nat)
    (isOpen : isWindowOpen window = true) :
    ((addPacket window packet dataSize).2.elements (window.slot packet.seqNum)).packet =
      (storedElement window packet dataSize).packet := by
  have placed : ((replacePacket window packet dataSize).elements
      (window.slot packet.seqNum)).packet = (storedElement window packet dataSize).packet :=
    congrArg WindowElement.packet (ReceiveWindow.replaced_same window packet dataSize)
  simp only [addPacket, isOpen, Bool.not_true, Bool.false_eq_true, if_false]
  split
  · exact placed
  · split
    · exact (sweep_keeps WindowElement.packet _ clearElement (fun _ => rfl) _ _ _ _).trans placed
    · exact placed

theorem handleData_beyond_iff {buffering : Bool} (inv : StaticsInv transfer statics)
    (inside : InWindow transfer statics)
    (carries : Carries transfer seqNum packet.bytes dataSize)
    (beyond : statics.expected + statics.window.windowSize ≤ seqNum) :
    ((handleData statics packet dataSize buffering).statics.toFile = statics.toFile ∧
        (handleData statics packet dataSize buffering).statics.expected = statics.expected ∧
        ∀ index < statics.window.windowSize,
          (handleData statics packet dataSize buffering).statics.window.elements index =
            statics.window.elements index) ↔
      stores statics buffering seqNum = false := by
  have numbered : packet.seqNum = seqNum := carries.seqNumOf_eq
  have sized := inv.receive.windowSize_eq
  have positive := transfer.windowSize_pos
  have outcome := handleData_outcome statics packet dataSize buffering
    (isDataFlag_of_carries carries)
  generalize handleData statics packet dataSize buffering = handled at outcome ⊢
  cases outcome with
  | inOrder here => omega
  | stored _ above isOpen free =>
      rw [numbered] at above free
      refine iff_of_false ?_ (by rw [stores_eq_true above isOpen free]; decide)
      rintro ⟨_, _, same⟩
      have slotSame := same (statics.window.slot packet.seqNum)
        (Nat.mod_lt _ (by omega))
      have taken := addPacket_packet statics.window packet dataSize isOpen
      have kept := inside.stored_lt (statics.window.slot packet.seqNum)
      have carried := (inv.receive.stored_carries carries).seqNumOf_eq
      have bytesSame := congrArg WindowElement.packet slotSame
      rw [← taken, bytesSame] at carried
      omega
  | refused _ highest above closed free =>
      have frame := rejectGap_frame statics buffering
      refine iff_of_true ⟨frame.2.2.1, frame.2.1, fun index _ => ?_⟩ (by simp [stores, closed])
      exact congrArg (fun window => window.elements index) frame.1
  | drainedPart here free more => omega
  | drainedAll here free done => omega
  | repeated _ known =>
      have frame := acknowledge_frame statics buffering
      refine iff_of_true ⟨frame.2.2.2.1, frame.2.1, fun index _ => ?_⟩ ?_
      · exact congrArg (fun window => window.elements index) frame.1
      · rw [numbered] at known
        rcases known with below | ⟨rfl, filled⟩
        · omega
        · simp [stores, filled]

end Beyond

theorem takesBeyond_near {transfer : Transfer} {arrival : Arrival} {process : Process}
    {input : Input} (inv : ProcessInv transfer arrival process)
    (declined : ¬TakesBeyond process input) : StoresNear transfer process input := by
  intro handled isHandled stored
  by_contra beyond
  simp only [stores, Bool.and_eq_true, Bool.not_eq_true'] at stored
  refine declined ⟨handled, isHandled, ?_, stored.1.2, ?_⟩
  · rw [inv.statics.receive.windowSize_eq]
    exact Nat.not_lt.mp beyond
  · rintro ⟨buffering, filled⟩
    simp [buffering, filled] at stored

theorem not_takesBeyond_iff {transfer : Transfer} {process : Process} {input : Input}
    (inv : ProcessInv transfer anyArrival process) (inside : ProcessInWindow transfer process)
    (allowed : Allowed transfer anyArrival process input) :
    ¬TakesBeyond process input ↔ LeavesBeyondAlone process input := by
  rcases stateMachine_step inv.statics inv.control allowed with
    ⟨packet, dataSize, seqNum, isHandled, handles⟩ | ⟨nothing, _⟩
  · have numbered : packet.seqNum = seqNum := handles.carries.seqNumOf_eq
    have sized := inv.statics.receive.windowSize_eq
    have positive := transfer.windowSize_pos
    simp only [TakesBeyond, LeavesBeyondAlone, isHandled, Option.mem_some_iff, forall_eq',
      exists_eq_left', not_and, numbered]
    refine forall_congr' (fun beyond => ?_)
    rw [handles.statics, handleData_beyond_iff inv.statics inside.inWindow handles.carries beyond]
    have above : process.statics.expected < seqNum := by omega
    simp [stores, above]
  · apply iff_of_true
    · rintro ⟨handled, isHandled, _⟩
      exact not_mem_handling nothing isHandled
    · exact fun handled isHandled => absurd isHandled (not_mem_handling nothing)

/-- Whatever packets of the file arrive: those from beyond the window are left alone, and
the file stays the payloads before the expected packet, in exactly the runs in which none
of them meets an open window and a free slot. -/
theorem beyond_window_left_alone_iff (transfer : Transfer) (fromFileName : List UInt8)
    (inputs : List Input)
    (allowed : EveryStep stateMachine (Allowed transfer anyArrival)
      (start transfer.windowSize transfer.bufferSize fromFileName) inputs) :
    (EveryStep stateMachine LeavesBeyondAlone
        (start transfer.windowSize transfer.bufferSize fromFileName) inputs ∧
      (run stateMachine (start transfer.windowSize transfer.bufferSize fromFileName)
          inputs).statics.toFile =
        transfer.delivered ((run stateMachine
          (start transfer.windowSize transfer.bufferSize fromFileName)
            inputs).statics.expected - 1)) ↔
      EveryStep stateMachine (fun process input => ¬TakesBeyond process input)
        (start transfer.windowSize transfer.bufferSize fromFileName) inputs := by
  have initially : ProcessInv transfer anyArrival
        (start transfer.windowSize transfer.bufferSize fromFileName) ∧
      ProcessInWindow transfer (start transfer.windowSize transfer.bufferSize fromFileName) :=
    ⟨start_inv transfer _ fromFileName, start_inWindow transfer fromFileName⟩
  have kept : ∀ process input, ProcessInv transfer anyArrival process ∧
      ProcessInWindow transfer process → Allowed transfer anyArrival process input →
      ¬TakesBeyond process input → ProcessInv transfer anyArrival (stateMachine process input) ∧
        ProcessInWindow transfer (stateMachine process input) := by
    rintro process input ⟨inv, inside⟩ permitted declined
    have near := takesBeyond_near inv declined
    exact ⟨stateMachine_inv anyArrival_stable inv permitted,
      stateMachine_inWindow inv inside permitted near⟩
  have both := everyStep_congr _ kept
    (fun _ _ inv permitted => not_takesBeyond_iff inv.1 inv.2 permitted) initially allowed
  constructor
  · rintro ⟨alone, _⟩
    exact both.mpr alone
  · intro declined
    refine ⟨both.mp declined, ?_⟩
    have reached := run_invariant _
      (fun process input inv permitted => kept process input inv permitted.1 permitted.2)
      initially (allowed.and declined)
    exact reached.2.inWindow.delivered.toFile_eq

theorem beyond_window_left_alone_iff_closed :
    EveryStep stateMachine LeavesBeyondAlone (start 3 1 [])
        (handshake ++ arriving (eightBytes 3) [3, 5]) ∧
      (run stateMachine (start 3 1 [])
          (handshake ++ arriving (eightBytes 3) [3, 5])).statics.toFile =
        (eightBytes 3).delivered ((run stateMachine (start 3 1 [])
          (handshake ++ arriving (eightBytes 3) [3, 5])).statics.expected - 1) :=
  (beyond_window_left_alone_iff (eightBytes 3) [] _ (by decide +kernel)).mpr
    (by decide +kernel)

/-- Packet 6 shares the slot of the missing packet 2 and is written in its place. -/
theorem aliased_packet_written :
    ¬∀ (transfer : Transfer) (fromFileName : List UInt8) (inputs : List Input),
      EveryStep stateMachine (Allowed transfer anyArrival)
        (start transfer.windowSize transfer.bufferSize fromFileName) inputs →
      EveryStep stateMachine LeavesBeyondAlone
          (start transfer.windowSize transfer.bufferSize fromFileName) inputs ∧
        (run stateMachine (start transfer.windowSize transfer.bufferSize fromFileName)
            inputs).statics.toFile =
          transfer.delivered ((run stateMachine
            (start transfer.windowSize transfer.bufferSize fromFileName)
              inputs).statics.expected - 1) :=
  fun claim => absurd
    (claim (eightBytes 4) []
      (handshake ++ arriving (eightBytes 4) [3, 6, 1])
      (by decide +kernel)).2
    (by decide +kernel)

end CPE464.Project3.Rcopy
