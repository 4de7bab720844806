/-
rcopy sends an SREJ for a packet that it lacks.

As the channel keeps the order of the datagrams, a packet beyond the expected one is newer
than all that came before it, whether it is still under way or waits for its handler.  The
slot of the expected packet is then never filled, and what the SREJs name is missing as
long as they name the expected packet.
-/

import CPE464.General.ArrivalOrder
import CPE464.Project3.EndToEnd
import CPE464.Project3.RcopySequential
import CPE464.Project3.SrejNumbers

namespace CPE464.Project3

open General

namespace Rcopy

/-- The file has this packet, nothing of it has been written, and the window does not hold
it. -/
def Lacks (transfer : Transfer) (statics : Statics) (seqNum : Nat) : Prop :=
  seqNum ≤ transfer.packetCount ∧ statics.toFile = transfer.delivered (seqNum - 1) ∧
    packetValidInWindow statics.window seqNum = false

/-- The SREJs of this step name the packet expected when they are sent, and it is missing:
after the step, and also before it unless the step has moved on to this packet. -/
def SrejsMissing (transfer : Transfer) (process : Process) (input : Input) : Prop :=
  ∀ datagram ∈ (stateMachine process input).statics.sent.drop process.statics.sent.length,
    flagOf datagram = FlagType.srej.code →
      numberOf datagram = (stateMachine process input).statics.expected ∧
        Lacks transfer (stateMachine process input).statics (numberOf datagram) ∧
        (process.statics.expected = numberOf datagram →
          Lacks transfer process.statics (numberOf datagram))

instance (transfer : Transfer) (statics : Statics) (seqNum : Nat) :
    Decidable (Lacks transfer statics seqNum) :=
  inferInstanceAs (Decidable (_ ≤ _ ∧ _ = _ ∧ _ = _))

instance (transfer : Transfer) (process : Process) (input : Input) :
    Decidable (SrejsMissing transfer process input) :=
  inferInstanceAs (Decidable (∀ _ ∈ _, _ → _ ∧ _ ∧ (_ → _)))

instance (process : Process) (input : Input) : Decidable (NamesExpected process input) :=
  inferInstanceAs (Decidable (∀ _ ∈ rejectedNumber _ _, _))

/-! ### The numbers under way -/

def waiting (process : Process) : List Nat :=
  match process.state with
  | .processData | .bufferData => [process.currPacket.seqNum]
  | _ => []

def arrived (process : Process) (input : Input) : List Nat :=
  match process.state with
  | .waitForFilenameAck => []
  | _ => (accepted process input).toList.map
      (fun datagram => ((memory process).memcpy 0 datagram).seqNum)

def handledNumber (process : Process) (input : Input) : List Nat :=
  (handling process input).toList.map (fun handled => handled.1.seqNum)

section Numbers

variable {process : Process}

theorem waiting_of_waits (waits : Waits process) :
    waiting process = [process.currPacket.seqNum] := by
  rcases waits with atState | atState <;> simp only [waiting, atState]

theorem waiting_of_idle (idle : ¬Waits process) : waiting process = [] := by
  unfold waiting
  split
  · next atState => exact absurd (.inl atState) idle
  · next atState => exact absurd (.inr atState) idle
  · rfl

theorem arrived_of_ne (input : Input) (notAsking : process.state ≠ .waitForFilenameAck) :
    arrived process input = (accepted process input).toList.map
      (fun datagram => ((memory process).memcpy 0 datagram).seqNum) := by
  unfold arrived
  split
  · next asking => exact absurd asking notAsking
  · rfl

theorem stateMachine_numbers (modes : Modes process) (input : Input) :
    (handledNumber process input ++ waiting (stateMachine process input)).Sublist
      (waiting process ++ arrived process input) := by
  by_cases later : Waits (stateMachine process input)
  · obtain ⟨receiving, datagram, accepts, packet, _⟩ := stateMachine_waits modes later
    have notWaiting : ¬Waits process := by
      rcases receiving with atState | atState <;> simp [Waits, atState]
    have notLoop : process.state ≠ .lastDataLoop := by
      rcases receiving with atState | atState <;> simp [atState]
    have notAsking : process.state ≠ .waitForFilenameAck := by
      rcases receiving with atState | atState <;> simp [atState]
    rw [handledNumber, handling_of_idle input notLoop notWaiting, waiting_of_waits later,
      waiting_of_idle notWaiting, arrived_of_ne input notAsking, accepts, packet]
    exact .refl _
  rw [waiting_of_idle later, List.append_nil]
  by_cases atLoop : process.state = .lastDataLoop
  · have notWaiting : ¬Waits process := by simp [Waits, atLoop]
    rw [handledNumber, handling_teardown atLoop, waiting_of_idle notWaiting,
      arrived_of_ne input (by simp [atLoop])]
    cases accepted process input with
    | none => exact .refl _
    | some datagram => exact .refl _
  by_cases waits : Waits process
  · rw [waiting_of_waits waits, handledNumber]
    by_cases under : process.timeout < timeoutMax
    · rw [handling_waits input waits under]
      exact List.sublist_append_left _ _
    · rw [handling_expired input atLoop (Nat.not_lt.mp under)]
      exact List.nil_sublist _
  · rw [handledNumber, handling_of_idle input atLoop waits]
    exact List.nil_sublist _

theorem arrived_timeout {input : Input} (timedOut : input.poll = none) :
    arrived process input = [] := by
  have nothing : accepted process input = none := by
    unfold accepted
    rw [timedOut]
    exact ite_self none
  unfold arrived
  split
  · rfl
  · rw [nothing]
    rfl

section Delivered

variable {transfer : Transfer} {input : Input} {datagram : Datagram}
  (sized : process.statics.bufferSize = transfer.bufferSize) (polled : input.poll = some datagram)

include sized polled

theorem accepted_data (notAsking : process.state ≠ .waitForFilenameAck) {received : Datagram}
    (accepts : accepted process input = some received) :
    received = datagram.take (dataPacketSsize transfer.bufferSize) ∧
      (receiveAndValidateData (memory process) datagram
        (dataPacketSsize transfer.bufferSize)).1 = true := by
  have limit : receiveLimit process = dataPacketSsize transfer.bufferSize := by
    unfold receiveLimit
    split
    · next asking => exact absurd asking notAsking
    · rw [sized]
  obtain ⟨_, other, isPolled, taken, valid⟩ := accepted_eq_some accepts
  obtain rfl := Option.some.inj (isPolled.symm.trans polled)
  rw [limit] at taken valid
  exact ⟨taken, valid⟩

theorem arrived_rejected
    (harmless : process.state = .waitForFilenameAck ∨ Rejected transfer.bufferSize datagram) :
    arrived process input = [] := by
  by_cases asking : process.state = .waitForFilenameAck
  · simp only [arrived, asking]
  rw [arrived_of_ne input asking]
  cases accepts : accepted process input with
  | none => rfl
  | some received =>
      have valid := (accepted_data sized polled asking accepts).2
      have rejected := harmless.resolve_left asking
      cases (rejected.receive (memory process)).symm.trans valid

/-- Of what the network may deliver, a packet of the file is received with its number, or
nothing is. -/
theorem arrived_of_arrives {arrival : Arrival}
    (arrives : Arrives transfer arrival process datagram) :
    (arrived process input).Sublist [seqNumOf datagram] := by
  by_cases harmless : process.state = .waitForFilenameAck ∨ Rejected transfer.bufferSize datagram
  · rw [arrived_rejected sized polled harmless]
    exact List.nil_sublist _
  obtain ⟨asking, accepting⟩ := not_or.mp harmless
  obtain ⟨isPacket, _⟩ := (arrives.resolve_left asking).resolve_left accepting
  rw [arrived_of_ne input asking]
  cases accepts : accepted process input with
  | none => exact List.nil_sublist _
  | some received =>
      obtain ⟨packet, receives, carries⟩ := receive_isDataPacket isPacket (memory process)
      have copied : (memory process).memcpy 0
          (datagram.take (dataPacketSsize transfer.bufferSize)) = packet :=
        congrArg (fun result => result.2.1) receives
      have numbered : packet.seqNum = seqNumOf datagram := carries.seqNumOf_eq
      rw [(accepted_data sized polled asking accepts).1, Option.toList_some,
        List.map_singleton, copied, numbered]

end Delivered

end Numbers

/-! ### What is missing -/

section Missing

variable {transfer : Transfer} {bound : Nat} {process : Process} {input : Input}

theorem acknowledge_false_flag {earlier later : Statics} {datagram : Datagram}
    (sent : later.sent = earlier.sent) (small : later.expected < 2 ^ 32)
    (member : datagram ∈ (acknowledge later false).sent.drop earlier.sent.length) :
    flagOf datagram = FlagType.rr.code := by
  have grown : (acknowledge later false).sent = earlier.sent ++
      [(buildRrPacket later.seqNum later.expected).bytes.take rrPacketSsize] :=
    congrArg (· ++ _) sent
  rw [grown, List.drop_left] at member
  rw [List.mem_singleton.mp member]
  exact (buildRrPacket_isControl later.seqNum small).flag_eq

theorem Outcome.srej_le {statics : Statics} {packet : Packet} {seqNum dataSize : Nat}
    {buffering : Bool} {handled : Handled} (inv : StaticsInv transfer statics)
    (mode : BufferingOk statics buffering)
    (carries : Carries transfer seqNum packet.bytes dataSize)
    (outcome : Outcome statics packet dataSize buffering handled) {datagram : Datagram}
    (member : datagram ∈ handled.statics.sent.drop statics.sent.length)
    (isSrej : flagOf datagram = FlagType.srej.code) :
    handled.statics.expected ≤ transfer.packetCount := by
  have numbered : packet.seqNum = seqNum := carries.seqNumOf_eq
  have last := carries.isPacket.last
  have stored := inv.receive.current_le
  obtain ⟨sent, small⟩ := drain_sends packet dataSize inv.expected_lt
  have notRr : ∀ {later : Statics}, later.sent = statics.sent → later.expected < 2 ^ 32 →
      datagram ∉ (acknowledge later false).sent.drop statics.sent.length := by
    intro later sent small isAnswer
    have flagged := acknowledge_false_flag sent small isAnswer
    exact absurd (FlagType.code_injective (flagged.symm.trans isSrej)) (by decide)
  cases outcome with
  | inOrder here => exact absurd member (notRr rfl (Nat.mod_lt _ (by decide)))
  | stored _ above isOpen free =>
      have same := (rejectGap_frame statics buffering).2.1
      change (rejectGap statics buffering).expected ≤ _
      omega
  | refused _ highest above closed free =>
      have same := (rejectGap_frame statics buffering).2.1
      change (rejectGap statics buffering).expected ≤ _
      omega
  | drainedPart here free more =>
      obtain rfl : seqNum = statics.expected := numbered.symm.trans here
      have behind := Nat.lt_trans (mode rfl).1 (mode rfl).2
      have highest := (drain_frame inv carries behind).2.1
      have beyond := (mode rfl).2
      have same := (acknowledge_frame (drain statics packet dataSize) true).2.1
      change (acknowledge (drain statics packet dataSize) true).expected ≤ _
      omega
  | drainedAll here free done => exact absurd member (notRr sent small)
  | repeated _ known =>
      have same := (acknowledge_frame statics buffering).2.1
      cases buffering with
      | false => exact absurd member (notRr rfl inv.expected_lt)
      | true =>
          have beyond := mode rfl
          change (acknowledge statics true).expected ≤ _
          omega

theorem SessionInv.numbers (inv : SessionInv transfer bound process) : NumbersInv process := by
  have control := inv.holds.control
  refine ⟨⟨control.fresh, ?_, ?_⟩, inv.holds.statics.expected_lt⟩
  · intro atState
    obtain ⟨_, _, _, mode⟩ := control.pending (.inl atState)
    simpa [atState] using mode
  · intro atState
    obtain ⟨_, _, _, mode⟩ := control.pending (.inr atState)
    exact mode.mp atState

theorem rejectedNumber_unfinished {number : Nat}
    (isRejected : rejectedNumber process input = some number) :
    process.state = .lastDataLoop ∧ process.statics.wroteLastData = false := by
  unfold rejectedNumber at isRejected
  split at isRejected
  · next atLoop =>
      split at isRejected
      · cases isRejected
      · next unfinished => exact ⟨atLoop, Bool.eq_false_iff.mpr unfinished⟩
  · cases isRejected

theorem SessionInv.lacks (inv : SessionInv transfer bound process)
    (sequential : Sequential process.statics (activeBuffering process))
    (last : process.statics.expected ≤ transfer.packetCount) :
    Lacks transfer process.statics process.statics.expected :=
  ⟨last, inv.inWindow.inWindow.delivered.toFile_eq, sequential.expected_free⟩

theorem SessionInv.unfinished_le (inv : SessionInv transfer bound process)
    (unfinished : process.statics.wroteLastData = false) :
    process.statics.expected ≤ transfer.packetCount := by
  have last := inv.holds.statics.expected_le
  have notWhole : process.statics.expected ≠ transfer.packetCount + 1 := by
    intro whole
    cases unfinished.symm.trans (inv.inWindow.inWindow.delivered.wrote_iff.mpr whole)
  omega

theorem handled_lacks {packet : Packet} {dataSize seqNum : Nat}
    (inv : SessionInv transfer bound process)
    (later : SessionInv transfer bound (stateMachine process input))
    (sequential : Alive process → Sequential process.statics (activeBuffering process))
    (handles : Handles transfer (belowArrival transfer bound) process (stateMachine process input)
      packet dataSize seqNum) {datagram : Datagram}
    (member : datagram ∈
      (stateMachine process input).statics.sent.drop process.statics.sent.length)
    (isSrej : flagOf datagram = FlagType.srej.code) :
    Lacks transfer (stateMachine process input).statics
        (stateMachine process input).statics.expected ∧
      (process.statics.expected = (stateMachine process input).statics.expected →
        Lacks transfer process.statics (stateMachine process input).statics.expected) := by
  have before := sequential handles.alive
  have mode := inv.holds.mode handles.alive
  have outcome := handleData_outcome process.statics packet dataSize (activeBuffering process)
    (isDataFlag_of_carries handles.carries)
  have written := later.inWindow.inWindow.delivered.toFile_eq
  rw [handles.statics] at member written ⊢
  have last := outcome.srej_le inv.holds.statics mode handles.carries member isSrej
  have free := outcome.expected_free inv.holds.statics mode handles.carries before
    handles.arrived.1
  refine ⟨⟨last, written, free⟩, fun same => ?_⟩
  rw [← same] at last ⊢
  exact inv.lacks before last

theorem srejsMissing_of_names (inv : SessionInv transfer bound process)
    (sequential : Alive process → Sequential process.statics (activeBuffering process))
    (allowed : Allowed transfer (belowArrival transfer bound) process input)
    (named : NamesExpected process input) : SrejsMissing transfer process input := by
  have later := (session_step inv allowed).1
  have expected := (inv.numbers.srejsExpected_iff input).mpr named
  intro datagram member isSrej
  rw [expected datagram member isSrej]
  refine ⟨rfl, ?_⟩
  rcases stateMachine_step inv.holds.statics inv.holds.control allowed with
    ⟨packet, dataSize, seqNum, _, handles⟩ | ⟨nothing, quiet⟩
  · exact handled_lacks inv later sequential handles member isSrej
  cases stateMachine_sends inv.numbers.modes inv.numbers.small input with
  | handled packet dataSize isHandled => cases nothing.symm.trans isHandled
  | rejects number srej _ isRejected =>
      obtain ⟨atLoop, unfinished⟩ := rejectedNumber_unfinished isRejected
      have lacks := inv.lacks (sequential (by simp [Alive, atLoop])) (inv.unfinished_le unfinished)
      rw [Lacks, quiet.expected, quiet.toFile, quiet.window]
      exact ⟨lacks, fun _ => lacks⟩
  | quiet sent _ _ sends others =>
      rw [sends, List.drop_left] at member
      have nothingAsked := others datagram member
      rw [askedNumber?, if_pos (.inr isSrej)] at nothingAsked
      cases nothingAsked

theorem srejsMissing_iff (inv : SessionInv transfer bound process)
    (sequential : Alive process → Sequential process.statics (activeBuffering process))
    (allowed : Allowed transfer (belowArrival transfer bound) process input) :
    SrejsMissing transfer process input ↔ NamesExpected process input := by
  refine ⟨fun missing => ?_, srejsMissing_of_names inv sequential allowed⟩
  exact (inv.numbers.srejsExpected_iff input).mp
    (fun datagram member isSrej => (missing datagram member isSrej).1)

theorem order_step {rest : List Nat} (inv : SessionInv transfer bound process)
    (sequential : Alive process → Sequential process.statics (activeBuffering process))
    (allowed : Allowed transfer (belowArrival transfer bound) process input)
    (arriving : Arriving process.statics.expected process.statics.window.current
      (handledNumber process input ++ rest)) :
    Arriving (stateMachine process input).statics.expected
        (stateMachine process input).statics.window.current rest ∧
      (Alive (stateMachine process input) →
        Sequential (stateMachine process input).statics
          (activeBuffering (stateMachine process input))) := by
  rcases stateMachine_step inv.holds.statics inv.holds.control allowed with
    ⟨packet, dataSize, seqNum, isHandled, handles⟩ | ⟨nothing, quiet⟩
  · have mode := inv.holds.mode handles.alive
    have numbered : packet.seqNum = seqNum := handles.carries.seqNumOf_eq
    have outcome := handleData_outcome process.statics packet dataSize (activeBuffering process)
      (isDataFlag_of_carries handles.carries)
    have oldest : handledNumber process input = [seqNum] := by
      rw [handledNumber, isHandled, ← numbered]
      rfl
    rw [oldest, List.singleton_append] at arriving
    have follows : Follows process.statics seqNum := arriving.beyond seqNum List.mem_cons_self
    have ok := handleData_ok inv.holds.statics mode handles.carries
    rw [handles.statics]
    refine ⟨arriving.receive ok.expected_le
      (outcome.current_le inv.holds.statics mode handles.carries), fun alive => ?_⟩
    rw [handles.mode alive]
    exact outcome.sequential inv.holds.statics mode handles.carries (sequential handles.alive)
      handles.arrived.1 follows (fun isExit => alive.1 (handles.exits.mpr isExit))
  · rw [handledNumber, nothing] at arriving
    rw [quiet.expected, quiet.window]
    refine ⟨arriving, fun alive => ?_⟩
    rw [quiet.mode alive]
    exact (sequential (quiet.alive alive)).of_frame quiet.window quiet.expected quiet.highest

theorem Sends.asks (numbers : NumbersInv process) (named : NamesExpected process input) :
    ∃ sent, (stateMachine process input).statics.sent = process.statics.sent ++ sent ∧
      ∀ datagram ∈ sent, askedNumber? datagram = none ∨
        askedNumber? datagram = some (stateMachine process input).statics.expected := by
  cases stateMachine_sends numbers.modes numbers.small input with
  | handled packet dataSize isHandled notRejected statics =>
      obtain ⟨⟨replies, grown, each⟩, _⟩ :=
        handleData_answers packet dataSize (activeBuffering process) numbers.small
      rw [statics]
      exact ⟨replies, grown, fun datagram member => .inr (each datagram member).askedNumber?⟩
  | rejects number srej nothing isRejected control sends =>
      rcases stateMachine_any numbers.modes input with ⟨_, _, isHandled, _⟩ | ⟨_, keeps⟩
      · cases nothing.symm.trans isHandled
      · refine ⟨[srej], sends, fun datagram member => .inr ?_⟩
        rw [List.mem_singleton.mp member, control.askedNumber?_srej, keeps.expected,
          named number isRejected]
  | quiet sent nothing notRejected sends others =>
      exact ⟨sent, sends, fun datagram member => .inl (others datagram member)⟩

end Missing

end Rcopy

/-! ### What the server is asked for -/

namespace Server

theorem retransmits_cases {child : Child} {input : Input} {request : Nat × FlagType}
    (asked : retransmits child input = some request) :
    (∃ packet, received child input = some packet ∧ packet.flag = FlagType.srej.code ∧
      request.1 = packet.number) ∨ request.1 = child.window.lower ∧ input.poll = none := by
  cases receives : received child input with
  | some packet =>
      by_cases isSrej : packet.flag = FlagType.srej.code
      · simp only [retransmits, receives, isSrej, if_true, Option.some.injEq] at asked
        exact .inl ⟨packet, rfl, isSrej, asked ▸ rfl⟩
      · simp only [retransmits, receives, isSrej, if_false] at asked
        cases asked
  | none =>
      simp only [retransmits, receives] at asked
      split at asked
      · next timedOut => exact .inr ⟨Option.some.inj asked ▸ rfl, timedOut.2.1⟩
      · cases asked

end Server

namespace System

/-! ### The order of the numbers -/

def underWay (system : System) : List Nat :=
  Rcopy.waiting system.rcopy ++ system.toClient.map seqNumOf

/-- What the order of the channels adds to the joint invariant, as long as the SREJs name
the expected packet. -/
structure OrderInv (transfer : Transfer) (system : System) : Prop where
  joint : JointInv transfer system
  asks : SlidingWindow.Invariant transfer.windowSize (countersBy askedNumber? system)
  arriving : Arriving system.rcopy.statics.expected system.rcopy.statics.window.current
    (underWay system)
  sequential : Rcopy.Alive system.rcopy →
    Rcopy.Sequential system.rcopy.statics (Rcopy.activeBuffering system.rcopy)

section Moves

variable {transfer : Transfer} {system : System} {poll : Option Datagram} {stack : Packet}
  {rest : List Datagram}

theorem underWay_lt (inv : JointInv transfer system) :
    ∀ number ∈ underWay system, number < system.server.window.current := by
  intro number member
  rcases List.mem_append.mp member with waits | onItsWay
  · by_cases waiting : Rcopy.Waits system.rcopy
    · obtain ⟨seqNum, carries, below, _⟩ := inv.rcopy.holds.control.pending waiting
      rw [Rcopy.waiting_of_waits waiting] at waits
      rw [List.mem_singleton.mp waits, Packet.seqNum, carries.seqNumOf_eq]
      exact below.2
    · rw [Rcopy.waiting_of_idle waiting] at waits
      cases waits
  · obtain ⟨datagram, isSent, rfl⟩ := List.mem_map.mp onItsWay
    exact (inv.toClient datagram isSent).seqNum_lt inv.server.current_pos inv.server.current_lt

/-- The server resends nothing beyond the packet that rcopy expects. -/
theorem Hears.requests (asks : SlidingWindow.Invariant transfer.windowSize
      (countersBy askedNumber? system))
    (hears : Hears system stack poll rest) :
    ∀ request ∈ Server.retransmits system.server ⟨poll, stack⟩,
      system.server.window.lower ≤ request.1 ∧ request.1 ≤ system.rcopy.statics.expected := by
  intro request asked
  rcases Server.retransmits_cases asked with ⟨packet, receives, isSrej, isNumber⟩ | ⟨lowest, _⟩
  · cases hears with
    | nothing _ _ deaf remain => cases deaf.symm.trans receives
    | message datagram _ polling oldest =>
        obtain ⟨flagRead, numberRead⟩ := Server.received_reads receives
        have names : askedNumber? datagram = some request.1 := by
          rw [askedNumber?, if_pos (.inr (flagRead.symm.trans isSrej)), isNumber, numberRead]
        have member : request.1 ∈ (countersBy askedNumber? system).acks := by
          refine List.mem_filterMap.mpr ⟨datagram, ?_, names⟩
          rw [oldest]
          exact List.mem_cons_self
        exact ⟨asks.above _ member, asks.below _ member⟩
  · rw [lowest]
    exact ⟨Nat.le_refl _, asks.base_le⟩

theorem serverMove_order (inv : OrderInv transfer system)
    (hears : Hears system stack poll rest) :
    OrderInv transfer (serverMove system poll stack rest) := by
  have requests := hears.requests inv.asks
  obtain ⟨sent, grown, numbers⟩ := Server.step_numbers inv.joint.server
    (fun request asked => (requests request asked).1)
  have underway : underWay (serverMove system poll stack rest) =
      underWay system ++ sent.map seqNumOf := by
    simp only [underWay, serverMove, grown, List.drop_left, List.map_append, List.append_assoc]
  refine ⟨serverMove_inv inv.joint hears,
    (serverMove_refines (fun _ _ => askedNumber?_of_rr) inv.joint hears).invariant inv.asks, ?_,
    inv.sequential⟩
  rw [underway]
  rcases numbers with next | repeated
  · rw [next]
    exact inv.arriving.send (underWay_lt inv.joint) inv.joint.rcopy.current_le
  · refine inv.arriving.resend ?_
    intro number member
    obtain ⟨datagram, isSent, rfl⟩ := List.mem_map.mp member
    obtain ⟨request, asked, atMost⟩ := repeated datagram isSent
    exact Nat.le_trans atMost (requests request asked).2

theorem rcopyMove_order (inv : OrderInv transfer system)
    (later : JointInv transfer (rcopyMove system poll stack rest))
    (allowed : Rcopy.Allowed transfer (Rcopy.belowArrival transfer system.server.window.current)
      system.rcopy ⟨poll, stack⟩)
    (remain : (Rcopy.arrived system.rcopy ⟨poll, stack⟩ ++ rest.map seqNumOf).Sublist
      (system.toClient.map seqNumOf))
    (named : Rcopy.NamesExpected system.rcopy ⟨poll, stack⟩) :
    OrderInv transfer (rcopyMove system poll stack rest) := by
  have numbers := inv.joint.rcopy.numbers
  obtain ⟨_, advances⟩ := Rcopy.session_step inv.joint.rcopy allowed
  obtain ⟨sent, grown, each⟩ := Rcopy.Sends.asks numbers named
  have steps : SlidingWindow.Steps transfer.windowSize (countersBy askedNumber? system)
      (countersBy askedNumber? (rcopyMove system poll stack rest)) :=
    rcopyMove_refines advances.onward later.rcopy.expected_le grown each
  have taken : (Rcopy.handledNumber system.rcopy ⟨poll, stack⟩ ++
      underWay (rcopyMove system poll stack rest)).Sublist (underWay system) := by
    have order := Rcopy.stateMachine_numbers numbers.modes ⟨poll, stack⟩
    have first := order.append_right (rest.map seqNumOf)
    have second := remain.append_left (Rcopy.waiting system.rcopy)
    rw [← List.append_assoc] at second
    rw [underWay, underWay, ← List.append_assoc]
    exact first.trans second
  obtain ⟨arriving, sequential⟩ := Rcopy.order_step inv.joint.rcopy inv.sequential allowed
    (inv.arriving.sublist taken)
  exact ⟨later, steps.invariant inv.asks, arriving, sequential⟩

end Moves

/-- The SREJs of this step of the session name packets that rcopy lacks. -/
def SrejsMissing (transfer : Transfer) (system : System) (action : Action) : Prop :=
  ∀ input ∈ rcopyInput system action, Rcopy.SrejsMissing transfer system.rcopy input

def NamesExpected (system : System) (action : Action) : Prop :=
  ∀ input ∈ rcopyInput system action, Rcopy.NamesExpected system.rcopy input

instance (transfer : Transfer) (system : System) (action : Action) :
    Decidable (SrejsMissing transfer system action) :=
  inferInstanceAs (Decidable (∀ _ ∈ rcopyInput _ _, Rcopy.SrejsMissing _ _ _))

instance (system : System) (action : Action) : Decidable (NamesExpected system action) :=
  inferInstanceAs (Decidable (∀ _ ∈ rcopyInput _ _, Rcopy.NamesExpected _ _))

section Step

variable {transfer : Transfer} {system : System} {action : Action}

theorem step_order (inv : OrderInv transfer system) (enabled : Enabled transfer system action)
    (named : NamesExpected system action) : OrderInv transfer (step system action) := by
  have later := (step_refines inv.joint enabled).2
  have allowed : ∀ input, rcopyInput system action = some input → Rcopy.Allowed transfer
      (Rcopy.belowArrival transfer system.server.window.current) system.rcopy input :=
    fun _ reads => rcopyInput_allowed inv.joint enabled reads
  cases action with
  | serverStep | serverReceive | serverReceiveDamaged =>
      obtain ⟨rest, moved, hears⟩ := serverInput_hears enabled rfl
      rw [moved]
      exact serverMove_order inv hears
  | loseToServer index =>
      have remain : (system.toServer.eraseIdx index).Sublist system.toServer :=
        List.eraseIdx_sublist _ _
      have lost : SlidingWindow.Steps transfer.windowSize (countersBy askedNumber? system)
          (countersBy askedNumber? (step system (.loseToServer index))) :=
        .single (.lose _ (remain.filterMap askedNumber?))
      exact ⟨later, lost.invariant inv.asks, inv.arriving, inv.sequential⟩
  | loseToClient index =>
      have remain : (system.toClient.eraseIdx index).Sublist system.toClient :=
        List.eraseIdx_sublist _ _
      refine ⟨later, inv.asks, inv.arriving.sublist ?_, inv.sequential⟩
      exact (remain.map seqNumOf).append_left _
  | rcopyStep stack =>
      refine rcopyMove_order inv later (allowed _ rfl) ?_ (named _ rfl)
      rw [Rcopy.arrived_timeout rfl]
      exact .refl _
  | rcopyReceive stack =>
      obtain ⟨polling, waiting⟩ := enabled
      obtain ⟨datagram, rest, oldest⟩ := List.exists_cons_of_ne_nil waiting
      have head : system.toClient.head? = some datagram := by rw [oldest, List.head?_cons]
      have first : (Rcopy.arrived system.rcopy ⟨system.toClient.head?, stack⟩).Sublist
          [seqNumOf datagram] :=
        Rcopy.arrived_of_arrives inv.joint.rcopy.holds.statics.bufferSize_eq head
          (allowed _ rfl polling datagram head)
      refine rcopyMove_order inv later (allowed _ rfl) ?_ (named _ rfl)
      have joined := first.append_right (system.toClient.tail.map seqNumOf)
      rw [oldest, List.tail_cons] at joined ⊢
      exact joined
  | rcopyReceiveDamaged damaged stack =>
      have nothing : Rcopy.arrived system.rcopy ⟨some damaged, stack⟩ = [] :=
        Rcopy.arrived_rejected inv.joint.rcopy.holds.statics.bufferSize_eq rfl enabled.2.2
      refine rcopyMove_order inv later (allowed _ rfl) ?_ (named _ rfl)
      rw [nothing, List.nil_append]
      exact (List.tail_sublist _).map seqNumOf

theorem srejsMissing_iff (inv : OrderInv transfer system)
    (enabled : Enabled transfer system action) :
    SrejsMissing transfer system action ↔ NamesExpected system action := by
  constructor
  · intro missing input reads
    exact (Rcopy.srejsMissing_iff inv.joint.rcopy inv.sequential
      (rcopyInput_allowed inv.joint enabled reads)).mp (missing input reads)
  · intro named input reads
    exact (Rcopy.srejsMissing_iff inv.joint.rcopy inv.sequential
      (rcopyInput_allowed inv.joint enabled reads)).mpr (named input reads)

end Step

theorem begins_order {transfer : Transfer} {start : System} (begins : Begins transfer start) :
    OrderInv transfer start := by
  have joint := begins_inv begins
  have holds := joint.rcopy.holds
  have atStart : start.server.window.current = seqNumStart := by
    rw [begins.server]
    rfl
  have nothingAsked : countersBy askedNumber? start = counters start := by
    simp only [countersBy, counters, begins.toServer, List.filterMap_nil]
  have idle : ¬Rcopy.Waits start.rcopy := by
    simp [Rcopy.Waits, begins.waiting]
  have noneUnderWay : underWay start = [] := by
    rw [underWay, Rcopy.waiting_of_idle idle, begins.toClient]
    rfl
  -- between the expected packet and `current` there is no room for a valid slot
  have empty : ∀ index, (start.rcopy.statics.window.elements index).valid = false := by
    intro index
    by_contra filled
    obtain ⟨number, low, high, _⟩ := holds.statics.receive.held index (Bool.not_eq_false _ ▸ filled)
    have below := joint.rcopy.current_le
    rw [atStart] at below
    have positive := holds.statics.receive.lower_pos
    exact absurd (Nat.lt_of_lt_of_le high below) (Nat.not_lt.mpr (Nat.le_trans positive low))
  have direct : Rcopy.activeBuffering start.rcopy = false := by
    rw [Rcopy.activeBuffering_of_ne (by simp [begins.waiting])]
    exact holds.control.fresh (by rw [begins.waiting]; rfl)
  refine ⟨joint, nothingAsked ▸ joint.counters, ?_, fun _ => ?_⟩
  · rw [noneUnderWay]
    exact .initially _ _
  · rw [direct]
    exact ⟨empty _, fun _ => empty, fun no => by cases no⟩

/-- The SREJs of rcopy name the packet expected whatever bytes arrive, and in a session this
packet is missing, in exactly the runs in which `lastData` rejects no datagram with the
number of another packet. -/
theorem srejs_missing_iff (transfer : Transfer) (fromFileName : List UInt8)
    (inputs : List Rcopy.Input) (start : System) (actions : List Action)
    (begins : Begins transfer start)
    (enabled : EveryStep step (Enabled transfer) start actions) :
    (EveryStep Rcopy.stateMachine Rcopy.SrejsExpected
        (Rcopy.start transfer.windowSize transfer.bufferSize fromFileName) inputs ↔
      EveryStep Rcopy.stateMachine Rcopy.NamesExpected
        (Rcopy.start transfer.windowSize transfer.bufferSize fromFileName) inputs) ∧
    (EveryStep step (SrejsMissing transfer) start actions ↔
      EveryStep step NamesExpected start actions) := by
  refine ⟨Rcopy.srejs_expected_iff _ _ fromFileName inputs, ?_⟩
  refine everyStep_congr (OrderInv transfer) ?_ (fun _ _ inv permitted =>
    srejsMissing_iff inv permitted) (begins_order begins) enabled
  intro system action inv permitted missing
  exact step_order inv permitted ((srejsMissing_iff inv permitted).mp missing)

/-- The resent packet is damaged in `lastData`, but not in its number. -/
def damagedInTeardown (damaged : Datagram) : List Action :=
  firstPacketLost ++ [.rcopyStep .zero, .rcopyReceiveDamaged damaged .zero]

theorem srejs_missing_iff_named :
    EveryStep step (SrejsMissing oneByte) (afterHandshake oneByte)
      (damagedInTeardown [0, 0, 0, 1]) :=
  (srejs_missing_iff oneByte [] [] _ _ oneByte_begins (by decide +kernel)).2.mpr
    (by decide +kernel)

/-- Its number is damaged, and rcopy asks for packet 9 of a file of two. -/
theorem damaged_number_rejected :
    ¬∀ (transfer : Transfer) (start : System) (actions : List Action), Begins transfer start →
      EveryStep step (Enabled transfer) start actions →
      EveryStep step (SrejsMissing transfer) start actions := by
  intro claim
  have missing := claim oneByte (afterHandshake oneByte) (damagedInTeardown [0, 0, 0, 9])
    oneByte_begins (by decide +kernel)
  revert missing
  decide +kernel

end System

end CPE464.Project3
