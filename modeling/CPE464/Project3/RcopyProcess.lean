/-
One step of the state machine of rcopy.

`stateMachine_step` sorts the steps: a step either hands one packet of the file to a data
handler, or it is `Quiet` and only sends notices.  `stateMachine_control` is the part of
the invariant that the control states carry: a packet that waits for its handler is one
that arrived.
-/

import CPE464.Project3.RcopyArrivals

namespace CPE464.Project3.Rcopy

open General

/-! ### One step -/

inductive Notice (process : Process) (datagram : Datagram) : Prop
  | fileName (early : process.state = .sendFilename)
      (flagged : flagOf datagram = FlagType.filename.code)
  | srej (number : Nat) (control : IsControl .srej number datagram)
  | eofAck (wrote : process.statics.wroteLastData = true)
      (control : IsControl .eofAck process.statics.expected datagram)

theorem Notice.rrNumber? {process : Process} {datagram : Datagram}
    (notice : Notice process datagram) :
    CPE464.Project3.rrNumber? datagram = none := by
  cases notice with
  | fileName early flagged =>
      rw [CPE464.Project3.rrNumber?, flagged, if_neg (by decide)]
  | srej number control => exact control.rrNumber?_none (by decide)
  | eofAck wrote control => exact control.rrNumber?_none (by decide)

/-- A step that calls no data handler: it may send notices, and it leaves the file, the
window and the counters alone. -/
structure Quiet (process later : Process) : Prop where
  window : later.statics.window = process.statics.window
  expected : later.statics.expected = process.statics.expected
  toFile : later.statics.toFile = process.statics.toFile
  wrote : later.statics.wroteLastData = process.statics.wroteLastData
  bufferSize : later.statics.bufferSize = process.statics.bufferSize
  highest : activeBuffering process = true → later.statics.highest = process.statics.highest
  notices : ∃ sent, later.statics.sent = process.statics.sent ++ sent ∧
    ∀ datagram ∈ sent, Notice process datagram
  mode : Alive later → activeBuffering later = activeBuffering process
  alive : Alive later → Alive process
  exits : later.state = .exit → process.state = .exit

structure Handles (transfer : Transfer) (arrival : Arrival) (process later : Process)
    (packet : Packet) (dataSize seqNum : Nat) : Prop where
  carries : Carries transfer seqNum packet.bytes dataSize
  arrived : arrival process.statics (activeBuffering process) seqNum
  statics : later.statics =
    (handleData process.statics packet dataSize (activeBuffering process)).statics
  mode : Alive later → activeBuffering later =
    (handleData process.statics packet dataSize (activeBuffering process)).buffering
  alive : Alive process
  exits : later.state = .exit ↔
    (handleData process.statics packet dataSize (activeBuffering process)).next = .exit

def isHandshake : State → Bool
  | .sendFilename | .sendFilenameTimeout | .waitForFilenameAck | .receiveFirstData => true
  | _ => false

/-- What the control state says: nothing is buffered before the first data packet, and a
packet waiting for its handler is one that arrived, under the handler of its mode. -/
structure ControlInv (transfer : Transfer) (arrival : Arrival) (process : Process) : Prop where
  fresh : isHandshake process.state = true → process.buffering = false
  pending : process.state = .processData ∨ process.state = .bufferData →
    ∃ seqNum, Carries transfer seqNum process.currPacket.bytes process.dataSize ∧
      arrival process.statics process.buffering seqNum ∧
      (process.state = .bufferData ↔ process.buffering = true)

theorem stateMachine_timeout {process : Process} (input : Input)
    (running : process.state ≠ .exit) (notTeardown : process.state ≠ .lastDataLoop)
    (expired : timeoutMax ≤ process.timeout) :
    stateMachine process input = { process with state := .kill } := by
  have killed : dispatch (enterIteration process) input = { process with state := .kill } := by
    simp only [enterIteration, ge_iff_le, expired, if_true, dispatch, reduceCtorEq, if_false]
  unfold stateMachine
  split
  · next isLoop => exact absurd isLoop notTeardown
  · next isExit => exact absurd isExit running
  · exact killed

theorem stateMachine_dispatch {process : Process} (input : Input)
    (running : process.state ≠ .exit) (notTeardown : process.state ≠ .lastDataLoop)
    (under : process.timeout < timeoutMax) :
    stateMachine process input =
      dispatch (if process.state = .receiveData then { process with currPacket := Packet.zero }
        else process) input := by
  have entered : enterIteration process =
      if process.state = .receiveData then { process with currPacket := Packet.zero }
        else process := by
    simp only [enterIteration, ge_iff_le, Nat.not_le.mpr under, if_false]
  unfold stateMachine
  split
  · next isLoop => exact absurd isLoop notTeardown
  · next isExit => exact absurd isExit running
  · rw [entered]

inductive TeardownPass (process : Process) (poll : Option Datagram) :
    Option (Packet × Nat) → Process → Prop
  | complete (wrote : process.statics.wroteLastData = true) :
      TeardownPass process poll none
        { process with statics := sendEofAck process.statics, state := .kill }
  | timedOut (unfinished : process.statics.wroteLastData = false) (expired : poll = none) :
      TeardownPass process poll none
        { process with
          frame := { process.frame with timeout := process.frame.timeout + 1 }
          state := if process.frame.timeout + 1 < timeoutMax then .lastDataLoop else .kill }
  | rejected (unfinished : process.statics.wroteLastData = false) (datagram : Datagram)
      (packet : Packet) (dataSize : Nat) (polled : poll = some datagram)
      (received : receiveAndValidateData process.frame.packet datagram
        (dataPacketSsize process.statics.bufferSize) = (false, packet, dataSize)) :
      TeardownPass process poll none
        { process with
          statics := sendSREJ process.statics packet.seqNum
          frame := { process.frame with packet, dataSize, timeout := 0 } }
  | handled (unfinished : process.statics.wroteLastData = false) (datagram : Datagram)
      (packet : Packet) (dataSize : Nat) (polled : poll = some datagram)
      (received : receiveAndValidateData process.frame.packet datagram
        (dataPacketSsize process.statics.bufferSize) = (true, packet, dataSize)) :
      TeardownPass process poll (some (packet, dataSize))
        { process with
          statics :=
            (handleData process.statics packet dataSize process.frame.buffering).statics
          frame :=
            { packet, timeout := 0, dataSize
              buffering :=
                (handleData process.statics packet dataSize process.frame.buffering).buffering }
          state :=
            if (handleData process.statics packet dataSize process.frame.buffering).next = .exit
            then .exit else .lastDataLoop }

theorem lastData_pass {process : Process} (input : Input)
    (atLoop : process.state = .lastDataLoop) :
    TeardownPass process input.poll (handling process input) (lastData process input.poll) := by
  cases wrote : process.statics.wroteLastData with
  | true =>
      have nothing : handling process input = none := by
        simp only [handling, atLoop, wrote, if_true]
      rw [nothing]
      simp only [lastData, wrote, if_true]
      exact .complete wrote
  | false =>
      cases polled : input.poll with
      | none =>
          have nothing : handling process input = none := by
            simp only [handling, atLoop, wrote, polled, Bool.false_eq_true, if_false]
          rw [nothing]
          simp only [lastData, wrote, Bool.false_eq_true, if_false]
          exact .timedOut wrote rfl
      | some datagram =>
          rcases received : receiveAndValidateData process.frame.packet datagram
            (dataPacketSsize process.statics.bufferSize) with ⟨valid, packet, dataSize⟩
          cases valid with
          | true =>
              have hands : handling process input = some (packet, dataSize) := by
                simp only [handling, atLoop, wrote, polled, received, Bool.false_eq_true,
                  if_false, if_true]
              rw [hands]
              simp only [lastData, wrote, received, Bool.false_eq_true, if_false, Bool.not_true]
              exact .handled wrote datagram packet dataSize rfl received
          | false =>
              have nothing : handling process input = none := by
                simp only [handling, atLoop, wrote, polled, received, Bool.false_eq_true,
                  if_false]
              rw [nothing]
              simp only [lastData, wrote, received, Bool.false_eq_true, if_false, Bool.not_false,
                if_true]
              exact .rejected wrote datagram packet dataSize rfl received

inductive Pass (process : Process) (input : Input) : Process → Prop
  | teardown (atLoop : process.state = .lastDataLoop) :
      Pass process input (lastData process input.poll)
  | ended (atExit : process.state = .exit) : Pass process input process
  | givesUp (running : process.state ≠ .exit) (notTeardown : process.state ≠ .lastDataLoop)
      (expired : timeoutMax ≤ process.timeout) :
      Pass process input { process with state := .kill }
  | switched (running : process.state ≠ .exit) (notTeardown : process.state ≠ .lastDataLoop)
      (under : process.timeout < timeoutMax) :
      Pass process input
        (dispatch (if process.state = .receiveData then
          { process with currPacket := Packet.zero } else process) input)

theorem stateMachine_pass (process : Process) (input : Input) :
    Pass process input (stateMachine process input) := by
  by_cases atLoop : process.state = .lastDataLoop
  · have isLoop : stateMachine process input = lastData process input.poll := by
      simp only [stateMachine, atLoop]
    exact isLoop ▸ .teardown atLoop
  by_cases atExit : process.state = .exit
  · have stays : stateMachine process input = process := by
      simp only [stateMachine, atExit]
    rw [stays]
    exact .ended atExit
  by_cases under : process.timeout < timeoutMax
  · rw [stateMachine_dispatch input atExit atLoop under]
    exact .switched atExit atLoop under
  · rw [stateMachine_timeout input atExit atLoop (Nat.not_lt.mp under)]
    exact .givesUp atExit atLoop (Nat.not_lt.mp under)

section Step

variable {transfer : Transfer} {arrival : Arrival} {process : Process} {input : Input}

theorem Quiet.of_same {later : Process} {seqNum highest : Nat}
    (same : later.statics = { process.statics with seqNum, highest })
    (counter : activeBuffering process = true → highest = process.statics.highest)
    (mode : Alive later → activeBuffering later = activeBuffering process)
    (alive : Alive later → Alive process)
    (exits : later.state = .exit → process.state = .exit) : Quiet process later where
  window := by rw [same]
  expected := by rw [same]
  toFile := by rw [same]
  wrote := by rw [same]
  bufferSize := by rw [same]
  highest := by rw [same]; exact counter
  notices := ⟨[], by rw [same, List.append_nil], fun _ absent => by cases absent⟩
  mode := mode
  alive := alive
  exits := exits

theorem Quiet.refl (process : Process) : Quiet process process :=
  .of_same rfl (fun _ => rfl) (fun _ => rfl) (fun alive => alive) (fun isExit => isExit)

theorem recvData_frame (process : Process) (poll : Option Datagram) (first buffering : Bool) :
    ∃ state packet dataSize, recvData process poll first buffering =
      { process with state, currPacket := packet, dataSize := dataSize } ∧
      state ≠ .exit ∧ state ≠ .lastDataLoop := by
  cases poll with
  | none => exact ⟨_, process.currPacket, process.dataSize, rfl, by cases first <;> decide,
      by cases first <;> decide⟩
  | some datagram =>
      refine ⟨_, _, _, rfl, ?_, ?_⟩ <;> split <;> try split
      all_goals decide

theorem waitForFileNameAck_frame (process : Process) (poll : Option Datagram) :
    ∃ state packet highest, waitForFileNameAck process poll =
      { process with
        state, currPacket := packet, statics := { process.statics with highest } } ∧
      (state = .sendFilenameTimeout ∨ state = .kill ∨ state = .receiveFirstData) := by
  cases poll with
  | none => exact ⟨_, process.currPacket, process.statics.highest, rfl, .inl rfl⟩
  | some datagram =>
      simp only [waitForFileNameAck]
      split
      · exact ⟨_, _, process.statics.highest, rfl, .inl rfl⟩
      · split
        · exact ⟨_, _, process.statics.highest, rfl, .inl rfl⟩
        · split
          · exact ⟨_, _, process.statics.highest, rfl, .inr (.inl rfl)⟩
          · exact ⟨_, _, _, rfl, .inr (.inr rfl)⟩

theorem activeBuffering_of_ne {process : Process} (notLoop : process.state ≠ .lastDataLoop) :
    activeBuffering process = process.buffering := by
  unfold activeBuffering
  split
  · next isLoop => exact absurd isLoop notLoop
  · rfl

theorem Quiet.of_control {later : Process} {seqNum highest : Nat}
    (same : later.statics = { process.statics with seqNum, highest })
    (counter : activeBuffering process = true → highest = process.statics.highest)
    (buffering : later.buffering = process.buffering) (alive : Alive process)
    (notLoop : process.state ≠ .lastDataLoop)
    (next : later.state ≠ .exit ∧ later.state ≠ .lastDataLoop) : Quiet process later := by
  refine .of_same same counter (fun _ => ?_) (fun _ => alive)
    (fun isExit => absurd isExit next.1)
  rw [activeBuffering_of_ne next.2, activeBuffering_of_ne notLoop, buffering]

theorem dispatch_ack (input : Input) (atState : process.state = .waitForFilenameAck) :
    dispatch process input = waitForFileNameAck process input.poll := by
  unfold dispatch
  rw [atState]

theorem dispatch_firstData (input : Input) (atState : process.state = .receiveFirstData) :
    dispatch process input = recvData
      { process with
        statics := { process.statics with seqNum := wrap32 (process.statics.seqNum + 1) } }
      input.poll true false := by
  unfold dispatch
  rw [atState]

theorem dispatch_data (input : Input) (atState : process.state = .receiveData) :
    dispatch process input = recvData process input.poll false process.buffering := by
  unfold dispatch
  rw [atState]

theorem dispatch_quiet (process : Process) (input : Input)
    (fresh : isHandshake process.state = true → process.buffering = false)
    (notProcess : process.state ≠ .processData) (notBuffer : process.state ≠ .bufferData) :
    Quiet process (dispatch process input) := by
  cases atState : process.state with
  | processData => exact absurd atState notProcess
  | bufferData => exact absurd atState notBuffer
  | sendFilename =>
      have mode : activeBuffering process = process.buffering := by
        simp only [activeBuffering, atState]
      have alive : Alive process := by
        simp [Alive, atState]
      simp only [dispatch, atState]
      refine ⟨rfl, rfl, rfl, rfl, rfl, fun _ => rfl, ⟨_, rfl, ?_⟩, fun _ => mode.symm,
        fun _ => alive, fun isExit => by cases isExit⟩
      intro datagram member
      rw [List.mem_singleton.mp member]
      exact .fileName atState (buildFileNamePacket_flag _ _ _ _)
  | waitForFilenameAck =>
      obtain ⟨state, packet, highest, frame, next⟩ :=
        waitForFileNameAck_frame process input.poll
      have empty : activeBuffering process = false := by
        rw [activeBuffering_of_ne (by simp [atState]), fresh (by rw [atState]; rfl)]
      rw [dispatch_ack input atState, frame]
      exact .of_control rfl (fun buffering => absurd buffering (by simp [empty])) rfl
        (by simp [Alive, atState]) (by simp [atState])
        (by rcases next with rfl | rfl | rfl <;> simp)
  | receiveFirstData =>
      obtain ⟨state, packet, dataSize, frame, next⟩ := recvData_frame
        { process with
          statics := { process.statics with seqNum := wrap32 (process.statics.seqNum + 1) } }
        input.poll true false
      rw [dispatch_firstData input atState, frame]
      exact .of_control rfl (fun _ => rfl) rfl (by simp [Alive, atState])
        (by simp [atState]) next
  | receiveData =>
      obtain ⟨state, packet, dataSize, frame, next⟩ := recvData_frame process input.poll false
        process.buffering
      rw [dispatch_data input atState, frame]
      exact .of_control rfl (fun _ => rfl) rfl (by simp [Alive, atState])
        (by simp [atState]) next
  | lastData =>
      simp only [dispatch, atState]
      exact .of_same rfl (fun _ => rfl)
        (fun _ => (activeBuffering_of_ne (by simp [atState])).symm)
        (fun _ => by simp [Alive, atState]) (fun isExit => by cases isExit)
  | sendFilenameTimeout | receiveDataTimeout | badData =>
      simp only [dispatch, atState]
      exact .of_control rfl (fun _ => rfl) rfl (by simp [Alive, atState]) (by simp [atState])
        (by simp)
  | lastDataLoop | kill | exit =>
      simp only [dispatch, atState]
      exact .refl process

theorem lastData_step (inv : StaticsInv transfer process.statics)
    (atLoop : process.state = .lastDataLoop) (allowed : Allowed transfer arrival process input) :
    (∃ packet dataSize seqNum, handling process input = some (packet, dataSize) ∧
      Handles transfer arrival process (lastData process input.poll) packet dataSize seqNum) ∨
      (handling process input = none ∧ Quiet process (lastData process input.poll)) := by
  have mode : activeBuffering process = process.frame.buffering := by
    simp only [activeBuffering, atLoop]
  have alive : Alive process := by
    simp [Alive, atLoop]
  have pass := lastData_pass input atLoop
  generalize lastData process input.poll = later, handling process input = hands at pass ⊢
  cases pass with
  | complete wrote =>
      refine .inr ⟨rfl, rfl, rfl, rfl, rfl, rfl, fun _ => rfl, ⟨_, rfl, ?_⟩,
        fun alive => absurd rfl alive.2, fun alive => absurd rfl alive.2,
        fun isExit => by cases isExit⟩
      intro datagram member
      rw [List.mem_singleton.mp member]
      exact .eofAck wrote (restampedRr_isControl _ _ inv.expected_lt)
  | timedOut unfinished expired =>
      refine .inr ⟨rfl, .of_same rfl (fun _ => rfl) ?_ (fun _ => alive) ?_⟩
      · intro running
        rw [mode]
        split at running
        · next more => simp only [activeBuffering, more, if_true]
        · exact absurd rfl running.2
      · intro isExit
        split at isExit <;> cases isExit
  | rejected unfinished datagram packet dataSize polled received =>
      refine .inr ⟨rfl, rfl, rfl, rfl, rfl, rfl, fun _ => rfl, ⟨_, rfl, ?_⟩, ?_, fun _ => alive,
        fun isExit => isExit⟩
      · intro sent member
        rw [List.mem_singleton.mp member]
        exact .srej _ (buildSrejPacket_isControl _ (ntohl_lt _))
      · intro _
        simp only [activeBuffering, atLoop]
  | handled unfinished datagram packet dataSize polled received =>
      have polling : polls process = true := by
        simp only [polls, atLoop, unfinished, Bool.not_false]
      rw [inv.bufferSize_eq] at received
      rcases allowed polling datagram polled with waiting | rejected | ⟨isPacket, arrived⟩
      · cases atLoop.symm.trans waiting
      · have refused := rejected.receive process.frame.packet
        rw [received] at refused
        cases refused
      · obtain ⟨other, receives, carries⟩ := receive_isDataPacket isPacket process.frame.packet
        cases received.symm.trans receives
        refine .inl ⟨packet, datagram.length, _, rfl, carries, arrived, mode ▸ rfl, ?_, alive, ?_⟩
        · intro running
          rw [mode]
          split at running
          · exact absurd rfl running.1
          · next continues => simp only [activeBuffering, continues, if_false]
        · rw [mode]
          split
          · next isExit => simp [isExit]
          · next continues => simp [continues]

theorem dispatch_handler (input : Input)
    (pending : process.state = .processData ∨ process.state = .bufferData)
    (mode : process.state = .bufferData ↔ process.buffering = true) :
    dispatch process input = afterHandler process
      (handleData process.statics process.currPacket process.dataSize process.buffering) := by
  rcases pending with atState | atState
  · have direct : process.buffering = false := by simpa [atState] using mode
    simp only [dispatch, atState, handleData, direct, Bool.false_eq_true, if_false]
  · have buffered : process.buffering = true := by simpa [atState] using mode
    simp only [dispatch, atState, handleData, buffered, if_true]

theorem handler_step (input : Input) (control : ControlInv transfer arrival process)
    (pending : process.state = .processData ∨ process.state = .bufferData) :
    ∃ seqNum, Handles transfer arrival process (dispatch process input) process.currPacket
      process.dataSize seqNum := by
  obtain ⟨seqNum, carries, arrived, mode⟩ := control.pending pending
  have notLoop : process.state ≠ .lastDataLoop := by
    rcases pending with atState | atState <;> simp [atState]
  have alive : Alive process := by
    rcases pending with atState | atState <;> simp [Alive, atState]
  have dispatched := dispatch_handler input pending mode
  have next := handleData_next process.statics process.currPacket process.dataSize
    process.buffering
  refine ⟨seqNum, carries, ?_, ?_, ?_, alive, ?_⟩
  · rw [activeBuffering_of_ne notLoop]
    exact arrived
  · rw [activeBuffering_of_ne notLoop, dispatched]
    rfl
  · intro _
    rw [activeBuffering_of_ne notLoop, dispatched, activeBuffering_of_ne]
    · rfl
    · change (handleData _ _ _ _).next ≠ _
      rcases next with isNext | isNext | isNext <;> rw [isNext] <;> decide
  · rw [activeBuffering_of_ne notLoop, dispatched]
    exact Iff.rfl

/-- A step hands one packet of the file to a data handler, or it is quiet. -/
theorem stateMachine_step (inv : StaticsInv transfer process.statics)
    (control : ControlInv transfer arrival process)
    (allowed : Allowed transfer arrival process input) :
    (∃ packet dataSize seqNum, handling process input = some (packet, dataSize) ∧
      Handles transfer arrival process (stateMachine process input) packet dataSize seqNum) ∨
      (handling process input = none ∧ Quiet process (stateMachine process input)) := by
  have pass := stateMachine_pass process input
  generalize stateMachine process input = later at pass ⊢
  cases pass with
  | teardown atLoop => exact lastData_step inv atLoop allowed
  | ended atExit =>
      exact .inr ⟨handling_of_idle input (by simp [atExit]) (by simp [Waits, atExit]),
        .refl process⟩
  | givesUp running notTeardown expired =>
      refine .inr ⟨handling_expired input notTeardown expired, ?_⟩
      exact .of_same rfl (fun _ => rfl) (fun alive => absurd rfl alive.2)
        (fun alive => absurd rfl alive.2) (fun isExit => by cases isExit)
  | switched running notTeardown under =>
      by_cases waits : Waits process
      · have notReceiving : process.state ≠ .receiveData := by
          rcases waits with atState | atState <;> simp [atState]
        obtain ⟨seqNum, handles⟩ := handler_step input control waits
        rw [if_neg notReceiving]
        exact .inl ⟨_, _, seqNum, handling_waits input waits under, handles⟩
      · have notPending := not_or.mp waits
        refine .inr ⟨handling_of_idle input notTeardown waits, ?_⟩
        split
        · have quiet := dispatch_quiet { process with currPacket := Packet.zero } input
            control.fresh notPending.1 notPending.2
          obtain ⟨sent, grown, notices⟩ := quiet.notices
          refine ⟨quiet.window, quiet.expected, quiet.toFile, quiet.wrote, quiet.bufferSize,
            quiet.highest, ⟨sent, grown, fun datagram member => ?_⟩, quiet.mode, quiet.alive,
            quiet.exits⟩
          cases notices datagram member with
          | fileName early flagged => exact .fileName early flagged
          | srej number isSrej => exact .srej number isSrej
          | eofAck wrote isAck => exact .eofAck wrote isAck
        · exact dispatch_quiet process input control.fresh notPending.1 notPending.2

/-! ### Control -/

theorem ControlInv.of_idle (idle : isHandshake process.state = false)
    (notPending : process.state ≠ .processData ∧ process.state ≠ .bufferData) :
    ControlInv transfer arrival process where
  fresh := fun handshake => absurd handshake (by simp [idle])
  pending := fun pending => by
    rcases pending with atState | atState
    · exact absurd atState notPending.1
    · exact absurd atState notPending.2

theorem ControlInv.of_handshake (empty : process.buffering = false)
    (notPending : process.state ≠ .processData ∧ process.state ≠ .bufferData) :
    ControlInv transfer arrival process where
  fresh := fun _ => empty
  pending := fun pending => by
    rcases pending with atState | atState
    · exact absurd atState notPending.1
    · exact absurd atState notPending.2

theorem recvData_control (process : Process) (poll : Option Datagram) (first : Bool)
    (sized : process.statics.bufferSize = transfer.bufferSize)
    (empty : first = true → process.buffering = false)
    (arrives : ∀ datagram ∈ poll, Rejected transfer.bufferSize datagram ∨
      IsDataPacket transfer (seqNumOf datagram) datagram ∧
        arrival process.statics process.buffering (seqNumOf datagram)) :
    ControlInv transfer arrival (recvData process poll first process.buffering) := by
  cases poll with
  | none =>
      cases first with
      | true => exact .of_handshake (empty rfl) ⟨by simp [recvData], by simp [recvData]⟩
      | false => exact .of_idle rfl ⟨by simp [recvData], by simp [recvData]⟩
  | some datagram =>
      rcases arrives datagram rfl with rejected | ⟨isPacket, arrived⟩
      · have refused := rejected.receive process.currPacket
        rw [← sized] at refused
        have bad : (recvData process (some datagram) first process.buffering).state =
            .badData := by
          simp only [recvData, refused, Bool.not_false, if_true]
        exact .of_idle (by rw [bad]; rfl) ⟨by simp [bad], by simp [bad]⟩
      · obtain ⟨packet, received, carries⟩ := receive_isDataPacket isPacket process.currPacket
        rw [← sized] at received
        cases buffering : process.buffering with
        | false =>
            simp only [recvData, received, Bool.not_true, Bool.false_eq_true, if_false]
            refine ⟨fun handshake => (by cases handshake), fun _ => ⟨_, carries, ?_, ?_⟩⟩
            · exact arrived
            · simp [buffering]
        | true =>
            simp only [recvData, received, Bool.not_true, Bool.false_eq_true, if_false, if_true]
            refine ⟨fun handshake => (by cases handshake), fun _ => ⟨_, carries, ?_, ?_⟩⟩
            · exact arrived
            · simp [buffering]

theorem dispatch_control (control : ControlInv transfer arrival process)
    (sized : process.statics.bufferSize = transfer.bufferSize)
    (stable : ∀ seqNum buffering number, arrival process.statics buffering number →
      arrival { process.statics with seqNum } buffering number)
    (under : process.timeout < timeoutMax) (allowed : Allowed transfer arrival process input) :
    ControlInv transfer arrival (dispatch process input) := by
  have arrives : process.state = .receiveFirstData ∨ process.state = .receiveData →
      ∀ datagram ∈ input.poll, Rejected transfer.bufferSize datagram ∨
        IsDataPacket transfer (seqNumOf datagram) datagram ∧
          arrival process.statics process.buffering (seqNumOf datagram) := by
    intro receiving datagram member
    have polling : polls process = true := by
      rcases receiving with atState | atState <;> simp [polls, atState, under]
    have notLoop : process.state ≠ .lastDataLoop := by
      rcases receiving with atState | atState <;> simp [atState]
    rcases allowed polling datagram member with waiting | arrived
    · rcases receiving with atState | atState <;> simp [atState] at waiting
    · rw [activeBuffering_of_ne notLoop] at arrived
      exact arrived
  cases atState : process.state with
  | processData | bufferData =>
      have pending : process.state = .processData ∨ process.state = .bufferData := by
        simp [atState]
      obtain ⟨seqNum, carries, _, mode⟩ := control.pending pending
      rw [dispatch_handler input pending mode]
      rcases handleData_next process.statics process.currPacket process.dataSize
        process.buffering with
        isNext | isNext | isNext
      all_goals
        refine .of_idle ?_ ⟨?_, ?_⟩ <;> simp only [afterHandler, isNext] <;> decide
  | receiveFirstData =>
      have empty := control.fresh (by rw [atState]; rfl)
      rw [dispatch_firstData input atState, ← empty]
      refine recvData_control
        { process with
          statics := { process.statics with seqNum := wrap32 (process.statics.seqNum + 1) } }
        input.poll true sized (fun _ => empty) ?_
      intro datagram member
      rcases arrives (.inl atState) datagram member with rejected | ⟨isPacket, arrived⟩
      · exact .inl rejected
      · exact .inr ⟨isPacket, stable _ _ _ arrived⟩
  | receiveData =>
      rw [dispatch_data input atState]
      exact recvData_control process input.poll false sized (fun no => by cases no)
        (arrives (.inr atState))
  | waitForFilenameAck =>
      have empty := control.fresh (by rw [atState]; rfl)
      obtain ⟨state, packet, highest, frame, next⟩ :=
        waitForFileNameAck_frame process input.poll
      rw [dispatch_ack input atState, frame]
      exact .of_handshake empty (by rcases next with rfl | rfl | rfl <;> simp)
  | sendFilename | sendFilenameTimeout =>
      have empty := control.fresh (by rw [atState]; rfl)
      simp only [dispatch, atState]
      exact .of_handshake empty (by simp)
  | receiveDataTimeout | badData | lastData =>
      simp only [dispatch, atState]
      exact .of_idle rfl (by simp)
  | lastDataLoop | kill | exit =>
      simp only [dispatch, atState]
      exact control

theorem lastData_state (input : Input) (atLoop : process.state = .lastDataLoop) :
    (lastData process input.poll).state = .lastDataLoop ∨
      (lastData process input.poll).state = .kill ∨
      (lastData process input.poll).state = .exit := by
  have pass := lastData_pass input atLoop
  generalize lastData process input.poll = later, handling process input = hands at pass ⊢
  cases pass with
  | complete => exact .inr (.inl rfl)
  | rejected => exact .inl atLoop
  | timedOut =>
      dsimp only
      split
      · exact .inl rfl
      · exact .inr (.inl rfl)
  | handled =>
      dsimp only
      split
      · exact .inr (.inr rfl)
      · exact .inl rfl

theorem stateMachine_control (control : ControlInv transfer arrival process)
    (sized : process.statics.bufferSize = transfer.bufferSize)
    (stable : ∀ seqNum buffering number, arrival process.statics buffering number →
      arrival { process.statics with seqNum } buffering number)
    (allowed : Allowed transfer arrival process input) :
    ControlInv transfer arrival (stateMachine process input) := by
  have pass := stateMachine_pass process input
  generalize stateMachine process input = later at pass ⊢
  cases pass with
  | teardown atLoop =>
      rcases lastData_state input atLoop with next | next | next <;>
        exact .of_idle (by rw [next]; rfl) ⟨by simp [next], by simp [next]⟩
  | ended atExit => exact control
  | givesUp => exact .of_idle rfl (by simp)
  | switched running notTeardown under =>
      split
      · next receiving =>
          have cleared : ControlInv transfer arrival
              { process with currPacket := Packet.zero } :=
            ⟨control.fresh, fun pending => by simp [receiving] at pending⟩
          exact dispatch_control cleared sized stable under allowed
      · exact dispatch_control control sized stable under allowed

end Step

end CPE464.Project3.Rcopy
