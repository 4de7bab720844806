/-
What rcopy does with any datagram at all.

A datagram is copied over a packet that may hold older bytes, and `isValidPacket` looks at
the received bytes only.  `memory` is the packet a step receives into and `accepted` what
it accepts.  `stateMachine_any` sorts the steps without a word about what was sent: a data
handler is called on an accepted datagram, or file, window and counter stay as they are.
-/

import CPE464.Project3.RcopyProcess

namespace CPE464.Project3.Rcopy

open General

/-! ### Receiving -/

def memory (process : Process) : Packet :=
  match process.state with
  | .receiveData => Packet.zero
  | .lastDataLoop => process.frame.packet
  | _ => process.currPacket

def receiveLimit (process : Process) : Nat :=
  match process.state with
  | .waitForFilenameAck => filenameRespPacketSsize
  | _ => dataPacketSsize process.statics.bufferSize

/-- What this step receives of the datagram that arrives, when `isValidPacket` accepts it. -/
def accepted (process : Process) (input : Input) : Option Datagram :=
  if polls process then
    match input.poll with
    | none => none
    | some datagram =>
        if (receiveAndValidateData (memory process) datagram (receiveLimit process)).1 then
          some (datagram.take (receiveLimit process))
        else none
  else none

def receivedPacket (process : Process) (input : Input) : Packet :=
  match process.state with
  | .lastDataLoop => (stateMachine process input).frame.packet
  | _ => (stateMachine process input).currPacket

def diskWrites (statics : Statics) (packet : Packet) (dataSize : Nat) (buffering : Bool) :
    List (Packet × Nat) :=
  if isDataFlag packet.flag && packet.seqNum == statics.expected then
    if buffering then
      if packetValidInWindow statics.window packet.seqNum then []
      else
        (drainNumbers statics packet dataSize).map
          (getPacket (placed statics packet dataSize).window Packet.zero)
    else [(packet, dataSize)]
  else []

def writtenBytes (writes : List (Packet × Nat)) : List UInt8 :=
  writes.flatMap (fun write => write.1.payload.take (writeSize write.2))

theorem flushPackets_toFile (numbers : List Nat) (statics : Statics) :
    (numbers.foldl flushPacket statics).toFile = statics.toFile ++
      writtenBytes (numbers.map (getPacket statics.window Packet.zero)) := by
  induction numbers generalizing statics with
  | nil => exact (List.append_nil _).symm
  | cons number rest ih =>
      rw [List.foldl_cons, ih, List.map_cons, writtenBytes, writtenBytes, List.flatMap_cons]
      exact List.append_assoc _ _ _

theorem drain_toFile (statics : Statics) (packet : Packet) (dataSize : Nat) :
    (drain statics packet dataSize).toFile = statics.toFile ++
      writtenBytes ((drainNumbers statics packet dataSize).map
        (getPacket (placed statics packet dataSize).window Packet.zero)) := by
  by_cases found : 0 < (drainNumbers statics packet dataSize).length
  · rw [drain_eq found]
    exact flushPackets_toFile _ (placed statics packet dataSize)
  · have nothing : drainNumbers statics packet dataSize = [] :=
      List.length_eq_zero_iff.mp (Nat.eq_zero_of_not_pos found)
    have kept : drain statics packet dataSize = placed statics packet dataSize := if_neg found
    rw [kept, nothing]
    exact (List.append_nil _).symm

theorem handleData_toFile (statics : Statics) (packet : Packet) (dataSize : Nat)
    (buffering : Bool) :
    (handleData statics packet dataSize buffering).statics.toFile =
      statics.toFile ++ writtenBytes (diskWrites statics packet dataSize buffering) := by
  cases data : isDataFlag packet.flag with
  | false =>
      rw [handleData_notData dataSize buffering data, diskWrites, data]
      exact (List.append_nil _).symm
  | true =>
      have outcome := handleData_outcome statics packet dataSize buffering data
      generalize handleData statics packet dataSize buffering = handled at outcome ⊢
      cases outcome with
      | inOrder here =>
          simp only [diskWrites, data, here, beq_self_eq_true, Bool.and_self, if_true,
            Bool.false_eq_true, if_false, writtenBytes, List.flatMap_singleton]
          rfl
      | stored _ above isOpen free =>
          have elsewhere : (packet.seqNum == statics.expected) = false :=
            beq_eq_false_iff_ne.mpr (Nat.ne_of_gt above)
          rw [diskWrites, elsewhere, Bool.and_false]
          exact (rejectGap_frame statics buffering).2.2.1.trans (List.append_nil _).symm
      | refused _ highest above closed free =>
          have elsewhere : (packet.seqNum == statics.expected) = false :=
            beq_eq_false_iff_ne.mpr (Nat.ne_of_gt above)
          rw [diskWrites, elsewhere, Bool.and_false]
          exact (rejectGap_frame statics buffering).2.2.1.trans (List.append_nil _).symm
      | drainedPart here free more =>
          simp only [diskWrites, data, free, beq_iff_eq.mpr here, Bool.and_self, if_true,
            Bool.false_eq_true, if_false]
          exact (acknowledge_frame _ true).2.2.2.1.trans (drain_toFile statics packet dataSize)
      | drainedAll here free done =>
          simp only [diskWrites, data, free, beq_iff_eq.mpr here, Bool.and_self, if_true,
            Bool.false_eq_true, if_false]
          exact (acknowledge_frame _ false).2.2.2.1.trans (drain_toFile statics packet dataSize)
      | repeated _ known =>
          have nothing : diskWrites statics packet dataSize buffering = [] := by
            rcases known with below | ⟨rfl, filled⟩
            · rw [diskWrites, beq_eq_false_iff_ne.mpr (Nat.ne_of_lt below), Bool.and_false]
              rfl
            · simp only [diskWrites, filled, if_true, ite_self]
          rw [nothing]
          exact (acknowledge_frame statics buffering).2.2.2.1.trans (List.append_nil _).symm

/-! ### The states -/

/-- Nothing is buffered before the first data packet, and a packet waits for the handler of
its mode. -/
structure Modes (process : Process) : Prop where
  fresh : isHandshake process.state = true → process.buffering = false
  direct : process.state = .processData → process.buffering = false
  buffered : process.state = .bufferData → process.buffering = true

structure KeepsDisk (process later : Process) : Prop where
  window : later.statics.window = process.statics.window
  expected : later.statics.expected = process.statics.expected
  toFile : later.statics.toFile = process.statics.toFile
  bufferSize : later.statics.bufferSize = process.statics.bufferSize

theorem Quiet.keepsDisk {process later : Process} (quiet : Quiet process later) :
    KeepsDisk process later :=
  ⟨quiet.window, quiet.expected, quiet.toFile, quiet.bufferSize⟩

theorem Modes.of_idle {process : Process} (idle : isHandshake process.state = false)
    (notWaiting : ¬Waits process) : Modes process where
  fresh := fun handshake => absurd handshake (by simp [idle])
  direct := fun atState => absurd (.inl atState) notWaiting
  buffered := fun atState => absurd (.inr atState) notWaiting

theorem Modes.of_handshake {process : Process} (empty : process.buffering = false)
    (notBuffer : process.state ≠ .bufferData) : Modes process where
  fresh := fun _ => empty
  direct := fun _ => empty
  buffered := fun atState => absurd atState notBuffer

section Step

variable {process : Process} {input : Input}

theorem recvData_some (process : Process) (datagram : Datagram) (first buffering : Bool) :
    recvData process (some datagram) first buffering =
      { process with
        currPacket :=
          process.currPacket.memcpy 0 (datagram.take (dataPacketSsize process.statics.bufferSize))
        dataSize := (datagram.take (dataPacketSsize process.statics.bufferSize)).length
        state :=
          if (receiveAndValidateData process.currPacket datagram
              (dataPacketSsize process.statics.bufferSize)).1 then
            if buffering then .bufferData else .processData
          else .badData } := by
  simp only [recvData, receiveAndValidateData, Bool.not_eq_true', ← Bool.not_eq_true, ite_not]
  congr

/-- While the session is not given up, the loop of `stateMachine` clears `currPacket` before
`STATE_RECEIVE_DATA` and goes to its `switch`. -/
theorem stateMachine_receiving (receiving : process.state = .waitForFilenameAck ∨
      process.state = .receiveFirstData ∨ process.state = .receiveData)
    (polling : polls process = true) :
    stateMachine process input = dispatch { process with currPacket := memory process } input := by
  have under : process.timeout < timeoutMax := by
    rcases receiving with atState | atState | atState <;>
      simpa [polls, atState] using polling
  have running : process.state ≠ .exit ∧ process.state ≠ .lastDataLoop := by
    rcases receiving with atState | atState | atState <;> simp [atState]
  rw [stateMachine_dispatch input running.1 running.2 under]
  by_cases clears : process.state = .receiveData
  · have cleared : memory process = Packet.zero := by simp only [memory, clears]
    rw [if_pos clears, cleared]
  · have kept : memory process = process.currPacket := by
      rcases receiving with atState | atState | atState
      · simp only [memory, atState]
      · simp only [memory, atState]
      · exact absurd atState clears
    rw [if_neg clears, kept]

theorem waitForFileNameAck_packet (process : Process) (datagram : Datagram) :
    (waitForFileNameAck process (some datagram)).currPacket =
      process.currPacket.memcpy 0 (datagram.take filenameRespPacketSsize) := by
  simp only [waitForFileNameAck]
  split
  · rfl
  · split
    · rfl
    · split <;> rfl

theorem accepted_eq_some {datagram : Datagram} (accepts : accepted process input = some datagram) :
    polls process = true ∧ ∃ arrived, input.poll = some arrived ∧
      datagram = arrived.take (receiveLimit process) ∧
      (receiveAndValidateData (memory process) arrived (receiveLimit process)).1 = true := by
  unfold accepted at accepts
  split at accepts
  · next polling =>
      split at accepts
      · cases accepts
      · next arrived polled =>
          split at accepts
          · next valid => exact ⟨polling, arrived, polled, (Option.some.inj accepts).symm, valid⟩
          · cases accepts
  · cases accepts

theorem receivedPacket_eq {datagram : Datagram} (accepts : accepted process input = some datagram) :
    receivedPacket process input = (memory process).memcpy 0 datagram := by
  obtain ⟨polling, arrived, polled, rfl, valid⟩ := accepted_eq_some accepts
  cases atState : process.state with
  | lastDataLoop =>
      have unfinished : process.statics.wroteLastData = false := by
        simpa [polls, atState] using polling
      simp only [receivedPacket, stateMachine, memory, receiveLimit, atState, lastData, polled,
        unfinished, Bool.false_eq_true, if_false]
      split <;> rfl
  | waitForFilenameAck =>
      have kept : memory process = process.currPacket := by simp only [memory, atState]
      have moved : stateMachine process input = dispatch process input := by
        rw [stateMachine_receiving (.inl atState) polling, kept]
      simp only [receivedPacket, receiveLimit, atState]
      rw [moved, dispatch_ack input atState, polled, kept]
      exact waitForFileNameAck_packet process arrived
  | receiveFirstData =>
      simp only [receivedPacket, memory, receiveLimit, atState]
      rw [stateMachine_receiving (.inr (.inl atState)) polling]
      simp only [dispatch, memory, atState, polled, recvData_some]
  | receiveData =>
      simp only [receivedPacket, memory, receiveLimit, atState]
      rw [stateMachine_receiving (.inr (.inr atState)) polling]
      simp only [dispatch, memory, atState, polled, recvData_some]
  | sendFilename | sendFilenameTimeout | receiveDataTimeout | badData | processData |
      bufferData | lastData | kill | exit =>
      simp [polls, atState] at polling

/-- In `lastData` the packet goes to its handler in the same step. -/
theorem handling_teardown (atLoop : process.state = .lastDataLoop) :
    handling process input = (accepted process input).map
      (fun datagram => ((memory process).memcpy 0 datagram, datagram.length)) := by
  unfold handling accepted
  simp only [atLoop, polls, memory, receiveLimit]
  cases process.statics.wroteLastData with
  | true => rfl
  | false =>
      cases polled : input.poll with
      | none => rfl
      | some datagram =>
          dsimp only
          cases (receiveAndValidateData process.frame.packet datagram
              (dataPacketSsize process.statics.bufferSize)).1 <;> rfl

theorem Modes.handler (modes : Modes process) (waits : Waits process) :
    process.state = .bufferData ↔ process.buffering = true := by
  rcases waits with atState | atState
  · simp [atState, modes.direct atState]
  · simp [atState, modes.buffered atState]

theorem Modes.cleared (modes : Modes process) (packet : Packet) :
    Modes { process with currPacket := packet } :=
  ⟨modes.fresh, modes.direct, modes.buffered⟩

theorem handled_next (modes : Modes process) (waits : Waits process) (input : Input) :
    (dispatch process input).state = .exit ∨ (dispatch process input).state = .receiveData ∨
      (dispatch process input).state = .lastData := by
  rw [dispatch_handler input waits (modes.handler waits)]
  exact handleData_next process.statics process.currPacket process.dataSize process.buffering

theorem handled_idle (modes : Modes process) (waits : Waits process) (input : Input) :
    isHandshake (dispatch process input).state = false ∧ ¬Waits (dispatch process input) := by
  rcases handled_next modes waits input with next | next | next <;>
    simp [Waits, next, isHandshake]

theorem dispatch_waits (modes : Modes process) (waits : Waits (dispatch process input)) :
    (process.state = .receiveFirstData ∨ process.state = .receiveData) ∧
      ∃ datagram, input.poll = some datagram ∧
        (receiveAndValidateData process.currPacket datagram
          (dataPacketSsize process.statics.bufferSize)).1 = true ∧
        (dispatch process input).currPacket = process.currPacket.memcpy 0
          (datagram.take (dataPacketSsize process.statics.bufferSize)) ∧
        (dispatch process input).dataSize =
          (datagram.take (dataPacketSsize process.statics.bufferSize)).length := by
  cases atState : process.state with
  | processData | bufferData =>
      have waited : Waits process := by simp [Waits, atState]
      exact absurd waits (handled_idle modes waited input).2
  | receiveFirstData | receiveData =>
      cases polled : input.poll with
      | none => simp [Waits, dispatch, atState, recvData, polled] at waits
      | some datagram =>
          simp only [dispatch, atState, polled, recvData_some] at waits ⊢
          refine ⟨by simp, datagram, rfl, ?_, rfl, rfl⟩
          by_contra refused
          rcases waits with isState | isState <;> simp [refused] at isState
  | waitForFilenameAck =>
      obtain ⟨state, packet, highest, frame, next⟩ :=
        waitForFileNameAck_frame process input.poll
      simp only [Waits, dispatch, atState, frame] at waits
      rcases next with rfl | rfl | rfl <;> simp at waits
  | sendFilename | sendFilenameTimeout | receiveDataTimeout | badData | lastData |
      lastDataLoop | kill | exit =>
      simp [Waits, dispatch, atState] at waits

/-- Only a data packet that this step accepts waits for its handler afterwards. -/
theorem stateMachine_waits (modes : Modes process) (waits : Waits (stateMachine process input)) :
    (process.state = .receiveFirstData ∨ process.state = .receiveData) ∧
      ∃ datagram, accepted process input = some datagram ∧
        (stateMachine process input).currPacket = (memory process).memcpy 0 datagram ∧
        (stateMachine process input).dataSize = datagram.length := by
  have pass := stateMachine_pass process input
  generalize stateMachine process input = later at pass waits ⊢
  cases pass with
  | teardown atLoop =>
      rcases lastData_state input atLoop with next | next | next <;>
        simp [Waits, next] at waits
  | ended atExit => simp [Waits, atExit] at waits
  | givesUp => rcases waits with atState | atState <;> cases atState
  | switched running notTeardown under =>
      by_cases clears : process.state = .receiveData
      · rw [if_pos clears] at waits ⊢
        obtain ⟨_, datagram, polled, valid, packet, size⟩ :=
          dispatch_waits (modes.cleared Packet.zero) waits
        refine ⟨.inr clears, _, ?_, ?_, size⟩
        · simp only [accepted, polls, receiveLimit, memory, clears, under, decide_true, if_true,
            polled, valid]
        · have cleared : memory process = Packet.zero := by simp only [memory, clears]
          rw [cleared]
          exact packet
      · rw [if_neg clears] at waits ⊢
        obtain ⟨receiving, datagram, polled, valid, packet, size⟩ := dispatch_waits modes waits
        have atFirst := receiving.resolve_right clears
        refine ⟨.inl atFirst, _, ?_, ?_, size⟩
        · simp only [accepted, polls, receiveLimit, memory, atFirst, under, decide_true, if_true,
            polled, valid]
        · have kept : memory process = process.currPacket := by simp only [memory, atFirst]
          rw [kept]
          exact packet

theorem dispatch_asks (modes : Modes process)
    (asks : (dispatch process input).state = .receiveFirstData) :
    (dispatch process input).currPacket.flag = FlagType.filenameResp.code := by
  cases atState : process.state with
  | processData | bufferData =>
      have waits : Waits process := by simp [Waits, atState]
      have idle := (handled_idle modes waits input).1
      rw [asks] at idle
      cases idle
  | receiveFirstData | receiveData =>
      simp only [dispatch, atState] at asks
      cases polled : input.poll with
      | none => simp [recvData, polled] at asks
      | some datagram =>
          rw [polled, recvData_some] at asks
          dsimp only at asks
          split at asks
          · split at asks <;> cases asks
          · cases asks
  | waitForFilenameAck =>
      simp only [dispatch, atState, waitForFileNameAck] at asks ⊢
      cases polled : input.poll with
      | none => simp [polled] at asks
      | some datagram =>
          simp only [polled] at asks ⊢
          split at asks
          · cases asks
          · next valid =>
              split at asks
              · cases asks
              · next flagged =>
                  split at asks
                  · cases asks
                  · next answered =>
                      rw [if_neg valid, if_neg flagged, if_neg answered]
                      exact not_not.mp flagged
  | sendFilename | sendFilenameTimeout | receiveDataTimeout | badData | lastData |
      lastDataLoop | kill | exit =>
      simp [dispatch, atState] at asks

theorem stateMachine_asks (modes : Modes process)
    (asks : (stateMachine process input).state = .receiveFirstData) :
    (stateMachine process input).currPacket.flag = FlagType.filenameResp.code := by
  have pass := stateMachine_pass process input
  generalize stateMachine process input = later at pass asks ⊢
  cases pass with
  | teardown atLoop =>
      rcases lastData_state input atLoop with next | next | next <;> simp [next] at asks
  | ended atExit => simp [atExit] at asks
  | givesUp => cases asks
  | switched running notTeardown under =>
      split at asks
      · next clears =>
          rw [if_pos clears]
          exact dispatch_asks (modes.cleared Packet.zero) asks
      · next clears =>
          rw [if_neg clears]
          exact dispatch_asks modes asks

theorem dispatch_modes (modes : Modes process) : Modes (dispatch process input) := by
  cases atState : process.state with
  | processData | bufferData =>
      have waits : Waits process := by simp [Waits, atState]
      obtain ⟨idle, notWaiting⟩ := handled_idle modes waits input
      exact .of_idle idle notWaiting
  | receiveFirstData =>
      have empty := modes.fresh (by rw [atState]; rfl)
      simp only [dispatch, atState]
      cases polled : input.poll with
      | none => exact .of_handshake empty (by simp [recvData])
      | some datagram =>
          rw [recvData_some]
          refine .of_handshake empty ?_
          dsimp only
          split <;> simp
  | receiveData =>
      simp only [dispatch, atState]
      cases polled : input.poll with
      | none => exact .of_idle rfl (by simp [Waits, recvData])
      | some datagram =>
          rw [recvData_some]
          by_cases valid : (receiveAndValidateData process.currPacket datagram
              (dataPacketSsize process.statics.bufferSize)).1 = true
          · rw [if_pos valid]
            cases buffering : process.buffering with
            | false => exact .of_handshake rfl (by simp)
            | true => exact ⟨fun no => (by cases no), fun no => (by cases no), fun _ => rfl⟩
          · rw [if_neg valid]
            exact .of_idle rfl (by simp [Waits])
  | waitForFilenameAck =>
      have empty := modes.fresh (by rw [atState]; rfl)
      obtain ⟨state, packet, highest, frame, next⟩ :=
        waitForFileNameAck_frame process input.poll
      simp only [dispatch, atState, frame]
      exact .of_handshake empty (by rcases next with rfl | rfl | rfl <;> simp)
  | sendFilename | sendFilenameTimeout =>
      have empty := modes.fresh (by rw [atState]; rfl)
      simp only [dispatch, atState]
      exact .of_handshake empty (by simp)
  | receiveDataTimeout | badData | lastData =>
      simp only [dispatch, atState]
      exact .of_idle rfl (by simp [Waits])
  | lastDataLoop | kill | exit =>
      simp only [dispatch, atState]
      exact modes

theorem stateMachine_modes (modes : Modes process) : Modes (stateMachine process input) := by
  have pass := stateMachine_pass process input
  generalize stateMachine process input = later at pass ⊢
  cases pass with
  | teardown atLoop =>
      rcases lastData_state input atLoop with next | next | next <;>
        exact .of_idle (by rw [next]; rfl) (by simp [Waits, next])
  | ended atExit => exact modes
  | givesUp => exact .of_idle rfl (by simp [Waits])
  | switched running notTeardown under =>
      split
      · exact dispatch_modes (modes.cleared Packet.zero)
      · exact dispatch_modes modes

theorem lastData_any (input : Input) (atLoop : process.state = .lastDataLoop) :
    (∃ packet dataSize, handling process input = some (packet, dataSize) ∧
      (lastData process input.poll).statics =
        (handleData process.statics packet dataSize (activeBuffering process)).statics) ∨
      (handling process input = none ∧ KeepsDisk process (lastData process input.poll)) := by
  have mode : activeBuffering process = process.frame.buffering := by
    simp only [activeBuffering, atLoop]
  have pass := lastData_pass input atLoop
  generalize lastData process input.poll = later, handling process input = hands at pass ⊢
  cases pass with
  | complete => exact .inr ⟨rfl, ⟨rfl, rfl, rfl, rfl⟩⟩
  | timedOut => exact .inr ⟨rfl, ⟨rfl, rfl, rfl, rfl⟩⟩
  | rejected => exact .inr ⟨rfl, ⟨rfl, rfl, rfl, rfl⟩⟩
  | handled _ _ packet dataSize =>
      rw [mode]
      exact .inl ⟨packet, dataSize, rfl, rfl⟩

/-- A step calls a data handler, or it leaves the file and the window alone. -/
theorem stateMachine_any (modes : Modes process) (input : Input) :
    (∃ packet dataSize, handling process input = some (packet, dataSize) ∧
      (stateMachine process input).statics =
        (handleData process.statics packet dataSize (activeBuffering process)).statics) ∨
      (handling process input = none ∧ KeepsDisk process (stateMachine process input)) := by
  have pass := stateMachine_pass process input
  generalize stateMachine process input = later at pass ⊢
  cases pass with
  | teardown atLoop => exact lastData_any input atLoop
  | ended atExit =>
      exact .inr ⟨handling_of_idle input (by simp [atExit]) (by simp [Waits, atExit]),
        ⟨rfl, rfl, rfl, rfl⟩⟩
  | givesUp running notTeardown expired =>
      exact .inr ⟨handling_expired input notTeardown expired, ⟨rfl, rfl, rfl, rfl⟩⟩
  | switched running notTeardown under =>
      by_cases waits : Waits process
      · have notReceiving : process.state ≠ .receiveData := by
          rcases waits with atState | atState <;> simp [atState]
        refine .inl ⟨process.currPacket, process.dataSize, handling_waits input waits under, ?_⟩
        rw [if_neg notReceiving, dispatch_handler input waits (modes.handler waits),
          activeBuffering_of_ne notTeardown]
        rfl
      · have notPending : process.state ≠ .processData ∧ process.state ≠ .bufferData :=
          ⟨fun atState => waits (.inl atState), fun atState => waits (.inr atState)⟩
        refine .inr ⟨handling_of_idle input notTeardown waits, ?_⟩
        split
        · have quiet := dispatch_quiet { process with currPacket := Packet.zero } input
            modes.fresh notPending.1 notPending.2
          exact ⟨quiet.window, quiet.expected, quiet.toFile, quiet.bufferSize⟩
        · exact (dispatch_quiet process input modes.fresh notPending.1
            notPending.2).keepsDisk

end Step

end CPE464.Project3.Rcopy
