/-
A session over a network that neither loses nor damages anything and is quicker than the
timeouts.

Every data packet is then the expected one, the RRs under way acknowledge one packet each, and
whoever waits has something on its way.  So the session cannot stop short of its end, and a
rank made of the packets at each stage of their way bounds its length.
-/

import CPE464.General.FallingRun
import CPE464.Project3.EndToEnd
import CPE464.Project3.GivingUp
import CPE464.Project3.SendLoop

namespace CPE464.Project3

open General

namespace System

/-- A program that polls finds a datagram, but for the poll of the server that does not block;
nothing is lost or damaged. -/
def Undisturbed (system : System) : Action → Prop
  | .serverStep _ =>
      (Server.polls system.server = true → system.server.state = .checkRrSrej) ∧
        system.server.state ≠ .eofAcked ∧ system.server.state ≠ .kill
  | .serverReceive _ => Server.polls system.server = true ∧ system.toServer ≠ []
  | .rcopyStep _ =>
      Rcopy.polls system.rcopy = false ∧ system.rcopy.state ≠ .kill ∧ system.rcopy.state ≠ .exit
  | .rcopyReceive _ => Rcopy.polls system.rcopy = true ∧ system.toClient ≠ []
  | .serverReceiveDamaged _ _ | .loseToServer _ | .rcopyReceiveDamaged _ _ | .loseToClient _ =>
      False

instance (system : System) : (action : Action) → Decidable (Undisturbed system action)
  | .serverStep _ => inferInstanceAs (Decidable ((_ → _) ∧ _ ∧ _))
  | .serverReceive _ | .rcopyReceive _ => inferInstanceAs (Decidable (_ ∧ _ ≠ _))
  | .rcopyStep _ => inferInstanceAs (Decidable (_ ∧ _ ∧ _))
  | .serverReceiveDamaged _ _ | .loseToServer _ | .rcopyReceiveDamaged _ _ | .loseToClient _ =>
      inferInstanceAs (Decidable False)

/-- The file has arrived, and both programs have ended on the acknowledgement of its end. -/
structure Complete (transfer : Transfer) (system : System) : Prop where
  toFile_eq : system.rcopy.statics.toFile = transfer.file
  server : system.server.state = .eofAcked
  rcopy : system.rcopy.state = .kill
  toClient : system.toClient = []
  toServer : system.toServer = []

theorem Undisturbed.enabled {transfer : Transfer} {system : System} {action : Action}
    (undisturbed : Undisturbed system action) : Enabled transfer system action := by
  cases action with
  | serverStep | rcopyStep => trivial
  | serverReceive | rcopyReceive => exact undisturbed
  | serverReceiveDamaged | loseToServer | rcopyReceiveDamaged | loseToClient => cases undisturbed

end System

namespace Rcopy

/-! ### Up to the first data packet -/

def UnderMax (process : Process) : Prop :=
  process.state = .waitForFilenameAck ∨ process.state = .receiveFirstData →
    process.timeout < timeoutMax

theorem stateMachine_underMax {process : Process} (modes : Modes process) (input : Input) :
    UnderMax (stateMachine process input) := by
  intro waits
  have pass := stateMachine_pass process input
  generalize stateMachine process input = later at pass waits
  cases pass with
  | teardown atLoop =>
      rcases lastData_state input atLoop with isNext | isNext | isNext <;>
        simp [isNext] at waits
  | ended atExit => simp [atExit] at waits
  | givesUp => simp at waits
  | switched running notTeardown under =>
      have counts := (switched_counts modes input).1
      have uncounted : ¬(process.state = .sendFilenameTimeout ∨
          process.state = .receiveDataTimeout) := by
        rintro (atState | atState) <;> simp [dispatch, atState] at waits
      rw [if_neg uncounted] at counts
      exact counts ▸ under

theorem run_underMax (windowSize bufferSize : Nat) (fromFileName : List UInt8)
    (inputs : List Input) :
    UnderMax (run stateMachine (start windowSize bufferSize fromFileName) inputs) := by
  have initially : UnderMax (start windowSize bufferSize fromFileName) :=
    fun _ => Nat.zero_lt_succ _
  refine (run_invariant (fun process => Modes process ∧ UnderMax process) ?_
    ⟨.of_handshake rfl (fun no => by cases no), initially⟩ (everyStep_true _ inputs)).2
  exact fun _ input here _ => ⟨stateMachine_modes here.1, stateMachine_underMax here.1 input⟩

/-! ### The expected packet -/

variable {transfer : Transfer} {process : Process} (input : Input)

structure Direct (process : Process) : Prop where
  timeout : process.timeout < timeoutMax
  buffering : process.buffering = false
  phase : process.state = .receiveFirstData ∨ process.state = .receiveData ∨
    process.state = .processData ∨ process.state = .lastData ∨ process.state = .lastDataLoop ∨
      process.state = .kill
  finished : process.statics.wroteLastData = true ↔
    process.state = .lastData ∨ process.state = .lastDataLoop ∨ process.state = .kill

def pending (process : Process) : Nat := if process.state = .processData then 1 else 0

structure Received (transfer : Transfer) (process later : Process) : Prop where
  statics : ∃ seqNum, later.statics = { process.statics with seqNum }
  direct : Direct later
  state : later.state = .processData
  carries : Carries transfer process.statics.expected later.currPacket.bytes later.dataSize

theorem receive_packet (receiving : process.state = .receiveData)
    (under : process.timeout < timeoutMax) (unbuffered : process.buffering = false)
    (sized : process.statics.bufferSize = transfer.bufferSize) {datagram : Datagram}
    (polled : input.poll = some datagram) {seqNum : Nat}
    (isPacket : IsDataPacket transfer seqNum datagram) :
    ∃ packet, Carries transfer seqNum packet.bytes datagram.length ∧
      stateMachine process input = { process with
        currPacket := packet, dataSize := datagram.length, state := .processData } := by
  obtain ⟨packet, received, carries⟩ := receive_isDataPacket isPacket Packet.zero
  refine ⟨packet, carries, ?_⟩
  rw [stateMachine_dispatch input (by simp [receiving]) (by simp [receiving]) under,
    if_pos receiving]
  simp only [dispatch, receiving, recvData, polled, sized, received, unbuffered,
    Bool.not_true, Bool.false_eq_true, if_false]

theorem receive_expected (direct : Direct process) (polling : polls process = true)
    (sized : process.statics.bufferSize = transfer.bufferSize) {datagram : Datagram}
    (polled : input.poll = some datagram)
    (isPacket : IsDataPacket transfer process.statics.expected datagram) :
    Received transfer process (stateMachine process input) := by
  have under := direct.timeout
  have receiving : process.state = .receiveFirstData ∨ process.state = .receiveData := by
    rcases direct.phase with atState | atState | atState | atState | atState | atState
    · exact .inl atState
    · exact .inr atState
    · simp [polls, atState] at polling
    · simp [polls, atState] at polling
    · have wrote := direct.finished.mpr (.inr (.inl atState))
      simp [polls, atState, wrote] at polling
    · simp [polls, atState] at polling
  have unfinished : process.statics.wroteLastData = false := by
    rw [← Bool.not_eq_true, direct.finished]
    rcases receiving with atState | atState <;> simp [atState]
  have remains : ∀ later : Process, later.timeout = process.timeout →
      later.buffering = process.buffering → later.state = .processData →
      later.statics.wroteLastData = process.statics.wroteLastData → Direct later := by
    intro later timeout buffering state wrote
    refine ⟨timeout ▸ under, buffering.trans direct.buffering, .inr (.inr (.inl state)), ?_⟩
    rw [wrote, unfinished, state]
    simp
  rcases receiving with atState | atState
  · obtain ⟨packet, received, carries⟩ := receive_isDataPacket isPacket process.currPacket
    have moved : stateMachine process input = { process with
        statics := { process.statics with seqNum := wrap32 (process.statics.seqNum + 1) }
        currPacket := packet, dataSize := datagram.length, state := .processData } := by
      rw [stateMachine_dispatch input (by simp [atState]) (by simp [atState]) under,
        if_neg (by simp [atState]), dispatch_firstData input atState]
      simp only [recvData, polled, sized, received, Bool.not_true, Bool.false_eq_true, if_false]
    rw [moved]
    exact ⟨⟨_, rfl⟩, remains _ rfl rfl rfl rfl, rfl, carries⟩
  · obtain ⟨packet, carries, moved⟩ := receive_packet input atState under direct.buffering sized
      polled isPacket
    rw [moved]
    exact ⟨⟨process.statics.seqNum, rfl⟩, remains _ rfl rfl rfl rfl, rfl, carries⟩

structure Wrote (transfer : Transfer) (process later : Process) : Prop where
  direct : Direct later
  notPending : later.state ≠ .processData
  notKill : later.state ≠ .kill
  expected : later.statics.expected = process.statics.expected + 1
  sent : ∃ datagram, later.statics.sent = process.statics.sent ++ [datagram] ∧
    IsControl .rr later.statics.expected datagram

theorem process_expected (direct : Direct process) (waiting : process.state = .processData)
    (carries : Carries transfer process.statics.expected process.currPacket.bytes
      process.dataSize) :
    Wrote transfer process (stateMachine process input) := by
  have numbered : process.currPacket.seqNum = process.statics.expected := carries.seqNumOf_eq
  have data := isDataFlag_of_carries carries
  have counted := advance_expected carries
  have unfinished : process.statics.wroteLastData = false := by
    rw [← Bool.not_eq_true, direct.finished, waiting]
    simp
  have handled : processData process.statics process.currPacket process.dataSize
      process.buffering =
      { statics := sendRR (advance process.statics process.currPacket process.dataSize)
        buffering := process.buffering
        next := stateAfter process.currPacket } := by
    simp only [processData, data, Bool.not_true, Bool.false_eq_true, if_false, numbered, if_true]
    rfl
  have moved : stateMachine process input = { process with
      statics := sendRR (advance process.statics process.currPacket process.dataSize)
      state := stateAfter process.currPacket } := by
    rw [stateMachine_dispatch input (by simp [waiting]) (by simp [waiting]) direct.timeout,
      if_neg (by simp [waiting])]
    simp only [dispatch, waiting, afterHandler, handled]
  have wrote : (sendRR (advance process.statics process.currPacket
      process.dataSize)).wroteLastData = (process.currPacket.flag == FlagType.eof.code) := by
    change (process.statics.wroteLastData || _) = _
    rw [unfinished, Bool.false_or]
  have small : (advance process.statics process.currPacket process.dataSize).expected < 2 ^ 32 :=
    counted ▸ carries.seqNum_lt
  have next : stateAfter process.currPacket =
      if process.currPacket.flag = FlagType.eof.code then .lastData else .receiveData := rfl
  rw [moved]
  refine ⟨⟨direct.timeout, direct.buffering, ?_, ?_⟩, ?_, ?_, counted, _, rfl,
    buildRrPacket_isControl _ small⟩
  · simp only [next]
    split <;> simp
  · simp only [wrote, next, beq_iff_eq]
    split <;> simp [*]
  · simp only [next]
    split <;> simp
  · simp only [next]
    split <;> simp

theorem lastData_direct (direct : Direct process) (atLast : process.state = .lastData) :
    Direct (stateMachine process input) ∧ (stateMachine process input).state = .lastDataLoop ∧
      (stateMachine process input).statics = process.statics := by
  have wrote := direct.finished.mpr (.inl atLast)
  have moved : (stateMachine process input) = { process with
      frame := { packet := input.stack, timeout := 0, dataSize := 0,
                 buffering := process.buffering }
      state := .lastDataLoop } := by
    rw [stateMachine_dispatch input (by simp [atLast]) (by simp [atLast]) direct.timeout,
      if_neg (by simp [atLast])]
    simp only [dispatch, atLast]
  rw [moved]
  exact ⟨⟨direct.timeout, direct.buffering, by simp, by simp [wrote]⟩, rfl, rfl⟩

theorem eofAck_direct (direct : Direct process) (atLoop : process.state = .lastDataLoop)
    (small : process.statics.expected < 2 ^ 32) :
    Direct (stateMachine process input) ∧ (stateMachine process input).state = .kill ∧
      (stateMachine process input).statics.expected = process.statics.expected ∧
      ∃ datagram, (stateMachine process input).statics.sent =
          process.statics.sent ++ [datagram] ∧
        IsControl .eofAck process.statics.expected datagram := by
  have wrote := direct.finished.mpr (.inr (.inl atLoop))
  have moved : stateMachine process input =
      { process with statics := sendEofAck process.statics, state := .kill } := by
    simp only [stateMachine, atLoop, lastData, wrote, if_true]
  have still : (sendEofAck process.statics).wroteLastData = true := wrote
  rw [moved]
  exact ⟨⟨direct.timeout, direct.buffering, by simp, by simp [still]⟩, rfl, rfl, _, rfl,
    restampedRr_isControl _ _ small⟩

end Rcopy

/-! ### The server without timeouts -/

namespace Server

variable {transfer : Transfer} {child : Child} (input : Input)

structure Patient (child : Child) : Prop where
  timeout : child.timeout ≤ timeoutMax
  lastTimeout : child.lastTimeout < timeoutMax
  running : child.state ≠ .kill

/-- How many passes the child is away from its next packet. -/
def stage (child : Child) : Nat :=
  match child.state with
  | .windowOpen => 1
  | .checkRrSrej => 2
  | .windowClosed => if isWindowOpen child.window then 2 else 0
  | _ => 0

theorem stage_le (child : Child) : stage child ≤ 2 := by
  unfold stage
  split
  · decide
  · decide
  · split <;> decide
  · decide

/-- A step without a datagram sends the next packet of the file, or walks on to the next
loop. -/
theorem walk (inv : ServerInv transfer child) (patient : Patient child)
    (idle : polls child = true → child.state = .checkRrSrej) (unacked : child.state ≠ .eofAcked)
    (timedOut : input.poll = none) :
    Patient (step child input) ∧ (step child input).state ≠ .eofAcked ∧
      (step child input).window.lower = child.window.lower ∧
      (child.window.current ≤ transfer.packetCount ∧ stage child = 1 ∧
          (step child input).window.current = child.window.current + 1 ∧
          (step child input).sent = child.sent ++ [transfer.datagram child.window.current
            (transfer.flagFor child.window.current .data)] ∨
        (step child input).window.current = child.window.current ∧
          (step child input).sent = child.sent ∧ stage (step child input) < stage child) := by
  have fits := inv.fits
  cases atState : child.state with
  | windowOpen =>
      rw [atState] at fits
      cases isOpen : isWindowOpen child.window with
      | true =>
          have sending : sends child = true := by
            simp [sends, atState, isOpen]
          obtain ⟨packet, dataSize, _, _, _, reads⟩ := readFromDiskAndSend_eq inv atState isOpen
          have more := inv.current_le (.inl atState)
          have first : stage child = 1 := by
            simp only [stage, atState]
          rw [step_of_sends sending, reads]
          refine ⟨⟨patient.timeout, patient.lastTimeout, ?_⟩, ?_, rfl,
            .inl ⟨more, first, rfl, rfl⟩⟩
          · dsimp only
            split <;> simp
          · dsimp only
            split <;> simp
      | false =>
          have notEof : child.atEof = false := fits
          rw [step_full atState isOpen, notEof, if_neg Bool.false_ne_true]
          refine ⟨⟨patient.timeout, patient.lastTimeout, by simp⟩, by simp, rfl,
            .inr ⟨rfl, rfl, ?_⟩⟩
          simp [stage, atState, isOpen]
  | checkRrSrej =>
      rw [step_check_empty atState timedOut]
      exact ⟨⟨patient.timeout, patient.lastTimeout, by simp⟩, by simp, rfl,
        .inr ⟨rfl, rfl, by simp [stage, atState]⟩⟩
  | windowClosed =>
      rw [atState] at fits
      have notEof : child.atEof = false := fits
      cases isOpen : isWindowOpen child.window with
      | true =>
          rw [step_reopens atState isOpen, notEof, if_neg Bool.false_ne_true]
          exact ⟨⟨patient.timeout, patient.lastTimeout, by simp⟩, by simp, rfl,
            .inr ⟨rfl, rfl, by simp [stage, atState, isOpen]⟩⟩
      | false =>
          have polling : polls child = true := by
            simp [polls, atState, isOpen, patient.timeout]
          cases atState.symm.trans (idle polling)
  | lastData =>
      cases atState.symm.trans (idle (by simp only [polls, atState]))
  | eofAcked => exact absurd atState unacked
  | kill => exact absurd atState patient.running

variable {datagram : Datagram}

theorem hear_rr (patient : Patient child) (polling : polls child = true) {number : Nat}
    (control : IsControl .rr number datagram) (stack : Packet) :
    Patient (step child ⟨some datagram, stack⟩) ∧
      (step child ⟨some datagram, stack⟩).state = child.state ∧
      (step child ⟨some datagram, stack⟩).window = removePacket child.window number ∧
      (step child ⟨some datagram, stack⟩).sent = child.sent := by
  have handled := processRrSrej_rr control child stack
  cases atState : child.state with
  | checkRrSrej =>
      rw [step_check_receives atState rfl, handled]
      exact ⟨⟨patient.timeout, patient.lastTimeout, patient.running⟩, atState, rfl, rfl⟩
  | windowClosed =>
      simp only [polls, atState, Bool.and_eq_true, Bool.not_eq_true', decide_eq_true_eq] at polling
      rw [step_closed_receives atState polling.1 polling.2 rfl, processRrSrej_counters, handled]
      exact ⟨⟨Nat.zero_le _, patient.lastTimeout, patient.running⟩, atState, rfl, rfl⟩
  | lastData =>
      obtain ⟨accepted, flag, named⟩ := receive_isControl control Packet.zero
      have result : (processRrSrej child datagram stack).2 = FlagType.rr.code.toNat := by
        simp only [processRrSrej, accepted, flag, Bool.not_true, Bool.false_eq_true, if_false,
          if_true]
      have notAck : ¬(FlagType.rr.code.toNat : Int) % 256 = FlagType.eofAck.code.toNat := by
        decide
      have moved : step child ⟨some datagram, stack⟩ =
          { child with window := removePacket child.window number, state := .lastData } := by
        simp only [step, atState, lastData, result, handled, if_neg notAck,
          if_pos patient.lastTimeout]
      rw [moved]
      exact ⟨⟨patient.timeout, patient.lastTimeout, by simp⟩, rfl, rfl, rfl⟩
  | windowOpen | eofAcked | kill => simp [polls, atState] at polling

theorem hear_eofAck (atLast : child.state = .lastData) {number : Nat}
    (control : IsControl .eofAck number datagram) (stack : Packet) :
    step child ⟨some datagram, stack⟩ = { child with state := .eofAcked } := by
  obtain ⟨accepted, flag, named⟩ := receive_isControl control Packet.zero
  have notRr : FlagType.eofAck.code ≠ FlagType.rr.code := by decide
  have notSrej : FlagType.eofAck.code ≠ FlagType.srej.code := by decide
  have handled : processRrSrej child datagram stack =
      (child, (FlagType.eofAck.code.toNat : Int)) := by
    simp only [processRrSrej, accepted, flag, Bool.not_true, Bool.false_eq_true, if_false,
      if_neg notRr, if_neg notSrej, if_true]
  have isAck : (FlagType.eofAck.code.toNat : Int) % 256 = FlagType.eofAck.code.toNat := by
    decide
  simp only [step, atLast, lastData, handled, if_pos isAck]

end Server

/-! ### The packets of the file on a channel -/

namespace Transfer

variable (transfer : Transfer)

def packets (first last : Nat) : List Datagram :=
  (List.range' first (last - first)).map fun seqNum =>
    transfer.datagram seqNum (transfer.flagFor seqNum .data)

theorem packets_length (first last : Nat) :
    (transfer.packets first last).length = last - first := by
  rw [packets, List.length_map, List.length_range']

theorem packets_cons {first last : Nat} (more : first < last) :
    transfer.packets first last =
      transfer.datagram first (transfer.flagFor first .data) ::
        transfer.packets (first + 1) last := by
  obtain ⟨rest, isRest⟩ : ∃ rest, last - first = rest + 1 := ⟨last - first - 1, by omega⟩
  have others : last - (first + 1) = rest := by omega
  rw [packets, packets, isRest, others, List.range'_succ, List.map_cons]

theorem packets_snoc {first last : Nat} (ordered : first ≤ last) :
    transfer.packets first (last + 1) = transfer.packets first last ++
      [transfer.datagram last (transfer.flagFor last .data)] := by
  have longer : last + 1 - first = last - first + 1 := by omega
  have newest : first + (last - first) = last := by omega
  rw [packets, packets, longer, List.range'_concat, Nat.one_mul, newest, List.map_append]
  rfl

end Transfer

/-! ### The invariant -/

namespace System

variable {transfer : Transfer} {system : System}

/-- On the way back are the RRs for what has not been acknowledged, in order, and behind them
the acknowledgement of the end of the file once rcopy has ended and until it is received. -/
structure Answered (system : System) (rrs acks : List Datagram) : Prop where
  toServer : system.toServer = rrs ++ acks
  rrs : List.Forall₂ (IsControl .rr)
    (List.range' (system.server.window.lower + 1)
      (system.rcopy.statics.expected - system.server.window.lower)) rrs
  acks : acks = [] ∧ (system.rcopy.state = .kill ↔ system.server.state = .eofAcked) ∨
    ∃ ack, acks = [ack] ∧ IsControl .eofAck system.rcopy.statics.expected ack ∧
      system.rcopy.state = .kill ∧ system.server.state ≠ .eofAcked

structure Smooth (transfer : Transfer) (system : System) : Prop where
  joint : JointInv transfer system
  patient : Server.Patient system.server
  direct : Rcopy.Direct system.rcopy
  waiting : system.rcopy.state = .processData →
    Carries transfer system.rcopy.statics.expected system.rcopy.currPacket.bytes
      system.rcopy.dataSize
  reached : system.rcopy.statics.expected + Rcopy.pending system.rcopy ≤
    system.server.window.current
  toClient : system.toClient = transfer.packets
    (system.rcopy.statics.expected + Rcopy.pending system.rcopy) system.server.window.current
  answered : ∃ rrs acks, Answered system rrs acks
  acked : system.server.state = .eofAcked →
    system.server.window.lower = system.rcopy.statics.expected

def rcopyStage (process : Rcopy.Process) : Nat :=
  match process.state with
  | .kill => 0
  | .lastDataLoop => 4
  | _ => 5

/-- The way that is left to the packets of the file and to the programs. -/
def rank (transfer : Transfer) (system : System) : Nat :=
  7 * (transfer.packetCount + 1 - system.server.window.current) + 5 * system.toClient.length +
    4 * Rcopy.pending system.rcopy + 3 * system.toServer.length +
      Server.stage system.server + rcopyStage system.rcopy

section Moves

variable {stack : Packet}

theorem Smooth.serverStep (smooth : Smooth transfer system)
    (undisturbed : Undisturbed system (.serverStep stack)) :
    Smooth transfer (step system (.serverStep stack)) ∧
      rank transfer (step system (.serverStep stack)) < rank transfer system := by
  have joint := (step_refines smooth.joint undisturbed.enabled).2
  obtain ⟨idle, unacked, _⟩ := undisturbed
  obtain ⟨patient, still, lower, moved⟩ :=
    Server.walk ⟨none, stack⟩ smooth.joint.server smooth.patient idle unacked rfl
  have server : (step system (.serverStep stack)).server =
      Server.step system.server ⟨none, stack⟩ := rfl
  have rcopy : (step system (.serverStep stack)).rcopy = system.rcopy := rfl
  have toServer : (step system (.serverStep stack)).toServer = system.toServer := rfl
  obtain ⟨rrs, acks, answered⟩ := smooth.answered
  have reached := smooth.reached
  have answers : Answered (step system (.serverStep stack)) rrs acks := by
    refine ⟨answered.toServer, ?_, ?_⟩
    · change List.Forall₂ _ (List.range'
        ((Server.step system.server ⟨none, stack⟩).window.lower + 1)
        (system.rcopy.statics.expected -
          (Server.step system.server ⟨none, stack⟩).window.lower)) rrs
      rw [lower]
      exact answered.rrs
    · rcases answered.acks with ⟨none, both⟩ | ⟨ack, isAck, control, killed, _⟩
      · exact .inl ⟨none, iff_of_false (both.not.mpr unacked) still⟩
      · exact .inr ⟨ack, isAck, control, killed, still⟩
  rcases moved with ⟨more, first, next, sent⟩ | ⟨same, sent, falls⟩
  · have toClient : (step system (.serverStep stack)).toClient =
        transfer.packets (system.rcopy.statics.expected + Rcopy.pending system.rcopy)
          (system.server.window.current + 1) := by
      change system.toClient ++ (Server.step system.server ⟨none, stack⟩).sent.drop _ = _
      rw [sent, List.drop_left, smooth.toClient, transfer.packets_snoc reached]
    have atMost := Server.stage_le (Server.step system.server ⟨none, stack⟩)
    refine ⟨⟨joint, patient, smooth.direct, smooth.waiting, ?_, ?_, ⟨_, _, answers⟩,
      fun acked => absurd acked still⟩, ?_⟩
    · exact Nat.le_trans reached (next ▸ Nat.le_succ _)
    · exact toClient.trans (congrArg _ next.symm)
    · have lengths := congrArg List.length toClient
      have before := congrArg List.length smooth.toClient
      rw [transfer.packets_length] at lengths before
      rw [rank, rank, lengths, before, server, rcopy, toServer]
      omega
  · have toClient : (step system (.serverStep stack)).toClient = system.toClient := by
      change system.toClient ++ (Server.step system.server ⟨none, stack⟩).sent.drop _ = _
      rw [sent, List.drop_length, List.append_nil]
    refine ⟨⟨joint, patient, smooth.direct, smooth.waiting, ?_, ?_, ⟨_, _, answers⟩,
      fun acked => absurd acked still⟩, ?_⟩
    · exact reached.trans (Nat.le_of_eq same.symm)
    · exact (toClient.trans smooth.toClient).trans (congrArg _ same.symm)
    · rw [rank, rank, toClient, server, rcopy, toServer]
      omega

theorem Smooth.serverReceive (smooth : Smooth transfer system)
    (undisturbed : Undisturbed system (.serverReceive stack)) :
    Smooth transfer (step system (.serverReceive stack)) ∧
      rank transfer (step system (.serverReceive stack)) < rank transfer system := by
  have joint := (step_refines smooth.joint undisturbed.enabled).2
  obtain ⟨polling, waiting⟩ := undisturbed
  obtain ⟨oldest, rest, split⟩ := List.exists_cons_of_ne_nil waiting
  have server : (step system (.serverReceive stack)).server =
      Server.step system.server ⟨some oldest, stack⟩ := by
    simp only [step, serverMove, split, List.head?_cons]
  have rcopy : (step system (.serverReceive stack)).rcopy = system.rcopy := rfl
  have toServer : (step system (.serverReceive stack)).toServer = rest := by
    simp only [step, serverMove, split, List.tail_cons]
  have toClient : (step system (.serverReceive stack)).toClient = system.toClient ++
      (Server.step system.server ⟨some oldest, stack⟩).sent.drop system.server.sent.length := by
    simp only [step, serverMove, split, List.head?_cons]
  have unacked : system.server.state ≠ .eofAcked := by
    intro acked
    simp [Server.polls, acked] at polling
  obtain ⟨rrs, acks, answered⟩ := smooth.answered
  have behind := smooth.joint.counters.base_le
  change system.server.window.lower ≤ system.rcopy.statics.expected at behind
  have whole := answered.toServer
  rw [split] at whole
  have reads := answered.rrs
  cases outstanding : system.rcopy.statics.expected - system.server.window.lower with
  | succ others =>
      rw [outstanding, List.range'_succ] at reads
      obtain ⟨rr, others', control, following, isRrs⟩ := List.forall₂_cons_left_iff.mp reads
      rw [isRrs, List.cons_append, List.cons.injEq] at whole
      obtain ⟨rfl, isRest⟩ := whole
      obtain ⟨patient, state, window, sent⟩ :=
        Server.hear_rr smooth.patient polling control stack
      have lower : (Server.step system.server ⟨some oldest, stack⟩).window.lower =
          system.server.window.lower + 1 := by
        rw [window]
        rfl
      have current : (Server.step system.server ⟨some oldest, stack⟩).window.current =
          system.server.window.current := by
        rw [window]
        rfl
      rw [sent, List.drop_length, List.append_nil] at toClient
      have still : (step system (.serverReceive stack)).server.state ≠ .eofAcked := by
        rw [server, state]
        exact unacked
      have answers : Answered (step system (.serverReceive stack)) others' acks := by
        refine ⟨toServer.trans isRest, ?_, ?_⟩
        · have fewer : system.rcopy.statics.expected - (system.server.window.lower + 1) =
              others := by omega
          rw [server, rcopy, lower, fewer]
          exact following
        · rcases answered.acks with ⟨none, both⟩ | ⟨ack, isAck, isControl, killed, _⟩
          · exact .inl ⟨none, iff_of_false (both.not.mpr unacked) still⟩
          · exact .inr ⟨ack, isAck, isControl, killed, still⟩
      refine ⟨⟨joint, server ▸ patient, smooth.direct, smooth.waiting, ?_, ?_, ⟨_, _, answers⟩,
        fun acked => absurd acked still⟩, ?_⟩
      · rw [server, current]
        exact smooth.reached
      · rw [toClient, server, current]
        exact smooth.toClient
      · have atMost := Server.stage_le (Server.step system.server ⟨some oldest, stack⟩)
        rw [rank, rank, toClient, server, rcopy, toServer, current, split, List.length_cons]
        omega
  | zero =>
      rw [outstanding, List.range'_zero, List.forall₂_nil_left_iff] at reads
      rw [reads, List.nil_append] at whole
      rcases answered.acks with ⟨none, _⟩ | ⟨ack, isAck, control, killed, _⟩
      · rw [none] at whole
        cases whole
      rw [isAck, List.cons.injEq] at whole
      obtain ⟨rfl, rfl⟩ := whole
      have complete : system.rcopy.statics.expected = transfer.packetCount + 1 :=
        smooth.joint.rcopy.inWindow.inWindow.delivered.wrote_iff.mp
          (smooth.direct.finished.mpr (.inr (.inr killed)))
      have sentAll := smooth.reached
      have last := smooth.joint.server.window.current_le
      have atLast : system.server.state = .lastData := by
        have atEof := smooth.joint.server.atEof_iff.mpr (by omega)
        have fits := smooth.joint.server.fits
        cases atState : system.server.state with
        | lastData => rfl
        | windowOpen | checkRrSrej | windowClosed =>
            rw [atState, atEof] at fits
            cases fits
        | eofAcked | kill => simp [Server.polls, atState] at polling
      have moved := Server.hear_eofAck atLast control stack
      rw [moved] at server toClient
      rw [List.drop_length, List.append_nil] at toClient
      have answers : Answered (step system (.serverReceive stack)) [] [] := by
        refine ⟨toServer, ?_, .inl ⟨rfl, ?_⟩⟩
        · rw [server, rcopy, outstanding]
          exact .nil
        · rw [server, rcopy]
          exact iff_of_true killed rfl
      refine ⟨⟨joint, ?_, smooth.direct, smooth.waiting, ?_, ?_, ⟨_, _, answers⟩, ?_⟩, ?_⟩
      · rw [server]
        exact ⟨smooth.patient.timeout, smooth.patient.lastTimeout, by simp⟩
      · rw [server]
        exact smooth.reached
      · rw [toClient, server]
        exact smooth.toClient
      · intro _
        rw [server, rcopy]
        change system.server.window.lower = _
        omega
      · rw [rank, rank, toClient, server, rcopy, toServer, split]
        simp only [Server.stage, atLast, List.length_nil, List.length_cons]
        omega

theorem rcopyStage_le (process : Rcopy.Process) : rcopyStage process ≤ 5 := by
  unfold rcopyStage
  split <;> decide

theorem Smooth.unfinished (smooth : Smooth transfer system)
    (running : system.rcopy.state ≠ .kill) :
    system.server.state ≠ .eofAcked ∧ ∃ rrs, Answered system rrs [] := by
  obtain ⟨rrs, acks, answered⟩ := smooth.answered
  rcases answered.acks with ⟨rfl, both⟩ | ⟨_, _, _, killed, _⟩
  · exact ⟨both.not.mp running, rrs, answered⟩
  · exact absurd killed running

theorem Smooth.rcopyStep (smooth : Smooth transfer system)
    (undisturbed : Undisturbed system (.rcopyStep stack)) :
    Smooth transfer (step system (.rcopyStep stack)) ∧
      rank transfer (step system (.rcopyStep stack)) < rank transfer system := by
  have joint := (step_refines smooth.joint undisturbed.enabled).2
  obtain ⟨idle, running, _⟩ := undisturbed
  have server : (step system (.rcopyStep stack)).server = system.server := rfl
  have rcopy : (step system (.rcopyStep stack)).rcopy =
      Rcopy.stateMachine system.rcopy ⟨none, stack⟩ := rfl
  have toClient : (step system (.rcopyStep stack)).toClient = system.toClient := rfl
  have toServer : (step system (.rcopyStep stack)).toServer = system.toServer ++
      (Rcopy.stateMachine system.rcopy ⟨none, stack⟩).statics.sent.drop
        system.rcopy.statics.sent.length := rfl
  obtain ⟨unacked, rrs, answered⟩ := smooth.unfinished running
  have behind := smooth.joint.counters.base_le
  change system.server.window.lower ≤ system.rcopy.statics.expected at behind
  have before := rcopyStage_le (Rcopy.stateMachine system.rcopy ⟨none, stack⟩)
  have whole := answered.toServer
  rw [List.append_nil] at whole
  have onWay := smooth.toClient
  have reached := smooth.reached
  rcases smooth.direct.phase with atState | atState | atState | atState | atState | atState
  · simp [Rcopy.polls, atState, smooth.direct.timeout] at idle
  · simp [Rcopy.polls, atState, smooth.direct.timeout] at idle
  · obtain ⟨direct, notPending, notKill, expected, rr, sent, control⟩ :=
      Rcopy.process_expected ⟨none, stack⟩ smooth.direct atState (smooth.waiting atState)
    rw [sent, List.drop_left] at toServer
    rw [expected] at control
    have one : Rcopy.pending system.rcopy = 1 := if_pos atState
    have nothingLater : Rcopy.pending (Rcopy.stateMachine system.rcopy ⟨none, stack⟩) = 0 :=
      if_neg notPending
    have answers : Answered (step system (.rcopyStep stack)) (rrs ++ [rr]) [] := by
      refine ⟨?_, ?_, .inl ⟨rfl, iff_of_false (rcopy ▸ notKill) unacked⟩⟩
      · rw [toServer, whole, List.append_nil]
      · have oneMore : system.rcopy.statics.expected + 1 - system.server.window.lower =
            system.rcopy.statics.expected - system.server.window.lower + 1 := by omega
        have newest : system.server.window.lower + 1 +
            (system.rcopy.statics.expected - system.server.window.lower) =
              system.rcopy.statics.expected + 1 := by omega
        rw [server, rcopy, expected, oneMore, List.range'_concat, Nat.one_mul, newest]
        exact List.rel_append answered.rrs (.cons control .nil)
    refine ⟨⟨joint, smooth.patient, direct, fun again => absurd again notPending, ?_, ?_,
      ⟨_, _, answers⟩, fun acked => absurd acked unacked⟩, ?_⟩
    · rw [server, rcopy, expected, nothingLater]
      omega
    · rw [toClient, server, rcopy, expected, nothingLater, onWay, one]
    · have atFive : rcopyStage system.rcopy = 5 := by
        simp only [rcopyStage, atState]
      rw [rank, rank, toClient, server, rcopy, toServer, List.length_append, one, nothingLater,
        atFive]
      simp only [List.length_cons, List.length_nil]
      omega
  · obtain ⟨direct, atLoop, statics⟩ :=
      Rcopy.lastData_direct ⟨none, stack⟩ smooth.direct atState
    rw [statics, List.drop_length, List.append_nil] at toServer
    have nothing : Rcopy.pending system.rcopy = 0 := if_neg (by simp [atState])
    have nothingLater : Rcopy.pending (Rcopy.stateMachine system.rcopy ⟨none, stack⟩) = 0 :=
      if_neg (by simp [atLoop])
    have answers : Answered (step system (.rcopyStep stack)) rrs [] := by
      refine ⟨toServer.trans answered.toServer, ?_, .inl ⟨rfl, iff_of_false ?_ unacked⟩⟩
      · rw [server, rcopy, statics]
        exact answered.rrs
      · rw [rcopy, atLoop]
        decide
    refine ⟨⟨joint, smooth.patient, direct, fun again => ?_, ?_, ?_, ⟨_, _, answers⟩,
      fun acked => absurd acked unacked⟩, ?_⟩
    · cases (rcopy ▸ again : _ = _).symm.trans atLoop
    · rw [server, rcopy, statics, nothingLater]
      omega
    · rw [toClient, server, rcopy, statics, nothingLater, onWay, nothing]
    · rw [rank, rank, toClient, server, rcopy, toServer, nothing, nothingLater]
      simp only [rcopyStage, atState, atLoop]
      omega
  · obtain ⟨direct, atKill, expected, ack, sent, control⟩ :=
      Rcopy.eofAck_direct ⟨none, stack⟩ smooth.direct atState
        smooth.joint.rcopy.holds.statics.expected_lt
    rw [sent, List.drop_left] at toServer
    have nothing : Rcopy.pending system.rcopy = 0 := if_neg (by simp [atState])
    have nothingLater : Rcopy.pending (Rcopy.stateMachine system.rcopy ⟨none, stack⟩) = 0 :=
      if_neg (by simp [atKill])
    have answers : Answered (step system (.rcopyStep stack)) rrs [ack] := by
      refine ⟨?_, ?_, .inr ⟨ack, rfl, ?_, ?_, unacked⟩⟩
      · rw [toServer, whole]
      · rw [server, rcopy, expected]
        exact answered.rrs
      · rw [rcopy, expected]
        exact control
      · rw [rcopy, atKill]
    refine ⟨⟨joint, smooth.patient, direct, fun again => ?_, ?_, ?_, ⟨_, _, answers⟩,
      fun acked => absurd acked unacked⟩, ?_⟩
    · cases (rcopy ▸ again : _ = _).symm.trans atKill
    · rw [server, rcopy, expected, nothingLater]
      omega
    · rw [toClient, server, rcopy, expected, nothingLater, onWay, nothing]
    · rw [rank, rank, toClient, server, rcopy, toServer, List.length_append, nothing, nothingLater]
      simp only [rcopyStage, atState, atKill, List.length_cons, List.length_nil]
      omega
  · exact absurd atState running

theorem Smooth.rcopyReceive (smooth : Smooth transfer system)
    (undisturbed : Undisturbed system (.rcopyReceive stack)) :
    Smooth transfer (step system (.rcopyReceive stack)) ∧
      rank transfer (step system (.rcopyReceive stack)) < rank transfer system := by
  have joint := (step_refines smooth.joint undisturbed.enabled).2
  obtain ⟨polling, waiting⟩ := undisturbed
  have running : system.rcopy.state ≠ .kill := by
    intro killed
    simp [Rcopy.polls, killed] at polling
  have nothing : Rcopy.pending system.rcopy = 0 := by
    refine if_neg fun atState => ?_
    simp [Rcopy.polls, atState] at polling
  have onWay := smooth.toClient
  rw [nothing, Nat.add_zero] at onWay
  have more : system.rcopy.statics.expected < system.server.window.current := by
    have lengths := congrArg List.length onWay
    rw [transfer.packets_length] at lengths
    have some := List.length_pos_iff.mpr waiting
    omega
  rw [transfer.packets_cons more] at onWay
  obtain ⟨oldest, isOldest⟩ : ∃ oldest, oldest = transfer.datagram
    system.rcopy.statics.expected (transfer.flagFor system.rcopy.statics.expected .data) := ⟨_, rfl⟩
  rw [← isOldest] at onWay
  have server : (step system (.rcopyReceive stack)).server = system.server := rfl
  have rcopy : (step system (.rcopyReceive stack)).rcopy =
      Rcopy.stateMachine system.rcopy ⟨some oldest, stack⟩ := by
    simp only [step, rcopyMove, onWay, List.head?_cons]
  have last := smooth.joint.server.window.current_le
  have isPacket : IsDataPacket transfer system.rcopy.statics.expected oldest :=
    isOldest ▸ transfer.datagram_isDataPacket smooth.joint.rcopy.holds.statics.expected_pos
      (by omega) (transfer.flagged_flagFor _ (.inl rfl))
  obtain ⟨⟨seqNum, statics⟩, direct, pending, carries⟩ :=
    Rcopy.receive_expected ⟨some oldest, stack⟩ smooth.direct polling
      smooth.joint.rcopy.holds.statics.bufferSize_eq rfl isPacket
  have one : Rcopy.pending (Rcopy.stateMachine system.rcopy ⟨some oldest, stack⟩) = 1 :=
    if_pos pending
  have toClient : (step system (.rcopyReceive stack)).toClient =
      transfer.packets (system.rcopy.statics.expected + 1) system.server.window.current := by
    simp only [step, rcopyMove, onWay, List.tail_cons]
  have toServer : (step system (.rcopyReceive stack)).toServer = system.toServer := by
    simp only [step, rcopyMove, onWay, List.head?_cons, statics, List.drop_length,
      List.append_nil]
  obtain ⟨unacked, rrs, answered⟩ := smooth.unfinished running
  have answers : Answered (step system (.rcopyReceive stack)) rrs [] := by
    refine ⟨toServer.trans answered.toServer, ?_, .inl ⟨rfl, iff_of_false ?_ unacked⟩⟩
    · rw [server, rcopy, statics]
      exact answered.rrs
    · rw [rcopy, pending]
      decide
  refine ⟨⟨joint, smooth.patient, ?_, fun _ => ?_, ?_, ?_, ⟨_, _, answers⟩,
    fun acked => absurd acked unacked⟩, ?_⟩
  · rw [rcopy]
    exact direct
  · rw [rcopy, statics]
    exact carries
  · rw [server, rcopy, statics, one]
    exact more
  · rw [server, rcopy, statics, one]
    exact toClient
  · have before := rcopyStage_le (Rcopy.stateMachine system.rcopy ⟨some oldest, stack⟩)
    have atFive : rcopyStage system.rcopy = 5 := by
      rcases smooth.direct.phase with atState | atState | atState | atState | atState | atState
      · simp only [rcopyStage, atState]
      · simp only [rcopyStage, atState]
      · simp only [rcopyStage, atState]
      · simp only [rcopyStage, atState]
      · have wrote := smooth.direct.finished.mpr (.inr (.inl atState))
        simp [Rcopy.polls, atState, wrote] at polling
      · exact absurd atState running
    rw [rank, rank, toClient, server, rcopy, toServer, one, nothing, onWay, List.length_cons,
      atFive]
    omega

theorem Smooth.step (smooth : Smooth transfer system) {action : Action}
    (undisturbed : Undisturbed system action) :
    Smooth transfer (System.step system action) ∧
      rank transfer (System.step system action) < rank transfer system := by
  cases action with
  | serverStep => exact smooth.serverStep undisturbed
  | serverReceive => exact smooth.serverReceive undisturbed
  | rcopyStep => exact smooth.rcopyStep undisturbed
  | rcopyReceive => exact smooth.rcopyReceive undisturbed
  | serverReceiveDamaged | loseToServer | rcopyReceiveDamaged | loseToClient => cases undisturbed

end Moves

/-! ### Nobody waits for nothing -/

theorem Smooth.complete (smooth : Smooth transfer system)
    (acked : system.server.state = .eofAcked) : Complete transfer system := by
  have whole := smooth.joint.acked acked
  have last := smooth.joint.server.window.current_le
  obtain ⟨rrs, acks, answered⟩ := smooth.answered
  have numbers := answered.rrs
  rw [smooth.acked acked, Nat.sub_self, List.range'_zero, List.forall₂_nil_left_iff] at numbers
  rcases answered.acks with ⟨none, both⟩ | ⟨_, _, _, _, unacked⟩
  · have killed := both.mpr acked
    refine ⟨?_, acked, killed, ?_, ?_⟩
    · exact smooth.joint.toFile_whole whole
    · rw [← List.length_eq_zero_iff, smooth.toClient, transfer.packets_length]
      omega
    · rw [answered.toServer, numbers, none, List.append_nil]
  · exact absurd acked unacked

theorem Smooth.rcopy_progress (smooth : Smooth transfer system)
    (running : system.rcopy.state ≠ .kill)
    (lacks : system.rcopy.statics.wroteLastData = false →
      system.rcopy.statics.expected < system.server.window.current) :
    ∃ action, Undisturbed system action := by
  have receiving : Rcopy.polls system.rcopy = true →
      system.rcopy.statics.wroteLastData = false → ∃ action, Undisturbed system action := by
    intro polling unfinished
    refine ⟨.rcopyReceive .zero, polling, ?_⟩
    have nothing : Rcopy.pending system.rcopy = 0 := by
      refine if_neg fun atState => ?_
      simp [Rcopy.polls, atState] at polling
    rw [← List.length_pos_iff, smooth.toClient, transfer.packets_length, nothing]
    have more := lacks unfinished
    omega
  have stepping : ∀ state, system.rcopy.state = state → state ≠ .exit →
      Rcopy.polls system.rcopy = false → ∃ action, Undisturbed system action := by
    intro state atState notExit idle
    exact ⟨.rcopyStep .zero, idle, running, atState ▸ notExit⟩
  have unfinished : system.rcopy.state = .receiveFirstData ∨ system.rcopy.state = .receiveData →
      system.rcopy.statics.wroteLastData = false := by
    intro atState
    rw [← Bool.not_eq_true, smooth.direct.finished]
    rcases atState with atState | atState <;> simp [atState]
  rcases smooth.direct.phase with atState | atState | atState | atState | atState | atState
  · exact receiving (by simp [Rcopy.polls, atState, smooth.direct.timeout])
      (unfinished (.inl atState))
  · exact receiving (by simp [Rcopy.polls, atState, smooth.direct.timeout])
      (unfinished (.inr atState))
  · exact stepping _ atState (by decide) (by simp [Rcopy.polls, atState])
  · exact stepping _ atState (by decide) (by simp [Rcopy.polls, atState])
  · have wrote := smooth.direct.finished.mpr (.inr (.inl atState))
    exact stepping _ atState (by decide) (by simp [Rcopy.polls, atState, wrote])
  · exact absurd atState running

theorem Smooth.progress (smooth : Smooth transfer system) (short : ¬Complete transfer system) :
    ∃ action, Undisturbed system action := by
  have unacked : system.server.state ≠ .eofAcked := fun acked => short (smooth.complete acked)
  have answering : Server.polls system.server = true →
      (system.toServer = [] → ∃ action, Undisturbed system action) →
        ∃ action, Undisturbed system action := by
    intro polling otherwise
    by_cases empty : system.toServer = []
    · exact otherwise empty
    · exact ⟨.serverReceive .zero, polling, empty⟩
  -- with nothing on the way back everything has been acknowledged
  have settled : system.toServer = [] → system.rcopy.state ≠ .kill ∧
      system.rcopy.statics.expected ≤ system.server.window.lower := by
    intro empty
    obtain ⟨rrs, acks, answered⟩ := smooth.answered
    have whole := answered.toServer
    rw [empty, List.nil_eq_append_iff] at whole
    obtain ⟨rfl, rfl⟩ := whole
    have numbers := answered.rrs.length_eq
    rw [List.length_range', List.length_nil] at numbers
    rcases answered.acks with ⟨_, both⟩ | ⟨_, no, _⟩
    · exact ⟨both.not.mpr unacked, by omega⟩
    · cases no
  have fits := smooth.joint.server.fits
  cases atState : system.server.state with
  | windowOpen | checkRrSrej =>
      exact ⟨.serverStep .zero, by simp [Server.polls, atState], by simp [atState],
        by simp [atState]⟩
  | windowClosed =>
      cases isOpen : isWindowOpen system.server.window with
      | true =>
          exact ⟨.serverStep .zero, by simp [Server.polls, atState, isOpen], by simp [atState],
            by simp [atState]⟩
      | false =>
          refine answering (by simp [Server.polls, atState, isOpen, smooth.patient.timeout])
            fun empty => ?_
          obtain ⟨running, acknowledged⟩ := settled empty
          have full := smooth.joint.server.window.isWindowOpen_eq_false_iff.mp isOpen
          have positive := transfer.windowSize_pos
          exact smooth.rcopy_progress running fun _ => by omega
  | lastData =>
      refine answering (by simp only [Server.polls, atState]) fun empty => ?_
      obtain ⟨running, _⟩ := settled empty
      refine smooth.rcopy_progress running fun unfinished => ?_
      rw [atState] at fits
      have sentAll := smooth.joint.server.atEof_iff.mp fits
      have last := smooth.joint.rcopy.holds.statics.expected_le
      have lacking := smooth.joint.rcopy.inWindow.inWindow.delivered.wrote_iff.not.mp
        (by rw [unfinished]; decide)
      omega
  | eofAcked => exact absurd atState unacked
  | kill => exact absurd atState smooth.patient.running

/-- The rank bounds the session, and there is no other end to it than the right one. -/
theorem Smooth.session_ends (smooth : Smooth transfer system) {actions : List Action}
    (undisturbed : EveryStep System.step Undisturbed system actions) :
    actions.length ≤ rank transfer system ∧
      ((∀ action, ¬Undisturbed (run System.step system actions) action) →
        Complete transfer (run System.step system actions)) ∧
      ∃ more, EveryStep System.step Undisturbed system (actions ++ more) ∧
        Complete transfer (run System.step system (actions ++ more)) := by
  have onward : ∀ system action, Smooth transfer system → Undisturbed system action →
      Smooth transfer (System.step system action) ∧
        rank transfer (System.step system action) < rank transfer system :=
    fun _ _ here permitted => here.step permitted
  have progress : ∀ system, Smooth transfer system → ¬Complete transfer system →
      ∃ action, Undisturbed system action := fun _ here short => here.progress short
  have bound := length_add_rank_le (Smooth transfer) (rank transfer) onward smooth undisturbed
  exact ⟨Nat.le_trans (Nat.le_add_right _ _) bound,
    goal_of_stuck (Smooth transfer) (rank transfer) onward smooth undisturbed progress,
    exists_run_to_goal (Smooth transfer) (rank transfer) onward smooth undisturbed progress⟩

/-! ### From the end of the handshake to the end of the session -/

section Session

variable {start : System} {actions : List Action}

theorem begins_smooth (begins : Begins transfer start) : Smooth transfer start := by
  have joint := begins_inv begins
  obtain ⟨fromFileName, inputs, _, reached⟩ := begins.rcopy
  have waits := begins.waiting
  have atFirst : start.server.window.current = seqNumStart := by
    rw [begins.server]
    rfl
  have lowest : start.server.window.lower = seqNumStart := by
    rw [begins.server]
    rfl
  have expected : start.rcopy.statics.expected = seqNumStart :=
    Nat.le_antisymm (atFirst ▸ joint.rcopy.expected_le) joint.rcopy.holds.statics.expected_pos
  have nothing : Rcopy.pending start.rcopy = 0 := if_neg (by rw [waits]; decide)
  have unfinished : start.rcopy.statics.wroteLastData = false := by
    rw [← Bool.not_eq_true, joint.rcopy.inWindow.inWindow.delivered.wrote_iff, expected]
    exact fun none => by cases none
  refine ⟨joint, ?_, ⟨?_, ?_, .inl waits, ?_⟩, ?_, ?_, ?_, ⟨[], [], ?_, ?_, .inl ⟨rfl, ?_⟩⟩, ?_⟩
  · rw [begins.server]
    exact ⟨Nat.zero_le _, Nat.zero_lt_succ _, fun no => by cases no⟩
  · have under := Rcopy.run_underMax transfer.windowSize transfer.bufferSize fromFileName inputs
    rw [← reached] at under
    exact under (.inr waits)
  · exact joint.rcopy.holds.control.fresh (by rw [waits]; rfl)
  · rw [unfinished, waits]
    decide
  · rw [waits]
    exact fun no => by cases no
  · rw [expected, nothing, atFirst, Nat.add_zero]
  · rw [begins.toClient, expected, nothing, atFirst]
    rfl
  · exact begins.toServer
  · rw [lowest, expected]
    exact .nil
  · rw [waits, begins.server]
    exact iff_of_false (fun no => by cases no) (fun no => by cases no)
  · rw [lowest, expected]
    exact fun _ => rfl

theorem begins_rank (begins : Begins transfer start) :
    rank transfer start = 7 * transfer.packetCount + 6 := by
  have atFirst : start.server.window.current = seqNumStart := by
    rw [begins.server]
    rfl
  have nothing : Rcopy.pending start.rcopy = 0 := if_neg (by rw [begins.waiting]; decide)
  have opening : Server.stage start.server = 1 := by
    rw [begins.server]
    rfl
  have first : rcopyStage start.rcopy = 5 := by
    simp only [rcopyStage, begins.waiting]
  rw [rank, begins.toClient, begins.toServer, atFirst, nothing, opening, first]
  rfl

/-- A session over a network that does nothing wrong ends after at most seven steps for each
packet and six more.  It ends nowhere but with the file written, the end of it acknowledged
and nothing under way, and from every state it reaches it can be brought to that end. -/
theorem reliable_session (transfer : Transfer) (start : System) (actions : List Action)
    (begins : Begins transfer start) (undisturbed : EveryStep step Undisturbed start actions) :
    actions.length ≤ 7 * transfer.packetCount + 6 ∧
      ((∀ action, ¬Undisturbed (run step start actions) action) →
        Complete transfer (run step start actions)) ∧
      ∃ more, EveryStep step Undisturbed start (actions ++ more) ∧
        Complete transfer (run step start (actions ++ more)) := by
  have ends := (begins_smooth begins).session_ends undisturbed
  rw [begins_rank begins] at ends
  exact ends

/-- The packets of a file of one byte have been sent and the first one has been acknowledged. -/
def oneAcknowledged : List Action :=
  [.serverStep .zero, .serverStep .zero, .serverStep .zero, .rcopyReceive .zero,
    .rcopyStep .zero, .serverReceive .zero]

theorem reliable_session_one_byte : ∃ more, EveryStep step Undisturbed (afterHandshake oneByte)
      (oneAcknowledged ++ more) ∧
    Complete oneByte (run step (afterHandshake oneByte) (oneAcknowledged ++ more)) :=
  (reliable_session oneByte _ oneAcknowledged oneByte_begins (by decide +kernel)).2.2

end Session

end System

end CPE464.Project3
