/-
A session that has got over what the network did to it.

As soon as rcopy waits for the packet that the server sends next and nothing is under way any
more, nothing is left of the losses, the damage and the disorder before: if the network is quiet
from then on, the session ends as soon as one that has never been disturbed.  If all RRs for a
window are lost, one timeout of the server leads to such a state.
-/

import CPE464.Project3.MissingPackets
import CPE464.Project3.ReliableSession
import CPE464.Project3.Reordering

namespace CPE464.Project3

open General

namespace System

/-- Neither program has given up, and rcopy has all that was sent and has said so. -/
structure Level (system : System) : Prop where
  patient : Server.Patient system.server
  unacked : system.server.state ≠ .eofAcked
  receiving : system.rcopy.state = .receiveFirstData ∨ system.rcopy.state = .receiveData
  timeout : system.rcopy.timeout < timeoutMax
  unbuffered : system.rcopy.buffering = false
  unfinished : system.rcopy.statics.wroteLastData = false
  lower : system.server.window.lower = system.rcopy.statics.expected
  current : system.server.window.current = system.rcopy.statics.expected
  toClient : system.toClient = []
  toServer : system.toServer = []

instance (child : Server.Child) : Decidable (Server.Patient child) :=
  decidable_of_iff (child.timeout ≤ timeoutMax ∧ child.lastTimeout < timeoutMax ∧
      child.state ≠ .kill)
    ⟨fun held => ⟨held.1, held.2.1, held.2.2⟩,
      fun patient => ⟨patient.timeout, patient.lastTimeout, patient.running⟩⟩

instance (system : System) : Decidable (Level system) :=
  decidable_of_iff (Server.Patient system.server ∧ system.server.state ≠ .eofAcked ∧
      (system.rcopy.state = .receiveFirstData ∨ system.rcopy.state = .receiveData) ∧
      system.rcopy.timeout < timeoutMax ∧ system.rcopy.buffering = false ∧
      system.rcopy.statics.wroteLastData = false ∧
      system.server.window.lower = system.rcopy.statics.expected ∧
      system.server.window.current = system.rcopy.statics.expected ∧
      system.toClient = [] ∧ system.toServer = []) <| by
    constructor
    · rintro ⟨patient, unacked, receiving, timeout, unbuffered, unfinished, lower, current, both⟩
      exact ⟨patient, unacked, receiving, timeout, unbuffered, unfinished, lower, current, both.1,
        both.2⟩
    · intro level
      exact ⟨level.patient, level.unacked, level.receiving, level.timeout, level.unbuffered,
        level.unfinished, level.lower, level.current, level.toClient, level.toServer⟩

variable {transfer : Transfer} {system : System}

theorem Level.pending_eq (level : Level system) : Rcopy.pending system.rcopy = 0 := by
  refine if_neg fun atState => ?_
  rcases level.receiving with receiving | receiving <;> cases receiving.symm.trans atState

theorem Level.rcopy_direct (level : Level system) : Rcopy.Direct system.rcopy := by
  refine ⟨level.timeout, level.unbuffered, level.receiving.imp_right .inl, ?_⟩
  rw [level.unfinished]
  rcases level.receiving with atState | atState <;> simp [atState]

theorem Level.smooth (level : Level system) (joint : JointInv transfer system) :
    Smooth transfer system := by
  have pending := level.pending_eq
  have notKill : system.rcopy.state ≠ .kill := by
    rcases level.receiving with atState | atState <;> simp [atState]
  have notProcessing : system.rcopy.state ≠ .processData := by
    rcases level.receiving with atState | atState <;> simp [atState]
  refine ⟨joint, level.patient, level.rcopy_direct, fun atState => absurd atState notProcessing,
    ?_, ?_, ⟨[], [], level.toServer, ?_, .inl ⟨rfl, ?_⟩⟩, fun acked => absurd acked level.unacked⟩
  · rw [pending, level.current, Nat.add_zero]
  · rw [pending, level.current, level.toClient, Nat.add_zero, ← List.length_eq_zero_iff.mp]
    rw [transfer.packets_length, Nat.sub_self]
  · rw [level.lower, Nat.sub_self]
    exact .nil
  · exact iff_of_false notKill level.unacked

theorem Level.rank_le (level : Level system) :
    rank transfer system ≤ 7 * (transfer.packetCount + 1 - system.rcopy.statics.expected) + 7 := by
  have stage : Server.stage system.server ≤ 2 := by
    unfold Server.stage
    split
    · decide
    · decide
    · split <;> decide
    · decide
  have last : rcopyStage system.rcopy = 5 := by
    rcases level.receiving with atState | atState <;> simp only [rcopyStage, atState]
  rw [rank, level.current, level.toClient, level.toServer, level.pending_eq, last]
  simp only [List.length_nil]
  omega

/-- Whatever was lost, damaged, repeated or reordered before, a session that has got over it ends
after at most seven steps for each packet that is left and seven more if the network is quiet from
then on.  It ends nowhere but with the whole file written and its end acknowledged. -/
theorem recovered_session_ends (transfer : Transfer) (start : System) (events : List Event)
    (actions : List Action) (begins : Begins transfer start)
    (possible : EveryStep happen (Possible transfer) start events) :
    let recovered := run happen start events
    Level recovered → EveryStep step Undisturbed recovered actions →
      actions.length ≤ 7 * (transfer.packetCount + 1 - recovered.rcopy.statics.expected) + 7 ∧
        ((∀ action, ¬Undisturbed (run step recovered actions) action) →
          Complete transfer (run step recovered actions)) ∧
        ∃ more, EveryStep step Undisturbed recovered (actions ++ more) ∧
          Complete transfer (run step recovered (actions ++ more)) := by
  intro recovered level undisturbed
  obtain ⟨bound, stuck, more⟩ :=
    (level.smooth (events_inv begins possible)).session_ends undisturbed
  exact ⟨Nat.le_trans bound level.rank_le, stuck, more⟩

theorem sixBytes_begins : Begins sixBytes (afterHandshake sixBytes) where
  server := rfl
  rcopy := ⟨[], Rcopy.handshake, by decide +kernel, by rw [afterHandshake]⟩
  waiting := by decide +kernel
  toClient := rfl
  toServer := rfl

/-- Of the first two packets one is lost and sent again when rcopy asks for it, and the RR for
both arrives. -/
def lostAndResent : List Event :=
  let actions : List Action := List.replicate 4 (.serverStep .zero) ++
    [.loseToClient 0, .rcopyReceive .zero, .rcopyStep .zero, .serverStep .zero,
      .serverReceive .zero, .rcopyReceive .zero, .rcopyStep .zero, .serverReceive .zero]
  actions.map .act

theorem lostAndResent_level :
    Level (run happen (afterHandshake sixBytes) lostAndResent) := by
  decide +kernel

theorem recovered_session_ends_resent :
    ∃ more, EveryStep step Undisturbed (run happen (afterHandshake sixBytes) lostAndResent) more ∧
      Complete sixBytes (run step (run happen (afterHandshake sixBytes) lostAndResent) more) :=
  (recovered_session_ends sixBytes _ lostAndResent [] sixBytes_begins (by decide +kernel)
    lostAndResent_level trivial).2.2

end System

/-! ### The RRs of a window are lost -/

namespace Server

variable {transfer : Transfer} {child : Child}

theorem timeout_resends (inv : ServerInv transfer child) (atClosed : child.state = .windowClosed)
    (closed : isWindowOpen child.window = false) (waiting : child.timeout ≤ timeoutMax)
    (stack : Packet) :
    (step child ⟨none, stack⟩).state = .windowClosed ∧
      (step child ⟨none, stack⟩).window = child.window ∧
      (step child ⟨none, stack⟩).timeout = child.timeout + 1 ∧
      (step child ⟨none, stack⟩).lastTimeout = child.lastTimeout ∧
      (step child ⟨none, stack⟩).sent = child.sent ++ [transfer.datagram child.window.lower
        (transfer.flagFor child.window.lower .timeoutData)] := by
  have polling : polls child = true := by simp [polls, atClosed, closed, waiting]
  have asked : retransmits child ⟨none, stack⟩ = some (child.window.lower, .timeoutData) := by
    simp [retransmits, received_timeout, polling, atClosed]
  have full := inv.window.isWindowOpen_eq_false_iff.mp closed
  have positive := transfer.windowSize_pos
  have sent := step_resent inv asked (Nat.le_refl _) (by omega)
  rw [step_closed_timeout atClosed closed waiting rfl, resendLowestClosed_eq] at sent ⊢
  exact ⟨atClosed, rfl, rfl, rfl, sent⟩

end Server

namespace Rcopy

variable {transfer : Transfer} {process : Process} (input : Input) {seqNum : Nat}

theorem process_known (waiting : process.state = .processData)
    (under : process.timeout < timeoutMax)
    (carries : Carries transfer seqNum process.currPacket.bytes process.dataSize)
    (known : seqNum < process.statics.expected) (notLast : seqNum ≠ transfer.packetCount) :
    stateMachine process input =
      { process with statics := sendRR process.statics, state := .receiveData } := by
  have numbered : process.currPacket.seqNum = seqNum := carries.seqNumOf_eq
  have data := isDataFlag_of_carries carries
  have notEof : process.currPacket.flag ≠ FlagType.eof.code := by
    intro isEof
    exact notLast (carries.isEof_iff.mp (beq_iff_eq.mpr isEof))
  have next : stateAfter process.currPacket = .receiveData := if_neg notEof
  have handled : processData process.statics process.currPacket process.dataSize
      process.buffering =
      { statics := sendRR process.statics, buffering := process.buffering
        next := .receiveData } := by
    rw [processData, data, numbered, if_neg (by decide), if_neg (Nat.ne_of_lt known),
      if_neg (Nat.lt_asymm known), next]
  rw [stateMachine_dispatch input (by simp [waiting]) (by simp [waiting]) under,
    if_neg (by simp [waiting])]
  simp only [dispatch, waiting, afterHandler, handled]

theorem answers_known (receiving : process.state = .receiveData)
    (under : process.timeout < timeoutMax) (unbuffered : process.buffering = false)
    (sized : process.statics.bufferSize = transfer.bufferSize) {datagram : Datagram}
    (isPacket : IsDataPacket transfer seqNum datagram)
    (known : seqNum < process.statics.expected) (notLast : seqNum ≠ transfer.packetCount)
    (stack : Packet) :
    ∃ handed, stateMachine process ⟨some datagram, stack⟩ = handed ∧
      handed.statics = process.statics ∧ handed.timeout = process.timeout ∧
      handed.buffering = process.buffering ∧
      stateMachine handed ⟨none, stack⟩ =
        { handed with statics := sendRR process.statics, state := .receiveData } := by
  obtain ⟨packet, carries, received⟩ :=
    receive_packet ⟨some datagram, stack⟩ receiving under unbuffered sized rfl isPacket
  exact ⟨_, received, rfl, rfl, rfl, process_known _ rfl under carries known notLast⟩

end Rcopy

namespace System

variable {transfer : Transfer} {system : System}

/-- The server waits behind a full window.  rcopy has all of it, but nothing of what it has
answered is under way any more. -/
structure Unanswered (system : System) : Prop where
  waiting : system.server.state = .windowClosed
  closed : isWindowOpen system.server.window = false
  timeout : system.server.timeout < timeoutMax
  lastTimeout : system.server.lastTimeout < timeoutMax
  receiving : system.rcopy.state = .receiveData
  rcopyTimeout : system.rcopy.timeout < timeoutMax
  unbuffered : system.rcopy.buffering = false
  unfinished : system.rcopy.statics.wroteLastData = false
  current : system.server.window.current = system.rcopy.statics.expected
  toClient : system.toClient = []
  toServer : system.toServer = []

instance (system : System) : Decidable (Unanswered system) :=
  decidable_of_iff (system.server.state = .windowClosed ∧
      isWindowOpen system.server.window = false ∧ system.server.timeout < timeoutMax ∧
      system.server.lastTimeout < timeoutMax ∧ system.rcopy.state = .receiveData ∧
      system.rcopy.timeout < timeoutMax ∧ system.rcopy.buffering = false ∧
      system.rcopy.statics.wroteLastData = false ∧
      system.server.window.current = system.rcopy.statics.expected ∧
      system.toClient = [] ∧ system.toServer = []) <| by
    constructor
    · rintro ⟨waiting, closed, timeout, lastTimeout, receiving, rcopyTimeout, unbuffered,
        unfinished, current, both⟩
      exact ⟨waiting, closed, timeout, lastTimeout, receiving, rcopyTimeout, unbuffered,
        unfinished, current, both.1, both.2⟩
    · intro unanswered
      exact ⟨unanswered.waiting, unanswered.closed, unanswered.timeout, unanswered.lastTimeout,
        unanswered.receiving, unanswered.rcopyTimeout, unanswered.unbuffered,
        unanswered.unfinished, unanswered.current, unanswered.toClient, unanswered.toServer⟩

/-- The server times out, and its packet and the answer to it arrive. -/
def resendRound (stack : Packet) : List Action :=
  [.serverStep stack, .rcopyReceive stack, .rcopyStep stack, .serverReceive stack]

theorem Unanswered.level (unanswered : Unanswered system) (joint : JointInv transfer system)
    (stack : Packet) :
    EveryStep step (Enabled transfer) system (resendRound stack) ∧
      Level (run step system (resendRound stack)) := by
  have full := joint.server.window.isWindowOpen_eq_false_iff.mp unanswered.closed
  have positive := transfer.windowSize_pos
  have current := unanswered.current
  have last : system.rcopy.statics.expected ≤ transfer.packetCount :=
    joint.rcopy.unfinished_le unanswered.unfinished
  have isPacket : IsDataPacket transfer system.server.window.lower
      (transfer.datagram system.server.window.lower
        (transfer.flagFor system.server.window.lower .timeoutData)) :=
    transfer.datagram_isDataPacket joint.server.window.lower_pos (by omega)
      (transfer.flagged_flagFor _ (.inr (.inr rfl)))
  obtain ⟨atClosed, window, timeout, lastTimeout, sent⟩ := Server.timeout_resends joint.server
    unanswered.waiting unanswered.closed (Nat.le_of_lt unanswered.timeout) stack
  have polls : Rcopy.polls system.rcopy = true := by
    simp [Rcopy.polls, unanswered.receiving, unanswered.rcopyTimeout]
  generalize transfer.datagram system.server.window.lower
    (transfer.flagFor system.server.window.lower .timeoutData) = lowest at isPacket sent
  obtain ⟨handed, received, same, under, unbuffered, answers⟩ :=
    Rcopy.answers_known unanswered.receiving unanswered.rcopyTimeout unanswered.unbuffered
      joint.rcopy.holds.statics.bufferSize_eq isPacket (by omega) (by omega) stack
  obtain ⟨rr, control, answered⟩ : ∃ rr, IsControl .rr system.rcopy.statics.expected rr ∧
      (Rcopy.sendRR system.rcopy.statics).sent = system.rcopy.statics.sent ++ [rr] :=
    ⟨_, buildRrPacket_isControl _ joint.rcopy.holds.statics.expected_lt, rfl⟩
  -- the four steps, with what is under way after each of them
  have first : step system (.serverStep stack) =
      ⟨Server.step system.server ⟨none, stack⟩, system.rcopy, [lowest], []⟩ := by
    simp only [step, serverMove, sent, List.drop_left, unanswered.toClient, unanswered.toServer,
      List.nil_append]
  generalize Server.step system.server ⟨none, stack⟩ = resent at *
  have second : step ⟨resent, system.rcopy, [lowest], []⟩ (.rcopyReceive stack) =
      ⟨resent, handed, [], []⟩ := by
    simp only [step, rcopyMove, List.head?_cons, List.tail_cons, received, same, List.drop_length,
      List.append_nil]
  have third : step ⟨resent, handed, [], []⟩ (.rcopyStep stack) =
      ⟨resent, { handed with
        statics := Rcopy.sendRR system.rcopy.statics, state := .receiveData }, [], [rr]⟩ := by
    simp only [step, rcopyMove, answers, same, answered, List.drop_left, List.nil_append]
  have patient : Server.Patient resent :=
    ⟨timeout ▸ unanswered.timeout, lastTimeout ▸ unanswered.lastTimeout, by simp [atClosed]⟩
  have polling : Server.polls resent = true := by
    simp [Server.polls, atClosed, window, unanswered.closed, patient.timeout]
  obtain ⟨heard, stays, moved, quiet⟩ := Server.hear_rr patient polling control stack
  have fourth (process : Rcopy.Process) :
      step ⟨resent, process, [], [rr]⟩ (.serverReceive stack) =
        ⟨Server.step resent ⟨some rr, stack⟩, process, [], []⟩ := by
    simp only [step, serverMove, List.head?_cons, List.tail_cons, quiet, List.drop_length,
      List.append_nil]
  constructor
  · simp only [resendRound, EveryStep, first, second, third]
    exact ⟨trivial, ⟨polls, List.cons_ne_nil _ _⟩, trivial, ⟨polling, List.cons_ne_nil _ _⟩,
      trivial⟩
  · simp only [resendRound, run_cons, run_nil, first, second, third, fourth]
    refine ⟨heard, ?_, .inr rfl, under ▸ unanswered.rcopyTimeout,
      unbuffered.trans unanswered.unbuffered, unanswered.unfinished, ?_, ?_, rfl, rfl⟩
    · simp [stays, atClosed]
    · simp only [moved]
      rfl
    · simp only [moved]
      exact (congrArg Window.current window).trans current

/-- If the RRs for a full window are lost, one timeout of the server and one packet that arrives
twice repair it, and the session can still be brought to its end. -/
theorem lost_rrs_repaired (transfer : Transfer) (start : System) (events : List Event)
    (stack : Packet) (begins : Begins transfer start)
    (possible : EveryStep happen (Possible transfer) start events) :
    let disturbed := run happen start events
    let repaired := run step disturbed (resendRound stack)
    Unanswered disturbed →
      EveryStep step (Enabled transfer) disturbed (resendRound stack) ∧ Level repaired ∧
        ∃ more, EveryStep step Undisturbed repaired more ∧
          Complete transfer (run step repaired more) := by
  intro disturbed repaired unanswered
  have joint : JointInv transfer disturbed := events_inv begins possible
  obtain ⟨enabled, level⟩ := unanswered.level joint stack
  have smooth : Smooth transfer repaired := level.smooth (run_refines joint enabled).2
  have nothing : EveryStep step Undisturbed repaired [] := trivial
  exact ⟨enabled, level, (smooth.session_ends nothing).2.2⟩

/-- Both packets of the first window arrive, and both RRs are lost. -/
def rrsLost : List Event :=
  let actions : List Action := List.replicate 4 (.serverStep .zero) ++
    [.rcopyReceive .zero, .rcopyStep .zero, .rcopyReceive .zero, .rcopyStep .zero,
      .loseToServer 0, .loseToServer 0, .serverStep .zero]
  actions.map .act

theorem rrsLost_unanswered :
    Unanswered (run happen (afterHandshake sixBytes) rrsLost) := by
  decide +kernel

theorem lost_rrs_repaired_both :
    Level (run step (run happen (afterHandshake sixBytes) rrsLost) (resendRound .zero)) :=
  (lost_rrs_repaired sixBytes _ rrsLost .zero sixBytes_begins (by decide +kernel)
    rrsLost_unanswered).2.1

end System

end CPE464.Project3
