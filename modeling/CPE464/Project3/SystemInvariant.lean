/-
The joint invariant of a session.

It ties the two programs together by what is under way between them: every datagram for
the client is a packet that has been sent, no datagram for the server acknowledges the end of
the file too early, and the numbers of both sides form a sliding window.  Every step of the
system is a few steps of that window, which is where the order of the RRs comes from.
-/

import CPE464.Project3.System

namespace CPE464.Project3

open General

/-! ### What the server receives -/

namespace Server

variable {child : Child} {stack : Packet}

theorem received_reads {datagram : Datagram} {packet : Packet}
    (receives : received child ⟨some datagram, stack⟩ = some packet) :
    packet.flag = flagOf datagram ∧ packet.number = numberOf datagram := by
  have polling : polls child = true := by
    by_contra idle
    simp [received, idle] at receives
  rw [received_of_poll polling rfl] at receives
  split at receives
  · next accepted =>
      obtain rfl := Option.some.inj receives
      have length : (datagram.take rrPacketSsize).length = rrPacketSsize := by
        simp only [receiveAndValidateData, Bool.true_and, Bool.and_eq_true, Bool.not_eq_true',
          decide_eq_false_iff_not] at accepted
        have short := List.length_take_le rrPacketSsize datagram
        omega
      have copied : (Packet.zero.memcpy 0 (datagram.take rrPacketSsize)).bytes.take
          rrPacketSsize = datagram.take rrPacketSsize := by
        have fits : (datagram.take rrPacketSsize).length ≤ packetMaxSsize := by
          rw [length]
          decide
        have read := Packet.zero.memcpy_take fits
        rw [length] at read
        exact read
      have whole := Nat.le_refl rrPacketSsize
      have header : packetHeaderSsize ≤ rrPacketSsize := by decide
      constructor
      · exact (flagOf_take _ header).symm.trans
          ((congrArg flagOf copied).trans (flagOf_take _ header))
      · exact (numberOf_take _ whole).symm.trans
          ((congrArg numberOf copied).trans (numberOf_take _ whole))
  · cases receives

theorem rrReceived_reads {datagram : Datagram} {number : Nat}
    (follows : rrReceived child ⟨some datagram, stack⟩ = some number) :
    rrNumber? datagram = some number := by
  cases receives : received child ⟨some datagram, stack⟩ with
  | none => simp [rrReceived, receives] at follows
  | some packet =>
      obtain ⟨flagRead, numberRead⟩ := received_reads receives
      simp only [rrReceived, receives, flagRead, numberRead] at follows
      exact follows

theorem received_rejected {datagram : Datagram} (rejected : System.ServerRejects datagram) :
    received child ⟨some datagram, stack⟩ = none := by
  cases polling : polls child with
  | false => simp [received, polling]
  | true =>
      rw [received_of_poll polling rfl, if_neg]
      rw [System.ServerRejects] at rejected
      exact rejected ▸ Bool.false_ne_true

theorem received_timeout : received child ⟨none, stack⟩ = none := by
  cases polling : polls child <;> simp [received, polling]

end Server

namespace Rcopy

theorem arrives_of_isSent {transfer : Transfer} {process : Process} {bound : Nat}
    {datagram : Datagram}
    (isSent : Server.IsSent transfer bound datagram)
    (last : bound ≤ transfer.packetCount + 1)
    (near : bound ≤ process.statics.expected + transfer.windowSize) :
    Arrives transfer (belowArrival transfer bound) process datagram := by
  rcases isSent with rfl | ⟨seqNum, flag, first, below, flagged, rfl⟩
  · exact .inr (.inl (by simp only [Rejected, receiveAndValidateData, List.take_nil]; rfl))
  · have room := transfer.packetCount_add_lt
    have positive := transfer.windowSize_pos
    have isPacket := transfer.datagram_isDataPacket first (by omega) flagged
    refine .inr (.inr ?_)
    rw [isPacket.seqNum_eq]
    exact ⟨isPacket, by omega, below⟩

end Rcopy

/-! ### The joint invariant -/

namespace System

/-- The numbers of the session, with whatever `read` takes for an acknowledgement. -/
def countersBy (read : Datagram → Option Nat) (system : System) : SlidingWindow.Counters :=
  { counters system with acks := system.toServer.filterMap read }

structure JointInv (transfer : Transfer) (system : System) : Prop where
  server : Server.ServerInv transfer system.server
  rcopy : Rcopy.SessionInv transfer system.server.window.current system.rcopy
  counters : SlidingWindow.Invariant transfer.windowSize (counters system)
  toClient : ∀ datagram ∈ system.toClient,
    Server.IsSent transfer system.server.window.current datagram
  toServer : ∀ datagram ∈ system.toServer,
    Rcopy.AcksWhole transfer system.rcopy.statics.expected datagram
  acked : system.server.state = .eofAcked →
    system.rcopy.statics.expected = transfer.packetCount + 1

/-- Where a server step gets its poll result from, and what it leaves in the channel. -/
inductive Hears (system : System) (stack : Packet) : Option Datagram → List Datagram → Prop
  | nothing (poll : Option Datagram) (rest : List Datagram)
      (deaf : Server.received system.server ⟨poll, stack⟩ = none)
      (remain : rest.Sublist system.toServer) : Hears system stack poll rest
  | message (datagram : Datagram) (rest : List Datagram)
      (polling : Server.polls system.server = true)
      (oldest : system.toServer = datagram :: rest) : Hears system stack (some datagram) rest

section Moves

variable {transfer : Transfer} {system : System} {poll : Option Datagram} {stack : Packet}
  {rest : List Datagram}

theorem Hears.subset (hears : Hears system stack poll rest) :
    ∀ datagram ∈ rest, datagram ∈ system.toServer := by
  cases hears with
  | nothing _ _ deaf remain => exact fun datagram member => remain.subset member
  | message datagram _ polling oldest =>
      rw [oldest]
      exact fun other member => List.mem_cons_of_mem _ member

/-- The RR the server follows, if any, is the oldest number under way, also when other
datagrams than RRs are read as numbers. -/
theorem Hears.reads {read : Datagram → Option Nat}
    (readsRr : ∀ datagram number, rrNumber? datagram = some number → read datagram = some number)
    (hears : Hears system stack poll rest) :
    (∃ number, Server.rrReceived system.server ⟨poll, stack⟩ = some number ∧
      system.toServer.filterMap read = number :: rest.filterMap read) ∨
    Server.rrReceived system.server ⟨poll, stack⟩ = none ∧
      (rest.filterMap read).Sublist (system.toServer.filterMap read) := by
  cases hears with
  | nothing _ _ deaf remain =>
      exact .inr ⟨by simp only [Server.rrReceived, deaf], remain.filterMap read⟩
  | message datagram _ polling oldest =>
      rw [oldest]
      cases follows : Server.rrReceived system.server ⟨some datagram, stack⟩ with
      | none => exact .inr ⟨rfl, (List.sublist_cons_self _ _).filterMap read⟩
      | some number =>
          have isRead := readsRr datagram number (Server.rrReceived_reads follows)
          exact .inl ⟨number, rfl, List.filterMap_cons_some isRead⟩

/-- RRs come in the order in which rcopy has sent them, so the server never steps back. -/
theorem Hears.acksInWindow (inv : JointInv transfer system)
    (hears : Hears system stack poll rest) :
    Server.AcksInWindow system.server ⟨poll, stack⟩ := by
  intro number member
  rcases hears.reads (fun _ _ isRr => isRr) with ⟨oldest, follows, acks⟩ | ⟨noRr, _⟩
  · obtain rfl := Option.some.inj (follows.symm.trans member)
    exact inv.counters.oldest_in_window acks
  · cases noRr.symm.trans member

theorem serverMove_refines {read : Datagram → Option Nat}
    (readsRr : ∀ datagram number, rrNumber? datagram = some number → read datagram = some number)
    (inv : JointInv transfer system) (hears : Hears system stack poll rest) :
    SlidingWindow.Steps transfer.windowSize (countersBy read system)
      (countersBy read (serverMove system poll stack rest)) := by
  rcases hears.reads readsRr with ⟨number, follows, acks⟩ | ⟨noRr, remain⟩
  · have moved := Server.step_of_rr follows
    have received : countersBy read (serverMove system poll stack rest) =
        { countersBy read system with base := number, acks := rest.filterMap read } := by
      simp only [countersBy, counters, serverMove, moved]
      rfl
    rw [received]
    exact .single (.receive number _ acks)
  · obtain ⟨stays, _, sends⟩ := Server.step_without_rr inv.server noRr
    have lost : SlidingWindow.Steps transfer.windowSize (countersBy read system)
        { countersBy read system with acks := rest.filterMap read } := .single (.lose _ remain)
    rcases sends with idle | ⟨next, room⟩
    · have idles : countersBy read (serverMove system poll stack rest) =
          { countersBy read system with acks := rest.filterMap read } := by
        simp only [countersBy, counters, serverMove, stays, idle]
      rw [idles]
      exact lost
    · have sent : countersBy read (serverMove system poll stack rest) =
          { countersBy read system with
            next := (countersBy read system).next + 1, acks := rest.filterMap read } := by
        simp only [countersBy, counters, serverMove, stays, next]
      rw [sent]
      exact lost.tail (.send room)

theorem serverMove_current_le (inv : JointInv transfer system) (input : Server.Input) :
    system.server.window.current ≤ (Server.step system.server input).window.current := by
  cases rr : Server.rrReceived system.server input with
  | none =>
      rcases (Server.step_without_rr inv.server rr).2.2 with idle | ⟨next, _⟩
      · exact Nat.le_of_eq idle.symm
      · exact Nat.le_of_lt (next ▸ Nat.lt_succ_self _)
  | some number =>
      rw [Server.step_of_rr rr]
      exact Nat.le_refl _

theorem serverMove_acked (inv : JointInv transfer system)
    (hears : Hears system stack poll rest)
    (acked : (Server.step system.server ⟨poll, stack⟩).state = .eofAcked) :
    system.rcopy.statics.expected = transfer.packetCount + 1 := by
  rcases Server.step_eofAcked acked with already | ⟨packet, receives, isAck⟩
  · exact inv.acked already
  · cases hears with
    | nothing _ _ deaf remain => cases deaf.symm.trans receives
    | message datagram _ polling oldest =>
        have reads := (Server.received_reads receives).1
        exact inv.toServer datagram (oldest ▸ List.mem_cons_self) (reads.symm.trans isAck)

theorem serverMove_sends (system : System) (poll : Option Datagram) (stack : Packet)
    (rest : List Datagram) :
    ∃ sent, (serverMove system poll stack rest).server.sent = system.server.sent ++ sent ∧
      (serverMove system poll stack rest).toClient = system.toClient ++ sent := by
  obtain ⟨sent, grown⟩ := Server.step_sent system.server ⟨poll, stack⟩
  refine ⟨sent, grown.symm, ?_⟩
  rw [serverMove, ← grown, List.drop_left]

theorem serverMove_inv (inv : JointInv transfer system)
    (hears : Hears system stack poll rest) :
    JointInv transfer (serverMove system poll stack rest) := by
  have server := Server.step_inv inv.server (hears.acksInWindow inv)
  have onward := serverMove_current_le inv ⟨poll, stack⟩
  have steps := serverMove_refines (fun _ _ isRr => isRr) inv hears
  refine ⟨server, inv.rcopy.mono onward, steps.invariant inv.counters, ?_,
    fun datagram member => inv.toServer datagram (hears.subset datagram member),
    serverMove_acked inv hears⟩
  obtain ⟨sent, grown, joined⟩ := serverMove_sends system poll stack rest
  rw [joined]
  intro datagram member
  rcases List.mem_append.mp member with old | new
  · exact (inv.toClient datagram old).mono onward
  · exact server.sent datagram (grown ▸ List.mem_append_right _ new)

theorem serverMove_step (inv : JointInv transfer system)
    (hears : Hears system stack poll rest) :
    SlidingWindow.Steps transfer.windowSize (counters system)
        (counters (serverMove system poll stack rest)) ∧
      JointInv transfer (serverMove system poll stack rest) :=
  ⟨serverMove_refines (fun _ _ isRr => isRr) inv hears, serverMove_inv inv hears⟩

theorem rcopyMove_refines {read : Datagram → Option Nat} {sent : List Datagram}
    (onward : system.rcopy.statics.expected ≤
      (Rcopy.stateMachine system.rcopy ⟨poll, stack⟩).statics.expected)
    (behind : (Rcopy.stateMachine system.rcopy ⟨poll, stack⟩).statics.expected ≤
      system.server.window.current)
    (grown : (Rcopy.stateMachine system.rcopy ⟨poll, stack⟩).statics.sent =
      system.rcopy.statics.sent ++ sent)
    (each : ∀ datagram ∈ sent, read datagram = none ∨ read datagram =
      some (Rcopy.stateMachine system.rcopy ⟨poll, stack⟩).statics.expected) :
    SlidingWindow.Steps transfer.windowSize (countersBy read system)
      (countersBy read (rcopyMove system poll stack rest)) := by
  have moved : countersBy read (rcopyMove system poll stack rest) =
      { countersBy read system with
        delivered := (Rcopy.stateMachine system.rcopy ⟨poll, stack⟩).statics.expected
        acks := (countersBy read system).acks ++ sent.filterMap read } := by
    simp only [countersBy, counters, rcopyMove, grown, List.drop_left, List.filterMap_append]
  rw [moved]
  refine .head (.deliver _ onward behind) (SlidingWindow.Steps.acknowledge_all ?_)
  intro ack member
  obtain ⟨datagram, isSent, names⟩ := List.mem_filterMap.mp member
  rcases each datagram isSent with nothing | isExpected
  · cases nothing.symm.trans names
  · exact Option.some.inj (names.symm.trans isExpected)

theorem rcopyMove_step (inv : JointInv transfer system)
    (allowed : Rcopy.Allowed transfer (Rcopy.belowArrival transfer system.server.window.current)
      system.rcopy ⟨poll, stack⟩)
    (remain : ∀ datagram ∈ rest, datagram ∈ system.toClient) :
    SlidingWindow.Steps transfer.windowSize (counters system)
        (counters (rcopyMove system poll stack rest)) ∧
      JointInv transfer (rcopyMove system poll stack rest) := by
  obtain ⟨rcopy, onward, sent, grown, each⟩ := Rcopy.session_step inv.rcopy allowed
  have steps : SlidingWindow.Steps transfer.windowSize (counters system)
      (counters (rcopyMove system poll stack rest)) :=
    rcopyMove_refines onward rcopy.expected_le grown (fun datagram member =>
      (each datagram member).2)
  have last := rcopy.holds.statics.expected_le
  refine ⟨steps, inv.server, rcopy, steps.invariant inv.counters,
    fun datagram member => inv.toClient datagram (remain datagram member), ?_, ?_⟩
  · intro datagram member
    simp only [rcopyMove, grown, List.drop_left, List.mem_append] at member
    rcases member with old | new
    · exact (inv.toServer datagram old).mono onward last
    · exact (each datagram new).1
  · intro acked
    have whole := inv.acked acked
    exact Nat.le_antisymm last (whole ▸ onward)

end Moves

/-! ### What is under way -/

section UnderWay

variable {transfer : Transfer} {system : System} {datagrams : List Datagram}

/-- Neither the order nor the number of the datagrams for rcopy matters. -/
theorem JointInv.of_toClient (inv : JointInv transfer system)
    (members : ∀ datagram ∈ datagrams, datagram ∈ system.toClient) :
    JointInv transfer { system with toClient := datagrams } :=
  ⟨inv.server, inv.rcopy, inv.counters,
    fun datagram member => inv.toClient datagram (members datagram member), inv.toServer,
    inv.acked⟩

/-- Of the datagrams for the server, only the RRs have to keep their order. -/
theorem JointInv.of_toServer (inv : JointInv transfer system)
    (members : ∀ datagram ∈ datagrams, datagram ∈ system.toServer)
    (sorted : (datagrams.filterMap rrNumber?).Pairwise (· ≤ ·)) :
    JointInv transfer { system with toServer := datagrams } := by
  have fewer : ∀ ack ∈ datagrams.filterMap rrNumber?, ack ∈ system.counters.acks := by
    intro ack member
    obtain ⟨datagram, arrives, names⟩ := List.mem_filterMap.mp member
    exact List.mem_filterMap.mpr ⟨datagram, members datagram arrives, names⟩
  exact ⟨inv.server, inv.rcopy, inv.counters.rearrange sorted fewer, inv.toClient,
    fun datagram member => inv.toServer datagram (members datagram member), inv.acked⟩

end UnderWay

/-! ### The step lemma -/

section Step

variable {transfer : Transfer} {system : System} {action : Action}

theorem rcopyInput_allowed (inv : JointInv transfer system)
    (enabled : Enabled transfer system action) {input : Rcopy.Input}
    (reads : rcopyInput system action = some input) :
    Rcopy.Allowed transfer (Rcopy.belowArrival transfer system.server.window.current)
      system.rcopy input := by
  intro _ datagram received
  cases action with
  | rcopyStep stack =>
      cases reads
      cases received
  | rcopyReceive stack =>
      cases reads
      have member : datagram ∈ system.toClient := List.mem_of_mem_head? received
      have behind : system.server.window.lower ≤ system.rcopy.statics.expected :=
        inv.counters.base_le
      exact Rcopy.arrives_of_isSent (inv.toClient datagram member)
        inv.server.window.current_le
        (Nat.le_trans inv.counters.near (Nat.add_le_add_right behind _))
  | rcopyReceiveDamaged damaged stack =>
      obtain ⟨polling, waiting, harmless⟩ := enabled
      cases reads
      obtain rfl := Option.some.inj received
      exact harmless.imp_right .inl
  | serverStep | serverReceive | serverReceiveDamaged | loseToServer | loseToClient => cases reads

theorem serverInput_hears (enabled : Enabled transfer system action) {input : Server.Input}
    (reads : serverInput system action = some input) :
    ∃ rest, step system action = serverMove system input.poll input.stack rest ∧
      Hears system input.stack input.poll rest := by
  cases action with
  | serverStep stack =>
      cases reads
      exact ⟨_, rfl, .nothing none _ Server.received_timeout (.refl _)⟩
  | serverReceive stack =>
      obtain ⟨polling, waiting⟩ := enabled
      obtain ⟨datagram, rest, oldest⟩ := List.exists_cons_of_ne_nil waiting
      cases reads
      simp only [step, oldest, List.head?_cons, List.tail_cons]
      exact ⟨rest, rfl, .message datagram rest polling oldest⟩
  | serverReceiveDamaged damaged stack =>
      cases reads
      exact ⟨_, rfl, .nothing _ _ (Server.received_rejected enabled.2.2) (List.tail_sublist _)⟩
  | rcopyStep | rcopyReceive | rcopyReceiveDamaged | loseToServer | loseToClient => cases reads

/-- Every step of the system is a few steps of the sliding window, and keeps the joint
invariant. -/
theorem step_refines (inv : JointInv transfer system) (enabled : Enabled transfer system action) :
    SlidingWindow.Steps transfer.windowSize (counters system) (counters (step system action)) ∧
      JointInv transfer (step system action) := by
  have allowed : ∀ input, rcopyInput system action = some input → Rcopy.Allowed transfer
      (Rcopy.belowArrival transfer system.server.window.current) system.rcopy input :=
    fun _ reads => rcopyInput_allowed inv enabled reads
  cases action with
  | serverStep | serverReceive | serverReceiveDamaged =>
      obtain ⟨rest, moved, hears⟩ := serverInput_hears enabled rfl
      rw [moved]
      exact serverMove_step inv hears
  | loseToServer index =>
      have remain : (system.toServer.eraseIdx index).Sublist system.toServer :=
        List.eraseIdx_sublist _ _
      have lost : SlidingWindow.Steps transfer.windowSize (counters system)
          (counters (step system (.loseToServer index))) :=
        .single (.lose _ (remain.filterMap rrNumber?))
      exact ⟨lost, inv.of_toServer (fun _ member => remain.subset member)
        (inv.counters.sorted.sublist (remain.filterMap rrNumber?))⟩
  | rcopyStep stack => exact rcopyMove_step inv (allowed _ rfl) (fun _ member => member)
  | rcopyReceive stack =>
      exact rcopyMove_step inv (allowed _ rfl) (fun _ member => List.mem_of_mem_tail member)
  | rcopyReceiveDamaged damaged stack =>
      exact rcopyMove_step inv (allowed _ rfl) (fun _ member => List.mem_of_mem_tail member)
  | loseToClient index =>
      have remain : (system.toClient.eraseIdx index).Sublist system.toClient :=
        List.eraseIdx_sublist _ _
      exact ⟨.refl, inv.of_toClient fun _ member => remain.subset member⟩

end Step

/-! ### The run lemma -/

section Run

variable {transfer : Transfer} {start : System} {actions : List Action}

theorem session_of_handshake {process : Rcopy.Process} {input : Rcopy.Input}
    (inv : Rcopy.SessionInv transfer seqNumStart process)
    (handshaking : Handshaking process input) :
    Rcopy.SessionInv transfer seqNumStart (Rcopy.stateMachine process input) := by
  refine (Rcopy.session_step inv ?_).1
  intro polling datagram polled
  cases atState : process.state with
  | waitForFilenameAck => exact .inl atState
  | receiveFirstData =>
      cases (handshaking.2 atState).symm.trans polled
  | _ =>
      have early := handshaking.1
      simp_all [Rcopy.polls, Rcopy.isHandshake]

theorem begins_inv (begins : Begins transfer start) : JointInv transfer start := by
  obtain ⟨fromFileName, inputs, handshaking, reached⟩ := begins.rcopy
  have session : Rcopy.SessionInv transfer seqNumStart start.rcopy := by
    rw [reached]
    exact run_invariant (Rcopy.SessionInv transfer seqNumStart)
      (fun _ _ => session_of_handshake) (Rcopy.start_session transfer fromFileName) handshaking
  have atStart : start.rcopy.statics.expected = seqNumStart :=
    Nat.le_antisymm session.expected_le session.holds.statics.expected_pos
  have numbers : counters start =
      { base := seqNumStart, next := seqNumStart, delivered := seqNumStart, acks := [] } := by
    rw [counters, begins.server, begins.toServer, atStart]
    rfl
  refine ⟨?_, ?_, numbers ▸ .initially transfer.windowSize seqNumStart, ?_, ?_, ?_⟩
  · rw [begins.server]
    exact Server.start_inv transfer
  · rw [begins.server]
    exact session
  · rw [begins.toClient]
    exact fun _ absent => by cases absent
  · rw [begins.toServer]
    exact fun _ absent => by cases absent
  · rw [begins.server]
    exact fun no => by cases no

theorem run_refines (inv : JointInv transfer start)
    (enabled : EveryStep step (Enabled transfer) start actions) :
    SlidingWindow.Steps transfer.windowSize (counters start)
        (counters (run step start actions)) ∧
      JointInv transfer (run step start actions) := by
  refine run_invariant
    (fun system => SlidingWindow.Steps transfer.windowSize (counters start) (counters system) ∧
      JointInv transfer system) ?_ ⟨.refl, inv⟩ enabled
  rintro system action ⟨before, here⟩ allowed
  obtain ⟨steps, later⟩ := step_refines here allowed
  exact ⟨before.trans steps, later⟩

theorem run_inv (begins : Begins transfer start)
    (enabled : EveryStep step (Enabled transfer) start actions) :
    JointInv transfer (run step start actions) :=
  (run_refines (begins_inv begins) enabled).2

end Run

end System

end CPE464.Project3
