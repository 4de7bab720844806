/-
What comes of a whole run of rcopy against the server.

Nothing is assumed of the network but that it delivers in order what it delivers, that damage is
noticed, and that nobody else sends to the sockets of rcopy and of the children.
-/

import CPE464.Project3.NetworkInvariant

namespace CPE464.Project3.Network

open General

section Runs

variable {files : List UInt8 → Option (List UInt8)} {transfer : Transfer}
  {fromFileName : List UInt8} {actions : List Action}

theorem start_inv (transfer : Transfer) (fromFileName : List UInt8) :
    NetworkInv transfer fromFileName
      (start transfer.windowSize transfer.bufferSize fromFileName) where
  asked :=
    { waiting := ⟨rfl, rfl⟩
      requests := fun _ absent => by cases absent
      sockets := ⟨.nil, fun _ absent => (by cases absent), fun _ absent => by cases absent⟩ }
  phase := .asking (.inl rfl) (Rcopy.start_fresh transfer fromFileName) (fun _ => rfl)
    (fun _ absent => by cases absent)

theorem run_inv (named : files fromFileName = some transfer.file)
    (nameMax : fromFileName.length ≤ filenameMaxLen) (noNul : 0 ∉ fromFileName)
    (enabled : EveryStep (step files) (Enabled transfer.bufferSize)
      (start transfer.windowSize transfer.bufferSize fromFileName) actions) :
    NetworkInv transfer fromFileName (run (step files)
      (start transfer.windowSize transfer.bufferSize fromFileName) actions) :=
  run_invariant (NetworkInv transfer fromFileName)
    (fun _ _ inv permitted => step_inv named nameMax noNul inv permitted)
    (start_inv transfer fromFileName) enabled

theorem NetworkInv.session {network : Network} (inv : NetworkInv transfer fromFileName network) :
    ∃ bound, Rcopy.SessionInv transfer bound network.rcopy := by
  cases inv.phase with
  | asking _ fresh _ _ => exact ⟨_, fresh.session⟩
  | answered _ _ _ _ _ _ joint _ _ => exact ⟨_, joint.rcopy⟩

theorem NetworkInv.copied {network : Network} (inv : NetworkInv transfer fromFileName network) :
    network.rcopy.statics.toFile =
        transfer.delivered (network.rcopy.statics.expected - 1) ∧
      network.rcopy.statics.toFile <+: transfer.file ∧
      (∀ datagram ∈ network.rcopy.statics.sent, flagOf datagram = FlagType.eofAck.code →
        network.rcopy.statics.toFile = transfer.file) ∧
      (∀ session ∈ network.sessions, session.child.state = .eofAcked →
        network.rcopy.statics.toFile = transfer.file) := by
  obtain ⟨bound, session⟩ := inv.session
  have written : network.rcopy.statics.toFile =
      transfer.delivered (network.rcopy.statics.expected - 1) :=
    session.inWindow.inWindow.delivered.toFile_eq
  have whole : network.rcopy.statics.expected = transfer.packetCount + 1 →
      network.rcopy.statics.toFile = transfer.file := by
    intro complete
    rw [written, complete, Nat.add_sub_cancel, transfer.delivered_packetCount]
  refine ⟨written, ?_, ?_, ?_⟩
  · rw [written]
    exact transfer.delivered_prefix _
  · exact fun datagram member isAck => whole (session.sent datagram member isAck)
  · intro other member acked
    cases inv.phase with
    | asking _ _ _ unheard => exact absurd acked (unheard other member).unacked
    | answered index answering found _ _ _ joint _ others =>
        obtain ⟨position, isOther⟩ := List.mem_iff_getElem?.mp member
        by_cases here : position = index
        · obtain rfl : answering = other :=
            Option.some.inj (found.symm.trans (here ▸ isOther))
          exact whole (joint.acked acked)
        · exact absurd acked (others position other isOther here).unacked

end Runs

/-- From the first request on, whatever is lost or damaged, however often rcopy asks again and
whatever other hosts ask for, rcopy writes a prefix of the file.  It has written all of it once it
acknowledges its end, and once any child of the server ends on that acknowledgement. -/
theorem file_copied (files : List UInt8 → Option (List UInt8)) (transfer : Transfer)
    (fromFileName : List UInt8) (actions : List Action)
    (named : files fromFileName = some transfer.file)
    (nameMax : fromFileName.length ≤ filenameMaxLen) (noNul : 0 ∉ fromFileName)
    (enabled : EveryStep (step files) (Enabled transfer.bufferSize)
      (start transfer.windowSize transfer.bufferSize fromFileName) actions) :
    let network := run (step files)
      (start transfer.windowSize transfer.bufferSize fromFileName) actions
    let statics := network.rcopy.statics
    statics.toFile = transfer.delivered (statics.expected - 1) ∧
      statics.toFile <+: transfer.file ∧
      (∀ datagram ∈ statics.sent, flagOf datagram = FlagType.eofAck.code →
        statics.toFile = transfer.file) ∧
      (∀ session ∈ network.sessions, session.child.state = .eofAcked →
        statics.toFile = transfer.file) :=
  (run_inv named nameMax noNul enabled).copied

/-- The first request is lost, another host sends what is no request, and the child that answers
the second one sends both packets. -/
def askedTwice : List Action :=
  [.rcopyStep .zero, .loseRequest 0, .rcopyStep .zero, .rcopyStep .zero, .rcopyStep .zero,
    .mainReceiveOther [1, 2], .mainReceive 0, .session 0 (.serverStep .zero),
    .session 0 (.serverStep .zero), .session 0 (.serverStep .zero)]

/-- The answer and both packets arrive, and so do the three acknowledgements. -/
def copied : List Action :=
  [.rcopyReceive 0 .zero, .rcopyReceive 0 .zero, .rcopyStep .zero, .rcopyReceive 0 .zero,
    .rcopyStep .zero, .rcopyStep .zero, .rcopyStep .zero, .session 0 (.serverReceive .zero),
    .session 0 (.serverReceive .zero), .session 0 (.serverReceive .zero)]

theorem askedTwice_enabled : EveryStep (step fun _ => some [65]) (Enabled oneByte.bufferSize)
    (start oneByte.windowSize oneByte.bufferSize [97]) (askedTwice ++ copied) := by
  decide +kernel

theorem file_copied_asked_twice :
    (run (step fun _ => some [65]) (start oneByte.windowSize oneByte.bufferSize [97])
      (askedTwice ++ copied)).rcopy.statics.toFile = [65] := by
  have ended : ∃ session ∈ (run (step fun _ => some [65])
      (start oneByte.windowSize oneByte.bufferSize [97]) (askedTwice ++ copied)).sessions,
        session.child.state = .eofAcked := by
    decide +kernel
  obtain ⟨session, member, acked⟩ := ended
  exact (file_copied (fun _ => some [65]) oneByte [97] (askedTwice ++ copied) rfl (by decide)
    (by decide) askedTwice_enabled).2.2.2 session member acked

/-- A socket of rcopy is answered by one child at most, each child has the sizes of rcopy and
reads its file, and none but the one that answers the present socket has been told anything. -/
theorem one_child_answers (files : List UInt8 → Option (List UInt8)) (transfer : Transfer)
    (fromFileName : List UInt8) (actions : List Action)
    (named : files fromFileName = some transfer.file)
    (nameMax : fromFileName.length ≤ filenameMaxLen) (noNul : 0 ∉ fromFileName)
    (enabled : EveryStep (step files) (Enabled transfer.bufferSize)
      (start transfer.windowSize transfer.bufferSize fromFileName) actions) :
    let network := run (step files)
      (start transfer.windowSize transfer.bufferSize fromFileName) actions
    (network.sessions.map Session.socket).Nodup ∧
      ∀ session ∈ network.sessions,
        session.child.window.windowSize = transfer.windowSize ∧
          session.child.bufferSize = transfer.bufferSize ∧
          session.child.file <:+ transfer.file ∧
          (session.toServer ≠ [] ∨ session.child.window.lower ≠ seqNumStart →
            session.socket = network.socket ∧
              Rcopy.isAsking network.rcopy.state = false) := by
  intro network
  have inv : NetworkInv transfer fromFileName network := run_inv named nameMax noNul enabled
  refine ⟨(List.nodup_append.mp inv.asked.sockets.distinct).2.1, ?_⟩
  have reads : ∀ {child : Server.Child}, Server.ServerInv transfer child →
      child.window.windowSize = transfer.windowSize ∧ child.bufferSize = transfer.bufferSize ∧
        child.file <:+ transfer.file :=
    fun server => ⟨server.window.windowSize_eq, server.bufferSize_eq,
      server.file_eq ▸ List.drop_suffix _ _⟩
  have untold : ∀ session : Session, session.Unheard transfer →
      Server.ServerInv transfer session.child ∧ session.toServer = [] ∧
        session.child.window.lower = seqNumStart := by
    intro session unheard
    obtain ⟨_, _, _, _, joint⟩ := unheard.toClient
    have lowest : session.child.window.lower ≤ seqNumStart := joint.counters.base_le
    exact ⟨joint.server, unheard.toServer,
      Nat.le_antisymm lowest joint.server.window.lower_pos⟩
  intro session member
  cases inv.phase with
  | asking _ _ _ unheard =>
      obtain ⟨server, silent, lower⟩ := untold session (unheard session member)
      obtain ⟨windowSize, bufferSize, file⟩ := reads server
      exact ⟨windowSize, bufferSize, file,
        fun told => absurd told (not_or.mpr ⟨not_not.mpr silent, not_not.mpr lower⟩)⟩
  | answered index answering found socket _ answered joint _ others =>
      obtain ⟨position, isOther⟩ := List.mem_iff_getElem?.mp member
      by_cases here : position = index
      · obtain rfl : answering = session :=
          Option.some.inj (found.symm.trans (here ▸ isOther))
        obtain ⟨windowSize, bufferSize, file⟩ := reads joint.server
        exact ⟨windowSize, bufferSize, file, fun _ => ⟨socket, answered⟩⟩
      · obtain ⟨server, silent, lower⟩ := untold session (others position session isOther here)
        obtain ⟨windowSize, bufferSize, file⟩ := reads server
        exact ⟨windowSize, bufferSize, file,
          fun told => absurd told (not_or.mpr ⟨not_not.mpr silent, not_not.mpr lower⟩)⟩

theorem one_child_answers_asked_twice :
    ((run (step fun _ => some [65]) (start oneByte.windowSize oneByte.bufferSize [97])
      (askedTwice ++ copied)).sessions.map Session.socket).Nodup :=
  (one_child_answers (fun _ => some [65]) oneByte [97] (askedTwice ++ copied) rfl (by decide)
    (by decide) askedTwice_enabled).1

/-! ### A file that the server does not have -/

structure Refused (session : Session) : Prop where
  state : session.child.state = .kill
  toServer : session.toServer = []
  toClient : session.toClient = [] ∨ session.toClient = [response false]

structure OnlyAsks (windowSize bufferSize : Nat) (fromFileName : List UInt8)
    (process : Rcopy.Process) : Prop where
  asks : Rcopy.isAsking process.state = true ∨ process.state = .kill
  fromFileName_eq : process.statics.fromFileName = fromFileName
  windowSize_eq : process.statics.windowSize = windowSize
  bufferSize_eq : process.statics.bufferSize = bufferSize
  toFile_eq : process.statics.toFile = []
  sent : ∀ datagram ∈ process.statics.sent,
    datagram = request windowSize bufferSize fromFileName

structure RefusedInv (windowSize bufferSize : Nat) (fromFileName : List UInt8)
    (network : Network) : Prop where
  waiting : MainServer.Waiting network.main
  requests : ∀ asked ∈ network.requests,
    asked.2 = request windowSize bufferSize fromFileName
  rcopy : OnlyAsks windowSize bufferSize fromFileName network.rcopy
  server : network.rcopy.state = .sendFilename → network.server = none
  refused : ∀ session ∈ network.sessions, Refused session

section Refusal

variable {files : List UInt8 → Option (List UInt8)} {windowSize bufferSize : Nat}
  {fromFileName : List UInt8} {network : Network} {session : Session}

def NotFound (datagram : Datagram) : Prop :=
  Rcopy.RejectsResponse datagram ∨ datagram = response false

theorem NotFound.accepted {datagram : Datagram} (notFound : NotFound datagram)
    (accepts : ¬Rcopy.RejectsResponse datagram)
    (found : filenameRespPacketSsize ≤ datagram.length →
      datagram.getD packetHeaderSsize 0 = 1) : False := by
  have denied : (response false).getD packetHeaderSsize 0 ≠ 1 := by decide +kernel
  have whole : filenameRespPacketSsize ≤ (response false).length := by decide +kernel
  rw [notFound.resolve_left accepts] at found
  exact denied (found whole)

theorem OnlyAsks.step {process : Rcopy.Process} {input : Rcopy.Input}
    (only : OnlyAsks windowSize bufferSize fromFileName process)
    (notFound : ∀ datagram, input.poll = some datagram → NotFound datagram) :
    OnlyAsks windowSize bufferSize fromFileName (Rcopy.stateMachine process input) ∧
      ((Rcopy.stateMachine process input).state = .sendFilename →
        Rcopy.reopens process = true) ∧
      ((Rcopy.stateMachine process input).statics.sent = process.statics.sent ∨
        process.state = .sendFilename ∧ Rcopy.reopens process = false ∧
          (Rcopy.stateMachine process input).statics.sent = process.statics.sent ++
            [request windowSize bufferSize fromFileName]) := by
  have pass := Rcopy.asking_pass input only.asks
  generalize Rcopy.stateMachine process input = later at pass ⊢
  cases pass with
  | sends atState under =>
      have sends : (Rcopy.sendFileName { process.statics with seqNum := 0 }).sent =
          process.statics.sent ++ [request windowSize bufferSize fromFileName] := by
        simp only [Rcopy.sendFileName, Rcopy.safeSendto, request, only.fromFileName_eq,
          only.windowSize_eq, only.bufferSize_eq]
      have stays : Rcopy.reopens process = false := by
        simp [Rcopy.reopens, atState]
      refine ⟨⟨.inl rfl, only.fromFileName_eq, only.windowSize_eq, only.bufferSize_eq,
        only.toFile_eq, ?_⟩, by simp, .inr ⟨atState, stays, sends⟩⟩
      intro datagram member
      rw [sends] at member
      exact (List.mem_append.mp member).elim (only.sent datagram) List.mem_singleton.mp
  | reopens atState under =>
      have reopened : Rcopy.reopens process = true := by
        simp [Rcopy.reopens, atState, under]
      exact ⟨⟨.inl rfl, only.fromFileName_eq, only.windowSize_eq, only.bufferSize_eq,
        only.toFile_eq, only.sent⟩, fun _ => reopened, .inl rfl⟩
  | ends expired =>
      exact ⟨⟨.inr rfl, only.fromFileName_eq, only.windowSize_eq, only.bufferSize_eq,
        only.toFile_eq, only.sent⟩, by simp, .inl rfl⟩
  | refused atState packet state next =>
      refine ⟨⟨?_, only.fromFileName_eq, only.windowSize_eq, only.bufferSize_eq,
        only.toFile_eq, only.sent⟩, ?_, .inl rfl⟩
      · rcases next with rfl | rfl
        · exact .inl rfl
        · exact .inr rfl
      · rcases next with rfl | rfl <;> simp
  | accepted atState datagram polled accepts found packet =>
      exact ((notFound datagram polled).accepted accepts found).elim

theorem RefusedInv.rcopyMove (inv : RefusedInv windowSize bufferSize fromFileName network)
    {poll : Option Datagram} (stack : Packet)
    (notFound : ∀ datagram, poll = some datagram → NotFound datagram) :
    RefusedInv windowSize bufferSize fromFileName (network.rcopyMove poll stack) := by
  obtain ⟨rcopy, sends, sent⟩ :=
    inv.rcopy.step (show ∀ datagram, (Rcopy.Input.mk poll stack).poll = some datagram →
      NotFound datagram from notFound)
  unfold Network.rcopyMove
  generalize Rcopy.stateMachine network.rcopy ⟨poll, stack⟩ = later at rcopy sends sent ⊢
  cases reopened : Rcopy.reopens network.rcopy with
  | true => exact ⟨inv.waiting, inv.requests, rcopy, fun _ => rfl, inv.refused⟩
  | false =>
      have notSending : later.state ≠ .sendFilename := fun isNext => by
        cases reopened.symm.trans (sends isNext)
      simp only [Bool.false_eq_true, if_false]
      rcases sent with same | ⟨atState, _, asked⟩
      · rw [same, List.drop_length, send_nil]
        exact ⟨inv.waiting, inv.requests, rcopy, fun isNext => absurd isNext notSending,
          inv.refused⟩
      · rw [asked, List.drop_left]
        simp only [send, inv.server atState]
        refine ⟨inv.waiting, ?_, rcopy, fun isNext => absurd isNext notSending, inv.refused⟩
        intro request member
        rcases List.mem_append.mp member with old | new
        · exact inv.requests request old
        · rw [List.map_cons, List.map_nil] at new
          rw [List.mem_singleton.mp new]

theorem Refused.move (refused : Refused session) {action : System.Action}
    (enabled : session.Enabled action) (rcopy : Rcopy.Process) :
    Refused (session.move rcopy action) := by
  have ended : ∀ input, Server.step session.child input = session.child := by
    intro input
    simp only [Server.step, refused.state]
  have toServer : (session.move rcopy action).toServer = [] :=
    Session.move_silent enabled refused.toServer
  cases action with
  | serverStep stack =>
      refine ⟨?_, toServer, ?_⟩
      · simp only [Session.move, System.step, System.serverMove, ended, refused.state]
      · simp only [Session.move, System.step, System.serverMove, ended, List.drop_length,
          List.append_nil]
        exact refused.toClient
  | serverReceive => exact absurd refused.toServer enabled.2
  | serverReceiveDamaged => exact absurd refused.toServer enabled.2.1
  | loseToServer => exact ⟨refused.state, toServer, refused.toClient⟩
  | loseToClient index =>
      refine ⟨refused.state, toServer, ?_⟩
      simp only [Session.move, System.step]
      rcases refused.toClient with none | answer
      · rw [none]
        exact .inl rfl
      · rw [answer]
        cases index with
        | zero => exact .inl rfl
        | succ => exact .inr rfl
  | rcopyStep | rcopyReceive | rcopyReceiveDamaged => cases enabled

theorem Refused.tail (refused : Refused session) :
    Refused { session with toClient := session.toClient.tail } := by
  refine ⟨refused.state, refused.toServer, .inl ?_⟩
  rcases refused.toClient with none | answer
  · simp only [none, List.tail_nil]
  · simp only [answer, List.tail_cons]

theorem RefusedInv.receive (inv : RefusedInv windowSize bufferSize fromFileName network)
    {index : Nat} (stack : Packet) {datagram : Datagram}
    (polling : Rcopy.polls network.rcopy = true) (notFound : NotFound datagram) :
    RefusedInv windowSize bufferSize fromFileName
      ((network.receiveFrom index).rcopyMove (some datagram) stack) := by
  have notSending : network.rcopy.state ≠ .sendFilename := by
    intro atState
    simp [Rcopy.polls, atState] at polling
  have taken : RefusedInv windowSize bufferSize fromFileName (network.receiveFrom index) := by
    refine ⟨inv.waiting, inv.requests, inv.rcopy, fun atState => absurd atState notSending, ?_⟩
    intro session member
    rcases mem_modify member with old | ⟨old, isOld, rfl⟩
    · exact inv.refused session old
    · exact (inv.refused old (List.mem_of_getElem? isOld)).tail
  exact taken.rcopyMove stack fun _ polled => Option.some.inj polled ▸ notFound

theorem RefusedInv.step (missing : files fromFileName = none) (windowMax : windowSize < 2 ^ 32)
    (bufferMax : bufferSize ≤ payloadMax) (nameMax : fromFileName.length ≤ filenameMaxLen)
    (noNul : 0 ∉ fromFileName) (inv : RefusedInv windowSize bufferSize fromFileName network)
    {action : Action} (enabled : Enabled bufferSize network action) :
    RefusedInv windowSize bufferSize fromFileName (Network.step files network action) := by
  have atWait : Rcopy.polls network.rcopy = true →
      network.rcopy.state = .waitForFilenameAck := by
    intro polling
    have asks := inv.rcopy.asks
    cases atState : network.rcopy.state with
    | waitForFilenameAck => rfl
    | _ => simp_all [Rcopy.polls, Rcopy.isAsking]
  have others : ∀ index, ∀ other ∈ network.requests.eraseIdx index,
      other.2 = request windowSize bufferSize fromFileName :=
    fun index other member => inv.requests other ((List.eraseIdx_sublist _ _).subset member)
  cases action with
  | rcopyStep stack => exact inv.rcopyMove stack fun _ polled => by cases polled
  | rcopyReceive index stack =>
      obtain ⟨polling, session, found, _, waiting⟩ := enabled
      have head : (network.sessions[index]?.bind fun session => session.toClient.head?) =
          some (response false) := by
        have refused := inv.refused session (List.mem_of_getElem? found)
        rw [Option.mem_def.mp found, Option.bind_some, refused.toClient.resolve_left waiting,
          List.head?_cons]
      rw [Network.step, head]
      exact inv.receive stack polling (.inr rfl)
  | rcopyReceiveDamaged index damaged stack =>
      obtain ⟨⟨polling, _⟩, rejected⟩ := enabled
      rw [if_pos (atWait polling)] at rejected
      exact inv.receive stack polling (.inl rejected)
  | mainReceive index =>
      cases asked : network.requests[index]? with
      | none => simpa only [Network.step, asked] using inv
      | some pair =>
          obtain ⟨socket, datagram⟩ := pair
          have isRequest : datagram = _ := inv.requests _ (List.mem_of_getElem? asked)
          obtain ⟨child, forks, client, _, sent⟩ := MainServer.forked_request files inv.waiting
            windowMax bufferMax nameMax noNul
          rw [missing] at client sent
          simp only [Network.step, asked, isRequest, serve, forks]
          refine ⟨inv.waiting.served _, others index, inv.rcopy, inv.server, ?_⟩
          intro session member
          rcases List.mem_append.mp member with old | new
          · exact inv.refused session old
          · rw [Option.map_some, Option.toList_some, List.mem_singleton] at new
            subst new
            refine ⟨?_, rfl, .inr sent⟩
            simp only [MainServer.childOf, client]
  | mainReceiveDamaged index damaged =>
      cases asked : network.requests[index]? with
      | none => simpa only [Network.step, asked] using inv
      | some pair =>
          simp only [Network.step, asked, serve, MainServer.forked_eq inv.waiting,
            if_neg enabled]
          refine ⟨inv.waiting.served _, others index, inv.rcopy, inv.server, ?_⟩
          rw [Option.map_none, Option.toList_none, List.append_nil]
          exact inv.refused
  | mainReceiveOther datagram =>
      exact ⟨inv.waiting.served datagram, inv.requests, inv.rcopy, inv.server, inv.refused⟩
  | loseRequest index =>
      exact ⟨inv.waiting, others index, inv.rcopy, inv.server, inv.refused⟩
  | session index action =>
      obtain ⟨session, found, enabled⟩ := enabled
      refine ⟨inv.waiting, inv.requests, inv.rcopy, inv.server, fun other member => ?_⟩
      rcases mem_modify member with old | ⟨old, isOld, rfl⟩
      · exact inv.refused other old
      · obtain rfl : session = old := Option.some.inj (found.symm.trans isOld)
        exact (inv.refused session (List.mem_of_getElem? found)).move enabled _

end Refusal

/-- When the server cannot open the file, rcopy never gets beyond its requests: it writes
nothing, it sends nothing else, and every child that is forked for it has ended at once. -/
theorem missing_file_refused (files : List UInt8 → Option (List UInt8))
    (windowSize bufferSize : Nat) (fromFileName : List UInt8) (actions : List Action)
    (missing : files fromFileName = none) (windowMax : windowSize < 2 ^ 32)
    (bufferMax : bufferSize ≤ payloadMax) (nameMax : fromFileName.length ≤ filenameMaxLen)
    (noNul : 0 ∉ fromFileName)
    (enabled : EveryStep (step files) (Enabled bufferSize)
      (start windowSize bufferSize fromFileName) actions) :
    let network := run (step files) (start windowSize bufferSize fromFileName) actions
    network.rcopy.statics.toFile = [] ∧
      (Rcopy.isAsking network.rcopy.state = true ∨ network.rcopy.state = .kill) ∧
      (∀ datagram ∈ network.rcopy.statics.sent,
        datagram = request windowSize bufferSize fromFileName) ∧
      (∀ session ∈ network.sessions, session.child.state = .kill) := by
  intro network
  have initially : RefusedInv windowSize bufferSize fromFileName
      (start windowSize bufferSize fromFileName) :=
    ⟨⟨rfl, rfl⟩, fun _ absent => (by cases absent),
      ⟨.inl rfl, rfl, rfl, rfl, rfl, fun _ absent => by cases absent⟩, fun _ => rfl,
      fun _ absent => by cases absent⟩
  have inv : RefusedInv windowSize bufferSize fromFileName network :=
    run_invariant (RefusedInv windowSize bufferSize fromFileName)
      (fun _ _ here permitted => here.step missing windowMax bufferMax nameMax noNul permitted)
      initially enabled
  exact ⟨inv.rcopy.toFile_eq, inv.rcopy.asks, inv.rcopy.sent,
    fun session member => (inv.refused session member).state⟩

/-- The answer of the child arrives. -/
theorem missing_file_refused_at_once :
    (run (step fun _ => none) (start 2 1 [97])
      [.rcopyStep .zero, .mainReceive 0, .rcopyReceive 0 .zero]).rcopy.statics.toFile = [] :=
  (missing_file_refused (fun _ => none) 2 1 [97] _ rfl (by decide) (by decide) (by decide)
    (by decide) (by decide +kernel)).1

end CPE464.Project3.Network
