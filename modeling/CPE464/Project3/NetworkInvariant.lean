/-
What holds of rcopy, the server and its children in every state that they reach.

Each socket of rcopy sends one request at most, so at most one child answers it.  A child that
rcopy has heard no answer from has not been told anything.  Once rcopy has taken the answer of a
child, the two are a session as in System.lean.
-/

import CPE464.Project3.Asking

namespace CPE464.Project3

open General

/-! ### The child that is forked for a request -/

namespace MainServer

variable (files : List UInt8 → Option (List UInt8)) {main : Main} {windowSize bufferSize : Nat}
  {fromFileName : List UInt8}

theorem forked_request (waiting : Waiting main) (windowMax : windowSize < 2 ^ 32)
    (bufferMax : bufferSize ≤ payloadMax) (nameMax : fromFileName.length ≤ filenameMaxLen)
    (noNul : 0 ∉ fromFileName) :
    ∃ child, forked files main (Network.request windowSize bufferSize fromFileName) =
        some child ∧
      child.client = ⟨windowSize, bufferSize, files fromFileName⟩ ∧
      child.seqNum = seqNumStart ∧
      child.sent.drop main.sent.length = [Network.response (files fromFileName).isSome] := by
  obtain ⟨cksum, cksumSize, image⟩ : ∃ cksum, cksum.length = 2 ∧
      Network.request windowSize bufferSize fromFileName =
        packetImage (htonl 0) cksum FlagType.filename.code
          (htonl windowSize ++ (littleEndian16 bufferSize).reverse ++ fromFileName) :=
    fileNamePacket_image 0 windowSize bufferSize nameMax
  have accepted : inCksum (Network.request windowSize bufferSize fromFileName) = 0 :=
    eq_of_beq (Built.fileName 0 windowSize bufferSize fromFileName nameMax).verifies
  have size : (Network.request windowSize bufferSize fromFileName).length =
      packetHeaderSsize + (6 + fromFileName.length) := by
    rw [image, packetImage_length _ _ (htonl_length 0) cksumSize]
    simp only [List.length_append, List.length_reverse, htonl_length, littleEndian16_length]
  generalize Network.request windowSize bufferSize fromFileName = datagram at *
  have whole : datagram.take filenameMaxSsize = datagram := by
    apply List.take_of_length_le
    rw [size, filenameMaxSsize, filenamePacketSsize_eq]
    omega
  have fits : datagram.length ≤ packetMaxSsize := by
    rw [size]
    simp only [packetHeaderSsize, packetMaxSsize, filenameMaxLen] at *
    omega
  have bytes : (request datagram).bytes = datagram ++
      List.replicate (packetMaxSsize - datagram.length) 0 := by
    rw [request, whole, Packet.memcpy_zero_bytes _ fits, Packet.zero, List.drop_replicate]
  rw [image] at bytes
  obtain ⟨windowRead, bufferRead, nameRead⟩ :=
    fileNameRequest_fields windowSize bufferSize _ bytes (htonl_length 0) cksumSize noNul
  rw [← image] at windowRead bufferRead nameRead
  rw [Nat.mod_eq_of_lt windowMax] at windowRead
  rw [Nat.mod_eq_of_lt (Nat.lt_of_le_of_lt bufferMax (by decide))] at bufferRead
  rw [forked_eq waiting, whole, if_pos accepted]
  refine ⟨_, rfl, ?_, rfl, ?_⟩
  · simp only [windowRead, bufferRead, nameRead]
  · simp only [nameRead, List.drop_left]
    rfl

theorem childOf_eq {child : Main} {file : List UInt8}
    (client : child.client = ⟨windowSize, bufferSize, some file⟩)
    (seqNum : child.seqNum = seqNumStart) :
    childOf child = Server.start windowSize bufferSize file := by
  simp only [childOf, client, enterSession, seqNum]
  rfl

end MainServer

/-! ### A child that has not been told anything -/

namespace Session

variable {transfer : Transfer} {session : Session} {action : System.Action}

def idle (transfer : Transfer) : Rcopy.Process :=
  Rcopy.start transfer.windowSize transfer.bufferSize []

/-- The child has had no datagram from rcopy.  Its answer is the first one under way, or it is
lost. -/
structure Unheard (transfer : Transfer) (session : Session) : Prop where
  toServer : session.toServer = []
  toClient : ∃ answer data, session.toClient = answer ++ data ∧
    (answer = [] ∨ answer = [Network.response true]) ∧
    System.JointInv transfer ⟨session.child, idle transfer, data, []⟩

/-- A session does not tell one rcopy that has received nothing from another. -/
theorem joint_of_fresh {child : Server.Child} {process fresh : Rcopy.Process}
    {data : List Datagram}
    (joint : System.JointInv transfer ⟨child, process, data, []⟩)
    (untouched : process.statics.expected = seqNumStart)
    (session : Rcopy.SessionInv transfer seqNumStart fresh) :
    System.JointInv transfer ⟨child, fresh, data, []⟩ := by
  have expected : fresh.statics.expected = process.statics.expected := by
    rw [untouched]
    exact Nat.le_antisymm session.expected_le session.holds.statics.expected_pos
  have reached : seqNumStart ≤ child.window.current :=
    untouched ▸ joint.counters.delivered_le
  have counters : System.counters ⟨child, fresh, data, []⟩ =
      System.counters ⟨child, process, data, []⟩ := by
    simp only [System.counters, expected]
  exact ⟨joint.server, session.mono reached, counters ▸ joint.counters, joint.toClient,
    fun _ absent => (by cases absent), fun acked => expected.trans (joint.acked acked)⟩

theorem start_joint (transfer : Transfer) :
    System.JointInv transfer ⟨Server.start transfer.windowSize transfer.bufferSize transfer.file,
      idle transfer, [], []⟩ where
  server := Server.start_inv transfer
  rcopy := Rcopy.start_session transfer []
  counters := .initially transfer.windowSize seqNumStart
  toClient := fun _ absent => by cases absent
  toServer := fun _ absent => by cases absent
  acked := fun no => by cases no

theorem Unheard.unacked (unheard : Unheard transfer session) :
    session.child.state ≠ .eofAcked := by
  intro acked
  obtain ⟨_, _, _, _, joint⟩ := unheard.toClient
  have whole : seqNumStart = transfer.packetCount + 1 := joint.acked acked
  have some : 1 ≤ transfer.packetCount := Nat.le_add_left 1 _
  simp only [seqNumStart] at whole
  omega

theorem Unheard.tail (unheard : Unheard transfer session) :
    Unheard transfer { session with toClient := session.toClient.tail } := by
  obtain ⟨answer, data, split, isAnswer, joint⟩ := unheard.toClient
  rcases isAnswer with rfl | rfl
  · refine ⟨unheard.toServer, [], data.tail, ?_, .inl rfl,
      joint.of_toClient fun _ member => List.mem_of_mem_tail member⟩
    simp only [split, List.nil_append]
  · exact ⟨unheard.toServer, [], data, by simp only [split]; rfl, .inl rfl, joint⟩

theorem Enabled.system {process : Rcopy.Process} (enabled : session.Enabled action) :
    System.Enabled transfer ⟨session.child, process, session.toClient, session.toServer⟩
      action := by
  cases action with
  | serverStep | loseToServer | loseToClient => trivial
  | serverReceive | serverReceiveDamaged => exact enabled
  | rcopyStep | rcopyReceive | rcopyReceiveDamaged => cases enabled

theorem move_joint {process : Rcopy.Process}
    (joint : System.JointInv transfer
      ⟨session.child, process, session.toClient, session.toServer⟩)
    (enabled : session.Enabled action) :
    System.JointInv transfer ⟨(session.move process action).child, process,
      (session.move process action).toClient, (session.move process action).toServer⟩ := by
  have moved := (System.step_refines joint enabled.system).2
  cases action with
  | serverStep | serverReceive | serverReceiveDamaged | loseToServer | loseToClient => exact moved
  | rcopyStep | rcopyReceive | rcopyReceiveDamaged => cases enabled

theorem move_silent {process : Rcopy.Process} (enabled : session.Enabled action)
    (silent : session.toServer = []) : (session.move process action).toServer = [] := by
  cases action with
  | serverStep | loseToClient => exact silent
  | serverReceive => exact absurd silent enabled.2
  | serverReceiveDamaged => exact absurd silent enabled.2.1
  | loseToServer index => simp only [move, System.step, silent, List.eraseIdx_nil]
  | rcopyStep | rcopyReceive | rcopyReceiveDamaged => cases enabled

theorem Unheard.move (unheard : Unheard transfer session) (enabled : session.Enabled action)
    (rcopy : Rcopy.Process) : Unheard transfer (session.move rcopy action) := by
  have silent := unheard.toServer
  obtain ⟨answer, data, split, isAnswer, joint⟩ := unheard.toClient
  refine ⟨move_silent enabled silent, ?_⟩
  cases action with
  | serverStep stack =>
      have stepping : System.Enabled transfer ⟨session.child, idle transfer, data, []⟩
        (.serverStep stack) := trivial
      refine ⟨answer, _, ?_, isAnswer, (System.step_refines joint stepping).2⟩
      simp only [move, System.step, System.serverMove, split, List.append_assoc]
  | serverReceive => exact absurd silent enabled.2
  | serverReceiveDamaged => exact absurd silent enabled.2.1
  | loseToServer => exact ⟨answer, data, split, isAnswer, joint⟩
  | loseToClient index =>
      have fewer : ∀ index,
          System.JointInv transfer ⟨session.child, idle transfer, data.eraseIdx index, []⟩ := by
        intro index
        have losing : System.Enabled transfer ⟨session.child, idle transfer, data, []⟩
          (.loseToClient index) := trivial
        exact (System.step_refines joint losing).2
      have lost : (session.move rcopy (.loseToClient index)).toClient =
          (answer ++ data).eraseIdx index := by
        simp only [move, System.step, split]
      rw [lost]
      rcases isAnswer with rfl | rfl
      · exact ⟨[], _, rfl, .inl rfl, fewer index⟩
      · cases index with
        | zero => exact ⟨[], data, rfl, .inl rfl, joint⟩
        | succ index => exact ⟨[Network.response true], _, rfl, .inr rfl, fewer index⟩
  | rcopyStep | rcopyReceive | rcopyReceiveDamaged => cases enabled

end Session

namespace Network

variable {transfer : Transfer} {fromFileName : List UInt8} {network later : Network}

/-! ### The sockets of rcopy -/

def sockets (network : Network) : List Nat :=
  network.requests.map Prod.fst ++ network.sessions.map Session.socket

structure Sockets (network : Network) : Prop where
  distinct : network.sockets.Nodup
  opened : ∀ socket ∈ network.sockets, socket ≤ network.socket
  unasked : network.rcopy.state = .sendFilename → network.socket ∉ network.sockets

theorem Sockets.of_subperm (sockets : Sockets network)
    (fewer : later.sockets.Subperm network.sockets) (same : later.socket = network.socket)
    (state : later.rcopy.state = .sendFilename → network.rcopy.state = .sendFilename) :
    Sockets later := by
  have kept := fewer.subset
  obtain ⟨list, perm, sublist⟩ := fewer
  refine ⟨perm.nodup_iff.mp (sockets.distinct.sublist sublist), ?_, ?_⟩
  · intro socket member
    rw [same]
    exact sockets.opened socket (kept member)
  · intro asks member
    rw [same] at member
    exact sockets.unasked (state asks) (kept member)

theorem Sockets.of_same (sockets : Sockets network) (same : later.sockets = network.sockets)
    (socket : later.socket = network.socket)
    (state : later.rcopy.state = .sendFilename → network.rcopy.state = .sendFilename) :
    Sockets later :=
  sockets.of_subperm (same ▸ .refl _) socket state

theorem Sockets.asks (sockets : Sockets network)
    (atState : network.rcopy.state = .sendFilename)
    (asked : later.sockets.Perm (network.socket :: network.sockets))
    (same : later.socket = network.socket) (state : later.rcopy.state ≠ .sendFilename) :
    Sockets later := by
  refine ⟨asked.nodup_iff.mpr (List.nodup_cons.mpr ⟨sockets.unasked atState, sockets.distinct⟩),
    ?_, fun asks => absurd asks state⟩
  intro socket member
  rw [same]
  rcases List.mem_cons.mp (asked.subset member) with rfl | old
  · exact Nat.le_refl _
  · exact sockets.opened socket old

theorem Sockets.reopens (sockets : Sockets network) (same : later.sockets = network.sockets)
    (next : later.socket = network.socket + 1) : Sockets later := by
  refine ⟨same ▸ sockets.distinct, ?_, ?_⟩
  · intro socket member
    rw [next]
    exact Nat.le_succ_of_le (sockets.opened socket (same ▸ member))
  · intro _ member
    rw [next, same] at member
    exact Nat.not_succ_le_self _ (sockets.opened _ member)

theorem modify_sockets (sessions : List Session) (index : Nat) {change : Session → Session}
    (same : ∀ session, (change session).socket = session.socket) :
    (sessions.modify index change).map Session.socket = sessions.map Session.socket := by
  apply List.ext_getElem?
  intro position
  simp only [List.getElem?_map, List.getElem?_modify]
  cases sessions[position]? with
  | none => rfl
  | some session =>
      simp only [Option.map_eq_map, Option.map_some]
      split
      · rw [same]
      · rfl

theorem Sockets.same_session (sockets : Sockets network) {left right : Nat}
    {first second : Session} (isFirst : network.sessions[left]? = some first)
    (isSecond : network.sessions[right]? = some second) (same : first.socket = second.socket) :
    left = right := by
  have distinct := (List.nodup_append.mp sockets.distinct).2.1
  have found : (network.sessions.map Session.socket)[left]? =
      (network.sessions.map Session.socket)[right]? := by
    rw [List.getElem?_map, List.getElem?_map, isFirst, isSecond, Option.map_some,
      Option.map_some, same]
  have present : left < (network.sessions.map Session.socket).length := by
    rw [List.length_map]
    exact (List.getElem?_eq_some_iff.mp isFirst).1
  exact (List.getElem?_inj present distinct).mp found

/-! ### The invariant -/

/-- rcopy asks for the file and no child has been told anything, or one child has answered its
last request and the two are a session. -/
inductive Phase (transfer : Transfer) (fromFileName : List UInt8) (network : Network) : Prop
  | asking
      (asks : Rcopy.isAsking network.rcopy.state = true ∨ network.rcopy.state = .kill)
      (fresh : Rcopy.Fresh transfer fromFileName network.rcopy)
      (server : network.rcopy.state = .sendFilename → network.server = none)
      (unheard : ∀ session ∈ network.sessions, session.Unheard transfer)
  | answered (index : Nat) (session : Session)
      (found : network.sessions[index]? = some session)
      (socket : session.socket = network.socket) (server : network.server = some index)
      (answered : Rcopy.isAsking network.rcopy.state = false)
      (joint : System.JointInv transfer
        ⟨session.child, network.rcopy, session.toClient, session.toServer⟩)
      (first : network.rcopy.state = .receiveFirstData →
        Rcopy.Fresh transfer fromFileName network.rcopy ∧ session.toServer = [])
      (others : ∀ position other, network.sessions[position]? = some other →
        position ≠ index → other.Unheard transfer)

/-- What the requests are and where they come from, whatever has become of them. -/
structure Asked (transfer : Transfer) (fromFileName : List UInt8) (network : Network) :
    Prop where
  waiting : MainServer.Waiting network.main
  requests : ∀ asked ∈ network.requests,
    asked.2 = request transfer.windowSize transfer.bufferSize fromFileName
  sockets : Sockets network

structure NetworkInv (transfer : Transfer) (fromFileName : List UInt8) (network : Network) :
    Prop where
  asked : Asked transfer fromFileName network
  phase : Phase transfer fromFileName network

/-! ### rcopy -/

section Rcopy

variable {poll : Option Datagram} {stack : Packet}

theorem send_nil (network : Network) : network.send [] = network := by
  obtain ⟨main, rcopy, socket, server, requests, sessions⟩ := network
  cases server with
  | none => simp only [send, List.map_nil, List.append_nil]
  | some index =>
      have same : (fun session : Session => { session with
          toServer := session.toServer ++ [] }) = id := by
        funext session
        simp only [List.append_nil, id]
      simp only [send, same, List.modify_id]

theorem asking_rcopyMove (asked : Asked transfer fromFileName network)
    (asks : Rcopy.isAsking network.rcopy.state = true ∨ network.rcopy.state = .kill)
    (fresh : Rcopy.Fresh transfer fromFileName network.rcopy)
    (server : network.rcopy.state = .sendFilename → network.server = none)
    (unheard : ∀ session ∈ network.sessions, session.Unheard transfer)
    (answer : ∀ datagram, poll = some datagram → ¬Rcopy.RejectsResponse datagram →
      ∃ index session, network.sessions[index]? = some session ∧
        session.socket = network.socket ∧ network.server = some index ∧
        session.toServer = [] ∧ System.JointInv transfer
          ⟨session.child, Session.idle transfer, session.toClient, []⟩) :
    NetworkInv transfer fromFileName (network.rcopyMove poll stack) := by
  have pass := Rcopy.asking_pass ⟨poll, stack⟩ asks
  have after := fresh.asks ⟨poll, stack⟩ asks
  have still : ∀ later : Rcopy.Process, later.state ≠ .sendFilename →
      Sockets { network with rcopy := later } :=
    fun later notSending =>
      asked.sockets.of_same rfl rfl (fun sends => absurd sends notSending)
  unfold rcopyMove
  generalize Rcopy.stateMachine network.rcopy ⟨poll, stack⟩ = later at pass after ⊢
  cases pass with
  | sends atState under =>
      have stays : Rcopy.reopens network.rcopy = false := by
        simp [Rcopy.reopens, atState]
      simp only [stays, Bool.false_eq_true, if_false, Rcopy.sendFileName, Rcopy.safeSendto,
        List.drop_left, send, server atState, List.map_cons, List.map_nil]
      refine ⟨⟨asked.waiting, ?_, asked.sockets.asks atState ?_ rfl (by simp)⟩,
        .asking (.inl rfl) after (by simp) unheard⟩
      · intro request member
        rcases List.mem_append.mp member with old | new
        · exact asked.requests request old
        · rw [List.mem_singleton.mp new, Network.request, fresh.fromFileName_eq,
            fresh.windowSize_eq, fresh.session.holds.statics.bufferSize_eq]
      · simp only [sockets, List.map_append, List.map_cons, List.map_nil, List.append_assoc,
          List.singleton_append]
        exact List.perm_middle
  | reopens atState under =>
      have reopened : Rcopy.reopens network.rcopy = true := by
        simp [Rcopy.reopens, atState, under]
      simp only [reopened, if_true]
      exact ⟨⟨asked.waiting, asked.requests, asked.sockets.reopens rfl rfl⟩,
        .asking (.inl rfl) after (fun _ => rfl) unheard⟩
  | ends expired =>
      have stays : Rcopy.reopens network.rcopy = false := by
        rcases expired with killed | expired
        · simp [Rcopy.reopens, killed]
        · simp [Rcopy.reopens, Nat.not_lt.mpr expired]
      simp only [stays, Bool.false_eq_true, if_false, List.drop_length, send_nil]
      exact ⟨⟨asked.waiting, asked.requests, still _ (by simp)⟩,
        .asking (.inr rfl) after (by simp) unheard⟩
  | refused atState packet state next =>
      have stays : Rcopy.reopens network.rcopy = false := by
        simp [Rcopy.reopens, atState]
      simp only [stays, Bool.false_eq_true, if_false, List.drop_length, send_nil]
      rcases next with rfl | rfl
      · exact ⟨⟨asked.waiting, asked.requests, still _ (by simp)⟩,
          .asking (.inl rfl) after (by simp) unheard⟩
      · exact ⟨⟨asked.waiting, asked.requests, still _ (by simp)⟩,
          .asking (.inr rfl) after (by simp) unheard⟩
  | accepted atState datagram polled accepts found packet =>
      have stays : Rcopy.reopens network.rcopy = false := by
        simp [Rcopy.reopens, atState]
      simp only [stays, Bool.false_eq_true, if_false, List.drop_length, send_nil]
      obtain ⟨index, session, isSession, socket, from_, silent, joint⟩ :=
        answer datagram polled accepts
      have here : System.JointInv transfer
          ⟨session.child, _, session.toClient, []⟩ := Session.joint_of_fresh joint rfl after.session
      refine ⟨⟨asked.waiting, asked.requests, still _ (by simp)⟩,
        .answered index session isSession socket from_ rfl (silent ▸ here)
          (fun _ => ⟨after, silent⟩) ?_⟩
      intro position other isOther _
      exact unheard other (List.mem_of_getElem? isOther)

/-- A session goes on, or rcopy asks again before it has received anything. -/
theorem answered_rcopyMove (asked : Asked transfer fromFileName network) {index : Nat}
    {session : Session} (found : network.sessions[index]? = some session)
    (socket : session.socket = network.socket) (server : network.server = some index)
    (answered : Rcopy.isAsking network.rcopy.state = false)
    (joint : System.JointInv transfer
      ⟨session.child, network.rcopy, session.toClient, session.toServer⟩)
    (first : network.rcopy.state = .receiveFirstData →
      Rcopy.Fresh transfer fromFileName network.rcopy ∧ session.toServer = [])
    (others : ∀ position other, network.sessions[position]? = some other →
      position ≠ index → other.Unheard transfer)
    (allowed : Rcopy.Allowed transfer
      (Rcopy.belowArrival transfer session.child.window.current) network.rcopy ⟨poll, stack⟩) :
    NetworkInv transfer fromFileName (network.rcopyMove poll stack) := by
  have next := (System.rcopyMove_step joint allowed (fun _ member => member)).2
  have stays : Rcopy.reopens network.rcopy = false := by
    unfold Rcopy.reopens
    cases atState : network.rcopy.state with
    | sendFilenameTimeout =>
        rw [atState] at answered
        cases answered
    | _ => rfl
  rcases Rcopy.stateMachine_answered ⟨poll, stack⟩
    joint.rcopy.holds.control.modes answered with ⟨still, notFirst⟩ | ⟨waiting, timedOut, moved⟩
  · simp only [rcopyMove, stays, Bool.false_eq_true, if_false, send, server]
    generalize sends : (Rcopy.stateMachine network.rcopy ⟨poll, stack⟩).statics.sent.drop
      network.rcopy.statics.sent.length = sent
    have told : (System.rcopyMove ⟨session.child, network.rcopy, session.toClient,
        session.toServer⟩ poll stack session.toClient).toServer = session.toServer ++ sent :=
      congrArg (session.toServer ++ ·) sends
    refine ⟨⟨asked.waiting, asked.requests, asked.sockets.of_same ?_ rfl ?_⟩,
      .answered index { session with toServer := session.toServer ++ sent } ?_ socket rfl still
        (told ▸ next) (fun isFirst => absurd isFirst notFirst) ?_⟩
    · exact congrArg (network.requests.map Prod.fst ++ ·)
        (modify_sockets network.sessions index fun _ => rfl)
    · intro sends
      rw [sends] at still
      cases still
    · rw [List.getElem?_modify_eq, found]
      rfl
    · intro position other isOther elsewhere
      rw [List.getElem?_modify_ne _ _ elsewhere.symm] at isOther
      exact others position other isOther elsewhere
  · obtain ⟨fresh, silent⟩ := first waiting
    have again := fresh.asks_again ⟨poll, stack⟩ waiting timedOut (by rw [moved]; rfl)
    rw [moved] at again
    have idle : System.JointInv transfer
        ⟨session.child, Session.idle transfer, session.toClient, []⟩ := by
      rw [silent] at joint
      refine Session.joint_of_fresh joint ?_ (Rcopy.start_session transfer [])
      exact Nat.le_antisymm fresh.session.expected_le fresh.session.holds.statics.expected_pos
    simp only [rcopyMove, stays, Bool.false_eq_true, if_false, moved, List.drop_length, send_nil]
    refine ⟨⟨asked.waiting, asked.requests, asked.sockets.of_same rfl rfl (by simp)⟩,
      .asking (.inl rfl) again (by simp) ?_⟩
    intro other member
    obtain ⟨position, isOther⟩ := List.mem_iff_getElem?.mp member
    by_cases here : position = index
    · obtain rfl : session = other := Option.some.inj (found.symm.trans (here ▸ isOther))
      exact ⟨silent, [], session.toClient, rfl, .inl rfl, idle⟩
    · exact others position other isOther here

theorem mem_modify {sessions : List Session} {index : Nat} {change : Session → Session}
    {session : Session} (member : session ∈ sessions.modify index change) :
    session ∈ sessions ∨ ∃ old, sessions[index]? = some old ∧ session = change old := by
  obtain ⟨position, found⟩ := List.mem_iff_getElem?.mp member
  by_cases here : index = position
  · subst here
    rw [List.getElem?_modify_eq] at found
    obtain ⟨old, isOld, changed⟩ := Option.map_eq_some_iff.mp found
    exact .inr ⟨old, isOld, changed.symm⟩
  · rw [List.getElem?_modify_ne _ _ here] at found
    exact .inl (List.mem_of_getElem? found)

theorem Asked.modify (asked : Asked transfer fromFileName network) (index : Nat)
    {change : Session → Session} (same : ∀ session, (change session).socket = session.socket)
    (server : Option Nat) :
    Asked transfer fromFileName
      { network with server, sessions := network.sessions.modify index change } where
  waiting := asked.waiting
  requests := asked.requests
  sockets := asked.sockets.of_same
    (congrArg (network.requests.map Prod.fst ++ ·) (modify_sockets network.sessions index same))
    rfl (fun sends => sends)

theorem receive_inv (inv : NetworkInv transfer fromFileName network) {index : Nat}
    {session : Session} (polling : Rcopy.polls network.rcopy = true)
    (found : network.sessions[index]? = some session)
    (socket : session.socket = network.socket) {datagram : Datagram}
    (contents : session.toClient.head? = some datagram ∨
      if network.rcopy.state = .waitForFilenameAck then Rcopy.RejectsResponse datagram
      else Rcopy.Rejected transfer.bufferSize datagram) :
    NetworkInv transfer fromFileName
      ((network.receiveFrom index).rcopyMove (some datagram) stack) := by
  have asked : Asked transfer fromFileName (network.receiveFrom index) :=
    inv.asked.modify index (by intro _; rfl) (some index)
  have taken : (network.receiveFrom index).sessions[index]? =
      some { session with toClient := session.toClient.tail } := by
    rw [receiveFrom, List.getElem?_modify_eq, found]
    rfl
  cases inv.phase with
  | asking asks fresh server unheard =>
      have waiting : network.rcopy.state = .waitForFilenameAck := by
        cases atState : network.rcopy.state with
        | waitForFilenameAck => rfl
        | _ => simp_all [Rcopy.polls, Rcopy.isAsking]
      refine asking_rcopyMove asked asks fresh (fun sends => ?_) ?_ ?_
      · cases waiting.symm.trans sends
      · intro other member
        rcases mem_modify member with old | ⟨old, isOld, rfl⟩
        · exact unheard other old
        · exact (unheard old (List.mem_of_getElem? isOld)).tail
      · rintro _ ⟨rfl⟩ accepts
        rw [if_pos waiting] at contents
        have oldest := contents.resolve_right accepts
        have here := unheard session (List.mem_of_getElem? found)
        obtain ⟨answer, data, split, isAnswer, joint⟩ := here.toClient
        rcases isAnswer with rfl | rfl
        · rw [split, List.nil_append] at oldest
          have member := List.mem_of_mem_head? oldest
          exact absurd (Rcopy.rejectsResponse_of_isSent (joint.toClient _ member)) accepts
        · have rest : session.toClient.tail = data := by
            rw [split]
            rfl
          exact ⟨index, _, taken, socket, rfl, here.toServer, rest.symm ▸ joint⟩
  | answered position other isOther otherSocket server answered joint first others =>
      obtain rfl : index = position :=
        inv.asked.sockets.same_session found isOther (socket.trans otherSocket.symm)
      obtain rfl : session = other := Option.some.inj (found.symm.trans isOther)
      have remain : System.JointInv transfer
          ⟨session.child, network.rcopy, session.toClient.tail, session.toServer⟩ :=
        joint.of_toClient fun _ member => List.mem_of_mem_tail member
      refine answered_rcopyMove asked taken socket rfl answered remain first ?_ ?_
      · intro position other isOther elsewhere
        rw [receiveFrom, List.getElem?_modify_ne _ _ elsewhere.symm] at isOther
        exact others position other isOther elsewhere
      · rintro _ _ ⟨rfl⟩
        rcases contents with oldest | rejected
        · have behind : session.child.window.lower ≤ network.rcopy.statics.expected :=
            joint.counters.base_le
          exact Rcopy.arrives_of_isSent (joint.toClient _ (List.mem_of_mem_head? oldest))
            joint.server.window.current_le
            (Nat.le_trans joint.counters.near (Nat.add_le_add_right behind _))
        · rw [if_neg] at rejected
          · exact .inr (.inl rejected)
          · intro waiting
            rw [waiting] at answered
            cases answered

end Rcopy

/-! ### The children -/

theorem session_inv (inv : NetworkInv transfer fromFileName network) {index : Nat}
    {session : Session} {action : System.Action} (found : network.sessions[index]? = some session)
    (enabled : session.Enabled action) :
    NetworkInv transfer fromFileName
      { network with
        sessions := network.sessions.modify index (Session.move network.rcopy action) } := by
  refine ⟨inv.asked.modify index (by intro _; rfl) network.server, ?_⟩
  cases inv.phase with
  | asking asks fresh server unheard =>
      refine .asking asks fresh server fun other member => ?_
      rcases mem_modify member with old | ⟨old, isOld, rfl⟩
      · exact unheard other old
      · obtain rfl : session = old := Option.some.inj (found.symm.trans isOld)
        exact (unheard session (List.mem_of_getElem? found)).move enabled _
  | answered position answering isAnswering socket server answered joint first others =>
      by_cases here : index = position
      · subst here
        obtain rfl : session = answering := Option.some.inj (found.symm.trans isAnswering)
        refine .answered index (session.move network.rcopy action) ?_ socket server answered
          (Session.move_joint joint enabled) ?_ ?_
        · rw [List.getElem?_modify_eq, found]
          rfl
        · exact fun isFirst => ⟨(first isFirst).1, Session.move_silent enabled (first isFirst).2⟩
        · intro position other isOther elsewhere
          rw [List.getElem?_modify_ne _ _ elsewhere.symm] at isOther
          exact others position other isOther elsewhere
      · refine .answered position answering ?_ socket server answered joint first ?_
        · rw [List.getElem?_modify_ne _ _ here, isAnswering]
        · intro place other isOther elsewhere
          by_cases there : index = place
          · subst there
            rw [List.getElem?_modify_eq, found] at isOther
            obtain rfl := Option.some.inj isOther
            exact (others index session found elsewhere).move enabled _
          · rw [List.getElem?_modify_ne _ _ there] at isOther
            exact others place other isOther elsewhere

/-! ### The main socket -/

theorem Phase.fork (phase : Phase transfer fromFileName network) (main : MainServer.Main)
    (requests : List (Nat × Datagram)) {forked : List Session}
    (unheard : ∀ session ∈ forked, session.Unheard transfer) :
    Phase transfer fromFileName
      { network with main, requests, sessions := network.sessions ++ forked } := by
  cases phase with
  | asking asks fresh server before =>
      refine .asking asks fresh server fun session member => ?_
      exact (List.mem_append.mp member).elim (before session) (unheard session)
  | answered index session found socket server answered joint first others =>
      have present : index < network.sessions.length := (List.getElem?_eq_some_iff.mp found).1
      refine .answered index session ?_ socket server answered joint first ?_
      · rw [List.getElem?_append_left present, found]
      · intro position other isOther elsewhere
        by_cases old : position < network.sessions.length
        · rw [List.getElem?_append_left old] at isOther
          exact others position other isOther elsewhere
        · rw [List.getElem?_append_right (Nat.not_lt.mp old)] at isOther
          exact unheard other (List.mem_of_getElem? isOther)

theorem Phase.unchanged (phase : Phase transfer fromFileName network) (main : MainServer.Main)
    (requests : List (Nat × Datagram)) :
    Phase transfer fromFileName { network with main, requests } := by
  have forked := phase.fork main requests (fun _ (absent : _ ∈ []) => by cases absent)
  rwa [List.append_nil] at forked

section Main

variable {files : List UInt8 → Option (List UInt8)} {index socket : Nat} {datagram : Datagram}

theorem served_sockets (asked : network.requests[index]? = some (socket, datagram))
    {forked : List Session} (answers : (forked.map Session.socket).Sublist [socket]) :
    (sockets { network with
      requests := network.requests.eraseIdx index
      sessions := network.sessions ++ forked }).Subperm network.sockets := by
  obtain ⟨present, isRequest⟩ := List.getElem?_eq_some_iff.mp asked
  have whole : (socket :: (network.requests.eraseIdx index).map Prod.fst).Perm
      (network.requests.map Prod.fst) := by
    have perm := (List.getElem_cons_eraseIdx_perm present).map Prod.fst
    rw [isRequest] at perm
    exact perm
  have fewer : (sockets { network with
      requests := network.requests.eraseIdx index
      sessions := network.sessions ++ forked }).Subperm
        ((network.requests.eraseIdx index).map Prod.fst ++
          (network.sessions.map Session.socket ++ [socket])) := by
    simp only [sockets, List.map_append]
    exact ((answers.append_left _).append_left _).subperm
  refine fewer.trans (List.Perm.subperm ?_)
  rw [← List.append_assoc]
  refine (List.perm_append_singleton _ _).trans ?_
  rw [← List.cons_append]
  exact whole.append_right _

theorem serve_inv (inv : NetworkInv transfer fromFileName network)
    (asked : network.requests[index]? = some (socket, datagram)) {received : Datagram}
    (fork : ∀ child ∈ MainServer.forked files network.main received,
      Session.Unheard transfer
        { socket
          child := MainServer.childOf child
          toClient := child.sent.drop network.main.sent.length
          toServer := [] }) :
    NetworkInv transfer fromFileName
      (serve files { network with requests := network.requests.eraseIdx index } socket
        received) := by
  have requests : ∀ other ∈ network.requests.eraseIdx index,
      other.2 = request transfer.windowSize transfer.bufferSize fromFileName :=
    fun other member => inv.asked.requests other ((List.eraseIdx_sublist _ _).subset member)
  refine ⟨⟨inv.asked.waiting.served received, requests,
    inv.asked.sockets.of_subperm (served_sockets asked ?_) rfl (fun sends => sends)⟩,
    inv.phase.fork _ _ ?_⟩
  · cases MainServer.forked files network.main received with
    | none => exact List.nil_sublist _
    | some child => exact .refl _
  · intro session member
    simp only [Option.toList_map, List.mem_map, Option.mem_toList] at member
    obtain ⟨child, isChild, rfl⟩ := member
    exact fork child isChild

end Main

/-! ### Every step -/

section Step

variable {files : List UInt8 → Option (List UInt8)} {action : Action}

theorem step_inv (named : files fromFileName = some transfer.file)
    (nameMax : fromFileName.length ≤ filenameMaxLen) (noNul : 0 ∉ fromFileName)
    (inv : NetworkInv transfer fromFileName network)
    (enabled : Enabled transfer.bufferSize network action) :
    NetworkInv transfer fromFileName (step files network action) := by
  cases action with
  | rcopyStep stack =>
      cases inv.phase with
      | asking asks fresh server unheard =>
          exact asking_rcopyMove inv.asked asks fresh server unheard
            (fun _ polled => by cases polled)
      | answered index session found socket server answered joint first others =>
          exact answered_rcopyMove inv.asked found socket server answered joint first others
            (fun _ _ polled => by cases polled)
  | rcopyReceive index stack =>
      obtain ⟨polling, session, found, socket, waiting⟩ := enabled
      obtain ⟨oldest, rest, split⟩ := List.exists_cons_of_ne_nil waiting
      have head : (network.sessions[index]?.bind fun session => session.toClient.head?) =
          some oldest := by
        rw [Option.mem_def.mp found, Option.bind_some, split, List.head?_cons]
      rw [step, head]
      exact receive_inv inv polling found socket (.inl (by rw [split, List.head?_cons]))
  | rcopyReceiveDamaged index damaged stack =>
      obtain ⟨⟨polling, session, found, socket, waiting⟩, rejected⟩ := enabled
      exact receive_inv inv polling found socket (.inr rejected)
  | mainReceive index =>
      cases asked : network.requests[index]? with
      | none => simpa only [step, asked] using inv
      | some pair =>
          obtain ⟨socket, datagram⟩ := pair
          have isRequest : datagram = _ := inv.asked.requests _ (List.mem_of_getElem? asked)
          have room := transfer.packetCount_add_lt
          obtain ⟨child, forks, client, seqNum, sent⟩ :=
            MainServer.forked_request files inv.asked.waiting
              (show transfer.windowSize < 2 ^ 32 by omega) transfer.bufferSize_max nameMax noNul
          rw [named] at client sent
          simp only [step, asked]
          refine serve_inv inv asked fun other isOther => ?_
          obtain rfl : child = other := by
            rw [isRequest, forks] at isOther
            exact Option.some.inj isOther
          rw [MainServer.childOf_eq client seqNum, sent]
          exact ⟨rfl, [response true], [], rfl, .inr rfl, Session.start_joint transfer⟩
  | mainReceiveDamaged index damaged =>
      cases asked : network.requests[index]? with
      | none => simpa only [step, asked] using inv
      | some pair =>
          simp only [step, asked]
          refine serve_inv inv asked fun child isChild => ?_
          rw [MainServer.forked_eq inv.asked.waiting, if_neg enabled] at isChild
          cases isChild
  | mainReceiveOther datagram =>
      exact ⟨⟨inv.asked.waiting.served datagram, inv.asked.requests,
        inv.asked.sockets.of_same rfl rfl (fun sends => sends)⟩, inv.phase.unchanged _ _⟩
  | loseRequest index =>
      have fewer : (network.requests.eraseIdx index).Sublist network.requests :=
        List.eraseIdx_sublist _ _
      refine ⟨⟨inv.asked.waiting, fun asked member =>
        inv.asked.requests asked (fewer.subset member), ?_⟩, inv.phase.unchanged _ _⟩
      exact inv.asked.sockets.of_subperm ((fewer.map Prod.fst).append_right _).subperm rfl
        (fun sends => sends)
  | session index action =>
      obtain ⟨session, found, enabled⟩ := enabled
      exact session_inv inv found enabled

end Step

end Network

end CPE464.Project3
