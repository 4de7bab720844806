/-
rcopy and the server with the error library are rcopy and the server over a bad network.

Every step with the libraries is a step without them, in which the network has done the damage,
followed by the loss of what the libraries have dropped.
-/

import CPE464.Project3.NoticedDamage
import CPE464.Project3.WholeTransfer

namespace CPE464.Project3

open General

/-! ### The two networks -/

def SameRequest (wire sent : Nat × Datagram) : Prop :=
  wire.1 = sent.1 ∧ Wired RejectsRequest wire.2 sent.2

structure SameSession (bufferSize : Nat) (wire sent : Session) : Prop where
  socket : wire.socket = sent.socket
  child : wire.child = sent.child
  toClient : Channel (RejectsData bufferSize) wire.toClient sent.toClient
  toServer : Channel System.ServerRejects wire.toServer sent.toServer

/-- The programs are the same, and what is on the wire is what has been sent or is rejected. -/
structure Simulates (bufferSize : Nat) (lossy : LossyNetwork) (network : Network) : Prop where
  main : network.main = lossy.network.main
  rcopy : network.rcopy = lossy.network.rcopy
  socket : network.socket = lossy.network.socket
  server : network.server = lossy.network.server
  requests : List.Forall₂ SameRequest lossy.network.requests network.requests
  sessions : List.Forall₂ (SameSession bufferSize) lossy.network.sessions network.sessions
  rcopyLibrary : Library.LibraryInv lossy.rcopyLibrary
  rcopyRunning : lossy.rcopyLibrary.exited = false
  mainLibrary : Library.LibraryInv lossy.mainLibrary
  mainRunning : lossy.mainLibrary.exited = false
  childLibraries : ∀ index, Library.LibraryInv (lossy.childLibraries index)

namespace Network

variable {files : List UInt8 → Option (List UInt8)} {bufferSize : Nat} {network : Network}

/-! ### Losses on the way -/

theorem modify_found {sessions : List Session} {index : Nat} {session : Session}
    (found : sessions[index]? = some session) (change : Session → Session) :
    sessions.modify index change = sessions.set index (change session) := by
  apply List.ext_getElem?
  intro position
  by_cases here : index = position
  · subst here
    rw [List.getElem?_modify_eq, found,
      List.getElem?_set_self (List.getElem?_eq_some_iff.mp found).1]
    rfl
  · rw [List.getElem?_modify_ne _ _ here, List.getElem?_set_ne here]

theorem set_found {sessions : List Session} {index : Nat} {session : Session}
    (found : sessions[index]? = some session) : sessions.set index session = sessions := by
  obtain ⟨inside, rfl⟩ := List.getElem?_eq_some_iff.mp found
  exact List.set_getElem_self inside

def withRequests (network : Network) (requests : List (Nat × Datagram)) : Network :=
  { network with requests }

def withSession (network : Network) (index : Nat) (session : Session) : Network :=
  { network with sessions := network.sessions.set index session }

theorem withSession_found {index : Nat} {session : Session}
    (found : network.sessions[index]? = some session) :
    network.withSession index session = network := by
  rw [withSession, set_found found]

theorem send_main (unset : network.server = none) (datagrams : List Datagram) :
    network.send datagrams =
      network.withRequests (network.requests ++ datagrams.map (Prod.mk network.socket)) := by
  simp only [send, unset, withRequests]

theorem send_child {index : Nat} (set : network.server = some index) {session : Session}
    (found : network.sessions[index]? = some session) (datagrams : List Datagram) :
    network.send datagrams = network.withSession index
      { session with toServer := session.toServer ++ datagrams } := by
  simp only [send, set, modify_found found, withSession]

theorem send_nobody {index : Nat} (set : network.server = some index)
    (missing : network.sessions[index]? = none) (datagrams : List Datagram) :
    network.send datagrams = network := by
  have same := List.modify_eq_self
    (f := fun session : Session => { session with toServer := session.toServer ++ datagrams })
    (List.getElem?_eq_none_iff.mp missing)
  unfold send
  rw [set]
  simp only [same, ← set]

abbrev Onward (files : List UInt8 → Option (List UInt8)) (bufferSize : Nat) :
    Network → Network → Prop :=
  Reaches (step files) (Enabled bufferSize)

theorem lose_requests {kept : List (Nat × Datagram)} (fewer : kept.Sublist network.requests) :
    Onward files bufferSize network (network.withRequests kept) :=
  reaches_of_sublist network.withRequests Action.loseRequest (fun _ _ => trivial)
    (fun _ _ => rfl) fewer

theorem lose_inSession {index : Nat} {session : Session}
    (found : network.sessions[index]? = some session) (put : List Datagram → Session)
    (lose : Nat → System.Action)
    (permitted : ∀ queue position, (put queue).Enabled (lose position))
    (erases : ∀ queue position, (put queue).move network.rcopy (lose position) =
      put (queue.eraseIdx position))
    {kept queue : List Datagram} (fewer : kept.Sublist queue) (same : put queue = session) :
    Onward files bufferSize network (network.withSession index (put kept)) := by
  have inside := (List.getElem?_eq_some_iff.mp found).1
  have here : ∀ other, (network.withSession index other).sessions[index]? = some other :=
    fun other => List.getElem?_set_self inside
  have loses : Onward files bufferSize (network.withSession index (put queue))
      (network.withSession index (put kept)) :=
    reaches_of_sublist (fun queue => network.withSession index (put queue))
      (fun position => Action.session index (lose position))
      (fun queue position => ⟨_, here _, permitted queue position⟩)
      (fun queue position => by
        simp only [step, modify_found (here _)]
        simp only [withSession, List.set_set, erases]) fewer
  simp only [same, withSession_found found] at loses
  exact loses

theorem lose_toClient {index : Nat} {session : Session}
    (found : network.sessions[index]? = some session) {kept : List Datagram}
    (fewer : kept.Sublist session.toClient) :
    Onward files bufferSize network
      (network.withSession index { session with toClient := kept }) :=
  lose_inSession found (fun queue => { session with toClient := queue }) .loseToClient
    (fun _ _ => trivial) (fun _ _ => rfl) fewer rfl

theorem lose_toServer {index : Nat} {session : Session}
    (found : network.sessions[index]? = some session) {kept : List Datagram}
    (fewer : kept.Sublist session.toServer) :
    Onward files bufferSize network
      (network.withSession index { session with toServer := kept }) :=
  lose_inSession found (fun queue => { session with toServer := queue }) .loseToServer
    (fun _ _ => trivial) (fun _ _ => rfl) fewer rfl

end Network

namespace Simulates

variable {files : List UInt8 → Option (List UInt8)} {transfer : Transfer}
  {fromFileName : List UInt8} {lossy : LossyNetwork} {network : Network} {bufferSize : Nat}

/-! ### rcopy -/

section Rcopy

/-- What an rcopy step with this poll result sends: the request to the server, or control
messages. -/
inductive RcopySends (windowSize bufferSize : Nat) (fromFileName : List UInt8)
    (network : Network) (later : Rcopy.Process) : Prop
  | asks (server : network.server = none)
      (sent : later.statics.sent = network.rcopy.statics.sent ++
        [Network.request windowSize bufferSize fromFileName])
  | controls (sends : Rcopy.SendsControls network.rcopy.statics later.statics)

theorem rcopySends (inv : Network.NetworkInv transfer fromFileName network)
    (input : Rcopy.Input) :
    RcopySends transfer.windowSize transfer.bufferSize fromFileName network
      (Rcopy.stateMachine network.rcopy input) := by
  obtain ⟨bound, session⟩ := inv.session
  by_cases asking : network.rcopy.state = .sendFilename
  · cases inv.phase with
    | answered _ _ _ _ _ answered =>
        rw [asking] at answered
        cases answered
    | asking asks fresh server unheard =>
        have pass := Rcopy.asking_pass input asks
        generalize Rcopy.stateMachine network.rcopy input = later at pass ⊢
        cases pass with
        | sends atState under =>
            refine .asks (server asking) ?_
            simp only [Rcopy.sendFileName, Rcopy.safeSendto, Network.request,
              fresh.fromFileName_eq, fresh.windowSize_eq,
              fresh.session.holds.statics.bufferSize_eq]
        | reopens | ends | refused | accepted =>
            exact .controls (Rcopy.sendsControls_of_same rfl)
  · exact .controls (Rcopy.stateMachine_sendsControls session.holds.control.modes input
      session.holds.statics.expected_lt asking)

/-- What is sent reaches the one network or the other, all of it or in part. -/
theorem send_simulates (simulates : Simulates bufferSize lossy network)
    {sent wires : List Datagram}
    (toMain : network.server = none →
      ∃ kept, kept.Sublist sent ∧ Channel RejectsRequest wires kept)
    (toChild : network.server ≠ none →
      ∃ kept, kept.Sublist sent ∧ Channel System.ServerRejects wires kept) :
    ∃ finish, Network.Onward files bufferSize (network.send sent) finish ∧
      Simulates bufferSize { lossy with network := lossy.network.send wires } finish := by
  cases isServer : network.server with
  | none =>
      obtain ⟨kept, fewer, channel⟩ := toMain isServer
      rw [Network.send_main isServer, Network.send_main (simulates.server.symm.trans isServer)]
      have lost : (network.requests ++ kept.map (Prod.mk network.socket)).Sublist
          (network.withRequests
            (network.requests ++ sent.map (Prod.mk network.socket))).requests :=
        (List.Sublist.refl network.requests).append (fewer.map (Prod.mk network.socket))
      refine ⟨_, Network.lose_requests lost, ?_⟩
      refine { simulates with requests := List.rel_append simulates.requests ?_ }
      rw [List.forall₂_map_left_iff, List.forall₂_map_right_iff]
      exact channel.imp fun wire sent wired => ⟨simulates.socket.symm, wired⟩
  | some index =>
      obtain ⟨kept, fewer, channel⟩ := toChild (isServer ▸ Option.some_ne_none index)
      have lossyServer := simulates.server.symm.trans isServer
      cases found : lossy.network.sessions[index]? with
      | none =>
          have missing := related_missing simulates.sessions found
          rw [Network.send_nobody isServer missing, Network.send_nobody lossyServer found]
          exact ⟨network, .refl network, simulates⟩
      | some session =>
          obtain ⟨original, isOriginal, same⟩ := related_found simulates.sessions found
          have inside := (List.getElem?_eq_some_iff.mp isOriginal).1
          rw [Network.send_child isServer isOriginal, Network.send_child lossyServer found]
          refine ⟨_, Network.lose_toServer (List.getElem?_set_self inside)
            ((List.Sublist.refl original.toServer).append fewer), ?_⟩
          simp only [Network.withSession, List.set_set]
          exact { simulates with
            sessions := related_set simulates.sessions index
              { same with toServer := List.rel_append same.toServer channel } }

theorem request_ne_nil (windowSize bufferSize : Nat) (fromFileName : List UInt8) :
    Network.request windowSize bufferSize fromFileName ≠ [] := by
  have length : (Network.request windowSize bufferSize fromFileName).length =
      min (filenamePacketSsize fromFileName.length) packetMaxSsize := by
    rw [Network.request, List.length_take, Packet.size_eq]
  intro empty
  rw [empty, filenamePacketSsize_eq] at length
  simp only [List.length_nil, packetMaxSsize, packetHeaderSsize] at length
  omega

theorem RcopySends.noticed {windowSize size : Nat} (nameMax : fromFileName.length ≤ filenameMaxLen)
    {later : Rcopy.Process} (sends : RcopySends windowSize size fromFileName network later)
    {sent : List Datagram}
    (isSent : later.statics.sent.drop network.rcopy.statics.sent.length = sent) :
    [] ∉ sent ∧
      (∀ datagram ∈ sent, ∀ damaged, PacketManager.Flipped datagram damaged →
        RejectsRequest damaged) ∧
      (network.server ≠ none → ∀ datagram ∈ sent, ∀ damaged,
        PacketManager.Flipped datagram damaged → System.ServerRejects damaged) := by
  cases sends with
  | asks server grown =>
      rw [grown, List.drop_left] at isSent
      rw [← isSent]
      refine ⟨fun empty => ?_, fun datagram member damaged flipped =>
        flipped_request flipped nameMax (List.mem_singleton.mp member),
        fun set => absurd server set⟩
      exact request_ne_nil _ _ _ (List.mem_singleton.mp empty).symm
  | controls sends =>
      obtain ⟨messages, grown, each⟩ := sends
      rw [grown, List.drop_left] at isSent
      rw [← isSent]
      refine ⟨fun empty => ?_, fun datagram member damaged flipped => ?_,
        fun _ datagram member damaged flipped => ?_⟩
      · obtain ⟨flag, number, control⟩ := each [] empty
        cases control.length_eq
      · obtain ⟨flag, number, control⟩ := each datagram member
        exact (flipped_control flipped control).2
      · obtain ⟨flag, number, control⟩ := each datagram member
        exact (flipped_control flipped control).1

theorem rcopyMove_simulates (simulates : Simulates bufferSize lossy network)
    {windowSize size : Nat} (nameMax : fromFileName.length ≤ filenameMaxLen)
    {poll : Option Datagram} {stack : Packet}
    (sends : RcopySends windowSize size fromFileName network
      (Rcopy.stateMachine network.rcopy ⟨poll, stack⟩)) :
    ∃ finish, Network.Onward files bufferSize (network.rcopyMove poll stack) finish ∧
      Simulates bufferSize (lossy.rcopyMove poll stack) finish := by
  unfold Network.rcopyMove LossyNetwork.rcopyMove
  rw [← simulates.rcopy]
  generalize Rcopy.stateMachine network.rcopy ⟨poll, stack⟩ = later at sends ⊢
  cases reopened : Rcopy.reopens network.rcopy with
  | true =>
      refine ⟨_, .refl _, ?_⟩
      simp only [if_true, simulates.socket]
      exact { simulates with rcopy := rfl, socket := rfl, server := rfl }
  | false =>
      simp only [Bool.false_eq_true, if_false]
      generalize isSent : later.statics.sent.drop network.rcopy.statics.sent.length = sent
      obtain ⟨nonempty, main, child⟩ := sends.noticed nameMax isSent
      have passed := Library.sendAll_sent simulates.rcopyLibrary simulates.rcopyRunning main
      have running : (lossy.rcopyLibrary.sendAll sent).exited = false := by
        rw [← Bool.not_eq_true, passed.exited]
        exact nonempty
      have moved : Simulates bufferSize
          { lossy with
            network := { lossy.network with rcopy := later }
            rcopyLibrary := lossy.rcopyLibrary.sendAll sent } { network with rcopy := later } :=
        { simulates with rcopy := rfl, rcopyLibrary := passed.inv, rcopyRunning := running }
      exact moved.send_simulates (fun _ => passed.wires) fun set =>
        (Library.sendAll_sent simulates.rcopyLibrary simulates.rcopyRunning (child set)).wires

theorem receiveFrom_simulates (simulates : Simulates bufferSize lossy network) (index : Nat) :
    Simulates bufferSize { lossy with network := lossy.network.receiveFrom index }
      (network.receiveFrom index) := by
  refine { simulates with server := rfl, sessions := ?_ }
  unfold Network.receiveFrom
  cases found : lossy.network.sessions[index]? with
  | none =>
      have missing := related_missing simulates.sessions found
      rw [List.modify_eq_self (List.getElem?_eq_none_iff.mp found),
        List.modify_eq_self (List.getElem?_eq_none_iff.mp missing)]
      exact simulates.sessions
  | some session =>
      obtain ⟨original, isOriginal, same⟩ := related_found simulates.sessions found
      rw [Network.modify_found found, Network.modify_found isOriginal]
      exact related_set simulates.sessions index
        { same with toClient := related_tail same.toClient }

/-- rcopy receives what is on the wire, which is what was sent or what the network may have made
of it. -/
theorem receive_simulates (simulates : Simulates bufferSize lossy network)
    (inv : Network.NetworkInv transfer fromFileName network)
    (nameMax : fromFileName.length ≤ filenameMaxLen) {index : Nat} {datagram : Datagram}
    (stack : Packet) (arrives : lossy.network.Arrives index)
    (contents : (lossy.network.sessions[index]?.bind fun session => session.toClient.head?) =
        some datagram ∨
      if lossy.network.rcopy.state = .waitForFilenameAck then Rcopy.RejectsResponse datagram
      else Rcopy.Rejected bufferSize datagram) :
    ∃ finish, Network.Onward files bufferSize network finish ∧
      Simulates bufferSize
        ({ lossy with network := lossy.network.receiveFrom index }.rcopyMove (some datagram) stack)
        finish := by
  obtain ⟨polling, session, found, socket, waiting⟩ := arrives
  obtain ⟨original, isOriginal, same⟩ := related_found simulates.sessions found
  have notAsking : network.rcopy.state ≠ .sendFilename := by
    intro asking
    simp [Rcopy.polls, ← simulates.rcopy, asking] at polling
  have sends : RcopySends 0 0 fromFileName (network.receiveFrom index)
      (Rcopy.stateMachine (network.receiveFrom index).rcopy ⟨some datagram, stack⟩) := by
    obtain ⟨bound, session⟩ := inv.session
    exact .controls (Rcopy.stateMachine_sendsControls session.holds.control.modes _
      session.holds.statics.expected_lt notAsking)
  obtain ⟨finish, onward, after⟩ : ∃ finish, Network.Onward files bufferSize
      ((network.receiveFrom index).rcopyMove (some datagram) stack) finish ∧ Simulates bufferSize
        ({ lossy with network := lossy.network.receiveFrom index }.rcopyMove (some datagram) stack)
        finish :=
    rcopyMove_simulates (simulates.receiveFrom_simulates index) nameMax sends
  refine ⟨finish, ?_, after⟩
  obtain ⟨wire, wires, isWires⟩ := List.exists_cons_of_ne_nil waiting
  have channel := same.toClient
  rw [isWires] at channel
  cases isSent : original.toClient with
  | nil =>
      rw [isSent] at channel
      cases channel
  | cons sent rest =>
      rw [isSent] at channel
      have arrives : network.Arrives index :=
        ⟨simulates.rcopy ▸ polling, original, isOriginal,
          same.socket.symm.trans (socket.trans simulates.socket.symm), isSent ▸ by simp⟩
      have damaged : (if network.rcopy.state = .waitForFilenameAck then
            Rcopy.RejectsResponse datagram else Rcopy.Rejected bufferSize datagram) →
          Network.Onward files bufferSize network finish := by
        intro rejected
        have first : Network.Onward files bufferSize network
            (Network.step files network (.rcopyReceiveDamaged index datagram stack)) :=
          .single _ ⟨arrives, rejected⟩
        exact first.trans onward
      rw [found, Option.bind_some, isWires, List.head?_cons, Option.some.injEq] at contents
      rcases contents with rfl | rejected
      · cases channel with
        | cons wired _ =>
            rcases wired with rfl | ⟨asData, asAnswer⟩
            · have step : Network.step files network (.rcopyReceive index stack) =
                  (network.receiveFrom index).rcopyMove (some wire) stack := by
                simp only [Network.step, isOriginal, Option.bind_some, isSent, List.head?_cons]
              have first : Network.Onward files bufferSize network
                  (Network.step files network (.rcopyReceive index stack)) := .single _ arrives
              rw [step] at first
              exact first.trans onward
            · refine damaged ?_
              split
              · exact asAnswer
              · exact asData
      · rw [← simulates.rcopy] at rejected
        exact damaged rejected

end Rcopy

/-! ### The server and its children -/

section Server

variable {server : Host} {clock : Nat → Int}

theorem configured_inv {library later : Library} (inv : Library.LibraryInv library)
    (configured : Library.Configured library later) : Library.LibraryInv later :=
  ⟨configured.noFlips inv.noFlips, configured.log ▸ inv.nonempty, configured.log ▸ inv.passes⟩

theorem unforked_simulates (simulates : Simulates bufferSize lossy network)
    (main : MainServer.Main) :
    Simulates bufferSize { lossy with network := { lossy.network with main } }
      { network with main } :=
  { simulates with main := rfl }

theorem serve_simulates (simulates : Simulates bufferSize lossy network)
    (positive : 0 < bufferSize) (small : bufferSize ≤ payloadMax) (socket : Nat)
    (datagram : Datagram)
    (answers : ∀ child ∈ MainServer.forked files network.main datagram, ∃ found,
      child.sent.drop network.main.sent.length = [Network.response found]) :
    ∃ finish,
      Network.Onward files bufferSize (Network.serve files network socket datagram) finish ∧
      Simulates bufferSize (lossy.serve files server clock socket datagram) finish := by
  unfold LossyNetwork.serve
  rw [← simulates.main]
  cases forks : MainServer.forked files network.main datagram with
  | none =>
      refine ⟨_, .refl _, ?_⟩
      simp only [Network.serve, forks, Option.map_none, Option.toList_none, List.append_nil]
      exact simulates.unforked_simulates _
  | some child =>
      obtain ⟨found, answer⟩ := answers child forks
      have forked : Library.LibraryInv (lossy.forkedLibrary server clock) :=
        configured_inv (configured_inv simulates.mainLibrary
          (Library.forkMod_configured lossy.mainLibrary true))
          (Library.sendErr_init_configured ..)
      have running : (lossy.forkedLibrary server clock).exited = false := simulates.mainRunning
      have noticed : ∀ datagram ∈ child.sent.drop network.main.sent.length, ∀ damaged,
          PacketManager.Flipped datagram damaged → RejectsData bufferSize damaged := by
        intro datagram member damaged flipped
        rw [answer] at member
        exact flipped_response flipped positive small (List.mem_singleton.mp member)
      have passed := Library.sendAll_sent forked running noticed
      obtain ⟨kept, fewer, channel⟩ := passed.wires
      have appended : (Network.serve files network socket datagram).sessions[
          network.sessions.length]? = some
            { socket
              child := MainServer.childOf child
              toClient := child.sent.drop network.main.sent.length
              toServer := [] } := by
        simp only [Network.serve, forks, Option.map_some, Option.toList_some,
          List.getElem?_concat_length]
      refine ⟨_, Network.lose_toClient appended fewer, ?_⟩
      have length := simulates.sessions.length_eq
      simp only [Network.serve, Network.withSession, forks, Option.map_some, Option.toList_some,
        List.set_append_right _ _ (Nat.le_refl _), Nat.sub_self, List.set_cons_zero]
      refine { simulates with
        main := rfl
        sessions := List.rel_append simulates.sessions (.cons ⟨rfl, rfl, channel, .nil⟩ .nil)
        mainLibrary := configured_inv simulates.mainLibrary
          (Library.forkMod_configured lossy.mainLibrary false)
        childLibraries := fun index => ?_ }
      simp only [Function.update_apply]
      split
      · exact passed.inv
      · exact simulates.childLibraries index

theorem child_simulates (simulates : Simulates transfer.bufferSize lossy network) {index : Nat}
    {session original : Session} (isOriginal : network.sessions[index]? = some original)
    (same : SameSession transfer.bufferSize session original) {poll : Option Datagram}
    {stack : Packet} {rest remain : List Datagram}
    (channel : Channel System.ServerRejects rest remain)
    (running : (lossy.childLibraries index).exited = false)
    (sends : ∀ datagram ∈ (Server.step original.child ⟨poll, stack⟩).sent, ∃ bound,
      Server.IsSent transfer bound datagram) :
    let later := Server.step session.child ⟨poll, stack⟩
    let library := (lossy.childLibraries index).sendAll (later.sent.drop session.child.sent.length)
    ∃ finish,
      Network.Onward files transfer.bufferSize
        (network.withSession index { original with
          child := Server.step original.child ⟨poll, stack⟩
          toClient := original.toClient ++
            (Server.step original.child ⟨poll, stack⟩).sent.drop original.child.sent.length
          toServer := remain }) finish ∧
      Simulates transfer.bufferSize
        { lossy with
          network := lossy.network.withSession index { session with
            child := later
            toClient := session.toClient ++ library.wiresSince (lossy.childLibraries index)
            toServer := rest }
          childLibraries := Function.update lossy.childLibraries index library } finish := by
  intro later library
  have isLater : later = Server.step original.child ⟨poll, stack⟩ := by
    simp only [later, same.child]
  rw [← isLater] at sends ⊢
  rw [← same.child]
  have noticed : ∀ datagram ∈ later.sent.drop session.child.sent.length, ∀ damaged,
      PacketManager.Flipped datagram damaged → RejectsData transfer.bufferSize damaged := by
    intro datagram member damaged flipped
    obtain ⟨bound, isSent⟩ := sends datagram (List.mem_of_mem_drop member)
    exact flipped_data flipped isSent
  have passed := Library.sendAll_sent (simulates.childLibraries index) running noticed
  obtain ⟨kept, fewer, wires⟩ := passed.wires
  have inside := (List.getElem?_eq_some_iff.mp isOriginal).1
  refine ⟨_, Network.lose_toClient (List.getElem?_set_self inside)
    ((List.Sublist.refl original.toClient).append fewer), ?_⟩
  simp only [Network.withSession, List.set_set]
  refine { simulates with
    sessions := related_set simulates.sessions index
      ⟨same.socket, rfl, List.rel_append same.toClient wires, channel⟩
    childLibraries := fun position => ?_ }
  simp only [Function.update_apply]
  split
  · exact passed.inv
  · exact simulates.childLibraries position

/-- What a child sends after any step is a packet of the file, or nothing at all. -/
theorem child_sends (inv : Network.NetworkInv transfer fromFileName network) {index : Nat}
    {original : Session} (isOriginal : network.sessions[index]? = some original) :
    ∀ datagram ∈ original.child.sent, ∃ bound, Server.IsSent transfer bound datagram := by
  intro datagram member
  cases inv.phase with
  | asking _ _ _ unheard =>
      obtain ⟨_, _, _, _, joint⟩ := (unheard original (List.mem_of_getElem? isOriginal)).toClient
      exact ⟨_, joint.server.sent datagram member⟩
  | answered position answering found _ _ _ joint _ others =>
      by_cases here : index = position
      · subst here
        obtain rfl := Option.some.inj (found.symm.trans isOriginal)
        exact ⟨_, joint.server.sent datagram member⟩
      · obtain ⟨_, _, _, _, joint⟩ := (others index original isOriginal here).toClient
        exact ⟨_, joint.server.sent datagram member⟩

theorem serverMove_simulates (simulates : Simulates transfer.bufferSize lossy network)
    (inv : Network.NetworkInv transfer fromFileName network)
    (named : files fromFileName = some transfer.file)
    (nameMax : fromFileName.length ≤ filenameMaxLen) (noNul : 0 ∉ fromFileName) {index : Nat}
    {session original : Session} (isOriginal : network.sessions[index]? = some original)
    (same : SameSession transfer.bufferSize session original) {poll : Option Datagram}
    {stack : Packet} {rest remain : List Datagram} (action : System.Action)
    (channel : Channel System.ServerRejects rest remain)
    (running : (lossy.childLibraries index).exited = false) (enabled : original.Enabled action)
    (moves : original.move network.rcopy action = { original with
      child := Server.step original.child ⟨poll, stack⟩
      toClient := original.toClient ++
        (Server.step original.child ⟨poll, stack⟩).sent.drop original.child.sent.length
      toServer := remain }) :
    let later := Server.step session.child ⟨poll, stack⟩
    let library := (lossy.childLibraries index).sendAll (later.sent.drop session.child.sent.length)
    ∃ finish, Network.Onward files transfer.bufferSize network finish ∧
      Simulates transfer.bufferSize
        { lossy with
          network := lossy.network.withSession index { session with
            child := later
            toClient := session.toClient ++ library.wiresSince (lossy.childLibraries index)
            toServer := rest }
          childLibraries := Function.update lossy.childLibraries index library } finish := by
  have permitted : Network.Enabled transfer.bufferSize network (.session index action) :=
    ⟨original, isOriginal, enabled⟩
  have after := Network.step_inv named nameMax noNul inv permitted
  have first : Network.Onward files transfer.bufferSize network
      (Network.step files network (.session index action)) := .single _ permitted
  have stepped : Network.step files network (.session index action) =
      network.withSession index (original.move network.rcopy action) := by
    simp only [Network.step, Network.modify_found isOriginal, Network.withSession]
  rw [stepped, moves] at after first
  have sends := child_sends after
    (List.getElem?_set_self (List.getElem?_eq_some_iff.mp isOriginal).1)
  intro later library
  obtain ⟨finish, onward, simulated⟩ :=
    simulates.child_simulates isOriginal same channel running sends
  exact ⟨finish, first.trans onward, simulated⟩

theorem session_simulates (simulates : Simulates transfer.bufferSize lossy network)
    (inv : Network.NetworkInv transfer fromFileName network)
    (named : files fromFileName = some transfer.file)
    (nameMax : fromFileName.length ≤ filenameMaxLen) (noNul : 0 ∉ fromFileName) {index : Nat}
    {session : Session} {action : System.Action}
    (found : lossy.network.sessions[index]? = some session) (enabled : session.Enabled action)
    (running : lossy.Running (.session index action)) :
    ∃ finish, Network.Onward files transfer.bufferSize network finish ∧
      Simulates transfer.bufferSize (lossy.sessionMove index action) finish := by
  obtain ⟨original, isOriginal, same⟩ := related_found simulates.sessions found
  have channel := same.toServer
  cases action with
  | serverStep stack =>
      simp only [LossyNetwork.sessionMove, found]
      exact simulates.serverMove_simulates inv named nameMax noNul isOriginal same
        (.serverStep stack) channel running trivial rfl
  | serverReceive stack =>
      obtain ⟨polling, waiting⟩ := enabled
      obtain ⟨wire, wires, isWires⟩ := List.exists_cons_of_ne_nil waiting
      rw [isWires] at channel
      cases isSent : original.toServer with
      | nil =>
          rw [isSent] at channel
          cases channel
      | cons sent rest =>
          rw [isSent] at channel
          simp only [LossyNetwork.sessionMove, found, Session.move, System.step,
            System.serverMove, isWires, List.head?_cons, List.tail_cons]
          cases channel with
          | cons wired channel =>
              rcases wired with rfl | rejects
              · exact simulates.serverMove_simulates inv named nameMax noNul isOriginal same
                  (.serverReceive stack) channel running
                  ⟨same.child ▸ polling, isSent ▸ List.cons_ne_nil _ _⟩
                  (by simp only [Session.move, System.step, System.serverMove, isSent,
                    List.head?_cons, List.tail_cons])
              · exact simulates.serverMove_simulates inv named nameMax noNul isOriginal same
                  (.serverReceiveDamaged wire stack) channel running
                  ⟨same.child ▸ polling, isSent ▸ List.cons_ne_nil _ _, rejects⟩
                  (by simp only [Session.move, System.step, System.serverMove, isSent,
                    List.tail_cons])
  | serverReceiveDamaged damaged stack =>
      obtain ⟨polling, waiting, rejects⟩ := enabled
      have present : original.toServer ≠ [] := by
        intro empty
        rw [empty] at channel
        exact waiting (List.forall₂_nil_right_iff.mp channel)
      simp only [LossyNetwork.sessionMove, found]
      exact simulates.serverMove_simulates inv named nameMax noNul isOriginal same
        (.serverReceiveDamaged damaged stack) (related_tail channel) running
        ⟨same.child ▸ polling, present, rejects⟩ rfl
  | loseToServer position =>
      have first : Network.Onward files transfer.bufferSize network
          (Network.step files network (.session index (.loseToServer position))) :=
        .single _ ⟨original, isOriginal, trivial⟩
      refine ⟨_, first, ?_⟩
      simp only [LossyNetwork.sessionMove, found, Network.step, Network.modify_found isOriginal]
      exact { simulates with
        sessions := related_set simulates.sessions index
          { same with toServer := related_eraseIdx channel position } }
  | loseToClient position =>
      have first : Network.Onward files transfer.bufferSize network
          (Network.step files network (.session index (.loseToClient position))) :=
        .single _ ⟨original, isOriginal, trivial⟩
      refine ⟨_, first, ?_⟩
      simp only [LossyNetwork.sessionMove, found, Network.step, Network.modify_found isOriginal]
      exact { simulates with
        sessions := related_set simulates.sessions index
          { same with toClient := related_eraseIdx same.toClient position } }
  | rcopyStep | rcopyReceive | rcopyReceiveDamaged => cases enabled

end Server

/-! ### Every step -/

section Step

variable {server : Host} {clock : Nat → Int}

theorem request_simulates (simulates : Simulates transfer.bufferSize lossy network)
    (inv : Network.NetworkInv transfer fromFileName network)
    (nameMax : fromFileName.length ≤ filenameMaxLen) (noNul : 0 ∉ fromFileName) {index : Nat}
    {asked : Nat × Datagram} (found : lossy.network.requests[index]? = some asked)
    {datagram : Datagram} (contents : datagram = asked.2 ∨ RejectsRequest datagram) :
    ∃ finish, Network.Onward files transfer.bufferSize network finish ∧
      Simulates transfer.bufferSize
        (LossyNetwork.serve files server clock
          { lossy with network := { lossy.network with
              requests := lossy.network.requests.eraseIdx index } } asked.1 datagram) finish := by
  obtain ⟨⟨socket, sent⟩, isAsked, sameSocket, wired⟩ := related_found simulates.requests found
  have isRequest : sent = _ := inv.asked.requests _ (List.mem_of_getElem? isAsked)
  have erased : Simulates transfer.bufferSize
      { lossy with network := { lossy.network with
          requests := lossy.network.requests.eraseIdx index } }
      { network with requests := network.requests.eraseIdx index } :=
    { simulates with requests := related_eraseIdx simulates.requests index }
  have sameRequest : sent = datagram ∨ RejectsRequest datagram := by
    rcases contents with rfl | rejects
    · exact wired.imp Eq.symm id
    · exact .inr rejects
  obtain ⟨finish, onward, after⟩ : ∃ finish,
      Network.Onward files transfer.bufferSize (Network.serve files
        { network with requests := network.requests.eraseIdx index } asked.1 datagram) finish ∧
      Simulates transfer.bufferSize
        (LossyNetwork.serve files server clock
          { lossy with network := { lossy.network with
              requests := lossy.network.requests.eraseIdx index } } asked.1 datagram) finish := by
    refine erased.serve_simulates transfer.bufferSize_pos transfer.bufferSize_max asked.1 datagram
      fun child forks => ?_
    rcases sameRequest with rfl | rejects
    · have room := transfer.packetCount_add_lt
      obtain ⟨other, isForked, _, _, answer⟩ := MainServer.forked_request files
        inv.asked.waiting (show transfer.windowSize < 2 ^ 32 by omega) transfer.bufferSize_max
        nameMax noNul
      rw [← isRequest] at isForked
      obtain rfl := Option.some.inj (isForked.symm.trans forks)
      exact ⟨_, answer⟩
    · have refused : MainServer.forked files network.main datagram = none := by
        rw [MainServer.forked_eq inv.asked.waiting, if_neg rejects]
      cases refused.symm.trans forks
  refine ⟨finish, ?_, after⟩
  rw [sameSocket] at onward
  rcases sameRequest with rfl | rejects
  · have first : Network.Onward files transfer.bufferSize network
        (Network.step files network (.mainReceive index)) := .single _ trivial
    simp only [Network.step, isAsked] at first
    exact first.trans onward
  · have first : Network.Onward files transfer.bufferSize network
        (Network.step files network (.mainReceiveDamaged index datagram)) := .single _ rejects
    simp only [Network.step, isAsked] at first
    exact first.trans onward

theorem step_simulates (simulates : Simulates transfer.bufferSize lossy network)
    (inv : Network.NetworkInv transfer fromFileName network)
    (named : files fromFileName = some transfer.file)
    (nameMax : fromFileName.length ≤ filenameMaxLen) (noNul : 0 ∉ fromFileName)
    {action : Network.Action} (enabled : lossy.Enabled transfer.bufferSize action) :
    ∃ finish, Network.Onward files transfer.bufferSize network finish ∧
      Simulates transfer.bufferSize (lossy.step files server clock action) finish := by
  obtain ⟨enabled, running⟩ := enabled
  cases action with
  | rcopyStep stack =>
      obtain ⟨finish, onward, after⟩ :=
        simulates.rcopyMove_simulates nameMax (rcopySends inv ⟨none, stack⟩)
      have first : Network.Onward files transfer.bufferSize network
          (Network.step files network (.rcopyStep stack)) := .single _ trivial
      exact ⟨finish, first.trans onward, after⟩
  | rcopyReceive index stack =>
      obtain ⟨polling, session, found, socket, waiting⟩ := enabled
      obtain ⟨wire, wires, isWires⟩ := List.exists_cons_of_ne_nil waiting
      have head : (lossy.network.sessions[index]?.bind fun session =>
          session.toClient.head?) = some wire := by
        rw [Option.mem_def.mp found, Option.bind_some, isWires, List.head?_cons]
      rw [LossyNetwork.step, head]
      exact simulates.receive_simulates inv nameMax stack
        ⟨polling, session, found, socket, waiting⟩ (.inl head)
  | rcopyReceiveDamaged index damaged stack =>
      exact simulates.receive_simulates inv nameMax stack enabled.1 (.inr enabled.2)
  | mainReceive index =>
      cases found : lossy.network.requests[index]? with
      | none =>
          simp only [LossyNetwork.step, found]
          exact ⟨network, .refl network, simulates⟩
      | some asked =>
          simp only [LossyNetwork.step, found]
          exact simulates.request_simulates inv nameMax noNul found (.inl rfl)
  | mainReceiveDamaged index damaged =>
      cases found : lossy.network.requests[index]? with
      | none =>
          simp only [LossyNetwork.step, found]
          exact ⟨network, .refl network, simulates⟩
      | some asked =>
          simp only [LossyNetwork.step, found]
          exact simulates.request_simulates inv nameMax noNul found (.inr enabled)
  | mainReceiveOther datagram =>
      have first : Network.Onward files transfer.bufferSize network
          (Network.step files network (.mainReceiveOther datagram)) := .single _ trivial
      refine ⟨_, first, ?_⟩
      simp only [LossyNetwork.step, Network.step]
      refine { simulates with
        main := by rw [simulates.main]
        mainLibrary := ?_
        mainRunning := ?_ }
      · split
        · exact configured_inv simulates.mainLibrary
            (Library.forkMod_configured lossy.mainLibrary false)
        · exact simulates.mainLibrary
      · split
        · exact simulates.mainRunning
        · exact simulates.mainRunning
  | loseRequest index =>
      have first : Network.Onward files transfer.bufferSize network
          (Network.step files network (.loseRequest index)) := .single _ trivial
      exact ⟨_, first, { simulates with
        requests := related_eraseIdx simulates.requests index }⟩
  | session index action =>
      obtain ⟨session, found, enabled⟩ := enabled
      exact simulates.session_simulates inv named nameMax noNul found enabled running

end Step

/-! ### Every run -/

theorem library_inv (host : Host) : Library.LibraryInv host.library :=
  configured_inv (Library.load_inv host.environment host.loaded)
    (Library.sendErr_init_configured ..)

theorem start_simulates (client server : Host) (windowSize : Nat) (fromFileName : List UInt8) :
    Simulates bufferSize (LossyNetwork.start client server windowSize bufferSize fromFileName)
      (Network.start windowSize bufferSize fromFileName) :=
  ⟨rfl, rfl, rfl, rfl, .nil, .nil, library_inv client, rfl, library_inv server, rfl,
    fun _ => library_inv server⟩

theorem run_simulates {client server : Host} {clock : Nat → Int}
    {actions : List Network.Action} (named : files fromFileName = some transfer.file)
    (nameMax : fromFileName.length ≤ filenameMaxLen) (noNul : 0 ∉ fromFileName)
    (enabled : EveryStep (LossyNetwork.step files server clock)
      (LossyNetwork.Enabled transfer.bufferSize)
      (LossyNetwork.start client server transfer.windowSize transfer.bufferSize fromFileName)
      actions) :
    ∃ network, Network.NetworkInv transfer fromFileName network ∧
      Simulates transfer.bufferSize (run (LossyNetwork.step files server clock)
        (LossyNetwork.start client server transfer.windowSize transfer.bufferSize fromFileName)
        actions) network := by
  have kept : ∀ state input, Network.NetworkInv transfer fromFileName state →
      Network.Enabled transfer.bufferSize state input →
      Network.NetworkInv transfer fromFileName (Network.step files state input) :=
    fun _ _ inv permitted => Network.step_inv named nameMax noNul inv permitted
  have matched : ∀ lossy network action,
      (Simulates transfer.bufferSize lossy network ∧
        Network.NetworkInv transfer fromFileName network) →
      lossy.Enabled transfer.bufferSize action →
      ∃ finish, Network.Onward files transfer.bufferSize network finish ∧
        Simulates transfer.bufferSize (lossy.step files server clock action) finish ∧
        Network.NetworkInv transfer fromFileName finish := by
    intro lossy network action related allowed
    obtain ⟨finish, onward, after⟩ :=
      related.1.step_simulates related.2 named nameMax noNul allowed
    exact ⟨finish, onward, after, onward.invariant kept related.2⟩
  obtain ⟨network, _, simulates, inv⟩ := General.run_simulates _ matched
    ⟨start_simulates client server transfer.windowSize fromFileName,
      Network.start_inv transfer fromFileName⟩ enabled
  exact ⟨network, inv, simulates⟩

end Simulates

namespace LossyNetwork

/-- With the libraries of all processes at work, whatever they drop and flip, rcopy writes a
prefix of the file.  It has written all of it once it acknowledges its end, and once any child of
the server ends on that acknowledgement.  The library never ends rcopy. -/
theorem copied_through_libraries (files : List UInt8 → Option (List UInt8))
    (client server : Host) (clock : Nat → Int) (transfer : Transfer) (fromFileName : List UInt8)
    (actions : List Network.Action) (named : files fromFileName = some transfer.file)
    (nameMax : fromFileName.length ≤ filenameMaxLen) (noNul : 0 ∉ fromFileName)
    (enabled : EveryStep (step files server clock) (Enabled transfer.bufferSize)
      (start client server transfer.windowSize transfer.bufferSize fromFileName) actions) :
    let lossy := run (step files server clock)
      (start client server transfer.windowSize transfer.bufferSize fromFileName) actions
    let statics := lossy.network.rcopy.statics
    statics.toFile = transfer.delivered (statics.expected - 1) ∧
      statics.toFile <+: transfer.file ∧
      (∀ datagram ∈ statics.sent, flagOf datagram = FlagType.eofAck.code →
        statics.toFile = transfer.file) ∧
      (∀ session ∈ lossy.network.sessions, session.child.state = .eofAcked →
        statics.toFile = transfer.file) ∧
      lossy.rcopyLibrary.exited = false := by
  intro lossy statics
  obtain ⟨network, inv, simulates⟩ :=
    Simulates.run_simulates named nameMax noNul enabled
  have copied := inv.copied
  rw [simulates.rcopy] at copied
  obtain ⟨written, isPrefix, whole, acked⟩ := copied
  refine ⟨written, isPrefix, whole, fun session member isAcked => ?_, simulates.rcopyRunning⟩
  obtain ⟨index, found⟩ := List.mem_iff_getElem?.mp member
  obtain ⟨original, isOriginal, same⟩ := related_found simulates.sessions found
  exact acked original (List.mem_of_getElem? isOriginal) (same.child ▸ isAcked)

/-- The library of rcopy drops its first message. -/
def dropsFirst : Host where
  environment := ⟨none, none, some ['1'], none⟩
  errorRate := 0
  loaded := 0
  now := 0

def dropsNothing : Host where
  environment := ⟨none, none, none, none⟩
  errorRate := 0
  loaded := 0
  now := 0

/-- The first request never gets onto the wire.  The second one does, and the transfer ends. -/
def askedAgain : List Network.Action :=
  [.rcopyStep .zero, .rcopyStep .zero, .rcopyStep .zero, .rcopyStep .zero, .mainReceive 0,
    .session 0 (.serverStep .zero), .session 0 (.serverStep .zero),
    .session 0 (.serverStep .zero), .rcopyReceive 0 .zero, .rcopyReceive 0 .zero,
    .rcopyStep .zero, .rcopyReceive 0 .zero, .rcopyStep .zero, .rcopyStep .zero,
    .rcopyStep .zero, .session 0 (.serverReceive .zero), .session 0 (.serverReceive .zero),
    .session 0 (.serverReceive .zero)]

theorem copied_through_libraries_asked_again :
    (run (step (fun _ => some [65]) dropsNothing fun _ => 0)
      (start dropsFirst dropsNothing oneByte.windowSize oneByte.bufferSize [97])
      askedAgain).network.rcopy.statics.toFile = [65] := by
  have ended : ∃ session ∈ (run (step (fun _ => some [65]) dropsNothing fun _ => 0)
      (start dropsFirst dropsNothing oneByte.windowSize oneByte.bufferSize [97])
      askedAgain).network.sessions, session.child.state = .eofAcked := by
    decide +kernel
  obtain ⟨session, member, acked⟩ := ended
  exact (copied_through_libraries (fun _ => some [65]) dropsFirst dropsNothing (fun _ => 0) oneByte
    [97] askedAgain rfl (by decide) (by decide) (by decide +kernel)).2.2.2.1 session member acked

end LossyNetwork

end CPE464.Project3
