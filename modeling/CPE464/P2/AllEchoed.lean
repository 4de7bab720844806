/-
The service comes to rest.

Once nobody types, every step of the programs and of the network brings some byte nearer to the
client that it was typed at.  So a run comes to an end, and there every client that waits at its
poll set has printed all it has entered, unless the server is held up by a client that does not
read.
-/

import CPE464.P2.StaysUp

namespace CPE464.P2

open General

namespace Client

variable {client : Client} {socketNum : Nat}

/-- How far everything of this client has still to go.  A byte at the keyboard becomes at most
four bytes on the connection. -/
def rank (client : Client) : Nat :=
  34 * client.keyboard.stream.length + 8 * client.toServer.underWay.length +
    6 * client.toServer.arrived.length + 4 * client.toClient.underWay.length +
    2 * client.toClient.arrived.length + if client.phase = .polling then 1 else 0

theorem rank_arriveAtServer {count : Nat} (positive : 1 ≤ count)
    (some : client.toServer.underWay ≠ []) :
    rank { client with toServer := client.toServer.arrive count } < rank client := by
  have := List.length_pos_iff.mpr some
  simp only [rank, Stream.arrive, List.length_append, List.length_take, List.length_drop]
  omega

theorem rank_arriveAtClient {count : Nat} (positive : 1 ≤ count)
    (some : client.toClient.underWay ≠ []) :
    rank { client with toClient := client.toClient.arrive count } < rank client := by
  have := List.length_pos_iff.mpr some
  simp only [rank, Stream.arrive, List.length_append, List.length_take, List.length_drop]
  omega

theorem rank_serving (polling : client.phase = .polling) (currSock : Nat) :
    rank { client with phase := .serving currSock } < rank client := by
  simp [rank, polling]

theorem length_of_read {sendBuf : List UInt8} {keyboard : Keyboard}
    (read : client.keyboard.processStdin = some (sendBuf, keyboard))
    (opened : client.keyboard.closed = false) :
    keyboard.closed = false ∧ (pdu sendBuf).length + 4 * keyboard.stream.length ≤
      4 * client.keyboard.stream.length ∧
      keyboard.stream.length < client.keyboard.stream.length := by
  obtain ⟨⟨text, last⟩, chars, isRead⟩ := Option.map_eq_some_iff.mp read
  obtain ⟨rfl, rfl⟩ := Prod.mk.inj isRead
  have line := Keyboard.readChars_readsLine chars
  obtain ⟨ends, stream, atEnd⟩ := line.stream
  have none : ends = 0 := atEnd.resolve_right fun both => by
    rw [opened] at both
    exact Bool.false_ne_true both.1
  subst none
  rw [List.replicate_zero, List.append_nil] at stream
  have length := congrArg List.length stream
  rw [List.length_append, List.length_append] at length
  refine ⟨line.closed_eq.trans opened, ?_⟩
  rw [pdu_length, List.length_append, List.length_singleton]
  by_cases empty : text = []
  · subst empty
    have isLine : (Keyboard.lineEnd (maxBuf - 1) []).length = 1 := rfl
    rw [isLine, List.length_nil] at length
    rw [List.length_nil]
    dsimp only at length ⊢
    omega
  · have := List.length_pos_iff.mpr empty
    dsimp only at length ⊢
    omega

theorem rank_served {later : Client} (served : Served client later)
    (opened : client.keyboard.closed = false) (notPolling : client.phase ≠ .polling) :
    later.keyboard.closed = false ∧ rank later < rank client := by
  cases served with
  | entered sendBuf keyboard read isLater =>
      obtain ⟨stays, shorter, less⟩ := length_of_read read opened
      subst isLater
      refine ⟨stays, ?_⟩
      simp only [rank, Stream.put, List.length_append, if_true, if_neg notPolling]
      omega
  | printed first text connection shorter isLater =>
      subst isLater
      refine ⟨opened, ?_⟩
      simp only [rank, Stream.leave, if_true, if_neg notPolling] at shorter ⊢
      omega

theorem rank_echoed {message : List UInt8} {connection : Connection}
    (shorter : client.toServer.arrived.length =
      (client.toServer.leave connection).arrived.length + message.length + 2) :
    (client.echoed message connection).rank + 2 * (message.length + 2) = client.rank := by
  have phase : (client.echoed message connection).phase = client.phase := rfl
  simp only [rank, phase]
  simp only [echoed, Stream.put, Stream.leave, List.length_append, pdu_length] at shorter ⊢
  omega

def enteredBytes (client : Client) : Nat := (client.entered.map pdu).flatten.length

theorem Orderly.sendable (orderly : Orderly client socketNum) {capacity : Nat}
    (pduMax_le : maxBuf + pduHdrLen ≤ capacity) (noneArrived : client.toServer.arrived = [])
    (noneUnderWay : client.toServer.underWay = []) (read : client.keyboard.processStdin ≠ none) :
    World.Sendable capacity client client.keyboard.processStdin := by
  obtain ⟨⟨sendBuf, keyboard⟩, isRead⟩ := Option.ne_none_iff_exists'.mp read
  have typed : Typed { client with keyboard, entered := client.entered ++ [sendBuf] } :=
    orderly.typed.read isRead rfl rfl rfl
  have isMessage := typed.isMessage sendBuf
    (List.mem_append_right _ (List.mem_singleton_self sendBuf))
  have short := isMessage.2
  rw [isRead]
  refine .inr (.inr ?_)
  rw [noneArrived, noneUnderWay, pdu_length]
  simp only [List.length_nil, pduHdrLen] at pduMax_le ⊢
  omega

end Client

namespace World

variable {Name : Type} {sockets : Sockets Name} {world : World Name} {members : Finset Nat}
  {limit : Nat}

def started (world : World Name) : List Name := world.backlog ++ world.accepted.map Prod.snd

/-- How much is still to be done: for the clients, for the connections that wait, for the sockets
that may be removed, and for the poll. -/
def rank (world : World Name) : Nat :=
  (world.started.map fun name => (world.clients name).rank).sum + 4 * world.backlog.length +
    2 * world.pollSet.pollFileDescriptors.countP PollFd.pollIn +
      if world.phase = .polling then 1 else 0

/-- A step of the programs or of the network. -/
def Action.Internal : Action Name → Prop
  | .arriveAtServer _ _ | .arriveAtClient _ _ | .serverPoll | .serverServe _ | .clientPoll _
  | .clientServe _ _ => True
  | .connect _ | .enter _ _ | .endInput _ | .killClient _ | .killServer | .hangUp | .reset _ =>
      False

instance : (action : Action Name) → Decidable action.Internal
  | .arriveAtServer _ _ | .arriveAtClient _ _ | .serverPoll | .serverServe _ | .clientPoll _
  | .clientServe _ _ => inferInstanceAs (Decidable True)
  | .connect _ | .enter _ _ | .endInput _ | .killClient _ | .killServer | .hangUp | .reset _ =>
      inferInstanceAs (Decidable False)

theorem Action.Internal.harmless {action : Action Name} (internal : action.Internal) :
    action.Harmless := by
  cases action <;> trivial

def KeyboardsOpen (world : World Name) : Prop :=
  ∀ name, (world.clients name).keyboard.closed = false

def Lively (sockets : Sockets Name) (world : World Name) : Prop :=
  SomeOrderly sockets world ∧ KeyboardsOpen world

theorem start_lively (sockets : Sockets Name) : Lively sockets (start sockets) := by
  refine ⟨start_orderly sockets, ?_⟩
  obtain ⟨pollSet, made, -⟩ := PollSet.setupPollSet_holds.addToPollSet sockets.serverSocket
  rw [start, made]
  exact fun _ => rfl

theorem rank_nextPass (notPolling : world.phase ≠ .polling) :
    world.nextPass.rank = world.rank + 1 := by
  simp only [World.rank, started, nextPass, if_true, if_neg notPolling, Nat.add_zero]

theorem started_of_bytes (orderly : Orderly sockets world members limit)
    {name : Name} (enabled : (world.clients name).toServer.underWay ≠ [] ∨
      (world.clients name).toClient.underWay ≠ []) :
    (world.clients name).phase ≠ .notStarted := by
  intro notYet
  obtain ⟨toServer, toClient⟩ := (orderly.clients name).unused notYet
  rw [toServer, toClient] at enabled
  exact enabled.elim (fun some => some rfl) fun some => some rfl

/-! ### At rest -/

/-- No step of the programs or of the network is possible. -/
def Stuck (sockets : Sockets Name) (world : World Name) : Prop :=
  ∀ action : Action Name, action.Internal → ¬Enabled sockets world action

theorem Stuck.noneUnderWay (stuck : Stuck sockets world) (name : Name) :
    (world.clients name).toServer.underWay = [] ∧
      (world.clients name).toClient.underWay = [] := by
  constructor
  · by_contra some
    exact stuck (.arriveAtServer name 1) trivial ⟨Nat.le_refl 1, some⟩
  · by_contra some
    exact stuck (.arriveAtClient name 1) trivial ⟨Nat.le_refl 1, some⟩

/-- A client at rest: it waits at its poll set and has printed all it has entered, or it waits for
the rest of a line and everything entered has come back, or it has ended. -/
inductive AtRest (client : Client) : Prop where
  | polling (isPolling : client.phase = .polling) (noKeys : client.keyboard.chunks = [])
      (printed : client.printed = client.entered.map shownAs)
  | inLine (isServing : client.phase = .serving stdinFileno)
      (noNewline : newline ∉ client.keyboard.stream)
      (space : client.keyboard.stream.length < maxBuf - 1)
      (received back : List (List UInt8)) (split : received ++ back = client.entered)
      (printed : client.printed = received.map shownAs)
      (arrived : client.toClient.arrived = (back.map pdu).flatten)
  | ended (isEnded : client.phase = .exited)

/-- The service at rest; the server waits for just those clients that have not ended. -/
structure Settled (world : World Name) : Prop where
  polling : world.phase = .polling
  backlog : world.backlog = []
  clients : ∀ name, (world.clients name).phase ≠ .notStarted → AtRest (world.clients name)
  polled : ∀ entry ∈ world.accepted,
    world.pollSet.pollFileDescriptors[entry.1]? = some ⟨entry.1, true⟩ ↔
      (world.clients entry.2).phase ≠ .exited

/-- The server waits for space for an echo to a client that has entered more than a connection
holds, and that does not read: it waits itself, for the rest of a line or for space, or it has
ended. -/
structure HeldUp (sockets : Sockets Name) (world : World Name) (name : Name) : Prop where
  echoing : ∃ currSock, world.phase = .serving currSock ∧ (currSock, name) ∈ world.accepted ∧
    ¬(world.clients name).toClient.HasRoom sockets.capacity (world.recvFrom currSock).sent
  notReading : (world.clients name).phase = .serving stdinFileno ∨
    (world.clients name).phase = .exited
  tooMuch : sockets.capacity < (world.clients name).enteredBytes

inductive AtStandstill (sockets : Sockets Name) (world : World Name) : Prop where
  | settled (settled : Settled world)
  | heldUp (name : Name) (heldUp : HeldUp sockets world name)

/-- Nothing but an echo needs space. -/
theorem echo_of_full {currSock capacity : Nat} {name : Name} {forth : List (List UInt8)}
    (lookup : world.accepted.lookup currSock = some name)
    (carries : (world.clients name).toServer.Carries forth)
    (unfailed : (world.clients name).toClient.ending ≠ .failed)
    (returns : (world.recvFrom currSock).result ≠ .waiting)
    (full : ¬(world.clients name).toClient.HasRoom capacity (world.recvFrom currSock).sent) :
    ∃ first others, forth = first :: others ∧ (world.recvFrom currSock).sent = pdu first := by
  rw [recvFrom, sendAt, connectionAt, lookup] at full returns ⊢
  dsimp only at full returns ⊢
  cases carries.receives with
  | waits _ result => exact absurd (recvFromClient_waiting result) returns
  | closed _ _ call =>
      rw [recvFromClient_closed call] at full
      exact absurd rfl (Stream.full full).1
  | message first others isFirst later call _ _ =>
      have isMessage : IsMessage first := carries.sized first (isFirst ▸ List.mem_cons_self)
      refine ⟨first, others, isFirst, ?_⟩
      rw [recvFromClient_message (Stream.send_unfailed unfailed) isMessage call]

theorem Stuck.notAccepting (stuck : Stuck sockets world) {currSock : Nat}
    (isServing : world.phase = .serving currSock) (finds : Finds sockets world currSock) :
    currSock ≠ sockets.serverSocket := by
  intro isListening
  rw [Finds, if_pos isListening] at finds
  obtain ⟨newSocket, fresh⟩ := Infinite.exists_notMem_finset
    (insert stdinFileno (insert sockets.serverSocket (world.accepted.map Prod.fst).toFinset))
  simp only [Finset.mem_insert, List.mem_toFinset, not_or] at fresh
  refine stuck (.serverServe newSocket) trivial ?_
  rw [Enabled, isServing, ServerReturns, if_pos isListening]
  exact ⟨finds, fresh⟩

theorem Stuck.noRoom (stuck : Stuck sockets world) {currSock : Nat} {name : Name}
    (isServing : world.phase = .serving currSock) (notListening : currSock ≠ sockets.serverSocket)
    (lookup : world.accepted.lookup currSock = some name)
    (returns : (world.recvFrom currSock).result ≠ .waiting) :
    ¬(world.clients name).toClient.HasRoom sockets.capacity (world.recvFrom currSock).sent := by
  intro room
  refine stuck (.serverServe 0) trivial ?_
  rw [Enabled, isServing, ServerReturns, if_neg notListening]
  refine ⟨returns, fun other isOther => ?_⟩
  obtain rfl := Option.some.inj (lookup.symm.trans isOther)
  exact room

section Stuck

variable (orderly : Orderly sockets world members limit) (stuck : Stuck sockets world)

include orderly stuck

theorem Stuck.notReading {name : Name} (begun : (world.clients name).phase ≠ .notStarted)
    (arrived : (world.clients name).toClient.arrived ≠ []) :
    (world.clients name).phase = .serving stdinFileno ∨ (world.clients name).phase = .exited := by
  have client := orderly.clients name
  obtain ⟨back, -, -, carriesBack, -⟩ := client.intact
  cases isPhase : (world.clients name).phase with
  | notStarted => exact absurd isPhase begun
  | exited => exact .inr rfl
  | polling =>
      have silent := stuck (.clientPoll name) trivial
      rw [Enabled, and_iff_right isPhase, not_not,
        Client.pollCall_eq client (sockets.socketNum_ne name), Except.ok.injEq,
        if_pos arrived] at silent
      split at silent <;> cases silent
  | serving currSock =>
      rcases client.serving currSock isPhase with rfl | ⟨rfl, -⟩
      · exact .inl rfl
      · have waits := stuck (.clientServe name []) trivial
        rw [Enabled, isPhase, ClientReturns, if_neg (sockets.socketNum_ne name),
          Client.connectionAt, if_pos rfl] at waits
        exact absurd (Stream.Readable.returns (.inl arrived) carriesBack
          (stuck.noneUnderWay name).2) waits

theorem Stuck.polling_or_heldUp : world.phase = .polling ∨ ∃ name, HeldUp sockets world name := by
  rcases orderly.running with isPolling | ⟨currSock, member, isServing, finds⟩
  · exact .inl isPolling
  · right
    have notListening := stuck.notAccepting isServing finds
    rw [Finds, if_neg notListening] at finds
    obtain ⟨name, found⟩ := orderly.polled.known currSock member notListening
    obtain ⟨noneToServer, noneToClient⟩ := stuck.noneUnderWay name
    obtain ⟨back, forth, split, carriesBack, carriesForth⟩ := (orderly.clients name).intact
    have lookup := orderly.polled.lookup found
    have returns : (world.recvFrom currSock).result ≠ .waiting := by
      rw [recvFrom, connectionAt, lookup]
      exact recvFromClient_returns ((finds name found).returns carriesForth noneToServer)
    have full := stuck.noRoom isServing notListening lookup returns
    obtain ⟨first, others, rfl, isSent⟩ :=
      echo_of_full lookup carriesForth carriesBack.unfailed returns full
    have isMessage := carriesForth.sized first List.mem_cons_self
    have bytes := carriesBack.bytes
    rw [noneToClient, List.append_nil] at bytes
    obtain ⟨-, beyond⟩ := Stream.full full
    rw [isSent, noneToClient, List.length_nil, Nat.add_zero] at beyond
    refine ⟨name, ⟨currSock, isServing, found, full⟩, ?_, ?_⟩
    · refine stuck.notReading orderly ?_ fun nothing => ?_
      · exact (orderly.connected name).mp
          (List.mem_append_right _ (List.mem_map_of_mem found))
      · have short := isMessage.2
        have holds := sockets.pduMax_le
        rw [nothing, pdu_length] at beyond
        simp only [List.length_nil, pduHdrLen] at beyond holds
        omega
    · refine Nat.lt_of_lt_of_le beyond ?_
      rw [Client.enteredBytes, ← split, bytes]
      simp only [List.map_append, List.map_cons, List.flatten_append, List.flatten_cons,
        List.length_append]
      omega

variable (polling : world.phase = .polling)

include polling

theorem Stuck.notReady :
    ∀ currSock ∈ members, ¬PollSet.Ready (world.descriptors sockets) currSock := by
  have goodOrder : (world.descriptors sockets 0).condition = false := orderly.notHungUp
  rcases orderly.polled.holds.pollCall_goodOrder goodOrder with ⟨currSock, -, -, -, answer⟩ |
    ⟨none, -⟩
  · refine absurd ⟨polling, ?_⟩ (stuck .serverPoll trivial)
    rw [answer]
    simp
  · exact none

theorem Stuck.backlog : world.backlog = [] := by
  by_contra some
  refine stuck.notReady orderly polling sockets.serverSocket orderly.polled.listening (.inl ?_)
  simpa [descriptors, sockets.serverSocket_ne] using some

theorem Stuck.toServer {entry : Nat × Name} (found : entry ∈ world.accepted) :
    (world.clients entry.2).toServer.arrived = [] ∧
      (entry.1 ∈ members ↔ (world.clients entry.2).phase ≠ .exited) := by
  have finished := (orderly.clients entry.2).finished
  by_cases member : entry.1 ∈ members
  · have notReadable : ¬(world.clients entry.2).toServer.Readable := by
      rw [← Stream.ready_iff (orderly.clients entry.2).toServer_unfailed]
      have own := orderly.polled.own entry found
      have silent := stuck.notReady orderly polling entry.1 member
      rwa [PollSet.Ready, descriptors, if_neg own.1, if_neg own.2,
        orderly.polled.lookup found] at silent
    rw [Stream.Readable, not_or, not_not] at notReadable
    refine ⟨notReadable.1, iff_of_true member fun ended => ?_⟩
    rw [if_pos ended] at finished
    exact notReadable.2 ⟨(stuck.noneUnderWay entry.2).1, finished⟩
  · have gone := orderly.removed entry found member
    refine ⟨by rw [gone], iff_of_false member (not_not.mpr ?_)⟩
    by_contra running
    rw [if_neg running, gone] at finished
    cases finished

theorem Stuck.atRest {name : Name} (begun : (world.clients name).phase ≠ .notStarted) :
    AtRest (world.clients name) := by
  have client := orderly.clients name
  obtain ⟨noneToServer, noneToClient⟩ := stuck.noneUnderWay name
  obtain ⟨back, forth, split, carriesBack, carriesForth⟩ := client.intact
  have isAccepted : ∃ entry ∈ world.accepted, entry.2 = name := by
    have member := (orderly.connected name).mpr begun
    rw [stuck.backlog orderly polling, List.nil_append] at member
    exact List.mem_map.mp member
  obtain ⟨entry, found, rfl⟩ := isAccepted
  have noneArrived := (stuck.toServer orderly polling found).1
  obtain rfl : forth = [] := carriesForth.nothing noneArrived noneToServer
  rw [List.append_nil] at split
  have printed : (world.clients entry.2).printed =
      (world.clients entry.2).received.map shownAs :=
    eq_map_shownAs client.shown fun message member =>
      client.typed.terminated message (split ▸ List.mem_append_left _ member)
  have bytes := carriesBack.bytes
  rw [noneToClient, List.append_nil] at bytes
  cases isPhase : (world.clients entry.2).phase with
  | notStarted => exact absurd isPhase begun
  | exited => exact .ended isPhase
  | polling =>
      have noneArrived : (world.clients entry.2).toClient.arrived = [] := by
        by_contra arrived
        rcases stuck.notReading orderly begun arrived with isServing | isEnded
        · cases isPhase.symm.trans isServing
        · cases isPhase.symm.trans isEnded
      have noKeys : (world.clients entry.2).keyboard.chunks = [] := by
        by_contra keys
        have silent := stuck (.clientPoll entry.2) trivial
        rw [Enabled, and_iff_right isPhase, not_not,
          Client.pollCall_eq client (sockets.socketNum_ne entry.2), if_pos (.inl keys)] at silent
        cases silent
      rw [carriesBack.nothing noneArrived noneToClient, List.append_nil] at split
      exact .polling isPhase noKeys (split ▸ printed)
  | serving currSock =>
      rcases client.serving currSock isPhase with rfl | ⟨rfl, arrived⟩
      · have waits : (world.clients entry.2).keyboard.processStdin = none := by
          by_contra read
          refine stuck (.clientServe entry.2 []) trivial ?_
          rw [Enabled, isPhase, ClientReturns, if_pos rfl]
          exact client.sendable sockets.pduMax_le noneArrived noneToServer read
        rw [Keyboard.processStdin, Option.map_eq_none_iff,
          Keyboard.readChars_eq_none_iff] at waits
        exact .inLine isPhase waits.2.1 waits.2.2 _ back split printed bytes
      · rcases stuck.notReading orderly begun arrived with isServing | isEnded
        · exact absurd (Phase.serving.inj (isPhase.symm.trans isServing))
            (sockets.socketNum_ne entry.2)
        · cases isPhase.symm.trans isEnded

theorem Stuck.settled : Settled world where
  polling := polling
  backlog := stuck.backlog orderly polling
  clients := fun name begun => stuck.atRest orderly polling begun
  polled := by
    intro entry found
    rw [← (stuck.toServer orderly polling found).2]
    have holds := orderly.polled.holds
    by_cases inside : entry.1 < world.pollSet.currentPollSetSize
    · rw [holds.entry entry.1 inside]
      by_cases member : entry.1 ∈ members
      · simp [member]
      · simp [member]
    · have absent : entry.1 ∉ members := fun member => inside <|
        Nat.lt_of_lt_of_le (holds.members_lt _ member) holds.limit_le
      rw [List.getElem?_eq_none (by rw [holds.length_eq]; omega)]
      simp [absent]

omit polling in
theorem Stuck.atStandstill : AtStandstill sockets world := by
  rcases stuck.polling_or_heldUp orderly with polling | ⟨name, heldUp⟩
  · exact .settled (stuck.settled orderly polling)
  · exact .heldUp name heldUp

end Stuck

/-! ### Every step brings it nearer -/

variable [DecidableEq Name]

theorem rank_modify (orderly : Orderly sockets world members limit) {name : Name}
    (isStarted : (world.clients name).phase ≠ .notStarted) (change : Client → Client) :
    (world.modify name change).rank + (world.clients name).rank =
      world.rank + (change (world.clients name)).rank := by
  have member := (orderly.connected name).mpr isStarted
  have same : ∀ other, other ≠ name →
      ((world.modify name change).clients other).rank = (world.clients other).rank := by
    intro other different
    simp only [World.modify, Function.update_of_ne different]
  have sum := sum_of_one_changed orderly.once member same
  have changed : ((world.modify name change).clients name).rank =
      (change (world.clients name)).rank := by
    simp only [World.modify, Function.update_self]
  rw [changed] at sum
  have started : (world.modify name change).started = world.started := rfl
  have others : (world.modify name change).backlog = world.backlog ∧
      (world.modify name change).pollSet = world.pollSet ∧
      (world.modify name change).phase = world.phase := ⟨rfl, rfl, rfl⟩
  change (world.started.map _).sum + _ = (world.started.map _).sum + _ at sum
  simp only [World.rank, started, others]
  omega

theorem KeyboardsOpen.modify (opened : KeyboardsOpen world) {name : Name}
    {change : Client → Client} (kept : (change (world.clients name)).keyboard.closed = false) :
    KeyboardsOpen (world.modify name change) := by
  intro other
  by_cases same : other = name
  · subst same
    simpa only [World.modify, Function.update_self] using kept
  · simpa only [World.modify, Function.update_of_ne same] using opened other

theorem falls_modify (orderly : Orderly sockets world members limit)
    (opened : KeyboardsOpen world) {name : Name} {change : Client → Client}
    (isStarted : (world.clients name).phase ≠ .notStarted)
    (falls : (change (world.clients name)).keyboard.closed = false ∧
      (change (world.clients name)).rank < (world.clients name).rank) :
    KeyboardsOpen (world.modify name change) ∧ (world.modify name change).rank < world.rank := by
  refine ⟨opened.modify falls.1, ?_⟩
  have sum := rank_modify orderly isStarted change
  have := falls.2
  omega

theorem ServerServed.falls {later : World Name} {others : Finset Nat} {higher : Nat}
    (served : ServerServed world members later others)
    (orderly : Orderly sockets world members limit)
    (laterOrderly : Orderly sockets later others higher) (opened : KeyboardsOpen world)
    (notPolling : world.phase ≠ .polling) : KeyboardsOpen later ∧ later.rank < world.rank := by
  have watched := orderly.polled.holds.countP_pollIn
  have watchedLater := laterOrderly.polled.holds.countP_pollIn
  cases served with
  | accepted newSocket name backlog pollSet isBacklog fresh inserted isLater =>
      subst isLater
      refine ⟨opened, ?_⟩
      have permuted : (world.started.map fun name => (world.clients name).rank).sum =
          ((backlog ++ (world.accepted ++ [(newSocket, name)]).map Prod.snd).map
            fun name => (world.clients name).rank).sum := by
        apply List.Perm.sum_eq
        refine List.Perm.map _ ?_
        rw [started, isBacklog, List.map_append, ← List.append_assoc]
        exact (List.perm_append_singleton _ _).symm
      rw [inserted, Finset.card_insert_of_notMem fresh] at watchedLater
      simp only [World.rank, started] at permuted ⊢
      rw [watched, watchedLater, permuted, isBacklog, List.length_cons, if_true,
        if_neg notPolling]
      omega
  | echoed currSock name first connection found same shorter isLater =>
      subst isLater
      have isStarted := (orderly.connected name).mp
        (List.mem_append_right _ (List.mem_map_of_mem found))
      have sum := rank_modify orderly isStarted fun client => client.echoed first connection
      have kept : KeyboardsOpen (world.modify name fun client => client.echoed first connection) :=
        opened.modify (by exact opened name)
      refine ⟨kept, ?_⟩
      have still : (world.modify name fun client => client.echoed first connection).phase ≠
          .polling := notPolling
      rw [rank_nextPass still]
      have := Client.rank_echoed shorter
      omega
  | removed currSock pollSet member erased isLater =>
      subst isLater
      refine ⟨opened, ?_⟩
      rw [erased, Finset.card_erase_of_mem member] at watchedLater
      have some := Finset.card_pos.mpr ⟨currSock, member⟩
      simp only [World.rank, started] at watchedLater ⊢
      rw [watched, watchedLater, if_true, if_neg notPolling]
      omega

theorem Orderly.falls (orderly : Orderly sockets world members limit)
    (opened : KeyboardsOpen world) {action : Action Name}
    (enabled : Enabled sockets world action) (internal : action.Internal) :
    KeyboardsOpen (world.step sockets action) ∧ (world.step sockets action).rank < world.rank := by
  unfold World.step
  cases action with
  | arriveAtServer name count =>
      have isStarted := started_of_bytes orderly (.inl enabled.2)
      exact falls_modify orderly opened isStarted
        ⟨opened name, Client.rank_arriveAtServer enabled.1 enabled.2⟩
  | arriveAtClient name count =>
      have isStarted := started_of_bytes orderly (.inr enabled.2)
      exact falls_modify orderly opened isStarted
        ⟨opened name, Client.rank_arriveAtClient enabled.1 enabled.2⟩
  | serverPoll =>
      obtain ⟨currSock, isLater, -⟩ := orderly.serverPoll enabled.2
      dsimp only
      rw [isLater]
      refine ⟨opened, ?_⟩
      simp only [World.rank, World.started, enabled.1, if_true, reduceCtorEq, if_false]
      omega
  | serverServe newSocket =>
      obtain ⟨others, higher, later, served⟩ := orderly.serverServe enabled
      refine served.falls orderly later opened fun isPolling => ?_
      rw [Enabled, isPolling] at enabled
      exact enabled.elim
  | clientPoll name =>
      obtain ⟨currSock, isLater, -⟩ :=
        (orderly.clients name).poll (sockets.socketNum_ne name) enabled.1 enabled.2
      refine falls_modify orderly opened (by simp [enabled.1]) ?_
      rw [isLater]
      exact ⟨opened name, Client.rank_serving enabled.1 currSock⟩
  | clientServe name stack =>
      obtain ⟨currSock, isServing⟩ := Client.serving_of_returns enabled
      obtain ⟨-, served⟩ :=
        (orderly.clients name).finishPass (sockets.socketNum_ne name) enabled stack
      refine falls_modify orderly opened (by simp [isServing]) ?_
      exact Client.rank_served served (opened name) (by simp [isServing])
  | connect | enter | endInput | killClient | killServer | hangUp | reset => exact internal.elim

theorem Lively.step (lively : Lively sockets world) {action : Action Name}
    (enabled : Enabled sockets world action) (harmless : action.Harmless)
    (goesOn : ∀ name, action ≠ .endInput name) : Lively sockets (world.step sockets action) := by
  obtain ⟨⟨members, limit, orderly⟩, opened⟩ := lively
  refine ⟨orderly.step enabled harmless, ?_⟩
  by_cases internal : action.Internal
  · exact (orderly.falls opened enabled internal).1
  · unfold World.step
    cases action with
    | connect name =>
        have kept : KeyboardsOpen (world.modify name Client.connect) :=
          opened.modify (by exact opened name)
        exact kept
    | enter name chunk => exact opened.modify (by exact opened name)
    | killClient name => exact opened.modify (by exact opened name)
    | endInput name => exact absurd rfl (goesOn name)
    | killServer | hangUp | reset => exact harmless.elim
    | arriveAtServer | arriveAtClient | serverPoll | serverServe | clientPoll | clientServe =>
        exact absurd trivial internal

end World

end CPE464.P2
