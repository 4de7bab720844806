/-
The service while no connection is lost, nobody kills the server and its standard input is not
hung up.

The server then waits on just the sockets whose clients are still there, and whoever has been
told that a socket is ready finds it ready: neither program ends on its own.
-/

import CPE464.P2.EchoService

namespace CPE464.P2

open General

namespace Stream

variable {stream : Stream}

/-- `recv` finds something: bytes, or the end of the stream. -/
def Readable (stream : Stream) : Prop :=
  stream.arrived ≠ [] ∨ stream.underWay = [] ∧ stream.ending = .closed

theorem Readable.arrive (readable : Readable stream) (count : Nat) :
    Readable (stream.arrive count) := by
  rcases readable with some | ⟨nothing, closed⟩
  · exact .inl fun none => some (List.append_eq_nil_iff.mp none).1
  · exact .inr ⟨by simp [Stream.arrive, nothing], closed⟩

theorem Readable.put (readable : Readable stream) (opened : stream.ending = .quiet)
    (bytes : List UInt8) : Readable (stream.put bytes) := by
  rcases readable with some | ⟨-, closed⟩
  · exact .inl some
  · rw [opened] at closed
    cases closed

theorem Readable.finish (readable : Readable stream) : Readable stream.finish := by
  rcases readable with some | ⟨nothing, closed⟩
  · exact .inl some
  · exact .inr ⟨nothing, by simp [Stream.finish, closed]⟩

theorem ready_iff (unfailed : stream.ending ≠ .failed) :
    stream.readiness.readable = true ∨ stream.readiness.condition = true ↔ Readable stream := by
  obtain ⟨arrived, underWay, ending⟩ := stream
  cases ending <;> cases arrived <;> cases underWay <;>
    simp [Stream.readiness, Stream.connection, Readable] at unfailed ⊢

theorem Readable.returns (readable : Readable stream) {messages : List (List UInt8)}
    (carries : stream.Carries messages)
    (nothing : stream.underWay = []) :
    (recvPDU stream.connection maxBuf).result ≠ .waiting := by
  intro waits
  cases carries.receives with
  | waits pending _ =>
      rcases pending with some | ⟨none, isQuiet⟩
      · exact some nothing
      · rcases readable with arrived | ⟨-, isClosed⟩
        · subst none
          exact arrived (List.append_eq_nil_iff.mp carries.bytes).1
        · rw [isQuiet] at isClosed
          cases isClosed
  | closed _ _ call =>
      rw [call] at waits
      cases waits
  | message _ _ _ _ call _ _ =>
      rw [call] at waits
      cases waits

end Stream

namespace Client

variable {client : Client} {socketNum : Nat}

/-- `toServer` has been finished exactly if the client has ended. -/
structure Orderly (client : Client) (socketNum : Nat) : Prop where
  typed : Typed client
  intact : Intact client
  shown : List.Forall₂ Shows client.printed client.received
  up : client.toClient.ending = .quiet
  finished : client.toServer.ending = if client.phase = .exited then .closed else .quiet
  serving : ∀ currSock, client.phase = .serving currSock →
    currSock = stdinFileno ∨ currSock = socketNum ∧ client.toClient.arrived ≠ []
  unused : client.phase = .notStarted → client.toServer = .empty ∧ client.toClient = .empty

theorem start_orderly (socketNum : Nat) : Orderly start socketNum where
  typed := start_inv.typed
  intact := ⟨[], [], rfl, ⟨rfl, Ending.noConfusion, List.forall_mem_nil _⟩,
    ⟨rfl, Ending.noConfusion, List.forall_mem_nil _⟩⟩
  shown := .nil
  up := rfl
  finished := rfl
  serving := fun _ isServing => by cases isServing
  unused := fun _ => ⟨rfl, rfl⟩

theorem Orderly.toServer_quiet (orderly : Orderly client socketNum)
    (running : client.phase ≠ .exited) : client.toServer.ending = .quiet := by
  rw [orderly.finished, if_neg running]

theorem Orderly.toServer_unfailed (orderly : Orderly client socketNum) :
    client.toServer.ending ≠ .failed := by
  rw [orderly.finished]
  split <;> exact Ending.noConfusion

theorem pollSet_holds (socketNum : Nat) : ∃ pollSet members limit,
    Client.pollSet socketNum = .ok pollSet ∧ pollSet.Holds members limit ∧ 0 < limit ∧
      ∀ index, index ∈ members ↔ index = stdinFileno ∨ index = socketNum := by
  have addsFirst : PollSet.AddsFirst [.add stdinFileno, .add socketNum] := by
    intro index other found
    match index with
    | 0 | 1 | _ + 2 => cases found
  obtain ⟨pollSet, made, holds⟩ :=
    PollSet.calls_holds [] PollSet.setupPollSet_holds addsFirst
  refine ⟨pollSet, _, _, made, holds, ?_, fun index => ?_⟩
  · exact Nat.lt_of_lt_of_le Nat.zero_lt_one
      ((Nat.le_max_right 0 1).trans (Nat.le_max_left _ (socketNum + 1)))
  · change index ∈ insert socketNum (insert stdinFileno ∅) ↔ _
    rw [Finset.mem_insert, Finset.mem_insert, or_comm]
    simp

theorem pollCall_closed (closed : client.keyboard.closed = true) (socketNum : Nat) :
    client.pollCall socketNum = .ok 0 := by
  obtain ⟨pollSet, members, limit, made, holds, positive, -⟩ := pollSet_holds socketNum
  rw [Client.pollCall, made, Except.bind, holds.pollCall_broken _ positive]
  simp [descriptors, stdinFileno, Keyboard.readiness, closed]

/-- The keyboard comes first, then the socket. -/
theorem pollCall_eq (orderly : Orderly client socketNum) (socketNum_ne : socketNum ≠ stdinFileno) :
    client.pollCall socketNum =
      .ok (if client.keyboard.chunks ≠ [] ∨ client.keyboard.closed = true then 0
        else if client.toClient.arrived ≠ [] then socketNum else -1) := by
  by_cases closed : client.keyboard.closed = true
  · rw [pollCall_closed closed, if_pos (.inr closed)]
  · obtain ⟨pollSet, members, limit, made, holds, -, isMember⟩ := pollSet_holds socketNum
    rw [Client.pollCall, made, Except.bind]
    have goodOrder : (client.descriptors socketNum 0).condition = false := by
      simpa [descriptors, stdinFileno, Keyboard.readiness] using closed
    have atKeyboard : PollSet.Ready (client.descriptors socketNum) stdinFileno ↔
        client.keyboard.chunks ≠ [] := by
      simp [PollSet.Ready, descriptors, Keyboard.readiness, closed]
    have atSocket : PollSet.Ready (client.descriptors socketNum) socketNum ↔
        client.toClient.arrived ≠ [] := by
      have unfailed : client.toClient.ending ≠ .failed := by simp [orderly.up]
      unfold PollSet.Ready
      simp only [descriptors, if_neg socketNum_ne, if_true, Stream.ready_iff unfailed,
        Stream.Readable, orderly.up, reduceCtorEq, and_false, or_false]
    have keyboardMember := (isMember stdinFileno).mpr (.inl rfl)
    have socketMember := (isMember socketNum).mpr (.inr rfl)
    rcases holds.pollCall_goodOrder goodOrder with ⟨index, member, ready, least, answer⟩ |
      ⟨none, answer⟩
    · rw [answer]
      rcases (isMember index).mp member with rfl | rfl
      · rw [if_pos (.inl (atKeyboard.mp ready))]
        rfl
      · have noKeys : ¬(client.keyboard.chunks ≠ [] ∨ client.keyboard.closed = true) := by
          rintro (keys | isClosed)
          · exact socketNum_ne (Nat.le_zero.mp (least _ keyboardMember (atKeyboard.mpr keys)))
          · exact closed isClosed
        rw [if_neg noKeys, if_pos (atSocket.mp ready)]
    · have noKeys : ¬(client.keyboard.chunks ≠ [] ∨ client.keyboard.closed = true) := by
        rintro (keys | isClosed)
        · exact none _ keyboardMember (atKeyboard.mpr keys)
        · exact closed isClosed
      rw [answer, if_neg noKeys, if_neg fun arrived => none _ socketMember (atSocket.mpr arrived)]

/-! ### Steps of a client -/

theorem Orderly.frame (orderly : Orderly client socketNum) {later : Client}
    (typed : Typed later) (entered : later.entered = client.entered)
    (received : later.received = client.received) (printed : later.printed = client.printed)
    (toServer : later.toServer = client.toServer)
    (toClient : later.toClient = client.toClient)
    (ended : later.phase = .exited ↔ client.phase = .exited)
    (begun : later.phase = .notStarted → client.phase = .notStarted)
    (serving : ∀ currSock, later.phase = .serving currSock →
      currSock = stdinFileno ∨ currSock = socketNum ∧ client.toClient.arrived ≠ []) :
    Orderly later socketNum where
  typed := typed
  intact := by
    obtain ⟨back, forth, split, carriesBack, carriesForth⟩ := orderly.intact
    exact ⟨back, forth, by rw [received, entered, split], toClient ▸ carriesBack,
      toServer ▸ carriesForth⟩
  shown := by
    rw [printed, received]
    exact orderly.shown
  up := toClient ▸ orderly.up
  finished := by
    rw [toServer, orderly.finished]
    simp only [ended]
  serving := fun currSock isServing => toClient ▸ serving currSock isServing
  unused := fun notYet => toServer ▸ toClient ▸ orderly.unused (begun notYet)

theorem Orderly.connect (orderly : Orderly client socketNum)
    (notStarted : client.phase = .notStarted) : Orderly client.connect socketNum :=
  orderly.frame orderly.typed rfl rfl rfl rfl rfl (by simp [Client.connect, notStarted])
    (fun _ => notStarted) fun _ isServing => by cases isServing

theorem Orderly.enter (orderly : Orderly client socketNum)
    (opened : client.keyboard.closed = false) (chunk : Chunk) :
    Orderly (client.enter chunk) socketNum :=
  orderly.frame (orderly.typed.enter opened chunk) rfl rfl rfl rfl rfl Iff.rfl id orderly.serving

theorem Orderly.endInput (orderly : Orderly client socketNum) :
    Orderly client.endInput socketNum := by
  obtain ⟨texts, entered, areTexts, ends, stream, atEnd⟩ := orderly.typed
  exact orderly.frame
    ⟨texts, entered, areTexts, ends, stream, atEnd.imp_right fun both => ⟨rfl, both.2⟩⟩
    rfl rfl rfl rfl rfl Iff.rfl id orderly.serving

theorem Orderly.exit (orderly : Orderly client socketNum) : Orderly client.exit socketNum where
  typed := orderly.typed
  intact := by
    obtain ⟨back, forth, split, carriesBack, carriesForth⟩ := orderly.intact
    exact ⟨back, forth, split, carriesBack, carriesForth.finish⟩
  shown := orderly.shown
  up := orderly.up
  finished := by
    have isFinished := orderly.finished
    simp only [Client.exit, Stream.finish, isFinished]
    split <;> rfl
  serving := fun _ isServing => by cases isServing
  unused := fun notYet => by cases notYet

theorem Orderly.arriveAtServer (orderly : Orderly client socketNum) (count : Nat) :
    Orderly { client with toServer := client.toServer.arrive count } socketNum where
  typed := orderly.typed
  intact := by
    obtain ⟨back, forth, split, carriesBack, carriesForth⟩ := orderly.intact
    exact ⟨back, forth, split, carriesBack, carriesForth.arrive count⟩
  shown := orderly.shown
  up := orderly.up
  finished := orderly.finished
  serving := orderly.serving
  unused := fun notYet => (orderly.unused notYet).imp_left fun empty =>
    (Stream.arrive_nothing (by rw [empty]; rfl) count).trans empty

theorem Orderly.arriveAtClient (orderly : Orderly client socketNum) (count : Nat) :
    Orderly { client with toClient := client.toClient.arrive count } socketNum where
  typed := orderly.typed
  intact := by
    obtain ⟨back, forth, split, carriesBack, carriesForth⟩ := orderly.intact
    exact ⟨back, forth, split, carriesBack.arrive count, carriesForth⟩
  shown := orderly.shown
  up := orderly.up
  finished := orderly.finished
  serving := fun currSock isServing => (orderly.serving currSock isServing).imp_right fun both =>
    ⟨both.1, fun none => both.2 (List.append_eq_nil_iff.mp none).1⟩
  unused := fun notYet => (orderly.unused notYet).imp_right fun empty =>
    (Stream.arrive_nothing (by rw [empty]; rfl) count).trans empty

theorem Orderly.poll (orderly : Orderly client socketNum) (socketNum_ne : socketNum ≠ stdinFileno)
    (polling : client.phase = .polling) (reported : client.pollCall socketNum ≠ .ok (-1)) :
    ∃ currSock, client.poll socketNum = { client with phase := .serving currSock } ∧
      Orderly { client with phase := .serving currSock } socketNum := by
  have framed : ∀ currSock, (currSock = stdinFileno ∨ currSock = socketNum ∧
      client.toClient.arrived ≠ []) →
        Orderly { client with phase := .serving currSock } socketNum := by
    intro currSock ready
    refine orderly.frame orderly.typed rfl rfl rfl rfl rfl (by simp [polling])
      (fun notYet => by cases notYet) fun other isServing => ?_
    cases isServing
    exact ready
  have answer := pollCall_eq orderly socketNum_ne
  rw [answer] at reported
  unfold Client.poll
  rw [answer]
  by_cases keys : client.keyboard.chunks ≠ [] ∨ client.keyboard.closed = true
  · rw [if_pos keys]
    exact ⟨0, rfl, framed 0 (.inl rfl)⟩
  · rw [if_neg keys] at reported ⊢
    by_cases arrived : client.toClient.arrived ≠ []
    · rw [if_pos arrived]
      have positive : ¬(socketNum : Int) < 0 := by omega
      simp only [if_neg positive, Int.toNat_natCast]
      exact ⟨socketNum, rfl, framed socketNum (.inr ⟨rfl, arrived⟩)⟩
    · rw [if_neg arrived] at reported
      exact absurd rfl reported

def echoed (client : Client) (message : List UInt8) (connection : Connection) : Client :=
  { client with
    toServer := client.toServer.leave connection
    toClient := client.toClient.put (pdu message) }

theorem Orderly.echoed (orderly : Orderly client socketNum) {message : List UInt8}
    {connection : Connection} {back others : List (List UInt8)}
    (split : client.received ++ back ++ message :: others = client.entered)
    (carriesBack : client.toClient.Carries back) (sized : IsMessage message)
    (carries : (client.toServer.leave connection).Carries others)
    (shorter : client.toServer.arrived.length =
      (client.toServer.leave connection).arrived.length + message.length + 2) :
    Orderly (client.echoed message connection) socketNum where
  typed := orderly.typed
  intact := by
    refine ⟨back ++ [message], others, ?_, carriesBack.put sized, carries⟩
    change client.received ++ _ ++ _ = client.entered
    rw [← split]
    simp
  shown := orderly.shown
  up := orderly.up
  finished := orderly.finished
  serving := orderly.serving
  unused := fun notYet => by
    have empty := (orderly.unused notYet).1
    rw [empty] at shorter
    change 0 = _ at shorter
    omega

/-- What the rest of a pass does: a message is entered, or one is received and printed. -/
inductive Served (client later : Client) : Prop where
  | entered (sendBuf : List UInt8) (keyboard : Keyboard)
      (read : client.keyboard.processStdin = some (sendBuf, keyboard))
      (isLater : later = { client with
        keyboard
        entered := client.entered ++ [sendBuf]
        phase := .polling
        toServer := client.toServer.put (pdu sendBuf) })
  | printed (first text : List UInt8) (connection : Connection)
      (shorter : client.toClient.arrived.length =
        (client.toClient.leave connection).arrived.length + first.length + 2)
      (isLater : later = { client with
        toClient := client.toClient.leave connection
        received := client.received ++ [first]
        printed := client.printed ++ [((first.length : Int), text)]
        phase := .polling })

theorem Served.phase {later : Client} (served : Served client later) : later.phase = .polling := by
  cases served with
  | entered _ _ _ isLater | printed _ _ _ _ isLater => rw [isLater]

theorem serving_of_returns {capacity : Nat}
    (returns : World.ClientReturns client capacity socketNum client.phase) :
    ∃ currSock, client.phase = .serving currSock := by
  cases isPhase : client.phase with
  | serving currSock => exact ⟨currSock, rfl⟩
  | notStarted | polling | exited =>
      rw [isPhase] at returns
      exact returns.elim

theorem Orderly.finishPass (orderly : Orderly client socketNum)
    (socketNum_ne : socketNum ≠ stdinFileno) {capacity : Nat}
    (returns : World.ClientReturns client capacity socketNum client.phase) (stack : List UInt8) :
    Orderly (client.finishPass socketNum stack) socketNum ∧
      Served client (client.finishPass socketNum stack) := by
  obtain ⟨currSock, isServing⟩ := serving_of_returns returns
  have running : client.phase ≠ .exited := by simp [isServing]
  have opened := orderly.toServer_quiet running
  obtain ⟨back, forth, split, carriesBack, carriesForth⟩ := orderly.intact
  rw [finishPass_serving isServing]
  rw [isServing, World.ClientReturns] at returns
  rcases orderly.serving currSock isServing with rfl | ⟨rfl, arrived⟩
  · rw [if_pos rfl] at returns
    obtain ⟨sendBuf, keyboard, read⟩ : ∃ sendBuf keyboard,
        client.keyboard.processStdin = some (sendBuf, keyboard) := by
      cases read : client.keyboard.processStdin with
      | none =>
          rw [read] at returns
          exact returns.elim
      | some result => exact ⟨result.1, result.2, rfl⟩
    have isLater := serve_read socketNum stack read carriesForth.unfailed
    rw [isLater]
    have typed : Typed { client with
        keyboard
        entered := client.entered ++ [sendBuf]
        phase := .polling
        toServer := client.toServer.put (pdu sendBuf) } := orderly.typed.read read rfl rfl rfl
    have isMessage := typed.isMessage sendBuf
      (List.mem_append_right _ (List.mem_singleton_self sendBuf))
    refine ⟨⟨typed, ⟨back, forth ++ [sendBuf], ?_, carriesBack, carriesForth.put isMessage⟩,
      orderly.shown, orderly.up, opened, (fun _ isServing => by cases isServing),
      fun notYet => by cases notYet⟩, .entered sendBuf keyboard read rfl⟩
    rw [← List.append_assoc, split]
  · rw [if_neg socketNum_ne, connectionAt, if_pos rfl] at returns
    rw [Client.serve, if_neg socketNum_ne, connectionAt, if_pos rfl]
    cases carriesBack.receives with
    | waits _ result => exact absurd result returns
    | closed nothing ending _ =>
        subst nothing
        exact absurd (List.append_eq_nil_iff.mp carriesBack.bytes).1 arrived
    | message first others isFirst later received shorter carries =>
        subst isFirst
        have isMessage := carriesBack.sized first List.mem_cons_self
        rw [processMsgFromServer_message isMessage received]
        refine ⟨⟨orderly.typed, ⟨others, forth, ?_, carries, carriesForth⟩, ?_, orderly.up, opened,
          (fun _ isServing => by cases isServing), fun notYet => by cases notYet⟩,
          .printed first _ later shorter rfl⟩
        · rw [← split]
          simp
        · exact List.rel_append orderly.shown (.cons ⟨rfl, _, rfl⟩ .nil)

end Client

end CPE464.P2
