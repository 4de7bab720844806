/-
What holds of every client, whatever the others do.

The messages made of what was typed have been printed, are on their way back, or are on their way
to the server, in this order.  Only a connection that is lost breaks this: what was under way is
gone, and the last message printed may be a part of one.
-/

import CPE464.General.GuardedRun
import CPE464.P2.Segments
import CPE464.P2.ServerControl

namespace CPE464.P2

open General

/-- A prefix of a stream of messages starts with the first one, or is a piece of it. -/
theorem piece_or_whole {incoming message rest : List UInt8}
    (isPrefix : incoming <+: pdu message ++ rest) :
    (∃ more, incoming = pdu message ++ more ∧ more <+: rest) ∨
      incoming <+: pdu message ∧ incoming.length < (pdu message).length := by
  rcases List.prefix_or_prefix_of_prefix isPrefix (List.prefix_append _ _) with isPiece | isWhole
  · by_cases all : incoming = pdu message
    · exact .inl ⟨[], by rw [all, List.append_nil], List.nil_prefix⟩
    · exact .inr ⟨isPiece, Nat.lt_of_le_of_ne isPiece.length_le fun same =>
        all (isPiece.eq_of_length same)⟩
  · obtain ⟨more, rfl⟩ := isWhole
    exact .inl ⟨more, rfl, (List.prefix_append_right_inj _).mp isPrefix⟩

/-! ### Calls on a connection -/

section Calls

variable {send : List UInt8 → Option Nat} {connReset : Bool} {connection : Connection}

theorem recvFromClient_waiting (waits : (recvPDU connection maxBuf).result = .waiting) :
    (recvFromClient send connReset connection).result = .waiting := by
  simp only [recvFromClient, recvFromClientInto, waits]

theorem recvFromClient_returns (returns : (recvPDU connection maxBuf).result ≠ .waiting) :
    (recvFromClient send connReset connection).result ≠ .waiting := by
  simp only [recvFromClient, recvFromClientInto]
  split
  · rename_i waits
    exact absurd waits returns
  · exact Result.noConfusion
  · split
    · split <;> exact Result.noConfusion
    · split
      · exact Result.noConfusion
      · split <;> exact Result.noConfusion

theorem recvFromClient_closed {later : Connection} {requested : Nat} {stored : List UInt8}
    (call : recvPDU connection maxBuf = ⟨.returned 0, requested, stored, later⟩) :
    recvFromClient send connReset connection = ⟨.returned (-1), [], later⟩ := by
  simp [recvFromClient, recvFromClientInto, call]

theorem recvFromClient_message (takesAll : ∀ bytes, send bytes = some bytes.length)
    {message : List UInt8} (sized : IsMessage message) {later : Connection}
    (call : recvPDU connection maxBuf =
      ⟨.returned message.length, message.length, message, later⟩) :
    recvFromClient send connReset connection = ⟨.returned 0, pdu message, later⟩ := by
  have positive : ¬(message.length : Int) < 0 := by omega
  have nonzero : ¬(message.length : Int) = 0 := by
    have := sized.1
    omega
  simp only [recvFromClient, recvFromClientInto, call, if_neg positive, if_neg nonzero,
    Int.toNat_natCast, sendPDU_eq_pdu takesAll]

/-- Over a lost connection nothing is received for good, or nothing can be sent back. -/
theorem recvFromClient_lost (takesNone : ∀ bytes, send bytes = none)
    {messages : List (List UInt8)} (sized : ∀ message ∈ messages, IsMessage message)
    {incoming : List UInt8} (pieces : incoming <+: (messages.map pdu).flatten) :
    (recvFromClient send connReset ⟨incoming, .failed⟩).result = .exited := by
  have exits : ∀ {stored later requested}, stored ≠ [] →
      recvPDU ⟨incoming, .failed⟩ maxBuf =
        ⟨.returned (stored : List UInt8).length, requested, stored, later⟩ →
        (recvFromClient send connReset ⟨incoming, .failed⟩).result = .exited := by
    intro stored later requested some call
    have positive : ¬(stored.length : Int) < 0 := by omega
    have nonzero : ¬(stored.length : Int) = 0 := by simpa using some
    simp only [recvFromClient, recvFromClientInto, call, if_neg positive, if_neg nonzero, sendPDU,
      takesNone, Option.map_none]
  have exited : (recvPDU ⟨incoming, .failed⟩ maxBuf).result = .exited →
      (recvFromClient send connReset ⟨incoming, .failed⟩).result = .exited := by
    intro fails
    simp only [recvFromClient, recvFromClientInto, fails]
  cases messages with
  | nil =>
      have nothing : incoming = [] := List.prefix_nil.mp pieces
      subst nothing
      exact exited (by rw [recvPDU_of_no_field rfl])
  | cons first others =>
      have isMessage := sized first List.mem_cons_self
      rw [List.map_cons, List.flatten_cons] at pieces
      rcases piece_or_whole pieces with ⟨more, rfl, -⟩ | ⟨isPiece, short⟩
      · have some : first ≠ [] := by
          have := isMessage.1
          rintro rfl
          simp at this
        exact exits some (recvPDU_pdu isMessage.le_payloadMax isMessage.fits more .failed)
      · rcases recvPDU_piece_lost isMessage isPiece short with fails | ⟨cut, -, some, call⟩
        · exact exited fails
        · exact exits some call

theorem processMsgFromServer_message {message : List UInt8} (sized : IsMessage message)
    {later : Connection} (call : recvPDU connection maxBuf =
      ⟨.returned message.length, message.length, message, later⟩) (stack : List UInt8) :
    processMsgFromServer stack connection = .printed message.length message
      (cString (message ++ stack.drop message.length)) later := by
  have nonzero : ¬(message.length : Int) = 0 := by
    have := sized.1
    omega
  simp only [processMsgFromServer, call, if_neg nonzero]

end Calls

theorem Stream.send_unfailed {stream : Stream} (unfailed : stream.ending ≠ .failed)
    (bytes : List UInt8) : stream.send bytes = some bytes.length := if_neg unfailed

theorem Stream.send_failed {stream : Stream} (failed : stream.ending = .failed)
    (bytes : List UInt8) : stream.send bytes = none := if_pos failed

theorem Stream.full {stream : Stream} {capacity : Nat} {bytes : List UInt8}
    (noRoom : ¬stream.HasRoom capacity bytes) : bytes ≠ [] ∧
      capacity < stream.arrived.length + stream.underWay.length + bytes.length :=
  ⟨fun nothing => noRoom (.inl nothing),
    Nat.lt_of_not_le fun fits => noRoom (.inr (.inr fits))⟩

theorem Stream.finish_failed {stream : Stream} (failed : stream.ending = .failed) :
    stream.finish = stream := by
  obtain ⟨arrived, underWay, ending⟩ := stream
  cases failed
  rfl

theorem Stream.arrive_nothing {stream : Stream} (nothing : stream.underWay = []) (count : Nat) :
    stream.arrive count = stream := by
  obtain ⟨arrived, underWay, ending⟩ := stream
  cases nothing
  simp [Stream.arrive]

theorem sendToServer_unfailed {stream : Stream} (unfailed : stream.ending ≠ .failed)
    (sendBuf : List UInt8) :
    sendToServer stream.send sendBuf sendBuf.length = some (pdu sendBuf) := by
  have taken : ¬(sendBuf.length : Int) < 0 := by omega
  simp only [sendToServer, sendPDU_eq_pdu (Stream.send_unfailed unfailed), Option.bind_some,
    if_neg taken]

theorem sendToServer_failed {stream : Stream} (failed : stream.ending = .failed)
    (sendBuf : List UInt8) : sendToServer stream.send sendBuf sendBuf.length = none := by
  simp only [sendToServer, sendPDU, Stream.send_failed failed, Option.map_none, Option.bind_none]

namespace Client

/-! ### What was typed -/

def keys (text : List UInt8) : List UInt8 := text ++ Keyboard.lineEnd (maxBuf - 1) text

def IsText (text : List UInt8) : Prop := text.length ≤ maxBuf - 1 ∧ newline ∉ text

/-- The messages are what was typed, cut at the newlines and where the buffer is full, and
terminated; behind the end of the input they go on as `endOfFile`. -/
def Typed (client : Client) : Prop :=
  ∃ texts : List (List UInt8), client.entered = texts.map (fun text => text ++ [0]) ∧
    (∀ text ∈ texts, IsText text) ∧ ∃ ends, client.typed ++ List.replicate ends endOfFile =
      texts.flatMap keys ++ client.keyboard.stream ∧
        (ends = 0 ∨ client.keyboard.closed = true ∧ client.keyboard.stream = [])

theorem isMessage_of_text {text : List UInt8} (isText : IsText text) :
    IsMessage (text ++ [0]) := by
  have := isText.1
  unfold IsMessage maxBuf at *
  rw [List.length_append, List.length_singleton]
  omega

variable {client : Client}

theorem Typed.isMessage (typed : Typed client) : ∀ message ∈ client.entered, IsMessage message := by
  obtain ⟨texts, entered, areTexts, -⟩ := typed
  intro message member
  rw [entered] at member
  obtain ⟨text, isMember, rfl⟩ := List.mem_map.mp member
  exact isMessage_of_text (areTexts text isMember)

theorem Typed.terminated (typed : Typed client) : ∀ message ∈ client.entered, 0 ∈ message := by
  obtain ⟨texts, entered, -⟩ := typed
  intro message member
  rw [entered] at member
  obtain ⟨text, -, rfl⟩ := List.mem_map.mp member
  exact List.mem_append_right _ (List.mem_singleton_self 0)

theorem Typed.enter (typed : Typed client) (opened : client.keyboard.closed = false)
    (chunk : Chunk) : Typed (client.enter chunk) := by
  obtain ⟨texts, entered, areTexts, ends, stream, atEnd⟩ := typed
  have none : ends = 0 := atEnd.resolve_right fun both => by
    rw [opened] at both
    exact Bool.false_ne_true both.1
  subst none
  rw [List.replicate_zero, List.append_nil] at stream
  refine ⟨texts, entered, areTexts, 0, ?_, .inl rfl⟩
  simp only [Client.enter, stream, Keyboard.stream, List.replicate_zero, List.append_nil,
    List.append_assoc, List.flatMap_append, List.flatMap_cons, List.flatMap_nil]

theorem Typed.read (typed : Typed client) {sendBuf : List UInt8} {keyboard : Keyboard}
    (read : client.keyboard.processStdin = some (sendBuf, keyboard)) {later : Client}
    (same : later.typed = client.typed) (isKeyboard : later.keyboard = keyboard)
    (isEntered : later.entered = client.entered ++ [sendBuf]) : Typed later := by
  obtain ⟨texts, entered, areTexts, ends, stream, atEnd⟩ := typed
  obtain ⟨⟨text, last⟩, chars, isRead⟩ := Option.map_eq_some_iff.mp read
  obtain ⟨rfl, rfl⟩ := Prod.mk.inj isRead
  have line := Keyboard.readChars_readsLine chars
  obtain ⟨more, rest, nowAtEnd⟩ := line.stream
  refine ⟨texts ++ [text], ?_, ?_, ends + more, ?_, ?_⟩
  · rw [isEntered, entered, List.map_append]
    rfl
  · intro other member
    rcases List.mem_append.mp member with old | new
    · exact areTexts other old
    · exact List.mem_singleton.mp new ▸ ⟨line.length_le, line.noNewline⟩
  · rw [same, isKeyboard, ← List.replicate_append_replicate, ← List.append_assoc, stream,
      List.append_assoc, rest]
    simp only [keys, List.flatMap_append, List.flatMap_cons, List.flatMap_nil, List.append_nil,
      List.append_assoc]
  · rw [isKeyboard, line.closed_eq]
    rcases nowAtEnd with rfl | both
    · rcases atEnd with rfl | ⟨closed, nothing⟩
      · exact .inl rfl
      · rw [nothing, List.replicate_zero, List.append_nil] at rest
        exact .inr ⟨closed, (List.append_eq_nil_iff.mp rest.symm).2⟩
    · exact .inr both

/-! ### The connection -/

/-- Everything that was entered has been received back, is on its way back, or is on its way to the
server. -/
def Intact (client : Client) : Prop :=
  ∃ back forth, client.received ++ back ++ forth = client.entered ∧
    client.toClient.Carries back ∧ client.toServer.Carries forth

/-- What has been received, and what still can be, once the connection is lost. -/
inductive Remains (entered received : List (List UInt8)) (arrived : List UInt8) : Prop where
  | whole (back : List (List UInt8)) (isPrefix : received ++ back <+: entered)
      (bytes : arrived <+: (back.map pdu).flatten)
  | cut (done : List (List UInt8)) (part message : List UInt8)
      (isReceived : received = done ++ [part]) (isPart : part <+: message) (some : part ≠ [])
      (isPrefix : done ++ [message] <+: entered) (nothing : arrived = [])

structure Lost (client : Client) : Prop where
  toServer : client.toServer.ending = .failed
  toClient : client.toClient.ending = .failed
  noneToServer : client.toServer.underWay = []
  noneToClient : client.toClient.underWay = []
  pieces : ∃ forth : List (List UInt8), (∀ message ∈ forth, IsMessage message) ∧
    client.toServer.arrived <+: (forth.map pdu).flatten
  remains : Remains client.entered client.received client.toClient.arrived

structure Inv (client : Client) : Prop where
  typed : Typed client
  connection : Intact client ∨ Lost client
  shown : List.Forall₂ Shows client.printed client.received

theorem start_inv : Inv start where
  typed := ⟨[], rfl, List.forall_mem_nil _, 0, rfl, .inl rfl⟩
  connection := .inl ⟨[], [], rfl, ⟨rfl, Ending.noConfusion, List.forall_mem_nil _⟩,
    ⟨rfl, Ending.noConfusion, List.forall_mem_nil _⟩⟩
  shown := .nil

theorem Inv.frame (inv : Inv client) {later : Client} (typed : Typed later)
    (entered : later.entered = client.entered) (received : later.received = client.received)
    (printed : later.printed = client.printed) (toServer : later.toServer = client.toServer)
    (toClient : later.toClient = client.toClient) : Inv later where
  typed := typed
  connection := by
    rcases inv.connection with ⟨back, forth, split, carriesBack, carriesForth⟩ | lost
    · exact .inl ⟨back, forth, by rw [received, entered, split], toClient ▸ carriesBack,
        toServer ▸ carriesForth⟩
    · exact .inr ⟨toServer ▸ lost.toServer, toClient ▸ lost.toClient,
        toServer ▸ lost.noneToServer, toClient ▸ lost.noneToClient, toServer ▸ lost.pieces,
        by rw [entered, received, toClient]; exact lost.remains⟩
  shown := by
    rw [printed, received]
    exact inv.shown

theorem Inv.phase (inv : Inv client) (phase : Phase) : Inv { client with phase } :=
  inv.frame inv.typed rfl rfl rfl rfl rfl

theorem Inv.enter (inv : Inv client) (opened : client.keyboard.closed = false) (chunk : Chunk) :
    Inv (client.enter chunk) :=
  inv.frame (inv.typed.enter opened chunk) rfl rfl rfl rfl rfl

theorem Inv.endInput (inv : Inv client) : Inv client.endInput := by
  obtain ⟨texts, entered, areTexts, ends, stream, atEnd⟩ := inv.typed
  exact inv.frame
    ⟨texts, entered, areTexts, ends, stream, atEnd.imp_right fun both => ⟨rfl, both.2⟩⟩
    rfl rfl rfl rfl rfl

theorem Inv.toServer (inv : Inv client) {toServer : Stream}
    (keeps : ∀ forth, client.toServer.Carries forth → toServer.Carries forth)
    (same : client.toServer.ending = .failed → client.toServer.underWay = [] →
      toServer = client.toServer) :
    Inv { client with toServer } where
  typed := inv.typed
  connection := by
    rcases inv.connection with ⟨back, forth, split, carriesBack, carriesForth⟩ | lost
    · exact .inl ⟨back, forth, split, carriesBack, keeps forth carriesForth⟩
    · have isSame := same lost.toServer lost.noneToServer
      subst isSame
      exact .inr lost
  shown := inv.shown

theorem Inv.toClient (inv : Inv client) {toClient : Stream}
    (keeps : ∀ back, client.toClient.Carries back → toClient.Carries back)
    (same : client.toClient.ending = .failed → client.toClient.underWay = [] →
      toClient = client.toClient) :
    Inv { client with toClient } where
  typed := inv.typed
  connection := by
    rcases inv.connection with ⟨back, forth, split, carriesBack, carriesForth⟩ | lost
    · exact .inl ⟨back, forth, split, keeps back carriesBack, carriesForth⟩
    · have isSame := same lost.toClient lost.noneToClient
      subst isSame
      exact .inr lost
  shown := inv.shown

theorem Inv.exit (inv : Inv client) : Inv client.exit := by
  have finished : Inv { client with toServer := client.toServer.finish } :=
    inv.toServer (fun _ carries => carries.finish) fun failed _ => Stream.finish_failed failed
  exact finished.phase .exited

theorem Inv.serverGone (inv : Inv client) :
    Inv { client with toClient := client.toClient.finish } :=
  inv.toClient (fun _ carries => carries.finish) fun failed _ => Stream.finish_failed failed

theorem Inv.arriveAtServer (inv : Inv client) (count : Nat) :
    Inv { client with toServer := client.toServer.arrive count } :=
  inv.toServer (fun _ carries => carries.arrive count) fun _ nothing =>
    Stream.arrive_nothing nothing count

theorem Inv.arriveAtClient (inv : Inv client) (count : Nat) :
    Inv { client with toClient := client.toClient.arrive count } :=
  inv.toClient (fun _ carries => carries.arrive count) fun _ nothing =>
    Stream.arrive_nothing nothing count

theorem Inv.reset (inv : Inv client) : Inv client.reset where
  typed := inv.typed
  connection := by
    right
    rcases inv.connection with ⟨back, forth, split, carriesBack, carriesForth⟩ | lost
    · exact ⟨rfl, rfl, rfl, rfl, ⟨forth, carriesForth.sized, _, carriesForth.bytes⟩,
        .whole back ⟨forth, split⟩ ⟨_, carriesBack.bytes⟩⟩
    · exact ⟨rfl, rfl, rfl, rfl, lost.pieces, lost.remains⟩
  shown := inv.shown

theorem Inv.poll (inv : Inv client) (socketNum : Nat) : Inv (client.poll socketNum) := by
  unfold Client.poll
  split
  · split
    · exact inv.exit
    · exact inv.phase _
  · exact inv.exit

/-! ### A pass of the loop -/

theorem serve_read (socketNum : Nat) (stack : List UInt8) {sendBuf : List UInt8}
    {keyboard : Keyboard} (read : client.keyboard.processStdin = some (sendBuf, keyboard))
    (unfailed : client.toServer.ending ≠ .failed) :
    client.serve socketNum stdinFileno stack = { client with
      keyboard
      entered := client.entered ++ [sendBuf]
      phase := .polling
      toServer := client.toServer.put (pdu sendBuf) } := by
  simp only [Client.serve, if_true, read, sendToServer_unfailed unfailed]

theorem serve_read_lost (socketNum : Nat) (stack : List UInt8) {sendBuf : List UInt8}
    {keyboard : Keyboard} (read : client.keyboard.processStdin = some (sendBuf, keyboard))
    (failed : client.toServer.ending = .failed) :
    client.serve socketNum stdinFileno stack = { client with
      keyboard
      entered := client.entered ++ [sendBuf]
      phase := .exited } := by
  simp only [Client.serve, if_true, read, sendToServer_failed failed, Client.exit,
    Stream.finish_failed failed]

theorem Inv.serveStdin (inv : Inv client) (socketNum : Nat) (stack : List UInt8) :
    Inv (client.serve socketNum stdinFileno stack) := by
  cases read : client.keyboard.processStdin with
  | none =>
      simp only [Client.serve, if_true, read]
      exact inv
  | some result =>
      obtain ⟨sendBuf, keyboard⟩ := result
      rcases inv.connection with ⟨back, forth, split, carriesBack, carriesForth⟩ | lost
      · rw [serve_read socketNum stack read carriesForth.unfailed]
        have typed : Typed { client with
            keyboard
            entered := client.entered ++ [sendBuf]
            phase := .polling
            toServer := client.toServer.put (pdu sendBuf) } := inv.typed.read read rfl rfl rfl
        refine ⟨typed, .inl ⟨back, forth ++ [sendBuf], ?_, carriesBack, ?_⟩, inv.shown⟩
        · rw [← List.append_assoc, split]
        · exact carriesForth.put
            (typed.isMessage sendBuf (List.mem_append_right _ (List.mem_singleton_self sendBuf)))
      · rw [serve_read_lost socketNum stack read lost.toServer]
        refine ⟨inv.typed.read read rfl rfl rfl, .inr ⟨lost.toServer, lost.toClient,
          lost.noneToServer, lost.noneToClient, lost.pieces, ?_⟩, inv.shown⟩
        have longer : client.entered <+: client.entered ++ [sendBuf] := List.prefix_append _ _
        cases lost.remains with
        | whole back isPrefix bytes => exact .whole back (isPrefix.trans longer) bytes
        | cut done part message isReceived isPart some isPrefix nothing =>
            exact .cut done part message isReceived isPart some (isPrefix.trans longer) nothing

/-- Over a lost connection what has arrived of the next message is printed, all or a part. -/
theorem Remains.printed {entered received : List (List UInt8)} {incoming : List UInt8}
    (remains : Remains entered received incoming)
    (sized : ∀ message ∈ entered, IsMessage message) {connection : Connection} {messageLen : Int}
    {stack stored text : List UInt8} (prints : processMsgFromServer stack ⟨incoming, .failed⟩ =
      .printed messageLen stored text connection) :
    Remains entered (received ++ [stored]) connection.incoming ∧
      Shows (messageLen, text) stored := by
  have exits : (recvPDU ⟨incoming, .failed⟩ maxBuf).result ≠ .exited := by
    intro exited
    simp only [processMsgFromServer, exited] at prints
    cases prints
  have nothingLeft : incoming ≠ [] := by
    rintro rfl
    exact exits (by rw [recvPDU_of_no_field rfl])
  cases remains with
  | cut _ _ _ _ _ _ _ nothing => exact absurd nothing nothingLeft
  | whole back isPrefix bytes =>
      cases back with
      | nil => exact absurd (List.prefix_nil.mp bytes) nothingLeft
      | cons first others =>
          have isMessage := sized first
            (isPrefix.subset (List.mem_append_right _ List.mem_cons_self))
          rw [List.map_cons, List.flatten_cons] at bytes
          rcases piece_or_whole bytes with ⟨more, rfl, isRest⟩ | ⟨isPiece, short⟩
          · have call := recvPDU_pdu isMessage.le_payloadMax isMessage.fits more .failed
            rw [processMsgFromServer_message isMessage call] at prints
            cases prints
            refine ⟨.whole others ?_ isRest, rfl, _, rfl⟩
            rwa [List.append_assoc, List.singleton_append]
          · obtain ⟨part, isPart, some, call⟩ :=
              (recvPDU_piece_lost isMessage isPiece short).resolve_left exits
            have nonzero : ¬(part.length : Int) = 0 := by simpa using some
            simp only [processMsgFromServer, call, if_neg nonzero] at prints
            cases prints
            refine ⟨.cut _ _ first rfl isPart some (.trans ?_ isPrefix) rfl, rfl, _, rfl⟩
            rw [List.prefix_append_right_inj]
            exact List.prefix_append [first] others

theorem Inv.printed (inv : Inv client) {connection : Connection} {messageLen : Int}
    {stack stored text : List UInt8}
    (prints : processMsgFromServer stack client.toClient.connection =
      .printed messageLen stored text connection) :
    Inv { client with
      toClient := client.toClient.leave connection
      received := client.received ++ [stored]
      printed := client.printed ++ [(messageLen, text)]
      phase := .polling } := by
  rcases inv.connection with ⟨back, forth, split, carriesBack, carriesForth⟩ | lost
  · cases carriesBack.receives with
    | waits _ result => simp [processMsgFromServer, result] at prints
    | closed _ _ call => simp [processMsgFromServer, call] at prints
    | message first others isFirst later call _ carries =>
        subst isFirst
        have isMessage := carriesBack.sized first List.mem_cons_self
        rw [processMsgFromServer_message isMessage call] at prints
        cases prints
        refine ⟨inv.typed, .inl ⟨others, forth, ?_, carries, carriesForth⟩,
          List.rel_append inv.shown (.cons ⟨rfl, _, rfl⟩ .nil)⟩
        rw [← split]
        simp
  · have isLost : client.toClient.connection = ⟨client.toClient.arrived, .failed⟩ := by
      rw [Stream.connection, if_pos lost.noneToClient, lost.toClient]
    rw [isLost] at prints
    obtain ⟨left, shows⟩ := lost.remains.printed inv.typed.isMessage prints
    exact ⟨inv.typed, .inr ⟨lost.toServer, lost.toClient, lost.noneToServer, lost.noneToClient,
      lost.pieces, left⟩, List.rel_append inv.shown (.cons shows .nil)⟩

theorem Inv.serve (inv : Inv client) (socketNum currSock : Nat) (stack : List UInt8) :
    Inv (client.serve socketNum currSock stack) := by
  by_cases isStdin : currSock = stdinFileno
  · subst isStdin
    exact inv.serveStdin socketNum stack
  · rw [Client.serve, if_neg isStdin]
    split
    · rename_i messageLen stored text connection prints
      by_cases isSocket : currSock = socketNum
      · rw [connectionAt, if_pos isSocket] at prints
        exact inv.printed prints
      · rw [connectionAt, if_neg isSocket] at prints
        cases prints
    · exact inv.exit
    · exact inv

theorem Inv.echoed (inv : Inv client) {connReset : Bool} {call : RecvFromClient}
    (isCall : recvFromClient client.toClient.send connReset client.toServer.connection = call)
    {value : Int} (returned : call.result = .returned value) :
    Inv { client with
      toServer := client.toServer.leave call.connection
      toClient := client.toClient.put call.sent } := by
  refine ⟨inv.typed, ?_, inv.shown⟩
  rcases inv.connection with ⟨back, forth, split, carriesBack, carriesForth⟩ | lost
  · left
    cases carriesForth.receives with
    | waits _ result =>
        rw [← isCall, recvFromClient_waiting result] at returned
        cases returned
    | closed nothing ending received =>
        rw [recvFromClient_closed received] at isCall
        subst nothing isCall
        have empty : client.toServer.arrived = [] :=
          (List.append_eq_nil_iff.mp carriesForth.bytes).1
        refine ⟨back, [], split, ?_, ⟨?_, carriesForth.unfailed, List.forall_mem_nil _⟩⟩
        · simpa [Stream.put] using carriesBack
        · exact (List.append_eq_nil_iff.mp carriesForth.bytes).2
    | message first others isFirst later received _ carries =>
        subst isFirst
        have isMessage := carriesForth.sized first List.mem_cons_self
        rw [recvFromClient_message (Stream.send_unfailed carriesBack.unfailed) isMessage
          received] at isCall
        subst isCall
        refine ⟨back ++ [first], others, ?_, carriesBack.put isMessage, carries⟩
        rw [← split]
        simp
  · obtain ⟨forth, sized, pieces⟩ := lost.pieces
    have exited : (recvFromClient client.toClient.send connReset
        ⟨client.toServer.arrived, .failed⟩).result = .exited :=
      recvFromClient_lost (Stream.send_failed lost.toClient) sized pieces
    have isLost : client.toServer.connection = ⟨client.toServer.arrived, .failed⟩ := by
      rw [Stream.connection, if_pos lost.noneToServer, lost.toServer]
    rw [← isCall, isLost, exited] at returned
    cases returned

end Client

end CPE464.P2
