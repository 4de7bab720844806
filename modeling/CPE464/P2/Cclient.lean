/-
cclient.c: the keyboard, the socket, and the loop over the two.

`getchar` goes through the buffer of stdio: a read of descriptor 0 takes what is there, and the
bytes behind a line stay in the buffer, where `poll` does not see them.  A call that waits does
nothing before it goes on, so a process that waits is one whose call has not happened yet.
-/

import CPE464.PollLib
import CPE464.P2.Echo

namespace CPE464.P2

open General

def stdinFileno : Nat := 0

def newline : UInt8 := 10

/-- The `char` that the end of the input is stored as. -/
def endOfFile : UInt8 := 255

/-- What one read of descriptor 0 hands over. -/
structure Chunk where
  first : UInt8
  others : List UInt8
  deriving DecidableEq, Repr

def Chunk.bytes (chunk : Chunk) : List UInt8 := chunk.first :: chunk.others

/-- Standard input: what stdio has read ahead, what further reads will hand over, and whether
the input ends there. -/
structure Keyboard where
  buffered : List UInt8
  chunks : List Chunk
  closed : Bool
  deriving DecidableEq, Repr

namespace Keyboard

def getchar (keyboard : Keyboard) : Option (UInt8 × Keyboard) :=
  match keyboard.buffered with
  | aChar :: others => some (aChar, { keyboard with buffered := others })
  | [] =>
      match keyboard.chunks with
      | chunk :: later =>
          some (chunk.first, { keyboard with buffered := chunk.others, chunks := later })
      | [] => if keyboard.closed then some (endOfFile, keyboard) else none

def readChars : Nat → Keyboard → Option (List UInt8 × Keyboard)
  | 0, keyboard => some ([], keyboard)
  | space + 1, keyboard =>
      keyboard.getchar.bind fun read =>
        if read.1 = newline then some ([], read.2)
        else (readChars space read.2).map fun later => (read.1 :: later.1, later.2)

/-- The buffer up to its terminator; `inputLen` is its length. -/
def processStdin (keyboard : Keyboard) : Option (List UInt8 × Keyboard) :=
  (readChars (maxBuf - 1) keyboard).map fun read => (read.1 ++ [0], read.2)

def stream (keyboard : Keyboard) : List UInt8 :=
  keyboard.buffered ++ keyboard.chunks.flatMap Chunk.bytes

def readiness (keyboard : Keyboard) : Readiness where
  readable := !keyboard.chunks.isEmpty || keyboard.closed
  condition := keyboard.closed

end Keyboard

/-! ### One message from the keyboard -/

namespace Keyboard

theorem getchar_cons {keyboard : Keyboard} {aChar : UInt8} {others : List UInt8}
    (typed : keyboard.stream = aChar :: others) :
    ∃ later, keyboard.getchar = some (aChar, later) ∧ later.stream = others ∧
      later.closed = keyboard.closed := by
  obtain ⟨buffered, chunks, closed⟩ := keyboard
  cases buffered with
  | cons first rest =>
      obtain ⟨rfl, rfl⟩ := List.cons.inj typed
      exact ⟨⟨rest, chunks, closed⟩, rfl, rfl, rfl⟩
  | nil =>
      cases chunks with
      | nil => cases typed
      | cons chunk later =>
          obtain ⟨rfl, rfl⟩ := List.cons.inj typed
          exact ⟨⟨chunk.others, later, closed⟩, rfl, rfl, rfl⟩

theorem getchar_nil {keyboard : Keyboard} (nothing : keyboard.stream = []) :
    keyboard.getchar = if keyboard.closed then some (endOfFile, keyboard) else none := by
  obtain ⟨buffered, chunks, closed⟩ := keyboard
  obtain ⟨rfl, noChunks⟩ := List.append_eq_nil_iff.mp nothing
  cases chunks with
  | nil => rfl
  | cons chunk later => cases noChunks

/-- The end of a message on the keyboard: a newline, unless the buffer was full before it. -/
def lineEnd (space : Nat) (text : List UInt8) : List UInt8 :=
  if text.length < space then [newline] else []

/-- What a call reads: a line, or as much of it as there is space for.  At the end of the input
the characters go on as `endOfFile`. -/
structure ReadsLine (space : Nat) (keyboard : Keyboard) (text : List UInt8) (later : Keyboard) :
    Prop where
  length_le : text.length ≤ space
  noNewline : newline ∉ text
  closed_eq : later.closed = keyboard.closed
  stream : ∃ ends, keyboard.stream ++ List.replicate ends endOfFile =
    text ++ lineEnd space text ++ later.stream ∧
      (ends = 0 ∨ keyboard.closed = true ∧ later.stream = [])

theorem ReadsLine.cons {space : Nat} {keyboard next later : Keyboard} {aChar : UInt8}
    {text : List UInt8} (reads : ReadsLine space next text later) (noNewline : aChar ≠ newline)
    (closed_eq : next.closed = keyboard.closed)
    (advances : keyboard.stream = aChar :: next.stream ∨
      keyboard.closed = true ∧ keyboard.stream = [] ∧ next = keyboard ∧ aChar = endOfFile) :
    ReadsLine (space + 1) keyboard (aChar :: text) later := by
  have sameEnd : lineEnd (space + 1) (aChar :: text) = lineEnd space text := by
    simp only [lineEnd, List.length_cons, Nat.add_lt_add_iff_right]
  refine ⟨Nat.succ_le_succ reads.length_le, ?_, reads.closed_eq.trans closed_eq, ?_⟩
  · rw [List.mem_cons, not_or]
    exact ⟨noNewline.symm, reads.noNewline⟩
  · obtain ⟨ends, stream, atEnd⟩ := reads.stream
    rw [sameEnd]
    rcases advances with step | ⟨closed, nothing, rfl, rfl⟩
    · refine ⟨ends, ?_, closed_eq ▸ atEnd⟩
      rw [step, List.cons_append, stream]
      rfl
    · have nothingLeft : later.stream = [] := by
        rcases atEnd with rfl | ⟨-, nothingLeft⟩
        · rw [List.replicate_zero, List.append_nil, nothing] at stream
          exact (List.append_eq_nil_iff.mp stream.symm).2
        · exact nothingLeft
      refine ⟨ends + 1, ?_, .inr ⟨closed, nothingLeft⟩⟩
      rw [nothing, List.nil_append] at stream ⊢
      rw [List.replicate_succ, stream]
      rfl

theorem readChars_readsLine {space : Nat} {keyboard : Keyboard} {text : List UInt8}
    {later : Keyboard} (read : readChars space keyboard = some (text, later)) :
    ReadsLine space keyboard text later := by
  induction space generalizing keyboard text with
  | zero =>
      cases read
      exact ⟨Nat.le_refl 0, List.not_mem_nil, rfl, 0, by simp [lineEnd], .inl rfl⟩
  | succ space ih =>
      rw [readChars] at read
      obtain ⟨⟨aChar, next⟩, got, goesOn⟩ := Option.bind_eq_some_iff.mp read
      have advances : next.closed = keyboard.closed ∧ (keyboard.stream = aChar :: next.stream ∨
          keyboard.closed = true ∧ keyboard.stream = [] ∧ next = keyboard ∧
            aChar = endOfFile) := by
        cases typed : keyboard.stream with
        | cons first others =>
            obtain ⟨moved, gets, rest, closed⟩ := getchar_cons typed
            rw [got] at gets
            cases gets
            exact ⟨closed, .inl (rest ▸ rfl)⟩
        | nil =>
            rw [getchar_nil typed] at got
            split at got
            · rename_i closed
              cases got
              exact ⟨rfl, .inr ⟨closed, rfl, rfl, rfl⟩⟩
            · cases got
      obtain ⟨closed_eq, advances⟩ := advances
      by_cases isNewline : aChar = newline
      · simp only [if_pos isNewline, Option.some.injEq, Prod.mk.injEq] at goesOn
        obtain ⟨rfl, rfl⟩ := goesOn
        refine ⟨Nat.zero_le _, List.not_mem_nil, closed_eq, 0, ?_, .inl rfl⟩
        rcases advances with step | ⟨-, -, -, isEnd⟩
        · simp [step, lineEnd, isNewline]
        · rw [isEnd] at isNewline
          cases isNewline
      · simp only [if_neg isNewline] at goesOn
        obtain ⟨⟨others, last⟩, rest, same⟩ := Option.map_eq_some_iff.mp goesOn
        cases same
        exact (ih rest).cons isNewline closed_eq advances

/-- `processStdin` waits just for the rest of a line that has not been typed yet. -/
theorem readChars_eq_none_iff (space : Nat) (keyboard : Keyboard) :
    readChars space keyboard = none ↔
      keyboard.closed = false ∧ newline ∉ keyboard.stream ∧ keyboard.stream.length < space := by
  induction space generalizing keyboard with
  | zero => simp [readChars]
  | succ space ih =>
      rw [readChars]
      cases typed : keyboard.stream with
      | nil =>
          rw [getchar_nil typed]
          cases closed : keyboard.closed with
          | false => simp
          | true =>
              have goesOn := ih keyboard
              have notNewline : endOfFile ≠ newline := by decide
              simp only [closed, Bool.true_eq_false, false_and, iff_false] at goesOn
              simp [notNewline, goesOn]
      | cons aChar others =>
          obtain ⟨next, got, rest, closed⟩ := getchar_cons typed
          rw [got, Option.bind_some]
          by_cases isNewline : aChar = newline
          · simp [isNewline]
          · simp only [if_neg isNewline, Option.map_eq_none_iff, ih next, rest, closed,
              List.mem_cons, not_or, List.length_cons, Nat.add_lt_add_iff_right,
              Ne.symm isNewline, not_false_eq_true, true_and]

end Keyboard

/-- The bytes that went out, or the end of the process. -/
def sendToServer (send : List UInt8 → Option Nat) (sendBuf : List UInt8) (sendLen : Nat) :
    Option (List UInt8) :=
  (sendPDU send sendBuf sendLen).bind fun sent => if sent.2 < 0 then none else some sent.1

/-! ### A TCP connection -/

/-- One direction of a connection: what the receiver can read, what is under way to it, and
what is behind that. -/
structure Stream where
  arrived : List UInt8
  underWay : List UInt8
  ending : Ending
  deriving DecidableEq, Repr

namespace Stream

def empty : Stream := ⟨[], [], .quiet⟩

def connection (stream : Stream) : Connection where
  incoming := stream.arrived
  ending := if stream.underWay = [] then stream.ending else .quiet

def leave (stream : Stream) (connection : Connection) : Stream :=
  { stream with arrived := connection.incoming }

def put (stream : Stream) (bytes : List UInt8) : Stream :=
  { stream with underWay := stream.underWay ++ bytes }

def arrive (stream : Stream) (count : Nat) : Stream :=
  { stream with
    arrived := stream.arrived ++ stream.underWay.take count
    underWay := stream.underWay.drop count }

def finish (stream : Stream) : Stream :=
  { stream with ending := if stream.ending = .quiet then .closed else stream.ending }

def reset (stream : Stream) : Stream := { stream with underWay := [], ending := .failed }

/-- What a blocking `send` returns: it takes all it is handed, unless the connection is lost. -/
def send (stream : Stream) (bytes : List UInt8) : Option Nat :=
  if stream.ending = .failed then none else some bytes.length

/-- A `send` returns once there is space for all its bytes, in a connection that holds so many;
until then none of them is on the way.  At once returns the one that fails. -/
def HasRoom (capacity : Nat) (stream : Stream) (bytes : List UInt8) : Prop :=
  bytes = [] ∨ stream.ending = .failed ∨
    stream.arrived.length + stream.underWay.length + bytes.length ≤ capacity

instance (capacity : Nat) (stream : Stream) (bytes : List UInt8) :
    Decidable (stream.HasRoom capacity bytes) :=
  inferInstanceAs (Decidable (_ ∨ _ ∨ _))

def readiness (stream : Stream) : Readiness where
  readable := !stream.arrived.isEmpty || stream.connection.ending != .quiet
  condition := stream.ending == .failed

end Stream

/-! ### The client -/

/-- Where the loop of `clientControl` or `serverControl` is. -/
inductive Phase where
  | notStarted
  | polling
  | serving (currSock : Nat)
  | exited
  deriving DecidableEq, Repr

/-- A client and its connection to the server.  `typed` is all that has been entered at the
keyboard, `entered` the messages made of it, `received` what `recvPDU` has stored, call by call,
and `printed` the lengths and the texts of the lines. -/
structure Client where
  phase : Phase
  keyboard : Keyboard
  toServer : Stream
  toClient : Stream
  typed : List UInt8
  entered : List (List UInt8)
  received : List (List UInt8)
  printed : List (Int × List UInt8)
  deriving DecidableEq, Repr

namespace Client

def start : Client where
  phase := .notStarted
  keyboard := ⟨[], [], false⟩
  toServer := .empty
  toClient := .empty
  typed := []
  entered := []
  received := []
  printed := []

def connect (client : Client) : Client := { client with phase := .polling }

def enter (client : Client) (chunk : Chunk) : Client :=
  { client with
    keyboard := { client.keyboard with chunks := client.keyboard.chunks ++ [chunk] }
    typed := client.typed ++ chunk.bytes }

def endInput (client : Client) : Client :=
  { client with keyboard := { client.keyboard with closed := true } }

def exit (client : Client) : Client :=
  { client with phase := .exited, toServer := client.toServer.finish }

def reset (client : Client) : Client :=
  { client with toServer := client.toServer.reset, toClient := client.toClient.reset }

def pollSet (socketNum : Nat) : Except Fault PollSet :=
  PollSet.calls PollSet.setupPollSet [.add stdinFileno, .add socketNum]

def descriptors (client : Client) (socketNum : Nat) (descriptor : Nat) : Readiness :=
  if descriptor = stdinFileno then client.keyboard.readiness
  else if descriptor = socketNum then client.toClient.readiness
  else ⟨false, false⟩

def pollCall (client : Client) (socketNum : Nat) : Except Fault Int :=
  (pollSet socketNum).bind (PollSet.pollCall (client.descriptors socketNum))

def poll (client : Client) (socketNum : Nat) : Client :=
  match client.pollCall socketNum with
  | .ok currSock =>
      if currSock < 0 then client.exit else { client with phase := .serving currSock.toNat }
  | .error _ => client.exit

def connectionAt (client : Client) (socketNum currSock : Nat) : Connection :=
  if currSock = socketNum then client.toClient.connection else ⟨[], .failed⟩

/-- The rest of the pass, with what `pollCall` has returned and the memory that becomes
`recvBuf`. -/
def serve (client : Client) (socketNum currSock : Nat) (stack : List UInt8) : Client :=
  if currSock = stdinFileno then
    match client.keyboard.processStdin with
    | some (sendBuf, keyboard) =>
        let client :=
          { client with keyboard, entered := client.entered ++ [sendBuf], phase := .polling }
        match sendToServer client.toServer.send sendBuf sendBuf.length with
        | some bytes => { client with toServer := client.toServer.put bytes }
        | none => client.exit
    | none => client
  else
    match processMsgFromServer stack (client.connectionAt socketNum currSock) with
    | .printed messageLen stored text connection =>
        { client with
          toClient := client.toClient.leave connection
          received := client.received ++ [stored]
          printed := client.printed ++ [(messageLen, text)]
          phase := .polling }
    | .exited => client.exit
    | .waiting => client

def finishPass (client : Client) (socketNum : Nat) (stack : List UInt8) : Client :=
  match client.phase with
  | .serving currSock => client.serve socketNum currSock stack
  | .notStarted | .polling | .exited => client

theorem finishPass_serving {client : Client} {currSock : Nat}
    (isServing : client.phase = .serving currSock) (socketNum : Nat) (stack : List UInt8) :
    client.finishPass socketNum stack = client.serve socketNum currSock stack := by
  simp only [finishPass, isServing]

end Client

end CPE464.P2
