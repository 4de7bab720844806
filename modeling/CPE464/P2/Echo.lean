/-
server.c and cclient.c: what the two programs do with the PDUs they receive.

The keyboard and the poll set are left out: a pass of either loop on one connection is a
call of `recvFromClient` or of `processMsgFromServer`.
-/

import CPE464.General.Framing
import CPE464.P2.Lab2

namespace CPE464.P2

open General

def maxBuf : Nat := 1024

structure RecvFromClient where
  result : Result
  sent : List UInt8
  connection : Connection

/-- `recvFromClient` with a buffer of `bufferSize` bytes.  `connReset` says that `errno` is
ECONNRESET. -/
def recvFromClientInto (send : List UInt8 → Option Nat) (connReset : Bool) (bufferSize : Int)
    (connection : Connection) : RecvFromClient :=
  let call := recvPDU connection bufferSize
  match call.result with
  | .waiting => ⟨.waiting, [], call.connection⟩
  | .exited => ⟨.exited, [], call.connection⟩
  | .returned messageLen =>
      if messageLen < 0 then
        ⟨if connReset then .returned 0 else .exited, [], call.connection⟩
      else if messageLen = 0 then ⟨.returned (-1), [], call.connection⟩
      else
        match sendPDU send call.stored messageLen.toNat with
        | none => ⟨.exited, [], call.connection⟩
        | some (sent, _) => ⟨.returned 0, sent, call.connection⟩

def recvFromClient (send : List UInt8 → Option Nat) (connReset : Bool)
    (connection : Connection) : RecvFromClient :=
  recvFromClientInto send connReset maxBuf connection

/-- What `%s` prints of the memory behind a pointer. -/
def cString (memory : List UInt8) : List UInt8 := memory.takeWhile (· ≠ 0)

/-- How a call of `processMsgFromServer` ends.  The line that is printed shows the length and
`text`. -/
inductive ProcessMsg where
  | printed (messageLen : Int) (stored text : List UInt8) (connection : Connection)
  | exited
  | waiting
  deriving DecidableEq, Repr

/-- `stack` is what lies in memory from `recvBuf` on before the call. -/
def processMsgFromServer (stack : List UInt8) (connection : Connection) : ProcessMsg :=
  let call := recvPDU connection maxBuf
  let recvBuf := call.stored ++ stack.drop call.stored.length
  match call.result with
  | .waiting => .waiting
  | .exited => .exited
  | .returned messageLen =>
      if messageLen = 0 then .exited
      else .printed messageLen call.stored (cString recvBuf) call.connection

/-! ### Lines on the screen -/

def shownAs (message : List UInt8) : Int × List UInt8 := (message.length, cString message)

/-- A line shows what has been received; if that has no NUL, the text runs on behind it. -/
def Shows (line : Int × List UInt8) (received : List UInt8) : Prop :=
  line.1 = received.length ∧ ∃ memory, line.2 = cString (received ++ memory)

theorem cString_append {message : List UInt8} (ends : 0 ∈ message) (memory : List UInt8) :
    cString (message ++ memory) = cString message := by
  induction message with
  | nil => cases ends
  | cons first others ih =>
      by_cases isNul : first = 0
      · simp [cString, isNul]
      · have later : 0 ∈ others := (List.mem_cons.mp ends).resolve_left (Ne.symm isNul)
        have goesOn := ih later
        simp only [cString, List.cons_append] at goesOn ⊢
        rw [List.takeWhile_cons_of_pos (by simpa using isNul),
          List.takeWhile_cons_of_pos (by simpa using isNul), goesOn]

theorem cString_of_noNul {text : List UInt8} (noNul : 0 ∉ text) (memory : List UInt8) :
    cString (text ++ memory) = text ++ cString memory := by
  apply List.takeWhile_append_of_pos
  intro byte member
  refine decide_eq_true fun isNul => noNul ?_
  rwa [isNul] at member

theorem Shows.eq_shownAs {line : Int × List UInt8} {message : List UInt8}
    (shows : Shows line message) (ends : 0 ∈ message) : line = shownAs message := by
  obtain ⟨length, memory, text⟩ := shows
  exact Prod.ext length (text.trans (cString_append ends memory))

theorem shownAs_terminated (text : List UInt8) :
    shownAs (text ++ [0]) = ((text.length : Int) + 1, cString text) := by
  have sameText : cString (text ++ [0]) = cString text := by
    by_cases ends : 0 ∈ text
    · exact cString_append ends [0]
    · have alone := cString_of_noNul ends []
      rw [List.append_nil] at alone
      rw [cString_of_noNul ends, alone]
      rfl
  refine Prod.ext ?_ sameText
  rw [shownAs, List.length_append, List.length_singleton, Nat.cast_add, Nat.cast_one]

theorem eq_map_shownAs {lines : List (Int × List UInt8)} {messages : List (List UInt8)}
    (shown : List.Forall₂ Shows lines messages) (ends : ∀ message ∈ messages, 0 ∈ message) :
    lines = messages.map shownAs := by
  induction shown with
  | nil => rfl
  | cons first others ih =>
      rw [List.map_cons, first.eq_shownAs (ends _ List.mem_cons_self),
        ih fun message member => ends message (List.mem_cons_of_mem _ member)]

/-! ### Messages in a row -/

def sendEach (send : List UInt8 → Option Nat) : List (List UInt8) → Option (List (List UInt8))
  | [] => some []
  | message :: others =>
      (sendPDU send message message.length).bind fun sent =>
        (sendEach send others).map fun sentLater => sent.1 :: sentLater

def receive (bufferSize : Int) (connection : Connection) :
    Option ((Int × List UInt8) × Connection) :=
  let call := recvPDU connection bufferSize
  match call.result with
  | .returned value => some ((value, call.stored), call.connection)
  | .exited | .waiting => none

def echo (send : List UInt8 → Option Nat) (connReset : Bool) (bufferSize : Int)
    (connection : Connection) : Option (List UInt8 × Connection) :=
  let call := recvFromClientInto send connReset bufferSize connection
  if call.result = .returned 0 then some (call.sent, call.connection) else none

def Connection.before (message : List UInt8) (connection : Connection) : Connection :=
  { connection with incoming := pdu message ++ connection.incoming }

theorem foldr_before (messages : List (List UInt8)) (rest : List UInt8) (ending : Ending) :
    messages.foldr Connection.before ⟨rest, ending⟩ =
      ⟨(messages.map pdu).flatten ++ rest, ending⟩ := by
  induction messages with
  | nil => rfl
  | cons message others ih =>
      rw [List.foldr_cons, ih, List.map_cons, List.flatten_cons, List.append_assoc]
      rfl

section Stream

variable {send : List UInt8 → Option Nat} {bufferSize : Int}

theorem sendEach_eq (takesAll : ∀ bytes, send bytes = some bytes.length)
    (messages : List (List UInt8)) : sendEach send messages = some (messages.map pdu) := by
  induction messages with
  | nil => rfl
  | cons message others ih =>
      rw [sendEach, sendPDU_eq_pdu takesAll, ih]
      rfl

theorem receive_before {message : List UInt8} (short : message.length ≤ payloadMax)
    (fits : (message.length : Int) ≤ bufferSize) (connection : Connection) :
    receive bufferSize (connection.before message) =
      some (((message.length : Int), message), connection) := by
  have call := recvPDU_pdu short fits connection.incoming connection.ending
  simp only [receive, Connection.before, call]

theorem receive_each {messages : List (List UInt8)}
    (sizes : ∀ message ∈ messages,
      message.length ≤ payloadMax ∧ (message.length : Int) ≤ bufferSize)
    {count : Nat} (enough : count ≤ messages.length) (rest : List UInt8) (ending : Ending) :
    readEach (receive bufferSize) count ⟨(messages.map pdu).flatten ++ rest, ending⟩ =
      some ((messages.take count).map fun message => ((message.length : Int), message),
        ⟨((messages.drop count).map pdu).flatten ++ rest, ending⟩) := by
  rw [← foldr_before, ← foldr_before]
  apply readEach_foldr _ enough
  intro message member connection
  exact receive_before (sizes message member).1 (sizes message member).2 connection

theorem echo_before (takesAll : ∀ bytes, send bytes = some bytes.length)
    {message : List UInt8} (some : 1 ≤ message.length) (short : message.length ≤ payloadMax)
    (fits : (message.length : Int) ≤ bufferSize) (connReset : Bool) (connection : Connection) :
    echo send connReset bufferSize (connection.before message) =
      Option.some (pdu message, connection) := by
  have call := recvPDU_pdu short fits connection.incoming connection.ending
  have positive : ¬(message.length : Int) < 0 := by omega
  have nonzero : ¬(message.length : Int) = 0 := by omega
  simp only [echo, recvFromClientInto, Connection.before, call, if_neg positive, if_neg nonzero,
    Int.toNat_natCast, sendPDU_eq_pdu takesAll, if_true]

theorem echo_each (takesAll : ∀ bytes, send bytes = some bytes.length) (connReset : Bool)
    {messages : List (List UInt8)}
    (sizes : ∀ message ∈ messages,
      1 ≤ message.length ∧ message.length ≤ payloadMax ∧ (message.length : Int) ≤ bufferSize)
    {count : Nat} (enough : count ≤ messages.length) (rest : List UInt8) (ending : Ending) :
    readEach (echo send connReset bufferSize) count ⟨(messages.map pdu).flatten ++ rest, ending⟩ =
      some ((messages.take count).map pdu,
        ⟨((messages.drop count).map pdu).flatten ++ rest, ending⟩) := by
  rw [← foldr_before, ← foldr_before]
  apply readEach_foldr _ enough
  intro message member connection
  obtain ⟨some, short, fits⟩ := sizes message member
  exact echo_before takesAll some short fits connReset connection

/-- The server echoes whatever a client sends before it closes the connection, and then
drops the client. -/
theorem client_served (takesAll : ∀ bytes, send bytes = some bytes.length) (connReset : Bool)
    {messages : List (List UInt8)}
    (sizes : ∀ message ∈ messages, 1 ≤ message.length ∧ message.length ≤ maxBuf) :
    readEach (echo send connReset maxBuf) messages.length
        ⟨(messages.map pdu).flatten, .closed⟩ = some (messages.map pdu, ⟨[], .closed⟩) ∧
      (recvFromClient send connReset ⟨[], .closed⟩).result = .returned (-1) := by
  constructor
  · have fit : ∀ message ∈ messages, 1 ≤ message.length ∧ message.length ≤ payloadMax ∧
        (message.length : Int) ≤ maxBuf := by
      intro message member
      have size := sizes message member
      unfold maxBuf at *
      unfold payloadMax
      omega
    have echoed := echo_each takesAll connReset fit le_rfl [] .closed
    rwa [List.append_nil, List.take_length, List.drop_length] at echoed
  · rfl

end Stream

/-- Messages that are sent in turn are received in turn, each call taking one PDU off the
stream, and the server's echo sends the same stream back. -/
theorem framing_round_trip {send : List UInt8 → Option Nat}
    (takesAll : ∀ bytes, send bytes = some bytes.length) {bufferSize : Int}
    {messages : List (List UInt8)}
    (sizes : ∀ message ∈ messages,
      1 ≤ message.length ∧ message.length ≤ 65533 ∧ (message.length : Int) ≤ bufferSize)
    (rest : List UInt8) (ending : Ending) (connReset : Bool) :
    ∃ pdus, sendEach send messages = some pdus ∧
      ∀ count ≤ messages.length,
        readEach (receive bufferSize) count ⟨pdus.flatten ++ rest, ending⟩ =
          some ((messages.take count).map fun message => ((message.length : Int), message),
            ⟨(pdus.drop count).flatten ++ rest, ending⟩) ∧
        readEach (echo send connReset bufferSize) count ⟨pdus.flatten ++ rest, ending⟩ =
          some (pdus.take count, ⟨(pdus.drop count).flatten ++ rest, ending⟩) := by
  refine ⟨messages.map pdu, sendEach_eq takesAll messages, fun count enough => ?_⟩
  rw [← List.map_drop, ← List.map_take]
  constructor
  · exact receive_each (fun message member => (sizes message member).2) enough rest ending
  · exact echo_each takesAll connReset sizes enough rest ending

theorem framing_round_trip_two :
    ∃ pdus, sendEach (fun bytes => some bytes.length) [[104, 105], [0]] = some pdus ∧
      ∀ count ≤ 2,
        readEach (receive maxBuf) count ⟨pdus.flatten ++ [], .closed⟩ =
          some (([[104, 105], [0]].take count).map fun message =>
            ((message.length : Int), message), ⟨(pdus.drop count).flatten ++ [], .closed⟩) ∧
        readEach (echo (fun bytes => some bytes.length) false maxBuf) count
            ⟨pdus.flatten ++ [], .closed⟩ =
          some (pdus.take count, ⟨(pdus.drop count).flatten ++ [], .closed⟩) :=
  framing_round_trip (fun _ => rfl) (by decide) [] .closed false

end CPE464.P2
