/-
What `recvPDU` tells its caller when the peer closes the connection, at any byte of it.

A complete PDU in the buffer should come back as its payload length, and a zero should mean
that the peer has closed the connection.
-/

import CPE464.P2.Echo

namespace CPE464.P2

open General

def announced : List UInt8 → Option Nat
  | high :: low :: _ => some (high.toNat * 256 + low.toNat)
  | _ => none

/-- `stream` starts with a complete PDU. -/
structure StartsWith (stream payload rest : List UInt8) : Prop where
  split : stream = pdu payload ++ rest
  short : payload.length ≤ payloadMax

/-- What the return value of a call on the closed connection `stream` stands for. -/
structure Truthful (stream : List UInt8) (call : RecvPDU) : Prop where
  positive : ∀ value, 0 < value → call.result = .returned value →
    ∃ payload rest, StartsWith stream payload rest ∧ value = payload.length ∧
      call.stored = payload
  zero : call.result = .returned 0 →
    call.connection = ⟨[], .closed⟩ ∧ ∀ payload rest, ¬StartsWith stream payload rest

def FieldFits (bufferSize : Int) (stream : List UInt8) : Prop :=
  ∀ field, announced stream = some field → 2 ≤ field ∧ (field : Int) - 2 ≤ bufferSize

/-- The payload is not empty, and the stream does not end between two of its bytes. -/
def PayloadUncut (stream : List UInt8) : Prop :=
  ∀ field, announced stream = some field →
    field ≠ 2 ∧ (stream.length = 2 ∨ field ≤ stream.length)

/-! ### Complete PDUs -/

theorem StartsWith.announced {stream payload rest : List UInt8}
    (starts : StartsWith stream payload rest) :
    announced stream = some (payload.length + 2) ∧
      stream.length = payload.length + 2 + rest.length := by
  obtain ⟨rfl, short⟩ := starts
  constructor
  · exact lengthField_pdu short rest .closed
  · rw [List.length_append, pdu_length]

theorem htons_field (high low : UInt8) :
    htons (high.toNat * 256 + low.toNat) = [high, low] := by
  have := high.toNat_lt
  have := low.toNat_lt
  have highByte : (high.toNat * 256 + low.toNat) / 256 = high.toNat := by omega
  have lowByte : UInt8.ofNat (high.toNat * 256 + low.toNat) = low := by
    apply UInt8.toNat_inj.mp
    rw [UInt8.toNat_ofNat']
    omega
  simp only [htons, littleEndian16, Nat.reducePow, highByte, lowByte, UInt8.ofNat_toNat,
    List.reverse_cons, List.reverse_nil, List.nil_append, List.cons_append]

theorem startsWith_of_length {high low : UInt8} {rest : List UInt8} {count : Nat}
    (field : high.toNat * 256 + low.toNat = count + 2) (arrives : count ≤ rest.length) :
    StartsWith (high :: low :: rest) (rest.take count) (rest.drop count) := by
  have := high.toNat_lt
  have := low.toNat_lt
  have length : (rest.take count).length = count := by
    rw [List.length_take, min_eq_left arrives]
  constructor
  · rw [pdu, length, pduHdrLen, ← field, htons_field, List.append_assoc, List.take_append_drop]
    rfl
  · rw [length, payloadMax]
    omega

/-! ### One call -/

section Call

variable {stream : List UInt8} {bufferSize : Int}

variable (bufferSize) in
theorem recvPDU_no_header (missing : announced stream = none) :
    (recvPDU ⟨stream, .closed⟩ bufferSize).result = .exited ∨
      (recvPDU ⟨stream, .closed⟩ bufferSize).result = .returned 0 ∧
        (recvPDU ⟨stream, .closed⟩ bufferSize).connection = ⟨[], .closed⟩ := by
  match stream with
  | [] =>
      right
      rw [recvPDU_of_no_field rfl]
      exact ⟨rfl, rfl⟩
  | [high] =>
      have read : lengthField ⟨[high], .closed⟩ = some (high.toNat * 256) := rfl
      rw [recvPDU_of_field read]
      rcases lt_or_ge bufferSize ((high.toNat * 256 : Nat) - pduHdrLen) with long | fits
      · left
        rw [recvPayload_tooLong long]
      · right
        -- the field is not 2, so the second call asks for something
        have some : 0 < wrap16 ((high.toNat * 256 : Nat) - pduHdrLen) := by
          unfold wrap16 pduHdrLen
          omega
        rw [recvPayload_cut fits]
        · exact ⟨rfl, rfl⟩
        · exact some
  | _ :: _ :: _ => cases missing

variable (bufferSize) in
theorem truthful_of_no_header (missing : announced stream = none) :
    Truthful stream (recvPDU ⟨stream, .closed⟩ bufferSize) := by
  have incomplete : ∀ payload rest, ¬StartsWith stream payload rest := by
    intro payload rest starts
    rw [starts.announced.1] at missing
    cases missing
  rcases recvPDU_no_header bufferSize missing with exited | ⟨zero, end'⟩
  · constructor
    · intro value _ returned
      rw [exited] at returned
      cases returned
    · intro returned
      rw [exited] at returned
      cases returned
  · constructor
    · intro value positive returned
      rw [zero, Result.returned.injEq] at returned
      omega
    · exact fun _ => ⟨end', incomplete⟩

theorem recvPDU_header {high low : UInt8} {rest : List UInt8} {count : Nat}
    (field : high.toNat * 256 + low.toNat = count + 2) (fits : (count : Int) ≤ bufferSize) :
    recvPDU ⟨high :: low :: rest, .closed⟩ bufferSize =
      ⟨.returned (min count rest.length : Nat), count, rest.take count,
        ⟨rest.drop count, .closed⟩⟩ := by
  have := high.toNat_lt
  have := low.toNat_lt
  have payloadLen : wrap16 ((count + 2 : Nat) - pduHdrLen) = count := by
    unfold wrap16 pduHdrLen
    omega
  have guard : ((count + 2 : Nat) : Int) - pduHdrLen ≤ bufferSize := by
    unfold pduHdrLen
    omega
  have read : lengthField ⟨high :: low :: rest, .closed⟩ = some (count + 2) :=
    congrArg some field
  rw [recvPDU_of_field read]
  rcases le_or_gt count rest.length with arrives | cut
  · rw [recvPayload_whole guard (payloadLen.trans_le arrives), payloadLen, min_eq_left arrives]
    rfl
  · rw [recvPayload_cut guard (cut.trans_eq payloadLen.symm), payloadLen, min_eq_right cut.le,
      List.take_of_length_le cut.le, List.drop_of_length_le cut.le]
    rfl

theorem startsWith_header {high low : UInt8} {rest payload after : List UInt8} {count : Nat}
    (field : high.toNat * 256 + low.toNat = count + 2)
    (starts : StartsWith (high :: low :: rest) payload after) :
    payload.length = count ∧ count ≤ rest.length := by
  obtain ⟨read, length⟩ := starts.announced
  rw [announced, field, Option.some.injEq] at read
  simp only [List.length_cons] at length
  omega

theorem truthful_iff_of_header {high low : UInt8} {rest : List UInt8} {count : Nat}
    (field : high.toNat * 256 + low.toNat = count + 2) (fits : (count : Int) ≤ bufferSize) :
    Truthful (high :: low :: rest) (recvPDU ⟨high :: low :: rest, .closed⟩ bufferSize) ↔
      count ≠ 0 ∧ (rest.length = 0 ∨ count ≤ rest.length) := by
  rw [recvPDU_header field fits]
  constructor
  · intro truthful
    constructor
    · intro empty
      have zero := truthful.zero (by simp [empty])
      exact zero.2 _ _ (startsWith_of_length field (by omega))
    · by_contra cut
      have value : 0 < (min count rest.length : Nat) := by omega
      obtain ⟨payload, after, starts, _⟩ :=
        truthful.positive _ (by exact_mod_cast value) rfl
      have whole := startsWith_header field starts
      omega
  · rintro ⟨some, uncut⟩
    constructor
    · intro value positive returned
      rw [Result.returned.injEq] at returned
      have arrives : count ≤ rest.length := by omega
      refine ⟨rest.take count, rest.drop count, startsWith_of_length field arrives, ?_, rfl⟩
      rw [List.length_take, returned]
    · intro returned
      rw [Result.returned.injEq] at returned
      have nothing : rest.length = 0 := by omega
      constructor
      · rw [List.eq_nil_of_length_eq_zero nothing, List.drop_nil]
      · intro payload after starts
        have whole := startsWith_header field starts
        omega

theorem truthful_iff (fits : FieldFits bufferSize stream) :
    Truthful stream (recvPDU ⟨stream, .closed⟩ bufferSize) ↔ PayloadUncut stream := by
  cases read : announced stream with
  | none =>
      have silent : PayloadUncut stream := by
        intro field complete
        rw [read] at complete
        cases complete
      exact iff_of_true (truthful_of_no_header bufferSize read) silent
  | some field =>
      obtain ⟨atLeast, small⟩ := fits field read
      obtain ⟨count, rfl⟩ := Nat.exists_eq_add_of_le' atLeast
      match stream with
      | high :: low :: rest =>
          have value : high.toNat * 256 + low.toNat = count + 2 := Option.some.inj read
          rw [truthful_iff_of_header value (by omega), PayloadUncut, read]
          simp only [Option.some.injEq, forall_eq', List.length_cons]
          omega

end Call

/-! ### The callers -/

/-- A PDU without a payload ends both programs' use of a connection, although the peer may
go on sending. -/
theorem empty_pdu_taken_for_close (send : List UInt8 → Option Nat) (connReset : Bool)
    (rest : List UInt8) (ending : Ending) :
    (recvFromClient send connReset ⟨pdu [] ++ rest, ending⟩).result = .returned (-1) ∧
      ∀ stack, processMsgFromServer stack ⟨pdu [] ++ rest, ending⟩ = .exited := by
  have call : recvPDU ⟨pdu [] ++ rest, ending⟩ maxBuf = ⟨.returned 0, 0, [], ⟨rest, ending⟩⟩ :=
    recvPDU_pdu (Nat.zero_le _) (by decide) rest ending
  constructor
  · simp only [recvFromClient, recvFromClientInto, call, lt_irrefl, if_false, if_true]
  · intro stack
    simp only [processMsgFromServer, call, if_true]

/-! ### Every call on a stream -/

/-- Calls of `recvPDU` on `stream`, after which the peer closes the connection: wherever a
call begins behind PDUs that fit the buffer, its return value is true. -/
def ReportsTruthfully (bufferSize : Int) (stream : List UInt8) : Prop :=
  ∀ (before : List (List UInt8)) (rest : List UInt8), stream = (before.map pdu).flatten ++ rest →
    (∀ payload ∈ before, payload.length ≤ payloadMax ∧ (payload.length : Int) ≤ bufferSize) →
    FieldFits bufferSize rest →
    ∃ receipts connection,
      readEach (receive bufferSize) before.length ⟨stream, .closed⟩ =
        some (receipts, connection) ∧
      Truthful rest (recvPDU connection bufferSize)

def PayloadsUncut (bufferSize : Int) (stream : List UInt8) : Prop :=
  ∀ (before : List (List UInt8)) (rest : List UInt8), stream = (before.map pdu).flatten ++ rest →
    (∀ payload ∈ before, payload.length ≤ payloadMax ∧ (payload.length : Int) ≤ bufferSize) →
    FieldFits bufferSize rest → PayloadUncut rest

theorem receive_behind {bufferSize : Int} {before : List (List UInt8)}
    (sizes : ∀ payload ∈ before,
      payload.length ≤ payloadMax ∧ (payload.length : Int) ≤ bufferSize) (rest : List UInt8) :
    readEach (receive bufferSize) before.length ⟨(before.map pdu).flatten ++ rest, .closed⟩ =
      some (before.map fun payload => ((payload.length : Int), payload), ⟨rest, .closed⟩) := by
  have received := receive_each sizes le_rfl rest .closed
  rwa [List.take_length, List.drop_length] at received

/-- `recvPDU` reports truthfully on exactly the streams that have no empty PDU and are not
cut inside a payload. -/
theorem reports_truthfully_iff (bufferSize : Int) (stream : List UInt8) :
    ReportsTruthfully bufferSize stream ↔ PayloadsUncut bufferSize stream := by
  constructor
  · intro truthful before rest split sizes fits
    obtain ⟨receipts, connection, reached, call⟩ := truthful before rest split sizes fits
    rw [split, receive_behind sizes, Option.some.injEq, Prod.mk.injEq] at reached
    rw [← reached.2] at call
    exact (truthful_iff fits).mp call
  · intro uncut before rest split sizes fits
    rw [split]
    exact ⟨_, _, receive_behind sizes rest,
      (truthful_iff fits).mpr (uncut before rest split sizes fits)⟩

/-- Three announced bytes of which one arrives, and a PDU without a payload. -/
theorem cut_and_empty_misreported :
    ¬ReportsTruthfully maxBuf [0, 5, 104] ∧ ¬ReportsTruthfully maxBuf [0, 2] := by
  have unread {stream : List UInt8} (fits : FieldFits maxBuf stream)
      (truthful : ReportsTruthfully maxBuf stream) :
      Truthful stream (recvPDU ⟨stream, .closed⟩ maxBuf) := by
    obtain ⟨receipts, connection, reached, call⟩ := truthful [] stream rfl (by simp) fits
    cases reached
    exact call
  constructor
  · intro truthful
    have fits : FieldFits maxBuf [0, 5, 104] := by
      intro field read
      cases read
      decide
    have uncut := (truthful_iff fits).mp (unread fits truthful) 5 rfl
    exact absurd uncut (by decide)
  · intro truthful
    have fits : FieldFits maxBuf [0, 2] := by
      intro field read
      cases read
      decide
    have uncut := (truthful_iff fits).mp (unread fits truthful) 2 rfl
    exact absurd uncut (by decide)

end CPE464.P2
