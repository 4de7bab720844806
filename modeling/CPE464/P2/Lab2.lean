/-
lab2.c: PDUs of a 16-bit length and a payload over a TCP connection.

A connection is the bytes that the peer's side has still to deliver, in order, and how it
goes on behind them.  `recv` is called with MSG_WAITALL, so it comes back short only at the
end of the bytes.  A process that calls `exit` is not looked at any further.
-/

import CPE464.General.Bytes

namespace CPE464.P2

open General

def pduHdrLen : Nat := 2

/-- What is behind the last byte of a connection: nothing yet, the peer's close, an error. -/
inductive Ending where
  | quiet
  | closed
  | failed
  deriving DecidableEq, Repr

structure Connection where
  incoming : List UInt8
  ending : Ending
  deriving DecidableEq, Repr

/-- A call of `recv`: its return value, once it has returned, and the bytes it has stored. -/
structure Recv where
  bytesReceived : Option Int
  stored : List UInt8
  connection : Connection

/-- `recv(socketNumber, buffer, count, MSG_WAITALL)`. -/
def recv (connection : Connection) (count : Nat) : Recv where
  bytesReceived :=
    if count ≤ connection.incoming.length then some count
    else
      match connection.ending with
      | .quiet => none
      | .closed => some connection.incoming.length
      | .failed => if connection.incoming = [] then some (-1) else some connection.incoming.length
  stored := connection.incoming.take count
  connection := { connection with incoming := connection.incoming.drop count }

/-- How a function of the program comes back to its caller. -/
inductive Result where
  | returned (value : Int)
  | exited
  | waiting
  deriving DecidableEq, Repr

/-- A call of `recvPDU`: what it asked `recv` to store in `dataBuffer` and what that has
stored there, from its first byte on. -/
structure RecvPDU where
  result : Result
  requested : Nat
  stored : List UInt8
  connection : Connection
  deriving DecidableEq, Repr

def recvPayload (pduLen : Nat) (connection : Connection) (bufferSize : Int) : RecvPDU :=
  if (pduLen : Int) - pduHdrLen > bufferSize then ⟨.exited, 0, [], connection⟩
  else
    let payloadLen := wrap16 (pduLen - pduHdrLen)
    let payload := recv connection payloadLen
    match payload.bytesReceived with
    | none => ⟨.waiting, payloadLen, payload.stored, payload.connection⟩
    | some bytesReceived =>
        if bytesReceived < 0 then ⟨.exited, payloadLen, payload.stored, payload.connection⟩
        else if bytesReceived = 0 then
          ⟨.returned 0, payloadLen, payload.stored, payload.connection⟩
        else ⟨.returned bytesReceived, payloadLen, payload.stored, payload.connection⟩

def recvPDU (connection : Connection) (bufferSize : Int) : RecvPDU :=
  let header := recv connection pduHdrLen
  match header.bytesReceived with
  | none => ⟨.waiting, 0, [], header.connection⟩
  | some bytesReceived =>
      if bytesReceived < 0 then ⟨.exited, 0, [], header.connection⟩
      else if bytesReceived = 0 then ⟨.returned 0, 0, [], header.connection⟩
      else
        -- `pdu_len` is zero before its bytes are stored, so a single byte is its high half
        recvPayload (ntohs (overwrite [0, 0] 0 header.stored)) header.connection bufferSize

/-- A call of `sendPDU`: the bytes that went out and the value returned, none after an
`exit`.  `send` says how many of the bytes it is handed the socket takes. -/
def sendPDU (send : List UInt8 → Option Nat) (dataBuffer : List UInt8) (lengthOfData : Nat) :
    Option (List UInt8 × Int) :=
  let pduLen := lengthOfData + pduHdrLen
  let hdrPduLen := htons pduLen
  let appPdu := List.replicate (pduLen + 1) 0
  let appPdu := overwrite appPdu 0 hdrPduLen
  let appPdu := overwrite appPdu pduHdrLen (dataBuffer.take lengthOfData)
  (send (appPdu.take pduLen)).map fun bytesSent =>
    ((appPdu.take pduLen).take bytesSent, (bytesSent : Int) - pduHdrLen)

/-! ### One PDU -/

def pdu (payload : List UInt8) : List UInt8 := htons (payload.length + pduHdrLen) ++ payload

/-- The longest payload whose length field does not wrap. -/
def payloadMax : Nat := 65533

theorem pdu_length (payload : List UInt8) : (pdu payload).length = payload.length + 2 := by
  rw [pdu, List.length_append, htons_length, Nat.add_comm]

theorem appPdu_eq (payload : List UInt8) :
    overwrite
        (overwrite (List.replicate (payload.length + pduHdrLen + 1) 0) 0
          (htons (payload.length + pduHdrLen))) pduHdrLen payload =
      pdu payload ++ [0] := by
  have blank : List.replicate (payload.length + pduHdrLen + 1) (0 : UInt8) =
      [] ++ [0, 0] ++ (List.replicate payload.length 0 ++ [0]) := by
    rw [Nat.add_right_comm, Nat.add_comm, List.replicate_add, List.replicate_succ']
    rfl
  have header := overwrite_append [] [0, 0] (List.replicate payload.length 0 ++ [0])
    (htons (payload.length + pduHdrLen)) 0 rfl rfl
  have data := overwrite_append (htons (payload.length + pduHdrLen))
    (List.replicate payload.length 0) [0] payload pduHdrLen rfl List.length_replicate.symm
  rw [blank, header, List.nil_append, ← List.append_assoc, data, pdu]

theorem sendPDU_eq_pdu {send : List UInt8 → Option Nat}
    (takesAll : ∀ bytes, send bytes = some bytes.length) (payload : List UInt8) :
    sendPDU send payload payload.length = some (pdu payload, (payload.length : Int)) := by
  have length : payload.length + pduHdrLen = (pdu payload).length := (pdu_length payload).symm
  have whole : (pdu payload ++ [0]).take (payload.length + pduHdrLen) = pdu payload := by
    rw [length, List.take_left]
  have value : ((pdu payload).length : Int) - pduHdrLen = payload.length := by
    rw [← length, Nat.cast_add, add_sub_cancel_right]
  simp only [sendPDU, List.take_length, appPdu_eq, whole, takesAll, Option.map_some, value]

/-! ### What a call of `recvPDU` does -/

/-- The length field that `recvPDU` goes on with.  A header that the end of the connection
cuts after one byte counts as if a zero byte followed. -/
def lengthField (connection : Connection) : Option Nat :=
  match connection.incoming with
  | [] => none
  | [high] => if connection.ending = .quiet then none else some (high.toNat * 256)
  | high :: low :: _ => some (high.toNat * 256 + low.toNat)

def Connection.behindHeader (connection : Connection) : Connection :=
  { connection with incoming := connection.incoming.drop pduHdrLen }

theorem lengthField_lt {connection : Connection} {field : Nat}
    (read : lengthField connection = some field) : field < 65536 := by
  unfold lengthField at read
  split at read
  · cases read
  · rename_i high _
    have := high.toNat_lt
    split at read
    · cases read
    · rw [Option.some.injEq] at read
      omega
  · rename_i high low _ _
    have := high.toNat_lt
    have := low.toNat_lt
    rw [Option.some.injEq] at read
    omega

theorem recvPDU_of_field {connection : Connection} {field : Nat}
    (read : lengthField connection = some field) (bufferSize : Int) :
    recvPDU connection bufferSize = recvPayload field connection.behindHeader bufferSize := by
  obtain ⟨incoming, ending⟩ := connection
  match incoming with
  | [] => cases read
  | [high] =>
      cases ending with
      | quiet => cases read
      | closed | failed =>
          cases read
          simp [recvPDU, recv, pduHdrLen, Connection.behindHeader, overwrite, ntohs]
  | high :: low :: rest =>
      cases read
      simp [recvPDU, recv, pduHdrLen, Connection.behindHeader, overwrite, ntohs]

theorem recvPDU_of_no_field {connection : Connection} (missing : lengthField connection = none)
    (bufferSize : Int) :
    recvPDU connection bufferSize =
      ⟨match connection.ending with
        | .quiet => .waiting
        | .closed => .returned 0
        | .failed => .exited, 0, [], connection.behindHeader⟩ := by
  obtain ⟨incoming, ending⟩ := connection
  match incoming with
  | [] => cases ending <;> simp [recvPDU, recv, pduHdrLen, Connection.behindHeader]
  | [high] =>
      cases ending with
      | quiet => simp [recvPDU, recv, pduHdrLen, Connection.behindHeader]
      | closed | failed => simp [lengthField] at missing
  | high :: low :: rest => simp [lengthField] at missing

section Payload

variable {field : Nat} {connection : Connection} {bufferSize : Int}

theorem recvPayload_tooLong (long : bufferSize < (field : Int) - pduHdrLen) :
    recvPayload field connection bufferSize = ⟨.exited, 0, [], connection⟩ :=
  if_pos long

theorem recvPayload_whole (fits : (field : Int) - pduHdrLen ≤ bufferSize)
    (arrives : wrap16 (field - pduHdrLen) ≤ connection.incoming.length) :
    recvPayload field connection bufferSize =
      ⟨.returned (wrap16 (field - pduHdrLen)), wrap16 (field - pduHdrLen),
        connection.incoming.take (wrap16 (field - pduHdrLen)),
        { connection with
          incoming := connection.incoming.drop (wrap16 (field - pduHdrLen)) }⟩ := by
  have count : ¬(wrap16 (field - pduHdrLen) : Int) < 0 := by omega
  simp only [recvPayload, if_neg (not_lt.mpr fits), recv, if_pos arrives, if_neg count]
  split
  · rename_i empty
    rw [empty]
  · rfl

theorem recvPayload_cut (fits : (field : Int) - pduHdrLen ≤ bufferSize)
    (cut : connection.incoming.length < wrap16 (field - pduHdrLen)) :
    recvPayload field connection bufferSize =
      ⟨match connection.ending with
        | .quiet => .waiting
        | .closed => .returned connection.incoming.length
        | .failed =>
            if connection.incoming = [] then .exited
            else .returned connection.incoming.length,
        wrap16 (field - pduHdrLen), connection.incoming, { connection with incoming := [] }⟩ := by
  have nonnegative : ¬(connection.incoming.length : Int) < 0 := by omega
  have all := List.take_of_length_le cut.le
  have none := List.drop_of_length_le cut.le
  simp only [recvPayload, if_neg (not_lt.mpr fits), recv, if_neg (not_le.mpr cut), all, none]
  cases connection.ending with
  | quiet => rfl
  | closed =>
      simp only [if_neg nonnegative]
      split
      · rename_i empty
        rw [empty]
      · rfl
  | failed =>
      by_cases empty : connection.incoming = []
      · simp [empty]
      · have some : (connection.incoming.length : Int) ≠ 0 := by
          simpa using empty
        simp only [if_neg empty, if_neg nonnegative, if_neg some]

end Payload

theorem lengthField_pdu {payload : List UInt8} (short : payload.length ≤ payloadMax)
    (rest : List UInt8) (ending : Ending) :
    lengthField ⟨pdu payload ++ rest, ending⟩ = some (payload.length + 2) := by
  have read := ntohs_swapped_append (payload.length + pduHdrLen) []
  rw [pduHdrLen, Nat.mod_eq_of_lt (by rw [payloadMax] at short; omega)] at read
  simpa [lengthField, pdu, pduHdrLen, htons, littleEndian16, ntohs] using read

theorem recvPDU_pdu {payload : List UInt8} (short : payload.length ≤ payloadMax)
    {bufferSize : Int} (fits : (payload.length : Int) ≤ bufferSize) (rest : List UInt8)
    (ending : Ending) :
    recvPDU ⟨pdu payload ++ rest, ending⟩ bufferSize =
      ⟨.returned payload.length, payload.length, payload, ⟨rest, ending⟩⟩ := by
  have payloadLen : wrap16 ((payload.length + 2 : Nat) - pduHdrLen) = payload.length := by
    simp only [payloadMax, pduHdrLen, wrap16] at *
    omega
  have behind : (pdu payload ++ rest).drop pduHdrLen = payload ++ rest := by
    rw [pdu, List.append_assoc]
    rfl
  rw [recvPDU_of_field (lengthField_pdu short rest ending), recvPayload_whole, payloadLen]
  · simp only [Connection.behindHeader, behind, List.take_left, List.drop_left]
  · simpa [pduHdrLen] using fits
  · simp only [payloadLen, Connection.behindHeader, behind, List.length_append]
    omega

end CPE464.P2
