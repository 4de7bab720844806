/-
PDUs that arrive in pieces.

TCP keeps the bytes of a stream in order and hands them over in pieces of any size.  A call of
`recvPDU` waits until its PDU has arrived, so what it returns does not depend on the pieces;
only where the connection is lost behind a piece does it return a part of a message.
-/

import CPE464.P2.Cclient

namespace CPE464.P2

open General

/-- A message that fits the buffers of both programs. -/
def IsMessage (message : List UInt8) : Prop := 1 ≤ message.length ∧ message.length ≤ maxBuf

theorem IsMessage.le_payloadMax {message : List UInt8} (sized : IsMessage message) :
    message.length ≤ payloadMax := by
  have := sized.2
  unfold maxBuf at this
  unfold payloadMax
  omega

theorem IsMessage.fits {message : List UInt8} (sized : IsMessage message) :
    (message.length : Int) ≤ maxBuf := Int.ofNat_le.mpr sized.2

theorem IsMessage.field_fits {message : List UInt8} (sized : IsMessage message) :
    ((message.length + 2 : Nat) : Int) - pduHdrLen ≤ maxBuf := by
  have := sized.fits
  unfold pduHdrLen
  omega

theorem IsMessage.payloadLen {message : List UInt8} (sized : IsMessage message) :
    wrap16 ((message.length + 2 : Nat) - pduHdrLen) = message.length := by
  have := sized.le_payloadMax
  simp only [payloadMax, pduHdrLen, wrap16] at *
  omega

section Piece

variable {message incoming : List UInt8} (sized : IsMessage message)
  (isPrefix : incoming <+: pdu message) (short : incoming.length < (pdu message).length)

include isPrefix

theorem piece_behindHeader {high low : UInt8} {rest : List UInt8}
    (isPiece : incoming = high :: low :: rest) :
    [high, low] = htons (message.length + pduHdrLen) ∧ rest <+: message := by
  obtain ⟨missing, whole⟩ := isPrefix
  have split : [high, low] ++ (rest ++ missing) =
      htons (message.length + pduHdrLen) ++ message := by
    rw [← pdu, ← whole, isPiece]
    rfl
  obtain ⟨header, payload⟩ := List.append_inj split rfl
  exact ⟨header, missing, payload⟩

theorem piece_lengthField {high low : UInt8} {rest : List UInt8} (sized : IsMessage message)
    (isPiece : incoming = high :: low :: rest) (ending : Ending) :
    lengthField ⟨incoming, ending⟩ = some (message.length + 2) := by
  rw [← lengthField_pdu sized.le_payloadMax [] ending, List.append_nil, pdu, ←
    (piece_behindHeader isPrefix isPiece).1, isPiece]
  rfl

include sized short

theorem recvPDU_piece_waits : (recvPDU ⟨incoming, .quiet⟩ maxBuf).result = .waiting := by
  match isPiece : incoming with
  | [] | [_] => rw [recvPDU_of_no_field rfl]
  | high :: low :: rest =>
      have cut : rest.length < wrap16 ((message.length + 2 : Nat) - pduHdrLen) := by
        rw [pdu_length, List.length_cons, List.length_cons] at short
        rw [sized.payloadLen]
        omega
      rw [recvPDU_of_field (piece_lengthField isPrefix sized rfl .quiet),
        recvPayload_cut sized.field_fits cut]
      rfl

/-- Behind a piece the connection is lost: the process exits, or is handed a part of the message
as if it were all of it. -/
theorem recvPDU_piece_lost : (recvPDU ⟨incoming, .failed⟩ maxBuf).result = .exited ∨
    ∃ cut, cut <+: message ∧ cut ≠ [] ∧
      recvPDU ⟨incoming, .failed⟩ maxBuf =
        ⟨.returned cut.length, message.length, cut, ⟨[], .failed⟩⟩ := by
  match isPiece : incoming with
  | [] =>
      left
      rw [recvPDU_of_no_field rfl]
  | [high] =>
      left
      have read : lengthField ⟨[high], .failed⟩ = some (high.toNat * 256) := rfl
      rw [recvPDU_of_field read]
      rcases lt_or_ge (maxBuf : Int) ((high.toNat * 256 : Nat) - pduHdrLen) with long | fits
      · rw [recvPayload_tooLong long]
      · rw [recvPayload_cut fits]
        · rfl
        · change 0 < _
          unfold wrap16 pduHdrLen
          omega
  | high :: low :: rest =>
      have isCut := (piece_behindHeader isPrefix rfl).2
      have cut : rest.length < wrap16 ((message.length + 2 : Nat) - pduHdrLen) := by
        rw [pdu_length, List.length_cons, List.length_cons] at short
        rw [sized.payloadLen]
        omega
      rw [recvPDU_of_field (piece_lengthField isPrefix sized rfl .failed),
        recvPayload_cut sized.field_fits cut, sized.payloadLen]
      by_cases nothing : rest = []
      · exact .inl (if_pos nothing)
      · refine .inr ⟨rest, isCut, nothing, ?_⟩
        change RecvPDU.mk (if rest = [] then Result.exited else .returned rest.length) _ rest _ = _
        rw [if_neg nothing]
        rfl

end Piece

/-! ### Streams of messages -/

namespace Stream

/-- The messages that are on the way, with the one that is to be received next at the front. -/
structure Carries (stream : Stream) (messages : List (List UInt8)) : Prop where
  bytes : stream.arrived ++ stream.underWay = (messages.map pdu).flatten
  unfailed : stream.ending ≠ .failed
  sized : ∀ message ∈ messages, IsMessage message

variable {stream : Stream} {messages : List (List UInt8)}

theorem Carries.arrive (carries : Carries stream messages) (count : Nat) :
    Carries (stream.arrive count) messages where
  bytes := by
    rw [← carries.bytes]
    simp only [Stream.arrive, List.append_assoc, List.take_append_drop]
  unfailed := carries.unfailed
  sized := carries.sized

theorem Carries.finish (carries : Carries stream messages) : Carries stream.finish messages where
  bytes := carries.bytes
  unfailed := by
    unfold Stream.finish
    dsimp only
    split
    · exact Ending.noConfusion
    · exact carries.unfailed
  sized := carries.sized

theorem Carries.put (carries : Carries stream messages) {message : List UInt8}
    (sized : IsMessage message) : Carries (stream.put (pdu message)) (messages ++ [message]) where
  bytes := by
    rw [List.map_append, List.flatten_append, ← carries.bytes, Stream.put, List.append_assoc]
    simp
  unfailed := carries.unfailed
  sized := by
    intro other member
    rcases List.mem_append.mp member with old | new
    · exact carries.sized other old
    · exact List.mem_singleton.mp new ▸ sized

theorem Carries.nothing (carries : Carries stream messages) (noneArrived : stream.arrived = [])
    (noneUnderWay : stream.underWay = []) : messages = [] := by
  have bytes := carries.bytes
  rw [noneArrived, noneUnderWay] at bytes
  cases messages with
  | nil => rfl
  | cons first others => simp [pdu, htons, littleEndian16] at bytes

theorem Carries.closed (carries : Carries stream [])
    (ending : stream.connection.ending = .closed) : stream = ⟨[], [], .closed⟩ := by
  obtain ⟨noneArrived, noneUnderWay⟩ := List.append_eq_nil_iff.mp carries.bytes
  rw [Stream.connection, noneUnderWay, if_pos rfl] at ending
  obtain ⟨arrived, underWay, ends⟩ := stream
  cases noneArrived
  cases noneUnderWay
  cases ending
  rfl

inductive Receives (stream : Stream) (messages : List (List UInt8)) : Prop where
  | waits (pending : stream.underWay ≠ [] ∨ messages = [] ∧ stream.ending = .quiet)
      (result : (recvPDU stream.connection maxBuf).result = .waiting)
  | closed (nothing : messages = []) (ending : stream.connection.ending = .closed)
      (call : recvPDU stream.connection maxBuf = ⟨.returned 0, 0, [], ⟨[], .closed⟩⟩)
  | message (first : List UInt8) (others : List (List UInt8)) (isFirst : messages = first :: others)
      (connection : Connection)
      (call : recvPDU stream.connection maxBuf =
        ⟨.returned first.length, first.length, first, connection⟩)
      (shorter : stream.arrived.length = (stream.leave connection).arrived.length +
        first.length + 2)
      (later : Carries (stream.leave connection) others)

theorem Carries.receives (carries : Carries stream messages) : Receives stream messages := by
  obtain ⟨arrived, underWay, ending⟩ := stream
  obtain ⟨bytes, unfailed, sized⟩ := carries
  dsimp only at bytes unfailed
  cases messages with
  | nil =>
      obtain ⟨rfl, rfl⟩ := List.append_eq_nil_iff.mp bytes
      cases ending with
      | quiet => exact .waits (.inr ⟨rfl, rfl⟩) (by rw [recvPDU_of_no_field rfl]; rfl)
      | closed => exact .closed rfl rfl (recvPDU_of_no_field rfl maxBuf)
      | failed => exact absurd rfl unfailed
  | cons first others =>
      rw [List.map_cons, List.flatten_cons] at bytes
      have isMessage := sized first List.mem_cons_self
      rcases List.append_eq_append_iff.mp bytes with ⟨missing, whole, behind⟩ | ⟨more, here, rest⟩
      · cases missing with
        | nil =>
            rw [List.append_nil] at whole
            rw [List.nil_append] at behind
            have call := recvPDU_pdu isMessage.le_payloadMax isMessage.fits []
              (Stream.connection ⟨arrived, underWay, ending⟩).ending
            rw [List.append_nil, whole] at call
            refine .message first others rfl _ call ?_ ⟨behind, unfailed, ?_⟩
            · simp [Stream.leave, ← whole, pdu_length]
            · exact fun message member => sized message (List.mem_cons_of_mem _ member)
        | cons byte bytes' =>
            have pending : underWay ≠ [] := by simp [behind]
            refine .waits (.inl pending) ?_
            have isQuiet : Stream.connection ⟨arrived, underWay, ending⟩ = ⟨arrived, .quiet⟩ := by
              simp only [Stream.connection, if_neg pending]
            rw [isQuiet]
            exact recvPDU_piece_waits isMessage ⟨_, whole.symm⟩ (by simp [whole])
      · subst here
        have call := recvPDU_pdu isMessage.le_payloadMax isMessage.fits more
          (Stream.connection ⟨pdu first ++ more, underWay, ending⟩).ending
        refine .message first others rfl _ call ?_ ⟨rest.symm, unfailed, ?_⟩
        · simp only [Stream.leave, List.length_append, pdu_length]
          omega
        · exact fun message member => sized message (List.mem_cons_of_mem _ member)

end Stream

end CPE464.P2
