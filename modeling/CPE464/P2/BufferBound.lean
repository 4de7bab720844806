/-
How many bytes `recvPDU` asks for, against the size of the caller's buffer.

The guard compares the payload length as an `int`; the request is the same difference cut
to 16 bits.  They differ for the length fields 0 and 1.
-/

import CPE464.P2.Echo

namespace CPE464.P2

open General

/-- A call that does not exit asks for no more, and stores no more, than the buffer holds. -/
def StaysInBuffer (bufferSize : Int) (call : RecvPDU) : Prop :=
  call.result ≠ .exited →
    (call.requested : Int) ≤ bufferSize ∧ (call.stored.length : Int) ≤ bufferSize

theorem request_eq {field : Nat} (small : field < 65536) :
    wrap16 (field - pduHdrLen) = if 2 ≤ field then field - 2 else 65534 + field := by
  unfold wrap16 pduHdrLen
  split <;> omega

section Payload

variable {field : Nat} {bufferSize : Int}

theorem recvPayload_request (connection : Connection)
    (fits : (field : Int) - pduHdrLen ≤ bufferSize) :
    let call := recvPayload field connection bufferSize
    call.requested = wrap16 (field - pduHdrLen) ∧ call.stored.length ≤ call.requested ∧
      (call.result = .exited ↔
        connection.ending = .failed ∧ connection.incoming = [] ∧
          0 < wrap16 (field - pduHdrLen)) := by
  rcases le_or_gt (wrap16 (field - pduHdrLen)) connection.incoming.length with arrives | cut
  · rw [recvPayload_whole fits arrives]
    refine ⟨rfl, List.length_take_le _ _, ?_⟩
    simp only [reduceCtorEq, false_iff, not_and]
    intro _ empty
    rw [empty, List.length_nil] at arrives
    omega
  · rw [recvPayload_cut fits cut]
    refine ⟨rfl, cut.le, ?_⟩
    cases connection.ending with
    | quiet | closed => simp
    | failed =>
        have asked : 0 < wrap16 (field - pduHdrLen) := by omega
        by_cases empty : connection.incoming = []
        · simp [empty, asked]
        · simp [empty]

end Payload

/-- A call stays in the buffer unless it reads a length field below 2, which makes it ask
for 65534 bytes and more. -/
theorem stays_in_buffer_iff {bufferSize : Int} (positive : 1 ≤ bufferSize)
    (connection : Connection) :
    StaysInBuffer bufferSize (recvPDU connection bufferSize) ↔
      ∀ field, lengthField connection = some field →
        2 ≤ field ∨ 65534 + (field : Int) ≤ bufferSize ∨
          connection.ending = .failed ∧ connection.incoming.length ≤ 2 := by
  cases read : lengthField connection with
  | none =>
      rw [recvPDU_of_no_field read]
      simp only [reduceCtorEq, false_implies, implies_true, iff_true]
      intro _
      simp only [List.length_nil]
      omega
  | some field =>
      have small := lengthField_lt read
      simp only [Option.some.injEq, forall_eq']
      rw [recvPDU_of_field read]
      rcases lt_or_ge bufferSize ((field : Int) - pduHdrLen) with long | fits
      · rw [recvPayload_tooLong long]
        refine iff_of_true (fun running => absurd rfl running) (Or.inl ?_)
        unfold pduHdrLen at long
        omega
      · obtain ⟨requested, stored, exits⟩ :=
          recvPayload_request connection.behindHeader fits
        have nothing : connection.behindHeader.incoming = [] ↔ connection.incoming.length ≤ 2 :=
          List.drop_eq_nil_iff
        have ending : connection.behindHeader.ending = connection.ending := rfl
        rw [request_eq small] at requested exits
        rw [nothing, ending] at exits
        have guard : (field : Int) - 2 ≤ bufferSize := fits
        rcases Nat.lt_or_ge field 2 with wraps | enough
        · rw [if_neg (not_le.mpr wraps)] at requested exits
          rw [StaysInBuffer, ne_eq, exits, requested]
          by_cases failed : connection.ending = .failed
          · simp only [failed, true_and]
            omega
          · simp only [failed, false_and, not_false_eq_true, true_implies, or_false]
            omega
        · rw [if_pos enough] at requested
          rw [StaysInBuffer, requested]
          omega

theorem stays_in_buffer_iff_server :
    StaysInBuffer maxBuf (recvPDU ⟨[0, 3, 104], .quiet⟩ maxBuf) ↔
      ∀ field, lengthField ⟨[0, 3, 104], .quiet⟩ = some field →
        2 ≤ field ∨ 65534 + (field : Int) ≤ maxBuf ∨
          Ending.quiet = .failed ∧ ([0, 3, 104] : List UInt8).length ≤ 2 :=
  stays_in_buffer_iff (by decide) ⟨[0, 3, 104], .quiet⟩

/-- A length field of zero, and 1025 more bytes, overrun the buffer of `recvFromClient`. -/
theorem zero_field_overruns :
    (recvPDU ⟨0 :: 0 :: List.replicate 1025 0, .closed⟩ maxBuf).result = .returned 1025 ∧
      ¬StaysInBuffer maxBuf (recvPDU ⟨0 :: 0 :: List.replicate 1025 0, .closed⟩ maxBuf) := by
  have read : lengthField ⟨0 :: 0 :: List.replicate 1025 0, .closed⟩ = some 0 := rfl
  have guard : ((0 : Nat) : Int) - pduHdrLen ≤ maxBuf := by decide
  have behind : Connection.behindHeader ⟨0 :: 0 :: List.replicate 1025 0, .closed⟩ =
      ⟨List.replicate 1025 0, .closed⟩ := rfl
  have length : (List.replicate 1025 (0 : UInt8)).length = 1025 := List.length_replicate
  have cut : (List.replicate 1025 (0 : UInt8)).length < wrap16 ((0 : Nat) - pduHdrLen) := by
    rw [length]
    decide
  rw [recvPDU_of_field read, behind, recvPayload_cut guard cut]
  simp only [length]
  constructor
  · rfl
  · intro bounded
    have small := (bounded Result.noConfusion).2
    rw [length] at small
    exact absurd small (by decide)

end CPE464.P2
