/-
What the error library makes of the datagrams of rcopy and of the server.

All that they send verifies, so a datagram with a complemented byte is rejected by whoever
receives it: by a child, by the server, and by rcopy, as data and as an answer.
-/

import CPE464.Project3.Asking
import CPE464.Project3.LossyNetwork

namespace CPE464.Project3

open General PacketManager

/-! ### What a library lets through -/

def Wired (rejects : Datagram → Prop) (wire sent : Datagram) : Prop :=
  wire = sent ∨ rejects wire

abbrev Channel (rejects : Datagram → Prop) : List Datagram → List Datagram → Prop :=
  List.Forall₂ (Wired rejects)

namespace Library

variable {library : Library} {datagrams : List Datagram} {rejects : Datagram → Prop}

structure Sent (rejects : Datagram → Prop) (library : Library) (datagrams : List Datagram)
    (later : Library) : Prop where
  inv : LibraryInv later
  grown : ∃ added, later.log = library.log ++ added ∧
    ∃ kept, kept.Sublist datagrams ∧ Channel rejects (added.filterMap Prod.snd) kept
  exited : later.exited = true ↔ [] ∈ datagrams

theorem sendAll_sent (inv : LibraryInv library) (running : library.exited = false)
    (noticed : ∀ datagram ∈ datagrams, ∀ damaged, Flipped datagram damaged → rejects damaged) :
    Sent rejects library datagrams (library.sendAll datagrams) := by
  induction datagrams generalizing library with
  | nil =>
      exact ⟨inv, ⟨[], (List.append_nil _).symm, [], .slnil, .nil⟩, by simp [sendAll, running]⟩
  | cons datagram rest inductionHypothesis =>
      have called := call_called inv.noFlips (.sendtoErr datagram)
      have next := called.inv inv
      have later : library.sendAll (datagram :: rest) =
          (library.call (.sendtoErr datagram)).sendAll rest := rfl
      rw [later]
      generalize library.call (.sendtoErr datagram) = first at called next ⊢
      cases called with
      | ended _ exited => cases running.symm.trans exited
      | configured _ silent => cases silent
      | exits =>
          have ended : ({ library with exited := true } : Library).sendAll rest =
              { library with exited := true } := run_ended rfl _
          rw [ended]
          exact ⟨next, ⟨[], (List.append_nil _).symm, [], List.nil_sublist _, .nil⟩,
            iff_of_true rfl List.mem_cons_self⟩
      | @sends _ _ nonempty manager wire sends =>
          obtain ⟨whole, ⟨added, grown, kept, fewer, channel⟩, exits⟩ :=
            inductionHypothesis next running fun other member =>
              noticed other (List.mem_cons_of_mem _ member)
          refine ⟨whole, ⟨(datagram, wire) :: added, ?_, ?_⟩, ?_⟩
          · rw [grown, List.append_assoc, List.singleton_append]
          · have passes := sends.passes
            cases passes with
            | lost => exact ⟨kept, fewer.cons _, channel⟩
            | whole => exact ⟨datagram :: kept, fewer.cons_cons _, .cons (.inl rfl) channel⟩
            | flipped isFlipped =>
                exact ⟨datagram :: kept, fewer.cons_cons _,
                  .cons (.inr (noticed _ List.mem_cons_self _ isFlipped)) channel⟩
          · rw [exits, List.mem_cons, or_iff_right (Ne.symm nonempty)]

theorem Sent.wires {later : Library} (sent : Sent rejects library datagrams later) :
    ∃ kept, kept.Sublist datagrams ∧ Channel rejects (later.wiresSince library) kept := by
  obtain ⟨added, grown, kept, fewer, channel⟩ := sent.grown
  refine ⟨kept, fewer, ?_⟩
  rw [wiresSince, grown, List.drop_left]
  exact channel

end Library

/-! ### What the receivers reject -/

def RejectsRequest (datagram : Datagram) : Prop :=
  inCksum (datagram.take filenameMaxSsize) ≠ 0

def RejectsData (bufferSize : Nat) (datagram : Datagram) : Prop :=
  Rcopy.Rejected bufferSize datagram ∧ Rcopy.RejectsResponse datagram

section Noticed

variable {datagram damaged : Datagram} (flipped : Flipped datagram damaged)

include flipped

theorem flipped_take {size : Nat} (verifies : inCksum datagram = 0)
    (fits : datagram.length ≤ size) (small : size ≤ packetMaxSsize) :
    inCksum (damaged.take size) ≠ 0 := by
  rw [List.take_of_length_le (flipped.length_eq ▸ fits)]
  refine flipped.rejected (Nat.le_trans fits (Nat.le_trans small ?_)) verifies
  decide

theorem flipped_control {flag : FlagType} {number : Nat}
    (control : IsControl flag number datagram) :
    System.ServerRejects damaged ∧ RejectsRequest damaged := by
  have server := flipped_take flipped control.verifies (Nat.le_of_eq control.length_eq)
    (by decide)
  have main := flipped_take flipped control.verifies
    (show datagram.length ≤ filenameMaxSsize by rw [control.length_eq]; decide) (by decide)
  refine ⟨?_, main⟩
  have length : (damaged.take rrPacketSsize).length ≤ packetMaxSsize :=
    Nat.le_trans (List.length_take_le _ _) (by decide)
  simp only [System.ServerRejects, Server.receiveAndValidateData, isValidPacket_memcpy _ length,
    beq_eq_false_iff_ne.mpr server, Bool.and_false]

theorem flipped_request {windowSize bufferSize : Nat} {fromFileName : List UInt8}
    (nameMax : fromFileName.length ≤ filenameMaxLen)
    (isRequest : datagram = Network.request windowSize bufferSize fromFileName) :
    RejectsRequest damaged := by
  have built := Built.fileName 0 windowSize bufferSize fromFileName nameMax
  have verifies : inCksum datagram = 0 := by
    rw [isRequest]
    exact eq_of_beq built.verifies
  refine flipped_take flipped verifies ?_ (by decide)
  rw [isRequest, Network.request, List.length_take, filenamePacketSsize_eq, filenameMaxSsize,
    filenamePacketSsize_eq]
  simp only [filenameMaxLen] at *
  omega

theorem rejected_of_take {size : Nat} (verifies : inCksum datagram = 0)
    (fits : datagram.length ≤ dataPacketSsize size) (small : size ≤ payloadMax) :
    Rcopy.Rejected size damaged := by
  have room : dataPacketSsize size ≤ packetMaxSsize := by
    simp only [dataPacketSsize, packetHeaderSsize, packetMaxSsize, payloadMax] at *
    omega
  have noticed := flipped_take flipped verifies fits room
  rw [Rcopy.Rejected, ← Bool.not_eq_true, Rcopy.receive_valid_iff _ _ room]
  exact noticed

theorem flipped_response {found : Bool} {bufferSize : Nat} (positive : 0 < bufferSize)
    (small : bufferSize ≤ payloadMax) (isResponse : datagram = Network.response found) :
    RejectsData bufferSize damaged := by
  have verifies : inCksum datagram = 0 := by
    rw [isResponse]
    cases found <;> decide +kernel
  have length : datagram.length = filenameRespPacketSsize := by
    rw [isResponse]
    cases found <;> decide +kernel
  refine ⟨rejected_of_take flipped verifies ?_ small, .inl ?_⟩
  · rw [length]
    simp only [filenameRespPacketSsize, dataPacketSsize]
    omega
  · exact flipped_take flipped verifies (Nat.le_of_eq length) (by decide)

theorem flipped_flag :
    flagOf damaged = flagOf datagram ∨ flagOf damaged = flagOf datagram ^^^ 0xFF := by
  cases flipped with
  | byte index inside =>
      simp only [flagOf, complementByte, List.getD_eq_getElem?_getD]
      by_cases here : index = 6
      · subst here
        right
        rw [List.getElem?_set_self inside, Option.getD_some]
      · left
        rw [List.getElem?_set_ne here]

theorem flipped_data {transfer : Transfer} {bound : Nat}
    (isSent : Server.IsSent transfer bound datagram) :
    RejectsData transfer.bufferSize damaged := by
  rcases isSent with rfl | ⟨seqNum, flag, _, _, flagged, rfl⟩
  · cases flipped with
    | byte index inside => cases inside
  · have length := transfer.datagram_length seqNum flag
    have chunk := transfer.chunk_length_le seqNum
    have header : packetHeaderSsize ≤ (transfer.datagram seqNum flag).length := by
      rw [length]
      exact Nat.le_add_right _ _
    refine ⟨rejected_of_take flipped (transfer.datagram_verifies seqNum flag) ?_
      transfer.bufferSize_max, .inr ⟨flipped.length_eq.symm ▸ header, ?_⟩⟩
    · rw [length]
      exact Nat.add_le_add_left chunk _
    · rcases flipped_flag flipped with same | complemented
      · rw [same, transfer.datagram_flag]
        rcases flagged.2 with rfl | rfl | rfl | rfl <;> decide
      · rw [complemented, transfer.datagram_flag]
        rcases flagged.2 with rfl | rfl | rfl | rfl <;> decide

end Noticed

/-! ### What rcopy sends -/

namespace Rcopy

def SendsControls (earlier later : Statics) : Prop :=
  ∃ sent, later.sent = earlier.sent ++ sent ∧
    ∀ datagram ∈ sent, ∃ flag number, IsControl flag number datagram

variable {process : Process}

theorem sendsControls_of_same {earlier later : Statics} (same : later.sent = earlier.sent) :
    SendsControls earlier later :=
  ⟨[], by rw [same, List.append_nil], fun _ absent => by cases absent⟩

theorem sendsControls_of_replies {earlier later : Statics} (replies : RepliesSince earlier later) :
    SendsControls earlier later := by
  obtain ⟨sent, grown, each⟩ := replies
  refine ⟨sent, grown, fun datagram member => ?_⟩
  cases each datagram member with
  | rr control => exact ⟨_, _, control⟩
  | srej control => exact ⟨_, _, control⟩

theorem lastData_sendsControls (input : Input) (atLoop : process.state = .lastDataLoop)
    (small : process.statics.expected < 2 ^ 32) :
    SendsControls process.statics (lastData process input.poll).statics := by
  have pass := lastData_pass input atLoop
  generalize lastData process input.poll = later, handling process input = hands at pass ⊢
  cases pass with
  | complete =>
      refine ⟨_, rfl, fun datagram member => ?_⟩
      rw [List.mem_singleton.mp member]
      exact ⟨_, _, restampedRr_isControl _ .eofAck small⟩
  | timedOut => exact sendsControls_of_same rfl
  | rejected =>
      refine ⟨_, rfl, fun datagram member => ?_⟩
      rw [List.mem_singleton.mp member]
      exact ⟨_, _, buildSrejPacket_isControl _ (ntohl_lt _)⟩
  | handled => exact sendsControls_of_replies (handleData_answers _ _ _ small).1

/-- Once its request is out, rcopy sends nothing but control messages, whatever it receives. -/
theorem stateMachine_sendsControls (modes : Modes process) (input : Input)
    (small : process.statics.expected < 2 ^ 32) (asked : process.state ≠ .sendFilename) :
    SendsControls process.statics (stateMachine process input).statics := by
  have pass := stateMachine_pass process input
  generalize stateMachine process input = later at pass ⊢
  cases pass with
  | teardown atLoop => exact lastData_sendsControls input atLoop small
  | ended | givesUp => exact sendsControls_of_same rfl
  | switched =>
      by_cases waits : Waits process
      · have notReceiving : process.state ≠ .receiveData := by
          rcases waits with atState | atState <;> simp [atState]
        rw [if_neg notReceiving, dispatch_handler input waits (modes.handler waits)]
        exact sendsControls_of_replies (handleData_answers _ _ _ small).1
      · have quiet : ∀ other : Process, other.state = process.state →
            other.buffering = process.buffering → other.statics = process.statics →
            SendsControls process.statics (dispatch other input).statics := by
          intro other state buffering statics
          have notProcess : other.state ≠ .processData := fun at_ => waits (.inl (state ▸ at_))
          have notBuffer : other.state ≠ .bufferData := fun at_ => waits (.inr (state ▸ at_))
          obtain ⟨sent, grown, each⟩ := (dispatch_quiet other input
            (fun early => buffering ▸ modes.fresh (state ▸ early)) notProcess notBuffer).notices
          refine ⟨sent, by rw [grown, statics], fun datagram member => ?_⟩
          cases each datagram member with
          | fileName early => exact absurd (state ▸ early) asked
          | srej number control => exact ⟨_, _, control⟩
          | eofAck _ control => exact ⟨_, _, control⟩
        split
        · exact quiet _ rfl rfl rfl
        · exact quiet _ rfl rfl rfl

end Rcopy

end CPE464.Project3
