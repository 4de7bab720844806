/-
When the error library ends a child of the server.

The library exits on a message of no bytes, and a child sends one when it resends a slot of the
window that has never been filled.
-/

import CPE464.Project3.NoticedDamage
import CPE464.Project3.SendHistory

namespace CPE464.Project3.Server

open General

section Step

variable {windowSize bufferSize : Nat} {packets : List Datagram} {child : Child}

/-- None of the packets built so far has taken the slot of this number. -/
def NeverFilled (windowSize : Nat) (packets : List Datagram) (number : Nat) : Prop :=
  ∀ datagram ∈ packets, seqNumOf datagram % windowSize ≠ number % windowSize

instance (windowSize : Nat) (packets : List Datagram) (number : Nat) :
    Decidable (NeverFilled windowSize packets number) :=
  inferInstanceAs (Decidable (∀ datagram ∈ packets, _ ≠ _))

theorem neverFilled_iff (history : SendHistory windowSize bufferSize packets child)
    (number : Nat) :
    NeverFilled windowSize packets number ↔
      lastWrite (place windowSize) packets.length (number % windowSize) = none := by
  rw [NeverFilled, lastWrite_eq_none_iff]
  constructor
  · intro free write made
    have other := free packets[write] (List.getElem_mem made)
    rwa [(history.packet write made).1] at other
  · intro free datagram member
    obtain ⟨write, made, rfl⟩ := List.getElem_of_mem member
    rw [(history.packet write made).1]
    exact free write made

theorem getPacket_empty_iff (history : SendHistory windowSize bufferSize packets child)
    (bound : bufferSize ≤ payloadMax) (number : Nat) (stack : Packet) :
    (getPacket child.window stack number).2 = 0 ↔ NeverFilled windowSize packets number := by
  rw [neverFilled_iff history]
  rcases history.slot bound number stack with ⟨empty, never⟩ | ⟨write, isLast, _, header⟩
  · exact iff_of_true empty never
  · refine iff_of_false (fun empty => ?_) (fun never => by cases isLast.symm.trans never)
    rw [empty] at header
    exact absurd header (by decide)

theorem take_bytes_eq_nil_iff (packet : Packet) (size : Nat) :
    packet.bytes.take size = [] ↔ size = 0 := by
  rw [List.take_eq_nil_iff, or_iff_left]
  intro empty
  have size := packet.size_eq
  rw [empty] at size
  cases size

theorem nextDatagram_ne_nil (child : Child) : nextDatagram child ≠ [] := by
  intro empty
  have length : (nextDatagram child).length = dataPacketSsize (nextData child).length :=
    dataDatagram_length _ _ _
  rw [empty, List.length_nil, dataPacketSsize, packetHeaderSsize] at length
  omega

/-- A step sends a message of no bytes when it is asked for a slot that has never been filled. -/
theorem sends_empty_iff (history : SendHistory windowSize bufferSize packets child)
    (bound : bufferSize ≤ payloadMax) (input : Input) :
    [] ∈ (step child input).sent.drop child.sent.length ↔
      ∃ number flag, retransmits child input = some (number, flag) ∧
        NeverFilled windowSize packets number := by
  have outcome := step_outcome child input
  generalize step child input = later at outcome ⊢
  cases outcome with
  | sent atTest isOpen =>
      have nothing : retransmits child input = none := by
        simp [retransmits, received, polls, atTest]
      rw [readFromDiskAndSend_frame (history.bufferSize_eq ▸ bound)]
      simp only [List.drop_left, List.mem_singleton, nothing, reduceCtorEq, false_and,
        exists_false, iff_false]
      exact (nextDatagram_ne_nil child).symm
  | acknowledged number state timeout lastTimeout rr fits notAcked =>
      have nothing : retransmits child input = none := by
        cases asked : retransmits child input with
        | none => rfl
        | some request => cases (rrReceived_none asked).symm.trans rr
      simp [nothing]
  | idle state timeout lastTimeout noRr noResend fits acked => simp [noResend]
  | resent number flag stack unconditional state timeout lastTimeout asked noRr resendFlag
      inClosed fits notAcked =>
      have only : (∃ number flag, retransmits child input = some (number, flag) ∧
          NeverFilled windowSize packets number) ↔ NeverFilled windowSize packets number := by
        simp [asked]
      rw [only, ← getPacket_empty_iff history bound number stack]
      simp only [resend, safeSendto, List.drop_left, List.mem_singleton]
      exact eq_comm.trans (take_bytes_eq_nil_iff _ _)

end Step

/-- Whatever a child has received before, the library ends it in the very step in which it
resends for a number whose slot has never been filled. -/
theorem library_ends_child_iff (windowSize bufferSize : Nat) (bufferMax : bufferSize ≤ payloadMax)
    (file : List UInt8) (environment : Environment) (now : Int) (calls : List Library.Call)
    (inputs : List Input) (input : Input)
    (running : (run Library.call (Library.load environment now) calls).exited = false) :
    let child := run step (start windowSize bufferSize file) inputs
    let library := run Library.call (Library.load environment now) calls
    (library.sendAll ((step child input).sent.drop child.sent.length)).exited = true ↔
      ∃ number flag, retransmits child input = some (number, flag) ∧
        NeverFilled windowSize (built (start windowSize bufferSize file) inputs) number := by
  intro child library
  have settings : Library.LibraryInv library :=
    Library.run_inv (Library.load_inv environment now) calls
  have passed : Library.Sent (fun _ => True) library
      ((step child input).sent.drop child.sent.length) _ :=
    Library.sendAll_sent settings running fun _ _ _ _ => trivial
  rw [passed.exited]
  exact sends_empty_iff (run_history windowSize bufferMax file inputs) bufferMax input

/-- After an RR for the first packet and a late one, an SREJ names a packet that has not been
sent. -/
theorem library_ends_child_iff_early_srej :
    (((Library.load ⟨none, none, none, none⟩ 0).sendAll
      ((step (run step (start 4 1 [65, 66]) [pass none, rrArrives 2, rrArrives 1])
        (srejArrives 3)).sent.drop
        (run step (start 4 1 [65, 66]) [pass none, rrArrives 2, rrArrives 1]).sent.length)).exited)
      = true :=
  (library_ends_child_iff 4 1 (by decide) [65, 66] ⟨none, none, none, none⟩ 0 []
    [pass none, rrArrives 2, rrArrives 1] (srejArrives 3) rfl).mpr
    ⟨3, .srejData, by decide +kernel, by decide +kernel⟩

end CPE464.Project3.Server
