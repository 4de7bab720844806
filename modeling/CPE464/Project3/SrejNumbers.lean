/-
The numbers in the SREJs of rcopy, whatever it receives.

The two data handlers ask for `expected`.  `lastData` also sends an SREJ for a datagram
that `isValidPacket` rejects, and that one names whatever the header of the rejected bytes
holds.
-/

import CPE464.General.GuardedRun
import CPE464.Project3.RcopyAnyInput

namespace CPE464.Project3

open General

def askedNumber? (datagram : Datagram) : Option Nat :=
  if flagOf datagram = FlagType.rr.code ∨ flagOf datagram = FlagType.srej.code then
    some (numberOf datagram)
  else none

theorem askedNumber?_of_rr {datagram : Datagram} {number : Nat}
    (isRr : rrNumber? datagram = some number) : askedNumber? datagram = some number := by
  unfold rrNumber? at isRr
  split at isRr
  · next flagged => rw [askedNumber?, if_pos (.inl flagged), isRr]
  · cases isRr

theorem askedNumber?_of_srej {datagram : Datagram} {number : Nat}
    (asks : askedNumber? datagram = some number)
    (isSrej : flagOf datagram = FlagType.srej.code) : numberOf datagram = number := by
  rw [askedNumber?, if_pos (.inr isSrej)] at asks
  exact Option.some.inj asks

theorem IsControl.askedNumber?_srej {number : Nat} {datagram : Datagram}
    (control : IsControl .srej number datagram) : askedNumber? datagram = some number := by
  rw [askedNumber?, if_pos (.inr control.flag_eq), control.number_eq]

theorem askedNumber?_of_other {flag : FlagType} {datagram : Datagram}
    (flagged : flagOf datagram = flag.code) (notRr : flag ≠ .rr) (notSrej : flag ≠ .srej) :
    askedNumber? datagram = none := by
  rw [askedNumber?, flagged, if_neg]
  rintro (same | same)
  · exact notRr (FlagType.code_injective same)
  · exact notSrej (FlagType.code_injective same)

namespace Rcopy

theorem Reply.askedNumber? {statics : Statics} {datagram : Datagram}
    (reply : Reply statics datagram) :
    CPE464.Project3.askedNumber? datagram = some statics.expected := by
  cases reply with
  | rr control => exact askedNumber?_of_rr control.rrNumber?_rr
  | srej control => exact control.askedNumber?_srej

/-- The number in the header of a datagram that `lastData` rejects in this step. -/
def rejectedNumber (process : Process) (input : Input) : Option Nat :=
  match process.state with
  | .lastDataLoop =>
      if process.statics.wroteLastData then none
      else
        match input.poll with
        | none => none
        | some datagram =>
            let (valid, packet, _) := receiveAndValidateData process.frame.packet datagram
              (dataPacketSsize process.statics.bufferSize)
            if valid then none else some packet.seqNum
  | _ => none

/-- The SREJs of this step name the packet expected when they are sent. -/
def SrejsExpected (process : Process) (input : Input) : Prop :=
  ∀ datagram ∈ (stateMachine process input).statics.sent.drop process.statics.sent.length,
    flagOf datagram = FlagType.srej.code →
      numberOf datagram = (stateMachine process input).statics.expected

def NamesExpected (process : Process) (input : Input) : Prop :=
  ∀ number ∈ rejectedNumber process input, number = process.statics.expected

inductive Sends (process : Process) (input : Input) (later : Process) : Prop
  | handled (packet : Packet) (dataSize : Nat)
      (isHandled : handling process input = some (packet, dataSize))
      (notRejected : rejectedNumber process input = none)
      (statics : later.statics =
        (handleData process.statics packet dataSize (activeBuffering process)).statics)
  | rejects (number : Nat) (srej : Datagram) (nothing : handling process input = none)
      (isRejected : rejectedNumber process input = some number)
      (control : IsControl .srej number srej)
      (sends : later.statics.sent = process.statics.sent ++ [srej])
  | quiet (sent : List Datagram) (nothing : handling process input = none)
      (notRejected : rejectedNumber process input = none)
      (sends : later.statics.sent = process.statics.sent ++ sent)
      (others : ∀ datagram ∈ sent, askedNumber? datagram = none)

section Step

variable {process later : Process}

theorem Sends.of_same {input : Input} (nothing : handling process input = none)
    (notRejected : rejectedNumber process input = none)
    (same : later.statics.sent = process.statics.sent) : Sends process input later :=
  .quiet [] nothing notRejected (by rw [same, List.append_nil]) (fun _ absent => by cases absent)

theorem rejectedNumber_of_ne (input : Input) (notLoop : process.state ≠ .lastDataLoop) :
    rejectedNumber process input = none := by
  unfold rejectedNumber
  split
  · next isLoop => exact absurd isLoop notLoop
  · rfl

theorem lastData_sends (input : Input) (atLoop : process.state = .lastDataLoop)
    (small : process.statics.expected < 2 ^ 32) :
    Sends process input (lastData process input.poll) := by
  have mode : activeBuffering process = process.frame.buffering := by
    simp only [activeBuffering, atLoop]
  have pass := lastData_pass input atLoop
  generalize lastData process input.poll = later, hands : handling process input = handed at pass ⊢
  cases pass with
  | complete wrote =>
      have notRejected : rejectedNumber process input = none := by
        simp only [rejectedNumber, atLoop, wrote, if_true]
      have acked := restampedRr_isControl process.statics.seqNum .eofAck small
      refine .quiet _ hands notRejected rfl ?_
      intro datagram member
      rw [List.mem_singleton.mp member]
      exact askedNumber?_of_other acked.flag_eq (by decide) (by decide)
  | timedOut unfinished expired =>
      have notRejected : rejectedNumber process input = none := by
        simp only [rejectedNumber, atLoop, unfinished, expired, Bool.false_eq_true, if_false]
      exact .of_same hands notRejected rfl
  | rejected unfinished datagram packet dataSize polled received =>
      have isRejected : rejectedNumber process input = some packet.seqNum := by
        simp only [rejectedNumber, atLoop, unfinished, polled, received, Bool.false_eq_true,
          if_false]
      exact .rejects packet.seqNum _ hands isRejected
        (buildSrejPacket_isControl process.statics.seqNum (ntohl_lt packet.bytes)) rfl
  | handled unfinished datagram packet dataSize polled received =>
      have notRejected : rejectedNumber process input = none := by
        simp only [rejectedNumber, atLoop, unfinished, polled, received, Bool.false_eq_true,
          if_false, if_true]
      exact .handled packet dataSize hands notRejected (mode ▸ rfl)

theorem dispatch_sends (input : Input) (notWaiting : ¬Waits process) :
    ∃ sent, (dispatch process input).statics.sent = process.statics.sent ++ sent ∧
      ∀ datagram ∈ sent, askedNumber? datagram = none := by
  have silent : (dispatch process input).statics.sent = process.statics.sent →
      ∃ sent, (dispatch process input).statics.sent = process.statics.sent ++ sent ∧
        ∀ datagram ∈ sent, askedNumber? datagram = none := by
    intro same
    exact ⟨[], by rw [same, List.append_nil], fun _ absent => by cases absent⟩
  cases atState : process.state with
  | processData => exact absurd (.inl atState) notWaiting
  | bufferData => exact absurd (.inr atState) notWaiting
  | sendFilename =>
      refine ⟨_, by simp only [dispatch, atState]; rfl, ?_⟩
      intro datagram member
      rw [List.mem_singleton.mp member]
      exact askedNumber?_of_other (buildFileNamePacket_flag _ _ _ _) (by decide) (by decide)
  | waitForFilenameAck =>
      obtain ⟨state, packet, highest, frame, _⟩ := waitForFileNameAck_frame process input.poll
      exact silent (by simp only [dispatch, atState, frame])
  | receiveFirstData | receiveData =>
      apply silent
      simp only [dispatch, atState]
      cases input.poll with
      | none => rfl
      | some datagram => rw [recvData_some]
  | sendFilenameTimeout | receiveDataTimeout | badData | lastData | lastDataLoop | kill | exit =>
      exact silent (by simp only [dispatch, atState])

theorem stateMachine_sends (modes : Modes process) (small : process.statics.expected < 2 ^ 32)
    (input : Input) : Sends process input (stateMachine process input) := by
  have pass := stateMachine_pass process input
  generalize stateMachine process input = later at pass ⊢
  cases pass with
  | teardown atLoop => exact lastData_sends input atLoop small
  | ended atExit =>
      have notLoop : process.state ≠ .lastDataLoop := by simp [atExit]
      have notWaiting : ¬Waits process := by simp [Waits, atExit]
      exact .of_same (handling_of_idle input notLoop notWaiting)
        (rejectedNumber_of_ne input notLoop) rfl
  | givesUp running notTeardown expired =>
      exact .of_same (handling_expired input notTeardown expired)
        (rejectedNumber_of_ne input notTeardown) rfl
  | switched running notTeardown under =>
      by_cases waits : Waits process
      · have notReceiving : process.state ≠ .receiveData := by
          rcases waits with atState | atState <;> simp [atState]
        refine .handled process.currPacket process.dataSize (handling_waits input waits under)
          (rejectedNumber_of_ne input notTeardown) ?_
        rw [if_neg notReceiving, dispatch_handler input waits (modes.handler waits),
          activeBuffering_of_ne notTeardown]
        rfl
      · have nothing := handling_of_idle input notTeardown waits
        have notRejected := rejectedNumber_of_ne input notTeardown
        split
        · have cleared : ¬Waits { process with currPacket := Packet.zero } := waits
          obtain ⟨sent, sends, others⟩ := dispatch_sends input cleared
          exact .quiet sent nothing notRejected sends others
        · obtain ⟨sent, sends, others⟩ := dispatch_sends input waits
          exact .quiet sent nothing notRejected sends others

theorem Sends.srejsExpected_iff {input : Input} (small : process.statics.expected < 2 ^ 32)
    (keeps : handling process input = none →
      (stateMachine process input).statics.expected = process.statics.expected)
    (sends : Sends process input (stateMachine process input)) :
    SrejsExpected process input ↔ NamesExpected process input := by
  unfold SrejsExpected NamesExpected
  cases sends with
  | handled packet dataSize isHandled notRejected statics =>
      obtain ⟨⟨replies, grown, each⟩, _⟩ :=
        handleData_answers packet dataSize (activeBuffering process) small
      rw [← statics] at grown each
      rw [grown, List.drop_left, notRejected]
      refine iff_of_true ?_ (fun _ absent => by cases absent)
      exact fun datagram member isSrej =>
        askedNumber?_of_srej (each datagram member).askedNumber? isSrej
  | rejects number srej nothing isRejected control sends =>
      rw [sends, List.drop_left, isRejected, keeps nothing]
      constructor
      · intro named other isNumber
        obtain rfl := Option.some.inj isNumber
        rw [← control.number_eq]
        exact named srej (List.mem_singleton_self srej) control.flag_eq
      · intro named datagram member _
        rw [List.mem_singleton.mp member, control.number_eq]
        exact named number rfl
  | quiet sent nothing notRejected sends others =>
      rw [sends, List.drop_left, notRejected]
      refine iff_of_true ?_ (fun _ absent => by cases absent)
      intro datagram member isSrej
      have nothingAsked := others datagram member
      rw [askedNumber?, if_pos (.inr isSrej)] at nothingAsked
      cases nothingAsked

structure NumbersInv (process : Process) : Prop where
  modes : Modes process
  small : process.statics.expected < 2 ^ 32

theorem NumbersInv.step (inv : NumbersInv process) (input : Input) :
    NumbersInv (stateMachine process input) := by
  refine ⟨stateMachine_modes inv.modes, ?_⟩
  rcases stateMachine_any inv.modes input with ⟨packet, dataSize, _, statics⟩ | ⟨_, keeps⟩
  · rw [statics]
    exact (handleData_answers packet dataSize (activeBuffering process) inv.small).2
  · rw [keeps.expected]
    exact inv.small

theorem NumbersInv.srejsExpected_iff (inv : NumbersInv process) (input : Input) :
    SrejsExpected process input ↔ NamesExpected process input := by
  refine (stateMachine_sends inv.modes inv.small input).srejsExpected_iff inv.small ?_
  intro nothing
  rcases stateMachine_any inv.modes input with ⟨packet, dataSize, isHandled, _⟩ | ⟨_, keeps⟩
  · cases nothing.symm.trans isHandled
  · exact keeps.expected

end Step

/-- Whatever arrives, the SREJs name the packet expected in the runs in which `lastData`
rejects no datagram that names another. -/
theorem srejs_expected_iff (windowSize bufferSize : Nat) (fromFileName : List UInt8)
    (inputs : List Input) :
    EveryStep stateMachine SrejsExpected (start windowSize bufferSize fromFileName) inputs ↔
      EveryStep stateMachine NamesExpected (start windowSize bufferSize fromFileName) inputs := by
  have initially : NumbersInv (start windowSize bufferSize fromFileName) := by
    refine ⟨.of_handshake rfl (fun no => by cases no), ?_⟩
    change seqNumStart < 2 ^ 32
    decide
  exact everyStep_congr NumbersInv (fun _ input inv _ _ => inv.step input)
    (fun _ input inv _ => inv.srejsExpected_iff input) initially (everyStep_true _ inputs)

end Rcopy

end CPE464.Project3
