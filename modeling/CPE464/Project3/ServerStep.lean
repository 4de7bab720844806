/-
What one step of the server child can do.

`Outcome` lists the moves: it sends the next packet of the file, follows an RR, resends a
packet for an SREJ or a timeout, or only changes its control state.  `step_outcome` shows
that there are no others; no later proof opens the loops of server.c again.
-/

import CPE464.Project3.Server

namespace CPE464.Project3.Server

open General

def received (child : Child) (input : Input) : Option Packet :=
  if polls child then
    match input.poll with
    | none => none
    | some datagram =>
        let (valid, packet, _) := receiveAndValidateData Packet.zero datagram rrPacketSsize true
        if valid then some packet else none
  else none

def rrReceived (child : Child) (input : Input) : Option Nat :=
  match received child input with
  | some packet => if packet.flag = FlagType.rr.code then some packet.number else none
  | none => none

def retransmits (child : Child) (input : Input) : Option (Nat × FlagType) :=
  match received child input with
  | some packet =>
      if packet.flag = FlagType.srej.code then some (packet.number, .srejData) else none
  | none =>
      if polls child = true ∧ input.poll = none ∧ child.state ≠ .checkRrSrej then
        some (child.window.lower, .timeoutData)
      else none

def resend (child : Child) (stack : Packet) (seqNum : Nat) (flag : FlagType)
    (unconditional : Bool) : Child :=
  let slot := getPacket child.window stack seqNum
  safeSendto child
    ((if unconditional then restamp slot.1 flag slot.2
      else restampUnlessEof slot.1 flag slot.2).bytes.take slot.2)

/-- The sending loops run until the end of the file is reached, `lastData` after it. -/
def Fits (atEof : Bool) : State → Prop
  | .windowOpen | .checkRrSrej | .windowClosed => atEof = false
  | .lastData | .eofAcked => atEof = true
  | .kill => True

inductive Outcome (child : Child) (input : Input) : Child → Prop
  | sent (atTest : child.state = .windowOpen) (isOpen : isWindowOpen child.window = true) :
      Outcome child input
        { readFromDiskAndSend child with
          state := if (readFromDiskAndSend child).atEof then .lastData else .checkRrSrej }
  | acknowledged (number : Nat) (state : State) (timeout lastTimeout : Nat)
      (rr : rrReceived child input = some number)
      (fits : Fits child.atEof child.state → Fits child.atEof state)
      (notAcked : state ≠ .eofAcked) :
      Outcome child input
        { child with
          window := removePacket child.window number
          state, timeout, lastTimeout }
  | resent (number : Nat) (flag : FlagType) (stack : Packet) (unconditional : Bool)
      (state : State) (timeout lastTimeout : Nat)
      (asked : retransmits child input = some (number, flag))
      (noRr : rrReceived child input = none)
      (resend : flag = .srejData ∨ flag = .timeoutData)
      (inClosed : unconditional = true → child.state = .windowClosed)
      (fits : Fits child.atEof child.state → Fits child.atEof state)
      (notAcked : state ≠ .eofAcked) :
      Outcome child input
        { Server.resend child stack number flag unconditional with state, timeout, lastTimeout }
  | idle (state : State) (timeout lastTimeout : Nat)
      (noRr : rrReceived child input = none) (noResend : retransmits child input = none)
      (fits : Fits child.atEof child.state → Fits child.atEof state)
      (acked : state = .eofAcked → child.state = .eofAcked ∨
        child.state = .lastData ∧
          ∃ packet, received child input = some packet ∧ packet.flag = FlagType.eofAck.code) :
      Outcome child input { child with state, timeout, lastTimeout }

section Steps

variable {child : Child} {input : Input}

theorem received_of_poll {datagram : Datagram} (polling : polls child = true)
    (polled : input.poll = some datagram) :
    received child input =
      if (receiveAndValidateData Packet.zero datagram rrPacketSsize true).1 then
        some (receiveAndValidateData Packet.zero datagram rrPacketSsize true).2.1
      else none := by
  simp only [received, polling, polled, if_true]

theorem processRrSrej_eq {datagram : Datagram} (polling : polls child = true)
    (polled : input.poll = some datagram) (stack : Packet) :
    processRrSrej child datagram stack =
      match received child input with
      | none => (child, -1)
      | some packet =>
          if packet.flag = FlagType.rr.code then
            ({ child with window := removePacket child.window packet.number },
              FlagType.rr.code.toNat)
          else if packet.flag = FlagType.srej.code then
            (resendRejected child packet.number stack, FlagType.srej.code.toNat)
          else if packet.flag = FlagType.eofAck.code then
            (child, FlagType.eofAck.code.toNat)
          else (child, -1) := by
  rw [received_of_poll polling polled, processRrSrej]
  cases valid : (receiveAndValidateData Packet.zero datagram rrPacketSsize true).1 with
  | false => simp only [valid, Bool.not_false, if_true, Bool.false_eq_true, if_false]
  | true => simp only [valid, Bool.not_true, Bool.false_eq_true, if_false, if_true]

theorem processRrSrej_outcome {datagram : Datagram} (polling : polls child = true)
    (polled : input.poll = some datagram) (state : State) (timeout lastTimeout : Nat)
    (fits : Fits child.atEof child.state → Fits child.atEof state)
    (acked : state = .eofAcked → child.state = .lastData ∧
      (processRrSrej child datagram input.stack).2 = FlagType.eofAck.code.toNat) :
    Outcome child input
      { (processRrSrej child datagram input.stack).1 with state, timeout, lastTimeout } := by
  have handled := processRrSrej_eq polling polled input.stack
  have quiet : ∀ result : Int, (processRrSrej child datagram input.stack).2 = result →
      result ≠ FlagType.eofAck.code.toNat → state ≠ .eofAcked :=
    fun result isResult different isAcked => different (isResult ▸ (acked isAcked).2)
  cases receives : received child input with
  | none =>
      simp only [receives] at handled
      have notAcked := quiet (-1) (congrArg Prod.snd handled) (by decide)
      have noResend : retransmits child input = none := by
        simp [retransmits, receives, polled]
      rw [handled]
      exact .idle state timeout lastTimeout (by simp only [rrReceived, receives]) noResend fits
        (fun isAcked => absurd isAcked notAcked)
  | some packet =>
      simp only [receives] at handled
      by_cases isRr : packet.flag = FlagType.rr.code
      · rw [if_pos isRr] at handled
        have notAcked := quiet FlagType.rr.code.toNat (congrArg Prod.snd handled) (by decide)
        rw [handled]
        exact .acknowledged packet.number state timeout lastTimeout
          (by simp only [rrReceived, receives, isRr, if_true]) fits notAcked
      have noRr : rrReceived child input = none := by
        simp only [rrReceived, receives, isRr, if_false]
      rw [if_neg isRr] at handled
      by_cases isSrej : packet.flag = FlagType.srej.code
      · rw [if_pos isSrej] at handled
        have notAcked := quiet FlagType.srej.code.toNat (congrArg Prod.snd handled) (by decide)
        rw [handled]
        exact .resent packet.number .srejData input.stack false state timeout lastTimeout
          (by simp only [retransmits, receives, isSrej, if_true]) noRr (.inl rfl)
          (fun no => by cases no) fits notAcked
      have noResend : retransmits child input = none := by
        simp only [retransmits, receives, isSrej, if_false]
      rw [if_neg isSrej] at handled
      by_cases isAck : packet.flag = FlagType.eofAck.code
      · rw [if_pos isAck] at handled
        rw [handled]
        exact .idle state timeout lastTimeout noRr noResend fits
          (fun isAcked => .inr ⟨(acked isAcked).1, packet, receives, isAck⟩)
      · rw [if_neg isAck] at handled
        have notAcked := quiet (-1) (congrArg Prod.snd handled) (by decide)
        rw [handled]
        exact .idle state timeout lastTimeout noRr noResend fits
          (fun isAcked => absurd isAcked notAcked)

theorem idle_outcome (state : State) (timeout lastTimeout : Nat)
    (notPolling : polls child = false ∨ child.state = .checkRrSrej ∧ input.poll = none)
    (fits : Fits child.atEof child.state → Fits child.atEof state)
    (acked : state = .eofAcked → child.state = .eofAcked) :
    Outcome child input { child with state, timeout, lastTimeout } := by
  have nothing : received child input = none := by
    rcases notPolling with noPoll | ⟨_, timedOut⟩
    · simp [received, noPoll]
    · simp [received, timedOut]
  have noResend : retransmits child input = none := by
    rcases notPolling with noPoll | ⟨atCheck, _⟩
    · simp [retransmits, nothing, noPoll]
    · simp [retransmits, nothing, atCheck]
  exact .idle state timeout lastTimeout (by simp only [rrReceived, nothing]) noResend fits
    (fun isAcked => .inl (acked isAcked))

theorem timeout_outcome (unconditional : Bool) (state : State) (timeout lastTimeout : Nat)
    (polling : polls child = true) (timedOut : input.poll = none)
    (notCheck : child.state ≠ .checkRrSrej)
    (inClosed : unconditional = true → child.state = .windowClosed)
    (fits : Fits child.atEof child.state → Fits child.atEof state)
    (notAcked : state ≠ .eofAcked) :
    Outcome child input
      { resend child Packet.zero child.window.lower .timeoutData unconditional with
        state, timeout, lastTimeout } := by
  have nothing : received child input = none := by
    simp [received, timedOut]
  exact .resent child.window.lower .timeoutData Packet.zero unconditional state timeout
    lastTimeout (by simp [retransmits, nothing, polling, timedOut, notCheck])
    (by simp only [rrReceived, nothing]) (.inr rfl) inClosed fits notAcked

/-! ### The loops -/

theorem processRrSrej_counters (child : Child) (datagram : Datagram) (stack : Packet)
    (timeout : Nat) :
    (processRrSrej { child with timeout } datagram stack).1 =
      { (processRrSrej child datagram stack).1 with
        state := child.state, timeout, lastTimeout := child.lastTimeout } := by
  simp only [processRrSrej]
  split
  · rfl
  · split
    · rfl
    · split
      · rfl
      · split <;> rfl

theorem processRrSrej_result (child : Child) (datagram : Datagram) (stack : Packet)
    (acked : (processRrSrej child datagram stack).2 % 256 = FlagType.eofAck.code.toNat) :
    (processRrSrej child datagram stack).2 = FlagType.eofAck.code.toNat := by
  have results : (processRrSrej child datagram stack).2 ∈
      [-1, (FlagType.rr.code.toNat : Int), FlagType.srej.code.toNat,
        FlagType.eofAck.code.toNat] := by
    simp only [processRrSrej]
    split
    · simp
    · split
      · simp
      · split
        · simp
        · split <;> simp
  generalize (processRrSrej child datagram stack).2 = result at acked results ⊢
  fin_cases results
  · exact absurd acked (by decide)
  · exact absurd acked (by decide)
  · exact absurd acked (by decide)
  · rfl

theorem resendLowestClosed_eq (child : Child) (timeout : Nat) :
    resendLowestClosed { child with timeout } =
      { resend child Packet.zero child.window.lower .timeoutData true with timeout } := by
  simp only [resendLowestClosed, resend, getLowestPacket_eq, if_true]
  rfl

theorem resendLowestLast_eq (child : Child) (lastTimeout : Nat) :
    resendLowestLast { child with lastTimeout } =
      { resend child Packet.zero child.window.lower .timeoutData false with lastTimeout } := by
  simp only [resendLowestLast, resend, getLowestPacket_eq, Bool.false_eq_true, if_false]
  rfl

theorem step_check_empty (atCheck : child.state = .checkRrSrej) (timedOut : input.poll = none) :
    step child input = { child with state := .windowOpen } := by
  simp only [step, sendAndReceiveData, atCheck, timedOut]

theorem step_check_receives (atCheck : child.state = .checkRrSrej) {datagram : Datagram}
    (polled : input.poll = some datagram) :
    step child input = (processRrSrej child datagram input.stack).1 := by
  simp only [step, sendAndReceiveData, atCheck, polled]

theorem checkRrSrej_outcome (atCheck : child.state = .checkRrSrej) :
    Outcome child input (step child input) := by
  have polling : polls child = true := by
    simp only [polls, atCheck]
  cases polled : input.poll with
  | none =>
      rw [step_check_empty atCheck polled]
      exact idle_outcome .windowOpen child.timeout child.lastTimeout (.inr ⟨atCheck, polled⟩)
        (fun fits => by rw [atCheck] at fits; exact fits) (fun no => by cases no)
  | some datagram =>
      have outcome := processRrSrej_outcome polling polled child.state child.timeout
        child.lastTimeout (fun fits => fits) (fun acked => by simp [atCheck] at acked)
      rw [← processRrSrej_counters child datagram input.stack child.timeout] at outcome
      rw [step_check_receives atCheck polled]
      exact outcome

section ClosedWindow

variable (atClosed : child.state = .windowClosed)

include atClosed

theorem step_reopens (isOpen : isWindowOpen child.window = true) :
    step child input = { child with state := if child.atEof then .kill else .windowOpen } := by
  simp only [step, sendAndReceiveData, atClosed, isOpen, if_true]

theorem step_expires (closed : isWindowOpen child.window = false)
    (expired : timeoutMax < child.timeout) : step child input = { child with state := .kill } := by
  simp only [step, sendAndReceiveData, atClosed, closed, Bool.false_eq_true, if_false,
    if_pos expired]

theorem step_closed_timeout (closed : isWindowOpen child.window = false)
    (waiting : child.timeout ≤ timeoutMax) (timedOut : input.poll = none) :
    step child input = resendLowestClosed { child with timeout := child.timeout + 1 } := by
  simp only [step, sendAndReceiveData, atClosed, closed, Bool.false_eq_true, if_false,
    if_neg (Nat.not_lt.mpr waiting), timedOut]

theorem step_closed_receives (closed : isWindowOpen child.window = false)
    (waiting : child.timeout ≤ timeoutMax) {datagram : Datagram}
    (polled : input.poll = some datagram) :
    step child input = (processRrSrej { child with timeout := 0 } datagram input.stack).1 := by
  simp only [step, sendAndReceiveData, atClosed, closed, Bool.false_eq_true, if_false,
    if_neg (Nat.not_lt.mpr waiting), polled]

theorem windowClosed_outcome : Outcome child input (step child input) := by
  cases isOpen : isWindowOpen child.window with
  | true =>
      have noPoll : polls child = false := by
        simp [polls, atClosed, isOpen]
      rw [step_reopens atClosed isOpen]
      refine idle_outcome _ child.timeout child.lastTimeout (.inl noPoll) ?_ ?_
      · intro fits
        rw [atClosed] at fits
        split
        · trivial
        · exact fits
      · intro acked
        split at acked <;> cases acked
  | false =>
      rcases Nat.lt_or_ge timeoutMax child.timeout with expired | waiting
      · have noPoll : polls child = false := by
          simp [polls, atClosed, Nat.not_le.mpr expired]
        rw [step_expires atClosed isOpen expired]
        exact idle_outcome .kill child.timeout child.lastTimeout (.inl noPoll)
          (fun _ => trivial) (fun no => by cases no)
      · have polling : polls child = true := by
          simp only [polls, atClosed, isOpen, Bool.not_false, Bool.true_and, decide_eq_true_eq]
          exact waiting
        cases polled : input.poll with
        | none =>
            rw [step_closed_timeout atClosed isOpen waiting polled, resendLowestClosed_eq]
            exact timeout_outcome true child.state (child.timeout + 1) child.lastTimeout
              polling polled (by simp [atClosed]) (fun _ => atClosed) (fun fits => fits)
              (by simp [atClosed])
        | some datagram =>
            have outcome := processRrSrej_outcome polling polled child.state 0
              child.lastTimeout (fun fits => fits) (fun acked => by simp [atClosed] at acked)
            rw [← processRrSrej_counters child datagram input.stack 0] at outcome
            rw [step_closed_receives atClosed isOpen waiting polled]
            exact outcome

end ClosedWindow

theorem step_full (atTest : child.state = .windowOpen)
    (closed : isWindowOpen child.window = false) :
    step child input =
      { child with state := if child.atEof then .lastData else .windowClosed } := by
  simp only [step, sendAndReceiveData, atTest, closed, Bool.false_eq_true, if_false]

theorem windowOpen_outcome (atTest : child.state = .windowOpen) :
    Outcome child input (step child input) := by
  cases isOpen : isWindowOpen child.window with
  | true =>
      simp only [step, sendAndReceiveData, atTest, isOpen, if_true]
      exact .sent atTest isOpen
  | false =>
      rw [step_full atTest isOpen]
      refine idle_outcome _ child.timeout child.lastTimeout (.inl (by simp only [polls, atTest]))
        ?_ ?_
      · intro fits
        rw [atTest] at fits
        split
        · next atEof => exact absurd fits (by simp [Fits, atEof])
        · exact fits
      · intro acked
        split at acked <;> cases acked

theorem lastData_outcome (atLast : child.state = .lastData) :
    Outcome child input (lastData child input) := by
  have polling : polls child = true := by
    simp only [polls, atLast]
  cases polled : input.poll with
  | none =>
      simp only [lastData, polled, resendLowestLast_eq]
      refine timeout_outcome false _ child.timeout (child.lastTimeout + 1) polling polled
        (by simp [atLast]) (fun no => by cases no) ?_ ?_
      · intro fits
        rw [atLast] at fits
        split
        · exact fits
        · trivial
      · split <;> decide
  | some datagram =>
      have counters := processRrSrej_counters child datagram input.stack child.timeout
      simp only [lastData, polled]
      split
      · next acked =>
          have result := processRrSrej_result child datagram input.stack acked
          have outcome := processRrSrej_outcome polling polled .eofAcked child.timeout
            child.lastTimeout (fun fits => by rw [atLast] at fits; exact fits)
            (fun _ => ⟨atLast, result⟩)
          exact counters ▸ outcome
      · have outcome := processRrSrej_outcome polling polled
          (if child.lastTimeout < timeoutMax then .lastData else .kill) child.timeout
          child.lastTimeout (fun fits => by
            rw [atLast] at fits
            split
            · exact fits
            · trivial) (fun acked => by split at acked <;> cases acked)
        exact counters ▸ outcome

end Steps

theorem step_outcome (child : Child) (input : Input) : Outcome child input (step child input) := by
  cases atState : child.state with
  | windowOpen => exact windowOpen_outcome atState
  | checkRrSrej => exact checkRrSrej_outcome atState
  | windowClosed => exact windowClosed_outcome atState
  | lastData =>
      simp only [step, atState]
      exact lastData_outcome atState
  | eofAcked | kill =>
      simp only [step, atState]
      exact idle_outcome child.state child.timeout child.lastTimeout
        (.inl (by simp [polls, atState])) (fun fits => fits) (fun acked => acked)

end CPE464.Project3.Server
