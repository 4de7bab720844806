/-
What becomes of the two programs when nothing arrives any more.

Each retry loop counts its timeouts, and between two of them the programs only walk from state
to state.  So from whatever state they are in, a rank made of the counters and of what is left
of the file falls with every step until the program has ended.
-/

import CPE464.General.FallingRun
import CPE464.Project3.RcopyProcess
import CPE464.Project3.SendHistory

namespace CPE464.Project3

open General

namespace Server

def sendingRank (child : Child) : Nat :=
  2 * (child.file.length / child.bufferSize + 1) + timeoutMax + 3

def silenceRank (child : Child) : Nat :=
  match child.state with
  | .eofAcked | .kill => 0
  | .lastData => timeoutMax - child.lastTimeout + 1
  | .windowClosed =>
      if isWindowOpen child.window then sendingRank child + 1
      else timeoutMax + 1 - child.timeout + 1
  | .windowOpen => sendingRank child
  | .checkRrSrej => sendingRank child + 1

def Ended (child : Child) : Prop := child.state = .kill ∨ child.state = .eofAcked

theorem silenceRank_le (child : Child) : silenceRank child ≤ sendingRank child + 1 := by
  unfold silenceRank sendingRank
  split
  · omega
  · omega
  · omega
  · split <;> omega
  · omega
  · omega

section Silent

variable {child : Child} {input : Input}

theorem sending_silent (positive : 1 ≤ child.bufferSize) (sending : sends child = true) :
    (step child input).bufferSize = child.bufferSize ∧
      silenceRank (step child input) < silenceRank child := by
  have atTest : child.state = .windowOpen := by
    simp only [sends, Bool.and_eq_true, beq_iff_eq] at sending
    exact sending.1
  have rank : silenceRank child = sendingRank child := by
    simp only [silenceRank, atTest]
  rw [step_of_sends sending, rank]
  refine ⟨rfl, ?_⟩
  cases atEof : (readFromDiskAndSend child).atEof with
  | true =>
      simp only [silenceRank, sendingRank, if_true]
      omega
  | false =>
      -- the buffer was full
      have full : child.bufferSize ≤ child.file.length := by
        simp only [readFromDiskAndSend, Bool.or_eq_false_iff, decide_eq_false_iff_not,
          List.length_take] at atEof
        omega
      have fewer : (child.file.drop child.bufferSize).length / child.bufferSize + 1 =
          child.file.length / child.bufferSize := by
        rw [List.length_drop, ← Nat.div_eq_sub_div positive full]
      simp only [Bool.false_eq_true, if_false, silenceRank]
      change 2 * ((child.file.drop child.bufferSize).length / child.bufferSize + 1) +
        timeoutMax + 3 + 1 < sendingRank child
      rw [fewer, sendingRank]
      omega

theorem step_silent (positive : 1 ≤ child.bufferSize) (running : ¬Ended child)
    (nothing : input.poll = none) :
    (step child input).bufferSize = child.bufferSize ∧
      silenceRank (step child input) < silenceRank child := by
  cases atState : child.state with
  | windowOpen =>
      cases isOpen : isWindowOpen child.window with
      | true => exact sending_silent positive (by simp [sends, atState, isOpen])
      | false =>
          rw [step_full atState isOpen]
          cases child.atEof with
          | true =>
              refine ⟨rfl, ?_⟩
              simp only [silenceRank, atState, sendingRank, if_true]
              omega
          | false =>
              refine ⟨rfl, ?_⟩
              simp only [silenceRank, atState, sendingRank, isOpen, Bool.false_eq_true, if_false]
              omega
  | checkRrSrej =>
      rw [step_check_empty atState nothing]
      refine ⟨rfl, ?_⟩
      simp only [silenceRank, atState, sendingRank]
      omega
  | windowClosed =>
      cases isOpen : isWindowOpen child.window with
      | true =>
          rw [step_reopens atState isOpen]
          refine ⟨rfl, ?_⟩
          cases child.atEof with
          | true =>
              simp only [silenceRank, atState, isOpen, if_true]
              omega
          | false =>
              simp only [silenceRank, atState, sendingRank, isOpen, Bool.false_eq_true,
                if_false, if_true]
              omega
      | false =>
          rcases Nat.lt_or_ge timeoutMax child.timeout with expired | waiting
          · rw [step_expires atState isOpen expired]
            refine ⟨rfl, ?_⟩
            simp only [silenceRank, atState, isOpen, Bool.false_eq_true, if_false]
            omega
          · rw [step_closed_timeout atState isOpen waiting nothing]
            refine ⟨rfl, ?_⟩
            simp only [silenceRank, resendLowestClosed, safeSendto, atState, isOpen,
              Bool.false_eq_true, if_false]
            omega
  | lastData =>
      simp only [step, lastData, atState, nothing]
      refine ⟨rfl, ?_⟩
      by_cases last : child.lastTimeout + 1 < timeoutMax
      · simp only [silenceRank, atState, resendLowestLast, safeSendto, if_pos last]
        omega
      · simp only [silenceRank, atState, if_neg last]
        omega
  | eofAcked => exact absurd (.inr atState) running
  | kill => exact absurd (.inl atState) running

theorem ended_stays (ended : Ended child) (input : Input) : Ended (step child input) := by
  have stays : step child input = child := by
    rcases ended with atState | atState <;> simp only [step, atState]
  rwa [stays]

theorem ended_of_rank (zero : silenceRank child = 0) : Ended child := by
  unfold silenceRank sendingRank at zero
  split at zero
  · next atState => exact .inr atState
  · next atState => exact .inl atState
  · omega
  · split at zero <;> omega
  · omega
  · omega

end Silent

end Server

namespace Rcopy

/-- How many steps rcopy takes at most when every poll times out.  Each timeout of
`stateMachine` costs three. -/
def silenceRank (process : Process) : Nat :=
  let timeouts := 3 * (timeoutMax - process.timeout)
  match process.state with
  | .kill | .exit => 0
  | .lastDataLoop => timeoutMax - process.frame.timeout + 1
  | .lastData => timeoutMax + 2
  | .processData | .bufferData => timeouts + timeoutMax + 3
  | .badData | .receiveFirstData | .sendFilename => timeouts + 3
  | .receiveData | .waitForFilenameAck => timeouts + 2
  | .receiveDataTimeout | .sendFilenameTimeout => timeouts + 1

def Ended (process : Process) : Prop := process.state = .kill ∨ process.state = .exit

section Silent

variable {process : Process} {input : Input}

theorem silenceRank_le (process : Process) : silenceRank process ≤ 4 * timeoutMax + 3 := by
  unfold silenceRank
  dsimp only
  split <;> omega

theorem silenceRank_pos (running : ¬Ended process) : 0 < silenceRank process := by
  unfold silenceRank
  dsimp only
  split
  · next atState => exact absurd (.inl atState) running
  · next atState => exact absurd (.inr atState) running
  all_goals omega

def IsNext (state : State) : Prop := state = .exit ∨ state = .receiveData ∨ state = .lastData

theorem processData_next (statics : Statics) (packet : Packet) (dataSize : Nat)
    (buffering : Bool) : IsNext (processData statics packet dataSize buffering).next := by
  unfold processData
  split
  · exact .inr (.inl rfl)
  · split
    · exact .inr (stateAfter_eq packet)
    · split
      · dsimp only
        split
        · exact .inl rfl
        · exact .inr (stateAfter_eq packet)
      · exact .inr (stateAfter_eq packet)

theorem processDataBuffering_next (statics : Statics) (packet : Packet) (dataSize : Nat)
    (buffering : Bool) :
    IsNext (processDataBuffering statics packet dataSize buffering).next := by
  unfold processDataBuffering
  split
  · exact .inr (.inl rfl)
  · split
    · split
      · dsimp only
        split <;> exact .inr (stateAfter_eq packet)
      · split
        · split
          · exact .inl rfl
          · exact .inr (stateAfter_eq packet)
        · exact .inr (stateAfter_eq packet)
    · exact .inr (stateAfter_eq packet)

theorem silenceRank_next {later : Process} (next : IsNext later.state)
    (same : later.timeout = process.timeout) :
    silenceRank later < 3 * (timeoutMax - process.timeout) + timeoutMax + 3 := by
  rcases next with atState | atState | atState
  · simp only [silenceRank, atState]
    omega
  · simp only [silenceRank, atState, same]
    omega
  · simp only [silenceRank, atState]
    omega

theorem dispatch_silent (running : ¬Ended process) (notTeardown : process.state ≠ .lastDataLoop)
    (under : process.timeout < timeoutMax) (nothing : input.poll = none) :
    silenceRank (dispatch process input) < silenceRank process := by
  cases atState : process.state with
  | sendFilename | sendFilenameTimeout | receiveDataTimeout | badData | lastData =>
      simp only [dispatch, atState, silenceRank]
      omega
  | waitForFilenameAck =>
      simp only [dispatch, atState, nothing, waitForFileNameAck, silenceRank]
      omega
  | receiveFirstData | receiveData =>
      simp only [dispatch, atState, nothing, recvData, silenceRank, Bool.false_eq_true, if_true,
        if_false]
      omega
  | processData =>
      simp only [dispatch, atState]
      exact Nat.lt_of_lt_of_le (silenceRank_next (processData_next _ _ _ _) rfl)
        (by simp only [silenceRank, atState]; exact Nat.le_refl _)
  | bufferData =>
      simp only [dispatch, atState]
      exact Nat.lt_of_lt_of_le (silenceRank_next (processDataBuffering_next _ _ _ _) rfl)
        (by simp only [silenceRank, atState]; exact Nat.le_refl _)
  | lastDataLoop => exact absurd atState notTeardown
  | kill => exact absurd (.inl atState) running
  | exit => exact absurd (.inr atState) running

theorem step_silent (running : ¬Ended process) (nothing : input.poll = none) :
    silenceRank (stateMachine process input) < silenceRank process := by
  have pass := stateMachine_pass process input
  generalize stateMachine process input = later at pass ⊢
  cases pass with
  | teardown atLoop =>
      have pass := lastData_pass input atLoop
      rw [nothing] at pass ⊢
      generalize lastData process none = later, handling process input = hands at pass ⊢
      cases pass with
      | complete wrote =>
          simp only [silenceRank, atLoop]
          omega
      | timedOut unfinished expired =>
          by_cases last : process.frame.timeout + 1 < timeoutMax
          · simp only [silenceRank, atLoop, if_pos last]
            omega
          · simp only [silenceRank, atLoop, if_neg last]
            omega
      | rejected _ _ _ _ polled => cases polled
      | handled _ _ _ _ polled => cases polled
  | ended atExit => exact absurd (.inr atExit) running
  | givesUp => exact silenceRank_pos running
  | switched notExit notTeardown under =>
      split
      · have cleared : silenceRank (dispatch { process with currPacket := Packet.zero } input) <
              silenceRank { process with currPacket := Packet.zero } :=
            dispatch_silent running notTeardown under nothing
        exact cleared
      · exact dispatch_silent running notTeardown under nothing

theorem ended_stays (ended : Ended process) (input : Input) :
    Ended (stateMachine process input) := by
  rcases ended with atState | atState
  · have pass := stateMachine_pass process input
    generalize stateMachine process input = later at pass ⊢
    cases pass with
    | teardown atLoop => cases atState.symm.trans atLoop
    | ended => exact .inl atState
    | givesUp => exact .inl rfl
    | switched =>
        rw [if_neg (by simp [atState])]
        simp only [dispatch, atState]
        exact .inl atState
  · simp only [stateMachine, atState]
    exact .inr atState

end Silent

end Rcopy

end CPE464.Project3
