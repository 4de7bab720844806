/-
When rcopy and the server give up.

Each of the four retry loops keeps a counter.  The one of rcopy's `lastData` and the one of
the closed-window loop are cleared by every datagram that arrives.  The one of `stateMachine`
and the one of the server's `lastData` are never cleared, so they count the failures of a
whole session.
-/

import CPE464.General.RetryTrace
import CPE464.Project3.ShortDatagrams
import CPE464.Project3.SenderTheorems
import CPE464.Project3.Teardown

namespace CPE464.Project3

open General

namespace Rcopy

/-- An attempt has failed: a poll of `stateMachine` ran out or the filename request got no
usable answer, which is counted in the state entered for it, or a poll of `lastData` runs
out. -/
def failed (process : Process) (input : Input) : Bool :=
  match process.state with
  | .sendFilenameTimeout | .receiveDataTimeout => process.timeout < timeoutMax
  | .lastDataLoop => !process.statics.wroteLastData && input.poll.isNone
  | _ => false

def answered (process : Process) (input : Input) : Bool :=
  match handling process input with
  | none => false
  | some (packet, _) => isDataFlag packet.flag

def attempt (process : Process) (input : Input) : Option Attempt :=
  if failed process input then some .failed
  else if answered process input then some .answered
  else none

def inLastData (process : Process) : Bool := process.state == .lastDataLoop

/-- A counter has reached `TIMEOUT_MAX`, where both loops end. -/
def Abandoned (process : Process) : Prop :=
  timeoutMax ≤ process.timeout ∨ timeoutMax ≤ process.frame.timeout

def observe (observed : Observed Process) (input : Input) : Observed Process :=
  observed.next stateMachine attempt inLastData input

/-- Only so many failures in a row end the session. -/
def GivesUpAfterSilence (observed : Observed Process) : Prop :=
  Abandoned observed.state → timeoutMax ≤ silence (observed.main ++ observed.last)

structure ObservedInv (observed : Observed Process) : Prop where
  modes : Modes observed.state
  main_eq : failures observed.main = observed.state.timeout
  main_le : observed.state.timeout ≤ timeoutMax
  frame_le : observed.state.frame.timeout ≤ silence (observed.main ++ observed.last)
  outside : observed.state.state ≠ .lastDataLoop → Alive observed.state →
    observed.state.frame.timeout = 0 ∧ observed.last = []
  inside : observed.last ≠ [] ∨ observed.state.state = .lastDataLoop →
    observed.state.timeout < timeoutMax

section Step

variable {process : Process} {input : Input} {observed : Observed Process}

theorem dispatch_counts (modes : Modes process) (input : Input) :
    (dispatch process input).timeout =
        process.timeout +
          (if process.state = .sendFilenameTimeout ∨ process.state = .receiveDataTimeout then 1
            else 0) ∧
      (dispatch process input).frame.timeout =
        (if process.state = .lastData then 0 else process.frame.timeout) ∧
      ((dispatch process input).state = .lastDataLoop →
        process.state = .lastData ∨ process.state = .lastDataLoop) := by
  cases atState : process.state with
  | processData | bufferData =>
      have waits : Waits process := by simp [Waits, atState]
      have next := handled_next modes waits input
      refine ⟨?_, ?_, fun isLoop => ?_⟩
      · simp only [dispatch, atState, afterHandler]
        rfl
      · simp only [dispatch, atState, afterHandler]
        rfl
      · simp [isLoop] at next
  | receiveFirstData | receiveData =>
      cases polled : input.poll with
      | none => simp [dispatch, atState, recvData, polled]
      | some datagram =>
          simp only [dispatch, atState, polled, recvData_some]
          refine ⟨rfl, rfl, fun isLoop => ?_⟩
          split at isLoop
          · split at isLoop <;> cases isLoop
          · cases isLoop
  | waitForFilenameAck =>
      obtain ⟨state, packet, highest, frame, next⟩ :=
        waitForFileNameAck_frame process input.poll
      simp only [dispatch, atState, frame]
      rcases next with rfl | rfl | rfl <;> simp
  | sendFilename | sendFilenameTimeout | receiveDataTimeout | badData | lastData |
      lastDataLoop | kill | exit =>
      simp [dispatch, atState]

theorem switched_counts (modes : Modes process) (input : Input) :
    let later := dispatch (if process.state = .receiveData then
      { process with currPacket := Packet.zero } else process) input
    later.timeout =
        process.timeout +
          (if process.state = .sendFilenameTimeout ∨ process.state = .receiveDataTimeout then 1
            else 0) ∧
      later.frame.timeout =
        (if process.state = .lastData then 0 else process.frame.timeout) ∧
      (later.state = .lastDataLoop →
        process.state = .lastData ∨ process.state = .lastDataLoop) := by
  split
  · exact dispatch_counts (modes.cleared Packet.zero) input
  · exact dispatch_counts modes input

theorem lastData_counts (atLoop : process.state = .lastDataLoop) (input : Input) :
    (lastData process input.poll).timeout = process.timeout ∧
      (attempt process input = some .failed ∧
          (lastData process input.poll).frame.timeout = process.frame.timeout + 1 ∨
        (lastData process input.poll).frame.timeout = 0 ∨
        attempt process input = none ∧
          (lastData process input.poll).frame.timeout = process.frame.timeout) := by
  have pass := lastData_pass input atLoop
  generalize lastData process input.poll = later, hands : handling process input = handed at pass ⊢
  cases pass with
  | complete wrote =>
      refine ⟨rfl, .inr (.inr ⟨?_, rfl⟩)⟩
      simp [attempt, failed, answered, hands, atLoop, wrote]
  | timedOut unfinished expired =>
      refine ⟨rfl, .inl ⟨?_, rfl⟩⟩
      simp [attempt, failed, atLoop, unfinished, expired]
  | rejected => exact ⟨rfl, .inr (.inl rfl)⟩
  | handled => exact ⟨rfl, .inr (.inl rfl)⟩

theorem attempt_stopped (notLoop : process.state ≠ .lastDataLoop)
    (stopped : ¬Alive process ∨ timeoutMax ≤ process.timeout) (input : Input) :
    attempt process input = none := by
  have noFailure : failed process input = false := by
    unfold failed
    split <;> simp_all [Alive]
  have noAnswer : handling process input = none := by
    unfold handling
    split <;> simp_all [Alive]
  simp [attempt, noFailure, answered, noAnswer]

theorem attempt_failed_iff (notLoop : process.state ≠ .lastDataLoop)
    (under : process.timeout < timeoutMax) (input : Input) :
    attempt process input = some .failed ↔
      process.state = .sendFilenameTimeout ∨ process.state = .receiveDataTimeout := by
  have counted : failed process input = true ↔
      process.state = .sendFilenameTimeout ∨ process.state = .receiveDataTimeout := by
    unfold failed
    split <;> simp_all
  rw [← counted, attempt]
  cases failed process input with
  | true => simp
  | false =>
      simp only [Bool.false_eq_true, if_false]
      split <;> simp

theorem ObservedInv.teardown {main last : List Attempt}
    (inv : ObservedInv ⟨process, main, last⟩) (atLoop : process.state = .lastDataLoop)
    (input : Input) :
    ObservedInv ⟨stateMachine process input, main, last ++ (attempt process input).toList⟩ := by
  have modes : Modes (stateMachine process input) := stateMachine_modes inv.modes
  have frame_le := inv.frame_le
  have isLoop : stateMachine process input = lastData process input.poll := by
    simp only [stateMachine, atLoop]
  obtain ⟨timeout, counts⟩ := lastData_counts atLoop input
  rw [isLoop] at modes ⊢
  refine ⟨modes, inv.main_eq.trans timeout.symm, timeout ▸ inv.main_le, ?_, ?_, ?_⟩
  · change (lastData process input.poll).frame.timeout ≤ silence (main ++ (last ++ _))
    rw [← List.append_assoc]
    rcases counts with ⟨isFailed, counted⟩ | zero | ⟨nothing, kept⟩
    · rw [counted, isFailed]
      exact (Nat.succ_le_succ frame_le).trans (Nat.le_of_eq (silence_failed _).symm)
    · rw [zero]
      exact Nat.zero_le _
    · rw [kept, nothing]
      exact frame_le.trans (Nat.le_of_eq (congrArg silence (List.append_nil _).symm))
  · intro notLoop alive
    rcases lastData_state input atLoop with next | next | next
    · exact absurd next notLoop
    · exact absurd next alive.2
    · exact absurd next alive.1
  · intro _
    exact timeout ▸ inv.inside (.inr atLoop)

theorem ObservedInv.onward {main last : List Attempt} (inv : ObservedInv ⟨process, main, last⟩)
    (notLoop : process.state ≠ .lastDataLoop) (input : Input) :
    ObservedInv ⟨stateMachine process input, main ++ (attempt process input).toList, last⟩ := by
  have modesBefore : Modes process := inv.modes
  have modes : Modes (stateMachine process input) := stateMachine_modes modesBefore
  have main_eq := inv.main_eq
  have main_le := inv.main_le
  have pass := stateMachine_pass process input
  generalize stateMachine process input = later at modes pass ⊢
  cases pass with
  | teardown atLoop => exact absurd atLoop notLoop
  | ended atExit =>
      have nothing := attempt_stopped notLoop (.inl (fun alive => alive.1 atExit)) input
      rw [nothing, Option.toList_none, List.append_nil]
      exact inv
  | givesUp running notTeardown expired =>
      have nothing := attempt_stopped notLoop (.inr expired) input
      rw [nothing, Option.toList_none, List.append_nil]
      refine ⟨modes, main_eq, main_le, inv.frame_le, fun _ alive => absurd rfl alive.2, ?_⟩
      rintro (some | isLoop)
      · exact inv.inside (.inl some)
      · cases isLoop
  | switched running notTeardown under =>
      by_cases atKill : process.state = .kill
      · have stays : dispatch process input = process := by
          simp only [dispatch, atKill]
        have notReceiving : process.state ≠ .receiveData := by simp [atKill]
        rw [if_neg notReceiving, stays,
          attempt_stopped notLoop (.inl (fun alive => alive.2 atKill)) input, Option.toList_none,
          List.append_nil]
        exact inv
      · obtain ⟨noFrame, noLast⟩ := inv.outside notLoop ⟨running, atKill⟩
        obtain ⟨timeout, frame, loops⟩ := switched_counts modesBefore input
        generalize dispatch _ input = later at modes timeout frame loops ⊢
        have frameZero : later.frame.timeout = 0 := by
          rw [frame, noFrame, ite_self]
        refine ⟨modes, ?_, ?_, ?_, fun _ _ => ⟨frameZero, noLast⟩, ?_⟩
        · rw [failures_attempt, main_eq, timeout]
          simp only [attempt_failed_iff notLoop under]
        · change later.timeout ≤ timeoutMax
          rw [timeout]
          split <;> omega
        · change later.frame.timeout ≤ _
          rw [frameZero]
          exact Nat.zero_le _
        · rintro (some | isLoop)
          · exact absurd noLast some
          · have atLast := (loops isLoop).resolve_right notLoop
            change later.timeout < timeoutMax
            rw [timeout, atLast]
            exact under

/-- The step lemma: the counter of `stateMachine` is the number of all its failures, that of
`lastData` at most the number of the last ones. -/
theorem ObservedInv.next (inv : ObservedInv observed) (input : Input) :
    ObservedInv (observe observed input) := by
  obtain ⟨process, main, last⟩ := observed
  by_cases atLoop : process.state = .lastDataLoop
  · have moved : observe ⟨process, main, last⟩ input =
        ⟨stateMachine process input, main, last ++ (attempt process input).toList⟩ := by
      simp [observe, Observed.next, inLastData, atLoop]
    rw [moved]
    exact inv.teardown atLoop input
  · have moved : observe ⟨process, main, last⟩ input =
        ⟨stateMachine process input, main ++ (attempt process input).toList, last⟩ := by
      simp [observe, Observed.next, inLastData, atLoop]
    rw [moved]
    exact inv.onward atLoop input

theorem givesUp_stays (inv : ObservedInv observed) (input : Input)
    (early : ¬GivesUpAfterSilence observed) : ¬GivesUpAfterSilence (observe observed input) := by
  obtain ⟨process, main, last⟩ := observed
  simp only [GivesUpAfterSilence, Classical.not_imp, Nat.not_le] at early ⊢
  obtain ⟨abandoned, few⟩ := early
  have expired : timeoutMax ≤ process.timeout := by
    rcases abandoned with expired | inTeardown
    · exact expired
    · have frame_le := inv.frame_le
      change process.frame.timeout ≤ silence (main ++ last) at frame_le
      change timeoutMax ≤ process.frame.timeout at inTeardown
      omega
  have notLoop : process.state ≠ .lastDataLoop :=
    fun atLoop => absurd (inv.inside (.inr atLoop)) (Nat.not_lt.mpr expired)
  have nothing := attempt_stopped notLoop (.inr expired) input
  have moved : observe ⟨process, main, last⟩ input = ⟨stateMachine process input, main, last⟩ := by
    simp [observe, Observed.next, inLastData, notLoop, nothing]
  rw [moved]
  refine ⟨.inl ?_, few⟩
  change timeoutMax ≤ (stateMachine process input).timeout
  have pass := stateMachine_pass process input
  generalize stateMachine process input = later at pass ⊢
  cases pass with
  | teardown atLoop => exact absurd atLoop notLoop
  | ended atExit => exact expired
  | givesUp => exact expired
  | switched running notTeardown under => exact absurd under (Nat.not_lt.mpr expired)

theorem ObservedInv.gives_up_iff (inv : ObservedInv observed) :
    GivesUpAfterSilence observed ↔
      (failures observed.main < timeoutMax ∨ Unbroken observed.main) := by
  have main_eq := inv.main_eq
  have main_le := inv.main_le
  by_cases expired : timeoutMax ≤ observed.state.timeout
  · have counted : failures observed.main = timeoutMax := by omega
    have noLast : observed.last = [] := by
      by_contra some
      exact absurd (inv.inside (.inl some)) (Nat.not_lt.mpr expired)
    have unbroken := le_silence_iff [] counted
    rw [GivesUpAfterSilence, noLast, List.append_nil, counted]
    rw [List.nil_append] at unbroken
    rw [← unbroken]
    simp [Abandoned, expired]
  · have few : failures observed.main < timeoutMax := by omega
    refine iff_of_true ?_ (.inl few)
    rintro (late | inTeardown)
    · exact absurd late expired
    · exact Nat.le_trans inTeardown inv.frame_le

end Step

def begin (windowSize bufferSize : Nat) (fromFileName : List UInt8) : Observed Process :=
  ⟨start windowSize bufferSize fromFileName, [], []⟩

theorem begin_observed (windowSize bufferSize : Nat) (fromFileName : List UInt8) :
    ObservedInv (begin windowSize bufferSize fromFileName) where
  modes := .of_handshake rfl (fun no => by cases no)
  main_eq := rfl
  main_le := Nat.zero_le _
  frame_le := Nat.zero_le _
  outside := fun _ _ => ⟨rfl, rfl⟩
  inside := by
    rintro (some | atLoop)
    · exact absurd rfl some
    · cases atLoop

theorem run_gives_up_iff (windowSize bufferSize : Nat) (fromFileName : List UInt8)
    (inputs : List Input) :
    EveryStep observe (fun observed input => GivesUpAfterSilence (observe observed input))
        (begin windowSize bufferSize fromFileName) inputs ↔
      (failures (run observe (begin windowSize bufferSize fromFileName) inputs).main <
          timeoutMax ∨
        Unbroken (run observe (begin windowSize bufferSize fromFileName) inputs).main) := by
  have initially := begin_observed windowSize bufferSize fromFileName
  have reached : ObservedInv (run observe (begin windowSize bufferSize fromFileName) inputs) :=
    run_invariant ObservedInv (fun _ input inv _ => inv.next input) initially
      (everyStep_true _ inputs)
  rw [← reached.gives_up_iff]
  exact everyStep_until_end ObservedInv GivesUpAfterSilence (fun _ input inv => inv.next input)
    (fun _ input inv early => givesUp_stays inv input early) initially (by
      rintro (late | late) <;> cases late)

end Rcopy

namespace Server

def answered (child : Child) (input : Input) : Bool :=
  match received child input with
  | none => false
  | some packet => packet.flag == FlagType.rr.code || packet.flag == FlagType.srej.code

def attempt (child : Child) (input : Input) : Option Attempt :=
  if timesOut child input then some .failed
  else if answered child input then some .answered
  else none

def inLastData (child : Child) : Bool := child.state == .lastData

/-- A counter has reached the value at which its loop ends: more than `TIMEOUT_MAX` in the
closed-window loop, `TIMEOUT_MAX` in `lastData`. -/
def Abandoned (child : Child) : Prop :=
  timeoutMax < child.timeout ∨ timeoutMax ≤ child.lastTimeout

def observe (observed : Observed Child) (input : Input) : Observed Child :=
  observed.next step attempt inLastData input

def GivesUpAfterSilence (observed : Observed Child) : Prop :=
  Abandoned observed.state → timeoutMax ≤ silence (observed.main ++ observed.last)

def Sending (child : Child) : Prop :=
  child.state = .windowOpen ∨ child.state = .checkRrSrej ∨ child.state = .windowClosed

structure ObservedInv (observed : Observed Child) : Prop where
  last_eq : failures observed.last = observed.state.lastTimeout
  last_le : observed.state.lastTimeout ≤ timeoutMax
  main_le : observed.state.timeout ≤ silence (observed.main ++ observed.last)
  sending : Sending observed.state → observed.last = []
  waiting : observed.state.state = .lastData → observed.state.lastTimeout < timeoutMax
  cleared : observed.state.state ≠ .kill → observed.state.timeout = 0 ∨
    observed.state.state = .windowClosed ∧ isWindowOpen observed.state.window = false

section Step

variable {child : Child} {input : Input}

theorem attempt_unpolled (idle : polls child = false) : attempt child input = none := by
  simp [attempt, timesOut, answered, received, idle]

theorem attempt_heard {datagram : Datagram} (polled : input.poll = some datagram) :
    attempt child input ≠ some .failed := by
  simp only [attempt, timesOut, polled, Option.isNone_some, Bool.and_false, Bool.false_and,
    Bool.false_eq_true, if_false]
  split <;> simp

theorem step_stopped (atLast : child.state ≠ .lastData) (sending : ¬Sending child)
    (input : Input) : step child input = child ∧ attempt child input = none := by
  cases atState : child.state with
  | windowOpen | checkRrSrej | windowClosed => simp [Sending, atState] at sending
  | lastData => exact absurd atState atLast
  | eofAcked | kill =>
      exact ⟨by simp only [step, atState], attempt_unpolled (by simp [polls, atState])⟩

theorem ObservedInv.unfinished {main : List Attempt} (fresh : child.lastTimeout = 0)
    (main_le : child.timeout ≤ silence main)
    (cleared : child.state ≠ .kill → child.timeout = 0 ∨
      child.state = .windowClosed ∧ isWindowOpen child.window = false) :
    ObservedInv ⟨child, main, []⟩ where
  last_eq := fresh.symm
  last_le := fresh ▸ Nat.zero_le _
  main_le := main_le.trans (Nat.le_of_eq (congrArg silence (List.append_nil main).symm))
  sending := fun _ => rfl
  waiting := fun _ => fresh ▸ Nat.zero_lt_succ _
  cleared := cleared

theorem windowClosed_counts {main : List Attempt} (atClosed : child.state = .windowClosed)
    (main_le : child.timeout ≤ silence main)
    (cleared : child.timeout = 0 ∨ isWindowOpen child.window = false) (input : Input) :
    (step child input).lastTimeout = child.lastTimeout ∧
      (step child input).timeout ≤ silence (main ++ (attempt child input).toList) ∧
      ((step child input).state ≠ .kill → (step child input).timeout = 0 ∨
        (step child input).state = .windowClosed ∧
          isWindowOpen (step child input).window = false) := by
  cases isOpen : isWindowOpen child.window with
  | true =>
      have idle : polls child = false := by simp [polls, atClosed, isOpen]
      have zero : child.timeout = 0 := cleared.resolve_right (by simp [isOpen])
      rw [step_reopens atClosed isOpen, attempt_unpolled idle, Option.toList_none,
        List.append_nil]
      exact ⟨rfl, main_le, fun _ => .inl zero⟩
  | false =>
      rcases Nat.lt_or_ge timeoutMax child.timeout with expired | waiting
      · have idle : polls child = false := by simp [polls, atClosed, Nat.not_le.mpr expired]
        rw [step_expires atClosed isOpen expired, attempt_unpolled idle, Option.toList_none,
          List.append_nil]
        exact ⟨rfl, main_le, fun alive => absurd rfl alive⟩
      · have polling : polls child = true := by
          simp only [polls, atClosed, isOpen, Bool.not_false, Bool.true_and, decide_eq_true_eq]
          exact waiting
        cases polled : input.poll with
        | none =>
            have isFailed : attempt child input = some .failed := by
              simp [attempt, timesOut, polling, polled, atClosed]
            rw [step_closed_timeout atClosed isOpen waiting polled, isFailed]
            refine ⟨rfl, ?_, fun _ => .inr ⟨atClosed, isOpen⟩⟩
            exact (Nat.succ_le_succ main_le).trans (Nat.le_of_eq (silence_failed main).symm)
        | some datagram =>
            rw [step_closed_receives atClosed isOpen waiting polled, processRrSrej_counters]
            exact ⟨rfl, Nat.zero_le _, fun _ => .inl rfl⟩

theorem ObservedInv.sendingStep {main : List Attempt} (inv : ObservedInv ⟨child, main, []⟩)
    (sending : Sending child) (input : Input) :
    ObservedInv ⟨step child input, main ++ (attempt child input).toList, []⟩ := by
  have fresh : child.lastTimeout = 0 := inv.last_eq.symm
  have main_le : child.timeout ≤ silence main := by
    have counted := inv.main_le
    rwa [List.append_nil] at counted
  have cleared := inv.cleared
  rcases sending with atState | atState | atState
  · have zero : child.timeout = 0 := by simpa [atState] using cleared
    have idle : polls child = false := by simp [polls, atState]
    rw [attempt_unpolled idle, Option.toList_none, List.append_nil]
    simp only [step, atState, sendAndReceiveData]
    split
    · exact .unfinished fresh main_le (fun _ => .inl zero)
    · exact .unfinished fresh main_le (fun _ => .inl zero)
  · have zero : child.timeout = 0 := by simpa [atState] using cleared
    simp only [step, atState, sendAndReceiveData]
    cases polled : input.poll with
    | none => exact .unfinished fresh (zero ▸ Nat.zero_le _) (fun _ => .inl zero)
    | some datagram =>
        dsimp only
        have counters := processRrSrej_counters child datagram input.stack child.timeout
        change (processRrSrej child datagram input.stack).1 = _ at counters
        rw [counters]
        exact .unfinished fresh (zero ▸ Nat.zero_le _) (fun _ => .inl zero)
  · have closedCleared : child.timeout = 0 ∨ isWindowOpen child.window = false := by
      rcases cleared (by simp [atState]) with zero | ⟨_, closed⟩
      · exact .inl zero
      · exact .inr closed
    obtain ⟨lastTimeout, counted, kept⟩ :=
      windowClosed_counts atState main_le closedCleared input
    exact .unfinished (lastTimeout.trans fresh) counted kept

theorem ObservedInv.lastStep {main last : List Attempt} (inv : ObservedInv ⟨child, main, last⟩)
    (atLast : child.state = .lastData) (input : Input) :
    ObservedInv ⟨step child input, main, last ++ (attempt child input).toList⟩ := by
  have last_eq : failures last = child.lastTimeout := inv.last_eq
  have waiting : child.lastTimeout < timeoutMax := inv.waiting atLast
  have zero : child.timeout = 0 := by simpa [atLast] using inv.cleared
  have isLast : step child input = lastData child input := by
    simp only [step, atLast]
  rw [isLast, lastData]
  cases polled : input.poll with
  | none =>
      have isFailed : attempt child input = some .failed := by
        simp [attempt, timesOut, polls, polled, atLast]
      rw [isFailed]
      refine ⟨(failures_failed last).trans (congrArg (· + 1) last_eq), waiting,
        (Nat.le_of_eq zero).trans (Nat.zero_le _), fun sending => ?_, fun goesOn => ?_,
        fun _ => .inl zero⟩
      · simp only [Sending] at sending
        split at sending <;> simp at sending
      · dsimp only at goesOn
        split at goesOn
        · next under => exact under
        · cases goesOn
  | some datagram =>
      have counted : failures (last ++ (attempt child input).toList) = child.lastTimeout := by
        rw [failures_attempt, if_neg (attempt_heard polled), last_eq, Nat.add_zero]
      have counters := processRrSrej_counters child datagram input.stack child.timeout
      change (processRrSrej child datagram input.stack).1 = _ at counters
      have lastKept : (processRrSrej child datagram input.stack).1.lastTimeout =
          child.lastTimeout := by rw [counters]
      have cleared : (processRrSrej child datagram input.stack).1.timeout = 0 := by
        rw [counters]
        exact zero
      dsimp only
      rw [if_pos waiting]
      split
      · exact ⟨counted.trans lastKept.symm, lastKept ▸ inv.last_le,
          (Nat.le_of_eq cleared).trans (Nat.zero_le _),
          fun sending => (by simp [Sending] at sending), fun no => (by cases no),
          fun _ => .inl cleared⟩
      · exact ⟨counted.trans lastKept.symm, lastKept ▸ inv.last_le,
          (Nat.le_of_eq cleared).trans (Nat.zero_le _),
          fun sending => (by simp [Sending] at sending), fun _ => lastKept ▸ waiting,
          fun _ => .inl cleared⟩

theorem ObservedInv.next {observed : Observed Child} (inv : ObservedInv observed)
    (input : Input) : ObservedInv (observe observed input) := by
  obtain ⟨child, main, last⟩ := observed
  by_cases atLast : child.state = .lastData
  · have moved : observe ⟨child, main, last⟩ input =
        ⟨step child input, main, last ++ (attempt child input).toList⟩ := by
      simp [observe, Observed.next, inLastData, atLast]
    rw [moved]
    exact inv.lastStep atLast input
  · have moved : observe ⟨child, main, last⟩ input =
        ⟨step child input, main ++ (attempt child input).toList, last⟩ := by
      simp [observe, Observed.next, inLastData, atLast]
    rw [moved]
    by_cases sending : Sending child
    · obtain rfl : last = [] := inv.sending sending
      exact inv.sendingStep sending input
    · obtain ⟨stays, nothing⟩ := step_stopped atLast sending input
      rw [stays, nothing, Option.toList_none, List.append_nil]
      exact inv

theorem givesUp_stays {observed : Observed Child} (inv : ObservedInv observed) (input : Input)
    (early : ¬GivesUpAfterSilence observed) : ¬GivesUpAfterSilence (observe observed input) := by
  obtain ⟨child, main, last⟩ := observed
  obtain ⟨abandoned, few⟩ := Classical.not_imp.mp early
  change ¬timeoutMax ≤ silence (main ++ last) at few
  have main_le : child.timeout ≤ silence (main ++ last) := inv.main_le
  have expired : timeoutMax ≤ child.lastTimeout := by
    rcases abandoned with inMain | inLast
    · change timeoutMax < child.timeout at inMain
      omega
    · exact inLast
  have atLast : child.state ≠ .lastData :=
    fun atLast => absurd (inv.waiting atLast) (Nat.not_lt.mpr expired)
  have sending : ¬Sending child := by
    intro sending
    have last_eq : failures last = child.lastTimeout := inv.last_eq
    have noLast : last = [] := inv.sending sending
    rw [noLast] at last_eq
    rw [← last_eq] at expired
    exact absurd expired (by decide)
  obtain ⟨stays, nothing⟩ := step_stopped atLast sending input
  have moved : observe ⟨child, main, last⟩ input = ⟨child, main, last⟩ := by
    simp [observe, Observed.next, inLastData, atLast, nothing, stays]
  rw [moved]
  exact early

theorem ObservedInv.gives_up_iff {observed : Observed Child} (inv : ObservedInv observed) :
    GivesUpAfterSilence observed ↔
      (failures observed.last < timeoutMax ∨ Unbroken observed.last) := by
  have last_eq := inv.last_eq
  have last_le := inv.last_le
  by_cases expired : timeoutMax ≤ observed.state.lastTimeout
  · have counted : failures observed.last = timeoutMax := by omega
    rw [← le_silence_iff observed.main counted, GivesUpAfterSilence, counted]
    simp [Abandoned, expired]
  · have few : failures observed.last < timeoutMax := by omega
    refine iff_of_true ?_ (.inl few)
    rintro (inMain | late)
    · exact Nat.le_trans (Nat.le_of_lt inMain) inv.main_le
    · exact absurd late expired

end Step

def begin (windowSize bufferSize : Nat) (file : List UInt8) : Observed Child :=
  ⟨start windowSize bufferSize file, [], []⟩

theorem begin_observed (windowSize bufferSize : Nat) (file : List UInt8) :
    ObservedInv (begin windowSize bufferSize file) :=
  .unfinished rfl (Nat.zero_le _) (fun _ => .inl rfl)

theorem run_gives_up_iff (windowSize bufferSize : Nat) (file : List UInt8)
    (inputs : List Input) :
    EveryStep observe (fun observed input => GivesUpAfterSilence (observe observed input))
        (begin windowSize bufferSize file) inputs ↔
      (failures (run observe (begin windowSize bufferSize file) inputs).last < timeoutMax ∨
        Unbroken (run observe (begin windowSize bufferSize file) inputs).last) := by
  have initially := begin_observed windowSize bufferSize file
  have reached : ObservedInv (run observe (begin windowSize bufferSize file) inputs) :=
    run_invariant ObservedInv (fun _ input inv _ => inv.next input) initially
      (everyStep_true _ inputs)
  rw [← reached.gives_up_iff]
  exact everyStep_until_end ObservedInv GivesUpAfterSilence (fun _ input inv => inv.next input)
    (fun _ input inv early => givesUp_stays inv input early) initially (by
      rintro (late | late) <;> cases late)

end Server

instance (observed : Observed Rcopy.Process) : Decidable (Rcopy.GivesUpAfterSilence observed) :=
  inferInstanceAs (Decidable (_ ≤ _ ∨ _ ≤ _ → _ ≤ _))

instance (observed : Observed Server.Child) : Decidable (Server.GivesUpAfterSilence observed) :=
  inferInstanceAs (Decidable (_ < _ ∨ _ ≤ _ → _ ≤ _))

/-- Nine polls run out between packets 1 and 2, and one more after packet 2. -/
def timeoutsAroundPacket : List Rcopy.Input :=
  Rcopy.handshake ++ Rcopy.arriving (eightBytes 4) [1] ++
    List.replicate 18 (Rcopy.pass none) ++ Rcopy.arriving (eightBytes 4) [2] ++
    List.replicate 2 (Rcopy.pass none)

/-- Nine polls of `lastData` run out, the RR for packet 1 arrives, and one more runs out. -/
def timeoutsAroundRr : List Server.Input :=
  Server.sending 2 ++ List.replicate 8 (Server.pass none) ++ [Server.rrArrives 2] ++
    [Server.pass none]

end CPE464.Project3
