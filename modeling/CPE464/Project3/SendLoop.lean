/-
The send loop reaches the end of the file when what it sends is acknowledged.

Each packet takes a full buffer off the file, and between two packets the child only walks from
one loop to the next; a full window is opened by any RR that moves it.  So a rank made of these
two falls until the last packet has been read.  The sequence numbers may wrap around on the way.
-/

import CPE464.General.EndlessRun
import CPE464.Project3.WrapAround

namespace CPE464.Project3.Server

open General

/-! ### Acknowledgements -/

def Advances (child : Child) (input : Input) : Prop :=
  ∃ number ∈ rrReceived child input, number ≠ child.window.lower

/-- Everything the child sends is acknowledged, before it gives up, and the datagrams that its
non-blocking poll finds come to an end. -/
structure AllAcknowledged (children : Nat → Child) (inputs : Nat → Input) : Prop where
  acknowledged : ∀ time, 0 < outstanding (children time).window →
    ∃ later, time ≤ later ∧ Advances (children later) (inputs later)
  inTime : ∀ time, (children time).state = .windowClosed →
    isWindowOpen (children time).window = false → (children time).timeout ≤ timeoutMax
  pollEnds : ∀ time, (children time).state = .checkRrSrej →
    ∃ later, time ≤ later ∧ (children later).state = .checkRrSrej ∧ (inputs later).poll = none

/-! ### The loops before the end of the file -/

def BeforeEof (child : Child) : Prop :=
  child.atEof = false ∧
    (child.state = .windowOpen ∨ child.state = .checkRrSrej ∨ child.state = .windowClosed)

/-- How far the child is from its next packet. -/
def loopStage (child : Child) : Nat :=
  match child.state with
  | .windowOpen => if isWindowOpen child.window then 1 else 4
  | .checkRrSrej => 5
  | .windowClosed => if isWindowOpen child.window then 2 else 3
  | _ => 0

def rank (child : Child) : Nat := 6 * child.file.length + loopStage child

structure Edges (window : Window) : Prop where
  lower_lt : window.lower < 2 ^ 32
  upper_eq : window.upper = wrap32 (window.lower + window.windowSize)

structure Polled (child : Child) (input : Input) (later : Child) : Prop where
  state_eq : later.state = child.state
  atEof_eq : later.atEof = child.atEof
  file_eq : later.file = child.file
  window_eq : later.window = child.window ∧ rrReceived child input = none ∨
    ∃ number, rrReceived child input = some number ∧
      later.window = removePacket child.window number

section Passes

variable {child : Child} {input : Input}

theorem processRrSrej_polled {datagram : Datagram} (polling : polls child = true)
    (polled : input.poll = some datagram) :
    Polled child input (processRrSrej child datagram input.stack).1 := by
  have handled := processRrSrej_eq polling polled input.stack
  cases receives : received child input with
  | none =>
      simp only [receives] at handled
      rw [handled]
      exact ⟨rfl, rfl, rfl, .inl ⟨rfl, by simp only [rrReceived, receives]⟩⟩
  | some packet =>
      simp only [receives] at handled
      by_cases isRr : packet.flag = FlagType.rr.code
      · rw [if_pos isRr] at handled
        rw [handled]
        refine ⟨rfl, rfl, rfl, .inr ⟨packet.number, ?_, rfl⟩⟩
        simp only [rrReceived, receives, isRr, if_true]
      · have noRr : rrReceived child input = none := by
          simp only [rrReceived, receives, isRr, if_false]
        rw [if_neg isRr] at handled
        split at handled
        · rw [handled]
          exact ⟨rfl, rfl, rfl, .inl ⟨rfl, noRr⟩⟩
        · split at handled <;>
          · rw [handled]
            exact ⟨rfl, rfl, rfl, .inl ⟨rfl, noRr⟩⟩

def Active (child : Child) (input : Input) : Prop :=
  polls child = false ∨ child.state = .checkRrSrej ∧ input.poll = none ∨
    child.state = .windowClosed ∧ Advances child input

def Descends (child : Child) (input : Input) : Prop :=
  (step child input).state = .lastData ∧ (step child input).atEof = true ∨
    BeforeEof (step child input) ∧ rank (step child input) ≤ rank child ∧
      (Active child input → rank (step child input) < rank child)

theorem Edges.advances (edges : Edges child.window) (closed : isWindowOpen child.window = false)
    {number : Nat} (follows : rrReceived child input = some number)
    (moves : number ≠ child.window.lower) :
    isWindowOpen (removePacket child.window number) = true := by
  have small := rrReceived_lt follows
  have lowerSmall := edges.lower_lt
  rw [isWindowOpen, bne_eq_false_iff_eq, edges.upper_eq] at closed
  rw [isWindowOpen, bne_iff_ne]
  change child.window.current ≠ wrap32 (number + child.window.windowSize)
  rw [closed, wrap32, wrap32]
  omega

theorem Edges.outstanding_pos (edges : Edges child.window)
    (positive : 1 ≤ child.window.windowSize) (bound : child.window.windowSize < 2 ^ 32)
    (closed : isWindowOpen child.window = false) : 0 < outstanding child.window := by
  have lowerSmall := edges.lower_lt
  rw [isWindowOpen, bne_eq_false_iff_eq, edges.upper_eq] at closed
  rw [outstanding, closed, wrap32, wrap32]
  omega

structure LoopInv (windowSize bufferSize : Nat) (child : Child) : Prop where
  sending : BeforeEof child
  history : ∃ packets, SendHistory windowSize bufferSize packets child
  edges : Edges child.window

section Pass

variable {windowSize bufferSize : Nat} (inv : LoopInv windowSize bufferSize child)

include inv

theorem read_rank_lt (bufferMin : 1 ≤ bufferSize) (bufferMax : bufferSize ≤ payloadMax)
    (sending : sends child = true) (more : meetsEof child = false) :
    rank (step child input) < rank child := by
  obtain ⟨packets, history⟩ := inv.history
  have notEof := inv.sending.1
  have atTest : child.state = .windowOpen ∧ isWindowOpen child.window = true := by
    simpa [sends] using sending
  have whole : child.bufferSize ≤ child.file.length := by
    rw [meetsEof, notEof, Bool.false_or, decide_eq_false_iff_not, nextData,
      List.length_take] at more
    omega
  have rankLater : rank (step child input) =
      6 * (child.file.length - child.bufferSize) + 5 := by
    rw [rank, step_of_sends sending,
      readFromDiskAndSend_frame (history.bufferSize_eq ▸ bufferMax), more, ← List.length_drop]
    rfl
  have stageHere : loopStage child = 1 := by
    simp only [loopStage, atTest, if_true]
  rw [history.bufferSize_eq] at whole rankLater
  rw [rankLater, rank, stageHere]
  omega

theorem windowOpen_descends (bufferMin : 1 ≤ bufferSize) (bufferMax : bufferSize ≤ payloadMax)
    (atTest : child.state = .windowOpen) : Descends child input := by
  obtain ⟨packets, history⟩ := inv.history
  have notEof := inv.sending.1
  cases isOpen : isWindowOpen child.window with
  | false =>
      have moved : step child input = { child with state := .windowClosed } := by
        rw [step_full atTest isOpen, notEof, if_neg Bool.false_ne_true]
      have falling : rank (step child input) < rank child := by
        rw [moved, rank, rank, loopStage, loopStage, atTest]
        simp only [isOpen, Bool.false_eq_true, if_false]
        omega
      refine .inr ⟨?_, Nat.le_of_lt falling, fun _ => falling⟩
      rw [moved]
      exact ⟨notEof, .inr (.inr rfl)⟩
  | true =>
      have sending : sends child = true := by
        simp [sends, atTest, isOpen]
      have moved : step child input = _ := step_of_sends sending
      have small : child.bufferSize ≤ payloadMax := history.bufferSize_eq ▸ bufferMax
      have reads := readFromDiskAndSend_frame small
      cases more : meetsEof child with
      | true =>
          left
          rw [moved, reads, more]
          exact ⟨rfl, rfl⟩
      | false =>
          have falling : rank (step child input) < rank child :=
            read_rank_lt inv bufferMin bufferMax sending more
          refine .inr ⟨?_, Nat.le_of_lt falling, fun _ => falling⟩
          rw [moved, reads, more]
          exact ⟨rfl, .inr (.inl rfl)⟩

theorem checkRrSrej_descends (atCheck : child.state = .checkRrSrej) :
    Descends child input := by
  have notEof := inv.sending.1
  right
  cases polled : input.poll with
  | none =>
      have moved : step child input = { child with state := .windowOpen } :=
        step_check_empty atCheck polled
      have falling : rank (step child input) < rank child := by
        rw [moved, rank, rank, loopStage, loopStage, atCheck]
        dsimp only
        split <;> omega
      refine ⟨?_, Nat.le_of_lt falling, fun _ => falling⟩
      rw [moved]
      exact ⟨notEof, .inl rfl⟩
  | some datagram =>
      have polling : polls child = true := by
        simp only [polls, atCheck]
      have moved : step child input = (processRrSrej child datagram input.stack).1 :=
        step_check_receives atCheck polled
      have answered := processRrSrej_polled polling polled
      rw [← moved] at answered
      have same : rank (step child input) = rank child := by
        rw [rank, rank, loopStage, loopStage, answered.state_eq, answered.file_eq, atCheck]
      refine ⟨⟨answered.atEof_eq.trans notEof, .inr (.inl (answered.state_eq.trans atCheck))⟩,
        Nat.le_of_eq same, ?_⟩
      rintro (quiet | ⟨_, empty⟩ | ⟨atClosed, _⟩)
      · rw [polling] at quiet
        cases quiet
      · rw [polled] at empty
        cases empty
      · rw [atCheck] at atClosed
        cases atClosed

theorem windowClosed_descends (atClosed : child.state = .windowClosed)
    (inTime : isWindowOpen child.window = false → child.timeout ≤ timeoutMax) :
    Descends child input := by
  have notEof := inv.sending.1
  right
  cases isOpen : isWindowOpen child.window with
  | true =>
      have moved : step child input = { child with state := .windowOpen } := by
        rw [step_reopens atClosed isOpen, notEof, if_neg Bool.false_ne_true]
      have falling : rank (step child input) < rank child := by
        rw [moved, rank, rank, loopStage, loopStage, atClosed]
        simp only [isOpen, if_true]
        omega
      refine ⟨?_, Nat.le_of_lt falling, fun _ => falling⟩
      rw [moved]
      exact ⟨notEof, .inl rfl⟩
  | false =>
      have polling : polls child = true := by
        simp only [polls, atClosed, isOpen, inTime isOpen, Bool.not_false, Bool.true_and,
          decide_true]
      have answered : Polled child input (step child input) := by
        cases polled : input.poll with
        | none =>
            have nothing : rrReceived child input = none := by
              simp only [rrReceived, received, polling, polled, if_true]
            rw [step_closed_timeout atClosed isOpen (inTime isOpen) polled, resendLowestClosed_eq]
            exact ⟨rfl, rfl, rfl, .inl ⟨rfl, nothing⟩⟩
        | some datagram =>
            have handled := processRrSrej_polled polling polled
            rw [step_closed_receives atClosed isOpen (inTime isOpen) polled,
              processRrSrej_counters]
            exact ⟨rfl, handled.atEof_eq, handled.file_eq, handled.window_eq⟩
      have stageHere : loopStage child = 3 := by
        simp only [loopStage, atClosed, isOpen, Bool.false_eq_true, if_false]
      have stageLater : loopStage (step child input) =
          if isWindowOpen (step child input).window then 2 else 3 := by
        simp only [loopStage, answered.state_eq, atClosed]
      refine ⟨⟨answered.atEof_eq.trans notEof, .inr (.inr (answered.state_eq.trans atClosed))⟩,
        ?_, ?_⟩
      · rw [rank, rank, answered.file_eq, stageHere, stageLater]
        split <;> omega
      · rintro (quiet | ⟨atCheck, _⟩ | ⟨_, number, heard, moves⟩)
        · rw [polling] at quiet
          cases quiet
        · rw [atClosed] at atCheck
          cases atCheck
        · rcases answered.window_eq with ⟨_, noRr⟩ | ⟨other, isOther, moved⟩
          · cases noRr.symm.trans heard
          · obtain rfl := Option.some.inj (isOther.symm.trans heard)
            have opened := inv.edges.advances isOpen heard moves
            rw [← moved] at opened
            rw [rank, rank, answered.file_eq, stageHere, stageLater, if_pos opened]
            omega

theorem LoopInv.descends (bufferMin : 1 ≤ bufferSize) (bufferMax : bufferSize ≤ payloadMax)
    (inTime : child.state = .windowClosed → isWindowOpen child.window = false →
      child.timeout ≤ timeoutMax) : Descends child input := by
  rcases inv.sending.2 with atTest | atCheck | atClosed
  · exact windowOpen_descends inv bufferMin bufferMax atTest
  · exact checkRrSrej_descends inv atCheck
  · exact windowClosed_descends inv atClosed (inTime atClosed)

theorem LoopInv.onward (bufferMax : bufferSize ≤ payloadMax)
    (still : BeforeEof (step child input)) :
    LoopInv windowSize bufferSize (step child input) := by
  obtain ⟨packets, history⟩ := inv.history
  refine ⟨still, ⟨_, history.onward bufferMax input⟩, ?_⟩
  have outcome := step_outcome child input
  generalize step child input = later at outcome ⊢
  cases outcome with
  | sent atTest isOpen =>
      rw [readFromDiskAndSend_frame (history.bufferSize_eq ▸ bufferMax),
        addPacket_current _ _ _ isOpen (nextPacket_numbered history bufferMax)]
      exact ⟨inv.edges.lower_lt, inv.edges.upper_eq⟩
  | acknowledged number state timeout lastTimeout rr fits notAcked =>
      exact ⟨rrReceived_lt rr, rfl⟩
  | resent number flag stack unconditional state timeout lastTimeout asked noRr resendFlag
      inClosed fits notAcked => exact inv.edges
  | idle state timeout lastTimeout noRr noResend fits acked => exact inv.edges

end Pass

end Passes

theorem start_loopInv (windowSize bufferSize : Nat) (file : List UInt8) :
    LoopInv windowSize bufferSize (start windowSize bufferSize file) where
  sending := ⟨rfl, .inl rfl⟩
  history := ⟨[], start_history windowSize bufferSize file⟩
  edges := ⟨show seqNumStart < 2 ^ 32 by decide, rfl⟩

/-- Any finite file, however long: the send loop hands over to `lastData` once the whole
file has been sent and acknowledged on the way. -/
theorem send_loop_ends {windowSize bufferSize : Nat} (windowMin : 1 ≤ windowSize)
    (windowMax : windowSize < 2 ^ 32) (bufferMin : 1 ≤ bufferSize)
    (bufferMax : bufferSize ≤ payloadMax) (file : List UInt8) {inputs : Nat → Input}
    (acked : AllAcknowledged (trajectory step (start windowSize bufferSize file) inputs) inputs) :
    ∃ time, let child := trajectory step (start windowSize bufferSize file) inputs time
      child.state = .lastData ∧ child.atEof = true := by
  apply eventually_of_rank (LoopInv windowSize bufferSize)
    (fun child => child.state = .lastData ∧ child.atEof = true) rank
    (start_loopInv windowSize bufferSize file)
  · intro time child inv notEnded
    rcases inv.descends bufferMin bufferMax (acked.inTime time) with
      ended | ⟨still, notAbove, _⟩
    · exact absurd ended notEnded
    · exact ⟨inv.onward bufferMax still, notAbove⟩
  · intro holds time
    obtain ⟨later, after, active⟩ : ∃ later, time ≤ later ∧
        Active (trajectory step (start windowSize bufferSize file) inputs later)
          (inputs later) := by
      have walks : ∀ time, (trajectory step (start windowSize bufferSize file) inputs
          time).state = .windowOpen → polls (trajectory step (start windowSize bufferSize file)
            inputs time) = false := fun time atTest => by simp only [polls, atTest]
      have empties : ∀ time, (trajectory step (start windowSize bufferSize file) inputs
          time).state = .checkRrSrej → ∃ later, time ≤ later ∧ Active (trajectory step
            (start windowSize bufferSize file) inputs later) (inputs later) := by
        intro time atCheck
        obtain ⟨later, after, there, empty⟩ := acked.pollEnds time atCheck
        exact ⟨later, after, .inr (.inl ⟨there, empty⟩)⟩
      rcases (holds time).sending.2 with atTest | atCheck | atClosed
      · exact ⟨time, Nat.le_refl _, .inl (walks time atTest)⟩
      · exact empties time atCheck
      · cases isOpen : isWindowOpen
            (trajectory step (start windowSize bufferSize file) inputs time).window with
        | true =>
            refine ⟨time, Nat.le_refl _, .inl ?_⟩
            simp only [polls, atClosed, isOpen, Bool.not_true, Bool.false_and]
        | false =>
            obtain ⟨packets, history⟩ := (holds time).history
            have sized := history.windowSize_eq
            obtain ⟨later, after, advances⟩ := acked.acknowledged time
              ((holds time).edges.outstanding_pos (by omega) (by omega) isOpen)
            -- the RR may find the child in another loop by then
            rcases (holds later).sending.2 with atTest | atCheck | atClosed
            · exact ⟨later, after, .inl (walks later atTest)⟩
            · obtain ⟨last, afterwards, active⟩ := empties later atCheck
              exact ⟨last, Nat.le_trans after afterwards, active⟩
            · exact ⟨later, after, .inr (.inr ⟨atClosed, advances⟩)⟩
    refine ⟨later, after, fun notEnded => ?_⟩
    rcases (holds later).descends bufferMin bufferMax (acked.inTime later) with
      ended | ⟨_, _, falling⟩
    · exact absurd ended notEnded
    · exact falling active

end CPE464.Project3.Server
