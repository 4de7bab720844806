/-
What a handler call keeps, case by case of `Outcome`, and what one step of rcopy keeps.

`handleData_ok` is the step lemma for the statics whatever data packet arrives, and
`handleData_inWindow` adds the file for arrivals below `expected + windowSize`.
-/

import CPE464.Project3.RcopyInvariant

namespace CPE464.Project3.Rcopy

open General

variable {transfer : Transfer} {statics : Statics} {packet : Packet}
  {seqNum dataSize : Nat}

structure HandledOk (transfer : Transfer) (statics : Statics) (handled : Handled) : Prop where
  inv : StaticsInv transfer handled.statics
  mode : handled.next ≠ .exit → BufferingOk handled.statics handled.buffering
  expected_le : statics.expected ≤ handled.statics.expected
  replies : RepliesSince statics handled.statics

theorem stateAfter_eq (packet : Packet) :
    stateAfter packet = .receiveData ∨ stateAfter packet = .lastData := by
  unfold stateAfter
  split
  · exact .inr rfl
  · exact .inl rfl

theorem handleData_notData {statics : Statics} {packet : Packet} (dataSize : Nat)
    (buffering : Bool) (notData : isDataFlag packet.flag = false) :
    handleData statics packet dataSize buffering = ⟨statics, buffering, .receiveData⟩ := by
  cases buffering <;>
    simp only [handleData, processData, processDataBuffering, notData, Bool.not_false, if_true,
      Bool.false_eq_true, if_false]

theorem handleData_next (statics : Statics) (packet : Packet) (dataSize : Nat)
    (buffering : Bool) :
    (handleData statics packet dataSize buffering).next = .exit ∨
      (handleData statics packet dataSize buffering).next = .receiveData ∨
      (handleData statics packet dataSize buffering).next = .lastData := by
  cases data : isDataFlag packet.flag with
  | false =>
      rw [handleData_notData dataSize buffering data]
      exact .inr (.inl rfl)
  | true =>
      have outcome := handleData_outcome statics packet dataSize buffering data
      generalize handleData statics packet dataSize buffering = handled at outcome ⊢
      cases outcome with
      | refused _ highest above closed free => exact .inl rfl
      | inOrder here => exact .inr (stateAfter_eq packet)
      | stored _ above isOpen free => exact .inr (stateAfter_eq packet)
      | drainedPart here free more => exact .inr (stateAfter_eq packet)
      | drainedAll here free done => exact .inr (stateAfter_eq packet)
      | repeated _ known => exact .inr (stateAfter_eq packet)

/-! ### In order -/

section InOrder

variable (inv : StaticsInv transfer statics)
  (carries : Carries transfer statics.expected packet.bytes dataSize)

include inv carries

omit inv in
theorem advance_expected : (advance statics packet dataSize).expected = statics.expected + 1 :=
  Nat.mod_eq_of_lt carries.seqNum_lt

omit inv in
theorem advance_window : (advance statics packet dataSize).window =
    removePacket statics.window (statics.expected + 1) :=
  congrArg (removePacket statics.window) (advance_expected carries)

theorem advance_inv : StaticsInv transfer (advance statics packet dataSize) := by
  have last := carries.isPacket.last
  have lower := inv.lower_eq
  refine ⟨?_, inv.bufferSize_eq, rfl⟩
  rw [advance_window carries]
  exact inv.receive.removed (by omega) (by omega)

theorem advance_inWindow (inside : InWindow transfer statics) :
    InWindow transfer (advance statics packet dataSize) := by
  have counted := advance_expected carries
  refine ⟨inside.delivered.next inv.expected_pos carries rfl rfl counted, ?_, ?_⟩
  · have near := inside.current_le
    rw [counted, advance_window carries]
    change statics.window.current ≤ _
    omega
  · intro index
    have stored := inside.stored_lt index
    rw [counted, advance_window carries, ReceiveWindow.removed_packet]
    omega

end InOrder

/-! ### Storing beyond a gap -/

theorem replaced_lt {window : Window} (receive : ReceiveWindow transfer window)
    (carries : Carries transfer seqNum packet.bytes dataSize) {bound : Nat}
    (stored : ∀ index, seqNumOf (window.elements index).packet < bound)
    (near : seqNum < bound) (index : Nat) :
    seqNumOf ((replacePacket window packet dataSize).elements index).packet < bound := by
  by_cases same : index = window.slot packet.seqNum
  · rw [same, ReceiveWindow.replaced_same, (receive.stored_carries carries).seqNumOf_eq]
    exact near
  · rw [ReceiveWindow.replaced_other _ _ _ same]
    exact stored index

section Stored

variable (inv : StaticsInv transfer statics)
  (carries : Carries transfer seqNum packet.bytes dataSize)
  (above : statics.expected < seqNum) (isOpen : isWindowOpen statics.window = true)
  (buffering : Bool)

def stored (statics : Statics) (packet : Packet) (dataSize : Nat) (buffering : Bool) :
    Statics :=
  { rejectGap statics buffering with
    window := (addPacket statics.window packet dataSize).2
    highest := packet.seqNum }

include inv carries above isOpen

theorem stored_inv : StaticsInv transfer (stored statics packet dataSize buffering) := by
  have frame := rejectGap_frame statics buffering
  have lower := inv.lower_eq
  exact ⟨(inv.receive.added carries (by omega) isOpen).1, frame.2.2.2.2.trans inv.bufferSize_eq,
    (addPacket_frame _ _ _).1.trans (lower.trans frame.2.1.symm)⟩

theorem stored_mode : BufferingOk (stored statics packet dataSize buffering) true := by
  have frame := rejectGap_frame statics buffering
  have numbered : packet.seqNum = seqNum := carries.seqNumOf_eq
  have lower := inv.lower_eq
  intro _
  constructor
  · change (rejectGap statics buffering).expected < packet.seqNum
    omega
  · exact (inv.receive.added carries (by omega) isOpen).2

theorem stored_inWindow (inside : InWindow transfer statics)
    (near : seqNum < statics.expected + transfer.windowSize) :
    InWindow transfer (stored statics packet dataSize buffering) := by
  have frame := rejectGap_frame statics buffering
  have numbered : packet.seqNum = seqNum := carries.seqNumOf_eq
  have small := carries.seqNum_lt
  have sameExpected : (stored statics packet dataSize buffering).expected = statics.expected :=
    frame.2.1
  have window : (stored statics packet dataSize buffering).window =
      addedWindow statics.window packet dataSize := by
    have noWrap := inv.receive.current_succ.resolve_right (by omega)
    exact congrArg Prod.snd (addPacket_open _ _ _ isOpen (by omega) noWrap)
  refine ⟨⟨?_, ?_⟩, ?_, ?_⟩
  · rw [sameExpected]
    exact frame.2.2.1.trans inside.delivered.toFile_eq
  · rw [sameExpected, ← inside.delivered.wrote_iff]
    exact Eq.congr_left frame.2.2.2.1
  · have current := inside.current_le
    rw [sameExpected, window]
    change max statics.window.current (packet.seqNum + 1) ≤ _
    omega
  · intro index
    rw [sameExpected, window, ReceiveWindow.added_packet]
    exact replaced_lt inv.receive carries inside.stored_lt near index

end Stored

/-! ### Draining -/

section Drained

variable (inv : StaticsInv transfer statics)
  (carries : Carries transfer statics.expected packet.bytes dataSize)
  (behind : statics.expected < statics.window.current)

include inv carries behind

theorem drain_expected_lt : statics.expected < (drain statics packet dataSize).expected := by
  have found := drainNumbers_pos inv carries behind
  rw [drain_expected inv carries behind]
  omega

theorem drain_expected_le :
    (drain statics packet dataSize).expected ≤ statics.window.current := by
  rw [drain_expected inv carries behind]
  exact drainNumbers_le packet dataSize inv behind

theorem drain_current : (drain statics packet dataSize).window.current =
    statics.window.current := by
  rw [drain_window inv carries behind]
  rfl

theorem drain_inWindow (inside : InWindow transfer statics) :
    InWindow transfer (drain statics packet dataSize) := by
  have moved := drain_expected_lt inv carries behind
  have near := inside.current_le
  refine ⟨drain_delivered inv carries behind inside.delivered near, ?_, ?_⟩
  · rw [drain_current inv carries behind]
    omega
  · intro index
    rw [drain_window inv carries behind, ReceiveWindow.removed_packet]
    have positive := transfer.windowSize_pos
    have bounded := replaced_lt inv.receive carries inside.stored_lt (by omega) index
    omega

theorem drain_roomy (near : statics.window.current ≤ statics.expected + transfer.windowSize)
    (buffering : Bool) : Roomy transfer (drain statics packet dataSize) buffering := by
  have moved := drain_expected_lt inv carries behind
  intro _
  rw [drain_current inv carries behind]
  omega

theorem drain_mode (ok : BufferingOk statics true)
    (more : (drain statics packet dataSize).expected < (drain statics packet dataSize).highest) :
    BufferingOk (drain statics packet dataSize) true := by
  intro _
  refine ⟨more, ?_⟩
  rw [drain_current inv carries behind, (drain_frame inv carries behind).2.1]
  exact (ok rfl).2

end Drained

/-! ### Answering -/

theorem acknowledge_inv (inv : StaticsInv transfer statics) (buffering : Bool) :
    StaticsInv transfer (acknowledge statics buffering) :=
  have frame := acknowledge_frame statics buffering
  inv.of_window frame.1 frame.2.1 frame.2.2.2.2.2

theorem InWindow.of_frame {later : Statics} (inside : InWindow transfer statics)
    (window : later.window = statics.window) (expected : later.expected = statics.expected)
    (toFile : later.toFile = statics.toFile)
    (wrote : later.wroteLastData = statics.wroteLastData) : InWindow transfer later := by
  obtain ⟨⟨file, counted⟩, current, stored⟩ := inside
  constructor
  · exact ⟨by rw [toFile, expected, file], by rw [wrote, expected, counted]⟩
  · rw [window, expected]
    exact current
  · rw [window, expected]
    exact stored

theorem acknowledge_inWindow (inside : InWindow transfer statics) (buffering : Bool) :
    InWindow transfer (acknowledge statics buffering) :=
  have frame := acknowledge_frame statics buffering
  inside.of_frame frame.1 frame.2.1 frame.2.2.2.1 frame.2.2.2.2.1

theorem acknowledge_mode {buffering : Bool} (ok : BufferingOk statics buffering)
    (answer : Bool) : BufferingOk (acknowledge statics answer) buffering := by
  obtain ⟨window, expected, highest, _⟩ := acknowledge_frame statics answer
  rw [BufferingOk, window, expected, highest]
  exact ok

theorem acknowledge_roomy {buffering : Bool} (roomy : Roomy transfer statics buffering)
    (answer : Bool) : Roomy transfer (acknowledge statics answer) buffering := by
  obtain ⟨window, expected, _⟩ := acknowledge_frame statics answer
  rw [Roomy, window, expected]
  exact roomy

/-! ### The step lemmas -/

/-- The handler puts this packet into the window with `addPacket`. -/
def stores (statics : Statics) (buffering : Bool) (seqNum : Nat) : Bool :=
  decide (statics.expected < seqNum) && isWindowOpen statics.window &&
    !(buffering && packetValidInWindow statics.window seqNum)

def refuses (statics : Statics) (buffering : Bool) (seqNum : Nat) : Bool :=
  decide (statics.expected < seqNum) && !isWindowOpen statics.window &&
    !(buffering && packetValidInWindow statics.window seqNum)

theorem stores_eq_true {buffering : Bool} (above : statics.expected < seqNum)
    (isOpen : isWindowOpen statics.window = true)
    (free : buffering = true → packetValidInWindow statics.window seqNum = false) :
    stores statics buffering seqNum = true := by
  cases buffering with
  | false => simp [stores, above, isOpen]
  | true => simp [stores, above, isOpen, free rfl]

theorem Outcome.replies {buffering : Bool} {handled : Handled} (small : statics.expected < 2 ^ 32)
    (outcome : Outcome statics packet dataSize buffering handled) :
    RepliesSince statics handled.statics := by
  obtain ⟨sent, drained⟩ := drain_sends packet dataSize small
  cases outcome with
  | inOrder here => exact acknowledge_replies false (Nat.mod_lt _ (by decide)) rfl
  | stored _ above isOpen free =>
      exact rejectGap_replies buffering small rfl (rejectGap_frame statics buffering).2.1
  | refused _ highest above closed free =>
      exact rejectGap_replies buffering small rfl (rejectGap_frame statics buffering).2.1
  | drainedPart here free more => exact acknowledge_replies true drained sent
  | drainedAll here free done => exact acknowledge_replies false drained sent
  | repeated _ known => exact acknowledge_replies buffering small rfl

theorem Outcome.small {buffering : Bool} {handled : Handled} (small : statics.expected < 2 ^ 32)
    (outcome : Outcome statics packet dataSize buffering handled) :
    handled.statics.expected < 2 ^ 32 := by
  have drained := (drain_sends packet dataSize small).2
  cases outcome with
  | inOrder here => exact Nat.mod_lt _ (by decide)
  | stored _ above isOpen free => exact (rejectGap_frame statics buffering).2.1.symm ▸ small
  | refused _ highest above closed free =>
      exact (rejectGap_frame statics buffering).2.1.symm ▸ small
  | drainedPart here free more => exact (acknowledge_frame _ true).2.1.symm ▸ drained
  | drainedAll here free done => exact (acknowledge_frame _ false).2.1.symm ▸ drained
  | repeated _ known => exact (acknowledge_frame statics buffering).2.1.symm ▸ small

theorem handleData_answers (packet : Packet) (dataSize : Nat) (buffering : Bool)
    (small : statics.expected < 2 ^ 32) :
    RepliesSince statics (handleData statics packet dataSize buffering).statics ∧
      (handleData statics packet dataSize buffering).statics.expected < 2 ^ 32 := by
  cases data : isDataFlag packet.flag with
  | false =>
      rw [handleData_notData dataSize buffering data]
      exact ⟨⟨[], (List.append_nil _).symm, fun _ absent => by cases absent⟩, small⟩
  | true =>
      have outcome := handleData_outcome statics packet dataSize buffering data
      exact ⟨outcome.replies small, outcome.small small⟩

theorem Outcome.ok {buffering : Bool} {handled : Handled} (inv : StaticsInv transfer statics)
    (mode : BufferingOk statics buffering)
    (carries : Carries transfer seqNum packet.bytes dataSize)
    (outcome : Outcome statics packet dataSize buffering handled) :
    HandledOk transfer statics handled := by
  have numbered : packet.seqNum = seqNum := carries.seqNumOf_eq
  have replies := outcome.replies inv.expected_lt
  cases outcome with
  | inOrder here =>
      obtain rfl : seqNum = statics.expected := numbered.symm.trans here
      have advanced := advance_inv inv carries
      have counted := advance_expected carries
      refine ⟨acknowledge_inv advanced false, fun _ no => (by cases no), ?_, replies⟩
      change statics.expected ≤ (advance statics packet dataSize).expected
      omega
  | stored _ above isOpen free =>
      rw [numbered] at above
      have frame := rejectGap_frame statics buffering
      exact ⟨stored_inv inv carries above isOpen buffering,
        fun _ => stored_mode inv carries above isOpen buffering,
        Nat.le_of_eq frame.2.1.symm, replies⟩
  | refused _ highest above closed free =>
      have frame := rejectGap_frame statics buffering
      exact ⟨inv.of_window frame.1 frame.2.1 frame.2.2.2.2, fun alive => absurd rfl alive,
        Nat.le_of_eq frame.2.1.symm, replies⟩
  | drainedPart here free more =>
      obtain rfl : seqNum = statics.expected := numbered.symm.trans here
      have behind := Nat.lt_trans (mode rfl).1 (mode rfl).2
      have drained := drain_inv inv carries behind
      exact ⟨acknowledge_inv drained true,
        fun _ => acknowledge_mode (drain_mode inv carries behind mode more) true,
        Nat.le_of_lt (drain_expected_lt inv carries behind), replies⟩
  | drainedAll here free done =>
      obtain rfl : seqNum = statics.expected := numbered.symm.trans here
      have behind := Nat.lt_trans (mode rfl).1 (mode rfl).2
      have drained := drain_inv inv carries behind
      exact ⟨acknowledge_inv drained false, fun _ no => (by cases no),
        Nat.le_of_lt (drain_expected_lt inv carries behind), replies⟩
  | repeated _ known =>
      exact ⟨acknowledge_inv inv buffering, fun _ => acknowledge_mode mode buffering,
        Nat.le_of_eq (acknowledge_frame statics buffering).2.1.symm, replies⟩

theorem handleData_ok {buffering : Bool} (inv : StaticsInv transfer statics)
    (mode : BufferingOk statics buffering)
    (carries : Carries transfer seqNum packet.bytes dataSize) :
    HandledOk transfer statics (handleData statics packet dataSize buffering) :=
  (handleData_outcome statics packet dataSize buffering
    (isDataFlag_of_carries carries)).ok inv mode carries

theorem Outcome.inWindow {buffering : Bool} {handled : Handled}
    (inv : StaticsInv transfer statics) (mode : BufferingOk statics buffering)
    (inside : InWindow transfer statics)
    (carries : Carries transfer seqNum packet.bytes dataSize)
    (near : stores statics buffering seqNum = true →
      seqNum < statics.expected + transfer.windowSize)
    (outcome : Outcome statics packet dataSize buffering handled) :
    InWindow transfer handled.statics := by
  have numbered : packet.seqNum = seqNum := carries.seqNumOf_eq
  cases outcome with
  | inOrder here =>
      obtain rfl : seqNum = statics.expected := numbered.symm.trans here
      exact acknowledge_inWindow (advance_inWindow inv carries inside) false
  | stored _ above isOpen free =>
      rw [numbered] at above free
      have room := near (stores_eq_true above isOpen free)
      exact stored_inWindow inv carries above isOpen buffering inside room
  | refused _ highest above closed free =>
      have frame := rejectGap_frame statics buffering
      exact inside.of_frame frame.1 frame.2.1 frame.2.2.1 frame.2.2.2.1
  | drainedPart here free more =>
      obtain rfl : seqNum = statics.expected := numbered.symm.trans here
      have behind := Nat.lt_trans (mode rfl).1 (mode rfl).2
      exact acknowledge_inWindow (drain_inWindow inv carries behind inside) true
  | drainedAll here free done =>
      obtain rfl : seqNum = statics.expected := numbered.symm.trans here
      have behind := Nat.lt_trans (mode rfl).1 (mode rfl).2
      exact acknowledge_inWindow (drain_inWindow inv carries behind inside) false
  | repeated _ known => exact acknowledge_inWindow inside buffering

theorem Outcome.roomy {buffering : Bool} {handled : Handled}
    (inv : StaticsInv transfer statics) (mode : BufferingOk statics buffering)
    (inside : InWindow transfer statics) (roomy : Roomy transfer statics buffering)
    (carries : Carries transfer seqNum packet.bytes dataSize)
    (outcome : Outcome statics packet dataSize buffering handled) :
    Roomy transfer handled.statics handled.buffering := by
  have numbered : packet.seqNum = seqNum := carries.seqNumOf_eq
  cases outcome with
  | inOrder here =>
      obtain rfl : seqNum = statics.expected := numbered.symm.trans here
      have counted := advance_expected carries
      refine acknowledge_roomy ?_ false
      intro noBuffering
      have room := roomy noBuffering
      rw [counted, advance_window carries]
      change statics.window.current < _
      omega
  | stored _ above isOpen free => exact fun no => by cases no
  | refused _ highest above closed free => exact fun no => by cases no
  | drainedPart here free more => exact fun no => by cases no
  | drainedAll here free done =>
      obtain rfl : seqNum = statics.expected := numbered.symm.trans here
      have behind := Nat.lt_trans (mode rfl).1 (mode rfl).2
      exact acknowledge_roomy (drain_roomy inv carries behind inside.current_le false) false
  | repeated _ known => exact acknowledge_roomy roomy buffering

theorem handleData_inWindow {buffering : Bool} (inv : StaticsInv transfer statics)
    (mode : BufferingOk statics buffering) (inside : InWindow transfer statics)
    (roomy : Roomy transfer statics buffering)
    (carries : Carries transfer seqNum packet.bytes dataSize)
    (near : stores statics buffering seqNum = true →
      seqNum < statics.expected + transfer.windowSize) :
    InWindow transfer (handleData statics packet dataSize buffering).statics ∧
      Roomy transfer (handleData statics packet dataSize buffering).statics
        (handleData statics packet dataSize buffering).buffering :=
  have outcome := handleData_outcome statics packet dataSize buffering
    (isDataFlag_of_carries carries)
  ⟨outcome.inWindow inv mode inside carries near, outcome.roomy inv mode inside roomy carries⟩

theorem Outcome.current_le {buffering : Bool} {handled : Handled}
    (inv : StaticsInv transfer statics) (mode : BufferingOk statics buffering)
    (carries : Carries transfer seqNum packet.bytes dataSize)
    (outcome : Outcome statics packet dataSize buffering handled) :
    handled.statics.window.current ≤ max statics.window.current (seqNum + 1) := by
  have numbered : packet.seqNum = seqNum := carries.seqNumOf_eq
  have kept := Nat.le_max_left statics.window.current (seqNum + 1)
  cases outcome with
  | inOrder here => exact kept
  | stored _ above isOpen free =>
      rw [← numbered]
      exact inv.receive.added_current_le (numbered ▸ carries.seqNum_lt) isOpen
  | refused _ highest above closed free =>
      rw [(rejectGap_frame statics buffering).1]
      exact kept
  | drainedPart here free more =>
      obtain rfl : seqNum = statics.expected := numbered.symm.trans here
      have behind := Nat.lt_trans (mode rfl).1 (mode rfl).2
      rw [(acknowledge_frame _ true).1, drain_current inv carries behind]
      exact kept
  | drainedAll here free done =>
      obtain rfl : seqNum = statics.expected := numbered.symm.trans here
      have behind := Nat.lt_trans (mode rfl).1 (mode rfl).2
      rw [(acknowledge_frame _ false).1, drain_current inv carries behind]
      exact kept
  | repeated _ known =>
      rw [(acknowledge_frame statics buffering).1]
      exact kept

theorem Outcome.expected_le_bound {buffering : Bool} {handled : Handled} {bound : Nat}
    (inv : StaticsInv transfer statics) (mode : BufferingOk statics buffering)
    (carries : Carries transfer seqNum packet.bytes dataSize) (below : seqNum < bound)
    (expected : statics.expected ≤ bound) (current : statics.window.current ≤ bound)
    (outcome : Outcome statics packet dataSize buffering handled) :
    handled.statics.expected ≤ bound := by
  have numbered : packet.seqNum = seqNum := carries.seqNumOf_eq
  cases outcome with
  | inOrder here =>
      obtain rfl : seqNum = statics.expected := numbered.symm.trans here
      exact (advance_expected carries).trans_le below
  | stored => exact (rejectGap_frame statics buffering).2.1.trans_le expected
  | refused => exact (rejectGap_frame statics buffering).2.1.trans_le expected
  | drainedPart here free more =>
      obtain rfl : seqNum = statics.expected := numbered.symm.trans here
      have drained := drain_expected_le inv carries (Nat.lt_trans (mode rfl).1 (mode rfl).2)
      exact (acknowledge_frame _ true).2.1.trans_le (Nat.le_trans drained current)
  | drainedAll here free done =>
      obtain rfl : seqNum = statics.expected := numbered.symm.trans here
      have drained := drain_expected_le inv carries (Nat.lt_trans (mode rfl).1 (mode rfl).2)
      exact (acknowledge_frame _ false).2.1.trans_le (Nat.le_trans drained current)
  | repeated => exact (acknowledge_frame statics buffering).2.1.trans_le expected

theorem handleData_bound {buffering : Bool} {bound : Nat} (inv : StaticsInv transfer statics)
    (mode : BufferingOk statics buffering)
    (carries : Carries transfer seqNum packet.bytes dataSize) (below : seqNum < bound)
    (expected : statics.expected ≤ bound) (current : statics.window.current ≤ bound) :
    (handleData statics packet dataSize buffering).statics.expected ≤ bound ∧
      (handleData statics packet dataSize buffering).statics.window.current ≤ bound :=
  have outcome := handleData_outcome statics packet dataSize buffering
    (isDataFlag_of_carries carries)
  ⟨outcome.expected_le_bound inv mode carries below expected current,
    Nat.le_trans (outcome.current_le inv mode carries) (Nat.max_le.mpr ⟨current, below⟩)⟩

/-- The `exit(1)` of the handlers is reached exactly when `addPacket` refuses. -/
theorem handleData_exit_iff (buffering : Bool)
    (carries : Carries transfer seqNum packet.bytes dataSize) :
    (handleData statics packet dataSize buffering).next = .exit ↔
      refuses statics buffering seqNum = true := by
  have numbered : packet.seqNum = seqNum := carries.seqNumOf_eq
  have alive : stateAfter packet ≠ .exit := by
    rcases stateAfter_eq packet with isNext | isNext <;> rw [isNext] <;> decide
  have outcome := handleData_outcome statics packet dataSize buffering
    (isDataFlag_of_carries carries)
  generalize handleData statics packet dataSize buffering = handled at outcome ⊢
  cases outcome with
  | inOrder here => simp [alive, refuses, ← numbered, here]
  | stored _ above isOpen free => simp [alive, refuses, isOpen]
  | refused _ highest above closed free =>
      rw [numbered] at above free
      cases buffering with
      | false => simp [refuses, above, closed]
      | true => simp [refuses, above, closed, free rfl]
  | drainedPart here free more => simp [alive, refuses, ← numbered, here]
  | drainedAll here free done => simp [alive, refuses, ← numbered, here]
  | repeated _ known =>
      rw [numbered] at known
      rcases known with below | ⟨rfl, valid⟩
      · simp [alive, refuses, Nat.le_of_lt below]
      · simp [alive, refuses, valid]

end CPE464.Project3.Rcopy
