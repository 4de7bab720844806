/-
What one call of a data handler of rcopy can do.

`Outcome` lists the ways `processData` and `processDataBuffering` can end for a data
packet, and `handleData_outcome` shows that there are no others.  Every invariant of the
client is proved from this list; no later proof opens the handlers again.
-/

import CPE464.Project3.ReceiveWindow
import CPE464.Project3.ControlMessages

namespace CPE464.Project3.Rcopy

open General

/-- The answer to a packet that brings nothing new: buffering mode also repeats the
SREJ. -/
def acknowledge (statics : Statics) (buffering : Bool) : Statics :=
  sendRR (if buffering then sendSREJ statics statics.expected else statics)

def rejectGap (statics : Statics) (buffering : Bool) : Statics :=
  if buffering then statics else sendSREJ statics statics.expected

def advance (statics : Statics) (packet : Packet) (dataSize : Nat) : Statics :=
  moveWindow
    { writeDataToDisk statics packet.payload (writeSize dataSize) with
      wroteLastData := statics.wroteLastData || packet.flag == FlagType.eof.code
      highest := statics.expected
      expected := wrap32 (statics.expected + 1) }
    (wrap32 (statics.expected + 1))

def placed (statics : Statics) (packet : Packet) (dataSize : Nat) : Statics :=
  { statics with window := replacePacket statics.window packet dataSize }

def drain (statics : Statics) (packet : Packet) (dataSize : Nat) : Statics :=
  checkWindowState (placed statics packet dataSize)

inductive Outcome (statics : Statics) (packet : Packet) (dataSize : Nat) :
    Bool → Handled → Prop
  | inOrder (here : packet.seqNum = statics.expected) :
      Outcome statics packet dataSize false
        { statics := acknowledge (advance statics packet dataSize) false, buffering := false,
          next := stateAfter packet }
  | stored (buffering : Bool) (above : statics.expected < packet.seqNum)
      (isOpen : isWindowOpen statics.window = true)
      (free : buffering = true → packetValidInWindow statics.window packet.seqNum = false) :
      Outcome statics packet dataSize buffering
        { statics :=
            { rejectGap statics buffering with
              window := (addPacket statics.window packet dataSize).2
              highest := packet.seqNum },
          buffering := true, next := stateAfter packet }
  | refused (buffering : Bool) (highest : Nat) (above : statics.expected < packet.seqNum)
      (closed : isWindowOpen statics.window = false)
      (free : buffering = true → packetValidInWindow statics.window packet.seqNum = false) :
      Outcome statics packet dataSize buffering
        { statics := { rejectGap statics buffering with highest }, buffering := true,
          next := .exit }
  | drainedPart (here : packet.seqNum = statics.expected)
      (free : packetValidInWindow statics.window packet.seqNum = false)
      (more : (drain statics packet dataSize).expected <
        (drain statics packet dataSize).highest) :
      Outcome statics packet dataSize true
        { statics := acknowledge (drain statics packet dataSize) true, buffering := true,
          next := stateAfter packet }
  | drainedAll (here : packet.seqNum = statics.expected)
      (free : packetValidInWindow statics.window packet.seqNum = false)
      (done : ¬ (drain statics packet dataSize).expected <
        (drain statics packet dataSize).highest) :
      Outcome statics packet dataSize true
        { statics := acknowledge (drain statics packet dataSize) false, buffering := false,
          next := stateAfter packet }
  | repeated (buffering : Bool)
      (known : packet.seqNum < statics.expected ∨
        buffering = true ∧ packetValidInWindow statics.window packet.seqNum = true) :
      Outcome statics packet dataSize buffering
        { statics := acknowledge statics buffering, buffering, next := stateAfter packet }

theorem addPacket_accepts (window : Window) (packet : Packet) (dataSize : Nat) :
    (addPacket window packet dataSize).1 = isWindowOpen window := by
  unfold addPacket
  cases isOpen : isWindowOpen window with
  | false => simp only [Bool.not_false, if_true]
  | true =>
      simp only [Bool.not_true, Bool.false_eq_true, if_false]
      split
      · rfl
      · split <;> rfl

theorem addPacket_eq (window : Window) (packet : Packet) (dataSize : Nat) :
    addPacket window packet dataSize =
      (isWindowOpen window, (addPacket window packet dataSize).2) :=
  Prod.ext (addPacket_accepts window packet dataSize) rfl

theorem processData_outcome (statics : Statics) (packet : Packet) (dataSize : Nat)
    (data : isDataFlag packet.flag = true) :
    Outcome statics packet dataSize false (processData statics packet dataSize false) := by
  simp only [processData, data, Bool.not_true, Bool.false_eq_true, if_false]
  rcases Nat.lt_trichotomy packet.seqNum statics.expected with below | here | above
  · rw [if_neg (Nat.ne_of_lt below), if_neg (Nat.not_lt.mpr (Nat.le_of_lt below))]
    exact .repeated false (.inl below)
  · rw [if_pos here]
    exact .inOrder here
  · have sameWindow : (sendSREJ statics statics.expected).window = statics.window := rfl
    rw [if_neg (Nat.ne_of_gt above), if_pos above, addPacket_eq, sameWindow]
    cases isOpen : isWindowOpen statics.window with
    | false => exact .refused false packet.seqNum above isOpen (fun no => by cases no)
    | true => exact .stored false above isOpen (fun no => by cases no)

theorem processDataBuffering_outcome (statics : Statics) (packet : Packet) (dataSize : Nat)
    (data : isDataFlag packet.flag = true) :
    Outcome statics packet dataSize true
      (processDataBuffering statics packet dataSize true) := by
  simp only [processDataBuffering, data, Bool.not_true, Bool.false_eq_true, if_false]
  cases free : packetValidInWindow statics.window packet.seqNum with
  | true =>
      simp only [Bool.not_true, Bool.false_eq_true, if_false]
      exact .repeated true (.inr ⟨rfl, free⟩)
  | false =>
      simp only [Bool.not_false, if_true]
      rcases Nat.lt_trichotomy packet.seqNum statics.expected with below | here | above
      · rw [if_neg (Nat.ne_of_lt below), if_neg (Nat.not_lt.mpr (Nat.le_of_lt below))]
        exact .repeated true (.inl below)
      · rw [if_pos here]
        split
        · next more => exact .drainedPart here free more
        · next done => exact .drainedAll here free done
      · rw [if_neg (Nat.ne_of_gt above), if_pos above, addPacket_eq]
        cases isOpen : isWindowOpen statics.window with
        | false => exact .refused true statics.highest above isOpen (fun _ => free)
        | true => exact .stored true above isOpen (fun _ => free)

theorem handleData_outcome (statics : Statics) (packet : Packet) (dataSize : Nat)
    (buffering : Bool) (data : isDataFlag packet.flag = true) :
    Outcome statics packet dataSize buffering
      (handleData statics packet dataSize buffering) := by
  cases buffering with
  | false => exact processData_outcome statics packet dataSize data
  | true => exact processDataBuffering_outcome statics packet dataSize data

theorem isDataFlag_of_carries {transfer : Transfer} {seqNum size : Nat} {packet : Packet}
    (carries : Carries transfer seqNum packet.bytes size) : isDataFlag packet.flag = true := by
  have flagged := carries.isPacket.flag_data
  rw [← carries.flagOf_eq] at flagged
  simp only [isDataFlag, Packet.flag, Bool.or_eq_true, beq_iff_eq]
  tauto

end CPE464.Project3.Rcopy
