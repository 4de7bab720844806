/-
The library between `safeSendto` and the network: PacketManager.cpp, its events, and `drand48`.

Each send first runs every event of the constant list, up to one that drops the message, and
then, as often as the error rate says, one event of the chance list.  The products with a drawn
number are not rounded as floating point rounds them.  What the events print and what `infoSeqNo`
counts for its report is left out.
-/

import CPE464.Project3.Packet
import Mathlib.Data.List.GetD
import Mathlib.Data.Rat.Defs

namespace CPE464.Project3

def srand48 (seed : Int) : Nat :=
  (seed % 2 ^ 32).toNat * 2 ^ 16 + 0x330E

/-- `drand48` moves the generator on and returns its state as a fraction of `2 ^ 48`. -/
def drand48 (generator : Nat) : Nat :=
  (0x5DEECE66D * generator + 0xB) % 2 ^ 48

def drawBelow (size generator : Nat) : Nat :=
  size * generator / 2 ^ 48

theorem drawBelow_lt {size : Nat} (positive : 0 < size) (generator : Nat) :
    drawBelow size (drand48 generator) < size := by
  have drawn : drand48 generator < 2 ^ 48 := Nat.mod_lt _ (by decide)
  rw [drawBelow, Nat.div_lt_iff_lt_mul (by decide)]
  exact Nat.mul_lt_mul_of_pos_left drawn positive

/-! ### Events -/

inductive MsgEvent where
  | errorDrop (dropAll : Bool) (dropList : List Nat)
  | errorFlipBits
  | infoSeqNo
deriving DecidableEq

/-- The values 0, 1 and 2 that `run` returns. -/
inductive EventResult where
  | unchanged
  | changed
  | dropped
deriving DecidableEq

structure PacketManager where
  errorRate : Rat
  msgNo : Nat
  constant : List MsgEvent
  chance : List MsgEvent
  generator : Nat

structure Outgoing where
  result : EventResult
  buf : Datagram
  generator : Nat

def complementByte (buf : Datagram) (index : Nat) : Datagram :=
  buf.set index (buf.getD index 0 ^^^ 0xFF)

def MsgEvent.run (event : MsgEvent) (buf : Datagram) (msgNo generator : Nat) : Outgoing :=
  match event with
  | .errorDrop dropAll dropList =>
      ⟨if dropAll || dropList.contains msgNo then .dropped else .unchanged, buf, generator⟩
  | .errorFlipBits =>
      let generator := drand48 generator
      ⟨.changed, complementByte buf (drawBelow buf.length generator), generator⟩
  | .infoSeqNo => ⟨.unchanged, buf, generator⟩

namespace PacketManager

def init (now : Int) : PacketManager where
  errorRate := 0
  msgNo := 0
  constant := []
  chance := []
  generator := srand48 now

/-- `runMsgEvents`: the first event that drops the message ends the loop. -/
def runMsgEvents (msgNo : Nat) : List MsgEvent → Bool → Datagram → Nat → Outgoing
  | [], hasChanged, buf, generator =>
      ⟨if hasChanged then .changed else .unchanged, buf, generator⟩
  | event :: rest, hasChanged, buf, generator =>
      let run := event.run buf msgNo generator
      match run.result with
      | .unchanged => runMsgEvents msgNo rest hasChanged run.buf run.generator
      | .changed => runMsgEvents msgNo rest true run.buf run.generator
      | .dropped => run

def drawEvent (manager : PacketManager) (generator : Nat) : Option MsgEvent × Nat :=
  let generator := drand48 generator
  if manager.chance ≠ [] ∧ (generator : Rat) / 2 ^ 48 ≤ manager.errorRate then
    let generator := drand48 generator
    (manager.chance[drawBelow manager.chance.length generator]?, generator)
  else (none, generator)

/-- A chance event also runs on a message that is dropped already, and what it returns takes the
place of what the constant list has returned. -/
def processEvents (manager : PacketManager) (buf : Datagram) (msgNo : Nat) : Outgoing :=
  let constant := runMsgEvents msgNo manager.constant false buf manager.generator
  match drawEvent manager constant.generator with
  | (none, generator) => { constant with generator }
  | (some event, generator) =>
      let drawn := event.run constant.buf msgNo generator
      { drawn with
        result := if constant.result = .dropped then .dropped else drawn.result }

/-- `sendto_Err`: the datagram that goes to `sendto`, if any, and the value returned.  Without
a result the process has exited. -/
def sendto_Err (manager : PacketManager) (buf : Datagram) :
    Option (PacketManager × Option Datagram × Nat) :=
  if buf = [] then none
  else
    let msgNo := wrap32 (manager.msgNo + 1)
    let outgoing := processEvents manager buf msgNo
    let wire := if outgoing.result = .dropped then none else some outgoing.buf
    some ({ manager with msgNo, generator := outgoing.generator }, wire, buf.length)

/-! ### What comes of a message -/

variable {manager : PacketManager} {events : List MsgEvent} {buf : Datagram}
  {msgNo generator : Nat}

def NoFlips (events : List MsgEvent) : Prop := MsgEvent.errorFlipBits ∉ events

def Drops (msgNo : Nat) (events : List MsgEvent) : Prop :=
  ∃ dropAll dropList, MsgEvent.errorDrop dropAll dropList ∈ events ∧
    (dropAll = true ∨ msgNo ∈ dropList)

/-- One byte of the message has been complemented. -/
inductive Flipped (buf : Datagram) : Datagram → Prop
  | byte (index : Nat) (inside : index < buf.length) : Flipped buf (complementByte buf index)

theorem Flipped.length_eq {damaged : Datagram} (flipped : Flipped buf damaged) :
    damaged.length = buf.length := by
  cases flipped with
  | byte index inside => exact List.length_set

theorem complement_ne (byte : UInt8) : byte ^^^ 0xFF ≠ byte := by
  intro same
  have both : byte ^^^ (byte ^^^ 0xFF) = byte ^^^ byte := congrArg (byte ^^^ ·) same
  rw [← UInt8.xor_assoc, UInt8.xor_self, UInt8.zero_xor] at both
  cases both

theorem Flipped.ne {damaged : Datagram} (flipped : Flipped buf damaged) : damaged ≠ buf := by
  cases flipped with
  | byte index inside =>
      intro same
      have there := congrArg (·[index]?) same
      simp only [complementByte, List.getElem?_set_self inside, List.getElem?_eq_getElem inside,
        List.getD_eq_getElem _ _ inside, Option.some.injEq] at there
      exact complement_ne _ there

theorem Flipped.rejected {damaged : Datagram} (flipped : Flipped buf damaged)
    (small : buf.length ≤ 65535) (verifies : inCksum buf = 0) : inCksum damaged ≠ 0 := by
  cases flipped with
  | byte index inside =>
      rw [inCksum_eq_complementSum] at verifies ⊢
      refine General.complementSum_set_ne_zero buf small verifies index inside _ ?_
      rw [List.getD_eq_getElem _ _ inside]
      exact complement_ne _

theorem runMsgEvents_noFlips (msgNo : Nat) (noFlips : NoFlips events) (buf : Datagram)
    (generator : Nat) :
    (runMsgEvents msgNo events false buf generator).buf = buf ∧
      ((runMsgEvents msgNo events false buf generator).result = .dropped ↔
        Drops msgNo events) := by
  induction events with
  | nil => simp [runMsgEvents, Drops]
  | cons event rest inductionHypothesis =>
      have later : NoFlips rest := fun member => noFlips (List.mem_cons_of_mem _ member)
      obtain ⟨same, drops⟩ := inductionHypothesis later
      have split : Drops msgNo (event :: rest) ↔
          Drops msgNo [event] ∨ Drops msgNo rest := by
        simp only [Drops, List.mem_cons, List.not_mem_nil, or_false]
        constructor
        · rintro ⟨dropAll, dropList, here | there, hits⟩
          · exact .inl ⟨dropAll, dropList, here, hits⟩
          · exact .inr ⟨dropAll, dropList, there, hits⟩
        · rintro (⟨dropAll, dropList, here, hits⟩ | ⟨dropAll, dropList, there, hits⟩)
          · exact ⟨dropAll, dropList, .inl here, hits⟩
          · exact ⟨dropAll, dropList, .inr there, hits⟩
      cases event with
      | errorFlipBits => exact absurd List.mem_cons_self noFlips
      | infoSeqNo =>
          have skipped : ¬Drops msgNo [.infoSeqNo] := by simp [Drops]
          simp only [runMsgEvents, MsgEvent.run, split, skipped, false_or]
          exact ⟨same, drops⟩
      | errorDrop dropAll dropList =>
          have here : Drops msgNo [.errorDrop dropAll dropList] ↔
              (dropAll || dropList.contains msgNo) = true := by
            simp [Drops]
          rw [split, here]
          cases hits : dropAll || dropList.contains msgNo with
          | true =>
              simp only [runMsgEvents, MsgEvent.run, hits, if_true, true_or, and_self]
          | false =>
              simp only [runMsgEvents, MsgEvent.run, hits, Bool.false_eq_true, if_false, false_or]
              exact ⟨same, drops⟩

theorem run_buf (event : MsgEvent) (nonempty : buf ≠ []) (generator : Nat) :
    (event.run buf msgNo generator).buf = buf ∨
      Flipped buf (event.run buf msgNo generator).buf := by
  cases event with
  | errorFlipBits =>
      exact .inr (.byte _ (drawBelow_lt (List.length_pos_of_ne_nil nonempty) generator))
  | errorDrop | infoSeqNo => exact .inl rfl

theorem run_dropped {event : MsgEvent}
    (dropped : (event.run buf msgNo generator).result = .dropped) : Drops msgNo [event] := by
  cases event with
  | errorDrop dropAll dropList =>
      refine ⟨dropAll, dropList, List.mem_singleton_self _, ?_⟩
      by_contra missed
      simp [MsgEvent.run, missed] at dropped
  | errorFlipBits | infoSeqNo => cases dropped

theorem drawEvent_mem {event : MsgEvent} {later : Nat}
    (drawn : drawEvent manager generator = (some event, later)) : event ∈ manager.chance := by
  simp only [drawEvent] at drawn
  split at drawn
  · exact List.mem_of_getElem? (Prod.mk.inj drawn).1
  · cases (Prod.mk.inj drawn).1

theorem processEvents_buf (msgNo : Nat) (noFlips : NoFlips manager.constant)
    (nonempty : buf ≠ []) :
    (processEvents manager buf msgNo).buf = buf ∨
      Flipped buf (processEvents manager buf msgNo).buf := by
  have same := (runMsgEvents_noFlips msgNo noFlips buf manager.generator).1
  unfold processEvents
  generalize runMsgEvents msgNo manager.constant false buf manager.generator = constant
    at same ⊢
  cases drawn : drawEvent manager constant.generator with
  | mk event generator =>
      simp only [drawn]
      cases event with
      | none => exact .inl same
      | some event =>
          rw [same]
          exact run_buf event nonempty generator

/-- The constant list drops a message whatever is drawn, and what is drawn may drop others. -/
theorem processEvents_dropped (buf : Datagram) (msgNo : Nat)
    (noFlips : NoFlips manager.constant) :
    (Drops msgNo manager.constant → (processEvents manager buf msgNo).result = .dropped) ∧
      ((processEvents manager buf msgNo).result = .dropped →
        Drops msgNo manager.constant ∨ Drops msgNo manager.chance) := by
  have drops := (runMsgEvents_noFlips msgNo noFlips buf manager.generator).2
  unfold processEvents
  generalize runMsgEvents msgNo manager.constant false buf manager.generator = constant
    at drops ⊢
  cases drawn : drawEvent manager constant.generator with
  | mk event generator =>
      simp only [drawn]
      cases event with
      | none => exact ⟨drops.mpr, fun dropped => .inl (drops.mp dropped)⟩
      | some event =>
          refine ⟨fun listed => if_pos (drops.mpr listed), fun dropped => ?_⟩
          by_cases listed : constant.result = .dropped
          · exact .inl (drops.mp listed)
          · have byEvent := (if_neg listed).symm.trans dropped
            obtain ⟨dropAll, dropList, isEvent, hits⟩ := run_dropped byEvent
            obtain rfl := List.mem_singleton.mp isEvent
            exact .inr ⟨dropAll, dropList, drawEvent_mem drawn, hits⟩

/-! ### One send -/

/-- What `sendto` is given of a datagram. -/
inductive Passes (datagram : Datagram) : Option Datagram → Prop
  | lost : Passes datagram none
  | whole : Passes datagram (some datagram)
  | flipped {damaged : Datagram} (isFlipped : Flipped datagram damaged) :
      Passes datagram (some damaged)

structure Sends (manager : PacketManager) (datagram : Datagram) (later : PacketManager)
    (wire : Option Datagram) : Prop where
  msgNo : later.msgNo = wrap32 (manager.msgNo + 1)
  constant : later.constant = manager.constant
  chance : later.chance = manager.chance
  passes : Passes datagram wire
  listed : Drops later.msgNo manager.constant → wire = none
  lost : wire = none → Drops later.msgNo manager.constant ∨ Drops later.msgNo manager.chance

theorem sendto_Err_sends (noFlips : NoFlips manager.constant) (nonempty : buf ≠ []) :
    ∃ later wire, sendto_Err manager buf = some (later, wire, buf.length) ∧
      Sends manager buf later wire := by
  have kept := processEvents_buf (wrap32 (manager.msgNo + 1)) noFlips nonempty
  have dropped := processEvents_dropped buf (wrap32 (manager.msgNo + 1)) noFlips
  simp only [sendto_Err, if_neg nonempty]
  generalize processEvents manager buf (wrap32 (manager.msgNo + 1)) = outgoing at kept dropped ⊢
  refine ⟨_, _, rfl, rfl, rfl, rfl, ?_, fun listed => if_pos (dropped.1 listed), fun none => ?_⟩
  · by_cases isDropped : outgoing.result = .dropped
    · rw [if_pos isDropped]
      exact .lost
    · rw [if_neg isDropped]
      rcases kept with same | flipped
      · rw [same]
        exact .whole
      · exact .flipped flipped
  · by_contra listed
    rw [if_neg fun isDropped => listed (dropped.2 isDropped)] at none
    cases none

end PacketManager

end CPE464.Project3
