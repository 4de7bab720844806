/-
pollLib.c: the sockets that a program waits on, which the programs of p2 and of project3 share.

The entry at an index that is no socket of the set is zero: it asks about descriptor 0, for no
events.  `poll` reports an error or a hang-up of a descriptor without being asked for it, and
`pollCall` takes every report for one about the index.
-/

import CPE464.General.GuardedRun
import Mathlib.Data.Finset.Max
import Mathlib.Data.List.Basic
import Mathlib.Tactic

namespace CPE464

open General

def pollSetSize : Nat := 10

/-- A `struct pollfd`: the only event that is ever asked for is POLLIN. -/
structure PollFd where
  fd : Nat
  pollIn : Bool
  deriving DecidableEq, Repr

structure PollSet where
  pollFileDescriptors : List PollFd
  maxFileDescriptor : Nat
  currentPollSetSize : Nat
  deriving DecidableEq, Repr

/-- A call of `exit`, or an access outside of `pollFileDescriptors`. -/
inductive Fault where
  | exited
  | outOfBounds
  deriving DecidableEq, Repr

/-- What the kernel has to say about a descriptor: something can be read, or there is an error, a
hang-up or no open file. -/
structure Readiness where
  readable : Bool
  condition : Bool
  deriving DecidableEq, Repr

namespace PollSet

def store (pollSet : PollSet) (index : Nat) (entry : PollFd) : Except Fault PollSet :=
  if index < pollSet.pollFileDescriptors.length then
    .ok { pollSet with pollFileDescriptors := pollSet.pollFileDescriptors.set index entry }
  else .error .outOfBounds

def setupPollSet : PollSet where
  pollFileDescriptors := List.replicate pollSetSize ⟨0, false⟩
  maxFileDescriptor := 0
  currentPollSetSize := pollSetSize

def growPollSet (pollSet : PollSet) (newSetSize : Nat) : Except Fault PollSet :=
  if newSetSize ≤ pollSet.currentPollSetSize then .error .exited
  else
    .ok { pollSet with
      pollFileDescriptors := pollSet.pollFileDescriptors ++
        List.replicate (newSetSize - pollSet.currentPollSetSize) ⟨0, false⟩
      currentPollSetSize := newSetSize }

def addToPollSet (pollSet : PollSet) (socketNumber : Nat) : Except Fault PollSet :=
  let grown :=
    if socketNumber ≥ pollSet.currentPollSetSize then
      growPollSet pollSet (socketNumber + pollSetSize)
    else .ok pollSet
  grown.bind fun pollSet =>
    let pollSet :=
      if socketNumber + 1 ≥ pollSet.maxFileDescriptor then
        { pollSet with maxFileDescriptor := socketNumber + 1 }
      else pollSet
    pollSet.store socketNumber ⟨socketNumber, true⟩

def removeFromPollSet (pollSet : PollSet) (socketNumber : Nat) : Except Fault PollSet :=
  pollSet.store socketNumber ⟨0, false⟩

/-- `revents > 0`, once `poll` has returned. -/
def revents (descriptors : Nat → Readiness) (entry : PollFd) : Bool :=
  entry.pollIn && (descriptors entry.fd).readable || (descriptors entry.fd).condition

/-- `descriptors` is the state of the descriptors when `poll` returns. -/
def pollCall (descriptors : Nat → Readiness) (pollSet : PollSet) : Except Fault Int :=
  if pollSet.pollFileDescriptors.length < pollSet.maxFileDescriptor then .error .outOfBounds
  else
    let polled := pollSet.pollFileDescriptors.take pollSet.maxFileDescriptor
    let pollValue := polled.countP (revents descriptors)
    if pollValue > 0 then
      match polled.findIdx? (revents descriptors) with
      | some index => .ok index
      | none => .ok (-1)
    else .ok (-1)

/-! ### The set behind the array -/

/-- The entries are those of the sockets in `members`, among `limit` entries that are polled. -/
structure Holds (pollSet : PollSet) (members : Finset Nat) (limit : Nat) : Prop where
  length_eq : pollSet.pollFileDescriptors.length = pollSet.currentPollSetSize
  maxFileDescriptor_eq : pollSet.maxFileDescriptor = limit
  limit_le : limit ≤ pollSet.currentPollSetSize
  members_lt : ∀ socketNumber ∈ members, socketNumber < limit
  entry : ∀ index < pollSet.currentPollSetSize,
    pollSet.pollFileDescriptors[index]? =
      some (if index ∈ members then ⟨index, true⟩ else ⟨0, false⟩)

def Ready (descriptors : Nat → Readiness) (socketNumber : Nat) : Prop :=
  (descriptors socketNumber).readable = true ∨ (descriptors socketNumber).condition = true

def Reported (descriptors : Nat → Readiness) (members : Finset Nat) (index : Nat) : Prop :=
  if index ∈ members then Ready descriptors index else (descriptors 0).condition = true

theorem setupPollSet_holds : Holds setupPollSet ∅ 0 where
  length_eq := List.length_replicate
  maxFileDescriptor_eq := rfl
  limit_le := Nat.zero_le _
  members_lt := fun _ absent => by simp at absent
  entry := fun index small => by
    rw [if_neg (Finset.notMem_empty _)]
    exact List.getElem?_replicate_of_lt small

variable {pollSet : PollSet} {members : Finset Nat} {limit : Nat}

theorem Holds.store (holds : Holds pollSet members limit) {index : Nat}
    (inside : index < pollSet.currentPollSetSize) {others : Finset Nat} {entry : PollFd}
    (isEntry : entry = if index ∈ others then ⟨index, true⟩ else ⟨0, false⟩)
    (same : ∀ other, other ≠ index → (other ∈ others ↔ other ∈ members))
    (below : index ∈ others → index < limit) :
    ∃ later, pollSet.store index entry = .ok later ∧ Holds later others limit ∧
      later.currentPollSetSize = pollSet.currentPollSetSize := by
  have within : index < pollSet.pollFileDescriptors.length := holds.length_eq ▸ inside
  refine ⟨_, if_pos within, ⟨?_, holds.maxFileDescriptor_eq, holds.limit_le, ?_, ?_⟩, rfl⟩
  · rw [List.length_set, holds.length_eq]
  · intro socketNumber member
    by_cases isIndex : socketNumber = index
    · subst isIndex
      exact below member
    · exact holds.members_lt socketNumber ((same socketNumber isIndex).mp member)
  · intro other small
    by_cases isIndex : other = index
    · subst isIndex
      rw [List.getElem?_set_self within, isEntry]
    · rw [List.getElem?_set_ne (Ne.symm isIndex), holds.entry other small]
      simp only [same other isIndex]

theorem Holds.growPollSet (holds : Holds pollSet members limit) {socketNumber : Nat}
    (outside : pollSet.currentPollSetSize ≤ socketNumber) :
    ∃ later, pollSet.growPollSet (socketNumber + pollSetSize) = .ok later ∧
      Holds later members limit ∧ later.currentPollSetSize = socketNumber + pollSetSize := by
  have larger : ¬socketNumber + pollSetSize ≤ pollSet.currentPollSetSize := by
    unfold pollSetSize
    omega
  refine ⟨_, if_neg larger, ⟨?_, holds.maxFileDescriptor_eq, ?_, holds.members_lt, ?_⟩, rfl⟩
  · rw [List.length_append, holds.length_eq, List.length_replicate]
    dsimp only
    omega
  · have := holds.limit_le
    dsimp only
    omega
  · intro index small
    by_cases old : index < pollSet.currentPollSetSize
    · rw [List.getElem?_append_left (holds.length_eq ▸ old), holds.entry index old]
    · have absent : index ∉ members := fun member => old <|
        Nat.lt_of_lt_of_le (holds.members_lt index member) holds.limit_le
      have beyond : index - pollSet.currentPollSetSize <
          socketNumber + pollSetSize - pollSet.currentPollSetSize := by
        dsimp only at small
        omega
      rw [List.getElem?_append_right (by rw [holds.length_eq]; omega), holds.length_eq,
        List.getElem?_replicate_of_lt beyond, if_neg absent]

theorem Holds.raise (holds : Holds pollSet members limit) {higher : Nat}
    (atLeast : limit ≤ higher) (inside : higher ≤ pollSet.currentPollSetSize) :
    Holds { pollSet with maxFileDescriptor := higher } members higher where
  length_eq := holds.length_eq
  maxFileDescriptor_eq := rfl
  limit_le := inside
  members_lt := fun socketNumber member =>
    Nat.lt_of_lt_of_le (holds.members_lt socketNumber member) atLeast
  entry := holds.entry

theorem Holds.addToPollSet (holds : Holds pollSet members limit) (socketNumber : Nat) :
    ∃ later, pollSet.addToPollSet socketNumber = .ok later ∧
      Holds later (insert socketNumber members) (max limit (socketNumber + 1)) := by
  obtain ⟨grown, grows, grownHolds, roomy⟩ : ∃ grown,
      (if socketNumber ≥ pollSet.currentPollSetSize then
        pollSet.growPollSet (socketNumber + pollSetSize)
      else .ok pollSet) = .ok grown ∧ Holds grown members limit ∧
        socketNumber < grown.currentPollSetSize := by
    by_cases outside : pollSet.currentPollSetSize ≤ socketNumber
    · obtain ⟨grown, grows, grownHolds, size⟩ := holds.growPollSet outside
      refine ⟨grown, by rw [if_pos outside, grows], grownHolds, ?_⟩
      rw [size]
      unfold pollSetSize
      omega
    · exact ⟨pollSet, if_neg outside, holds, Nat.lt_of_not_le outside⟩
  obtain ⟨raised, raises, raisedHolds, size⟩ : ∃ raised,
      (if socketNumber + 1 ≥ grown.maxFileDescriptor then
        { grown with maxFileDescriptor := socketNumber + 1 }
      else grown) = raised ∧ Holds raised members (max limit (socketNumber + 1)) ∧
        raised.currentPollSetSize = grown.currentPollSetSize := by
    by_cases highest : limit ≤ socketNumber + 1
    · refine ⟨_, if_pos (grownHolds.maxFileDescriptor_eq ▸ highest), ?_, rfl⟩
      rw [Nat.max_eq_right highest]
      exact grownHolds.raise highest roomy
    · refine ⟨grown, if_neg (by rw [grownHolds.maxFileDescriptor_eq]; omega), ?_, rfl⟩
      rwa [Nat.max_eq_left (by omega)]
  obtain ⟨later, stored, laterHolds, -⟩ := raisedHolds.store (size ▸ roomy)
    (if_pos (Finset.mem_insert_self socketNumber members)).symm
    (fun other different => by rw [Finset.mem_insert, or_iff_right different])
    (fun _ => by omega)
  refine ⟨later, ?_, laterHolds⟩
  simp only [PollSet.addToPollSet, grows, Except.bind, raises, stored]

theorem Holds.removeFromPollSet (holds : Holds pollSet members limit) {socketNumber : Nat}
    (polled : socketNumber < limit) :
    ∃ later, pollSet.removeFromPollSet socketNumber = .ok later ∧
      Holds later (members.erase socketNumber) limit := by
  have inside : socketNumber < pollSet.currentPollSetSize :=
    Nat.lt_of_lt_of_le polled holds.limit_le
  obtain ⟨later, stored, laterHolds, -⟩ := holds.store inside
    (if_neg (Finset.notMem_erase socketNumber members)).symm
    (fun other different => by rw [Finset.mem_erase, and_iff_right different])
    (fun member => absurd member (Finset.notMem_erase socketNumber members))
  exact ⟨later, stored, laterHolds⟩

/-! ### What `pollCall` answers -/

theorem Holds.entries (holds : Holds pollSet members limit) :
    pollSet.pollFileDescriptors = (List.range pollSet.currentPollSetSize).map fun index =>
      if index ∈ members then ⟨index, true⟩ else ⟨0, false⟩ := by
  apply List.ext_getElem?
  intro index
  by_cases inside : index < pollSet.currentPollSetSize
  · rw [holds.entry index inside, List.getElem?_map, List.getElem?_range inside, Option.map_some]
  · rw [List.getElem?_eq_none (by rw [holds.length_eq]; omega),
      List.getElem?_eq_none (by simp only [List.length_map, List.length_range]; omega)]

theorem Holds.polled (holds : Holds pollSet members limit) :
    pollSet.pollFileDescriptors.take pollSet.maxFileDescriptor =
      (List.range limit).map fun index =>
        if index ∈ members then ⟨index, true⟩ else ⟨0, false⟩ := by
  rw [holds.entries, holds.maxFileDescriptor_eq, ← List.map_take, List.take_range,
    Nat.min_eq_left holds.limit_le]

theorem revents_iff (descriptors : Nat → Readiness) (members : Finset Nat) (index : Nat) :
    revents descriptors (if index ∈ members then ⟨index, true⟩ else ⟨0, false⟩) = true ↔
      Reported descriptors members index := by
  unfold Reported Ready
  split <;> simp [revents]

theorem Holds.pollCall (holds : Holds pollSet members limit) (descriptors : Nat → Readiness) :
    (∃ index < limit, Reported descriptors members index ∧
      (∀ earlier < index, ¬Reported descriptors members earlier) ∧
        pollSet.pollCall descriptors = .ok index) ∨
      (∀ index < limit, ¬Reported descriptors members index) ∧
        pollSet.pollCall descriptors = .ok (-1) := by
  have inside : ¬pollSet.pollFileDescriptors.length < pollSet.maxFileDescriptor := by
    rw [holds.length_eq, holds.maxFileDescriptor_eq]
    exact Nat.not_lt_of_le holds.limit_le
  simp only [PollSet.pollCall, if_neg inside, holds.polled]
  generalize isPolled : (List.range limit).map (fun index =>
    if index ∈ members then (⟨index, true⟩ : PollFd) else ⟨0, false⟩) = polled
  have size : polled.length = limit := by simp [← isPolled]
  have each : ∀ index (below : index < polled.length),
      revents descriptors polled[index] = true ↔ Reported descriptors members index := by
    intro index below
    subst isPolled
    rw [List.getElem_map, List.getElem_range]
    exact revents_iff descriptors members index
  cases found : polled.findIdx? (revents descriptors) with
  | some index =>
      obtain ⟨below, reported, earliest⟩ := List.findIdx?_eq_some_iff_getElem.mp found
      have positive : polled.countP (revents descriptors) > 0 :=
        List.countP_pos_iff.mpr ⟨_, List.getElem_mem below, reported⟩
      refine .inl ⟨index, size ▸ below, (each index below).mp reported, ?_, if_pos positive⟩
      intro earlier before isReported
      exact earliest earlier before ((each earlier (before.trans below)).mpr isReported)
  | none =>
      have none := List.findIdx?_eq_none_iff.mp found
      refine .inr ⟨fun index below isReported => ?_, ite_self _⟩
      have isFalse := none _ (List.getElem_mem (size.symm ▸ below))
      rw [(each index _).mpr isReported] at isFalse
      cases isFalse

theorem Holds.countP_pollIn (holds : Holds pollSet members limit) :
    pollSet.pollFileDescriptors.countP PollFd.pollIn = members.card := by
  have asks : ∀ index, (PollFd.pollIn ∘ fun index : Nat =>
      if index ∈ members then (⟨index, true⟩ : PollFd) else ⟨0, false⟩) index =
        decide (index ∈ members) := by
    intro index
    by_cases member : index ∈ members <;> simp [member]
  rw [holds.entries, List.countP_map, List.countP_eq_length_filter, List.filter_congr fun index _ =>
    asks index, ← List.toFinset_card_of_nodup (List.nodup_range.filter _)]
  congr 1
  ext index
  rw [List.mem_toFinset, List.mem_filter, List.mem_range, decide_eq_true_eq]
  exact and_iff_right_of_imp fun member =>
    Nat.lt_of_lt_of_le (holds.members_lt index member) holds.limit_le

/-! ### Sockets that come and go -/

inductive Call where
  | add (socketNumber : Nat)
  | remove (socketNumber : Nat)
  deriving DecidableEq, Repr

def call (pollSet : PollSet) : Call → Except Fault PollSet
  | .add socketNumber => pollSet.addToPollSet socketNumber
  | .remove socketNumber => pollSet.removeFromPollSet socketNumber

def calls (pollSet : PollSet) (history : List Call) : Except Fault PollSet :=
  history.foldlM call pollSet

def memberStep (members : Finset Nat) : Call → Finset Nat
  | .add socketNumber => insert socketNumber members
  | .remove socketNumber => members.erase socketNumber

def limitStep (limit : Nat) : Call → Nat
  | .add socketNumber => max limit (socketNumber + 1)
  | .remove _ => limit

def membersAfter (history : List Call) : Finset Nat := run memberStep ∅ history

/-- One more than the highest socket that has ever been added. -/
def limitAfter (history : List Call) : Nat := run limitStep 0 history

def AddsFirst (history : List Call) : Prop :=
  ∀ index socketNumber, history[index]? = some (.remove socketNumber) →
    .add socketNumber ∈ history.take index

theorem limitStep_le (limit : Nat) (call : Call) : limit ≤ limitStep limit call := by
  cases call with
  | add socketNumber => exact Nat.le_max_left _ _
  | remove socketNumber => exact Nat.le_refl _

theorem lt_run_limitStep {history : List Call} {socketNumber : Nat} (limit : Nat)
    (added : .add socketNumber ∈ history) : socketNumber < run limitStep limit history := by
  have grows : ∀ (history : List Call) limit, limit ≤ run limitStep limit history := by
    intro history
    induction history with
    | nil => exact fun limit => Nat.le_refl limit
    | cons call rest ih => exact fun limit => (limitStep_le limit call).trans (ih _)
  induction history generalizing limit with
  | nil => cases added
  | cons call rest ih =>
      rw [run_cons]
      rcases List.mem_cons.mp added with isCall | later
      · subst isCall
        exact Nat.lt_of_lt_of_le (Nat.le_max_right limit (socketNumber + 1)) (grows rest _)
      · exact ih _ later

theorem calls_holds {history : List Call} (done : List Call)
    (holds : Holds pollSet (membersAfter done) (limitAfter done))
    (addsFirst : AddsFirst (done ++ history)) :
    ∃ later, calls pollSet history = .ok later ∧
      Holds later (membersAfter (done ++ history)) (limitAfter (done ++ history)) := by
  induction history generalizing pollSet done with
  | nil => exact ⟨pollSet, rfl, by rwa [List.append_nil]⟩
  | cons first rest ih =>
      obtain ⟨next, called, nextHolds⟩ : ∃ next, call pollSet first = .ok next ∧
          Holds next (membersAfter (done ++ [first])) (limitAfter (done ++ [first])) := by
        simp only [membersAfter, limitAfter, run_append]
        cases first with
        | add socketNumber => exact holds.addToPollSet socketNumber
        | remove socketNumber =>
            have added := addsFirst done.length socketNumber (by simp)
            rw [List.take_left] at added
            exact holds.removeFromPollSet (lt_run_limitStep 0 added)
      have onwards : AddsFirst (done ++ [first] ++ rest) := by
        rwa [List.append_assoc, List.singleton_append]
      obtain ⟨later, rests, laterHolds⟩ := ih (done ++ [first]) nextHolds onwards
      rw [List.append_assoc, List.singleton_append] at laterHolds
      refine ⟨later, ?_, laterHolds⟩
      rw [calls, List.foldlM_cons, called]
      exact rests

theorem reported_iff {descriptors : Nat → Readiness}
    (goodOrder : (descriptors 0).condition = false) (members : Finset Nat) (index : Nat) :
    Reported descriptors members index ↔ index ∈ members ∧ Ready descriptors index := by
  unfold Reported
  by_cases member : index ∈ members
  · rw [if_pos member, and_iff_right member]
  · rw [if_neg member, goodOrder]
    exact iff_of_false Bool.false_ne_true fun both => member both.1

/-- With descriptor 0 in good order only sockets of the set are reported. -/
theorem Holds.pollCall_goodOrder (holds : Holds pollSet members limit)
    {descriptors : Nat → Readiness} (goodOrder : (descriptors 0).condition = false) :
    (∃ index ∈ members, Ready descriptors index ∧
      (∀ other ∈ members, Ready descriptors other → index ≤ other) ∧
        pollSet.pollCall descriptors = .ok index) ∨
      (∀ index ∈ members, ¬Ready descriptors index) ∧
        pollSet.pollCall descriptors = .ok (-1) := by
  rcases holds.pollCall descriptors with ⟨index, -, reported, earliest, answer⟩ | ⟨none, answer⟩
  · obtain ⟨member, ready⟩ := (reported_iff goodOrder members index).mp reported
    refine .inl ⟨index, member, ready, fun other isMember isReady => ?_, answer⟩
    by_contra before
    exact earliest other (Nat.lt_of_not_le before)
      ((reported_iff goodOrder members other).mpr ⟨isMember, isReady⟩)
  · refine .inr ⟨fun index member ready => ?_, answer⟩
    exact none index (holds.members_lt index member)
      ((reported_iff goodOrder members index).mpr ⟨member, ready⟩)

/-- A condition of descriptor 0 is reported for the first entry, whatever is in it. -/
theorem Holds.pollCall_broken (holds : Holds pollSet members limit)
    {descriptors : Nat → Readiness} (broken : (descriptors 0).condition = true)
    (positive : 0 < limit) : pollSet.pollCall descriptors = .ok 0 := by
  have first : Reported descriptors members 0 := by
    unfold Reported
    split
    · exact .inr broken
    · exact broken
  rcases holds.pollCall descriptors with ⟨index, -, -, earliest, answer⟩ | ⟨none, -⟩
  · have isZero : index = 0 := by
      by_contra later
      exact earliest 0 (Nat.pos_of_ne_zero later) first
    rw [answer, isZero]
    rfl
  · exact absurd first (none 0 positive)

/-- After any additions and removals `pollCall` answers with the lowest socket of the set that
is ready, or with -1.  Only a condition of descriptor 0 makes it answer anything else: it then
answers with 0, whether 0 is a socket of the set or not. -/
theorem polls_sockets (history : List Call) (addsFirst : AddsFirst history) :
    ∃ pollSet, calls setupPollSet history = .ok pollSet ∧
      ∀ descriptors : Nat → Readiness,
        ((descriptors 0).condition = false →
          (∀ index : Nat, pollSet.pollCall descriptors = .ok index ↔
            index ∈ membersAfter history ∧ Ready descriptors index ∧
              ∀ other ∈ membersAfter history, Ready descriptors other → index ≤ other) ∧
          (pollSet.pollCall descriptors = .ok (-1) ↔
            ∀ index ∈ membersAfter history, ¬Ready descriptors index)) ∧
        ((descriptors 0).condition = true → 0 < limitAfter history →
          pollSet.pollCall descriptors = .ok 0) := by
  obtain ⟨pollSet, made, holds⟩ := calls_holds [] setupPollSet_holds addsFirst
  rw [List.nil_append] at holds
  refine ⟨pollSet, made, fun descriptors => ⟨fun goodOrder => ?_, holds.pollCall_broken⟩⟩
  rcases holds.pollCall_goodOrder goodOrder with ⟨lowest, member, ready, least, answer⟩ |
    ⟨none, answer⟩
  · rw [answer]
    constructor
    · intro index
      rw [Except.ok.injEq, Nat.cast_inj]
      constructor
      · rintro rfl
        exact ⟨member, ready, least⟩
      · rintro ⟨isMember, isReady, isLeast⟩
        exact Nat.le_antisymm (least index isMember isReady) (isLeast lowest member ready)
    · exact iff_of_false (by simp) fun none => none lowest member ready
  · rw [answer]
    constructor
    · intro index
      exact iff_of_false (by simp) fun both => none index both.1 both.2.1
    · exact iff_of_true rfl none

/-- The server of p2 has accepted a client with a high number and has lost another one. -/
theorem polls_sockets_server :
    ∃ pollSet, calls setupPollSet [.add 3, .add 4, .add 25, .remove 4] = .ok pollSet ∧
      pollSet.pollCall (fun descriptor => ⟨descriptor == 4 || descriptor == 25, false⟩) =
        .ok 25 := by
  have addsFirst : AddsFirst [.add 3, .add 4, .add 25, .remove 4] := by
    intro index socketNumber found
    match index with
    | 0 | 1 | 2 | _ + 4 => cases found
    | 3 =>
        cases found
        decide
  obtain ⟨pollSet, made, answers⟩ :=
    polls_sockets [.add 3, .add 4, .add 25, .remove 4] addsFirst
  refine ⟨pollSet, made, (((answers _).1 rfl).1 25).mpr ⟨by decide, .inl rfl, ?_⟩⟩
  intro other member ready
  have members : membersAfter [.add 3, .add 4, .add 25, .remove 4] = {3, 25} := by decide
  have isOther : other = 3 ∨ other = 25 := by
    rw [members] at member
    simpa using member
  rcases isOther with rfl | rfl
  · simp [Ready] at ready
  · exact Nat.le_refl _

end PollSet

end CPE464
