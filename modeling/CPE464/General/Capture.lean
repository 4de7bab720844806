/-
Programs that read a fixed string of bytes through pointers.

A pointer is the position of a byte.  A read outside the string is a fault, so a program
that comes to an end has read only what is there, and it would have done the same with
more bytes behind the string.
-/

import Mathlib.Data.List.GetD
import Mathlib.Tactic

namespace CPE464.General

/-- What a C program must not do: read outside an object, or overflow an `int`. -/
inductive Fault where
  | outside
  | overflow
  deriving DecidableEq, Repr

abbrev Scan := ReaderT (List UInt8) (Except Fault)

variable {α β : Type} {capture : List UInt8} {pointer count : Nat}

def bytesAt (pointer count : Nat) : Scan (List UInt8) := fun capture =>
  if pointer + count ≤ capture.length then .ok ((capture.drop pointer).take count)
  else .error .outside

def byteAt (pointer : Nat) : Scan UInt8 := fun capture =>
  match capture[pointer]? with
  | some byte => .ok byte
  | none => .error .outside

/-! ### Running -/

theorem bytesAt_inside (inside : pointer + count ≤ capture.length) :
    (bytesAt pointer count).run capture = .ok ((capture.drop pointer).take count) :=
  if_pos inside

theorem bytesAt_outside (outside : capture.length < pointer + count) :
    (bytesAt pointer count).run capture = .error .outside :=
  if_neg (not_le.mpr outside)

theorem byteAt_inside (inside : pointer < capture.length) :
    (byteAt pointer).run capture = .ok (capture.getD pointer 0) := by
  simp [byteAt, ReaderT.run, inside]

@[simp] theorem ok_bind {ε : Type} (value : α) (next : α → Except ε β) :
    (Except.ok value >>= next) = next value := rfl

@[simp] theorem error_bind {ε : Type} (fault : ε) (next : α → Except ε β) :
    (Except.error fault >>= next) = Except.error fault := rfl

theorem run_bind_ok {scan : Scan α} {next : α → Scan β} {value : α}
    (ok : scan.run capture = .ok value) :
    (scan >>= next).run capture = (next value).run capture := by
  rw [ReaderT.run_bind, ok, ok_bind]

theorem run_bind_error {scan : Scan α} {next : α → Scan β} {fault : Fault}
    (error : scan.run capture = .error fault) :
    (scan >>= next).run capture = .error fault := by
  rw [ReaderT.run_bind, error, error_bind]

theorem map_error_iff (result : Except Fault α) (next : α → β) (fault : Fault) :
    result.map next = .error fault ↔ result = .error fault := by
  cases result <;> simp [Except.map]

/-! ### More bytes behind the string -/

/-- A run that comes to an end does so with the same result when the string goes on. -/
def Stable (scan : Scan α) : Prop :=
  ∀ capture padding value, scan.run capture = .ok value →
    scan.run (capture ++ padding) = .ok value

namespace Stable

theorem pure (value : α) : Stable (Pure.pure value) := fun _ _ _ same => same

theorem bind {scan : Scan α} {next : α → Scan β} (first : Stable scan)
    (second : ∀ value, Stable (next value)) : Stable (scan >>= next) := by
  intro capture padding result ends
  cases run : scan.run capture with
  | error fault =>
      rw [run_bind_error run] at ends
      cases ends
  | ok value =>
      rw [run_bind_ok run] at ends
      rw [run_bind_ok (first capture padding value run)]
      exact second value capture padding result ends

theorem lift (computation : Except Fault α) : Stable (liftM computation : Scan α) :=
  fun _ _ _ same => same

theorem bytesAt (pointer count : Nat) : Stable (bytesAt pointer count) := by
  intro capture padding bytes ends
  rcases le_or_gt (pointer + count) capture.length with inside | outside
  · rw [bytesAt_inside inside] at ends
    have longer : pointer + count ≤ (capture ++ padding).length := by
      rw [List.length_append]
      omega
    rw [bytesAt_inside longer, ← ends, List.drop_append_of_le_length (by omega),
      List.take_append_of_le_length (by rw [List.length_drop]; omega)]
  · rw [bytesAt_outside outside] at ends
    cases ends

theorem byteAt (pointer : Nat) : Stable (byteAt pointer) := by
  intro capture padding byte ends
  rcases lt_or_ge pointer capture.length with inside | outside
  · have longer : pointer < (capture ++ padding).length := by
      rw [List.length_append]
      omega
    rw [byteAt_inside inside] at ends
    rw [byteAt_inside longer, List.getD_append _ _ _ _ inside, ends]
  · simp [General.byteAt, ReaderT.run, outside] at ends

end Stable

/-! ### What is stored at a pointer -/

def At (capture : List UInt8) (pointer : Nat) (bytes : List UInt8) : Prop :=
  ∃ front back, front.length = pointer ∧ capture = front ++ bytes ++ back

namespace At

variable {bytes : List UInt8}

theorem start (bytes back : List UInt8) : At (bytes ++ back) 0 bytes := ⟨[], back, rfl, rfl⟩

theorem append_iff {first second : List UInt8} :
    At capture pointer (first ++ second) ↔
      At capture pointer first ∧ At capture (pointer + first.length) second := by
  constructor
  · rintro ⟨front, back, rfl, rfl⟩
    exact ⟨⟨front, second ++ back, rfl, by simp⟩,
      ⟨front ++ first, back, List.length_append, by simp⟩⟩
  · rintro ⟨⟨front, back, rfl, isCapture⟩, ⟨longer, behind, length, same⟩⟩
    have split : (front ++ first) ++ back = longer ++ (second ++ behind) := by
      rw [← isCapture, same, List.append_assoc]
    obtain ⟨isFront, -⟩ := List.append_inj split (by rw [List.length_append, length])
    exact ⟨front, behind, rfl, by rw [same, ← isFront, List.append_assoc front]⟩

theorem inside (holds : At capture pointer bytes) : pointer + bytes.length ≤ capture.length := by
  obtain ⟨front, back, rfl, rfl⟩ := holds
  simp only [List.length_append]
  omega

theorem take_eq (holds : At capture pointer bytes) :
    (capture.drop pointer).take bytes.length = bytes := by
  obtain ⟨front, back, rfl, rfl⟩ := holds
  rw [List.append_assoc, List.drop_left, List.take_left]

theorem bytesAt (holds : At capture pointer bytes) :
    (bytesAt pointer bytes.length).run capture = .ok bytes := by
  rw [bytesAt_inside holds.inside, holds.take_eq]

theorem byteAt {byte : UInt8} (holds : At capture pointer [byte]) :
    (byteAt pointer).run capture = .ok byte := by
  obtain ⟨front, back, rfl, rfl⟩ := holds
  simp [General.byteAt, ReaderT.run]

end At

/-! ### How far a program reads -/

/-- The program needs exactly the bytes before `last`, and with these comes to `outcome`. -/
structure ReadsTo (scan : Scan α) (capture : List UInt8) (last : Nat)
    (outcome : Except Fault α) : Prop where
  inside : last ≤ capture.length → scan.run capture = outcome
  outside : capture.length < last → scan.run capture = .error .outside

namespace ReadsTo

theorem pure (value : α) : ReadsTo (Pure.pure value) capture 0 (.ok value) :=
  ⟨fun _ => rfl, fun short => absurd short (Nat.not_lt_zero _)⟩

theorem bytesAt (pointer count : Nat) : ReadsTo (bytesAt pointer count) capture (pointer + count)
    (.ok ((capture.drop pointer).take count)) :=
  ⟨fun inside => bytesAt_inside inside, fun outside => bytesAt_outside outside⟩

theorem byteAt (pointer : Nat) :
    ReadsTo (byteAt pointer) capture (pointer + 1) (.ok (capture.getD pointer 0)) := by
  refine ⟨fun inside => byteAt_inside inside, fun outside => ?_⟩
  have none : capture[pointer]? = none := List.getElem?_eq_none (by omega)
  simp only [General.byteAt, ReaderT.run, none]

theorem lift {computation outcome : Except Fault α} (ends : computation = outcome) :
    ReadsTo (liftM computation : Scan α) capture 0 outcome :=
  ⟨fun _ => ends, fun short => absurd short (Nat.not_lt_zero _)⟩

theorem bind {scan : Scan α} {next : α → Scan β} {first second last : Nat} {value : α}
    {outcome : Except Fault β} (reads : ReadsTo scan capture first (.ok value))
    (goesOn : ReadsTo (next value) capture second outcome) (last_eq : last = max first second) :
    ReadsTo (scan >>= next) capture last outcome := by
  subst last_eq
  constructor
  · intro inside
    rw [run_bind_ok (reads.inside ((Nat.le_max_left _ _).trans inside))]
    exact goesOn.inside ((Nat.le_max_right _ _).trans inside)
  · intro outside
    rcases lt_or_ge capture.length first with short | enough
    · exact run_bind_error (reads.outside short)
    · rw [run_bind_ok (reads.inside enough)]
      exact goesOn.outside ((lt_max_iff.mp outside).resolve_left (not_lt.mpr enough))

theorem bind_fault {scan : Scan α} (next : α → Scan β) {last : Nat} {fault : Fault}
    (reads : ReadsTo scan capture last (.error fault)) :
    ReadsTo (scan >>= next) capture last (.error fault) :=
  ⟨fun inside => run_bind_error (reads.inside inside),
    fun outside => run_bind_error (reads.outside outside)⟩

theorem map {scan : Scan α} {last : Nat} {outcome : Except Fault α}
    (reads : ReadsTo scan capture last outcome) (change : α → β) :
    ReadsTo (scan >>= fun value => Pure.pure (change value)) capture last
      (outcome.map change) := by
  cases outcome with
  | ok value => exact reads.bind (ReadsTo.pure _) (Nat.max_zero _).symm
  | error fault => exact reads.bind_fault _

section Branch

variable {condition : Prop} [Decidable condition] {first second : Scan α} {last : Nat}
  {outcome : Except Fault α}

theorem thenBranch (holds : condition) (reads : ReadsTo first capture last outcome) :
    ReadsTo (if condition then first else second) capture last outcome := by
  rwa [if_pos holds]

theorem elseBranch (fails : ¬condition) (reads : ReadsTo second capture last outcome) :
    ReadsTo (if condition then first else second) capture last outcome := by
  rwa [if_neg fails]

end Branch

end ReadsTo

end CPE464.General
