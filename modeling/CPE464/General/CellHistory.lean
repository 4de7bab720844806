/-
Cells that are written one after the other.  Write number `write`, counted from 0, goes to
cell `place write`, and a cell keeps the last write that went to it.
-/

import CPE464.General.RingSlots

namespace CPE464.General

variable {Cell : Type}

/-- The last of the first `count` writes that went to this cell. -/
def lastWrite (place : Nat → Nat) : Nat → Nat → Option Nat
  | 0, _ => none
  | count + 1, index =>
      if place count = index then some count else lastWrite place count index

theorem lastWrite_eq_some_iff {place : Nat → Nat} {count index write : Nat} :
    lastWrite place count index = some write ↔
      write < count ∧ place write = index ∧
        ∀ later, write < later → later < count → place later ≠ index := by
  induction count with
  | zero => simp [lastWrite]
  | succ count ih =>
      rw [lastWrite]
      split
      · next here =>
          constructor
          · rintro ⟨⟩
            exact ⟨Nat.lt_succ_self _, here, fun later above below => by omega⟩
          · rintro ⟨made, _, kept⟩
            by_contra other
            have earlier : write < count := by
              have different : count ≠ write := fun same => other (congrArg some same)
              omega
            exact kept count earlier (Nat.lt_succ_self _) here
      · next elsewhere =>
          rw [ih]
          constructor
          · rintro ⟨made, here, kept⟩
            refine ⟨Nat.lt_succ_of_lt made, here, ?_⟩
            intro later above below
            rcases Nat.lt_succ_iff_lt_or_eq.mp below with before | rfl
            · exact kept later above before
            · exact elsewhere
          · rintro ⟨made, here, kept⟩
            rcases Nat.lt_succ_iff_lt_or_eq.mp made with before | rfl
            · exact ⟨before, here, fun later above below =>
                kept later above (Nat.lt_succ_of_lt below)⟩
            · exact absurd here elsewhere

theorem lastWrite_eq_none_iff {place : Nat → Nat} {count index : Nat} :
    lastWrite place count index = none ↔ ∀ write, write < count → place write ≠ index := by
  induction count with
  | zero => exact iff_of_true rfl fun _ absent => absurd absent (Nat.not_lt_zero _)
  | succ count ih =>
      rw [lastWrite]
      split
      · next here =>
          exact iff_of_false (fun no => by cases no) fun none =>
            none count (Nat.lt_succ_self _) here
      · next elsewhere =>
          rw [ih]
          refine ⟨fun before write made => ?_, fun all write made =>
            all write (Nat.lt_succ_of_lt made)⟩
          rcases Nat.lt_succ_iff_lt_or_eq.mp made with earlier | rfl
          · exact before write earlier
          · exact elsewhere

/-- The writes listed by what they write: the last one to a cell is the one that none of the
later ones follows there. -/
theorem lastWrite_of_list {Key : Type} {slot : Key → Nat} {keys : List Key} {place : Nat → Nat}
    (places : ∀ write (made : write < keys.length), place write = slot keys[write])
    (index : Nat) (key : Key) :
    (∃ write, lastWrite place keys.length index = some write ∧ keys[write]? = some key) ↔
      ∃ before after, keys = before ++ key :: after ∧ slot key = index ∧
        ∀ other ∈ after, slot other ≠ index := by
  constructor
  · rintro ⟨write, isLast, isKey⟩
    obtain ⟨made, here, kept⟩ := lastWrite_eq_some_iff.mp isLast
    have found : keys[write] = key := (List.getElem?_eq_some_iff.mp isKey).2
    refine ⟨keys.take write, keys.drop (write + 1), ?_, ?_, ?_⟩
    · rw [← found, ← List.drop_eq_getElem_cons made, List.take_append_drop]
    · rw [← found, ← places write made]
      exact here
    · intro other member
      obtain ⟨offset, inside, rfl⟩ := List.mem_iff_getElem.mp member
      rw [List.length_drop] at inside
      rw [List.getElem_drop, ← places _ (by omega)]
      exact kept _ (by omega) (by omega)
  · rintro ⟨before, after, rfl, here, kept⟩
    have found : (before ++ key :: after)[before.length]? = some key := by
      rw [List.getElem?_append_right (Nat.le_refl _), Nat.sub_self, List.getElem?_cons_zero]
    have made := (List.getElem?_eq_some_iff.mp found).1
    refine ⟨before.length, lastWrite_eq_some_iff.mpr ⟨made, ?_, ?_⟩, found⟩
    · rw [places _ made, List.getElem_of_append rfl rfl]
      exact here
    · intro later above inside
      obtain ⟨offset, rfl⟩ := Nat.exists_eq_add_of_lt above
      have isLater : (before ++ key :: after)[before.length + offset + 1] ∈ after := by
        rw [List.getElem_append_right (by omega)]
        simp only [Nat.add_assoc, Nat.add_sub_cancel_left, List.getElem_cons_succ]
        exact List.getElem_mem _
      rw [places _ inside]
      exact kept _ isLater

/-- After `count` writes every cell holds what was last written to it, or is blank. -/
structure Written (place : Nat → Nat) (holds : Nat → Cell → Prop) (blank : Cell → Prop)
    (count : Nat) (cells : Nat → Cell) : Prop where
  last : ∀ index write, lastWrite place count index = some write → holds write (cells index)
  never : ∀ index, lastWrite place count index = none → blank (cells index)

namespace Written

variable {place : Nat → Nat} {holds : Nat → Cell → Prop} {blank : Cell → Prop} {count : Nat}
  {cells : Nat → Cell}

theorem initially (empty : ∀ index, blank (cells index)) :
    Written place holds blank 0 cells where
  last := fun _ _ absent => by cases absent
  never := fun index _ => empty index

theorem write (written : Written place holds blank count cells) {value : Cell}
    (isValue : holds count value) :
    Written place holds blank (count + 1) (setCell cells (place count) value) where
  last := by
    intro index write isLast
    rw [lastWrite] at isLast
    split at isLast
    · next here =>
        obtain rfl := Option.some.inj isLast
        rw [← here, setCell_same]
        exact isValue
    · next elsewhere =>
        rw [setCell_of_ne _ _ (Ne.symm elsewhere)]
        exact written.last index write isLast
  never := by
    intro index untouched
    rw [lastWrite] at untouched
    split at untouched
    · cases untouched
    · next elsewhere =>
        rw [setCell_of_ne _ _ (Ne.symm elsewhere)]
        exact written.never index untouched

theorem mono (written : Written place holds blank count cells)
    {later : Nat → Cell → Prop} {others : Nat → Cell}
    (kept : ∀ index write, holds write (cells index) → later write (others index))
    (stillBlank : ∀ index, blank (cells index) → blank (others index)) :
    Written place later blank count others where
  last := fun index write isLast => kept index write (written.last index write isLast)
  never := fun index untouched => stillBlank index (written.never index untouched)

end Written

end CPE464.General
