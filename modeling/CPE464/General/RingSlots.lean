/-
A ring of cells addressed by ever growing numbers.  Number `n` lives in cell
`n % size`, so a window of at most `size` consecutive numbers never shares a
cell, and a loop that sweeps a range of numbers changes exactly the cells those
numbers live in.
-/

import Mathlib.Tactic

namespace CPE464.General

variable {Cell : Type}

def setCell (cells : Nat → Cell) (index : Nat) (value : Cell) : Nat → Cell :=
  fun other => if other = index then value else cells other

@[simp] theorem setCell_same (cells : Nat → Cell) (index : Nat) (value : Cell) :
    setCell cells index value index = value := if_pos rfl

theorem setCell_of_ne (cells : Nat → Cell) (value : Cell) {index other : Nat}
    (different : other ≠ index) : setCell cells index value other = cells other :=
  if_neg different

def sweep (size : Nat) (change : Cell → Cell) (cells : Nat → Cell) (first : Nat) :
    Nat → (Nat → Cell)
  | 0 => cells
  | count + 1 =>
      sweep size change
        (setCell cells (first % size) (change (cells (first % size)))) (first + 1) count

theorem sweep_miss (size : Nat) (change : Cell → Cell) (cells : Nat → Cell)
    (first count index : Nat)
    (missed : ∀ number, first ≤ number → number < first + count → number % size ≠ index) :
    sweep size change cells first count index = cells index := by
  induction count generalizing cells first with
  | zero => rfl
  | succ count ih =>
      have here := missed first (Nat.le_refl first) (by omega)
      rw [sweep, ih]
      · exact setCell_of_ne _ _ (Ne.symm here)
      · intro number above below
        exact missed number (by omega) (by omega)

/-- A cell that is swept is changed; sweeping it again makes no difference when
the change is idempotent. -/
theorem sweep_hit (size : Nat) (change : Cell → Cell)
    (idempotent : ∀ cell, change (change cell) = change cell) (cells : Nat → Cell)
    (first count index : Nat)
    (hit : ∃ number, first ≤ number ∧ number < first + count ∧ number % size = index) :
    sweep size change cells first count index = change (cells index) := by
  induction count generalizing cells first with
  | zero =>
      obtain ⟨number, above, below, _⟩ := hit
      omega
  | succ count ih =>
      rw [sweep]
      by_cases later : ∃ number, first + 1 ≤ number ∧ number < first + 1 + count ∧
          number % size = index
      · rw [ih _ _ later]
        by_cases here : index = first % size
        · rw [here, setCell_same, idempotent]
        · rw [setCell_of_ne _ _ here]
      · have here : first % size = index := by
          obtain ⟨number, above, below, atIndex⟩ := hit
          by_cases isFirst : number = first
          · rw [← isFirst, atIndex]
          · exact absurd ⟨number, by omega, by omega, atIndex⟩ later
        rw [sweep_miss, ← here, setCell_same]
        intro number above below atIndex
        exact later ⟨number, above, below, atIndex⟩

theorem sweep_keeps {Value : Type} (field : Cell → Value) (size : Nat) (change : Cell → Cell)
    (kept : ∀ cell, field (change cell) = field cell) (cells : Nat → Cell)
    (first count index : Nat) :
    field (sweep size change cells first count index) = field (cells index) := by
  induction count generalizing cells first with
  | zero => rfl
  | succ count ih =>
      rw [sweep, ih]
      by_cases here : index = first % size
      · rw [here, setCell_same, kept]
      · rw [setCell_of_ne _ _ here]

theorem sweep_survivor (property : Cell → Bool) (size : Nat) (change : Cell → Cell)
    (lost : ∀ cell, property (change cell) = false) (cells : Nat → Cell)
    (first count index : Nat)
    (survives : property (sweep size change cells first count index) = true) :
    sweep size change cells first count index = cells index := by
  induction count generalizing cells first with
  | zero => rfl
  | succ count ih =>
      rw [sweep] at survives ⊢
      have kept := ih _ _ survives
      rw [kept] at survives ⊢
      by_cases here : index = first % size
      · rw [here, setCell_same, lost] at survives
        cases survives
      · exact setCell_of_ne _ _ here

/-! ### Numbers and cells -/

theorem eq_of_mod_eq {size low high : Nat} (ordered : low ≤ high)
    (near : high < low + size) (sameCell : low % size = high % size) : low = high := by
  have divides : size ∣ high - low :=
    (Nat.modEq_iff_dvd' ordered).mp sameCell
  have gap : high - low = 0 := Nat.eq_zero_of_dvd_of_lt divides (by omega)
  omega

theorem mod_ne_of_near {size low high : Nat} (before : low < high)
    (near : high < low + size) : low % size ≠ high % size :=
  fun sameCell => Nat.ne_of_lt before (eq_of_mod_eq (Nat.le_of_lt before) near sameCell)

end CPE464.General
