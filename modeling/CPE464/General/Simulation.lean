/-
A run of one program followed by runs of another.  Each step of the first is matched by a
permitted run of the second, empty or long, that restores the relation between the two; so every
run of the first is matched as a whole.  A channel from which single items may be lost can lose
everything but a sublist.
-/

import CPE464.General.GuardedRun
import Mathlib.Data.List.Forall2

namespace CPE464.General

variable {State Input : Type}

def Reaches (step : State → Input → State) (holds : State → Input → Prop)
    (start finish : State) : Prop :=
  ∃ inputs, EveryStep step holds start inputs ∧ run step start inputs = finish

section Reaches

variable {step : State → Input → State} {holds : State → Input → Prop} {start middle finish : State}

theorem Reaches.refl (start : State) : Reaches step holds start start := ⟨[], trivial, rfl⟩

theorem Reaches.trans (first : Reaches step holds start middle)
    (second : Reaches step holds middle finish) : Reaches step holds start finish := by
  obtain ⟨inputs, permitted, rfl⟩ := first
  obtain ⟨others, later, rfl⟩ := second
  exact ⟨inputs ++ others, (everyStep_append start inputs others).mpr ⟨permitted, later⟩,
    run_append start inputs others⟩

theorem Reaches.single (input : Input) (permitted : holds start input) :
    Reaches step holds start (step start input) :=
  ⟨[input], ⟨permitted, trivial⟩, rfl⟩

theorem Reaches.invariant {invariant : State → Prop}
    (kept : ∀ state input, invariant state → holds state input → invariant (step state input))
    (reaches : Reaches step holds start finish) (initially : invariant start) :
    invariant finish := by
  obtain ⟨inputs, permitted, rfl⟩ := reaches
  exact run_invariant invariant kept initially permitted

end Reaches

/-! ### Losses -/

section Losses

variable {Item : Type}

theorem foldl_eraseIdx_cons (item : Item) (queue : List Item) (indices : List Nat) :
    (indices.map Nat.succ).foldl List.eraseIdx (item :: queue) =
      item :: indices.foldl List.eraseIdx queue := by
  induction indices generalizing queue with
  | nil => rfl
  | cons index rest ih =>
      simp only [List.map_cons, List.foldl_cons, Nat.succ_eq_add_one, List.eraseIdx_cons_succ]
      exact ih _

theorem erases_of_sublist {kept queue : List Item} (fewer : kept.Sublist queue) :
    ∃ indices, List.foldl List.eraseIdx queue indices = kept := by
  induction fewer with
  | slnil => exact ⟨[], rfl⟩
  | cons item _ ih =>
      obtain ⟨indices, erased⟩ := ih
      exact ⟨0 :: indices, erased⟩
  | cons_cons item _ ih =>
      obtain ⟨indices, erased⟩ := ih
      exact ⟨indices.map Nat.succ, by rw [foldl_eraseIdx_cons, erased]⟩

theorem reaches_of_sublist {step : State → Input → State} {holds : State → Input → Prop}
    (put : List Item → State) (lose : Nat → Input)
    (permitted : ∀ queue index, holds (put queue) (lose index))
    (erases : ∀ queue index, step (put queue) (lose index) = put (queue.eraseIdx index))
    {kept queue : List Item} (fewer : kept.Sublist queue) :
    Reaches step holds (put queue) (put kept) := by
  obtain ⟨indices, rfl⟩ := erases_of_sublist fewer
  clear fewer
  induction indices generalizing queue with
  | nil => exact .refl _
  | cons index rest ih =>
      have first : Reaches step holds (put queue) (put (queue.eraseIdx index)) :=
        erases queue index ▸ .single _ (permitted queue index)
      exact first.trans ih

end Losses

/-! ### Related lists -/

section Related

variable {Left Right : Type} {related : Left → Right → Prop} {lefts : List Left}
  {rights : List Right}

theorem related_found (each : List.Forall₂ related lefts rights) {index : Nat} {left : Left}
    (found : lefts[index]? = some left) :
    ∃ right, rights[index]? = some right ∧ related left right := by
  induction each generalizing index with
  | nil => cases found
  | @cons _ right _ _ here _ ih =>
      cases index with
      | zero =>
          obtain rfl := Option.some.inj found
          exact ⟨right, rfl, here⟩
      | succ index => exact ih found

theorem related_missing (each : List.Forall₂ related lefts rights) {index : Nat}
    (missing : lefts[index]? = none) : rights[index]? = none := by
  rw [List.getElem?_eq_none_iff] at missing ⊢
  exact each.length_eq ▸ missing

theorem related_set (each : List.Forall₂ related lefts rights) (index : Nat) {left : Left}
    {right : Right} (here : related left right) :
    List.Forall₂ related (lefts.set index left) (rights.set index right) := by
  induction each generalizing index with
  | nil => exact .nil
  | cons first rest ih =>
      cases index with
      | zero => exact .cons here rest
      | succ index => exact .cons first (ih index)

theorem related_eraseIdx (each : List.Forall₂ related lefts rights) (index : Nat) :
    List.Forall₂ related (lefts.eraseIdx index) (rights.eraseIdx index) := by
  induction each generalizing index with
  | nil => exact .nil
  | cons first rest ih =>
      cases index with
      | zero => exact rest
      | succ index => exact .cons first (ih index)

theorem related_tail (each : List.Forall₂ related lefts rights) :
    List.Forall₂ related lefts.tail rights.tail := by
  cases each with
  | nil => exact .nil
  | cons _ rest => exact rest

end Related

/-! ### Simulation -/

section Simulation

variable {Concrete Action : Type} {step : State → Input → State} {holds : State → Input → Prop}
  {move : Concrete → Action → Concrete} {allowed : Concrete → Action → Prop}

theorem run_simulates (related : Concrete → State → Prop)
    (matched : ∀ concrete state action, related concrete state → allowed concrete action →
      ∃ later, Reaches step holds state later ∧ related (move concrete action) later)
    {concrete : Concrete} {state : State} {actions : List Action}
    (initially : related concrete state) (each : EveryStep move allowed concrete actions) :
    ∃ finish, Reaches step holds state finish ∧ related (run move concrete actions) finish := by
  induction actions generalizing concrete state with
  | nil => exact ⟨state, .refl state, initially⟩
  | cons action rest ih =>
      obtain ⟨middle, reaches, next⟩ := matched concrete state action initially each.1
      obtain ⟨finish, onward, last⟩ := ih next each.2
      exact ⟨finish, reaches.trans onward, last⟩

end Simulation

end CPE464.General
