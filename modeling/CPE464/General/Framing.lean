/-
Items on a stream, one behind the other.

`put` writes an item in front of a stream and `read` takes one item off it.  A reader that
undoes the writer for each of some items reads them back in order, whatever follows them,
and after any number of reads the items that are left are still whole.
-/

import Mathlib.Data.List.Basic

namespace CPE464.General

variable {σ α β : Type}

/-- Read `count` items, one after the other.  There is no result where a read has none. -/
def readEach (read : σ → Option (β × σ)) : Nat → σ → Option (List β × σ)
  | 0, stream => some ([], stream)
  | count + 1, stream =>
      (read stream).bind fun first =>
        (readEach read count first.2).map fun others => (first.1 :: others.1, others.2)

theorem readEach_foldr {read : σ → Option (β × σ)} {put : α → σ → σ} {view : α → β}
    {items : List α} {later : σ}
    (undoes : ∀ item ∈ items, ∀ stream, read (put item stream) = some (view item, stream))
    {count : Nat} (enough : count ≤ items.length) :
    readEach read count (items.foldr put later) =
      some ((items.take count).map view, (items.drop count).foldr put later) := by
  induction items generalizing count with
  | nil =>
      have none : count = 0 := by simpa using enough
      subst none
      rfl
  | cons first others ih =>
      cases count with
      | zero => rfl
      | succ count =>
          have taken := undoes first List.mem_cons_self (others.foldr put later)
          have following := ih (fun item member => undoes item (List.mem_cons_of_mem _ member))
            (Nat.le_of_succ_le_succ enough)
          rw [List.foldr_cons, readEach, taken]
          simp only [Option.bind_some, following, Option.map_some, List.take_succ_cons,
            List.map_cons, List.drop_succ_cons]

end CPE464.General
