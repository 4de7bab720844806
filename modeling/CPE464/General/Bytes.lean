/-
Byte memory: overwriting a block of a fixed-size object, and the two integer
encodings that network code mixes.  `overwrite` is `memcpy` into an object of
known size; a write that would leave the object is cut at its end.
-/

import Mathlib.Data.List.Basic
import Mathlib.Tactic

namespace CPE464.General

section Overwrite

variable {α : Type}

/-- Copy `data` over `memory` from `offset` on.  The object keeps its size. -/
def overwrite (memory : List α) (offset : Nat) (data : List α) : List α :=
  (memory.take offset ++ data ++ memory.drop (offset + data.length)).take memory.length

@[simp] theorem overwrite_length (memory : List α) (offset : Nat) (data : List α) :
    (overwrite memory offset data).length = memory.length := by
  simp only [overwrite, List.length_take, List.length_append, List.length_drop]
  omega

theorem overwrite_append (front old back data : List α) (offset : Nat)
    (atBlock : offset = front.length) (sameSize : data.length = old.length) :
    overwrite (front ++ old ++ back) offset data = front ++ data ++ back := by
  subst atBlock
  have before : (front ++ old ++ back).take front.length = front := by
    rw [List.append_assoc, List.take_left]
  have after : (front ++ old ++ back).drop (front.length + data.length) = back := by
    rw [sameSize, ← List.length_append, List.drop_left]
  rw [overwrite, before, after]
  apply List.take_of_length_le
  simp only [List.length_append]
  omega

theorem overwrite_append_right (front back data : List α) (offset index : Nat)
    (shifted : offset = front.length + index) :
    overwrite (front ++ back) offset data = front ++ overwrite back index data := by
  subst shifted
  rw [overwrite, overwrite, List.take_length_add_append, Nat.add_assoc,
    List.drop_length_add_append, List.append_assoc, List.append_assoc, List.append_assoc,
    List.length_append, List.take_length_add_append]

theorem overwrite_zero_take (memory data : List α) (fits : data.length ≤ memory.length) :
    (overwrite memory 0 data).take data.length = data := by
  simp only [overwrite, List.take_zero, List.nil_append, List.take_take,
    Nat.min_eq_left fits]
  exact List.take_left

theorem overwrite_singleton (memory : List α) (offset : Nat) (value : α)
    (inside : offset < memory.length) :
    overwrite memory offset [value] = memory.set offset value := by
  rw [List.set_eq_take_append_cons_drop, if_pos inside, overwrite]
  simp only [List.length_singleton, List.append_assoc, List.singleton_append]
  apply List.take_of_length_le
  simp only [List.length_append, List.length_take, List.length_cons, List.length_drop]
  omega

end Overwrite

/-! ### Integers in memory -/

def htonl (number : Nat) : List UInt8 :=
  [UInt8.ofNat (number / 2 ^ 24), UInt8.ofNat (number / 2 ^ 16),
    UInt8.ofNat (number / 2 ^ 8), UInt8.ofNat number]

def ntohl : List UInt8 → Nat
  | first :: second :: third :: fourth :: _ =>
      first.toNat * 2 ^ 24 + second.toNat * 2 ^ 16 + third.toNat * 2 ^ 8 + fourth.toNat
  | _ => 0

/-- The two bytes of a 16-bit number as a little-endian machine stores it. -/
def littleEndian16 (number : Nat) : List UInt8 :=
  [UInt8.ofNat number, UInt8.ofNat (number / 2 ^ 8)]

def ntohs : List UInt8 → Nat
  | first :: second :: _ => first.toNat * 2 ^ 8 + second.toNat
  | _ => 0

def htons (number : Nat) : List UInt8 := (littleEndian16 number).reverse

/-- The value of an `int` after it was stored in a `uint16_t`. -/
def wrap16 (value : Int) : Nat := (value % 65536).toNat

@[simp] theorem htonl_length (number : Nat) : (htonl number).length = 4 := rfl

@[simp] theorem littleEndian16_length (number : Nat) : (littleEndian16 number).length = 2 := rfl

@[simp] theorem htons_length (number : Nat) : (htons number).length = 2 := rfl

theorem wrap16_eq_iff (value : Int) : (wrap16 value : Int) = value ↔ 0 ≤ value ∧ value < 65536 := by
  unfold wrap16
  omega

theorem ntohs_lt (bytes : List UInt8) : ntohs bytes < 65536 := by
  match bytes with
  | first :: second :: _ =>
      have := first.toNat_lt
      have := second.toNat_lt
      simp only [ntohs]
      omega
  | [] => simp only [ntohs]; omega
  | [_] => simp only [ntohs]; omega

theorem ntohl_lt (bytes : List UInt8) : ntohl bytes < 2 ^ 32 := by
  match bytes with
  | first :: second :: third :: fourth :: _ =>
      have := first.toNat_lt
      have := second.toNat_lt
      have := third.toNat_lt
      have := fourth.toNat_lt
      simp only [ntohl]
      omega
  | [] => simp only [ntohl]; omega
  | [_] => simp only [ntohl]; omega
  | [_, _] => simp only [ntohl]; omega
  | [_, _, _] => simp only [ntohl]; omega

theorem ntohl_htonl_append (number : Nat) (rest : List UInt8) :
    ntohl (htonl number ++ rest) = number % 2 ^ 32 := by
  simp only [htonl, List.cons_append, ntohl, UInt8.toNat_ofNat']
  omega

theorem ntohl_htonl (number : Nat) : ntohl (htonl number) = number % 2 ^ 32 := by
  have read := ntohl_htonl_append number []
  rwa [List.append_nil] at read

theorem ntohs_swapped_append (number : Nat) (rest : List UInt8) :
    ntohs ((littleEndian16 number).reverse ++ rest) = number % 2 ^ 16 := by
  simp only [littleEndian16, List.reverse_cons, List.reverse_nil, List.nil_append,
    List.cons_append, ntohs, UInt8.toNat_ofNat']
  omega

theorem ntohl_replicate_zero (count : Nat) : ntohl (List.replicate count 0) = 0 := by
  match count with
  | 0 | 1 | 2 | 3 => rfl
  | _ + 4 => simp [List.replicate_succ, ntohl]

theorem ntohl_take (bytes : List UInt8) (count : Nat) (enough : 4 ≤ count) :
    ntohl (bytes.take count) = ntohl bytes := by
  obtain ⟨extra, rfl⟩ := Nat.exists_eq_add_of_le' enough
  match bytes with
  | [] => simp
  | [_] => simp [ntohl]
  | [_, _] => simp [ntohl]
  | [_, _, _] => simp [ntohl]
  | _ :: _ :: _ :: _ :: _ => simp [ntohl]

theorem ntohs_take (bytes : List UInt8) (count : Nat) (enough : 2 ≤ count) :
    ntohs (bytes.take count) = ntohs bytes := by
  obtain ⟨extra, rfl⟩ := Nat.exists_eq_add_of_le' enough
  match bytes with
  | [] => simp
  | [_] => simp [ntohs]
  | _ :: _ :: _ => simp [ntohs]

end CPE464.General
