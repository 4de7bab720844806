/-
checksum.c of the trace program, on a little-endian machine.

The accumulator is an `int` that only grows, so a sum past INT_MAX is the one fault.
-/

import CPE464.General.Capture
import CPE464.General.OnesComplement

namespace CPE464.P1

open General

def addInt (sum word : Nat) : Except Fault Nat :=
  if sum + word < 2 ^ 31 then .ok (sum + word) else .error .overflow

def addWords (sum : Nat) : List UInt8 → Except Fault Nat
  | [] => .ok sum
  -- mop up an odd byte
  | [last] => addInt sum last.toNat
  | low :: high :: rest => do
      let sum ← addInt sum (low.toNat + 256 * high.toNat)
      addWords sum rest

def inCksum (addr : List UInt8) : Except Fault Nat := do
  let sum ← addWords 0 addr
  let sum := sum / 65536 + sum % 65536
  let sum := sum + sum / 65536
  return 65535 - sum % 65536

theorem addWords_eq (sum : Nat) (bytes : List UInt8) (fits : sum < 2 ^ 31) :
    addWords sum bytes =
      if sum + wordSum bytes < 2 ^ 31 then .ok (sum + wordSum bytes) else .error .overflow := by
  fun_induction addWords sum bytes with
  | case1 sum => exact (if_pos fits).symm
  | case2 sum last => rfl
  | case3 sum low high rest ih =>
      rw [wordSum, ← Nat.add_assoc]
      rcases lt_or_ge (sum + (low.toNat + 256 * high.toNat)) (2 ^ 31) with small | large
      · have next := ih _ small
        simp only [addInt, if_pos small]
        exact next
      · have overflows : ¬sum + (low.toNat + 256 * high.toNat) + wordSum rest < 2 ^ 31 := by
          omega
        simp only [addInt, if_neg (not_lt.mpr large), if_neg overflows]
        rfl

/-- The accumulator overflows exactly when the sum of the words is no `int`. -/
theorem inCksum_eq (bytes : List UInt8) :
    inCksum bytes =
      if wordSum bytes < 2 ^ 31 then .ok (complementSum bytes) else .error .overflow := by
  rw [inCksum, addWords_eq 0 bytes (by decide), Nat.zero_add]
  split <;> rfl

theorem inCksum_ok {bytes : List UInt8} (short : bytes.length ≤ 65536) :
    inCksum bytes = .ok (complementSum bytes) := by
  have bound := wordSum_le bytes
  rw [inCksum_eq, if_pos (by omega)]

end CPE464.P1
