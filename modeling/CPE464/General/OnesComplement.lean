/-
The one's-complement sum of a byte string, as Internet checksums use it: the
bytes are added as little-endian 16-bit words, an odd last byte counting as the
low half of a word, and the carries are folded back into the low 16 bits.

A folded sum is all ones exactly when the plain sum is a positive multiple of
65535, which is also when the sum with end-around carry is all ones.  A field
that holds the complement of the rest therefore verifies, and no change of a
single byte can go unnoticed.
-/

import CPE464.General.Bytes

namespace CPE464.General

def wordSum : List UInt8 → Nat
  | [] => 0
  | [last] => last.toNat
  | low :: high :: rest => low.toNat + 256 * high.toNat + wordSum rest

def foldCarries (sum : Nat) : Nat :=
  sum / 65536 + sum % 65536 + (sum / 65536 + sum % 65536) / 65536

def complementSum (bytes : List UInt8) : Nat :=
  65535 - foldCarries (wordSum bytes) % 65536

theorem complementSum_lt (bytes : List UInt8) : complementSum bytes < 65536 := by
  unfold complementSum
  omega

/-! ### The sum -/

theorem wordSum_le (bytes : List UInt8) :
    wordSum bytes ≤ 65535 * ((bytes.length + 1) / 2) := by
  fun_induction wordSum bytes with
  | case1 => simp
  | case2 last =>
      have := last.toNat_lt
      simp only [List.length_singleton]
      omega
  | case3 low high rest ih =>
      have := low.toNat_lt
      have := high.toNat_lt
      simp only [List.length_cons]
      omega

theorem wordSum_append (front back : List UInt8) (even : front.length % 2 = 0) :
    wordSum (front ++ back) = wordSum front + wordSum back := by
  fun_induction wordSum front with
  | case1 => simp
  | case2 last => simp at even
  | case3 low high rest ih =>
      simp only [List.length_cons] at even
      have restSum := ih (by omega)
      simp only [List.cons_append, wordSum, restSum]
      omega

theorem wordSum_pos_of_mem {bytes : List UInt8} {byte : UInt8} (member : byte ∈ bytes)
    (nonzero : byte ≠ 0) : 0 < wordSum bytes := by
  have positive : 0 < byte.toNat :=
    Nat.pos_of_ne_zero (fun zero => nonzero (UInt8.toNat_inj.mp zero))
  fun_induction wordSum bytes with
  | case1 => cases member
  | case2 last =>
      rw [List.mem_singleton] at member
      rwa [← member]
  | case3 low high rest ih =>
      rcases List.mem_cons.mp member with isLow | later
      · rw [isLow] at positive
        omega
      · rcases List.mem_cons.mp later with isHigh | inRest
        · rw [isHigh] at positive
          omega
        · have tail := ih inRest
          omega

def byteWeight (index : Nat) : Nat :=
  if index % 2 = 0 then 1 else 256

theorem byteWeight_add_two (index : Nat) : byteWeight (index + 2) = byteWeight index := by
  simp only [byteWeight, Nat.add_mod_right]

theorem wordSum_set (bytes : List UInt8) (index : Nat) (inside : index < bytes.length)
    (value : UInt8) :
    wordSum (bytes.set index value) + byteWeight index * bytes[index].toNat =
      wordSum bytes + byteWeight index * value.toNat := by
  fun_induction wordSum bytes generalizing index with
  | case1 => simp at inside
  | case2 last =>
      have first : index = 0 := by simpa using inside
      subst first
      simp only [List.set_cons_zero, wordSum, byteWeight, List.getElem_cons_zero,
        Nat.zero_mod, if_true]
      omega
  | case3 low high rest ih =>
      match index with
      | 0 =>
          simp only [List.set_cons_zero, wordSum, byteWeight, List.getElem_cons_zero,
            Nat.zero_mod, if_true]
          omega
      | 1 =>
          have odd : byteWeight 1 = 256 := rfl
          simp only [List.set_cons_succ, List.set_cons_zero, wordSum, odd,
            List.getElem_cons_succ, List.getElem_cons_zero]
          omega
      | index + 2 =>
          have deeper := ih index (by simp only [List.length_cons] at inside; omega)
          simp only [List.set_cons_succ, wordSum, List.getElem_cons_succ,
            byteWeight_add_two]
          omega

/-! ### Folding -/

theorem foldCarries_low (sum : Nat) (small : sum < 2 ^ 32) :
    foldCarries sum % 65536 =
      if sum / 65536 + sum % 65536 < 65536 then sum / 65536 + sum % 65536
      else sum / 65536 + sum % 65536 - 65535 := by
  have high : sum / 65536 ≤ 65535 := by omega
  have low : sum % 65536 ≤ 65535 := by omega
  have bound : sum / 65536 + sum % 65536 ≤ 131070 := Nat.add_le_add high low
  unfold foldCarries
  generalize sum / 65536 + sum % 65536 = folded at *
  split
  · have noCarry : folded / 65536 = 0 := by omega
    rw [noCarry, Nat.add_zero]
    omega
  · have oneCarry : folded / 65536 = 1 := by omega
    rw [oneCarry]
    omega

theorem foldCarries_mod (sum : Nat) (small : sum < 2 ^ 32) :
    foldCarries sum % 65536 % 65535 = sum % 65535 := by
  have split := Nat.div_add_mod sum 65536
  rw [foldCarries_low sum small]
  generalize sum / 65536 = high at *
  generalize sum % 65536 = low at *
  split <;> omega

theorem foldCarries_allOnes_iff (sum : Nat) (small : sum < 2 ^ 32) :
    foldCarries sum % 65536 = 65535 ↔ 0 < sum ∧ sum % 65535 = 0 := by
  have split := Nat.div_add_mod sum 65536
  have low : sum % 65536 < 65536 := Nat.mod_lt _ (by decide)
  have high : sum / 65536 < 65536 := by omega
  rw [foldCarries_low sum small]
  generalize sum / 65536 = high at *
  generalize sum % 65536 = low at *
  split <;> omega

theorem complementSum_eq_zero_iff (bytes : List UInt8) (small : wordSum bytes < 2 ^ 32) :
    complementSum bytes = 0 ↔ 0 < wordSum bytes ∧ wordSum bytes % 65535 = 0 := by
  rw [← foldCarries_allOnes_iff _ small]
  unfold complementSum
  omega

theorem complementSum_stamped (front back : List UInt8) (even : front.length % 2 = 0)
    (nonzero : 0 < wordSum (front ++ [0, 0] ++ back))
    (small : wordSum (front ++ [0, 0] ++ back) < 2 ^ 31) :
    complementSum
      (front ++ littleEndian16 (complementSum (front ++ [0, 0] ++ back)) ++ back) = 0 := by
  have bound := complementSum_lt (front ++ [0, 0] ++ back)
  have field (low high : UInt8) : wordSum (front ++ [low, high] ++ back) =
      wordSum front + (low.toNat + 256 * high.toNat) + wordSum back := by
    have evenField : (front ++ [low, high]).length % 2 = 0 := by
      simp only [List.length_append, List.length_cons, List.length_nil]
      omega
    rw [wordSum_append _ _ evenField, wordSum_append _ _ even]
    simp only [wordSum, Nat.add_zero]
  have stamped : wordSum
      (front ++ littleEndian16 (complementSum (front ++ [0, 0] ++ back)) ++ back) =
        wordSum (front ++ [0, 0] ++ back) + complementSum (front ++ [0, 0] ++ back) := by
    simp only [littleEndian16]
    rw [field, field]
    simp only [UInt8.toNat_ofNat', UInt8.toNat_zero]
    omega
  have folded := foldCarries_mod (wordSum (front ++ [0, 0] ++ back)) (by omega)
  rw [complementSum_eq_zero_iff _ (by omega), stamped]
  unfold complementSum at *
  omega

/-- A string that verifies no longer does once one of its bytes is changed. -/
theorem complementSum_set_ne_zero (bytes : List UInt8) (small : bytes.length ≤ 65535)
    (verifies : complementSum bytes = 0) (index : Nat) (inside : index < bytes.length)
    (value : UInt8) (changed : value ≠ bytes[index]) :
    complementSum (bytes.set index value) ≠ 0 := by
  have oldBound := wordSum_le bytes
  have newBound := wordSum_le (bytes.set index value)
  rw [List.length_set] at newBound
  have oldSum := (complementSum_eq_zero_iff bytes (by omega)).mp verifies
  intro accepted
  have newSum := (complementSum_eq_zero_iff (bytes.set index value) (by omega)).mp accepted
  have moved := wordSum_set bytes index inside value
  have different : value.toNat ≠ bytes[index].toNat :=
    fun same => changed (UInt8.toNat_inj.mp same)
  have := value.toNat_lt
  have := bytes[index].toNat_lt
  unfold byteWeight at moved
  split at moved <;> omega

/-! ### End-around carry -/

def endAroundAdd (left right : Nat) : Nat :=
  if left + right < 65536 then left + right else left + right - 65535

/-- The one's-complement sum of the network-order 16-bit words of `bytes`, which are padded
with a zero byte to a whole number of words. -/
def endAroundSum : List UInt8 → Nat
  | [] => 0
  | [last] => 256 * last.toNat
  | high :: low :: rest => endAroundAdd (256 * high.toNat + low.toNat) (endAroundSum rest)

/-- Swapping the bytes of every word multiplies the sum by 256, and no carry is lost. -/
theorem endAroundSum_spec (bytes : List UInt8) :
    endAroundSum bytes < 65536 ∧
      endAroundSum bytes % 65535 = 256 * wordSum bytes % 65535 ∧
      (endAroundSum bytes = 0 ↔ wordSum bytes = 0) := by
  fun_induction endAroundSum bytes with
  | case1 => simp [wordSum]
  | case2 last =>
      have := last.toNat_lt
      simp only [wordSum, true_and]
      omega
  | case3 high low rest ih =>
      have := high.toNat_lt
      have := low.toNat_lt
      simp only [wordSum, endAroundAdd]
      split <;> omega

/-- The checksum of a string is zero exactly when its one's-complement sum is all ones, on
a machine of either byte order. -/
theorem complementSum_eq_zero_iff_endAroundSum (bytes : List UInt8)
    (small : wordSum bytes < 2 ^ 32) :
    complementSum bytes = 0 ↔ endAroundSum bytes = 65535 := by
  have spec := endAroundSum_spec bytes
  rw [complementSum_eq_zero_iff bytes small]
  omega

def internetChecksum (bytes : List UInt8) : Nat := 65535 - endAroundSum bytes

theorem endAroundSum_stamped (front back : List UInt8) (even : front.length % 2 = 0) :
    endAroundSum (front ++ htons (internetChecksum (front ++ [0, 0] ++ back)) ++ back) =
      65535 := by
  have cleared := endAroundSum_spec (front ++ [0, 0] ++ back)
  have stamped := endAroundSum_spec
    (front ++ htons (internetChecksum (front ++ [0, 0] ++ back)) ++ back)
  have field (high low : UInt8) : wordSum (front ++ [high, low] ++ back) =
      wordSum front + (high.toNat + 256 * low.toNat) + wordSum back := by
    have evenField : (front ++ [high, low]).length % 2 = 0 := by
      simp only [List.length_append, List.length_cons, List.length_nil]
      omega
    rw [wordSum_append _ _ evenField, wordSum_append _ _ even]
    simp only [wordSum, Nat.add_zero]
  rw [field] at cleared
  unfold internetChecksum at stamped ⊢
  generalize endAroundSum (front ++ [0, 0] ++ back) = sum at *
  simp only [htons, littleEndian16, List.reverse_cons, List.reverse_nil, List.nil_append,
    List.singleton_append] at stamped ⊢
  rw [field] at stamped
  simp only [UInt8.toNat_ofNat', UInt8.toNat_zero] at cleared stamped
  -- the field is all that the clear string lacks
  have value : 256 * ((65535 - sum) / 2 ^ 8 % 2 ^ 8) + (65535 - sum) % 2 ^ 8 = 65535 - sum := by
    omega
  generalize (65535 - sum) / 2 ^ 8 % 2 ^ 8 = high at *
  generalize (65535 - sum) % 2 ^ 8 = low at *
  have swapped : 256 * (wordSum front + (high + 256 * low) + wordSum back) =
      256 * (wordSum front + (0 + 256 * 0) + wordSum back) + (65535 - sum) + 65535 * low := by
    omega
  rw [swapped, Nat.add_mul_mod_self_left] at stamped
  omega

end CPE464.General
