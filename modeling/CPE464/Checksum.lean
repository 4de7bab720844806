/-
`in_cksum` of checksum.c on a little-endian machine.  The accumulator is a
signed 32-bit `int`; `wordSum_fits_int` shows that it cannot overflow for any
length the callers' 16-bit sizes can hold, so it is a natural number here.
-/

import CPE464.General.OnesComplement

namespace CPE464

open General

/-- `in_cksum(addr, len)` on the `len` bytes at `addr`. -/
def inCksum (addr : List UInt8) : Nat :=
  let sum := wordSum addr
  -- add hi 16 to low 16, then add the carry
  let sum := sum / 65536 + sum % 65536
  let sum := sum + sum / 65536
  65535 - sum % 65536

theorem inCksum_eq_complementSum (addr : List UInt8) : inCksum addr = complementSum addr := rfl

theorem wordSum_fits_int (addr : List UInt8) (short : addr.length ≤ 65536) :
    wordSum addr < 2 ^ 31 := by
  have bound := wordSum_le addr
  omega

end CPE464
