import Mathlib.Tactic.Lemma
import Mathlib.Data.Nat.Notation
import Mathlib.Data.Nat.Log
import Mathlib.Algebra.Ring.Nat

/-!
IEEE 754 binary formats as bit patterns.

A number is its bits. `widen` reads a format with `eb` exponent and `mb` mantissa bits as a
double, which is exact; `toSingle` rounds a double to nearest, ties to even.
-/

namespace Sativa

/-- A double, as its 64 bits. -/
abbrev Double := UInt64

namespace Ieee

/-- The exponent field is all ones and the mantissa is not zero. -/
def isNaN (eb mb : ℕ) (bits : ℕ) : Bool :=
  (bits / 2 ^ mb) % 2 ^ eb == 2 ^ eb - 1 && bits % 2 ^ mb != 0

def isNaN64 (d : Double) : Bool := isNaN 11 52 d.toNat
def isNaN32 (d : UInt32) : Bool := isNaN 8 23 d.toNat
def isNaN16 (d : UInt16) : Bool := isNaN 5 10 d.toNat

def negZero : Double := 0x8000000000000000

/-- The double with the value of `bits` in the format with `eb` exponent bits and `mb`
mantissa bits. A NaN becomes a quiet NaN with the same payload. -/
def widen (eb mb : ℕ) (bits : ℕ) : Double :=
  let sign := bits / 2 ^ (eb + mb) % 2 * 2 ^ 63
  let e := bits / 2 ^ mb % 2 ^ eb
  let m := bits % 2 ^ mb
  let bias := 2 ^ (eb - 1) - 1
  if e = 2 ^ eb - 1 then
    UInt64.ofNat (sign + 2047 * 2 ^ 52 + (if m = 0 then 0 else 2 ^ 51 ||| m * 2 ^ (52 - mb)))
  else if e = 0 then
    if m = 0 then UInt64.ofNat sign
    else
      -- subnormal: `m * 2 ^ (1 - bias - mb)` with its leading bit at `k`
      let k := Nat.log2 m
      UInt64.ofNat (sign + (1024 + k - bias - mb) * 2 ^ 52 + (m - 2 ^ k) * 2 ^ (52 - k))
  else UInt64.ofNat (sign + (1023 + e - bias) * 2 ^ 52 + m * 2 ^ (52 - mb))

def ofHalf (b : UInt16) : Double := widen 5 10 b.toNat
def ofSingle (b : UInt32) : Double := widen 8 23 b.toNat

/-- `q`, one more if the `r` of `2 ^ sh` that is cut off calls for it. -/
def roundEven (q r sh : ℕ) : ℕ :=
  if 2 ^ (sh - 1) < r ∨ (r = 2 ^ (sh - 1) ∧ q % 2 = 1) then q + 1 else q

/-- `(float) d`. -/
def toSingle (d : Double) : UInt32 :=
  let bits := d.toNat
  let sign := bits / 2 ^ 63 * 2 ^ 31
  let e := bits / 2 ^ 52 % 2048
  let m := bits % 2 ^ 52
  if e = 2047 then
    UInt32.ofNat (sign + 255 * 2 ^ 23 + (if m = 0 then 0 else 2 ^ 22 ||| m / 2 ^ 29))
  else
    let sig := if e = 0 then m else m + 2 ^ 52
    -- at exponent `897` and above the result is normal; below it the cut grows
    let sh := if 897 ≤ e then 29 else 29 + (897 - max e 1)
    let q := roundEven (sig / 2 ^ sh) (sig % 2 ^ sh) sh
    let r := if 897 ≤ e then (e - 897) * 2 ^ 23 + q else q
    UInt32.ofNat (sign + min r (255 * 2 ^ 23))

end Ieee

end Sativa
