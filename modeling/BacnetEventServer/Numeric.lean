import Mathlib.Algebra.Order.Field.Basic
import Mathlib.Algebra.Order.Ring.Cast
import Mathlib.Data.Rat.Cast.Order
import Mathlib.Tactic.FieldSimp
import Mathlib.Tactic.Positivity
import Mathlib.Tactic.Ring

namespace BacnetEventServer

/-- A C `double`, kept as the exact rational it denotes: numerator over a positive
denominator, not reduced, so that the kernel can evaluate it. Rounding of double
arithmetic is not modelled; the roundings the code depends on (`(float)`, `%f`, the
integer conversions) are. -/
structure CDouble where
  num : Int
  den : Nat
  den_pos : 0 < den
  deriving DecidableEq, Repr

namespace CDouble

def ofInt (n : Int) : CDouble := ⟨n, 1, Nat.one_pos⟩

/-- The rational a double stands for. -/
def val (x : CDouble) : ℚ := x.num / x.den

def sub (x y : CDouble) : CDouble :=
  ⟨x.num * y.den - y.num * x.den, x.den * y.den, Nat.mul_pos x.den_pos y.den_pos⟩

/-- `fabs`. -/
def abs (x : CDouble) : CDouble := ⟨x.num.natAbs, x.den, x.den_pos⟩

/-- `x <= y` on the values. -/
def le (x y : CDouble) : Bool := decide (x.num * y.den ≤ y.num * x.den)

/-- `x == y` on the values (the C comparison, not the structural one). -/
def eqv (x y : CDouble) : Bool := decide (x.num * y.den = y.num * x.den)

/-- The conversion toward zero that every C cast from `double` to an integer starts with. -/
def trunc (x : CDouble) : Int := x.num.tdiv x.den

theorem den_pos_rat (x : CDouble) : (0 : ℚ) < x.den := Nat.cast_pos.mpr x.den_pos

@[simp] theorem val_ofInt (n : Int) : (ofInt n).val = n := by simp [ofInt, val]

theorem val_sub (x y : CDouble) : (x.sub y).val = x.val - y.val := by
  have hx := x.den_pos_rat
  have hy := y.den_pos_rat
  simp only [sub, val, Nat.cast_mul, Int.cast_sub, Int.cast_mul, Int.cast_natCast]
  field_simp
  ring

theorem val_abs (x : CDouble) : x.abs.val = |x.val| := by
  rw [val, val, abs_div, abs_of_pos x.den_pos_rat]
  simp [abs, Int.cast_natAbs]

theorem le_iff (x y : CDouble) : x.le y = true ↔ x.val ≤ y.val := by
  have hx := x.den_pos_rat
  have hy := y.den_pos_rat
  simp only [le, decide_eq_true_eq, val]
  rw [div_le_div_iff₀ hx hy]
  exact_mod_cast Iff.rfl

theorem eqv_iff (x y : CDouble) : x.eqv y = true ↔ x.val = y.val := by
  have hx := x.den_pos_rat
  have hy := y.den_pos_rat
  simp only [eqv, decide_eq_true_eq, val]
  rw [div_eq_div_iff hx.ne' hy.ne']
  exact_mod_cast Iff.rfl

end CDouble

/-- `n / d` rounded to the nearest integer, ties to even (IEEE rounding and glibc's
`printf`). -/
def roundHalfEven (n d : Nat) : Nat :=
  if 2 * (n % d) > d ∨ (2 * (n % d) = d ∧ n / d % 2 = 1) then n / d + 1 else n / d

/-- `%f` prints a value rounded to six decimals; reading the text back gives that decimal. -/
def printfFixed6 (x : CDouble) : CDouble :=
  let m := roundHalfEven (x.num.natAbs * 10 ^ 6) x.den
  ⟨if x.num < 0 then -(m : Int) else m, 10 ^ 6, by positivity⟩

/-- The double nearest to a 64-bit integer: what cJSON stores for an integer literal
(exact below `2 ^ 53`, rounded to 53 significant bits above). -/
def doubleOfInt (n : Int) : CDouble :=
  let a : Nat := n.natAbs
  let s : Nat := ((List.range 64).filter (fun s => 2 ^ (53 + s) ≤ a)).length
  let m : Nat := roundHalfEven a (2 ^ s) * 2 ^ s
  CDouble.ofInt (if n < 0 then -(m : Int) else m)

/-- `(int)` and `(int32_t)`: `cvttsd2si` on 32 bits, as x86-64 gcc compiles them. C leaves an
out-of-range conversion undefined; the instruction truncates toward zero and yields the
lowest signed value when the result does not fit. -/
def castInt32 (x : CDouble) : Int :=
  if -2 ^ 31 ≤ x.trunc ∧ x.trunc < 2 ^ 31 then x.trunc else -2 ^ 31

/-- `(long)` and `(time_t)`: `cvttsd2si` on 64 bits. -/
def castInt64 (x : CDouble) : Int :=
  if -2 ^ 63 ≤ x.trunc ∧ x.trunc < 2 ^ 63 then x.trunc else -2 ^ 63

/-- `(uint32_t)` and `(unsigned int)`: the low 32 bits of the 64-bit conversion. -/
def castUInt32 (x : CDouble) : Nat := (castInt64 x % 2 ^ 32).toNat

/-- `(uint8_t)`: the low byte of the 32-bit conversion. -/
def castUInt8 (x : CDouble) : Nat := (castInt32 x % 2 ^ 8).toNat

/-- `(uint64_t)`: values from `2 ^ 63` go through the subtract-and-flip sequence gcc emits. -/
def castUInt64 (x : CDouble) : Nat :=
  if 2 ^ 63 ≤ x.trunc ∧ x.trunc < 2 ^ 64 then x.trunc.toNat
  else (castInt64 x % 2 ^ 64).toNat

/-- A C `float`, as its 32-bit pattern (the code reads it through a union as an integer). -/
structure CFloat where
  bits : UInt32
  deriving DecidableEq, Repr

namespace CFloat

def exponentField (f : CFloat) : Nat := f.bits.toNat / 2 ^ 23 % 2 ^ 8

def mantissaField (f : CFloat) : Nat := f.bits.toNat % 2 ^ 23

def negative (f : CFloat) : Bool := 2 ^ 31 ≤ f.bits.toNat

/-- Neither an infinity nor a NaN. -/
def isFinite (f : CFloat) : Bool := f.exponentField != 255

/-- The exact value of a finite float (promotion to `double` is exact). -/
def toDouble (f : CFloat) : CDouble :=
  let mag : Nat := if f.exponentField = 0 then f.mantissaField * 2
    else (2 ^ 23 + f.mantissaField) * 2 ^ f.exponentField
  ⟨if f.negative then -(mag : Int) else mag, 2 ^ 150, by positivity⟩

/-- The largest biased exponent `e ≤ 254` with `2 ^ (e - 127) ≤ a / b`, searched by halving
`[lo, lo + 2 ^ d)`; `1` when there is none (subnormal results). -/
def exponentSearch (a b : Nat) : Nat → Nat → Nat
  | 0, lo => lo
  | d + 1, lo =>
    if lo + 2 ^ d ≤ 254 ∧ b * 2 ^ (lo + 2 ^ d) ≤ a * 2 ^ 127 then exponentSearch a b d (lo + 2 ^ d)
    else exponentSearch a b d lo

/-- The bits of `a / b` rounded to the nearest float, ties to even; overflow gives infinity. -/
def magnitudeBits (a b : Nat) : Nat :=
  let e := exponentSearch a b 8 1
  min ((e - 1) * 2 ^ 23 + roundHalfEven (a * 2 ^ 150) (b * 2 ^ e)) (255 * 2 ^ 23)

/-- `(float)x`: round to nearest, ties to even. -/
def ofDouble (x : CDouble) : CFloat :=
  ⟨UInt32.ofNat ((if x.num < 0 then 2 ^ 31 else 0) + magnitudeBits x.num.natAbs x.den)⟩

def zero : CFloat := ⟨0⟩

end CFloat

end BacnetEventServer
