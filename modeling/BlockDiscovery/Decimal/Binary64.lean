/-!
# Binary floating-point numbers

Finite IEEE 754 doubles as exact dyadic numbers, with the roundings that reading
a numeral needs.  Every operation computes the exact rational result first and
then rounds once, to the nearest double, a tie going to the even significand.
-/

namespace BlockDiscovery.Decimal

/-- The finite double `± significand · 2 ^ exponent`.  Values made by this module
are in lowest form: `significand < 2 ^ 53`, `-1074 ≤ exponent ≤ 971`, and the
significand is at least `2 ^ 52` unless the exponent is `-1074`. -/
structure Binary64 where
  negative : Bool
  significand : Nat
  exponent : Int
  deriving Repr, DecidableEq, Inhabited

namespace Binary64

def zero (negative : Bool) : Binary64 := ⟨negative, 0, -1074⟩

def isZero (x : Binary64) : Bool := x.significand == 0

def withSign (negative : Bool) (x : Binary64) : Binary64 := { x with negative := negative }

/-! ## Rounding -/

/-- `num / den` rounded to the nearest integer, a tie to the even one. -/
def roundDiv (num den : Nat) : Nat :=
  let q := num / den
  let twice := 2 * (num % den)
  if twice < den then q
  else if den < twice then q + 1
  else if q % 2 = 0 then q else q + 1

/-- Numerator and denominator of `num / den / 2 ^ e`. -/
def scaled (num den : Nat) (e : Int) : Nat × Nat :=
  if 0 ≤ e then (num, den <<< e.toNat) else (num <<< (-e).toNat, den)

/-- The double nearest to `num / den`; `none` if that is beyond the largest
finite one. -/
def ofRatio? (num den : Nat) : Option Binary64 :=
  if num = 0 then some (zero false)
  else
    let guess : Int := (num.log2 : Int) - (den.log2 : Int) - 52
    let (n, d) := scaled num den guess
    -- the guess is off by at most one; subnormals stay at the lowest exponent
    let exponent := max (if n / d < 0x10_0000_0000_0000 then guess - 1 else guess) (-1074)
    let (n, d) := scaled num den exponent
    let significand := roundDiv n d
    let (significand, exponent) :=
      -- rounding up may have carried
      if significand = 0x20_0000_0000_0000 then (0x10_0000_0000_0000, exponent + 1)
      else (significand, exponent)
    if 971 < exponent then none else some ⟨false, significand, exponent⟩

/-- Magnitude of a double as a fraction. -/
def ratio (x : Binary64) : Nat × Nat :=
  if 0 ≤ x.exponent then (x.significand <<< x.exponent.toNat, 1)
  else (x.significand, 1 <<< (-x.exponent).toNat)

/-- The product of two magnitudes, rounded. -/
def times? (x y : Binary64) : Option Binary64 :=
  ofRatio? (x.ratio.1 * y.ratio.1) (x.ratio.2 * y.ratio.2)

/-- The quotient of two magnitudes, rounded; the divisor is not zero. -/
def over? (x y : Binary64) : Option Binary64 :=
  ofRatio? (x.ratio.1 * y.ratio.2) (x.ratio.2 * y.ratio.1)

/-! ## Decimal numerals -/

/-- The double nearest to `10 ^ k`, for `k ≤ 308`. -/
def powerOfTen (k : Nat) : Binary64 := (ofRatio? (Nat.pow 10 k) 1).getD (zero false)

/-- Divide by `10 ^ 308` until the remaining negative exponent is in range, then
by the power that is left.  Three rounds suffice: by then the number is zero. -/
def scaleDown : Nat → Binary64 → Nat → Option Binary64
  | 0, x, _ => some x
  | rounds + 1, x, k =>
    if k ≤ 308 then x.over? (powerOfTen k)
    else if x.isZero then some x
    else (x.over? (powerOfTen 308)).bind fun y => scaleDown rounds y (k - 308)

/-- The double a numeral with at most twenty significant digits reads as:
the significand is rounded to a double, which is then multiplied or divided by a
power of ten that is itself a double.  `none` when the magnitude is too large. -/
def ofDecimal? (significand : Nat) (exponent : Int) : Option Binary64 :=
  (ofRatio? significand 1).bind fun x =>
    if 308 < exponent then if x.isZero then some x else none
    else if 0 ≤ exponent then x.times? (powerOfTen exponent.toNat)
    else scaleDown 4 x (-exponent).toNat

/-- The double nearest to `significand · 10 ^ exponent`, rounded once.  Powers so
extreme that they decide the answer alone are not computed. -/
def nearestDecimal? (significand : Nat) (digits : Nat) (exponent : Int) : Option Binary64 :=
  if significand = 0 then some (zero false)
  else if 400 < exponent + digits then none
  else if exponent + digits < -400 then some (zero false)
  else if 0 ≤ exponent then ofRatio? (significand * Nat.pow 10 exponent.toNat) 1
  else ofRatio? significand (Nat.pow 10 (-exponent).toNat)

end Binary64

end BlockDiscovery.Decimal
