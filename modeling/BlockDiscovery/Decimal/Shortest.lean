import BlockDiscovery.Decimal.Binary64
import BlockDiscovery.Text.Blank

/-!
# Shortest decimal text of a double

`Binary64.digits` finds the fewest decimal digits that read back as the given
double and, of those, the nearest to it.  `Binary64.text` writes them: in plain
notation when the number is zero or its decimal exponent lies in `-5 … 15`, and
with an explicit exponent otherwise.
-/

namespace BlockDiscovery.Decimal

namespace Binary64

/-! ## The digits -/

/-- The interval of reals that round to `x`, in units of `2 ^ (exponent - 2)`:
its lower end, `x` itself and its upper end.  Below a power of two the doubles
are twice as dense. -/
def interval (x : Binary64) : Nat × Nat × Nat :=
  let value := 4 * x.significand
  let lower := if x.significand = 0x10_0000_0000_0000 ∧ -1074 < x.exponent then value - 1 else value - 2
  (lower, value, value + 2)

/-- A grid point `digits · 10 ^ place`. -/
structure GridPoint where
  digits : Nat
  place : Int
  deriving Repr, DecidableEq

/-- The largest `p` with `10 ^ p ≤ num / den`, sought downward from `start`. -/
def decimalExponent (num den : Nat) : Nat → Int → Int
  | 0, start => start
  | fuel + 1, start =>
    let reached :=
      if 0 ≤ start then den * Nat.pow 10 start.toNat ≤ num else den ≤ num * Nat.pow 10 (-start).toNat
    if reached then start else decimalExponent num den fuel (start - 1)

/-- The neighbours of a double on the grid of multiples of `10 ^ place` that
round to it; of two, the nearer, and in a tie the even one. -/
def onGrid? (x : Binary64) (place : Int) : Option GridPoint :=
  let (lower, value, upper) := x.interval
  -- one unit of the interval is `num / den` grid steps
  let unitExponent := x.exponent - 2
  let num := (if 0 ≤ unitExponent then 1 <<< unitExponent.toNat else 1)
    * (if place < 0 then Nat.pow 10 (-place).toNat else 1)
  let den := (if unitExponent < 0 then 1 <<< (-unitExponent).toNat else 1)
    * (if 0 ≤ place then Nat.pow 10 place.toNat else 1)
  let down := value * num / den
  let closed := x.significand % 2 = 0
  let inside (g : Nat) : Bool :=
    -- ties go to the even significand, so its interval holds its ends
    if closed then lower * num ≤ g * den && g * den ≤ upper * num
    else lower * num < g * den && g * den < upper * num
  match inside down, inside (down + 1) with
  | true, false => some ⟨down, place⟩
  | false, true => some ⟨down + 1, place⟩
  | false, false => none
  | true, true =>
    let below := value * num - down * den
    let above := (down + 1) * den - value * num
    if below < above then some ⟨down, place⟩
    else if above < below then some ⟨down + 1, place⟩
    else if down % 2 = 0 then some ⟨down, place⟩ else some ⟨down + 1, place⟩

/-- The first grid, from coarse to fine, that has a point rounding to `x`. -/
def firstGrid (x : Binary64) : Nat → Int → GridPoint
  | 0, place => (x.onGrid? place).getD ⟨0, 0⟩
  | fuel + 1, place => (x.onGrid? place).getD (firstGrid x fuel (place - 1))

def dropZeros (ds : List Char) : List Char := Text.dropEndWhile (· == '0') ds

/-- A bound on the decimal exponent of a number below `2 ^ bits`. -/
def exponentBound (bits : Int) : Int :=
  if 0 ≤ bits then bits / 3 + 1 else -((-bits * 3) / 10) + 1

/-- The shortest digits of a nonzero double and the exponent of the first one:
the number is `d.ddd · 10 ^ exponent`. -/
def digits (x : Binary64) : List Char × Int :=
  let (num, den) := x.ratio
  let top := decimalExponent num den 400 (exponentBound ((num.log2 : Int) - den.log2 + 1))
  let point := firstGrid x 17 top
  let written := Text.decimal point.digits
  (dropZeros written, point.place + (written.length : Int) - 1)

/-! ## The text -/

/-- Plain notation, always with a fraction. -/
def plain (ds : List Char) (exponent : Int) : List Char :=
  if exponent < 0 then
    ['0', '.'] ++ List.replicate ((-exponent).toNat - 1) '0' ++ ds
  else
    let whole := exponent.toNat + 1
    let padded := ds ++ List.replicate (whole - ds.length) '0'
    let fraction := padded.drop whole
    padded.take whole ++ '.' :: (if fraction.isEmpty then ['0'] else fraction)

/-- Exponent notation, with the sign of the exponent always written. -/
def scientific (ds : List Char) (exponent : Int) : List Char :=
  let fraction := ds.drop 1
  ds.take 1 ++ (if fraction.isEmpty then [] else '.' :: fraction) ++
    ('e' :: (if exponent < 0 then '-' else '+') :: Text.decimal exponent.natAbs)

/-- The text of a double. -/
def text (x : Binary64) : List Char :=
  (if x.negative then ['-'] else []) ++
    (if x.isZero then ['0', '.', '0']
     else
       let (ds, exponent) := x.digits
       if -5 ≤ exponent ∧ exponent ≤ 15 then plain ds exponent else scientific ds exponent)

end Binary64

end BlockDiscovery.Decimal
