import Dataflow.Number.Exact
import Dataflow.Number.Text
/-!
# Half-precision floats

A half-precision float has an 11-bit significand and exponents from `-14` to `15`; below
`2^-14` it keeps the fixed spacing `2^-24`, and its largest finite value is `65504`. Every
half-precision value is a double, so a column of them is held as doubles, each rounded on
arrival.

A double is rounded to the nearest value of that grid, ties to the even multiple, on its exact
binary value; a value at or past `65520` (the midpoint between `65504` and the first power of
two too large) becomes infinite. Computations in half precision are done in single precision
and rounded to half precision once at the end (`toHalf`), which is how the numeric library
computes them.
-/

namespace Dataflow.Decimal

/-- The largest finite half-precision value. -/
def halfMax : Nat := 65504

/-- The exponent of the spacing of half-precision values around `m × 2^q` (`m > 0`): ten
below the exponent of its leading bit, and never below `-24`. -/
def halfSpacing (m : Nat) (q : Int) : Int :=
  max ((m.log2 : Int) + q - 10) (-24)

/-- `m` divided by `2^shift`, rounded to nearest with ties to the even quotient. -/
def shiftRoundEven (m shift : Nat) : Nat :=
  let d := Nat.pow 2 shift
  let n := m / d
  let rem := m % d
  if 2 * rem > d || (2 * rem == d && n % 2 == 1) then n + 1 else n

/-- The half-precision value nearest a double, ties to even; too large a magnitude gives an
infinity of its sign, and NaN, infinities and zeros stay as they are. -/
def roundToHalf (x : Float) : Float :=
  if x.isNaN || x.isInf || x == 0 then x
  else
    let (negative, m, q) := parts x
    let g := halfSpacing m q
    let n := if q ≥ g then m * Nat.pow 2 (q - g).toNat else shiftRoundEven m (g - q).toNat
    let big := if g ≥ 0 then n * Nat.pow 2 g.toNat > halfMax else n > halfMax * Nat.pow 2 (-g).toNat
    if big then (if negative then -1.0 / 0.0 else 1.0 / 0.0)
    else ofBinary negative n g

/-- A double result of a half-precision computation: rounded to single precision, as the
computation gives it, and then to half precision. -/
def toHalf (x : Float) : Float :=
  roundToHalf x.toFloat32.toFloat

/-- A half-precision value as `m × 2^q` with a significand of its own precision, so that its
shortest digits are those that read back among half-precision values. -/
def halfBinary (x : Float) : Binary :=
  let (_, m, q) := parts x
  let g := halfSpacing m q
  let n := if q ≥ g then m * Nat.pow 2 (q - g).toNat else m / Nat.pow 2 (g - q).toNat
  ⟨n, g, n == Nat.pow 2 10 && g > -24⟩

/-- The standard text of a half-precision value: the fewest digits that read back as it among
half-precision values. -/
def halfText (x : Float) : String :=
  if x.isNaN || x.isInf || x == 0 then floatText x
  else
    let d := (halfBinary x).shortest
    let ds := toString d.digits
    (if signBit x then "-" else "") ++ Layout.standard.place ds (d.exp + ds.length)

end Dataflow.Decimal
