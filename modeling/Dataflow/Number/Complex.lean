import Dataflow.Number.Exact
import Dataflow.Number.Elementary
/-!
# Complex numbers of two doubles

Products, quotients, powers and moduli of complex numbers given by their real and imaginary
parts, computed with the same double operations in the same order as the language's own complex
type, so that every result agrees with it to the last bit:

* `complexProduct`: the schoolbook product, four products and two sums.
* `complexQuotient`: division scaled by the larger part of the divisor (Smith's method), so
  that no intermediate square overflows; a zero divisor has no quotient.
* `complexPower`: an exponent that is a whole number of size at most 100 is applied by repeated
  squaring (`powerByNat`), a negative one through the quotient of one by the positive power;
  every other exponent goes through the polar form, `|a| ^ b` times the turn `arg a × b`
  (`polarPower`). Zero to a negative or complex power has no value, and an infinite part is an
  overflow.
* `hypot`: the modulus `√(x² + y²)`, computed from the squares and then corrected by one
  Newton step on the exact error of the square, with both parts scaled by `2^±600` when the
  larger is huge or the smaller tiny; a part that is negligible next to the other is simply added.

Complex values stored in arrays are computed by the array library's loops, which differ from
the language's type in three places: the product fuses each part's first product with the sum
(`storageProduct`), the quotient multiplies by the reciprocal of the scaled divisor and divides
by zero into infinities and NaN (`storageQuotient`), and the power of a whole exponent below 100
is a repeated product whose reciprocal is taken through the squared modulus, while any other
power is `exp (b × log a)` as the C library computes it (`storagePower`, `complexExp`,
`complexLog`).
-/

namespace Dataflow.Number

/-- A complex number: real part, imaginary part. -/
abbrev Complex2 := Float × Float

/-- Why a complex power has no value. -/
inductive PowerFault
  /-- Zero to a negative or complex power, or one over a power that is zero. -/
  | zeroPower
  /-- A part of the result is infinite. -/
  | overflow
  deriving DecidableEq, Repr

/-- The product of complex numbers. -/
def complexProduct (a b : Complex2) : Complex2 :=
  (a.1 * b.1 - a.2 * b.2, a.1 * b.2 + a.2 * b.1)

/-- The quotient of complex numbers, the divisor scaled by its larger part; `none` when the
divisor is zero. A divisor with a NaN part gives NaN parts. -/
def complexQuotient (a b : Complex2) : Option Complex2 :=
  let absRe := b.1.abs
  let absIm := b.2.abs
  if absRe ≥ absIm then
    if absRe == 0 then none
    else
      let ratio := b.2 / b.1
      let denom := b.1 + b.2 * ratio
      some ((a.1 + a.2 * ratio) / denom, (a.2 - a.1 * ratio) / denom)
  else if absIm ≥ absRe then
    let ratio := b.1 / b.2
    let denom := b.1 * ratio + b.2
    some ((a.1 * ratio + a.2) / denom, (a.2 * ratio - a.1) / denom)
  else
    let nan : Float := 0.0 / 0.0
    some (nan, nan)

/-- The core of `hypot` for `0 < ay ≤ ax`, both of moderate size: the rounded root of the
rounded sum of squares, less its error divided by twice itself. -/
def hypotCore (ax ay : Float) : Float :=
  let h := Float.sqrt (ax * ax + ay * ay)
  let (t1, t2) :=
    if h ≤ ay + ay then
      let delta := h - ay
      ((delta + delta - ax) * ax, (delta - (ax - ay + (ax - ay))) * delta)
    else
      let delta := h - ax
      ((delta + delta) * (ax - (ay + ay)), (4.0 * delta - ay) * ay + delta * delta)
  h - (t1 + t2) / (h + h)

/-- `2 ^ 600`, the scale of tiny moduli. -/
def scaleUp : Float := Float.ofBits 0x6570000000000000

/-- `2 ^ -600`, the scale of huge moduli. -/
def scaleDown : Float := Float.ofBits 0x1A70000000000000

/-- The modulus `√(x² + y²)`: infinite when a part is, NaN when a part is NaN and none is
infinite. -/
def hypot (x y : Float) : Float :=
  if x.isInf || y.isInf then 1.0 / 0.0
  else if x.isNaN || y.isNaN then x + y
  else
    let ax := max x.abs y.abs
    let ay := min x.abs y.abs
    if ax > Float.ofBits 0x5FE0000000000000 then
      if ay ≤ ax * Float.ofBits 0x3C90000000000000 then ax + ay
      else hypotCore (ax * scaleDown) (ay * scaleDown) * scaleUp
    else if ay < Float.ofBits 0x2340000000000000 then
      if ax ≥ ay * Float.ofBits 0x4350000000000000 then ax + ay
      else hypotCore (ax * scaleUp) (ay * scaleUp) * scaleDown
    else if ay ≤ ax * Float.ofBits 0x3C90000000000000 then ax + ay
    else hypotCore ax ay

/-- `x ^ n` for a natural `n` by repeated squaring over the bits of `n` from the lowest; the
square of the last bit is computed too, as it does not change the result. -/
def powerByNat (x : Complex2) (n : Nat) : Complex2 :=
  go n x (1.0, 0.0) n
where
  /-- Multiplies `r` by `p ^ n`, squaring `p` once a bit; `fuel` bounds the bits. -/
  go : Nat → Complex2 → Complex2 → Nat → Complex2
    | 0, _, r, _ => r
    | fuel + 1, p, r, n =>
      if n == 0 then r
      else go fuel (complexProduct p p) (if n % 2 == 1 then complexProduct r p else r) (n / 2)

/-- `a ^ b` through the polar form of `a`, for `a` not zero: modulus `|a| ^ re b`, divided by
`exp (arg a × im b)`; angle `arg a × re b`, plus `im b × log |a|`. -/
def polarPower (a b : Complex2) : Complex2 :=
  let vabs := hypot a.1 a.2
  let angle := Float.atan2 a.2 a.1
  let len0 := Float.pow vabs b.1
  let phase0 := angle * b.1
  let (len, phase) :=
    if b.2 != 0.0 then (len0 / Float.exp (angle * b.2), phase0 + b.2 * Float.log vabs)
    else (len0, phase0)
  (len * Float.cos phase, len * Float.sin phase)

/-- Whether a part of a complex number is infinite. -/
def Complex2.isInf (z : Complex2) : Bool := z.1.isInf || z.2.isInf

/-- `a ^ b`. A whole exponent of size at most 100 is a repeated product (a negative one the
quotient of one by it); zero to any other negative or complex power has no value; an infinite
part of the result is an overflow. -/
def complexPower (a b : Complex2) : Except PowerFault Complex2 :=
  let result : Except PowerFault Complex2 :=
    if b.2 == 0 && b.1 == b.1.floor && b.1.abs ≤ 100 then
      let n := Decimal.truncate b.1
      if n > 0 then .ok (powerByNat a n.toNat)
      else match complexQuotient (1.0, 0.0) (powerByNat a n.natAbs) with
        | some q => .ok q
        | none => .error .zeroPower
    else if b.1 == 0 && b.2 == 0 then .ok (1.0, 0.0)
    else if a.1 == 0 && a.2 == 0 then
      if b.2 != 0 || b.1 < 0 then .error .zeroPower else .ok (0.0, 0.0)
    else .ok (polarPower a b)
  match result with
  | .ok z => if z.isInf then .error .overflow else .ok z
  | e => e

/-! ### Complex values in array storage -/

/-- The product as the array loops compute it: each part is one product fused with the other,
rounded, product (`re = ar × br - ai × bi`, `im = ar × bi + ai × br`). -/
def storageProduct (a b : Complex2) : Complex2 :=
  (Decimal.fusedMulAdd a.1 b.1 (-(a.2 * b.2)), Decimal.fusedMulAdd a.1 b.2 (a.2 * b.1))

/-- The reciprocal as the array loops compute it: by the ratio of the smaller part to the
larger, so that no square overflows. -/
def storageReciprocal (z : Complex2) : Complex2 :=
  let (re, im) := z
  if im.abs ≤ re.abs then
    let r := im / re
    let d := re + im * r
    (1 / d, -r / d)
  else
    let r := re / im
    let d := re * r + im
    (r / d, -1 / d)

/-- The schoolbook product without fusing, as the array library's scalar routines compute it. -/
def plainProduct (a b : Complex2) : Complex2 :=
  (a.1 * b.1 - a.2 * b.2, a.1 * b.2 + a.2 * b.1)

/-- The quotient as the array loops compute it: scaled by the larger part of the divisor and
multiplied by the reciprocal of the scaled divisor; a zero divisor gives the parts divided by
zero, and a NaN part of the divisor NaN parts. -/
def storageQuotient (a b : Complex2) : Complex2 :=
  let absRe := b.1.abs
  let absIm := b.2.abs
  if absRe ≥ absIm then
    if absRe == 0 && absIm == 0 then (a.1 / absRe, a.2 / absRe)
    else
      let rat := b.2 / b.1
      let scl := 1.0 / (b.1 + b.2 * rat)
      ((a.1 + a.2 * rat) * scl, (a.2 - a.1 * rat) * scl)
  else
    let rat := b.1 / b.2
    let scl := 1.0 / (b.2 + b.1 * rat)
    ((a.1 * rat + a.2) * scl, (a.2 * rat - a.1) * scl)

/-- One over a complex number through its squared modulus, as the power of a negative whole
exponent takes it. -/
def reciprocalBySquares (z : Complex2) : Complex2 :=
  let d := z.1 * z.1 + z.2 * z.2
  ((1.0 * z.1 + 0.0 * z.2) / d, (0.0 * z.1 - 1.0 * z.2) / d)

/-- Inserts a double into a list ordered by magnitude, smallest first. -/
def insertByMagnitude (x : Float) : List Float → List Float
  | [] => [x]
  | y :: ys => if x.abs ≤ y.abs then x :: y :: ys else y :: insertByMagnitude x ys

/-- A list of doubles ordered by magnitude, smallest first. -/
def sortByMagnitude (xs : List Float) : List Float := xs.foldr insertByMagnitude []

/-- Renormalizes terms ordered by magnitude: the two smallest are replaced by their rounded sum
and its exact error, the error is set aside and the rest ordered again, `n` times. -/
def renormalize : Nat → List Float → List Float → List Float
  | n + 1, kept, a :: b :: more =>
    let hi := b + a
    renormalize n (kept ++ [(b - hi) + a]) (sortByMagnitude (hi :: more))
  | _, kept, rest => kept ++ rest

/-- `x² + y² - 1` as the C library's complex logarithm computes it: the squares split exactly
into rounded products and their errors, the five terms ordered by magnitude and renormalized,
then added from the largest down. -/
def squaresLessOne (x y : Float) : Float :=
  let xx := x * x
  let yy := y * y
  let terms := sortByMagnitude
    [Decimal.fusedMulAdd x x (-xx), xx, Decimal.fusedMulAdd y y (-yy), yy, -1.0]
  match (renormalize 4 [] terms).reverse with
  | v4 :: v3 :: v2 :: v1 :: v0 :: _ => v4 + v3 + v2 + v1 + v0
  | vs => vs.foldl (· + ·) 0.0

/-- The natural logarithm of a complex number, as the C library computes it: the real part
`log |z|`, taken through `log1p` of `|z|² - 1` where the modulus is near one, and the
imaginary part `arg z`. Zero has real part `-∞`; a NaN part gives NaN parts, unless the other
is infinite, which gives `+∞` for the real part. -/
def complexLog (z : Complex2) : Complex2 :=
  let nan : Float := 0.0 / 0.0
  let inf : Float := 1.0 / 0.0
  if z.1 == 0 && z.2 == 0 then
    let im := if Decimal.signBit z.1 then Decimal.copySign 3.141592653589793 z.2
      else Decimal.copySign 0.0 z.2
    (-1.0 / z.1.abs, im)
  else if z.1.isNaN || z.2.isNaN then
    (if z.1.isInf || z.2.isInf then inf else nan, nan)
  else
    let ax0 := max z.1.abs z.2.abs
    let ay0 := min z.1.abs z.2.abs
    let maxHalf := Float.ofBits 0x7FDFFFFFFFFFFFFF
    let minNormal := Float.ofBits 0x0010000000000000
    let epsilon := Float.ofBits 0x3CB0000000000000
    let (ax, ay, scale) : Float × Float × Int :=
      if ax0 > maxHalf then (ax0 * 0.5, if ay0 ≥ minNormal * 2 then ay0 * 0.5 else 0, -1)
      else if ax0 < minNormal && ay0 < minNormal then
        (ax0 * Float.ofBits 0x4340000000000000, ay0 * Float.ofBits 0x4340000000000000, 53)
      else (ax0, ay0, 0)
    let re :=
      if ax == 1 && scale == 0 then Number.log1p (ay * ay) / 2
      else if ax > 1 && ax < 2 && ay < 1 && scale == 0 then
        let d := (ax - 1) * (ax + 1)
        Number.log1p (if ay ≥ epsilon then d + ay * ay else d) / 2
      else if ax < 1 && ax ≥ 0.5 && ay < epsilon / 2 && scale == 0 then
        Number.log1p ((ax - 1) * (ax + 1)) / 2
      else if ax < 1 && ax ≥ 0.5 && scale == 0 && ax * ax + ay * ay ≥ 0.5 then
        Number.log1p (squaresLessOne ax ay) / 2
      else Float.log (hypot ax ay) - Float.ofInt scale * 0.6931471805599453
    (re, Float.atan2 z.2 z.1)

/-- The exponential of a complex number, as the C library computes it for finite parts:
`exp re` times the cosine and sine of `im`, with the exponential split in steps of `e ^ 709`
when the real part is large, and the largest double standing in beyond three such steps.
Non-finite parts are taken through the same formula. -/
def complexExp (z : Complex2) : Complex2 :=
  let t : Float := 709
  let minNormal := Float.ofBits 0x0010000000000000
  let (sinix, cosix) :=
    if z.2.abs > minNormal then (Float.sin z.2, Float.cos z.2) else (z.2, 1.0)
  if z.1 > t then
    let expT := Float.exp t
    let (re, s, c) := (z.1 - t, sinix * expT, cosix * expT)
    let (re, s, c) := if re > t then (re - t, s * expT, c * expT) else (re, s, c)
    if re > t then
      let most := Float.ofBits 0x7FEFFFFFFFFFFFFF
      (most * c, most * s)
    else
      let e := Float.exp re
      (e * c, e * s)
  else
    let e := Float.exp z.1
    (e * cosix, e * sinix)

/-- `a ^ b` as the array library computes it. A zero exponent gives one; zero to another power
is zero for a positive real part and NaN otherwise; a whole exponent below 100 in size is a
repeated product (unrolled for 1, 2 and 3), then one over it for a negative exponent; any other
power is `exp (b × log a)`. -/
def storagePower (a b : Complex2) : Complex2 :=
  let nan : Float := 0.0 / 0.0
  if b.1 == 0 && b.2 == 0 then (1.0, 0.0)
  else if a.1 == 0 && a.2 == 0 then
    if b.1 > 0 && b.2 == 0 then (0.0, 0.0) else (nan, nan)
  else
    let whole := b.2 == 0 && b.1 == b.1.floor && b.1.abs < 100
    let n := Decimal.truncate b.1
    if whole && n == 1 then a
    else if whole && n == 2 then plainProduct a a
    else if whole && n == 3 then plainProduct a (plainProduct a a)
    else if whole then
      let r := powerLoop n.natAbs n.natAbs a (1.0, 0.0)
      if b.1 < 0 then reciprocalBySquares r else r
    else
      let l := complexLog a
      complexExp (b.1 * l.1 - b.2 * l.2, b.1 * l.2 + b.2 * l.1)
where
  /-- Multiplies `aa` by `p ^ n`, squaring `p` after each bit but the last. -/
  powerLoop : Nat → Nat → Complex2 → Complex2 → Complex2
    | 0, _, _, aa => aa
    | fuel + 1, n, p, aa =>
      let aa := if n % 2 == 1 then plainProduct aa p else aa
      if n / 2 == 0 then aa else powerLoop fuel (n / 2) (plainProduct p p) aa

end Dataflow.Number
