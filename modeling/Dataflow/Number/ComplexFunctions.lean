import Dataflow.Number.Complex
/-!
# Elementary functions of complex numbers

The functions that expressions may apply to complex values, as the array library computes them:

* from the C library: `complexExp` and `complexLog` (beside the powers), `complexSqrt`, and the
  circular and hyperbolic sine and cosine (`complexSinh`, `complexCosh`, `complexSin`,
  `complexCos`) and tangents (`complexTanh`, `complexTan`), each from the real functions of
  the two parts;
* the array library's own: the decimal logarithm (the natural one scaled), `exp z - 1` and
  `log (1 + z)` from the real functions of the parts;
* the inverse functions by the algorithm of Hull, Fairgrieve and Tang (`complexAsinh`,
  `complexAcos`, `complexAtanh` and their reflections).

Where `sinh` and `cosh` of a part would overflow, the exponential is applied in steps
(`halfExpTimes`, `tangentTail`), so that a zero factor keeps a zero part.
-/

namespace Dataflow.Number

/-- The smallest normal double. -/
def minNormal : Float := Float.ofBits 0x0010000000000000

/-- The sine and cosine of a part, or the part and one when it is below the normal range. -/
def sinCosOf (x : Float) : Float × Float :=
  if x.abs > minNormal then (Float.sin x, Float.cos x) else (x, 1.0)

/-- The hyperbolic sine and cosine of a part, or the part and one when it is below the normal
range. -/
def sinhCoshOf (x : Float) : Float × Float :=
  if x.abs > minNormal then (Float.sinh x, Float.cosh x) else (x, 1.0)

/-- The square root: the principal one, with non-negative real part, from the modulus; the part
of the root that would cancel is taken from the other one. -/
def complexSqrt (z : Complex2) : Complex2 :=
  let (x, y) := z
  if x.isNaN || y.isNaN || x.isInf || y.isInf then
    if y.isInf then (1.0 / 0.0, y)
    else if x == 1.0 / 0.0 then (x, if y.isNaN then y else Decimal.copySign 0.0 y)
    else if x == -1.0 / 0.0 then
      (if y.isNaN then y else 0.0, Decimal.copySign (1.0 / 0.0) y)
    else (0.0 / 0.0, 0.0 / 0.0)
  else if y == 0 then
    if x < 0 then (0.0, Decimal.copySign (Float.sqrt (-x)) y)
    else ((Float.sqrt x).abs, Decimal.copySign 0.0 y)
  else if x == 0 then
    let r :=
      if y.abs ≥ 2 * minNormal then Float.sqrt (0.5 * y.abs) else 0.5 * Float.sqrt (2 * y.abs)
    (r, Decimal.copySign r y)
  else
    let quarterMax := Float.ofBits 0x7FCFFFFFFFFFFFFF
    let (x, y, scale) : Float × Float × Int :=
      if x.abs > quarterMax then
        let x := x * 0.25
        let y := y * 0.25
        if y.abs > quarterMax then (if x.abs ≥ 4 * minNormal then x * 0.25 else 0, y * 0.25, 1)
        else (x, y, 1)
      else if y.abs > quarterMax then
        (if x.abs ≥ 4 * minNormal then x * 0.25 else 0, y * 0.25, 1)
      else if x.abs < 2 * minNormal && y.abs < 2 * minNormal then
        (x * Float.ofBits 0x4350000000000000, y * Float.ofBits 0x4350000000000000, -27)
      else (x, y, 0)
    let d := hypot x y
    let twice (v : Float) : Float := if scale == 1 then v * 2.0
      else if scale == -27 then v * Float.ofBits 0x3E40000000000000 else v
    let (r, s) :=
      if x > 0 then
        let r := Float.sqrt (0.5 * (d + x))
        if scale == 1 && y.abs < 1 then (twice r, y / r)
        else (twice r, twice (0.5 * (y / r)))
      else
        let s := Float.sqrt (0.5 * (d - x))
        if scale == 1 && y.abs < 1 then ((y / s).abs, twice s)
        else (twice (0.5 * (y / s)).abs, twice s)
    (r, Decimal.copySign s y)

/-- `e ^ ax / 2` times two factors, for `ax` beyond `709`, where the exponential itself
overflows: the factors are scaled by `e ^ 709 / 2` and then by `e ^ 709` once more while the
rest stays beyond `709`; a rest still beyond it stands for an overflow, the factors times the
largest double. -/
def halfExpTimes (ax a b : Float) : Float × Float :=
  let t : Float := 709
  let expT := Float.exp t
  let (rx, a, b) := (ax - t, a * (expT / 2), b * (expT / 2))
  let (rx, a, b) := if rx > t then (rx - t, a * expT, b * expT) else (rx, a, b)
  if rx > t then
    let most := Float.ofBits 0x7FEFFFFFFFFFFFFF
    (most * a, most * b)
  else
    let ev := Float.exp rx
    (ev * a, ev * b)

/-- The hyperbolic sine: `sinh re × cos im`, `cosh re × sin im`; for `|re|` beyond `709` both
are `e ^ |re| / 2` times the cosine (with the sign of `re`) and the sine. -/
def complexSinh (z : Complex2) : Complex2 :=
  let (s, c) := sinCosOf z.2
  if z.1.abs > 709 then halfExpTimes z.1.abs (if Decimal.signBit z.1 then -c else c) s
  else (Float.sinh z.1 * c, Float.cosh z.1 * s)

/-- The hyperbolic cosine: `cosh re × cos im`, `sinh re × sin im`; for `|re|` beyond `709` both
are `e ^ |re| / 2` times the cosine and the sine (with the sign of `re`). -/
def complexCosh (z : Complex2) : Complex2 :=
  let (s, c) := sinCosOf z.2
  if z.1.abs > 709 then halfExpTimes z.1.abs c (if Decimal.signBit z.1 then -s else s)
  else (Float.cosh z.1 * c, Float.sinh z.1 * s)

/-- The sine: `sin re × cosh im`, `cos re × sinh im`; for `|im|` beyond `709` both are
`e ^ |im| / 2` times the sine and the cosine (with the sign of `im`). -/
def complexSin (z : Complex2) : Complex2 :=
  let (s, c) := sinCosOf z.1
  if z.2.abs > 709 then halfExpTimes z.2.abs s (if Decimal.signBit z.2 then -c else c)
  else (Float.cosh z.2 * s, Float.sinh z.2 * c)

/-- The cosine, the hyperbolic cosine of `i z`. -/
def complexCos (z : Complex2) : Complex2 := complexCosh (-z.2, z.1)

/-- The part of a tangent that vanishes where the other tends to `±1`: `4 sin cos` over
`e ^ (2 |x|)`, divided in steps of `e ^ 708` so that no step overflows. -/
def tangentTail (ax s c : Float) : Float :=
  let t : Float := 354
  let exp2t := Float.exp (2 * t)
  let rest := ax - t
  let v := 4 * s * c / exp2t
  if rest > t then v / exp2t else v / Float.exp (2 * rest)

/-- The hyperbolic tangent, `(sinh re cosh re + i sin im cos im) / (sinh² re + cos² im)`; the
square of the hyperbolic sine is left out where it is negligible, and for `|re|` beyond `354`
the real part is `±1`. -/
def complexTanh (z : Complex2) : Complex2 :=
  let (s, c) := sinCosOf z.2
  if z.1.abs > 354 then (Decimal.copySign 1.0 z.1, tangentTail z.1.abs s c)
  else
    let (sh, ch) := sinhCoshOf z.1
    let epsilon := Float.ofBits 0x3CB0000000000000
    let den := if sh.abs > c.abs * epsilon then sh * sh + c * c else c * c
    (sh * ch / den, s * c / den)

/-- The tangent, `(sin re cos re + i sinh im cosh im) / (cos² re + sinh² im)`; for `|im|`
beyond `354` the imaginary part is `±1`. -/
def complexTan (z : Complex2) : Complex2 :=
  let (s, c) := sinCosOf z.1
  if z.2.abs > 354 then (tangentTail z.2.abs s c, Decimal.copySign 1.0 z.2)
  else
    let (sh, ch) := sinhCoshOf z.2
    let epsilon := Float.ofBits 0x3CB0000000000000
    let den := if sh.abs > c.abs * epsilon then c * c + sh * sh else c * c
    (s * c / den, sh * ch / den)

/-- The decimal logarithm: the natural one, both parts times `log10 e`. -/
def complexLog10 (z : Complex2) : Complex2 :=
  let l := complexLog z
  let log10e : Float := 0.4342944819032518
  (l.1 * log10e, l.2 * log10e)

/-- `exp z - 1`: `expm1 re × cos im - 2 sin² (im / 2)`, `exp re × sin im`. -/
def complexExpm1 (z : Complex2) : Complex2 :=
  let a := Float.sin (z.2 / 2)
  (expm1 z.1 * Float.cos z.2 - 2 * a * a, Float.exp z.1 * Float.sin z.2)

/-- `log (1 + z)`: the logarithm of the modulus and the argument of `1 + z`. -/
def complexLog1p (z : Complex2) : Complex2 :=
  let l := hypot (z.1 + 1) z.2
  (Float.log l, Float.atan2 z.2 (z.1 + 1))

/-! ### Inverse functions

The inverse sine, cosine and tangent and their hyperbolic counterparts follow Hull, Fairgrieve
and Tang ("Implementing the complex arcsine and arccosine functions using exception
handling"): with `z = x + i y`, `x, y ≥ 0`, `A = (|z + i| + |z - i|) / 2` and `B = y / A`,

* `Re asinh z = log (A + √(A² - 1))`, taken through `log1p` of `A - 1` while `A < 10`, with
  `A - 1` summed from two halves of `hypot - b` that do not cancel (`halfExcess`);
* `Im asinh z = asin B`, or `atan2 y √(A² - y²)` once `B > 0.6417`, where `asin` loses
  accuracy.

Beyond `2^52` the logarithm of `2z` stands for the inverse sine (`clogLarge`), and below
`√(6 ε) / 4` the inverse sine is `z` itself. The inverse tangent is
`log1p (4x / |z - 1|²) / 4 + i atan2 (2y, (1 - x)(1 + x) - y²) / 2`. The other functions are
reflections of these two.
-/

/-- The machine epsilon, `2^-52`. -/
def epsilon : Float := Float.ofBits 0x3CB0000000000000

/-- `2^52`, beyond which `asinh z` is `log 2z` to within rounding. -/
def recipEpsilon : Float := Float.ofBits 0x4330000000000000

/-- `√(6 ε)`. -/
def sqrt6Epsilon : Float := 3.6500241499888571e-8

/-- `√(3 ε)`. -/
def sqrt3Epsilon : Float := 2.5809568279517849e-8

/-- `√` of the smallest normal double, `2^-511`. -/
def sqrtMin : Float := Float.ofBits 0x2000000000000000

/-- Four times `sqrtMin`. -/
def fourSqrtMin : Float := Float.ofBits 0x2020000000000000

/-- A quarter of the square root of the largest double. -/
def quarterSqrtMax : Float := 3.3519519824856489e+153

/-- The largest double. -/
def maxDouble : Float := Float.ofBits 0x7FEFFFFFFFFFFFFF

/-- `ln 2`. -/
def ln2Double : Float := 6.9314718055994531e-1

/-- `π / 2`, rounded. -/
def halfPiHigh : Float := 1.5707963267948966

/-- `π / 2 - halfPiHigh`, rounded. -/
def halfPiLow : Float := 6.1232339957367659e-17

/-- NaN. -/
def nanDouble : Float := 0.0 / 0.0

/-- `(hypot a b - b) / 2`, given `h = hypot a b`, written so that nothing cancels. -/
def halfExcess (a b h : Float) : Float :=
  if b < 0 then (h - b) / 2
  else if b == 0 then a / 2
  else a * a / (h + b) / 2

/-- What the inverse sine of `x + i y` (`x, y ≥ 0`, below `2^52`) needs: the real part of
`asinh`, and either `B` (when `usable`) or the two arguments of the `atan2` that replaces
`asin B`, `√(A² - y²)` and `y`, both scaled up together where the first would underflow. -/
structure HardWork where
  real : Float
  usable : Bool
  ratio : Float
  root : Float
  height : Float

/-- The shared computation of the inverse sine and cosine. -/
def hardWork (x y : Float) : HardWork :=
  let r := hypot x (y + 1)
  let s := hypot x (y - 1)
  let a := (r + s) / 2
  let a := if a < 1 then 1.0 else a
  let real :=
    if a < 10 then
      if y == 1 && x < epsilon * epsilon / 128 then Float.sqrt x
      else if x ≥ epsilon * (y - 1).abs then
        let am1 := halfExcess x (1 + y) r + halfExcess x (1 - y) s
        log1p (am1 + Float.sqrt (am1 * (a + 1)))
      else if y < 1 then x / Float.sqrt ((1 - y) * (1 + y))
      else log1p ((y - 1) + Float.sqrt ((y - 1) * (y + 1)))
    else Float.log (a + Float.sqrt (a * a - 1))
  if y < fourSqrtMin then ⟨real, false, 0.0, a * (2 / epsilon), y * (2 / epsilon)⟩
  else
    let b := y / a
    if b ≤ 0.6417 then ⟨real, true, b, 0.0, y⟩
    else if y == 1 && x < epsilon / 128 then
      ⟨real, false, b, Float.sqrt x * Float.sqrt ((a + y) / 2), y⟩
    else if x ≥ epsilon * (y - 1).abs then
      let amy := halfExcess x (y + 1) r + halfExcess x (y - 1) s
      ⟨real, false, b, Float.sqrt (amy * (a + y)), y⟩
    else if y > 1 then
      let big := 4 / epsilon / epsilon
      ⟨real, false, b, x * big * y / Float.sqrt ((y + 1) * (y - 1)), y * big⟩
    else ⟨real, false, b, Float.sqrt ((1 - y) * (1 + y)), y⟩

/-- The logarithm of `x + i y` for a large modulus, without overflow or underflow in the
squares. -/
def clogLarge (x y : Float) : Float × Float :=
  let (ax, ay) := if x.abs < y.abs then (y.abs, x.abs) else (x.abs, y.abs)
  let e : Float := 2.718281828459045
  let real :=
    if ax > maxDouble / 2 then Float.log (hypot (x / e) (y / e)) + 1
    else if ax > quarterSqrtMax || ay < sqrtMin then Float.log (hypot x y)
    else Float.log (ax * ax + ay * ay) / 2
  (real, Float.atan2 y x)

/-- The inverse hyperbolic sine. -/
def complexAsinh (z : Complex2) : Complex2 :=
  let (x, y) := z
  let (ax, ay) := (x.abs, y.abs)
  if x.isNaN || y.isNaN then
    if x.isInf then (x, y + y)
    else if y.isInf then (y, x + x)
    else if y == 0 then (x + x, y)
    else (nanDouble, nanDouble)
  else if ax > recipEpsilon || ay > recipEpsilon then
    let w := if Decimal.signBit x then clogLarge (-x) (-y) else clogLarge x y
    (Decimal.copySign (w.1 + ln2Double) x, Decimal.copySign w.2 y)
  else if x == 0 && y == 0 then z
  else if ax < sqrt6Epsilon / 4 && ay < sqrt6Epsilon / 4 then z
  else
    let h := hardWork ax ay
    let imag := if h.usable then Float.asin h.ratio else Float.atan2 h.height h.root
    (Decimal.copySign h.real x, Decimal.copySign imag y)

/-- The inverse sine, `asinh` with the parts exchanged before and after. -/
def complexAsin (z : Complex2) : Complex2 :=
  let w := complexAsinh (z.2, z.1)
  (w.2, w.1)

/-- The inverse cosine, computed directly so that it stays accurate near `1`. -/
def complexAcos (z : Complex2) : Complex2 :=
  let (x, y) := z
  let (ax, ay) := (x.abs, y.abs)
  let (sx, sy) := (Decimal.signBit x, Decimal.signBit y)
  if x.isNaN || y.isNaN then
    if x.isInf then (y + y, -(1.0 / 0.0))
    else if y.isInf then (x + x, -y)
    else if x == 0 then (halfPiHigh + halfPiLow, y + y)
    else (nanDouble, nanDouble)
  else if ax > recipEpsilon || ay > recipEpsilon then
    let w := clogLarge x y
    let imag := w.1 + ln2Double
    (w.2.abs, if sy then imag else -imag)
  else if x == 1 && y == 0 then (0.0, -y)
  else if ax < sqrt6Epsilon / 4 && ay < sqrt6Epsilon / 4 then
    (halfPiHigh - (x - halfPiLow), -y)
  else
    let h := hardWork ay ax
    let real :=
      if h.usable then Float.acos (if sx then -h.ratio else h.ratio)
      else Float.atan2 h.root (if sx then -h.height else h.height)
    (real, if sy then h.real else -h.real)

/-- The inverse hyperbolic cosine, `± i acos z` with the sign that makes the real part
non-negative. -/
def complexAcosh (z : Complex2) : Complex2 :=
  let (rx, ry) := complexAcos z
  if rx.isNaN && ry.isNaN then (ry, rx)
  else if rx.isNaN then (ry.abs, rx)
  else if ry.isNaN then (ry, ry)
  else (ry.abs, Decimal.copySign rx z.2)

/-- `x² + y²`, or `x²` where `y²` would underflow. -/
def sumSquares (x y : Float) : Float := if y < sqrtMin then x * x else x * x + y * y

/-- The real part of `1 / (x + i y)` for a large `x + i y`, scaled so that nothing underflows
or overflows needlessly. -/
def realPartReciprocal (x y : Float) : Float :=
  let ix : Int := (highWord x &&& 0x7FF00000).toNat
  let iy : Int := (highWord y &&& 0x7FF00000).toNat
  let cutoff : Int := 27 * 1048576
  if ix - iy ≥ cutoff || x.isInf then 1 / x
  else if iy - ix ≥ cutoff then x / y / y
  else if ix ≤ 1508 * 1048576 then x / (x * x + y * y)
  else
    let scale := Float.ofBits ((0x7FF00000 - ix).toNat.toUInt64 <<< 32)
    let (x, y) := (x * scale, y * scale)
    x / (x * x + y * y) * scale

/-- The inverse hyperbolic tangent. -/
def complexAtanh (z : Complex2) : Complex2 :=
  let (x, y) := z
  let (ax, ay) := (x.abs, y.abs)
  let halfPi := halfPiHigh + halfPiLow
  if y == 0 && ax ≤ 1 then (Float.atanh x, y)
  else if x == 0 then (x, Float.atan y)
  else if x.isNaN || y.isNaN then
    if x.isInf then (Decimal.copySign 0.0 x, y + y)
    else if y.isInf then (Decimal.copySign 0.0 x, Decimal.copySign halfPi y)
    else (nanDouble, nanDouble)
  else if ax > recipEpsilon || ay > recipEpsilon then
    (realPartReciprocal x y, Decimal.copySign halfPi y)
  else if ax < sqrt3Epsilon / 2 && ay < sqrt3Epsilon / 2 then z
  else
    let real :=
      if ax == 1 && ay < epsilon then (ln2Double - Float.log ay) / 2
      else log1p (4 * ax / sumSquares (ax - 1) ay) / 4
    let imag :=
      if ax == 1 then Float.atan2 2 (-ay) / 2
      else if ay < epsilon then Float.atan2 (2 * ay) ((1 - ax) * (1 + ax)) / 2
      else Float.atan2 (2 * ay) ((1 - ax) * (1 + ax) - ay * ay) / 2
    (Decimal.copySign real x, Decimal.copySign imag y)

/-- The inverse tangent, `atanh` with the parts exchanged before and after. -/
def complexAtan (z : Complex2) : Complex2 :=
  let w := complexAtanh (z.2, z.1)
  (w.2, w.1)

/-- The complex function of a name, for the names that have one. -/
def complexFunction? (name : String) : Option (Complex2 → Complex2) :=
  match name with
  | "exp" => some complexExp | "log" => some complexLog | "sqrt" => some complexSqrt
  | "sin" => some complexSin | "cos" => some complexCos | "tan" => some complexTan
  | "sinh" => some complexSinh | "cosh" => some complexCosh | "tanh" => some complexTanh
  | "log10" => some complexLog10 | "expm1" => some complexExpm1 | "log1p" => some complexLog1p
  | "arcsin" => some complexAsin | "arccos" => some complexAcos | "arctan" => some complexAtan
  | "arcsinh" => some complexAsinh | "arccosh" => some complexAcosh
  | "arctanh" => some complexAtanh
  | _ => none

end Dataflow.Number
