import Dataflow.Number.Exact
/-!
# `exp x - 1` and `log (1 + x)`

Both functions are accurate where the plain formulas lose everything, near zero. They are the
classic double-precision algorithms of the C mathematics library, written with the same
operations in the same order as the library build the service runs on, including the places
where that build fuses a product and a sum into one rounding (`Decimal.fusedMulAdd`): every
result then agrees with the library's to the last bit, not just to within an ulp.

* `expm1`: `x = k ln 2 + r` with `|r| ≤ ln 2 / 2` (`ln 2` split into a head with trailing zero
  bits, so that `k × head` is exact, and a tail); `exp r - 1` from a rational approximation in
  `r² / 2`; then `2^k (exp r - 1 + 1) - 1`, rearranged for each range of `k` so that nothing
  cancels. Below `-56 ln 2` the result is `-1`, above the overflow threshold it is infinite.
* `log1p`: `1 + x = 2^k (1 + f)` with `√2 / 2 ≤ 1 + f < √2`, plus the rounding error `c` of
  `1 + x` divided by it; `log (1 + f)` from `s = f / (2 + f)` and a polynomial in `s²`; then
  `k ln 2 + log (1 + f) + c`. Small `x` skip the reduction (`k = 0`, `f = x`).

A double is read and changed through its upper 32 bits (`highWord`, `withHighWord`): the sign,
the exponent, and the top twenty bits of the fraction, which is how both algorithms pick their
ranges and scale by powers of two.
-/

namespace Dataflow.Number

open Dataflow.Decimal

/-- The upper 32 bits of a double: sign, exponent, and the top twenty bits of the fraction. -/
def highWord (x : Float) : UInt32 := (x.toBits >>> 32).toUInt32

/-- A double with its upper 32 bits replaced. -/
def withHighWord (x : Float) (h : UInt32) : Float :=
  Float.ofBits ((h.toUInt64 <<< 32) ||| (x.toBits &&& 0xFFFFFFFF))

/-- A double with `k` added to its exponent field, wrapping as 32-bit arithmetic does. -/
def addExponent (y : Float) (k : Int) : Float :=
  withHighWord y (highWord y + UInt32.ofNat ((k * 1048576) % 4294967296).toNat)

/-- The head of `ln 2`: its leading bits, with enough trailing zeros that multiples by small
integers are exact. -/
def ln2Head : Float := Float.ofBits 0x3FE62E42FEE00000

/-- The tail of `ln 2`: `ln 2 - ln2Head`, rounded. -/
def ln2Tail : Float := Float.ofBits 0x3DEA39EF35793C76

/-- `1 / ln 2`, rounded. -/
def invLn2 : Float := Float.ofBits 0x3FF71547652B82FE

/-- The largest `x` whose `exp x` is finite, rounded. -/
def expOverflow : Float := Float.ofBits 0x40862E42FEFA39EF

/-! ### `exp x - 1` -/

/-- The coefficients of the rational approximation of `exp r - 1`, by powers of `r² / 2`. -/
def expCoefficients : Float × Float × Float × Float × Float :=
  (Float.ofBits 0xBFA11111111110F4, Float.ofBits 0x3F5A01A019FE5585,
    Float.ofBits 0xBF14CE199EAADBB7, Float.ofBits 0x3ED0CFCA86E65239,
    Float.ofBits 0xBE8AFDB76E09C32D)

/-- Splits `x` (with `|x| > ln 2 / 2`) as `k ln 2 + r`: `k`, `r`, and the rounding error `c`
of `r`. Between `ln 2 / 2` and `3 ln 2 / 2` in size, `k` is `±1`; beyond, the nearest
integer to `x / ln 2`. -/
def expReduce (x : Float) (hx : UInt32) (negative : Bool) : Int × Float × Float :=
  let (hi, lo, k) : Float × Float × Int :=
    if hx < 0x3FF0A2B2 then
      if negative then (x + ln2Head, -ln2Tail, -1) else (x - ln2Head, ln2Tail, 1)
    else
      let k := truncate (invLn2 * x + (if negative then -0.5 else 0.5))
      let t := intToFloat k
      (fusedMulAdd (-t) ln2Head x, t * ln2Tail, k)
  let r := hi - lo
  (k, r, (hi - r) - lo)

/-- `2^k × exp (r + c) - 1` for a reduced argument `r` with rounding error `c`. -/
def expm1Reduced (r : Float) (k : Int) (c : Float) : Float :=
  let (q1, q2, q3, q4, q5) := expCoefficients
  let hfx := 0.5 * r
  let hxs := r * hfx
  let p1 := fusedMulAdd hxs q1 1.0
  let h2 := hxs * hxs
  let p2 := fusedMulAdd hxs q3 q2
  let h4 := h2 * h2
  let p3 := fusedMulAdd hxs q5 q4
  let r1 := fusedMulAdd h4 p3 (fusedMulAdd h2 p2 p1)
  let t := fusedMulAdd (-r1) hfx 3.0
  let e := hxs * ((r1 - t) / fusedMulAdd (-r) t 6.0)
  if k == 0 then r - fusedMulAdd r e (-hxs)
  else
    let e := fusedMulAdd r (e - c) (-c) - hxs
    if k == -1 then fusedMulAdd 0.5 (r - e) (-0.5)
    else if k == 1 then
      if r < -0.25 then -2.0 * (e - (r + 0.5)) else fusedMulAdd 2.0 (r - e) 1.0
    else if k ≤ -2 || k > 56 then addExponent (1.0 - (e - r)) k - 1.0
    else if k < 20 then
      let t := withHighWord 1.0 (0x3FF00000 - ((0x200000 : UInt32) >>> UInt32.ofNat k.toNat))
      addExponent (t - (e - r)) k
    else
      let t := withHighWord 1.0 (((0x3FF : UInt32) - UInt32.ofNat k.toNat) <<< 20)
      addExponent ((r - (e + t)) + 1.0) k

/-- `exp x - 1`, accurate near zero. -/
def expm1 (x : Float) : Float :=
  let hx := highWord x &&& 0x7FFFFFFF
  let negative := highWord x &&& 0x80000000 != 0
  if hx ≥ 0x7FF00000 then
    if x.isNaN then x + x else if negative then -1.0 else x
  else if hx ≥ 0x40862E42 && x > expOverflow then 1.0 / 0.0
  else if hx ≥ 0x4043687A && negative then -1.0
  else if hx > 0x3FD62E42 then
    let (k, r, c) := expReduce x hx negative
    expm1Reduced r k c
  else if hx < 0x3C900000 then x
  else expm1Reduced x 0 0.0

/-! ### `log (1 + x)` -/

/-- The coefficients of the polynomial for `log (1 + f)` in `s²`, `s = f / (2 + f)`. -/
def logCoefficients : Float × Float × Float × Float × Float × Float × Float :=
  (Float.ofBits 0x3FE5555555555593, Float.ofBits 0x3FD999999997FA04,
    Float.ofBits 0x3FD2492494229359, Float.ofBits 0x3FCC71C51D8E78AF,
    Float.ofBits 0x3FC7466496CB03DE, Float.ofBits 0x3FC39A09D078C69F,
    Float.ofBits 0x3FC2F112DF3E5244)

/-- `2 / 3`, rounded. -/
def twoThirds : Float := Float.ofBits 0x3FE5555555555555

/-- `k ln 2 + log (1 + f) + c`, from the parts of a reduced argument; `tiny` tells that `f` is
below `2^-20` in size, where two terms of the series suffice. -/
def log1pReduced (k : Int) (f c : Float) (tiny : Bool) : Float :=
  let kd := intToFloat k
  let hfsq := 0.5 * f * f
  if tiny then
    if f == 0.0 then
      if k == 0 then 0.0 else fusedMulAdd kd ln2Head (fusedMulAdd kd ln2Tail c)
    else
      let r := hfsq * fusedMulAdd (-twoThirds) f 1.0
      if k == 0 then f - r
      else fusedMulAdd kd ln2Head (-((r - fusedMulAdd kd ln2Tail c) - f))
  else
    let (l1, l2, l3, l4, l5, l6, l7) := logCoefficients
    let s := f / (2.0 + f)
    let z := s * s
    let p2 := fusedMulAdd z l3 l2
    let p3 := fusedMulAdd z l5 l4
    let p4 := fusedMulAdd z l7 l6
    let z2 := z * z
    let z4 := z2 * z2
    let z6 := z2 * z4
    let r := fusedMulAdd z6 p4 (fusedMulAdd z4 p3 (fusedMulAdd z l1 (z2 * p2)))
    if k == 0 then f - (hfsq - s * (hfsq + r))
    else fusedMulAdd kd ln2Head (-((hfsq - (s * (hfsq + r) + fusedMulAdd kd ln2Tail c)) - f))

/-- Splits `1 + x` as `2^k (1 + f)` with `√2 / 2 ≤ 1 + f < √2`, with the rounding error `c`
of `1 + x` relative to it (none above `2^53`, where `1 + x` is `x`). -/
def logReduce (x : Float) (hx : UInt32) (negative : Bool) : Int × Float × Float × Bool :=
  let (u, c) : Float × Float :=
    if negative || hx < 0x43400000 then
      let u := 1.0 + x
      let k : Int := ((highWord u >>> 20).toNat : Int) - 1023
      (u, (if k > 0 then 1.0 - (u - x) else x - (u - 1.0)) / u)
    else (x, 0.0)
  let k : Int := ((highWord u >>> 20).toNat : Int) - 1023
  let hu := highWord u &&& 0x000FFFFF
  if hu < 0x6A09E then (k, withHighWord u (hu ||| 0x3FF00000) - 1.0, c, hu == 0)
  else (k + 1, withHighWord u (hu ||| 0x3FE00000) - 1.0, c, (0x00100000 - hu) >>> 2 == 0)

/-- `log (1 + x)`, accurate near zero: `-inf` at `-1` and NaN below. -/
def log1p (x : Float) : Float :=
  let hx := highWord x
  let ax := hx &&& 0x7FFFFFFF
  let negative := hx &&& 0x80000000 != 0
  if negative || hx < 0x3FDA827A then
    if ax ≥ 0x3FF00000 then
      if x == -1.0 then -1.0 / 0.0 else (x - x) / (x - x)
    else if ax < 0x3E200000 then
      if ax < 0x3C900000 then x else fusedMulAdd (-(x * x)) 0.5 x
    else if !negative || ax < 0x3FD2BEC4 then log1pReduced 0 x 0.0 false
    else
      let (k, f, c, tiny) := logReduce x hx negative
      log1pReduced k f c tiny
  else if hx ≥ 0x7FF00000 then x + x
  else
    let (k, f, c, tiny) := logReduce x hx negative
    log1pReduced k f c tiny

end Dataflow.Number
