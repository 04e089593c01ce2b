import Dataflow.Number.Wide
/-!
# Correctly rounded elementary functions

The elementary functions of doubles as the vectorised array loops compute them: the double
nearest to the true value. Each evaluates the function on the exact value of its argument with
`Wide` numbers and rounds once (`Wide.toDouble`).

The values where the result is exact or not finite are settled first, as the C functions settle
them: NaN gives NaN, the signed zeros of the odd functions are kept, arguments outside the
domain give NaN, poles give infinities, and arguments whose result overflows or underflows a
double give infinity, zero or `-1` without evaluating anything.
-/

namespace Dataflow.Number.Rounded

open Dataflow.Number.Wide

/-- Positive infinity. -/
def inf : Float := 1.0 / 0.0

/-- NaN. -/
def nan : Float := 0.0 / 0.0

/-- `e ^ x`. -/
def exp (x : Float) : Float :=
  if x.isNaN then x
  else if x > 710 then inf
  else if x < -746 then 0.0
  else if x == 0 then 1.0
  else toDouble (expOf (ofFloat x))

/-- A logarithm of a positive finite `x` other than one, the special values being settled as
for the natural logarithm. -/
def logWith (value : Wide → Wide) (x : Float) : Float :=
  if x.isNaN then x
  else if x < 0 then nan
  else if x == 0 then -inf
  else if x.isInf then x
  else if x == 1 then 0.0
  else toDouble (value (ofFloat x))

/-- The natural logarithm. -/
def log (x : Float) : Float := logWith logOf x

/-- `ln 10`. -/
def ln10 : Wide := logOf (ofNat 10)

/-- The decimal logarithm, `log x / ln 10`. -/
def log10 (x : Float) : Float := logWith (fun w => div (logOf w) ln10) x

/-- `e ^ x - 1`: below `-50` it is `-1` to within far less than half an ulp. -/
def expm1 (x : Float) : Float :=
  if x.isNaN || x == 0 then x
  else if x > 710 then inf
  else if x < -50 then -1.0
  else toDouble (expm1Of (ofFloat x))

/-- `log (1 + x)`. -/
def log1p (x : Float) : Float :=
  if x.isNaN || x == 0 then x
  else if x < -1 then nan
  else if x == -1 then -inf
  else if x.isInf then x
  else toDouble (log1pOf (ofFloat x))

/-- The hyperbolic sine; beyond `712` in size it overflows. -/
def sinh (x : Float) : Float :=
  if x.isNaN || x == 0 then x
  else if x > 712 then inf
  else if x < -712 then -inf
  else toDouble (sinhOf (ofFloat x))

/-- The hyperbolic cosine; beyond `712` in size it overflows. -/
def cosh (x : Float) : Float :=
  if x.isNaN then x
  else if x.abs > 712 then inf
  else if x == 0 then 1.0
  else toDouble (coshOf (ofFloat x))

/-- The inverse hyperbolic sine, `± log1p (s + s² / (1 + √(1 + s²)))` for `s = |x|`, a sum of
positive terms. -/
def asinh (x : Float) : Float :=
  if x.isNaN || x.isInf || x == 0 then x
  else
    let s := ofFloat x.abs
    let square := mul s s
    let t := add s (div square (add one (sqrt (add one square))))
    let r := toDouble (log1pOf t)
    if x < 0 then -r else r

/-- The inverse hyperbolic cosine, `log1p ((x - 1) + √((x - 1)(x + 1)))`, with `x - 1` exact. -/
def acosh (x : Float) : Float :=
  if x.isNaN then x
  else if x < 1 then nan
  else if x == 1 then 0.0
  else if x.isInf then x
  else
    let w := ofFloat x
    let below := sub w one
    toDouble (log1pOf (add below (sqrt (mul below (add w one)))))

/-- The inverse hyperbolic tangent, `log1p (2x / (1 - x)) / 2`, with `1 - x` exact. -/
def atanh (x : Float) : Float :=
  if x.isNaN || x == 0 then x
  else if x.abs > 1 then nan
  else if x == 1 then inf
  else if x == -1 then -inf
  else
    let w := ofFloat x
    toDouble (scale (log1pOf (div (scale w 1) (sub one w))) (-1))

end Dataflow.Number.Rounded
