import Dataflow.Number.Text
/-!
# Floats to a chosen number of digits

The text of a double rounded to a chosen number of digits, in the three notations of C-style
conversions: `f` (a fixed number of digits after the point), `e` (one digit before the point, a
fixed number after it, and an exponent) and `g` (a number of significant digits, in whichever
of the two notations keeps the exponent small).

The exact value `m × 2^q` is rounded once, on the decimal grid the notation asks for, to the
nearest grid point and to the even one on an exact tie (`Binary.nearestOnGrid`); so `2.675`
with two decimals is `2.67`, because the double nearest `2.675` lies below it, and `0.125` is
`0.12`. Signs, infinities and NaN are added around the digits (`floatDigits`).
-/

namespace Dataflow.Decimal

/-- The grid point `n × 10 ^ g` nearest the value, as `n`; an exact tie goes to the even `n`. -/
def Binary.nearestOnGrid (x : Binary) (g : Int) : Nat :=
  let (num, den) := x.scaled g
  let down := num / den
  let rem := num % den
  if 2 * rem > den || (2 * rem == den && down % 2 == 1) then down + 1 else down

/-- The value rounded to `digits + 1` significant digits, as `(n, e)` with
`10 ^ digits ≤ n < 10 ^ (digits + 1)` and the value near `n × 10 ^ (e - digits)`: `e` is the
exponent of the leading digit, after any carry of the rounding. Zero is `(0, 0)`. -/
def Binary.significant (x : Binary) (digits : Nat) : Nat × Int :=
  if x.m == 0 then (0, 0)
  else
    let e := x.scale - 1
    let n := x.nearestOnGrid (e - digits)
    if n == Nat.pow 10 (digits + 1) then (Nat.pow 10 digits, e + 1) else (n, e)

/-- The digits of a natural, at least `width` of them, zeros in front. -/
def digitsOf (n width : Nat) : String := padNat width n

/-- Drops the trailing zeros of a fraction's digits. -/
def trimZeros (s : String) : String :=
  String.ofList (s.toList.reverse.dropWhile (· == '0')).reverse

/-- Joins the whole part and the fraction digits of a number; the point is written when there
are digits after it or when `point` asks for it. -/
def withPoint (whole frac : String) (point : Bool) : String :=
  if frac.isEmpty && !point then whole else whole ++ "." ++ frac

/-- An exponent as the `e` notation writes it: a sign and at least two digits. -/
def exponentText (e : Int) : String :=
  (if e < 0 then "-" else "+") ++ padNat 2 e.natAbs

/-- `f` notation of a non-negative value: `prec` digits after the point. -/
def Binary.fixedText (x : Binary) (prec : Nat) (alt : Bool) : String :=
  let s := digitsOf (x.nearestOnGrid (-(prec : Int))) (prec + 1)
  let cut := s.length - prec
  withPoint (String.ofList (s.toList.take cut)) (String.ofList (s.toList.drop cut)) alt

/-- `e` notation of a non-negative value: one digit, `prec` more after the point, and the
exponent. -/
def Binary.exponentNotation (x : Binary) (prec : Nat) (alt : Bool) : String :=
  let (n, e) := x.significant prec
  let s := digitsOf n (prec + 1)
  withPoint (String.ofList (s.toList.take 1)) (String.ofList (s.toList.drop 1)) alt ++ "e" ++
    exponentText e

/-- `g` notation of a non-negative value: `prec` significant digits (at least one), positional
when the exponent `e` satisfies `-4 ≤ e < prec`, with an exponent otherwise; trailing zeros of
the fraction (and then the point) are dropped unless `alt` keeps them. -/
def Binary.generalText (x : Binary) (prec : Nat) (alt : Bool) : String :=
  let p := max prec 1
  let (n, e) := x.significant (p - 1)
  let s := digitsOf n p
  let tidy (frac : String) := if alt then frac else trimZeros frac
  if -4 ≤ e && e < (p : Int) then
    if e ≥ 0 then
      let cut := e.toNat + 1
      withPoint (String.ofList (s.toList.take cut)) (tidy (String.ofList (s.toList.drop cut))) alt
    else withPoint "0" (tidy (repeatChar '0' ((-e).toNat - 1) ++ s)) alt
  else
    withPoint (String.ofList (s.toList.take 1)) (tidy (String.ofList (s.toList.drop 1))) alt ++
      "e" ++ exponentText e

/-- The text of a double in the notation `conv` (`f`, `e` or `g`; the capital letters give
capital letters), with `prec` digits and, for `alt`, the point always written (and for `g` the
trailing zeros kept). A negative value (`-0.0` too) gets a minus sign; infinities and NaN are
`inf` and `nan`. -/
def floatDigits (x : Float) (conv : Char) (prec : Nat) (alt : Bool) : String :=
  let upper := conv == 'F' || conv == 'E' || conv == 'G'
  let sign := if x.toBits >>> 63 == 1 then "-" else ""
  let body :=
    if x.isNaN then "nan"
    else if x.isInf then "inf"
    else
      let b := Binary.ofBits x.toBits
      if conv == 'f' || conv == 'F' then b.fixedText prec alt
      else if conv == 'e' || conv == 'E' then b.exponentNotation prec alt
      else b.generalText prec alt
  let text := (if x.isNaN then "" else sign) ++ body
  if upper then text.toUpper else text

end Dataflow.Decimal
