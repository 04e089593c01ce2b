import Dataflow.Number.Exact
/-!
# Wide binary numbers

A `Wide` is `± m × 2^e` with a natural mantissa of any size. Sums and products are exact and
then cut to `Wide.precision` leading bits; quotients and square roots are computed to that many
bits. With a precision far beyond the 53 bits of a double, the elementary functions evaluated
here (`expOf`, `logOf`, `log1pOf`) are close enough to the true value that rounding them once to
a double gives the correctly rounded result (`Wide.toDouble`).

* `expOf`: `x = k ln 2 + r` with `|r| ≤ ln 2 / 2`, then the Taylor series of `exp r`.
* `logOf`: `x = 2^k y` with `√2 / 2 ≤ y < √2`, then `k ln 2 + 2 atanh ((y - 1) / (y + 1))`.
* `log1pOf`: near zero `2 atanh (t / (2 + t))`, so that no bit of `t` is lost to `1 + t`.

Every series stops when its terms fall below the working precision, and takes at most a fixed
number of terms (fuel), which is far more than any argument it is given needs.
-/

namespace Dataflow.Number

/-- A binary number `± mantissa × 2 ^ exponent`. -/
structure Wide where
  negative : Bool
  mantissa : Nat
  exponent : Int
deriving Inhabited, Repr

namespace Wide

/-- The number of leading bits results keep: far more than a double's 53, so that the errors
of the truncations in a few dozen operations stay far below the last bit of a double. -/
def precision : Nat := 256

/-- Zero. -/
def zero : Wide := ⟨false, 0, 0⟩

/-- One. -/
def one : Wide := ⟨false, 1, 0⟩

/-- A natural number. -/
def ofNat (n : Nat) : Wide := ⟨false, n, 0⟩

/-- An integer. -/
def ofInt (i : Int) : Wide := ⟨i < 0, i.natAbs, 0⟩

/-- The exact value of a finite double. -/
def ofFloat (x : Float) : Wide :=
  let (s, m, q) := Decimal.parts x
  ⟨s, m, q⟩

/-- The number of bits of the mantissa (one for zero). -/
def bits (w : Wide) : Nat := Nat.log2 w.mantissa + 1

/-- The power of two just above the leading bit: `|w| < 2 ^ w.top`. -/
def top (w : Wide) : Int := w.exponent + w.bits

/-- Whether the number is zero. -/
def isZero (w : Wide) : Bool := w.mantissa == 0

/-- The number cut to `precision` leading bits, dropping the lower ones. -/
def trim (w : Wide) : Wide :=
  let b := w.bits
  if b ≤ precision then w
  else
    let d := b - precision
    ⟨w.negative, w.mantissa / Nat.pow 2 d, w.exponent + d⟩

/-- The negation. -/
def neg (w : Wide) : Wide := { w with negative := !w.negative }

/-- The magnitude. -/
def abs (w : Wide) : Wide := { w with negative := false }

/-- The number times `2 ^ k`, exactly. -/
def scale (w : Wide) (k : Int) : Wide := { w with exponent := w.exponent + k }

/-- The sum, exact before it is cut to `precision` bits. An addend whose leading bit lies far
below the other's last kept bit cannot change the kept bits except through the cut, and is
dropped. -/
def add (a b : Wide) : Wide :=
  if a.isZero then b.trim
  else if b.isZero then a.trim
  else if a.top > b.top + precision + 4 then a.trim
  else if b.top > a.top + precision + 4 then b.trim
  else
    let e := min a.exponent b.exponent
    let ma : Int := (a.mantissa * Nat.pow 2 (a.exponent - e).toNat : Nat)
    let mb : Int := (b.mantissa * Nat.pow 2 (b.exponent - e).toNat : Nat)
    let s := (if a.negative then -ma else ma) + (if b.negative then -mb else mb)
    trim ⟨s < 0, s.natAbs, e⟩

/-- The difference. -/
def sub (a b : Wide) : Wide := add a b.neg

/-- The product, exact before it is cut to `precision` bits. -/
def mul (a b : Wide) : Wide :=
  trim ⟨a.negative != b.negative, a.mantissa * b.mantissa, a.exponent + b.exponent⟩

/-- The quotient to `precision` bits (truncated); zero for a zero divisor, which no caller
passes. -/
def div (a b : Wide) : Wide :=
  if b.isZero then zero
  else
    let shift := precision + b.bits
    trim ⟨a.negative != b.negative, a.mantissa * Nat.pow 2 shift / b.mantissa,
      a.exponent - b.exponent - shift⟩

/-- The quotient by a positive natural number. -/
def divNat (a : Wide) (n : Nat) : Wide := div a (ofNat n)

/-- The square root of the magnitude to `precision` bits: the mantissa is widened to twice the
precision with an even exponent, and its integer square root taken. -/
def sqrt (a : Wide) : Wide :=
  let widen := 2 * precision + 2 - min a.bits (2 * precision + 2)
  let widen := if (a.exponent - widen) % 2 == 0 then widen else widen + 1
  trim ⟨false, Nat.sqrt (a.mantissa * Nat.pow 2 widen), (a.exponent - widen) / 2⟩

/-- The integer nearest to the number (ties away from zero). -/
def nearestInt (w : Wide) : Int :=
  let m : Nat :=
    if w.exponent ≥ 0 then w.mantissa * Nat.pow 2 w.exponent.toNat
    else
      let d := (-w.exponent).toNat
      (w.mantissa + Nat.pow 2 d / 2) / Nat.pow 2 d
  if w.negative then -(m : Int) else m

/-- The double nearest to a number that stands for a value known only to `precision` bits and
that is not itself a double or a midpoint between two: a last bit set below the kept ones
makes the rounding go the way the true value goes. -/
def toDouble (w : Wide) : Float :=
  if w.isZero then (if w.negative then -0.0 else 0.0)
  else
    let widen := precision + 2 - min w.bits (precision + 2)
    Decimal.ofBinary w.negative (2 * (w.mantissa * Nat.pow 2 widen) + 1) (w.exponent - widen - 1)

/-! ### Series -/

/-- The level below which terms no longer matter for a sum whose leading term is `lead`. -/
def floorFor (lead : Wide) : Int := lead.top - precision - 8

/-- `acc + Σ t_n` for the terms `t_{n+1} = next n t_n`, starting from `term`, until a term
falls below `2 ^ floor`; at most `fuel` terms. -/
def sumTerms (next : Nat → Wide → Wide) (floor : Int) : Nat → Nat → Wide → Wide → Wide
  | 0, _, _, acc => acc
  | fuel + 1, n, term, acc =>
    if term.isZero || term.top < floor then acc
    else sumTerms next floor fuel (n + 1) (next n term) (add acc term)

/-- `Σ_{k ≥ 0} u^(2k+1) / (2k+1)` for `|u| < 1`, the inverse hyperbolic tangent; `square` is
`u²` and `power` the current odd power of `u`. -/
def atanhTerms (square : Wide) (floor : Int) : Nat → Nat → Wide → Wide → Wide
  | 0, _, _, acc => acc
  | fuel + 1, k, power, acc =>
    if power.isZero || power.top < floor then acc
    else atanhTerms square floor fuel (k + 1) (mul power square) (add acc (divNat power (2 * k + 1)))

/-- The number of terms any series here may take. -/
def seriesFuel : Nat := 400

/-- `atanh u` for `|u| ≤ 1 / 2`. -/
def atanhSmall (u : Wide) : Wide :=
  atanhTerms (mul u u) (floorFor u) seriesFuel 0 u zero

/-- `ln 2`, as `2 atanh (1 / 3)`. -/
def ln2 : Wide := scale (atanhSmall (divNat one 3)) 1

/-- `exp r` for `|r| < 1`, from its Taylor series. -/
def expReduced (r : Wide) : Wide :=
  sumTerms (fun n t => divNat (mul t r) (n + 1)) (floorFor one) seriesFuel 0 one zero

/-- `exp x` for `|x|` below a few thousand: `x = k ln 2 + r` with `k` the integer nearest to
`x / ln 2`, so that `exp x = 2^k exp r`. -/
def expOf (x : Wide) : Wide :=
  let k := nearestInt (div x ln2)
  scale (expReduced (sub x (mul (ofInt k) ln2))) k

/-- `log x` for `x > 0`: `x = 2^k y` with `√2 / 2 ≤ y < √2` (`y² < 1 / 2` decides which
power of two), then `k ln 2 + 2 atanh ((y - 1) / (y + 1))`, where `|(y - 1) / (y + 1)| < 0.18`. -/
def logOf (x : Wide) : Wide :=
  let n := x.bits
  let low := x.mantissa * x.mantissa * 2 < Nat.pow 2 (2 * n)
  let k : Int := if low then x.exponent + n - 1 else x.exponent + n
  let y : Wide := ⟨false, x.mantissa, x.exponent - k⟩
  let u := div (sub y one) (add y one)
  add (mul (ofInt k) ln2) (scale (atanhSmall u) 1)

/-- `log (1 + t)` for `t > -1`: near zero `2 atanh (t / (2 + t))`, which keeps every bit of `t`;
elsewhere the logarithm of `1 + t`. -/
def log1pOf (t : Wide) : Wide :=
  if t.top < -10 then scale (atanhSmall (div t (add (ofNat 2) t))) 1
  else logOf (add one t)

/-- `exp x - 1`: near zero its Taylor series without the constant term, which keeps every bit
of `x`; elsewhere the exponential less one. -/
def expm1Of (x : Wide) : Wide :=
  if x.top < -20 then sumTerms (fun n t => divNat (mul t x) (n + 2)) (floorFor x) seriesFuel 0 x zero
  else sub (expOf x) one

/-- `sinh x`: near zero its Taylor series in odd powers; elsewhere `(exp x - exp (-x)) / 2`. -/
def sinhOf (x : Wide) : Wide :=
  if x.top < -20 then
    let square := mul x x
    sumTerms (fun n t => divNat (mul t square) ((2 * n + 2) * (2 * n + 3))) (floorFor x)
      seriesFuel 0 x zero
  else scale (sub (expOf x) (expOf x.neg)) (-1)

/-- `cosh x`, `(exp x + exp (-x)) / 2`. -/
def coshOf (x : Wide) : Wide := scale (add (expOf x) (expOf x.neg)) (-1)

end Wide

end Dataflow.Number
