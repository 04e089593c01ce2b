import Dataflow.Number.Shortest
import Dataflow.Number.Parse
/-!
# Exact operations on doubles

Operations on doubles that the hardware leaves out, done exactly on the binary value:
the remainder of a truncating division, conversion from integers of any size with rounding
to nearest, truncation to an integer, and comparison of a double with an integer. A finite
double is `± m × 2^q`; all of these work on that form with natural arithmetic, so they are
exact by construction and rounding happens once, at the end, where a result is a double.
-/

namespace Dataflow.Decimal

/-- The sign bit of a double (set for `-0.0` and for negative NaNs too). -/
def signBit (x : Float) : Bool := x.toBits >>> 63 == 1

/-- The double with the magnitude of `x` and the sign of `y`. -/
def copySign (x y : Float) : Float :=
  Float.ofBits ((x.toBits &&& 0x7FFFFFFFFFFFFFFF) ||| (y.toBits &&& 0x8000000000000000))

/-- A finite double as its sign and `m × 2^q`. -/
def parts (x : Float) : Bool × Nat × Int :=
  let b := Binary.ofBits x.toBits
  (signBit x, b.m, b.q)

/-- The double nearest to `± num / den` for naturals, ties to even; zero keeps its sign. -/
def nearest (negative : Bool) (num den : Nat) : Float :=
  let bits : UInt64 := if num == 0 then 0 else nearestBits num den
  Float.ofBits (if negative then bits ||| 0x8000000000000000 else bits)

/-- The double nearest to `m × 2^q`. -/
def ofBinary (negative : Bool) (m : Nat) (q : Int) : Float :=
  if q ≥ 0 then nearest negative (m * Nat.pow 2 q.toNat) 1 else nearest negative m (Nat.pow 2 (-q).toNat)

/-- The double nearest to an integer of any size. -/
def intToFloat (i : Int) : Float :=
  if i.natAbs < Nat.pow 2 64 then
    let f := (UInt64.ofNat i.natAbs).toFloat
    if i < 0 then -f else f
  else nearest (i < 0) i.natAbs 1

/-- `a × b + c` rounded once, as a fused multiply-add gives it: the product and the sum are
taken exactly on the binary values, and only the result is rounded to the nearest double. An
exact sum of zero from nonzero terms is `+0`; with a zero product, or with an operand that is
infinite or NaN, the plain operations already give the fused result. -/
def fusedMulAdd (a b c : Float) : Float :=
  if a.isNaN || b.isNaN || c.isNaN || a.isInf || b.isInf || c.isInf then a * b + c
  else
    let (sa, ma, qa) := parts a
    let (sb, mb, qb) := parts b
    let (sc, mc, qc) := parts c
    let mp := ma * mb
    let qp := qa + qb
    let q := min qp qc
    let p : Int := (mp * Nat.pow 2 (qp - q).toNat : Nat)
    let r : Int := (mc * Nat.pow 2 (qc - q).toNat : Nat)
    let sum := (if sa != sb then -p else p) + (if sc then -r else r)
    if mp == 0 then a * b + c
    else if sum == 0 then 0.0
    else ofBinary (sum < 0) sum.natAbs q

/-- The remainder of the truncating division of `a` by `b`, with the sign of `a`; it is
exact. NaN when `a` is infinite or `b` is zero, and `a` itself when `b` is infinite. -/
def fmod (a b : Float) : Float :=
  if a.isNaN || b.isNaN || a.isInf || b == 0 then 0.0 / 0.0
  else if b.isInf || a == 0 then a
  else
    let (sa, ma, qa) := parts a
    let (_, mb, qb) := parts b
    let q := min qa qb
    let r := (ma * Nat.pow 2 (qa - q).toNat) % (mb * Nat.pow 2 (qb - q).toNat)
    if r == 0 then copySign 0.0 a else ofBinary sa r q

/-- The integer part of a finite double, rounding toward zero. -/
def truncate (x : Float) : Int :=
  let (s, m, q) := parts x
  let n : Nat := if q ≥ 0 then m * Nat.pow 2 q.toNat else m / Nat.pow 2 (-q).toNat
  if s then -(n : Int) else n

/-- Compares an integer with a double exactly; `none` when the double is NaN. -/
def compareIntFloat (i : Int) (x : Float) : Option Ordering :=
  if x.isNaN then none
  else if x.isInf then some (if x > 0 then .lt else .gt)
  else
    let (s, m, q) := parts x
    let v : Int := if s then -(m : Int) else m
    -- compare i with v × 2^q
    if q ≥ 0 then some (compare i (v * Int.pow 2 q.toNat))
    else some (compare (i * Int.pow 2 (-q).toNat) v)

/-- The floor of the quotient and the remainder with the divisor's sign, as computed by
dividing, taking the remainder with `fmod` and correcting both so that the quotient is an
integer and `a = b × div + mod` holds as nearly as doubles allow. -/
def divMod (a b : Float) : Float × Float :=
  let m := fmod a b
  if b == 0 then (a / b, m)
  else
    let d := (a - m) / b
    let (m, d) :=
      if m != 0 then
        if (b < 0) != (m < 0) then (m + b, d - 1.0) else (m, d)
      else (copySign 0.0 b, d)
    let fd :=
      if d != 0 then
        let f := d.floor
        if d - f > 0.5 then f + 1.0 else f
      else copySign 0.0 (a / b)
    (fd, m)

/-- Floor division of doubles: the quotient of `divMod`, or plain division by zero. -/
def floorDiv (a b : Float) : Float :=
  if b == 0 then a / b else (divMod a b).1

/-- The remainder of floor division of doubles, with the sign of the divisor. -/
def floorMod (a b : Float) : Float :=
  if b == 0 then fmod a b else (divMod a b).2

end Dataflow.Decimal
