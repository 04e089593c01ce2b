/-!
# Decimal numbers to doubles

A decimal `m × 10^e` becomes the double nearest to it, ties to the even significand, as the
text of a number is read. The value is compared exactly as a fraction of naturals: the
significand is the quotient of the fraction by a power of two chosen so that it has 53 bits
(fewer below the normal range), and the remainder decides the rounding.
-/

namespace Dataflow.Decimal

/-- The exact fraction `m × 10^e` as numerator and denominator. -/
def fraction (m : Nat) (e : Int) : Nat × Nat :=
  if e ≥ 0 then (m * Nat.pow 10 e.toNat, 1) else (m, Nat.pow 10 (-e).toNat)

/-- `num / (den × 2^k)` as quotient and a comparison of the remainder with half the divisor. -/
def scaledQuotient (num den : Nat) (k : Int) : Nat × Ordering :=
  let (a, b) := if k ≥ 0 then (num, den * Nat.pow 2 k.toNat) else (num * Nat.pow 2 (-k).toNat, den)
  let q := a / b
  let r := a % b
  (q, compare (2 * r) b)

/-- The bits of the double nearest to `num / den`, a positive fraction. -/
def nearestBits (num den : Nat) : UInt64 :=
  let guess : Int := (num.log2 : Int) - den.log2 - 52
  -- the quotient for the guess lies in [2^51, 2^54); correct the exponent by at most one
  let k := if (scaledQuotient num den guess).1 ≥ Nat.pow 2 53 then guess + 1
    else if (scaledQuotient num den guess).1 < Nat.pow 2 52 then guess - 1 else guess
  let k := if k < -1074 then -1074 else k
  let (q, half) := scaledQuotient num den k
  let up := half == .gt || (half == .eq && q % 2 == 1)
  let q := if up then q + 1 else q
  let (q, k) := if q == Nat.pow 2 53 then (Nat.pow 2 52, k + 1) else (q, k)
  if k > 971 then 0x7FF0000000000000
  else if q < Nat.pow 2 52 then UInt64.ofNat q
  else UInt64.ofNat ((k + 1075).toNat * Nat.pow 2 52 + (q - Nat.pow 2 52))

/-- The number of decimal digits of a natural (one for zero). -/
def digitCount (m : Nat) : Nat := (Nat.toDigits 10 m).length

/-- The double nearest to `m × 10^e`, negated when `negative`. Values far beyond the range
of doubles become infinity or zero without computing their powers. -/
def toFloat (negative : Bool) (m : Nat) (e : Int) : Float :=
  let bits : UInt64 :=
    if m == 0 then 0
    else if e + digitCount m > 310 then 0x7FF0000000000000
    else if e + digitCount m < -330 then 0
    else
      let (num, den) := fraction m e
      nearestBits num den
  Float.ofBits (if negative then bits ||| 0x8000000000000000 else bits)

end Dataflow.Decimal

namespace Dataflow.Decimal

/-- Reads the text of a float as the language's float constructor does: blanks around it are
ignored, underscores may separate digits, and `inf`, `infinity` and `nan` are read in any
case, with an optional sign. -/
def readFloat (s : String) : Option Float :=
  let isSpace (c : Char) := c == ' ' || c == '\t' || c == '\n' || c == '\r' || c == '\x0b' || c == '\x0c'
  let cs := ((s.toList.dropWhile isSpace).reverse.dropWhile isSpace).reverse
  let (negative, cs) := match cs with
    | '-' :: rest => (true, rest)
    | '+' :: rest => (false, rest)
    | _ => (false, cs)
  let word := String.ofList (cs.map Char.toLower)
  if word == "inf" || word == "infinity" then some (if negative then -1.0 / 0.0 else 1.0 / 0.0)
  else if word == "nan" then some (0.0 / 0.0)
  else
    -- digits with single underscores between them
    let digitsOf (ds : List Char) : Option (List Char) :=
      if ds.isEmpty then some []
      else if ds.head? == some '_' || ds.getLast? == some '_' then none
      else if (ds.zip (ds.drop 1)).any (fun (a, b) => a == '_' && b == '_') then none
      else if ds.all (fun c => c.isDigit || c == '_') then some (ds.filter (· != '_'))
      else none
    let mant := cs.takeWhile fun c => c != 'e' && c != 'E'
    let expo := cs.drop (mant.length + 1)
    let hasExp := mant.length < cs.length
    let whole := mant.takeWhile (· != '.')
    let frac := (mant.drop (whole.length + 1))
    let dotted := whole.length < mant.length
    match digitsOf whole, digitsOf frac with
    | some w, some f =>
      if w.isEmpty && f.isEmpty then none
      else if !dotted && !frac.isEmpty then none
      else
        let e : Option Int :=
          if !hasExp then some 0
          else
            let (sign, ds) : Int × List Char := match expo with
              | '-' :: r => (-1, r)
              | '+' :: r => (1, r)
              | r => (1, r)
            match digitsOf ds with
            | some d => if d.isEmpty then none else some (sign * (d.foldl (fun a c => a * 10 + (c.toNat - 48)) 0 : Nat))
            | none => none
        e.map fun e =>
          let m := (w ++ f).foldl (fun a c => a * 10 + (c.toNat - 48)) 0
          toFloat negative m (e - f.length)
    | _, _ => none

end Dataflow.Decimal
