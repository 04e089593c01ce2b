import Dataflow.Number.Shortest
/-!
# Text of a float

A float is written with its shortest digits (`Dataflow.Decimal.Binary.shortest`) laid out by one
record of decisions, `Layout.standard`: positional notation for decimal points from `-3` to
`16` places after the leading position, a kept `.0` on whole numbers, and otherwise a mantissa
with an exponent of at least two digits and an explicit sign (`1e+16`, `5e-324`).
-/

namespace Dataflow

/-- The decisions of a float's text. -/
structure Layout where
  /-- positional notation is used when the point position `p` satisfies `lowPoint < p` -/
  lowPoint : Int
  /-- ... and `p ≤ highPoint` -/
  highPoint : Int
  /-- the least number of exponent digits -/
  expDigits : Nat
  nanText : String
  infText : String

/-- Floats as the program writes them everywhere: in answers, messages and CSV cells. -/
def Layout.standard : Layout := ⟨-4, 16, 2, "nan", "inf"⟩

/-- `n` copies of the character `c`. -/
def repeatChar (c : Char) (n : Nat) : String := String.ofList (List.replicate n c)

/-- Pads a natural's digits on the left with zeros to at least `width` characters. -/
def padNat (width : Nat) (n : Nat) : String :=
  let s := toString n
  repeatChar '0' (width - s.length) ++ s

/-- Lays out the digit string `ds` of a positive value whose leading digit stands at
point position `p` (the value is `0.ds * 10 ^ p`). -/
def Layout.place (l : Layout) (ds : String) (p : Int) : String :=
  let n := ds.length
  if l.lowPoint < p ∧ p ≤ l.highPoint then
    if p ≤ 0 then "0." ++ repeatChar '0' p.natAbs ++ ds
    else if p.toNat ≥ n then ds ++ repeatChar '0' (p.toNat - n) ++ ".0"
    else String.ofList (ds.toList.take p.toNat) ++ "." ++ String.ofList (ds.toList.drop p.toNat)
  else
    let e := p - 1
    let mant := match ds.toList with
      | [] => "0"
      | [d] => String.singleton d
      | d :: rest => String.singleton d ++ "." ++ String.ofList rest
    let sign := if e < 0 then "-" else "+"
    mant ++ "e" ++ sign ++ padNat l.expDigits e.natAbs

/-- The text of a float under a layout. -/
def Layout.render (l : Layout) (x : Float) : String :=
  if x.isNaN then l.nanText
  else
    let neg := x.toBits >>> 63 == 1
    let sign := if neg then "-" else ""
    if x.isInf then sign ++ l.infText
    else if x == 0 then sign ++ "0.0"
    else
      let d := (Decimal.Binary.ofBits x.toBits).shortest
      let ds := toString d.digits
      sign ++ l.place ds (d.exp + ds.length)

/-- The standard text of a float. -/
def floatText (x : Float) : String := Layout.standard.render x

end Dataflow
