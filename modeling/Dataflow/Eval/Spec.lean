import Dataflow.Number.Fixed
import Dataflow.Table.Cell
import Dataflow.Failure
/-!
# Format specifications

The part after the colon of a replacement field, `[[fill]align][sign][z][#][0][width]
[grouping][.precision][type]`, read as the language's built-in types read it, and the texts of
texts, integers, floats and complex numbers formatted by it.

* `parseSpec` reads the parts in their order; an alignment character second means the first
  is the fill; a `0` before the width, without a fill, pads with zeros between the sign and the
  digits (for numbers). A thousands separator is allowed with the numeric types only, and `_`
  with `b`, `o`, `x` and `X` groups by four.
* A number is laid out as padding, sign, prefix, padding, grouped digits, point, the rest and
  padding (`layNumber`); only one of the three paddings is not empty, as the alignment says.
  Padding with zeros inside the sign (`=` with fill `0`) is done by the grouping, so that the
  zeros are grouped too.
* Floats are written by the C-style notations `e`, `f`, `g` and `%`; without a type, as their
  shortest text, or with a precision as `g` that keeps a `.0` and uses the exponent one digit
  sooner.
-/

namespace Dataflow.Eval

/-- A format specification, read. -/
structure FormatSpec where
  fill : Char
  align : Char
  sign : Option Char
  noNegZero : Bool
  alt : Bool
  width : Option Nat
  grouping : Option Char
  precision : Option Nat
  type : Option Char
deriving Inhabited

/-- Whether a character is an alignment. -/
def isAlignment (c : Char) : Bool := c == '<' || c == '>' || c == '=' || c == '^'

/-- A character as the messages about format codes name it. -/
def codeText (c : Char) : String :=
  if 32 < c.toNat && c.toNat < 128 then String.singleton c else "\\x" ++ String.ofList (Nat.toDigits 16 c.toNat)

/-- The failure for a format code the type does not know. -/
def unknownCode {α : Type} (code : Char) (cls : String) : Outcome α :=
  fail .value s!"Unknown format code '{codeText code}' for object of type '{cls}'"

/-- Reads decimal digits at the head of a list: their value, their count and the rest. A value
beyond the largest machine size is refused. -/
def readDigits (cs : List Char) : Outcome (Nat × Nat × List Char) :=
  let ds := cs.takeWhile Char.isDigit
  let n := ds.foldl (fun acc d => acc * 10 + (d.toNat - 48)) 0
  if n > Nat.pow 2 63 - 1 then fail .value "Too many decimal digits in format string"
  else .ok (n, ds.length, cs.drop ds.length)

/-- Reads a format specification for a value of class `cls`, whose default type and alignment
are given. -/
def parseSpec (cls : String) (spec : String) (defaultType : Option Char) (defaultAlign : Char) :
    Outcome FormatSpec := do
  let cs := spec.toList
  let (fill, align, fillGiven, alignGiven, cs) := match cs with
    | f :: a :: rest => if isAlignment a then (f, a, true, true, rest)
      else if isAlignment f then (' ', f, false, true, a :: rest) else (' ', defaultAlign, false, false, cs)
    | [a] => if isAlignment a then (' ', a, false, true, []) else (' ', defaultAlign, false, false, cs)
    | [] => (' ', defaultAlign, false, false, [])
  let (sign, cs) := match cs with
    | c :: rest => if c == '+' || c == '-' || c == ' ' then (some c, rest) else (none, cs)
    | [] => (none, [])
  let (noNegZero, cs) := match cs with
    | 'z' :: rest => (true, rest)
    | _ => (false, cs)
  let (alt, cs) := match cs with
    | '#' :: rest => (true, rest)
    | _ => (false, cs)
  let (fill, align, cs) := match cs with
    | '0' :: rest =>
      if fillGiven then (fill, align, cs)
      else ('0', if !alignGiven && defaultAlign == '>' then '=' else align, rest)
    | _ => (fill, align, cs)
  let (w, wn, cs) ← readDigits cs
  let width := if wn == 0 then none else some w
  let (grouping, cs) := match cs with
    | ',' :: rest => (some ',', rest)
    | _ => (none, cs)
  let (grouping, cs) ← match cs with
    | '_' :: rest =>
      if grouping.isSome then fail .value "Cannot specify both ',' and '_'." else pure (some '_', rest)
    | _ => pure (grouping, cs)
  if grouping == some '_' && cs.head? == some ',' then fail .value "Cannot specify both ',' and '_'."
  let (precision, cs) ← match cs with
    | '.' :: rest => do
      let (p, pn, rest) ← readDigits rest
      if pn == 0 then fail .value "Format specifier missing precision"
      pure (some p, rest)
    | _ => pure (none, cs)
  if cs.length > 1 then
    fail .value s!"Invalid format specifier '{spec}' for object of type '{cls}'"
  let type := match cs with
    | [t] => some t
    | _ => defaultType
  if let some g := grouping then
    match type with
    | none | some 'd' | some 'e' | some 'f' | some 'g' | some 'E' | some 'G' | some '%' | some 'F' =>
      pure ()
    | some t =>
      if g == '_' && (t == 'b' || t == 'o' || t == 'x' || t == 'X') then pure ()
      else fail .value s!"Cannot specify '{g}' with '{codeText t}'."
  return ⟨fill, align, sign, noNegZero, alt, width, grouping, precision, type⟩

/-! ### Padding and grouping -/

/-- The padding before and after `n` characters to fill a width, as an alignment places them. -/
def padding (n : Nat) (width : Option Nat) (align : Char) : Nat × Nat :=
  let total := max n (width.getD 0)
  let extra := total - n
  let left := if align == '>' then extra else if align == '^' then extra / 2 else 0
  (left, extra - left)

/-- Digits grouped from the right by `size` with a separator, padded with zeros (grouped too)
to at least `minWidth` characters. -/
def groupDigits (digits : List Char) (minWidth : Int) (sep : Char) (size : Nat) : String :=
  let rec go (fuel : Nat) (rest : List Char) (minWidth : Int) (first : Bool) (out : List Char) : List Char :=
    match fuel with
    | 0 => out
    | fuel + 1 =>
      let remaining : Int := rest.length
      let len := min (size : Int) (max (max remaining minWidth) 1)
      let zeros := (max 0 (len - remaining)).toNat
      let chars := (max 0 (min remaining len)).toNat
      let piece := List.replicate zeros '0' ++ rest.drop (rest.length - chars)
      let out := piece ++ (if first then out else sep :: out)
      let rest := rest.take (rest.length - chars)
      let minWidth := minWidth - len
      if rest.isEmpty && minWidth ≤ 0 then out
      else go fuel rest (minWidth - 1) false out
  String.ofList (go (digits.length + minWidth.toNat + 2) digits minWidth true [])

/-- Digits padded with zeros to at least `minWidth`, ungrouped. -/
def padDigits (digits : List Char) (minWidth : Int) : String :=
  let len := max (max (digits.length : Int) minWidth) 1
  String.ofList (List.replicate (len - digits.length).toNat '0' ++ digits)

/-- Lays a number out by a specification: the sign the specification asks for (`negative`:
the number's own), a prefix, the digits before the point grouped, the point when there is one,
and the rest, padded to the width. -/
def layNumber (spec : FormatSpec) (negative : Bool) (pre : String) (digits : List Char)
    (point : Bool) (rest : String) (group : Option (Char × Nat)) : String :=
  let signText := match spec.sign with
    | some '+' => if negative then "-" else "+"
    | some ' ' => if negative then "-" else " "
    | _ => if negative then "-" else ""
  let fixedChars := signText.length + pre.length + (if point then 1 else 0) + rest.length
  let width : Int := match spec.width with
    | some w => w
    | none => -1
  let minWidth : Int := if spec.fill == '0' && spec.align == '=' then width - fixedChars else 0
  let grouped :=
    if digits.isEmpty then ""
    else match group with
      | some (sep, size) => groupDigits digits minWidth sep size
      | none => padDigits digits minWidth
  let pad := (width - (fixedChars + grouped.length)).toNat
  let fill (n : Nat) := String.ofList (List.replicate n spec.fill)
  let (lpad, spad, rpad) := match spec.align with
    | '<' => (0, 0, pad)
    | '^' => (pad / 2, 0, pad - pad / 2)
    | '=' => (0, pad, 0)
    | _ => (pad, 0, 0)
  fill lpad ++ signText ++ pre ++ fill spad ++ grouped ++ (if point then "." else "") ++ rest ++ fill rpad

/-- The separator and group size of a specification's grouping (`four` for the bases that group
by four). -/
def groupOf (spec : FormatSpec) (four : Bool) : Option (Char × Nat) :=
  match spec.grouping with
  | some ',' => some (',', 3)
  | some '_' => some ('_', if four then 4 else 3)
  | _ => none

/-! ### Texts -/

/-- A text formatted by a specification. -/
def formatText (s : String) (spec : String) : Outcome String := do
  if spec.isEmpty then return s
  let f ← parseSpec "str" spec (some 's') '<'
  if f.type != some 's' then unknownCode (f.type.getD 's') "str"
  if let some c := f.sign then
    fail .value (if c == ' ' then "Space not allowed in string format specifier"
      else "Sign not allowed in string format specifier")
  if f.noNegZero then
    fail .value "Negative zero coercion (z) not allowed in string format specifier"
  if f.alt then fail .value "Alternate form (#) not allowed in string format specifier"
  if f.align == '=' then fail .value "'=' alignment not allowed in string format specifier"
  let cs := match f.precision with
    | some p => s.toList.take p
    | none => s.toList
  let (l, r) := padding cs.length f.width f.align
  return String.ofList (List.replicate l f.fill ++ cs ++ List.replicate r f.fill)

/-! ### Floats -/

/-- The digits of a double in the `g` notation of a format without a type: `prec` significant
digits, trailing zeros dropped unless `alt`, the exponent used from `prec` digits before the
point on (one sooner than `g`), and `.0` after a whole number. -/
def generalWithPoint (x : Float) (prec : Nat) (alt : Bool) : String :=
  let p := max prec 1
  let b := Decimal.Binary.ofBits x.toBits
  let (n, e) := b.significant (p - 1)
  let s := (Decimal.digitsOf n p).toList
  let ds := if alt then s else
    let t := (s.reverse.dropWhile (· == '0')).reverse
    if t.isEmpty then ['0'] else t
  let decpt : Int := e + 1
  if decpt ≤ -4 || decpt > (p : Int) - 1 then
    let frac := ds.drop 1
    String.ofList (ds.take 1) ++ (if frac.isEmpty && !alt then "" else "." ++ String.ofList frac) ++
      "e" ++ Decimal.exponentText e
  else if decpt ≤ 0 then "0." ++ String.ofList (List.replicate decpt.natAbs '0' ++ ds)
  else
    let k := decpt.toNat
    if k ≥ ds.length then String.ofList (ds ++ List.replicate (k - ds.length) '0') ++ ".0"
    else String.ofList (ds.take k) ++ "." ++ String.ofList (ds.drop k)

/-- Whether the digits of a number's text before any exponent are all zeros. -/
def zeroDigits (t : String) : Bool :=
  (t.toList.takeWhile fun c => c != 'e' && c != 'E').all fun c => !c.isDigit || c == '0'

/-- A double written in the notation of a format type (`r` for the shortest text), without the
layout: the sign, digits and the rest. `z` drops the sign of a number that shows as zero. -/
def floatNotation (x : Float) (type : Char) (prec : Nat) (alt pointed noNegZero : Bool) : String :=
  let t :=
    if type == 'r' then (if pointed then floatText x else Cell.partText x)
    else if (type == 'g' || type == 'G') && pointed && !x.isNaN && !x.isInf then
      (if Decimal.signBit x then "-" else "") ++ generalWithPoint x.abs prec alt
    else Decimal.floatDigits x type prec alt
  if noNegZero && t.startsWith "-" && zeroDigits t then String.ofList (t.toList.drop 1) else t

/-- Lays out a number's text (with its sign) by a specification. -/
def layNotation (spec : FormatSpec) (t : String) (group : Option (Char × Nat)) : String :=
  let (negative, body) := if t.startsWith "-" then (true, t.toList.drop 1) else (false, t.toList)
  let digits := body.takeWhile Char.isDigit
  let after := body.drop digits.length
  let (point, rest) := match after with
    | '.' :: more => (true, more)
    | _ => (false, after)
  layNumber spec negative "" digits point (String.ofList rest) group

/-- A float formatted by a read specification whose type is a float type (or none). -/
def formatFloatSpec (x : Float) (f : FormatSpec) : Outcome String := do
  if let some p := f.precision then
    if p > Nat.pow 2 31 - 1 then fail .value "precision too big"
  let (type, pointed, defaultPrec) := match f.type with
    | none => ('r', true, 0)
    | some 'n' => ('g', false, 6)
    | some t => (t, false, 6)
  let (type, x, percent) := if type == '%' then ('f', x * 100, true) else (type, x, false)
  let (type, prec) := match f.precision with
    | some p => (if type == 'r' then 'g' else type, p)
    | none => (type, defaultPrec)
  let t := floatNotation x type prec f.alt pointed f.noNegZero ++ (if percent then "%" else "")
  let group := if f.type == some 'n' then none else groupOf f false
  return layNotation f t group

/-- A float formatted by a specification. -/
def formatFloat (x : Float) (cls : String) (spec : String) : Outcome String := do
  if spec.isEmpty then return floatText x
  let f ← parseSpec cls spec none '>'
  match f.type with
  | none | some 'e' | some 'E' | some 'f' | some 'F' | some 'g' | some 'G' | some 'n' | some '%' =>
    formatFloatSpec x f
  | some t => unknownCode t cls

/-! ### Integers -/

/-- The digits of a natural in a base, lower case. -/
def baseDigits (base n : Nat) : List Char := Nat.toDigits base n

/-- An integer formatted by a read specification whose type is an integer type. -/
def formatIntSpec (i : Int) (f : FormatSpec) : Outcome String := do
  if f.precision.isSome then fail .value "Precision not allowed in integer format specifier"
  if f.noNegZero then
    fail .value "Negative zero coercion (z) not allowed in integer format specifier"
  let type := f.type.getD 'd'
  if type == 'c' then
    if f.sign.isSome then fail .value "Sign not allowed with integer format specifier 'c'"
    if f.alt then fail .value "Alternate form (#) not allowed with integer format specifier 'c'"
    if i > Int.pow 2 63 - 1 || i < -(Int.pow 2 63) then fail .overflow "Python int too large to convert to C long"
    if i < 0 || i > 0x10ffff then fail .overflow "%c arg not in range(0x110000)"
    return layNumber f false "" [] false (String.singleton (Char.ofNat i.toNat)) none
  let (base, pre) := match type with
    | 'b' => (2, "0b")
    | 'o' => (8, "0o")
    | 'x' => (16, "0x")
    | 'X' => (16, "0X")
    | _ => (10, "")
  let digits := baseDigits base i.natAbs
  let digits := if type == 'X' then digits.map Char.toUpper else digits
  let group := if type == 'n' then none else groupOf f (base != 10)
  return layNumber f (i < 0) (if f.alt then pre else "") digits false "" group

/-- An integer formatted by a specification; `cls` names its class in messages. -/
def formatInt (i : Int) (cls : String) (spec : String) : Outcome String := do
  if spec.isEmpty then return toString i
  let f ← parseSpec cls spec (some 'd') '>'
  match f.type with
  | some 'b' | some 'c' | some 'd' | some 'o' | some 'x' | some 'X' | some 'n' => formatIntSpec i f
  | some 'e' | some 'E' | some 'f' | some 'F' | some 'g' | some 'G' | some '%' =>
    if i.natAbs ≥ Nat.pow 2 1024 then fail .overflow "int too large to convert to float"
    formatFloatSpec (Float.ofInt i) f
  | t => unknownCode (t.getD 'd') cls

/-! ### Complex numbers -/

/-- A complex number formatted by a specification. -/
def formatComplex (re im : Float) (spec : String) : Outcome String := do
  if spec.isEmpty then return Cell.complexText re im
  let f ← parseSpec "complex" spec none '>'
  match f.type with
  | none | some 'e' | some 'E' | some 'f' | some 'F' | some 'g' | some 'G' | some 'n' => pure ()
  | some t => unknownCode t "complex"
  if let some p := f.precision then
    if p > Nat.pow 2 31 - 1 then fail .value "precision too big"
  if f.fill == '0' then fail .value "Zero padding is not allowed in complex format specifier"
  if f.align == '=' then fail .value "'=' alignment flag is not allowed in complex format specifier"
  let bare := f.type.isNone
  let skipReal := bare && re == 0 && !Decimal.signBit re
  let (type, defaultPrec) := match f.type with
    | none => ('r', 0)
    | some 'n' => ('g', 6)
    | some t => (t, 6)
  let (type, prec) := match f.precision with
    | some p => (if type == 'r' then 'g' else type, p)
    | none => (type, defaultPrec)
  let group := if f.type == some 'n' then none else groupOf f false
  let plain : FormatSpec := { f with fill := ' ', align := '<', width := none }
  let reText := layNotation plain (floatNotation re type prec f.alt false f.noNegZero) group
  let imSpec := if skipReal then plain else { plain with sign := some '+' }
  let imText := layNotation imSpec (floatNotation im type prec f.alt false f.noNegZero) group
  let body := (if skipReal then "" else reText) ++ imText ++ "j"
  let body := if bare && !skipReal then "(" ++ body ++ ")" else body
  let (l, r) := padding body.length f.width f.align
  return String.ofList (List.replicate l f.fill) ++ body ++ String.ofList (List.replicate r f.fill)

end Dataflow.Eval
