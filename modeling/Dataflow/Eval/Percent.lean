import Dataflow.Eval.Kernel
import Dataflow.Eval.Show
import Dataflow.Number.Fixed
/-!
# Formatting text with `%`

`text % value` fills the conversions of `text` (`%d`, `%.3f`, `%s`, ...) from one value, as the
language's printf-style formatting does when the right operand is not a tuple:

* a conversion is `%`, optional flags (`-`, `+`, blank, `#`, `0`), an optional width and
  precision (each digits or `*`, which takes the value), an ignored length letter (`h`, `l`,
  `L`), and the conversion letter; `%%` is a percent sign;
* the single value is taken by the first conversion that needs one; a second one finds no value
  left, and a value no conversion took is an error too, unless the value is a mapping (a
  series), which conversions with a key (`%(key)s`) would read;
* `s`, `r` and `a` write the value's text, representation or ASCII representation; `d`, `i`
  and `u` write a number as an integer (floats truncated), `o`, `x` and `X` need an integer;
  `e`, `f` and `g` (and their capitals) write a number as a float (`Decimal.floatDigits`);
  `c` writes a character given as itself or by its code;
* numbers get their sign, and a `0` flag pads them with zeros after the sign and the `0x`
  prefix; otherwise padding is blanks, on the left unless `-` asks for the right.
-/

namespace Dataflow.Eval

/-- The cell a scalar stands for. -/
def Obj.cell? : Obj → Option Cell
  | .plain c => some c
  | .fixed x => some x.cell
  | _ => none

/-- The flags, width and precision of one conversion. -/
structure PercentSpec where
  left : Bool := false
  plus : Bool := false
  blank : Bool := false
  alt : Bool := false
  zero : Bool := false
  width : Option Nat := none
  prec : Option Nat := none
deriving Repr, Inhabited

/-- The class name of a value as the interpreter's messages give it: fixed-width numbers are
named with their module. -/
def Obj.qualifiedType : Obj → String
  | .fixed (.int64 _) => "numpy.int64"
  | .fixed (.float64 _) => "numpy.float64"
  | .fixed (.bool _) => "numpy.bool"
  | o => o.className

/-- Hexadecimal digits of a natural, `width` of them, lower case. -/
def hexPadded (width n : Nat) : String :=
  let ds := Nat.toDigits 16 n
  String.ofList (List.replicate (width - ds.length) '0' ++ ds)

/-- A representation with every character beyond ASCII escaped, as `ascii` writes it. -/
def asciiEscaped (s : String) : String :=
  String.join (s.toList.map fun c =>
    let n := c.toNat
    if n < 128 then String.singleton c
    else if n < 256 then "\\x" ++ hexPadded 2 n
    else if n < 65536 then "\\u" ++ hexPadded 4 n
    else "\\U" ++ hexPadded 8 n)

/-- The one value of a series of one value, which converts to a number as that value does. -/
def Obj.single? : Obj → Option Obj
  | .series c => if c.size == 1 then some (match c with
      | .int64 vs => .fixed (.int64 (vs.getD 0 0))
      | .uint64 vs => .fixed (.int64 (vs.getD 0 0))
      | .float64 vs => .fixed (.float64 (vs.getD 0 0.0))
      | .bool vs => .fixed (.bool (vs.getD 0 false))
      | c => .plain (c.cell 0)) else none
  | _ => none

/-- A number as an integer for `d`, `i` and `u`: integers and truth values as they are, floats
truncated; anything else is refused by the conversion letter. -/
def percentInteger (conv : Char) (v : Obj) : Outcome Int :=
  let wrong : Outcome Int :=
    typeError s!"%{conv} format: a real number is required, not {v.qualifiedType}"
  let ofFloat (f : Float) : Outcome Int :=
    if f.isNaN then fail .value "cannot convert float NaN to integer"
    else if f.isInf then fail .overflow "cannot convert float infinity to integer"
    else .ok (Decimal.truncate f)
  let ofCell (c : Cell) : Outcome Int := match c with
    | .int i => .ok i
    | .bool b => .ok (if b then 1 else 0)
    | .float f => ofFloat f
    | _ => wrong
  match v with
  | .plain c => ofCell c
  | .fixed x => ofCell x.cell
  | o => match o.single? with
    | some (.plain c) => ofCell c
    | some (.fixed x) => ofCell x.cell
    | _ => wrong

/-- An integer for `o`, `x` and `X`: only integers and truth values are taken. -/
def percentIndex (conv : Char) (v : Obj) : Outcome Int :=
  match v.cell? with
  | some (.int i) => .ok i
  | some (.bool b) => .ok (if b then 1 else 0)
  | _ => typeError s!"%{conv} format: an integer is required, not {v.qualifiedType}"

/-- A number as a float for `e`, `f` and `g`. -/
def percentFloat (v : Obj) : Outcome Float :=
  let ofCell (c : Cell) : Outcome Float := match c with
    | .float f => .ok f
    | .bool b => .ok (if b then 1.0 else 0.0)
    | .int i => toFloatChecked i
    | _ => typeError s!"must be real number, not {v.qualifiedType}"
  match v with
  | .plain c => ofCell c
  | .fixed x => ofCell x.cell
  | .series _ => match v.single? with
    | some o => match o.cell? with
      | some c => ofCell c
      | none => typeError "cannot convert the series to <class 'float'>"
    | none => typeError "cannot convert the series to <class 'float'>"
  | _ => typeError s!"must be real number, not {v.qualifiedType}"

/-- The character of `%c`: a text of one character, or a code point. -/
def percentChar (v : Obj) : Outcome Char :=
  let wrong : Outcome Char := typeError "%c requires int or char"
  let ofCode (i : Int) : Outcome Char :=
    if i < 0 || i ≥ 0x110000 then fail .overflow "%c arg not in range(0x110000)"
    else .ok (Char.ofNat i.toNat)
  match v.cell? with
  | some (.str s) => match s.toList with
    | [c] => .ok c
    | _ => wrong
  | some (.int i) => ofCode i
  | some (.bool b) => ofCode (if b then 1 else 0)
  | _ => wrong

/-- The text of an integer conversion before padding: the sign, the `0x` or `0o` prefix under
`#`, the digits padded with zeros to the precision; capitals for `X`. -/
def integerText (conv : Char) (spec : PercentSpec) (i : Int) : String :=
  let base := if conv == 'o' then 8 else if conv == 'x' || conv == 'X' then 16 else 10
  let ds := Nat.toDigits base i.natAbs
  let ds := List.replicate ((spec.prec.getD 0) - ds.length) '0' ++ ds
  let pre := if spec.alt && base != 10 then (if base == 8 then "0o" else "0x") else ""
  let text := (if i < 0 then "-" else "") ++ pre ++ String.ofList ds
  if conv == 'X' then text.toUpper else text

/-- Lays out the text of one conversion in its width. Numbers (`numeric`) take a sign from the
text or from the `+` and blank flags, and pad with zeros under `0`, after the sign and the
prefix of `#x`, `#X` and `#o` (`prefixed`); texts of `s`, `r` and `a` are cut to the
precision (`cut`). -/
def percentLayout (spec : PercentSpec) (numeric prefixed cut : Bool) (text : String) : String :=
  let chars := text.toList
  let fill := if numeric && spec.zero then '0' else ' '
  let chars := if cut then (match spec.prec with
    | some p => chars.take p
    | none => chars) else chars
  let (signChar, chars) : Option Char × List Char :=
    if !numeric then (none, chars)
    else match chars with
      | c :: rest => if c == '-' || c == '+' then (some c, rest)
        else if spec.plus then (some '+', chars)
        else if spec.blank then (some ' ', chars)
        else (none, chars)
      | [] => if spec.plus then (some '+', chars) else if spec.blank then (some ' ', chars)
        else (none, chars)
  let width := max (spec.width.getD 0) chars.length
  let signText := match signChar with
    | some c => String.singleton c
    | none => ""
  let width := if signChar.isSome && width > chars.length then width - 1 else width
  let (prefixText, chars, width) : String × List Char × Nat :=
    if prefixed && spec.alt then (String.ofList (chars.take 2), chars.drop 2, width - 2)
    else ("", chars, width)
  let body := String.ofList chars
  let pad := width - chars.length
  if spec.left then signText ++ prefixText ++ body ++ repeatChar ' ' pad
  else if fill == '0' then signText ++ prefixText ++ repeatChar '0' pad ++ body
  else repeatChar ' ' pad ++ signText ++ prefixText ++ body

/-- The text of one conversion of the value. -/
def percentConvert (rows : Column) (conv : Char) (spec : PercentSpec) (pos : Nat) (v : Obj) :
    Outcome String :=
  match conv with
  | 's' => .ok (percentLayout spec false false true (v.textAt rows))
  | 'r' => .ok (percentLayout spec false false true (v.reprAt rows))
  | 'a' => .ok (percentLayout spec false false true (asciiEscaped (v.reprAt rows)))
  | 'c' => do
    let c ← percentChar v
    return percentLayout spec false false false (String.singleton c)
  | 'd' | 'i' | 'u' => do
    let i ← percentInteger conv v
    return percentLayout spec true false false (integerText conv spec i)
  | 'o' | 'x' | 'X' => do
    let i ← percentIndex conv v
    return percentLayout spec true true false (integerText conv spec i)
  | 'e' | 'E' | 'f' | 'F' | 'g' | 'G' => do
    let f ← percentFloat v
    return percentLayout spec true false false
      (Decimal.floatDigits f conv (spec.prec.getD 6) spec.alt)
  | c =>
    let shown := if 31 ≤ c.toNat && c.toNat ≤ 126 then c else '?'
    fail .value s!"unsupported format character '{shown}' (0x{hexPadded 0 c.toNat}) at index {pos}"

/-- Reads the digits of a width or precision. -/
def readCount : List Char → Nat → Nat × List Char
  | c :: rest, acc =>
    if c.isDigit then readCount rest (acc * 10 + (c.toNat - 48)) else (acc, c :: rest)
  | [], acc => (acc, [])

/-- Reads the flags of a conversion. -/
def readFlags : List Char → PercentSpec → PercentSpec × List Char
  | c :: rest, s =>
    if c == '-' then readFlags rest { s with left := true }
    else if c == '+' then readFlags rest { s with plus := true }
    else if c == ' ' then readFlags rest { s with blank := true }
    else if c == '#' then readFlags rest { s with alt := true }
    else if c == '0' then readFlags rest { s with zero := true }
    else (s, c :: rest)
  | [], s => (s, [])

/-- Whether the value is a mapping that conversions with a key read. -/
def Obj.isMapping : Obj → Bool
  | .series _ | .labelled _ | .list _ => true
  | _ => false

/-- Reads a width (`width`) or a precision that may be `*`: the count, whether the value is
still free, and the rest. A `*` takes the value, which must be an integer that fits the
machine's size type (a width) or `int` (a precision); written digits have the same bounds. -/
def readStar (cs : List Char) (free width : Bool) (v : Obj) :
    Outcome (Option Int × Bool × List Char) :=
  let bound : Int := if width then Int.pow 2 63 - 1 else Int.pow 2 31 - 1
  let machine := if width then "ssize_t" else "int"
  let checked (i : Int) : Outcome Int :=
    if i > bound || i < -bound - 1 then
      fail .overflow s!"Python int too large to convert to C {machine}"
    else .ok i
  match cs with
  | '*' :: rest =>
    if !free then typeError "not enough arguments for format string"
    else match v.cell? with
      | some (.int i) => do return (some (← checked i), false, rest)
      | some (.bool b) => .ok (some (if b then 1 else 0), false, rest)
      | _ => typeError "* wants int"
  | c :: rest =>
    if c.isDigit then
      let (n, rest) := readCount (c :: rest) 0
      if (n : Int) > bound then
        fail .value (if width then "width too big" else "precision too big")
      else .ok (some n, free, rest)
    else .ok (none, free, c :: rest)
  | [] => .ok (none, free, [])

/-- The key of a conversion `%(key)`: the text up to the matching parenthesis, and the rest. -/
def readKey : List Char → Nat → List Char → Option (String × List Char)
  | [], _, _ => none
  | c :: rest, depth, acc =>
    if c == ')' then
      if depth == 0 then some (String.ofList acc.reverse, rest)
      else readKey rest (depth - 1) (c :: acc)
    else if c == '(' then readKey rest (depth + 1) (c :: acc)
    else readKey rest depth (c :: acc)

/-- Formats the characters `cs` (the first at index `pos` of the text) with the value `v`,
`free` while no conversion has taken it; `out` is the text so far. Every step takes at least
one character, so `fuel` above the number of characters suffices. -/
def percentRun (rows : Column) (v : Obj) : Nat → List Char → Nat → Bool → String → Outcome String
  | 0, _, _, _, out => .ok out
  | _ + 1, [], _, free, out =>
    if free && !v.isMapping then typeError "not all arguments converted during string formatting"
    else .ok out
  | fuel + 1, c :: rest, pos, free, out =>
    if c != '%' then percentRun rows v fuel rest (pos + 1) free (out.push c)
    else match rest with
      | '%' :: more => percentRun rows v fuel more (pos + 2) free (out.push '%')
      | '(' :: more =>
        if !v.isMapping then typeError "format requires a mapping"
        else match readKey more 0 [] with
          | none => fail .value "incomplete format key"
          | some (key, _) => fail .key (Text.quoteText key)
      | _ => do
        let (spec, cs1) := readFlags rest {}
        let (width, free1, cs2) ← readStar cs1 free true v
        let spec := match width with
          | some w => { spec with width := some w.natAbs, left := spec.left || w < 0 }
          | none => spec
        let (prec, free2, cs3) ← match cs2 with
          | '.' :: more => do
            let (p, f, r) ← readStar more free1 false v
            pure (some (p.getD 0).toNat, f, r)
          | _ => pure (none, free1, cs2)
        let spec := { spec with prec := prec }
        let cs4 := match cs3 with
          | l :: more => if l == 'h' || l == 'l' || l == 'L' then more else cs3
          | [] => []
        match cs4 with
        | [] => fail .value "incomplete format"
        | conv :: more =>
          let convPos := pos + 1 + (rest.length - cs4.length)
          if !free2 then typeError "not enough arguments for format string"
          else do
            let piece ← percentConvert rows conv spec convPos v
            percentRun rows v fuel more (convPos + 1) false (out ++ piece)

/-- `text % value`, for a value that is not a tuple; a series at the rows is labelled by
`rows`. -/
def percentFormat (rows : Column) (text : String) (v : Obj) : Outcome String :=
  percentRun rows v (text.length + 1) text.toList 0 true ""

end Dataflow.Eval
