import Dataflow.Eval.Show
import Dataflow.Csv.Write
/-!
# Series written out as text

A series can be written out whole, as one text:

* `seriesBody` is its printed form without the last line, which names it and its storage;
  an empty series is `Series([], )`;
* `seriesCsv` is comma-separated lines: a header of an empty cell and the series' name (`0`
  when it has none), then each label with its value. Missing values are empty cells;
* `seriesJson` is by default an object from the texts of the labels to the values. Missing
  values and infinities are `null`; doubles are written with at most ten decimals by default
  (`jsonFloat`); texts are escaped to plain ASCII by default, the solidus always
  (`jsonString`).
-/

namespace Dataflow.Eval

/-- The lines of a series as it prints, without the line naming it and its storage. -/
def seriesBody (labels : Column) (c : Column) : String :=
  if c.size == 0 then "Series([], )"
  else
    let lines := (seriesText labels c .none).splitOn "\n"
    "\n".intercalate (lines.take (lines.length - 1))

/-- The comma-separated text of a series: a header of an empty cell and its name, then each
label with its value. -/
def seriesCsv (labels : Column) (c : Column) (name : Cell) : String :=
  let title := match name with
    | .none => "0"
    | n => Csv.writtenLabel n
  let header := Csv.writeLine ["", title]
  let rows := (List.range c.size).map fun i => Csv.writeLine [Csv.writtenAt labels i, Csv.writtenAt c i]
  header ++ String.join rows

/-- The hexadecimal digits of a number below `16 ^ width`, lowercase, padded to `width`. -/
def hexDigits (width n : Nat) : String :=
  let digit (d : Nat) : Char := if d < 10 then Char.ofNat (48 + d) else Char.ofNat (87 + d)
  String.ofList ((List.range width).reverse.map fun k => digit (n / Nat.pow 16 k % 16))

/-- A character as a JSON text writes it: quotes, backslashes and solidi escaped, the usual
control characters by their letters and the others by their code, and every character beyond
ASCII by its UTF-16 code units. -/
def jsonChar (c : Char) : String :=
  match c with
  | '"' => "\\\""
  | '\\' => "\\\\"
  | '/' => "\\/"
  | '\x08' => "\\b"
  | '\x0c' => "\\f"
  | '\n' => "\\n"
  | '\r' => "\\r"
  | '\t' => "\\t"
  | c =>
    let n := c.toNat
    if n < 0x20 then "\\u" ++ hexDigits 4 n
    else if n < 0x80 then c.toString
    else if n < 0x10000 then "\\u" ++ hexDigits 4 n
    else
      let m := n - 0x10000
      "\\u" ++ hexDigits 4 (0xD800 + m / 0x400) ++ "\\u" ++ hexDigits 4 (0xDC00 + m % 0x400)

/-- A text as a JSON string: escaped to plain ASCII with `ascii`, otherwise with the
characters beyond ASCII kept as they are. -/
def jsonString (ascii : Bool) (s : String) : String :=
  let escape (c : Char) : String := if !ascii && c.toNat ≥ 0x80 then c.toString else jsonChar c
  "\"" ++ String.join (s.toList.map escape) ++ "\""

/-- A finite double as a JSON number with `prec` decimals at most (`prec ≤ 15`). Between
`1e-15` and `1e16 - 1` in magnitude it is its whole part, a point and its fraction scaled by
`10^prec`: the scaled fraction is cut to an integer and rounded up when the rest is over a half,
or a half with an odd or zero integer, a fraction rounded up to one carrying into the whole
part; trailing zeros are dropped, one digit always kept. Without decimals the whole part alone
is written, rounded up when what is left of the value is over a half, or a half with an odd
whole part. Beyond those bounds it is written in the general notation with `prec` significant
digits. -/
def jsonFloat (prec : Nat) (x : Float) : String :=
  let negative := x < 0
  let v := if negative then -x else x
  if v > 1e16 - 1 || (v != 0 && v < 1e-15) then Decimal.floatDigits x 'g' prec false
  else
    let scale : Nat := Nat.pow 10 prec
    let whole := v.floor
    let scaled := (v - whole) * Decimal.intToFloat scale
    let cut := scaled.floor
    let rest := scaled - cut
    let frac := cut.toUInt64.toNat
    let up := rest > 0.5 || (rest == 0.5 && (frac == 0 || frac % 2 == 1))
    let frac := if up then frac + 1 else frac
    let (whole, frac) := if frac ≥ scale then (whole + 1, 0) else (whole, frac)
    let wholeDigits := whole.toUInt64.toNat
    let sign := if negative then "-" else ""
    if prec == 0 then
      let left := v - whole
      let bump := left > 0.5 || (left == 0.5 && wholeDigits % 2 == 1)
      sign ++ toString (if bump then wholeDigits + 1 else wholeDigits)
    else
      let digits := if frac == 0 then "0"
        else
          let padded := (padNat prec frac).toList
          String.ofList (padded.reverse.dropWhile (· == '0')).reverse
      sign ++ toString wholeDigits ++ "." ++ digits

/-- How a series is written as JSON: the layout (`orient`), the decimals of doubles, and
whether texts are escaped to ASCII. -/
structure JsonStyle where
  orient : String
  prec : Nat
  ascii : Bool

/-- A value as a JSON value: missing values and infinities are `null`. -/
def jsonCell (style : JsonStyle) : Cell → String
  | .none => "null"
  | .bool b => if b then "true" else "false"
  | .int i => toString i
  | .float f => if f.isNaN || f.isInf then "null" else jsonFloat style.prec f
  | .str s => jsonString style.ascii s
  | c => jsonString style.ascii c.text

/-- The JSON text of a series named `name`: an object from the labels' texts to the values
(`index`), a list of the values (`records`, `values`), or an object of the name, the labels and
the values (`split`). -/
def seriesJson (style : JsonStyle) (labels : Column) (c : Column) (name : Cell) : String :=
  let values := (List.range c.size).map fun i => jsonCell style (c.cell i)
  match style.orient with
  | "records" | "values" => "[" ++ ",".intercalate values ++ "]"
  | "split" =>
    let keys := (List.range labels.size).map fun i => jsonCell style (labels.cell i)
    "\x7b\"name\":" ++ jsonCell style name ++ ",\"index\":[" ++ ",".intercalate keys ++
      "],\"data\":[" ++ ",".intercalate values ++ "]\x7d"
  | _ =>
    let pairs := (List.range c.size).map fun i =>
      jsonString style.ascii (labels.cell i).text ++ ":" ++ (values.getD i "null")
    "\x7b" ++ ",".intercalate pairs ++ "\x7d"

end Dataflow.Eval
