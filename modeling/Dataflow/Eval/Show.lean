import Dataflow.Eval.Align
import Dataflow.Number.Fixed
import Dataflow.Number.Exact
import Dataflow.Text.Quote
/-!
# Texts of arrays and series

The text of a value as the language's `str` and `repr` give it. Scalars and lists are written
as their literals; arrays and series are laid out as the numeric and table libraries print
them.

An array is its values between brackets, each written in a common style and padded to a
common width (`arrayWords`), the lines broken before 75 characters (`wrapWords`):

* floats are written with the shortest digits that read back as the same float, at most eight
  after the point (more are rounded away); the whole parts are padded on the left and the
  fractions on the right, so that the points line up. When the magnitudes of the non-zero
  values span more than three orders, or reach `1e8`, or fall below `1e-4`, every value is
  written with an exponent instead, with as many fraction digits as the longest needs;
* integers are padded on the left to the widest; truth values are ` True` and `False`;
* other values are written as their literals.

A series is one line per value: its label, padded on the right to three more than the widest
label, then its value, padded on the left to the widest value (`seriesText`), and last a line
with its name, its length when it is cut, and its storage kind. Floats get six decimals, the
trailing zeros common to all of them dropped (one is kept), and an exponent when some value is
too small to show. A series of more than sixty values shows its first five and last five
around a line of dots.
-/

namespace Dataflow.Eval

/-! ### Laying out words -/

/-- A text padded with blanks on the left to `width` characters. -/
def padLeft (width : Nat) (s : String) : String := repeatChar ' ' (width - s.length) ++ s

/-- A text padded with blanks on the right to `width` characters. -/
def padRight (width : Nat) (s : String) : String := s ++ repeatChar ' ' (width - s.length)

/-- The greatest of some numbers, `0` for none. -/
def widest (ns : List Nat) : Nat := ns.foldl max 0

/-- Words padded on the left to the widest of them. -/
def flushRight (ws : List String) : List String :=
  let w := widest (ws.map String.length)
  ws.map (padLeft w)

/-- A text without its trailing blanks. -/
def dropTrailingBlanks (s : String) : String :=
  String.ofList (s.toList.reverse.dropWhile (· == ' ')).reverse

/-- Words between brackets as the numeric library lays out a one-dimensional array: each
followed by `sep` but the last, a line broken (trailing blanks dropped) before a word that
would reach past `width` characters, and each new line started with `hang`. -/
def wrapWords (sep hang : String) (width : Nat) (words : List String) : String :=
  let extend (acc : String × String) (w : String) : String × String :=
    let (done, line) := acc
    if line.length + w.length > width && line.length > hang.length then
      (done ++ dropTrailingBlanks line ++ "\n", hang ++ w)
    else (done, line ++ w)
  let (done, line) := match words with
    | [] => ("", hang)
    | first :: rest => rest.foldl (fun acc w => extend (acc.1, acc.2 ++ sep) w) (extend ("", hang) first)
  "[" ++ String.ofList ((done ++ line).toList.drop hang.length) ++ "]"

/-- Words laid out as the numeric library prints a one-dimensional array: between brackets,
separated by blanks, lines broken before 75 characters, and only the first and last three
words shown, around an ellipsis, when there are more than a thousand. -/
def arrayText (words : List String) : String :=
  let shown := if words.length > 1000 then words.take 3 ++ ["..."] ++ words.drop (words.length - 3)
    else words
  wrapWords " " " " 74 shown

/-! ### Floats in arrays -/

/-- A float's sign as the array printer writes it: `-` for a set sign bit, `+` for the others
when `plus` asks for it. -/
def floatSign (plus : Bool) (x : Float) : String :=
  if Decimal.signBit x then "-" else if plus then "+" else ""

/-- A finite float written without an exponent, as its sign and whole digits and its digits
after the point: the shortest digits that read back as the float when they need at most eight
after the point, and otherwise the value rounded to eight, trailing zeros dropped. -/
def positionalParts (plus : Bool) (x : Float) : String × String :=
  let b := Decimal.Binary.ofBits x.toBits
  let split (s : String) (k : Nat) : String × String :=
    (String.ofList (s.toList.take (s.length - k)), String.ofList (s.toList.drop (s.length - k)))
  let (whole, frac) :=
    if x == 0 then ("0", "")
    else
      let d := b.shortest
      if d.exp ≥ 0 then (toString d.digits ++ repeatChar '0' d.exp.toNat, "")
      else if d.exp.natAbs ≤ 8 then split (Decimal.digitsOf d.digits (d.exp.natAbs + 1)) d.exp.natAbs
      else
        let (w, f) := split (Decimal.digitsOf (b.nearestOnGrid (-8)) 9) 8
        (w, Decimal.trimZeros f)
  (floatSign plus x ++ whole, frac)

/-- A finite float written with an exponent, as its sign and leading digit, its digits after
the point and its exponent: the shortest digits that read back as the float when there are at
most nine, and otherwise the value rounded to nine, trailing zeros dropped. -/
def scientificParts (plus : Bool) (x : Float) : String × String × Int :=
  let b := Decimal.Binary.ofBits x.toBits
  let (lead, frac, e) :=
    if x == 0 then ("0", "", (0 : Int))
    else
      let d := b.shortest
      let s := toString d.digits
      if s.length ≤ 9 then
        (String.ofList (s.toList.take 1), String.ofList (s.toList.drop 1), d.exp + s.length - 1)
      else
        let (n, e) := b.significant 8
        let t := Decimal.digitsOf n 9
        (String.ofList (t.toList.take 1), Decimal.trimZeros (String.ofList (t.toList.drop 1)), e)
  (floatSign plus x ++ lead, frac, e)

/-- How the floats of an array are written: with an exponent or without, the width of the
whole parts (`left`) and of what follows the point (`right`), the fraction digits and exponent
digits of the exponent notation, and whether positive values get a `+`. -/
structure FloatStyle where
  scientific : Bool
  left : Nat
  right : Nat
  fraction : Nat
  exponent : Nat
  plus : Bool
deriving Inhabited

/-- The style of an array's floats, chosen from its finite values: the exponent notation when
the non-zero magnitudes reach `1e8`, fall below `1e-4` or span more than a factor of 1000.
NaN and the infinities only widen the whole parts, so that they fit. -/
def floatStyle (plus : Bool) (vs : List Float) : FloatStyle :=
  let finite := vs.filter fun f => !f.isNaN && !f.isInf
  let sizes := (finite.filter (· != 0)).map Float.abs
  let scientific := match sizes.max?, sizes.min? with
    | some hi, some lo => hi ≥ 1e8 || lo < 1e-4 || hi / lo > 1000
    | _, _ => false
  let base : FloatStyle :=
    if finite.isEmpty then ⟨false, 0, 0, 0, 0, plus⟩
    else if scientific then
      let parts := finite.map (scientificParts plus)
      let fraction := widest (parts.map fun p => p.2.1.length)
      let exponent := widest (parts.map fun p => max 2 (toString p.2.2.natAbs).length)
      ⟨true, widest (parts.map fun p => p.1.length), exponent + 2 + fraction, fraction, exponent, plus⟩
    else
      let parts := finite.map (positionalParts plus)
      ⟨false, widest (parts.map fun p => p.1.length), widest (parts.map fun p => p.2.length), 0, 0, plus⟩
  if finite.length == vs.length then base
  else
    let negInf := plus || vs.any fun f => f.isInf && f < 0
    let offset := base.right + 1
    { base with left := max base.left (max (3 - offset) (3 + (if negInf then 1 else 0) - offset)) }

/-- A float written in a style. -/
def FloatStyle.render (st : FloatStyle) (x : Float) : String :=
  if x.isNaN || x.isInf then
    let t := if x.isNaN then (if st.plus then "+nan" else "nan")
      else if x < 0 then "-inf" else if st.plus then "+inf" else "inf"
    padLeft (st.left + st.right + 1) t
  else if st.scientific then
    let (lead, frac, e) := scientificParts st.plus x
    padLeft st.left lead ++ "." ++ frac ++ repeatChar '0' (st.fraction - frac.length) ++ "e" ++
      (if e < 0 then "-" else "+") ++ padNat st.exponent e.natAbs
  else
    let (whole, frac) := positionalParts st.plus x
    padLeft st.left whole ++ "." ++ frac ++ repeatChar ' ' (st.right - frac.length)

/-- Floats written in their common style. -/
def floatWords (vs : List Float) : List String :=
  let st := floatStyle false vs
  vs.map st.render

/-- Complex numbers written as the numeric library writes them in arrays: the real parts in
their common style, then the imaginary parts, signed, in theirs, and `j` before the padding. -/
def complexWords (vs : List (Float × Float)) : List String :=
  let re := floatStyle false (vs.map (·.1))
  let im := floatStyle true (vs.map (·.2))
  vs.map fun (a, b) =>
    let i := im.render b
    let t := dropTrailingBlanks i
    re.render a ++ t ++ "j" ++ String.ofList (i.toList.drop t.length)

/-- The values of a column written as the numeric library writes them in an array. -/
def arrayWords (c : Column) : List String :=
  match c with
  | .int64 vs => flushRight (vs.toList.map toString)
  | .uint64 vs => flushRight (vs.toList.map toString)
  | .float64 vs | .float16 vs => floatWords vs.toList
  | .bool vs => vs.toList.map fun b => if b then " True" else "False"
  | .object vs => vs.toList.map Cell.repr
  | .complex128 vs => complexWords vs.toList

/-- The positions an array or series shows: all of them, or the first and last `edge` when
there are more than `most`. -/
def shownPositions (n most edge : Nat) : Array Nat × Bool :=
  if n > most then ((Array.range edge) ++ (Array.range edge).map (n - edge + ·), true)
  else (Array.range n, false)

/-- The text of an array, as `str` gives it. -/
def arrayString (c : Column) : String :=
  let (ps, cut) := shownPositions c.size 1000 3
  let words := arrayWords (c.take ps)
  wrapWords " " " " 74 (if cut then words.take 3 ++ ["..."] ++ words.drop 3 else words)

/-- Whether an array's storage kind goes without saying in its literal form. -/
def impliedKind (c : Column) : Bool :=
  match c with
  | .int64 _ | .float64 _ | .bool _ | .complex128 _ => true
  | _ => false

/-- The literal form of an array, as `repr` gives it: `array(...)` with the values separated by
commas, and the storage kind when it does not go without saying (or the array is empty). -/
def arrayRepr (c : Column) : String :=
  let (ps, cut) := shownPositions c.size 1000 3
  let words := arrayWords (c.take ps)
  let words := if cut then words.take 3 ++ ["..."] ++ words.drop 3 else words
  let body := "array(" ++ wrapWords ", " "       " 73 words
  let extras := (if cut then [s!"shape=({c.size},)"] else []) ++
    (if !impliedKind c || c.size == 0 then [s!"dtype={c.dtype.name}"] else [])
  if extras.isEmpty then body ++ ")"
  else
    let text := body ++ ","
    let extra := ", ".intercalate extras ++ ")"
    let lastLine := (text.splitOn "\n").getLastD ""
    let spacer := if lastLine.length + extra.length + 1 > 75 then "\n      " else " "
    text ++ spacer ++ extra

/-! ### Series -/

/-- A text with its tabs and line ends written as escapes, as the table library shows texts. -/
def escapeControls (s : String) : String :=
  String.join (s.toList.map fun c =>
    if c == '\t' then "\\t" else if c == '\n' then "\\n" else if c == '\r' then "\\r"
    else String.singleton c)

mutual

/-- The text of a value in the text of a series: texts with their control characters escaped,
lists and tuples as their items' texts in brackets (texts unquoted), other values as their
plain text. -/
def shownText (c : Cell) : String :=
  match c with
  | .str s => escapeControls s
  | .seq false items => "[" ++ shownItems items ++ "]"
  | .seq true [item] => "(" ++ shownText item ++ ",)"
  | .seq true items => "(" ++ shownItems items ++ ")"
  | c => c.text

/-- The texts of items in the text of a series, separated by commas. -/
def shownItems : List Cell → String
  | [] => ""
  | [c] => shownText c
  | c :: rest => shownText c ++ ", " ++ shownItems rest

end

/-- A float with six decimals, a blank or a minus before it (`e`: with an exponent). -/
def sixDecimals (conv : Char) (f : Float) : String :=
  let t := Decimal.floatDigits f conv 6 false
  if t.startsWith "-" then t else " " ++ t

/-- Drops the trailing zeros of one float's decimals, keeping one. -/
def trimOneFloat (s : String) : String :=
  let t := String.ofList (s.toList.reverse.dropWhile (· == '0')).reverse
  if t.endsWith "." then t ++ "0" else t

/-- Whether a word is a number with a point and no exponent: blanks, a sign, digits, the point,
and digits. -/
def isPointNumber (s : String) : Bool :=
  let cs := s.toList.dropWhile (· == ' ')
  let cs := match cs with
    | c :: rest => if c == '+' || c == '-' then rest else cs
    | [] => []
  let whole := cs.takeWhile Char.isDigit
  match cs.drop whole.length with
  | '.' :: frac => !whole.isEmpty && frac.all Char.isDigit
  | _ => false

/-- Drops the trailing zeros common to all the numbers among some words, as long as all of them
end in a zero, then gives a point at the end a zero after it. -/
def trimCommonZeros (ws : List String) : List String :=
  let numbers := ws.map isPointNumber
  let go (ws : List String) : List String :=
    (ws.zip numbers).map fun (w, n) => if n then String.ofList (w.toList.take (w.length - 1)) else w
  let trimmable (ws : List String) : Bool :=
    let finite := (ws.zip numbers).filterMap fun (w, n) => if n then some w else none
    !finite.isEmpty && finite.all (·.endsWith "0")
  let rec loop (fuel : Nat) (ws : List String) : List String :=
    match fuel with
    | 0 => ws
    | fuel + 1 => if trimmable ws then loop fuel (go ws) else ws
  let trimmed := loop (widest (ws.map String.length) + 1) ws
  (trimmed.zip numbers).map fun (w, n) => if n && w.endsWith "." then w ++ "0" else w

/-- Cuts a word at `+`, `-` and `j`, keeping the cuts as words of their own. -/
def cutAtSigns (s : String) : List String :=
  let (parts, cur) := s.toList.foldl (fun (acc : List String × List Char) c =>
    let (parts, cur) := acc
    if c == '+' || c == '-' || c == 'j' then (String.singleton c :: String.ofList cur.reverse :: parts, [])
    else (parts, c :: cur)) ([], [])
  (String.ofList cur.reverse :: parts).reverse

/-- The floats of a series as the table library writes them: six decimals and the common
trailing zeros dropped, or with exponents when some non-zero magnitude is below `1e-6`, or when
some exceeds `1e6` and a word is longer than twelve characters. NaN is `nan`. -/
def seriesFloatWords (nan : String) (vs : List Float) : List String :=
  let write (conv : Char) : List String :=
    trimCommonZeros (vs.map fun f => if f.isNaN then nan else sixDecimals conv f)
  let fixed := write 'f'
  let tooLong := widest (fixed.map String.length) > 12
  let large := vs.any fun f => f.abs > 1e6
  let small := vs.any fun f => f.abs < 1e-6 && f.abs > 0
  if small || (tooLong && large) then write 'e' else fixed

/-- A complex number with six decimals in each part, as the text formatting of the language
writes it with a blank sign. -/
def complexSix (conv : Char) (re im : Float) : String :=
  let imText := Decimal.floatDigits im conv 6 false
  sixDecimals conv re ++ (if imText.startsWith "-" then imText else "+" ++ imText) ++ "j"

/-- The complex numbers of a series as the table library writes them: each part as its floats
are written, the imaginary parts padded to a common width. -/
def seriesComplexWords (vs : List (Float × Float)) : List String :=
  let write (conv : Char) : List String := vs.map fun (re, im) =>
    if !re.isNaN && !im.isNaN then complexSix conv re im
    else if !re.isNaN then sixDecimals conv re ++ "+NaNj"
    else if !im.isNaN then
      let t := String.ofList ((sixDecimals conv im).toList.dropWhile (· == ' '))
      if t.startsWith "-" then "NaN" ++ t ++ "j" else "NaN+" ++ t ++ "j"
    else "NaN+NaNj"
  let magnitudes := vs.map fun (re, im) => Float.sqrt (re * re + im * im)
  let split (ws : List String) : List String × List String :=
    let parts := ws.map cutAtSigns
    (parts.map fun p => String.join (p.take (p.length - 4)),
     parts.map fun p => String.join ((p.drop (p.length - 4)).take 2))
  let trim (ws : List String) : List String :=
    let (reals, imags) := split ws
    let padded := trimCommonZeros (reals ++ imags)
    let width := widest (padded.map String.length) - 1
    let n := ws.length
    ((padded.take n).zip (padded.drop n)).map fun (r, i) =>
      r ++ String.ofList (i.toList.take 1) ++ padLeft width (String.ofList (i.toList.drop 1)) ++ "j"
  let fixed := trim (write 'f')
  let tooLong := widest (fixed.map String.length) > 12
  let large := magnitudes.any (· > 1e6)
  let small := magnitudes.any fun m => m < 1e-6 && m > 0
  if small || (tooLong && large) then trim (write 'e') else fixed

/-- A value of a column of mixed values as the table library writes it: a blank, then the
value's text; floats with up to six decimals. -/
def mixedWord (c : Cell) : String :=
  match c with
  | .none => " None"
  | .float f => if f.isNaN then " NaN" else trimOneFloat (sixDecimals 'f' f)
  | c => " " ++ shownText c

/-- Words padded on the left to the widest, words longer than fifty characters cut to
forty-seven and three points. -/
def fixedWidth (ws : List String) : List String :=
  let w := min 50 (widest (ws.map String.length))
  flushRight (ws.map fun s => if s.length > w then String.ofList (s.toList.take (w - 3)) ++ "..." else s)

/-- The values of a series as the table library writes them, one word each. -/
def seriesWords (c : Column) : List String :=
  match c with
  | .int64 vs => fixedWidth (vs.toList.map fun i => if i < 0 then toString i else " " ++ toString i)
  | .uint64 vs => fixedWidth (vs.toList.map fun i => " " ++ toString i)
  | .float64 vs | .float16 vs => fixedWidth (seriesFloatWords "NaN" vs.toList)
  | .bool vs => fixedWidth (vs.toList.map fun b => if b then " True" else " False")
  | .object vs => fixedWidth (vs.toList.map mixedWord)
  | .complex128 vs => fixedWidth (seriesComplexWords vs.toList)

/-- Drops one blank from the front of every word as long as all of them start with one. -/
def trimFront (ws : List String) : List String :=
  let rec loop (fuel : Nat) (ws : List String) : List String :=
    match fuel with
    | 0 => ws
    | fuel + 1 =>
      if !ws.isEmpty && ws.all (·.startsWith " ") then loop fuel (ws.map fun w => String.ofList (w.toList.drop 1))
      else ws
  loop (widest (ws.map String.length)) ws

/-- The labels of a series as the table library writes them, one word each. -/
def labelWords (labels : Column) : List String :=
  trimFront (match labels with
    | .int64 vs => vs.toList.map fun i => if i < 0 then toString i else " " ++ toString i
    | .uint64 vs => vs.toList.map fun i => " " ++ toString i
    | .float64 vs | .float16 vs => seriesFloatWords " NaN" vs.toList
    | .bool vs => vs.toList.map fun b => if b then " True" else " False"
    | .object vs => vs.toList.map mixedWord
    | .complex128 vs => seriesComplexWords vs.toList)

/-- The last line of a series' text: its name, its length when it is cut, and its storage
kind. -/
def seriesFooter (name : Cell) (length : Option Nat) (d : DType) : String :=
  let parts := (match name with
    | .none => []
    | n => [s!"Name: {shownText n}"]) ++
    (match length with
    | some n => [s!"Length: {n}"]
    | none => []) ++ [s!"dtype: {d.name}"]
  ", ".intercalate parts

/-- The text of a series with labels `labels` and name `name`, as `str` gives it. -/
def seriesText (labels : Column) (c : Column) (name : Cell) : String :=
  let n := c.size
  let (ps, cut) := shownPositions n 60 5
  let footer := seriesFooter name (if cut then some n else none) c.dtype
  if n == 0 then s!"Series([], {footer})"
  else
    let values := seriesWords (c.take ps)
    let keys := labelWords (labels.take ps)
    let (values, keys) :=
      if cut then
        let w := (values.getD 4 "").length
        let dots := if w > 3 then "..." else ".."
        let margin := w - dots.length
        let left := margin / 2 + (if margin % 2 == 1 && w % 2 == 1 then 1 else 0)
        let dots := repeatChar ' ' left ++ dots ++ repeatChar ' ' (margin - left)
        (values.take 5 ++ [dots] ++ values.drop 5, keys.take 5 ++ [""] ++ keys.drop 5)
      else (values, keys)
    let keyWidth := widest (keys.map String.length) + 3
    let valueWidth := widest (values.map String.length)
    let lines := (keys.zip values).map fun (k, v) => padRight keyWidth k ++ padRight valueWidth v
    "\n".intercalate lines ++ "\n" ++ footer

/-! ### Values -/

/-- The literal form of a fixed-width scalar, as the numeric library writes it. -/
def Fixed.literal : Fixed → String
  | .int64 i => s!"np.int64({i})"
  | .float64 f => s!"np.float64({floatText f})"
  | .bool b => if b then "np.True_" else "np.False_"
  | .float16 f => s!"np.float16({Decimal.halfText f})"

/-- The labels of a series that stands at the rows: the table's rows when there is one for
each value, and positions otherwise. -/
def rowsFor (rows c : Column) : Column := if rows.size == c.size then rows else Column.range c.size

/-- The text of a value that is not a list, as `str` gives it; a series at the rows is
labelled by `rows`. -/
def Obj.leafText (rows : Column) : Obj → String
  | .plain c => c.text
  | .fixed (.float16 f) => Decimal.halfText f
  | .fixed x => x.cell.text
  | .series c => seriesText (rowsFor rows c) c .none
  | .labelled ⟨c, .array, _⟩ => arrayString c
  | .labelled ⟨c, .rows, name⟩ => seriesText (rowsFor rows c) c name
  | .labelled ⟨c, .labels l, name⟩ => seriesText l c name
  | .ellipsis => "Ellipsis"
  | .indexer how _ => s!"<pandas.core.indexing.{how.className} object at 0x?>"
  | o => o.className

mutual

/-- The literal form of a value, as `repr` gives it. -/
def Obj.reprAt (rows : Column) : Obj → String
  | .plain c => c.repr
  | .fixed x => x.literal
  | .labelled ⟨c, .array, _⟩ => arrayRepr c
  | .list items => "[" ++ ", ".intercalate (reprItems rows items) ++ "]"
  | o => o.leafText rows

/-- The literal forms of the items of a list. -/
def reprItems (rows : Column) : List Obj → List String
  | [] => []
  | o :: rest => o.reprAt rows :: reprItems rows rest

end

/-- The text of a value, as `str` gives it: a list as its literal form. -/
def Obj.textAt (rows : Column) (o : Obj) : String :=
  match o with
  | .list _ => o.reprAt rows
  | o => o.leafText rows

end Dataflow.Eval
