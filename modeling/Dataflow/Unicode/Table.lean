/-!
# Code point tables

The Unicode tables of this library are kept as text (the modules under `Unicode.Tables`) and
read once into sorted arrays, which are searched by halving:

* a `RangeSet` is a set of code points given by closed ranges in increasing order;
* a `RunMap` gives a value to every code point by runs: the value at a code point is the value
  of the last run that starts at or before it.

Both searches rest on `countAtMost`, the number of leading entries of a sorted array that are
at most a key.

Most tables are written in packed numbers (`readPacked`): natural numbers one after another,
each in symbols that are printable ASCII characters, with no separator between them. Their
repeated stretches are written as copies of what came before (`expandCopies`), and the result
is kept range coded (`rangeDecode`).
-/

namespace Dataflow.Unicode

/-- The value of a hexadecimal digit (either case). -/
def hexDigit? (c : Char) : Option Nat :=
  if '0' ≤ c && c ≤ '9' then some (c.toNat - '0'.toNat)
  else if 'a' ≤ c && c ≤ 'f' then some (c.toNat - 'a'.toNat + 10)
  else if 'A' ≤ c && c ≤ 'F' then some (c.toNat - 'A'.toNat + 10)
  else none

/-- The number written in hexadecimal by a nonempty run of digits. -/
def readHex? (s : String) : Option Nat :=
  if s.isEmpty then none
  else s.toList.foldlM (fun acc c => (hexDigit? c).map (acc * 16 + ·)) 0

/-- The number written in hexadecimal, zero when the text is none. -/
def readHex (s : String) : Nat := (readHex? s).getD 0

/-- The pieces of a text between separators, empty pieces dropped. -/
def pieces (sep : Char) (s : String) : List String :=
  (s.splitOn (String.singleton sep)).filter (!·.isEmpty)

/-- The code points written in hexadecimal and joined by `.`. -/
def readSequence (s : String) : List Nat := (pieces '.' s).map readHex

/-- The value of a symbol of packed numbers: its place among the printable ASCII characters
other than the quotes, the backquote, the backslash and the braces. -/
def packedValue (c : Char) : Nat :=
  c.toNat - 33 - ([34, 39, 92, 96, 123, 125].filter (· < c.toNat)).length

/-- Reads packed numbers. The 88 symbols are digits: those of value below 70 end a number and
give its last digit in base 70; those from 70 on come before, most significant first, and give
the quotient by 70 in bijective base 18. -/
def readPacked (s : String) : Array Nat :=
  let step (acc : Array Nat × Nat) (c : Char) : Array Nat × Nat :=
    let v := packedValue c
    if v < 70 then (acc.1.push (acc.2 * 70 + v), 0) else (acc.1, acc.2 * 18 + (v - 70) + 1)
  (s.toList.foldl step (#[], 0)).1

/-- Expands the copies in a text, `fuel` bounding the characters read. A space starts a copy: the
symbol after it, of value `d`, gives its length `3 + d % 29`, and the `d / 29 + 1` symbols after
that give, in base 88, the offset `o`; the copy repeats, one character at a time, those that start
`o + 1` places back, so it may run on into what it has just written. Any other character stands
for itself. -/
def expandCopiesIn : Nat → List Char → Array Char → Array Char
  | 0, _, out => out
  | _, [], out => out
  | fuel + 1, c :: rest, out =>
    if c == ' ' then
      let d := packedValue (rest.headD ' ')
      let width := d / 29 + 1
      let offset := ((rest.drop 1).take width).foldl (fun acc s => acc * 88 + packedValue s) 0
      let start := out.size - offset - 1
      let copied := (List.range (3 + d % 29)).foldl
        (fun (acc : Array Char) k => acc.push (acc.getD (start + k) ' ')) out
      expandCopiesIn fuel (rest.drop (width + 1)) copied
    else expandCopiesIn fuel rest (out.push c)

/-- A text with its copies expanded (`expandCopiesIn`): the tables keep repeated stretches so. -/
def expandCopies (s : String) : String :=
  String.ofList (expandCopiesIn s.length s.toList #[]).toList

/-- The characters of a range code by place: the space, then the symbols of packed numbers. -/
def rangeChars : Array Char :=
  " !#$%&()*+,-./0123456789:;<=>?@ABCDEFGHIJKLMNOPQRSTUVWXYZ[]^_abcdefghijklmnopqrstuvwxyz|~".toList.toArray

/-- The slot that holds `q` when slots of the sizes `counts` are laid end to end: its place and
where it starts. -/
def slotOf : List Nat → Nat → Nat × Nat
  | [], _ => (0, 0)
  | k :: rest, q =>
    if q < k then (0, 0)
    else
      let (s, start) := slotOf rest (q - k)
      (s + 1, start + k)

/-- Takes digits of a range code (symbols of packed numbers, base 88, zeros past its end) into
the window `(range, value)` while the range is below `88 ^ 5`, at most `fuel` of them. -/
def rangeRefill : Nat → Nat × Nat × List Char → Nat × Nat × List Char
  | 0, window => window
  | fuel + 1, (range, value, digits) =>
    if range < 88 * 88 * 88 * 88 * 88 then
      rangeRefill fuel (range * 88, value * 88 + packedValue (digits.headD '!'), digits.drop 1)
    else (range, value, digits)

/-- Decodes `fuel` characters of a range code from its window and the digits left. A character
splits the range in proportion to `counts[prev]`, how often each character has come after the
one before it (from one, by `step` each time). -/
def rangeDecodeIn (step : Nat) :
    Nat → Array (List Nat) → Nat → Nat × Nat × List Char → Array Char → Array Char
  | 0, _, _, _, out => out
  | fuel + 1, counts, prev, (range, value, digits), out =>
    let row := counts.getD prev []
    let unit := range / row.foldl (· + ·) 0
    let (s, start) := slotOf row (value / unit)
    rangeDecodeIn step fuel (counts.modify prev (·.modify s (· + step))) s
      (rangeRefill 6 (unit * row.getD s 0, value - unit * start, digits))
      (out.push (rangeChars.getD s ' '))

/-- The `count` characters that a range code writes, an adaptive arithmetic code of order one:
each character is coded by how often each character has followed the one before it. -/
def rangeDecode (step count : Nat) (code : String) : String :=
  String.ofList (rangeDecodeIn step count (Array.replicate 89 (List.replicate 89 1)) 0
    (rangeRefill 6 (1, 0, code.toList)) #[]).toList

/-- The number of leading entries of a sorted array that are at most `key`, between `lo` and
`hi`: the entries before `lo` are known to be at most `key`, those from `hi` on greater. -/
def countAtMostIn (xs : Array Nat) (key : Nat) (lo hi : Nat) : Nat :=
  if lo < hi then
    let mid := (lo + hi) / 2
    if xs.getD mid 0 ≤ key then countAtMostIn xs key (mid + 1) hi
    else countAtMostIn xs key lo mid
  else lo
termination_by hi - lo
decreasing_by all_goals omega

/-- The number of leading entries of a sorted array that are at most `key`. -/
def countAtMost (xs : Array Nat) (key : Nat) : Nat := countAtMostIn xs key 0 xs.size

/-- A set of code points: closed ranges `[lows[i], highs[i]]` in increasing order. -/
structure RangeSet where
  lows : Array Nat
  highs : Array Nat

/-- Whether a code point lies in one of the ranges. -/
def RangeSet.contains (s : RangeSet) (cp : Nat) : Bool :=
  match countAtMost s.lows cp with
  | 0 => false
  | i + 1 => cp ≤ s.highs.getD i 0

/-- The ranges of packed numbers, after the code point `next`: each range is the distance of
its first code point from `next`, then its size less one. -/
def RangeSet.ofNumbers : List Nat → Nat → Array Nat → Array Nat → RangeSet
  | gap :: size :: rest, next, lows, highs =>
    RangeSet.ofNumbers rest (next + gap + size + 1) (lows.push (next + gap))
      (highs.push (next + gap + size))
  | _, _, lows, highs => ⟨lows, highs⟩

/-- Reads ranges written in packed numbers, each after the one before. -/
def RangeSet.ofPacked (text : String) : RangeSet :=
  RangeSet.ofNumbers (readPacked text).toList 0 #[] #[]

/-- A value for every code point, by runs starting at `starts[i]` with value `values[i]`. -/
structure RunMap (α : Type) where
  starts : Array Nat
  values : Array α

/-- The value of the run a code point falls in; the default value before the first run. -/
def RunMap.get [Inhabited α] (m : RunMap α) (cp : Nat) : α :=
  match countAtMost m.starts cp with
  | 0 => default
  | i + 1 => m.values.getD i default

/-- Reads runs written in packed numbers, each the one number `width × d + k`: the run starts
`d` after the run before it (the first at `d`) and has the value of `k`. -/
def RunMap.ofPacked (width : Nat) (value : Nat → α) (text : String) : RunMap α :=
  let ns := (readPacked text).toList
  let starts := ns.foldl (fun (acc : Array Nat) n => acc.push (acc.back?.getD 0 + n / width)) #[]
  ⟨starts, (ns.map fun n => value (n % width)).toArray⟩

end Dataflow.Unicode
