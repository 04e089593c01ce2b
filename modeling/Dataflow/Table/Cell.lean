import Dataflow.Number.Text
import Dataflow.Number.Exact
import Dataflow.Text.Quote
/-!
# Cells

A cell is one value of a column of mixed values, and also the label of a column or a row:
nothing, a truth value, an integer of any size, a float, a text, a complex number, a byte
string, or a value of some other class known only by its texts. Cells compare the way the
values they stand for do: truth values count as the integers `0` and `1`, integers and floats
compare exactly by their values, texts and byte strings compare character by character, and
values of other kinds are equal to nothing but themselves and have no order between them.
-/

namespace Dataflow

/-- One value of a mixed column, or a label. -/
inductive Cell where
  | none
  | bool (b : Bool)
  | int (i : Int)
  | float (f : Float)
  | str (s : String)
  | complex (re im : Float)
  /-- a byte string, each character standing for one byte -/
  | bytes (s : String)
  /-- a value of another class: the class name, its text and its literal form -/
  | other (cls : String) (text : String) (literal : String)
  /-- a list of values, or a tuple when `tuple` is set -/
  | seq (tuple : Bool) (items : List Cell)
deriving Inhabited, Repr

namespace Cell

/-- The name of the kind of a value, as error messages give it. -/
def typeName : Cell → String
  | .none => "NoneType"
  | .bool _ => "bool"
  | .int _ => "int"
  | .float _ => "float"
  | .str _ => "str"
  | .complex _ _ => "complex"
  | .bytes _ => "bytes"
  | .other cls _ _ => cls
  | .seq true _ => "tuple"
  | .seq false _ => "list"

/-- A missing value: nothing, or a float NaN. -/
def isNull : Cell → Bool
  | .none => true
  | .float f => f.isNaN
  | _ => false

/-- The text of a float as a part of a complex number: as a float is written, but without the
`.0` of whole numbers. -/
def partText (f : Float) : String :=
  let t := floatText f
  if t.endsWith ".0" then String.ofList (t.toList.take (t.length - 2)) else t

/-- The literal form of a complex number: the imaginary part alone when the real part is `+0`,
otherwise both in parentheses, the imaginary part with its sign. -/
def complexText (re im : Float) : String :=
  let imText := partText im
  if re == 0 && re.toBits >>> 63 == 0 then imText ++ "j"
  else
    let signed := if imText.startsWith "-" then imText else "+" ++ imText
    "(" ++ partText re ++ signed ++ "j)"

/-- The two hexadecimal digits of a byte, in lower case. -/
def hexByte (n : Nat) : String :=
  let digit (d : Nat) : Char := if d < 10 then Char.ofNat (48 + d) else Char.ofNat (87 + d)
  String.ofList [digit (n / 16 % 16), digit (n % 16)]

/-- The literal form of a byte string: `b` and the bytes in single quotes (double quotes when
the bytes hold a single quote and no double quote); the quote, the backslash, tab, newline
and carriage return escaped, and bytes outside printable ASCII as `\x` and two hex digits. -/
def bytesText (s : String) : String :=
  let cs := s.toList
  let quote := if cs.contains '\'' && !cs.contains '"' then '"' else '\''
  let body := cs.foldl (fun acc c =>
    if c == quote || c == '\\' then acc ++ String.ofList ['\\', c]
    else if c == '\t' then acc ++ "\\t"
    else if c == '\n' then acc ++ "\\n"
    else if c == '\r' then acc ++ "\\r"
    else if c.toNat < 32 || c.toNat ≥ 127 then acc ++ "\\x" ++ hexByte c.toNat
    else acc.push c) ""
  "b" ++ String.singleton quote ++ body ++ String.singleton quote

mutual

/-- The literal form of a value: texts quoted, lists in brackets, tuples in parentheses (with
a comma after a single item). -/
def repr : Cell → String
  | .none => "None"
  | .bool true => "True"
  | .bool false => "False"
  | .int i => toString i
  | .float f => floatText f
  | .str s => Text.quoteText s
  | .complex re im => complexText re im
  | .bytes s => bytesText s
  | .other _ _ literal => literal
  | .seq false items => "[" ++ reprItems items ++ "]"
  | .seq true [item] => "(" ++ repr item ++ ",)"
  | .seq true items => "(" ++ reprItems items ++ ")"

/-- The literal forms of items, separated by commas. -/
def reprItems : List Cell → String
  | [] => ""
  | [c] => repr c
  | c :: rest => repr c ++ ", " ++ reprItems rest

end

/-- The plain text of a value: texts as they are. -/
def text : Cell → String
  | .str s => s
  | .other _ t _ => t
  | c => c.repr

/-- Whether a value counts as true: non-zero numbers, non-empty texts, `True`. -/
def truthy : Cell → Bool
  | .none => false
  | .bool b => b
  | .int i => i != 0
  | .float f => f != 0
  | .str s => !s.isEmpty
  | .complex re im => re != 0 || im != 0
  | .bytes s => !s.isEmpty
  | .other _ _ _ => true
  | .seq _ items => !items.isEmpty

/-- The integer value of a truth value or an integer. -/
def asInt? : Cell → Option Int
  | .bool b => some (if b then 1 else 0)
  | .int i => some i
  | _ => Option.none

/-- A number as a complex number, its real and imaginary parts; other values are NaN. -/
def complexParts : Cell → Float × Float
  | .bool b => (if b then 1 else 0, 0)
  | .int i => (Float.ofInt i, 0)
  | .float f => (f, 0)
  | .complex re im => (re, im)
  | _ => (0.0 / 0.0, 0)

/-- Compares texts character by character. -/
def compareText (a b : String) : Ordering :=
  compare a.toList b.toList

/-- Compares two numbers exactly; `none` when one is NaN. -/
def compareNumbers : Cell → Cell → Option Ordering
  | .float x, .float y =>
    if x.isNaN || y.isNaN then Option.none
    else some (if x < y then .lt else if x == y then .eq else .gt)
  | .float x, b => (b.asInt?.bind fun j => Decimal.compareIntFloat j x).map Ordering.swap
  | a, .float y => a.asInt?.bind fun i => Decimal.compareIntFloat i y
  | a, b => match a.asInt?, b.asInt? with
    | some i, some j => some (compare i j)
    | _, _ => Option.none

/-- Whether a value is a number: a truth value, an integer or a float. -/
def isNumber : Cell → Bool
  | .bool _ | .int _ | .float _ => true
  | _ => false

mutual

/-- Equality of values: numbers by value (a complex number equals a real one when its
imaginary part is zero and its real part equals it), texts by characters, nothing with
nothing, lists and tuples item by item. -/
def same (a b : Cell) : Bool :=
  if a.isNumber && b.isNumber then compareNumbers a b == some .eq
  else match a, b with
    | .str x, .str y => x == y
    | .none, .none => true
    | .complex a b, .complex c d => a == c && b == d
    | .bytes x, .bytes y => x == y
    | .other c t _, .other d u _ => c == d && t == u
    | .complex re im, c | c, .complex re im =>
      c.isNumber && im == 0 && compareNumbers (.float re) c == some .eq
    | .seq t xs, .seq u ys => t == u && sameItems xs ys
    | _, _ => false

/-- Equality of lists of values, item by item. -/
def sameItems : List Cell → List Cell → Bool
  | [], [] => true
  | x :: xs, y :: ys => same x y && sameItems xs ys
  | _, _ => false

end

/-- The order of two values: `ok (some o)` for comparable values, `ok none` when a NaN makes
them unordered, and an error naming the kinds when values of those kinds have no order. -/
def order (a b : Cell) : Except (String × String) (Option Ordering) :=
  if a.isNumber && b.isNumber then .ok (compareNumbers a b)
  else match a, b with
    | .str x, .str y => .ok (some (compareText x y))
    | .bytes x, .bytes y => .ok (some (compareText x y))
    | _, _ => .error (a.typeName, b.typeName)

end Cell

instance : BEq Cell := ⟨Cell.same⟩

end Dataflow
