import Dataflow.Json.Value
import Dataflow.Table.Cell
import Dataflow.Failure
/-!
# Configuration values

The configuration of a node is a JSON value, read the way the node reads it: as a dynamic
value with a type name, a truth value, a text (`text`) and a written form (`repr`), keyed
lookup that only dictionaries have, iteration (lists by item, texts by character,
dictionaries by key) and, for scalars, a table cell to compare column labels with.

Asking a value that is no dictionary for a key fails with an attribute error, iterating a
scalar fails with a type error, and a list or a dictionary cannot stand for a label.
-/

namespace Dataflow

namespace Json

/-- The type name of a value. -/
def typeName : Json → String
  | .null => "NoneType"
  | .bool _ => "bool"
  | .int _ => "int"
  | .float _ => "float"
  | .str _ => "str"
  | .arr _ => "list"
  | .obj _ => "dict"

/-- Whether a value counts as true: not nothing, false, zero or empty. -/
def truthy : Json → Bool
  | .null => false
  | .bool b => b
  | .int i => i != 0
  | .float f => f != 0
  | .str s => !s.isEmpty
  | .arr items => !items.isEmpty
  | .obj fields => !fields.isEmpty

mutual

/-- The written form of a value: texts quoted, lists and dictionaries with their items
written. -/
def repr : Json → String
  | .null => "None"
  | .bool true => "True"
  | .bool false => "False"
  | .int i => toString i
  | .float f => floatText f
  | .str s => Text.quoteText s
  | .arr items => "[" ++ reprItems items ++ "]"
  | .obj fields => "\x7b" ++ reprFields fields ++ "\x7d"

/-- The written items of a list, separated by commas. -/
def reprItems : List Json → String
  | [] => ""
  | [j] => repr j
  | j :: rest => repr j ++ ", " ++ reprItems rest

/-- The written members of a dictionary, separated by commas. -/
def reprFields : List (String × Json) → String
  | [] => ""
  | [(k, j)] => Text.quoteText k ++ ": " ++ repr j
  | (k, j) :: rest => Text.quoteText k ++ ": " ++ repr j ++ ", " ++ reprFields rest

end

/-- The text of a value: a text as it is, anything else written. -/
def text : Json → String
  | .str s => s
  | j => j.repr

/-- The failure of asking a value that is no dictionary for a key. -/
def noGet (j : Json) : Failure := ⟨.attribute, s!"'{j.typeName}' object has no attribute 'get'"⟩

/-- The value under a key of a dictionary (the last one given), or `none`. -/
def lookup (j : Json) (key : String) : Outcome (Option Json) :=
  match j with
  | .obj fields => .ok (fields.lookup key)
  | _ => .error (noGet j)

/-- The value under a key, or a default. -/
def getOr (j : Json) (key : String) (default : Json) : Outcome Json :=
  return (← j.lookup key).getD default

/-- The items of an iteration over a value. -/
def items : Json → Outcome (List Json)
  | .arr items => .ok items
  | .str s => .ok (s.toList.map fun c => .str (String.singleton c))
  | .obj fields => .ok (fields.map fun (k, _) => .str k)
  | j => .error ⟨.type, s!"'{j.typeName}' object is not iterable"⟩

/-- The cell a scalar stands for, as a key; lists and dictionaries are no keys. -/
def key : Json → Outcome Cell
  | .null => .ok .none
  | .bool b => .ok (.bool b)
  | .int i => .ok (.int i)
  | .float f => .ok (.float f)
  | .str s => .ok (.str s)
  | j => .error ⟨.type, s!"unhashable type: '{j.typeName}'"⟩

mutual

/-- The value of a cell: lists and tuples as arrays. -/
def ofCell : Cell → Json
  | .none => .null
  | .bool b => .bool b
  | .int i => .int i
  | .float f => .float f
  | .str s => .str s
  | .complex re im => .obj [("type", .str "complex"), ("repr", .str (Cell.complexText re im))]
  | .bytes s => .obj [("type", .str "bytes"), ("repr", .str (Cell.bytesText s))]
  | .other cls t _ => .obj [("type", .str cls), ("repr", .str t)]
  | .seq _ items => .arr (ofCells items)

/-- The values of cells. -/
def ofCells : List Cell → List Json
  | [] => []
  | c :: rest => ofCell c :: ofCells rest

end

/-- Whether a value is a given text. -/
def isText (j : Json) (s : String) : Bool :=
  match j with
  | .str t => t == s
  | _ => false

/-- Joins texts with a separator; an item that is no text fails as joining it does. -/
def joinTexts (sep : String) (items : List Json) : Outcome String :=
  let rec go : Nat → List Json → List String → Outcome String
    | _, [], acc => .ok (sep.intercalate acc.reverse)
    | i, .str s :: rest, acc => go (i + 1) rest (s :: acc)
    | i, j :: _, _ =>
      .error ⟨.type, s!"sequence item {i}: expected str instance, {j.typeName} found"⟩
  go 0 items []

end Json

end Dataflow
