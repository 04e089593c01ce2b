import Dataflow.Number.Text
/-!
# JSON documents

Configurations, workflow documents and request bodies are JSON documents. Objects keep their
members in order, because the order is observable: it fixes the order of aggregated columns
and of the entries of a response. Integers are of any size and floats are doubles, and the
two are distinct values even when equal as numbers.
-/

namespace Dataflow

/-- A JSON document. -/
inductive Json where
  | null
  | bool (b : Bool)
  | int (i : Int)
  | float (f : Float)
  | str (s : String)
  | arr (items : List Json)
  /-- an object: its members in order, no key twice -/
  | obj (fields : List (String × Json))
deriving Inhabited, Repr

namespace Json

/-- The value of a member of an object, if it has that member. -/
def get? (j : Json) (key : String) : Option Json :=
  match j with
  | .obj fields => fields.lookup key
  | _ => none

/-- Sets a member of an object: replaced in place when present, added last otherwise. -/
def setField (fields : List (String × Json)) (key : String) (v : Json) :
    List (String × Json) :=
  if fields.any (·.1 == key) then fields.map fun (k, w) => if k == key then (k, v) else (k, w)
  else fields ++ [(key, v)]

/-- The hexadecimal digits of a code point, four wide. -/
def hex4 (n : Nat) : String :=
  let digit (d : Nat) : Char := if d < 10 then Char.ofNat (48 + d) else Char.ofNat (87 + d)
  String.ofList [digit (n / 4096 % 16), digit (n / 256 % 16), digit (n / 16 % 16), digit (n % 16)]

/-- A string as a JSON string literal: quotes, backslashes and control characters escaped. -/
def quote (s : String) : String :=
  let body := s.toList.foldl (fun acc c =>
    match c with
    | '"' => acc ++ "\\\""
    | '\\' => acc ++ "\\\\"
    | '\n' => acc ++ "\\n"
    | '\r' => acc ++ "\\r"
    | '\t' => acc ++ "\\t"
    | '\x08' => acc ++ "\\b"
    | '\x0c' => acc ++ "\\f"
    | c => if c.toNat < 32 then acc ++ "\\u" ++ hex4 c.toNat else acc.push c) ""
  "\"" ++ body ++ "\""

/-- The text of a float in a document: its shortest form, or the words for the values
without digits. -/
def floatWord (f : Float) : String :=
  if f.isNaN then "NaN"
  else if f.isInf then (if f > 0 then "Infinity" else "-Infinity")
  else floatText f

mutual

/-- The text of a document. -/
def render : Json → String
  | .null => "null"
  | .bool true => "true"
  | .bool false => "false"
  | .int i => toString i
  | .float f => floatWord f
  | .str s => quote s
  | .arr items => "[" ++ renderItems items ++ "]"
  | .obj fields => "\x7b" ++ renderFields fields ++ "\x7d"

/-- The texts of array items, separated by commas. -/
def renderItems : List Json → String
  | [] => ""
  | [j] => render j
  | j :: rest => render j ++ ", " ++ renderItems rest

/-- The texts of object members, separated by commas. -/
def renderFields : List (String × Json) → String
  | [] => ""
  | [(k, j)] => quote k ++ ": " ++ render j
  | (k, j) :: rest => quote k ++ ": " ++ render j ++ ", " ++ renderFields rest

end

end Json

end Dataflow
