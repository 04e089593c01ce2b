import Dataflow.Eval.Convert
import Dataflow.Eval.Spec
/-!
# Format templates

`template.format(*args, **kwargs)`: the template's literal text with each replacement field
`{name!conversion:spec}` replaced by the text of a value, read and filled from left to right,
as the language's `str.format` does it.

* `{{` and `}}` stand for braces; any other lone `}` is refused, and so is a `{` at the end.
* A field's name is a position, a keyword or nothing (the next position, counted); positions
  given and positions counted cannot be mixed. Attributes (`.name`) and items (`[key]`, a
  position when it is all digits) may follow.
* The conversion `r`, `s` or `a` turns the value into its literal form, its text or its ASCII
  literal form first.
* The spec may hold fields of its own, filled first, one level deep.
* Texts, integers, floats and complex numbers are formatted by their specification
  (`Dataflow.Eval.Spec`); any other value only by an empty one, as its text.

Each field is read and filled before the text after it is read, so the first fault met from the
left is the one reported.
-/

namespace Dataflow.Eval

/-- How positional fields are being numbered: not yet, counted, or given. -/
inductive Numbering where
  | unset
  | counted (next : Nat)
  | given
deriving Inhabited

/-- The values a template is filled from: the table's rows (for the texts of series), the
positional and keyword arguments. -/
structure FieldSource where
  rows : Column
  args : List Obj
  named : List (String × Obj)

/-- The position a field's first part names, if it is all digits. -/
def fieldIndex (s : List Char) : Outcome (Option Nat) :=
  if s.isEmpty || !s.all Char.isDigit then .ok none
  else
    let n := s.foldl (fun acc d => acc * 10 + (d.toNat - 48)) 0
    if n > Nat.pow 2 63 - 1 then fail .value "Too many decimal digits in format string" else .ok (some n)

/-- An item of a value looked up by a field's `[key]`: a position (all digits) or a text. -/
def fieldItem (rows : Column) (o : Obj) (key : String) (index : Option Nat) : Outcome Obj :=
  match o, index with
  | .list items, some i => match items[i]? with
    | some x => .ok x
    | none => fail .index "list index out of range"
  | .list _, none => typeError "list indices must be integers or slices, not str"
  | .plain (.str s), some i => match s.toList[i]? with
    | some c => .ok (.plain (.str (String.singleton c)))
    | none => fail .index "string index out of range"
  | .plain (.str _), none => typeError "string indices must be integers, not 'str'"
  | .labelled ⟨c, .array, _⟩, some i =>
    if i < c.size then .ok (scalarAt c i)
    else fail .index s!"index {i} is out of bounds for axis 0 with size {c.size}"
  | .labelled ⟨_, .array, _⟩, none =>
    fail .index "only integers, slices (`:`), ellipsis (`...`), numpy.newaxis (`None`) and integer or boolean arrays are valid indices"
  | o, _ => match o.labelled? with
    | some s =>
      let label : Cell := match index with
        | some i => .int i
        | none => .str key
      match positionOf (s.index rows) label with
      | some i => .ok (scalarAt s.values i)
      | none => fail .key (label.repr)
    | none => typeError s!"'{o.typeName}' object is not subscriptable"

/-- Splits the rest of a field's name into its attributes (`true`) and items (`false`). -/
def fieldParts (cs : List Char) : Outcome (List (Bool × String)) :=
  let rec go (fuel : Nat) (cs : List Char) (acc : List (Bool × String)) :
      Outcome (List (Bool × String)) :=
    match fuel, cs with
    | 0, _ | _, [] => .ok acc.reverse
    | fuel + 1, '.' :: rest =>
      let name := rest.takeWhile fun c => c != '.' && c != '['
      if name.isEmpty then fail .value "Empty attribute in format string"
      else go fuel (rest.drop name.length) ((true, String.ofList name) :: acc)
    | fuel + 1, '[' :: rest =>
      let name := rest.takeWhile (· != ']')
      if name.length == rest.length then fail .value "Missing ']' in format string"
      else if name.isEmpty then fail .value "Empty attribute in format string"
      else go fuel (rest.drop (name.length + 1)) ((false, String.ofList name) :: acc)
    | _, _ => fail .value "Only '.' or '[' may follow ']' in format field specifier"
  go (cs.length + 1) cs []

/-- The value a field's name names, and the numbering after it. -/
def fieldValue (src : FieldSource) (attr : Obj → String → Outcome Obj) (name : List Char)
    (numbering : Numbering) : Outcome (Obj × Numbering) := do
  let first := name.takeWhile fun c => c != '.' && c != '['
  let index ← fieldIndex first
  let (index, numbering) ← match index, first.isEmpty, numbering with
    | _, true, .given =>
      fail .value "cannot switch from manual field specification to automatic field numbering"
    | _, true, .unset => pure (some 0, Numbering.counted 1)
    | _, true, .counted n => pure (some n, Numbering.counted (n + 1))
    | some _, false, .counted _ =>
      fail .value "cannot switch from automatic field numbering to manual field specification"
    | some i, false, _ => pure (some i, Numbering.given)
    | none, false, n => pure (none, n)
  let base ← match index with
    | some i => match src.args[i]? with
      | some v => pure v
      | none => fail .index s!"Replacement index {i} out of range for positional args tuple"
    | none => match src.named.lookup (String.ofList first) with
      | some v => pure v
      | none => fail .key (Text.quoteText (String.ofList first))
  let parts ← fieldParts (name.drop first.length)
  let v ← parts.foldlM (fun v (isAttr, key) =>
    if isAttr then attr v key
    else do fieldItem src.rows v key (← fieldIndex key.toList)) base
  return (v, numbering)

/-- The class name of a value as the failure of formatting it by a specification names it. -/
def formatClassName : Obj → String
  | .plain c => c.typeName
  | .labelled ⟨_, .array, _⟩ => "numpy.ndarray"
  | o => o.className

/-- A value formatted by a specification. -/
def formatValue (rows : Column) (v : Obj) (spec : String) : Outcome String :=
  match v with
  | .plain (.str s) => formatText s spec
  | .plain (.int i) | .fixed (.int64 i) => formatInt i "int" spec
  | .plain (.bool b) | .fixed (.bool b) =>
    if spec.isEmpty then .ok (if b then "True" else "False") else formatInt (if b then 1 else 0) "bool" spec
  | .plain (.float f) | .fixed (.float64 f) => formatFloat f "float" spec
  | .plain (.complex re im) => formatComplex re im spec
  | v =>
    if spec.isEmpty then .ok (v.textAt rows)
    else typeError s!"unsupported format string passed to {formatClassName v}.__format__"

/-- A value turned by a conversion character. -/
def convertField (rows : Column) (v : Obj) (conv : Char) : Outcome Obj :=
  match conv with
  | 's' => .ok (.plain (.str (v.textAt rows)))
  | 'r' => .ok (.plain (.str (v.reprAt rows)))
  | 'a' => .ok (.plain (.str (asciiEscaped (v.reprAt rows))))
  | c =>
    if 32 < c.toNat && c.toNat < 127 then fail .value s!"Unknown conversion specifier {c}"
    else
      let code := String.ofList (Nat.toDigits 16 c.toNat)
      fail .value s!"Unknown conversion specifier \\x{code}"

/-- A replacement field, read: its name, conversion, spec, and whether the spec holds fields. -/
structure Field where
  name : List Char
  conversion : Option Char
  spec : List Char
  nested : Bool

/-- Reads the spec of a field up to its closing brace, counting the braces of fields within:
the spec, whether it holds fields, and the rest after the brace. -/
def readSpec (cs : List Char) : Outcome (List Char × Bool × List Char) :=
  let rec go (fuel : Nat) (cs : List Char) (depth : Nat) (nested : Bool) (acc : List Char) :
      Outcome (List Char × Bool × List Char) :=
    match fuel, cs with
    | 0, _ | _, [] => fail .value "unmatched '\x7b' in format spec"
    | fuel + 1, c :: rest =>
      if c == '{' then go fuel rest (depth + 1) true (c :: acc)
      else if c == '}' then
        if depth == 1 then .ok (acc.reverse, nested, rest)
        else go fuel rest (depth - 1) nested (c :: acc)
      else go fuel rest depth nested (c :: acc)
  go (cs.length + 1) cs 1 false []

/-- Reads a field after its opening brace: the field and the rest after its closing brace. -/
def readField (cs : List Char) : Outcome (Field × List Char) := do
  let rec nameEnd (fuel : Nat) (cs : List Char) (acc : List Char) :
      Outcome (List Char × Option Char × List Char) :=
    match fuel, cs with
    | 0, _ | _, [] => fail .value "expected '\x7d' before end of string"
    | fuel + 1, c :: rest =>
      if c == '{' then fail .value "unexpected '\x7b' in field name"
      else if c == '[' then
        let inside := rest.takeWhile (· != ']')
        if inside.length == rest.length then fail .value "expected '\x7d' before end of string"
        else nameEnd fuel (rest.drop inside.length) (inside.reverse ++ c :: acc)
      else if c == '}' || c == ':' || c == '!' then .ok (acc.reverse, some c, rest)
      else nameEnd fuel rest (c :: acc)
  let (name, stop, rest) ← nameEnd (cs.length + 1) cs []
  match stop with
  | some '!' =>
    match rest with
    | [] => fail .value "end of string while looking for conversion specifier"
    | [conv] =>
      let (spec, nested, rest) ← readSpec []
      return (⟨name, some conv, spec, nested⟩, rest)
    | conv :: '}' :: more => return (⟨name, some conv, [], false⟩, more)
    | conv :: ':' :: more =>
      let (spec, nested, rest) ← readSpec more
      return (⟨name, some conv, spec, nested⟩, rest)
    | _ => fail .value "expected ':' after conversion specifier"
  | some ':' =>
    let (spec, nested, rest) ← readSpec rest
    return (⟨name, none, spec, nested⟩, rest)
  | _ => return (⟨name, none, [], false⟩, rest)

/-- Fills a template: `depth` more levels of fields within specs are allowed. Each step reads
literal text up to a brace, then a doubled brace or a field. -/
def fillTemplate (src : FieldSource) (attr : Obj → String → Outcome Obj) :
    Nat → Nat → List Char → Numbering → String → Outcome (String × Numbering)
  | 0, _, _, numbering, out => .ok (out, numbering)
  | _, _, [], numbering, out => .ok (out, numbering)
  | fuel + 1, depth, cs, numbering, out => do
    let lit := cs.takeWhile fun c => c != '{' && c != '}'
    let out := out ++ String.ofList lit
    match cs.drop lit.length with
    | [] => return (out, numbering)
    | '}' :: '}' :: rest => fillTemplate src attr fuel depth rest numbering (out.push '}')
    | '}' :: _ => fail .value "Single '\x7d' encountered in format string"
    | ['{'] => fail .value "Single '\x7b' encountered in format string"
    | '{' :: '{' :: rest => fillTemplate src attr fuel depth rest numbering (out.push '{')
    | _ :: rest =>
      let (field, rest) ← readField rest
      let (v, numbering) ← fieldValue src attr field.name numbering
      let v ← match field.conversion with
        | some c => convertField src.rows v c
        | none => pure v
      let (spec, numbering) ←
        if field.nested then
          if depth ≤ 1 then fail .value "Max string recursion exceeded"
          else fillTemplate src attr fuel (depth - 1) field.spec numbering ""
        else pure (String.ofList field.spec, numbering)
      let text ← formatValue src.rows v spec
      fillTemplate src attr fuel depth rest numbering (out ++ text)

/-- `template.format(*args, **named)`, attributes of values looked up by `attr`; series at the
rows are labelled by `rows`. -/
def formatTemplate (rows : Column) (attr : Obj → String → Outcome Obj) (template : String)
    (args : List Obj) (named : List (String × Obj)) : Outcome String := do
  let cs := template.toList
  let (out, _) ← fillTemplate ⟨rows, args, named⟩ attr (cs.length + 1) 2 cs .unset ""
  return out

end Dataflow.Eval
