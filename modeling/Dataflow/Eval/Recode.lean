import Dataflow.Eval.Transform
import Dataflow.Regex.Replace
/-!
# Replacing values of a series

`series.replace(to_replace, value)` puts `value` where the series holds `to_replace`.

* A series that cannot hold the value to replace has nothing to replace (`holdFor`): integers
  hold no text and no fraction, floats no text, truth values nothing but truth values.
* The places to replace are those whose values equal the value to replace (`replaceMask`);
  numbers never equal texts, and truth values never equal other numbers. A missing value to
  replace matches the missing values.
* A series that cannot hold the new value is widened first (`widenTarget`), to mixed values for
  `None`. Mixed values are stored by their kinds afterwards, unless the new value is `None`.
* Lists of values to replace are replaced pair by pair, the places of every pair being found in
  the series as it was before any replacement.
* Without a new value, each value to replace takes the value before it (or after it).
* With `regex`, texts that a pattern finds are replaced: by the substitution of a template
  when the new value is a text, and whole by any other value. Only mixed series hold texts.
-/

namespace Dataflow.Eval

/-- Whether a storage holds numbers (truth values apart). -/
def isNumericKind (d : DType) : Bool :=
  d == .int64 || d == .uint64 || d == .float64 || d == .complex128

/-- The places of a series whose values equal a value to replace; a missing value matches the
missing values. Numbers never match texts, and truth values never match other numbers. -/
def replaceMask (c : Column) (target : Cell) : Array Bool :=
  let nothing := Array.replicate c.size false
  let equal := c.cells.map fun x => !x.isNull && x.same target
  if target.isNull then c.nulls
  else match c.dtype, target with
    | .bool, .bool _ => equal
    | .bool, _ => nothing
    | d, .bool _ => if isNumericKind d then nothing else equal
    | d, .str _ => if isNumericKind d then nothing else equal
    | _, _ => equal

/-- Puts a new value at the places of a mask. A series that cannot hold it is widened first,
to mixed values for `None`; mixed values are then stored by their kinds, unless the new value
is `None`. -/
def putReplacement (c : Column) (mask : Array Bool) (value : Cell) : Outcome Column := do
  if !mask.any id then return c
  let c ← match holdFor c.dtype value with
    | some _ => pure c
    | none =>
      if value matches .none then pure (Column.object c.cells)
      else pure (widenColumn c (← widenTarget c.dtype value))
  let held := (holdFor c.dtype value).getD value
  let cells := (Array.range c.size).map fun i => if mask.getD i false then held else c.cell i
  if c.dtype == .object then
    return if value matches .none then .object cells else storeMixed cells
  return columnOfKind c.dtype cells

/-- Replaces one value by another; nothing when the series cannot hold the value to replace. -/
def replaceValue (c : Column) (target value : Cell) : Outcome Column :=
  if (holdFor c.dtype target).isNone then .ok c
  else putReplacement c (replaceMask c target) value

/-- Replaces texts that a pattern finds, at the places of a mask (everywhere when none is
given): by the substitution of a template when the new value is a text, whole otherwise. Only
mixed series hold texts; the values are stored by their kinds afterwards. -/
def regexReplace (c : Column) (prog : Regex.Program) (value : Cell) (mask : Option (Array Bool)) :
    Outcome Column := do
  match c with
  | .object vs =>
    let out ← (vs.zipIdx).mapM fun (x, i) =>
      if !((mask.map fun m => m.getD i false).getD true) then pure x
      else match x, value with
        | .str t, .str template => do
          let pieces ← prog.template template
          pure (Cell.str (prog.substitute pieces 0 t))
        | .str t, v => pure (if prog.search t then v else x)
        | x, _ => pure x
    return storeMixed out
  | c => return c

/-- The places of a mixed series whose texts a pattern finds. -/
def regexMask (c : Column) (prog : Regex.Program) : Array Bool :=
  c.cells.map fun x => match x with
    | .str t => prog.search t
    | _ => false

/-- Whether a value to replace is read as a pattern: `regex` is set and it is a non-empty
text. -/
def usesPattern (regex : Bool) (target : Cell) : Bool :=
  match target with
  | .str t => regex && !t.isEmpty
  | _ => false

/-- Compiles a pattern for replacing. -/
def replacePattern (p : String) : Outcome Regex.Program :=
  match Regex.compile p 0 with
  | .ok prog => .ok prog
  | .error r => .error r.failure

/-- Replaces pairs of values in turn, each at the places where the series held its value to
replace before any replacement; pairs whose value the series cannot hold are skipped. -/
def replacePairs (c : Column) (pairs : List (Cell × Cell)) (regex : Bool) : Outcome Column := do
  let pairs := pairs.filter fun (s, _) => (holdFor c.dtype s).isSome
  let masks ← pairs.mapM fun (s, _) => do
    if usesPattern regex s && c.dtype == .object then
      return regexMask c (← replacePattern (match s with | .str t => t | _ => ""))
    else return replaceMask c s
  (pairs.zip masks).foldlM (fun cur ((s, v), m) => do
    if usesPattern regex s then
      regexReplace cur (← replacePattern (match s with | .str t => t | _ => "")) v (some m)
    else if v matches .none then
      if m.any id then
        let cells := (Array.range cur.size).map fun i => if m.getD i false then Cell.none else cur.cell i
        return .object cells
      else return cur
    else if (holdFor cur.dtype s).isNone then return cur
    else putReplacement cur m v) c

/-- Each value at a place of the mask takes the last value before it that is not (or, not
`forward`, the first after it), at most `limit` in a row; values before any such keep
theirs. -/
def padReplaced (c : Column) (mask : Array Bool) (forward : Bool) (limit : Option Nat) : Column :=
  let cells := if forward then c.cells.toList else c.cells.toList.reverse
  let marks := if forward then mask.toList else mask.toList.reverse
  let step (acc : List Cell × Option Cell × Nat) (xm : Cell × Bool) : List Cell × Option Cell × Nat :=
    let (out, last, run) := acc
    let (x, masked) := xm
    if masked then
      let within : Bool := match limit with | some l => decide (run < l) | none => true
      match last with
      | some v => if within then (v :: out, last, run + 1) else (x :: out, last, run + 1)
      | none => (x :: out, last, run + 1)
    else (x :: out, some x, 0)
  let (out, _, _) := (cells.zip marks).foldl step ([], none, 0)
  let out := if forward then out.reverse else out
  columnOfKind c.dtype out.toArray

end Dataflow.Eval
