import Dataflow.Node.Value
import Dataflow.Node.Result
import Dataflow.Eval.Query
import Dataflow.Table.Sort
/-!
# Filtering, selecting, sorting and computing nodes

Four nodes that take one input.

* Filter keeps the rows an expression selects (`expression`; without one the input passes
  through). Its metadata counts the rows removed.
* Select keeps the columns named in `columns`, in that order (without names, all of them).
* Sort orders the rows by the columns named in `columns`, each ascending or descending as
  `ascending` says (one truth value for all, or one per column), and numbers the rows anew.
* Formula adds (or replaces) the column `newCol` (or `new_col`), computed by `expression`.

Names that are not columns are reported before anything else happens. A configuration value
of an unexpected type fails as the node's own code fails on it: a text of column names is
read character by character, a scalar cannot be iterated, a list cannot name a column.
-/

namespace Dataflow

/-- The frame of a selection; a series has no columns. -/
def Selection.frame? : Selection → Outcome Frame
  | .frame f => .ok f
  | .series _ => .error ⟨.attribute, "'Series' object has no attribute 'columns'"⟩

/-- The number of rows of a selection. -/
def Selection.length : Selection → Nat
  | .frame f => f.rows
  | .series s => s.values.size

/-- The frame of a selection with the requested names that label none of its columns, in the
order requested. The names are read before the columns are looked at. -/
def missingLabels (data : Selection) (requested : Json) : Outcome (Frame × List Json) := do
  let items ← requested.items
  let f ← data.frame?
  let missing ← items.filterM fun item => do
    let label ← item.key
    pure !(f.hasLabel label)
  pure (f, missing)

/-- The columns with a label, in frame order. -/
def Frame.columnsLabeled (f : Frame) (label : Cell) : List (Cell × Column) :=
  f.columns.filter (·.1 == label)

/-- The frame of the columns of some labels: for each label in turn, all its columns. -/
def Frame.pickColumns (f : Frame) (labels : List Cell) : Frame :=
  ⟨labels.flatMap f.columnsLabeled, f.index⟩

/-- Selecting columns as the frame's indexing does: a list picks columns, a text picks the
one column it labels (a series), a dictionary is refused. -/
def Frame.index? (f : Frame) (key : Json) : Outcome Selection :=
  match key with
  | .arr items => do
    let labels ← items.mapM Json.key
    pure (.frame (f.pickColumns labels))
  | .obj _ => .error ⟨.type, "Passing a dict as an indexer is not supported. Use a list instead."⟩
  | j => do
    let label ← j.key
    match f.columnsLabeled label with
    | [] => .error ⟨.key, label.repr⟩
    | [(l, c)] => pure (.series ⟨l, c, f.index.headD (Column.range f.rows)⟩)
    | cs => pure (.frame ⟨cs, f.index⟩)

/-! ### Filter -/

/-- Runs the filter node. -/
def filterNode (config : Json) (inputs : List Selection) : Outcome NodeResult := do
  match inputs with
  | [] => return .failed "No input data to filter"
  | data :: _ =>
    let expression ← config.getOr "expression" (.str "")
    if !expression.truthy then return .succeeded data []
    match expression with
    | .str text =>
      let result := match data with
        | .frame f => Eval.filterRows f text
        | .series _ => do
          Eval.checkExpression text
          fail .expression "Failed to evaluate filter: 'Series' object has no attribute 'eval'"
      match result with
      | .ok kept =>
        let removed : Int := (data.length : Int) - kept.length
        return .succeeded kept [("expression", expression), ("filtered_rows", .int removed)]
      | .error e =>
        if e.kind == .expression then return .failed e.message
        else return .failed s!"Filter failed: {e.message}"
    | j => return .failed s!"Filter failed: '{j.typeName}' object has no attribute 'strip'"

/-! ### Select -/

/-- Runs the select node. -/
def selectNode (config : Json) (inputs : List Selection) : Outcome NodeResult := do
  match inputs with
  | [] => return .failed "No input data"
  | data :: _ =>
    let columns ← config.getOr "columns" (.arr [])
    if !columns.truthy then return .succeeded data []
    let (f, missing) ← missingLabels data columns
    if !missing.isEmpty then
      let names ← Json.joinTexts ", " missing
      return .failed s!"Columns not found: {names}"
    match f.index? columns with
    | .ok picked => return .succeeded picked [("selected_columns", columns)]
    | .error e => return .failed s!"Select failed: {e.message}"

/-! ### Sort -/

/-- How `ascending` is given: one flag (`integer` when given as a number), or one per
column. -/
inductive Direction where
  | flag (ascending : Bool) (integer : Bool)
  | each (ascending : List Bool)

/-- A truth value as the sort accepts it: a boolean or an integer. -/
def directionFlag : Json → Outcome (Bool × Bool)
  | .bool b => .ok (b, false)
  | .int i => .ok (i != 0, true)
  | j => .error ⟨.value,
    s!"For argument \"ascending\" expected type bool, received type {j.typeName}."⟩

/-- Reads `ascending`: a sequence (a list, or a text by character) gives one flag per item. -/
def directionOf : Json → Outcome Direction
  | .arr items => return .each ((← items.mapM directionFlag).map (·.1))
  | .str s => return .each ((← (s.toList.map fun c => Json.str (String.singleton c)).mapM directionFlag).map (·.1))
  | j => return (let (b, i) := ← directionFlag j; .flag b i)

/-- The values a sort key stands for: the one column with that label. -/
def sortKey (f : Frame) (key : Json) : Outcome Column := do
  let label ← match key.key with
    | .ok l => pure l
    | .error _ => .error ⟨.key, key.repr⟩
  match f.columnsLabeled label with
  | [(_, c)] => pure c
  | [] => .error ⟨.key, label.repr⟩
  | _ => .error ⟨.value, s!"The column label '{label.text}' is not unique."⟩

/-- The labels a sort is given: the items of a list, or the one label. -/
def sortLabels : Json → List Json
  | .arr items => items
  | j => [j]

/-- The order of the rows by the columns of some labels: one key is sorted by itself, several
by their ranks. -/
def sortOrder (f : Frame) (keys : List Json) (direction : Direction) : Outcome (Array Nat) :=
  match keys with
  | [key] => do
    let c ← sortKey f key
    let asc := match direction with
      | .flag b _ => b
      | .each flags => flags.headD true
    sortByColumn c asc
  | _ => do
    let cs ← keys.mapM (sortKey f)
    let flags ← match direction with
      | .flag b false => pure (keys.map fun _ => b)
      | .flag _ true => .error ⟨.type, "'int' object is not reversible"⟩
      | .each flags => pure flags
    -- the keys are ranked from the last one
    cs.reverse.forM checkSortable
    pure (sortByColumns (cs.zip flags) f.rows)

/-- The frame sorted by keys, rows numbered anew. -/
def sortFrame (f : Frame) (columns ascending : Json) : Outcome Frame := do
  let direction ← directionOf ascending
  let keys := sortLabels columns
  if let .each flags := direction then
    if flags.length != keys.length then
      .error ⟨.value, s!"Length of ascending ({flags.length}) != length of by ({keys.length})"⟩
  let order ← sortOrder f keys direction
  pure (f.takeRows order).resetIndex

/-- Runs the sort node. -/
def sortNode (config : Json) (inputs : List Selection) : Outcome NodeResult := do
  match inputs with
  | [] => return .failed "No input data"
  | data :: _ =>
    let columns ← config.getOr "columns" (.arr [])
    let ascending ← config.getOr "ascending" (.bool true)
    if !columns.truthy then return .succeeded data []
    let (f, missing) ← missingLabels data columns
    if !missing.isEmpty then
      let names ← Json.joinTexts ", " missing
      return .failed s!"Sort columns not found: {names}"
    match sortFrame f columns ascending with
    | .ok sorted =>
      return .succeeded (.frame sorted) [("sort_columns", columns), ("ascending", ascending)]
    | .error e => return .failed s!"Sort failed: {e.message}"

/-! ### Formula -/

/-- The frame with the formula's column set under a configured name. A list or dictionary
cannot name one column. -/
def formulaFrame (f : Frame) (expression : String) (name : Json) : Outcome Frame :=
  match name.key with
  | .ok label => Eval.addFormula f expression label
  | .error e => do
    let _ ← Eval.addFormula f expression .none
    match name with
    | .arr _ => fail .expression "Failed to evaluate formula: Columns must be same length as key"
    | _ => fail .expression s!"Failed to evaluate formula: {e.message}"

/-- Runs the formula node. -/
def formulaNode (config : Json) (inputs : List Selection) : Outcome NodeResult := do
  match inputs with
  | [] => return .failed "No input data"
  | data :: _ =>
    let fallback ← config.getOr "new_col" .null
    let name ← config.getOr "newCol" fallback
    let expression ← config.getOr "expression" (.str "")
    if !name.truthy then return .failed "newCol is required"
    if !expression.truthy then return .failed "expression is required"
    match expression with
    | .str text =>
      let result := match data with
        | .frame f => formulaFrame f text name
        | .series _ => do
          Eval.checkExpression text
          fail .expression "Failed to evaluate formula: 'Series' object has no attribute 'eval'"
      match result with
      | .ok f => return .succeeded (.frame f) [("new_column", name), ("expression", expression)]
      | .error e =>
        if e.kind == .expression then return .failed e.message
        else return .failed s!"Formula failed: {e.message}"
    | j => return .failed s!"Formula failed: '{j.typeName}' object has no attribute 'strip'"

end Dataflow
