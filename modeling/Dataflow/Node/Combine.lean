import Dataflow.Node.Transform
import Dataflow.Table.Group
import Dataflow.Table.Merge
/-!
# Joining and aggregating nodes

* Join pairs the rows of its two inputs by a key column of each (`leftKey`, `rightKey`, or
  `left_key`, `right_key`), as `how` says: `inner` (the default), `left`, `right` or `outer`.
* Aggregate groups the rows by the columns in `groupBy` (or `group_by`) and summarises each
  group as `aggregations` asks: each item names a column (`col`), a reduction (`op`) and the
  name of the result (`as`, or `alias`, or the column and reduction joined by `_`). Results
  of the same name keep the place of the first and the request of the last. The key columns
  come first, except those a result has the name of.
-/

namespace Dataflow

/-- The labels of a frame as the language writes a list of them. -/
def labelList (f : Frame) : String :=
  "[" ++ ", ".intercalate (f.labels.map Cell.repr) ++ "]"

/-! ### Join -/

/-- Runs the join node. -/
def joinNode (config : Json) (inputs : List Selection) : Outcome NodeResult := do
  match inputs with
  | left :: right :: _ =>
    let lk ← config.getOr "leftKey" (← config.getOr "left_key" .null)
    let rk ← config.getOr "rightKey" (← config.getOr "right_key" .null)
    let how ← config.getOr "how" (.str "inner")
    if !lk.truthy then return .failed "leftKey is required"
    if !rk.truthy then return .failed "rightKey is required"
    let lf ← left.frame?
    let lname ← lk.key
    if !lf.hasLabel lname then
      return .failed s!"Left key '{lk.text}' not found in left dataset. Available: {labelList lf}"
    let rf ← right.frame?
    let rname ← rk.key
    if !rf.hasLabel rname then
      return .failed s!"Right key '{rk.text}' not found in right dataset. Available: {labelList rf}"
    let _ ← how.key
    let some way := (match how with | .str s => JoinHow.ofName? s | _ => none)
      | return .failed s!"Invalid join type: {how.text}. Must be one of: \x7b'inner', 'left', 'outer', 'right'\x7d"
    match mergeFrames lf rf lname rname way with
    | .ok joined =>
      return .succeeded (.frame joined) [("left_key", lk), ("right_key", rk), ("join_type", how),
        ("left_rows", .int lf.rows), ("right_rows", .int rf.rows), ("result_rows", .int joined.rows)]
    | .error e => return .failed s!"Join failed: {e.message}"
  | _ => return .failed s!"Join requires 2 inputs, got {inputs.length}"

/-! ### Aggregate -/

/-- One requested summary: the name of the result, the column and the reduction. -/
structure Summary where
  label : Cell
  column : Cell
  reduction : Reduction

/-- Adds a summary under its name: a new name goes last, a known one is replaced in place. -/
def Summary.put (acc : List Summary) (s : Summary) : List Summary :=
  if acc.any (·.label == s.label) then acc.map fun t => if t.label == s.label then s else t
  else acc ++ [s]

/-- Why a summary request is refused before any work is done. -/
def summaryRefusal (f : Frame) (agg : Json) : Outcome (Except String Summary) := do
  let col ← agg.getOr "col" .null
  let op ← agg.getOr "op" .null
  let named ← agg.getOr "alias" (.str s!"{col.text}_{op.text}")
  let label ← agg.getOr "as" named
  if !col.truthy then return .error "Aggregation missing 'col'"
  if !op.truthy then return .error "Aggregation missing 'op'"
  let _ ← op.key
  let some r := (match op with | .str s => Reduction.ofName? s | _ => none)
    | return .error s!"Invalid aggregation op: {op.text}. Valid: \x7b'count', 'first', 'last', 'max', 'mean', 'min', 'std', 'sum', 'var'\x7d"
  let column ← col.key
  if !f.hasLabel column then return .error s!"Aggregation column not found: {col.text}"
  let labelKey ← label.key
  return .ok ⟨labelKey, column, r⟩

/-- Reads the summary requests in order; the first refused one stops the reading. -/
def readSummaries (f : Frame) : List Json → List Summary → Outcome (Except String (List Summary))
  | [], acc => pure (.ok acc)
  | agg :: rest, acc => do
    match ← summaryRefusal f agg with
    | .error msg => pure (.error msg)
    | .ok s => readSummaries f rest (Summary.put acc s)

/-- The key columns a grouping names: the items of a list, or a text as one label. -/
def groupKeys (f : Frame) (groupBy : Json) : Outcome (List (Cell × Column)) := do
  let labels ← match groupBy with
    | .arr items => items.mapM Json.key
    | .str s => pure [.str s]
    | j => fail .key j.repr
  labels.mapM fun l => match f.columnsLabeled l with
    | [(_, c)] => pure (l, c)
    | [] => fail .key l.repr
    | _ => fail .value s!"Grouper for '{l.text}' not 1-dimensional"

/-- The grouped and summarised frame. Summaries are computed column by column, each column's
in the order asked, so the first failure is that of the first such summary; the results then
stand in the order asked, after the key columns that no result is named like. -/
def summarise (f : Frame) (groupBy : Json) (summaries : List Summary) : Outcome Frame := do
  let keys ← groupKeys f groupBy
  if summaries.any fun s => !(match s.label with | .str _ => true | _ => false) then
    fail .type "keywords must be strings"
  let grouping := groupRows (keys.map (·.2)) f.rows
  let columns := summaries.foldl (fun acc s => if acc.contains s.column then acc else acc ++ [s.column]) []
  let numbered := summaries.zipIdx
  let order := columns.flatMap fun c => numbered.filter (·.1.column == c)
  let computed ← order.mapM fun (s, i) => do
    let c ← f.keyColumn s.column
    pure (i, (s.label, ← reduceColumn s.reduction c grouping.members))
  let results := (computed.mergeSort fun a b => a.1 ≤ b.1).map (·.2)
  let withKeys := (keys.zip grouping.keys).reverse.foldl (fun acc ((l, _), kc) =>
    if acc.any (·.1 == l) then acc else (l, kc) :: acc) results
  pure ⟨withKeys, [Column.range grouping.members.size]⟩

/-- Runs the aggregate node. -/
def aggregateNode (config : Json) (inputs : List Selection) : Outcome NodeResult := do
  match inputs with
  | [] => return .failed "No input data"
  | data :: _ =>
    let groupBy ← config.getOr "groupBy" (← config.getOr "group_by" (.arr []))
    let aggregations ← config.getOr "aggregations" (.arr [])
    if !groupBy.truthy then return .failed "groupBy columns are required"
    if !aggregations.truthy then return .failed "At least one aggregation is required"
    let (f, missing) ← missingLabels data groupBy
    if !missing.isEmpty then
      let names ← Json.joinTexts ", " missing
      return .failed s!"Group columns not found: {names}"
    match ← readSummaries f (← aggregations.items) [] with
    | .error msg => return .failed msg
    | .ok summaries =>
      match summarise f groupBy summaries with
      | .ok result =>
        return .succeeded (.frame result) [("group_by", groupBy), ("aggregations", aggregations),
          ("unique_groups", .int result.rows)]
      | .error e => return .failed s!"Aggregation failed: {e.message}"

end Dataflow
