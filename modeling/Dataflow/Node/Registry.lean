import Dataflow.Node.Source
import Dataflow.Node.Combine
import Dataflow.Node.Kind
import Dataflow.Expr.Check
/-!
# Nodes

A node is a kind with an identifier and a configuration. Running it applies its kind to its
inputs and the files of the run; checking it looks at the configuration alone, as a workflow
editor does before running anything.
-/

namespace Dataflow

/-- A node of a workflow. The identifier is any value the workflow gives. -/
structure Node where
  id : Json
  kind : NodeKind
  config : Json

namespace Node

/-- The node as it is written out: its class and identifier. -/
def describe (n : Node) : String := s!"{n.kind.className}(id={n.id.repr})"

/-- Runs the node on its inputs with the files of the run. -/
def run (n : Node) (inputs : List Selection) (store : Storage) : Outcome (NodeResult × Storage) :=
  let alone (r : Outcome NodeResult) : Outcome (NodeResult × Storage) := r.map fun r => (r, store)
  match n.kind with
  | .readCsv => alone (readCsvNode n.config store)
  | .filter => alone (filterNode n.config inputs)
  | .select => alone (selectNode n.config inputs)
  | .join => alone (joinNode n.config inputs)
  | .aggregate => alone (aggregateNode n.config inputs)
  | .sort => alone (sortNode n.config inputs)
  | .formula => alone (formulaNode n.config inputs)
  | .output => outputNode n.config inputs store

/-- Checks an expression given in a configuration; only a text can be checked. -/
def checkExpression (j : Json) : Outcome (Option String) :=
  match j with
  | .str s => (Expr.validate s).map Expr.Verdict.reason
  | _ => fail .attribute s!"'{j.typeName}' object has no attribute 'strip'"

/-- Checks the aggregation requests: each needs a column and a known reduction. -/
def checkSummaries : List Json → Outcome (Option String)
  | [] => pure none
  | agg :: rest => do
    if !(← agg.getOr "col" .null).truthy then return some "Each aggregation needs a 'col'"
    if !(← agg.getOr "op" .null).truthy then return some "Each aggregation needs an 'op'"
    let op ← agg.getOr "op" .null
    let _ ← op.key
    if (match op with | .str s => (Reduction.ofName? s).isSome | _ => false) then checkSummaries rest
    else return some s!"Invalid op: {op.text}"

/-- Checks the node's configuration: `none` when it is fine, or why it is not. -/
def check (n : Node) : Outcome (Option String) := do
  let c := n.config
  match n.kind with
  | .readCsv =>
    if (← c.getOr "upload_id" .null).truthy then pure none else pure (some "upload_id is required")
  | .filter =>
    let e ← c.getOr "expression" .null
    if e.truthy then checkExpression e else pure none
  | .select =>
    match ← c.getOr "columns" .null with
    | .null | .arr _ => pure none
    | _ => pure (some "columns must be a list")
  | .join =>
    let lk ← c.getOr "leftKey" (← c.getOr "left_key" .null)
    let rk ← c.getOr "rightKey" (← c.getOr "right_key" .null)
    if !lk.truthy then return some "leftKey is required"
    if !rk.truthy then return some "rightKey is required"
    let how ← c.getOr "how" (.str "inner")
    let _ ← how.key
    if (match how with | .str s => (JoinHow.ofName? s).isSome | _ => false) then pure none
    else pure (some s!"Invalid join type: {how.text}")
  | .aggregate =>
    let groupBy ← c.getOr "groupBy" (← c.getOr "group_by" (.arr []))
    if !groupBy.truthy then return some "groupBy is required"
    let aggregations ← c.getOr "aggregations" (.arr [])
    if !aggregations.truthy then return some "At least one aggregation is required"
    checkSummaries (← aggregations.items)
  | .formula =>
    let name ← c.getOr "newCol" (← c.getOr "new_col" .null)
    if !name.truthy then return some "newCol is required"
    let e ← c.getOr "expression" .null
    if e.truthy then checkExpression e else pure (some "expression is required")
  | .sort | .output => pure none

end Node

/-- What is shown about every kind of node, in the order of registration. -/
def nodeCatalogue : Json :=
  .arr (NodeKind.all.map fun k => .obj [("type", .str k.typeName),
    ("displayName", .str k.displayName), ("description", .str k.description),
    ("inputCount", .int k.inputCount), ("outputCount", .int k.outputCount)])

end Dataflow
