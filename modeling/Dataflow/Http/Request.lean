import Dataflow.Node.Value
import Dataflow.Number.Parse
/-!
# Checking a run request

A request to run a workflow is a JSON object with a `workflow` (its `nodes` and `edges`, both
lists) and optional `uploads` (a list of texts). Nodes need a text `id` and `type`, and may
have a `config` dictionary and a `position` (a dictionary of numbers, or null). Edges need
text `fromNodeId` and `toNodeId` and may name text slots `fromPort` (default `out`) and
`toPort` (default `in`).

Checking reports every field that is missing or of the wrong kind, as a path of field names
and list positions, in the order the fields are declared. An accepted request is completed
with every default filled in, which is the workflow document the engine runs.
-/

namespace Dataflow

/-- The path to a field of a request: names of fields and positions in lists. -/
abbrev FieldPath := List Json

namespace Http

/-- Whether a value can stand for a float: a number, a truth value or the text of a number. -/
def floatLike : Json → Bool
  | .int _ | .float _ | .bool _ => true
  | .str s => (Decimal.readFloat s).isSome
  | _ => false

/-- A required text field: the failing paths, or its value. -/
def textField (path : FieldPath) (fields : List (String × Json)) (name : String) :
    Except (List FieldPath) Json :=
  match fields.lookup name with
  | some (.str s) => .ok (.str s)
  | _ => .error [path ++ [.str name]]

/-- An optional text field with a default. -/
def textOr (path : FieldPath) (fields : List (String × Json)) (name default : String) :
    Except (List FieldPath) Json :=
  match fields.lookup name with
  | none => .ok (.str default)
  | some (.str s) => .ok (.str s)
  | some _ => .error [path ++ [.str name]]

/-- Runs several checks, keeping every failure and, when all pass, every value. -/
def collect (checks : List (Except (List FieldPath) Json)) : Except (List FieldPath) (List Json) :=
  let failures := checks.flatMap fun c => match c with
    | .error ps => ps
    | .ok _ => []
  if failures.isEmpty then .ok (checks.filterMap fun c => match c with
    | .ok v => some v
    | .error _ => none)
  else .error failures

/-- Checks the position of a node: null, or a dictionary of numbers. -/
def checkPosition (path : FieldPath) : Option Json → Except (List FieldPath) Json
  | none | some .null => .ok .null
  | some (.obj fields) =>
    let bad := fields.filter fun (_, v) => !floatLike v
    if bad.isEmpty then .ok (.obj fields)
    else .error (bad.map fun (k, _) => path ++ [.str "position", .str k])
  | some _ => .error [path ++ [.str "position"]]

/-- Checks one node of a workflow. -/
def checkNode (path : FieldPath) : Json → Except (List FieldPath) Json
  | .obj fields => do
    let config : Except (List FieldPath) Json := match fields.lookup "config" with
      | none => .ok (.obj [])
      | some (.obj c) => .ok (.obj c)
      | some _ => .error [path ++ [.str "config"]]
    let values ← collect [textField path fields "id", textField path fields "type", config,
      checkPosition path (fields.lookup "position")]
    match values with
    | [id, type, config, position] =>
      .ok (.obj [("id", id), ("type", type), ("config", config), ("position", position)])
    | _ => .error [path]
  | _ => .error [path]

/-- Checks one edge of a workflow. -/
def checkEdge (path : FieldPath) : Json → Except (List FieldPath) Json
  | .obj fields => do
    let values ← collect [textField path fields "fromNodeId", textOr path fields "fromPort" "out",
      textField path fields "toNodeId", textOr path fields "toPort" "in"]
    match values with
    | [source, sourcePort, target, targetPort] =>
      .ok (.obj [("fromNodeId", source), ("fromPort", sourcePort), ("toNodeId", target),
        ("toPort", targetPort)])
    | _ => .error [path]
  | _ => .error [path]

/-- Checks a list field whose items are checked one by one. -/
def checkList (path : FieldPath) (item : FieldPath → Json → Except (List FieldPath) Json) :
    Option Json → Except (List FieldPath) Json
  | some (.arr items) =>
    (collect (items.zipIdx.map fun (j, i) => item (path ++ [.int i]) j)).map .arr
  | _ => .error [path]

/-- Checks the workflow of a request. -/
def checkWorkflow : Option Json → Except (List FieldPath) Json
  | some (.obj fields) => do
    let path : FieldPath := [.str "workflow"]
    let values ← collect [checkList (path ++ [.str "nodes"]) checkNode (fields.lookup "nodes"),
      checkList (path ++ [.str "edges"]) checkEdge (fields.lookup "edges")]
    match values with
    | [nodes, edges] => .ok (.obj [("nodes", nodes), ("edges", edges)])
    | _ => .error [path]
  | _ => .error [[.str "workflow"]]

/-- Checks the uploads of a request: absent, or a list of texts. -/
def checkUploads : Option Json → Except (List FieldPath) Json
  | none => .ok (.arr [])
  | some (.arr items) =>
    let bad := items.zipIdx.filter fun (j, _) => !(match j with | .str _ => true | _ => false)
    if bad.isEmpty then .ok (.arr items)
    else .error (bad.map fun (_, i) => [.str "uploads", .int i])
  | some _ => .error [[.str "uploads"]]

/-- Checks a run request: the workflow document to run, or every failing field. -/
def checkRunRequest : Json → Except (List FieldPath) Json
  | .obj fields => do
    let values ← collect [checkWorkflow (fields.lookup "workflow"), checkUploads (fields.lookup "uploads")]
    match values with
    | [workflow, _] => .ok workflow
    | _ => .error [[]]
  | _ => .error [[.str "__root__"]]

end Http

end Dataflow
