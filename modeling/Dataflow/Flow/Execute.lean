import Dataflow.Flow.Order
import Dataflow.Node.Registry
/-!
# Running a workflow

A workflow document lists nodes (`id`, `type`, optional `config`) and edges (`fromNodeId`
to `toNodeId`, or the same names in snake case, with optional slot names `fromPort` and
`toPort`). It runs in three steps.

1. The graph is built: every node must have an identifier and a known type (a later node with
   an equal identifier replaces an earlier one in its place), and every edge must join known
   nodes.
2. The nodes are put in order by Kahn's algorithm. The nodes without incoming edges are ready;
   each step sorts the ready nodes, takes the least, and makes ready the nodes whose last
   incoming edge it was. Nodes left over mean a cycle.
3. The nodes run in that order. A node's inputs are the results of the nodes at the other ends
   of its incoming edges, sorted by the slot each edge enters by; a node that failed gives
   none. A node that fails keeps the run going: its failure is its result.
-/

namespace Dataflow

/-- An edge of a workflow: from a node to a node, with the slots it leaves and enters by. -/
structure Edge where
  source : Json
  target : Json
  sourcePort : Json
  targetPort : Json

/-- A built workflow: the nodes by identifier, in order of first appearance, and the edges in
the order given. -/
structure Workflow where
  nodes : List (Json × Node)
  edges : List Edge

/-- The value under a key, as subscripting reads it: a missing key is a key error, and only
dictionaries can be subscripted by a text. -/
def Json.subscript (j : Json) (key : String) : Outcome Json :=
  match j with
  | .obj fields => match fields.lookup key with
    | some v => .ok v
    | none => .error ⟨.key, Text.quoteText key⟩
  | .str _ => fail .type "string indices must be integers, not 'str'"
  | .arr _ => fail .type "list indices must be integers or slices, not str"
  | j => fail .type s!"'{j.typeName}' object is not subscriptable"

/-- Whether two identifiers are the same key of a dictionary. -/
def sameKey (a b : Json) : Bool :=
  match a.key, b.key with
  | .ok x, .ok y => x == y
  | _, _ => false

/-- Reads one node definition. -/
def readNode (d : Json) : Outcome Node := do
  let id ← d.subscript "id"
  let type ← d.subscript "type"
  let config ← d.getOr "config" (.obj [])
  let _ ← type.key
  let some kind := (match type with | .str s => NodeKind.ofName? s | _ => none)
    | fail .workflow s!"Unknown node type: {type.text}"
  let _ ← id.key
  pure ⟨id, kind, config⟩

/-- Adds a node under its identifier: in the place of a node with an equal identifier, or
last. -/
def insertNode (acc : List (Json × Node)) (node : Node) : List (Json × Node) :=
  if acc.any (sameKey ·.1 node.id) then
    acc.map fun (k, n) => if sameKey k node.id then (k, node) else (k, n)
  else acc ++ [(node.id, node)]

/-- Reads the node definitions in order. -/
def readNodes : List Json → List (Json × Node) → Outcome (List (Json × Node))
  | [], acc => pure acc
  | d :: rest, acc => do
    let node ← readNode d
    readNodes rest (insertNode acc node)

/-- Checks that an edge end names a node. -/
def knownEnd (nodes : List (Json × Node)) (id : Json) : Outcome Unit := do
  let _ ← id.key
  if !nodes.any (sameKey ·.1 id) then fail .nodeNotFound s!"Edge references unknown node: {id.text}"

/-- Reads one edge definition. -/
def readEdge (nodes : List (Json × Node)) (e : Json) : Outcome Edge := do
  let source ← e.getOr "fromNodeId" (← e.getOr "from_node_id" .null)
  let target ← e.getOr "toNodeId" (← e.getOr "to_node_id" .null)
  let sourcePort ← e.getOr "fromPort" (← e.getOr "from_port" (.str "out"))
  let targetPort ← e.getOr "toPort" (← e.getOr "to_port" (.str "in"))
  knownEnd nodes source
  knownEnd nodes target
  pure ⟨source, target, sourcePort, targetPort⟩

/-- Reads the edge definitions in order. -/
def readEdges (nodes : List (Json × Node)) (defs : List Json) : Outcome (List Edge) :=
  defs.mapM (readEdge nodes)

/-- Builds the workflow of a document. -/
def buildWorkflow (doc : Json) : Outcome Workflow := do
  let nodeDefs ← doc.getOr "nodes" (.arr [])
  let edgeDefs ← doc.getOr "edges" (.arr [])
  if !nodeDefs.truthy then fail .workflow "Workflow has no nodes"
  let nodes ← readNodes (← nodeDefs.items) []
  let edges ← readEdges nodes (← edgeDefs.items)
  pure ⟨nodes, edges⟩

namespace Workflow

/-- The targets of the edges leaving a node, in edge order. -/
def targets (w : Workflow) (id : Json) : List Json :=
  (w.edges.filter (sameKey ·.source id)).map (·.target)

end Workflow

/-- One edge leaving the node just taken: its target has one unmet edge fewer, and joins the
queue when none is left. -/
def release (state : List Json × List (Json × Nat)) (t : Json) : List Json × List (Json × Nat) :=
  let degrees := state.2.map fun (k, d) => if sameKey k t then (k, d - 1) else (k, d)
  let ready := degrees.any fun (k, d) => sameKey k t && d == 0
  (if ready then state.1 ++ [t] else state.1, degrees)

namespace Workflow

/-- Kahn's algorithm from a queue of ready nodes and the number of unmet incoming edges of
every node. -/
def kahn (w : Workflow) : Nat → List Json → List (Json × Nat) → List Json → Outcome (List Json)
  | 0, _, _, done => pure done
  | fuel + 1, queue, degrees, done => do
    match ← listSort Json.lessThan queue with
    | [] => pure done
    | id :: rest =>
      let (queue, degrees) := (w.targets id).foldl release (rest, degrees)
      kahn w fuel queue degrees (done ++ [id])

/-- The order the nodes run in; a cycle leaves nodes out and is refused. -/
def order (w : Workflow) : Outcome (List Json) := do
  let degrees := w.nodes.map fun (k, _) => (k, (w.edges.filter (sameKey ·.target k)).length)
  let ready := (degrees.filter (·.2 == 0)).map (·.1)
  let done ← w.kahn (w.nodes.length + 1) ready degrees []
  if done.length != w.nodes.length then fail .cycle "Workflow contains a cycle"
  pure done

/-- The inputs of a node: the results of its sources, sorted by the slot each edge enters by;
sources without a result give none. -/
def inputsOf (w : Workflow) (outputs : List (Json × Selection)) (id : Json) :
    Outcome (List Selection) := do
  let incoming := w.edges.filter (sameKey ·.target id)
  if incoming.isEmpty then return []
  let sorted ← listSort (fun a b => Json.lessThan a.targetPort b.targetPort) incoming
  pure (sorted.filterMap fun e => (outputs.find? (sameKey ·.1 e.source)).map (·.2))

/-- The result of a run: every node's result in the order they ran, and the files. -/
structure Run where
  results : List (Json × NodeResult)
  outputs : List (Json × Selection)
  store : Storage

/-- Runs one node and records its result. A result with data is kept for the nodes after it;
data without columns (a single column) then fails the node, though the data is still kept. -/
def step (w : Workflow) (run : Run) (id : Json) : Outcome Run := do
  let inputs ← w.inputsOf run.outputs id
  match w.nodes.find? (sameKey ·.1 id) with
  | none => .error ⟨.key, id.repr⟩
  | some (_, node) =>
    match node.run inputs run.store with
    | .error e => pure { run with results := run.results ++ [(id, .failed e.message)] }
    | .ok (r, store) =>
      match r.success, r.data with
      | true, some data =>
        let outputs := run.outputs ++ [(id, data)]
        let r := match r.columns with
          | .ok _ => r
          | .error e => .failed e.message
        pure ⟨run.results ++ [(id, r)], outputs, store⟩
      | _, _ => pure ⟨run.results ++ [(id, r)], run.outputs, store⟩

end Workflow

/-- Runs a workflow document with the files of a run. -/
def runWorkflow (doc : Json) (store : Storage) : Outcome Workflow.Run := do
  let w ← buildWorkflow doc
  let order ← w.order
  order.foldlM w.step ⟨[], [], store⟩

end Dataflow
