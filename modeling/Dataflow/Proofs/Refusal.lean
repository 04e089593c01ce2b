import Dataflow.Proofs.Kahn
import Dataflow.Proofs.RunLoop
import Dataflow.Http.Routes
/-!
# When a run of a checked workflow is refused

**A run is refused exactly when the workflow has a fault, with the failure of the first check it
fails, and before any node runs; otherwise it runs to the end.** A checked run request gives a
workflow whose identifiers, types, edge ends and slot names are texts and whose configurations
are dictionaries (`WorkflowDef`, written out by `WorkflowDef.toJson`). Its checks are made in
order: the node list is not empty, every type is known (node by node), every edge end names a
node (edge by edge, the source before the target), and the edges have no cycle.
`WorkflowDef.firstFault` is the failure of the first check that fails.

* `buildWorkflow_of_buildFault`, `buildWorkflow_of_no_buildFault`: building fails with the first
  fault of the first three checks, or gives the graph of the definition;
* `hasCycle_iff_of_edges`: the built graph has a cycle exactly when the definition's edges do;
* `runWorkflow_refused_iff`: the run is refused exactly on a fault, with the first fault, which
  is one of the workflow's own failures, found before any node runs.
-/

namespace Dataflow

/-! ### Checked definitions -/

/-- A node of a checked run request. -/
structure NodeDef where
  id : String
  type : String
  config : List (String × Json)
  position : Json

/-- An edge of a checked run request, with its slot names. -/
structure EdgeDef where
  source : String
  sourcePort : String
  target : String
  targetPort : String

/-- The workflow of a checked run request. -/
structure WorkflowDef where
  nodes : List NodeDef
  edges : List EdgeDef

namespace NodeDef

/-- The node as the checked request writes it. -/
def toJson (n : NodeDef) : Json :=
  .obj [("id", .str n.id), ("type", .str n.type), ("config", .obj n.config), ("position", n.position)]

/-- A type no kind of node has. -/
def unknown (n : NodeDef) : Bool := (NodeKind.ofName? n.type).isNone

end NodeDef

namespace EdgeDef

/-- The edge as the checked request writes it. -/
def toJson (e : EdgeDef) : Json :=
  .obj [("fromNodeId", .str e.source), ("fromPort", .str e.sourcePort), ("toNodeId", .str e.target),
    ("toPort", .str e.targetPort)]

/-- The edge of the built graph. -/
def edge (e : EdgeDef) : Edge := ⟨.str e.source, .str e.target, .str e.sourcePort, .str e.targetPort⟩

end EdgeDef

namespace WorkflowDef

variable (d : WorkflowDef)

/-- The workflow document of the checked request. -/
def toJson : Json :=
  .obj [("nodes", .arr (d.nodes.map NodeDef.toJson)), ("edges", .arr (d.edges.map EdgeDef.toJson))]

/-- The node identifiers. -/
def ids : List String := d.nodes.map (·.id)

/-- The edge ends in the order they are checked: each edge's source, then its target. -/
def ends : List String := d.edges.flatMap fun e => [e.source, e.target]

/-- Some edge leads from `u` to `v`. -/
def Linked (u v : String) : Prop := ∃ e ∈ d.edges, e.source = u ∧ e.target = v

/-- Some node reaches itself along the edges. -/
def HasCycle : Prop := ∃ v, Relation.TransGen d.Linked v v

/-- The failure of the first check of the graph that fails: an empty node list, then the first
node of an unknown type, then the first edge end that names no node. -/
def buildFault : Option Failure :=
  if d.nodes.isEmpty then some ⟨.workflow, "Workflow has no nodes"⟩
  else match d.nodes.find? NodeDef.unknown with
    | some n => some ⟨.workflow, "Unknown node type: " ++ n.type⟩
    | none => match d.ends.find? (· ∉ d.ids) with
      | some s => some ⟨.nodeNotFound, "Edge references unknown node: " ++ s⟩
      | none => none

open Classical in
/-- The failure of the first check that fails, the cycle check last. -/
noncomputable def firstFault : Option Failure :=
  match d.buildFault with
  | some f => some f
  | none => if d.HasCycle then some ⟨.cycle, "Workflow contains a cycle"⟩ else none

end WorkflowDef

/-! ### Reading checked definitions -/

theorem readNode_toJson (n : NodeDef) :
    readNode n.toJson = match NodeKind.ofName? n.type with
      | some kind => .ok ⟨.str n.id, kind, .obj n.config⟩
      | none => fail .workflow ("Unknown node type: " ++ n.type) := by
  cases kind : NodeKind.ofName? n.type with
  | none =>
    simp [readNode, NodeDef.toJson, Json.subscript, Json.getOr, Json.lookup, List.lookup_cons,
      bind, Except.bind, Json.key, kind, fail, Json.text]
    rfl
  | some k =>
    simp [readNode, NodeDef.toJson, Json.subscript, Json.getOr, Json.lookup, List.lookup_cons,
      bind, Except.bind, Json.key, pure, Except.pure, kind]

/-- Nodes of known types are all read, under their identifiers. -/
theorem readNodes_known : ∀ (ns : List NodeDef) (acc : List (Json × Node)),
    (∀ k ∈ acc.map (·.1), k.IsText) → ns.find? NodeDef.unknown = none →
    ∃ out, readNodes (ns.map NodeDef.toJson) acc = .ok out ∧
      ∀ k, k ∈ out.map (·.1) ↔ k ∈ acc.map (·.1) ∨ ∃ n ∈ ns, k = .str n.id
  | [], acc, _, _ => ⟨acc, rfl, by simp⟩
  | n :: rest, acc, texts, allKnown => by
    rw [List.find?_cons] at allKnown
    split at allKnown
    · cases allKnown
    · rename_i known
      obtain ⟨kind, hk⟩ := Option.isSome_iff_exists.mp (by simpa [NodeDef.unknown] using known)
      let node : Node := ⟨.str n.id, kind, .obj n.config⟩
      have text : node.id.IsText := ⟨n.id, rfl⟩
      have texts' : ∀ k ∈ (insertNode acc node).map (·.1), k.IsText := fun k member => by
        rcases (mem_keys_insertNode text k).mp member with old | rfl
        · exact texts k old
        · exact text
      obtain ⟨out, run, mem⟩ := readNodes_known rest (insertNode acc node) texts' allKnown
      refine ⟨out, ?_, fun k => ?_⟩
      · show (readNode n.toJson).bind _ = _
        rw [readNode_toJson, hk]
        exact run
      · rw [mem, mem_keys_insertNode text]
        simp only [List.mem_cons, exists_eq_or_imp]
        tauto


/-- The first node of an unknown type fails the reading. -/
theorem readNodes_unknown : ∀ (ns : List NodeDef) (acc : List (Json × Node)) {n : NodeDef},
    ns.find? NodeDef.unknown = some n →
    readNodes (ns.map NodeDef.toJson) acc = fail .workflow ("Unknown node type: " ++ n.type)
  | [], _, _, found => by cases found
  | m :: rest, acc, n, found => by
    show (readNode m.toJson).bind _ = _
    rw [List.find?_cons] at found
    rw [readNode_toJson]
    split at found
    · rename_i unknown
      cases found
      rw [show NodeKind.ofName? m.type = none by simpa [NodeDef.unknown] using unknown]
      rfl
    · rename_i known
      obtain ⟨kind, hk⟩ := Option.isSome_iff_exists.mp (by simpa [NodeDef.unknown] using known)
      rw [hk]
      exact readNodes_unknown rest _ found

theorem knownEnd_str (nodes : List (Json × Node)) (s : String) :
    knownEnd nodes (.str s) = if nodes.any (sameKey ·.1 (.str s)) then .ok ()
      else fail .nodeNotFound ("Edge references unknown node: " ++ s) := by
  by_cases known : nodes.any (sameKey ·.1 (.str s))
  · simp [knownEnd, Json.key, bind, Except.bind, known, pure, Except.pure]
  · simp [knownEnd, Json.key, bind, Except.bind, known, fail, Json.text]
    rfl

theorem readEdge_toJson (nodes : List (Json × Node)) (e : EdgeDef) :
    readEdge nodes e.toJson = (do
      knownEnd nodes (.str e.source)
      knownEnd nodes (.str e.target)
      pure e.edge) :=
  readEdge_obj nodes _

theorem readEdges_toJson {nodes : List (Json × Node)} {ids : List String}
    (known : ∀ s, nodes.any (sameKey ·.1 (.str s)) = true ↔ s ∈ ids) :
    ∀ es : List EdgeDef, readEdges nodes (es.map EdgeDef.toJson) =
      match (es.flatMap fun e => [e.source, e.target]).find? (· ∉ ids) with
      | some s => fail .nodeNotFound ("Edge references unknown node: " ++ s)
      | none => .ok (es.map EdgeDef.edge)
  | [] => rfl
  | e :: rest => by
    have ends : ∀ s, knownEnd nodes (.str s) = if s ∈ ids then .ok ()
        else fail .nodeNotFound ("Edge references unknown node: " ++ s) := fun s => by
      rw [knownEnd_str]
      by_cases member : s ∈ ids
      · rw [if_pos ((known s).mpr member), if_pos member]
      · rw [if_neg (mt (known s).mp member), if_neg member]
    simp only [readEdges, List.map_cons, List.mapM_cons, List.flatMap_cons]
    rw [readEdge_toJson, ends, ends]
    by_cases source : e.source ∈ ids
    · by_cases target : e.target ∈ ids
      · have rest_eq := readEdges_toJson known rest
        simp only [readEdges] at rest_eq
        simp only [source, target, if_true, List.cons_append, List.nil_append, List.find?_cons,
          not_true_eq_false, decide_false, rest_eq, bind, Except.bind]
        cases (rest.flatMap fun e => [e.source, e.target]).find? (· ∉ ids) <;> rfl
      · simp [source, target, bind, Except.bind, fail]
    · simp [source, bind, Except.bind, fail]


theorem buildWorkflow_toJson (d : WorkflowDef) :
    buildWorkflow d.toJson = if d.nodes.isEmpty then fail .workflow "Workflow has no nodes" else (do
      let nodes ← readNodes (d.nodes.map NodeDef.toJson) []
      let edges ← readEdges nodes (d.edges.map EdgeDef.toJson)
      pure ⟨nodes, edges⟩) := by
  by_cases empty : d.nodes.isEmpty
  · simp [buildWorkflow, WorkflowDef.toJson, Json.getOr, Json.lookup, List.lookup_cons,
      Json.truthy, bind, Except.bind, empty, fail, pure, Except.pure]
  · simp [buildWorkflow, WorkflowDef.toJson, Json.getOr, Json.lookup, List.lookup_cons,
      Json.truthy, Json.items, bind, Except.bind, empty, pure, Except.pure]


/-- Nodes read under text identifiers: an edge end names one exactly when it is one of them. -/
theorem any_sameKey_iff {out : List (Json × Node)} {names : List String}
    (keys : ∀ k, k ∈ out.map (·.1) ↔ ∃ s ∈ names, k = .str s) (s : String) :
    out.any (sameKey ·.1 (.str s)) = true ↔ s ∈ names := by
  rw [List.any_eq_true]
  constructor
  · rintro ⟨⟨k, n⟩, member, same⟩
    obtain ⟨t, named, rfl⟩ := (keys k).mp (List.mem_map.mpr ⟨_, member, rfl⟩)
    have same : s = t := Json.str.inj ((sameKey_str_left t _).mp same)
    rw [same]
    exact named
  · intro named
    obtain ⟨⟨k, n⟩, member, same⟩ := List.mem_map.mp ((keys (.str s)).mpr ⟨s, named, rfl⟩)
    subst same
    exact ⟨_, member, (sameKey_str_left s _).mpr rfl⟩

theorem readNodes_toJson {d : WorkflowDef} (allKnown : d.nodes.find? NodeDef.unknown = none) :
    ∃ out, readNodes (d.nodes.map NodeDef.toJson) [] = .ok out ∧
      ∀ k, k ∈ out.map (·.1) ↔ ∃ s ∈ d.ids, k = .str s := by
  obtain ⟨out, read, keys⟩ := readNodes_known d.nodes [] (by simp) allKnown
  exact ⟨out, read, fun k => by simpa [WorkflowDef.ids] using keys k⟩

theorem buildWorkflow_of_buildFault {d : WorkflowDef} {f : Failure} (fault : d.buildFault = some f) :
    buildWorkflow d.toJson = .error f := by
  rw [buildWorkflow_toJson]
  unfold WorkflowDef.buildFault at fault
  split at fault
  · rename_i empty
    cases fault
    rw [if_pos empty]
    rfl
  · rename_i nonempty
    rw [if_neg nonempty]
    split at fault
    · rename_i n unknown
      cases fault
      rw [readNodes_unknown _ _ unknown]
      rfl
    · rename_i allKnown
      obtain ⟨out, read, keys⟩ := readNodes_toJson allKnown
      have known := any_sameKey_iff keys
      split at fault
      · rename_i s unknownEnd
        cases fault
        simp only [WorkflowDef.ends] at unknownEnd
        simp only [read, readEdges_toJson known, unknownEnd, bind, Except.bind]
        rfl
      · cases fault


theorem buildWorkflow_of_no_buildFault {d : WorkflowDef} (clean : d.buildFault = none) :
    ∃ w, buildWorkflow d.toJson = .ok w ∧ (∀ k, k ∈ w.keys ↔ ∃ s ∈ d.ids, k = .str s) ∧
      w.edges = d.edges.map EdgeDef.edge := by
  rw [buildWorkflow_toJson]
  unfold WorkflowDef.buildFault at clean
  split at clean
  · cases clean
  · rename_i nonempty
    rw [if_neg nonempty]
    split at clean
    · cases clean
    · rename_i allKnown
      obtain ⟨out, read, keys⟩ := readNodes_toJson allKnown
      split at clean
      · cases clean
      · rename_i endsKnown
        simp only [WorkflowDef.ends] at endsKnown
        refine ⟨⟨out, d.edges.map EdgeDef.edge⟩, ?_, keys, rfl⟩
        simp only [read, readEdges_toJson (any_sameKey_iff keys), endsKnown, bind, Except.bind]
        rfl


/-- The graph built from a checked definition has the definition's identifiers, as texts, and
its edges. -/
theorem buildWorkflow_toJson_ok {d : WorkflowDef} {w : Workflow}
    (built : buildWorkflow d.toJson = .ok w) :
    (∀ k, k ∈ w.keys ↔ ∃ s ∈ d.ids, k = .str s) ∧ w.edges = d.edges.map EdgeDef.edge := by
  cases fault : d.buildFault with
  | some f =>
    rw [buildWorkflow_of_buildFault fault] at built
    cases built
  | none =>
    obtain ⟨w', built', keys, edges⟩ := buildWorkflow_of_no_buildFault fault
    rw [built'] at built
    cases built
    exact ⟨keys, edges⟩

/-- So it is a graph on distinct texts, with text slot names. -/
theorem textGraph_of_toJson {d : WorkflowDef} {w : Workflow} (built : buildWorkflow d.toJson = .ok w) :
    w.TextGraph ∧ ∀ e ∈ w.edges, e.targetPort.IsText := by
  obtain ⟨keys, edges⟩ := buildWorkflow_toJson_ok built
  refine ⟨buildWorkflow_textGraph built fun k key => ?_, fun e edge => ?_⟩
  · obtain ⟨s, -, rfl⟩ := (keys k).mp key
    exact ⟨s, rfl⟩
  · rw [edges] at edge
    obtain ⟨e, -, rfl⟩ := List.mem_map.mp edge
    exact ⟨e.targetPort, rfl⟩

/-! ### Cycles -/

theorem linked_iff_of_edges {d : WorkflowDef} {w : Workflow}
    (edges : w.edges = d.edges.map EdgeDef.edge) (a b : Json) : w.Linked a b ↔ ∃ u v, a = .str u ∧ b = .str v ∧ d.Linked u v := by
  simp only [Workflow.Linked, WorkflowDef.Linked, edges, List.mem_map]
  constructor
  · rintro ⟨_, ⟨e, member, rfl⟩, rfl, rfl⟩
    exact ⟨e.source, e.target, rfl, rfl, e, member, rfl, rfl⟩
  · rintro ⟨u, v, rfl, rfl, e, member, rfl, rfl⟩
    exact ⟨_, ⟨e, member, rfl⟩, rfl, rfl⟩

theorem hasCycle_iff_of_edges {d : WorkflowDef} {w : Workflow}
    (edges : w.edges = d.edges.map EdgeDef.edge) : w.HasCycle ↔ d.HasCycle := by
  -- a path along the built edges joins texts, and its texts are linked in the definition
  have down : ∀ {a b}, Relation.TransGen w.Linked a b →
      ∃ u v, a = .str u ∧ b = .str v ∧ Relation.TransGen d.Linked u v := by
    intro a b path
    induction path with
    | single link =>
      obtain ⟨u, v, rfl, rfl, linked⟩ := (linked_iff_of_edges edges _ _).mp link
      exact ⟨u, v, rfl, rfl, .single linked⟩
    | tail _ link ih =>
      obtain ⟨u, v, rfl, rfl, before⟩ := ih
      obtain ⟨v', x, same, rfl, linked⟩ := (linked_iff_of_edges edges _ _).mp link
      cases Json.str.inj same
      exact ⟨u, x, rfl, rfl, before.tail linked⟩
  constructor
  · rintro ⟨a, cycle⟩
    obtain ⟨u, v, rfl, same, path⟩ := down cycle
    cases Json.str.inj same
    exact ⟨u, path⟩
  · rintro ⟨v, cycle⟩
    exact ⟨.str v, cycle.lift Json.str fun u v linked =>
      (linked_iff_of_edges edges _ _).mpr ⟨u, v, rfl, rfl, linked⟩⟩


/-! ### Faults -/

theorem buildFault_eq_none_iff (d : WorkflowDef) :
    d.buildFault = none ↔ d.nodes ≠ [] ∧ (∀ n ∈ d.nodes, NodeKind.ofName? n.type ≠ none) ∧
      ∀ s ∈ d.ends, s ∈ d.ids := by
  unfold WorkflowDef.buildFault
  split
  · rename_i empty
    simp [List.isEmpty_iff.mp empty]
  · rename_i nonempty
    have present : d.nodes ≠ [] := fun none => nonempty (List.isEmpty_iff.mpr none)
    split
    · rename_i n unknown
      have bad := List.find?_some unknown
      simp only [NodeDef.unknown, Option.isNone_iff_eq_none] at bad
      simp only [reduceCtorEq, false_iff, not_and]
      exact fun _ known => absurd bad (known n (List.mem_of_find?_eq_some unknown))
    · rename_i allKnown
      have known : ∀ n ∈ d.nodes, NodeKind.ofName? n.type ≠ none := fun n member => by
        simpa [NodeDef.unknown] using List.find?_eq_none.mp allKnown n member
      split
      · rename_i s unknownEnd
        have outside := List.find?_some unknownEnd
        simp only [reduceCtorEq, false_iff, not_and]
        exact fun _ _ named =>
          absurd (named s (List.mem_of_find?_eq_some unknownEnd)) (by simpa using outside)
      · rename_i endsKnown
        simp only [true_iff]
        exact ⟨present, known, fun s member => by simpa using List.find?_eq_none.mp endsKnown s member⟩


theorem firstFault_eq_none_iff (d : WorkflowDef) :
    d.firstFault = none ↔ d.buildFault = none ∧ ¬ d.HasCycle := by
  unfold WorkflowDef.firstFault
  cases d.buildFault with
  | some f => simp
  | none => by_cases cycle : d.HasCycle <;> simp [cycle]

theorem buildFault_kind {d : WorkflowDef} {f : Failure} (fault : d.buildFault = some f) :
    f.kind = .workflow ∨ f.kind = .nodeNotFound := by
  unfold WorkflowDef.buildFault at fault
  split at fault
  · cases fault
    exact .inl rfl
  · split at fault
    · cases fault
      exact .inl rfl
    · split at fault
      · cases fault
        exact .inr rfl
      · cases fault

/-- Every fault is one of the workflow's own failures. -/
theorem workflowFailure_of_firstFault {d : WorkflowDef} {f : Failure} (fault : d.firstFault = some f) :
    Http.workflowFailure f = true := by
  unfold WorkflowDef.firstFault at fault
  split at fault
  · rename_i built
    cases fault
    rcases buildFault_kind built with kind | kind <;> simp only [Http.workflowFailure, kind] <;> decide
  · split at fault
    · cases fault
      rfl
    · cases fault

/-- A definition has a fault exactly when its node list is empty, a node has an unknown type, an
edge names an unknown node, or the edges have a cycle. -/
theorem firstFault_ne_none_iff (d : WorkflowDef) :
    d.firstFault ≠ none ↔ d.nodes = [] ∨ (∃ n ∈ d.nodes, NodeKind.ofName? n.type = none) ∨
      (∃ s ∈ d.ends, s ∉ d.ids) ∨ d.HasCycle := by
  rw [ne_eq, firstFault_eq_none_iff, buildFault_eq_none_iff]
  simp only [not_and_or, not_not, not_forall, exists_prop, or_assoc]

/-- What a run of a workflow definition does: it fails before any node runs with the first fault,
and runs otherwise. -/
theorem runWorkflow_firstFault (d : WorkflowDef) (store : Storage) :
    match d.firstFault with
    | some f => runWorkflow d.toJson store = .error f ∧
        (do let w ← buildWorkflow d.toJson; w.order) = .error f
    | none => ∃ run, runWorkflow d.toJson store = .ok run := by
  cases fault : d.buildFault with
  | some f =>
    rw [show d.firstFault = some f by simp [WorkflowDef.firstFault, fault]]
    have built := buildWorkflow_of_buildFault fault
    simp only [runWorkflow, built]
    exact ⟨rfl, rfl⟩
  | none =>
    obtain ⟨w, built, -, edges⟩ := buildWorkflow_of_no_buildFault fault
    obtain ⟨graph, ports⟩ := textGraph_of_toJson built
    by_cases cycle : d.HasCycle
    · rw [show d.firstFault = some ⟨.cycle, "Workflow contains a cycle"⟩ by
        simp [WorkflowDef.firstFault, fault, cycle]]
      have failed := (Workflow.order_spec graph).1.mpr ((hasCycle_iff_of_edges edges).mpr cycle)
      simp only [runWorkflow, built, bind, Except.bind, failed]
      exact ⟨rfl, rfl⟩
    · rw [show d.firstFault = none by simp [WorkflowDef.firstFault, fault, cycle]]
      obtain ⟨l, ordered, least⟩ :=
        (Workflow.order_spec graph).2 (mt (hasCycle_iff_of_edges edges).mp cycle)
      obtain ⟨run, ran⟩ := Workflow.foldlM_step_ok graph ports l ⟨[], [], store⟩
        fun id member => least.1.1.subset member
      exact ⟨run, by simp only [runWorkflow, built, ordered, bind, Except.bind]; exact ran⟩


/-- **A run of a checked workflow is refused exactly on a fault.** It is refused when the node list
is empty, a type is unknown, an edge names an unknown node, or the edges have a cycle; the
failure is that of the first check that fails, one of the workflow's own, and it comes from
building and ordering the graph, before any node runs. Otherwise the run goes to the end,
whatever the nodes do. -/
theorem runWorkflow_refused_iff (d : WorkflowDef) (store : Storage) :
    ((∃ f, runWorkflow d.toJson store = .error f) ↔
      d.nodes = [] ∨ (∃ n ∈ d.nodes, NodeKind.ofName? n.type = none) ∨
        (∃ s ∈ d.ends, s ∉ d.ids) ∨ d.HasCycle) ∧
      (∀ f, runWorkflow d.toJson store = .error f ↔ d.firstFault = some f) ∧
      (∀ f, runWorkflow d.toJson store = .error f →
        Http.workflowFailure f = true ∧ (do let w ← buildWorkflow d.toJson; w.order) = .error f) ∧
      (d.firstFault = none → ∃ run, runWorkflow d.toJson store = .ok run) := by
  rw [← firstFault_ne_none_iff]
  have spec := runWorkflow_firstFault d store
  cases fault : d.firstFault with
  | some f =>
    rw [fault] at spec
    obtain ⟨refused, early⟩ := spec
    refine ⟨⟨fun _ => by simp, fun _ => ⟨f, refused⟩⟩, fun g => ?_, fun g failed => ?_, by simp⟩
    · rw [refused]
      simp
    · rw [refused] at failed
      cases failed
      exact ⟨workflowFailure_of_firstFault fault, early⟩
  | none =>
    rw [fault] at spec
    obtain ⟨run, ran⟩ := spec
    refine ⟨⟨fun ⟨f, failed⟩ => by simp [ran] at failed, fun faulty => (faulty rfl).elim⟩,
      fun g => by simp [ran], fun g failed => by simp [ran] at failed, fun _ => ⟨run, ran⟩⟩

end Dataflow
