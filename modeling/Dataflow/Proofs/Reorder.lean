import Mathlib.Data.List.Find
import Dataflow.Proofs.Inputs
/-!
# Reordering a workflow document

**A run does not depend on the order its nodes and edges are listed in.** For a checked workflow
with distinct node identifiers, listing the nodes in any other order, and the edges in any other
order that keeps the edges entering one node by one slot in their order, gives the same run: the
same nodes in the same order, with the same results, the same data kept and the same files.

Three facts carry it. The order the nodes run in depends on the identifiers and the edge
relation alone (`order_eq_of_sameGraph`); a node is found under its identifier wherever it is
listed, since no identifier is there twice (`find?_sameKey_perm`); and a node's inputs follow its
incoming edges sorted stably by slot, which the edges of each slot fix once they keep their order
(`byPort_congr`).

* `buildWorkflow_nodes`: with distinct identifiers, the built nodes are the definitions' entries
  in order;
* `buildWorkflow_reorder`: a reordered definition is built too;
* `step_reorder`: a node's turn is the same in both graphs;
* `runWorkflow_reorder`: the whole run is the same.

Identifiers that are not texts lose this: a node named `1` is also reached by an edge to `true`,
and it is recorded under the name of the edge that freed it (`runWorkflow_alias_order`).
-/

namespace Dataflow

/-- The entry a node definition of a known type makes in the built graph. -/
def NodeDef.entry? (n : NodeDef) : Option (Json × Node) :=
  (NodeKind.ofName? n.type).map fun kind => (.str n.id, ⟨.str n.id, kind, .obj n.config⟩)

/-- The edges `es'` are those of `es` in another order that keeps the order of the edges entering
one node by one slot. -/
def EdgeDef.Reorders (es' es : List EdgeDef) : Prop :=
  es'.Perm es ∧ ∀ t p, es'.filter (fun e => e.target == t && e.targetPort == p) =
    es.filter fun e => e.target == t && e.targetPort == p

/-! ### The built graph -/

/-- Reading node definitions with new and distinct identifiers adds their entries in order. -/
theorem readNodes_distinct : ∀ (ns : List NodeDef) {acc out : List (Json × Node)},
    (ns.map (·.id)).Nodup → (∀ n ∈ ns, Json.str n.id ∉ acc.map (·.1)) →
    readNodes (ns.map NodeDef.toJson) acc = .ok out → out = acc ++ ns.filterMap NodeDef.entry?
  | [], acc, out, _, _, read => by
    cases read
    simp
  | n :: rest, acc, out, distinct, fresh, read => by
    rw [List.map_cons] at read
    obtain ⟨node, first, later⟩ := readNodes_cons_ok read
    rw [readNode_toJson] at first
    cases kind : NodeKind.ofName? n.type with
    | none =>
      rw [kind] at first
      cases first
    | some k =>
      rw [kind] at first
      cases first
      obtain ⟨outside, distinct⟩ := List.nodup_cons.mp distinct
      have absent : acc.any (sameKey ·.1 (.str n.id)) = false :=
        List.any_eq_false.mpr fun p member same =>
          fresh n List.mem_cons_self (List.mem_map.mpr ⟨p, member, (sameKey_str_right _ _).mp same⟩)
      simp only [insertNode, absent, Bool.false_eq_true, if_false] at later
      -- the entry read last is new to the rest, whose identifiers differ from it
      have fresh' : ∀ m ∈ rest, Json.str m.id ∉
          (acc ++ [(Json.str n.id, (⟨.str n.id, k, .obj n.config⟩ : Node))]).map (·.1) := by
        intro m member
        simp only [List.map_append, List.map_cons, List.map_nil, List.mem_append, List.mem_singleton,
          Json.str.injEq, not_or]
        exact ⟨fresh m (List.mem_cons_of_mem n member),
          fun same => outside (List.mem_map.mpr ⟨m, member, same⟩)⟩
      rw [readNodes_distinct rest distinct fresh' later]
      simp [NodeDef.entry?, kind]

/-- **With distinct identifiers, the built nodes are the definitions' entries in order.** -/
theorem buildWorkflow_nodes {d : WorkflowDef} {w : Workflow} (built : buildWorkflow d.toJson = .ok w)
    (distinct : d.ids.Nodup) : w.nodes = d.nodes.filterMap NodeDef.entry? := by
  rw [buildWorkflow_toJson] at built
  split at built
  · cases built
  · simp only [bind_eq_ok, pure, Except.pure, Except.ok.injEq] at built
    obtain ⟨nodes, read, edges, -, rfl⟩ := built
    simpa using readNodes_distinct d.nodes distinct (by simp) read

/-- A definition with its nodes and edges listed in other orders passes the same checks, so it is
built too. -/
theorem buildWorkflow_reorder {d d' : WorkflowDef} {w : Workflow} (nodes : d'.nodes.Perm d.nodes)
    (edges : d'.edges.Perm d.edges) (built : buildWorkflow d.toJson = .ok w) :
    ∃ w', buildWorkflow d'.toJson = .ok w' := by
  have clean : d.buildFault = none := by
    cases fault : d.buildFault with
    | none => rfl
    | some f =>
      rw [buildWorkflow_of_buildFault fault] at built
      cases built
  obtain ⟨present, known, named⟩ := (buildFault_eq_none_iff d).mp clean
  have ends : ∀ s ∈ d'.ends, s ∈ d.ends := by
    simp only [WorkflowDef.ends, List.mem_flatMap]
    intro s found
    obtain ⟨e, member, last⟩ := found
    exact ⟨e, edges.subset member, last⟩
  have clean' : d'.buildFault = none := by
    refine (buildFault_eq_none_iff d').mpr ⟨fun empty => ?_, fun n member => ?_, fun s member => ?_⟩
    · rw [empty] at nodes
      exact present nodes.symm.eq_nil
    · exact known n (nodes.subset member)
    · exact (nodes.map NodeDef.id).mem_iff.mpr (named s (ends s member))
  obtain ⟨w', built', -, -⟩ := buildWorkflow_of_no_buildFault clean'
  exact ⟨w', built'⟩

/-! ### A node's turn -/

/-- Two text identifiers are the same key when they are the same text. -/
theorem sameKey_str (a b : String) : sameKey (.str a) (.str b) = (a == b) := by
  rw [Bool.eq_iff_iff, sameKey_str_left, beq_iff_eq, Json.str.injEq, eq_comm]

/-- A node is found under a text identifier wherever it is listed, when no identifier is there
twice. -/
theorem find?_sameKey_perm {l l' : List (Json × Node)} (perm : l'.Perm l)
    (distinct : (l.map (·.1)).Nodup) {v : Json} (text : v.IsText) :
    l'.find? (sameKey ·.1 v) = l.find? (sameKey ·.1 v) := by
  refine (List.find?_eq_find?_of_perm perm.symm fun x ⟨inX, keyX⟩ y ⟨inY, keyY⟩ => ?_).symm
  -- both entries are under `v`, which is there once
  have same : x.1 = y.1 :=
    ((sameKey_iff_of_right text).mp keyX).trans ((sameKey_iff_of_right text).mp keyY).symm
  exact List.inj_on_of_nodup_map distinct inX inY same

/-- Two lists of the same edges, with the edges of each slot in the same order, sort alike by
slot. -/
theorem byPort_congr {l l' : List Edge} (perm : l'.Perm l)
    (slots : ∀ p, keyClass (·.targetPort.text) p l' = keyClass (·.targetPort.text) p l) :
    Workflow.byPort l' = Workflow.byPort l :=
  eq_mergeSort (sortedBy_mergeSort l') ((List.mergeSort_perm l' _).trans perm)
    fun p => (keyClass_mergeSort p l').trans (slots p)

/-- The incoming edges of a node that enter by one slot are the checked edges into that slot. -/
theorem keyClass_incoming {w : Workflow} {es : List EdgeDef} (edges : w.edges = es.map EdgeDef.edge)
    (t p : String) : keyClass (·.targetPort.text) p (w.incoming (.str t)) =
      (es.filter fun e => e.target == t && e.targetPort == p).map EdgeDef.edge := by
  simp only [keyClass, Workflow.incoming, edges, List.filter_filter, List.filter_map]
  congr 1
  refine List.filter_congr fun e _ => ?_
  simp only [Function.comp_apply, EdgeDef.edge, Json.text, sameKey_str]
  exact Bool.and_comm _ _

/-- **A node's turn is the same in two graphs** with the same nodes, listed in any order, and the
same incoming edges sorted by slot. -/
theorem step_reorder {w w' : Workflow} (graph : w.TextGraph)
    (ports : ∀ e ∈ w.edges, e.targetPort.IsText) (ports' : ∀ e ∈ w'.edges, e.targetPort.IsText)
    (nodes : w'.nodes.Perm w.nodes) {v : Json} (key : v ∈ w.keys)
    (inputs : Workflow.byPort (w'.incoming v) = Workflow.byPort (w.incoming v)) (run : Workflow.Run) :
    w'.step run v = w.step run v := by
  obtain ⟨node, found⟩ := Workflow.find?_node graph key
  have found' : w'.nodes.find? (sameKey ·.1 v) = some (v, node) :=
    (find?_sameKey_perm nodes graph.distinct (graph.texts v key)).trans found
  have turn : w.step run v = .ok (run.record v
      (node.run (Workflow.sourceData run.outputs (Workflow.byPort (w.incoming v))) run.store)) :=
    Workflow.step_eq found (Workflow.inputsOf_eq ports run.outputs v)
  have turn' : w'.step run v = .ok (run.record v
      (node.run (Workflow.sourceData run.outputs (Workflow.byPort (w'.incoming v))) run.store)) :=
    Workflow.step_eq found' (Workflow.inputsOf_eq ports' run.outputs v)
  rw [turn, turn', inputs]

/-- Runs over the same identifiers agree when every turn does. -/
theorem foldlM_step_congr {w w' : Workflow} : ∀ {ids : List Json},
    (∀ v ∈ ids, ∀ run, w'.step run v = w.step run v) →
    ∀ run, ids.foldlM w'.step run = ids.foldlM w.step run
  | [], _, _ => rfl
  | v :: rest, same, run => by
    rw [List.foldlM_cons, List.foldlM_cons, same v List.mem_cons_self run]
    refine congrArg (w.step run v >>= ·) (funext fun next => ?_)
    exact foldlM_step_congr (fun u later => same u (List.mem_cons_of_mem v later)) next

/-! ### The run -/

/-- **Reordering the nodes, and the edges within what each slot keeps, leaves the run as it is.**
For a checked workflow with distinct node identifiers that runs, a definition listing its nodes in
any order and its edges in any order that keeps the edges entering one node by one slot in their
order runs to the same run: the same nodes in the same order with the same results, the same data
kept and the same files, written under the same file identifiers. -/
theorem runWorkflow_reorder {d d' : WorkflowDef} {store : Storage} {run : Workflow.Run}
    (distinct : d.ids.Nodup) (nodes : d'.nodes.Perm d.nodes) (edges : EdgeDef.Reorders d'.edges d.edges)
    (ran : runWorkflow d.toJson store = .ok run) : runWorkflow d'.toJson store = .ok run := by
  simp only [runWorkflow, bind_eq_ok] at ran ⊢
  obtain ⟨w, built, order, ordered, loop⟩ := ran
  obtain ⟨w', built'⟩ := buildWorkflow_reorder nodes edges.1 built
  obtain ⟨graph, ports⟩ := textGraph_of_toJson built
  obtain ⟨graph', ports'⟩ := textGraph_of_toJson built'
  have edgesOf := (buildWorkflow_toJson_ok built).2
  have edgesOf' := (buildWorkflow_toJson_ok built').2
  have nodePerm : w'.nodes.Perm w.nodes := by
    rw [buildWorkflow_nodes built distinct,
      buildWorkflow_nodes built' ((nodes.map NodeDef.id).nodup_iff.mpr distinct)]
    exact nodes.filterMap _
  have edgePerm : w'.edges.Perm w.edges := by
    rw [edgesOf, edgesOf']
    exact edges.1.map _
  -- the order depends on the identifiers and the edge relation alone
  have keys : ∀ k, k ∈ w'.keys ↔ k ∈ w.keys := fun k => (nodePerm.map (·.1)).mem_iff
  have links : ∀ u v, w'.Linked u v ↔ w.Linked u v := fun u v => by
    simp only [Workflow.Linked, edgePerm.mem_iff]
  have ordered' : w'.order = .ok order := (Workflow.order_eq_of_sameGraph graph graph' keys links).trans ordered
  -- each node's inputs come from the same edges of each slot, in the same order
  have turns : ∀ v ∈ order, ∀ r, w'.step r v = w.step r v := fun v member r => by
    have key : v ∈ w.keys := (Workflow.leastSchedule_of_order_ok graph ordered).1.1.subset member
    obtain ⟨t, rfl⟩ := graph.texts v key
    refine step_reorder graph ports ports' nodePerm key (byPort_congr (edgePerm.filter _) fun p => ?_) r
    rw [keyClass_incoming edgesOf' t p, keyClass_incoming edgesOf t p, edges.2 t p]
  exact ⟨w', built', order, ordered', (foldlM_step_congr turns _).trans loop⟩

/-- Three select nodes listed in another order, with the two edges into the last one, which enter
by different slots, swapped. -/
theorem runWorkflow_reorder_three :
    let d : WorkflowDef := ⟨[⟨"a", "Select", [], .null⟩, ⟨"b", "Select", [], .null⟩,
      ⟨"c", "Select", [], .null⟩], [⟨"a", "out", "c", "in"⟩, ⟨"b", "out", "c", "in_1"⟩]⟩
    let d' : WorkflowDef := ⟨[⟨"c", "Select", [], .null⟩, ⟨"a", "Select", [], .null⟩,
      ⟨"b", "Select", [], .null⟩], [⟨"b", "out", "c", "in_1"⟩, ⟨"a", "out", "c", "in"⟩]⟩
    let store : Storage := ⟨none, [], "", .unset, [], 0⟩
    let run : Workflow.Run := ⟨[(.str "a", .failed "No input data"),
      (.str "b", .failed "No input data"), (.str "c", .failed "No input data")], [], store⟩
    d.ids.Nodup ∧ d'.nodes.Perm d.nodes ∧ EdgeDef.Reorders d'.edges d.edges ∧
      runWorkflow d.toJson store = .ok run ∧ runWorkflow d'.toJson store = .ok run := by
  intro d d' store run
  have distinct : d.ids.Nodup := by decide
  have nodes : d'.nodes.Perm d.nodes := (List.Perm.swap _ _ _).trans ((List.Perm.swap _ _ _).cons _)
  have edges : EdgeDef.Reorders d'.edges d.edges := by
    refine ⟨List.Perm.swap _ _ _, fun t p => ?_⟩
    by_cases port : p = "in"
    · subst port
      simp [d, d', List.filter_cons]
    · simp [d, d', List.filter_cons, Ne.symm port]
  have ran : runWorkflow d.toJson store = .ok run := rfl
  exact ⟨distinct, nodes, edges, ran, runWorkflow_reorder distinct nodes edges ran⟩

/-- **Identifiers that are not texts break it.** A node named `1` is reached by an edge to `1` and
by one to `true`, which name the same key; it runs under the name carried by the edge that freed
it, the one listed last. Swapping the two edges, which enter different slots, renames it in the
run. -/
theorem runWorkflow_alias_order :
    let nodes : Json := .arr [.obj [("id", .int 0), ("type", .str "Select")],
      .obj [("id", .int 1), ("type", .str "Select")]]
    let plain : Json := .obj [("fromNodeId", .int 0), ("toNodeId", .int 1), ("toPort", .str "in")]
    let truth : Json := .obj [("fromNodeId", .int 0), ("toNodeId", .bool true),
      ("toPort", .str "in_1")]
    let store : Storage := ⟨none, [], "", .unset, [], 0⟩
    (runWorkflow (.obj [("nodes", nodes), ("edges", .arr [plain, truth])]) store).map
        (·.results.map (·.1)) = .ok [.int 0, .bool true] ∧
      (runWorkflow (.obj [("nodes", nodes), ("edges", .arr [truth, plain])]) store).map
        (·.results.map (·.1)) = .ok [.int 0, .int 1] :=
  ⟨rfl, rfl⟩

end Dataflow
