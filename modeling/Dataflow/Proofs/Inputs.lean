import Dataflow.Proofs.Refusal
/-!
# The inputs a node is given

**A node's inputs are the data kept for the sources of its incoming edges, in the order of the
edges sorted by slot name.** A source that failed kept no data, and its edge gives no input: the
node is not failed for it but runs on fewer inputs, the later ones moved up. Edges entering by
the same slot keep their order in the edge list. For the slot names `in`, `in_0`, ..., `in_9` the
order by name is the documented one.

* `turn_skips_failed_source`: a node whose first source failed runs on the other source alone;
* `byPort_eq_documented`: slot names among `documentedPorts` are sorted in the documented order;
* `turn_inputs_by_port`: a node's turn runs it on the data kept for its sources, by slot name.
-/

namespace Dataflow

/-- The slot names of the documented convention with one digit, in the documented order. -/
def documentedPorts : List String :=
  ["in", "in_0", "in_1", "in_2", "in_3", "in_4", "in_5", "in_6", "in_7", "in_8", "in_9"]

/-- A slot name's place in the documented order. -/
def portRank (p : String) : Nat := documentedPorts.idxOf p

/-- Among the documented slot names, the order of texts is the documented order. -/
theorem portRank_le_iff : ∀ p ∈ documentedPorts, ∀ q ∈ documentedPorts,
    (p ≤ q ↔ portRank p ≤ portRank q) := by
  decide

namespace Workflow

variable {w : Workflow}

/-- The incoming edges of a node, in edge order. -/
def incoming (w : Workflow) (v : Json) : List Edge := w.edges.filter (sameKey ·.target v)

/-- Edges sorted stably by the name of the slot they enter by. -/
def byPort (edges : List Edge) : List Edge :=
  edges.mergeSort fun a b => decide (a.targetPort.text ≤ b.targetPort.text)

/-- The data kept for the sources of edges, in edge order; a source with none gives nothing. -/
def sourceData (outputs : List (Json × Selection)) (edges : List Edge) : List Selection :=
  edges.filterMap fun e => (outputs.find? (sameKey ·.1 e.source)).map (·.2)

/-- Edges whose slot names are documented are sorted by name in the documented order. -/
theorem byPort_eq_documented {edges : List Edge}
    (documented : ∀ e ∈ edges, e.targetPort.text ∈ documentedPorts) :
    byPort edges =
      edges.mergeSort fun a b => decide (portRank a.targetPort.text ≤ portRank b.targetPort.text) :=
  mergeSort_congr_key fun a ina b inb =>
    portRank_le_iff _ (documented a ina) _ (documented b inb)

/-- A node with two incoming edges, whose source on the first slot failed and kept no data: its
turn runs it on the data of the other source alone, and it succeeds. -/
theorem turn_skips_failed_source :
    let frame : Frame := ⟨[(.str "x", .int64 #[1])], [.int64 #[0]]⟩
    let w : Workflow := ⟨[(.str "a", ⟨.str "a", .readCsv, .obj [("upload_id", .str "u")]⟩),
        (.str "b", ⟨.str "b", .readCsv, .obj [("upload_id", .str "missing")]⟩),
        (.str "c", ⟨.str "c", .select, .obj []⟩)],
      [⟨.str "b", .str "c", .str "out", .str "in"⟩, ⟨.str "a", .str "c", .str "out", .str "in_1"⟩]⟩
    let run : Run := ⟨[(.str "a", .succeeded (.frame frame) []),
        (.str "b", .failed "Uploaded file not found: missing")], [(.str "a", .frame frame)],
      ⟨some "/up", [("u", [120, 10, 49, 10])], "/out", .ready, [], 0⟩⟩
    (run.outputs.find? (sameKey ·.1 (.str "b"))).isNone ∧
      ∃ run', w.step run (.str "c") = .ok run' ∧
        run'.results.getLast?.map (fun (_, r) => r.success) = some true :=
  ⟨rfl, _, rfl, rfl⟩

/-- **A node's turn runs it on the data kept for its sources, by slot name.** In a workflow of a
checked request, at any state of the run, the node's inputs are the data kept for the sources of
its incoming edges sorted stably by slot name, a source without data giving none; for documented
slot names that is the documented order. -/
theorem turn_inputs_by_port {d : WorkflowDef} {w : Workflow} (built : buildWorkflow d.toJson = .ok w)
    (run : Run) {v : Json} (key : v ∈ w.keys) :
    ∃ node, w.nodes.find? (sameKey ·.1 v) = some (v, node) ∧
      w.step run v = .ok (run.record v (node.run (sourceData run.outputs (byPort (w.incoming v)))
        run.store)) ∧
      ((∀ e ∈ w.incoming v, e.targetPort.text ∈ documentedPorts) →
        byPort (w.incoming v) = (w.incoming v).mergeSort
          fun a b => decide (portRank a.targetPort.text ≤ portRank b.targetPort.text)) := by
  obtain ⟨graph, ports⟩ := textGraph_of_toJson built
  obtain ⟨node, found⟩ := find?_node graph key
  exact ⟨node, found, step_eq found (inputsOf_eq ports run.outputs v), byPort_eq_documented⟩

/-- A select node after two readers, entered by `in_1` and `in`, at the start of a run. -/
theorem turn_inputs_by_port_select :
    let d : WorkflowDef := ⟨[⟨"a", "ReadCSV", [], .null⟩, ⟨"b", "ReadCSV", [], .null⟩,
      ⟨"c", "Select", [], .null⟩], [⟨"b", "out", "c", "in_1"⟩, ⟨"a", "out", "c", "in"⟩]⟩
    let run : Run := ⟨[], [], ⟨none, [], "", .unset, [], 0⟩⟩
    ∃ w, buildWorkflow d.toJson = .ok w ∧ .str "c" ∈ w.keys ∧
      ∃ node, w.nodes.find? (sameKey ·.1 (.str "c")) = some (.str "c", node) ∧
        w.step run (.str "c") = .ok (run.record (.str "c")
          (node.run (sourceData run.outputs (byPort (w.incoming (.str "c")))) run.store)) ∧
        ((∀ e ∈ w.incoming (.str "c"), e.targetPort.text ∈ documentedPorts) →
          byPort (w.incoming (.str "c")) = (w.incoming (.str "c")).mergeSort
            fun a b => decide (portRank a.targetPort.text ≤ portRank b.targetPort.text)) := by
  intro d run
  have built : buildWorkflow d.toJson = .ok ⟨[(.str "a", ⟨.str "a", .readCsv, .obj []⟩),
      (.str "b", ⟨.str "b", .readCsv, .obj []⟩), (.str "c", ⟨.str "c", .select, .obj []⟩)],
      [⟨.str "b", .str "c", .str "out", .str "in_1"⟩, ⟨.str "a", .str "c", .str "out", .str "in"⟩]⟩ :=
    rfl
  have key : Json.str "c" ∈ [Json.str "a", .str "b", .str "c"] := by simp
  exact ⟨_, built, key, turn_inputs_by_port built run key⟩

end Workflow

end Dataflow
