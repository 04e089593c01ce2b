import Dataflow.Proofs.Build
/-!
# One pass of the run loop

**A node's turn runs it on the results kept so far and records what it did.** With text slot
names the inputs of a node never fail: they are the results kept for the sources of its incoming
edges, taken in the order of the edges sorted stably by slot name. The node's outcome then gives
three things: the result recorded (`recorded`), the data kept for later nodes (`kept`) and the
files (`storeAfter`).

* `inputsOf_eq`: the inputs of a node, as a stable sort and a lookup;
* `step_eq`: a turn records its node's outcome (`Run.record`): the result recorded and the
  data kept;
* `foldlM_step_ok`: a run over identifiers of nodes never fails.
-/

namespace Dataflow

namespace Workflow

variable {w : Workflow}

/-! ### Inputs -/

theorem comparesBy_ports {edges : List Edge} (ports : ∀ e ∈ edges, e.targetPort.IsText) :
    ComparesBy (fun e : Edge => e.targetPort.text)
      (fun a b => Json.lessThan a.targetPort b.targetPort) edges := by
  intro a first b second
  show Json.lessThan a.targetPort b.targetPort = .ok (decide (a.targetPort.text < b.targetPort.text))
  rw [(ports a first).eq_str, (ports b second).eq_str]
  exact lessThan_str _ _

/-- **The inputs of a node** are the results kept for the sources of its incoming edges, in the
order of the edges sorted stably by slot name; a source with no result kept gives none. -/
theorem inputsOf_eq (ports : ∀ e ∈ w.edges, e.targetPort.IsText) (outputs : List (Json × Selection))
    (id : Json) :
    w.inputsOf outputs id = .ok (((w.edges.filter (sameKey ·.target id)).mergeSort
      fun a b => decide (a.targetPort.text ≤ b.targetPort.text)).filterMap
        fun e => (outputs.find? (sameKey ·.1 e.source)).map (·.2)) := by
  have sorted : listSort (fun a b => Json.lessThan a.targetPort b.targetPort)
      (w.edges.filter (sameKey ·.target id)) = .ok ((w.edges.filter (sameKey ·.target id)).mergeSort
        fun a b => decide (a.targetPort.text ≤ b.targetPort.text)) :=
    listSort_eq_mergeSort (comparesBy_ports fun e member => ports e (List.mem_of_mem_filter member))
  unfold inputsOf
  by_cases empty : (w.edges.filter (sameKey ·.target id)).isEmpty
  · rw [List.isEmpty_iff.mp empty]
    simp only [List.isEmpty_nil, if_true, List.mergeSort_nil, List.filterMap_nil]
    rfl
  · simp only [empty, sorted]
    rfl

/-! ### A node's turn -/

/-- The data the run keeps of a node's outcome for the nodes after it: the data of a success. -/
def kept : Outcome (NodeResult × Storage) → Option Selection
  | .ok (r, _) => if r.success then r.data else none
  | .error _ => none

/-- The result the run records of a node's outcome: a raised failure as a failed result, and a
success with data whose columns cannot be listed as that failure. -/
def recorded : Outcome (NodeResult × Storage) → NodeResult
  | .ok (r, _) =>
    match r.success, r.data with
    | true, some _ => match r.columns with
      | .ok _ => r
      | .error e => .failed e.message
    | _, _ => r
  | .error e => .failed e.message

/-- The files after a node's outcome: those it leaves, or the old ones when it raised. -/
def storeAfter (store : Storage) : Outcome (NodeResult × Storage) → Storage
  | .ok (_, s) => s
  | .error _ => store

/-- The run after a node's turn with this outcome: its recorded result appended, and the data
kept. -/
def Run.record (run : Run) (id : Json) (o : Outcome (NodeResult × Storage)) : Run :=
  ⟨run.results ++ [(id, recorded o)], run.outputs ++ ((kept o).map (id, ·)).toList,
    storeAfter run.store o⟩

/-- A turn records its node after those recorded before. -/
@[simp]
theorem Run.record_ids (run : Run) (id : Json) (o : Outcome (NodeResult × Storage)) :
    (run.record id o).results.map (·.1) = run.results.map (·.1) ++ [id] := by
  simp [Run.record]

/-- **A node's turn** records the outcome of its node run on its inputs. -/
theorem step_eq {run : Run} {id k : Json} {node : Node}
    (found : w.nodes.find? (sameKey ·.1 id) = some (k, node)) {inputs : List Selection}
    (given : w.inputsOf run.outputs id = .ok inputs) :
    w.step run id = .ok (run.record id (node.run inputs run.store)) := by
  simp only [step, given, found, bind, Except.bind]
  cases node.run inputs run.store with
  | error e =>
    simp only [Run.record, recorded, kept, storeAfter, pure, Except.pure, Option.map_none,
      Option.toList_none, List.append_nil]
  | ok p =>
    obtain ⟨r, store⟩ := p
    -- the recorded result and the kept data each look at the columns: split on them once
    cases success : r.success <;> cases data : r.data <;> cases columns : r.columns <;>
      simp only [Run.record, recorded, kept, storeAfter, success, data, columns, pure,
        Except.pure, Bool.false_eq_true, if_true, if_false, Option.map_none, Option.toList_none,
        List.append_nil, Option.map_some, Option.toList_some]

/-- A node with a text identifier is found under it. -/
theorem find?_node (graph : w.TextGraph) {id : Json} (key : id ∈ w.keys) :
    ∃ node, w.nodes.find? (sameKey ·.1 id) = some (id, node) := by
  have present : (w.nodes.find? (sameKey ·.1 id)).isSome := by
    obtain ⟨⟨k, node⟩, member, rfl⟩ := List.mem_map.mp key
    exact List.find?_isSome.mpr ⟨(k, node), member, (sameKey_iff_of_left (graph.texts _ key)).mpr rfl⟩
  obtain ⟨⟨k, node⟩, found⟩ := Option.isSome_iff_exists.mp present
  have same : sameKey k id = true := by simpa using List.find?_some found
  have text : k.IsText := graph.texts k
    (List.mem_map.mpr ⟨(k, node), List.mem_of_find?_eq_some found, rfl⟩)
  rw [(sameKey_iff_of_left text).mp same] at found
  exact ⟨node, found⟩

/-- **A run over identifiers of nodes never fails**: a node that fails is recorded as failed. -/
theorem foldlM_step_ok (graph : w.TextGraph) (ports : ∀ e ∈ w.edges, e.targetPort.IsText) :
    ∀ (ids : List Json) (run : Run), (∀ id ∈ ids, id ∈ w.keys) →
      ∃ run', ids.foldlM w.step run = .ok run'
  | [], run, _ => ⟨run, rfl⟩
  | id :: rest, run, keys => by
    obtain ⟨node, found⟩ := find?_node graph (keys id List.mem_cons_self)
    rw [List.foldlM_cons, step_eq found (inputsOf_eq ports run.outputs id)]
    exact foldlM_step_ok graph ports rest _ fun k later => keys k (List.mem_cons_of_mem id later)

end Workflow

end Dataflow
