import Dataflow.Proofs.Inputs
/-!
# The cache of the run and the recorded results

**The data kept for later nodes agrees with the recorded results exactly while no node's data is
a single column.** A node's turn keeps the data of a success for the nodes after it, and then
records the result; a success whose data is a single column (a series) cannot list its columns,
and is recorded as that failure, with its data still kept. `CacheSound` is what every state of
the run satisfies; from it, the claimed agreement (`CacheMatches`) holds exactly when no entry is
a single column.

* `recorded_of_kept`, `kept_of_recorded`: how a turn's kept data and recorded result relate;
* `CacheSound.record`: a turn keeps the state sound;
* `CacheSound.matches_iff`: agreement exactly without single columns;
* `loop_cacheMatches_iff`: at every turn of the run of a checked workflow.
-/

namespace Dataflow

namespace Workflow

/-! ### One turn -/

/-- The data of a success is kept. -/
theorem kept_eq_some {o : Outcome (NodeResult × Storage)} {d : Selection}
    (kept : kept o = some d) :
    ∃ r s, o = .ok (r, s) ∧ r.success = true ∧ r.data = some d := by
  match o, kept with
  | .ok (r, s), kept =>
    simp only [Workflow.kept] at kept
    split at kept
    · exact ⟨r, s, rfl, ‹_›, kept⟩
    · cases kept

/-- Kept data is recorded as it is when it is a table, and as the failure of listing its columns
when it is a single column. -/
theorem recorded_of_kept {o : Outcome (NodeResult × Storage)} {d : Selection}
    (kept : kept o = some d) :
    ((∃ f, d = .frame f) ∧ (recorded o).success = true ∧ (recorded o).data = some d) ∨
      ((∃ s, d = .series s) ∧
        recorded o = .failed "'Series' object has no attribute 'columns'") := by
  obtain ⟨r, s, rfl, success, data⟩ := kept_eq_some kept
  cases d with
  | frame f =>
    left
    have columns : r.columns = .ok f.labels := by simp [NodeResult.columns, data]
    simp [recorded, success, data, columns]
  | series ser =>
    right
    have columns :
        r.columns = .error ⟨.attribute, "'Series' object has no attribute 'columns'"⟩ := by
      simp [NodeResult.columns, data]
    simp [recorded, success, data, columns]

/-- The node's own result is recorded, or a failure in its place. -/
theorem recorded_ok (r : NodeResult) (s : Storage) :
    recorded (.ok (r, s)) = r ∨ ∃ m, recorded (.ok (r, s)) = .failed m := by
  simp only [recorded]
  split
  · split
    · exact .inl rfl
    · exact .inr ⟨_, rfl⟩
  · exact .inl rfl

/-- A success recorded with data had that data kept. -/
theorem kept_of_recorded {o : Outcome (NodeResult × Storage)} {d : Selection}
    (success : (recorded o).success = true) (data : (recorded o).data = some d) :
    kept o = some d := by
  match o with
  | .error e => simp [recorded, NodeResult.failed] at success
  | .ok (r, s) =>
    rcases recorded_ok r s with same | ⟨m, failed⟩
    · rw [same] at success data
      simp [Workflow.kept, success, data]
    · rw [failed] at success
      simp [NodeResult.failed] at success

/-! ### The state of the run -/

/-- The claimed agreement of the cache with the recorded results: a node has an entry exactly when
its recorded result is a success with data, and the entry is that data. -/
def CacheMatches (run : Run) : Prop :=
  ∀ v d, (v, d) ∈ run.outputs ↔ ∃ r, (v, r) ∈ run.results ∧ r.success = true ∧ r.data = some d

/-- What the run keeps true of its state: each node recorded once, every recorded success with
data has its entry, and every entry is a table recorded as a success with it, or a single column
recorded as the failure of listing its columns. -/
structure CacheSound (run : Run) : Prop where
  once : (run.results.map (·.1)).Nodup
  kept : ∀ v r d, (v, r) ∈ run.results → r.success = true → r.data = some d → (v, d) ∈ run.outputs
  entries : ∀ v d, (v, d) ∈ run.outputs →
    ((∃ f, d = .frame f) ∧ ∃ r, (v, r) ∈ run.results ∧ r.success = true ∧ r.data = some d) ∨
      ((∃ s, d = .series s) ∧
        (v, .failed "'Series' object has no attribute 'columns'") ∈ run.results)

theorem cacheSound_start (store : Storage) : CacheSound ⟨[], [], store⟩ :=
  ⟨List.nodup_nil, fun _ _ _ absent => absurd absent List.not_mem_nil,
    fun _ _ absent => absurd absent List.not_mem_nil⟩

/-- A turn of a node not recorded yet keeps the state sound. -/
theorem CacheSound.record {run : Run} (sound : CacheSound run) {v : Json}
    (fresh : v ∉ run.results.map (·.1)) (o : Outcome (NodeResult × Storage)) :
    CacheSound (run.record v o) := by
  refine ⟨?_, fun u r d member success data => ?_, fun u d member => ?_⟩
  · rw [Run.record_ids, List.nodup_append]
    refine ⟨sound.once, List.nodup_singleton _, fun a old b last same => ?_⟩
    rw [List.mem_singleton] at last
    exact fresh (by rw [← show a = v from same.trans last]; exact old)
  · rcases List.mem_append.mp member with old | last
    · exact List.mem_append_left _ (sound.kept u r d old success data)
    · obtain ⟨rfl, rfl⟩ := Prod.mk.inj (List.mem_singleton.mp last)
      have kept := kept_of_recorded success data
      exact List.mem_append_right _ (by simp [kept])
  · rcases List.mem_append.mp member with old | new
    · have earlier : ∀ {x}, x ∈ run.results → x ∈ (run.record v o).results :=
        fun x => List.mem_append_left _ x
      rcases sound.entries u d old with ⟨table, r, recorded, success, data⟩ | ⟨column, failed⟩
      · exact .inl ⟨table, r, earlier recorded, success, data⟩
      · exact .inr ⟨column, earlier failed⟩
    · simp only [Option.mem_toList, Option.map_eq_some_iff, Prod.mk.injEq] at new
      obtain ⟨d, kept, rfl, rfl⟩ := new
      have recorded : (v, recorded o) ∈ (run.record v o).results :=
        List.mem_append_right _ (List.mem_singleton_self _)
      rcases recorded_of_kept kept with ⟨table, success, data⟩ | ⟨column, failed⟩
      · exact .inl ⟨table, _, recorded, success, data⟩
      · exact .inr ⟨column, failed ▸ recorded⟩

/-- Each node is recorded once, so a node has one recorded result. -/
theorem CacheSound.result_unique {run : Run} (sound : CacheSound run) {v : Json}
    {r r' : NodeResult} (first : (v, r) ∈ run.results) (second : (v, r') ∈ run.results) : r = r' :=
  (Prod.mk.inj (List.inj_on_of_nodup_map sound.once first second rfl)).2

/-- **The claimed agreement holds exactly when no entry is a single column.** -/
theorem CacheSound.matches_iff {run : Run} (sound : CacheSound run) :
    CacheMatches run ↔ ∀ v s, (v, .series s) ∉ run.outputs := by
  constructor
  · intro agree v s entry
    obtain ⟨r, recorded, success, -⟩ := (agree v _).mp entry
    rcases sound.entries v _ entry with ⟨⟨f, table⟩, -⟩ | ⟨-, failed⟩
    · cases table
    · rw [sound.result_unique recorded failed] at success
      cases success
  · intro tables v d
    refine ⟨fun entry => ?_,
      fun ⟨r, recorded, success, data⟩ => sound.kept v r d recorded success data⟩
    rcases sound.entries v d entry with ⟨-, agreed⟩ | ⟨⟨s, rfl⟩, -⟩
    · exact agreed
    · exact absurd entry (tables v s)

/-- An entry whose node is recorded as failed is a single column. -/
theorem CacheSound.series_of_failed {run : Run} (sound : CacheSound run) {v : Json}
    {d : Selection} {r : NodeResult} (entry : (v, d) ∈ run.outputs)
    (recorded : (v, r) ∈ run.results)
    (failed : r.success = false) : ∃ s, d = .series s := by
  rcases sound.entries v d entry with ⟨-, r', recorded', success, -⟩ | ⟨column, -⟩
  · rw [sound.result_unique recorded recorded', success] at failed
    cases failed
  · exact column

/-! ### The run -/

variable {w : Workflow}

/-- Turns of distinct nodes not recorded yet keep the state sound, and record the nodes in their
order. -/
theorem foldlM_cacheSound (graph : w.TextGraph) (ports : ∀ e ∈ w.edges, e.targetPort.IsText) :
    ∀ (ids : List Json) (run : Run), CacheSound run → ids.Nodup →
      (∀ id ∈ ids, id ∈ w.keys ∧ id ∉ run.results.map (·.1)) →
      ∃ run', ids.foldlM w.step run = .ok run' ∧ CacheSound run' ∧
        run'.results.map (·.1) = run.results.map (·.1) ++ ids
  | [], run, sound, _, _ => ⟨run, rfl, sound, by simp⟩
  | id :: rest, run, sound, distinct, fresh => by
    obtain ⟨key, new⟩ := fresh id List.mem_cons_self
    obtain ⟨node, found⟩ := find?_node graph key
    have next :=
      sound.record new (node.run (sourceData run.outputs (byPort (w.incoming id))) run.store)
    -- the nodes after `id` are still to be recorded once `id` is
    have later : ∀ k ∈ rest, k ∈ w.keys ∧ k ∉ run.results.map (·.1) ++ [id] := fun k member => by
      obtain ⟨key, unrecorded⟩ := fresh k (List.mem_cons_of_mem id member)
      rw [List.mem_append, List.mem_singleton, not_or]
      exact ⟨key, unrecorded, fun same => (List.nodup_cons.mp distinct).1 (same ▸ member)⟩
    obtain ⟨run', ran, sound', recordedIds⟩ :=
      foldlM_cacheSound graph ports rest _ next (List.nodup_cons.mp distinct).2
        (by rw [Run.record_ids]; exact later)
    refine ⟨run', ?_, sound', ?_⟩
    · rw [List.foldlM_cons, step_eq found (inputsOf_eq ports run.outputs id)]
      exact ran
    · rw [recordedIds, Run.record_ids, List.append_assoc, List.singleton_append]

/-- **The cache agrees with the recorded results exactly while no entry is a single column.** At
every turn of the run of a checked workflow, the nodes run so far are recorded once each, in
the order; the cache has an entry for a node exactly when its recorded result is a success with
that data, unless some entry is a single column: such an entry belongs to a node recorded as the
failure of listing its columns, and it is the only data of a failed node that later nodes get. -/
theorem loop_cacheMatches_iff {d : WorkflowDef} {w : Workflow} {order : List Json}
    (built : buildWorkflow d.toJson = .ok w) (ordered : w.order = .ok order) (store : Storage)
    (k : Nat) :
    ∃ run, (order.take k).foldlM w.step ⟨[], [], store⟩ = .ok run ∧
      run.results.map (·.1) = order.take k ∧
      (CacheMatches run ↔ ∀ v s, (v, .series s) ∉ run.outputs) ∧
      (∀ v s, (v, .series s) ∈ run.outputs →
        (v, .failed "'Series' object has no attribute 'columns'") ∈ run.results) ∧
      ∀ v d r, (v, d) ∈ run.outputs → (v, r) ∈ run.results → r.success = false →
        ∃ s, d = .series s := by
  obtain ⟨graph, ports⟩ := textGraph_of_toJson built
  have schedule := (leastSchedule_of_order_ok graph ordered).1
  have distinct : order.Nodup := schedule.1.nodup_iff.mpr graph.distinct
  obtain ⟨run, ran, sound, recordedIds⟩ := foldlM_cacheSound graph ports (order.take k)
    ⟨[], [], store⟩ (cacheSound_start store) (distinct.sublist (List.take_sublist k order))
    fun id member => ⟨schedule.1.subset (List.mem_of_mem_take member), by simp⟩
  refine ⟨run, ran, by simpa using recordedIds, sound.matches_iff, fun v s entry => ?_,
    fun v d r entry recorded failed => sound.series_of_failed entry recorded failed⟩
  rcases sound.entries v _ entry with ⟨⟨f, table⟩, -⟩ | ⟨-, failed⟩
  · cases table
  · exact failed

/-- The workflow of a reader, a filter and an output, through all three turns. -/
theorem loop_cacheMatches_iff_chain :
    let d : WorkflowDef := ⟨[⟨"a", "ReadCSV", [("upload_id", .str "u")], .null⟩,
      ⟨"b", "Filter", [("expression", .str "1")], .null⟩, ⟨"c", "Output", [], .null⟩],
      [⟨"a", "out", "b", "in"⟩, ⟨"b", "out", "c", "in"⟩]⟩
    let store : Storage := ⟨some "/up", [("u", [120, 44, 121, 10, 49, 44, 50, 10])], "/out", .ready,
      [], 0⟩
    ∃ w order, buildWorkflow d.toJson = .ok w ∧ w.order = .ok order ∧
      ∃ run, (order.take 3).foldlM w.step ⟨[], [], store⟩ = .ok run ∧
        run.results.map (·.1) = order.take 3 ∧
        (CacheMatches run ↔ ∀ v s, (v, .series s) ∉ run.outputs) ∧
        (∀ v s, (v, .series s) ∈ run.outputs →
          (v, .failed "'Series' object has no attribute 'columns'") ∈ run.results) ∧
        ∀ v d r, (v, d) ∈ run.outputs → (v, r) ∈ run.results → r.success = false →
          ∃ s, d = .series s := by
  intro d store
  have built : buildWorkflow d.toJson = .ok ⟨[
      (.str "a", ⟨.str "a", .readCsv, .obj [("upload_id", .str "u")]⟩),
      (.str "b", ⟨.str "b", .filter, .obj [("expression", .str "1")]⟩),
      (.str "c", ⟨.str "c", .output, .obj []⟩)],
      [⟨.str "a", .str "b", .str "out", .str "in"⟩, ⟨.str "b", .str "c", .str "out", .str "in"⟩]⟩ :=
    rfl
  have ordered : Workflow.order ⟨[(.str "a", ⟨.str "a", .readCsv, .obj [("upload_id", .str "u")]⟩),
      (.str "b", ⟨.str "b", .filter, .obj [("expression", .str "1")]⟩),
      (.str "c", ⟨.str "c", .output, .obj []⟩)],
      [⟨.str "a", .str "b", .str "out", .str "in"⟩, ⟨.str "b", .str "c", .str "out", .str "in"⟩]⟩ =
      .ok [.str "a", .str "b", .str "c"] := rfl
  exact ⟨_, _, built, ordered, loop_cacheMatches_iff built ordered store 3⟩

end Workflow

end Dataflow
