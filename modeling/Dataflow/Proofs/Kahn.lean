import Dataflow.Proofs.Build
/-!
# Kahn's loop takes the least ready node

**The order the nodes run in is the least schedule, and the cycle failure comes exactly when the
edges have a cycle.** The loop keeps a queue and, for every node, a count of unmet incoming
edges; a pass sorts the queue, takes its first node and releases that node's outgoing edges.
`KahnState` says what the queue and the counts mean once the nodes `done` are taken: the queue
holds each ready node once, and a node's count is the number of its incoming edges from nodes
not taken, with repeated edges counted again.

* `Ready.snoc_iff`: taking a ready node makes ready the nodes whose last unmet edges it held;
* `foldl_release`: releasing a node's edges lowers every count by the edges it had from that
  node, and queues, once each, the targets whose count reaches nothing;
* `KahnState.release`: a pass takes a ready node and keeps the meaning;
* `kahn_greedy`: given more passes than nodes left, the loop is a greedy run (`Greedy`);
* `order_spec`: the order is the least schedule when there is no cycle, and the cycle failure
  exactly when there is one;
* `order_least_schedule`: so for a built workflow with text identifiers, and the order depends
  on the identifiers and the edge relation alone.
-/

namespace Dataflow

open Classical

namespace Workflow

/-- The incoming edges of `k` from nodes not taken yet, repeated edges counted again. -/
noncomputable def unmet (w : Workflow) (done : List Json) (k : Json) : Nat :=
  w.edges.countP fun e => e.target = k ∧ e.source ∉ done

/-- What the queue and the counts of Kahn's loop mean once the nodes `done` are taken. -/
structure KahnState (w : Workflow) (queue : List Json) (degrees : List (Json × Nat))
    (done : List Json) : Prop where
  taken : w.Taken done
  nodup : queue.Nodup
  ready : ∀ v, v ∈ queue ↔ w.Ready done v
  degrees : degrees = w.keys.map fun k => (k, w.unmet done k)

variable {w : Workflow}

theorem unmet_eq_zero_iff {done : List Json} {v : Json} :
    w.unmet done v = 0 ↔ ∀ u, w.Linked u v → u ∈ done := by
  rw [unmet, List.countP_eq_zero]
  constructor
  · rintro none u ⟨e, edge, rfl, rfl⟩
    by_contra outside
    exact none e edge (by simpa using outside)
  · intro sources e edge
    simp only [decide_eq_true_eq, not_and, not_not]
    exact fun target => sources e.source ⟨e, edge, rfl, target⟩

/-- The sources of the edges into a taken node are taken. -/
theorem Taken.source_mem {done : List Json} (taken : w.Taken done) {u v : Json}
    (link : w.Linked u v) (old : v ∈ done) : u ∈ done := by
  obtain ⟨l₁, l₂, split⟩ := List.append_of_mem old
  rw [split]
  exact List.mem_append_left _ (taken.closed u v link old l₁ l₂ split)

/-- The targets of a node are the nodes its edges lead to. -/
theorem mem_targets (graph : w.TextGraph) {m : Json} (key : m ∈ w.keys) (v : Json) :
    v ∈ w.targets m ↔ w.Linked m v := by
  have same : ∀ e : Edge, sameKey e.source m = true ↔ e.source = m :=
    fun e => sameKey_iff_of_right (graph.texts m key)
  simp [targets, Linked, same, and_assoc]

/-- A ready node stays ready when another node is taken. -/
theorem Ready.snoc {done : List Json} {v m : Json} (ready : w.Ready done v) (other : v ≠ m) :
    w.Ready (done ++ [m]) v :=
  ⟨ready.1, by simp [ready.2.1, other], fun u link => List.mem_append_left _ (ready.2.2 u link)⟩

theorem ready_iff_unmet {done : List Json} {v : Json} :
    w.Ready done v ↔ v ∈ w.keys ∧ v ∉ done ∧ w.unmet done v = 0 := by
  rw [Ready, unmet_eq_zero_iff]

/-- Taking a node `m` removes from every count the edges that come from `m`. -/
theorem unmet_snoc {done : List Json} {m : Json} (new : m ∉ done) (k : Json) :
    w.unmet (done ++ [m]) k + w.edges.countP (fun e => e.source = m ∧ e.target = k) =
      w.unmet done k := by
  unfold unmet
  induction w.edges with
  | nil => rfl
  | cons e rest ih =>
    simp only [List.countP_cons]
    by_cases target : e.target = k
    · by_cases source : e.source = m
      · -- an edge from `m` leaves the count once `m` is taken
        have taken : m ∈ done ++ [m] := by simp
        simp only [target, source, taken, new, not_true, not_false_eq_true, and_true, and_false,
          decide_true, decide_false, if_true, Bool.false_eq_true, if_false]
        omega
      · have fresh : e.source ∉ done ++ [m] ↔ e.source ∉ done := by simp [source]
        simp only [fresh, source, false_and, decide_false, Bool.false_eq_true, if_false]
        omega
    · simp only [target, false_and, decide_false, Bool.false_eq_true, if_false, and_false]
      omega

/-- Taking a ready node `m` leaves ready the nodes ready before but `m`, and makes ready those
whose last unmet edges come from `m`. -/
theorem Ready.snoc_iff (graph : w.TextGraph) {done : List Json} {m v : Json}
    (taken : w.Taken done) (ready : w.Ready done m) :
    w.Ready (done ++ [m]) v ↔
      (w.Ready done v ∧ v ≠ m) ∨ (w.Linked m v ∧ w.unmet (done ++ [m]) v = 0) := by
  have spent := unmet_snoc (w := w) ready.2.1 v
  constructor
  · intro later
    obtain ⟨key, out, zero⟩ := ready_iff_unmet.mp later
    have old : v ∉ done := fun old => out (List.mem_append_left _ old)
    have other : v ≠ m := fun same => out (by simp [same])
    by_cases before : w.unmet done v = 0
    · exact Or.inl ⟨ready_iff_unmet.mpr ⟨key, old, before⟩, other⟩
    · -- the edges that held `v` back came from `m`
      have positive : 0 < w.edges.countP (fun e => e.source = m ∧ e.target = v) := by omega
      obtain ⟨e, edge, link⟩ := List.countP_pos_iff.mp positive
      exact Or.inr ⟨⟨e, edge, by simpa using link⟩, zero⟩
  · rintro (⟨before, other⟩ | ⟨link, zero⟩)
    · exact before.snoc other
    · have old : v ∉ done := fun old => ready.2.1 (taken.source_mem link old)
      have other : v ≠ m := fun same => ready.2.1 (ready.2.2 m (same ▸ link))
      exact ready_iff_unmet.mpr ⟨graph.target_mem link, by simp [old, other], zero⟩

/-- The targets of a node's outgoing edges, counted at `k`, are its edges into `k`. -/
theorem countP_targets (graph : w.TextGraph) {m : Json} (key : m ∈ w.keys) (k : Json) :
    (w.targets m).countP (fun t => t = k) =
      w.edges.countP (fun e => e.source = m ∧ e.target = k) := by
  rw [targets, List.countP_map, List.countP_filter]
  refine List.countP_congr fun e edge => ?_
  have same : sameKey e.source m = true ↔ e.source = m := sameKey_iff_of_right (graph.texts m key)
  simp [same, and_comm]

/-! ### Releasing the edges of a node -/

/-- One release, with the counts given by a function on the identifiers: the count of `t` drops
by one, and `t` is queued when it was the last edge. -/
theorem release_spec {keys : List Json} (texts : ∀ k ∈ keys, k.IsText) (c : Json → Nat)
    (queue : List Json) (t : Json) :
    release (queue, keys.map fun k => (k, c k)) t =
      (if t ∈ keys ∧ c t - 1 = 0 then queue ++ [t] else queue,
        keys.map fun k => (k, if k = t then c k - 1 else c k)) := by
  have each : ∀ k ∈ keys, sameKey k t = true ↔ k = t :=
    fun k key => sameKey_iff_of_left (texts k key)
  unfold release
  simp only [List.map_map, List.any_map]
  refine Prod.ext ?_ (List.map_congr_left fun k key => ?_)
  · by_cases hit : t ∈ keys ∧ c t - 1 = 0
    · rw [if_pos hit, if_pos (List.any_eq_true.mpr ⟨t, hit.1, by simp [each t hit.1, hit.2]⟩)]
    · rw [if_neg hit, if_neg]
      rw [List.any_eq_true]
      rintro ⟨k, key, found⟩
      by_cases same : k = t
      · subst same
        exact hit ⟨key, by simpa [each k key] using found⟩
      · simp [each k key, same] at found
  · by_cases same : k = t
    · subst same
      simp [each k key]
    · simp [same, each k key]

/-- The targets queued by releasing `t :: rest` are `t`, when its count was one, then those that
`rest` queues on the lowered counts: the targets whose count the edges use up, once each. -/
theorem queued_cons {t : Json} {rest added : List Json} {c : Json → Nat}
    (bound : rest.countP (fun s => s = t) + 1 ≤ c t) (nodup : added.Nodup)
    (found : ∀ v, v ∈ added ↔
      v ∈ rest ∧ rest.countP (fun s => s = v) = if v = t then c v - 1 else c v) :
    ((if c t - 1 = 0 then [t] else []) ++ added).Nodup ∧
      ∀ v, v ∈ (if c t - 1 = 0 then [t] else []) ++ added ↔
        v ∈ t :: rest ∧ (t :: rest).countP (fun s => s = v) = c v := by
  have occurs : ∀ v, 0 < rest.countP (fun s => s = v) → v ∈ rest := fun v positive => by
    obtain ⟨s, member, same⟩ := List.countP_pos_iff.mp positive
    simpa [show s = v by simpa using same] using member
  refine ⟨?_, fun v => ?_⟩
  · by_cases last : c t - 1 = 0
    · rw [if_pos last, List.singleton_append, List.nodup_cons]
      -- `t` queued now cannot be queued again: its count is already spent
      refine ⟨fun member => ?_, nodup⟩
      obtain ⟨later, counted⟩ := (found t).mp member
      rw [if_pos rfl] at counted
      have positive : 0 < rest.countP (fun s => s = t) :=
        List.countP_pos_iff.mpr ⟨t, later, by simp⟩
      omega
    · simpa [last] using nodup
  · by_cases same : v = t
    · subst same
      simp only [List.mem_append, found, List.countP_cons, decide_true, if_true,
        List.mem_cons, true_or, true_and]
      by_cases last : c v - 1 = 0
      · simp only [if_pos last, List.mem_singleton, true_or, true_iff]
        omega
      · simp only [if_neg last, List.not_mem_nil, false_or]
        constructor
        · rintro ⟨-, counted⟩
          omega
        · intro counted
          exact ⟨occurs v (by omega), by omega⟩
    · have apart : ¬ t = v := Ne.symm same
      by_cases last : c t - 1 = 0 <;>
        simp [last, found, same, apart]

/-- Releasing the edges to `ts` lowers every count by the edges it had among them, and queues,
once each and after the old queue, the targets whose count reaches nothing. -/
theorem foldl_release {keys : List Json} (texts : ∀ k ∈ keys, k.IsText) :
    ∀ (ts queue : List Json) (c : Json → Nat), (∀ t ∈ ts, t ∈ keys) →
      (∀ k ∈ keys, ts.countP (fun t => t = k) ≤ c k) →
      ∃ added, ts.foldl release (queue, keys.map fun k => (k, c k)) =
          (queue ++ added, keys.map fun k => (k, c k - ts.countP (fun t => t = k))) ∧
        added.Nodup ∧ ∀ v, v ∈ added ↔ v ∈ ts ∧ ts.countP (fun t => t = v) = c v := by
  intro ts
  induction ts with
  | nil => exact fun queue c _ _ => ⟨[], by simp, List.nodup_nil, by simp⟩
  | cons t rest ih =>
    intro queue c members enough
    have key : t ∈ keys := members t List.mem_cons_self
    have bound : rest.countP (fun s => s = t) + 1 ≤ c t := by
      simpa [List.countP_cons] using enough t key
    -- the first release lowers the count of `t`; the rest runs on the lowered counts
    obtain ⟨added, folded, nodup, found⟩ :=
      ih (if t ∈ keys ∧ c t - 1 = 0 then queue ++ [t] else queue)
        (fun k => if k = t then c k - 1 else c k)
        (fun s later => members s (List.mem_cons_of_mem t later)) (fun k member => by
          by_cases same : k = t
          · subst same
            rw [if_pos rfl]
            omega
          · simpa [same, List.countP_cons, Ne.symm same] using enough k member)
    obtain ⟨nodup', found'⟩ := queued_cons bound nodup found
    refine ⟨_, ?_, nodup', found'⟩
    rw [List.foldl_cons, release_spec texts c queue t, folded]
    refine Prod.ext ?_ (List.map_congr_left fun k _ => ?_)
    · by_cases last : c t - 1 = 0 <;> simp [key, last]
    · by_cases same : k = t
      · subst same
        rw [if_pos rfl, List.countP_cons, if_pos (by simp), Nat.sub_sub, Nat.add_comm 1]
      · simp [same, Ne.symm same]

/-! ### A pass of the loop -/

/-- Taking a node and releasing its edges keeps the meaning of the queue and the counts. -/
theorem KahnState.release (graph : w.TextGraph) {queue done rest : List Json}
    {degrees : List (Json × Nat)} {m : Json}
    (state : w.KahnState queue degrees done) (perm : (m :: rest).Perm queue) :
    ∃ queue' degrees', (w.targets m).foldl release (rest, degrees) = (queue', degrees') ∧
      w.KahnState queue' degrees' (done ++ [m]) := by
  have ready : w.Ready done m := (state.ready m).mp (perm.subset List.mem_cons_self)
  have key : m ∈ w.keys := ready.1
  have queued : (m :: rest).Nodup := perm.nodup_iff.mpr state.nodup
  -- the count of `k` falls by the edges from `m`, which the release takes off
  have spent : ∀ k, w.unmet (done ++ [m]) k + (w.targets m).countP (fun t => t = k) =
      w.unmet done k := fun k => countP_targets graph key k ▸ unmet_snoc ready.2.1 k
  obtain ⟨added, folded, nodup, found⟩ :=
    foldl_release graph.texts (w.targets m) rest (w.unmet done)
      (fun t target => graph.target_mem ((mem_targets graph key t).mp target))
      (fun k _ => by have := spent k; omega)
  -- the queue left holds the nodes ready before but `m`; the release adds those whose last
  -- unmet edges came from `m`
  have waiting : ∀ v, v ∈ rest ↔ w.Ready done v ∧ v ≠ m := fun v => by
    rw [← state.ready, ← perm.mem_iff, List.mem_cons]
    constructor
    · intro later
      exact ⟨Or.inr later, fun same => (List.nodup_cons.mp queued).1 (same ▸ later)⟩
    · rintro ⟨(same | later), other⟩
      · exact absurd same other
      · exact later
  have fresh : ∀ v, v ∈ added ↔ w.Linked m v ∧ w.unmet (done ++ [m]) v = 0 := fun v => by
    rw [found, mem_targets graph key]
    have := spent v
    constructor <;> rintro ⟨link, counted⟩ <;> exact ⟨link, by omega⟩
  rw [state.degrees]
  refine ⟨_, _, folded, state.taken.snoc ready, ?_, fun v => ?_, ?_⟩
  · -- a node queued now waited on `m`, so it was not ready before
    refine List.nodup_append.mpr ⟨(List.nodup_cons.mp queued).2, nodup, ?_⟩
    rintro v before _ now rfl
    exact ready.2.1 (((waiting v).mp before).1.2.2 m ((fresh v).mp now).1)
  · rw [List.mem_append, waiting, fresh, Ready.snoc_iff graph state.taken ready]
  · refine List.map_congr_left fun k _ => ?_
    have := spent k
    congr 1
    omega

/-- In a meaningful state the queue holds texts, so the loop's sort is the merge sort by text. -/
theorem KahnState.listSort_eq (graph : w.TextGraph) {queue done : List Json}
    {degrees : List (Json × Nat)} (state : w.KahnState queue degrees done) :
    listSort Json.lessThan queue = .ok (queue.mergeSort fun a b => decide (a.text ≤ b.text)) :=
  listSort_eq_mergeSort (comparesBy_text fun x member => graph.texts x ((state.ready x).mp member).1)

/-- Given more passes than nodes not taken, the loop runs greedily until no node is ready. -/
theorem kahn_greedy (graph : w.TextGraph) : ∀ (fuel : Nat) {queue done : List Json}
    {degrees : List (Json × Nat)}, w.KahnState queue degrees done →
    w.keys.length - done.length < fuel →
    ∃ result, w.kahn fuel queue degrees done = .ok result ∧ w.Greedy done result
  | 0, _, _, _, _, room => absurd room (Nat.not_lt_zero _)
  | fuel + 1, queue, done, degrees, state, room => by
    rw [kahn, state.listSort_eq graph]
    have perm := List.mergeSort_perm queue fun a b => decide (a.text ≤ b.text)
    have sorted : SortedBy Json.text (queue.mergeSort fun a b => decide (a.text ≤ b.text)) :=
      sortedBy_mergeSort queue
    rcases split : queue.mergeSort (fun a b => decide (a.text ≤ b.text)) with _ | ⟨m, rest⟩
    · -- an empty queue: no node is ready, and the run stops
      rw [split, List.nil_perm] at perm
      subst perm
      refine ⟨done, ?_, .stop fun v ready => List.not_mem_nil ((state.ready v).mpr ready)⟩
      rfl
    · rw [split] at perm sorted
      have ready : w.Ready done m := (state.ready m).mp (perm.subset List.mem_cons_self)
      have least : ∀ v, w.Ready done v → m.text ≤ v.text := by
        intro v later
        rcases List.mem_cons.mp (perm.symm.subset ((state.ready v).mpr later)) with rfl | after
        · exact le_refl _
        · exact List.rel_of_pairwise_cons sorted after
      obtain ⟨queue', degrees', folded, state'⟩ := state.release graph perm
      -- `m` is a key not taken, so fewer nodes are left
      have shorter : done.length < w.keys.length :=
        (List.nodup_cons.mpr ⟨ready.2.1, state.taken.nodup⟩).length_le_of_subset
          (List.cons_subset.mpr ⟨ready.1, state.taken.keys⟩)
      obtain ⟨result, run, greedy⟩ := kahn_greedy graph fuel state' (by simp; omega)
      refine ⟨result, ?_, .take m ready least greedy⟩
      simp only [bind, Except.bind, folded]
      exact run

/-- The starting counts: every incoming edge of a node is unmet. -/
theorem start_degrees (graph : w.TextGraph) :
    (w.nodes.map fun (k, _) => (k, (w.edges.filter (sameKey ·.target k)).length)) =
      w.keys.map fun k => (k, w.unmet [] k) := by
  rw [keys, List.map_map]
  refine List.map_congr_left fun (k, node) member => ?_
  have key : k ∈ w.keys := List.mem_map.mpr ⟨(k, node), member, rfl⟩
  have same : ∀ e ∈ w.edges, sameKey e.target k = decide (e.target = k) := fun e _ => by
    rw [Bool.eq_iff_iff, decide_eq_true_iff]
    exact sameKey_iff_of_right (graph.texts k key)
  simp [unmet, List.countP_eq_length_filter, List.filter_congr same]

/-- The loop starts in a meaningful state: nothing taken, the nodes without incoming edges
queued. -/
theorem kahnState_start (graph : w.TextGraph) :
    w.KahnState (((w.keys.map fun k => (k, w.unmet [] k)).filter (·.2 == 0)).map (·.1))
      (w.keys.map fun k => (k, w.unmet [] k)) [] := by
  have queue : (((w.keys.map fun k => (k, w.unmet [] k)).filter (·.2 == 0)).map (·.1)) =
      w.keys.filter fun k => w.unmet [] k == 0 := by
    simp [List.filter_map, List.map_map, Function.comp_def]
  rw [queue]
  refine ⟨taken_nil, graph.distinct.filter _, fun v => ?_, rfl⟩
  simp [ready_iff_unmet]

/-- The order is the greedy run from no node taken, or the cycle failure when that run stops
short of the nodes. -/
theorem order_eq_greedy (graph : w.TextGraph) :
    ∃ result, w.Greedy [] result ∧
      w.order = if result.length = w.keys.length then .ok result
        else fail .cycle "Workflow contains a cycle" := by
  obtain ⟨result, run, greedy⟩ :=
    kahn_greedy graph (w.nodes.length + 1) (kahnState_start graph) (by simp [keys])
  refine ⟨result, greedy, ?_⟩
  have length : w.keys.length = w.nodes.length := List.length_map _
  simp only [order, start_degrees graph, run, bind, Except.bind, length]
  by_cases complete : result.length = w.nodes.length
  · simp [complete]
    rfl
  · simp [complete, fail]

/-- The order fails exactly on a cycle, and is otherwise the least schedule. -/
theorem order_spec (graph : w.TextGraph) :
    (w.order = fail .cycle "Workflow contains a cycle" ↔ w.HasCycle) ∧
      (¬ w.HasCycle → ∃ l, w.order = .ok l ∧ w.LeastSchedule l) := by
  obtain ⟨result, greedy, order⟩ := order_eq_greedy graph
  by_cases complete : result.length = w.keys.length
  · rw [if_pos complete] at order
    have least := greedy.leastSchedule graph complete
    have acyclic := not_hasCycle_of_schedule graph least.1
    refine ⟨⟨fun failed => ?_, fun cycle => absurd cycle acyclic⟩, fun _ => ⟨result, order, least⟩⟩
    rw [order] at failed
    cases failed
  · rw [if_neg complete] at order
    have cycle := greedy.hasCycle graph complete
    exact ⟨⟨fun _ => cycle, fun _ => order⟩, fun acyclic => absurd cycle acyclic⟩

/-- An order given is the least schedule. -/
theorem leastSchedule_of_order_ok (graph : w.TextGraph) {l : List Json} (ordered : w.order = .ok l) :
    w.LeastSchedule l := by
  by_cases cycle : w.HasCycle
  · rw [(order_spec graph).1.mpr cycle] at ordered
    cases ordered
  · obtain ⟨l', ordered', least⟩ := (order_spec graph).2 cycle
    rw [ordered] at ordered'
    cases ordered'
    exact least

/-- Workflows with the same identifiers and the same edge relation have the same order. -/
theorem order_eq_of_sameGraph {w' : Workflow} (graph : w.TextGraph) (graph' : w'.TextGraph)
    (keys : ∀ k, k ∈ w'.keys ↔ k ∈ w.keys) (links : ∀ u v, w'.Linked u v ↔ w.Linked u v) :
    w'.order = w.order := by
  by_cases cycle : w.HasCycle
  · rw [(order_spec graph).1.mpr cycle,
      (order_spec graph').1.mpr ((hasCycle_iff_of_sameGraph links).mpr cycle)]
  · obtain ⟨l, order, least⟩ := (order_spec graph).2 cycle
    obtain ⟨l', order', least'⟩ :=
      (order_spec graph').2 (mt (hasCycle_iff_of_sameGraph links).mp cycle)
    have same : l' = l :=
      ((leastSchedule_iff_of_sameGraph graph graph' keys links l').mp least').unique graph least
    rw [order, order', same]

/-! ### The order of a built workflow -/

/-- **The order of a built workflow with text identifiers.** It is the cycle failure exactly when
the edges have a cycle, and otherwise the least schedule; so it depends on the identifiers and the
edge relation alone, not on the order the nodes and edges are listed in. -/
theorem order_least_schedule {doc : Json} {w : Workflow} (built : buildWorkflow doc = .ok w)
    (texts : ∀ k ∈ w.keys, k.IsText) :
    (w.order = fail .cycle "Workflow contains a cycle" ↔ w.HasCycle) ∧
      (¬ w.HasCycle → ∃ l, w.order = .ok l ∧ w.LeastSchedule l) ∧
      ∀ (doc' : Json) (w' : Workflow), buildWorkflow doc' = .ok w' →
        (∀ k, k ∈ w'.keys ↔ k ∈ w.keys) → (∀ u v, w'.Linked u v ↔ w.Linked u v) →
        w'.order = w.order := by
  have graph := buildWorkflow_textGraph built texts
  refine ⟨(order_spec graph).1, (order_spec graph).2, fun doc' w' built' keys links => ?_⟩
  have graph' := buildWorkflow_textGraph built' fun k key => texts k ((keys k).mp key)
  exact order_eq_of_sameGraph graph graph' keys links

/-- An output node listed before the node it reads from. -/
theorem order_least_schedule_pair :
    let doc : Json := .obj [("nodes", .arr [.obj [("id", .str "b"), ("type", .str "Output")],
        .obj [("id", .str "a"), ("type", .str "ReadCSV")]]),
      ("edges", .arr [.obj [("fromNodeId", .str "a"), ("toNodeId", .str "b")]])]
    ∃ w, buildWorkflow doc = .ok w ∧ (∀ k ∈ w.keys, k.IsText) ∧
      (¬ w.HasCycle → ∃ l, w.order = .ok l ∧ w.LeastSchedule l) := by
  intro doc
  have built : buildWorkflow doc = .ok ⟨[(.str "b", ⟨.str "b", .output, .obj []⟩),
      (.str "a", ⟨.str "a", .readCsv, .obj []⟩)], [⟨.str "a", .str "b", .str "out", .str "in"⟩]⟩ :=
    rfl
  have texts : ∀ k ∈ [Json.str "b", .str "a"], k.IsText := by simp [Json.IsText]
  exact ⟨_, built, texts, (order_least_schedule built texts).2.1⟩

end Workflow

end Dataflow
