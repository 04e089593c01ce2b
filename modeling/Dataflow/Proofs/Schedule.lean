import Dataflow.Flow.Execute
import Dataflow.Proofs.ListSort
import Mathlib.Data.List.Lex
import Mathlib.Data.String.Basic
import Mathlib.Data.Fintype.Sets
import Mathlib.Data.Fintype.Card
import Mathlib.Data.Fintype.EquivFin
import Mathlib.Order.WellFounded
/-!
# Schedules of a workflow

**What an order of the nodes must satisfy, and which order comes first.** A schedule lists every
node once, the source of every edge before its target. Taking again and again the least node
whose incoming edges all start at nodes already taken (`Greedy`) ends in one of two ways:

* `Greedy.leastSchedule`: it took every node, and the order is the least schedule when orders
  are compared as lists of identifier texts (`Greedy.least`: an exchange at the first place
  where a schedule differs from it);
* `Greedy.hasCycle`: it stopped short, and the nodes left over lie on a cycle (one of them with no
  ancestor among them would have been ready);
* `not_hasCycle_of_schedule`: a schedule rules out every cycle, so exactly one of the two happens;
* `LeastSchedule.unique`, `schedule_iff_of_sameGraph`: the least schedule depends only on the
  set of identifiers and the edge relation.

Identifiers here are texts (`TextGraph`), compared as texts are, character by character.
-/

namespace Dataflow

/-! ### Text identifiers -/

namespace Json

/-- A value that is a text. -/
def IsText (j : Json) : Prop := ∃ s, j = .str s

theorem IsText.eq_str {j : Json} (text : j.IsText) : j = .str j.text := by
  obtain ⟨s, rfl⟩ := text
  rfl

/-- Texts are equal when their texts are. -/
theorem IsText.eq_of_text_eq {a b : Json} (first : a.IsText) (second : b.IsText)
    (same : a.text = b.text) : a = b := by
  rw [first.eq_str, second.eq_str, same]

end Json

theorem sameKey_str_left (s : String) (b : Json) : sameKey (.str s) b = true ↔ b = .str s := by
  cases b <;> simp [sameKey, Json.key, BEq.beq, Cell.same, Cell.isNumber, eq_comm]

theorem sameKey_str_right (a : Json) (s : String) : sameKey a (.str s) = true ↔ a = .str s := by
  cases a <;> simp [sameKey, Json.key, BEq.beq, Cell.same, Cell.isNumber]

/-- Next to a text, being the same key is being equal. -/
theorem sameKey_iff_of_left {a b : Json} (text : a.IsText) : sameKey a b = true ↔ a = b := by
  obtain ⟨s, rfl⟩ := text
  rw [sameKey_str_left, eq_comm]

theorem sameKey_iff_of_right {a b : Json} (text : b.IsText) : sameKey a b = true ↔ a = b := by
  obtain ⟨s, rfl⟩ := text
  exact sameKey_str_right a s

/-- Lists of characters compare as `<` orders them. -/
theorem compare_chars_eq_lt : ∀ (a b : List Char), compare a b = .lt ↔ a < b
  | [], [] => by simp
  | [], _ :: _ => by simp [List.nil_lt_cons]
  | _ :: _, [] => by simp
  | x :: xs, y :: ys => by
    rw [List.compare_cons_cons, List.cons_lt_cons_iff, Ordering.then_eq_lt,
      compare_chars_eq_lt xs ys, compare_lt_iff_lt, compare_eq_iff_eq]

/-- Texts compare without failing, by the order of texts. -/
theorem lessThan_str (a b : String) : Json.lessThan (.str a) (.str b) = .ok (decide (a < b)) := by
  have same : Cell.compareText a b = .lt ↔ a < b := by
    rw [String.lt_iff_toList_lt, ← compare_chars_eq_lt]
    rfl
  have chars : (Cell.compareText a b == .lt) = decide (a < b) := by
    by_cases below : a < b
    · simp [below, same.mpr below]
    · simp [below, mt same.mp below]
  simp [Json.lessThan, Json.less, chars]

theorem comparesBy_text {xs : List Json} (texts : ∀ x ∈ xs, x.IsText) :
    ComparesBy Json.text Json.lessThan xs := by
  intro a ina b inb
  obtain ⟨s, rfl⟩ := texts a ina
  obtain ⟨t, rfl⟩ := texts b inb
  exact lessThan_str s t

/-! ### Graphs and schedules -/

/-- `u` stands before every occurrence of `v` in `l`. -/
def Precedes (l : List Json) (u v : Json) : Prop := ∀ l₁ l₂, l = l₁ ++ v :: l₂ → u ∈ l₁

namespace Workflow

variable (w : Workflow)

/-- The node identifiers, in order. -/
def keys : List Json := w.nodes.map (·.1)

/-- Some edge leads from `u` to `v`. -/
def Linked (u v : Json) : Prop := ∃ e ∈ w.edges, e.source = u ∧ e.target = v

/-- Some node reaches itself along the edges. -/
def HasCycle : Prop := ∃ v, Relation.TransGen w.Linked v v

/-- The graph of a built workflow whose identifiers are texts: they are distinct, and every edge
joins two of them. -/
structure TextGraph : Prop where
  texts : ∀ k ∈ w.keys, k.IsText
  distinct : w.keys.Nodup
  sources : ∀ e ∈ w.edges, e.source ∈ w.keys
  targets : ∀ e ∈ w.edges, e.target ∈ w.keys

/-- An order to run the nodes in: every node once, the source of every edge before its
target. -/
def Schedule (l : List Json) : Prop := l.Perm w.keys ∧ ∀ u v, w.Linked u v → Precedes l u v

/-- The schedule that comes first when orders are compared as lists of identifier texts. -/
def LeastSchedule (l : List Json) : Prop :=
  w.Schedule l ∧ ∀ other, w.Schedule other → l.map Json.text ≤ other.map Json.text

/-- A node not taken yet whose incoming edges all start at nodes taken. -/
def Ready (done : List Json) (v : Json) : Prop :=
  v ∈ w.keys ∧ v ∉ done ∧ ∀ u, w.Linked u v → u ∈ done

/-- Nodes taken in a sound order: each once, each after the sources of its incoming edges. -/
structure Taken (done : List Json) : Prop where
  nodup : done.Nodup
  keys : ∀ v ∈ done, v ∈ w.keys
  closed : ∀ u v, w.Linked u v → v ∈ done → Precedes done u v

/-- Taking the least ready node until none is ready leads from the nodes `done` to `result`. -/
inductive Greedy : List Json → List Json → Prop
  | stop {done : List Json} : (∀ v, ¬ w.Ready done v) → Greedy done done
  | take {done result : List Json} (m : Json) : w.Ready done m →
      (∀ v, w.Ready done v → m.text ≤ v.text) → Greedy (done ++ [m]) result →
      Greedy done result

end Workflow

/-! ### Precedence in a list -/

theorem Precedes.trans {l : List Json} {u v x : Json} (first : Precedes l u v)
    (second : Precedes l v x) : Precedes l u x := by
  intro l₁ l₂ split
  obtain ⟨m₁, m₂, rfl⟩ := List.append_of_mem (second l₁ l₂ split)
  exact List.mem_append_left _ (first m₁ (m₂ ++ x :: l₂) (by simp [split]))

/-- In a list without repeats, no item stands before itself. -/
theorem Precedes.irrefl {l : List Json} {v : Json} (nodup : l.Nodup) (member : v ∈ l) :
    ¬ Precedes l v v := by
  intro before
  obtain ⟨l₁, l₂, split⟩ := List.append_of_mem member
  have earlier := before l₁ l₂ split
  rw [split, List.nodup_append] at nodup
  exact nodup.2.2 v earlier v List.mem_cons_self rfl

/-- Appending a new item keeps every precedence ending at an older item. -/
theorem Precedes.snoc {done : List Json} {u v m : Json} (before : Precedes done u v)
    (old : v ∈ done) (new : m ∉ done) : Precedes (done ++ [m]) u v := by
  intro l₁ l₂ split
  rcases List.eq_nil_or_concat l₂ with rfl | ⟨l₂', z, rfl⟩
  · obtain ⟨rfl, last⟩ := List.append_inj' split rfl
    exact absurd (List.singleton_inj.mp last ▸ old) new
  · have longer : done ++ [m] = (l₁ ++ v :: l₂') ++ [z] := by simpa using split
    exact before l₁ l₂' (List.append_inj' longer rfl).1

/-- A new last item comes after every older item. -/
theorem precedes_snoc_last {done : List Json} {u m : Json} (new : m ∉ done) (old : u ∈ done) :
    Precedes (done ++ [m]) u m := by
  intro l₁ l₂ split
  rcases List.eq_nil_or_concat l₂ with rfl | ⟨l₂', z, rfl⟩
  · obtain ⟨rfl, -⟩ := List.append_inj' split rfl
    exact old
  · have longer : done ++ [m] = (l₁ ++ m :: l₂') ++ [z] := by simpa using split
    rw [(List.append_inj' longer rfl).1] at new
    exact absurd (List.mem_append_right l₁ List.mem_cons_self) new

namespace Workflow

variable {w : Workflow}

/-! ### Sound prefixes and the greedy run -/

theorem TextGraph.source_mem (graph : w.TextGraph) {u v : Json} (link : w.Linked u v) :
    u ∈ w.keys := by
  obtain ⟨e, edge, rfl, -⟩ := link
  exact graph.sources e edge

theorem TextGraph.target_mem (graph : w.TextGraph) {u v : Json} (link : w.Linked u v) :
    v ∈ w.keys := by
  obtain ⟨e, edge, -, rfl⟩ := link
  exact graph.targets e edge

theorem taken_nil : w.Taken [] :=
  ⟨List.nodup_nil, fun _ absent => absurd absent List.not_mem_nil,
    fun _ _ _ absent => absurd absent List.not_mem_nil⟩

/-- Taking a ready node keeps the order sound. -/
theorem Taken.snoc {done : List Json} {m : Json} (taken : w.Taken done) (ready : w.Ready done m) :
    w.Taken (done ++ [m]) := by
  obtain ⟨key, new, sources⟩ := ready
  refine ⟨List.nodup_append.mpr ⟨taken.nodup, List.nodup_singleton m, ?_⟩, ?_, ?_⟩
  · intro a old b last same
    rw [List.mem_singleton.mp last] at same
    exact new (same ▸ old)
  · intro v member
    rcases List.mem_append.mp member with old | last
    · exact taken.keys v old
    · exact List.mem_singleton.mp last ▸ key
  · intro u v link member
    rcases List.mem_append.mp member with old | last
    · exact (taken.closed u v link old).snoc old new
    · rw [List.mem_singleton.mp last] at link ⊢
      exact precedes_snoc_last new (sources u link)

theorem Greedy.extends {done result : List Json} (greedy : w.Greedy done result) :
    ∃ tail, result = done ++ tail := by
  induction greedy with
  | stop _ => exact ⟨[], by simp⟩
  | take m _ _ _ ih =>
    obtain ⟨tail, rfl⟩ := ih
    exact ⟨m :: tail, by simp⟩

theorem Greedy.taken {done result : List Json} (greedy : w.Greedy done result)
    (taken : w.Taken done) : w.Taken result := by
  induction greedy with
  | stop _ => exact taken
  | take m ready _ _ ih => exact ih (taken.snoc ready)

theorem Greedy.stuck {done result : List Json} (greedy : w.Greedy done result) :
    ∀ v, ¬ w.Ready result v := by
  induction greedy with
  | stop none => exact none
  | take _ _ _ _ ih => exact ih

/-! ### The greedy run is the least schedule -/

/-- The node that a schedule puts right after the nodes `done` is ready for them. -/
theorem Schedule.ready {done rest : List Json} {x : Json} (schedule : w.Schedule (done ++ x :: rest))
    (graph : w.TextGraph) : w.Ready done x := by
  have nodup : (done ++ x :: rest).Nodup := schedule.1.nodup_iff.mpr graph.distinct
  refine ⟨schedule.1.subset (by simp), fun old => ?_, fun u link => schedule.2 u x link done rest rfl⟩
  exact (List.nodup_append.mp nodup).2.2 x old x List.mem_cons_self rfl

/-- Lists of texts that agree up to a place and then have a smaller text come first. -/
theorem map_text_le_of_lt (done : List Json) {a b : Json} (rest other : List Json)
    (below : a.text < b.text) :
    (done ++ a :: rest).map Json.text ≤ (done ++ b :: other).map Json.text := by
  have first : List.Lex (· < ·) ((done ++ a :: rest).map Json.text)
      ((done ++ b :: other).map Json.text) := by
    simpa using List.Lex.append_left (· < ·) (List.Lex.rel below) (done.map Json.text)
  exact le_of_lt first

/-- **The exchange argument.** A greedy run from the nodes `done` comes no later than any schedule
that starts with them: where the two first differ, the schedule's node is ready too, and the run
took the least ready node. -/
theorem Greedy.least (graph : w.TextGraph) {done result : List Json}
    (greedy : w.Greedy done result) :
    ∀ tail, w.Schedule (done ++ tail) → result.map Json.text ≤ (done ++ tail).map Json.text := by
  induction greedy with
  | @stop done none =>
    intro tail schedule
    rcases tail with _ | ⟨x, rest⟩
    · simp
    · exact absurd (schedule.ready graph) (none x)
  | @take done result m ready least later ih =>
    intro tail schedule
    -- the run's next node is in the schedule's tail, so the tail goes on after `done`
    have inTail : m ∈ tail := by
      have member : m ∈ done ++ tail := schedule.1.mem_iff.mpr ready.1
      exact (List.mem_append.mp member).resolve_left ready.2.1
    rcases tail with _ | ⟨x, rest⟩
    · exact absurd inTail List.not_mem_nil
    · have readyX : w.Ready done x := schedule.ready graph
      by_cases same : m = x
      · subst same
        have continued : w.Schedule ((done ++ [m]) ++ rest) := by simpa using schedule
        simpa using ih rest continued
      · have below : m.text < x.text := by
          refine lt_of_le_of_ne (least x readyX) fun equal => same ?_
          exact Json.IsText.eq_of_text_eq (graph.texts m ready.1) (graph.texts x readyX.1) equal
        obtain ⟨tail', rfl⟩ := later.extends
        simpa using map_text_le_of_lt done tail' rest below

/-- A sound order that takes every node is a schedule. -/
theorem Taken.schedule (graph : w.TextGraph) {l : List Json} (taken : w.Taken l)
    (complete : l.length = w.keys.length) : w.Schedule l := by
  have perm : l.Perm w.keys :=
    (List.subperm_of_subset taken.nodup taken.keys).perm_of_length_le complete.ge
  refine ⟨perm, fun u v link => taken.closed u v link ?_⟩
  exact perm.mem_iff.mpr (graph.target_mem link)

/-- **A greedy run from no nodes that takes every node is the least schedule.** -/
theorem Greedy.leastSchedule (graph : w.TextGraph) {result : List Json}
    (greedy : w.Greedy [] result) (complete : result.length = w.keys.length) :
    w.LeastSchedule result :=
  ⟨(greedy.taken taken_nil).schedule graph complete,
    fun other schedule => by simpa using greedy.least graph other (by simpa using schedule)⟩

/-! ### Cycles -/

/-- **Nodes left over when none is ready lie on a cycle.** Were there no cycle, reaching along
edges would order the nodes well, and a left-over node with no left-over node before it would be
ready. -/
theorem hasCycle_of_stuck (graph : w.TextGraph) {done : List Json}
    (stuck : ∀ v, ¬ w.Ready done v) {k : Json} (key : k ∈ w.keys) (missing : k ∉ done) :
    w.HasCycle := by
  classical
  by_contra acyclic
  let reaches : {v // v ∈ w.keys} → {v // v ∈ w.keys} → Prop :=
    fun a b => Relation.TransGen w.Linked a.1 b.1
  have : IsTrans _ reaches := ⟨fun _ _ _ first second => first.trans second⟩
  have : Std.Irrefl reaches := ⟨fun a cycle => acyclic ⟨a.1, cycle⟩⟩
  obtain ⟨v, left, first⟩ := (Finite.wellFounded_of_trans_of_irrefl reaches).has_min
    {v | v.1 ∉ done} ⟨⟨k, key⟩, missing⟩
  have notReady := stuck v.1
  simp only [Ready, not_and, not_forall] at notReady
  obtain ⟨u, link, outside⟩ := notReady v.2 left
  exact first ⟨u, graph.source_mem link⟩ outside (Relation.TransGen.single link)

/-- **A greedy run from no nodes that stops short has run into a cycle.** -/
theorem Greedy.hasCycle (graph : w.TextGraph) {result : List Json} (greedy : w.Greedy [] result)
    (short : result.length ≠ w.keys.length) : w.HasCycle := by
  have taken := greedy.taken taken_nil
  have missing : ∃ k ∈ w.keys, k ∉ result := by
    by_contra full
    have all : ∀ k ∈ w.keys, k ∈ result := fun k key => by
      by_contra absent
      exact full ⟨k, key, absent⟩
    exact short (le_antisymm (taken.nodup.length_le_of_subset taken.keys)
      (graph.distinct.length_le_of_subset all))
  obtain ⟨k, key, absent⟩ := missing
  exact hasCycle_of_stuck graph greedy.stuck key absent

/-- Reaching along edges puts nodes in order in a schedule. -/
theorem Schedule.precedes_of_reaches {l : List Json} (schedule : w.Schedule l) {u v : Json}
    (reach : Relation.TransGen w.Linked u v) : Precedes l u v := by
  induction reach with
  | single link => exact schedule.2 _ _ link
  | tail _ link before => exact before.trans (schedule.2 _ _ link)

/-- **A schedule rules out every cycle.** -/
theorem not_hasCycle_of_schedule (graph : w.TextGraph) {l : List Json}
    (schedule : w.Schedule l) : ¬ w.HasCycle := by
  rintro ⟨v, cycle⟩
  have key : v ∈ w.keys := by
    cases cycle with
    | single link => exact graph.target_mem link
    | tail _ link => exact graph.target_mem link
  exact Precedes.irrefl (schedule.1.nodup_iff.mpr graph.distinct) (schedule.1.mem_iff.mpr key)
    (schedule.precedes_of_reaches cycle)

/-! ### What the least schedule depends on -/

/-- A list of text identifiers is given back by its texts. -/
theorem Schedule.eq_map_str (graph : w.TextGraph) {l : List Json} (schedule : w.Schedule l) :
    l = (l.map Json.text).map Json.str :=
  calc l = l.map id := (List.map_id l).symm
    _ = l.map (Json.str ∘ Json.text) := List.map_congr_left fun j member =>
      (graph.texts j (schedule.1.subset member)).eq_str
    _ = (l.map Json.text).map Json.str := List.map_map.symm

/-- There is at most one least schedule. -/
theorem LeastSchedule.unique (graph : w.TextGraph) {l l' : List Json}
    (first : w.LeastSchedule l) (second : w.LeastSchedule l') : l = l' := by
  have texts : l.map Json.text = l'.map Json.text :=
    le_antisymm (first.2 l' second.1) (second.2 l first.1)
  rw [first.1.eq_map_str graph, second.1.eq_map_str graph, texts]

/-- Workflows with the same identifiers and the same edge relation have the same schedules,
whatever the order of their node and edge lists. -/
theorem schedule_iff_of_sameGraph {w' : Workflow} (graph : w.TextGraph) (graph' : w'.TextGraph)
    (keys : ∀ k, k ∈ w'.keys ↔ k ∈ w.keys) (links : ∀ u v, w'.Linked u v ↔ w.Linked u v)
    (l : List Json) : w'.Schedule l ↔ w.Schedule l := by
  have perm : w'.keys.Perm w.keys :=
    (List.perm_ext_iff_of_nodup graph'.distinct graph.distinct).mpr keys
  constructor
  · rintro ⟨order, before⟩
    exact ⟨order.trans perm, fun u v link => before u v ((links u v).mpr link)⟩
  · rintro ⟨order, before⟩
    exact ⟨order.trans perm.symm, fun u v link => before u v ((links u v).mp link)⟩

theorem leastSchedule_iff_of_sameGraph {w' : Workflow} (graph : w.TextGraph)
    (graph' : w'.TextGraph) (keys : ∀ k, k ∈ w'.keys ↔ k ∈ w.keys)
    (links : ∀ u v, w'.Linked u v ↔ w.Linked u v) (l : List Json) :
    w'.LeastSchedule l ↔ w.LeastSchedule l := by
  simp only [LeastSchedule, schedule_iff_of_sameGraph graph graph' keys links]

theorem hasCycle_iff_of_sameGraph {w' : Workflow} (links : ∀ u v, w'.Linked u v ↔ w.Linked u v) :
    w'.HasCycle ↔ w.HasCycle := by
  have same : w'.Linked = w.Linked := funext fun u => funext fun v => propext (links u v)
  simp only [HasCycle, same]

end Workflow

end Dataflow
