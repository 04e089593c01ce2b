import Dataflow.Proofs.Schedule
/-!
# Building the graph of a workflow document

**A built workflow with text identifiers is a graph on distinct texts.** Reading the node
definitions puts a node with an identifier already read in the place of the earlier one, so the
identifiers read are distinct once they are texts; every edge that is read names two of them.

* `readNodes_keys_subset`, `readNodes_nodup`: reading keeps the identifiers read before, and
  keeps text identifiers distinct;
* `readEdge_obj`: an edge definition is a dictionary whose two ends are checked, source first;
* `buildWorkflow_textGraph`: a built workflow whose identifiers are texts is a `TextGraph`.
-/

namespace Dataflow

/-- Two steps succeed when the first does and the second does on its result. -/
theorem bind_eq_ok {α β ε : Type} {x : Except ε α} {f : α → Except ε β} {b : β} :
    x >>= f = .ok b ↔ ∃ a, x = .ok a ∧ f a = .ok b := by
  cases x <;> simp [bind, Except.bind]

/-! ### Nodes -/

/-- A run of reading that succeeds goes through every definition. -/
theorem readNodes_cons_ok {d : Json} {rest : List Json} {acc out : List (Json × Node)}
    (read : readNodes (d :: rest) acc = .ok out) :
    ∃ node, readNode d = .ok node ∧ readNodes rest (insertNode acc node) = .ok out :=
  bind_eq_ok.mp read

/-- Inserting a node keeps the identifiers, and adds its own when no equal one is there. -/
theorem keys_insertNode (acc : List (Json × Node)) (node : Node) :
    (insertNode acc node).map (·.1) =
      if acc.any (sameKey ·.1 node.id) then acc.map (·.1) else acc.map (·.1) ++ [node.id] := by
  unfold insertNode
  split
  · rw [List.map_map]
    refine List.map_congr_left fun (k, n) _ => ?_
    by_cases same : sameKey k node.id <;> simp [same]
  · simp

/-- With a text identifier, inserting a node adds exactly its identifier. -/
theorem mem_keys_insertNode {acc : List (Json × Node)} {node : Node} (text : node.id.IsText)
    (k : Json) : k ∈ (insertNode acc node).map (·.1) ↔ k ∈ acc.map (·.1) ∨ k = node.id := by
  rw [keys_insertNode]
  split
  · rename_i present
    obtain ⟨⟨j, n⟩, member, same⟩ := List.any_eq_true.mp present
    have old : node.id ∈ acc.map (·.1) :=
      List.mem_map.mpr ⟨(j, n), member, (sameKey_iff_of_right text).mp same⟩
    constructor
    · exact Or.inl
    · rintro (old' | rfl)
      · exact old'
      · exact old
  · simp

theorem readNodes_keys_subset : ∀ {defs : List Json} {acc out : List (Json × Node)},
    readNodes defs acc = .ok out → acc.map (·.1) ⊆ out.map (·.1)
  | [], acc, out, read => by
    cases read
    exact List.Subset.refl _
  | d :: rest, acc, out, read => by
    obtain ⟨node, _, later⟩ := readNodes_cons_ok read
    refine List.Subset.trans ?_ (readNodes_keys_subset later)
    rw [keys_insertNode]
    split
    · exact List.Subset.refl _
    · exact List.subset_append_left _ _

/-- **Reading keeps text identifiers distinct**: a node whose identifier is already there takes
the earlier node's place. -/
theorem readNodes_nodup : ∀ {defs : List Json} {acc out : List (Json × Node)},
    readNodes defs acc = .ok out → (∀ k ∈ out.map (·.1), k.IsText) →
    (acc.map (·.1)).Nodup → (out.map (·.1)).Nodup
  | [], acc, out, read, _, distinct => by
    cases read
    exact distinct
  | d :: rest, acc, out, read, texts, distinct => by
    obtain ⟨node, _, later⟩ := readNodes_cons_ok read
    refine readNodes_nodup later texts ?_
    rw [keys_insertNode]
    split
    · exact distinct
    · rename_i absent
      -- the new identifier is read in the end, so it is a text, and no key equals it
      have text : node.id.IsText := texts _ (readNodes_keys_subset later (by
        rw [keys_insertNode, if_neg absent]
        exact List.mem_append_right _ (List.mem_singleton_self _)))
      refine List.nodup_append.mpr ⟨distinct, List.nodup_singleton _, ?_⟩
      intro k old k' last same
      rw [List.mem_singleton] at last
      obtain ⟨⟨j, n⟩, member, rfl⟩ := List.mem_map.mp old
      exact absent (List.any_eq_true.mpr
        ⟨(j, n), member, (sameKey_iff_of_right text).mpr (same.trans last)⟩)

/-! ### Edges -/

/-- The edge an edge dictionary describes, each field under its camel-case name or else its
snake-case one, with the default slots. -/
def edgeOf (fields : List (String × Json)) : Edge where
  source := (fields.lookup "fromNodeId").getD ((fields.lookup "from_node_id").getD .null)
  target := (fields.lookup "toNodeId").getD ((fields.lookup "to_node_id").getD .null)
  sourcePort := (fields.lookup "fromPort").getD ((fields.lookup "from_port").getD (.str "out"))
  targetPort := (fields.lookup "toPort").getD ((fields.lookup "to_port").getD (.str "in"))

theorem readEdge_obj (nodes : List (Json × Node)) (fields : List (String × Json)) :
    readEdge nodes (.obj fields) = (do
      knownEnd nodes (edgeOf fields).source
      knownEnd nodes (edgeOf fields).target
      pure (edgeOf fields)) := by
  simp only [readEdge, Json.getOr, Json.lookup]
  rfl

theorem knownEnd_ok {nodes : List (Json × Node)} {id : Json} (known : knownEnd nodes id = .ok ()) :
    nodes.any (sameKey ·.1 id) = true := by
  unfold knownEnd at known
  cases key : id.key with
  | error e => simp [key, bind, Except.bind] at known
  | ok cell =>
    simp only [key, bind, Except.bind] at known
    by_contra absent
    rw [if_pos (by simpa using absent)] at known
    cases known

/-- Both ends of an edge that is read name nodes. -/
theorem readEdge_known {nodes : List (Json × Node)} {e : Json} {edge : Edge}
    (read : readEdge nodes e = .ok edge) :
    nodes.any (sameKey ·.1 edge.source) = true ∧ nodes.any (sameKey ·.1 edge.target) = true := by
  cases e with
  | obj fields =>
    simp only [readEdge_obj, bind_eq_ok, pure, Except.pure, Except.ok.injEq] at read
    obtain ⟨⟨⟩, source, ⟨⟩, target, rfl⟩ := read
    exact ⟨knownEnd_ok source, knownEnd_ok target⟩
  | _ => simp [readEdge, Json.getOr, Json.lookup, bind, Except.bind] at read

theorem mem_of_mapM_ok {α β ε : Type} {f : α → Except ε β} :
    ∀ {xs : List α} {ys : List β}, xs.mapM f = .ok ys → ∀ y ∈ ys, ∃ x ∈ xs, f x = .ok y
  | [], ys, run => by
    cases run
    simp
  | x :: xs, ys, run => by
    simp only [List.mapM_cons, bind_eq_ok, pure, Except.pure, Except.ok.injEq] at run
    obtain ⟨y, first, ys', rest, rfl⟩ := run
    rintro z (_ | ⟨_, later⟩)
    · exact ⟨x, List.mem_cons_self, first⟩
    · obtain ⟨v, member, found⟩ := mem_of_mapM_ok rest z later
      exact ⟨v, List.mem_cons_of_mem x member, found⟩

/-! ### The built graph -/

theorem buildWorkflow_ok {doc : Json} {w : Workflow} (built : buildWorkflow doc = .ok w) :
    ∃ nodeDefs edgeDefs, readNodes nodeDefs [] = .ok w.nodes ∧
      readEdges w.nodes edgeDefs = .ok w.edges := by
  simp only [buildWorkflow, bind_eq_ok] at built
  obtain ⟨nodeValue, -, edgeValue, -, run⟩ := built
  split at run
  · simp [fail, bind, Except.bind] at run
  · simp only [bind_eq_ok, pure, Except.pure, Except.ok.injEq] at run
    obtain ⟨nodeDefs, -, nodes, readN, edgeDefs, -, edges, readE, rfl⟩ := run
    exact ⟨nodeDefs, edgeDefs, readN, readE⟩

/-- **A built workflow whose identifiers are texts is a graph on distinct texts.** -/
theorem buildWorkflow_textGraph {doc : Json} {w : Workflow} (built : buildWorkflow doc = .ok w)
    (texts : ∀ k ∈ w.keys, k.IsText) : w.TextGraph := by
  obtain ⟨nodeDefs, edgeDefs, nodes, edges⟩ := buildWorkflow_ok built
  -- an end that names a node by a text identifier is that identifier
  have named : ∀ x, w.nodes.any (sameKey ·.1 x) = true → x ∈ w.keys := fun x known => by
    obtain ⟨⟨k, n⟩, member, same⟩ := List.any_eq_true.mp known
    have key : k ∈ w.keys := List.mem_map.mpr ⟨(k, n), member, rfl⟩
    rw [← (sameKey_iff_of_left (texts k key)).mp same]
    exact key
  refine ⟨texts, readNodes_nodup nodes texts List.nodup_nil, fun e edge => ?_, fun e edge => ?_⟩
  · obtain ⟨d, _, read⟩ := mem_of_mapM_ok edges e edge
    exact named _ (readEdge_known read).1
  · obtain ⟨d, _, read⟩ := mem_of_mapM_ok edges e edge
    exact named _ (readEdge_known read).2

end Dataflow
