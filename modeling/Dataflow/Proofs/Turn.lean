import Dataflow.Proofs.RunLoop
import Dataflow.Http.Routes
/-!
# What a node's turn gives

**Every node ends its turn with a failure that has a message, or with a result that is a failure
with a message or a success with data; only an output node's success carries a file id, and it
names a file the node wrote.** No node changes the uploaded files, and no node removes a written
one.

A failure a node raises is recorded by the run as a failed result with the failure's message, and
the answer to a run lists a failed node only when its message is not empty: so the messages
matter. They come from a handful of places (looking up a configuration value, iterating one,
using one as a label, joining texts, checking and evaluating an expression), each of which words
every failure it raises.

* `Yields`: every failure a computation raises has a message, and every result it gives has a
  property; kept by `bind` (`Yields.bind`);
* `NodeResult.Plain`: what the nodes other than the output node give (`filterNode_plain`, ...);
* `outputNode_turnSpec`: what the output node gives and writes;
* `Node.run_turnSpec`: what a turn of any node gives.
-/

namespace Dataflow

/-- A text is its own text. -/
@[simp]
theorem toString_text (s : String) : toString s = s := rfl

/-! ### Failures with messages -/

/-- A computation whose every failure has a message and whose every result satisfies `P`. -/
def Yields {α : Type} (o : Outcome α) (P : α → Prop) : Prop :=
  (∀ e, o = .error e → e.message ≠ "") ∧ ∀ a, o = .ok a → P a

/-- A computation whose every failure has a message. -/
abbrev Explained {α : Type} (o : Outcome α) : Prop := Yields o fun _ => True

namespace Yields

variable {α β : Type} {P : α → Prop}

theorem pure {a : α} (holds : P a) : Yields (Pure.pure a : Outcome α) P := by
  refine ⟨fun _ raised => ?_, fun _ given => ?_⟩
  · cases raised
  · cases given
    exact holds

theorem error {e : Failure} (voiced : e.message ≠ "") : Yields (.error e : Outcome α) P := by
  refine ⟨fun _ raised => ?_, fun _ given => ?_⟩
  · cases raised
    exact voiced
  · cases given

theorem fail {k : FailureKind} {m : String} (voiced : m ≠ "") :
    Yields (Dataflow.fail k m : Outcome α) P :=
  error voiced

theorem bind {Q : β → Prop} {x : Outcome β} {f : β → Outcome α} (first : Yields x Q)
    (rest : ∀ b, Q b → Yields (f b) P) : Yields (x >>= f) P := by
  cases x with
  | error e => exact error (first.1 e rfl)
  | ok b => exact rest b (first.2 b rfl)

end Yields

/-- The failures of a filter over a list are those of the test. -/
theorem filterM_explained {α : Type} {p : α → Outcome Bool} (each : ∀ a, Explained (p a))
    (l : List α) : Explained (l.filterM p) := by
  -- the filter keeps its items in reverse while it walks the list
  have walk : ∀ (l acc : List α), Explained (List.filterAuxM p l acc) := by
    intro l
    induction l with
    | nil => exact fun acc => Yields.pure trivial
    | cons a rest ih =>
      intro acc
      exact Yields.bind (each a) fun keep _ => ih _
  exact Yields.bind (walk l []) fun kept _ => Yields.pure trivial

namespace Json

theorem getOr_explained (j : Json) (key : String) (default : Json) :
    Explained (j.getOr key default) := by
  cases j
  case obj fields => exact Yields.pure trivial
  all_goals exact Yields.error (by simp [noGet])

theorem items_explained (j : Json) : Explained j.items := by
  cases j
  case arr | str | obj => exact Yields.pure trivial
  all_goals exact Yields.error (by simp)

theorem key_explained (j : Json) : Explained j.key := by
  cases j
  case arr | obj => exact Yields.error (by simp)
  all_goals exact Yields.pure trivial

theorem joinTexts_explained (sep : String) (items : List Json) :
    Explained (joinTexts sep items) := by
  have walk : ∀ (i : Nat) (items : List Json) (acc : List String),
      Explained (joinTexts.go sep i items acc) := by
    intro i items
    induction items generalizing i with
    | nil => exact fun acc => Yields.pure trivial
    | cons j rest ih =>
      intro acc
      cases j
      case str s => exact ih (i + 1) (s :: acc)
      all_goals exact Yields.error (by simp)
  exact walk 0 items []

end Json

theorem Selection.frame?_explained (data : Selection) : Explained data.frame? := by
  cases data
  · exact Yields.pure trivial
  · exact Yields.error (by simp)

theorem missingLabels_explained (data : Selection) (requested : Json) :
    Explained (missingLabels data requested) :=
  Yields.bind (Json.items_explained requested) fun items _ =>
    Yields.bind (Selection.frame?_explained data) fun _ _ =>
      Yields.bind (filterM_explained
        (fun item => Yields.bind (Json.key_explained item) fun _ _ => Yields.pure trivial) items)
        fun _ _ => Yields.pure trivial

/-- A refusal of a summary request, or the end of the reading, with a message. -/
def Worded {α : Type} : Except String α → Prop
  | .error msg => msg ≠ ""
  | .ok _ => True

theorem summaryRefusal_worded (f : Frame) (agg : Json) :
    Yields (summaryRefusal f agg) Worded := by
  unfold summaryRefusal
  refine Yields.bind (Json.getOr_explained ..) fun col _ => ?_
  refine Yields.bind (Json.getOr_explained ..) fun op _ => ?_
  refine Yields.bind (Json.getOr_explained ..) fun named _ => ?_
  refine Yields.bind (Json.getOr_explained ..) fun label _ => ?_
  split
  · exact Yields.pure (by simp [Worded])
  split
  · exact Yields.pure (by simp [Worded])
  refine Yields.bind (Json.key_explained op) fun _ _ => ?_
  split
  · refine Yields.bind (Json.key_explained col) fun column _ => ?_
    split
    · exact Yields.pure (by simp [Worded])
    · exact Yields.bind (Json.key_explained label) fun _ _ => Yields.pure trivial
  · exact Yields.pure (by simp [Worded])

theorem readSummaries_worded (f : Frame) :
    ∀ (aggs : List Json) (acc : List Summary), Yields (readSummaries f aggs acc) Worded
  | [], _ => Yields.pure trivial
  | agg :: rest, acc => by
    refine Yields.bind (summaryRefusal_worded f agg) fun refusal worded => ?_
    cases refusal with
    | error msg => exact Yields.pure worded
    | ok s => exact readSummaries_worded f rest _

/-! ### Expressions -/

/-- Every refusal of an expression gives a reason. -/
theorem validate_reason {s reason : String} (refused : Expr.validate s = .ok (.refused reason)) :
    reason ≠ "" := by
  unfold Expr.validate at refused
  split at refused
  · cases refused
    simp
  split at refused
  · cases refused
    simp
  split at refused
  · cases refused
    simp
  split at refused
  · cases refused
  · cases refused
    simp

theorem Eval.checkExpression_explained (expression : String) :
    Explained (Eval.checkExpression expression) := by
  unfold Eval.checkExpression
  cases verdict : Expr.validate expression with
  | error e =>
    unfold Expr.validate at verdict
    repeat' split at verdict
    all_goals cases verdict
  | ok v =>
    cases v with
    | accepted => exact Yields.pure trivial
    | refused reason => exact Yields.fail (validate_reason verdict)

theorem Eval.filterRows_explained (f : Frame) (expression : String) :
    Explained (Eval.filterRows f expression) := by
  unfold Eval.filterRows Eval.filterRowsIn
  split
  · rename_i e refused
    exact Yields.error ((Eval.checkExpression_explained expression).1 e refused)
  · -- the query and its second try can fail only as the filter's own failure
    dsimp only
    split
    · exact Yields.pure trivial
    · split
      · exact Yields.pure trivial
      · exact Yields.fail (by simp)

theorem Eval.addFormula_explained (f : Frame) (expression : String) (label : Cell) :
    Explained (Eval.addFormula f expression label) := by
  unfold Eval.addFormula Eval.addFormulaIn
  split
  · rename_i e refused
    exact Yields.error ((Eval.checkExpression_explained expression).1 e refused)
  · dsimp only
    split
    · exact Yields.fail (by simp)
    · exact Yields.pure trivial

theorem formulaFrame_explained (f : Frame) (expression : String) (name : Json) :
    Explained (formulaFrame f expression name) := by
  unfold formulaFrame
  split
  · exact Eval.addFormula_explained f expression _
  · refine Yields.bind (Eval.addFormula_explained f expression _) fun _ _ => ?_
    split
    · exact Yields.fail (by simp)
    · exact Yields.fail (by simp)

/-! ### Results of nodes -/

/-- The results a node gives: a failure with a message, or a success with data. -/
inductive NodeResult.Formed : NodeResult → Prop
  | failed {m : String} : m ≠ "" → NodeResult.Formed (.failed m)
  | succeeded (d : Selection) (metadata : List (String × Json)) :
    NodeResult.Formed (.succeeded d metadata)

/-- A result of a node that writes no file: formed, and without a file id. -/
def NodeResult.Plain (r : NodeResult) : Prop := r.Formed ∧ r.metadata.lookup "file_id" = none

theorem NodeResult.plain_failed {m : String} (voiced : m ≠ "") : (NodeResult.failed m).Plain :=
  ⟨.failed voiced, rfl⟩

theorem NodeResult.plain_succeeded {d : Selection} {metadata : List (String × Json)}
    (noFile : metadata.lookup "file_id" = none) : (NodeResult.succeeded d metadata).Plain :=
  ⟨.succeeded d metadata, noFile⟩

open NodeResult

theorem readCsvNode_plain (config : Json) (store : Storage) :
    Yields (readCsvNode config store) Plain := by
  unfold readCsvNode
  refine Yields.bind (Json.getOr_explained ..) fun uploadId _ => ?_
  split
  · exact Yields.pure (plain_failed (by simp))
  split
  · exact Yields.pure (plain_failed (by simp))
  · dsimp only
    split
    · exact Yields.error (by simp [tooLongFailure])
    · exact Yields.pure (plain_failed (by simp))
    · refine Yields.bind (Json.getOr_explained ..) fun header _ => ?_
      refine Yields.bind (Json.getOr_explained ..) fun sep _ => ?_
      split
      · exact Yields.pure (plain_succeeded rfl)
      · exact Yields.pure (plain_failed (by simp))

/-- An expression evaluated on a table, or checked and then refused with a message on a series,
fails only with a message it explains. -/
theorem selection_explained {α : Type} (data : Selection) (onFrame : Frame → Outcome α)
    (text refusal : String) (framed : ∀ f, Explained (onFrame f)) (voiced : refusal ≠ "") :
    Explained (match data with
      | .frame f => onFrame f
      | .series _ => do
        Eval.checkExpression text
        fail .expression refusal) := by
  split
  · exact framed _
  · exact Yields.bind (Eval.checkExpression_explained text) fun _ _ => Yields.fail voiced

theorem filterNode_plain (config : Json) (inputs : List Selection) :
    Yields (filterNode config inputs) Plain := by
  unfold filterNode
  split
  · exact Yields.pure (plain_failed (by simp))
  · rename_i data _
    refine Yields.bind (Json.getOr_explained ..) fun expression _ => ?_
    split
    · exact Yields.pure (plain_succeeded rfl)
    · split
      · rename_i text _
        -- the filter's own failures pass through with their message, any other is wrapped
        have explained := selection_explained data (Eval.filterRows · text) text
          "Failed to evaluate filter: 'Series' object has no attribute 'eval'"
          (Eval.filterRows_explained · text) (by simp)
        dsimp only
        split
        · exact Yields.pure (plain_succeeded rfl)
        · rename_i e raised
          split
          · exact Yields.pure (plain_failed (explained.1 e raised))
          · exact Yields.pure (plain_failed (by simp))
      · exact Yields.pure (plain_failed (by simp))

theorem selectNode_plain (config : Json) (inputs : List Selection) :
    Yields (selectNode config inputs) Plain := by
  unfold selectNode
  split
  · exact Yields.pure (plain_failed (by simp))
  · refine Yields.bind (Json.getOr_explained ..) fun columns _ => ?_
    split
    · exact Yields.pure (plain_succeeded rfl)
    · refine Yields.bind (missingLabels_explained ..) fun ⟨f, missing⟩ _ => ?_
      dsimp only
      split
      · exact Yields.bind (Json.joinTexts_explained ..) fun _ _ =>
          Yields.pure (plain_failed (by simp))
      · split
        · exact Yields.pure (plain_succeeded rfl)
        · exact Yields.pure (plain_failed (by simp))

theorem sortNode_plain (config : Json) (inputs : List Selection) :
    Yields (sortNode config inputs) Plain := by
  unfold sortNode
  split
  · exact Yields.pure (plain_failed (by simp))
  · refine Yields.bind (Json.getOr_explained ..) fun columns _ => ?_
    refine Yields.bind (Json.getOr_explained ..) fun ascending _ => ?_
    split
    · exact Yields.pure (plain_succeeded rfl)
    · refine Yields.bind (missingLabels_explained ..) fun ⟨f, missing⟩ _ => ?_
      dsimp only
      split
      · exact Yields.bind (Json.joinTexts_explained ..) fun _ _ =>
          Yields.pure (plain_failed (by simp))
      · split
        · exact Yields.pure (plain_succeeded rfl)
        · exact Yields.pure (plain_failed (by simp))

theorem formulaNode_plain (config : Json) (inputs : List Selection) :
    Yields (formulaNode config inputs) Plain := by
  unfold formulaNode
  split
  · exact Yields.pure (plain_failed (by simp))
  · rename_i data _
    refine Yields.bind (Json.getOr_explained ..) fun fallback _ => ?_
    refine Yields.bind (Json.getOr_explained ..) fun name _ => ?_
    refine Yields.bind (Json.getOr_explained ..) fun expression _ => ?_
    split
    · exact Yields.pure (plain_failed (by simp))
    split
    · exact Yields.pure (plain_failed (by simp))
    · split
      · rename_i text _
        have explained := selection_explained data (formulaFrame · text name) text
          "Failed to evaluate formula: 'Series' object has no attribute 'eval'"
          (formulaFrame_explained · text name) (by simp)
        dsimp only
        split
        · exact Yields.pure (plain_succeeded rfl)
        · rename_i e raised
          split
          · exact Yields.pure (plain_failed (explained.1 e raised))
          · exact Yields.pure (plain_failed (by simp))
      · exact Yields.pure (plain_failed (by simp))

theorem joinNode_plain (config : Json) (inputs : List Selection) :
    Yields (joinNode config inputs) Plain := by
  unfold joinNode
  split
  · refine Yields.bind (Json.getOr_explained ..) fun _ _ => ?_
    refine Yields.bind (Json.getOr_explained ..) fun lk _ => ?_
    refine Yields.bind (Json.getOr_explained ..) fun _ _ => ?_
    refine Yields.bind (Json.getOr_explained ..) fun rk _ => ?_
    refine Yields.bind (Json.getOr_explained ..) fun how _ => ?_
    split
    · exact Yields.pure (plain_failed (by simp))
    split
    · exact Yields.pure (plain_failed (by simp))
    refine Yields.bind (Selection.frame?_explained _) fun lf _ => ?_
    refine Yields.bind (Json.key_explained lk) fun lname _ => ?_
    split
    · exact Yields.pure (plain_failed (by simp))
    refine Yields.bind (Selection.frame?_explained _) fun rf _ => ?_
    refine Yields.bind (Json.key_explained rk) fun rname _ => ?_
    split
    · exact Yields.pure (plain_failed (by simp))
    refine Yields.bind (Json.key_explained how) fun _ _ => ?_
    split
    · split
      · exact Yields.pure (plain_succeeded rfl)
      · exact Yields.pure (plain_failed (by simp))
    · exact Yields.pure (plain_failed (by simp))
  · exact Yields.pure (plain_failed (by simp))

theorem aggregateNode_plain (config : Json) (inputs : List Selection) :
    Yields (aggregateNode config inputs) Plain := by
  unfold aggregateNode
  split
  · exact Yields.pure (plain_failed (by simp))
  · refine Yields.bind (Json.getOr_explained ..) fun _ _ => ?_
    refine Yields.bind (Json.getOr_explained ..) fun groupBy _ => ?_
    refine Yields.bind (Json.getOr_explained ..) fun aggregations _ => ?_
    split
    · exact Yields.pure (plain_failed (by simp))
    split
    · exact Yields.pure (plain_failed (by simp))
    refine Yields.bind (missingLabels_explained ..) fun ⟨f, missing⟩ _ => ?_
    dsimp only
    split
    · exact Yields.bind (Json.joinTexts_explained ..) fun _ _ =>
        Yields.pure (plain_failed (by simp))
    refine Yields.bind (Json.items_explained aggregations) fun aggs _ => ?_
    refine Yields.bind (readSummaries_worded f aggs []) fun summaries worded => ?_
    split
    · exact Yields.pure (plain_failed worded)
    · split
      · exact Yields.pure (plain_succeeded rfl)
      · exact Yields.pure (plain_failed (by simp))

/-! ### Written files -/

namespace Storage

@[simp]
theorem putOutput_uploadRoot (s : Storage) (id text : String) :
    (s.putOutput id text).uploadRoot = s.uploadRoot := rfl

@[simp]
theorem putOutput_uploads (s : Storage) (id text : String) :
    (s.putOutput id text).uploads = s.uploads := rfl

/-- A written file is there after writing, with every file that was there before. -/
theorem mem_putOutput_ids {s : Storage} {id text k : String} :
    k ∈ (s.putOutput id text).outputs.map (·.1) ↔ k = id ∨ k ∈ s.outputs.map (·.1) := by
  simp only [putOutput, List.map_append, List.map_cons, List.map_nil, List.mem_append,
    List.mem_singleton, List.mem_map, List.mem_filter, bne_iff_ne, ne_eq]
  constructor
  · rintro (⟨p, ⟨member, -⟩, rfl⟩ | rfl)
    · exact .inr ⟨p, member, rfl⟩
    · exact .inl rfl
  · rintro (rfl | ⟨p, member, rfl⟩)
    · exact .inr rfl
    · by_cases same : p.1 = id
      · exact .inr same
      · exact .inl ⟨p, ⟨member, same⟩, rfl⟩

end Storage

/-- An identifier is never empty. -/
theorem identifierText_ne_empty (n : Nat) : identifierText n ≠ "" := by
  simp [identifierText]

/-! ### A node's turn -/

/-- What a turn gives a node of kind `k` run with the files `store`: a formed result, the
uploaded files untouched, no written file removed, and a file id exactly on an output node's
success, naming a file there. -/
structure Answer (k : NodeKind) (store : Storage) (r : NodeResult) (s : Storage) : Prop where
  formed : r.Formed
  uploadRoot : s.uploadRoot = store.uploadRoot
  uploads : s.uploads = store.uploads
  kept : ∀ id ∈ store.outputs.map (·.1), id ∈ s.outputs.map (·.1)
  noFile : ¬ (k = .output ∧ r.success = true) → r.metadata.lookup "file_id" = none
  file : k = .output → r.success = true → ∃ fid, fid ≠ "" ∧
    r.metadata.lookup "file_id" = some (.str fid) ∧ fid ∈ s.outputs.map (·.1)

/-- What a turn of a node of kind `k` run with the files `store` gives. -/
def TurnSpec (k : NodeKind) (store : Storage) (o : Outcome (NodeResult × Storage)) : Prop :=
  Yields o fun (r, s) => Answer k store r s

/-- A failure that leaves the uploaded files as they were and removes no written one. -/
theorem Answer.failed {k : NodeKind} {store s : Storage} {m : String} (voiced : m ≠ "")
    (uploadRoot : s.uploadRoot = store.uploadRoot) (uploads : s.uploads = store.uploads)
    (kept : ∀ id ∈ store.outputs.map (·.1), id ∈ s.outputs.map (·.1)) :
    Answer k store (.failed m) s where
  formed := .failed voiced
  uploadRoot := uploadRoot
  uploads := uploads
  kept := kept
  noFile := fun _ => rfl
  file := fun _ success => by cases success

/-- A node that writes no file leaves the files as they were. -/
theorem turnSpec_alone {k : NodeKind} {store : Storage} {o : Outcome NodeResult}
    (plain : Yields o NodeResult.Plain) (other : k ≠ .output) :
    TurnSpec k store (o.map fun r => (r, store)) := by
  cases o with
  | error e => exact Yields.error (plain.1 e rfl)
  | ok r =>
    obtain ⟨formed, noFile⟩ := plain.2 r rfl
    exact Yields.pure ⟨formed, rfl, rfl, fun _ member => member, fun _ => noFile,
      fun output => absurd output other⟩

theorem outputNode_turnSpec (config : Json) (inputs : List Selection) (store : Storage) :
    TurnSpec .output store (outputNode config inputs store) := by
  unfold outputNode
  split
  · exact Yields.pure (Answer.failed (by simp) rfl rfl fun _ member => member)
  · rename_i data _
    split
    · exact Yields.pure (Answer.failed (by simp) rfl rfl fun _ member => member)
    · refine Yields.bind (Json.getOr_explained ..) fun format _ => ?_
      split
      · exact Yields.pure (Answer.failed (by simp) rfl rfl fun _ member => member)
      · -- the identifier is issued before the directory is tried, and counted either way
        simp only [Storage.issue]
        by_cases blocked : (store.output == OutputPlace.blocked) = true
        · simp only [blocked, if_true]
          exact Yields.pure (Answer.failed (by simp) rfl rfl fun _ member => member)
        · simp only [blocked]
          refine Yields.pure ⟨.succeeded _ _, rfl, rfl, fun _ member => ?_, fun written => ?_,
            fun _ _ => ?_⟩
          · exact Storage.mem_putOutput_ids.mpr (.inr member)
          · exact absurd ⟨rfl, rfl⟩ written
          · exact ⟨_, identifierText_ne_empty _, by simp [NodeResult.succeeded],
              Storage.mem_putOutput_ids.mpr (.inl rfl)⟩

/-- **What a node's turn gives.** Its failures have messages; its result is a failure with a
message or a success with data; it leaves the uploaded files as they were and removes no written
file; and its result carries a file id exactly when it is an output node's success, naming the
file that node wrote. -/
theorem Node.run_turnSpec (n : Node) (inputs : List Selection) (store : Storage) :
    TurnSpec n.kind store (n.run inputs store) := by
  obtain ⟨id, kind, config⟩ := n
  cases kind
  case readCsv => exact turnSpec_alone (readCsvNode_plain config store) nofun
  case filter => exact turnSpec_alone (filterNode_plain config inputs) nofun
  case select => exact turnSpec_alone (selectNode_plain config inputs) nofun
  case join => exact turnSpec_alone (joinNode_plain config inputs) nofun
  case aggregate => exact turnSpec_alone (aggregateNode_plain config inputs) nofun
  case sort => exact turnSpec_alone (sortNode_plain config inputs) nofun
  case formula => exact turnSpec_alone (formulaNode_plain config inputs) nofun
  case output => exact outputNode_turnSpec config inputs store

end Dataflow
