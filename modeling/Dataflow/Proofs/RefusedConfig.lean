import Dataflow.Proofs.Build
import Dataflow.Node.Registry
/-!
# Configurations that checking refuses

Before a workflow runs, an editor may check each node's configuration (`Node.check`). The check
is written apart from the run: it reads the same settings, with the same defaults wherever a
refusal depends on them, and tests them the way the run does, except for a selection, where it
asks for a list while the run only iterates over the value and indexes with it.

**A configuration that the check refuses never runs successfully, except a selection whose
`columns` is a false value or a text** (`select_of_check_refused`). A false value passes the
input through, as no columns do; a text is iterated by character when its columns are looked
for and then picks the one column it labels (`select_text_columns_run`).

Each kind's successful run is inverted once (`readCsvNode_succeeded`, `filterNode_succeeded`,
`joinNode_succeeded`, `formulaNode_succeeded`, `aggregateNode_succeeded_settings`,
`selectNode_succeeded`): the settings it read are those of a dictionary and pass the run's own
tests, and the check computed on them refuses nothing. Aggregation requests that are read
without refusal pass the check one by one (`checkSummaries_of_readSummaries`); an expression
that is evaluated has passed the expression check (`filterRows_ok`, `formulaFrame_ok`).
-/

namespace Dataflow

/-- A setting of a dictionary: its value under the key, or the default. -/
theorem getOr_obj (fields : List (String × Json)) (key : String) (d : Json) :
    (Json.obj fields).getOr key d = .ok ((fields.lookup key).getD d) := rfl

/-- Settings are read only from a dictionary. -/
theorem getOr_eq_ok {j d v : Json} {key : String} (h : j.getOr key d = .ok v) :
    ∃ fields, j = .obj fields ∧ v = (fields.lookup key).getD d := by
  cases j <;> simp_all [Json.getOr, Json.lookup, bind, Except.bind, pure, Except.pure, Json.noGet]

/-- An expression that passes the check before evaluation is accepted. -/
theorem checkExpression_ok {e : String} (h : Eval.checkExpression e = .ok ()) :
    Expr.validate e = .ok .accepted := by
  unfold Eval.checkExpression at h
  cases v : Expr.validate e with
  | error f => simp [v, bind, Except.bind] at h
  | ok verdict =>
    cases verdict with
    | accepted => rfl
    | refused reason => simp [v, bind, Except.bind, fail] at h

/-- A filter that selects rows has an accepted expression. -/
theorem filterRows_ok {f : Frame} {e : String} {s : Selection} (h : Eval.filterRows f e = .ok s) :
    Expr.validate e = .ok .accepted := by
  unfold Eval.filterRows Eval.filterRowsIn at h
  split at h
  · simp at h
  · exact checkExpression_ok ‹_›

/-- A formula that computes a column has an accepted expression. -/
theorem addFormula_ok {f g : Frame} {e : String} {l : Cell} (h : Eval.addFormula f e l = .ok g) :
    Expr.validate e = .ok .accepted := by
  unfold Eval.addFormula Eval.addFormulaIn at h
  split at h
  · simp at h
  · exact checkExpression_ok ‹_›

/-- A formula set under any configured name has an accepted expression. -/
theorem formulaFrame_ok {f g : Frame} {e : String} {name : Json} (h : formulaFrame f e name = .ok g) :
    Expr.validate e = .ok .accepted := by
  unfold formulaFrame at h
  split at h
  · exact addFormula_ok h
  · simp only [bind_eq_ok] at h
    obtain ⟨_, added, _⟩ := h
    exact addFormula_ok added


/-- A request that is read names a column and a known reduction. -/
theorem summaryRefusal_settings {f : Frame} {agg : Json} {s : Summary}
    (read : summaryRefusal f agg = .ok (.ok s)) :
    ∃ fields, agg = .obj fields ∧ ((fields.lookup "col").getD .null).truthy = true ∧
      ∃ name red, (fields.lookup "op").getD .null = .str name ∧ (Json.str name).truthy = true ∧
        Reduction.ofName? name = some red := by
  unfold summaryRefusal at read
  simp only [bind_eq_ok] at read
  obtain ⟨col, given, op, asked, _, -, _, -, read⟩ := read
  obtain ⟨fields, rfl, rfl⟩ := getOr_eq_ok given
  cases asked
  refine ⟨fields, rfl, ?_⟩
  split at read
  · simp [pure, Except.pure] at read
  rename_i colGiven
  split at read
  · simp [pure, Except.pure] at read
  rename_i opGiven
  simp only [bind_eq_ok] at read
  obtain ⟨_, -, read⟩ := read
  split at read
  · rename_i red named
    refine ⟨by simpa using colGiven, ?_⟩
    revert named opGiven
    cases (fields.lookup "op").getD .null with
    | str name => exact fun opGiven named => ⟨name, red, rfl, by simpa using opGiven, named⟩
    | _ => simp
  · simp [pure, Except.pure] at read

/-- Requests that are read without refusal pass the check. -/
theorem checkSummaries_of_readSummaries {f : Frame} {s : List Summary} :
    ∀ {items : List Json} {acc : List Summary}, readSummaries f items acc = .ok (.ok s) →
      Node.checkSummaries items = .ok none
  | [], _, _ => rfl
  | agg :: rest, acc, read => by
    unfold readSummaries at read
    simp only [bind_eq_ok] at read
    obtain ⟨refusal, refused, read⟩ := read
    cases refusal with
    | error msg => simp [pure, Except.pure] at read
    | ok summary =>
      obtain ⟨fields, rfl, col, name, red, op, opGiven, named⟩ := summaryRefusal_settings refused
      have later := checkSummaries_of_readSummaries read
      simp [Node.checkSummaries, getOr_obj, bind, Except.bind, col, op, opGiven, named, Json.key,
        later]

section Succeeded

variable {r : NodeResult} (success : r.success = true)
include success

/-- A successful result is no failure. -/
theorem failed_impossible {msg : String}
    (h : (pure (NodeResult.failed msg) : Outcome NodeResult) = .ok r) : False := by
  cases h
  simp [NodeResult.failed] at success

/-- A successful read names an upload. -/
theorem readCsvNode_succeeded {config : Json} {store : Storage}
    (ran : readCsvNode config store = .ok r) :
    ∃ fields, config = .obj fields ∧ ((fields.lookup "upload_id").getD .null).truthy = true := by
  unfold readCsvNode at ran
  simp only [bind_eq_ok] at ran
  obtain ⟨v, given, ran⟩ := ran
  obtain ⟨fields, rfl, rfl⟩ := getOr_eq_ok given
  split at ran
  · exact (failed_impossible success ran).elim
  · rename_i given
    exact ⟨fields, rfl, by simpa using given⟩

/-- A successful filter has no expression, or an accepted one. -/
theorem filterNode_succeeded {config : Json} {inputs : List Selection}
    (ran : filterNode config inputs = .ok r) :
    ∃ fields, config = .obj fields ∧ (((fields.lookup "expression").getD (.str "")).truthy = true →
      ∃ s, (fields.lookup "expression").getD (.str "") = .str s ∧ Expr.validate s = .ok .accepted) := by
  unfold filterNode at ran
  split at ran
  · exact (failed_impossible success ran).elim
  simp only [bind_eq_ok] at ran
  obtain ⟨e, given, ran⟩ := ran
  obtain ⟨fields, rfl, rfl⟩ := getOr_eq_ok given
  refine ⟨fields, rfl, fun truthy => ?_⟩
  split at ran
  · simp_all
  split at ran
  · rename_i text named
    refine ⟨text, named, ?_⟩
    split at ran
    · rename_i kept result
      split at result
      · exact filterRows_ok result
      · simp only [bind_eq_ok] at result
        obtain ⟨_, _, result⟩ := result
        simp [fail] at result
    · split at ran <;> exact (failed_impossible success ran).elim
  · exact (failed_impossible success ran).elim

/-- A successful join names both keys and a way of joining. -/
theorem joinNode_succeeded {config : Json} {inputs : List Selection}
    (ran : joinNode config inputs = .ok r) :
    ∃ fields, config = .obj fields ∧
      ((fields.lookup "leftKey").getD ((fields.lookup "left_key").getD .null)).truthy = true ∧
      ((fields.lookup "rightKey").getD ((fields.lookup "right_key").getD .null)).truthy = true ∧
      ∃ s way, (fields.lookup "how").getD (.str "inner") = .str s ∧ JoinHow.ofName? s = some way := by
  unfold joinNode at ran
  split at ran
  · simp only [bind_eq_ok] at ran
    obtain ⟨_, left, lk, hlk, _, right, rk, hrk, how, hhow, ran⟩ := ran
    obtain ⟨fields, rfl, rfl⟩ := getOr_eq_ok left
    cases right
    cases hlk
    cases hrk
    cases hhow
    refine ⟨fields, rfl, ?_⟩
    split at ran
    · exact (failed_impossible success ran).elim
    split at ran
    · exact (failed_impossible success ran).elim
    rename_i leftGiven rightGiven
    simp only [bind_eq_ok] at ran
    obtain ⟨_, -, _, -, ran⟩ := ran
    split at ran
    · exact (failed_impossible success ran).elim
    simp only [bind_eq_ok] at ran
    obtain ⟨_, -, _, -, ran⟩ := ran
    split at ran
    · exact (failed_impossible success ran).elim
    simp only [bind_eq_ok] at ran
    obtain ⟨_, -, ran⟩ := ran
    split at ran
    · rename_i way named
      refine ⟨by simpa using leftGiven, by simpa using rightGiven, ?_⟩
      revert named
      cases (fields.lookup "how").getD (.str "inner") with
      | str s => exact fun named => ⟨s, way, rfl, named⟩
      | _ => simp
    · exact (failed_impossible success ran).elim
  · exact (failed_impossible success ran).elim

/-- A successful formula names its column and has an accepted expression. -/
theorem formulaNode_succeeded {config : Json} {inputs : List Selection}
    (ran : formulaNode config inputs = .ok r) :
    ∃ fields, config = .obj fields ∧
      ((fields.lookup "newCol").getD ((fields.lookup "new_col").getD .null)).truthy = true ∧
      ((fields.lookup "expression").getD (.str "")).truthy = true ∧
      ∃ s, (fields.lookup "expression").getD (.str "") = .str s ∧ Expr.validate s = .ok .accepted := by
  unfold formulaNode at ran
  split at ran
  · exact (failed_impossible success ran).elim
  simp only [bind_eq_ok] at ran
  obtain ⟨_, fallback, name, named, e, given, ran⟩ := ran
  obtain ⟨fields, rfl, rfl⟩ := getOr_eq_ok fallback
  cases named
  cases given
  refine ⟨fields, rfl, ?_⟩
  split at ran
  · exact (failed_impossible success ran).elim
  rename_i nameGiven
  split at ran
  · exact (failed_impossible success ran).elim
  rename_i expressionGiven
  split at ran
  · rename_i text isText
    refine ⟨by simpa using nameGiven, by simpa using expressionGiven, text, isText, ?_⟩
    split at ran
    · rename_i kept result
      split at result
      · exact formulaFrame_ok result
      · simp only [bind_eq_ok] at result
        obtain ⟨_, _, result⟩ := result
        simp [fail] at result
    · split at ran <;> exact (failed_impossible success ran).elim
  · exact (failed_impossible success ran).elim

/-- A successful aggregation names its groups and requests, and reads every request without
refusal. -/
theorem aggregateNode_succeeded_settings {config : Json} {inputs : List Selection}
    (ran : aggregateNode config inputs = .ok r) :
    ∃ fields, config = .obj fields ∧
      ((fields.lookup "groupBy").getD ((fields.lookup "group_by").getD (.arr []))).truthy = true ∧
      ((fields.lookup "aggregations").getD (.arr [])).truthy = true ∧
      ∃ f items summaries, ((fields.lookup "aggregations").getD (.arr [])).items = .ok items ∧
        readSummaries f items [] = .ok (.ok summaries) := by
  unfold aggregateNode at ran
  split at ran
  · exact (failed_impossible success ran).elim
  simp only [bind_eq_ok] at ran
  obtain ⟨_, fallback, groupBy, given, aggregations, asked, ran⟩ := ran
  obtain ⟨fields, rfl, rfl⟩ := getOr_eq_ok fallback
  cases given
  cases asked
  refine ⟨fields, rfl, ?_⟩
  split at ran
  · exact (failed_impossible success ran).elim
  rename_i grouped
  split at ran
  · exact (failed_impossible success ran).elim
  rename_i aggregated
  simp only [bind_eq_ok] at ran
  obtain ⟨⟨f, missing⟩, -, ran⟩ := ran
  split at ran
  · simp only [bind_eq_ok] at ran
    obtain ⟨_, -, ran⟩ := ran
    exact (failed_impossible success ran).elim
  simp only [bind_eq_ok] at ran
  obtain ⟨items, listed, read, readSum, ran⟩ := ran
  cases read with
  | error msg => exact (failed_impossible success ran).elim
  | ok summaries =>
    exact ⟨by simpa using grouped, by simpa using aggregated, f, items, summaries, listed, readSum⟩

/-- A successful selection was given no columns, a text or a list. -/
theorem selectNode_succeeded {config : Json} {inputs : List Selection}
    (ran : selectNode config inputs = .ok r) :
    ∃ fields, config = .obj fields ∧ (((fields.lookup "columns").getD (.arr [])).truthy = false ∨
      (∃ s, (fields.lookup "columns").getD (.arr []) = .str s) ∨
      ∃ items, (fields.lookup "columns").getD (.arr []) = .arr items) := by
  unfold selectNode at ran
  split at ran
  · exact (failed_impossible success ran).elim
  simp only [bind_eq_ok] at ran
  obtain ⟨columns, given, ran⟩ := ran
  obtain ⟨fields, rfl, rfl⟩ := getOr_eq_ok given
  refine ⟨fields, rfl, ?_⟩
  split at ran
  · exact .inl (by simpa using ‹(!_) = true›)
  simp only [bind_eq_ok] at ran
  obtain ⟨⟨f, missing⟩, found, ran⟩ := ran
  split at ran
  · simp only [bind_eq_ok] at ran
    obtain ⟨_, -, ran⟩ := ran
    exact (failed_impossible success ran).elim
  -- a dictionary cannot pick columns, and a scalar cannot be iterated
  split at ran
  · rename_i picked indexed
    revert found indexed
    cases (fields.lookup "columns").getD (.arr []) <;>
      simp [missingLabels, Json.items, Frame.index?, bind, Except.bind]
  · exact (failed_impossible success ran).elim

end Succeeded

/-- A node run that leaves the files alone succeeds as the node does. -/
theorem map_pair_eq_ok {x : Outcome NodeResult} {store store' : Storage} {r : NodeResult}
    (h : x.map (fun r => (r, store)) = .ok (r, store')) : x = .ok r := by
  cases x <;> simp_all [Except.map]

/-- **A configuration that the check refuses never runs successfully, except a selection whose
`columns` is a false value or a text.** -/
theorem select_of_check_refused {n : Node} {msg : String} {inputs : List Selection}
    {store store' : Storage} {r : NodeResult} (refused : n.check = .ok (some msg))
    (ran : n.run inputs store = .ok (r, store')) (success : r.success = true) :
    n.kind = .select ∧ ∃ v, n.config.lookup "columns" = .ok (some v) ∧
      (v.truthy = false ∨ ∃ s, v = .str s) := by
  obtain ⟨id, kind, config⟩ := n
  cases kind with
  | readCsv =>
    obtain ⟨fields, rfl, given⟩ := readCsvNode_succeeded success (map_pair_eq_ok ran)
    simp [Node.check, getOr_obj, bind, Except.bind, pure, Except.pure, given] at refused
  | filter =>
    obtain ⟨fields, rfl, checked⟩ := filterNode_succeeded success (map_pair_eq_ok ran)
    cases given : fields.lookup "expression" with
    | none =>
      simp [Node.check, getOr_obj, bind, Except.bind, pure, Except.pure, given, Json.truthy] at refused
    | some e =>
      simp only [given, Option.getD_some] at checked
      by_cases truthy : e.truthy = true
      · obtain ⟨s, rfl, valid⟩ := checked truthy
        simp [Node.check, getOr_obj, bind, Except.bind, given, truthy, Node.checkExpression, valid,
          Except.map, Expr.Verdict.reason] at refused
      · simp [Node.check, getOr_obj, bind, Except.bind, pure, Except.pure, given, truthy] at refused
  | select =>
    obtain ⟨fields, rfl, picked⟩ := selectNode_succeeded success (map_pair_eq_ok ran)
    cases given : fields.lookup "columns" with
    | none => simp [Node.check, getOr_obj, bind, Except.bind, pure, Except.pure, given] at refused
    | some v =>
      simp only [given, Option.getD_some] at picked
      refine ⟨rfl, v, by simp [Json.lookup, given], ?_⟩
      rcases picked with falsy | ⟨s, rfl⟩ | ⟨items, rfl⟩
      · exact .inl falsy
      · exact .inr ⟨s, rfl⟩
      · simp [Node.check, getOr_obj, bind, Except.bind, pure, Except.pure, given] at refused
  | join =>
    obtain ⟨fields, rfl, left, right, s, way, how, named⟩ := joinNode_succeeded success (map_pair_eq_ok ran)
    simp [Node.check, getOr_obj, bind, Except.bind, pure, Except.pure, left, right, how, named,
      Json.key] at refused
  | aggregate =>
    obtain ⟨fields, rfl, grouped, asked, f, items, summaries, listed, read⟩ :=
      aggregateNode_succeeded_settings success (map_pair_eq_ok ran)
    simp [Node.check, getOr_obj, bind, Except.bind, grouped, asked, listed,
      checkSummaries_of_readSummaries read] at refused
  | sort => simp [Node.check, pure, Except.pure] at refused
  | formula =>
    obtain ⟨fields, rfl, named, truthy, s, text, valid⟩ :=
      formulaNode_succeeded success (map_pair_eq_ok ran)
    cases given : fields.lookup "expression" with
    | none => simp [given, Json.truthy] at truthy
    | some e =>
      simp only [given, Option.getD_some] at truthy text
      subst text
      simp [Node.check, getOr_obj, bind, Except.bind, given, named, truthy, Node.checkExpression,
        valid, Except.map, Expr.Verdict.reason] at refused
  | output => simp [Node.check, pure, Except.pure] at refused

/-- A selection given a false value: the check refuses it, and the run passes the input through. -/
theorem select_of_check_refused_false_columns :
    let n := Node.mk (.str "n") .select (.obj [("columns", .bool false)])
    let data : Frame := ⟨[(.str "a", .int64 #[1, 2])], [Column.range 2]⟩
    n.check = .ok (some "columns must be a list") ∧
      n.run [.frame data] default = .ok (.succeeded (.frame data) [], default) ∧
      (NodeResult.succeeded (.frame data) []).success = true ∧
      n.kind = .select ∧ ∃ v, n.config.lookup "columns" = .ok (some v) ∧
        (v.truthy = false ∨ ∃ s, v = .str s) := by
  intro n data
  have refused : n.check = .ok (some "columns must be a list") := rfl
  have ran : n.run [.frame data] default = .ok (.succeeded (.frame data) [], default) := rfl
  exact ⟨refused, ran, rfl, select_of_check_refused refused ran rfl⟩

/-- A selection given the text `a` of a frame with a column `a`: the check refuses it, and the
run succeeds. -/
theorem select_text_columns_run :
    (Node.mk (.str "n") .select (.obj [("columns", .str "a")])).check =
        .ok (some "columns must be a list") ∧
      ((Node.mk (.str "n") .select (.obj [("columns", .str "a")])).run
        [.frame ⟨[(.str "a", .int64 #[1, 2])], [Column.range 2]⟩] default).map (·.1.success) =
        .ok true :=
  ⟨rfl, rfl⟩

end Dataflow
