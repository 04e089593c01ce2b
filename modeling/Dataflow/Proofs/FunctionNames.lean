import Dataflow.Proofs.FileEffects
/-!
# Which function names an expression can call

**Of the function names the expression checker reserves (`functionWords`), only those the
evaluator knows as mathematical functions can be called** (`unsupported_call_refused`). The
evaluator resolves a called name against the variables of the table first, and then against its
own table of mathematical functions (`mathFunctions`); the reserved names reach neither. So a
call of `round`, `tan`, `min`, `max`, `lower`, `upper`, `len`, `strip` or `contains` by a name that
no variable carries is refused with the message `"f" is not a supported function`, whatever its
arguments, and the scope is left as it was. Filters and formulas report the refusal as their
failure (`filterRowsIn_unsupported`, `addFormulaIn_unsupported`).

* `Ast.leadingCall`: the function a call, or a comparison that starts with one, calls before
  anything else is built;
* `visitCall_unbound`: a call of a name that is no variable is the mathematical function of
  that name on the trees of its arguments, or a refusal;
* `visit_leadingCall`: a tree that leads with a refused call is refused;
* `evaluateIn_unsupported`: the evaluation of such a tree fails and writes no file.
-/

namespace Dataflow.Expr

/-- The function an expression calls before anything else is built: the callee of a call by
name, or of the first operand of a comparison when that is such a call. -/
def Ast.leadingCall : Ast → Option String
  | .call (.name id) _ _ => some id
  | .compare (.call (.name id) _ _) (_ :: _) => some id
  | _ => Option.none

/-- The two shapes of an expression that leads with a call. -/
theorem Ast.leadingCall_shape {tree : Ast} {id : String} (leads : tree.leadingCall = some id) :
    (∃ args named, tree = .call (.name id) args named) ∨
      ∃ args named first more, tree = .compare (.call (.name id) args named) (first :: more) := by
  unfold Ast.leadingCall at leads
  split at leads
  · cases leads
    exact .inl ⟨_, _, rfl⟩
  · cases leads
    exact .inr ⟨_, _, _, _, rfl⟩
  · cases leads

end Dataflow.Expr

namespace Dataflow.Eval

open Dataflow.Expr

/-- The refusal of a call of a name that is neither a variable nor a mathematical function. -/
def unsupportedFunction (id : String) : Failure :=
  ⟨.value, s!"\"{id}\" is not a supported function"⟩

/-- None of the reserved function names is one of the names of infinity. -/
theorem functionWords_not_infinity {id : String} (listed : id ∈ functionWords) :
    (id == "inf" || id == "Inf") = false := by
  have other : id ≠ "inf" ∧ id ≠ "Inf" := by
    constructor <;> (rintro rfl; revert listed; decide)
  simp [other.1, other.2]

section Resolution

variable {n : Nat} {id : String} {s : Scope}

/-- Whether a name is defined: one of the names of infinity, or a variable. -/
theorem isDefined_run :
    ((isDefined id).run).run s = (.ok (id == "inf" || id == "Inf" || (s.vars.lookup id).isSome), s) :=
  rfl

/-- Whether a name is defined, from a scope where no variable carries it. -/
theorem isDefined_unbound (unbound : s.vars.lookup id = none)
    (finite : (id == "inf" || id == "Inf") = false) :
    ((isDefined id).run).run s = (.ok false, s) := by
  rw [isDefined_run, finite, unbound]
  rfl

/-- A call of a name that is neither infinity nor a variable: the trees of its arguments and a
mathematical call of that name, when there is such a function (refused with named arguments);
otherwise a refusal that leaves the scope as it was. -/
theorem visitCall_unbound (args : List Ast) (named : List (Option String × Ast))
    (unbound : s.vars.lookup id = none) (finite : (id == "inf" || id == "Inf") = false) :
    ((visitCall (n + 1) (.name id) args named).run).run s =
      if mathFunctions.contains id then
        ((do
          let argNodes ← nodesOf n args
          if !named.isEmpty then
            refuse .type s!"Function \"{id}\" does not support keyword arguments"
          pure (Node.call id argNodes) : Build Node).run).run s
      else (.error (unsupportedFunction id), s) := by
  rw [visitCall]
  simp only [pure_bind]
  rw [run_bind, isDefined_unbound unbound finite]
  simp only [Bool.false_eq_true, if_false]
  split
  · rfl
  · rfl

/-- A tree that leads with a call of a name the evaluator cannot resolve is refused, whatever the
rest of it, from a scope where no variable carries the name. -/
theorem visit_leadingCall {tree : Ast} (leads : tree.leadingCall = some id)
    (unbound : s.vars.lookup id = none) (finite : (id == "inf" || id == "Inf") = false)
    (unknown : mathFunctions.contains id = false) :
    ((visit (n + 5) tree).run).run s = (.error (unsupportedFunction id), s) := by
  have refused : ∀ m args named,
      ((visitCall (m + 1) (.name id) args named).run).run s =
        (.error (unsupportedFunction id), s) := fun m args named => by
    rw [visitCall_unbound args named unbound finite, unknown]
    rfl
  -- the refused call is reached before anything else is built: directly, through the one
  -- comparison, or through the first comparison of a chain
  rcases Ast.leadingCall_shape leads with ⟨args, named, rfl⟩ | ⟨args, named, ⟨op, comp⟩, more, rfl⟩
  · exact refused (n + 3) args named
  · cases more with
    | nil => simp only [visit, visitCompare, run_bind, refused (n + 1) args named]
    | cons next more => simp only [visit, chain, visitCompare, run_bind, refused n args named]

end Resolution

/-- The evaluation of an expression that parses to a tree leading with a call of a reserved
name that is no mathematical function and no variable of the table fails with the refusal, and
leaves the files as they were. -/
theorem evaluateIn_unsupported (files : List String) (f : Frame) (expr : String) {tree : Ast}
    {fn : String} (parsed : parseLexed (lex (preparse expr)) = .ok tree)
    (leads : tree.leadingCall = some fn) (listed : fn ∈ functionWords)
    (unknown : fn ∉ mathFunctions) (unbound : (scopeOf f).vars.lookup fn = none) :
    evaluateIn files f expr = (.error (unsupportedFunction fn), files) := by
  have refused := visit_leadingCall (n := 4 * expr.length + 11)
    (s := { scopeOf f with files }) leads unbound (functionWords_not_infinity listed)
    (by simpa using unknown)
  unfold evaluateIn
  simp only [parsed]
  rw [show 4 * expr.length + 16 = 4 * expr.length + 11 + 5 by omega]
  simp only [Id.run, refused]
  rfl

variable {files : List String} {f : Frame} {expression : String} {tree : Ast} {fn : String}

/-- The text that filters and formulas evaluate parses to the tree they are said to evaluate. -/
theorem parsed_of_evaluatedTree (parsed : evaluatedTree expression = some tree) :
    parseLexed (lex (preparse (normalize expression))) = .ok tree := by
  unfold evaluatedTree at parsed
  cases read : parseLexed (lex (preparse (normalize expression))) with
  | error e => simp [read, Except.toOption] at parsed
  | ok t =>
    simp only [read, Except.toOption, Option.some.injEq] at parsed
    rw [parsed]

section Refused

variable (accepted : checkExpression expression = .ok ())
  (parsed : evaluatedTree expression = some tree) (leads : tree.leadingCall = some fn)
  (listed : fn ∈ functionWords) (unknown : fn ∉ mathFunctions)
  (unbound : (scopeOf f).vars.lookup fn = none)
include accepted parsed leads listed unknown unbound

/-- A filter whose expression leads with a refused call fails with the refusal, after both of
its evaluations, and writes no file. -/
theorem filterRowsIn_unsupported :
    filterRowsIn files f expression =
      (fail .expression s!"Failed to evaluate filter: {(unsupportedFunction fn).message}", files) := by
  have refused := evaluateIn_unsupported files f _ (parsed_of_evaluatedTree parsed) leads listed
    unknown unbound
  unfold filterRowsIn
  simp only [accepted, refused]
  rfl

/-- A formula whose expression leads with a refused call fails with the refusal and writes no
file. -/
theorem addFormulaIn_unsupported (label : Cell) :
    addFormulaIn files f expression label =
      (fail .expression s!"Failed to evaluate formula: {(unsupportedFunction fn).message}", files) := by
  have refused := evaluateIn_unsupported files f _ (parsed_of_evaluatedTree parsed) leads listed
    unknown unbound
  unfold addFormulaIn
  simp only [accepted, refused]
  rfl

end Refused

/-- **Reserved function names that the evaluator does not know are refused.** Take a table and a
reserved function name (`functionWords`) that is not one of the evaluator's mathematical
functions and that no variable of the table carries: `round`, `tan`, `min`, `max`, `lower`,
`upper`, `len`, `strip` or `contains` unless a column has its name. Building a tree that leads with
a call of it is refused with `"f" is not a supported function` at every depth allowance from five
on, and the scope, its files among them, stays as it was; so every accepted filter or formula
whose text parses to that tree fails with the refusal and writes no file. -/
theorem unsupported_call_refused (f : Frame) (files : List String) (label : Cell) (fn : String)
    (listed : fn ∈ functionWords) (unknown : fn ∉ mathFunctions)
    (unbound : (scopeOf f).vars.lookup fn = none) (tree : Ast)
    (leads : tree.leadingCall = some fn) :
    (∀ fuel, 5 ≤ fuel → ((visit fuel tree).run).run { scopeOf f with files } =
      (.error ⟨.value, s!"\"{fn}\" is not a supported function"⟩, { scopeOf f with files })) ∧
    ∀ expression, checkExpression expression = .ok () → evaluatedTree expression = some tree →
      filterRowsIn files f expression =
          (fail .expression s!"Failed to evaluate filter: \"{fn}\" is not a supported function",
            files) ∧
        addFormulaIn files f expression label =
          (fail .expression s!"Failed to evaluate formula: \"{fn}\" is not a supported function",
            files) := by
  refine ⟨fun fuel deep => ?_, fun expression accepted parsed => ?_⟩
  · obtain ⟨n, rfl⟩ : ∃ n, fuel = n + 5 := ⟨fuel - 5, by omega⟩
    exact visit_leadingCall leads unbound (functionWords_not_infinity listed)
      (by simpa using unknown)
  · exact ⟨filterRowsIn_unsupported accepted parsed leads listed unknown unbound,
      addFormulaIn_unsupported accepted parsed leads listed unknown unbound label⟩

/-- The call of `lower` on a column of names, compared with a text, as in `lower(name) ==
'alice'`: refused, for a table whose only column is `name`. -/
theorem unsupported_call_refused_lower :
    let f : Frame := ⟨[(.str "name", .object #[.str "Alice", .str "Bob"])], [Column.range 2]⟩
    let fn := "lower"
    let tree := Ast.compare (.call (.name fn) [.name "name"] []) [(.eq, .str "alice")]
    fn ∈ functionWords ∧ fn ∉ mathFunctions ∧ (scopeOf f).vars.lookup fn = none ∧
      tree.leadingCall = some fn ∧
      (∀ fuel, 5 ≤ fuel → ((visit fuel tree).run).run { scopeOf f with files := [] } =
        (.error ⟨.value, s!"\"{fn}\" is not a supported function"⟩,
          { scopeOf f with files := [] })) ∧
      ∀ expression, checkExpression expression = .ok () → evaluatedTree expression = some tree →
        filterRowsIn [] f expression =
            (fail .expression s!"Failed to evaluate filter: \"{fn}\" is not a supported function",
              []) ∧
          addFormulaIn [] f expression (.str "y") =
            (fail .expression s!"Failed to evaluate formula: \"{fn}\" is not a supported function",
              []) :=
  ⟨by decide, by decide, by decide, rfl,
    unsupported_call_refused _ [] (.str "y") "lower" (by decide) (by decide) (by decide) _ rfl⟩

end Dataflow.Eval
