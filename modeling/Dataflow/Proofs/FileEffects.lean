import Dataflow.Eval.Query
/-!
# What evaluating an expression does to files

**Evaluating a filter or a formula deletes no file, and adds each file at most once.** The files
that exist afterwards are those that existed before, in their order, followed by new ones, all
distinct. **An expression that reads no attribute adds none** (`evaluation_files`).

Files are written while the operation tree is built, by the one place that writes them: a call
whose callee is a method of a series (`writtenFile`, `createFile`). Methods are reached only
through attributes, and the variables an expression sees are the columns of its table, which no
build turns into methods. So one induction over the builders of the visitor (`Quiet`, by fuel)
carries both facts: every builder lets the files only grow, and, from a scope whose variables hold
no method, a builder of a tree without attributes leaves the files and that property as they were.

* `Ast.attributeFree`: the syntax has no attribute access anywhere;
* `FileGrowth`: files kept in order, new ones appended, distinct;
* `FileSafe silent m`: a build grows the files, and keeps them when `silent` holds;
  `FileSafe.bind` and `FileSafe.bind_gives` compose builds, the second using what the first gives;
* `castLeaves_fileSafe`, `combine_fileSafe`, `visitName_gives`: the builds below the visitor, which
  touch no file and put no method in a variable;
* `Quiet n`: every builder of the visitor at fuel `n` is `FileSafe`, silently for attribute-free
  syntax; one lemma per builder gives the step, and `quiet` the whole induction;
* `evaluateIn_files`, `filterRowsIn_files`, `addFormulaIn_files`: the evaluations built on it.
-/

namespace Dataflow.Expr

mutual

/-- Whether an expression reads no attribute anywhere in it. -/
def Ast.attributeFree : Ast → Bool
  | .attr _ _ => false
  | .list items | .tuple items | .logic _ items => Ast.allAttributeFree items
  | .call fn args named =>
    fn.attributeFree && Ast.allAttributeFree args && Ast.namedAttributeFree named
  | .subscript obj index => obj.attributeFree && index.attributeFree
  | .slice lo hi step =>
    Ast.someAttributeFree lo && Ast.someAttributeFree hi && Ast.someAttributeFree step
  | .binary _ l r => l.attributeFree && r.attributeFree
  | .unary _ a => a.attributeFree
  | .compare first rest => first.attributeFree && Ast.comparedAttributeFree rest
  | .name _ | .int _ | .float _ | .imag _ | .str _ | .bytes _ | .bool _ | .none | .ellipsis
  | .other _ => true

/-- Whether no expression of a list reads an attribute. -/
def Ast.allAttributeFree : List Ast → Bool
  | [] => true
  | e :: rest => e.attributeFree && Ast.allAttributeFree rest

/-- Whether no named argument reads an attribute. -/
def Ast.namedAttributeFree : List (Option String × Ast) → Bool
  | [] => true
  | (_, e) :: rest => e.attributeFree && Ast.namedAttributeFree rest

/-- Whether no comparand of a chain reads an attribute. -/
def Ast.comparedAttributeFree : List (CmpOp × Ast) → Bool
  | [] => true
  | (_, e) :: rest => e.attributeFree && Ast.comparedAttributeFree rest

/-- Whether an optional expression, if there is one, reads no attribute. -/
def Ast.someAttributeFree : Option Ast → Bool
  | Option.none => true
  | some e => e.attributeFree

end

@[simp] theorem Ast.allAttributeFree_cons {e : Ast} {rest : List Ast} :
    Ast.allAttributeFree (e :: rest) = true ↔
      e.attributeFree = true ∧ Ast.allAttributeFree rest = true := by
  rw [Ast.allAttributeFree, Bool.and_eq_true]

@[simp] theorem Ast.namedAttributeFree_cons {k : Option String} {e : Ast}
    {rest : List (Option String × Ast)} :
    Ast.namedAttributeFree ((k, e) :: rest) = true ↔
      e.attributeFree = true ∧ Ast.namedAttributeFree rest = true := by
  rw [Ast.namedAttributeFree, Bool.and_eq_true]

@[simp] theorem Ast.comparedAttributeFree_cons {op : CmpOp} {e : Ast}
    {rest : List (CmpOp × Ast)} :
    Ast.comparedAttributeFree ((op, e) :: rest) = true ↔
      e.attributeFree = true ∧ Ast.comparedAttributeFree rest = true := by
  rw [Ast.comparedAttributeFree, Bool.and_eq_true]

@[simp] theorem Ast.attributeFree_subscript {obj index : Ast} :
    (Ast.subscript obj index).attributeFree = true ↔
      obj.attributeFree = true ∧ index.attributeFree = true := by
  rw [Ast.attributeFree, Bool.and_eq_true]

@[simp] theorem Ast.attributeFree_binary {op : BinOp} {l r : Ast} :
    (Ast.binary op l r).attributeFree = true ↔
      l.attributeFree = true ∧ r.attributeFree = true := by
  rw [Ast.attributeFree, Bool.and_eq_true]

@[simp] theorem Ast.attributeFree_compare {first : Ast} {rest : List (CmpOp × Ast)} :
    (Ast.compare first rest).attributeFree = true ↔
      first.attributeFree = true ∧ Ast.comparedAttributeFree rest = true := by
  rw [Ast.attributeFree, Bool.and_eq_true]

theorem Ast.attributeFree_call_args {fn : Ast} {args : List Ast}
    {named : List (Option String × Ast)} (free : (Ast.call fn args named).attributeFree = true) :
    Ast.allAttributeFree args = true ∧ Ast.namedAttributeFree named = true := by
  simp only [Ast.attributeFree, Bool.and_eq_true] at free
  exact ⟨free.1.2, free.2⟩

theorem Ast.attributeFree_of_bound {lo hi step : Option Ast} {e : Ast}
    (free : (Ast.slice lo hi step).attributeFree = true) (member : some e ∈ [lo, hi, step]) :
    e.attributeFree = true := by
  simp only [Ast.attributeFree, Bool.and_eq_true] at free
  simp only [List.mem_cons, List.mem_nil_iff, or_false] at member
  rcases member with rfl | rfl | rfl
  · exact free.1.1
  · exact free.1.2
  · exact free.2

end Dataflow.Expr

namespace Dataflow.Eval

open Dataflow.Expr

/-! ### Files that only grow -/

/-- The files after against the files before: those before stay, in their order, and those added
are new and distinct. -/
def FileGrowth (before after : List String) : Prop :=
  ∃ added, after = before ++ added ∧ (before.Nodup → after.Nodup)

theorem FileGrowth.refl (files : List String) : FileGrowth files files :=
  ⟨[], (List.append_nil files).symm, id⟩

theorem FileGrowth.trans {a b c : List String} (first : FileGrowth a b)
    (second : FileGrowth b c) : FileGrowth a c := by
  obtain ⟨added, rfl, distinct⟩ := first
  obtain ⟨more, rfl, distinct'⟩ := second
  exact ⟨added ++ more, List.append_assoc _ _ _, fun nodup => distinct' (distinct nodup)⟩

/-- Adding a file that is not there yet. -/
theorem FileGrowth.append_new {files : List String} {path : String} (absent : path ∉ files) :
    FileGrowth files (files ++ [path]) := by
  refine ⟨[path], rfl, fun nodup => ?_⟩
  rw [List.nodup_append]
  exact ⟨nodup, by simp, fun a member b same => by
    rw [List.mem_singleton] at same
    rintro rfl
    exact absent (same ▸ member)⟩

/-! ### Scopes without methods -/

/-- Whether a value is a method of a series, not yet called. -/
def Obj.isMethod : Obj → Bool
  | .method _ _ => true
  | _ => false

/-- No variable of a scope holds a method of a series. -/
def Scope.MethodFree (s : Scope) : Prop := ∀ p ∈ s.vars, p.2.isMethod = false

theorem mem_of_lookup {vars : List (String × Obj)} {id : String} {v : Obj}
    (found : vars.lookup id = some v) : (id, v) ∈ vars := by
  induction vars with
  | nil => cases found
  | cons p rest ih =>
    obtain ⟨k, w⟩ := p
    rw [List.lookup_cons] at found
    cases same : id == k
    · rw [same] at found
      exact List.mem_cons_of_mem _ (ih found)
    · rw [same] at found
      cases found
      rw [beq_iff_eq.mp same]
      exact List.mem_cons_self

theorem Scope.MethodFree.lookup {s : Scope} (free : s.MethodFree) {id : String} {v : Obj}
    (found : s.vars.lookup id = some v) : v.isMethod = false :=
  free (id, v) (mem_of_lookup found)

/-! ### Builds that let the files only grow -/

section Builds

variable {silent quiet : Prop} {α β : Type}

/-- How a build may move a scope: the files grow, and when `silent` holds, a scope whose variables
hold no method keeps its files and that property. -/
structure Scope.Moves (silent : Prop) (s t : Scope) : Prop where
  grows : FileGrowth s.files t.files
  still : silent → s.MethodFree → t.MethodFree ∧ t.files = s.files

theorem Scope.Moves.refl (s : Scope) : s.Moves silent s :=
  ⟨.refl _, fun _ free => ⟨free, rfl⟩⟩

theorem Scope.Moves.trans {s t u : Scope} (first : s.Moves silent t) (second : t.Moves silent u) :
    s.Moves silent u := by
  refine ⟨first.grows.trans second.grows, fun still free => ?_⟩
  obtain ⟨free', same⟩ := first.still still free
  obtain ⟨free'', same'⟩ := second.still still free'
  exact ⟨free'', same'.trans same⟩

/-- A build that moves every scope as `Scope.Moves silent` allows. -/
def FileSafe (silent : Prop) (m : Build α) : Prop :=
  ∀ s : Scope, s.Moves silent ((m.run).run s).2

/-- What a build gives when it succeeds from a scope whose variables hold no method. -/
def Gives (m : Build α) (good : α → Prop) : Prop :=
  ∀ s a t, s.MethodFree → (m.run).run s = (.ok a, t) → good a

/-- Running a bound build: the first build, then the rest from the scope it leaves. -/
theorem run_bind (m : Build α) (k : α → Build β) (s : Scope) :
    ((m >>= k).run).run s = match (m.run).run s with
      | (.ok a, t) => ((k a).run).run t
      | (.error e, t) => (.error e, t) := by
  simp only [ExceptT.run_bind, StateT.run_bind]
  rcases (m.run).run s with ⟨_ | _, t⟩ <;> rfl

theorem FileSafe.mono {m : Build α} (safe : FileSafe quiet m) (weaker : silent → quiet) :
    FileSafe silent m := by
  intro s
  exact ⟨(safe s).grows, fun still => (safe s).still (weaker still)⟩

theorem fileSafe_pure (a : α) : FileSafe silent (pure a : Build α) := by
  intro s
  exact .refl s

theorem fileSafe_throw (e : Failure) : FileSafe silent (throw e : Build α) := by
  intro s
  exact .refl s

theorem fileSafe_refuse (kind : FailureKind) (message : String) :
    FileSafe silent (refuse kind message : Build α) :=
  fileSafe_throw _

theorem fileSafe_liftOutcome (o : Outcome α) : FileSafe silent (liftOutcome o) := by
  cases o with
  | ok a => exact fileSafe_pure a
  | error e => exact fileSafe_throw e

theorem fileSafe_get : FileSafe silent (get : Build Scope) := by
  intro s
  exact .refl s

/-- Binding a build whose result the rest relies on: the rest is silent when the first build is
and its result is good. -/
theorem FileSafe.bind_gives {m : Build α} {k : α → Build β} {good : α → Prop}
    (first : FileSafe silent m) (gives : Gives m good)
    (rest : ∀ a, FileSafe (silent ∧ good a) (k a)) : FileSafe silent (m >>= k) := by
  intro s
  rw [run_bind]
  rcases ran : (m.run).run s with ⟨_ | a, t⟩
  · simpa [ran] using first s
  · have moved : s.Moves silent t := by simpa [ran] using first s
    refine ⟨moved.grows.trans (rest a t).grows, fun still free => ?_⟩
    obtain ⟨free', same⟩ := moved.still still free
    obtain ⟨free'', same'⟩ := (rest a t).still ⟨still, gives s a t free ran⟩ free'
    exact ⟨free'', same'.trans same⟩

theorem FileSafe.bind {m : Build α} {k : α → Build β} (first : FileSafe silent m)
    (rest : ∀ a, FileSafe silent (k a)) : FileSafe silent (m >>= k) :=
  have anything : Gives m fun _ => True := fun _ _ _ _ _ => trivial
  first.bind_gives anything fun a => FileSafe.mono (rest a) And.left

@[simp] theorem run_pure (a : α) (s : Scope) : ((pure a : Build α).run).run s = (.ok a, s) := rfl

@[simp] theorem run_throw (e : Failure) (s : Scope) :
    ((throw e : Build α).run).run s = (.error e, s) := rfl

@[simp] theorem run_get (s : Scope) : ((get : Build Scope).run).run s = (.ok s, s) := rfl

theorem liftOutcome_gives (o : Outcome α) : Gives (liftOutcome o) (fun a => o = .ok a) := by
  intro s a t _ ran
  cases o with
  | ok b =>
    simp only [liftOutcome, run_pure] at ran
    cases ran
    rfl
  | error e =>
    simp only [liftOutcome, run_throw] at ran
    cases ran

/-- A loop over a list whose every turn is safe is safe. -/
theorem fileSafe_forIn {γ : Type} (xs : List γ) (init : β) (body : γ → β → Build (ForInStep β))
    (each : ∀ x ∈ xs, ∀ b, FileSafe silent (body x b)) :
    FileSafe silent (forIn xs init body) := by
  induction xs generalizing init with
  | nil => exact fileSafe_pure init
  | cons x rest ih =>
    rw [List.forIn_cons]
    refine (each x List.mem_cons_self init).bind fun step => ?_
    cases step with
    | done b => exact fileSafe_pure b
    | yield b => exact ih b fun y member => each y (List.mem_cons_of_mem x member)

theorem fileSafe_throw_bind (e : Failure) (k : α → Build β) :
    FileSafe silent (throw e >>= k) := by
  intro s
  rw [run_bind, run_throw]
  exact .refl s

theorem fileSafe_refuse_bind (kind : FailureKind) (message : String)
    (k : α → Build β) : FileSafe silent (refuse kind message >>= k) :=
  fileSafe_throw_bind _ k

/-- A fold whose every step is safe is safe. -/
theorem fileSafe_foldlM (step : β → α → Build β)
    (each : ∀ b a, FileSafe silent (step b a)) :
    ∀ (xs : List α) (init : β), FileSafe silent (xs.foldlM step init)
  | [], init => fileSafe_pure init
  | x :: rest, init => by
    rw [List.foldlM_cons]
    exact (each init x).bind fun b => fileSafe_foldlM step each rest b

end Builds

/-! ### The builds that touch files or variables -/

/-- The scope after creating a file: unchanged when the file exists, and otherwise with the file
added at the end. -/
theorem createFile_scope (path : String) (exclusive : Bool) (s : Scope) :
    ((createFile (some (path, exclusive))).run.run s).2 =
      if s.files.contains path then s else { s with files := s.files ++ [path] } := by
  by_cases present : s.files.contains path
  · simp only [createFile, run_bind, run_get, present, if_true]
    cases exclusive <;> rfl
  · simp only [createFile, run_bind, run_get, present]
    rfl

/-- Creating a file lets the files grow, and does nothing when no file is named. -/
theorem fileSafe_createFile (written : Option (String × Bool)) :
    FileSafe (written = none) (createFile written) := by
  intro s
  cases written with
  | none => exact .refl s
  | some w =>
    obtain ⟨path, exclusive⟩ := w
    refine ⟨?_, fun named => nomatch named⟩
    rw [createFile_scope]
    by_cases present : s.files.contains path
    · rw [if_pos present]
      exact .refl _
    · rw [if_neg present]
      exact FileGrowth.append_new (by simpa using present)

theorem replaceVar_methodFree {vars : List (String × Obj)} {w : Obj} (k : String)
    (free : ∀ p ∈ vars, p.2.isMethod = false) (plain : w.isMethod = false) :
    ∀ p ∈ replaceVar vars k w, p.2.isMethod = false := by
  induction vars with
  | nil => simp [replaceVar]
  | cons q rest ih =>
    obtain ⟨j, v⟩ := q
    have later : ∀ p ∈ rest, p.2.isMethod = false := fun p member =>
      free p (List.mem_cons_of_mem _ member)
    simp only [replaceVar]
    split
    · intro p member
      rcases List.mem_cons.mp member with rfl | member
      · exact plain
      · exact later p member
    · intro p member
      rcases List.mem_cons.mp member with rfl | member
      · exact free _ List.mem_cons_self
      · exact ih later p member

/-- Replacing a variable's value by one that is not a method keeps the variables free of
methods, and the files. -/
theorem fileSafe_replaceVar (k : String) (w : Obj) :
    FileSafe (w.isMethod = false)
      (modify fun s => { s with vars := replaceVar s.vars k w } : Build PUnit) := by
  intro s
  exact ⟨.refl _, fun plain free => ⟨replaceVar_methodFree k free plain, rfl⟩⟩

theorem map_eq_ok {α β : Type} {f : α → β} {x : Outcome α} {b : β}
    (mapped : x.map f = .ok b) :
    ∃ a, b = f a := by
  cases x with
  | error e => cases mapped
  | ok a =>
    cases mapped
    exact ⟨a, rfl⟩

/-- A value cast to floats is a series, a labelled series or a fixed-width scalar: never a
method. -/
theorem castFloat_isMethod {v w : Obj} (cast : castFloat v = .ok w) : w.isMethod = false := by
  unfold castFloat at cast
  split at cast
  all_goals first
    | (obtain ⟨_, rfl⟩ := map_eq_ok cast; rfl)
    | (cases cast; rfl)
    | simp [typeError, fail] at cast

mutual

/-- Casting the leaves of a tree to floats touches no file and puts no method in a variable. -/
theorem castLeaves_fileSafe : ∀ nd : Node, FileSafe True (castLeaves nd)
  | .term key v => by
    unfold castLeaves
    split
    · exact fileSafe_pure _
    · refine (fileSafe_liftOutcome _).bind_gives (liftOutcome_gives _) fun w => ?_
      -- only a variable the leaf was read from is replaced, by the cast value
      dsimp only
      split
      · refine FileSafe.bind ?_ fun _ => fileSafe_pure _
        exact (fileSafe_replaceVar _ w).mono fun ⟨_, cast⟩ => castFloat_isMethod cast
      · exact fileSafe_pure _
  | .binary op l r => by
    unfold castLeaves
    exact (castLeaves_fileSafe l).bind fun _ =>
      (castLeaves_fileSafe r).bind fun _ => fileSafe_pure _
  | .unary op a => by
    unfold castLeaves
    exact (castLeaves_fileSafe a).bind fun _ => fileSafe_pure _
  | .call fn args => by
    unfold castLeaves
    exact (castAll_fileSafe args).bind fun _ => fileSafe_pure _

theorem castAll_fileSafe : ∀ nds : List Node, FileSafe True (castAll nds)
  | [] => by
    unfold castAll
    exact fileSafe_pure _
  | nd :: rest => by
    unfold castAll
    exact (castLeaves_fileSafe nd).bind fun _ =>
      (castAll_fileSafe rest).bind fun _ => fileSafe_pure _

end

/-- Combining two operand trees touches no file and puts no method in a variable: it reads types
and the scope, may fail, and may cast leaves to floats. -/
theorem combine_fileSafe (op : BinSym) (lhs rhs : Node) : FileSafe True (combine op lhs rhs) := by
  unfold combine
  repeat
    first
    | exact fileSafe_pure _
    | exact fileSafe_refuse _ _
    | exact fileSafe_liftOutcome _
    | exact fileSafe_get
    | exact castLeaves_fileSafe _
    | refine FileSafe.bind ?_ fun _ => ?_
    | split
    | dsimp only

/-- Reading a name leaves the scope as it is. -/
theorem visitName_scope (id : String) (s : Scope) : ((visitName id).run.run s).2 = s := by
  unfold visitName
  split
  · rfl
  · rw [run_bind, run_get]
    dsimp only
    split <;> rfl

/-- A name read in a scope without methods is a leaf that holds no method. -/
theorem visitName_gives (id : String) :
    Gives (visitName id) fun nd => ∀ v, nd.value? = .ok v → v.isMethod = false := by
  intro s nd t free ran v valued
  unfold visitName at ran
  split at ran
  · cases ran
    cases valued
    rfl
  · rw [run_bind, run_get] at ran
    dsimp only at ran
    split at ran
    · rename_i w found
      cases ran
      cases valued
      exact free.lookup found
    · cases ran

theorem visitName_fileSafe (id : String) : FileSafe True (visitName id) := by
  intro s
  rw [visitName_scope]
  exact .refl s

/-- Asking whether a name is defined leaves the scope as it is. -/
theorem isDefined_scope (id : String) (s : Scope) : ((isDefined id).run.run s).2 = s := rfl

theorem isDefined_fileSafe (id : String) : FileSafe True (isDefined id) := by
  intro s
  rw [isDefined_scope]
  exact .refl s

/-- A call writes no file through a callee that is not a method. -/
theorem writtenFile_of_isMethod {f : Obj} (plain : f.isMethod = false) (args : List Obj)
    (named : List (String × Obj)) : writtenFile f args named = none := by
  cases f with
  | method => cases plain
  | _ => rfl

/-! ### The visitor, by fuel -/

/-- Every builder of the visitor at fuel `n` lets the files only grow; and from a scope whose
variables hold no method, a builder of syntax that reads no attribute keeps the files and that
property of the scope. -/
structure Quiet (n : Nat) : Prop where
  visit : ∀ e, FileSafe (e.attributeFree = true) (Eval.visit n e)
  logicTail : ∀ op acc es, FileSafe (Ast.allAttributeFree es = true) (Eval.logicTail n op acc es)
  chain : ∀ l rest, FileSafe (l.attributeFree = true ∧ Ast.comparedAttributeFree rest = true)
    (Eval.chain n l rest)
  visitCompare : ∀ l op r, FileSafe (l.attributeFree = true ∧ r.attributeFree = true)
    (Eval.visitCompare n l op r)
  visitAttr : ∀ obj field, FileSafe (obj.attributeFree = true) (Eval.visitAttr n obj field)
  visitCall : ∀ fn args named, FileSafe ((Ast.call fn args named).attributeFree = true)
    (Eval.visitCall n fn args named)
  nodesOf : ∀ es, FileSafe (Ast.allAttributeFree es = true) (Eval.nodesOf n es)
  valuesOf : ∀ es, FileSafe (Ast.allAttributeFree es = true) (Eval.valuesOf n es)
  keywordValues : ∀ named, FileSafe (Ast.namedAttributeFree named = true)
    (Eval.keywordValues n named)

/-- Out of fuel, a builder fails or gives nothing. -/
theorem quiet_zero : Quiet 0 where
  visit _ := by
    rw [visit]
    exact fileSafe_refuse _ _
  logicTail _ acc _ := by
    rw [logicTail]
    exact fileSafe_pure acc
  chain _ _ := by
    rw [chain]
    exact fileSafe_pure _
  visitCompare _ _ _ := by
    rw [visitCompare]
    exact fileSafe_refuse _ _
  visitAttr _ _ := by
    rw [visitAttr]
    exact fileSafe_refuse _ _
  visitCall _ _ _ := by
    rw [visitCall]
    exact fileSafe_refuse _ _
  nodesOf _ := by
    rw [nodesOf]
    exact fileSafe_pure _
  valuesOf _ := by
    rw [valuesOf]
    exact fileSafe_pure _
  keywordValues _ := by
    rw [keywordValues]
    exact fileSafe_pure _

section Step

variable {n : Nat}

theorem nodesOf_succ_fileSafe (ih : Quiet n) :
    ∀ es, FileSafe (Ast.allAttributeFree es = true) (nodesOf (n + 1) es)
  | [] => by
    rw [nodesOf]
    exact fileSafe_pure _
  | e :: rest => by
    rw [nodesOf]
    refine ((ih.visit e).mono fun h => (Ast.allAttributeFree_cons.mp h).1).bind fun _ => ?_
    refine ((ih.nodesOf rest).mono fun h => ?_).bind fun _ => fileSafe_pure _
    exact (Ast.allAttributeFree_cons.mp h).2

theorem valuesOf_succ_fileSafe (ih : Quiet n) :
    ∀ es, FileSafe (Ast.allAttributeFree es = true) (valuesOf (n + 1) es)
  | [] => by
    rw [valuesOf]
    exact fileSafe_pure _
  | e :: rest => by
    rw [valuesOf]
    refine ((ih.visit e).mono fun h => (Ast.allAttributeFree_cons.mp h).1).bind fun _ => ?_
    refine fileSafe_get.bind fun _ => (fileSafe_liftOutcome _).bind fun _ => ?_
    refine ((ih.valuesOf rest).mono fun h => ?_).bind fun _ => fileSafe_pure _
    exact (Ast.allAttributeFree_cons.mp h).2

theorem keywordValues_succ_fileSafe (ih : Quiet n) :
    ∀ named, FileSafe (Ast.namedAttributeFree named = true) (keywordValues (n + 1) named)
  | [] => by
    rw [keywordValues]
    exact fileSafe_pure _
  | (none, e) :: rest => by
    -- a `**` argument is left out, unbuilt
    rw [keywordValues]
    exact (ih.keywordValues rest).mono fun h => (Ast.namedAttributeFree_cons.mp h).2
  | (some k, e) :: rest => by
    rw [keywordValues]
    refine ((ih.visit e).mono fun h => (Ast.namedAttributeFree_cons.mp h).1).bind fun _ => ?_
    refine fileSafe_get.bind fun _ => (fileSafe_liftOutcome _).bind fun _ => ?_
    refine ((ih.keywordValues rest).mono fun h => ?_).bind fun _ => fileSafe_pure _
    exact (Ast.namedAttributeFree_cons.mp h).2

theorem logicTail_succ_fileSafe (ih : Quiet n) (op : BinSym) (acc : Node) :
    ∀ es, FileSafe (Ast.allAttributeFree es = true) (logicTail (n + 1) op acc es)
  | [] => by
    rw [logicTail]
    exact fileSafe_pure acc
  | e :: rest => by
    rw [logicTail]
    refine ((ih.visit e).mono fun h => (Ast.allAttributeFree_cons.mp h).1).bind fun rhs => ?_
    refine ((combine_fileSafe op acc rhs).mono fun _ => trivial).bind fun acc => ?_
    exact (ih.logicTail op acc rest).mono fun h => (Ast.allAttributeFree_cons.mp h).2

theorem chain_succ_fileSafe (ih : Quiet n) (left : Ast) :
    ∀ rest, FileSafe (left.attributeFree = true ∧ Ast.comparedAttributeFree rest = true)
      (chain (n + 1) left rest)
  | [] => by
    rw [chain]
    exact fileSafe_pure _
  | (op, comp) :: rest => by
    rw [chain]
    have free (h : left.attributeFree = true ∧ Ast.comparedAttributeFree ((op, comp) :: rest)) :=
      Ast.comparedAttributeFree_cons.mp h.2
    refine ((ih.visitCompare left op comp).mono fun h => ⟨h.1, (free h).1⟩).bind fun _ => ?_
    exact ((ih.chain comp rest).mono free).bind fun _ => fileSafe_pure _

theorem visitCompare_succ_fileSafe (ih : Quiet n) (l : Ast) (op : CmpOp) (r : Ast) :
    FileSafe (l.attributeFree = true ∧ r.attributeFree = true) (visitCompare (n + 1) l op r) := by
  rw [visitCompare]
  refine ((ih.visit l).mono fun h => h.1).bind fun lhs => ?_
  refine ((ih.visit r).mono fun h => h.2).bind fun rhs => ?_
  -- the operator may turn into a membership test; then a refused one fails, any other is combined
  split
  split
  · exact fileSafe_throw _
  · exact (combine_fileSafe _ _ _).mono fun _ => trivial

theorem visitAttr_succ_fileSafe (ih : Quiet n) (obj : Ast) (field : String) :
    FileSafe (obj.attributeFree = true) (visitAttr (n + 1) obj field) := by
  rw [visitAttr]
  refine (ih.visit obj).bind fun base => ?_
  refine (fileSafe_liftOutcome _).bind fun _ => fileSafe_get.bind fun _ => ?_
  -- the attribute, or the operand itself when a name stands for its own attribute
  split
  · exact fileSafe_pure _
  · split
    · split
      · exact fileSafe_pure _
      · exact fileSafe_throw _
    · exact fileSafe_throw _

/-- A call of a callee node: the arguments are built and evaluated, the call is made, and the file
it writes is created; it names no file when the callee holds no method. -/
theorem callNode_fileSafe (ih : Quiet n) (args : List Ast) (named : List (Option String × Ast))
    (node : Node) :
    FileSafe ((Ast.allAttributeFree args = true ∧ Ast.namedAttributeFree named = true) ∧
        ∀ v, node.value? = .ok v → v.isMethod = false)
      (do
        let f ← liftOutcome node.value?
        let vs ← valuesOf n args
        let kws ← keywordValues n named
        let v ← liftOutcome (callValue (← get).rowLabels f vs kws)
        createFile (writtenFile f vs kws)
        pure (Node.term none v)) := by
  refine (fileSafe_liftOutcome _).bind_gives (liftOutcome_gives _) fun f => ?_
  refine ((ih.valuesOf args).mono fun h => h.1.1.1).bind fun vs => ?_
  refine ((ih.keywordValues named).mono fun h => h.1.1.2).bind fun kws => ?_
  refine fileSafe_get.bind fun _ => (fileSafe_liftOutcome _).bind fun _ => ?_
  refine ((fileSafe_createFile _).mono fun h => ?_).bind fun _ => fileSafe_pure _
  exact writtenFile_of_isMethod (h.1.2 f h.2) vs kws

theorem visitCall_succ_fileSafe (ih : Quiet n) (fn : Ast) (args : List Ast)
    (named : List (Option String × Ast)) :
    FileSafe ((Ast.call fn args named).attributeFree = true)
      (visitCall (n + 1) fn args named) := by
  cases fn
  case attr obj field =>
    -- a method is called: an attribute is read, so the call need not leave the files
    have loud : ¬(Ast.call (.attr obj field) args named).attributeFree = true := by
      simp [Ast.attributeFree]
    rw [visitCall]
    simp only [pure_bind]
    by_cases called : (field == "__call__") = true
    · rw [if_pos called]
      exact fileSafe_refuse _ _
    · rw [if_neg called]
      refine ((ih.visitAttr obj field).mono fun h => absurd h loud).bind fun node => ?_
      exact (callNode_fileSafe ih args named node).mono fun h => absurd h loud
  case name id =>
    -- a name is called: a variable, which holds no method, or a mathematical function
    rw [visitCall]
    simp only [pure_bind]
    refine ((isDefined_fileSafe id).mono fun _ => trivial).bind fun defined => ?_
    by_cases bound : defined = true
    · rw [if_pos bound]
      refine ((visitName_fileSafe id).mono fun _ => trivial).bind_gives (visitName_gives id)
        fun node => ?_
      exact (callNode_fileSafe ih args named node).mono fun h =>
        ⟨Ast.attributeFree_call_args h.1, h.2⟩
    · rw [if_neg bound]
      by_cases math : mathFunctions.contains id = true
      · rw [if_pos math]
        refine ((ih.nodesOf args).mono fun h => (Ast.attributeFree_call_args h).1).bind
          fun _ => ?_
        split
        · exact (fileSafe_refuse _ _).bind fun _ => fileSafe_pure _
        · exact fileSafe_pure _
      · rw [if_neg math]
        exact fileSafe_refuse_bind _ _ _
  -- anything else cannot be called
  all_goals
    unfold visitCall
    exact fileSafe_refuse_bind _ _ _

theorem visit_succ_fileSafe (ih : Quiet n) (e : Ast) :
    FileSafe (e.attributeFree = true) (visit (n + 1) e) := by
  cases e <;> unfold visit <;> dsimp only
  case name id =>
    exact (visitName_fileSafe id).mono fun _ => trivial
  case list items =>
    exact (ih.valuesOf items).bind fun _ => fileSafe_pure _
  case tuple items =>
    exact (ih.valuesOf items).bind fun _ => fileSafe_pure _
  case attr obj field =>
    exact (ih.visitAttr obj field).mono fun h => nomatch h
  case call fn args named =>
    exact ih.visitCall fn args named
  case subscript obj index =>
    refine ((ih.visit obj).mono fun h => (Ast.attributeFree_subscript.mp h).1).bind
      fun base => ?_
    split
    · -- a slice: its bounds are built, then it is refused
      refine (fileSafe_forIn _ _ _ fun bound member _ => ?_).bind fun _ =>
        fileSafe_refuse_bind _ _ _
      split
      · refine ((ih.visit _).mono fun h => ?_).bind fun _ =>
          (fileSafe_liftOutcome _).bind fun _ => fileSafe_pure _
        exact Ast.attributeFree_of_bound (Ast.attributeFree_subscript.mp h).2 member
      · exact fileSafe_pure _
    · -- any other key is built and evaluated, and the value read at it
      refine ((ih.visit _).mono fun h => (Ast.attributeFree_subscript.mp h).2).bind fun _ => ?_
      refine fileSafe_get.bind fun _ => (fileSafe_liftOutcome _).bind fun _ => ?_
      refine fileSafe_get.bind fun _ => (fileSafe_liftOutcome _).bind fun _ => ?_
      exact fileSafe_get.bind fun _ => (fileSafe_liftOutcome _).bind fun _ => fileSafe_pure _
  case binary op l r =>
    refine ((ih.visit l).mono fun h => (Ast.attributeFree_binary.mp h).1).bind fun lhs => ?_
    refine ((ih.visit r).mono fun h => (Ast.attributeFree_binary.mp h).2).bind fun rhs => ?_
    split
    · exact (combine_fileSafe _ _ _).mono fun _ => trivial
    · exact fileSafe_throw _
  case unary op a =>
    exact (ih.visit a).bind fun _ => fileSafe_pure _
  case logic op args =>
    split
    · exact fileSafe_refuse _ _
    · rename_i first rest
      refine ((ih.visit first).mono fun h => (Ast.allAttributeFree_cons.mp h).1).bind
        fun start => ?_
      exact (ih.logicTail _ start rest).mono fun h => (Ast.allAttributeFree_cons.mp h).2
  case compare first rest =>
    split
    · -- one comparison
      rename_i op comp
      exact (ih.visitCompare first op comp).mono fun h =>
        have parts := Ast.attributeFree_compare.mp h
        ⟨parts.1, (Ast.comparedAttributeFree_cons.mp parts.2).1⟩
    · -- a chain: each comparison is built, and they are combined by `and`
      refine ((ih.chain first rest).mono Ast.attributeFree_compare.mp).bind fun nodes => ?_
      split
      · exact fileSafe_refuse _ _
      · exact fileSafe_foldlM _ (fun _ _ => (combine_fileSafe _ _ _).mono fun _ => trivial) _ _
  -- a slice on its own and a construct the evaluator does not take are refused
  case slice =>
    exact fileSafe_throw _
  case other =>
    exact fileSafe_throw _
  -- literals
  all_goals exact fileSafe_pure _

end Step

/-- Every builder of the visitor, at every fuel. -/
theorem quiet : ∀ n, Quiet n
  | 0 => quiet_zero
  | n + 1 =>
    have ih := quiet n
    { visit := visit_succ_fileSafe ih
      logicTail := logicTail_succ_fileSafe ih
      chain := chain_succ_fileSafe ih
      visitCompare := visitCompare_succ_fileSafe ih
      visitAttr := visitAttr_succ_fileSafe ih
      visitCall := visitCall_succ_fileSafe ih
      nodesOf := nodesOf_succ_fileSafe ih
      valuesOf := valuesOf_succ_fileSafe ih
      keywordValues := keywordValues_succ_fileSafe ih }

/-! ### Evaluations -/

/-- The variables an expression starts with are the columns, the row labels and the column labels
of its table: none is a method. -/
theorem scopeOf_methodFree (f : Frame) (files : List String) :
    ({ scopeOf f with files } : Scope).MethodFree := by
  intro p member
  simp only [scopeOf, List.mem_append, List.mem_map, List.mem_filter, List.mem_cons,
    List.mem_nil_iff, or_false] at member
  -- every variable is a labelled series: a column, a level of row labels, or the column labels
  rcases member with ⟨_, -, rfl⟩ | ⟨(rfl | ⟨_, -, rfl⟩) | rfl | rfl, -⟩ <;> rfl

/-- The syntax tree that filters and formulas evaluate an expression as: its normal form, with `&`,
`|` and `@` read as the evaluator reads them, parsed. -/
def evaluatedTree (expression : String) : Option Ast :=
  (parseLexed (lex (preparse (normalize expression)))).toOption

/-- The files after an evaluation: those the build of the parsed tree leaves, or those before
when the expression does not parse. -/
theorem evaluateIn_files_eq (files : List String) (f : Frame) (expr : String) :
    (evaluateIn files f expr).2 = match parseLexed (lex (preparse expr)) with
      | .error _ => files
      | .ok tree =>
        (((visit (4 * expr.length + 16) tree).run).run { scopeOf f with files }).2.files := by
  unfold evaluateIn
  dsimp only
  cases parseLexed (lex (preparse expr)) <;> rfl

theorem evaluateIn_files (files : List String) (f : Frame) (expr : String) :
    FileGrowth files (evaluateIn files f expr).2 ∧
      ∀ tree, parseLexed (lex (preparse expr)) = .ok tree → tree.attributeFree = true →
        (evaluateIn files f expr).2 = files := by
  rw [evaluateIn_files_eq]
  split
  · exact ⟨.refl files, fun _ _ _ => rfl⟩
  · rename_i tree parsed
    have moved := (quiet (4 * expr.length + 16)).visit tree { scopeOf f with files }
    refine ⟨moved.grows, fun tree' parsed' free => ?_⟩
    rw [parsed] at parsed'
    cases parsed'
    exact (moved.still free (scopeOf_methodFree f files)).2

/-- An evaluation from files after any run of evaluations of a silent tree: the files stay. -/
theorem evaluateIn_silent {files : List String} {f : Frame} {expression : String} {tree : Ast}
    (parsed : evaluatedTree expression = some tree) (free : tree.attributeFree = true) :
    (evaluateIn files f (normalize expression)).2 = files := by
  have read : parseLexed (lex (preparse (normalize expression))) = .ok tree := by
    unfold evaluatedTree at parsed
    cases result : parseLexed (lex (preparse (normalize expression))) with
    | error e => simp [result, Except.toOption] at parsed
    | ok t =>
      simp only [result, Except.toOption, Option.some.injEq] at parsed
      rw [parsed]
  exact (evaluateIn_files files f (normalize expression)).2 tree read free

/-- The files after a filter: those before when the expression is refused, or those after the
query's evaluation, or after a second evaluation from there when the query fails. -/
theorem filterRowsIn_files_cases (files : List String) (f : Frame) (expression : String) :
    (filterRowsIn files f expression).2 = files ∨
      (filterRowsIn files f expression).2 = (evaluateIn files f (normalize expression)).2 ∨
      (filterRowsIn files f expression).2 =
        (evaluateIn (evaluateIn files f (normalize expression)).2 f (normalize expression)).2 := by
  unfold filterRowsIn
  split
  · exact .inl rfl
  · dsimp only
    rcases first : evaluateIn files f (normalize expression) with ⟨value, files'⟩
    dsimp only
    split
    · exact .inr (.inl rfl)
    · rcases second : evaluateIn files' f (normalize expression) with ⟨value', files''⟩
      dsimp only
      split <;> exact .inr (.inr rfl)

/-- The files after a formula: those before when the expression is refused, or those after its
evaluation. -/
theorem addFormulaIn_files_cases (files : List String) (f : Frame) (expression : String)
    (label : Cell) :
    (addFormulaIn files f expression label).2 = files ∨
      (addFormulaIn files f expression label).2 =
        (evaluateIn files f (normalize expression)).2 := by
  unfold addFormulaIn
  split
  · exact .inl rfl
  · dsimp only
    rcases evaluateIn files f (normalize expression) with ⟨value, files'⟩
    dsimp only
    split <;> exact .inr rfl

theorem filterRowsIn_files (files : List String) (f : Frame) (expression : String) :
    FileGrowth files (filterRowsIn files f expression).2 ∧
      ∀ tree, evaluatedTree expression = some tree → tree.attributeFree = true →
        (filterRowsIn files f expression).2 = files := by
  have once := (evaluateIn_files files f (normalize expression)).1
  have twice := once.trans
    (evaluateIn_files (evaluateIn files f (normalize expression)).2 f (normalize expression)).1
  refine ⟨?_, fun tree parsed free => ?_⟩
  · rcases filterRowsIn_files_cases files f expression with same | same | same <;> rw [same]
    · exact .refl files
    · exact once
    · exact twice
  · rcases filterRowsIn_files_cases files f expression with same | same | same <;> rw [same]
    · rw [evaluateIn_silent parsed free]
    · rw [evaluateIn_silent parsed free, evaluateIn_silent parsed free]

theorem addFormulaIn_files (files : List String) (f : Frame) (expression : String) (label : Cell) :
    FileGrowth files (addFormulaIn files f expression label).2 ∧
      ∀ tree, evaluatedTree expression = some tree → tree.attributeFree = true →
        (addFormulaIn files f expression label).2 = files := by
  refine ⟨?_, fun tree parsed free => ?_⟩
  · rcases addFormulaIn_files_cases files f expression label with same | same <;> rw [same]
    · exact .refl files
    · exact (evaluateIn_files files f (normalize expression)).1
  · rcases addFormulaIn_files_cases files f expression label with same | same <;> rw [same]
    exact evaluateIn_silent parsed free

/-- **Filters and formulas delete no file, and an expression that reads no attribute writes
none.** From any files, the files after a filter or a formula are those before, in their order,
followed by new ones, all distinct when those before were; and when the expression, as it is
evaluated, has no attribute access, they are exactly those before. -/
theorem evaluation_files (files : List String) (f : Frame) (expression : String) (label : Cell) :
    FileGrowth files (filterRowsIn files f expression).2 ∧
      FileGrowth files (addFormulaIn files f expression label).2 ∧
      ∀ tree, evaluatedTree expression = some tree → tree.attributeFree = true →
        (filterRowsIn files f expression).2 = files ∧
          (addFormulaIn files f expression label).2 = files :=
  ⟨(filterRowsIn_files files f expression).1, (addFormulaIn_files files f expression label).1,
    fun tree parsed free => ⟨(filterRowsIn_files files f expression).2 tree parsed free,
      (addFormulaIn_files files f expression label).2 tree parsed free⟩⟩

end Dataflow.Eval
