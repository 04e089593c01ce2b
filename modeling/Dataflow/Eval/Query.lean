import Dataflow.Eval.Build
import Dataflow.Eval.Preparse
import Dataflow.Expr.Check
import Dataflow.Expr.Normal
import Dataflow.Expr.Parser
import Dataflow.Table.Frame
/-!
# Filters and formulas

A filter keeps the rows of a table for which an expression holds; a formula adds a column
computed by an expression. Both first check the expression (`Dataflow.Expr.validate`) and
bring it to normal form (`Dataflow.Expr.normalize`).

Before it is parsed for evaluation, `&` and `|` in the expression are read as the words `and`
and `or` — so they bind as loosely as those words — and `@` marks a local name, which no
expression here can use.

The value of a filter expression selects rows: a series of truth values keeps the rows where
it is true; other values are taken as row labels to look up, and failing that as column
labels. What they select may be a single row or column, which is then a series. A series of
truth values with labels of its own is first put at the rows by label, and must have a value
for every row.

The value of a formula becomes a column: a series with labels of its own is put at the rows
by label (`Labelled.atRows`), and a table of one column gives that column.

A filter is a query first: the expression is evaluated and its value taken at the rows, or among
the columns when the rows refuse it as a value error. When the query fails, the expression is
evaluated a second time and its value taken among the columns. Evaluations write the files their
calls write (`Dataflow.Eval.writtenFile`), so a second evaluation meets the files of the first;
`filterRowsIn` and `addFormulaIn` give the files that exist afterwards.
-/

namespace Dataflow.Eval

open Dataflow.Expr

/-- The variables an expression sees: the columns by their text labels (the last of equal
labels wins), then the row labels as `index` and `ilevel_0`, `ilevel_1`, ..., and the column
labels as `columns`. -/
def scopeOf (f : Frame) : Scope :=
  let named := f.columns.filterMap fun (l, c) => match l with
    | .str s => some (s, c)
    | _ => none
  let keys := named.foldl (fun (acc : List String) (k, _) => if acc.contains k then acc else acc ++ [k]) []
  let vars := keys.map fun k =>
    (k, Obj.labelled ⟨(named.reverse.lookup k).getD (.object #[]), .rows, .str k⟩)
  let rows := f.index.headD (Column.range 0)
  let levels := f.index.zipIdx.map fun (c, i) => (s!"ilevel_{i}", Obj.labelled ⟨c, .rows, .none⟩)
  let labels := Column.ofCells f.labels.toArray
  let columnSeries := Obj.labelled ⟨labels, .labels labels, .none⟩
  let extra := [("index", Obj.labelled ⟨rows, .rows, .none⟩)] ++ levels ++
    [("columns", columnSeries), ("clevel_0", columnSeries)]
  let vars := vars ++ extra.filter fun (k, _) => !keys.contains k
  ⟨vars, rows, []⟩

/-- Whether a keyword stands as a word of its own, between blanks, in a text. -/
def keywordWord (s : String) : Bool :=
  (s.split Text.isBlank).any fun w => keywords.contains w.toString

/-- Evaluates an expression in normal form over a table, with the files that exist; gives the
value and the files that exist afterwards, also when the evaluation fails. -/
def evaluateIn (files : List String) (f : Frame) (expr : String) : Outcome Obj × List String :=
  let clean := preparse expr
  match parseLexed (lex clean) with
  | .error e =>
    let msg := if keywordWord clean then "Python keyword not valid identifier in numexpr query"
      else e.message
    (fail .badSyntax s!"{msg} (<unknown>, line {e.line})", files)
  | .ok tree =>
    let fuel := 4 * expr.length + 16
    let (built, st) := Id.run (((visit fuel tree).run).run { scopeOf f with files })
    (built >>= fun node => node.eval st.rowLabels, st.files)

/-! ### Selecting by the value of an expression -/

/-- A mask from a value, if it is one: a series of truth values, or of mixed values that are
all truth values. Mixed values that are truth values where present cannot mask. -/
def maskOf (rows : Nat) (v : Obj) : Outcome (Option (Array Bool)) :=
  let naMessage := "Cannot mask with non-boolean array containing NA / NaN values"
  match v with
  | .series (.bool bs) => .ok (some bs)
  | .series (.object cs) =>
    if cs.all (fun c => c matches .bool _) then .ok (some (cs.map Cell.truthy))
    else if cs.all (fun c => c matches .bool _ || c.isNull) then fail .value naMessage
    else .ok none
  | .list items =>
    let cs := items.map fun o => (o.cell?).getD .none
    if !cs.isEmpty && cs.all (fun c => c matches .bool _) then
      if cs.length != rows then
        fail .index s!"Boolean index has wrong length: {cs.length} instead of {rows}"
      else .ok (some (cs.map Cell.truthy).toArray)
    else .ok none
  | _ => .ok none

/-- One row as a series: its values in the common storage of the columns, labelled by the
column labels, named by the row label. -/
def rowSeries (f : Frame) (i : Nat) : Series :=
  let kinds := f.columns.map fun (_, c) => c.dtype
  let cells := (f.columns.map fun (_, c) => c.cell i).toArray
  let values : Column :=
    match kinds with
    | [] => .object #[]
    | k :: rest =>
      if rest.all (· == k) then
        match k with
        | .int64 => .int64 (cells.map fun c => (c.asInt?).getD 0)
        | .uint64 => .uint64 (cells.map fun c => ((c.asInt?).getD 0).toNat)
        | .float64 => .float64 (Column.object cells).floats
        | .bool => .bool (cells.map Cell.truthy)
        | .object => .object cells
        | .complex128 => .complex128 (cells.map Cell.complexParts)
        | .float16 => .float16 (Column.object cells).floats
      else if kinds.all (fun d => d == .int64 || d == .uint64 || d == .float64 || d == .float16) then
        .float64 (Column.object cells).floats
      else if kinds.all (fun d => d == .int64 || d == .uint64 || d == .float64 || d == .float16 ||
          d == .complex128) then
        .complex128 (cells.map Cell.complexParts)
      else .object cells
  ⟨(f.rowLabel i).headD .none, values, Column.ofCells f.labels.toArray⟩

/-- The rows of a table selected by the value of an expression, as row labels go. -/
def locate (f : Frame) (v : Obj) : Outcome Selection := do
  let rows := f.index.headD (Column.range 0)
  match ← maskOf f.rows v with
  | some mask =>
    if mask.size != f.rows then
      fail .index s!"Boolean index has wrong length: {mask.size} instead of {f.rows}"
    else return .frame (f.selectRows mask)
  | none =>
    match v with
    | .series c =>
      let (hits, missing) := lookupRows rows c.cells.toList
      if !missing.isEmpty then .error (missingKeys c missing "index")
      else return .frame (f.takeRows hits)
    | .list items =>
      let keys := listColumn items
      let (hits, missing) := lookupRows rows keys.cells.toList
      if !missing.isEmpty then .error (missingKeys keys missing "index")
      else return .frame (f.takeRows hits)
    | _ => match v.cell? with
      | some (.bool b) =>
        let word := if b then "True" else "False"
        fail .key s!"{word}: boolean label can not be used without a boolean index"
      | some k =>
        let hits := (List.range rows.size).filter fun i => rows.cell i == k
        match hits with
        | [] => fail .key k.repr
        | [i] => return .series (rowSeries f i)
        | _ => return .frame (f.takeRows hits.toArray)
      | none => typeError s!"unhashable type: '{v.className}'"

/-- The columns of a table selected by the value of an expression, as column labels go; a
series of truth values selects rows. -/
def pick (f : Frame) (v : Obj) : Outcome Selection := do
  match ← maskOf f.rows v with
  | some mask =>
    if mask.size != f.rows then
      fail .value s!"Item wrong length {mask.size} instead of {f.rows}."
    else return .frame (f.selectRows mask)
  | none =>
    let labels := Column.ofCells f.labels.toArray
    let columnsFor (keys : Column) : Outcome Selection :=
      let (hits, missing) := lookupRows labels keys.cells.toList
      if !missing.isEmpty then .error (missingKeys keys missing "columns")
      else .ok (.frame ⟨hits.toList.map fun i => f.columns.getD i (.none, .object #[]), f.index⟩)
    match v with
    | .series c => columnsFor c
    | .list items => columnsFor (listColumn items)
    | _ => match v.cell? with
      | some k =>
        let hits := (List.range f.columns.length).filter fun i => (f.labels.getD i .none) == k
        match hits with
        | [] => fail .key k.repr
        | [i] =>
          let (l, c) := f.columns.getD i (.none, .object #[])
          return .series ⟨l, c, f.index.headD (Column.range 0)⟩
        | _ => return .frame ⟨hits.map fun i => f.columns.getD i (.none, .object #[]), f.index⟩
      | none => typeError s!"unhashable type: '{v.className}'"

/-! ### Filters and formulas -/

/-- The value of a filter expression as selections take it: a series of truth values with
labels of its own put at the rows, failing when some row has no label in it; any other series
by its values. -/
def selectorOf (rows : Column) (v : Obj) : Outcome Obj :=
  match v with
  | .labelled ⟨c, .labels l, _⟩ =>
    if c.dtype == .bool && !sameLabels l rows then
      if hasDuplicates l then fail .value "cannot reindex on an axis with duplicate labels"
      else
        let ps := (Array.range rows.size).map fun i => findLabel l (rows.cell i)
        if ps.all Option.isSome then .ok (.series (pickOrMissing c ps))
        else fail .index "Unalignable boolean Series provided as indexer (index of the boolean Series and of the indexed object do not match)."
    else .ok (.series c)
  | .labelled s => .ok (.series s.values)
  | v => .ok v

/-- Checks an expression, failing with the reason of a refusal. -/
def checkExpression (expression : String) : Outcome Unit := do
  match ← validate expression with
  | .accepted => pure ()
  | .refused reason => fail .expression reason

/-- The rows (or the row or column) of a table that a filter expression selects, with the files
that exist before and after. The query evaluates the expression and takes its value at the rows
by label, or, when the rows refuse it as a value error, among the columns; when the query fails,
the expression is evaluated again and its value taken among the columns. -/
def filterRowsIn (files : List String) (f : Frame) (expression : String) :
    Outcome Selection × List String :=
  match checkExpression expression with
  | .error e => (.error e, files)
  | .ok () =>
    let expr := normalize expression
    let rows := f.index.headD (Column.range 0)
    let (first, files) := evaluateIn files f expr
    let queried : Outcome Selection := do
      let v ← first >>= selectorOf rows
      match locate f v with
      | .ok s => pure s
      | .error e => if e.kind == .value then pick f v else .error e
    match queried with
    | .ok s => (.ok s, files)
    | .error _ =>
      let (second, files) := evaluateIn files f expr
      match second >>= selectorOf rows >>= pick f with
      | .ok s => (.ok s, files)
      | .error e => (fail .expression s!"Failed to evaluate filter: {e.message}", files)

/-- The rows (or the row or column) of a table that a filter expression selects, when no file
it names exists. -/
def filterRows (f : Frame) (expression : String) : Outcome Selection :=
  (filterRowsIn [] f expression).1

/-- The column a value makes when it is assigned to the column `label` of a table: a series
with labels of its own is put at the rows by label, and a table must have one column. -/
def columnOf (f : Frame) (label : Cell) (v : Obj) : Outcome Column :=
  let rows := f.rows
  let rowLabels := f.index.headD (Column.range 0)
  let fill (c : Cell) : Column := match c with
    | .int i =>
      if fitsInt64 i then .int64 (Array.replicate rows i)
      else if fitsUInt64 i then .uint64 (Array.replicate rows i.toNat)
      else .object (Array.replicate rows c)
    | .float x => .float64 (Array.replicate rows x)
    | .bool b => .bool (Array.replicate rows b)
    | .complex re im => .complex128 (Array.replicate rows (re, im))
    | c => .object (Array.replicate rows c)
  let sized (c : Column) : Outcome Column :=
    if c.size == rows then .ok c
    else fail .value s!"Length of values ({c.size}) does not match length of index ({rows})"
  match v with
  | .series c => sized c
  | .labelled ⟨c, .labels l, _⟩ => if rows == 0 then sized c else reindex c l rowLabels
  | .labelled s => sized s.values
  | .frame columns frameRows =>
    match columns with
    | [(_, c)] => if rows == 0 then sized c else reindex c frameRows rowLabels
    | _ =>
      if f.hasLabel label then fail .value "Columns must be same length as key"
      else if columns.isEmpty then
        fail .value s!"Cannot set a DataFrame without columns to the single column {label.text}"
      else fail .value s!"Cannot set a DataFrame with multiple columns to the single column {label.text}"
  | .plain c => .ok (fill c)
  | .fixed x => .ok (match x with
    | .int64 i => .int64 (Array.replicate rows i)
    | .float64 g => .float64 (Array.replicate rows g)
    | .bool b => .bool (Array.replicate rows b)
    | .float16 g => .float16 (Array.replicate rows g))
  | .list items =>
    if items.length == rows then .ok (listColumn items)
    else fail .value s!"Length of values ({items.length}) does not match length of index ({rows})"
  | .indexer how s =>
    let t := (Obj.indexer how s).leafText rowLabels
    .ok (.object (Array.replicate rows (.other how.className t t)))
  | .method s name =>
    if s.isArray then
      let t := s!"<built-in method {name} of numpy.ndarray object at 0x?>"
      .ok (.object (Array.replicate rows (.other "builtin_function_or_method" t t)))
    else
      let t := s!"<bound method {methodQualname name} of {(Obj.labelled s).leafText rowLabels}>"
      .ok (.object (Array.replicate rows (.other "method" t t)))
  | .textMethod _ name =>
    let t := s!"<bound method StringMethods.{name} of <pandas.core.strings.accessor.StringMethods object at 0x?>>"
    .ok (.object (Array.replicate rows (.other "method" t t)))
  | .cellMethod self name =>
    let t := s!"<built-in method {name} of {self.typeName} object at 0x?>"
    .ok (.object (Array.replicate rows (.other "builtin_function_or_method" t t)))
  | .ellipsis => .ok (.object (Array.replicate rows (.other "ellipsis" "Ellipsis" "Ellipsis")))
  | .window w _ => typeError s!"object of type '{w.shortName}' has no len()"
  | .textMethods _ => typeError "object of type 'StringMethods' has no len()"
  | o => .ok (.object (Array.replicate rows (.str o.className)))

/-- The table with a column computed by a formula expression, with the files that exist before
and after. -/
def addFormulaIn (files : List String) (f : Frame) (expression : String) (label : Cell) :
    Outcome Frame × List String :=
  match checkExpression expression with
  | .error e => (.error e, files)
  | .ok () =>
    let (value, files) := evaluateIn files f (normalize expression)
    match value >>= columnOf f label with
    | .error e => (fail .expression s!"Failed to evaluate formula: {e.message}", files)
    | .ok c => (.ok (f.setColumn label c), files)

/-- The table with a column computed by a formula expression, when no file it names exists. -/
def addFormula (f : Frame) (expression : String) (label : Cell) : Outcome Frame :=
  (addFormulaIn [] f expression label).1

end Dataflow.Eval
