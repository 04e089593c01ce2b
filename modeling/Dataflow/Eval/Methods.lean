import Dataflow.Eval.Window
import Dataflow.Eval.Export
import Dataflow.Eval.Locate
import Dataflow.Eval.Template
import Dataflow.Number.Twister
import Dataflow.Eval.Convert
import Dataflow.Eval.TextColumn
import Dataflow.Regex.Match
import Dataflow.Number.Elementary
import Dataflow.Number.ComplexFunctions
import Dataflow.Number.Rounded
import Dataflow.Number.Tangent
/-!
# Attributes, text methods and functions of values

The attributes of values that expressions may use: the methods and properties of series
(`Dataflow.Eval.Series`), the text methods of series of texts, and the mathematical functions
that expressions may call by name.
-/

namespace Dataflow.Eval

open Dataflow.Text

/-! ### Attributes and calls -/

/-- Whether values are in order, each at least (or, `decreasing`, at most) the one before;
missing values and values without an order between them make it false. -/
def isMonotonic (decreasing : Bool) (c : Column) : Bool :=
  let cells := c.cells.toList
  !cells.any Cell.isNull &&
    (cells.zip (cells.drop 1)).all fun (a, b) =>
      match a.order b with
      | .ok (some o) => if decreasing then o != .lt else o != .gt
      | _ => false

/-- The storage kind of a column as a value: the class of the kind, its name, and its literal
form. -/
def dtypeCell (d : DType) : Cell :=
  let cls := match d with
    | .int64 => "Int64DType"
    | .uint64 => "UInt64DType"
    | .float64 => "Float64DType"
    | .bool => "BoolDType"
    | .object => "ObjectDType"
    | .complex128 => "Complex128DType"
    | .float16 => "Float16DType"
  let short := if d == .object then "O" else d.name
  .other cls d.name s!"dtype('{short}')"

/-- The number of bytes a column's values take. -/
def columnBytes (c : Column) : Nat :=
  match c with
  | .bool _ => c.size
  | .complex128 _ => 16 * c.size
  | .float16 _ => 2 * c.size
  | _ => 8 * c.size

/-- A property of a series, if series have one of that name; `labels` are its labels. -/
def seriesProperty (labels : Column) (s : Labelled) (name : String) : Option Obj :=
  let c := s.values
  match name with
  | "values" | "array" => some (.labelled (Labelled.array c))
  | "T" => some (.labelled s)
  | "index" => some (.labelled (Labelled.array labels))
  | "name" => some (.plain s.name)
  | "dtype" | "dtypes" => some (.plain (dtypeCell c.dtype))
  | "size" => some (.plain (.int c.size))
  | "shape" => some (.list [.plain (.int c.size)])
  | "ndim" => some (.plain (.int 1))
  | "empty" => some (.plain (.bool (c.size == 0)))
  | "hasnans" => some (.plain (.bool (c.nulls.any id)))
  | "is_unique" => some (.plain (.bool (distinctCount c false == c.size)))
  | "is_monotonic_increasing" => some (.plain (.bool (isMonotonic false c)))
  | "is_monotonic_decreasing" => some (.plain (.bool (isMonotonic true c)))
  | "nbytes" => some (.plain (.int (columnBytes c)))
  | "loc" => some (.indexer .labels s)
  | "iloc" => some (.indexer .positions s)
  | "at" => some (.indexer .label s)
  | "iat" => some (.indexer .position s)
  | "axes" => some (.list [.labelled (Labelled.array labels)])
  | "attrs" => some (.labelled ⟨.object #[], .labels (.object #[]), .none⟩)
  | "flags" =>
    let t := "<Flags(allows_duplicate_labels=True)>"
    some (.plain (.other "Flags" t t))
  | "plot" =>
    let t := "<pandas.plotting._core.PlotAccessor object at 0x?>"
    some (.plain (.other "PlotAccessor" t t))
  | _ => none

/-- The failure of an accessor that series of this storage do not have. -/
def accessorRefusal (c : Column) (name : String) : Option Failure :=
  match name with
  | "cat" => some ⟨.attribute, "Can only use .cat accessor with a 'category' dtype"⟩
  | "dt" => some ⟨.attribute, "Can only use .dt accessor with datetimelike values"⟩
  | "sparse" => some ⟨.attribute, "Can only use the '.sparse' accessor with Sparse data."⟩
  | "list" =>
    some ⟨.attribute, s!"Can only use the '.list' accessor with 'list[pyarrow]' dtype, not {c.dtype.name}."⟩
  | "struct" =>
    some ⟨.attribute, s!"Can only use the '.struct' accessor with 'struct[pyarrow]' dtype, not {c.dtype.name}."⟩
  | _ => none

/-- A property of an array, if arrays have one of that name. -/
def arrayProperty (s : Labelled) (name : String) : Option Obj :=
  let c := s.values
  match name with
  | "T" => some (.labelled s)
  | "dtype" => some (.plain (dtypeCell c.dtype))
  | "size" => some (.plain (.int c.size))
  | "shape" => some (.list [.plain (.int c.size)])
  | "ndim" => some (.plain (.int 1))
  | "nbytes" => some (.plain (.int (columnBytes c)))
  | "itemsize" => some (.plain (.int (columnBytes (c.take #[0]))))
  | _ => none

/-! ### Methods of series -/

/-- The parameter list of a method that makes a moving window. -/
def windowMaker (name : String) : Option Signature :=
  match name with
  | "rolling" =>
    some (seriesMethod "NDFrame.rolling"
      ["window", "min_periods", "center", "win_type", "on", "axis", "closed", "step", "method"] 1 false false)
  | "expanding" => some (seriesMethod "NDFrame.expanding" ["min_periods", "axis", "method"] 0 false false)
  | "ewm" =>
    some (seriesMethod "NDFrame.ewm"
      ["com", "span", "halflife", "alpha", "min_periods", "adjust", "ignore_na", "axis", "times",
       "method"] 0 false false)
  | _ => none

/-- Whether series have a method of a name. -/
def hasSeriesMethod (name : String) : Bool :=
  isSeriesMethod name || (orderSignature name).isSome || (convertSignature name).isSome ||
    (windowMaker name).isSome

/-- The parameter lists of the methods of series that combine other methods. -/
def furtherSignature (name : String) : Option Signature :=
  match name with
  | "autocorr" => some (seriesMethod "Series.autocorr" ["lag"] 0 false false)
  | "divmod" | "rdivmod" =>
    some (seriesMethod s!"Series.{name}" ["other", "level", "fill_value", "axis"] 1 false false)
  | "view" => some (seriesMethod "Series.view" ["dtype"] 0 false false)
  | "update" => some (seriesMethod "Series.update" ["other"] 1 false false)
  | "combine_first" => some (seriesMethod "Series.combine_first" ["other"] 1 false false)
  | "searchsorted" => some (seriesMethod "IndexOpsMixin.searchsorted" ["value", "side", "sorter"] 1 false false)
  | "factorize" => some (seriesMethod "IndexOpsMixin.factorize" ["sort", "use_na_sentinel"] 0 false false)
  | "explode" => some (seriesMethod "Series.explode" ["ignore_index"] 0 false false)
  | "to_string" =>
    some (seriesMethod "Series.to_string"
      ["buf", "na_rep", "float_format", "header", "index", "length", "dtype", "name", "max_rows",
       "min_rows"] 0 false false)
  | "to_csv" =>
    some (seriesMethod "NDFrame.to_csv"
      ["path_or_buf", "sep", "na_rep", "float_format", "columns", "header", "index", "index_label",
       "mode", "encoding", "compression", "quoting", "quotechar", "lineterminator", "chunksize",
       "date_format", "doublequote", "escapechar", "decimal", "errors", "storage_options"] 0 false false)
  | "to_json" =>
    some (seriesMethod "NDFrame.to_json"
      ["path_or_buf", "orient", "date_format", "double_precision", "force_ascii", "date_unit",
       "default_handler", "lines", "compression", "index", "indent", "storage_options", "mode"] 0 false false)
  | "to_dict" => some ⟨"Series.to_dict", ["self"], 1, [("into", true)], false, false⟩
  | "to_markdown" =>
    some (seriesMethod "Series.to_markdown" ["buf", "mode", "index", "storage_options"] 0 false true)
  | "drop" =>
    some ⟨"Series.drop", ["self", "labels"], 1,
      [("axis", true), ("index", true), ("columns", true), ("level", true), ("inplace", true),
       ("errors", true)], false, false⟩
  | "pop" => some (seriesMethod "Series.pop" ["item"] 1 false false)
  | "info" =>
    some (seriesMethod "Series.info" ["verbose", "buf", "max_cols", "memory_usage", "show_counts"] 0 false false)
  | "memory_usage" => some (seriesMethod "Series.memory_usage" ["index", "deep"] 0 false false)
  | "compare" =>
    some (seriesMethod "Series.compare"
      ["other", "align_axis", "keep_shape", "keep_equal", "result_names"] 1 false false)
  | "align" =>
    some (seriesMethod "NDFrame.align"
      ["other", "join", "axis", "level", "copy", "fill_value", "method", "limit", "fill_axis",
       "broadcast_axis"] 1 false false)
  | "map" => some (seriesMethod "Series.map" ["arg", "na_action"] 1 false false)
  | "filter" => some (seriesMethod "NDFrame.filter" ["items", "like", "regex", "axis"] 0 false false)
  | "reindex" =>
    some ⟨"Series.reindex", ["self", "index"], 1,
      [("axis", true), ("method", true), ("copy", true), ("level", true), ("fill_value", true),
       ("limit", true), ("tolerance", true)], false, false⟩
  | "reindex_like" =>
    some (seriesMethod "NDFrame.reindex_like" ["other", "method", "copy", "limit", "tolerance"] 1 false false)
  | "set_axis" => some ⟨"Series.set_axis", ["self", "labels"], 2, [("axis", true), ("copy", true)], false, false⟩
  | "take" => some (seriesMethod "NDFrame.take" ["indices", "axis"] 1 false true)
  | "truncate" => some (seriesMethod "NDFrame.truncate" ["before", "after", "axis", "copy"] 0 false false)
  | "xs" => some (seriesMethod "NDFrame.xs" ["key", "axis", "level", "drop_level"] 1 false false)
  | "ravel" => some (seriesMethod "Series.ravel" ["order"] 0 false false)
  | "rename_axis" =>
    some ⟨"Series.rename_axis", ["self", "mapper"], 1,
      [("index", true), ("axis", true), ("copy", true), ("inplace", true)], false, false⟩
  | "set_flags" =>
    some ⟨"NDFrame.set_flags", ["self"], 1, [("copy", true), ("allows_duplicate_labels", true)], false, false⟩
  | "bool" => some (seriesMethod "NDFrame.bool" [] 0 false false)
  | "to_period" => some (seriesMethod "Series.to_period" ["freq", "copy"] 0 false false)
  | "to_timestamp" => some (seriesMethod "Series.to_timestamp" ["freq", "how", "copy"] 0 false false)
  | "tz_convert" => some (seriesMethod "NDFrame.tz_convert" ["tz", "axis", "level", "copy"] 1 false false)
  | "tz_localize" =>
    some (seriesMethod "NDFrame.tz_localize"
      ["tz", "axis", "level", "copy", "ambiguous", "nonexistent"] 1 false false)
  | "unstack" => some (seriesMethod "Series.unstack" ["level", "fill_value", "sort"] 0 false false)
  | "first" | "last" => some (seriesMethod s!"NDFrame.{name}" ["offset"] 1 false false)
  | "resample" =>
    some (seriesMethod "Series.resample"
      ["rule", "axis", "closed", "label", "convention", "kind", "on", "level", "origin", "offset",
       "group_keys"] 1 false false)
  | "reorder_levels" => some (seriesMethod "Series.reorder_levels" ["order"] 1 false false)
  | "droplevel" => some (seriesMethod "NDFrame.droplevel" ["level", "axis"] 1 false false)
  | "swaplevel" => some (seriesMethod "Series.swaplevel" ["i", "j", "copy"] 0 false false)
  | "swapaxes" => some (seriesMethod "NDFrame.swapaxes" ["axis1", "axis2", "copy"] 2 false false)
  | "to_xarray" => some (seriesMethod "NDFrame.to_xarray" [] 0 false false)
  | "to_pickle" =>
    some (seriesMethod "NDFrame.to_pickle" ["path", "compression", "protocol", "storage_options"] 1 false false)
  | "to_hdf" =>
    some ⟨"NDFrame.to_hdf", ["self", "path_or_buf", "key"], 3,
      [("mode", true), ("complevel", true), ("complib", true), ("append", true), ("format", true),
       ("index", true), ("min_itemsize", true), ("nan_rep", true), ("dropna", true),
       ("data_columns", true), ("errors", true), ("encoding", true)], false, false⟩
  | "to_excel" =>
    some (seriesMethod "NDFrame.to_excel"
      ["excel_writer", "sheet_name", "na_rep", "float_format", "columns", "header", "index",
       "index_label", "startrow", "startcol", "engine", "merge_cells", "inf_rep", "freeze_panes",
       "storage_options", "engine_kwargs"] 1 false false)
  | "hist" =>
    some (seriesMethod "hist_series"
      ["by", "ax", "grid", "xlabelsize", "xrot", "ylabelsize", "yrot", "figsize", "bins", "backend",
       "legend"] 0 false true)
  | "pipe" => some (seriesMethod "NDFrame.pipe" ["func"] 1 true true)
  | "case_when" => some (seriesMethod "Series.case_when" ["caselist"] 1 false false)
  | "items" => some (seriesMethod "Series.items" [] 0 false false)
  | "sample" =>
    some (seriesMethod "NDFrame.sample"
      ["n", "frac", "replace", "weights", "random_state", "axis", "ignore_index"] 0 false false)
  | "asof" => some (seriesMethod "NDFrame.asof" ["where", "subset"] 1 false false)
  | "at_time" => some (seriesMethod "NDFrame.at_time" ["time", "asof", "axis"] 1 false false)
  | "between_time" =>
    some (seriesMethod "NDFrame.between_time" ["start_time", "end_time", "inclusive", "axis"] 2 false false)
  | "to_latex" =>
    some (seriesMethod "NDFrame.to_latex"
      ["buf", "columns", "header", "index", "na_rep", "formatters", "float_format", "sparsify",
       "index_names", "bold_rows", "column_format", "longtable", "escape", "encoding", "decimal",
       "multicolumn", "multicolumn_format", "multirow", "caption", "label", "position"] 0 false false)
  | "combine" => some (seriesMethod "Series.combine" ["other", "func", "fill_value"] 2 false false)
  | _ => none

/-- Whether series have a method of a name, the ones that call others by name included. -/
def seriesHasMethod (name : String) : Bool :=
  hasSeriesMethod name || name == "agg" || name == "aggregate" || name == "apply" ||
    name == "transform" || name == "describe" || (furtherSignature name).isSome

/-- The methods of arrays, and the method of series each behaves like. -/
def arrayMethod (name : String) : Option String :=
  match name with
  | "sum" | "prod" | "min" | "max" | "mean" | "std" | "var" | "any" | "all" | "argmax"
  | "argmin" | "cumsum" | "cumprod" | "round" | "tolist" | "item" | "astype" | "copy"
  | "clip" | "transpose" => some name
  | "ravel" | "flatten" => some "copy"
  | _ => none

/-- Whether arrays have a method of a name. -/
def isArrayMethod (name : String) : Bool := (arrayMethod name).isSome

/-- Calls a method of an array: as the series method, but missing values are not skipped and
spreads divide by the count itself. -/
def callArray (c : Column) (name : String) (args : List Obj) (named : List (String × Obj)) :
    Outcome Obj := do
  let method := (arrayMethod name).getD name
  let unskipped := ["sum", "prod", "min", "max", "mean", "std", "var", "any", "all", "argmax",
    "argmin", "cumsum", "cumprod"]
  let named := if unskipped.contains method && !(named.any (·.1 == "skipna")) then
      named ++ [("skipna", .plain (.bool false))] else named
  let named := if (method == "std" || method == "var") && !(named.any (·.1 == "ddof")) then
      named ++ [("ddof", .plain (.int 0))] else named
  if let some sig := convertSignature method then
    let b ← sig.bind args named
    return (Labelled.array c).wrap (← callConvert (Column.range c.size) (Labelled.array c) method b)
  return (Labelled.array c).wrap (← callPlainSeries (Column.range c.size) c method args named)

/-! ### Mathematical functions -/

/-- The functions that expressions may call by name. -/
def mathFunctions : List String :=
  ["sin", "cos", "exp", "log", "expm1", "log1p", "sqrt", "sinh", "cosh", "tanh", "arcsin",
   "arccos", "arctan", "arccosh", "arcsinh", "arctanh", "abs", "log10", "floor", "ceil",
   "arctan2"]

/-- The float function of a name: the trigonometric functions and their inverses from the C
library, the hyperbolic tangent from its table, and the other exponentials, logarithms and
hyperbolic functions correctly rounded, as the vectorised loops give them. -/
def floatFunction (name : String) : Float → Float :=
  match name with
  | "sin" => Float.sin | "cos" => Float.cos | "exp" => Number.Rounded.exp
  | "log" => Number.Rounded.log | "expm1" => Number.Rounded.expm1
  | "log1p" => Number.Rounded.log1p | "sqrt" => Float.sqrt | "sinh" => Number.Rounded.sinh
  | "cosh" => Number.Rounded.cosh | "tanh" => Number.tanh | "arcsin" => Float.asin
  | "arccos" => Float.acos | "arctan" => Float.atan | "arccosh" => Number.Rounded.acosh
  | "arcsinh" => Number.Rounded.asinh | "arctanh" => Number.Rounded.atanh
  | "log10" => Number.Rounded.log10 | "floor" => Float.floor | "ceil" => Float.ceil
  | _ => Float.abs

/-- The failure of a function that has no loop for the values' type. -/
def noLoop {α : Type} (name : String) : Outcome α :=
  typeError s!"ufunc '{name}' not supported for the input types, and the inputs could not be safely coerced to any supported types according to the casting rule ''safe''"

/-- Applies a one-argument mathematical function to a column: truth values and
half-precision floats give half-precision floats, computed in single precision; other numbers
give doubles. -/
def mathColumn (name : String) (c : Column) : Outcome Column :=
  if name == "abs" then absColumn c
  else match c with
    | .complex128 vs => match Number.complexFunction? name with
      | some f => .ok (.complex128 (vs.map f))
      | none => noLoop name
    | .object vs =>
      let first := (vs.getD 0 .none).typeName
      typeError s!"loop of ufunc does not support argument 0 of type {first} which has no callable {name} method"
    | .bool _ | .float16 _ => .ok (.float16 (c.floats.map fun v => Decimal.toHalf (floatFunction name v)))
    | c => .ok (.float64 (c.floats.map (floatFunction name)))

/-- Applies a one-argument mathematical function to a value. -/
def applyMath (name : String) (x : Obj) : Outcome Obj :=
  match x with
  | .series c => (mathColumn name c).map .series
  | .plain (.float f) | .fixed (.float64 f) =>
    .ok (.fixed (.float64 ((floatFunction name) f)))
  | .fixed (.float16 f) =>
    .ok (.fixed (.float16 (if name == "abs" then f.abs else Decimal.toHalf ((floatFunction name) f))))
  | .plain (.complex re im) =>
    if name == "abs" then .ok (.fixed (.float64 (Number.hypot re im)))
    else match Number.complexFunction? name with
      | some f => let (re, im) := f (re, im); .ok (.plain (.complex re im))
      | none => noLoop name
  | .plain (.bool b) | .fixed (.bool b) =>
    if name == "abs" then .ok (.fixed (.bool b))
    else .ok (.fixed (.float16 (Decimal.toHalf ((floatFunction name) (if b then 1.0 else 0.0)))))
  | .plain _ | .fixed (.int64 _) =>
    let cell := (x.cell?).getD .none
    match cell.asInt? with
    | some i =>
      if name == "abs" then .ok (.fixed (.int64 (wrap64 i.natAbs)))
      else .ok (.fixed (.float64 ((floatFunction name) (Decimal.intToFloat i))))
    | none => typeError s!"loop of ufunc does not support argument 0 of type {cell.typeName} which has no callable {name} method"
  | .list items =>
    let col := listColumn items
    match col with
    | .object _ => typeError s!"loop of ufunc does not support argument 0 of type list which has no callable {name} method"
    | c => (mathColumn name c).map .series
  | o => typeError s!"loop of ufunc does not support argument 0 of type {o.className} which has no callable {name} method"

/-- An argument of a two-argument function as an operand of promotion: series and
fixed-width scalars are strong, plain scalars weak. -/
def mathOperand (o : Obj) : Operand :=
  match o with
  | .series c => .col c
  | .fixed x => .strong x
  | o => .weak ((o.cell?).getD .none)

/-- Whether the angle of two arguments is computed in half precision: when they promote to
truth values or half-precision floats. -/
def arctanInHalf (y x : Obj) : Bool :=
  match resultKind (mathOperand y) (mathOperand x) with
  | .half => true
  | .bool => true
  | .object => y.isBool && x.isBool
  | _ => false

/-- Applies a mathematical function to its arguments. -/
def callMath (name : String) (args : List Obj) : Outcome Obj :=
  match name, args with
  | "arctan2", [y, x] =>
    let isComplex (o : Obj) : Bool := match o with
      | .series (.complex128 _) | .plain (.complex _ _) => true
      | _ => false
    if isComplex y || isComplex x then noLoop "arctan2" else
    let half := arctanInHalf y x
    let column (vs : Array Float) : Column :=
      if half then .float16 (vs.map Decimal.toHalf) else .float64 vs
    match y, x with
    | .series a, .series b => .ok (.series (column (Array.zipWith Float.atan2 a.floats b.floats)))
    | .series a, s => match s.cell? with
      | some v => .ok (.series (column (a.floats.map fun f => Float.atan2 f ((Column.object #[v]).floats.getD 0 0.0))))
      | none => noLoop "arctan2"
    | s, .series b => match s.cell? with
      | some v => .ok (.series (column (b.floats.map fun f => Float.atan2 ((Column.object #[v]).floats.getD 0 0.0) f)))
      | none => noLoop "arctan2"
    | s, t => match s.cell?, t.cell? with
      | some a, some b =>
        let v := Float.atan2 ((Column.object #[a]).floats.getD 0 0.0) ((Column.object #[b]).floats.getD 0 0.0)
        .ok (.fixed (if half then .float16 (Decimal.toHalf v) else .float64 v))
      | _, _ => noLoop "arctan2"
  | "arctan2", _ => typeError s!"arctan2() takes from 2 to 3 positional arguments but {args.length} were given"
  | _, [x] => applyMath name x
  | _, _ => typeError s!"{name}() takes from 1 to 2 positional arguments but {args.length} were given"

/-- Calls a method of a series with the arguments of a call. -/
def callSeriesMethod (rows : Column) (s : Labelled) (name : String) (args : List Obj)
    (named : List (String × Obj)) : Outcome Obj := do
  if s.isArray then return ← callArray s.values name args named
  let labels := s.index rows
  if let some sig := orderSignature name then
    let b ← sig.bind args named
    return s.wrap (← callOrdered labels s name b)
  if let some sig := convertSignature name then
    let b ← sig.bind args named
    return s.wrap (← callConvert labels s name b)
  if let some sig := windowMaker name then
    let b ← sig.bind args named
    let w ← match name with
      | "rolling" => makeRolling b
      | "expanding" => makeExpanding b
      | _ => makeWeighted b
    return .window w s
  return s.wrap (← callPlainSeries labels s.values name args named)

/-- A method of a plain value applied to each value of a series, as `map` and `apply` apply a
function: each value is passed first, as a plain value, and the results are stored by their
kinds. Missing values are kept as they are with `skipMissing`. -/
def mapByMethod (c : Column) (self : Cell) (m : String) (extra : List Obj)
    (named : List (String × Obj)) (skipMissing : Bool) : Outcome Column := do
  let attr (o : Obj) (n : String) : Outcome Obj := match o with
    | .plain x => cellAttr x n
    | o => fail .attribute s!"'{o.typeName}' object has no attribute '{n}'"
  let out ← (Array.range c.size).mapM fun i => do
    let v := c.cell i
    if skipMissing && v.isNull then return v
    match self, m with
    | .str t, "format" => return .str (← formatTemplate c attr t (.plain v :: extra) named)
    | _, _ => return resultCell (← callCellMethod self m (.plain v :: extra) named)
  return storeMixed out

/-- The values of a series looked up among the labels of another, as `map` with a series does:
each value becomes the other's value at the label equal to it, NaN where there is none. -/
def mapThrough (c : Column) (other : Column) (otherLabels : Column) : Outcome Column := do
  if hasDuplicates otherLabels then
    fail .value "Reindexing only valid with uniquely valued Index objects"
  let ps := (Array.range c.size).map fun i => (labelHits otherLabels (c.cell i)).head?
  return pickOrMissing other ps

/-- Calls a function named by a text on a series, as `agg`, `apply` and `transform` do: the
method of that name, or the attribute when it is no method (which then takes no arguments),
or else the mathematical function of that name. -/
def callNamed (rows : Column) (s : Labelled) (f : String) (args : List Obj)
    (named : List (String × Obj)) : Outcome Obj := do
  if hasSeriesMethod f then callSeriesMethod rows s f args named
  else match seriesProperty (s.index rows) s f with
    | some v => if args.isEmpty && named.isEmpty then return v else fail .assertion ""
    | none =>
      if f == "str" && allowsText s.values then return .textMethods s
      else if f != "arctan2" && mathFunctions.contains f then
        return s.wrap (← applyMath f (.series s.values))
      else fail .attribute s!"'{f}' is not a valid function for 'Series' object"

/-- The results of functions named by texts, as a series labelled by the names. -/
def namedResults (rows : Column) (s : Labelled) (names : List String) (args : List Obj)
    (named : List (String × Obj)) : Outcome Obj := do
  let results ← names.mapM fun f => callNamed rows s f args named
  if results.any (fun r => !r.isScalar) then
    fail .value "cannot combine transform and aggregation operations"
  let labels := Column.object (names.map Cell.str).toArray
  return .labelled ⟨listColumn results, .labels labels, s.name⟩

/-- The names in a list of functions named by texts, if every item is a text. -/
def functionNames? (items : List Obj) : Option (List String) :=
  items.mapM fun o => match o with
    | .plain (.str f) => some f
    | _ => none

/-- What `transform` gives back: a series of as many values as it was given. -/
def transformed (n : Nat) (r : Obj) : Outcome Obj :=
  let refuse : Outcome Obj := fail .value "Function did not transform"
  match r with
  | .labelled l => if l.values.size == n && !l.isArray then .ok r else refuse
  | .series c => if c.size == n then .ok r else refuse
  | _ => refuse

/-- `agg`, `apply` and `transform` of a series with a function named by a text (or, for `agg`
and `apply`, a list of them). -/
def callByName (rows : Column) (s : Labelled) (name : String) (args : List Obj)
    (named : List (String × Obj)) : Outcome Obj := do
  let sig : Signature := match name with
    | "apply" => ⟨"Series.apply", ["self", "func", "convert_dtype", "args"], 2, [("by_row", true)], false, true⟩
    | "transform" => ⟨"Series.transform", ["self", "func", "axis"], 2, [], true, true⟩
    | _ => ⟨"Series.aggregate", ["self", "func", "axis"], 1, [], true, true⟩
  let b ← sig.bind args named
  if name != "apply" then checkAxis (b.getD "axis" (.plain (.int 0)))
  let extra := if name == "apply" then (match b.get? "args" with
      | some (.list items) => items
      | _ => []) else b.extra
  let func := b.getD "func" noneObj
  match func with
  | .plain (.str f) =>
    if name == "transform" then
      let r ← match callNamed rows s f extra b.extraNamed with
        | .ok r => pure r
        | .error e => if e.kind == .type then .error e else fail .value "Transform function failed"
      transformed s.values.size r
    else callNamed rows s f extra b.extraNamed
  | .cellMethod self m =>
    return s.wrap (.series (← mapByMethod s.values self m extra b.extraNamed false))
  | .list items => match functionNames? items with
    | some names =>
      if name == "transform" then
        let columns ← names.mapM fun f => do
          let r ← match callNamed rows s f extra b.extraNamed with
            | .ok r => pure r
            | .error e => if e.kind == .type then .error e else fail .value "Transform function failed"
          let r ← transformed s.values.size r
          match r.labelled? with
          | some l => pure (Cell.str f, l.values)
          | none => fail .value "Function did not transform"
        return .frame columns (s.index rows)
      else namedResults rows s names extra b.extraNamed
    | none =>
      let culprit := ((items.find? (!·.isScalar)).map Obj.className).getD "list"
      typeError s!"'{culprit}' object is not callable"
  | .plain .none =>
    if name == "aggregate" || name == "agg" then
      match b.extraNamed.mapM (fun (k, v) => match v with
          | .plain (.str f) => some (k, f)
          | _ => none) with
      | some [] => fail .value "No objects to concatenate"
      | some pairs => do
        let r ← namedResults rows s (pairs.map (·.2)) [] []
        match r with
        | .labelled l => return .labelled { l with place := .labels (Column.object (pairs.map fun (k, _) => Cell.str k).toArray) }
        | o => return o
      | none => typeError "'NoneType' object is not callable"
    else typeError "'NoneType' object is not callable"
  | o => typeError s!"'{o.className}' object is not callable"

/-- The label of a percentile: its percentage, whole when every percentage is whole. -/
def percentLabels (ps : List Float) : List String :=
  let whole := ps.all fun p => (p * 100).round == p * 100 || (p * 100 - (p * 100).round).abs < 1e-8
  ps.map fun p =>
    let pct := p * 100
    if whole then s!"{(Decimal.truncate pct.round)}%" else s!"{floatText pct}%"

/-- `describe()` of a series: for numbers, the count, mean, standard deviation, least value,
percentiles and greatest value, as floats; for other values, the count of present values, the
number of distinct ones, the most frequent one (the first of equally frequent ones) and its
frequency. -/
def describeSeries (rows : Column) (s : Labelled) (args : List Obj) (named : List (String × Obj)) :
    Outcome Obj := do
  let sig : Signature := ⟨"NDFrame.describe", ["self", "percentiles", "include", "exclude"], 1, [], false, false⟩
  let b ← sig.bind args named
  let call (m : String) (xs : List Obj) : Outcome Obj := callSeriesMethod rows s m xs []
  let cellOf (o : Obj) : Cell := (o.cell?).getD .none
  let c := s.values
  let numeric := c.dtype == .int64 || c.dtype == .uint64 || c.dtype == .float64 || c.dtype == .float16
  if numeric then
    let given ← match b.getD "percentiles" noneObj with
      | .plain .none => pure [0.25, 0.5, 0.75]
      | .list items => items.mapM fun o => floatArg o
      | o => do pure [← floatArg o]
    if given.any fun p => p.isNaN || p < 0 || p > 1 then
      fail .value "percentiles should all be in the interval [0,1]"
    let ps := if given.contains 0.5 then given else given ++ [0.5]
    let ps := (ps.mergeSort (· ≤ ·)).eraseDups
    let qs ← call "quantile" [.list (ps.map fun p => .plain (.float p))]
    let quantileCells := match qs with
      | .labelled l => l.values.cells.toList
      | o => [cellOf o]
    let stats := [cellOf (← call "count" []), cellOf (← call "mean" []), cellOf (← call "std" []),
      cellOf (← call "min" [])] ++ quantileCells ++ [cellOf (← call "max" [])]
    let labels := ["count", "mean", "std", "min"] ++ percentLabels ps ++ ["max"]
    return .labelled ⟨.float64 (Column.object stats.toArray).floats,
      .labels (.object (labels.map Cell.str).toArray), s.name⟩
  else
    let counts ← call "value_counts" []
    let (tops, freqs) := match counts with
      | .labelled ⟨vs, .labels l, _⟩ => (l, vs)
      | _ => (Column.object #[], Column.object #[])
    let count := cellOf (← call "count" [])
    let labels := Column.object (["count", "unique", "top", "freq"].map Cell.str).toArray
    if tops.size == 0 then
      return .labelled ⟨.object #[count, .int 0, .float nan, .float nan], .labels labels, s.name⟩
    let items : List Obj := [.plain count, .plain (.int tops.size), .plain (tops.cell 0), .plain (freqs.cell 0)]
    return .labelled ⟨listColumn items, .labels labels, s.name⟩

/-! ### Further methods -/

/-- The storage two pieces of a series are put together in: their own when they share it,
mixed values when one holds mixed values or truth values, complex numbers with a complex
piece, and floats otherwise. -/
def joinedKind (a b : DType) : DType :=
  if a == b then a
  else if a == .object || b == .object || a == .bool || b == .bool then .object
  else if a == .complex128 || b == .complex128 then .complex128
  else .float64

/-- Whether a float comes before another in the order of sorting, missing values last. -/
def sortsBefore (a b : Float) : Bool := a < b || (b.isNaN && !a.isNaN)

/-- The place of a key among sorted values by binary search: before the first value not less
than it (`left`) or after the last value not greater than it. Each search starts from what the
search before it left, as the array library's does. -/
def searchPlaces (vs : Array Float) (left : Bool) (keys : List Float) : List Nat :=
  let n := vs.size
  let goesRight (mid key : Float) : Bool := if left then sortsBefore mid key else !sortsBefore key mid
  let rec bisect : Nat → Nat → Nat → Float → Nat
    | 0, lo, _, _ => lo
    | fuel + 1, lo, hi, key =>
      if lo < hi then
        let mid := lo + (hi - lo) / 2
        if goesRight (vs.getD mid nan) key then bisect fuel (mid + 1) hi key
        else bisect fuel lo mid key
      else lo
  let step (acc : List Nat × Nat × Nat × Option Float) (key : Float) :=
    let (out, lo, hi, last) := acc
    let (lo, hi) := match last with
      | some prev => if sortsBefore prev key then (lo, n) else (0, if hi < n then hi + 1 else n)
      | none => (0, n)
    let found := bisect (n + 1) lo hi key
    (found :: out, found, found, some key)
  let (out, _, _, _) := keys.foldl step ([], 0, n, none)
  out.reverse

/-- The codes of values by their first appearance (`-1` for missing values) and the distinct
values in that order; sorted first with `sort`. -/
def factorCodes (c : Column) (sort : Bool) : Array Int × Array Cell :=
  let cells := c.cells
  let present := cells.toList.filter (!·.isNull)
  let distinct := present.foldl (fun (acc : List Cell) x => if acc.any (·.same x) then acc else acc ++ [x]) []
  let distinct := if sort then distinct.mergeSort fun a z => match a.order z with
      | .ok (some o) => o != .gt
      | _ => true
    else distinct
  let code (x : Cell) : Int :=
    if x.isNull then -1 else ((distinct.findIdx? (·.same x)).map fun (i : Nat) => (i : Int)).getD (-1)
  (cells.map code, distinct.toArray)

/-- Labels given as a list, as the numeric library makes an array of them: with a text among
numbers every label becomes its text, with a float among integers and truth values every label
becomes a float, with an integer among truth values every label becomes an integer; a list
holding anything else keeps its values. -/
def labelArray (keys : List Cell) : List Cell :=
  let plainNumber (k : Cell) : Bool := k matches .bool _ || k matches .int _ || k matches .float _
  if !keys.all fun k => plainNumber k || k matches .str _ then keys
  else if keys.any (· matches .str _) then keys.map fun k => .str k.text
  else if keys.any (· matches .float _) then
    keys.map fun k => match k with
      | .int i => .float (Decimal.intToFloat i)
      | .bool b => .float (if b then 1 else 0)
      | k => k
  else if keys.any (· matches .int _) then
    keys.map fun k => match k with
      | .bool b => .int (if b then 1 else 0)
      | k => k
  else keys

/-- The class of the labels of a series as the table library names it: a range for labels
`0, 1, …, n - 1`, a plain index otherwise. -/
def indexClass (labels : Column) : String :=
  if sameLabels labels (Column.range labels.size) then "RangeIndex" else "Index"

/-- The module path of the class of the labels of a series. -/
def indexClassPath (labels : Column) : String :=
  if sameLabels labels (Column.range labels.size) then "pandas.core.indexes.range.RangeIndex"
  else "pandas.core.indexes.base.Index"

/-- Labels given as a collection, as the index constructor takes them. -/
def labelsArg (rows : Column) (o : Obj) : Outcome Column :=
  match o with
  | .list items => .ok (listColumn items)
  | .series k | .labelled ⟨k, _, _⟩ => .ok k
  | o => typeError s!"Index(...) must be called with a collection of some kind, {o.reprAt rows} was passed"

/-- The bytes a range of labels `0, 1, …, n - 1` takes: the range object and its three
integers, the zero smaller than the others. -/
def rangeBytes (n : Nat) : Nat := 48 + 24 + (if n == 0 then 24 else 28) + 28

/-- The position of the last present value at a label not after `key` among labels sorted
increasingly: the count of labels not after it, less one, stepped back past missing values (but
never before the first position). -/
def lastPresentUpTo (labels : Column) (nulls : Array Bool) (key : Cell) : Outcome Nat := do
  let upTo ← (List.range labels.size).foldlM (fun (n : Nat) i => do
    if ← cellBefore key (labels.cell i) then return n else return n + 1) 0
  let start := if upTo > 0 then upTo - 1 else 0
  let back := (List.range (start + 1)).reverse.find? fun i => i == 0 || !nulls.getD i false
  return back.getD 0

/-- `asof`: the last present value at a label not after `where`, for a series whose labels are
sorted increasingly; NaN before the first label. A list of keys gives a series at those keys,
missing where no present value comes at or before the key. -/
def seriesAsOf (rows : Column) (s : Labelled) (key subset : Obj) : Outcome Obj := do
  if key matches .plain (.str _) then fail .value "could not convert string to Timestamp"
  let labels := s.index rows
  let sorted ← (List.range (labels.size - 1)).allM fun i => do
    match (labels.cell (i + 1)).order (labels.cell i) with
    | .ok (some o) => return o != .lt
    | _ => return false
  let sorted := sorted && !(labels.nulls.any id)
  if !sorted then fail .value "asof requires a sorted index"
  match subset with
  | .plain .none => pure ()
  | _ => fail .value "subset is not valid for Series"
  let c := s.values
  let nulls := c.nulls
  match key with
  | .list items =>
    let keys := items.map fun o => (o.cell?).getD .none
    let keyColumn := listColumn items
    if nulls.all id then
      return .labelled ⟨.float64 (Array.replicate keys.length nan), .labels keyColumn, s.name⟩
    let present := (List.range c.size).filter fun i => !nulls.getD i false
    let presentLabels := Column.object (present.map labels.cell).toArray
    let firstLabel := presentLabels.cell 0
    let picks ← keys.mapM fun k => do
      let upTo ← (List.range presentLabels.size).foldlM (fun (n : Nat) i => do
        if ← cellBefore k (presentLabels.cell i) then return n else return n + 1) 0
      let place := if upTo > 0 then upTo - 1 else 0
      if place == 0 then
        if ← cellBefore k firstLabel then return none
      return some (present.getD place 0)
    if picks.all Option.isSome then
      return .labelled ⟨c.take (picks.map (·.getD 0)).toArray, .labels keyColumn, s.name⟩
    let cells := picks.map fun p => match p with
      | some i => c.cell i
      | none => .float nan
    let widened := match c with
      | .int64 _ | .uint64 _ | .float64 _ => Column.float64 (Column.object cells.toArray).floats
      | _ => Column.object cells.toArray
    return .labelled ⟨widened, .labels keyColumn, s.name⟩
  | k =>
    let key := (k.cell?).getD .none
    if labels.size == 0 then fail .index "index 0 is out of bounds for axis 0 with size 0"
    if ← cellBefore key (labels.cell 0) then return .plain (.float nan)
    return scalarAt c (← lastPresentUpTo labels nulls key)

/-- Calls a method of a series that combines other methods. -/
def callFurther (rows : Column) (s : Labelled) (name : String) (args : List Obj)
    (named : List (String × Obj)) : Outcome Obj := do
  let some sig := furtherSignature name
    | fail .attribute s!"'Series' object has no attribute '{name}'"
  let b ← sig.bind args named
  let c := s.values
  match name with
  | "autocorr" =>
    let shifted ← callSeriesMethod rows s "shift" [b.getD "lag" (.plain (.int 1))] []
    callSeriesMethod rows s "corr" [← shifted.atRows rows] []
  | "divmod" | "rdivmod" =>
    let rest := [b.getD "other" noneObj]
    let named := b.given.filter fun (k, _) => k != "other"
    let swapped := name == "rdivmod"
    let q ← callSeriesMethod rows s (if swapped then "rfloordiv" else "floordiv") rest named
    let r ← callSeriesMethod rows s (if swapped then "rmod" else "mod") rest named
    return .list [q, r]
  | "view" => match b.getD "dtype" noneObj with
    | .plain .none => return .labelled s
    | o => typeError s!"data type {o.reprAt rows} not understood"
  | "update" => return noneObj
  | "combine_first" =>
    let other ← match b.getD "other" noneObj with
      | .series o => pure o
      | .labelled o => o.atRows rows
      | o => fail .attribute s!"'{o.typeName}' object has no attribute 'dtype'"
    let mine ← s.atRows rows
    let kind := joinedKind mine.dtype other.dtype
    let cells := (Array.range mine.size).map fun i =>
      if (mine.nulls.getD i false) then other.cell i else mine.cell i
    return .labelled ⟨if kind == mine.dtype && kind == other.dtype then columnOfKind kind cells
      else columnOfKind kind cells, .rows, s.name⟩
  | "searchsorted" =>
    let left ← match b.getD "side" (.plain (.str "left")) with
      | .plain (.str "left") => pure true
      | .plain (.str "right") => pure false
      | o => fail .value s!"side must be either 'left' or 'right' (got {o.reprAt rows})"
    let vs := c.floats
    let keyOf (o : Obj) : Float := ((Column.object #[(o.cell?).getD .none]).floats.getD 0 nan)
    match b.getD "value" noneObj with
    | .list items =>
      let places := searchPlaces vs left (items.map keyOf)
      return .labelled (Labelled.array (.int64 (places.map fun (p : Nat) => (p : Int)).toArray))
    | .series k | .labelled ⟨k, _, _⟩ =>
      let places := searchPlaces vs left k.floats.toList
      return .labelled (Labelled.array (.int64 (places.map fun (p : Nat) => (p : Int)).toArray))
    | o =>
      let places := searchPlaces vs left [keyOf o]
      return .fixed (.int64 ((places.headD 0 : Nat) : Int))
  | "to_string" => return .plain (.str (seriesBody (s.index rows) c))
  | "to_csv" =>
    match b.getD "path_or_buf" noneObj with
    | .plain .none => return .plain (.str (seriesCsv (s.index rows) c s.name))
    | _ => return noneObj
  | "to_json" =>
    let orient ← match b.getD "orient" noneObj with
      | .plain .none => pure "index"
      | .plain (.str o) =>
        if ["split", "records", "index", "values", "table"].contains o then pure o
        else fail .value s!"Invalid value '{o}' for option 'orient'"
      | o => fail .value s!"Invalid value '{o.text}' for option 'orient'"
    let prec ← match b.getD "double_precision" (.plain (.int 10)) with
      | .plain (.int p) =>
        if p < 0 || p > 15 then fail .value s!"Invalid value '{p}' for option 'double_precision', max is '15'"
        else pure p.toNat
      | o => typeError s!"'{o.typeName}' object cannot be interpreted as an integer"
    let ascii ← (b.getD "force_ascii" (.plain (.bool true))).truth
    match b.getD "path_or_buf" noneObj with
    | .plain .none => return .plain (.str (seriesJson ⟨orient, prec, ascii⟩ (s.index rows) c s.name))
    | _ => return noneObj
  | "to_dict" => return .labelled ⟨listColumn ((List.range c.size).map (plainAt c)), s.place, .none⟩
  | "to_markdown" =>
    fail .importing "Missing optional dependency 'tabulate'.  Use pip or conda to install tabulate."
  | "drop" =>
    let inplace ← checkFlagOrNone "inplace" (b.getD "inplace" (.plain (.bool false)))
    let given (o : Obj) : Bool := !(o matches .plain .none)
    let labelsArg := b.getD "labels" noneObj
    let indexArg := b.getD "index" noneObj
    let target ← if given labelsArg then do
        if given indexArg || given (b.getD "columns" noneObj) then
          fail .value "Cannot specify both 'labels' and 'index'/'columns'"
        checkAxis (b.getD "axis" (.plain (.int 0)))
        pure labelsArg
      else if given indexArg || given (b.getD "columns" noneObj) then pure indexArg
      else fail .value "Need to specify at least one of 'labels', 'index' or 'columns'"
    let labels := s.index rows
    let keys : List Cell := match target with
      | .list items => items.map fun i => (i.cell?).getD .none
      | .series k | .labelled ⟨k, _, _⟩ => k.cells.toList
      | o => [(o.cell?).getD .none]
    let keys := if labels.dtype == .object then keys else labelArray keys
    let missing := keys.filter fun k => (labelHits labels k).isEmpty
    let ignore := (b.getD "errors" (.plain (.str "raise"))) matches .plain (.str "ignore")
    if given target && !missing.isEmpty && !ignore then
      fail .key (Text.quoteText s!"{cellsText missing} not found in axis")
    let gone := if given target then keys.flatMap (labelHits labels) else []
    if inplace then return noneObj
    return s.pick rows ((List.range c.size).filter fun i => !gone.contains i).toArray
  | "pop" =>
    let item := b.getD "item" noneObj
    match item.cell? with
    | some k => atLabel rows s k
    | none => typeError s!"unhashable type: '{item.typeName}'"
  | "info" => return noneObj
  | "memory_usage" =>
    let withIndex ← (b.getD "index" (.plain (.bool true))).truth
    let indexBytes := match s.place with
      | .rows => if sameLabels rows (Column.range rows.size) then rangeBytes rows.size else columnBytes rows
      | .labels l => columnBytes l
      | .array => 0
    return .fixed (.int64 (columnBytes c + (if withIndex then indexBytes else 0) : Nat))
  | "compare" =>
    let labels := s.index rows
    let other ← match b.getD "other" noneObj with
      | .series o => pure (Labelled.atTable o .none)
      | .labelled o => pure o
      | o => typeError s!"can only compare 'Series' (not '{o.className}') with 'Series'"
    if !sameLabels labels (other.index rows) then
      fail .value "Can only compare identically-labeled Series objects"
    let d := other.values
    let differs := (List.range c.size).filter fun i =>
      !((c.nulls.getD i false && d.nulls.getD i false) || c.cell i == d.cell i)
    let ps := differs.toArray
    return .frame [(.str "self", c.take ps), (.str "other", d.take ps)] (labels.take ps)
  | "align" =>
    match b.getD "other" noneObj with
    | o@(.series _) | o@(.labelled _) => return .list [.labelled s, o]
    | o => typeError s!"unsupported type: {o.ty.text}"
  | "map" =>
    let skip ← match b.getD "na_action" noneObj with
      | .plain .none => pure false
      | .plain (.str "ignore") => pure true
      | o => fail .value s!"na_action must either be 'ignore' or None, {o.reprAt rows} was passed"
    match b.getD "arg" noneObj with
    | .cellMethod self m => return s.wrap (.series (← mapByMethod c self m [] [] skip))
    | .series d => return s.wrap (.series (← mapThrough c d rows))
    | .labelled d => return s.wrap (.series (← mapThrough c d.values (d.index rows)))
    | o => typeError s!"'{o.className}' object is not callable"
  | "filter" =>
    let items := b.getD "items" noneObj
    let like := b.getD "like" noneObj
    let regex := b.getD "regex" noneObj
    let given := [items, like, regex].filter fun o => !(o matches .plain .none)
    if given.length > 1 then
      typeError "Keyword arguments `items`, `like`, or `regex` are mutually exclusive"
    let labels := s.index rows
    if !(items matches .plain .none) then
      let keys ← labelsArg rows items
      let found := keys.cells.toList.foldl (fun (acc : List Cell) k =>
        if (labelHits labels k).isEmpty || acc.any (·.same k) then acc else acc ++ [k]) []
      if hasDuplicates labels then fail .value "cannot reindex on an axis with duplicate labels"
      return s.pick rows (found.filterMap fun k => (labelHits labels k).head?).toArray
    let textOf (i : Nat) : String := cellToText (labels.cell i)
    if (like.cell?.map Cell.truthy).getD false then
      let part ← match like with
        | .plain (.str t) => pure t
        | o => typeError s!"'in <string>' requires string as left operand, not {o.typeName}"
      return s.pick rows ((List.range labels.size).filter fun i =>
        decide (((textOf i).splitOn part).length > 1)).toArray
    if (regex.cell?.map Cell.truthy).getD false then
      let pattern ← match regex with
        | .plain (.str t) => pure t
        | _ => typeError "first argument must be string or compiled pattern"
      let prog ← replacePattern pattern
      return s.pick rows ((List.range labels.size).filter fun i => prog.search (textOf i)).toArray
    typeError "Must pass either `items`, `like`, or `regex`"
  | "reindex" | "reindex_like" =>
    let keys ← if name == "reindex" then
        match b.getD "index" noneObj with
        | .plain .none => pure none
        | .list items => pure (some (listColumn items))
        | .series k | .labelled ⟨k, _, _⟩ => pure (some k)
        | o => typeError s!"'{o.typeName}' object is not iterable"
      else match b.getD "other" noneObj with
        | .series _ => pure (some rows)
        | .labelled o => pure (some (o.index rows))
        | o => fail .attribute s!"'{o.typeName}' object has no attribute '_construct_axes_dict'"
    let some keys := keys | return .labelled s
    let labels := s.index rows
    if hasDuplicates labels then fail .value "cannot reindex on an axis with duplicate labels"
    let ps := keys.cells.map fun k => (labelHits labels k).head?
    let values ← match b.getD "fill_value" noneObj with
      | .plain .none => pure (pickOrMissing c ps)
      | fill =>
        let fillCell := (fill.cell?).getD .none
        seriesWhere (c.take (ps.map (·.getD 0))) (ps.map Option.isSome) (fun _ => fillCell) false
    return .labelled ⟨values, .labels keys, s.name⟩
  | "set_axis" =>
    checkAxis (b.getD "axis" (.plain (.int 0)))
    let keys ← labelsArg rows (b.getD "labels" noneObj)
    if keys.size != c.size then
      fail .value s!"Length mismatch: Expected axis has {c.size} elements, new values have {keys.size} elements"
    return .labelled ⟨c, .labels keys, s.name⟩
  | "take" =>
    checkAxis (b.getD "axis" (.plain (.int 0)))
    let items : List Obj := match b.getD "indices" noneObj with
      | .list items => items
      | .series k | .labelled ⟨k, _, _⟩ => k.cells.toList.map .plain
      | o => [o]
    let n : Int := c.size
    let place (i : Int) : Outcome Nat :=
      let j := if i < 0 then i + n else i
      if j < 0 || j ≥ n then fail .index "indices are out-of-bounds" else pure j.toNat
    let ps ← items.mapM fun o => match o.cell? with
      | some (.int i) => place i
      | some (.bool v) => place (if v then 1 else 0)
      | some (.float _) =>
        typeError "Cannot cast array data from dtype('float64') to dtype('int64') according to the rule 'safe'"
      | _ => typeError "Cannot cast array data from dtype('O') to dtype('int64') according to the rule 'safe'"
    return s.pick rows ps.toArray
  | "truncate" =>
    let labels := s.index rows
    if !(isMonotonic false labels || isMonotonic true labels) then
      fail .value "truncate requires a sorted index"
    let before := b.getD "before" noneObj
    let after := b.getD "after" noneObj
    let bound (o : Obj) : Option Cell := match o.cell? with
      | some .none => none
      | some x => some x
      | none => none
    if let (some lo, some hi) := (bound before, bound after) then
      if ← cellCompare .gt lo hi then
        fail .value s!"Truncate: {cellToText hi} must be after {cellToText lo}"
    let ps ← (List.range labels.size).filterM fun i => do
      let l := labels.cell i
      let aboveLow ← match bound before with
        | some lo => cellCompare .ge l lo
        | none => pure true
      let belowHigh ← match bound after with
        | some hi => cellCompare .le l hi
        | none => pure true
      return aboveLow && belowHigh
    return s.pick rows ps.toArray
  | "xs" =>
    checkAxis (b.getD "axis" (.plain (.int 0)))
    let key := b.getD "key" noneObj
    match key.cell? with
    | some k => atLabel rows s k
    | none => typeError s!"unhashable type: '{key.typeName}'"
  | "ravel" => return .labelled (Labelled.array c)
  | "rename_axis" | "set_flags" =>
    if name == "rename_axis" && ((b.getD "inplace" (.plain (.bool false))).cell?.map Cell.truthy).getD false then
      return noneObj
    return .labelled s
  | "bool" =>
    if c.size != 1 then
      fail .value "The truth value of a Series is ambiguous. Use a.empty, a.bool(), a.item(), a.any() or a.all()."
    match c.cell 0 with
    | .bool v => return .plain (.bool v)
    | _ => fail .value "bool cannot act on a non-boolean single element Series"
  | "to_period" | "to_timestamp" => typeError s!"unsupported Type {indexClass (s.index rows)}"
  | "tz_convert" | "tz_localize" =>
    if c.size == 0 then return .labelled s
    typeError "index is not a valid DatetimeIndex or PeriodIndex"
  | "unstack" =>
    fail .value s!"index must be a MultiIndex to unstack, <class '{indexClassPath (s.index rows)}'> was passed"
  | "first" | "last" => typeError s!"'{name}' only supports a DatetimeIndex index"
  | "resample" =>
    typeError s!"Only valid with DatetimeIndex, TimedeltaIndex or PeriodIndex, but got an instance of '{indexClass (s.index rows)}'"
  | "reorder_levels" => fail .general "Can only reorder levels on a hierarchical axis."
  | "droplevel" =>
    checkAxis (b.getD "axis" (.plain (.int 0)))
    match b.getD "level" noneObj with
    | .plain (.int l) | .fixed (.int64 l) =>
      if l < 0 && l != -1 then
        fail .index s!"Too many levels: Index has only 1 level, {l} is not a valid level number"
      else if l > 0 then fail .index s!"Too many levels: Index has only 1 level, not {l + 1}"
      else fail .value "Cannot remove 1 levels from an index with 1 levels: at least one level must be left."
    | .plain .none => fail .value "Cannot remove 1 levels from an index with 1 levels: at least one level must be left."
    | o =>
      let shown := match o.cell? with | some x => cellToText x | none => o.className
      fail .key (Text.quoteText s!"Requested level ({shown}) does not match index name (None)")
  | "swaplevel" => fail .assertion ""
  | "swapaxes" =>
    checkAxis (b.getD "axis1" noneObj)
    checkAxis (b.getD "axis2" noneObj)
    return .labelled s
  | "to_xarray" =>
    fail .importing "Missing optional dependency 'xarray'.  Use pip or conda to install xarray."
  | "to_pickle" => return noneObj
  | "to_hdf" =>
    fail .importing "Missing optional dependency 'pytables'.  Use pip or conda to install pytables."
  | "to_excel" =>
    fail .missingModule "No module named 'openpyxl'"
  | "hist" =>
    fail .importing "matplotlib is required for plotting when the default backend \"matplotlib\" is selected."
  | "pipe" => typeError "'NoneType' object is not callable"
  | "case_when" =>
    match b.getD "caselist" noneObj with
    | .list [] => fail .value "provide at least one boolean condition, with a corresponding replacement."
    | .list _ => typeError "Argument 0 must be a tuple; instead got <class 'list'>."
    | o => typeError s!"The caselist argument should be a list; instead got {o.ty.text}"
  | "items" => typeError "object of type 'zip' has no len()"
  | "sample" =>
    checkAxisOrNone (b.getD "axis" noneObj)
    let replace ← (b.getD "replace" (.plain (.bool false))).truth
    let pop := c.size
    let size ← match b.getD "n" noneObj, b.getD "frac" noneObj with
      | .plain .none, .plain .none => pure 1
      | .plain .none, fracArg =>
        let frac ← floatArg fracArg
        if frac > 1 && !replace then
          fail .value "Replace has to be set to `True` when upsampling the population `frac` > 1."
        if frac < 0 then
          fail .value "A negative number of rows requested. Please provide `frac` >= 0."
        pure (Decimal.truncate (roundEven (frac * Decimal.intToFloat pop))).toNat
      | nArg, .plain .none =>
        let k ← floatArg nArg
        if k < 0 then fail .value "A negative number of rows requested. Please provide `n` >= 0."
        if k != k.floor then fail .value "Only integers accepted as `n` values"
        pure (Decimal.truncate k).toNat
      | _, _ => fail .value "Please enter a value for `frac` OR `n`, not both"
    let seed ← match b.getD "random_state" noneObj with
      | .plain .none => pure 0
      | .plain (.int k) | .fixed (.int64 k) =>
        if k < 0 || k > Int.pow 2 32 - 1 then fail .value "Seed must be between 0 and 2**32 - 1"
        else pure k.toNat
      | _ =>
        fail .value "random_state must be an integer, array-like, a BitGenerator, Generator, a numpy RandomState, or None"
    if pop == 0 && size != 0 then
      fail .value "a must be greater than 0 unless no samples are taken"
    let gen := Twister.seeded seed.toUInt32
    let picked ← if replace then pure (gen.draws pop size).1
      else if size > pop then
        fail .value "Cannot take a larger sample than population when 'replace=False'"
      else pure ((gen.permutation pop).1.extract 0 size)
    let ignore ← (b.getD "ignore_index" (.plain (.bool false))).truth
    let chosen := s.pick rows picked
    if ignore then
      match chosen with
      | .labelled l => return .labelled { l with place := .labels (Column.range picked.size) }
      | o => return o
    return chosen
  | "asof" => seriesAsOf rows s (b.getD "where" noneObj) (b.getD "subset" noneObj)
  | "at_time" | "between_time" =>
    checkAxisOrNone (b.getD "axis" noneObj)
    typeError "Index must be DatetimeIndex"
  | "to_latex" =>
    match b.getD "column_format" noneObj with
    | .plain .none | .plain (.str _) => pure ()
    | _ => fail .value "`column_format` must be str or unicode"
    match b.getD "header" (.plain (.bool true)) with
    | .list hs =>
      if hs.length != 1 then fail .value s!"Writing 1 cols but got {hs.length} aliases"
    | _ => pure ()
    fail .importing
      "Missing optional dependency 'Jinja2'. DataFrame.style requires jinja2. Use pip or conda to install Jinja2."
  | "combine" => fail .notImplemented "Series.combine is called through its caller"
  | "factorize" =>
    let sort ← (b.getD "sort" (.plain (.bool false))).truth
    let (codes, uniques) := factorCodes c sort
    return .list [.labelled (Labelled.array (.int64 codes)),
      .labelled (Labelled.array (columnOfKind c.dtype uniques))]
  | _ =>
    let ignore ← (b.getD "ignore_index" (.plain (.bool false))).truth
    let labels := s.index rows
    match c with
    | .object vs =>
      let pieces := vs.toList.zipIdx.map fun (x, i) => match x with
        | .seq _ [] => [(Cell.float nan, i)]
        | .seq _ items => items.map fun y => (y, i)
        | x => [(x, i)]
      let flat := pieces.flatten
      let values := Column.object (flat.map (·.1)).toArray
      let place : Place := if ignore then .labels (Column.range flat.length)
        else .labels (labels.take (flat.map (·.2)).toArray)
      return .labelled ⟨values, place, s.name⟩
    | c => return .labelled ⟨c, if ignore then .labels (Column.range c.size) else s.place, s.name⟩

/-- Calls a method of a series with the arguments of a call. -/
def callSeries (rows : Column) (s : Labelled) (name : String) (args : List Obj)
    (named : List (String × Obj)) : Outcome Obj :=
  if !s.isArray && (name == "agg" || name == "aggregate" || name == "apply" || name == "transform") then
    callByName rows s name args named
  else if !s.isArray && name == "describe" then describeSeries rows s args named
  else if !s.isArray && (furtherSignature name).isSome then callFurther rows s name args named
  else callSeriesMethod rows s name args named

/-- The qualified name of a method of series, as the text of a bound method gives it. -/
def methodQualname (name : String) : String :=
  let found := [seriesSignature name, orderSignature name, convertSignature name, windowMaker name,
    furtherSignature name].findSome? id
  match found with
  | some sig => sig.name
  | none => match name with
    | "agg" | "aggregate" => "Series.aggregate"
    | "describe" => "NDFrame.describe"
    | n => s!"Series.{n}"

/-- An attribute of a series (or an array). -/
def seriesAttr (rows : Column) (s : Labelled) (name : String) : Outcome Obj :=
  if s.isArray then
    if isArrayMethod name then .ok (.method s name)
    else match arrayProperty s name with
      | some v => .ok v
      | none => fail .attribute s!"'numpy.ndarray' object has no attribute '{name}'"
  else if name == "str" then
    if allowsText s.values then .ok (.textMethods s)
    else fail .attribute "Can only use .str accessor with string values!"
  else if seriesHasMethod name then .ok (.method s name)
  else match seriesProperty (s.index rows) s name with
    | some v => .ok v
    | none => match accessorRefusal s.values name with
      | some f => .error f
      | none => fail .attribute s!"'Series' object has no attribute '{name}'"

/-- An attribute of a value. -/
def getAttr (rows : Column) (o : Obj) (name : String) : Outcome Obj :=
  match o with
  | .series c => seriesAttr rows ⟨c, .rows, .none⟩ name
  | .labelled s => seriesAttr rows s name
  | .textMethods s =>
    if (textSignature name).isSome then .ok (.textMethod s name)
    else fail .attribute s!"'StringMethods' object has no attribute '{name}'"
  | .window w s =>
    if isWindowMethod w name then .ok (.windowMethod w s name)
    else fail .attribute s!"'{w.shortName}' object has no attribute '{name}'"
  | .plain c => cellAttr c name
  | o => fail .attribute s!"'{o.className}' object has no attribute '{name}'"

/-- Whether a value is a series with labels (an array is not). -/
def isLabelledSeries (o : Obj) : Bool :=
  match o with
  | .series _ => true
  | .labelled s => !s.isArray
  | _ => false

/-- Calls a callable value with arguments already at the table's rows: a method of a series,
of its texts, of a window, or of a scalar. -/
def invoke (rows : Column) (func : Obj) (args : List Obj) (named : List (String × Obj)) :
    Outcome Obj :=
  match func with
  | .method t name => callSeries rows t name args named
  | .textMethod t name => callText rows t name args named
  | .windowMethod w t name => return t.wrap (← callWindow w t.values name args named)
  | .cellMethod (.str t) "format" =>
    (formatTemplate rows (getAttr rows) t args named).map fun r => .plain (.str r)
  | .cellMethod self name => callCellMethod self name args named
  | o => typeError s!"'{o.className}' object is not callable"

/-- A scalar result of a function applied to a window, as the float the window stores. -/
def cellResult (c : Cell) : Outcome Float :=
  match c with
  | .int i => .ok (Decimal.intToFloat i)
  | .float f => .ok f
  | .bool b => .ok (if b then 1 else 0)
  | c => typeError s!"must be real number, not {c.typeName}"

/-- A result of a function applied to a window, as the float the window stores: a scalar, or
the one value of a series or array of length one. -/
def windowResult (o : Obj) : Outcome Float :=
  match o with
  | .plain c => cellResult c
  | .fixed x => cellResult x.cell
  | .labelled ⟨c, .array, _⟩ =>
    if c.size == 1 then cellResult (c.cell 0)
    else typeError "only length-1 arrays can be converted to Python scalars"
  | .labelled ⟨c, _, _⟩ | .series c =>
    if c.size == 1 then cellResult (c.cell 0)
    else typeError "cannot convert the series to <class 'float'>"
  | o => typeError s!"must be real number, not {o.typeName}"

/-- A function applied to each window with enough present values: to a series of the window's
values as floats at their labels (an array of them with `raw`), followed by `extra` and
`extraNamed`; each result is stored as a float, and windows with too few values give NaN. -/
def applyWindows (rows : Column) (w : Window) (s : Labelled) (func : Obj) (raw : Bool)
    (extra : List Obj) (extraNamed : List (String × Obj)) : Outcome Obj := do
  let vs ← windowFloats s.values
  let labels := s.index rows
  let out ← (windowBounds w vs.size).mapM fun (lo, hi) => do
    let span := (Array.range (hi - lo)).map (· + lo)
    let present := (span.filter fun i => !(vs.getD i nan).isNaN).size
    if present < w.least then return nan
    let values := Column.float64 (span.map fun i => vs.getD i nan)
    let window : Obj := if raw then .labelled ⟨values, .array, .none⟩
      else .labelled ⟨values, .labels (labels.take span), .none⟩
    windowResult (← invoke rows func (window :: extra) extraNamed)
  return s.wrap (.series (.float64 out))

/-- The method of a rolling or expanding window calling a function on each window, with its
arguments checked: `raw` a truth value, the engine the compiled one (the just-in-time one
needing a library that is absent), and no extra arguments given as a list. -/
def windowApply (rows : Column) (w : Window) (s : Labelled) (args : List Obj)
    (named : List (String × Obj)) : Outcome Obj := do
  let some sig := windowSignature w "apply"
    | fail .attribute s!"'{w.shortName}' object has no attribute 'apply'"
  let b ← sig.bind args named
  let raw ← match b.getD "raw" (.plain (.bool false)) with
    | .plain (.bool r) | .fixed (.bool r) => pure r
    | _ => fail .value "raw parameter must be `True` or `False`"
  match b.getD "engine" noneObj with
  | .plain .none | .plain (.str "cython") =>
    match b.getD "engine_kwargs" noneObj with
    | .plain .none => pure ()
    | _ => fail .value "cython engine does not accept engine_kwargs"
  | .plain (.str "numba") =>
    if !raw then fail .value "raw must be `True` when using the numba engine"
    fail .importing "Missing optional dependency 'numba'.  Use pip or conda to install numba."
  | _ => fail .value "engine must be either 'numba' or 'cython'"
  if s.values.size == 0 then return s.wrap (.series (.float64 #[]))
  match b.getD "args" noneObj with
  | .plain .none => pure ()
  | o => typeError s!"Argument 'args' has incorrect type (expected tuple, got {o.typeName})"
  match b.getD "kwargs" noneObj with
  | .plain .none => pure ()
  | o => typeError s!"Argument 'kwargs' has incorrect type (expected dict, got {o.typeName})"
  applyWindows rows w s (b.getD "func" noneObj) raw [] []

/-- The name a function gives a column of an aggregation: a text itself, a method its name. -/
def functionName (f : Obj) : Cell :=
  match f with
  | .plain (.str t) => .str t
  | .method _ name | .textMethod _ name | .windowMethod _ _ name | .cellMethod _ name => .str name
  | _ => .none

/-- The method of a window aggregating it: a function named by a text is the window's method
of that name; a list of functions gives a table with a column for each, named after it; any
other function is applied to each window (exponentially weighted windows have no such
method). -/
def windowAggregate (rows : Column) (w : Window) (s : Labelled) (args : List Obj)
    (named : List (String × Obj)) : Outcome Obj := do
  let some sig := windowSignature w "aggregate"
    | fail .attribute s!"'{w.shortName}' object has no attribute 'aggregate'"
  let b ← sig.bind args named
  let one (f : Obj) : Outcome Obj :=
    match f with
    | .plain (.str name) =>
      if name == "apply" then windowApply rows w s b.extra b.extraNamed
      else if name == "agg" || name == "aggregate" then
        typeError s!"{w.shortName}.aggregate() missing 1 required positional argument: 'func'"
      else if isWindowMethod w name then
        return s.wrap (← callWindow w s.values name b.extra b.extraNamed)
      else fail .attribute s!"'{name}' is not a valid function for '{w.shortName}' object"
    | f =>
      match w with
      | .weighted _ _ _ _ => fail .attribute s!"'{w.shortName}' object has no attribute 'apply'"
      | _ => applyWindows rows w s f false b.extra b.extraNamed
  match b.getD "func" noneObj with
  | .list [] => fail .value "No objects to concatenate"
  | .list fs =>
    let labels := s.index rows
    let columns ← fs.mapM fun f => do
      let c ← match ← one f with
        | .labelled l => l.atRows labels
        | .series c => pure c
        | o => typeError s!"cannot concatenate object of type '{o.ty.text}'; only Series and DataFrame objs are valid"
      return (functionName f, c)
    return .frame columns labels
  | f => one f

/-- `combine`: `func` called on each pair of values, the series' own and the other's at each
label of the union of both labels (a label missing on one side giving `fill_value`, NaN by
default), or on each value and the other value itself when it is not a series. The results are
stored as one column of the kind they share. -/
def seriesCombine (rows : Column) (s : Labelled) (args : List Obj) (named : List (String × Obj)) :
    Outcome Obj := do
  let some sig := furtherSignature "combine"
    | fail .attribute "'Series' object has no attribute 'combine'"
  let b ← sig.bind args named
  let func := b.getD "func" noneObj
  let fill : Obj := match b.getD "fill_value" noneObj with
    | .plain .none => .plain (.float nan)
    | o => o
  let mine := s.index rows
  match (b.getD "other" noneObj).labelled? with
  | some t =>
    if t.isArray then
      let outs ← (List.range s.values.size).mapM fun i =>
        invoke rows func [scalarAt s.values i, .labelled t] []
      return .labelled ⟨listColumn outs, s.place, s.name⟩
    let theirs := t.index rows
    let labels ← if sameLabels mine theirs then pure mine
      else
        let extra := (List.range theirs.size).filter fun i =>
          !(List.range mine.size).any fun j => (mine.cell j).same (theirs.cell i)
        let all := (List.range mine.size).map mine.cell ++ extra.map theirs.cell
        match sortedPositions (Column.object all.toArray) true false with
        | .ok order => pure (Column.object (order.map fun i => all.getD i .none).toArray)
        | .error _ => pure (Column.object all.toArray)
    let valueAt (l : Labelled) (ls : Column) (k : Cell) : Obj :=
      match (List.range ls.size).find? fun j => (ls.cell j).same k with
      | some j => scalarAt l.values j
      | none => fill
    let outs ← (List.range labels.size).mapM fun i =>
      invoke rows func [valueAt s mine (labels.cell i), valueAt t theirs (labels.cell i)] []
    let name := if s.name == t.name then s.name else .none
    let place := if sameLabels labels rows then Place.rows else .labels labels
    return .labelled ⟨listColumn outs, place, name⟩
  | none =>
    let other := b.getD "other" noneObj
    let outs ← (List.range s.values.size).mapM fun i => invoke rows func [scalarAt s.values i, other] []
    return .labelled ⟨listColumn outs, s.place, s.name⟩

/-- Calls a value with arguments. The arguments of a method of a series meet it at the
table's rows, and so does the series when it stands at labels of its own and an argument is
a series too. -/
def callObj (rows : Column) (f : Obj) (args : List Obj) (named : List (String × Obj)) :
    Outcome Obj := do
  let bareArgs ← args.mapM (·.atRows rows)
  let bareNamed ← named.mapM fun (k, v) => do return (k, ← v.atRows rows)
  match f with
  | .method s "pipe" =>
    match bareArgs with
    | [] => typeError "NDFrame.pipe() missing 1 required positional argument: 'func'"
    | func :: rest =>
      let given := (← (Obj.labelled s).atRows rows) :: rest
      invoke rows func given bareNamed
  | .method s "combine" => seriesCombine rows s args named
  | .method s name =>
    let aligned := (args ++ named.map (·.2)).any isLabelledSeries
    let s ← if aligned then s.settle rows else pure s
    callSeries rows s name bareArgs bareNamed
  | .textMethod s name => callText rows s name bareArgs bareNamed
  | .windowMethod w s "apply" => windowApply rows w s bareArgs bareNamed
  | .windowMethod w s "agg" | .windowMethod w s "aggregate" =>
    windowAggregate rows w s bareArgs bareNamed
  | .windowMethod w s name => return s.wrap (← callWindow w s.values name bareArgs bareNamed)
  | .cellMethod self name => callCellMethod self name args named
  | o => typeError s!"'{o.className}' object is not callable"

/-- Calls a value with arguments, formatting templates by their `format` method. -/
def callValue (rows : Column) (f : Obj) (args : List Obj) (named : List (String × Obj)) :
    Outcome Obj :=
  match f with
  | .cellMethod (.str s) "format" =>
    (formatTemplate rows (getAttr rows) s args named).map fun t => .plain (.str t)
  | f => callObj rows f args named

end Dataflow.Eval
