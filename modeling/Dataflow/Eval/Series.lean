import Dataflow.Eval.Recode
/-!
# Methods of series

The methods of series that expressions may call. Each has a parameter list (`seriesSignature`)
against which the arguments of a call are bound first, so that calls with arguments the method
does not take fail as the language fails them. A method then checks the values of its
arguments (`Dataflow.Eval.Arguments`) and computes by the reductions of
`Dataflow.Eval.Reduce` and the transformations of `Dataflow.Eval.Transform`.

The flexible operator methods (`add`, `pow`, `eq`, ...) apply the operators of expressions,
optionally filling missing values first.
-/

namespace Dataflow.Eval

/-! ### Parameter lists -/

/-- A method of a series with positional parameters after the receiver, the first `required`
of them without defaults, and the catch-alls given. -/
def seriesMethod (qual : String) (params : List String) (required : Nat)
    (restPositional restNamed : Bool) : Signature :=
  ⟨qual, "self" :: params, required + 1, [], restPositional, restNamed⟩

/-- The flexible arithmetic methods: the operator, whether the operands are swapped, and the
name that messages give the method. -/
def flexArith (name : String) : Option (Arith × Bool × String) :=
  match name with
  | "add" => some (.add, false, "add")
  | "radd" => some (.add, true, "radd")
  | "sub" | "subtract" => some (.sub, false, "sub")
  | "rsub" => some (.sub, true, "rsub")
  | "mul" | "multiply" => some (.mul, false, "mul")
  | "rmul" => some (.mul, true, "rmul")
  | "truediv" | "div" | "divide" => some (.div, false, "truediv")
  | "rtruediv" | "rdiv" => some (.div, true, "rtruediv")
  | "floordiv" => some (.floorDiv, false, "floordiv")
  | "rfloordiv" => some (.floorDiv, true, "rfloordiv")
  | "mod" => some (.mod, false, "mod")
  | "rmod" => some (.mod, true, "rmod")
  | "pow" => some (.pow, false, "pow")
  | "rpow" => some (.pow, true, "rpow")
  | _ => none

/-- The flexible comparison methods. -/
def flexRel (name : String) : Option Rel :=
  match name with
  | "eq" => some .eq
  | "ne" => some .ne
  | "lt" => some .lt
  | "gt" => some .gt
  | "le" => some .le
  | "ge" => some .ge
  | _ => none

/-- The parameter list of a series method, if series have a method of that name. -/
def seriesSignature (name : String) : Option Signature :=
  let stat := ["axis", "skipna", "numeric_only"]
  match name with
  | "any" | "all" =>
    some ⟨s!"Series.{name}", ["self"], 1, [("axis", true), ("bool_only", true), ("skipna", true)],
      false, true⟩
  | "min" | "max" | "mean" | "median" | "skew" => some (seriesMethod s!"Series.{name}" stat 0 false true)
  | "kurt" | "kurtosis" => some (seriesMethod "Series.kurt" stat 0 false true)
  | "sum" => some (seriesMethod "Series.sum" (stat ++ ["min_count"]) 0 false true)
  | "prod" | "product" => some (seriesMethod "Series.prod" (stat ++ ["min_count"]) 0 false true)
  | "sem" | "var" | "std" =>
    some (seriesMethod s!"Series.{name}" ["axis", "skipna", "ddof", "numeric_only"] 0 false true)
  | "count" => some (seriesMethod "Series.count" [] 0 false false)
  | "nunique" => some (seriesMethod "IndexOpsMixin.nunique" ["dropna"] 0 false false)
  | "idxmax" | "idxmin" => some (seriesMethod s!"Series.{name}" ["axis", "skipna"] 0 true true)
  | "argmax" | "argmin" => some (seriesMethod s!"IndexOpsMixin.{name}" ["axis", "skipna"] 0 true true)
  | "cumsum" | "cumprod" | "cummax" | "cummin" =>
    some (seriesMethod s!"Series.{name}" ["axis", "skipna"] 0 true true)
  | "shift" =>
    some (seriesMethod "NDFrame.shift" ["periods", "freq", "axis", "fill_value", "suffix"] 0 false false)
  | "diff" => some (seriesMethod "Series.diff" ["periods"] 0 false false)
  | "round" => some (seriesMethod "Series.round" ["decimals"] 0 true true)
  | "clip" => some ⟨"NDFrame.clip", ["self", "lower", "upper"], 1, [("axis", true), ("inplace", true)],
      false, true⟩
  | "where" | "mask" =>
    some ⟨s!"NDFrame.{name}", ["self", "cond", "other"], 2,
      [("inplace", true), ("axis", true), ("level", true)], false, false⟩
  | "fillna" =>
    some ⟨"NDFrame.fillna", ["self", "value"], 1,
      [("method", true), ("axis", true), ("inplace", true), ("limit", true), ("downcast", true)],
      false, false⟩
  | "ffill" | "bfill" =>
    some ⟨s!"NDFrame.{name}", ["self"], 1,
      [("axis", true), ("inplace", true), ("limit", true), ("limit_area", true), ("downcast", true)],
      false, false⟩
  | "pad" | "backfill" =>
    some ⟨s!"NDFrame.{name}", ["self"], 1,
      [("axis", true), ("inplace", true), ("limit", true), ("downcast", true)], false, false⟩
  | "isna" | "isnull" | "notna" | "notnull" => some (seriesMethod s!"Series.{name}" [] 0 false false)
  | "replace" =>
    some ⟨"NDFrame.replace", ["self", "to_replace", "value"], 1,
      [("inplace", true), ("limit", true), ("regex", true), ("method", true)], false, false⟩
  | "between" => some (seriesMethod "Series.between" ["left", "right", "inclusive"] 2 false false)
  | "isin" => some (seriesMethod "Series.isin" ["values"] 1 false false)
  | "abs" => some (seriesMethod "NDFrame.abs" [] 0 false false)
  | _ =>
    match flexArith name, flexRel name with
    | some (_, _, qual), _ => some (seriesMethod s!"Series.{qual}" ["other", "level", "fill_value", "axis"] 1 false false)
    | none, some _ => some (seriesMethod s!"Series.{name}" ["other", "level", "fill_value", "axis"] 1 false false)
    | none, none => none

/-- Whether series have a method of a name. -/
def isSeriesMethod (name : String) : Bool := (seriesSignature name).isSome

/-! ### Arguments -/

/-- The value given for a parameter, or its default. -/
def Bound.getD (b : Bound) (p : String) (d : Obj) : Obj := (b.get? p).getD d

/-- The `None` value. -/
def noneObj : Obj := .plain .none

/-- A count argument such as `min_count`, rounded up to an integer. -/
def countArg (v : Obj) : Outcome Int :=
  match v.cell? with
  | some (.int i) => .ok i
  | some (.bool b) => .ok (if b then 1 else 0)
  | some (.float f) =>
    if f.isNaN then .ok 0 else if f.isInf then .ok (if f > 0 then int64Max else int64Min)
    else .ok (Decimal.truncate f.ceil)
  | _ => typeError s!"'>' not supported between instances of '{v.typeName}' and 'int'"

/-- A number argument such as `ddof`, as a float. -/
def floatArg (v : Obj) : Outcome Float :=
  match v.cell? with
  | some (.int i) => .ok (Decimal.intToFloat i)
  | some (.bool b) => .ok (if b then 1.0 else 0.0)
  | some (.float f) => .ok f
  | _ => typeError s!"unsupported operand type(s) for -: 'float' and '{v.typeName}'"

/-- An integer argument such as `decimals`: integers and truth values only. -/
def integerArg (v : Obj) : Outcome Int :=
  match v.cell? with
  | some (.int i) => .ok i
  | some (.bool b) => .ok (if b then 1 else 0)
  | _ => typeError s!"'{v.typeName}' object cannot be interpreted as an integer"

/-- An integer argument passed on as a C `int`: beyond a C `long` it does not convert, and
beyond 32 bits it is out of range. -/
def cIntArg (i : Int) : Outcome Int :=
  if !fitsInt64 i then fail .overflow "Python int too large to convert to C long"
  else if i > 2147483647 then fail .overflow "signed integer is greater than maximum"
  else if i < -2147483648 then fail .overflow "signed integer is less than minimum"
  else .ok i

/-! ### Reductions -/

/-- The checks a reduction makes before computing: its compatibility arguments, the `skipna`
flag, the axis, and the flag restricting it to numbers (named `numericName`) against the
storage. Gives whether missing values are skipped. -/
def reductionChecks (c : Column) (name : String) (b : Bound) (compat : List (String × Cell))
    (counted : Option Nat) (numericName : String) : Outcome Bool := do
  checkCompat name compat [] b.extraNamed counted
  let skip ← checkFlag "skipna" (b.getD "skipna" (.plain (.bool true)))
  checkAxisOrNone (b.getD "axis" noneObj)
  let numericOnly := b.getD numericName (.plain (.bool false))
  if (← numericOnly.truth) && !c.dtype.isNumeric then
    typeError s!"Series.{name} does not allow {numericName}={numericOnly.text} with non-numeric dtypes."
  return skip

/-- Checks the axis of a place-of-extreme method: below the one dimension a series has. -/
def checkArgAxis (axis : Obj) : Outcome Unit := do
  match axis.cell? with
  | some .none => pure ()
  | some a =>
    let tooHigh ← cellCompare .ge a (.int 1)
    let tooLow := (← cellCompare .lt a (.int 0)) && (← cellCompare .lt (← cellArith .add (.int 1) a) (.int 0))
    if tooHigh || tooLow then
      fail .value "`axis` must be fewer than the number of dimensions (1)"
  | none => typeError s!"'>=' not supported between instances of '{axis.typeName}' and 'int'"

/-- The label of a row, as a value. -/
def rowLabel (rows : Column) (i : Nat) : Obj :=
  match rows with
  | .float64 vs => .fixed (.float64 (vs.getD i 0.0))
  | rows => .plain (rows.cell i)

/-- Calls a reduction of a series. -/
def reduceSeries (rows : Column) (c : Column) (name : String) (b : Bound) : Outcome Obj := do
  match name with
  | "sum" | "prod" | "product" =>
    let fname := if name == "sum" then "sum" else "prod"
    let skip ← reductionChecks c fname b sumDefaults (some 1) "numeric_only"
    let minCount ← countArg (b.getD "min_count" (.plain (.int 0)))
    if fname == "sum" then seriesSum c skip minCount else seriesProduct c skip minCount
  | "min" | "max" =>
    let skip ← reductionChecks c name b extremeDefaults (some 1) "numeric_only"
    seriesExtreme (name == "max") c skip
  | "mean" =>
    let skip ← reductionChecks c name b sumDefaults (some 1) "numeric_only"
    seriesMean c skip
  | "median" =>
    let skip ← reductionChecks c name b medianDefaults (some 1) "numeric_only"
    seriesMedian c skip
  | "skew" =>
    let skip ← reductionChecks c name b statDefaults none "numeric_only"
    if c matches .float16 _ then return ← halfSkew c skip
    return .fixed (.float64 (← seriesSkew c skip))
  | "kurt" | "kurtosis" =>
    let skip ← reductionChecks c "kurt" b statDefaults none "numeric_only"
    if c matches .float16 _ then return ← halfKurt c skip
    return .fixed (.float64 (← seriesKurt c skip))
  | "var" | "std" | "sem" =>
    let skip ← reductionChecks c name b statDefaults none "numeric_only"
    let ddof ← floatArg (b.getD "ddof" (.plain (.int 1)))
    if c matches .float16 _ then
      if !skip && c.nulls.any id then return .plain (.float nan)
      let v := Decimal.roundToHalf (← seriesVariance c skip ddof)
      let count := (presentCount c skip).toFloat
      let count := if count ≤ ddof then nan else count
      return .fixed (.float16 (match name with
        | "var" => v
        | "std" => Decimal.toHalf v.sqrt
        | _ => Decimal.toHalf (Decimal.toHalf v.sqrt / Decimal.toHalf count.sqrt)))
    let v ← if name == "sem" then seriesSem c skip ddof else seriesVariance c skip ddof
    return .fixed (.float64 (if name == "std" then v.sqrt else v))
  | "any" | "all" =>
    let skip ← reductionChecks c name b logicalDefaults none "bool_only"
    return .fixed (.bool (seriesTest (name == "all") c skip))
  | "count" => return .fixed (.int64 (presentCount c true))
  | "nunique" =>
    let dropna ← (b.getD "dropna" (.plain (.bool true))).truth
    return .plain (.int (distinctCount c dropna))
  | _ =>
    let greatest := name == "argmax" || name == "idxmax"
    let labels := name == "idxmax" || name == "idxmin"
    let fname := if greatest then "argmax" else "argmin"
    if labels then checkAxis (b.getD "axis" (.plain (.int 0)))
    else checkArgAxis (b.getD "axis" noneObj)
    let skipObj := b.getD "skipna" (.plain (.bool true))
    let (skipObj, extra) := if skipObj matches .plain .none then (.plain (.bool true), noneObj :: b.extra)
      else (skipObj, b.extra)
    checkCompat fname outDefault extra b.extraNamed (some 1)
    let i ← seriesArgExtreme greatest c (← skipObj.truth)
    if !labels then return .fixed (.int64 i)
    else if i < 0 then return .plain (.float nan)
    else return rowLabel rows i.toNat

/-- Whether a method is a reduction. -/
def isReduction (name : String) : Bool :=
  ["sum", "prod", "product", "min", "max", "mean", "median", "skew", "kurt", "kurtosis", "var",
   "std", "sem", "any", "all", "count", "nunique", "argmax", "argmin", "idxmax", "idxmin"].contains name

/-! ### Other methods -/

/-- The running operation of a method name. -/
def runningOf (name : String) : Running :=
  match name with
  | "cumsum" => .sum
  | "cumprod" => .prod
  | "cummax" => .max
  | _ => .min

/-- The value of a result that a method gives back in place of the series when it works in
place: nothing. -/
def inPlace (inplace : Bool) (c : Column) : Obj := if inplace then noneObj else .series c

/-- The condition of a replacement: a series or list of truth values as long as the series
(missing values count as false). -/
def conditionOf (n : Nat) (cond : Obj) : Outcome (Array Bool) :=
  match cond with
  | .series c =>
    match c with
    | .bool vs => .ok vs
    | .object vs =>
      let kept := vs.map fun x => if x.isNull then Cell.bool false else x
      if kept.all (fun x => x matches .bool _) then .ok (kept.map Cell.truthy)
      else fail .value "Boolean array expected for the condition, not object"
    | .float64 vs =>
      if vs.all Float.isNaN then .ok (Array.replicate vs.size false)
      else fail .value "Boolean array expected for the condition, not float64"
    | c => fail .value s!"Boolean array expected for the condition, not {c.dtype.name}"
  | .list items =>
    if items.length != n then fail .value "Array conditional must be same shape as self"
    else
      let cells := items.map fun o => (o.cell?).getD .none
      if cells.all (fun x => x matches .bool _) then .ok (cells.map Cell.truthy).toArray
      else fail .value "Boolean array expected for the condition, not object"
  | _ => fail .value "Array conditional must be same shape as self"

/-- The replacement values of `where` and `mask`, place by place. -/
def otherOf (other : Obj) : Nat → Cell :=
  match other with
  | .series c => c.cell
  | .list items => fun i => ((items.getD i noneObj).cell?).getD .none
  | o => fun _ => (o.cell?).getD .none

/-- A flexible operator method: the other operand may be a scalar, a list or a series, and
`fill_value` fills missing values on one side first. -/
def flexCall (c : Column) (apply : Obj → Obj → Outcome Obj) (swapped : Bool) (b : Bound) :
    Outcome Obj := do
  checkAxisOrNone (b.getD "axis" (.plain (.int 0)))
  let other := b.getD "other" noneObj
  let fill := b.getD "fill_value" noneObj
  let run (x y : Obj) := if swapped then apply y x else apply x y
  let hasFill := !(fill matches .plain .none)
  let partner : Option Column := match other with
    | .series o => some o
    | .list items => some (listColumn items)
    | _ => none
  match partner with
  | some o =>
    if o.size != c.size then fail .value "Lengths must be equal"
    else if hasFill then
      let f := (fill.cell?).getD .none
      let lm := c.nulls
      let rm := o.nulls
      let left ← seriesWhere c ((lm.zip rm).map fun (a, z) => !(a && !z)) (fun _ => f) false
      let right ← seriesWhere o ((lm.zip rm).map fun (a, z) => !(z && !a)) (fun _ => f) false
      run (.series left) (.series right)
    else run (.series c) (.series o)
  | none =>
    if hasFill then
      if ((other.cell?).map Cell.isNull).getD false then run (.series c) fill
      else run (.series (← seriesFill c ((fill.cell?).getD .none) none)) other
    else run (.series c) other

/-- The absolute values of a column. -/
def absColumn (c : Column) : Outcome Column :=
  match c with
  | .int64 vs => .ok (.int64 (vs.map fun v => wrap64 v.natAbs))
  | .uint64 _ | .bool _ => .ok c
  | .float64 vs => .ok (.float64 (vs.map Float.abs))
  | .float16 vs => .ok (.float16 (vs.map Float.abs))
  | .object vs => (vs.mapM cellAbs).map .object
  | .complex128 vs => .ok (.float64 (vs.map fun (re, im) => Number.hypot re im))

/-- The area of a fill by neighbours: every missing value when none is given, those outside
the present values for the text "outside", and those inside them for any other text. -/
def fillAreaArg (o : Obj) : FillArea :=
  match o with
  | .plain .none => .anywhere
  | .plain (.str "outside") => .outside
  | _ => .inside

/-- Calls a method of a series that is no reduction, its arguments bound. -/
def transformSeries (c : Column) (name : String) (b : Bound) : Outcome Obj := do
  let n := c.size
  match name with
  | "cumsum" | "cumprod" | "cummax" | "cummin" =>
    let skipObj := b.getD "skipna" (.plain (.bool true))
    let skipTruth ← skipObj.truth
    let (skip, extra) := if skipObj.isBool then (skipTruth, b.extra)
      else (true, skipObj :: b.extra)
    checkCompat name runningDefaults extra b.extraNamed (some 1)
    checkAxisOrNone (b.getD "axis" noneObj)
    return .series (← seriesRunning (runningOf name) c skip)
  | "shift" =>
    checkAxis (b.getD "axis" (.plain (.int 0)))
    let freq := b.getD "freq" noneObj
    let fill := b.get? "fill_value"
    if !(freq matches .plain .none) && fill.isSome then
      fail .value "Cannot pass both 'freq' and 'fill_value' to Series.shift"
    let periods := b.getD "periods" (.plain (.int 1))
    match periods.cell? with
    | some p =>
      if p.isNumber && p.same (.int 0) then return .series c
      if !(freq matches .plain .none) then
        fail .value "Freq was not set in the index hence cannot be inferred"
      let fillCell ← match fill with
        | none => pure none
        | some f => match f.cell? with
          | some x => pure (some x)
          | none =>
            if c.dtype == .object then pure (some .none)
            else fail .value "fill_value must be a scalar"
      match p with
      | .int k => return .series (← seriesShift c k fillCell)
      | .bool k => return .series (← seriesShift c (if k then 1 else 0) fillCell)
      | .float _ => typeError "slice indices must be integers or None or have an __index__ method"
      | .str s => fail .value s!"invalid literal for int() with base 10: {Text.quoteText s}"
      | .none => typeError "int() argument must be a string, a bytes-like object or a real number, not 'NoneType'"
      | .complex _ _ => typeError "int() argument must be a string, a bytes-like object or a real number, not 'complex'"
      | .bytes t => fail .value s!"invalid literal for int() with base 10: {Cell.bytesText t}"
      | c => typeError s!"int() argument must be a string, a bytes-like object or a real number, not '{c.typeName}'"
    | none => typeError s!"int() argument must be a string, a bytes-like object or a real number, not '{periods.typeName}'"
  | "diff" =>
    let periods := b.getD "periods" (.plain (.int 1))
    let k ← match periods.cell? with
      | some (.int k) => pure k
      | some (.float f) =>
        if !f.isNaN && !f.isInf && f == f.round then pure (Decimal.truncate f)
        else fail .value "periods must be an integer"
      | _ => fail .value "periods must be an integer"
    let numeric := match c with
      | .int64 _ | .uint64 _ | .float64 _ => true
      | _ => false
    if numeric && !fitsInt64 k then fail .overflow "Python int too large to convert to C ssize_t"
    return .series (← seriesDiff c k)
  | "round" =>
    checkCompat "round" outDefault b.extra b.extraNamed (some 1)
    if c.dtype == .object then typeError "Expected numeric dtype, got object instead."
    match c with
    | .bool _ => return .series c
    | _ => return .series (seriesRound c (← cIntArg (← integerArg (b.getD "decimals" (.plain (.int 0))))))
  | "clip" =>
    let inplace ← checkFlagOrNone "inplace" (b.getD "inplace" (.plain (.bool false)))
    checkCompat "clip" outDefault [] b.extraNamed (some 3)
    checkAxisOrNone (b.getD "axis" noneObj)
    let r ← seriesClip c (b.getD "lower" noneObj) (b.getD "upper" noneObj)
    return inPlace inplace r
  | "where" | "mask" =>
    let inplace ← checkFlagOrNone "inplace" (b.getD "inplace" (.plain (.bool false)))
    checkAxisOrNone (b.getD "axis" noneObj)
    let cond ← match b.getD "cond" noneObj with
      | .series (.bool vs) => pure (.series (.bool (if name == "mask" then vs.map (!·) else vs)))
      | o =>
        if name == "mask" then
          match o with
          | .series (.int64 vs) => pure (.series (.int64 (vs.map fun v => -v - 1)))
          | o => pure o
        else pure o
    let keep ← conditionOf n cond
    let other := b.getD "other" (.plain (.float nan))
    return inPlace inplace (← seriesWhere c keep (otherOf other) true)
  | "fillna" =>
    let inplace ← checkFlagOrNone "inplace" (b.getD "inplace" (.plain (.bool false)))
    let value := b.getD "value" noneObj
    let method := b.getD "method" noneObj
    let hasValue := !(value matches .plain .none)
    let hasMethod := !(method matches .plain .none)
    if !hasValue && !hasMethod then fail .value "Must specify a fill 'value' or 'method'."
    if hasValue && hasMethod then fail .value "Cannot specify both 'value' and 'method'."
    let forward ← if hasMethod then fillMethod method else pure true
    if hasValue then
      match value with
      | .list _ =>
        typeError s!"\"value\" parameter must be a scalar or dict, but you passed a \"{value.typeName}\""
      | _ => pure ()
    checkAxisOrNone (b.getD "axis" noneObj)
    let limit ← limitArg (b.getD "limit" noneObj)
    if hasMethod then return inPlace inplace (← padChecked c forward limit .anywhere)
    match value with
    | .series v =>
      let fills ← seriesWhere c (c.nulls.map (!·)) v.cell false
      return inPlace inplace (match fills with
        | .object vs => storeMixed vs
        | col => col)
    | v => return inPlace inplace (← seriesFill c ((v.cell?).getD .none) limit)
  | "ffill" | "bfill" | "pad" | "backfill" =>
    let inplace ← checkFlagOrNone "inplace" (b.getD "inplace" (.plain (.bool false)))
    checkAxisOrNone (b.getD "axis" noneObj)
    let limit ← limitArg (b.getD "limit" noneObj)
    let forward := name == "ffill" || name == "pad"
    let area := fillAreaArg (b.getD "limit_area" noneObj)
    return inPlace inplace (← padChecked c forward limit area)
  | "replace" =>
    let inplace ← checkFlagOrNone "inplace" (b.getD "inplace" (.plain (.bool false)))
    let toReplace := b.getD "to_replace" noneObj
    let regexArg := b.getD "regex" (.plain (.bool false))
    let regex : Option Bool := match regexArg with
      | .plain (.bool r) | .fixed (.bool r) => some r
      | _ => none
    if regex.isNone && !(toReplace matches .plain .none) then
      fail .value "'to_replace' must be 'None' if 'regex' is not a bool"
    let cellsOf (o : Obj) : List Cell := match o with
      | .list items => items.map fun i => (i.cell?).getD .none
      | .series col => col.cells.toList
      | o => [(o.cell?).getD .none]
    let listed (o : Obj) : Bool := o matches .list _ || o matches .series _
    match b.get? "value", b.get? "method" with
    | some value, none =>
      if listed toReplace then
        let sources := cellsOf toReplace
        let dests := if listed value then cellsOf value
          else List.replicate sources.length ((value.cell?).getD .none)
        if dests.length != sources.length then
          fail .value s!"Replacement lists must match in length. Expecting {sources.length} got {dests.length} "
        return inPlace inplace (← replacePairs c (sources.zip dests) (regex.getD false))
      else if toReplace matches .plain .none then
        match regexArg with
        | .plain (.str p) =>
          if c.dtype != .object || p.isEmpty then return inPlace inplace c
          return inPlace inplace (← regexReplace c (← replacePattern p) ((value.cell?).getD .none) none)
        | .list _ =>
          let sources := cellsOf regexArg
          let dests := if listed value then cellsOf value
            else List.replicate sources.length ((value.cell?).getD .none)
          return inPlace inplace (← replacePairs c (sources.zip dests) true)
        | o => typeError s!"'regex' must be a string or a compiled regular expression or a list or dict of strings or regular expressions, you passed a '{o.typeName}'"
      else if listed value then typeError s!"Invalid \"to_replace\" type: '{toReplace.typeName}'"
      else
        let target := (toReplace.cell?).getD .none
        let v := (value.cell?).getD .none
        if usesPattern (regex.getD false) target then
          if c.dtype != .object then return inPlace inplace c
          let p := match target with | .str t => t | _ => ""
          return inPlace inplace (← regexReplace c (← replacePattern p) v none)
        else return inPlace inplace (← replaceValue c target v)
    | _, method =>
      let forward ← match method.getD (.plain (.str "pad")) with
        | .plain (.str "pad") | .plain (.str "ffill") => pure true
        | .plain (.str "backfill") | .plain (.str "bfill") => pure false
        | o =>
          let shown := match o.cell? with | some x => x.text | none => o.className
          fail .value s!"Invalid fill method. Expecting pad (ffill) or backfill (bfill). Got {shown}"
      let limit ← limitArg (b.getD "limit" noneObj)
      let mask := (cellsOf toReplace).foldl (fun m t => Array.zipWith (· || ·) m (replaceMask c t))
        (Array.replicate n false)
      return inPlace inplace (padReplaced c mask forward limit)
  | "isna" | "isnull" => return .series (.bool c.nulls)
  | "notna" | "notnull" => return .series (.bool (c.nulls.map (!·)))
  | "between" =>
    let lo := b.getD "left" noneObj
    let hi := b.getD "right" noneObj
    let inclusive := b.getD "inclusive" (.plain (.str "both"))
    let bounds : Option (Rel × Rel) := match inclusive with
      | .plain (.str "both") => some (.ge, .le)
      | .plain (.str "neither") => some (.gt, .lt)
      | .plain (.str "left") => some (.ge, .lt)
      | .plain (.str "right") => some (.gt, .le)
      | _ => none
    match bounds with
    | some (lr, hr) =>
      let a ← evalRel lr (.series c) lo
      let z ← evalRel hr (.series c) hi
      evalLogical true a z
    | none =>
      fail .value "Inclusive has to be either string of 'both','left', 'right', or 'neither'."
  | "isin" => seriesIsin c (b.getD "values" noneObj)
  | "abs" => return .series (← absColumn c)
  | _ =>
    match flexArith name, flexRel name with
    | some (op, swapped, _), _ => flexCall c (evalArith op) swapped b
    | none, some rel => flexCall c (evalRel rel) false b
    | none, none => fail .attribute s!"'Series' object has no attribute '{name}'"
where
  /-- The direction of a fill method: forward for `pad` and `ffill`. -/
  fillMethod (method : Obj) : Outcome Bool := do
    let text := match method with
      | .plain (.str s) => some (String.ofList (s.toList.map Char.toLower))
      | _ => none
    match text with
    | some "pad" | some "ffill" => pure true
    | some "backfill" | some "bfill" => pure false
    | some s => fail .value s!"Invalid fill method. Expecting pad (ffill) or backfill (bfill). Got {s}"
    | none => fail .value s!"Invalid fill method. Expecting pad (ffill) or backfill (bfill). Got {method.text}"
  /-- The limit of a fill: at most that many missing values in a row. -/
  limitArg (limit : Obj) : Outcome (Option Nat) :=
    match limit.cell? with
    | some .none => .ok none
    | some (.int l) => .ok (some l.toNat)
    | some (.bool k) => .ok (some (if k then 1 else 0))
    | _ => fail .value "Limit must be an integer"
  /-- Fills by neighbours, checking the limit where the series can hold missing values. -/
  padChecked (c : Column) (forward : Bool) (limit : Option Nat) (area : FillArea) :
      Outcome Column := do
    match c with
    | .float64 _ | .float16 _ | .object _ =>
      if limit == some 0 then fail .value "Limit must be greater than 0"
      return seriesPadIn c forward limit area
    | c => return c

/-- Calls a method of a series labelled `rows` with the arguments of a call. -/
def callPlainSeries (rows : Column) (c : Column) (name : String) (args : List Obj)
    (named : List (String × Obj)) : Outcome Obj := do
  match seriesSignature name with
  | none => fail .attribute s!"'Series' object has no attribute '{name}'"
  | some sig =>
    let b ← sig.bind args named
    if isReduction name then reduceSeries rows c name b else transformSeries c name b

end Dataflow.Eval
