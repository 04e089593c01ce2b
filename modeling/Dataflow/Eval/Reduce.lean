import Dataflow.Eval.Arguments
import Dataflow.Number.Sum
import Dataflow.Number.Parse
/-!
# Reductions of series

A reduction turns a series into one value: its sum, product, extremes, mean, median, spread,
skewness, the place of its extremes, and counts. Each works by the storage kind of the
series, as the numeric library underneath the tables does:

* integers and truth values have no missing values; integers wrap on 64 bits;
* floats skip NaN when `skip` is set (by filling it with a neutral value and counting only
  the values present), and otherwise let NaN spread into the result;
* mixed values are combined by the expression language's own operators, missing values
  filled likewise when `skip` is set; where a mixed series must become floats, missing values
  become NaN and texts are read as numbers or refused.

Sums and products are NaN when fewer than `minCount` values are present. Floats are summed in
the pairwise order of `floatSum`.
-/

namespace Dataflow.Eval

/-- NaN. -/
def nan : Float := 0.0 / 0.0

/-- Floats with NaN replaced by a value. -/
def fillNaN (fill : Float) (a : Array Float) : Array Float :=
  a.map fun f => if f.isNaN then fill else f

/-- How many values of a series count as present: those not missing when `skip` is set, all
of them otherwise. -/
def presentCount (c : Column) (skip : Bool) : Nat :=
  if skip then (c.nulls.filter (!·)).size else c.size

/-- A mixed value as a float, as the numeric library casts it: nothing is NaN, truth values
are `0` and `1`, texts are read as numbers. -/
def castCell (x : Cell) : Outcome Float :=
  match x with
  | .none => .ok nan
  | .bool b => .ok (if b then 1.0 else 0.0)
  | .int i => toFloatChecked i
  | .float f => .ok f
  | .str s => match Decimal.readFloat s with
    | some f => .ok f
    | none => fail .value s!"could not convert string to float: {Text.quoteText s}"
  | .complex _ _ => typeError "float() argument must be a string or a real number, not 'complex'"
  | .bytes s => match Decimal.readFloat s with
    | some f => .ok f
    | none => fail .value s!"could not convert string to float: {Cell.bytesText s}"
  | .other cls _ _ => typeError s!"float() argument must be a string or a real number, not '{cls}'"
  | .seq _ _ => fail .value "setting an array element with a sequence."

/-- The values of a series as floats, mixed values cast by `castCell`. -/
def castFloats (c : Column) : Outcome (Array Float) :=
  match c with
  | .object vs => vs.mapM castCell
  | c => .ok c.floats

/-- Combines mixed values one after another from the first; `unit` when there are none. -/
def foldCells (op : Arith) (unit : Cell) (vs : List Cell) : Outcome Cell :=
  match vs with
  | [] => .ok unit
  | v :: rest => rest.foldlM (fun acc x => cellArith op acc x) v

/-- Mixed values with the missing ones replaced by `fill` when `skip` is set. -/
def fillCells (skip : Bool) (fill : Cell) (vs : Array Cell) : List Cell :=
  vs.toList.map fun x => if skip && x.isNull then fill else x

/-- The product of floats, one after another. -/
def floatProduct (a : Array Float) : Float := a.foldl (· * ·) 1.0

/-- A result replaced by NaN when fewer than `minCount` values are present. -/
def nullBelow (c : Column) (skip : Bool) (minCount : Int) (r : Obj) : Obj :=
  if minCount > 0 && (presentCount c skip : Int) < minCount then
    match c with
    | .float64 _ => .fixed (.float64 nan)
    | .float16 _ => .fixed (.float16 nan)
    | _ => .plain (.float nan)
  else r

/-! ### Sums and products -/

/-- The sum of half-precision values: pairwise in single precision, rounded to half precision
at the end. -/
def halfSum (vs : Array Float) : Float :=
  Decimal.roundToHalf (floatSum32 (vs.map Float.toFloat32)).toFloat

/-- The product of half-precision values: one after another in single precision, rounded to
half precision at the end. -/
def halfProduct (vs : Array Float) : Float :=
  Decimal.roundToHalf (vs.foldl (fun (acc : Float32) x => acc * x.toFloat32) 1.0).toFloat

/-- The sum of a series. -/
def seriesSum (c : Column) (skip : Bool) (minCount : Int) : Outcome Obj := do
  let r ← match c with
    | .int64 vs => pure (Obj.fixed (.int64 (wrap64 (vs.foldl (· + ·) 0))))
    | .uint64 vs => pure (.fixed (.int64 (wrapU64 (vs.foldl (fun a (b : Nat) => a + (b : Int)) 0))))
    | .bool vs => pure (.fixed (.int64 (vs.filter id).size))
    | .float64 vs => pure (.fixed (.float64 (floatSum (if skip then fillNaN 0.0 vs else vs))))
    | .float16 vs => pure (.fixed (.float16 (halfSum (if skip then fillNaN 0.0 vs else vs))))
    | c => (foldCells .add (.int 0) (fillCells skip (.int 0) c.cells)).map .plain
  return nullBelow c skip minCount r

/-- The product of a series. -/
def seriesProduct (c : Column) (skip : Bool) (minCount : Int) : Outcome Obj := do
  let r ← match c with
    | .int64 vs => pure (Obj.fixed (.int64 (vs.foldl (fun a b => wrap64 (a * b)) 1)))
    | .uint64 vs => pure (.fixed (.int64 (wrapU64 (vs.foldl (fun a (b : Nat) => a * (b : Int)) 1))))
    | .bool vs => pure (.fixed (.int64 (if vs.all id then 1 else 0)))
    | .float64 vs => pure (.fixed (.float64 (floatProduct (if skip then fillNaN 1.0 vs else vs))))
    | .float16 vs => pure (.fixed (.float16 (halfProduct (if skip then fillNaN 1.0 vs else vs))))
    | c => (foldCells .mul (.int 1) (fillCells skip (.int 1) c.cells)).map .plain
  return nullBelow c skip minCount r

/-! ### Extremes -/

/-- The greater (or lesser) of two floats as the numeric library picks it: NaN wins. -/
def floatPick (greatest : Bool) (a b : Float) : Float :=
  if a.isNaN then a else if b.isNaN then b
  else if greatest then (if b > a then b else a) else (if b < a then b else a)

/-- The greatest (or least) of a series; NaN when no value is present. -/
def seriesExtreme (greatest : Bool) (c : Column) (skip : Bool) : Outcome Obj :=
  let empty := c.size == 0 || presentCount c skip == 0
  if empty then
    .ok (match c with
      | .float64 _ => if c.size == 0 then .plain (.float nan) else .fixed (.float64 nan)
      | .float16 _ => if c.size == 0 then .plain (.float nan) else .fixed (.float16 nan)
      | _ => .plain (.float nan))
  else match c with
  | .int64 vs => .ok (.fixed (.int64 (vs.foldl (fun a b => if greatest then max a b else min a b)
      (vs.getD 0 0))))
  | .uint64 vs => .ok (.fixed (.int64 (vs.foldl (fun a (b : Nat) => if greatest then max a b else min a b)
      (vs.getD 0 0))))
  | .bool vs => .ok (.fixed (.bool (if greatest then vs.any id else vs.all id)))
  | .float64 vs =>
    let fill := if greatest then -1.0 / 0.0 else 1.0 / 0.0
    let xs := if skip then fillNaN fill vs else vs
    .ok (.fixed (.float64 (xs.foldl (floatPick greatest) (xs.getD 0 0.0))))
  | .float16 vs =>
    let fill := if greatest then -1.0 / 0.0 else 1.0 / 0.0
    let xs := if skip then fillNaN fill vs else vs
    .ok (.fixed (.float16 (xs.foldl (floatPick greatest) (xs.getD 0 0.0))))
  | c =>
    let fill : Cell := .float (if greatest then -1.0 / 0.0 else 1.0 / 0.0)
    let rel := if greatest then Rel.ge else .le
    match fillCells skip fill c.cells with
    | [] => .ok (.plain (.float nan))
    | v :: rest => (rest.foldlM (fun a b => do
        if ← cellCompare rel a b then pure a else pure b) v).map .plain

/-- The place of the greatest (or least) value of a series, the first of equals; `-1` when
values are missing and `skip` is not set, or when all are missing. -/
def seriesArgExtreme (greatest : Bool) (c : Column) (skip : Bool) : Outcome Int := do
  let nulls := c.nulls
  let anyNull := nulls.any id
  let allNull := nulls.all id
  let place ← match c with
    | .object vs =>
      let fill : Cell := .float (if greatest then -1.0 / 0.0 else 1.0 / 0.0)
      let xs := fillCells true fill vs
      let rel := if greatest then Rel.gt else .lt
      let step (acc : Nat × Cell) (p : Nat × Cell) : Outcome (Nat × Cell) := do
        if ← cellCompare rel p.2 acc.2 then pure p else pure acc
      match xs.zipIdx.map (fun (x, i) => (i, x)) with
      | [] => pure 0
      | first :: rest => do
        let (i, _) ← rest.foldlM step first
        pure i
    | .int64 vs =>
      let better (a b : Int) : Bool := if greatest then b > a else b < a
      let (i, _) := vs.zipIdx.foldl (fun (acc : Nat × Int) (x, i) =>
        if better acc.2 x then (i, x) else acc) (0, vs.getD 0 0)
      pure i
    | c =>
      let fill := if greatest then -1.0 / 0.0 else 1.0 / 0.0
      let xs := fillNaN fill c.floats
      let better (a b : Float) : Bool := if greatest then b > a else b < a
      let (i, _) := xs.zipIdx.foldl (fun (acc : Nat × Float) (x, i) =>
        if better acc.2 x then (i, x) else acc) (0, xs.getD 0 0.0)
      pure i
  if c.size == 0 then return -1
  if (skip && allNull) || (!skip && anyNull) then return -1
  return place

/-! ### Means and medians -/

/-- A mixed sum as a number for averaging, or the failure to read it as one. -/
def numericCell (x : Cell) : Outcome Float :=
  match x with
  | .str s => typeError s!"Could not convert string '{s}' to numeric"
  | .float f => .ok f
  | .none => typeError "complex() first argument must be a string or a number, not 'NoneType'"
  | x => match x.asInt? with
    | some i => toFloatChecked i
    | none => .ok nan

/-- The mean of a series; NaN when no value is present. -/
def seriesMean (c : Column) (skip : Bool) : Outcome Obj := do
  if c.size == 0 then return .plain (.float nan)
  let count := presentCount c skip
  let divide (s : Float) : Obj :=
    if count == 0 then .plain (.float nan) else .fixed (.float64 (s / count.toFloat))
  match c with
  | .float64 vs => return divide (floatSum (if skip then fillNaN 0.0 vs else vs))
  | .float16 vs =>
    if count == 0 then return .plain (.float nan)
    return .fixed (.float16 (Decimal.toHalf (halfSum (if skip then fillNaN 0.0 vs else vs) / count.toFloat)))
  | .int64 _ | .uint64 _ => return divide (floatSum c.floats)
  | .bool vs => return divide (vs.filter id).size.toFloat
  | c =>
    let s ← foldCells .add (.int 0) (fillCells skip (.int 0) c.cells)
    return divide (← numericCell s)

/-- The median of floats that are not missing; NaN when there are none. -/
def floatMedian (vs : Array Float) : Float :=
  let sorted := (vs.toList.filter (!·.isNaN)).mergeSort (fun a b => a ≤ b)
  let n := sorted.length
  if n == 0 then nan
  else if n % 2 == 1 then sorted.getD (n / 2) 0.0
  else (sorted.getD (n / 2 - 1) 0.0 + sorted.getD (n / 2) 0.0) / 2.0

/-- The median of half-precision values that are not missing: the middle one, or the mean of
the two middle ones in single precision, rounded to half precision; NaN when there are none. -/
def halfMedian (vs : Array Float) : Float :=
  let sorted := (vs.toList.filter (!·.isNaN)).mergeSort (fun a b => a ≤ b)
  let n := sorted.length
  if n == 0 then nan
  else if n % 2 == 1 then sorted.getD (n / 2) 0.0
  else Decimal.toHalf ((sorted.getD (n / 2 - 1) 0.0 + sorted.getD (n / 2) 0.0) / 2.0)

/-- How the numeric library classes mixed values by their first present value, for the median:
`true` when the values cannot be medians at all (texts, or values mixed with texts after a
first value that is no integer). -/
def refusesMedian (vs : List Cell) : Bool :=
  let present := vs.filter (!·.isNull)
  let isText (x : Cell) : Bool := match x with | .str _ => true | _ => false
  let isInt (x : Cell) : Bool := match x with | .int _ => true | _ => false
  let isBool (x : Cell) : Bool := match x with | .bool _ => true | _ => false
  let isNum (x : Cell) : Bool := match x with | .int _ | .float _ => true | _ => false
  match present with
  | [] => false
  | first :: _ =>
    if isText first then true
    else if isInt first then false
    else if isBool first then !present.all isBool
    else !present.all isNum

/-- The median of a series; NaN when no value is present, or when values are missing and
`skip` is not set. -/
def seriesMedian (c : Column) (skip : Bool) : Outcome Obj := do
  if c.size == 0 then return .plain (.float nan)
  if let .float16 vs := c then
    if !skip && vs.any Float.isNaN then return .plain (.float nan)
    return .fixed (.float16 (halfMedian vs))
  let fs ← match c with
    | .object vs =>
      let shown := vs.toList.map fun x => if skip && x.isNull then .float nan else x
      if refusesMedian vs.toList then
        typeError s!"Cannot convert {arrayText (shown.map Cell.repr)} to numeric"
      else match vs.mapM castCell with
        | .ok fs => pure fs
        | .error e => typeError e.message
    | c => pure c.floats
  if !skip && fs.any Float.isNaN then return .plain (.float nan)
  return .fixed (.float64 (floatMedian fs))

/-! ### Spread and shape -/

/-- The values of a series as floats for the measures of spread, with the missing ones marked:
mixed values are cast, texts refused. -/
def spreadValues (c : Column) (skip : Bool) : Outcome (Array Float × Array Bool) := do
  let mask := if skip then c.nulls else Array.replicate c.size false
  match c with
  | .object vs =>
    let fs ← vs.mapM castCell
    if vs.any (fun x => x matches .str _) then
      typeError "unsupported operand type(s) for -: 'numpy.float64' and 'str'"
    return (fs, mask)
  | c => return (c.floats, mask)

/-- The variance of a series with `ddof` degrees of freedom removed, in two passes; NaN when
no more values than `ddof` are present. -/
def seriesVariance (c : Column) (skip : Bool) (ddof : Float) : Outcome Float := do
  if c.size == 0 then return nan
  let (fs, mask) ← spreadValues c skip
  let count := (mask.filter (!·)).size.toFloat
  if count ≤ ddof then return nan
  let kept := (fs.zip mask).map fun (f, m) => if m then 0.0 else f
  let avg := floatSum kept / count
  let squares := (fs.zip mask).map fun (f, m) => if m then 0.0 else (avg - f) * (avg - f)
  return floatSum squares / (count - ddof)

/-- The standard error of the mean of a series. -/
def seriesSem (c : Column) (skip : Bool) (ddof : Float) : Outcome Float := do
  let v ← seriesVariance c skip ddof
  let (_, mask) ← spreadValues c skip
  let count := (mask.filter (!·)).size.toFloat
  if count ≤ ddof then return nan
  return v.sqrt / count.sqrt

/-- A measure below `1e-14` in size, counted as zero. -/
def zeroTiny (x : Float) : Float := if x.abs < 1e-14 then 0.0 else x

/-- The values of a series as floats for skewness and kurtosis, with the count of those present
and the deviations from their mean (zero where values are missing). -/
def deviations (c : Column) (skip : Bool) : Outcome (Float × Array Float) := do
  let fs ← castFloats c
  let mask := if skip then c.nulls else Array.replicate c.size false
  let count := (mask.filter (!·)).size.toFloat
  let kept := (fs.zip mask).map fun (f, m) => if m then 0.0 else f
  let mean := floatSum kept / count
  let adjusted := (kept.zip mask).map fun (f, m) => if m then 0.0 else f - mean
  return (count, adjusted)

/-- The skewness of a series, adjusted for the sample size; NaN for fewer than three values. -/
def seriesSkew (c : Column) (skip : Bool) : Outcome Float := do
  if c.size == 0 then return nan
  let (count, adjusted) ← deviations c skip
  let squares := adjusted.map fun a => a * a
  let cubes := (squares.zip adjusted).map fun (s, a) => s * a
  let m2 := zeroTiny (floatSum squares)
  let m3 := zeroTiny (floatSum cubes)
  let result := (count * Float.pow (count - 1.0) 0.5 / (count - 2.0)) * (m3 / Float.pow m2 1.5)
  let result := if m2 == 0.0 then 0.0 else result
  return if count < 3.0 then nan else result

/-- The excess kurtosis of a series, adjusted for the sample size; NaN for fewer than four
values. -/
def seriesKurt (c : Column) (skip : Bool) : Outcome Float := do
  if c.size == 0 then return nan
  let (count, adjusted) ← deviations c skip
  let squares := adjusted.map fun a => a * a
  let fourths := squares.map fun s => s * s
  let m2 := floatSum squares
  let m4 := floatSum fourths
  let adj := 3.0 * Float.pow (count - 1.0) 2.0 / ((count - 2.0) * (count - 3.0))
  let numerator := zeroTiny (count * (count + 1.0) * (count - 1.0) * m4)
  let denominator := zeroTiny ((count - 2.0) * (count - 3.0) * Float.pow m2 2.0)
  if count < 4.0 then return nan
  if denominator == 0.0 then return 0.0
  return numerator / denominator - adj

/-- The skewness of half-precision values: the moments in doubles, the size adjustment in half
precision, the result rounded to half precision; a plain NaN for fewer than three values. -/
def halfSkew (c : Column) (skip : Bool) : Outcome Obj := do
  if c.size == 0 || (!skip && c.nulls.any id) then return .plain (.float nan)
  let h := Decimal.toHalf
  let (count, adjusted) ← deviations c skip
  let squares := adjusted.map fun a => a * a
  let cubes := (squares.zip adjusted).map fun (s, a) => s * a
  let m2 := zeroTiny (floatSum squares)
  let m3 := zeroTiny (floatSum cubes)
  let factor := h (h (count * h (h (count - 1.0)).sqrt) / h (count - 2.0))
  let result := Decimal.roundToHalf (factor * (m3 / Float.pow m2 1.5))
  if count < 3.0 then return .plain (.float nan)
  return .fixed (.float16 (if m2 == 0.0 then 0.0 else result))

/-- The excess kurtosis of half-precision values: the moments in doubles, the size factors in
half precision, the result rounded to half precision; a plain NaN for fewer than four
values. -/
def halfKurt (c : Column) (skip : Bool) : Outcome Obj := do
  if c.size == 0 || (!skip && c.nulls.any id) then return .plain (.float nan)
  let h := Decimal.toHalf
  let (count, adjusted) ← deviations c skip
  let squares := adjusted.map fun a => a * a
  let fourths := squares.map fun s => s * s
  let m2 := floatSum squares
  let m4 := floatSum fourths
  let below := h (h (count - 2.0) * h (count - 3.0))
  let adj := h (h (3.0 * h (h (count - 1.0) * h (count - 1.0))) / below)
  let numerator := zeroTiny (h (h (count * h (count + 1.0)) * h (count - 1.0)) * m4)
  let denominator := zeroTiny (below * Float.pow m2 2.0)
  if count < 4.0 then return .plain (.float nan)
  if denominator == 0.0 then return .fixed (.float16 0.0)
  return .fixed (.float16 (Decimal.roundToHalf (numerator / denominator - adj)))

/-! ### Tests and counts -/

/-- Whether any (or every) value of a series is true; missing values count as false for
`any` and as true for `all` when `skip` is set. -/
def seriesTest (every : Bool) (c : Column) (skip : Bool) : Bool :=
  let truths : Array Bool := match c with
    | .bool vs => vs
    | .float64 vs => vs.map fun f => if f.isNaN then (if skip then every else true) else f != 0.0
    | .object vs => vs.map fun x => if skip && x.isNull then every else x.truthy
    | c => c.cells.map Cell.truthy
  if every then truths.all id else truths.any id

/-- Whether two values are the same for counting distinct values: equal values, NaN with NaN,
nothing with nothing. -/
def sameForCount (a b : Cell) : Bool :=
  match a, b with
  | .float x, .float y => (x.isNaN && y.isNaN) || a.same b
  | _, _ => a.same b

/-- The number of distinct values of a series, missing values left out when `dropna` is set. -/
def distinctCount (c : Column) (dropna : Bool) : Nat :=
  let vs := if dropna then c.cells.filter (!·.isNull) else c.cells
  (vs.foldl (fun (acc : List Cell) x => if acc.any (sameForCount · x) then acc else x :: acc) []).length

end Dataflow.Eval
