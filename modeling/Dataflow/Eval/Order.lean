import Dataflow.Eval.Series
/-!
# Methods of series that order, select and count values

The methods of series that give a series with labels of its own (`Place.labels`) or an array:

* ordering: `sort_values`, `sort_index`, `argsort` and `rank`;
* selecting: `nlargest`, `nsmallest`, `head`, `tail`, `dropna` and `drop_duplicates`, which
  keep some values with their labels;
* counting: `mode`, `value_counts` and `unique`, whose values are the distinct values;
* quantiles, filling by interpolation, relative changes, and the correlation of two series.

Sorting is stable: values that compare equal keep their order, and missing values go to the
end (or the start) in their order. A descending sort is stable too. Values that have no order
between them fail as comparing them fails, naming the value being placed first.
-/

namespace Dataflow.Eval

/-! ### Stable sorting -/

/-- Whether `a` goes before `b` in increasing order; values without an order between them
fail as `a < b` fails. -/
def cellBefore (a b : Cell) : Outcome Bool :=
  match a.order b with
  | .ok (some o) => .ok (o == .lt)
  | .ok none => .ok false
  | .error (x, y) => typeError s!"'<' not supported between instances of '{x}' and '{y}'"

/-- Inserts a position into positions sorted from the greatest down (the list is the sorted
order reversed), after every position whose value it goes before. -/
def insertFromTop (before : Nat → Nat → Outcome Bool) (i : Nat) : List Nat → Outcome (List Nat)
  | [] => .ok [i]
  | j :: rest => do
    if ← before i j then return j :: (← insertFromTop before i rest)
    else return i :: j :: rest

/-- Positions sorted stably by an order: each taken in turn is placed after every earlier one
it does not go before. -/
def stableSort (before : Nat → Nat → Outcome Bool) (ps : List Nat) : Outcome (List Nat) := do
  let top ← ps.foldlM (fun acc i => insertFromTop before i acc) []
  return top.reverse

/-- The positions of a column's present values in increasing (or decreasing) order, ties in
their order, then (or, `missingFirst`, before them) the positions of its missing values. -/
def sortedPositions (c : Column) (ascending missingFirst : Bool) : Outcome (List Nat) := do
  let missing := c.nulls
  let present := (List.range c.size).filter fun i => !missing.getD i false
  let absent := (List.range c.size).filter fun i => missing.getD i false
  let before (i j : Nat) : Outcome Bool :=
    if ascending then cellBefore (c.cell i) (c.cell j) else cellBefore (c.cell j) (c.cell i)
  let sorted ← stableSort before present
  return if missingFirst then absent ++ sorted else sorted ++ absent

/-- A series of some of the values of another, at their labels. -/
def selection (s : Labelled) (labels : Column) (ps : List Nat) : Obj :=
  let ixs := ps.toArray
  .labelled ⟨s.values.take ixs, .labels (labels.take ixs), s.name⟩

/-- A series of some of the values of another, labelled `0, 1, ...` when `ignoreIndex`. -/
def selectionIgnoring (s : Labelled) (labels : Column) (ps : List Nat) (ignoreIndex : Bool) : Obj :=
  if ignoreIndex then .labelled ⟨s.values.take ps.toArray, .labels (Column.range ps.length), s.name⟩
  else selection s labels ps

/-! ### Arguments -/

/-- A truth-value argument that must be a truth value (integers allowed too). -/
def boolArgument (p : String) (o : Obj) : Outcome Bool :=
  match o with
  | .plain (.bool b) | .fixed (.bool b) => .ok b
  | .plain (.int i) | .fixed (.int64 i) => .ok (i != 0)
  | o => fail .value s!"For argument \"{p}\" expected type bool, received type {o.typeName}."

/-- The `ascending` argument of a sort: a truth value, or a list of exactly one. -/
def ascendingArg (o : Obj) : Outcome Bool :=
  match o with
  | .list [x] => boolArgument "ascending" x
  | .list items => fail .value s!"Length of ascending ({items.length}) must be 1 for Series"
  | o => boolArgument "ascending" o

/-- The `na_position` argument of a sort: whether missing values go first. -/
def missingFirstArg (o : Obj) : Outcome Bool :=
  match o with
  | .plain (.str "last") => .ok false
  | .plain (.str "first") => .ok true
  | o => fail .value s!"invalid na_position: {o.text}"

/-- The `keep` argument of the selection of duplicates or extremes. -/
def keepArg (allowAll : Bool) (o : Obj) : Outcome String :=
  match o with
  | .plain (.str "first") => .ok "first"
  | .plain (.str "last") => .ok "last"
  | .plain (.str "all") => if allowAll then .ok "all" else fail .value "keep must be either \"first\", \"last\" or False"
  | .plain (.bool false) => if allowAll then fail .value "keep must be either \"first\", \"last\" or \"all\"" else .ok "none"
  | _ =>
    if allowAll then fail .value "keep must be either \"first\", \"last\" or \"all\""
    else fail .value "keep must be either \"first\", \"last\" or False"

/-- A count argument such as `n`: an integer. -/
def countArgument (o : Obj) : Outcome Int :=
  match o with
  | .plain (.int i) | .fixed (.int64 i) => .ok i
  | .plain (.bool b) | .fixed (.bool b) => .ok (if b then 1 else 0)
  | o => typeError s!"'{o.typeName}' object cannot be interpreted as an integer"

/-! ### Sorting and ranking -/

/-- `sort_values`: the values in order, with their labels. -/
def sortValues (labels : Column) (s : Labelled) (b : Bound) : Outcome Obj := do
  let ascending ← ascendingArg (b.getD "ascending" (.plain (.bool true)))
  let inplace ← checkFlagOrNone "inplace" (b.getD "inplace" (.plain (.bool false)))
  let missingFirst ← missingFirstArg (b.getD "na_position" (.plain (.str "last")))
  let ignoreIndex ← (b.getD "ignore_index" (.plain (.bool false))).truth
  checkAxis (b.getD "axis" (.plain (.int 0)))
  let ps ← sortedPositions s.values ascending missingFirst
  if inplace then return noneObj
  return selectionIgnoring s labels ps ignoreIndex

/-- `sort_index`: the values in the order of their labels. -/
def sortIndex (labels : Column) (s : Labelled) (b : Bound) : Outcome Obj := do
  let ascending ← ascendingArg (b.getD "ascending" (.plain (.bool true)))
  let inplace ← checkFlagOrNone "inplace" (b.getD "inplace" (.plain (.bool false)))
  let missingFirst ← missingFirstArg (b.getD "na_position" (.plain (.str "last")))
  let ignoreIndex ← (b.getD "ignore_index" (.plain (.bool false))).truth
  let ps ← sortedPositions labels ascending missingFirst
  if inplace then return noneObj
  return selectionIgnoring s labels ps ignoreIndex

/-- `argsort`: at each label, the position of the value that goes there in increasing order;
`-1` for missing values, which take no part. -/
def argSort (c : Column) : Outcome Column := do
  let missing := c.nulls
  let present := (List.range c.size).filter fun i => !missing.getD i false
  let sub := c.take present.toArray
  let order ← stableSort (fun i j => cellBefore (sub.cell i) (sub.cell j)) (List.range sub.size)
  let (_, out) := (List.range c.size).foldl (fun (acc : List Nat × Array Int) i =>
    let (rest, out) := acc
    if missing.getD i false then (rest, out.push (-1))
    else match rest with
      | k :: more => (more, out.push k)
      | [] => (rest, out.push (-1))) (order, #[])
  return .int64 out

/-- How ties are ranked. -/
inductive Ties where
  | average | lowest | highest | first | dense
deriving BEq, Inhabited

/-- The ranks of the values of a column: `1` for the first in order, ties ranked as `ties`
says, missing values kept missing, ranked first or ranked last; as fractions of the number of
values ranked when `pct`. -/
def rankValues (c : Column) (ties : Ties) (ascending : Bool) (missing : String) (pct : Bool) :
    Outcome Column := do
  let nulls := c.nulls
  let present := (List.range c.size).filter fun i => !nulls.getD i false
  let absent := (List.range c.size).filter fun i => nulls.getD i false
  let sorted ← stableSort (fun i j =>
    if ascending then cellBefore (c.cell i) (c.cell j) else cellBefore (c.cell j) (c.cell i)) present
  let groups := groupTies sorted
  let order := if missing == "top" then [absent] ++ groups else groups ++ [absent]
  let order := order.filter (!·.isEmpty)
  let ranked := missing != "keep"
  let (ranks, _, _) := order.foldl (fun (acc : Array Float × Nat × Nat) g =>
    let (ranks, start, seen) := acc
    let isMissing := g.all fun i => nulls.getD i false
    let k := g.length
    if isMissing && !ranked then (ranks, start, seen)
    else
      let ranks := g.zipIdx.foldl (fun (r : Array Float) (i, j) =>
        let v : Float := match ties with
          | .average =>
            let total : Nat := ((List.range k).map (start + · + 1)).foldl (· + ·) 0
            Decimal.intToFloat total / Decimal.intToFloat k
          | .lowest => Decimal.intToFloat (start + 1)
          | .highest => Decimal.intToFloat (start + k)
          | .first => Decimal.intToFloat (start + j + 1)
          | .dense => Decimal.intToFloat (seen + 1)
        r.set! i v) ranks
      (ranks, start + k, seen + 1)) (Array.replicate c.size nan, 0, 0)
  if !pct then return .float64 ranks
  let total : Nat :=
    if ties == .dense then
      (order.filter fun g => ranked || !(g.all fun i => nulls.getD i false)).length
    else if ranked then c.size else present.length
  return .float64 (ranks.map fun r => r / Decimal.intToFloat total)
where
  /-- Splits sorted positions into runs of equal values. -/
  groupTies (ps : List Nat) : List (List Nat) :=
    let step (acc : List (List Nat)) (i : Nat) : List (List Nat) :=
      match acc with
      | (j :: g) :: rest =>
        if (c.cell i).same (c.cell j) then (i :: j :: g) :: rest else [i] :: (j :: g) :: rest
      | _ => [i] :: acc
    ((ps.foldl step []).map List.reverse).reverse

/-- `rank`. -/
def rankSeries (c : Column) (b : Bound) : Outcome Column := do
  checkAxis (b.getD "axis" (.plain (.int 0)))
  let missing ← match b.getD "na_option" (.plain (.str "keep")) with
    | .plain (.str "keep") => pure "keep"
    | .plain (.str "top") => pure "top"
    | .plain (.str "bottom") => pure "bottom"
    | _ => fail .value "na_option must be one of 'keep', 'top', or 'bottom'"
  let numericOnly ← (b.getD "numeric_only" (.plain (.bool false))).truth
  if numericOnly && !c.dtype.isNumeric then
    typeError "Series.rank does not allow numeric_only=True with non-numeric dtype object"
  let ascending ← (b.getD "ascending" (.plain (.bool true))).truth
  let pct ← (b.getD "pct" (.plain (.bool false))).truth
  let ties ← match b.getD "method" (.plain (.str "average")) with
    | .plain (.str "average") => pure Ties.average
    | .plain (.str "min") => pure .lowest
    | .plain (.str "max") => pure .highest
    | .plain (.str "first") => pure .first
    | .plain (.str "dense") => pure .dense
    | .plain (.str m) => fail .key (Text.quoteText m)
    | o => fail .key o.text
  rankValues c ties ascending missing pct

/-! ### Selecting -/

/-- `nlargest` and `nsmallest`: the `n` greatest (or least) present values in order, ties
taken first to last (or, `keep = "last"`, last to first, or all of them); when `n` is at least
the length, the whole series sorted, missing values last. -/
def extremes (labels : Column) (s : Labelled) (greatest : Bool) (b : Bound) : Outcome Obj := do
  let n ← countArgument (b.getD "n" (.plain (.int 5)))
  let keep ← keepArg true (b.getD "keep" (.plain (.str "first")))
  let c := s.values
  if c.dtype == .object || c.dtype == .complex128 then
    let method := if greatest then "nlargest" else "nsmallest"
    typeError s!"Cannot use method '{method}' with dtype {c.dtype.name}"
  if n ≤ 0 then return selection s labels []
  if n ≥ c.size then
    return selection s labels ((← sortedPositions c (!greatest) false).take n.toNat)
  let nulls := c.nulls
  let present := (List.range c.size).filter fun i => !nulls.getD i false
  let absent := (List.range c.size).filter fun i => nulls.getD i false
  let before (i j : Nat) : Outcome Bool :=
    if greatest then cellBefore (c.cell j) (c.cell i) else cellBefore (c.cell i) (c.cell j)
  let candidates := if keep == "last" then present.reverse else present
  let sorted ← stableSort before candidates
  let k := min n.toNat sorted.length
  let chosen ← if keep == "all" then
      match sorted[k - 1]? with
      | some last => do
        let cut ← sorted.filterM fun i => do return !(← before last i)
        pure cut
      | none => pure []
    else pure (sorted.take k)
  let total := if keep == "all" then
      (if chosen.length < n.toNat && n.toNat ≤ absent.length + chosen.length then
        absent.length + chosen.length else chosen.length)
    else n.toNat
  return selection s labels ((chosen ++ absent).take total)

/-- `head` and `tail`: the first (or last) `n` values; a negative `n` leaves out that many at
the other end. -/
def endsOf (labels : Column) (s : Labelled) (last : Bool) (b : Bound) : Outcome Obj := do
  let n ← countArgument (b.getD "n" (.plain (.int 5)))
  let size := s.values.size
  let k : Nat := if n ≥ 0 then min n.toNat size else (size - min n.natAbs size)
  let ps := if last then (List.range k).map (size - k + ·) else List.range k
  return selection s labels ps

/-- The positions of the values of a column that are duplicates of others, the first (or the
last) of equal values not counted unless `keep` is `"none"`. -/
def duplicateMask (c : Column) (keep : String) : Array Bool :=
  let same (i j : Nat) : Bool := sameForCount (c.cell i) (c.cell j)
  (Array.range c.size).map fun i =>
    match keep with
    | "first" => (List.range i).any (same i)
    | "last" => ((List.range c.size).drop (i + 1)).any (same i)
    | _ => (List.range c.size).any fun j => j != i && same i j

/-- `dropna`: the present values. -/
def dropMissing (labels : Column) (s : Labelled) (b : Bound) : Outcome Obj := do
  let inplace ← checkFlagOrNone "inplace" (b.getD "inplace" (.plain (.bool false)))
  let ignoreIndex ← (b.getD "ignore_index" (.plain (.bool false))).truth
  checkAxis (b.getD "axis" (.plain (.int 0)))
  if inplace then return noneObj
  let nulls := s.values.nulls
  return selectionIgnoring s labels ((List.range s.values.size).filter fun i => !nulls.getD i false) ignoreIndex

/-- `drop_duplicates`: the values that are no duplicates. -/
def dropDuplicates (labels : Column) (s : Labelled) (b : Bound) : Outcome Obj := do
  let keep ← keepArg false (b.getD "keep" (.plain (.str "first")))
  let inplace ← checkFlagOrNone "inplace" (b.getD "inplace" (.plain (.bool false)))
  let ignoreIndex ← (b.getD "ignore_index" (.plain (.bool false))).truth
  if inplace then return noneObj
  let dup := duplicateMask s.values keep
  return selectionIgnoring s labels ((List.range s.values.size).filter fun i => !dup.getD i false) ignoreIndex

/-! ### Distinct values -/

/-- The positions of the first occurrence of each distinct value, in order; missing values
left out when `dropna`. -/
def firstOccurrences (c : Column) (dropna : Bool) : List Nat :=
  let nulls := c.nulls
  (List.range c.size).filter fun i =>
    !(dropna && nulls.getD i false) && !(List.range i).any fun j => sameForCount (c.cell i) (c.cell j)

/-- `unique`: the distinct values in the order they first occur, as an array. -/
def uniqueValues (c : Column) : Column := c.take (firstOccurrences c false).toArray

/-- How many values of a column are the same as the one at a position. -/
def occurrenceCount (c : Column) (i : Nat) : Nat :=
  ((List.range c.size).filter fun j => sameForCount (c.cell i) (c.cell j)).length

/-- `mode`: the values that occur most often, in increasing order, labelled `0, 1, ...`. -/
def modes (s : Labelled) (b : Bound) : Outcome Obj := do
  let dropna ← (b.getD "dropna" (.plain (.bool true))).truth
  let c := s.values
  let firsts := firstOccurrences c dropna
  let counts := firsts.map fun i => occurrenceCount c i
  let most := counts.foldl max 0
  let chosen := (firsts.zip counts).filterMap fun (i, k) => if k == most then some i else none
  let ordered ← match stableSort (fun i j => cellBefore (c.cell i) (c.cell j)) chosen with
    | .ok ps => pure ps
    | .error _ => pure chosen
  return .labelled ⟨c.take ordered.toArray, .labels (Column.range ordered.length), s.name⟩

/-- `value_counts`: how often each distinct value occurs, labelled by the values, most frequent
first (or last, `ascending`) with ties in the order the values first occur; as fractions of the
values counted when `normalize`. -/
def valueCounts (s : Labelled) (b : Bound) : Outcome Obj := do
  let normalize ← (b.getD "normalize" (.plain (.bool false))).truth
  let sort ← (b.getD "sort" (.plain (.bool true))).truth
  let ascending ← (b.getD "ascending" (.plain (.bool false))).truth
  let dropna ← (b.getD "dropna" (.plain (.bool true))).truth
  let c := s.values
  let firsts := firstOccurrences c dropna
  let counts := firsts.map fun i => occurrenceCount c i
  let pairs := firsts.zip counts
  let ordered := if !sort then pairs
    else if ascending then pairs.mergeSort fun a z => a.2 ≤ z.2
    else pairs.mergeSort fun a z => a.2 ≥ z.2
  let total : Nat := counts.foldl (· + ·) 0
  let values : Column :=
    if normalize then .float64 (ordered.map fun (_, k) => Decimal.intToFloat k / Decimal.intToFloat total).toArray
    else .int64 (ordered.map fun (_, k) => (k : Int)).toArray
  let name := if normalize then "proportion" else "count"
  return .labelled ⟨values, .labels (c.take (ordered.map (·.1)).toArray), .str name⟩

/-! ### Quantiles -/

/-- The quantile `q` of sorted values by the given interpolation, as the numeric library
computes a percentile: the virtual position `(n - 1) q` between two neighbours. -/
def quantileOf (sorted : Array Float) (q : Float) (interpolation : String) : Float :=
  let n := sorted.size
  if n == 0 then nan
  else
    let last := n - 1
    let pick (i : Int) : Float := sorted.getD (max 0 (min i (last : Int))).toNat nan
    let position := Decimal.intToFloat last * q
    let below := position.floor
    let i := Decimal.truncate below
    match interpolation with
    | "lower" => pick i
    | "higher" => pick (Decimal.truncate position.ceil)
    | "nearest" => pick (Decimal.truncate (roundEven position))
    | _ =>
      if position ≥ Decimal.intToFloat last then pick (last : Int)
      else
        let a := pick i
        let z := pick (i + 1)
        let gamma := position - below
        let gamma := if interpolation == "midpoint" then (if gamma == 0 then 0 else 0.5) else gamma
        let diff := z - a
        if gamma ≥ 0.5 then z - diff * (1 - gamma) else a + diff * gamma

/-- A quantile argument, checked to lie between zero and one. -/
def quantileArg (o : Obj) : Outcome Float := do
  let q ← floatArg o
  if !(0 ≤ q && q ≤ 1) then fail .value "percentiles should all be in the interval [0, 1]"
  return q

/-- `quantile`: a scalar for one quantile, a series labelled by the quantiles for a list. -/
def quantiles (s : Labelled) (b : Bound) : Outcome Obj := do
  let interpolation ← match b.getD "interpolation" (.plain (.str "linear")) with
    | .plain (.str t) =>
      if ["linear", "lower", "higher", "midpoint", "nearest"].contains t then pure t
      else fail .value s!"'{t}' is not a valid method. Use one of: ['inverted_cdf', 'averaged_inverted_cdf', 'closest_observation', 'interpolated_inverted_cdf', 'hazen', 'weibull', 'linear', 'median_unbiased', 'normal_unbiased', 'lower', 'higher', 'midpoint', 'nearest']"
    | _ => typeError "unhashable type: 'list'"
  let c := s.values
  let fs ← match c with
    | .bool _ => typeError "numpy boolean subtract, the `-` operator, is not supported, use the bitwise_xor, the `^` operator, or the logical_xor function instead."
    | .object vs =>
      match vs.find? fun x => match x with | .str _ => true | _ => false with
      | some _ => typeError "unsupported operand type(s) for -: 'str' and 'str'"
      | none => vs.mapM castCell
    | c => pure c.floats
  let sorted := (fs.toList.filter (!·.isNaN)).mergeSort (fun a z => a ≤ z) |>.toArray
  let percentOf (q : Float) : Float := q * 100 / 100
  match b.getD "q" (.plain (.float 0.5)) with
  | .list items =>
    let qs ← items.mapM quantileArg
    let values := qs.map fun q => quantileOf sorted (percentOf q) interpolation
    return .labelled ⟨.float64 values.toArray, .labels (.float64 qs.toArray), s.name⟩
  | o =>
    let q ← quantileArg o
    return .fixed (.float64 (quantileOf sorted (percentOf q) interpolation))

/-! ### Filling and changes -/

/-- The value at `x` of the broken line through the points `(xp, fp)`, `xp` increasing: the
first value before the first point, the last value from the last point on, and otherwise the
value on the segment from the last point at or before `x` to the next. A segment that gives a
missing value measured from its left end is measured from its right end, and one whose ends
hold equal values gives that value. -/
def interpolateAt (xp fp : Array Float) (x : Float) : Float :=
  let n := xp.size
  if n == 0 || x.isNaN then nan
  else if x < xp.getD 0 nan then fp.getD 0 nan
  else if x > xp.getD (n - 1) nan then fp.getD (n - 1) nan
  else
    let j := ((List.range n).filter fun k => xp.getD k nan ≤ x).getLastD 0
    let x0 := xp.getD j nan
    let y0 := fp.getD j nan
    if j + 1 ≥ n || x0 == x then y0
    else
      let x1 := xp.getD (j + 1) nan
      let y1 := fp.getD (j + 1) nan
      let slope := (y1 - y0) / (x1 - x0)
      let r := slope * (x - x0) + y0
      if !r.isNaN then r
      else
        let r := slope * (x - x1) + y1
        if r.isNaN && y0 == y1 then y0 else r

/-- Linear interpolation of the missing values of floats placed at `xs`, through the present
ones in the order of their places; missing values before the first place or after the last
take the value at that end. -/
def interpolateLinear (xs vs : Array Float) : Array Float :=
  let known := (List.range vs.size).filter fun i => !(vs.getD i nan).isNaN
  let known := known.mergeSort fun i k => xs.getD i nan ≤ xs.getD k nan
  let xp := (known.map fun i => xs.getD i nan).toArray
  let fp := (known.map fun i => vs.getD i nan).toArray
  (Array.range vs.size).map fun i =>
    let v := vs.getD i nan
    if v.isNaN then interpolateAt xp fp (xs.getD i nan) else v

/-- Which way interpolation reaches from the present values. -/
inductive Reach where
  | forward | backward | both
deriving Inhabited, BEq

/-- The missing values more than `limit` places after the last present value before them, and
those among the first `limit + 1` places with no present value before them. -/
def pastLimit (invalid : Array Bool) (limit : Nat) : List Nat :=
  let n := invalid.size
  let limit := min limit n
  let run (lo hi : Nat) : Bool :=
    (List.range (hi + 1 - lo)).all fun k => invalid.getD (lo + k) false
  (List.range n).filter fun i => (limit ≤ i && run (i - limit) i) || (i ≤ limit && run 0 i)

/-- The missing values that interpolation leaves missing: those its direction does not reach,
those past its limit, and those outside its area. Some value is present. -/
def keptMissing (invalid : Array Bool) (limit : Option Nat) (reach : Reach) (area : FillArea) :
    Array Bool :=
  let n := invalid.size
  let present := (List.range n).filter fun i => !invalid.getD i true
  let first := present.headD 0
  let last := present.getLastD 0
  let before := fun (i : Nat) => i < first
  let after := fun (i : Nat) => last < i
  let forwardPast := fun (i : Nat) => match limit with
    | some l => (pastLimit invalid l).contains i
    | none => false
  let backwardPast := fun (i : Nat) => match limit with
    | some l => (pastLimit invalid.reverse l).contains (n - 1 - i)
    | none => false
  (Array.range n).map fun i =>
    let byReach := match reach with
      | .forward => before i || forwardPast i
      | .backward => after i || backwardPast i
      | .both => limit.isSome && forwardPast i && backwardPast i
    let byArea := match area with
      | .anywhere => false
      | .inside => before i || after i
      | .outside => invalid.getD i false && !before i && !after i
    byReach || byArea

/-- The methods of interpolation, those of the array library first. -/
def interpolationMethods : List String :=
  ["linear", "time", "index", "values", "nearest", "zero", "slinear", "quadratic", "cubic",
   "barycentric", "polynomial", "krogh", "piecewise_polynomial", "pchip", "akima", "spline",
   "from_derivatives", "cubicspline"]

/-- The limit of an interpolation: a positive integer, or none. -/
def interpolationLimit (o : Obj) : Outcome (Option Nat) :=
  match o with
  | .plain .none => .ok none
  | .plain (.int l) | .fixed (.int64 l) =>
    if l < 1 then fail .value "Limit must be greater than 0" else .ok (some l.toNat)
  | _ => fail .value "Limit must be an integer"

/-- The direction of an interpolation, in any case. -/
def reachArg (o : Obj) : Outcome Reach := do
  let t ← match o with
    | .plain (.str t) => pure (String.ofList (t.toList.map Char.toLower))
    | o => fail .attribute s!"'{o.typeName}' object has no attribute 'lower'"
  match t with
  | "forward" => return .forward
  | "backward" => return .backward
  | "both" => return .both
  | t => fail .value s!"Invalid limit_direction: expecting one of ['forward', 'backward', 'both'], got '{t}'."

/-- The area of an interpolation, in any case. -/
def interpolationArea (o : Obj) : Outcome FillArea := do
  match o with
  | .plain .none => return .anywhere
  | .plain (.str t) =>
    match String.ofList (t.toList.map Char.toLower) with
    | "inside" => return .inside
    | "outside" => return .outside
    | t => fail .value s!"Invalid limit_area: expecting one of ['inside', 'outside'], got {t}."
  | o => fail .attribute s!"'{o.typeName}' object has no attribute 'lower'"

/-- Whether the labels of a series are numbers, as interpolation by other methods than the
linear one needs. -/
def numericLabels (labels : Column) : Bool :=
  match labels.dtype with
  | .object => false
  | _ => true

/-- `interpolate`: fills the missing values of a float series from the present ones. The
methods `linear`, `index` and `values` interpolate linearly (by position, or by label);
`ffill`, `pad`, `bfill` and `backfill` fill from neighbours; the other methods need a library
that is not present. Series of other kinds are returned as they are. -/
def interpolateSeries (labels : Column) (c : Column) (b : Bound) : Outcome Obj := do
  let inplace ← checkFlagOrNone "inplace" (b.getD "inplace" (.plain (.bool false)))
  if c.size == 0 then return inPlace inplace c
  let method ← match b.getD "method" (.plain (.str "linear")) with
    | .plain (.str m) => pure m
    | _ => fail .value "'method' should be a string, not None."
  let lower := String.ofList (method.toList.map Char.toLower)
  let direction := b.getD "limit_direction" noneObj
  let notAlong (way : String) : Bool := match direction with
    | .plain .none => false
    | .plain (.str d) => d != way
    | _ => true
  if (method == "pad" || method == "ffill") && notAlong "forward" then
    fail .value s!"`limit_direction` must be 'forward' for method `{method}`"
  if (method == "backfill" || method == "bfill") && notAlong "backward" then
    fail .value s!"`limit_direction` must be 'backward' for method `{method}`"
  if ["ffill", "bfill", "pad", "backfill"].contains lower then
    let limit ← match b.getD "limit" noneObj with
      | .plain .none => pure none
      | o => interpolationLimit o
    let forward := lower == "ffill" || lower == "pad"
    let area := fillAreaArg (b.getD "limit_area" noneObj)
    return inPlace inplace (match c with
      | .float64 _ | .float16 _ | .object _ => seriesPadIn c forward limit area
      | c => c)
  if method != "linear" && !(["index", "values", "nearest", "time"].contains method) &&
      !numericLabels labels then
    fail .value s!"Index column must be numeric or datetime type when using {method} method other than linear. Try setting a numeric or datetime index column before interpolating."
  let vs ← match c with
    | .float64 vs | .float16 vs => pure vs
    | c => return inPlace inplace c
  if (method == "spline" || method == "polynomial") &&
      ((b.extraNamed.lookup "order").getD noneObj) matches .plain .none then
    fail .value "You must specify the order of the spline or polynomial."
  if !interpolationMethods.contains method then
    let listed := "[" ++ ", ".intercalate (interpolationMethods.map fun m => "'" ++ m ++ "'") ++ "]"
    fail .value s!"method must be one of {listed}. Got '{method}' instead."
  if method == "time" then
    fail .value "time-weighted interpolation only works on Series or DataFrames with a DatetimeIndex"
  let reach ← match direction with
    | .plain .none => pure .forward
    | d => reachArg d
  let area ← interpolationArea (b.getD "limit_area" noneObj)
  let limit ← interpolationLimit (b.getD "limit" noneObj)
  let invalid := vs.map Float.isNaN
  if invalid.all id || !invalid.any id then return inPlace inplace c
  if !(["linear", "index", "values"].contains method) then
    fail .importing s!"Missing optional dependency 'scipy'. {method} interpolation requires SciPy. Use pip or conda to install scipy."
  let xs := if method == "linear" then (Array.range vs.size).map fun (i : Nat) => Decimal.intToFloat i
    else labels.floats
  let filled := interpolateLinear xs vs
  let kept := keptMissing invalid limit reach area
  let out := (Array.range vs.size).map fun i => if kept.getD i false then nan else filled.getD i nan
  return inPlace inplace (match c with
    | .float16 _ => .float16 (out.map Decimal.roundToHalf)
    | _ => .float64 out)

/-- `pct_change`: the relative change from the value `periods` before, missing values first
filled from the value before them. -/
def percentChange (c : Column) (b : Bound) : Outcome Obj := do
  let periods ← countArgument (b.getD "periods" (.plain (.int 1)))
  let filled := match b.getD "fill_method" (.plain (.str "pad")) with
    | .plain .none => c
    | _ => seriesPad c true none
  let shifted ← seriesShift filled periods none
  let ratio ← evalArith .div (.series filled) (.series shifted)
  evalArith .sub ratio (.plain (.int 1))

/-! ### Correlation -/

/-- The pairs of present values of two float arrays. -/
def presentPairs (xs ys : Array Float) : Array Float × Array Float :=
  let pairs := (xs.zip ys).filter fun (x, y) => !x.isNaN && !y.isNaN
  (pairs.map (·.1), pairs.map (·.2))

/-- The mean of floats, a plain running sum divided by the count. -/
def plainMean (xs : Array Float) : Float := xs.foldl (· + ·) 0 / Decimal.intToFloat xs.size

/-- The covariance of two float arrays with `ddof` degrees of freedom taken off. -/
def covarianceOf (xs ys : Array Float) (ddof : Float) : Float :=
  let mx := plainMean xs
  let my := plainMean ys
  let dot := (Array.zipWith (fun x y => (x - mx) * (y - my)) xs ys).foldl (· + ·) 0
  dot * (1 / (Decimal.intToFloat xs.size - ddof))

/-- The correlation of two float arrays: their covariance over the product of their standard
deviations, kept within `[-1, 1]`. -/
def correlationOf (xs ys : Array Float) : Float :=
  let cxy := covarianceOf xs ys 1
  let cxx := covarianceOf xs xs 1
  let cyy := covarianceOf ys ys 1
  let r := cxy / cxx.sqrt / cyy.sqrt
  if r > 1 then 1 else if r < -1 then -1 else r

/-- The other series of `corr` or `cov`, as floats. -/
def partnerFloats (o : Obj) (n : Nat) : Outcome (Array Float) := do
  match o with
  | .series d =>
    if d.size != n then fail .value "Lengths must be equal"
    windowFloatsPlain d
  | o => fail .attribute s!"'{o.typeName}' object has no attribute 'align'"
where
  /-- The values as floats, mixed values cast. -/
  windowFloatsPlain (d : Column) : Outcome (Array Float) :=
    match d with
    | .object vs => vs.mapM castCell
    | d => .ok d.floats

/-- `corr` and `cov` of a series with another. -/
def correlate (c : Column) (name : String) (b : Bound) : Outcome Obj := do
  let xs ← match c with
    | .object vs => vs.mapM castCell
    | c => pure c.floats
  let ys ← partnerFloats (b.getD "other" noneObj) c.size
  let least ← match b.getD "min_periods" noneObj with
    | .plain .none => pure 1
    | o => countArgument o
  let (xs, ys) := presentPairs xs ys
  if c.size == 0 then return .fixed (.float64 nan)
  if name == "cov" then
    if (xs.size : Int) < least then return .fixed (.float64 nan)
    let ddof ← floatArg (b.getD "ddof" (.plain (.int 1)))
    return .fixed (.float64 (covarianceOf xs ys ddof))
  let method ← match b.getD "method" (.plain (.str "pearson")) with
    | .plain (.str m) =>
      if ["pearson", "spearman", "kendall"].contains m then pure m
      else fail .value s!"method must be either 'pearson', 'spearman', 'kendall', or a callable, '{m}' was supplied"
    | o => fail .value s!"method must be either 'pearson', 'spearman', 'kendall', or a callable, '{o.text}' was supplied"
  if (xs.size : Int) < least then return .fixed (.float64 nan)
  if method == "pearson" then return .fixed (.float64 (correlationOf xs ys))
  fail .missingModule "No module named 'scipy'"

/-! ### Parameter lists and calls -/

/-- A method whose parameters after the receiver may only be named. -/
def keywordMethod (qual : String) (params : List String) : Signature :=
  ⟨qual, ["self"], 1, params.map fun p => (p, true), false, false⟩

/-- The parameter list of a method of this module, if it is one. -/
def orderSignature (name : String) : Option Signature :=
  match name with
  | "sort_values" =>
    some (keywordMethod "Series.sort_values"
      ["axis", "ascending", "inplace", "kind", "na_position", "ignore_index", "key"])
  | "sort_index" =>
    some (keywordMethod "Series.sort_index"
      ["axis", "level", "ascending", "inplace", "kind", "na_position", "sort_remaining",
       "ignore_index", "key"])
  | "argsort" => some (seriesMethod "Series.argsort" ["axis", "kind", "order", "stable"] 0 false false)
  | "rank" =>
    some (seriesMethod "NDFrame.rank" ["axis", "method", "numeric_only", "na_option", "ascending", "pct"] 0 false false)
  | "nlargest" | "nsmallest" => some (seriesMethod s!"Series.{name}" ["n", "keep"] 0 false false)
  | "head" | "tail" => some (seriesMethod s!"NDFrame.{name}" ["n"] 0 false false)
  | "dropna" => some (keywordMethod "Series.dropna" ["axis", "inplace", "how", "ignore_index"])
  | "drop_duplicates" => some (keywordMethod "Series.drop_duplicates" ["keep", "inplace", "ignore_index"])
  | "duplicated" => some (seriesMethod "Series.duplicated" ["keep"] 0 false false)
  | "unique" => some (seriesMethod "Series.unique" [] 0 false false)
  | "mode" => some (seriesMethod "Series.mode" ["dropna"] 0 false false)
  | "value_counts" =>
    some (seriesMethod "IndexOpsMixin.value_counts" ["normalize", "sort", "ascending", "bins", "dropna"] 0 false false)
  | "quantile" => some (seriesMethod "Series.quantile" ["q", "interpolation"] 0 false false)
  | "interpolate" =>
    some ⟨"NDFrame.interpolate", ["self", "method"], 1,
      [("axis", true), ("limit", true), ("inplace", true), ("limit_direction", true),
       ("limit_area", true), ("downcast", true)], false, true⟩
  | "pct_change" =>
    some (seriesMethod "NDFrame.pct_change" ["periods", "fill_method", "limit", "freq"] 0 false true)
  | "corr" => some (seriesMethod "Series.corr" ["other", "method", "min_periods"] 1 false false)
  | "cov" => some (seriesMethod "Series.cov" ["other", "min_periods", "ddof"] 1 false false)
  | _ => none

/-- Calls a method of this module on a series with labels `labels`, its arguments bound. -/
def callOrdered (labels : Column) (s : Labelled) (name : String) (b : Bound) : Outcome Obj := do
  let c := s.values
  match name with
  | "sort_values" => sortValues labels s b
  | "sort_index" => sortIndex labels s b
  | "argsort" => return .series (← argSort c)
  | "rank" => return .series (← rankSeries c b)
  | "nlargest" => extremes labels s true b
  | "nsmallest" => extremes labels s false b
  | "head" => endsOf labels s false b
  | "tail" => endsOf labels s true b
  | "dropna" => dropMissing labels s b
  | "drop_duplicates" => dropDuplicates labels s b
  | "duplicated" =>
    let keep ← keepArg false (b.getD "keep" (.plain (.str "first")))
    return .series (.bool (duplicateMask c keep))
  | "unique" => return .labelled (Labelled.array (uniqueValues c))
  | "mode" => modes s b
  | "value_counts" => valueCounts s b
  | "quantile" => quantiles s b
  | "interpolate" => interpolateSeries labels c b
  | "pct_change" => percentChange c b
  | "corr" | "cov" => correlate c name b
  | _ => fail .attribute s!"'Series' object has no attribute '{name}'"

end Dataflow.Eval
