import Dataflow.Eval.Series
/-!
# Moving windows

A moving window computes, at each value of a series, a statistic of the values around it:

* `rolling`: the last `size` values (or `size` values centred on the value), the window being
  cut at the ends of the series;
* `expanding`: every value so far;
* `weighted` (exponentially weighted): every value so far, the older ones weighing less.

Missing values take no part, and a window holding fewer than its least number of present values
gives NaN. Infinities count as missing: the values are floats, infinities made NaN, before any
window is computed.

The sums, means and variances of consecutive windows are not computed afresh. Each window is
the one before with the values that left it removed and the values that entered it added, with
the compensated (Kahan) sums of the windowing library, so the last bits of a result depend on
the windows before it; a window that does not overlap the one before starts afresh. A window
whose present values are all equal to the last one added gives that value exactly (its sum is
that value times their count, its variance zero), and a mean of values of one sign keeps that
sign.
-/

namespace Dataflow.Eval

/-! ### Values and windows -/

/-- The values of a series as the windows read them: floats (complex numbers by their real
part), infinities made NaN; mixed values that are not all numbers cannot be aggregated. -/
def windowFloats (c : Column) : Outcome (Array Float) := do
  let fs ← match c with
    | .object vs =>
      match vs.mapM castCell with
      | .ok fs => pure fs
      | .error _ => fail .value "No numeric types to aggregate"
    | c => pure c.floats
  return fs.map fun f => if f.isInf then nan else f

/-- The bounds `[start, stop)` of the window at each of `n` values. -/
def windowBounds (w : Window) (n : Nat) : Array (Nat × Nat) :=
  let clip (i : Int) : Nat := (max 0 (min i (n : Int))).toNat
  match w with
  | .rolling size _ centre =>
    let offset : Int := if centre || size == 0 then ((size : Int) - 1) / 2 else 0
    (Array.range n).map fun (i : Nat) =>
      let stop : Int := (i : Int) + 1 + offset
      (clip (stop - size), clip stop)
  | _ => (Array.range n).map fun i => (0, i + 1)

/-- The least number of present values of a window. -/
def Window.least : Window → Nat
  | .rolling _ l _ => l
  | .expanding l => l
  | .weighted _ _ _ l => l

/-- Runs a moving computation over windows. The first window, and every window that starts at
or after the end of the one before, is built afresh from `fresh` (given the window's first
value); every other window is the one before with the values that left it removed and those
that entered it added. -/
def movingFrom {σ : Type} (fresh : Nat → σ) (add remove : σ → Float → σ) (out : σ → Float)
    (vs : Array Float) (bounds : Array (Nat × Nat)) : Array Float :=
  let addRange (st : σ) (a b : Nat) : σ :=
    (List.range (b - a)).foldl (fun st k => add st (vs.getD (a + k) nan)) st
  let removeRange (st : σ) (a b : Nat) : σ :=
    (List.range (b - a)).foldl (fun st k => remove st (vs.getD (a + k) nan)) st
  let step (acc : Array Float × Option (σ × Nat × Nat)) (bound : Nat × Nat) :=
    let (outs, prev) := acc
    let (s, e) := bound
    let st := match prev with
      | some (st, ps, pe) =>
        if s ≥ pe then addRange (fresh s) s e
        else addRange (removeRange st ps s) pe e
      | none => addRange (fresh s) s e
    (outs.push (out st), some (st, s, e))
  (bounds.foldl step (#[], none)).1

/-- `movingFrom` with the fresh state given the window's first value. -/
def moving {σ : Type} (fresh : Float → σ) (add remove : σ → Float → σ) (out : σ → Float)
    (vs : Array Float) (bounds : Array (Nat × Nat)) : Array Float :=
  movingFrom (fun s => fresh (vs.getD s nan)) add remove out vs bounds

/-! ### Sums and means -/

/-- The running state of a moving sum: the present values, their compensated sum, the
compensations of additions and removals, the negative values, and the run of equal values
last added. -/
structure SumState where
  count : Nat
  total : Float
  addError : Float
  removeError : Float
  negatives : Nat
  run : Nat
  last : Float

/-- A fresh sum whose window starts with `first`. -/
def SumState.fresh (first : Float) : SumState := ⟨0, 0, 0, 0, 0, 0, first⟩

/-- Adds a value to a moving sum. -/
def SumState.add (st : SumState) (v : Float) : SumState :=
  if v.isNaN then st
  else
    let y := v - st.addError
    let t := st.total + y
    { st with
      count := st.count + 1, total := t, addError := t - st.total - y,
      negatives := if Decimal.signBit v then st.negatives + 1 else st.negatives,
      run := if v == st.last then st.run + 1 else 1, last := v }

/-- Removes a value from a moving sum. -/
def SumState.remove (st : SumState) (v : Float) : SumState :=
  if v.isNaN then st
  else
    let y := -v - st.removeError
    let t := st.total + y
    { st with
      count := st.count - 1, total := t, removeError := t - st.total - y,
      negatives := if Decimal.signBit v then st.negatives - 1 else st.negatives }

/-- The sum of a window: zero for an empty window that may be empty, NaN for too few values. -/
def SumState.sum (least : Nat) (st : SumState) : Float :=
  if st.count == 0 && least == 0 then 0
  else if st.count ≥ least then
    if st.run ≥ st.count then st.last * Decimal.intToFloat st.count else st.total
  else nan

/-- The mean of a window: NaN for too few values or none. -/
def SumState.mean (least : Nat) (st : SumState) : Float :=
  if st.count ≥ least && st.count > 0 then
    let m := st.total / Decimal.intToFloat st.count
    if st.run ≥ st.count then st.last
    else if st.negatives == 0 && m < 0 then 0
    else if st.negatives == st.count && m > 0 then 0
    else m
  else nan

/-- Moving sums. -/
def movingSum (least : Nat) (vs : Array Float) (bounds : Array (Nat × Nat)) : Array Float :=
  moving SumState.fresh SumState.add SumState.remove (SumState.sum least) vs bounds

/-- Moving means. -/
def movingMean (least : Nat) (vs : Array Float) (bounds : Array (Nat × Nat)) : Array Float :=
  moving SumState.fresh SumState.add SumState.remove (SumState.mean least) vs bounds

/-! ### Variances -/

/-- The running state of a moving variance (Welford's method with compensation): the count of
present values, their mean, the sum of squared deviations, the compensations of additions and
removals, and the run of equal values last added. -/
structure VarState where
  count : Float
  mean : Float
  squares : Float
  addError : Float
  removeError : Float
  run : Nat
  last : Float

/-- A fresh variance whose window starts with `first`. -/
def VarState.fresh (first : Float) : VarState := ⟨0, 0, 0, 0, 0, 0, first⟩

/-- Adds a value to a moving variance. -/
def VarState.add (st : VarState) (v : Float) : VarState :=
  if v.isNaN then st
  else
    let count := st.count + 1
    let run := if v == st.last then st.run + 1 else 1
    let before := st.mean - st.addError
    let y := v - st.addError
    let t := y - st.mean
    let mean := if count != 0 then st.mean + t / count else 0
    { st with
      count := count, run := run, last := v, addError := t + st.mean - y, mean := mean,
      squares := st.squares + (v - before) * (v - mean) }

/-- Removes a value from a moving variance. -/
def VarState.remove (st : VarState) (v : Float) : VarState :=
  if v.isNaN then st
  else
    let count := st.count - 1
    if count != 0 then
      let before := st.mean - st.removeError
      let y := v - st.removeError
      let t := y - st.mean
      let mean := st.mean - t / count
      { st with
        count := count, removeError := t + st.mean - y, mean := mean,
        squares := st.squares - (v - before) * (v - mean) }
    else { st with count := count, mean := 0, squares := 0 }

/-- The variance of a window with `ddof` degrees of freedom taken off; at least one value is
needed whatever the least number asked. -/
def VarState.variance (least : Nat) (ddof : Float) (st : VarState) : Float :=
  let least := Decimal.intToFloat (max least 1)
  if st.count ≥ least && st.count > ddof then
    if st.count == 1 || Decimal.intToFloat st.run ≥ st.count then 0
    else st.squares / (st.count - ddof)
  else nan

/-- Moving variances. -/
def movingVar (least : Nat) (ddof : Float) (vs : Array Float) (bounds : Array (Nat × Nat)) :
    Array Float :=
  moving VarState.fresh VarState.add VarState.remove (VarState.variance least ddof) vs bounds

/-! ### Higher moments -/

/-- A compensated running sum: the sum and the compensations of additions and removals. -/
structure Compensated where
  total : Float := 0
  addError : Float := 0
  removeError : Float := 0
deriving Inhabited

/-- Adds a term to a compensated sum. -/
def Compensated.add (c : Compensated) (v : Float) : Compensated :=
  let y := v - c.addError
  let t := c.total + y
  { c with total := t, addError := t - c.total - y }

/-- Removes a term from a compensated sum. -/
def Compensated.remove (c : Compensated) (v : Float) : Compensated :=
  let y := -v - c.removeError
  let t := c.total + y
  { c with total := t, removeError := t - c.total - y }

/-- The running state of the moments of a window: the count of present values, the
compensated sums of their first four powers, and the run of equal values last added with the
last of them. -/
structure MomentState where
  count : Nat
  powers : Array Compensated
  run : Nat
  last : Float
deriving Inhabited

/-- The powers summed for the moments, from the first to the `k`-th. -/
def powersOf (k : Nat) (v : Float) : Array Float :=
  ((List.range k).scanl (fun acc _ => acc * v) 1).drop 1 |>.toArray

/-- Adds a value to the moments of `k` powers. -/
def MomentState.add (k : Nat) (st : MomentState) (v : Float) : MomentState :=
  if v.isNaN then st
  else
    { count := st.count + 1,
      powers := (st.powers.zip (powersOf k v)).map fun (c, p) => c.add p,
      run := if v == st.last then st.run + 1 else 1, last := v }

/-- Removes a value from the moments of `k` powers. -/
def MomentState.remove (k : Nat) (st : MomentState) (v : Float) : MomentState :=
  if v.isNaN then st
  else
    { st with
      count := st.count - 1,
      powers := (st.powers.zip (powersOf k v)).map fun (c, p) => c.remove p }

/-- The skewness of a window with at least `least` (and three) values: zero for equal values,
NaN for a variance too small to divide by. -/
def MomentState.skew (least : Nat) (st : MomentState) : Float :=
  if st.count ≥ least then
    let n := Decimal.intToFloat st.count
    let sum (i : Nat) := (st.powers.getD i default).total
    let a := sum 0 / n
    let b := sum 1 / n - a * a
    let c := sum 2 / n - a * a * a - 3 * a * b
    if st.count < 3 then nan
    else if st.run ≥ st.count then 0
    else if b ≤ 1e-14 then nan
    else
      let r := b.sqrt
      (Float.sqrt (n * (n - 1)) * c) / ((n - 2) * r * r * r)
  else nan

/-- The excess kurtosis of a window with at least `least` (and four) values: `-3` for equal
values, NaN for a variance too small to divide by. -/
def MomentState.kurt (least : Nat) (st : MomentState) : Float :=
  if st.count ≥ least then
    if st.count < 4 then nan
    else if st.run ≥ st.count then -3
    else
      let n := Decimal.intToFloat st.count
      let sum (i : Nat) := (st.powers.getD i default).total
      let a := sum 0 / n
      let r := a * a
      let b := sum 1 / n - r
      let r := r * a
      let c := sum 2 / n - r - 3 * a * b
      let r := r * a
      let d := sum 3 / n - r - 6 * b * a * a - 4 * c * a
      if b ≤ 1e-14 then nan
      else
        let k := (n * n - 1) * d / (b * b) - 3 * ((n - 1) * (n - 1))
        k / ((n - 2) * (n - 3))
  else nan

/-- The values shifted by their mean rounded to an integer, when their least value lies
within `reach` below the mean, which keeps the powers of small values precise. -/
def centredValues (reach : Float) (vs : Array Float) : Array Float :=
  let present := vs.toList.filter (!·.isNaN)
  let lowest := present.foldl (fun acc v => if v < acc then v else acc) (1.0 / 0.0)
  let lowest := if present.isEmpty then nan else lowest
  let mean := present.foldl (· + ·) 0 / Decimal.intToFloat present.length
  if lowest - mean > -reach then vs.map (· - mean.round) else vs

/-- Moving moments of `k` powers over the centred values; a fresh window remembers its first
value as it was before centring. -/
def movingMoments (k : Nat) (reach : Float) (out : MomentState → Float) (vs : Array Float)
    (bounds : Array (Nat × Nat)) : Array Float :=
  let fresh (s : Nat) : MomentState := ⟨0, Array.replicate k default, 0, vs.getD s nan⟩
  movingFrom fresh (MomentState.add k) (MomentState.remove k) out (centredValues reach vs) bounds

/-- Moving skewness, of at least three values. -/
def movingSkew (least : Nat) (vs : Array Float) (bounds : Array (Nat × Nat)) : Array Float :=
  movingMoments 3 1e5 (MomentState.skew (max least 3)) vs bounds

/-- Moving excess kurtosis, of at least four values. -/
def movingKurt (least : Nat) (vs : Array Float) (bounds : Array (Nat × Nat)) : Array Float :=
  movingMoments 4 1e4 (MomentState.kurt (max least 4)) vs bounds

/-- Moving covariances of two series, each missing where either is, with `ddof` degrees of
freedom taken off: the mean of the products less the product of the means, scaled by the
count. -/
def movingCov (least : Nat) (ddof : Float) (xs ys : Array Float) (bounds : Array (Nat × Nat)) :
    Array Float :=
  let both := Array.zipWith (fun x y => if x.isNaN || y.isNaN then nan else x * y) xs ys
  let xs := Array.zipWith (fun x y => if y.isNaN then nan else x) xs ys
  let ys := Array.zipWith (fun y x => if x.isNaN then nan else y) ys xs
  let meanXY := movingMean least both bounds
  let meanX := movingMean least xs bounds
  let meanY := movingMean least ys bounds
  let counts := movingSum 0 (both.map fun v => if v.isNaN then 0 else 1) bounds
  (List.range bounds.size).toArray.map fun i =>
    let k := counts.getD i 0
    (meanXY.getD i nan - meanX.getD i nan * meanY.getD i nan) * (k / (k - ddof))

/-- Moving correlations of two series: their moving covariance over the root of the product
of their moving variances. -/
def movingCorr (least : Nat) (ddof : Float) (xs ys : Array Float) (bounds : Array (Nat × Nat)) :
    Array Float :=
  let xs' := Array.zipWith (fun x y => if y.isNaN then nan else x) xs ys
  let ys' := Array.zipWith (fun y x => if x.isNaN then nan else y) ys xs
  let cov := movingCov least ddof xs ys bounds
  let vx := movingVar least ddof xs' bounds
  let vy := movingVar least ddof ys' bounds
  (List.range bounds.size).toArray.map fun i =>
    cov.getD i nan / Float.pow (vx.getD i nan * vy.getD i nan) 0.5

/-- The square root of a variance, zero for a negative one. -/
def rootOf (v : Float) : Float := if v < 0 then 0 else v.sqrt

/-! ### Order statistics and counts -/

/-- The present values of a window. -/
def windowValues (vs : Array Float) (bound : Nat × Nat) : List Float :=
  ((List.range (bound.2 - bound.1)).map fun k => vs.getD (bound.1 + k) nan).filter (!·.isNaN)

/-- Moving extremes: the greatest (or least) present value, the later of equal ones. -/
def movingExtreme (greatest : Bool) (least : Nat) (vs : Array Float)
    (bounds : Array (Nat × Nat)) : Array Float :=
  bounds.map fun bound =>
    let xs := windowValues vs bound
    match xs with
    | [] => nan
    | x :: rest =>
      if xs.length < least then nan
      else rest.foldl (fun acc y => if (if greatest then y ≥ acc else y ≤ acc) then y else acc) x

/-- Moving medians: the middle present value, or the mean of the two middle ones. -/
def movingMedian (least : Nat) (vs : Array Float) (bounds : Array (Nat × Nat)) : Array Float :=
  bounds.map fun bound =>
    let xs := insertionSort (windowValues vs bound)
    let n := xs.length
    if n == 0 || n < least then nan
    else if n % 2 == 1 then xs.getD (n / 2) nan
    else (xs.getD (n / 2) nan + xs.getD (n / 2 - 1) nan) / 2
where
  /-- Sorts floats in increasing order. -/
  insertionSort (xs : List Float) : List Float :=
    xs.foldr (fun x acc => insertOne x acc) []
  /-- Inserts a float into a sorted list. -/
  insertOne (x : Float) : List Float → List Float
    | [] => [x]
    | y :: rest => if x ≤ y then x :: y :: rest else y :: insertOne x rest

/-- How a quantile between two values is taken. -/
inductive Between where
  | linear | lower | higher | nearest | midpoint
deriving BEq

/-- The way of taking a quantile between values, by its name. -/
def betweenOf (name : String) : Outcome Between :=
  match name with
  | "linear" => .ok .linear
  | "lower" => .ok .lower
  | "higher" => .ok .higher
  | "nearest" => .ok .nearest
  | "midpoint" => .ok .midpoint
  | other => fail .value s!"Interpolation '{other}' is not supported"

/-- Moving quantiles strictly between `0` and `1`: the value at the fraction `q` of the way
through the sorted present values, taken between the two around it as `how` says. -/
def movingQuantile (least : Nat) (q : Float) (how : Between) (vs : Array Float)
    (bounds : Array (Nat × Nat)) : Array Float :=
  bounds.map fun bound =>
    let xs := movingMedian.insertionSort (windowValues vs bound)
    let n := xs.length
    if n == 0 || n < least then nan
    else if n == 1 then xs.getD 0 nan
    else
      let place := q * Decimal.intToFloat (n - 1)
      let i := place.floor.toUInt64.toNat
      let frac := place - Decimal.intToFloat i
      let low := xs.getD i nan
      let high := xs.getD (i + 1) nan
      if frac == 0 then low
      else match how with
        | .linear => low + (high - low) * frac
        | .lower => low
        | .higher => high
        | .midpoint => (low + high) / 2
        | .nearest =>
          if frac == 0.5 then (if i % 2 == 0 then low else high)
          else if frac < 0.5 then low else high

/-- Moving counts of present values, as the moving sum of ones. -/
def movingCount (least : Nat) (vs : Array Float) (bounds : Array (Nat × Nat)) : Array Float :=
  movingSum least (vs.map fun v => if v.isNaN then 0 else 1) bounds

/-! ### Exponential weights -/

/-- The exponentially weighted mean (or, without `normalize`, sum) of every prefix. -/
def weightedMean (com : Float) (adjust ignoreMissing normalize : Bool) (least : Nat)
    (vs : Array Float) : Array Float :=
  match vs.toList with
  | [] => #[]
  | first :: rest =>
    let alpha := 1 / (1 + com)
    let decay := 1 - alpha
    let fresh := if adjust then 1 else alpha
    let count0 : Nat := if first.isNaN then 0 else 1
    let out0 := if count0 ≥ least then first else nan
    let step (acc : Array Float × Float × Float × Nat) (cur : Float) :=
      let (outs, weighted, oldWeight, count) := acc
      let present := !cur.isNaN
      let count := if present then count + 1 else count
      let (weighted, oldWeight) :=
        if !weighted.isNaN then
          if present || !ignoreMissing then
            let (weighted, oldWeight) :=
              if normalize then (weighted, oldWeight * decay) else (decay * weighted, oldWeight)
            if present then
              if normalize then
                if weighted != cur then
                  let w := (oldWeight * weighted + fresh * cur) / (oldWeight + fresh)
                  (w, if adjust then oldWeight + fresh else 1)
                else (weighted, oldWeight)
              else (weighted + cur, oldWeight)
            else (weighted, oldWeight)
          else (weighted, oldWeight)
        else if present then (cur, oldWeight)
        else (weighted, oldWeight)
      (outs.push (if count ≥ least then weighted else nan), weighted, oldWeight, count)
    (rest.foldl step (#[out0], first, 1, count0)).1

/-- The exponentially weighted covariance of two series at every prefix, unbiased unless
`bias`. A pair counts only where both values are present; the weights of the pairs before
decay at every value after them, or only at present ones with `ignoreMissing`. -/
def weightedCov (com : Float) (adjust ignoreMissing bias : Bool) (least : Nat)
    (xs ys : Array Float) : Array Float :=
  match (Array.zipWith Prod.mk xs ys).toList with
  | [] => #[]
  | (x0, y0) :: rest =>
    let alpha := 1 / (1 + com)
    let decay := 1 - alpha
    let fresh := if adjust then 1 else alpha
    let seen0 := !x0.isNaN && !y0.isNaN
    let count0 : Nat := if seen0 then 1 else 0
    let out0 := if count0 ≥ least then (if bias then 0 else nan) else nan
    let step (acc : Array Float × (Float × Float) × Float × Float × Float × Float × Nat)
        (cur : Float × Float) :=
      let (outs, (mx, my), cov, sumWt, sumWt2, oldWt, count) := acc
      let (cx, cy) := cur
      let seen := !cx.isNaN && !cy.isNaN
      let count := if seen then count + 1 else count
      let ((mx, my), cov, sumWt, sumWt2, oldWt) :=
        if !mx.isNaN then
          if seen || !ignoreMissing then
            let sumWt := sumWt * decay
            let sumWt2 := sumWt2 * (decay * decay)
            let oldWt := oldWt * decay
            if seen then
              let nx := if mx != cx then (oldWt * mx + fresh * cx) / (oldWt + fresh) else mx
              let ny := if my != cy then (oldWt * my + fresh * cy) / (oldWt + fresh) else my
              let cov := (oldWt * (cov + (mx - nx) * (my - ny)) +
                fresh * ((cx - nx) * (cy - ny))) / (oldWt + fresh)
              let sumWt := sumWt + fresh
              let sumWt2 := sumWt2 + fresh * fresh
              let oldWt := oldWt + fresh
              if !adjust then ((nx, ny), cov, sumWt / oldWt, sumWt2 / (oldWt * oldWt), 1)
              else ((nx, ny), cov, sumWt, sumWt2, oldWt)
            else ((mx, my), cov, sumWt, sumWt2, oldWt)
          else ((mx, my), cov, sumWt, sumWt2, oldWt)
        else if seen then ((cx, cy), cov, sumWt, sumWt2, oldWt)
        else ((mx, my), cov, sumWt, sumWt2, oldWt)
      let out :=
        if count ≥ least then
          if bias then cov
          else
            let numerator := sumWt * sumWt
            let denominator := numerator - sumWt2
            if denominator > 0 then numerator / denominator * cov else nan
        else nan
      (outs.push out, (mx, my), cov, sumWt, sumWt2, oldWt, count)
    let means0 := if seen0 then (x0, y0) else (nan, nan)
    (rest.foldl step (#[out0], means0, 0, 1, 1, 1, count0)).1

/-- The exponentially weighted variance of every prefix: the covariance of the series with
itself. -/
def weightedVar (com : Float) (adjust ignoreMissing bias : Bool) (least : Nat)
    (vs : Array Float) : Array Float :=
  weightedCov com adjust ignoreMissing bias least vs vs

/-- The exponentially weighted correlation of two series at every prefix, each missing where
either is: their biased covariance over the root of the product of their biased variances, a
negative product counting as zero. -/
def weightedCorr (com : Float) (adjust ignoreMissing : Bool) (least : Nat)
    (xs ys : Array Float) : Array Float :=
  let xs := Array.zipWith (fun x y => if y.isNaN then nan else x) xs ys
  let ys := Array.zipWith (fun y x => if x.isNaN then nan else y) ys xs
  let cov := weightedCov com adjust ignoreMissing true least xs ys
  let vx := weightedCov com adjust ignoreMissing true least xs xs
  let vy := weightedCov com adjust ignoreMissing true least ys ys
  (List.range cov.size).toArray.map fun i =>
    cov.getD i nan / rootOf (vx.getD i nan * vy.getD i nan)

/-! ### Moving ranks -/

/-- How equal values share a rank in a moving window. -/
inductive TieRank where
  /-- the mean of the ranks they span -/
  | average
  /-- the lowest rank they span -/
  | lowest
  /-- the highest rank they span -/
  | highest
deriving BEq

/-- The way of ranking ties, by its name. -/
def tieRankOf (name : String) : Outcome TieRank :=
  match name with
  | "average" => .ok .average
  | "min" => .ok .lowest
  | "max" => .ok .highest
  | other => fail .key (Text.quoteText other)

/-- The rank of `v` among the present values of a window. -/
def rankAmong (ties : TieRank) (xs : List Float) (v : Float) : Float :=
  let below := Decimal.intToFloat (xs.filter (· < v)).length
  let upTo := Decimal.intToFloat (xs.filter (· ≤ v)).length
  match ties with
  | .lowest => below + 1
  | .highest => upTo
  | .average =>
    let low := below + 1
    (upTo * (upTo + 1) / 2 - (low - 1) * low / 2) / (upTo - low + 1)

/-- Moving ranks: the rank of the value that last entered each window among the window's
present values (as a fraction of their count with `pct`), values negated when descending. A
window that takes in no new value keeps the rank of the window before; a missing newcomer has
no rank. -/
def movingRank (least : Nat) (ties : TieRank) (ascending pct : Bool) (vs : Array Float)
    (bounds : Array (Nat × Nat)) : Array Float :=
  let signed := if ascending then vs else vs.map (fun v => -v)
  let step (acc : Array Float × Nat × Float) (bound : Nat × Nat) :=
    let (outs, lastStop, rank) := acc
    let (_, stop) := bound
    let present := windowValues signed bound
    let rank :=
      if stop > lastStop then
        let v := signed.getD (stop - 1) nan
        if v.isNaN then nan else rankAmong ties present v
      else rank
    let count := present.length
    let out := if count ≥ least then (if pct then rank / Decimal.intToFloat count else rank) else nan
    (outs.push out, stop, rank)
  (bounds.foldl step (#[], 0, 0)).1

/-! ### Methods of windows -/

/-- The parameter list of a method of a window, if the window has one of that name. -/
def windowSignature (w : Window) (name : String) : Option Signature :=
  let owner := w.shortName
  let engine := ["numeric_only", "engine", "engine_kwargs"]
  match w, name with
  | .weighted _ _ _ _, "mean" | .weighted _ _ _ _, "sum" =>
    some (seriesMethod s!"{owner}.{name}" engine 0 false false)
  | .weighted _ _ _ _, "var" | .weighted _ _ _ _, "std" =>
    some (seriesMethod s!"{owner}.{name}" ["bias", "numeric_only"] 0 false false)
  | .weighted _ _ _ _, "cov" =>
    some (seriesMethod s!"{owner}.cov" ["other", "pairwise", "bias", "numeric_only"] 0 false false)
  | .weighted _ _ _ _, "corr" =>
    some (seriesMethod s!"{owner}.corr" ["other", "pairwise", "numeric_only"] 0 false false)
  | _, "agg" | _, "aggregate" => some (seriesMethod s!"{owner}.aggregate" ["func"] 1 true true)
  | .weighted _ _ _ _, _ => none
  | _, "sum" | _, "mean" | _, "median" => some (seriesMethod s!"{owner}.{name}" engine 0 false false)
  | _, "min" | _, "max" =>
    some ⟨s!"{owner}.{name}", ["self", "numeric_only"], 1, [("engine", true), ("engine_kwargs", true)],
      true, true⟩
  | _, "var" | _, "std" =>
    some (seriesMethod s!"{owner}.{name}" ["ddof", "numeric_only", "engine", "engine_kwargs"] 0 false false)
  | _, "count" => some (seriesMethod s!"{owner}.count" ["numeric_only"] 0 false false)
  | _, "sem" => some (seriesMethod s!"{owner}.sem" ["ddof", "numeric_only"] 0 false false)
  | _, "skew" | _, "kurt" => some (seriesMethod s!"{owner}.{name}" ["numeric_only"] 0 false false)
  | _, "quantile" =>
    some (seriesMethod s!"{owner}.quantile" ["q", "interpolation", "numeric_only"] 1 false false)
  | _, "corr" | _, "cov" =>
    some (seriesMethod s!"{owner}.{name}" ["other", "pairwise", "ddof", "numeric_only"] 0 false false)
  | _, "rank" =>
    some (seriesMethod s!"{owner}.rank" ["method", "ascending", "pct", "numeric_only"] 0 false false)
  | _, "apply" =>
    some (seriesMethod s!"{owner}.apply" ["func", "raw", "engine", "engine_kwargs", "args", "kwargs"]
      1 false false)
  | _, _ => none

/-- Whether a window has a method of a name. -/
def isWindowMethod (w : Window) (name : String) : Bool := (windowSignature w name).isSome

/-- Calls a method of a window over a column. -/
def callWindow (w : Window) (c : Column) (name : String) (args : List Obj)
    (named : List (String × Obj)) : Outcome Obj := do
  let some sig := windowSignature w name
    | fail .attribute s!"'{w.shortName}' object has no attribute '{name}'"
  let b ← sig.bind args named
  let vs ← windowFloats c
  let bounds := windowBounds w vs.size
  let ddof ← floatArg (b.getD "ddof" (.plain (.int 1)))
  let least := w.least
  let out : Array Float ← match w with
    | .weighted com adjust ignoreMissing _ =>
      match name with
      | "mean" => pure (weightedMean com adjust ignoreMissing true least vs)
      | "sum" =>
        if !adjust then fail .notImplemented "sum is not implemented with adjust=False"
        pure (weightedMean com adjust ignoreMissing false least vs)
      | "corr" | "cov" =>
        let ys ← match b.getD "other" noneObj with
          | .plain .none => pure vs
          | .series o | .labelled ⟨o, _, _⟩ => windowFloats o
          | _ => fail .value "other must be a DataFrame or Series"
        if ys.size != vs.size then fail .value "other must be a DataFrame or Series"
        if name == "corr" then pure (weightedCorr com adjust ignoreMissing least vs ys)
        else
          let bias ← (b.getD "bias" (.plain (.bool false))).truth
          pure (weightedCov com adjust ignoreMissing bias least vs ys)
      | _ =>
        let bias ← (b.getD "bias" (.plain (.bool false))).truth
        let var := weightedVar com adjust ignoreMissing bias least vs
        pure (if name == "std" then var.map rootOf else var)
    | _ =>
      match name with
      | "sum" => pure (movingSum least vs bounds)
      | "mean" => pure (movingMean least vs bounds)
      | "median" => pure (movingMedian least vs bounds)
      | "min" => pure (movingExtreme false least vs bounds)
      | "max" => pure (movingExtreme true least vs bounds)
      | "count" => pure (movingCount least vs bounds)
      | "var" => pure (movingVar least ddof vs bounds)
      | "std" => pure ((movingVar least ddof vs bounds).map rootOf)
      | "skew" => pure (movingSkew least vs bounds)
      | "kurt" => pure (movingKurt least vs bounds)
      | "quantile" =>
        let q ← floatArg (b.getD "q" (.plain (.float 0.5)))
        let how ← match b.getD "interpolation" (.plain (.str "linear")) with
          | .plain (.str t) => betweenOf t
          | o => fail .value s!"Interpolation '{o.text}' is not supported"
        if q == 1 then pure (movingExtreme true least vs bounds)
        else if q == 0 then pure (movingExtreme false least vs bounds)
        else if q < 0 || q > 1 then
          fail .value s!"quantile value {floatText q} not in [0, 1]"
        else pure (movingQuantile least q how vs bounds)
      | "rank" =>
        if vs.isEmpty then pure #[]
        else
          let pct ← (b.getD "pct" (.plain (.bool false))).truth
          let how := b.getD "method" (.plain (.str "average"))
          match how with
          | .plain (.str _) | .plain .none => pure ()
          | o => typeError s!"Argument 'method' has incorrect type (expected str, got {o.typeName})"
          let ascending ← (b.getD "ascending" (.plain (.bool true))).truth
          let ties ← match how with
            | .plain (.str m) => tieRankOf m
            | _ => fail .key "None"
          pure (movingRank least ties ascending pct vs bounds)
      | "corr" | "cov" =>
        let other ← match b.getD "other" noneObj with
          | .plain .none => pure c
          | .series o => pure o
          | .labelled o => pure o.values
          | _ => fail .value "other must be a DataFrame or Series"
        let ys ← windowFloats other
        if ys.size != vs.size then fail .value "other must be a DataFrame or Series"
        if name == "corr" then pure (movingCorr least ddof vs ys bounds)
        else pure (movingCov least ddof vs ys bounds)
      | "sem" =>
        let std := (movingVar least 1 vs bounds).map rootOf
        let counts := movingCount least vs bounds
        pure (Array.zipWith (fun s k => s / Float.sqrt (k - ddof)) std counts)
      | _ => fail .notImplemented s!"{w.shortName}.{name} is called through its caller"
  return .series (.float64 out)

/-! ### Making windows -/

/-- Whether a value is an integer as the table library counts them (truth values are not). -/
def integerCell? (o : Obj) : Option Int :=
  match o with
  | .plain (.int i) | .fixed (.int64 i) => some i
  | _ => none

/-- The least number of present values asked for a window, checked. -/
def leastArg (o : Obj) (size : Option Int) : Outcome (Option Nat) := do
  match o with
  | .plain .none => return none
  | o =>
    let some m := integerCell? o | fail .value "min_periods must be an integer"
    if m < 0 then fail .value "min_periods must be >= 0"
    if let some s := size then
      if m > s then fail .value s!"min_periods {m} must be <= window {s}"
    return some m.toNat

/-- A rolling window from the arguments of `rolling`. -/
def makeRolling (b : Bound) : Outcome Window := do
  let centre := b.getD "center" (.plain (.bool false))
  let centreFlag ← match centre with
    | .plain (.bool c) | .fixed (.bool c) => pure c
    | .plain .none => pure false
    | _ => fail .value "center must be a boolean"
  let size := integerCell? (b.getD "window" noneObj)
  let least ← leastArg (b.getD "min_periods" noneObj) size
  match b.getD "closed" noneObj with
  | .plain .none => pure ()
  | .plain (.str s) =>
    if !(["right", "both", "left", "neither"].contains s) then
      fail .value "closed must be 'right', 'left', 'both' or 'neither'"
  | _ => fail .value "closed must be 'right', 'left', 'both' or 'neither'"
  match size with
  | some s =>
    if s < 0 then fail .value "window must be an integer 0 or greater"
    return .rolling s.toNat (least.getD s.toNat) centreFlag
  | none => fail .value "window must be an integer 0 or greater"

/-- An expanding window from the arguments of `expanding`. -/
def makeExpanding (b : Bound) : Outcome Window := do
  let least ← leastArg (b.getD "min_periods" (.plain (.int 1))) none
  return .expanding (least.getD 1)

/-- A number argument of `ewm`, if given. -/
def weightArg (b : Bound) (p : String) : Outcome (Option Float) :=
  match b.getD p noneObj with
  | .plain .none => .ok none
  | o => (floatArg o).map some

/-- An exponentially weighted window from the arguments of `ewm`: exactly one of `com`, `span`,
`halflife` and `alpha` sets the centre of mass. -/
def makeWeighted (b : Bound) : Outcome Window := do
  let com ← weightArg b "com"
  let span ← weightArg b "span"
  let halflife ← weightArg b "halflife"
  let alpha ← weightArg b "alpha"
  let given := [com, span, halflife, alpha].filter Option.isSome
  if given.length > 1 then fail .value "comass, span, halflife, and alpha are mutually exclusive"
  let centre ← match com, span, halflife, alpha with
    | some c, _, _, _ =>
      if c < 0 then fail .value "comass must satisfy: comass >= 0" else pure c
    | _, some s, _, _ =>
      if s < 1 then fail .value "span must satisfy: span >= 1" else pure ((s - 1) / 2)
    | _, _, some h, _ =>
      if h ≤ 0 then fail .value "halflife must satisfy: halflife > 0"
      else pure (1 / (1 - Float.exp (Float.log 0.5 / h)) - 1)
    | _, _, _, some a =>
      if a ≤ 0 || a > 1 then fail .value "alpha must satisfy: 0 < alpha <= 1"
      else pure ((1 - a) / a)
    | _, _, _, _ => fail .value "Must pass one of comass, span, halflife, or alpha"
  let least ← match b.getD "min_periods" (.plain (.int 0)) with
    | .plain .none => pure 1
    | o => match o.cell? with
      | some (.int m) => pure (max m 1).toNat
      | some (.bool _) => pure 1
      | some (.float f) => pure (max (Decimal.truncate f) 1).toNat
      | _ => typeError s!"int() argument must be a string, a bytes-like object or a real number, not '{o.typeName}'"
  let adjust ← (b.getD "adjust" (.plain (.bool true))).truth
  let ignoreMissing ← (b.getD "ignore_na" (.plain (.bool false))).truth
  return .weighted centre adjust ignoreMissing least

end Dataflow.Eval
