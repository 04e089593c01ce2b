import Dataflow.Table.Frame
import Dataflow.Table.Sort
import Dataflow.Eval.Scalar
import Dataflow.Number.Parse
import Dataflow.Number.Sum
/-!
# Grouping rows and summarising groups

Rows are grouped by the values of key columns. A row with a missing key value belongs to no
group. The groups are ordered by their keys: each key column's distinct values are ranked
(numbers before texts), and groups compare by these ranks, first key first. Each group lists
its rows in table order.

A group is summarised column by column (`Reduction`), with the numerics of the table library:

* sums of floats are compensated (Kahan), sums of integers wrap around at 64 bits, sums of
  truth values count them, and sums of other values add them with the language's `+`;
* means are compensated sums of the values as floats, divided by their number;
* variances and standard deviations keep a running mean (Welford) and divide by one less than
  the number of values, NaN for fewer than two;
* minimum, maximum, first and last skip missing values, NaN when none are left.

Integer, unsigned and truth-value columns keep their type under minimum, maximum, first and
last; means, variances and deviations are floats.
-/

namespace Dataflow

/-- The summaries a group can be reduced to. -/
inductive Reduction where
  | sum | mean | count | min | max | first | last | std | var
deriving Repr, BEq, DecidableEq, Inhabited

namespace Reduction

/-- Every reduction. -/
def all : List Reduction := [.sum, .mean, .count, .min, .max, .first, .last, .std, .var]

/-- The name of a reduction in a configuration. -/
def name : Reduction → String
  | .sum => "sum" | .mean => "mean" | .count => "count" | .min => "min" | .max => "max"
  | .first => "first" | .last => "last" | .std => "std" | .var => "var"

/-- The reduction a name stands for. -/
def ofName? (s : String) : Option Reduction := all.find? (·.name == s)

end Reduction

/-- Rows grouped by keys. -/
structure Grouping where
  /-- the rows of each group, in table order; groups in the order of their keys -/
  members : Array (Array Nat)
  /-- the value of every key in every group, one column per key -/
  keys : List Column

/-- The code of every row for one key column: the rank of its value among the column's sorted
distinct values, `none` for a missing value. The distinct values come along. -/
def keyCodes (c : Column) : List Cell × Array (Option Nat) :=
  let cats := sortedCategories c
  (cats, c.cells.map fun x => if x.isNull then none else cats.findIdx? (· == x))

/-- The codes of a row under coded key columns, one per key; nothing when the row misses a key
value. -/
def rowCode (coded : List (List Cell × Array (Option Nat))) (i : Nat) : Option (List Nat) :=
  coded.mapM fun (_, codes) => codes.getD i none

/-- The first `rows` rows that miss no key value, each with its codes. -/
def presentRows (coded : List (List Cell × Array (Option Nat))) (rows : Nat) :
    List (Nat × List Nat) :=
  (List.range rows).filterMap fun i => (rowCode coded i).map fun code => (i, code)

/-- The distinct codes of rows, in ascending order. -/
def groupCodes (present : List (Nat × List Nat)) : List (List Nat) :=
  ((present.map (·.2)).foldl (fun acc code => if acc.contains code then acc else acc ++ [code])
    []).mergeSort ranksLe

/-- Groups `rows` rows by key columns. -/
def groupRows (keys : List Column) (rows : Nat) : Grouping :=
  let coded := keys.map keyCodes
  let present := presentRows coded rows
  let sorted := groupCodes present
  let members := sorted.toArray.map fun code =>
    ((present.filter (·.2 == code)).map (·.1)).toArray
  let firsts := members.map fun m => m.getD 0 0
  let keyColumn (k : Nat) (c : Column) (cats : List Cell) : Column :=
    match c with
    | .object _ => .object (sorted.toArray.map fun code => cats.getD (code.getD k 0) .none)
    | _ => c.take firsts
  ⟨members, (coded.zip keys).zipIdx.map fun (((cats, _), col), k) => keyColumn k col cats⟩

/-! ### Numeric summaries -/

/-- The compensated (Kahan) sum of floats, skipping NaN. A compensation that becomes NaN (an
infinite value was added) is reset, so infinities survive. -/
def compensatedSum (xs : List Float) : Float × Nat :=
  let (s, _, n) := xs.foldl (fun (s, comp, n) v =>
    if v.isNaN then (s, comp, n)
    else
      let y := v - comp
      let t := s + y
      let comp := t - s - y
      (t, (if comp.isNaN then 0.0 else comp), n + 1)) (0.0, 0.0, 0)
  (s, n)

/-- The mean of floats, skipping NaN; NaN when none are left. -/
def compensatedMean (xs : List Float) : Float :=
  let (s, n) := compensatedSum xs
  if n == 0 then 0.0 / 0.0 else s / n.toFloat

/-- The sample variance of floats by a running mean, skipping NaN; its square root when
`root`. NaN for fewer than two values. -/
def runningVariance (root : Bool) (xs : List Float) : Float :=
  let (n, _, m2) := xs.foldl (fun (n, mean, m2) v =>
    if v.isNaN then (n, mean, m2)
    else
      let n := n + 1
      let old := mean
      let mean := mean + (v - old) / n.toFloat
      (n, mean, m2 + (v - mean) * (v - old))) ((0 : Nat), 0.0, 0.0)
  if n ≤ 1 then 0.0 / 0.0
  else
    let v := m2 / (n.toFloat - 1.0)
    if root then v.sqrt else v

/-- The sample variance of floats by two passes (the mean first, then the squared distances
from it), skipping NaN; NaN for fewer than two values. -/
def twoPassVariance (xs : Array Float) : Float :=
  let count := (xs.filter (!·.isNaN)).size
  if count ≤ 1 then 0.0 / 0.0
  else
    let zeroed := xs.map fun v => if v.isNaN then 0.0 else v
    let avg := floatSum zeroed / count.toFloat
    let squares := xs.map fun v => if v.isNaN then 0.0 else (avg - v) * (avg - v)
    floatSum squares / (count - 1).toFloat

/-- The least (or greatest) float, skipping NaN; NaN when none are left. -/
def floatExtreme (greatest : Bool) (xs : List Float) : Float :=
  match xs.filter (!·.isNaN) with
  | [] => 0.0 / 0.0
  | x :: rest => rest.foldl (fun a v => if (if greatest then v > a else v < a) then v else a) x

/-- The float a value converts to, as the float constructor converts it. -/
def cellFloat : Cell → Outcome Float
  | .float f => .ok f
  | .bool b => .ok (if b then 1.0 else 0.0)
  | .int i => Eval.toFloatChecked i
  | .str s => match Decimal.readFloat s with
    | some f => .ok f
    | none => fail .value s!"could not convert string to float: {Text.quoteText s}"
  | .none => fail .type "float() argument must be a string or a real number, not 'NoneType'"
  | .complex _ _ => fail .type "float() argument must be a string or a real number, not 'complex'"
  | .bytes s => match Decimal.readFloat s with
    | some f => .ok f
    | none => fail .value s!"could not convert string to float: {Cell.bytesText s}"
  | c => fail .type s!"float() argument must be a string or a real number, not '{c.typeName}'"

/-! ### Summaries of a column -/

/-- The values of a column at the rows of a group. -/
def groupValues {α : Type} (vs : Array α) (d : α) (rows : Array Nat) : List α :=
  rows.toList.map fun i => vs.getD i d

/-- The failure of a reduction the table library cannot apply to mixed values. -/
def mixedFailure (r : Reduction) : Failure :=
  ⟨.type, s!"agg function failed [how->{r.name},dtype->object]"⟩

/-- A reduction of mixed values to one value per group.

Sums add the present values with the language's `+` (zero for none), counts count them, first
and last take the first and last present value (nothing for none), and deviations read every
value of the column as a float first. The other reductions go value by value and their
results stay mixed: a mean is the sum of the present values as a float over their number, a
variance the two-pass one, and a minimum or maximum compares the values with missing ones
read as an infinity on the far side, so that a text beside a missing value fails; a group with
nothing present gives NaN. -/
def reduceMixed (r : Reduction) (vs : Array Cell) (groups : Array (Array Nat)) : Outcome Column := do
  let present (g : Array Nat) : List Cell := (groupValues vs .none g).filter (!·.isNull)
  let numbers (g : Array Nat) : Outcome (List Cell) := do
    let xs := present g
    if xs.all Cell.isNumber then pure xs else .error (mixedFailure r)
  let total (xs : List Cell) : Outcome Cell := match xs with
    | [] => pure (.int 0)
    | x :: rest => rest.foldlM (Eval.cellArith .add) x
  let nan : Float := 0.0 / 0.0
  match r with
  | .sum => return .object (← groups.mapM fun g => total (present g))
  | .count => return .int64 (groups.map fun g => ((present g).length : Int))
  | .first => return .object (groups.map fun g => (present g).headD .none)
  | .last => return .object (groups.map fun g => (present g).getLastD .none)
  | .std => do
    let floats ← vs.mapM cellFloat
    return .float64 (groups.map fun g => runningVariance true (groupValues floats 0.0 g))
  | .mean => do
    let means ← groups.mapM fun g => do
      let xs ← numbers g
      if xs.isEmpty then pure (Cell.float nan)
      else pure (.float ((← cellFloat (← total xs)) / xs.length.toFloat))
    return .object means
  | .var => do
    let vars ← groups.mapM fun g => do
      let _ ← numbers g
      let floats ← (groupValues vs .none g).mapM fun v =>
        if v.isNull then pure nan else cellFloat v
      pure (Cell.float (twoPassVariance floats.toArray))
    return .object vars
  | .min | .max => do
    let far : Cell := .float (if r == .min then 1.0 / 0.0 else -1.0 / 0.0)
    let picks ← groups.mapM fun g => do
      let vals := groupValues vs .none g
      if vals.all Cell.isNull then pure (Cell.float nan)
      else
        match vals.map fun v => if v.isNull then far else v with
        | [] => pure (Cell.float nan)
        | x :: rest => rest.foldlM (fun acc v => do
            match acc.order v with
            | .ok o =>
              let keep := if r == .min then o != some .gt else o != some .lt
              pure (if keep then acc else v)
            | .error _ => .error (mixedFailure r)) x
    return .object picks

/-- A reduction of a column to one value per group. -/
def reduceColumn (r : Reduction) (c : Column) (groups : Array (Array Nat)) : Outcome Column :=
  let floats (g : Array Nat) : List Float := groupValues c.floats 0.0 g
  let firstOf {α : Type} [Inhabited α] (vs : Array α) (g : Array Nat) : α := vs.getD (g.getD 0 0) default
  let lastOf {α : Type} [Inhabited α] (vs : Array α) (g : Array Nat) : α := vs.getD (g.back?.getD 0) default
  match r, c with
  | .count, _ => .ok (.int64 (groups.map fun g =>
      (((groupValues c.nulls true g).filter (!·)).length : Int)))
  | .mean, .object _ | .var, .object _ | .std, .object _ | .sum, .object _
  | .min, .object _ | .max, .object _ | .first, .object _ | .last, .object _
  | _, .complex128 _ =>
      reduceMixed r c.cells groups
  | .mean, _ => .ok (.float64 (groups.map fun g => compensatedMean (floats g)))
  | .var, _ => .ok (.float64 (groups.map fun g => runningVariance false (floats g)))
  | .std, _ => .ok (.float64 (groups.map fun g => runningVariance true (floats g)))
  | .sum, .int64 vs => .ok (.int64 (groups.map fun g => wrap64 ((groupValues vs 0 g).foldr (· + ·) 0)))
  | .sum, .uint64 vs => .ok (.uint64 (groups.map fun g => wrapU64 (((groupValues vs 0 g).foldr (· + ·) 0 : Nat) : Int)))
  | .sum, .bool vs => .ok (.int64 (groups.map fun g => (((groupValues vs false g).filter id).length : Int)))
  | .sum, _ => .ok (.float64 (groups.map fun g => (compensatedSum (floats g)).1))
  | .min, .float64 _ => .ok (.float64 (groups.map fun g => floatExtreme false (floats g)))
  | .max, .float64 _ => .ok (.float64 (groups.map fun g => floatExtreme true (floats g)))
  | .first, .float64 vs => .ok (.float64 (groups.map fun g =>
      ((groupValues vs 0.0 g).find? (!·.isNaN)).getD (0.0 / 0.0)))
  | .last, .float64 vs => .ok (.float64 (groups.map fun g =>
      (((groupValues vs 0.0 g).reverse).find? (!·.isNaN)).getD (0.0 / 0.0)))
  | .min, .float16 _ => .ok (.float16 (groups.map fun g => floatExtreme false (floats g)))
  | .max, .float16 _ => .ok (.float16 (groups.map fun g => floatExtreme true (floats g)))
  | .first, .float16 vs => .ok (.float16 (groups.map fun g =>
      ((groupValues vs 0.0 g).find? (!·.isNaN)).getD (0.0 / 0.0)))
  | .last, .float16 vs => .ok (.float16 (groups.map fun g =>
      (((groupValues vs 0.0 g).reverse).find? (!·.isNaN)).getD (0.0 / 0.0)))
  | .min, .int64 vs => .ok (.int64 (groups.map fun g => ((groupValues vs 0 g).min?).getD 0))
  | .max, .int64 vs => .ok (.int64 (groups.map fun g => ((groupValues vs 0 g).max?).getD 0))
  | .min, .uint64 vs => .ok (.uint64 (groups.map fun g => ((groupValues vs 0 g).min?).getD 0))
  | .max, .uint64 vs => .ok (.uint64 (groups.map fun g => ((groupValues vs 0 g).max?).getD 0))
  | .min, .bool vs => .ok (.bool (groups.map fun g => (groupValues vs false g).all id))
  | .max, .bool vs => .ok (.bool (groups.map fun g => (groupValues vs false g).any id))
  | .first, .int64 vs => .ok (.int64 (groups.map (firstOf vs)))
  | .last, .int64 vs => .ok (.int64 (groups.map (lastOf vs)))
  | .first, .uint64 vs => .ok (.uint64 (groups.map (firstOf vs)))
  | .last, .uint64 vs => .ok (.uint64 (groups.map (lastOf vs)))
  | .first, .bool vs => .ok (.bool (groups.map (firstOf vs)))
  | .last, .bool vs => .ok (.bool (groups.map (lastOf vs)))

end Dataflow
