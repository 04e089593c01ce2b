import Dataflow.Table.Frame
import Dataflow.Table.Sort
/-!
# Joining two tables on a key column

The rows of two tables are paired by equal key values, as the table library's merge pairs them.

* Key columns of kinds that cannot hold equal values (numbers against texts) are refused. Keys
  of other differing kinds are compared as plain values; integers against floats as floats.
* Missing key values match each other: they form one more key, after all the others.
* Keys are numbered in order of first appearance, left table first; an outer join numbers them
  in sorted order instead, so its rows come in key order.
* The pairs of an inner or left join follow the left rows (a right join: the right rows); the
  matches of one row follow the other table's order.
* Overlapping column names get the suffixes `_left` and `_right`. When both keys have the same
  name only the left one is kept, and an outer or right join fills it from the right key where
  the left row is missing.
* Columns that gain missing values become floats (integers) or mixed values (truth values).
-/

namespace Dataflow

/-- The ways two tables are joined. -/
inductive JoinHow where
  | inner | left | right | outer
deriving Repr, BEq, DecidableEq, Inhabited

namespace JoinHow

/-- The name of a way of joining. -/
def name : JoinHow → String
  | .inner => "inner" | .left => "left" | .right => "right" | .outer => "outer"

/-- The way of joining a name stands for. -/
def ofName? (s : String) : Option JoinHow := [inner, left, right, outer].find? (·.name == s)

end JoinHow

/-! ### Kinds of keys -/

/-- Whether an inferred kind passes for integers or truth values. -/
def Inferred.integral : Inferred → Bool
  | .integer | .mixedInteger | .boolean | .empty => true
  | _ => false

/-- Whether an inferred kind passes for texts. -/
def Inferred.textual : Inferred → Bool
  | .string | .mixed | .empty => true
  | _ => false

/-- Whether a column type holds integers (signed or not). -/
def DType.integral : DType → Bool
  | .int64 | .uint64 => true
  | _ => false

/-- Checks that two key columns can be matched: `ok true` when both must be compared as mixed
values, `ok false` when they can be compared as they are, an error for keys of kinds that
hold no equal values. -/
def keysAgree (lk rk : Column) (name : Cell) : Outcome Bool :=
  let ld := lk.dtype
  let rd := rk.dtype
  let refused : Outcome Bool := fail .value
    s!"You are trying to merge on {ld.name} and {rd.name} columns for key '{name.text}'. If you wish to proceed you should use pd.concat"
  if ld == rd then .ok false
  else if ld.isNumeric && rd.isNumeric then
    if (rd.integral && ld == .float64) || (rd == .float64 && ld.integral) then .ok false
    else if lk.inferred == rk.inferred then .ok false
    else .ok true
  else if (ld == .object && rd == .bool) || (ld == .bool && rd == .object) then .ok true
  else
    let il := lk.inferred
    let ir := rk.inferred
    if il.integral && ir.integral then .ok true
    else if (il.textual && !ir.textual) || (ir.textual && !il.textual) then refused
    else .ok true

/-- The values two key columns are compared by: floats when their common type is the float
type, plain values otherwise. -/
def keyValues (lk rk : Column) : Array Cell × Array Cell :=
  let ld := lk.dtype
  let rd := rk.dtype
  let asFloats := ld != rd && ld != .bool && rd != .bool && ld.isNumeric && rd.isNumeric
  if asFloats then (lk.floats.map .float, rk.floats.map .float) else (lk.cells, rk.cells)

/-! ### Numbering keys -/

/-- Numbers the key values of both tables: distinct values in order of first appearance (left
table first), or in sorted order; missing values get the number after all others. Returns
the numbers of the left and right rows and how many numbers there are. -/
def numberKeys (lvs rvs : Array Cell) (sorted : Bool) : Array Nat × Array Nat × Nat :=
  let all := lvs.toList ++ rvs.toList
  let distinct := all.foldl (fun acc x => if x.isNull || acc.contains x then acc else acc ++ [x]) []
  let order := if sorted then sortedCategories (.object distinct.toArray) else distinct
  let n := order.length
  let hasMissing := all.any Cell.isNull
  let code (x : Cell) : Nat := if x.isNull then n else (order.findIdx? (· == x)).getD n
  (lvs.map code, rvs.map code, if hasMissing then n + 1 else n)

/-- The rows of each key number, in table order. -/
def rowsByCode (codes : Array Nat) (count : Nat) : Array (Array Nat) :=
  (Array.range count).map fun k => (Array.range codes.size).filter fun i => codes.getD i 0 == k

/-- The pairs of rows of a left (outer or inner) join in key order: for every key, each of
its left rows with each of its right rows, or alone when `keepAll` and no right row has the
key. -/
def pairsByKey (keepAll : Bool) (left right : Array (Array Nat)) : Array (Nat × Option Nat) :=
  (left.zip right).flatMap fun (ls, rs) =>
    if rs.isEmpty then (if keepAll then ls.map fun l => (l, none) else #[])
    else ls.flatMap fun l => rs.map fun r => (l, some r)

/-- Puts the pairs of a left or inner join back in left-row order. When there are as many pairs
as left rows, each pair is placed where the sorter sent its position; otherwise the pairs are
sorted stably by their left row. -/
def restoreOrder (rows : Nat) (sorter : Array Nat) (pairs : Array (Nat × Option Nat)) :
    Array (Nat × Option Nat) :=
  if rows == pairs.size then
    let rev := sorter.zipIdx.foldl (fun (acc : Array Nat) (i, k) => acc.setIfInBounds i k)
      (Array.replicate rows 0)
    rev.map fun k => pairs.getD k (0, none)
  else (pairs.toList.mergeSort fun a b => a.1 ≤ b.1).toArray

/-- The pairs of a left join, in left-row order. -/
def leftJoinPairs (lcodes rcodes : Array Nat) (count : Nat) : Array (Nat × Option Nat) :=
  let ls := rowsByCode lcodes count
  restoreOrder lcodes.size ls.flatten (pairsByKey true ls (rowsByCode rcodes count))

/-- The pairs of an inner join, in left-row order. -/
def innerJoinPairs (lcodes rcodes : Array Nat) (count : Nat) : Array (Nat × Option Nat) :=
  let ls := rowsByCode lcodes count
  restoreOrder lcodes.size ls.flatten (pairsByKey false ls (rowsByCode rcodes count))

/-- The pairs of an outer join, in key order. -/
def outerJoinPairs (lcodes rcodes : Array Nat) (count : Nat) : Array (Option Nat × Option Nat) :=
  let ls := rowsByCode lcodes count
  let rs := rowsByCode rcodes count
  (ls.zip rs).flatMap fun (l, r) =>
    if r.isEmpty then l.map fun i => (some i, none)
    else if l.isEmpty then r.map fun j => (none, some j)
    else l.flatMap fun i => r.map fun j => (some i, some j)

/-- The pairs of rows of a join, left row and right row, either missing in outer rows. -/
def joinPairs (how : JoinHow) (lvs rvs : Array Cell) : Array (Option Nat × Option Nat) :=
  let (lcodes, rcodes, count) := numberKeys lvs rvs (how == .outer)
  match how with
  | .inner => (innerJoinPairs lcodes rcodes count).map fun (l, r) => (some l, r)
  | .left => (leftJoinPairs lcodes rcodes count).map fun (l, r) => (some l, r)
  | .right => (leftJoinPairs rcodes lcodes count).map fun (r, l) => (l, some r)
  | .outer => outerJoinPairs lcodes rcodes count

/-! ### Building the joined table -/

/-- The rows of a column at some positions; a missing position gives a missing value, and a
column of integers or truth values that gets one becomes floats or mixed values. -/
def Column.takeOrMissing (c : Column) (ixs : Array (Option Nat)) : Column :=
  if ixs.all Option.isSome then c.take (ixs.map (·.getD 0))
  else
    let nan : Float := 0.0 / 0.0
    match c with
    | .float64 _ | .int64 _ | .uint64 _ =>
      .float64 (ixs.map fun i => match i with | some i => c.floats.getD i nan | none => nan)
    | .complex128 vs =>
      .complex128 (ixs.map fun i => match i with | some i => vs.getD i (nan, 0) | none => (nan, 0))
    | _ => .object (ixs.map fun i => match i with | some i => c.cell i | none => .float nan)

/-- The rows of a column at some positions; a missing position gives the column type's
placeholder (zero, false, or NaN), so the type is kept. -/
def Column.takeOrPlaceholder (c : Column) (ixs : Array (Option Nat)) : Column :=
  let nan : Float := 0.0 / 0.0
  match c with
  | .int64 vs => .int64 (ixs.map fun i => match i with | some i => vs.getD i 0 | none => 0)
  | .uint64 vs => .uint64 (ixs.map fun i => match i with | some i => vs.getD i 0 | none => 0)
  | .bool vs => .bool (ixs.map fun i => match i with | some i => vs.getD i false | none => false)
  | .float64 vs => .float64 (ixs.map fun i => match i with | some i => vs.getD i nan | none => nan)
  | .float16 vs => .float16 (ixs.map fun i => match i with | some i => vs.getD i nan | none => nan)
  | .object vs => .object (ixs.map fun i => match i with | some i => vs.getD i .none | none => .float nan)
  | .complex128 vs =>
    .complex128 (ixs.map fun i => match i with | some i => vs.getD i (nan, 0) | none => (nan, 0))

/-- The common type of two column types. -/
def DType.common (a b : DType) : DType :=
  if a == b then a
  else if a == .object || b == .object || a == .bool || b == .bool then .object
  else if a == .complex128 || b == .complex128 then .complex128
  else .float64

/-- A column of a type from values. -/
def Column.ofType (d : DType) (cs : Array Cell) : Column :=
  match d with
  | .int64 => .int64 (cs.map fun c => (c.asInt?).getD 0)
  | .uint64 => .uint64 (cs.map fun c => ((c.asInt?).getD 0).toNat)
  | .bool => .bool (cs.map fun c => c.truthy)
  | .float64 => (Column.object cs).floats |> .float64
  | .object => .object cs
  | .complex128 => .complex128 (cs.map Cell.complexParts)
  | .float16 => (Column.object cs).floats.map Decimal.roundToHalf |> .float16

/-- The joined key column: the left values where the left row is present, the right values
elsewhere, in the common type of both. -/
def filledKey (lvals rvals : Column) (lix : Array (Option Nat)) : Column :=
  if !lix.isEmpty && lix.all Option.isNone then rvals
  else
    let cells := (Array.range lix.size).map fun k =>
      if (lix.getD k none).isSome then lvals.cell k else rvals.cell k
    Column.ofType (lvals.dtype.common rvals.dtype) cells

/-- Column labels with a suffix where they also label a column of the other table; refused when
the suffix makes two labels of one table equal that were not. -/
def suffixLabels (left right : List Cell) : Outcome (List Cell × List Cell) := do
  let overlap := left.filter fun l => right.contains l
  if overlap.isEmpty then return (left, right)
  let rename (suffix : String) (l : Cell) : Cell :=
    if overlap.contains l then .str (l.text ++ suffix) else l
  let ls := left.map (rename "_left")
  let rs := right.map (rename "_right")
  let duplicated (orig renamed : List Cell) : List Cell :=
    (renamed.zip orig).zipIdx.filterMap fun ((r, o), i) =>
      let before := (renamed.take i).contains r
      let origBefore := (orig.take i).contains o
      if before && !origBefore then some r else none
  let dups := duplicated left ls ++ duplicated right rs
  if dups.isEmpty then return (ls, rs)
  let distinct := dups.foldl (fun acc d => if acc.contains d then acc else acc ++ [d]) []
  let shown := ", ".intercalate (distinct.map Cell.repr)
  fail .merge s!"Passing 'suffixes' which cause duplicate columns \x7b{shown}\x7d is not allowed."

/-- The one column with a label, refusing a label that several columns carry. -/
def Frame.keyColumn (f : Frame) (label : Cell) : Outcome Column :=
  match f.columns.filter (·.1 == label) with
  | [(_, c)] => .ok c
  | [] => fail .key label.repr
  | _ => fail .value s!"The column label '{label.text}' is not unique."

/-- Whether both keys are texts of different names, so that both key columns are kept as they
are. -/
def separateKeys (lname rname : Cell) : Bool :=
  match lname, rname with
  | .str a, .str b => a != b
  | _, _ => false

/-- Joins two tables on a key column of each. -/
def mergeFrames (left right : Frame) (lname rname : Cell) (how : JoinHow) : Outcome Frame := do
  let lkey ← left.keyColumn lname
  let rkey ← right.keyColumn rname
  -- a key of the same name on the right is dropped: the left one stands for both
  let right : Frame := if lname == rname then
      ⟨right.columns.filter (·.1 != rname), right.index⟩ else right
  let mixed ← keysAgree lkey rkey lname
  let toMixed (f : Frame) : Frame :=
    ⟨f.columns.map fun (l, c) => if l == lname then (l, c.toObject) else (l, c), f.index⟩
  let left := if mixed then toMixed left else left
  let right := if mixed then toMixed right else right
  let (lvs, rvs) := keyValues lkey rkey
  let pairs := joinPairs how lvs rvs
  let lix := pairs.map (·.1)
  let rix := pairs.map (·.2)
  let (llabels, rlabels) ← suffixLabels left.labels right.labels
  let lcols := (llabels.zip left.columns).map fun (l, (_, c)) => (l, c.takeOrMissing lix)
  let rcols := (rlabels.zip right.columns).map fun (l, (_, c)) => (l, c.takeOrMissing rix)
  let joined : Frame := ⟨lcols ++ rcols, [Column.range pairs.size]⟩
  if separateKeys lname rname then return joined
  let leftMissing := lix.any Option.isNone
  let identity {α : Type} (ixs : Array (Option α)) (n : Nat) (f : α → Nat) : Bool :=
    ixs.size == n && (ixs.zipIdx.all fun (i, k) => (i.map f) == some k)
  let lIdentity := identity lix left.rows id
  let rIdentity := identity rix right.rows id
  match joined.columns.find? (·.1 == lname) with
  | some (_, current) =>
    if lIdentity && rIdentity then return joined
    if !leftMissing then return joined
    let lcol ← left.keyColumn lname
    let lvals := if current.dtype != lcol.dtype then lcol.takeOrPlaceholder lix else current
    let rvals := rkey.takeOrPlaceholder rix
    return ⟨joined.columns.map fun (l, c) =>
      if l == lname then (l, filledKey lvals rvals lix) else (l, c), joined.index⟩
  | none =>
    let lvals := lkey.takeOrPlaceholder lix
    let rvals := rkey.takeOrPlaceholder rix
    let label : Cell := if lname.truthy then lname else .str "key_0"
    if joined.hasLabel label then fail .value s!"cannot insert {label.text}, already exists"
    return ⟨(label, filledKey lvals rvals lix) :: joined.columns, joined.index⟩

end Dataflow
