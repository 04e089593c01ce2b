import Dataflow.Eval.Reduce
/-!
# Transformations of series

Operations that turn a series into another series of the same length, each by the storage kind
of the series:

* running sums, products, maxima and minima (`seriesRunning`);
* shifts of the values by some places, with a fill for the places left empty (`seriesShift`);
* differences with the value some places before (`seriesDiff`);
* rounding to some decimals (`seriesRound`);
* replacing the values where a condition fails (`seriesWhere`), and through it clipping to
  bounds (`seriesClip`);
* filling missing values with a value or with their neighbours (`seriesFill`, `seriesPad`).

## Storage after a replacement

A value put into a series of numbers or truth values must be one the storage can hold: an
integer, or a float with an integral value, in 64-bit integers; any number but a truth value in
floats; a truth value in truth values. When it cannot be held, the series is first widened to
the storage that holds both: floats for integers meeting floats or missing values, mixed values
otherwise (`widenFor`); an integer beyond the integer or float range has its own rules
(`widenTarget`). After a replacement that widened, `seriesWhere` narrows the result again
where every value allows (`narrow`): floats within `1e-8` of integers become integers, mixed
values of one kind take that kind's storage. Mixed series that are filled are instead stored by
the kinds of the values they end up with (`storeMixed`).
-/

namespace Dataflow.Eval

/-! ### Running operations -/

/-- The running operations. -/
inductive Running where
  | sum | prod | max | min
deriving DecidableEq, Repr, Inhabited

/-- The value that stands in for missing values in a running operation. -/
def Running.neutral : Running → Float
  | .sum => 0.0 | .prod => 1.0 | .max => -1.0 / 0.0 | .min => 1.0 / 0.0

/-- One step of a running operation on floats; NaN spreads. -/
def Running.floatStep : Running → Float → Float → Float
  | .sum, a, b => a + b
  | .prod, a, b => a * b
  | .max, a, b => floatPick true a b
  | .min, a, b => floatPick false a b

/-- One step of a running operation on integers, wrapping on 64 bits. -/
def Running.intStep : Running → Int → Int → Int
  | .sum, a, b => wrap64 (a + b)
  | .prod, a, b => wrap64 (a * b)
  | .max, a, b => if b > a then b else a
  | .min, a, b => if b < a then b else a

/-- One step of a running operation on mixed values, by the language's operators. -/
def Running.cellStep : Running → Cell → Cell → Outcome Cell
  | .sum, a, b => cellArith .add a b
  | .prod, a, b => cellArith .mul a b
  | .max, a, b => do if ← cellCompare .ge a b then pure a else pure b
  | .min, a, b => do if ← cellCompare .le a b then pure a else pure b

/-- The running results of a step over values, starting from the first. -/
def runningList {α : Type} (step : α → α → α) : List α → List α
  | [] => []
  | v :: rest => (rest.foldl (fun (acc : List α) x => step (acc.headD x) x :: acc) [v]).reverse

/-- The running results of a step that may fail. -/
def runningListM (step : Cell → Cell → Outcome Cell) : List Cell → Outcome (List Cell)
  | [] => .ok []
  | v :: rest => do
    let acc ← rest.foldlM (fun (acc : List Cell) x => do
      let s ← step (acc.headD x) x
      pure (s :: acc)) [v]
    return acc.reverse

/-- A running operation over a series. Missing values are passed over when `skip` is set (the
result keeps them missing), and otherwise spread. Truth values are summed and multiplied as
integers. -/
def seriesRunning (op : Running) (c : Column) (skip : Bool) : Outcome Column :=
  match c with
  | .int64 vs => .ok (.int64 (runningList op.intStep vs.toList).toArray)
  | .uint64 vs =>
    .ok (.uint64 ((runningList op.intStep (vs.toList.map fun (v : Nat) => (v : Int))).map
      fun i => wrapU64 i).toArray)
  | .bool vs =>
    let ints := runningList op.intStep (vs.toList.map fun b => if b then 1 else 0)
    if op == .sum || op == .prod then .ok (.int64 ints.toArray)
    else .ok (.bool (ints.map (· != 0)).toArray)
  | .float64 vs =>
    let xs := if skip then fillNaN op.neutral vs else vs
    let out := (runningList op.floatStep xs.toList).toArray
    .ok (.float64 (if skip then (out.zip vs).map (fun (r, v) => if v.isNaN then v else r) else out))
  | .float16 vs =>
    let xs := if skip then fillNaN op.neutral vs else vs
    let out := (runningList (fun a b => Decimal.toHalf (op.floatStep a b)) xs.toList).toArray
    .ok (.float16 (if skip then (out.zip vs).map (fun (r, v) => if v.isNaN then v else r) else out))
  | c => do
    let vs := c.cells
    let xs := fillCells skip (.float op.neutral) vs
    let out ← runningListM op.cellStep xs
    return .object ((out.zip vs.toList).map (fun (r, v) =>
      if skip && v.isNull then .float nan else r)).toArray

/-! ### Rounding -/

/-- Rounds to the nearest integer, ties to even. -/
def roundEven (x : Float) : Float :=
  if x.isNaN || x.isInf then x
  else
    let r := x.round
    if (r - x).abs == 0.5 then
      let half := r / 2.0
      if half.floor == half then r else r - (if r > x then 1.0 else -1.0)
    else r

/-- Ten to a power as the numeric library forms it: from a table up to `10^8`, then by
multiplying `10^9` by ten. -/
def powerOfTen (n : Nat) : Float :=
  if n < 9 then Float.ofNat (Nat.pow 10 n)
  else
    let steps := min (n - 9) 400
    (List.range steps).foldl (fun acc _ => acc * 10.0) 1e9

/-- Rounds a float to `d` decimals as the numeric library does: scale by a power of ten, round
to even, scale back. -/
def roundDecimals (d : Int) (x : Float) : Float :=
  if d == 0 then roundEven x
  else if d > 0 then
    let f := powerOfTen d.toNat
    roundEven (x * f) / f
  else
    let f := powerOfTen d.natAbs
    roundEven (x / f) * f

/-- Rounds a half-precision float to `d` decimals as the numeric library does in half
precision: the power of ten is itself rounded to half precision, and the scaling each way is
rounded to half precision. -/
def roundHalfDecimals (d : Int) (x : Float) : Float :=
  let f := Decimal.roundToHalf (powerOfTen d.natAbs)
  if d == 0 then roundEven x
  else if d > 0 then Decimal.toHalf (roundEven (Decimal.toHalf (x * f)) / f)
  else Decimal.toHalf (roundEven (Decimal.toHalf (x / f)) * f)

/-- An integer from a float as a 64-bit conversion gives it: out of range and NaN give the
least integer. -/
def floatToInt64 (f : Float) : Int :=
  if f.isNaN || f.isInf then int64Min
  else
    let i := Decimal.truncate f
    if fitsInt64 i then i else int64Min

/-- Rounds a series to `d` decimals: complex numbers part by part, integers only to negative
decimals (through floats), truth values not at all. -/
def seriesRound (c : Column) (d : Int) : Column :=
  match c with
  | .float64 vs => .float64 (vs.map (roundDecimals d))
  | .float16 vs => .float16 (vs.map (roundHalfDecimals d))
  | .complex128 vs => .complex128 (vs.map fun (re, im) => (roundDecimals d re, roundDecimals d im))
  | .int64 vs =>
    if d ≥ 0 then c else .int64 (vs.map fun i => floatToInt64 (roundDecimals d (Decimal.intToFloat i)))
  | c => c

/-! ### Storage of values put into a series -/

/-- The value a series of the given storage holds for a cell, if it can hold it without loss:
integers (and floats with integral values) in 64-bit integers, numbers but truth values in
floats, truth values in truth values, anything in mixed values. -/
def holdFor (d : DType) (x : Cell) : Option Cell :=
  match d, x with
  | .object, x => some x
  | .int64, .int i => if fitsInt64 i then some (.int i) else none
  | .int64, .float f =>
    if f.isNaN || f.isInf || f != f.round then none
    else
      let i := Decimal.truncate f
      if fitsInt64 i then some (.int i) else none
  | .uint64, .int i => if fitsUInt64 i then some (.int i) else none
  | .uint64, .float f =>
    if f.isNaN || f.isInf || f != f.round then none
    else
      let i := Decimal.truncate f
      if fitsUInt64 i then some (.int i) else none
  | .float64, .int i =>
    let f := Decimal.intToFloat i
    if Decimal.compareIntFloat i f == some .eq then some (.float f) else none
  | .float64, .float f => some (.float f)
  | .float16, .int i =>
    let f := Decimal.intToFloat i
    if Decimal.compareIntFloat i f == some .eq && Decimal.roundToHalf f == f then some (.float f)
    else none
  | .float16, .float f => if f.isNaN || Decimal.roundToHalf f == f then some (.float f) else none
  | .bool, .bool b => some (.bool b)
  | _, _ => none

/-- The storage a series is widened to so that it holds a value it cannot hold as it is:
floats for integers meeting floats or missing values, and for floats meeting missing values;
mixed values otherwise. -/
def widenFor (d : DType) (x : Cell) : DType :=
  match d, x with
  | .int64, .float _ | .uint64, .float _ => .float64
  | .int64, .none | .uint64, .none => .float64
  | .float64, .none => .float64
  | .float16, .none => .float16
  | .float16, .int _ | .float16, .float _ => .float64
  | _, _ => .object

/-- The message of the table library's failed check that a widening changes the storage. -/
def sameStorageMessage : String :=
  "Something has gone wrong, please report a bug at https://github.com/pandas-dev/pandas/issues"

/-- The storage a series is widened to for a value it cannot hold, with the failures of the
search for it. An integer beyond the range of integer storage is looked up by the smallest type
that holds it: up to `2^64 - 1` that is a 64-bit type, which for signed storage is the storage
itself, so the widening fails its check; beyond it there is no integer type at all. A negative
integer beyond the signed range, and one beyond the unsigned range, widen to mixed values, and
so does, in floats, an integer beyond the signed range that floats do not hold exactly; one
within that range fails the check, as floats and 64-bit integers widen to floats. -/
def widenTarget (d : DType) (x : Cell) : Outcome DType :=
  let signedBeyond (i : Int) : Outcome DType :=
    if i ≥ Int.pow 2 64 then fail .value "Invalid integer data type 'O'."
    else if i ≥ Int.pow 2 63 then fail .assertion sameStorageMessage
    else .ok .object
  let unsignedBeyond (i : Int) : Outcome DType :=
    if i ≥ Int.pow 2 64 || i < -Int.pow 2 63 then .ok .object else .ok .float64
  let integral (f : Float) : Bool := !f.isNaN && !f.isInf && f == f.round
  match d, x with
  | .int64, .int i => signedBeyond i
  | .int64, .float f => if integral f then signedBeyond (Decimal.truncate f) else .ok .float64
  | .uint64, .int i => unsignedBeyond i
  | .uint64, .float f =>
    if integral f then unsignedBeyond (Decimal.truncate f) else .ok .float64
  | .float64, .int i => if fitsInt64 i then fail .assertion sameStorageMessage else .ok .object
  | d, x => .ok (widenFor d x)

/-- A column of one storage made from cells that it holds. -/
def columnOfKind (d : DType) (cs : Array Cell) : Column :=
  match d with
  | .int64 => .int64 (cs.map fun c => (c.asInt?).getD 0)
  | .uint64 => .uint64 (cs.map fun c => ((c.asInt?).getD 0).toNat)
  | .float64 => .float64 (Column.object cs).floats
  | .float16 => .float16 ((Column.object cs).floats.map Decimal.roundToHalf)
  | .bool => .bool (cs.map Cell.truthy)
  | .object => .object cs
  | .complex128 => .complex128 (cs.map fun c => match c with
    | .complex re im => (re, im)
    | c => ((Column.object #[c]).floats.getD 0 0.0, 0.0))

/-- A series widened to another storage. -/
def widenColumn (c : Column) (d : DType) : Column :=
  if c.dtype == d then c
  else match d with
    | .float64 => .float64 c.floats
    | .float16 => .float16 (c.floats.map Decimal.roundToHalf)
    | _ => .object c.cells

/-- The value a missing-value fill stands for in a series that is not mixed: NaN. -/
def standardFill (d : DType) (x : Cell) : Cell :=
  if d != .object && x.isNull then .float nan else x

/-- Mixed values stored by their kinds: integers alone in 64-bit integers, numbers (with
missing values) in floats, truth values alone in truth values; anything else, and nothing but
`None`, stays mixed. -/
def storeMixed (cs : Array Cell) : Column :=
  if !cs.isEmpty && cs.all (fun x => x matches .none) then .object cs
  else Column.ofCells cs

/-- Narrows a series widened by a replacement, where every value allows: floats within `1e-8`
of integers become integers; mixed values all truth values, or all integers (floats among them
with integral values), take that storage. -/
def narrow (c : Column) : Column :=
  match c with
  | .float64 vs =>
    let close := vs.all fun f => !f.isNaN && !f.isInf && (f - roundEven f).abs ≤ 1e-8
    let ints := vs.map fun f => Decimal.truncate (roundEven f)
    if !vs.isEmpty && close && ints.all fitsInt64 then .int64 ints else c
  | .object vs =>
    if vs.isEmpty then c
    else if vs.all (fun x => x matches .bool _) then .bool (vs.map Cell.truthy)
    else if vs.all (fun x => x matches .int _ || x matches .float _) &&
        vs.any (fun x => x matches .int _) then
      let ints := vs.toList.filterMap fun x => match x with
        | .int i => if fitsInt64 i then some i else none
        | .float f => if !f.isNaN && !f.isInf && f == f.round then
            (let i := Decimal.truncate f; if fitsInt64 i then some i else none) else none
        | _ => none
      if ints.length == vs.size then .int64 ints.toArray else c
    else if vs.all (fun x => x matches .float _) then
      let ints := vs.toList.filterMap fun x => match x with
        | .float f => if !f.isNaN && !f.isInf && f == f.round then
            (let i := Decimal.truncate f; if fitsInt64 i then some i else none) else none
        | _ => none
      if ints.length == vs.size then .int64 ints.toArray else c
    else c
  | c => c

/-! ### Replacing values -/

/-- Puts `other i` in place of the values where `keep` fails; unchanged when nothing is
replaced. A value the storage cannot hold widens the series first (`widenTarget`), and the
result is then narrowed when `narrowAfter` is set: integers among mixed values that 64-bit
integers cannot hold make that narrowing fail. -/
def seriesWhere (c : Column) (keep : Array Bool) (other : Nat → Cell) (narrowAfter : Bool) :
    Outcome Column := do
  let n := c.size
  let replaced := (List.range n).filter fun i => !keep.getD i true
  if replaced.isEmpty then return c
  let d := c.dtype
  let others := (List.range n).map fun i => standardFill d (other i)
  let blocked := others.find? fun x => (holdFor d x).isNone
  let put (col : Column) : Column :=
    let cells := (Array.range n).map fun i =>
      if keep.getD i true then col.cell i
      else ((holdFor col.dtype (others.getD i .none)).getD (others.getD i .none))
    columnOfKind col.dtype cells
  match blocked with
  | none => return put c
  | some x =>
    let wide := put (widenColumn c (← widenTarget d x))
    if narrowAfter && d != .object then
      match wide with
      | .object vs =>
        if (d == .int64 || d == .uint64) && !vs.isEmpty && vs.all (· matches .int _) &&
            !vs.all (fun v => fitsInt64 ((v.asInt?).getD 0)) then
          fail .overflow "Python int too large to convert to C long"
        else return narrow wide
      | _ => return narrow wide
    else return wide

/-- Clips a series to bounds: values below `lower` become `lower` and values above `upper`
become `upper`, compared as the series' own comparisons compare; missing values, and places
where a bound is missing, are left alone. Two scalar bounds given the wrong way round are
swapped first. A bound of `None` (or NaN) is no bound. -/
def seriesClip (c : Column) (lower upper : Obj) : Outcome Column := do
  let noBound (o : Obj) : Obj := match o.cell? with
    | some x => if x.isNull then .plain .none else o
    | none => match o with
      | .series b => if b.nulls.all id then .plain .none else o
      | .list items =>
        if items.all (fun i => ((i.cell?).map Cell.isNull).getD false) then .plain .none else o
      | o => o
  let lower := noBound lower
  let upper := noBound upper
  let isNone (o : Obj) : Bool := o matches .plain .none
  let (lower, upper) ← match lower.cell?, upper.cell? with
    | some a, some b =>
      if isNone lower || isNone upper then pure (lower, upper)
      else do
        let lo := if ← cellCompare .lt b a then upper else lower
        let hi := if ← cellCompare .gt b a then upper else lower
        pure (lo, hi)
    | _, _ => pure (lower, upper)
  let missing := c.nulls
  let bounded (cur : Column) (bound : Obj) (rel : Rel) : Outcome Column := do
    if isNone bound then return cur
    let edge := if rel == .ge then -1.0 / 0.0 else 1.0 / 0.0
    let (probe, other) : Obj × (Nat → Cell) := match bound with
      | .series b =>
        (.series (.object (b.cells.map fun x => if x.isNull then .float edge else x)), b.cell)
      | .list items =>
        let b := listColumn items
        (.series (.object (b.cells.map fun x => if x.isNull then .float edge else x)), b.cell)
      | o => (o, fun _ => (o.cell?).getD .none)
    let keep ← match ← evalRel rel (.series c) probe with
      | .series (.bool bs) => pure ((bs.zip missing).map fun (k, m) => k || m)
      | _ => pure (Array.replicate c.size true)
    seriesWhere cur keep other true
  let clipped ← bounded c lower .ge
  bounded clipped upper .le

/-! ### Shifts and differences -/

/-- Shifts the values of a series by `k` places (later when `k` is positive), filling the
places left empty with `fill` (a missing value when not given); a fill the storage cannot hold
widens it first (`widenTarget`). A shift beyond the range of 64-bit integers is refused. -/
def seriesShift (c : Column) (k : Int) (fill : Option Cell) : Outcome Column := do
  if k == 0 then return c
  let n := c.size
  let d := c.dtype
  let x := standardFill d (fill.getD .none)
  let target ← match holdFor d x with
    | some _ => pure c
    | none => do pure (widenColumn c (← widenTarget d x))
  if n != 0 && !fitsInt64 k then fail .overflow "Python int too large to convert to C long"
  let src (i : Nat) : Option Nat :=
    let j : Int := i - k
    if 0 ≤ j && j < n then some j.toNat else none
  let cells := (Array.range n).map fun i => match src i with
    | some j => target.cell j
    | none => (holdFor target.dtype x).getD x
  return columnOfKind target.dtype cells

/-- The differences of a series with the values `k` places before (after, when `k` is
negative). Integers give floats, truth values give whether they changed, mixed values are
subtracted by the language's operator; places without a partner are NaN. -/
def seriesDiff (c : Column) (k : Int) : Outcome Column := do
  let n := c.size
  let partner (i : Nat) : Option Nat :=
    let j : Int := i - k
    if 0 ≤ j && j < n then some j.toNat else none
  match c with
  | .int64 vs => return .float64 ((Array.range n).map fun i => match partner i with
    | some j => Decimal.intToFloat (wrap64 (vs.getD i 0 - vs.getD j 0))
    | none => nan)
  | .uint64 vs => return .float64 ((Array.range n).map fun i => match partner i with
    | some j => Decimal.intToFloat (wrapU64 ((vs.getD i 0 : Int) - (vs.getD j 0 : Int)))
    | none => nan)
  | .float64 vs => return .float64 ((Array.range n).map fun i => match partner i with
    | some j => vs.getD i 0.0 - vs.getD j 0.0
    | none => nan)
  | .float16 vs => return .float16 ((Array.range n).map fun i => match partner i with
    | some j => Decimal.toHalf (vs.getD i 0.0 - vs.getD j 0.0)
    | none => nan)
  | .bool vs => return .object ((Array.range n).map fun i => match partner i with
    | some j => .bool (vs.getD i false != vs.getD j false)
    | none => .float nan)
  | c =>
    let out ← (Array.range n).mapM fun i => match partner i with
      | some j => cellArith .sub (c.cell i) (c.cell j)
      | none => pure (.float nan)
    return .object out

/-! ### Filling missing values -/

/-- Fills the first `limit` (all, when not given) of the missing values of a series with a
value. Series without missing values of their own kind are unchanged, but mixed series are
stored by their kinds afterwards. -/
def seriesFill (c : Column) (x : Cell) (limit : Option Nat) : Outcome Column := do
  let nulls := c.nulls
  let marks := (nulls.foldl (fun (acc : Array Bool × Nat) m =>
    if m then
      let ok : Bool := match limit with | some l => decide (acc.2 < l) | none => true
      (acc.1.push ok, acc.2 + 1)
    else (acc.1.push false, acc.2)) (#[], 0)).1
  let filled ← seriesWhere c (marks.map (!·)) (fun _ => x) false
  return match filled with
  | .object vs => storeMixed vs
  | col => col

/-- Which missing values a fill by neighbours may reach. -/
inductive FillArea where
  /-- every missing value -/
  | anywhere
  /-- only those with a present value somewhere before and somewhere after them -/
  | inside
  /-- only those before the first present value or after the last -/
  | outside
deriving Inhabited, BEq

/-- The places a fill by neighbours fills: the missing values within its area. -/
def fillMask (nulls : Array Bool) (area : FillArea) : Array Bool :=
  let present := nulls.map (!·)
  let seenBefore := (present.foldl (fun (acc : Array Bool × Bool) p =>
    (acc.1.push (acc.2 || p), acc.2 || p)) (#[], false)).1
  let seenAfter := ((present.reverse.foldl (fun (acc : Array Bool × Bool) p =>
    (acc.1.push (acc.2 || p), acc.2 || p)) (#[], false)).1).reverse
  (Array.range nulls.size).map fun i =>
    let within := seenBefore.getD i false && seenAfter.getD i false
    nulls.getD i false && match area with
      | .anywhere => true
      | .inside => within
      | .outside => !within

/-- Fills the places of a mask with the last value before them (`forward`) or the first after
them, at most `limit` in a row; a place outside the mask passes its own value on, missing or
not, and places before any other value take the first value. -/
def padMasked (cells : Array Cell) (mask : Array Bool) (forward : Bool) (limit : Option Nat) :
    Array Cell :=
  let cells' := if forward then cells.toList else cells.toList.reverse
  let marks := if forward then mask.toList else mask.toList.reverse
  let step (acc : List Cell × Option Cell × Nat) (xm : Cell × Bool) : List Cell × Option Cell × Nat :=
    let (out, last, run) := acc
    let (x, masked) := xm
    if masked then
      let within : Bool := match limit with | some l => decide (run < l) | none => true
      match last with
      | some v => if within then (v :: out, last, run + 1) else (x :: out, last, run + 1)
      | none => (x :: out, last, run + 1)
    else (x :: out, some x, 0)
  let (out, _, _) := (cells'.zip marks).foldl step ([], cells'.head?, 0)
  (if forward then out.reverse else out).toArray

/-- Fills the missing values within an area with the last value before them (`forward`) or the
first after them, at most `limit` in a row. Mixed series are stored by their kinds
afterwards. -/
def seriesPadIn (c : Column) (forward : Bool) (limit : Option Nat) (area : FillArea) : Column :=
  match c with
  | .float64 _ | .float16 _ | .object _ =>
    let out := padMasked c.cells (fillMask c.nulls area) forward limit
    match c with
    | .float64 _ => .float64 (Column.object out).floats
    | .float16 _ => .float16 (Column.object out).floats
    | _ => storeMixed out
  | c => c

/-- Fills every missing value with the last value before it (`forward`) or the first after it,
at most `limit` in a row. -/
def seriesPad (c : Column) (forward : Bool) (limit : Option Nat) : Column :=
  seriesPadIn c forward limit .anywhere

end Dataflow.Eval
