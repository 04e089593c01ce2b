import Dataflow.Eval.Align
import Dataflow.Eval.Scalar
import Dataflow.Number.ComplexFunctions
/-!
# Element-wise operations on columns

The operators applied to a column and another column or a scalar, element by element.

The storage kind of the result follows from the operands: two columns promote their kinds
(truth values < integers < floats, with signed and unsigned integers meeting in floats);
a fixed-width scalar promotes like a column of its kind; a plain scalar adapts to the column
(a plain integer keeps integer storage, and must fit it). Integer storage wraps around on
overflow. Floor division and remainder by an integer zero give infinities and NaN, since
their results are then floats. Mixed columns are computed value by value with the rules of
plain scalars; where that fails for a kind mismatch, missing values are left missing and the
rest are computed again.
-/

namespace Dataflow.Eval

/-- An operand of an element-wise operation. -/
inductive Operand where
  | col (c : Column)
  | weak (c : Cell)
  | strong (x : Fixed)
deriving Inhabited

/-- The operand as the cell at a position. -/
def Operand.cellAt : Operand → Nat → Cell
  | .col c, i => c.cell i
  | .weak c, _ => c
  | .strong x, _ => x.cell

/-- Whether the operand is a column. -/
def Operand.isCol : Operand → Bool
  | .col _ => true
  | _ => false

/-- The promotion kind of a numeric column or a fixed-width scalar. -/
def dtypeKind : DType → Kind
  | .bool => .bool
  | .int64 => .int
  | .uint64 => .uint
  | .float64 => .float
  | .object => .object
  | .complex128 => .complex
  | .float16 => .half

/-- The promotion kind of a fixed-width scalar. -/
def Fixed.kind : Fixed → Kind
  | .int64 _ => .int
  | .float64 _ => .float
  | .bool _ => .bool
  | .float16 _ => .half

/-- The kind an operand brings to promotion when it is not a plain scalar. -/
def Operand.strongKind? : Operand → Option Kind
  | .col c => some (dtypeKind c.dtype)
  | .strong x => some x.kind
  | .weak _ => none

/-- The result kind of a plain scalar meeting storage of kind `k`. -/
def weakJoin (k : Kind) (c : Cell) : Kind :=
  match c with
  | .bool _ => k
  | .int _ => if k == .bool then .int else k
  | .float _ => if k == .complex then .complex else if k == .half then .half else .float
  | .complex _ _ => if k == .object then .object else .complex
  | _ => .object

/-- The storage kind two numeric operands compute in. -/
def resultKind (l r : Operand) : Kind :=
  match l.strongKind?, r.strongKind? with
  | some a, some b => a.join b
  | some a, none => match r with
    | .weak c => weakJoin a c
    | _ => a
  | none, some b => match l with
    | .weak c => weakJoin b c
    | _ => b
  | none, none => .object

/-- The message for a plain integer that does not fit a storage kind. -/
def outOfBounds (i : Int) (name : String) : Failure :=
  ⟨.overflow, s!"Python integer {i} out of bounds for {name}"⟩

/-- The operand's values as integers of a storage kind, `n` of them. -/
def Operand.ints (o : Operand) (n : Nat) (unsigned : Bool) : Outcome (Array Int) :=
  match o with
  | .col (.int64 vs) => .ok vs
  | .col (.uint64 vs) => .ok (vs.map fun (v : Nat) => (v : Int))
  | .col (.bool vs) => .ok (vs.map fun b => if b then 1 else 0)
  | .col c => .ok (c.cells.map fun x => (x.asInt?).getD 0)
  | .weak _ | .strong (.int64 _) | .strong (.bool _) | .strong (.float64 _) | .strong (.float16 _) =>
    let v := (o.cellAt 0).asInt?.getD 0
    if unsigned && !fitsUInt64 v then .error (outOfBounds v "uint64")
    else if !unsigned && !fitsInt64 v then .error (outOfBounds v "int64")
    else .ok (Array.replicate n v)

/-- The operand's values as floats, `n` of them. -/
def Operand.floats (o : Operand) (n : Nat) : Array Float :=
  match o with
  | .col c => c.floats
  | _ => Array.replicate n ((Column.object #[o.cellAt 0]).floats.getD 0 0)

/-- The operand's values as complex numbers, `n` of them. -/
def Operand.complexes (o : Operand) (n : Nat) : Array Number.Complex2 :=
  match o with
  | .col (.complex128 vs) => vs
  | .col c => c.cells.map Cell.complexParts
  | _ => Array.replicate n (o.cellAt 0).complexParts

/-- The operand's values as truth values, `n` of them. -/
def Operand.bools (o : Operand) (n : Nat) : Array Bool :=
  match o with
  | .col (.bool vs) => vs
  | .col c => c.cells.map Cell.truthy
  | _ => Array.replicate n (o.cellAt 0).truthy

/-- Integer power with wrap-around in 64-bit storage. -/
def powWrap (unsigned : Bool) (a : Int) (b : Nat) : Int :=
  let w := if unsigned then fun x => (wrapU64 x : Int) else wrap64
  (List.range b).foldl (fun acc _ => w (acc * a)) 1 |> w

/-- Integer power with wrap-around, by repeated squaring. -/
def powMod (unsigned : Bool) : Nat → Int → Nat → Int → Int
  | 0, _, _, acc => acc
  | fuel + 1, base, e, acc =>
    let w := if unsigned then fun x => (wrapU64 x : Int) else wrap64
    if e == 0 then acc
    else
      let acc := if e % 2 == 1 then w (acc * base) else acc
      powMod unsigned fuel (w (base * base)) (e / 2) acc

/-- Floor division results of integers, turned to floats with infinities and NaN where the
divisor is zero, when there is such a divisor. -/
def fillDivZero (xs ys qs : Array Int) (unsigned : Bool) : Column :=
  if ys.any (· == 0) then
    .float64 ((xs.zip (ys.zip qs)).map fun (x, y, q) =>
      if y == 0 then
        (if x == 0 then 0.0 / 0.0 else if x > 0 then 1.0 / 0.0 else -1.0 / 0.0)
      else Decimal.intToFloat q)
  else if unsigned then .uint64 (qs.map Int.toNat) else .int64 qs

/-- Remainders of integers, turned to floats with NaN where the divisor is zero, when there
is such a divisor. -/
def fillModZero (ys rs : Array Int) (unsigned : Bool) : Column :=
  if ys.any (· == 0) then
    .float64 ((ys.zip rs).map fun (y, r) => if y == 0 then 0.0 / 0.0 else Decimal.intToFloat r)
  else if unsigned then .uint64 (rs.map Int.toNat) else .int64 rs

/-- Arithmetic in integer storage. -/
def intKernel (op : Arith) (unsigned : Bool) (xs ys : Array Int) : Outcome Column :=
  let w : Int → Int := if unsigned then fun x => (wrapU64 x : Int) else wrap64
  let pack (vs : Array Int) : Column :=
    if unsigned then .uint64 (vs.map Int.toNat) else .int64 vs
  match op with
  | .add => .ok (pack (Array.zipWith (fun a b => w (a + b)) xs ys))
  | .sub => .ok (pack (Array.zipWith (fun a b => w (a - b)) xs ys))
  | .mul => .ok (pack (Array.zipWith (fun a b => w (a * b)) xs ys))
  | .div => .ok (.float64 (Array.zipWith (fun a b =>
      Decimal.intToFloat a / Decimal.intToFloat b) xs ys))
  | .floorDiv =>
    .ok (fillDivZero xs ys (Array.zipWith (fun a b => if b == 0 then 0 else w (a.fdiv b)) xs ys)
      unsigned)
  | .mod =>
    .ok (fillModZero ys (Array.zipWith (fun a b => if b == 0 then 0 else a.fmod b) xs ys) unsigned)
  | .pow =>
    if ys.any (· < 0) then fail .value "Integers to negative integer powers are not allowed."
    else .ok (pack (Array.zipWith (fun a b => powMod unsigned 64 (w a) b.toNat 1) xs ys))

/-- Arithmetic in float storage. -/
def floatKernel (op : Arith) (xs ys : Array Float) : Column :=
  .float64 (Array.zipWith (fun a b => match op with
    | .add => a + b
    | .sub => a - b
    | .mul => a * b
    | .div => a / b
    | .floorDiv => Decimal.floorDiv a b
    | .mod => Decimal.floorMod a b
    | .pow => Float.pow a b) xs ys)

/-- Arithmetic in half-precision storage: computed in single precision and rounded to half
precision. -/
def halfKernel (op : Arith) (xs ys : Array Float) : Column :=
  .float16 ((floatKernel op xs ys).floats.map Decimal.toHalf)

/-- Arithmetic in complex storage, as the array loops compute it; floor division and remainder
have no loops for complex numbers. -/
def complexKernel (op : Arith) (xs ys : Array Number.Complex2) : Outcome Column :=
  let each (f : Number.Complex2 → Number.Complex2 → Number.Complex2) : Outcome Column :=
    .ok (.complex128 (Array.zipWith f xs ys))
  match op with
  | .add => each fun a b => (a.1 + b.1, a.2 + b.2)
  | .sub => each fun a b => (a.1 - b.1, a.2 - b.2)
  | .mul => each Number.storageProduct
  | .div => each Number.storageQuotient
  | .pow => each Number.storagePower
  | .floorDiv => typeError "ufunc 'floor_divide' not supported for the input types, and the inputs could not be safely coerced to any supported types according to the casting rule ''safe''"
  | .mod => typeError "ufunc 'remainder' not supported for the input types, and the inputs could not be safely coerced to any supported types according to the casting rule ''safe''"

/-- The exponent of a power, when it is a scalar the array library reads as a number for its
shortcuts: a plain integer that fits 64 bits, a truth value, a double, or a fixed-width integer
or double. -/
def Operand.exponent? : Operand → Option Float
  | .weak (.int i) => if fitsInt64 i then some (Decimal.intToFloat i) else none
  | .weak (.bool b) => some (if b then 1.0 else 0.0)
  | .weak (.float f) => some f
  | .strong (.int64 i) => some (Decimal.intToFloat i)
  | .strong (.float64 f) | .strong (.float16 f) => some f
  | _ => none

/-- A power of a column of doubles or complex numbers to `1`, `-1`, `0`, `1/2` or `2`, which
the array library computes as a copy, a reciprocal, ones, a square root or a square instead of
a power. -/
def fastPower? (l r : Operand) : Option Column :=
  match l, r.exponent? with
  | .col (.float64 xs), some e =>
    if e == 1 then some (.float64 xs)
    else if e == -1 then some (.float64 (xs.map (1.0 / ·)))
    else if e == 0 then some (.float64 (xs.map fun _ => 1.0))
    else if e == 0.5 then some (.float64 (xs.map Float.sqrt))
    else if e == 2 then some (.float64 (xs.map fun x => x * x))
    else none
  | .col (.complex128 zs), some e =>
    if e == 1 then some (.complex128 zs)
    else if e == -1 then some (.complex128 (zs.map Number.storageReciprocal))
    else if e == 0 then some (.complex128 (zs.map fun _ => (1.0, 0.0)))
    else if e == 0.5 then some (.complex128 (zs.map Number.complexSqrt))
    else if e == 2 then some (.complex128 (zs.map fun z => Number.storageProduct z z))
    else none
  | _, _ => none

/-- Whether an operand is of truth values. -/
def Operand.isBoolish : Operand → Bool
  | .col (.bool _) => true
  | .weak (.bool _) => true
  | .strong (.bool _) => true
  | _ => false

/-- Arithmetic value by value with the rules of plain scalars, for mixed columns: when a
kind mismatch fails, missing values are kept missing and the others computed again. -/
def objectKernel (op : Arith) (n : Nat) (l r : Operand) : Outcome Column :=
  let xs := (Array.range n).map l.cellAt
  let ys := (Array.range n).map r.cellAt
  let first := (xs.zip ys).mapM fun (x, y) => cellArith op x y
  match first with
  | .ok vs => .ok (.object vs)
  | .error f =>
    if f.kind != .type then .error f
    else
      -- the side that is a column decides which values are missing
      let (lMissing, rMissing) := (l.isCol, r.isCol)
      (xs.zip ys).mapM (fun (p : Cell × Cell) =>
        let (x, y) := p
        let skip := (lMissing && x.isNull) || (rMissing && y.isNull) ||
          (op == Arith.pow && l.isCol && !r.isCol && x.same (.int 1))
        if skip then (pure (.float (0.0 / 0.0)) : Outcome Cell) else cellArith op x y) |>.map .object

/-- Arithmetic of two operands, at least one of them a column of `n` values. -/
def arith (op : Arith) (n : Nat) (l r : Operand) : Outcome Column :=
  let isObject (o : Operand) := match o with
    | .col (.object _) => true
    | .weak (.str _) | .weak .none => true
    | _ => false
  if isObject l || isObject r then
    if (match l, r with
        | .col (.object _), _ | _, .col (.object _) => true
        | _, _ => false) then objectKernel op n l r
    else
      let name (o : Operand) : String := match o with
        | .col c => s!"<class 'numpy.dtypes.{(dtypeKind c.dtype).storageName}'>"
        | .weak c => if c matches .str _ then "<class 'numpy.dtypes.StrDType'>"
          else "<class 'numpy.dtypes.ObjectDType'>"
        | .strong x => s!"<class 'numpy.dtypes.{x.kind.storageName}'>"
      typeError s!"ufunc '{op.fname}' did not contain a loop with signature matching types ({name l}, {name r}) -> None"
  else if l.isBoolish && r.isBoolish && (op == .div || op == .floorDiv || op == .pow) then
    fail .notImplemented s!"operator '{op.fname}' not implemented for bool dtypes"
  else match (if op == .pow then fastPower? l r else none) with
  | some c => .ok c
  | none =>
    match resultKind l r with
    | .bool =>
      let xs := l.bools n
      let ys := r.bools n
      match op with
      | .add => .ok (.bool (Array.zipWith (· || ·) xs ys))
      | .mul => .ok (.bool (Array.zipWith (· && ·) xs ys))
      | .sub => typeError "numpy boolean subtract, the `-` operator, is not supported, use the bitwise_xor, the `^` operator, or the logical_xor function instead."
      | _ => do intKernel op false (← l.ints n false) (← r.ints n false)
    | .int => do intKernel op false (← l.ints n false) (← r.ints n false)
    | .uint => do intKernel op true (← l.ints n true) (← r.ints n true)
    | .complex => complexKernel op (l.complexes n) (r.complexes n)
    | .half => .ok (halfKernel op (l.floats n) (r.floats n))
    | _ => .ok (floatKernel op (l.floats n) (r.floats n))

/-- Comparison of a column with an operand, value by value. -/
def compare (rel : Rel) (n : Nat) (l r : Operand) : Outcome Column :=
  let numericCol (o : Operand) := match o with
    | .col c => c.dtype.isNumeric
    | _ => false
  let rNull := match r with
    | .weak c => c.isNull
    | .strong (.float64 f) | .strong (.float16 f) => f.isNaN
    | _ => false
  let rText := match r with
    | .weak (.str _) => true
    | _ => false
  let lObject := match l with
    | .col (.object _) => true
    | _ => false
  let constant (b : Bool) : Outcome Column := .ok (.bool (Array.replicate n b))
  if !r.isCol && rNull then constant (rel == .ne)
  else if numericCol l && rText then
    match rel with
    | .eq => constant false
    | .ne => constant true
    | _ => match l with
      | .col c => typeError s!"Invalid comparison between dtype={c.dtype.name} and str"
      | _ => typeError "Invalid comparison"
  else if lObject || rText then
    -- mixed values: missing values compare unequal, other values by their own rules
    (Array.range n).mapM (fun i =>
      let x := l.cellAt i
      let y := r.cellAt i
      if x.isNull || y.isNull then (pure (rel == .ne) : Outcome Bool)
      else if rel == .eq || rel == .ne then .ok ((x.same y) == (rel == .eq))
      else cellCompare rel x y) |>.map .bool
  else match r with
    | .col (.object _) =>
      (Array.range n).mapM (fun i => cellCompare rel (l.cellAt i) (r.cellAt i)) |>.map .bool
    | _ =>
      match resultKind l r with
      | .complex =>
        let xs := l.complexes n
        let ys := r.complexes n
        let imagsNumbers (a b : Number.Complex2) := !a.2.isNaN && !b.2.isNaN
        .ok (.bool (Array.zipWith (fun a b =>
          match rel with
          | .eq => a.1 == b.1 && a.2 == b.2
          | .ne => a.1 != b.1 || a.2 != b.2
          | .lt => (a.1 < b.1 && imagsNumbers a b) || (a.1 == b.1 && a.2 < b.2)
          | .le => (a.1 < b.1 && imagsNumbers a b) || (a.1 == b.1 && a.2 ≤ b.2)
          | .gt => (a.1 > b.1 && imagsNumbers a b) || (a.1 == b.1 && a.2 > b.2)
          | .ge => (a.1 > b.1 && imagsNumbers a b) || (a.1 == b.1 && a.2 ≥ b.2)) xs ys))
      | .float | .half =>
        let xs := l.floats n
        let ys := r.floats n
        .ok (.bool (Array.zipWith (fun a b =>
          if a.isNaN || b.isNaN then rel == .ne
          else rel.holds (if a < b then .lt else if a == b then .eq else .gt)) xs ys))
      | _ =>
        let xs := (Array.range n).map fun i => ((l.cellAt i).asInt?).getD 0
        let ys := (Array.range n).map fun i => ((r.cellAt i).asInt?).getD 0
        .ok (.bool (Array.zipWith (fun a b => rel.holds (Ord.compare a b)) xs ys))

/-- Values made truth values for a logical operation: missing values of float or mixed
storage become false, and when the other side is of truth values (or absent) everything is
made a truth value. -/
def fillBool (c : Column) (otherIsBool : Bool) : Column :=
  let c := match c with
    | .float64 vs | .float16 vs =>
      if vs.any Float.isNaN then .object (vs.map fun f => if f.isNaN then .bool false else .float f)
      else c
    | .object vs =>
      if vs.any Cell.isNull then .object (vs.map fun x => if x.isNull then .bool false else x)
      else c
    | _ => c
  if otherIsBool then .bool (c.cells.map Cell.truthy) else c

/-- Logical and/or of a column with an operand: truth values give truth values, integers
with integers give bitwise integers, and other values are combined one by one. -/
def logical (isAnd : Bool) (n : Nat) (l : Column) (r : Operand) : Outcome Column := do
  let intKind (d : DType) := d == .int64 || d == .uint64
  let otherInt := match r with
    | .col c => intKind c.dtype
    | .weak (.int _) | .strong (.int64 _) => true
    | _ => false
  let r := match r with
    | .col c => if intKind c.dtype then Operand.col c else .col (fillBool c (l.dtype == DType.bool))
    | o => o
  let numeric (d : DType) := d == .bool || intKind d
  let res : Column ← match l, r with
    | .bool xs, .col (.bool ys) =>
      pure (.bool (Array.zipWith (fun a b => if isAnd then a && b else a || b) xs ys))
    | .bool xs, .weak (.bool y) | .bool xs, .strong (.bool y) =>
      pure (.bool (xs.map fun a => if isAnd then a && y else a || y))
    | _, .col c =>
      if numeric l.dtype && numeric c.dtype then do
        let xs ← (Operand.col l).ints n false
        let ys ← r.ints n false
        pure (.int64 (Array.zipWith (fun a b => if isAnd then intAnd a b else intOr a b) xs ys))
      else
        (Array.range n).mapM (fun i =>
          let x := l.cell i
          let y := c.cell i
          match cellBitwise isAnd x y with
          | .ok v => (pure v : Outcome Cell)
          | .error f => if x.isNull then pure x else if y.isNull then pure y else .error f)
          |>.map .object
    | _, _ =>
      let y := r.cellAt 0
      if numeric l.dtype && (y matches .int _ || y matches .bool _) then do
        let xs ← (Operand.col l).ints n false
        let yv := y.asInt?.getD 0
        pure (.int64 (xs.map fun a => if isAnd then intAnd a yv else intOr a yv))
      else
        let yb : Cell := if y.isNull then y else .bool y.truthy
        let fname := if isAnd then "and_" else "or_"
        (Array.range n).mapM (fun i =>
          let x := l.cell i
          if yb.isNull then (pure yb : Outcome Cell)
          else if x.isNull then pure x
          else match cellBitwise isAnd x yb with
            | .ok v => pure v
            | .error _ => typeError
              s!"Cannot perform '{fname}' with a dtyped [{l.dtype.name}] array and scalar of type [{yb.typeName}]")
          |>.map .object
  if intKind l.dtype && otherInt then return res
  else return fillBool res true

/-- Negation of a column; truth values are inverted. -/
def negate (c : Column) : Outcome Column :=
  match c with
  | .int64 vs => .ok (.int64 (vs.map fun v => wrap64 (-v)))
  | .uint64 vs => .ok (.uint64 (vs.map fun (v : Nat) => wrapU64 (-(v : Int))))
  | .float64 vs => .ok (.float64 (vs.map fun v => -v))
  | .float16 vs => .ok (.float16 (vs.map fun v => -v))
  | .bool vs => .ok (.bool (vs.map (!·)))
  | .object vs => (vs.mapM cellNeg).map .object
  | .complex128 vs => .ok (.complex128 (vs.map fun (re, im) => (-re, -im)))

/-- Unary plus of a column. -/
def positive (c : Column) : Outcome Column :=
  match c with
  | .object vs => (vs.mapM cellPos).map .object
  | c => .ok c

/-- Bitwise inversion of a column; truth values are inverted. -/
def invert (c : Column) : Outcome Column :=
  if c.size == 0 then .ok c
  else match c with
    | .int64 vs => .ok (.int64 (vs.map fun v => -v - 1))
    | .uint64 vs => .ok (.uint64 (vs.map fun v => Nat.pow 2 64 - 1 - v))
    | .bool vs => .ok (.bool (vs.map (!·)))
    | .float64 _ | .float16 _ | .complex128 _ => typeError "ufunc 'invert' not supported for the input types, and the inputs could not be safely coerced to any supported types according to the casting rule ''safe''"
    | .object vs => (vs.mapM cellInvert).map .object

end Dataflow.Eval
