import Dataflow.Table.Cell
import Dataflow.Number.Half
/-!
# Columns

A column is a sequence of values of one storage kind: 64-bit signed or unsigned integers,
doubles, half-precision floats, truth values, or mixed values (`Cell`s). The storage kind decides how arithmetic on
the column behaves; the cells are how each value is seen one at a time.
-/

namespace Dataflow

/-- The storage kinds of columns. -/
inductive DType where
  | int64 | uint64 | float64 | bool | object | complex128 | float16
deriving Repr, BEq, DecidableEq, Inhabited

/-- The name of a storage kind, as it is reported. -/
def DType.name : DType → String
  | .int64 => "int64"
  | .uint64 => "uint64"
  | .float64 => "float64"
  | .bool => "bool"
  | .object => "object"
  | .complex128 => "complex128"
  | .float16 => "float16"

/-- Whether the kind holds numbers (truth values count as numbers). -/
def DType.isNumeric : DType → Bool
  | .object => false
  | _ => true

/-- The least integer of 64-bit signed storage. -/
def int64Min : Int := -(Int.pow 2 63)

/-- The greatest integer of 64-bit signed storage. -/
def int64Max : Int := Int.pow 2 63 - 1

/-- Whether an integer fits 64-bit signed storage. -/
def fitsInt64 (i : Int) : Bool := int64Min ≤ i && i ≤ int64Max

/-- Whether an integer fits 64-bit unsigned storage. -/
def fitsUInt64 (i : Int) : Bool := 0 ≤ i && i < Int.pow 2 64

/-- An integer reduced into 64-bit signed storage, wrapping around. -/
def wrap64 (i : Int) : Int := (i + Int.pow 2 63) % Int.pow 2 64 - Int.pow 2 63

/-- An integer reduced into 64-bit unsigned storage, wrapping around. -/
def wrapU64 (i : Int) : Nat := (i % Int.pow 2 64).toNat

/-- A column: values of one storage kind. -/
inductive Column where
  | int64 (vs : Array Int)
  | uint64 (vs : Array Nat)
  | float64 (vs : Array Float)
  | bool (vs : Array Bool)
  | object (vs : Array Cell)
  | complex128 (vs : Array (Float × Float))
  /-- half-precision floats, each held exactly as a double -/
  | float16 (vs : Array Float)
deriving Inhabited, Repr

namespace Column

/-- The storage kind. -/
def dtype : Column → DType
  | .int64 _ => .int64
  | .uint64 _ => .uint64
  | .float64 _ => .float64
  | .bool _ => .bool
  | .object _ => .object
  | .complex128 _ => .complex128
  | .float16 _ => .float16

/-- The number of values. -/
def size : Column → Nat
  | .int64 vs => vs.size
  | .uint64 vs => vs.size
  | .float64 vs => vs.size
  | .bool vs => vs.size
  | .object vs => vs.size
  | .complex128 vs => vs.size
  | .float16 vs => vs.size

/-- The values as cells. -/
def cells : Column → Array Cell
  | .int64 vs => vs.map .int
  | .uint64 vs => vs.map fun (n : Nat) => .int (n : Int)
  | .float64 vs => vs.map .float
  | .bool vs => vs.map .bool
  | .object vs => vs
  | .complex128 vs => vs.map fun (re, im) => .complex re im
  | .float16 vs => vs.map .float

/-- The value at a position, as a cell. -/
def cell (c : Column) (i : Nat) : Cell :=
  match c with
  | .int64 vs => .int (vs.getD i 0)
  | .uint64 vs => .int (vs.getD i 0)
  | .float64 vs => .float (vs.getD i 0)
  | .bool vs => .bool (vs.getD i false)
  | .object vs => vs.getD i .none
  | .complex128 vs => let (re, im) := vs.getD i (0.0, 0.0); .complex re im
  | .float16 vs => .float (vs.getD i 0)

/-- The values at the given positions, in that order. -/
def take (c : Column) (ixs : Array Nat) : Column :=
  match c with
  | .int64 vs => .int64 (ixs.map fun i => vs.getD i 0)
  | .uint64 vs => .uint64 (ixs.map fun i => vs.getD i 0)
  | .float64 vs => .float64 (ixs.map fun i => vs.getD i 0)
  | .bool vs => .bool (ixs.map fun i => vs.getD i false)
  | .object vs => .object (ixs.map fun i => vs.getD i .none)
  | .complex128 vs => .complex128 (ixs.map fun i => vs.getD i (0.0, 0.0))
  | .float16 vs => .float16 (ixs.map fun i => vs.getD i 0)

/-- The positions where a mask is true. -/
def positions (mask : Array Bool) : Array Nat :=
  (mask.toList.zipIdx.filterMap fun (b, i) => if b then some i else none).toArray

/-- The values where a mask is true. -/
def select (c : Column) (mask : Array Bool) : Column := c.take (positions mask)

/-- The first `n` values. -/
def prefixOf (c : Column) (n : Nat) : Column := c.take (Array.range (min n c.size))

/-- An empty column of a storage kind. -/
def empty : DType → Column
  | .int64 => .int64 #[]
  | .uint64 => .uint64 #[]
  | .float64 => .float64 #[]
  | .bool => .bool #[]
  | .object => .object #[]
  | .complex128 => .complex128 #[]
  | .float16 => .float16 #[]

/-- The positions `0, 1, ..., n - 1` as a column of integers: the default row labels. -/
def range (n : Nat) : Column := .int64 ((Array.range n).map fun (i : Nat) => (i : Int))

/-- The values as floats: numbers converted, others NaN. -/
def floats (c : Column) : Array Float :=
  match c with
  | .int64 vs => vs.map Decimal.intToFloat
  | .uint64 vs => vs.map fun (n : Nat) => Decimal.intToFloat (n : Int)
  | .float64 vs => vs
  | .bool vs => vs.map fun b => if b then 1.0 else 0.0
  | .object vs => vs.map fun
    | .int i => Decimal.intToFloat i
    | .float f => f
    | .bool b => if b then 1.0 else 0.0
    | _ => 0.0 / 0.0
  | .complex128 vs => vs.map (·.1)
  | .float16 vs => vs

/-- Stores the same values with mixed storage. -/
def toObject (c : Column) : Column := .object c.cells

/-- Missing values: NaN floats and missing mixed values. -/
def nulls (c : Column) : Array Bool :=
  match c with
  | .float64 vs | .float16 vs => vs.map Float.isNaN
  | .object vs => vs.map Cell.isNull
  | .complex128 vs => vs.map fun (re, im) => re.isNaN || im.isNaN
  | c => Array.replicate c.size false

/-- The storage kind that a list of mixed values is given when a column is built from it:
integers alone give 64-bit integers (unsigned when they only fit so), numbers with floats or
missing values give floats, truth values alone give truth values, anything else stays mixed. -/
def inferKind (cs : Array Cell) : DType :=
  let ints := cs.all fun c => match c with | .int _ => true | _ => false
  let bools := cs.all fun c => match c with | .bool _ => true | _ => false
  let numbers := cs.all fun c => match c with
    | .int _ | .float _ | .none => true
    | _ => false
  let anyFloat := cs.any fun c => match c with | .float _ => true | _ => false
  let anyNone := cs.any fun c => match c with | .none => true | _ => false
  if cs.isEmpty then .object
  else if ints then
    if cs.all (fun c => match c with | .int i => fitsInt64 i | _ => false) then .int64
    else if cs.all (fun c => match c with | .int i => fitsUInt64 i | _ => false) then .uint64
    else .object
  else if bools then .bool
  else if numbers && (anyFloat || anyNone) &&
      cs.all (fun c => match c with | .int i => fitsInt64 i || fitsUInt64 i | _ => true) then
    .float64
  else .object

/-- A column holding mixed values, stored by `inferKind`. -/
def ofCells (cs : Array Cell) : Column :=
  match inferKind cs with
  | .int64 => .int64 (cs.map fun c => match c with | .int i => i | _ => 0)
  | .uint64 => .uint64 (cs.map fun c => match c with | .int i => i.toNat | _ => 0)
  | .bool => .bool (cs.map fun c => match c with | .bool b => b | _ => false)
  | .float64 => .float64 (Column.object cs).floats
  | _ => .object cs

end Column

/-! ### What values are inferred to hold -/

/-- What the table library infers a column of values to hold. -/
inductive Inferred where
  | empty | integer | integerNa | mixedIntegerFloat | mixedInteger | floating | boolean
  | string | mixed | complex
deriving Repr, BEq, DecidableEq, Inhabited

/-- Whether a value is an integer (not a truth value). -/
def Cell.isInteger : Cell → Bool
  | .int _ => true
  | _ => false

/-- Whether a value is a float (NaN included). -/
def Cell.isFloat : Cell → Bool
  | .float _ => true
  | _ => false

/-- Whether a value is a float NaN. -/
def Cell.isNaNFloat : Cell → Bool
  | .float f => f.isNaN
  | _ => false

/-- What a list of mixed values is inferred to hold, missing values counted as values. -/
def inferMixed (vs : List Cell) : Inferred :=
  let fallback := if vs.any Cell.isInteger then Inferred.mixedInteger else .mixed
  let numeric := vs.all fun v => v.isInteger || v.isFloat
  let intOrNaN := vs.all fun v => v.isInteger || v.isNaNFloat
  match vs.find? (!·.isNull), vs.getLast? with
  | none, none => .empty
  | some (.int _), _ | none, some (.int _) =>
    if vs.all Cell.isInteger then .integer
    else if numeric then (if intOrNaN then .integerNa else .mixedIntegerFloat)
    else .mixedInteger
  | some (.bool _), _ | none, some (.bool _) =>
    if vs.all fun v => match v with | .bool _ => true | _ => false then .boolean else fallback
  | some (.float _), _ | none, some (.float _) =>
    if vs.all Cell.isFloat then .floating
    else if numeric then (if intOrNaN then .integerNa else .mixedIntegerFloat)
    else fallback
  | some (.str _), _ | none, some (.str _) =>
    if vs.all fun v => match v with | .str _ => true | _ => false then .string else fallback
  | _, _ => fallback

/-- What a column is inferred to hold. -/
def Column.inferred : Column → Inferred
  | .int64 _ | .uint64 _ => .integer
  | .float64 _ | .float16 _ => .floating
  | .bool _ => .boolean
  | .object vs => inferMixed vs.toList
  | .complex128 _ => .complex

end Dataflow
