import Dataflow.Eval.Percent
/-!
# Operators on values

The operators of expressions applied to values. When a series meets a scalar, the operation
is element-wise with the scalar repeated, and a scalar on the left is the same as the series
on the left with the relation swapped. Two scalars combine by the rules of their own
family. Membership tests a series against a list element by element, and otherwise asks
whether a value is among the items of a container.
-/

namespace Dataflow.Eval

/-- The operand view of a value, if it is a series or a scalar. -/
def Obj.operand? : Obj → Option Operand
  | .series c => some (.col c)
  | .plain c => some (.weak c)
  | .fixed x => some (.strong x)
  | _ => none

/-- A list of values as a column, its kind inferred from the values. -/
def listColumn (items : List Obj) : Column :=
  Column.ofCells (items.map fun o => (o.cell?).getD .none).toArray

/-- A result column of length one as a fixed-width scalar, or as a plain scalar when mixed. -/
def singleton (c : Column) : Obj :=
  match c with
  | .int64 vs => .fixed (.int64 (vs.getD 0 0))
  | .uint64 vs => .fixed (.int64 (vs.getD 0 0))
  | .float64 vs => .fixed (.float64 (vs.getD 0 0))
  | .bool vs => .fixed (.bool (vs.getD 0 false))
  | .float16 vs => .fixed (.float16 (vs.getD 0 0))
  | c => .plain (c.cell 0)

/-- A fixed-width scalar as a column of one value. -/
def Fixed.column : Fixed → Column
  | .int64 i => .int64 #[i]
  | .float64 f => .float64 #[f]
  | .bool b => .bool #[b]
  | .float16 f => .float16 #[f]

/-- An operand with fixed-width scalars made one-value columns. -/
def Operand.widen : Operand → Operand
  | .strong x => .col x.column
  | o => o

/-- The message for operands of kinds that an operator does not combine. -/
def unsupportedObjs (sym : String) (x y : Obj) : Failure :=
  ⟨.type, s!"unsupported operand type(s) for {sym}: '{x.className}' and '{y.className}'"⟩

/-- Arithmetic on two values. -/
def arithOfValues (op : Arith) (x y : Obj) : Outcome Obj :=
  match x, y with
  | .series a, .series b =>
    if a.size != b.size then
      fail .value s!"operands could not be broadcast together with shapes ({a.size},) ({b.size},) "
    else (arith op a.size (.col a) (.col b)).map .series
  | .series a, .list items =>
    let b := listColumn items
    if a.size != b.size then
      fail .value s!"operands could not be broadcast together with shapes ({a.size},) ({b.size},) "
    else (arith op a.size (.col a) (.col b)).map .series
  | .list items, .series b =>
    let a := listColumn items
    if a.size != b.size then
      fail .value s!"operands could not be broadcast together with shapes ({a.size},) ({b.size},) "
    else (arith op a.size (.col a) (.col b)).map .series
  | .series a, _ => match y.operand? with
    | some o => (arith op a.size (.col a) o).map .series
    | none => .error (unsupportedObjs op.symbol x y)
  | _, .series b => match x.operand? with
    | some o => (arith op b.size o (.col b)).map .series
    | none => .error (unsupportedObjs op.symbol x y)
  | .plain a, .plain b => (cellArith op a b).map .plain
  | .list a, .list b => if op == .add then .ok (.list (a ++ b)) else .error (unsupportedObjs op.symbol x y)
  | _, _ => match x.operand?, y.operand? with
    | some l, some r => (arith op 1 l.widen r.widen).map singleton
    | _, _ => .error (unsupportedObjs op.symbol x y)

/-- Arithmetic of two values; a text on the left of `%` is a format for the right. -/
def evalArith (op : Arith) (x y : Obj) : Outcome Obj :=
  match op, x with
  | .mod, .plain (.str s) => (percentFormat (Column.range 0) s y).map fun t => .plain (.str t)
  | _, _ => arithOfValues op x y

/-- Comparison of two values. -/
def evalRel (rel : Rel) (x y : Obj) : Outcome Obj :=
  let lengths (a b : Column) : Failure :=
    ⟨.value, s!"('Lengths must match to compare', ({a.size},), ({b.size},))"⟩
  match x, y with
  | .series a, .series b =>
    if a.size != b.size then fail .value "Can only compare identically-labeled Series objects"
    else (compare rel a.size (.col a) (.col b)).map .series
  | .series a, .list items =>
    let b := listColumn items
    if a.size != b.size then .error (lengths a b) else (compare rel a.size (.col a) (.col b)).map .series
  | .list items, .series b =>
    let a := listColumn items
    if a.size != b.size then .error (lengths b a)
    else (compare rel.flip b.size (.col b) (.col a)).map .series
  | .series a, _ => match y.operand? with
    | some o => (compare rel a.size (.col a) o).map .series
    | none => (compare rel a.size (.col a) (.weak .none)).map .series
  | _, .series b => match x.operand? with
    | some o => (compare rel.flip b.size (.col b) o).map .series
    | none => (compare rel.flip b.size (.col b) (.weak .none)).map .series
  | .plain a, .plain b => (cellCompare rel a b).map fun v => .plain (.bool v)
  | _, _ => match x.operand?, y.operand? with
    | some l, some r => (compare rel 1 l.widen r.widen).map singleton
    | _, _ =>
      if rel == .eq then .ok (.plain (.bool false)) else if rel == .ne then .ok (.plain (.bool true))
      else typeError s!"'{rel.symbol}' not supported between instances of '{x.className}' and '{y.className}'"

/-- Logical and/or of two values. -/
def evalLogical (isAnd : Bool) (x y : Obj) : Outcome Obj :=
  let sym := if isAnd then "&" else "|"
  match x, y with
  | .series a, .series b =>
    if a.size != b.size then fail .value "Can only compare identically-labeled Series objects"
    else (logical isAnd a.size a (.col b)).map .series
  | .series a, .list items => (logical isAnd a.size a (.col (.object (listColumn items).cells))).map .series
  | .series a, _ => match y.operand? with
    | some o => (logical isAnd a.size a o).map .series
    | none => .error (unsupportedObjs sym x y)
  | _, .series b => match x.operand? with
    | some o => (logical isAnd b.size b o).map .series
    | none => .error (unsupportedObjs sym x y)
  | .plain a, .plain b => (cellBitwise isAnd a b).map .plain
  | _, _ => match x.cell?, y.cell? with
    | some a, some b => (cellBitwise isAnd a b).map fun c => match c with
      | .bool v => .fixed (.bool v)
      | .int v => .fixed (.int64 (wrap64 v))
      | c => .plain c
    | _, _ => .error (unsupportedObjs sym x y)

/-- Whether a value is list-like: a list or a series. -/
def Obj.isListLike : Obj → Bool
  | .list _ | .series _ => true
  | _ => false

/-- The values of a list-like value as cells. -/
def Obj.items : Obj → List Cell
  | .list items => items.map fun o => (o.cell?).getD .none
  | .series c => c.cells.toList
  | _ => []

/-- Membership of each value of a column among the given values: equal values, or NaN
among NaNs. -/
def isinColumn (c : Column) (values : List Cell) : Column :=
  let nanAmong := values.any fun v => match v with
    | .float f => f.isNaN
    | _ => false
  .bool (c.cells.map fun x =>
    (match x with
      | .float f => f.isNaN && nanAmong
      | _ => false) || values.any (x.same ·))

/-- `values.isin(other)` for a series: other must be list-like. -/
def seriesIsin (c : Column) (other : Obj) : Outcome Obj :=
  if other.isListLike then .ok (.series (isinColumn c other.items))
  else
    let name := match other with
      | .plain c => c.typeName
      | .fixed (.int64 _) => "int64"
      | .fixed (.float64 _) => "float64"
      | .fixed (.bool _) => "bool"
      | o => o.className
    typeError s!"only list-like objects are allowed to be passed to isin(), you passed a `{name}`"

/-- Whether a row label is found by a key, as the lookup of labels of that kind finds it:
labels of integers or floats take numbers other than truth values, truth-value labels take only
truth values, and mixed labels take any equal value. A NaN finds a NaN label. -/
def labelFinds (rows : Column) (k label : Cell) : Bool :=
  let equal := match label, k with
    | .float x, .float y => (x.isNaN && y.isNaN) || label.same k
    | _, _ => label.same k
  match rows, k with
  | .bool _, .bool _ => equal
  | .bool _, _ | .int64 _, .bool _ | .uint64 _, .bool _ | .float64 _, .bool _ => false
  | .object _, _ => equal
  | _, k => k.isNumber && equal

/-- The position of the first row label a key finds. -/
def labelPosition (rows : Column) (k : Cell) : Option Nat :=
  (List.range rows.size).find? fun i => labelFinds rows k (rows.cell i)

/-- Whether a value is one of the row labels. -/
def labelsContain (rows : Column) (k : Cell) : Bool := (labelPosition rows k).isSome

/-- `x in y` for values that are not series on the left; a series holds its row labels. -/
def containedIn (rows : Column) (x y : Obj) : Outcome Bool :=
  match y with
  | .list items => .ok (items.any fun o => match x.cell?, o.cell? with
    | some a, some b => a.same b
    | _, _ => false)
  | .plain (.str t) => match x with
    | .plain (.str s) => .ok (String.isPrefixOf s t || (t.splitOn s).length > 1)
    | _ => typeError s!"'in <string>' requires string as left operand, not {x.className}"
  | .series _ => match x with
    | .list _ => typeError "unhashable type: 'list'"
    | .series _ => typeError "'Series' objects are mutable, thus they cannot be hashed"
    | x => .ok (match x.cell? with
      | some k => labelsContain rows k
      | none => false)
  | _ => typeError s!"argument of type '{y.className}' is not iterable"

/-- Membership: a series is tested element-wise, a list against a series likewise, and other
values by containment. -/
def evalIn (rows : Column) (negated : Bool) (x y : Obj) : Outcome Obj := do
  let flipSeries (o : Obj) : Outcome Obj := match o with
    | .series (.bool vs) => if negated then pure (.series (.bool (vs.map (!·)))) else pure o
    | o => pure o
  match x with
  | .series c => flipSeries (← seriesIsin c y)
  | _ =>
    match x, y with
    | .list _, .series c => flipSeries (← seriesIsin c x)
    | _, _ => do
      let r ← containedIn rows x y
      return .plain (.bool (if negated then !r else r))

/-- Negation of a value. -/
def evalNeg (x : Obj) : Outcome Obj :=
  match x with
  | .series c => (negate c).map .series
  | .plain c => (cellNeg c).map .plain
  | .fixed (.int64 i) => .ok (.fixed (.int64 (wrap64 (-i))))
  | .fixed (.float64 f) => .ok (.fixed (.float64 (-f)))
  | .fixed (.bool _) => typeError "The numpy boolean negative, the `-` operator, is not supported, use the `~` operator or the logical_not function instead."
  | o => typeError s!"bad operand type for unary -: '{o.className}'"

/-- Unary plus of a value. -/
def evalPos (x : Obj) : Outcome Obj :=
  match x with
  | .series c => (positive c).map .series
  | .plain c => (cellPos c).map .plain
  | .fixed _ => .ok x
  | o => typeError s!"bad operand type for unary +: '{o.className}'"

/-- Bitwise inversion of a value; truth values are negated. -/
def evalInvert (x : Obj) : Outcome Obj :=
  match x with
  | .series c => (invert c).map .series
  | .plain c => (cellInvert c).map .plain
  | .fixed (.int64 i) => .ok (.fixed (.int64 (-i - 1)))
  | .fixed (.bool b) => .ok (.fixed (.bool (!b)))
  | .fixed (.float64 _) => typeError "ufunc 'invert' not supported for the input types, and the inputs could not be safely coerced to any supported types according to the casting rule ''safe''"
  | o => typeError s!"bad operand type for unary ~: '{o.className}'"

end Dataflow.Eval
