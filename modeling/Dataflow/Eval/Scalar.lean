import Dataflow.Table.Cell
import Dataflow.Failure
import Dataflow.Number.Complex
/-!
# Arithmetic and comparison of plain scalars

The operators on plain scalars (`Cell`s): integers of any size, floats, truth values (which
count as the integers `0` and `1`), texts and nothing. Integer arithmetic is exact; true
division of integers rounds the exact quotient once; floor division and remainder round
toward negative infinity, so the remainder has the sign of the divisor. Division by zero,
and operands of kinds that an operator does not combine, are failures with the messages the
language gives them.

A negative float to a fractional power is a complex number, and a complex operand makes the
other operand complex too (`Number.complexPower` and its neighbours compute the results).
-/

namespace Dataflow.Eval

/-- Arithmetic operators. -/
inductive Arith where
  | add | sub | mul | div | floorDiv | mod | pow
deriving Repr, BEq, DecidableEq, Inhabited

/-- The symbol of an arithmetic operator. -/
def Arith.symbol : Arith → String
  | .add => "+" | .sub => "-" | .mul => "*" | .div => "/" | .floorDiv => "//" | .mod => "%"
  | .pow => "**"

/-- The function name of an arithmetic operator. -/
def Arith.fname : Arith → String
  | .add => "add" | .sub => "sub" | .mul => "mul" | .div => "truediv"
  | .floorDiv => "floordiv" | .mod => "mod" | .pow => "pow"

/-- Comparison relations. -/
inductive Rel where
  | gt | lt | ge | le | eq | ne
deriving Repr, BEq, DecidableEq, Inhabited

/-- The symbol of a comparison. -/
def Rel.symbol : Rel → String
  | .gt => ">" | .lt => "<" | .ge => ">=" | .le => "<=" | .eq => "==" | .ne => "!="

/-- Whether an ordering satisfies a relation. -/
def Rel.holds : Rel → Ordering → Bool
  | .gt, o => o == .gt
  | .lt, o => o == .lt
  | .ge, o => o != .lt
  | .le, o => o != .gt
  | .eq, o => o == .eq
  | .ne, o => o != .eq

/-- The relation with its operands swapped: `a r b` is `b r.flip a`. -/
def Rel.flip : Rel → Rel
  | .gt => .lt | .lt => .gt | .ge => .le | .le => .ge | .eq => .eq | .ne => .ne

/-- A failure of kind type. -/
def typeError {α : Type} (message : String) : Outcome α := fail .type message

/-- The message for operands an operator does not combine. -/
def unsupported (op : Arith) (a b : String) : String :=
  let sym := if op == .pow then "** or pow()" else op.symbol
  s!"unsupported operand type(s) for {sym}: '{a}' and '{b}'"

/-- Floats from integers, failing for integers beyond the range of doubles. -/
def toFloatChecked (i : Int) : Outcome Float :=
  let f := Decimal.intToFloat i
  if f.isInf then fail .overflow "int too large to convert to float" else .ok f

/-- Whether a double is an odd whole number. -/
def isOddWhole (y : Float) : Bool := Decimal.fmod y.abs 2.0 == 1.0

/-- A complex power as a value, or the failure it raises: zero to a negative or complex power
divides by zero, an infinite part overflows. -/
def complexPowerCell (a b : Number.Complex2) : Outcome Cell :=
  match Number.complexPower a b with
  | .ok (re, im) => .ok (.complex re im)
  | .error .zeroPower => fail .zeroDivision "0.0 to a negative or complex power"
  | .error .overflow => fail .overflow "complex exponentiation"

/-- The power of a float by a float, as the language computes it. A zero exponent gives one,
a NaN operand NaN (but one to a NaN power is one), infinite operands their limits, zero to a
negative power fails, and a negative base to a fractional power is complex; otherwise the power
of the magnitudes, negated for a negative base and an odd exponent, and an infinite power is an
overflow. -/
def floatPow (x y : Float) : Outcome Cell :=
  if y == 0 then .ok (.float 1.0)
  else if x.isNaN then .ok (.float x)
  else if y.isNaN then .ok (.float (if x == 1.0 then 1.0 else y))
  else if y.isInf then
    let ax := x.abs
    if ax == 1.0 then .ok (.float 1.0)
    else if (y > 0) == (ax > 1.0) then .ok (.float y.abs)
    else .ok (.float 0.0)
  else if x.isInf then
    let odd := isOddWhole y
    if y > 0 then .ok (.float (if odd then x else x.abs))
    else .ok (.float (if odd then Decimal.copySign 0.0 x else 0.0))
  else if x == 0 then
    if y < 0 then fail .zeroDivision "0.0 cannot be raised to a negative power"
    else .ok (.float (if isOddWhole y then x else 0.0))
  else if x < 0 && y != y.floor then complexPowerCell (x, 0.0) (y, 0.0)
  else
    let negate := x < 0 && isOddWhole y
    let ax := x.abs
    if ax == 1.0 then .ok (.float (if negate then -1.0 else 1.0))
    else
      let r := Float.pow ax y
      if r.isInf then fail .overflow "(34, 'Numerical result out of range')"
      else .ok (.float (if negate then -r else r))

/-- Arithmetic on two floats. -/
def floatArith (op : Arith) (x y : Float) : Outcome Cell :=
  match op with
  | .add => .ok (.float (x + y))
  | .sub => .ok (.float (x - y))
  | .mul => .ok (.float (x * y))
  | .div => if y == 0 then fail .zeroDivision "float division by zero" else .ok (.float (x / y))
  | .floorDiv =>
    if y == 0 then fail .zeroDivision "float floor division by zero"
    else .ok (.float (Decimal.floorDiv x y))
  | .mod => if y == 0 then fail .zeroDivision "float modulo" else .ok (.float (Decimal.floorMod x y))
  | .pow => floatPow x y

/-- A number as a complex operand: integers and truth values converted to floats (failing
beyond their range), floats with a zero imaginary part; `none` for other values. -/
def complexOperand? (c : Cell) : Outcome (Option Number.Complex2) :=
  match c with
  | .complex re im => .ok (some (re, im))
  | .float f => .ok (some (f, 0.0))
  | _ => match c.asInt? with
    | some i => do return some ((← toFloatChecked i), 0.0)
    | none => .ok none

/-- Arithmetic on two complex numbers; `names` are the type names of the operands, for the
operators complex numbers do not have. -/
def complexArith (op : Arith) (x y : Number.Complex2) (names : String × String) : Outcome Cell :=
  let cell (z : Number.Complex2) : Outcome Cell := .ok (.complex z.1 z.2)
  match op with
  | .add => cell (x.1 + y.1, x.2 + y.2)
  | .sub => cell (x.1 - y.1, x.2 - y.2)
  | .mul => cell (Number.complexProduct x y)
  | .div => match Number.complexQuotient x y with
    | some z => cell z
    | none => fail .zeroDivision "complex division by zero"
  | .pow => complexPowerCell x y
  | .floorDiv | .mod => typeError (unsupported op names.1 names.2)

/-- The exact quotient of two integers rounded to the nearest double. -/
def intTrueDiv (a b : Int) : Float :=
  Decimal.nearest ((a < 0) != (b < 0)) a.natAbs b.natAbs

/-- Arithmetic on two integers. -/
def intArith (op : Arith) (a b : Int) : Outcome Cell :=
  match op with
  | .add => .ok (.int (a + b))
  | .sub => .ok (.int (a - b))
  | .mul => .ok (.int (a * b))
  | .div => if b == 0 then fail .zeroDivision "division by zero" else .ok (.float (intTrueDiv a b))
  | .floorDiv =>
    if b == 0 then fail .zeroDivision "integer division or modulo by zero" else .ok (.int (a.fdiv b))
  | .mod => if b == 0 then fail .zeroDivision "integer modulo by zero" else .ok (.int (a.fmod b))
  | .pow =>
    if b ≥ 0 then .ok (.int (Int.pow a b.toNat))
    else do floatPow (← toFloatChecked a) (← toFloatChecked b)

/-- Arithmetic on two plain scalars. -/
def cellArith (op : Arith) (a b : Cell) : Outcome Cell :=
  match a, b with
  | .str s, .str t =>
    if op == .add then .ok (.str (s ++ t))
    else if op == .mul then typeError "can't multiply sequence by non-int of type 'str'"
    else typeError (unsupported op "str" "str")
  | .str s, _ =>
    match op, b.asInt? with
    | .mul, some k => .ok (.str (String.join (List.replicate k.toNat s)))
    | .add, _ => typeError s!"can only concatenate str (not \"{b.typeName}\") to str"
    | .mul, none => typeError s!"can't multiply sequence by non-int of type '{b.typeName}'"
    | _, _ => typeError (unsupported op a.typeName b.typeName)
  | _, .str t =>
    match op, a.asInt? with
    | .mul, some k => .ok (.str (String.join (List.replicate k.toNat t)))
    | .mul, none => typeError s!"can't multiply sequence by non-int of type '{a.typeName}'"
    | _, _ => typeError (unsupported op a.typeName b.typeName)
  | .complex _ _, _ | _, .complex _ _ => do
    match ← complexOperand? a, ← complexOperand? b with
    | some x, some y => complexArith op x y (a.typeName, b.typeName)
    | _, _ => typeError (unsupported op a.typeName b.typeName)
  | .float x, .float y => floatArith op x y
  | .float x, _ => match b.asInt? with
    | some j => do floatArith op x (← toFloatChecked j)
    | none => typeError (unsupported op a.typeName b.typeName)
  | _, .float y => match a.asInt? with
    | some i => do floatArith op (← toFloatChecked i) y
    | none => typeError (unsupported op a.typeName b.typeName)
  | _, _ => match a.asInt?, b.asInt? with
    | some i, some j => intArith op i j
    | _, _ => typeError (unsupported op a.typeName b.typeName)

/-- Comparison of two plain scalars: equality never fails, order fails between kinds that
have none. NaN satisfies only `!=`. -/
def cellCompare (r : Rel) (a b : Cell) : Outcome Bool :=
  match r with
  | .eq => .ok (a.same b)
  | .ne => .ok (!a.same b)
  | _ => match a.order b with
    | .ok (some o) => .ok (r.holds o)
    | .ok none => .ok false
    | .error (x, y) =>
      typeError s!"'{r.symbol}' not supported between instances of '{x}' and '{y}'"

/-- Negation of a plain scalar. -/
def cellNeg (a : Cell) : Outcome Cell :=
  match a with
  | .float f => .ok (.float (-f))
  | .complex re im => .ok (.complex (-re) (-im))
  | _ => match a.asInt? with
    | some i => .ok (.int (-i))
    | none => typeError s!"bad operand type for unary -: '{a.typeName}'"

/-- Unary plus of a plain scalar. -/
def cellPos (a : Cell) : Outcome Cell :=
  match a with
  | .float f => .ok (.float f)
  | .complex re im => .ok (.complex re im)
  | _ => match a.asInt? with
    | some i => .ok (.int i)
    | none => typeError s!"bad operand type for unary +: '{a.typeName}'"

/-- Bitwise inversion of a plain scalar: `~x` is `-x - 1` for integers and truth values. -/
def cellInvert (a : Cell) : Outcome Cell :=
  match a.asInt? with
  | some i => .ok (.int (-i - 1))
  | none => typeError s!"bad operand type for unary ~: '{a.typeName}'"

/-- The absolute value of a plain scalar. -/
def cellAbs (a : Cell) : Outcome Cell :=
  match a with
  | .float f => .ok (.float f.abs)
  | .complex re im =>
    let m := Number.hypot re im
    if m.isInf && !re.isInf && !im.isInf then fail .overflow "absolute value too large"
    else .ok (.float m)
  | _ => match a.asInt? with
    | some i => .ok (.int i.natAbs)
    | none => typeError s!"bad operand type for abs(): '{a.typeName}'"

/-- Bitwise and of integers in two's complement (`Int.negSucc n` is the complement of `n`). -/
def intAnd : Int → Int → Int
  | .ofNat x, .ofNat y => .ofNat (x &&& y)
  | .ofNat x, .negSucc y => .ofNat (x - (x &&& y))
  | .negSucc x, .ofNat y => .ofNat (y - (y &&& x))
  | .negSucc x, .negSucc y => .negSucc (x ||| y)

/-- Bitwise or of integers in two's complement. -/
def intOr : Int → Int → Int
  | .ofNat x, .ofNat y => .ofNat (x ||| y)
  | .ofNat x, .negSucc y => .negSucc (y - (y &&& x))
  | .negSucc x, .ofNat y => .negSucc (x - (x &&& y))
  | .negSucc x, .negSucc y => .negSucc (x &&& y)

/-- Bitwise and/or of plain scalars: truth values give truth values, integers integers. -/
def cellBitwise (isAnd : Bool) (a b : Cell) : Outcome Cell :=
  match a, b with
  | .bool x, .bool y => .ok (.bool (if isAnd then x && y else x || y))
  | _, _ => match a.asInt?, b.asInt? with
    | some i, some j => .ok (.int (if isAnd then intAnd i j else intOr i j))
    | _, _ =>
      let sym := if isAnd then "&" else "|"
      typeError s!"unsupported operand type(s) for {sym}: '{a.typeName}' and '{b.typeName}'"

end Dataflow.Eval
