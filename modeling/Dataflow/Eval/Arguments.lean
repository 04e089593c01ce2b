import Dataflow.Eval.Ops
import Dataflow.Eval.Signature
/-!
# Checks of argument values

What the methods of series check about the values of their arguments, once the arguments are
bound, with the messages they give:

* flags such as `skipna` must be truth values (`checkFlag`);
* an axis must name the only axis a series has: `0`, `"index"` or `"rows"` (`checkAxis`);
* named arguments that a method accepts only for compatibility with the numeric library's
  functions must hold their defaults (`checkCompat`): another name is unexpected, and another
  value is not supported.
-/

namespace Dataflow.Eval

/-- The text of a value as the language's `str` gives it. -/
def Obj.text : Obj → String
  | .plain c => c.text
  | .fixed (.float16 f) => Decimal.halfText f
  | .fixed x => x.cell.text
  | .list items =>
    "[" ++ ", ".intercalate (items.map fun o => ((o.cell?).map Cell.repr).getD o.className) ++ "]"
  | .ellipsis => "Ellipsis"
  | o => o.className

/-- The name of the type of a value, as the language's `type(x).__name__` gives it. -/
def Obj.typeName : Obj → String
  | .plain c => c.typeName
  | .fixed x => match x with
    | .int64 _ => "int64"
    | .float64 _ => "float64"
    | .bool _ => "bool_"
    | .float16 _ => "float16"
  | o => o.className

/-- Whether a value is a truth value, plain or fixed-width. -/
def Obj.isBool : Obj → Bool
  | .plain (.bool _) | .fixed (.bool _) => true
  | _ => false

/-- A flag argument: it must be a truth value. -/
def checkFlag (name : String) (v : Obj) : Outcome Bool :=
  match v with
  | .plain (.bool b) | .fixed (.bool b) => .ok b
  | o => fail .value s!"For argument \"{name}\" expected type bool, received type {o.typeName}."

/-- A flag argument that may also be `None`. -/
def checkFlagOrNone (name : String) (v : Obj) : Outcome Bool :=
  match v with
  | .plain .none => .ok false
  | v => checkFlag name v

/-- The truth of a value, as a condition reads it; series and lists of more than one value
have none. -/
def Obj.truth : Obj → Outcome Bool
  | .plain c => .ok c.truthy
  | .fixed x => .ok x.cell.truthy
  | .list items => .ok !items.isEmpty
  | .series c =>
    if c.size == 1 then .ok (c.cell 0).truthy
    else fail .value "The truth value of a Series is ambiguous. Use a.empty, a.bool(), a.item(), a.any() or a.all()."
  | .labelled ⟨c, .array, _⟩ =>
    if c.size == 1 then .ok (c.cell 0).truthy
    else if c.size == 0 then .ok false
    else fail .value "The truth value of an array with more than one element is ambiguous. Use a.any() or a.all()"
  | .labelled s =>
    if s.values.size == 1 then .ok (s.values.cell 0).truthy
    else fail .value "The truth value of a Series is ambiguous. Use a.empty, a.bool(), a.item(), a.any() or a.all()."
  | _ => .ok true

/-- The axis of a series named by an argument: only `0` (or a number or truth value equal to
it), `"index"` and `"rows"` name it. -/
def checkAxis (v : Obj) : Outcome Unit :=
  match v with
  | .plain (.str s) =>
    if s == "index" || s == "rows" then .ok ()
    else fail .value s!"No axis named {s} for object type Series"
  | .list _ => typeError "unhashable type: 'list'"
  | .labelled ⟨_, .array, _⟩ => typeError "unhashable type: 'numpy.ndarray'"
  | .series _ | .labelled _ => typeError "'Series' objects are mutable, thus they cannot be hashed"
  | o => match o.cell? with
    | some c =>
      if c.isNumber && c.same (.int 0) then .ok ()
      else fail .value s!"No axis named {o.text} for object type Series"
    | none => fail .value s!"No axis named {o.text} for object type Series"

/-- An axis argument that may also be `None`. -/
def checkAxisOrNone (v : Obj) : Outcome Unit :=
  match v with
  | .plain .none => .ok ()
  | v => checkAxis v

/-- Whether a value equals the default of a compatibility argument: `None` only `None`, `False`
whatever equals it. -/
def holdsDefault (default : Cell) (v : Obj) : Bool :=
  match default, v with
  | .none, .plain .none => true
  | .none, _ => false
  | d, o => match o with
    | .plain .none => false
    | o => match o.cell? with
      | some c => c.same d
      | none => false

/-- Checks arguments accepted only for compatibility: extra positional arguments `args` take
the names of `defaults` in order, then every argument must be one of `defaults` and hold its
default. With `counted` set (to the count of arguments the method names before them), there may
be no more arguments than `defaults` lists. -/
def checkCompat (fname : String) (defaults : List (String × Cell)) (args : List Obj)
    (named : List (String × Obj)) (counted : Option Nat) : Outcome Unit := do
  let total := args.length + named.length
  match counted with
  | some before =>
    if total > defaults.length then
      let most := defaults.length + before
      let word := if most == 1 then "argument" else "arguments"
      typeError s!"{fname}() takes at most {most} {word} ({total + before} given)"
  | none => pure ()
  let byPosition := (defaults.map (·.1)).zip args
  for (k, _) in byPosition do
    if (named.lookup k).isSome then typeError s!"{fname}() got multiple values for argument '{k}'"
  let all := named ++ byPosition
  for (k, _) in all do
    if (defaults.lookup k).isNone then
      typeError s!"{fname}() got an unexpected keyword argument '{k}'"
  for (k, v) in all do
    match defaults.lookup k with
    | some d =>
      if !holdsDefault d v then
        fail .value s!"the '{k}' parameter is not supported in the pandas implementation of {fname}()"
    | none => pure ()

/-- The compatibility arguments of sums, products and means. -/
def sumDefaults : List (String × Cell) :=
  [("dtype", .none), ("out", .none), ("axis", .none), ("keepdims", .bool false), ("initial", .none)]

/-- The compatibility arguments of minima and maxima. -/
def extremeDefaults : List (String × Cell) :=
  [("axis", .none), ("dtype", .none), ("out", .none), ("keepdims", .bool false)]

/-- The compatibility arguments of medians. -/
def medianDefaults : List (String × Cell) :=
  [("dtype", .none), ("out", .none), ("overwrite_input", .bool false), ("keepdims", .bool false)]

/-- The compatibility arguments of other statistics. -/
def statDefaults : List (String × Cell) :=
  [("dtype", .none), ("out", .none), ("keepdims", .bool false)]

/-- The compatibility arguments of tests of any or all values. -/
def logicalDefaults : List (String × Cell) := [("out", .none), ("keepdims", .bool false)]

/-- The compatibility arguments of running operations. -/
def runningDefaults : List (String × Cell) := [("dtype", .none), ("out", .none)]

/-- The compatibility argument of rounding, clipping and the places of extremes. -/
def outDefault : List (String × Cell) := [("out", .none)]

end Dataflow.Eval
