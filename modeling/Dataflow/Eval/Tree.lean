import Dataflow.Eval.Methods
/-!
# Operation trees

An expression is first turned into a tree of operations whose leaves are values (`Node`),
then the tree is evaluated. The tree has types before it has values: the type of an
operation is a truth value for comparisons and logical operations, and otherwise the
promotion of the types of all the leaves below it. These types decide, while the tree is
built, which operations are refused and which are computed at once.
-/

namespace Dataflow.Eval

/-- Binary operations of trees. -/
inductive BinSym where
  | rel (r : Rel)
  | memberIn
  | memberNotIn
  | and
  | or
  | arith (a : Arith)
deriving Repr, BEq, Inhabited

/-- The symbol of a binary operation, as messages give it. -/
def BinSym.text : BinSym → String
  | .rel r => r.symbol
  | .memberIn => "in"
  | .memberNotIn => "not in"
  | .and => "&"
  | .or => "|"
  | .arith a => a.symbol

/-- Whether an operation yields truth values. -/
def BinSym.isBoolean : BinSym → Bool
  | .arith _ => false
  | _ => true

/-- Unary operations of trees; `not` is inversion. -/
inductive UnSym where
  | pos | neg | invert
deriving Repr, BEq, Inhabited

/-- Trees of operations. -/
inductive Node where
  /-- a value; `key` is the variable it was read from, if any -/
  | term (key : Option String) (value : Obj)
  | binary (op : BinSym) (lhs rhs : Node)
  | unary (op : UnSym) (arg : Node)
  /-- a mathematical function applied to arguments -/
  | call (fn : String) (args : List Node)
deriving Inhabited

namespace Node

mutual

/-- The values at the leaves, left to right. -/
def leaves : Node → List Obj
  | .term _ v => [v]
  | .binary _ l r => l.leaves ++ r.leaves
  | .unary _ a => a.leaves
  | .call _ args => leavesOf args

/-- The leaves of a list of trees. -/
def leavesOf : List Node → List Obj
  | [] => []
  | n :: rest => n.leaves ++ leavesOf rest

end

/-- Whether every leaf is a scalar. -/
def isScalar (n : Node) : Bool := n.leaves.all Obj.isScalar

/-- The name of the kind of operation, as messages about it give it. -/
def className : Node → String
  | .term _ _ => "Term"
  | .binary (.arith .div) _ _ => "Div"
  | .binary _ _ _ => "BinOp"
  | .unary _ _ => "UnaryOp"
  | .call _ _ => "MathCall"

/-- The type a promoted kind stands for. -/
def kindTy : Kind → Ty
  | .bool => .dtype .bool
  | .int => .dtype .int64
  | .uint => .dtype .uint64
  | .half => .dtype .float16
  | .float => .dtype .float64
  | .object => .dtype .object
  | .complex => .dtype .complex128
  | .text => .cls "str"

/-- The type of a tree: truth values for comparisons and logical operations, otherwise the
promotion of the types of all its leaves. -/
def returnType : Node → Outcome Ty
  | .term _ v => .ok v.ty
  | .binary op l r =>
    if op.isBoolean then .ok (.cls "numpy.bool")
    else .ok (kindTy (promoteKinds ((l.leaves ++ r.leaves).map (·.ty.kind))))
  | .unary _ a => do
    let t ← a.returnType
    if t.kind == .bool then return .dtype .bool
    match a with
    | .binary op _ _ => if op.isBoolean then return .dtype .bool else return .dtype .int64
    | _ => return .dtype .int64
  | .call _ args => .ok (kindTy (promoteKinds ((leavesOf args).map (·.ty.kind))))

/-- The type of a leaf, as messages give it; operations have none. -/
def typeText : Node → Outcome String
  | .term _ v => .ok v.ty.text
  | n => fail .attribute s!"'{n.className}' object has no attribute 'type'"

/-- The value of a leaf; operations have none. -/
def value? : Node → Outcome Obj
  | .term _ v => .ok v
  | n => fail .attribute s!"'{n.className}' object has no attribute 'value'"

/-- Applies a binary operation to values: series meet as `pairPlace` says, and the result
takes their place and name. -/
def applyBinary (rows : Column) (op : BinSym) (x y : Obj) : Outcome Obj := do
  if let (.arith .mod, .plain (.str s)) := (op, x) then
    return .plain (.str (← percentFormat rows s y))
  let (shape, x, y) ← pairPlace rows x y
  let r ← match op with
    | .rel r => evalRel r x y
    | .memberIn => evalIn rows false x y
    | .memberNotIn => evalIn rows true x y
    | .and => evalLogical true x y
    | .or => evalLogical false x y
    | .arith a => evalArith a x y
  return placeResult shape r

/-- Applies a unary operation to a value; a series keeps its place and name. -/
def applyUnary (op : UnSym) (x : Obj) : Outcome Obj := do
  let (shape, x, _) ← pairPlace (Column.range 0) x (.plain .none)
  let r ← match op with
    | .pos => evalPos x
    | .neg => evalNeg x
    | .invert => evalInvert x
  return placeResult shape r

/-- Applies a mathematical function to its arguments; a series keeps its place and name, and
two series meet as `pairPlace` says. -/
def applyFunction (rows : Column) (fn : String) (args : List Obj) : Outcome Obj := do
  match args with
  | [x] =>
    let (shape, x, _) ← pairPlace rows x (.plain .none)
    return placeResult shape (← callMath fn [x])
  | [x, y] =>
    let (shape, x, y) ← pairPlace rows x y
    return placeResult shape (← callMath fn [x, y])
  | args => callMath fn args

mutual

/-- Evaluates a tree: operands left to right, then the operation. -/
def eval (rows : Column) : Node → Outcome Obj
  | .term _ v => .ok v
  | .binary op l r => do
    let a ← l.eval rows
    let b ← r.eval rows
    applyBinary rows op a b
  | .unary op a => do applyUnary op (← a.eval rows)
  | .call fn args => do applyFunction rows fn (← evalAll rows args)

/-- Evaluates trees in order. -/
def evalAll (rows : Column) : List Node → Outcome (List Obj)
  | [] => .ok []
  | n :: rest => do
    let v ← n.eval rows
    return v :: (← evalAll rows rest)

end

end Node

end Dataflow.Eval
