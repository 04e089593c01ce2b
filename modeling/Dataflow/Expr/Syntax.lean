/-!
# Syntax trees of expressions

The tree an expression text parses to. Constructs that the table evaluator takes are spelled
out; every other construct of the language is kept as `other`, with the name the language
gives that kind of node, because evaluation refuses it by that name.
-/

namespace Dataflow.Expr

/-- Binary arithmetic and bit operators. -/
inductive BinOp where
  | add | sub | mul | div | floorDiv | mod | pow | matMul | bitAnd | bitOr | bitXor | shl | shr
deriving Repr, BEq, DecidableEq

/-- Unary operators; `not` is the word form. -/
inductive UnOp where
  | neg | pos | invert | not
deriving Repr, BEq, DecidableEq

/-- The connectives `and` and `or`. -/
inductive Connective where
  | and | or
deriving Repr, BEq, DecidableEq

/-- Comparison operators. -/
inductive CmpOp where
  | eq | ne | lt | le | gt | ge | isIn | notIn | is | isNot
deriving Repr, BEq, DecidableEq

/-- The syntax tree of an expression. -/
inductive Ast where
  | name (id : String)
  /-- an integer literal, of any size -/
  | int (v : Nat)
  | float (v : Float)
  /-- an imaginary literal: the imaginary part, rounded to the nearest double -/
  | imag (v : Float)
  | str (s : String)
  | bytes (s : String)
  | bool (b : Bool)
  | none
  | ellipsis
  | list (items : List Ast)
  | tuple (items : List Ast)
  | attr (obj : Ast) (field : String)
  /-- a call with positional arguments and named ones (`none` names a `**` argument) -/
  | call (fn : Ast) (args : List Ast) (named : List (Option String × Ast))
  | subscript (obj : Ast) (index : Ast)
  | slice (lo hi step : Option Ast)
  | binary (op : BinOp) (lhs rhs : Ast)
  | unary (op : UnOp) (arg : Ast)
  | logic (op : Connective) (args : List Ast)
  | compare (first : Ast) (rest : List (CmpOp × Ast))
  /-- a construct that evaluation does not take, by its node name (`IfExp`, `Lambda`, ...) -/
  | other (node : String)
deriving Repr, Inhabited

/-- The symbol of a binary operator. -/
def BinOp.symbol : BinOp → String
  | .add => "+" | .sub => "-" | .mul => "*" | .div => "/" | .floorDiv => "//" | .mod => "%"
  | .pow => "**" | .matMul => "@" | .bitAnd => "&" | .bitOr => "|" | .bitXor => "^"
  | .shl => "<<" | .shr => ">>"

/-- The symbol of a comparison. -/
def CmpOp.symbol : CmpOp → String
  | .eq => "==" | .ne => "!=" | .lt => "<" | .le => "<=" | .gt => ">" | .ge => ">="
  | .isIn => "in" | .notIn => "not in" | .is => "is" | .isNot => "is not"

end Dataflow.Expr
