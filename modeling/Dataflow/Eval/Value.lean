import Dataflow.Table.Column
import Dataflow.Failure
/-!
# Values of expressions

An expression over a table evaluates to a column aligned with the table's rows (a series),
to a scalar, to a list of values, or to a method of a series waiting for its arguments.

Scalars come in two families that behave differently in arithmetic: plain scalars (`Cell`),
whose integers have any size and which adapt to the storage kind of the column they meet, and
fixed-width scalars (`Fixed`), which are what reductions of columns return and which keep
their own storage kind.

Every value has a type (`Ty`): series have their column's storage kind, scalars have a class.
Types decide which operations are allowed before any value is computed, and they appear in
error messages.
-/

namespace Dataflow.Eval

/-- Scalars of fixed width: a 64-bit integer, a double or a truth value. -/
inductive Fixed where
  | int64 (i : Int)
  | float64 (f : Float)
  | bool (b : Bool)
  /-- a half-precision float, held exactly as a double -/
  | float16 (f : Float)
deriving Inhabited, Repr

/-- Where the values of a series stand. -/
inductive Place where
  /-- at the rows of the table, in order -/
  | rows
  /-- at labels of their own, one for each value -/
  | labels (l : Column)
  /-- at their positions only: an array, which has neither labels nor a name -/
  | array
deriving Inhabited, Repr

/-- A series as expressions see it: its values, where they stand, and its name. -/
structure Labelled where
  values : Column
  place : Place
  name : Cell
deriving Inhabited, Repr

/-- A moving window over a series. -/
inductive Window where
  /-- the last `size` values (centred on the value when `centre`), of which at least `least`
  present -/
  | rolling (size : Nat) (least : Nat) (centre : Bool)
  /-- all values so far, of which at least `least` present -/
  | expanding (least : Nat)
  /-- all values so far, weighted by `(1 - alpha) ^ age` for `alpha = 1 / (1 + com)`; `adjust`
  divides by the sum of the weights rather than letting the first value keep the rest -/
  | weighted (com : Float) (adjust : Bool) (ignoreMissing : Bool) (least : Nat)
deriving Inhabited, Repr

/-- How an indexer of a series finds what it takes. -/
inductive Locate where
  /-- by labels: a label, a list of labels, or a mask -/
  | labels
  /-- by positions: a position, a list of positions, or a mask -/
  | positions
  /-- one value, by its label -/
  | label
  /-- one value, by its position -/
  | position
deriving Inhabited, Repr, BEq

/-- The class name of an indexer. -/
def Locate.className : Locate → String
  | .labels => "_LocIndexer"
  | .positions => "_iLocIndexer"
  | .label => "_AtIndexer"
  | .position => "_iAtIndexer"

/-- Values of expressions. -/
inductive Obj where
  /-- a column aligned with the rows of the table, without a name -/
  | series (c : Column)
  /-- a series with its place and name -/
  | labelled (s : Labelled)
  /-- a plain scalar -/
  | plain (c : Cell)
  /-- a fixed-width scalar -/
  | fixed (x : Fixed)
  /-- a list (or tuple) of values -/
  | list (items : List Obj)
  /-- a method of a series, not yet called -/
  | method (s : Labelled) (name : String)
  /-- the text methods of a series -/
  | textMethods (s : Labelled)
  /-- a text method of a series, not yet called -/
  | textMethod (s : Labelled) (name : String)
  /-- a method of a plain scalar, not yet called -/
  | cellMethod (self : Cell) (name : String)
  /-- a moving window over a series -/
  | window (w : Window) (s : Labelled)
  /-- a method of a moving window, not yet called -/
  | windowMethod (w : Window) (s : Labelled) (name : String)
  /-- a table: labelled columns and row labels -/
  | frame (columns : List (Cell × Column)) (rows : Column)
  /-- the ellipsis constant -/
  | ellipsis
  /-- an indexer of a series -/
  | indexer (how : Locate) (s : Labelled)
deriving Inhabited, Repr

/-- Types of values: a storage kind for series, a class for everything else. -/
inductive Ty where
  | dtype (d : DType)
  | cls (name : String)
deriving Repr, BEq, DecidableEq, Inhabited

/-- The text of a type, as messages give it. -/
def Ty.text : Ty → String
  | .dtype d => d.name
  | .cls n => s!"<class '{n}'>"

/-- The class name of a fixed-width scalar. -/
def Fixed.className : Fixed → String
  | .int64 _ => "numpy.int64"
  | .float64 _ => "numpy.float64"
  | .bool _ => "numpy.bool"
  | .float16 _ => "numpy.float16"

/-- The fixed-width scalar as a cell. -/
def Fixed.cell : Fixed → Cell
  | .int64 i => .int i
  | .float64 f => .float f
  | .bool b => .bool b
  | .float16 f => .float f

/-- The qualified class name of a moving window. -/
def Window.className : Window → String
  | .rolling _ _ _ => "pandas.core.window.rolling.Rolling"
  | .expanding _ => "pandas.core.window.expanding.Expanding"
  | .weighted _ _ _ _ => "pandas.core.window.ewm.ExponentialMovingWindow"

/-- The short class name of a moving window. -/
def Window.shortName : Window → String
  | .rolling _ _ _ => "Rolling"
  | .expanding _ => "Expanding"
  | .weighted _ _ _ _ => "ExponentialMovingWindow"

/-- The storage kind of the values of a table as one block: the columns' common kind, floats
for numbers of several kinds, and mixed values otherwise. -/
def frameDType (columns : List (Cell × Column)) : DType :=
  match columns.map fun (_, c) => c.dtype with
  | [] => .object
  | d :: rest =>
    if rest.all (· == d) then d
    else if (d :: rest).all fun k => k == .int64 || k == .uint64 || k == .float64 || k == .bool ||
        k == .float16 then
      .float64
    else .object

/-- The type of a value. -/
def Obj.ty : Obj → Ty
  | .series c => .dtype c.dtype
  | .labelled s => .dtype s.values.dtype
  | .plain c => .cls c.typeName
  | .fixed x => .cls x.className
  | .list _ => .cls "list"
  | .method _ _ => .cls "method"
  | .textMethods _ => .cls "pandas.core.strings.accessor.StringMethods"
  | .textMethod _ _ => .cls "method"
  | .cellMethod _ _ => .cls "builtin_function_or_method"
  | .window w _ => .cls w.className
  | .windowMethod _ _ _ => .cls "method"
  | .frame columns _ => .dtype (frameDType columns)
  | .ellipsis => .cls "ellipsis"
  | .indexer how _ => .cls s!"pandas.core.indexing.{how.className}"

/-- The short class name of a value, as messages about objects give it. -/
def Obj.className : Obj → String
  | .series _ => "Series"
  | .labelled ⟨_, .array, _⟩ => "ndarray"
  | .labelled _ => "Series"
  | .plain c => c.typeName
  | .fixed (.int64 _) => "int64"
  | .fixed (.float64 _) => "float64"
  | .fixed (.bool _) => "bool"
  | .fixed (.float16 _) => "float16"
  | .list _ => "list"
  | .method _ _ => "method"
  | .textMethods _ => "StringMethods"
  | .textMethod _ _ => "method"
  | .cellMethod _ _ => "builtin_function_or_method"
  | .window w _ => w.shortName
  | .windowMethod _ _ _ => "method"
  | .frame _ _ => "DataFrame"
  | .ellipsis => "ellipsis"
  | .indexer how _ => how.className

/-- Whether a value is a scalar (lists, series, tables and methods are not). -/
def Obj.isScalar : Obj → Bool
  | .plain _ | .fixed _ => true
  | _ => false

/-- The kinds that storage promotion distinguishes. -/
inductive Kind where
  | bool | int | uint | half | float | complex | text | object
deriving Repr, BEq, DecidableEq, Inhabited

/-- The promotion kind of a type: classes of numbers count as their storage, texts as text,
every other class as mixed. -/
def Ty.kind : Ty → Kind
  | .dtype .bool => .bool
  | .dtype .int64 => .int
  | .dtype .uint64 => .uint
  | .dtype .float64 => .float
  | .dtype .object => .object
  | .dtype .complex128 => .complex
  | .dtype .float16 => .half
  | .cls "complex" => .complex
  | .cls "bool" | .cls "numpy.bool" => .bool
  | .cls "int" | .cls "numpy.int64" => .int
  | .cls "float" | .cls "numpy.float64" => .float
  | .cls "numpy.float16" => .half
  | .cls "str" => .text
  | .cls _ => .object

/-- The promotion of two kinds: mixed values absorb everything, texts absorb numbers (as the
numeric library's promotion of strings with numbers gives a string type), and numbers widen.
Half-precision floats hold truth values, but integers only meet them in doubles. -/
def Kind.join : Kind → Kind → Kind
  | .object, _ | _, .object => .object
  | .text, _ | _, .text => .text
  | .complex, _ | _, .complex => .complex
  | .float, _ | _, .float => .float
  | .half, .int | .int, .half | .half, .uint | .uint, .half => .float
  | .half, _ | _, .half => .half
  | .uint, .int | .int, .uint => .float
  | .uint, _ | _, .uint => .uint
  | .int, _ | _, .int => .int
  | .bool, .bool => .bool

/-- The storage class name of a kind, as promotion errors name it. -/
def Kind.storageName : Kind → String
  | .bool => "BoolDType"
  | .int => "Int64DType"
  | .uint => "UInt64DType"
  | .half => "Float16DType"
  | .float => "Float64DType"
  | .complex => "Complex128DType"
  | .text => "StrDType"
  | .object => "ObjectDType"

/-- The promotion of a list of types; no types promote to mixed values. -/
def promoteKinds : List Kind → Kind
  | [] => .object
  | k :: rest => rest.foldl Kind.join k

/-- Whether a type is numeric (truth values and complex numbers included). -/
def Ty.isNumeric (t : Ty) : Bool :=
  match t.kind with
  | .bool | .int | .uint | .half | .float | .complex => true
  | _ => false

/-- Whether a type is a truth-value type. -/
def Ty.isBool (t : Ty) : Bool := t.kind == .bool

/-- Whether a type is the mixed storage kind itself (not merely a class). -/
def Ty.isObjectDType : Ty → Bool
  | .dtype .object => true
  | _ => false

end Dataflow.Eval
