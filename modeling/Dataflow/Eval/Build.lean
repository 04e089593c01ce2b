import Dataflow.Eval.Tree
import Dataflow.Eval.Locate
import Dataflow.Expr.Syntax
import Dataflow.Number.Parse
/-!
# Building operation trees

Turns a syntax tree into an operation tree over the columns of a table. Names read the
table's columns (and `index` its row labels); `inf` is infinity. Calls of unknown names are
calls of the mathematical functions; calls of attributes are method calls, made at once.

While the tree is built, each operation is checked against the types of its operands:
logical operations with a scalar need truth values on both sides; division needs numbers on
both sides and turns every leaf below it into floats — and a column read from the table
stays a float column for the rest of the expression; an operation whose type is mixed
values is refused unless all its leaves are mixed values. Membership tests, and operations
with an operand of mixed values, are computed at once. Comparing with `==` or `!=` against a
text or a list is a membership test. Syntax the evaluator does not take is refused by the
name of its node.

Calls are made as the tree is built, and some of them write files: a column's `to_csv` and
`to_json` write the path given as `path_or_buf`, and `to_pickle` the path given as `path`. The
scope keeps the files that exist, named by the texts that name them; the files are kept when a
later part of the expression fails, as the writes have happened by then. An exclusive creation
(`to_csv` with a `mode` holding `x`) of a file that exists fails. The model takes every named
file as writable, and two texts as two files.
-/

namespace Dataflow.Eval

open Dataflow.Expr

/-- What names mean while a tree is built: the variables in lookup order, and the row labels
of the table; and the files that exist. -/
structure Scope where
  vars : List (String × Obj)
  rowLabels : Column
  /-- the files that exist, by the texts that name them -/
  files : List String

/-- Building a tree: it reads and updates the scope and may fail; a failure keeps the scope it
leaves, the files written before it among them. -/
abbrev Build := ExceptT Failure (StateM Scope)

/-- Fails while building. -/
def refuse {α : Type} (kind : FailureKind) (message : String) : Build α :=
  throw ⟨kind, message⟩

/-- Lifts a computation that may fail. -/
def liftOutcome {α : Type} (o : Outcome α) : Build α :=
  match o with
  | .ok a => pure a
  | .error f => throw f

/-- Replaces the first variable of a name. -/
def replaceVar (vars : List (String × Obj)) (name : String) (v : Obj) : List (String × Obj) :=
  match vars with
  | [] => []
  | (k, w) :: rest => if k == name then (k, v) :: rest else (k, w) :: replaceVar rest name v

/-! ### Casting to floats -/

/-- A value as floats, as division makes its operands. -/
def castFloat (v : Obj) : Outcome Obj :=
  let bad (s : String) : Failure := ⟨.value, s!"could not convert string to float: {Text.quoteText s}"⟩
  let cellFloat (c : Cell) : Outcome Float :=
    match c with
    | .str s => match Decimal.readFloat s with
      | some f => .ok f
      | none => .error (bad s)
    | .float f => .ok f
    | .none => .ok (0.0 / 0.0)
    | c => match c.asInt? with
      | some i => toFloatChecked i
      | none => .ok (0.0 / 0.0)
  let castColumn (c : Column) : Outcome Column :=
    match c with
    | .float64 _ => .ok c
    | .object vs => (vs.mapM cellFloat).map .float64
    | c => .ok (.float64 c.floats)
  match v with
  | .series c => (castColumn c).map .series
  | .labelled s => (castColumn s.values).map fun c => .labelled { s with values := c }
  | .fixed (.float64 _) => .ok v
  | .fixed x => .ok (.fixed (.float64 ((Column.object #[x.cell]).floats.getD 0 0.0)))
  | .plain .none => typeError "float() argument must be a string or a (real) number, not 'NoneType'"
  | .plain (.complex _ _) => typeError "float() argument must be a string or a real number, not 'complex'"
  | .plain c => (cellFloat c).map fun f => .fixed (.float64 f)
  | o => typeError s!"float() argument must be a string or a real number, not '{o.className}'"

/-- Whether a value is already of float type. -/
def Obj.isFloatTyped : Obj → Bool
  | .series (.float64 _) | .fixed (.float64 _) | .labelled ⟨.float64 _, _, _⟩ => true
  | _ => false

mutual

/-- Makes every leaf of a tree floats; variables read from the table are updated too. -/
def castLeaves : Node → Build Node
  | .term key v =>
    if v.isFloatTyped then pure (.term key v)
    else do
      let w ← liftOutcome (castFloat v)
      match key with
      | some k => modify fun s => { s with vars := replaceVar s.vars k w }
      | none => pure ()
      pure (.term key w)
  | .binary op l r => do
    let l ← castLeaves l
    let r ← castLeaves r
    pure (.binary op l r)
  | .unary op a => do pure (.unary op (← castLeaves a))
  | .call fn args => do pure (.call fn (← castAll args))

/-- Makes every leaf of a list of trees floats. -/
def castAll : List Node → Build (List Node)
  | [] => pure []
  | n :: rest => do
    let n ← castLeaves n
    pure (n :: (← castAll rest))

end

/-! ### Combining operands -/

/-- Makes a binary operation from two operand trees, with the checks of its construction:
logical operations with a scalar need truth values, division needs numbers and casts its
leaves, and a mixed-value type needs mixed values at every leaf. Membership tests and
operations on mixed values are evaluated at once. -/
def combine (op : BinSym) (lhs rhs : Node) : Build Node := do
  let rt ← liftOutcome rhs.returnType
  let lt ← liftOutcome lhs.returnType
  if (lhs.isScalar || rhs.isScalar) && (op == .and || op == .or) && !(rt.isBool && lt.isBool) then
    refuse .notImplemented "cannot evaluate scalar only bool ops"
  let node ← if op == .arith .div then do
      if !lt.isNumeric || !rt.isNumeric then
        refuse .type s!"unsupported operand type(s) for /: '{lt.text}' and '{rt.text}'"
      castLeaves (.binary op lhs rhs)
    else pure (.binary op lhs rhs)
  let (lhs, rhs) := match node with
    | .binary _ l r => (l, r)
    | _ => (lhs, rhs)
  let resTy ← liftOutcome node.returnType
  if resTy.isObjectDType && !(node.leaves.all fun v => v.ty.isObjectDType) then
    let a ← liftOutcome lhs.typeText
    let b ← liftOutcome rhs.typeText
    refuse .type s!"unsupported operand type(s) for {op.text}: '{a}' and '{b}'"
  if op == .memberIn || op == .memberNotIn then
    return .term none (← liftOutcome (node.eval (← get).rowLabels))
  let lt ← liftOutcome lhs.returnType
  let rt ← liftOutcome rhs.returnType
  if lt.isObjectDType || rt.isObjectDType then
    return .term none (← liftOutcome (node.eval (← get).rowLabels))
  return node

/-- The message for syntax the evaluator does not take, by the name of its node: some are
refused explicitly, the others have no handler at all. -/
def unsupportedNode (name : String) : Failure :=
  let refused := ["Lambda", "IfExp", "Dict", "Set", "GeneratorExp", "DictComp", "SetComp",
    "Yield", "Is", "IsNot", "Await"]
  if refused.contains name && name != "Await" then ⟨.notImplemented, s!"'{name}' nodes are not implemented"⟩
  else ⟨.attribute, s!"'PandasExprVisitor' object has no attribute 'visit_{name}'"⟩

/-- The node name of a comparison operator the evaluator refuses, if it refuses it. -/
def refusedCompare : CmpOp → Option String
  | .is => some "Is"
  | .isNot => some "IsNot"
  | _ => none

/-- The operation of a comparison operator. -/
def cmpSym : CmpOp → BinSym
  | .eq => .rel .eq | .ne => .rel .ne | .lt => .rel .lt | .le => .rel .le | .gt => .rel .gt
  | .ge => .rel .ge | .isIn => .memberIn | .notIn => .memberNotIn
  | .is => .rel .eq | .isNot => .rel .ne

/-- The operation of an arithmetic operator, or the node name of one the evaluator lacks. -/
def arithSym : BinOp → Except String Arith
  | .add => .ok .add | .sub => .ok .sub | .mul => .ok .mul | .div => .ok .div
  | .floorDiv => .ok .floorDiv | .mod => .ok .mod | .pow => .ok .pow
  | .matMul => .error "MatMult" | .bitAnd => .error "BitAnd" | .bitOr => .error "BitOr"
  | .bitXor => .error "BitXor" | .shl => .error "LShift" | .shr => .error "RShift"

/-- Whether an integer key of a series is a position rather than a label: it is unless the
labels are inferred to be integers, floats, or mixed values among which are integers. -/
def positionalKeys (rowLabels : Column) : Bool :=
  match rowLabels.inferred with
  | .integer | .mixedInteger | .floating | .complex => false
  | _ => true

/-- The value at a label of a series, an item of a list, or a character of a text. An integer
key is a position when the labels are not numbers (`positionalKeys`). -/
def subscriptValue (rowLabels : Column) (v key : Obj) : Outcome Obj :=
  let whole : Labelled := match v with
    | .labelled s => s
    | .series c => ⟨c, .rows, .none⟩
    | _ => ⟨.object #[], .array, .none⟩
  let (rowLabels, v) : Column × Obj := match v with
    | .labelled ⟨c, .rows, _⟩ => (rowLabels, .series c)
    | .labelled ⟨c, .labels l, _⟩ => (l, .series c)
    | v => (rowLabels, v)
  let keyText := match key.cell? with
    | some c => c.repr
    | none => key.className
  match v, key.cell? with
  | .indexer how s, _ => locateIn rowLabels how s key
  | .labelled ⟨c, .array, _⟩, some k => match k.asInt? with
    | some i =>
      let j := if i < 0 then i + c.size else i
      if 0 ≤ j && j < c.size then .ok (columnItem c j.toNat)
      else fail .index s!"index {i} is out of bounds for axis 0 with size {c.size}"
    | none => fail .index "only integers, slices (`:`), ellipsis (`...`), numpy.newaxis (`None`) and integer or boolean arrays are valid indices"
  | .labelled ⟨c, .array, _⟩, none => arrayItems c key
  | .textMethods s, _ => textItems s key
  | .series c, some (.int i) =>
    if positionalKeys rowLabels then
      let j := if i < 0 then i + c.size else i
      if 0 ≤ j && j < c.size then .ok (columnItem c j.toNat)
      else fail .index s!"index {i} is out of bounds for axis 0 with size {c.size}"
    else match labelPosition rowLabels (.int i) with
      | some j => .ok (columnItem c j)
      | none => fail .key keyText
  | .series c, some k =>
    match labelPosition rowLabels k with
    | some i => .ok (columnItem c i)
    | none => fail .key keyText
  | .series _, none => seriesItems rowLabels whole key (positionalKeys rowLabels)
  | .list items, some k => match k.asInt? with
    | some i =>
      let j := if i < 0 then i + items.length else i
      if 0 ≤ j && j < items.length then .ok (items.getD j.toNat (.plain .none))
      else fail .index "list index out of range"
    | none => typeError s!"list indices must be integers or slices, not {k.typeName}"
  | .list _, none => typeError s!"list indices must be integers or slices, not {key.typeName}"
  | .plain (.str s), some k => match k.asInt? with
    | some i =>
      let j := if i < 0 then i + s.length else i
      if 0 ≤ j && j < s.length then .ok (.plain (.str (String.singleton (s.toList.getD j.toNat ' '))))
      else fail .index "string index out of range"
    | none => typeError s!"string indices must be integers, not '{k.typeName}'"
  | .plain (.str _), none => typeError s!"string indices must be integers, not '{key.typeName}'"
  | o, _ => typeError s!"'{o.className}' object is not subscriptable"

/-! ### Files written by calls -/

/-- The file a call of a column's method writes, with whether it must not exist yet: `to_csv`
and `to_json` write the path given as `path_or_buf` (created exclusively when the `mode` of
`to_csv` holds `x`), and `to_pickle` the path given as `path`. Only a text names a file. -/
def writtenFile (f : Obj) (args : List Obj) (named : List (String × Obj)) :
    Option (String × Bool) :=
  match f with
  | .method s name =>
    if s.isArray then none
    else match furtherSignature name with
      | none => none
      | some sig => match sig.bind args named with
        | .error _ => none
        | .ok b =>
          let mode := match b.getD "mode" (.plain (.str "w")) with
            | .plain (.str m) => m
            | _ => "w"
          let path := if name == "to_pickle" then b.getD "path" noneObj
            else b.getD "path_or_buf" noneObj
          match path with
          | .plain (.str p) =>
            if name == "to_csv" then some (p, mode.contains 'x')
            else if name == "to_json" || name == "to_pickle" then some (p, false)
            else none
          | _ => none
  | _ => none

/-- Makes a file exist: it is created, or written over; an exclusive creation of a file that
exists fails. -/
def createFile : Option (String × Bool) → Build Unit
  | none => pure ()
  | some (path, exclusive) => do
    let files := (← get).files
    if files.contains path then
      if exclusive then refuse .os s!"[Errno 17] File exists: {Text.quoteText path}"
    else modify fun s => { s with files := files ++ [path] }

/-! ### The visitor -/

/-- The value of a name: `inf` and `Inf` are infinity; other names are variables. -/
def visitName (id : String) : Build Node := do
  if id == "inf" || id == "Inf" then return .term none (.plain (.float (1.0 / 0.0)))
  match (← get).vars.lookup id with
  | some v => return .term (some id) v
  | none => refuse .undefined s!"name '{id}' is not defined"

/-- Whether a name is defined. -/
def isDefined (id : String) : Build Bool := do
  return id == "inf" || id == "Inf" || ((← get).vars.lookup id).isSome

mutual

/-- Builds the tree of an expression. -/
def visit : Nat → Ast → Build Node
  | 0, _ => refuse .value "expression too deeply nested"
  | n + 1, e =>
    match e with
    | .name id => visitName id
    | .int v => pure (.term none (.plain (.int v)))
    | .float f => pure (.term none (.plain (.float f)))
    | .str s => pure (.term none (.plain (.str s)))
    | .bytes s => pure (.term none (.plain (.bytes s)))
    | .bool b => pure (.term none (.plain (.bool b)))
    | .none => pure (.term none (.plain .none))
    | .ellipsis => pure (.term none .ellipsis)
    | .imag v => pure (.term none (.plain (.complex 0.0 v)))
    | .list items | .tuple items => do pure (.term none (.list (← valuesOf n items)))
    | .attr obj field => visitAttr n obj field
    | .call fn args named => visitCall n fn args named
    | .subscript obj index => do
      let base ← visit n obj
      let key ← match index with
        | .slice lo hi step => do
          for bound in [lo, hi, step] do
            if let some e := bound then
              let node ← visit n e
              let _ ← liftOutcome node.value?
          refuse .value "\"slice\" is not a supported function"
        | i => do liftOutcome ((← visit n i).eval (← get).rowLabels)
      let v ← liftOutcome (base.eval (← get).rowLabels)
      let rows := (← get).rowLabels
      pure (.term none (← liftOutcome (subscriptValue rows v key)))
    | .slice _ _ _ => throw (unsupportedNode "Slice")
    | .binary op l r => do
      let lhs ← visit n l
      let rhs ← visit n r
      match arithSym op with
      | .ok a => combine (.arith a) lhs rhs
      | .error name => throw (unsupportedNode name)
    | .unary op a => do
      let arg ← visit n a
      let sym := match op with
        | .neg => UnSym.neg
        | .pos => .pos
        | .invert | .not => .invert
      pure (.unary sym arg)
    | .logic op args =>
      match args with
      | [] => refuse .value "empty logical operation"
      | first :: rest => do
        let start ← visit n first
        logicTail n (if op == .and then .and else .or) start rest
    | .compare first rest =>
      match rest with
      | [(op, comp)] => visitCompare n first op comp
      | _ => do
        let nodes ← chain n first rest
        match nodes with
        | [] => refuse .value "empty comparison"
        | f :: more => more.foldlM (fun acc x => combine .and acc x) f
    | .other node => throw (unsupportedNode node)

/-- Builds the remaining operands of a logical operation and combines them left to right. -/
def logicTail : Nat → BinSym → Node → List Ast → Build Node
  | 0, _, acc, _ => pure acc
  | _ + 1, _, acc, [] => pure acc
  | n + 1, op, acc, e :: rest => do
    let rhs ← visit n e
    let acc ← combine op acc rhs
    logicTail n op acc rest

/-- Builds each comparison of a chain, every comparator compared with the one before. -/
def chain : Nat → Ast → List (CmpOp × Ast) → Build (List Node)
  | 0, _, _ => pure []
  | _ + 1, _, [] => pure []
  | n + 1, left, (op, comp) :: rest => do
    let node ← visitCompare n left op comp
    let more ← chain n comp rest
    pure (node :: more)

/-- Builds one comparison. Equality with a text or a list is membership, the text made a
list of one. -/
def visitCompare : Nat → Ast → CmpOp → Ast → Build Node
  | 0, _, _, _ => refuse .value "expression too deeply nested"
  | n + 1, l, op, r => do
    let lhs ← visit n l
    let rhs ← visit n r
    let (op, lhs, rhs) : CmpOp × Node × Node :=
      match lhs, rhs with
      | .term _ a, .term _ b =>
        let special (o : Obj) := match o with
          | .list _ | .plain (.str _) => true
          | _ => false
        let asList (nd : Node) (o : Obj) : Node := match o with
          | .plain (.str s) => .term none (.list [.plain (.str s)])
          | _ => nd
        if op == .eq || op == .ne || op == .isIn || op == .notIn then
          let op := if special a || special b then
              (if op == .eq || op == .isIn then CmpOp.isIn else .notIn)
            else op
          (op, asList lhs a, asList rhs b)
        else (op, lhs, rhs)
      | _, _ => (op, lhs, rhs)
    match refusedCompare op with
    | some name => throw (unsupportedNode name)
    | none => combine (cmpSym op) lhs rhs

/-- Builds an attribute access: the attribute of the operand's value. When the operand is a
name that has no such attribute and the attribute is the name itself, the operand is the
result. -/
def visitAttr : Nat → Ast → String → Build Node
  | 0, _, _ => refuse .value "expression too deeply nested"
  | n + 1, obj, field => do
    let base ← visit n obj
    let v ← liftOutcome base.value?
    match getAttr (← get).rowLabels v field with
    | .ok r => pure (.term none r)
    | .error f =>
      match obj with
      | .name id => if id == field && f.kind == .attribute then pure base else throw f
      | _ => throw f

/-- Builds a call: of a method (called at once), of a mathematical function by an unknown
name, or of a value. -/
def visitCall : Nat → Ast → List Ast → List (Option String × Ast) → Build Node
  | 0, _, _, _ => refuse .value "expression too deeply nested"
  | n + 1, fn, args, named => do
    let callee ← match fn with
      | .attr obj field => do
        if field == "__call__" then pure none else pure (some (← visitAttr n obj field))
      | .name id => do
        if (← isDefined id) then pure (some (← visitName id))
        else if Eval.mathFunctions.contains id then pure none
        else refuse .value s!"\"{id}\" is not a supported function"
      | _ => refuse .type "Only named functions are supported"
    match callee, fn with
    | none, .name id => do
      let argNodes ← nodesOf n args
      if !named.isEmpty then
        refuse .type s!"Function \"{id}\" does not support keyword arguments"
      pure (.call id argNodes)
    | some node, _ => do
      let f ← liftOutcome node.value?
      let vs ← valuesOf n args
      let kws ← keywordValues n named
      let v ← liftOutcome (callValue (← get).rowLabels f vs kws)
      createFile (writtenFile f vs kws)
      pure (.term none v)
    | none, _ => refuse .type "Only named functions are supported"

/-- Builds trees for each expression. -/
def nodesOf : Nat → List Ast → Build (List Node)
  | 0, _ => pure []
  | _ + 1, [] => pure []
  | n + 1, e :: rest => do
    let node ← visit n e
    pure (node :: (← nodesOf n rest))

/-- Builds and evaluates each expression. -/
def valuesOf : Nat → List Ast → Build (List Obj)
  | 0, _ => pure []
  | _ + 1, [] => pure []
  | n + 1, e :: rest => do
    let v ← liftOutcome ((← visit n e).eval (← get).rowLabels)
    pure (v :: (← valuesOf n rest))

/-- Builds and evaluates named arguments; `**` arguments are left out. -/
def keywordValues : Nat → List (Option String × Ast) → Build (List (String × Obj))
  | 0, _ => pure []
  | _ + 1, [] => pure []
  | n + 1, (none, _) :: rest => keywordValues n rest
  | n + 1, (some k, e) :: rest => do
    let v ← liftOutcome ((← visit n e).eval (← get).rowLabels)
    pure ((k, v) :: (← keywordValues n rest))

end

end Dataflow.Eval
