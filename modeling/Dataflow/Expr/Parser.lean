import Dataflow.Expr.Peg
import Dataflow.Expr.Literal
/-!
# Parsing expressions

The expression grammar of Python as ordered choice over tokens: conditional and lambda
expressions, the connectives, comparisons, the bit and arithmetic operators by precedence,
power, await, attribute access, calls, subscripts and slices, every kind of atom and display,
comprehensions and their targets, and string literals with their formatted fields.

The alternatives of a rule are tried in order from the same place; the first that matches
gives the rule's result. Rules named `invalid…` match common mistakes. They take part only in
the second reading (`explaining`), with one exception: a dict display also tries
`invalidDoubleStarredKvpairs` on the first, as its entries are read.

`readTwice` is the reading of a whole text: a first pass, and when it misses, a second that
explains. The error of a text is, in order of precedence: an error of the scanner (wherever it
is), a bracket never closed that the reading ran into, an error an explaining rule raised, and
otherwise `invalid syntax` on the line of the furthest token the first pass fetched (or
`unexpected indent` when that token is an indentation). An error found on a later line than a
bracket still open is reported as that bracket never being closed.

Every grammar function takes a fuel argument that bounds its depth of calls; `parseLexed` gives
fuel in proportion to the size of the text, which no reading exhausts.
-/

namespace Dataflow.Expr

/-! ### Building nodes -/

/-- A tuple of items. -/
def tupleNode (items : List Node) (line : Nat) : Node :=
  .mk (.tuple (items.map Node.expr)) line items

/-- A list display of items. -/
def listNode (items : List Node) (line : Nat) : Node :=
  .mk (.list (items.map Node.expr)) line items

/-- A starred item. -/
def starredNode (value : Node) (line : Nat) : Node :=
  .mk (.other "Starred") line [value]

/-- A construct that evaluation does not take, by its node name. -/
def otherNode (kind : String) (line : Nat) : Node :=
  .leaf (.other kind) line

/-- An argument after the positional ones: a starred one, or a named one (no name for `**`),
with the line it starts on. -/
inductive LaterArg where
  | starred (value : Node)
  | named (key : Option String) (value : Node) (line : Nat)

/-- The argument list of a call, as a call of nothing: the positional arguments (those given
first, then the starred ones among the later) and the named ones. Its parts are the positional
arguments. -/
def argumentNode (positional : List Node) (later : List LaterArg) : Node :=
  let starreds := later.filterMap fun a => match a with
    | .starred s => some s
    | .named .. => none
  let named := later.filterMap fun a => match a with
    | .named key v _ => some (key, v.expr)
    | .starred _ => none
  let all := positional ++ starreds
  let line := match positional, later with
    | p :: _, _ => p.line
    | [], .starred s :: _ => s.line
    | [], .named _ _ l :: _ => l
    | [], [] => 1
  .mk (.call .none (all.map Node.expr) named) line all

/-- What follows a primary. -/
inductive Trailer where
  | attr (field : String)
  | call (args : List Ast) (named : List (Option String × Ast))
  | index (index : Ast)

/-- A primary with one more trailer. -/
def Trailer.apply (base : Node) : Trailer → Node
  | .attr field => .leaf (.attr base.expr field) base.line
  | .call args named => .leaf (.call base.expr args named) base.line
  | .index i => .leaf (.subscript base.expr i) base.line

/-- The trailer of a call with an argument list, if any. -/
def callTrailer : Option Node → Trailer
  | some a => match a.expr with
    | .call _ args named => .call args named
    | _ => .call [] []
  | none => .call [] []

/-- The identifier of a name node. -/
def nodeName (n : Node) : Option String :=
  match n.expr with
  | .name id => some id
  | _ => none

/-- The value of a number literal. -/
def numberValue (text : String) : Ast :=
  if text.endsWith "j" || text.endsWith "J" then .imag (floatLiteral (String.ofList text.toList.dropLast))
  else if isFloatLiteral text then .float (floatLiteral text)
  else .int (intLiteral text)

/-! ### Words for kinds of expression -/

/-- How messages name the kind of an expression. -/
def exprName : Ast → String
  | .name _ => "name"
  | .int _ | .float _ | .imag _ | .str _ | .bytes _ => "literal"
  | .bool true => "True"
  | .bool false => "False"
  | .none => "None"
  | .ellipsis => "ellipsis"
  | .list _ => "list"
  | .tuple _ => "tuple"
  | .attr .. => "attribute"
  | .call .. => "function call"
  | .subscript .. => "subscript"
  | .slice .. => "slice"
  | .binary .. | .unary .. | .logic .. => "expression"
  | .compare .. => "comparison"
  | .other kind =>
    match kind with
    | "Starred" => "starred"
    | "Lambda" => "lambda"
    | "IfExp" => "conditional expression"
    | "NamedExpr" => "named expression"
    | "GeneratorExp" => "generator expression"
    | "Yield" | "YieldFrom" => "yield expression"
    | "Await" => "await expression"
    | "ListComp" => "list comprehension"
    | "SetComp" => "set comprehension"
    | "DictComp" => "dict comprehension"
    | "Dict" => "dict literal"
    | "Set" => "set display"
    | "JoinedStr" => "f-string expression"
    | _ => "expression"

/-- Whether an expression is one of the names that were statements once (`print`, `exec`). -/
def isLegacy (e : Ast) : Bool :=
  match e with
  | .name id => id == "print" || id == "exec"
  | _ => false

mutual

/-- The first part of a loop target that cannot be assigned to: names, attributes and
subscripts can, lists and tuples can when their items can, a starred item when its operand
can, and a membership test stands for its left side. -/
def invalidTarget : Node → Option Node
  | .mk e line parts =>
    match e with
    | .list _ | .tuple _ => invalidTargetIn parts
    | .other "Starred" => invalidTargetIn parts
    | .compare _ ((.isIn, _) :: _) => invalidTargetIn parts
    | .compare .. => none
    | .name _ | .attr .. | .subscript .. => none
    | _ => some (.mk e line parts)

/-- The first invalid target among parts. -/
def invalidTargetIn : List Node → Option Node
  | [] => none
  | n :: rest =>
    match invalidTarget n with
    | some bad => some bad
    | none => invalidTargetIn rest

end

/-! ### String literals -/

/-- The decoded value of a literal that is not formatted. -/
def decodePart (bytes raw : Bool) (body : List Char) (line : Nat) : Peg (List Char) := do
  if bytes && body.any (·.toNat ≥ 128) then
    raise "bytes can only contain ASCII literal characters" line
  if raw then pure body
  else match decodeEscapes bytes body 0 [] with
    | .ok cs => pure cs
    | .error e => raiseHere e.message

/-- Where a run of string literals has got to: whether its parts are bytes, whether one was
formatted, and the text decoded so far. -/
structure Joined where
  bytes : Option Bool
  formatted : Bool
  text : List Char

/-- Reads the parts of a run of string literals in turn: each is decoded (or, when formatted,
scanned with its fields checked), after the check that bytes and text are not mixed. -/
def joinParts (check : Tok → FieldCheck) : Joined → List Tok → Peg Joined
  | acc, [] => pure acc
  | acc, t :: rest => do
    match t.kind with
    | .string flags _ _ body =>
      let f := flags.toLower
      let isBytes := f.contains 'b'
      let isRaw := f.contains 'r'
      let isFormatted := f.contains 'f'
      let decoded ← if isFormatted then pure [] else decodePart isBytes isRaw body t.line
      if acc.bytes.isSome && acc.bytes != some isBytes then
        raiseHere "cannot mix bytes and nonbytes literals"
      if isFormatted then
        let lead := if (← read).inField then "f-string: " else ""
        match scanFormatted (check t) isRaw lead (← lastLine) body with
        | .ok () => joinParts check { acc with bytes := some isBytes, formatted := true } rest
        | .error f => throwThe Halt (.grammar f)
      else joinParts check { acc with bytes := some isBytes, text := acc.text ++ decoded } rest
    | _ => joinParts check acc rest

/-- The value of a run of string literals. -/
def concatenate (check : Tok → FieldCheck) (parts : List Tok) : Peg Node := do
  let line := (parts.head?.map (·.line)).getD 1
  let j ← joinParts check ⟨none, false, []⟩ parts
  if j.formatted then pure (otherNode "JoinedStr" line)
  else if j.bytes == some true then pure (.leaf (.bytes (String.ofList j.text)) line)
  else pure (.leaf (.str (String.ofList j.text)) line)

/-! ### Reading a whole text -/

/-- The error a grammar error is finally reported as, once the rest of the text is scanned: an
error of the scanner further on stands instead, and so does a bracket left open when the last
token fetched is on a later line than the bracket. An error that a rule raised (`raised`) is
kept when the scan had already read past the end of the text, as nothing is scanned then. -/
def settle (src : Source) (fill : Nat) (raised : Bool) (f : Fault) : Fault :=
  let unclosed (b : Char) (l : Nat) : Fault :=
    if src.lineAt (fill - 1) > l then ⟨s!"'{b}' was never closed", l⟩ else f
  match src.stop with
  | .failure e => ⟨e.message, e.line⟩
  | .openBracket b l readToEnd =>
    if raised && readToEnd && fill ≥ src.toks.size then f else unclosed b l
  | .broken _ (some (b, l)) => unclosed b l
  | .broken _ none | .complete => f

/-- Reads scanned tokens with a start rule in up to two passes (see the module notes): the
result, or the error of the text. `inField` marks the text of a field of a formatted literal. -/
def readTwice (rule : Peg Node) (lexed : Lexed) (inField : Bool) : Except Fault Node :=
  let toks := lexed.toks
  let src : Source := ⟨toks, bracketDepths toks, lexed.stop, false, inField⟩
  let fresh (fill : Nat) : Cursor := ⟨0, fill, Array.replicate (toks.size + 1) []⟩
  let lead := if inField then "f-string: " else ""
  match rule.exec src (fresh 0) with
  | (.ok (some node), _) => .ok node
  | (.error (.scanner f), _) => .error f
  | (.error (.grammar f), c) => .error (settle src c.fill true f)
  | (.ok none, first) =>
    let last := first.fill - 1
    match rule.exec { src with explain := true } (fresh first.fill) with
    | (.error (.scanner f), _) => .error f
    | (.error (.grammar f), c) => .error (settle src c.fill true f)
    | (.ok _, c) =>
      match toks[last]? with
      | some ⟨.indent, l⟩ => .error ⟨lead ++ "unexpected indent", l⟩
      | _ => .error (settle src c.fill false ⟨lead ++ "invalid syntax", src.lineAt last⟩)

/-! ### Lambda parameters

These rules take the parser of a default value (`= expression`) as an argument, which is all
they need of the rest of the grammar. -/

/-- A parameter without default, before a comma or the colon. -/
def paramNoDefault : Peg Node :=
  orElse (do let a ← plainName; let _ ← op ","; pure a)
    (do let a ← plainName; ahead (op ":"); pure a)

/-- A parameter with a default, before a comma or the colon. -/
def paramWithDefault (dflt : Peg Unit) : Peg Unit :=
  orElse (do let _ ← plainName; dflt; skip (op ","))
    (do let _ ← plainName; dflt; ahead (op ":"))

/-- A parameter with or without a default, before a comma or the colon. -/
def paramMaybeDefault (dflt : Peg Unit) : Peg Unit :=
  orElse (do let _ ← plainName; let _ ← attempt dflt; skip (op ","))
    (do let _ ← plainName; let _ ← attempt dflt; ahead (op ":"))

/-- Positional-only parameters without defaults, ended by `/`. -/
def slashNoDefault : Peg Unit :=
  orElse (do let _ ← many1 paramNoDefault; let _ ← op "/"; skip (op ","))
    (do let _ ← many1 paramNoDefault; let _ ← op "/"; ahead (op ":"))

/-- Positional-only parameters, some with defaults, ended by `/`. -/
def slashWithDefault (dflt : Peg Unit) : Peg Unit :=
  orElse
    (do let _ ← many paramNoDefault; let _ ← many1 (paramWithDefault dflt); let _ ← op "/"
        skip (op ","))
    (do let _ ← many paramNoDefault; let _ ← many1 (paramWithDefault dflt); let _ ← op "/"
        ahead (op ":"))

/-- Mistakes in a `**` parameter. -/
def invalidLambdaKwds : Peg Unit :=
  first [
    (do let _ ← op "**"; let _ ← plainName; let t ← op "="
        raise "var-keyword argument cannot have default value" t.line),
    (do let _ ← op "**"; let _ ← plainName; let _ ← op ","; let a ← plainName
        raise "arguments cannot follow var-keyword argument" a.line),
    (do let _ ← op "**"; let _ ← plainName; let _ ← op ","
        let t ← first [op "*", op "**", op "/"]
        raise "arguments cannot follow var-keyword argument" t.line)]

/-- The `**` parameter. -/
def lambdaKwds : Peg Unit :=
  orElse (explaining invalidLambdaKwds) (do let _ ← op "**"; skip paramNoDefault)

/-- Mistakes after a `*` parameter. -/
def invalidLambdaStarEtc (dflt : Peg Unit) : Peg Unit :=
  first [
    (do let _ ← op "*"; let _ ← orElse (op ":") (do let _ ← op ","; orElse (op ":") (op "**"))
        raiseHere "named arguments must follow bare *"),
    (do let _ ← op "*"; let _ ← plainName; let t ← op "="
        raise "var-positional argument cannot have default value" t.line),
    (do let _ ← op "*"; orElse (skip paramNoDefault) (skip (op ","))
        let _ ← many (paramMaybeDefault dflt); let t ← op "*"
        orElse (skip paramNoDefault) (skip (op ","))
        raise "* argument may appear only once" t.line)]

/-- The `*` parameter or bare `*`, the keyword-only parameters, and the `**` parameter. -/
def lambdaStarEtc (dflt : Peg Unit) : Peg Unit :=
  first [
    explaining (invalidLambdaStarEtc dflt),
    (do let _ ← op "*"; let _ ← paramNoDefault; let _ ← many (paramMaybeDefault dflt)
        skip (attempt lambdaKwds)),
    (do let _ ← op "*"; let _ ← op ","; let _ ← many1 (paramMaybeDefault dflt)
        skip (attempt lambdaKwds)),
    lambdaKwds]

/-- The parameters of a lambda. -/
def lambdaParameters (dflt : Peg Unit) : Peg Unit :=
  first [
    (do slashNoDefault; let _ ← many paramNoDefault; let _ ← many (paramWithDefault dflt)
        skip (attempt (lambdaStarEtc dflt))),
    (do slashWithDefault dflt; let _ ← many (paramWithDefault dflt)
        skip (attempt (lambdaStarEtc dflt))),
    (do let _ ← many1 paramNoDefault; let _ ← many (paramWithDefault dflt)
        skip (attempt (lambdaStarEtc dflt))),
    (do let _ ← many1 (paramWithDefault dflt); skip (attempt (lambdaStarEtc dflt))),
    lambdaStarEtc dflt]

/-- Mistakes in the parameters of a lambda. -/
def invalidLambdaParameters (dflt : Peg Unit) : Peg Unit :=
  first [
    (do let _ ← many paramNoDefault
        orElse (slashWithDefault dflt) (skip (many1 (paramWithDefault dflt)))
        let a ← paramNoDefault
        raise "non-default argument follows default argument" a.line),
    (do let _ ← many paramNoDefault; let t ← op "("; let _ ← gather (op ",") plainName
        let _ ← attempt (op ","); let _ ← op ")"
        raise "Lambda expression parameters cannot be parenthesized" t.line),
    (do let t ← op "/"; let _ ← op ","
        raise "at least one argument must precede /" t.line),
    (do orElse slashNoDefault (slashWithDefault dflt); let _ ← many (paramMaybeDefault dflt)
        let t ← op "/"
        raise "/ may appear only once" t.line),
    (do let _ ← attempt (orElse slashNoDefault (slashWithDefault dflt))
        let _ ← many (paramMaybeDefault dflt); let _ ← op "*"
        orElse (skip (op ",")) (skip paramNoDefault)
        let _ ← many (paramMaybeDefault dflt); let t ← op "/"
        raise "/ must be ahead of *" t.line),
    (do let _ ← many1 (paramMaybeDefault dflt); let _ ← op "/"; let t ← op "*"
        raise "expected comma between / and *" t.line)]

/-- A left-associated chain of operands joined by the given operators. -/
def chain (ops : List (String × BinOp)) (operand : Peg Node) : Peg Node := do
  let a ← operand
  let rest ← many (do
    let t ← peek
    match t.kind with
    | .op s =>
      match ops.lookup s with
      | some o =>
        advance
        let b ← operand
        pure (o, b)
      | none => failure
    | _ => failure)
  pure (rest.foldl (fun acc (o, b) => .leaf (.binary o acc.expr b.expr) a.line) a)

/-- One of the tokens a target's primary may go on with. -/
def targetLookahead : Peg Unit :=
  first [skip (op "("), skip (op "["), skip (op ".")]

/-! ### The grammar -/

mutual

/-- `expressions`: an expression, or a tuple of them. -/
def expressions : Nat → Peg Node
  | 0 => failure
  | n + 1 => do
    let a ← expression n
    let more ← many (do let _ ← op ","; expression n)
    if more.isEmpty then
      match ← attempt (op ",") with
      | some _ => pure (tupleNode [a] a.line)
      | none => pure a
    else
      let _ ← attempt (op ",")
      pure (tupleNode (a :: more) a.line)

/-- `expression`: a conditional expression, a disjunction or a lambda. -/
def expression : Nat → Peg Node
  | 0 => failure
  | n + 1 => remember .expression (first [
      explaining (invalidExpression n),
      explaining (invalidLegacyExpression n),
      conditional n,
      disjunction n,
      lambdef n])

/-- An expression read with the rules that explain errors switched off. -/
def expressionWithoutInvalid : Nat → Peg Node
  | 0 => failure
  | n + 1 => quietly (first [conditional n, disjunction n, lambdef n])

/-- `a if b else c`. -/
def conditional : Nat → Peg Node
  | 0 => failure
  | n + 1 => do
    let a ← disjunction n
    let _ ← kw "if"
    let _ ← disjunction n
    let _ ← kw "else"
    let _ ← expression n
    pure (otherNode "IfExp" a.line)

/-- Two expressions side by side within brackets (a missing comma), or `if` without `else`. -/
def invalidExpression : Nat → Peg Node
  | 0 => failure
  | n + 1 =>
    commit
      (do notAhead (orElse (do let _ ← plainName; skip stringTok) (skip softKeyword))
          let a ← disjunction n
          let _ ← expressionWithoutInvalid n
          pure a)
      (fun a => do
        if isLegacy a.expr then failure
        else if (← depthBefore) == 0 then failure
        else raise "invalid syntax. Perhaps you forgot a comma?" a.line)
      (do let a ← disjunction n
          let _ ← kw "if"
          let _ ← disjunction n
          notAhead (orElse (kw "else") (op ":"))
          raise "expected 'else' after 'if' expression" a.line)

/-- `print x` and `exec x`, which were statements once. -/
def invalidLegacyExpression : Nat → Peg Node
  | 0 => failure
  | n + 1 => do
    let a ← plainName
    notAhead (op "(")
    let _ ← starExpressions n
    match nodeName a with
    | some id =>
      if isLegacy a.expr then
        raise s!"Missing parentheses in call to '{id}'. Did you mean {id}(...)?" a.line
      else failure
    | none => failure

/-- `a or b or ...`. -/
def disjunction : Nat → Peg Node
  | 0 => failure
  | n + 1 => remember .disjunction do
    let a ← conjunction n
    let more ← many (do let _ ← kw "or"; conjunction n)
    if more.isEmpty then pure a
    else pure (.leaf (.logic .or ((a :: more).map Node.expr)) a.line)

/-- `a and b and ...`. -/
def conjunction : Nat → Peg Node
  | 0 => failure
  | n + 1 => remember .conjunction do
    let a ← inversion n
    let more ← many (do let _ ← kw "and"; inversion n)
    if more.isEmpty then pure a
    else pure (.leaf (.logic .and ((a :: more).map Node.expr)) a.line)

/-- `not a`. -/
def inversion : Nat → Peg Node
  | 0 => failure
  | n + 1 => remember .inversion (orElse
      (do let t ← kw "not"; let a ← inversion n; pure (.leaf (.unary .not a.expr) t.line))
      (comparison n))

/-- A chain of comparisons. -/
def comparison : Nat → Peg Node
  | 0 => failure
  | n + 1 => do
    let a ← bitOr n
    let pairs ← many (comparePair n)
    if pairs.isEmpty then pure a
    else pure (.mk (.compare a.expr (pairs.map fun (o, b) => (o, b.expr))) a.line [a])

/-- A comparison operator and its right operand. -/
def comparePair : Nat → Peg (CmpOp × Node)
  | 0 => failure
  | n + 1 =>
    let single (s : String) (o : CmpOp) : Peg (CmpOp × Node) := do
      let _ ← op s
      pure (o, ← bitOr n)
    first [single "==" .eq, single "!=" .ne, single "<=" .le, single "<" .lt, single ">=" .ge,
      single ">" .gt,
      (do let _ ← kw "not"; let _ ← kw "in"; pure (.notIn, ← bitOr n)),
      (do let _ ← kw "in"; pure (.isIn, ← bitOr n)),
      (do let _ ← kw "is"; let _ ← kw "not"; pure (.isNot, ← bitOr n)),
      (do let _ ← kw "is"; pure (.is, ← bitOr n))]

/-- `|`. -/
def bitOr : Nat → Peg Node
  | 0 => failure
  | n + 1 => remember .bitOr (chain [("|", .bitOr)] (bitXor n))

/-- `^`. -/
def bitXor : Nat → Peg Node
  | 0 => failure
  | n + 1 => remember .bitXor (chain [("^", .bitXor)] (bitAnd n))

/-- `&`. -/
def bitAnd : Nat → Peg Node
  | 0 => failure
  | n + 1 => remember .bitAnd (chain [("&", .bitAnd)] (shiftLevel n))

/-- `<<` and `>>`. -/
def shiftLevel : Nat → Peg Node
  | 0 => failure
  | n + 1 => remember .shift (chain [("<<", .shl), (">>", .shr)] (sumLevel n))

/-- `+` and `-`. -/
def sumLevel : Nat → Peg Node
  | 0 => failure
  | n + 1 => remember .sum (chain [("+", .add), ("-", .sub)] (termLevel n))

/-- `*`, `/`, `//`, `%` and `@`. -/
def termLevel : Nat → Peg Node
  | 0 => failure
  | n + 1 => remember .term
      (chain [("*", .mul), ("/", .div), ("//", .floorDiv), ("%", .mod), ("@", .matMul)] (factor n))

/-- Unary `+`, `-` and `~`. -/
def factor : Nat → Peg Node
  | 0 => failure
  | n + 1 =>
    let prefixed (s : String) (u : UnOp) : Peg Node := do
      let t ← op s
      let a ← factor n
      pure (.leaf (.unary u a.expr) t.line)
    remember .factor (first [prefixed "+" .pos, prefixed "-" .neg, prefixed "~" .invert, power n])

/-- `a ** b`. -/
def power : Nat → Peg Node
  | 0 => failure
  | n + 1 => do
    let a ← awaitPrimary n
    match ← attempt (do let _ ← op "**"; factor n) with
    | some b => pure (.leaf (.binary .pow a.expr b.expr) a.line)
    | none => pure a

/-- `await a`. -/
def awaitPrimary : Nat → Peg Node
  | 0 => failure
  | n + 1 => remember .awaitPrimary (orElse
      (do let t ← kw "await"; let _ ← primary n; pure (otherNode "Await" t.line))
      (primary n))

/-- An atom with its trailers: attributes, calls and subscripts. -/
def primary : Nat → Peg Node
  | 0 => failure
  | n + 1 => remember .primary do
    let a ← atom n
    let steps ← many (first (trailers n))
    pure (steps.foldl Trailer.apply a)

/-- The trailers of a primary, in the order they are tried. -/
def trailers : Nat → List (Peg Trailer)
  | 0 => []
  | n + 1 => [
    (do let _ ← op "."; let b ← plainName; pure (.attr ((nodeName b).getD ""))),
    (do let g ← genexp n; pure (.call [g.expr] [])),
    (do let _ ← op "("; let a ← attempt (arguments n); let _ ← op ")"; pure (callTrailer a)),
    (do let _ ← op "["; let s ← slices n; let _ ← op "]"; pure (.index s.expr))]

/-- The subscript of a primary: a slice, or a tuple of slices and starred items. -/
def slices : Nat → Peg Node
  | 0 => failure
  | n + 1 => orElse
    (do let a ← slice n; notAhead (op ","); pure a)
    (do let items ← gather (op ",") (orElse (slice n) (starredExpression n))
        let _ ← attempt (op ",")
        pure (tupleNode items ((items.head?.map Node.line).getD 1)))

/-- `lo:hi:step`, or an expression. -/
def slice : Nat → Peg Node
  | 0 => failure
  | n + 1 => orElse
    (do let lo ← attempt (expression n)
        let t ← op ":"
        let hi ← attempt (expression n)
        let step ← attempt (do let _ ← op ":"; attempt (expression n))
        let line := (lo.map Node.line).getD t.line
        pure (.leaf (.slice (lo.map Node.expr) (hi.map Node.expr) ((step.bind id).map Node.expr)) line))
    (namedExpression n)

/-- Names, constants, literals, and bracketed forms. -/
def atom : Nat → Peg Node
  | 0 => failure
  | n + 1 => do
    let t ← peek
    match t.kind with
    | .name "True" =>
      advance
      pure (.leaf (.bool true) t.line)
    | .name "False" =>
      advance
      pure (.leaf (.bool false) t.line)
    | .name "None" =>
      advance
      pure (.leaf .none t.line)
    | .name _ => plainName
    | .string .. => strings n
    | .number text =>
      advance
      pure (.leaf (numberValue text) t.line)
    | .op "(" => first [tuple n, group n, genexp n]
    | .op "[" => first [list n, listcomp n]
    | .op "\x7b" => first [dict n, setDisplay n, dictcomp n, setcomp n]
    | .op "..." =>
      advance
      pure (.leaf .ellipsis t.line)
    | _ => failure

/-- A run of string literals. -/
def strings : Nat → Peg Node
  | 0 => failure
  | n + 1 => remember .strings do
    let parts ← many1 stringTok
    concatenate (fieldCheck n) parts

/-- Checks the expression of a field of the formatted literal `t`: it is read as the text of a
field (`(expression)`), on the lines where it stands. -/
def fieldCheck : Nat → Tok → List Char → Char → Nat → Except Fault Unit
  | 0, _, _, _, _ => .ok ()
  | n + 1, t, chars, _, place =>
    match t.kind with
    | .string _ _ _ body =>
      let above := ((body.take place).filter (· == '\n')).length
      let lexed := lexAt (t.line + above) (String.ofList ('(' :: chars ++ [')']))
      match readTwice (starExpressions n) lexed true with
      | .ok _ => .ok ()
      | .error f => .error f
    | _ => .ok ()

/-- `(a, b)`. -/
def tuple : Nat → Peg Node
  | 0 => failure
  | n + 1 => do
    let t ← op "("
    let items ← attempt (do
      let y ← starNamedExpression n
      let _ ← op ","
      let z ← attempt (starNamedExpressions n)
      pure (y :: z.getD []))
    let _ ← op ")"
    pure (tupleNode (items.getD []) t.line)

/-- `(a)`, `(yield a)`. -/
def group : Nat → Peg Node
  | 0 => failure
  | n + 1 => orElse
    (do let _ ← op "("; let a ← orElse (yieldExpr n) (namedExpression n); let _ ← op ")"; pure a)
    (explaining (invalidGroup n))

/-- A starred item alone in parentheses. -/
def invalidGroup : Nat → Peg Node
  | 0 => failure
  | n + 1 => orElse
    (do let _ ← op "("; let a ← starredExpression n; let _ ← op ")"
        raise "cannot use starred expression here" a.line)
    (do let _ ← op "("; let t ← op "**"; let _ ← expression n; let _ ← op ")"
        raise "cannot use double starred expression here" t.line)

/-- `(a for ...)`. -/
def genexp : Nat → Peg Node
  | 0 => failure
  | n + 1 => orElse
    (do let t ← op "("
        let _ ← orElse (assignmentExpression n) (do let a ← expression n; notAhead (op ":="); pure a)
        forIfClauses n
        let _ ← op ")"
        pure (otherNode "GeneratorExp" t.line))
    (explaining (invalidComprehension n))

/-- `[a, b]`. -/
def list : Nat → Peg Node
  | 0 => failure
  | n + 1 => do
    let t ← op "["
    let items ← attempt (starNamedExpressions n)
    let _ ← op "]"
    pure (listNode (items.getD []) t.line)

/-- `[a for ...]`. -/
def listcomp : Nat → Peg Node
  | 0 => failure
  | n + 1 => orElse
    (do let t ← op "["; let _ ← namedExpression n; forIfClauses n; let _ ← op "]"
        pure (otherNode "ListComp" t.line))
    (explaining (invalidComprehension n))

/-- `{a, b}`. -/
def setDisplay : Nat → Peg Node
  | 0 => failure
  | n + 1 => do
    let t ← op "\x7b"
    let _ ← starNamedExpressions n
    let _ ← op "\x7d"
    pure (otherNode "Set" t.line)

/-- `{a for ...}`. -/
def setcomp : Nat → Peg Node
  | 0 => failure
  | n + 1 => orElse
    (do let t ← op "\x7b"; let _ ← namedExpression n; forIfClauses n; let _ ← op "\x7d"
        pure (otherNode "SetComp" t.line))
    (explaining (invalidComprehension n))

/-- `{a: b, **c}`; its second alternative reads the mistakes in the entries on both passes. -/
def dict : Nat → Peg Node
  | 0 => failure
  | n + 1 => orElse
    (do let t ← op "\x7b"; let _ ← attempt (doubleStarredKvpairs n); let _ ← op "\x7d"
        pure (otherNode "Dict" t.line))
    (do let _ ← op "\x7b"; invalidDoubleStarredKvpairs n; failure)

/-- `{a: b for ...}`. -/
def dictcomp : Nat → Peg Node
  | 0 => failure
  | n + 1 => orElse
    (do let t ← op "\x7b"; kvpair n; forIfClauses n; let _ ← op "\x7d"
        pure (otherNode "DictComp" t.line))
    (explaining (invalidDictComprehension n))

/-- The entries of a dict display. -/
def doubleStarredKvpairs : Nat → Peg Unit
  | 0 => failure
  | n + 1 => do
    let _ ← gather (op ",") (doubleStarredKvpair n)
    skip (attempt (op ","))

/-- `**a` or `a: b`. -/
def doubleStarredKvpair : Nat → Peg Unit
  | 0 => failure
  | n + 1 => orElse (do let _ ← op "**"; skip (bitOr n)) (kvpair n)

/-- `a: b`. -/
def kvpair : Nat → Peg Unit
  | 0 => failure
  | n + 1 => do
    let _ ← expression n
    let _ ← op ":"
    skip (expression n)

/-- Mistakes in the entries of a dict display. -/
def invalidDoubleStarredKvpairs : Nat → Peg Unit
  | 0 => failure
  | n + 1 => first [
    (do let _ ← gather (op ",") (doubleStarredKvpair n); let _ ← op ","; invalidKvpair n),
    (do let _ ← expression n; let _ ← op ":"; let t ← op "*"; let _ ← bitOr n
        raise "cannot use a starred expression in a dictionary value" t.line),
    (do let _ ← expression n; let t ← op ":"; ahead (orElse (op "\x7d") (op ","))
        raise "expression expected after dictionary key and ':'" t.line)]

/-- Mistakes in one entry of a dict display. -/
def invalidKvpair : Nat → Peg Unit
  | 0 => failure
  | n + 1 => first [
    (do let a ← expression n; notAhead (op ":")
        raise "':' expected after dictionary key" a.line),
    (do let _ ← expression n; let _ ← op ":"; let t ← op "*"; let _ ← bitOr n
        raise "cannot use a starred expression in a dictionary value" t.line),
    (do let _ ← expression n; let t ← op ":"; ahead (orElse (op "\x7d") (op ","))
        raise "expression expected after dictionary key and ':'" t.line)]

/-- `**a` in a dict comprehension. -/
def invalidDictComprehension : Nat → Peg Node
  | 0 => failure
  | n + 1 => do
    let _ ← op "\x7b"
    let t ← op "**"
    let _ ← bitOr n
    forIfClauses n
    let _ ← op "\x7d"
    raise "dict unpacking cannot be used in dict comprehension" t.line

/-- Mistakes in the item of a comprehension. -/
def invalidComprehension : Nat → Peg Node
  | 0 => failure
  | n + 1 => first [
    (do let _ ← first [op "[", op "(", op "\x7b"]; let a ← starredExpression n; forIfClauses n
        raise "iterable unpacking cannot be used in comprehension" a.line),
    (do let _ ← orElse (op "[") (op "\x7b"); let a ← starNamedExpression n; let _ ← op ","
        let _ ← starNamedExpressions n; forIfClauses n
        raise "did you forget parentheses around the comprehension target?" a.line),
    (do let _ ← orElse (op "[") (op "\x7b"); let a ← starNamedExpression n; let _ ← op ","
        forIfClauses n
        raise "did you forget parentheses around the comprehension target?" a.line)]

/-- The `for` and `if` clauses of a comprehension. -/
def forIfClauses : Nat → Peg Unit
  | 0 => failure
  | n + 1 => skip (many1 (forIfClause n))

/-- `for targets in source if condition ...`; once `in` is read, no other reading is tried. -/
def forIfClause : Nat → Peg Unit
  | 0 => failure
  | n + 1 =>
    commit
      (do let _ ← attempt (kw "async"); let _ ← kw "for"; starTargets n; skip (kw "in"))
      (fun _ => do
        let _ ← disjunction n
        skip (many (do let _ ← kw "if"; disjunction n)))
      (explaining (invalidForTarget n))

/-- A loop target that cannot be assigned to; a target that can is no mistake of this kind. -/
def invalidForTarget : Nat → Peg Unit
  | 0 => failure
  | n + 1 => do
    let _ ← attempt (kw "async")
    let _ ← kw "for"
    let a ← starExpressions n
    match invalidTarget a with
    | some bad =>
      let what := exprName bad.expr
      raise s!"cannot assign to {what}" bad.line
    | none => failure

/-- The targets of a loop. -/
def starTargets : Nat → Peg Unit
  | 0 => failure
  | n + 1 => orElse
    (do let _ ← starTarget n; notAhead (op ","))
    (do let _ ← starTarget n; let _ ← many (do let _ ← op ","; starTarget n)
        skip (attempt (op ",")))

/-- One target, maybe starred. -/
def starTarget : Nat → Peg Node
  | 0 => failure
  | n + 1 => remember .starTarget (orElse
    (do let t ← op "*"; notAhead (op "*"); let _ ← starTarget n; pure (otherNode "Starred" t.line))
    (targetWithStarAtom n))

/-- An attribute, a subscript, a name, or bracketed targets. -/
def targetWithStarAtom : Nat → Peg Node
  | 0 => failure
  | n + 1 => remember .targetWithStarAtom (first [
    (do let a ← targetPrimary n; let _ ← op "."; let _ ← plainName; notAhead targetLookahead
        pure a),
    (do let a ← targetPrimary n; let _ ← op "["; let _ ← slices n; let _ ← op "]"
        notAhead targetLookahead
        pure a),
    starAtom n])

/-- A name, or targets in brackets. -/
def starAtom : Nat → Peg Node
  | 0 => failure
  | n + 1 => first [
    plainName,
    (do let _ ← op "("; let a ← targetWithStarAtom n; let _ ← op ")"; pure a),
    (do let t ← op "("; let _ ← attempt (starTargetsTupleSeq n); let _ ← op ")"
        pure (otherNode "Tuple" t.line)),
    (do let t ← op "["; let _ ← attempt (starTargetsListSeq n); let _ ← op "]"
        pure (otherNode "List" t.line))]

/-- Targets in square brackets. -/
def starTargetsListSeq : Nat → Peg Unit
  | 0 => failure
  | n + 1 => do
    let _ ← gather (op ",") (starTarget n)
    skip (attempt (op ","))

/-- Targets in parentheses: two or more, or one with a comma. -/
def starTargetsTupleSeq : Nat → Peg Unit
  | 0 => failure
  | n + 1 => orElse
    (do let _ ← starTarget n; let _ ← many1 (do let _ ← op ","; starTarget n)
        skip (attempt (op ",")))
    (do let _ ← starTarget n; skip (op ","))

/-- The primary of an attribute or subscript target: every step is followed by a further
trailer. -/
def targetPrimary : Nat → Peg Node
  | 0 => failure
  | n + 1 => remember .targetPrimary do
    let a ← atom n
    ahead targetLookahead
    let steps ← many (first ((trailers n).map fun p => do
      let s ← p
      ahead targetLookahead
      pure s))
    pure (steps.foldl Trailer.apply a)

/-- The argument list of a call. -/
def arguments : Nat → Peg Node
  | 0 => failure
  | n + 1 => remember .arguments (orElse
    (do let a ← args n; let _ ← attempt (op ","); ahead (op ")"); pure a)
    (explaining (invalidArguments n)))

/-- Positional arguments then later ones, or later ones only. -/
def args : Nat → Peg Node
  | 0 => failure
  | n + 1 => orElse
    (do let a ← gather (op ",") (orElse (starredExpression n)
          (do let e ← orElse (assignmentExpression n)
                (do let e ← expression n; notAhead (op ":="); pure e)
              notAhead (op "=")
              pure e))
        let b ← attempt (do let _ ← op ","; kwargs n)
        pure (argumentNode a (b.getD [])))
    (do let b ← kwargs n; pure (argumentNode [] b))

/-- Named and starred arguments, then named and double-starred ones. -/
def kwargs : Nat → Peg (List LaterArg)
  | 0 => failure
  | n + 1 => first [
    (do let a ← gather (op ",") (kwargOrStarred n); let _ ← op ","
        let b ← gather (op ",") (kwargOrDoubleStarred n)
        pure (a ++ b)),
    gather (op ",") (kwargOrStarred n),
    gather (op ",") (kwargOrDoubleStarred n)]

/-- `name=value` or `*value`. -/
def kwargOrStarred : Nat → Peg LaterArg
  | 0 => failure
  | n + 1 => first [
    explaining (invalidKwarg n),
    (do let a ← plainName; let _ ← op "="; let b ← expression n
        pure (.named (nodeName a) b a.line)),
    (do let s ← starredExpression n; pure (.starred s))]

/-- `name=value` or `**value`. -/
def kwargOrDoubleStarred : Nat → Peg LaterArg
  | 0 => failure
  | n + 1 => first [
    explaining (invalidKwarg n),
    (do let a ← plainName; let _ ← op "="; let b ← expression n
        pure (.named (nodeName a) b a.line)),
    (do let t ← op "**"; let b ← expression n; pure (.named none b t.line))]

/-- `*value`; a star without a value is refused at once. -/
def starredExpression : Nat → Peg Node
  | 0 => failure
  | n + 1 => do
    let t ← op "*"
    match ← attempt (expression n) with
    | some a => pure (starredNode a t.line)
    | none => raiseHere "Invalid star expression"

/-- Mistakes in a named argument. -/
def invalidKwarg : Nat → Peg LaterArg
  | 0 => failure
  | n + 1 => first [
    (do let t ← first [kw "True", kw "False", kw "None"]; let _ ← op "="
        let word := match t.kind with
          | .name w => w
          | _ => ""
        raise s!"cannot assign to {word}" t.line),
    (do let a ← plainName; let _ ← op "="; let _ ← expression n; forIfClauses n
        raise "invalid syntax. Maybe you meant '==' or ':=' instead of '='?" a.line),
    (do notAhead (do let _ ← plainName; op "="); let a ← expression n; let _ ← op "="
        raise "expression cannot contain assignment, perhaps you meant \"==\"?" a.line)]

/-- Mistakes in an argument list. -/
def invalidArguments : Nat → Peg Node
  | 0 => failure
  | n + 1 =>
    commit (do let a ← args n; let _ ← op ","; let _ ← op "*"; pure a)
      (fun a => raise "iterable argument unpacking follows keyword argument unpacking" a.line) <|
    commit
      (do let a ← expression n; forIfClauses n; let _ ← op ","
          let _ ← attempt (orElse (skip (args n)) (do let _ ← expression n; forIfClauses n))
          pure a)
      (fun a => raise "Generator expression must be parenthesized" a.line) <|
    commit (do let a ← plainName; let _ ← op "="; let _ ← expression n; forIfClauses n; pure a)
      (fun a => raise "invalid syntax. Maybe you meant '==' or ':=' instead of '='?" a.line) <|
    commit (do let a ← args n; forIfClauses n; pure a)
      (fun a => match a.parts.getLast? with
        | some last =>
          if a.parts.length ≤ 1 then failure
          else raise "Generator expression must be parenthesized" last.line
        | none => failure) <|
    commit (do let _ ← args n; let _ ← op ","; let a ← expression n; forIfClauses n; pure a)
      (fun a => raise "Generator expression must be parenthesized" a.line) <|
    do
      let a ← args n
      let _ ← op ","
      let _ ← args n
      let unpacking := match a.expr with
        | .call _ _ named => named.any (·.1.isNone)
        | _ => false
      raiseHere (if unpacking then "positional argument follows keyword argument unpacking"
        else "positional argument follows keyword argument")

/-- `star_expressions`: a starred expression, or a tuple of them. -/
def starExpressions : Nat → Peg Node
  | 0 => failure
  | n + 1 => do
    let a ← starExpression n
    let more ← many (do let _ ← op ","; starExpression n)
    if more.isEmpty then
      match ← attempt (op ",") with
      | some _ => pure (tupleNode [a] a.line)
      | none => pure a
    else
      let _ ← attempt (op ",")
      pure (tupleNode (a :: more) a.line)

/-- `*a` or an expression. -/
def starExpression : Nat → Peg Node
  | 0 => failure
  | n + 1 => remember .starExpression (orElse
    (do let t ← op "*"; let a ← bitOr n; pure (starredNode a t.line))
    (expression n))

/-- Items of a display, separated by commas. -/
def starNamedExpressions : Nat → Peg (List Node)
  | 0 => failure
  | n + 1 => do
    let items ← gather (op ",") (starNamedExpression n)
    let _ ← attempt (op ",")
    pure items

/-- `*a` or a named expression. -/
def starNamedExpression : Nat → Peg Node
  | 0 => failure
  | n + 1 => orElse
    (do let t ← op "*"; let a ← bitOr n; pure (starredNode a t.line))
    (namedExpression n)

/-- `name := value`. -/
def assignmentExpression : Nat → Peg Node
  | 0 => failure
  | n + 1 => do
    let a ← plainName
    let _ ← op ":="
    let _ ← expression n
    pure (otherNode "NamedExpr" a.line)

/-- An assignment expression or an expression. -/
def namedExpression : Nat → Peg Node
  | 0 => failure
  | n + 1 => first [
    assignmentExpression n,
    explaining (invalidNamedExpression n),
    (do let a ← expression n; notAhead (op ":="); pure a)]

/-- Assignments where an expression is expected. -/
def invalidNamedExpression : Nat → Peg Node
  | 0 => failure
  | n + 1 => remember .invalidNamedExpression (first [
    (do let a ← expression n; let _ ← op ":="; let _ ← expression n
        let what := exprName a.expr
        raise s!"cannot use assignment expressions with {what}" a.line),
    (do let a ← plainName; let _ ← op "="; let _ ← bitOr n
        notAhead (orElse (op "=") (op ":="))
        raise "invalid syntax. Maybe you meant '==' or ':=' instead of '='?" a.line),
    (do notAhead (first [skip (list n), skip (tuple n), skip (genexp n), skip (kw "True"),
          skip (kw "None"), skip (kw "False")])
        let a ← bitOr n; let _ ← op "="; let _ ← bitOr n
        notAhead (orElse (op "=") (op ":="))
        let what := exprName a.expr
        raise s!"cannot assign to {what} here. Maybe you meant '==' instead of '='?" a.line)])

/-- `yield from a` or `yield a`. -/
def yieldExpr : Nat → Peg Node
  | 0 => failure
  | n + 1 => orElse
    (do let t ← kw "yield"; let _ ← kw "from"; let _ ← expression n
        pure (otherNode "YieldFrom" t.line))
    (do let t ← kw "yield"; let _ ← attempt (starExpressions n); pure (otherNode "Yield" t.line))

/-- `lambda params: body`. -/
def lambdef : Nat → Peg Node
  | 0 => failure
  | n + 1 => do
    let t ← kw "lambda"
    let _ ← attempt (lambdaParams n)
    let _ ← op ":"
    let _ ← expression n
    pure (otherNode "Lambda" t.line)

/-- The parameters of a lambda, or their mistakes. -/
def lambdaParams : Nat → Peg Unit
  | 0 => failure
  | n + 1 =>
    let dflt : Peg Unit := orElse
      (do let _ ← op "="; skip (expression n))
      (explaining (do
        let t ← op "="
        ahead (orElse (op ")") (op ","))
        raise "expected default value expression" t.line))
    orElse (explaining (invalidLambdaParameters dflt)) (lambdaParameters dflt)

end

/-- An expression text: expressions, then line ends, then the end of the text. -/
def evalInput (fuel : Nat) : Peg Node := do
  let e ← expressions fuel
  let _ ← many (takeIf (· == .newline))
  let _ ← takeIf (· == .endmarker)
  pure e

/-- Why a text is no expression: the message and the line. -/
structure SyntaxError where
  message : String
  line : Nat
deriving Repr

/-- The text of a syntax error as it is reported. -/
def SyntaxError.text (e : SyntaxError) : String :=
  s!"{e.message} (<unknown>, line {e.line})"

/-- Fuel for reading scanned tokens: enough for the tokens and for the fields of formatted
literals among them. -/
def fuelFor (lexed : Lexed) : Nat :=
  100 * lexed.toks.foldl (fun acc t => acc + 1 + match t.kind with
    | .string _ _ _ body => body.length
    | _ => 0) 2

/-- Parses scanned tokens, or says why they are no expression. -/
def parseLexed (lexed : Lexed) : Except SyntaxError Ast :=
  match readTwice (evalInput (fuelFor lexed)) lexed false with
  | .ok node => .ok node.expr
  | .error f => .error ⟨f.message, f.line⟩

/-- Parses an expression text, or says why it is none. -/
def parse (s : String) : Except SyntaxError Ast := parseLexed (lex s)

end Dataflow.Expr
