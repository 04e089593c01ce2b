import Dataflow.Expr.Token
import Dataflow.Expr.Syntax
import Dataflow.Expr.Format
import Dataflow.Unicode.Normalize
/-!
# Ordered-choice parsing over tokens

The machinery the expression grammar is written in. A parser (`Peg`) reads tokens from a
`Source` and either produces a value, misses (the next alternative is then tried from the same
place), or halts with an error, which ends the whole reading.

A text is read in up to two passes. The first pass uses the plain grammar. When it misses, a
second pass reads the text again with the rules that explain errors switched on (`explain`):
those rules match common mistakes and halt with a message that names the mistake.

Three things are kept as the grammar runs, because the messages depend on them:

* `fill`, the number of tokens fetched so far over both passes: an error without a place of its
  own is reported on the line of the last token fetched, and fetching past the last token of a
  text whose scan stopped early raises the scan's verdict at once;
* the memo of results by rule and position, which keeps reading linear; it is shared by the
  rules read with and without explanations, so the first reading of a rule at a position is the
  one every later reading there gets;
* the bracket depth after each token, which tells a missing comma inside brackets from a bare
  juxtaposition at the top level.
-/

namespace Dataflow.Expr

/-- The words that are no names. -/
def keywords : List String :=
  ["False", "None", "True", "and", "as", "assert", "async", "await", "break", "class",
   "continue", "def", "del", "elif", "else", "except", "finally", "for", "from", "global", "if",
   "import", "in", "is", "lambda", "nonlocal", "not", "or", "pass", "raise", "return", "try",
   "while", "with", "yield"]

/-- The names that are keywords only at the head of some statements. -/
def softKeywords : List String := ["_", "case", "match"]

/-- A parsed expression: its tree, the line it starts on, and the parts that the check of an
assignment target looks into (the items of a list or tuple, the operand of a starred item, the
left side of a comparison, the positional arguments of a call's argument list). -/
inductive Node where
  | mk (expr : Ast) (line : Nat) (parts : List Node)
deriving Inhabited

namespace Node

/-- The tree of a node. -/
def expr : Node → Ast
  | mk e _ _ => e

/-- The line a node starts on. -/
def line : Node → Nat
  | mk _ l _ => l

/-- The parts of a node. -/
def parts : Node → List Node
  | mk _ _ ps => ps

/-- A node without parts. -/
def leaf (e : Ast) (line : Nat) : Node := mk e line []

end Node

/-- Why a reading halted: a message of the grammar, or a verdict of the scanner, which stands
whatever the grammar finds. -/
inductive Halt where
  | grammar (f : Fault)
  | scanner (f : Fault)

/-- The rules whose results are remembered by position. -/
inductive Rule where
  | expression | starExpression | disjunction | conjunction | inversion | bitOr | bitXor
  | bitAnd | shift | sum | term | factor | awaitPrimary | primary | targetPrimary | strings
  | arguments | starTarget | targetWithStarAtom | invalidNamedExpression
deriving BEq, DecidableEq

/-- What a reading sees: the tokens, the bracket depth after each, how the scan ended, whether
the rules that explain errors are on, and whether the text is a field of a formatted literal. -/
structure Source where
  toks : Array Tok
  depth : Array Nat
  stop : LexStop
  explain : Bool
  inField : Bool

/-- Where a reading stands: the next position, the number of tokens fetched, and the memo (by
position, the rules read there with their result and the position after it). -/
structure Cursor where
  pos : Nat
  fill : Nat
  memo : Array (List (Rule × Option Node × Nat))

/-- Parsers: they read a source, move a cursor, and produce a value, miss, or halt. -/
abbrev Peg := OptionT (ReaderT Source (ExceptT Halt (StateM Cursor)))

/-- Runs a parser from a cursor: the outcome and the cursor after it. -/
def Peg.exec (p : Peg α) (src : Source) (c : Cursor) : Except Halt (Option α) × Cursor :=
  ((p.run.run src).run.run c)

/-- The bracket depth after each token. -/
def bracketDepths (toks : Array Tok) : Array Nat :=
  (toks.foldl (fun (d, acc) t =>
    let d := match t.kind with
      | .op "(" | .op "[" | .op "\x7b" => d + 1
      | .op ")" | .op "]" | .op "\x7d" => d - 1
      | _ => d
    (d, acc.push d)) ((0 : Nat), (#[] : Array Nat))).2

/-- The line of the token at position `i`; past the end, the line of the last token. -/
def Source.lineAt (src : Source) (i : Nat) : Nat :=
  match src.toks[i]? with
  | some t => t.line
  | none => (src.toks.back?.map (·.line)).getD 1

/-! ### Halting -/

/-- Halts with a message of the grammar on a line; within a field of a formatted literal the
message says so. -/
def raise (message : String) (line : Nat) : Peg α := do
  let src ← read
  throwThe Halt (.grammar ⟨(if src.inField then "f-string: " else "") ++ message, line⟩)

/-- The line of the last token fetched. -/
def lastLine : Peg Nat := do
  let src ← read
  let c ← get
  pure (src.lineAt (c.fill - 1))

/-- Halts with a message placed at the last token fetched. -/
def raiseHere (message : String) : Peg α := do
  raise message (← lastLine)

/-! ### Tokens -/

/-- Fetches the token at position `i`. Past the last token of a text whose scan stopped early
the scan's verdict is raised: an error of the scanner, or a bracket never closed. -/
def fetch (i : Nat) : Peg Tok := do
  let src ← read
  modify fun c => { c with fill := max c.fill (i + 1) }
  match src.toks[i]? with
  | some t => pure t
  | none =>
    match src.stop with
    | .openBracket b l _ => throwThe Halt (.scanner ⟨s!"'{b}' was never closed", l⟩)
    | .failure e => throwThe Halt (.scanner ⟨e.message, e.line⟩)
    | .broken e bracket =>
      match e, bracket with
      | .eofAfterContinuation _, some (b, l) => throwThe Halt (.scanner ⟨s!"'{b}' was never closed", l⟩)
      | _, _ => throwThe Halt (.scanner ⟨e.message, e.line⟩)
    | .complete => pure (src.toks.back?.getD ⟨.endmarker, 1⟩)

/-- The next token. -/
def peek : Peg Tok := do
  fetch (← get).pos

/-- Moves past the next token. -/
def advance : Peg Unit :=
  modify fun c => { c with pos := c.pos + 1 }

/-- Takes the next token if its kind passes a test. -/
def takeIf (p : TokKind → Bool) : Peg Tok := do
  let t ← peek
  if p t.kind then
    advance
    pure t
  else failure

/-- Takes the operator `s`. -/
def op (s : String) : Peg Tok := takeIf (· == .op s)

/-- Takes the keyword `w`. -/
def kw (w : String) : Peg Tok := takeIf (· == .name w)

/-- The name an identifier stands for: identifiers that differ only in compatibility forms
(ligatures, full-width letters, letter-like symbols) are the same name, so a name beyond ASCII
is taken in normalization form KC. -/
def identifierName (id : String) : String :=
  if id.toList.all (fun c => c.toNat < 128) then id else Unicode.nfkc id

/-- Takes a name that is no keyword. -/
def plainName : Peg Node := do
  let t ← peek
  match t.kind with
  | .name id =>
    if keywords.contains id then failure
    else
      advance
      pure (.leaf (.name (identifierName id)) t.line)
  | _ => failure

/-- Takes a name that passes for a soft keyword: the test compares only as many characters as
the name has, so every nonempty beginning of a soft keyword passes (`c`, `ma`, ...). -/
def softKeyword : Peg Tok :=
  takeIf fun k => match k with
    | .name id => !id.isEmpty && softKeywords.any (·.startsWith id)
    | _ => false

/-- Takes a string literal. -/
def stringTok : Peg Tok :=
  takeIf fun k => match k with
    | .string .. => true
    | _ => false

/-- The bracket depth after the token before the next one. -/
def depthBefore : Peg Nat := do
  let src ← read
  let c ← get
  pure (src.depth.getD (c.pos - 1) 0)

/-! ### Combinators -/

/-- Runs a parser; a miss puts the position back and gives `none`. -/
def attempt (p : Peg α) : Peg (Option α) := do
  let start := (← get).pos
  match ← (OptionT.lift p.run : Peg (Option α)) with
  | some x => pure (some x)
  | none =>
    modify fun c => { c with pos := start }
    pure none

/-- The first parser, or the second from the same place when the first misses. -/
def orElse (p q : Peg α) : Peg α := do
  match ← attempt p with
  | some x => pure x
  | none => q

/-- The first of the alternatives that does not miss, each tried from the same place. -/
def first : List (Peg α) → Peg α
  | [] => failure
  | p :: ps => orElse p (first ps)

/-- An alternative that commits: when `items` match, `action` decides for the whole rule (and
may still miss); otherwise `rest` is tried from the same place. -/
def commit (items : Peg α) (action : α → Peg β) (rest : Peg β) : Peg β := do
  match ← attempt items with
  | some x => action x
  | none => rest

/-- Succeeds where `p` would, without moving. -/
def ahead (p : Peg α) : Peg Unit := do
  let start := (← get).pos
  match ← attempt p with
  | some _ => modify fun c => { c with pos := start }
  | none => failure

/-- Succeeds where `p` would miss, without moving. -/
def notAhead (p : Peg α) : Peg Unit := do
  let start := (← get).pos
  match ← attempt p with
  | some _ =>
    modify fun c => { c with pos := start }
    failure
  | none => pure ()

/-- Repeats a parser while it matches, at most `fuel` times. -/
def repeatUpTo (p : Peg α) : Nat → List α → Peg (List α)
  | 0, acc => pure acc.reverse
  | fuel + 1, acc => do
    match ← attempt p with
    | some x => repeatUpTo p fuel (x :: acc)
    | none => pure acc.reverse

/-- Zero or more matches of a parser that takes a token each time. -/
def many (p : Peg α) : Peg (List α) := do
  let src ← read
  let c ← get
  repeatUpTo p (src.toks.size + 1 - c.pos) []

/-- One or more matches. -/
def many1 (p : Peg α) : Peg (List α) := do
  let x ← p
  let xs ← many p
  pure (x :: xs)

/-- One or more matches separated by `sep`. -/
def gather (sep : Peg β) (p : Peg α) : Peg (List α) := do
  let x ← p
  let xs ← many (do
    let _ ← sep
    p)
  pure (x :: xs)

/-- A parser with its value dropped. -/
def skip (p : Peg α) : Peg Unit := do
  let _ ← p
  pure ()

/-- Runs a parser with the rules that explain errors switched off. -/
def quietly (p : Peg α) : Peg α :=
  OptionT.mk (withReader (fun s => { s with explain := false }) p.run)

/-- Runs a parser only when the rules that explain errors are on. -/
def explaining (p : Peg α) : Peg α := do
  if (← read).explain then p else failure

/-- Reads a rule at the next position through the memo: a result found there is reused, and a
new one is stored. -/
def remember (r : Rule) (p : Peg Node) : Peg Node := do
  let start := (← get).pos
  let _ ← fetch start
  match ((← get).memo.getD start []).lookup r with
  | some (res, stop) =>
    modify fun c => { c with pos := stop }
    match res with
    | some n => pure n
    | none => failure
  | none =>
    let res ← attempt p
    let stop := (← get).pos
    modify fun c => { c with memo := c.memo.modify start ((r, res, stop) :: ·) }
    match res with
    | some n => pure n
    | none => failure

end Dataflow.Expr
