import Dataflow.Expr.Literal
/-!
# Formatted string literals

The body of a formatted string literal (`f'...'`) is literal text and replacement fields
`{expression=!conversion:format}`. `scanFormatted` walks a body and checks it:

* in literal text a brace is doubled to stand for itself, and a single `}` is refused; escape
  sequences are decoded (`\N{...}` keeps its braces);
* a field's expression ends at the first `!`, `:`, `=` or `}` outside brackets and quoted text
  (`!=`, `==`, `<=`, `>=`, `<` and `>` do not end it); it may hold neither a backslash nor `#`,
  and its brackets must match;
* the expression is handed to a check as soon as its end is found, so its errors come before
  those of the rest of the literal; a blank expression is refused without the check;
* the conversion is `s`, `r` or `a`, and a format may hold fields of its own, one level deep.
-/

namespace Dataflow.Expr

/-- A failure that ends reading at once: its message and the line it is reported on. -/
structure Fault where
  message : String
  line : Nat

/-- The check of a field's expression: its characters, the character that ends it, and the
place of the field's opening brace in the body. -/
abbrev FieldCheck := List Char → Char → Nat → Except Fault Unit

/-- Characters that count as blank after a `=` in a field. -/
def fieldBlank (c : Char) : Bool :=
  c == ' ' || c == '\t' || c == '\n' || c == '\r' || c == '\x0b' || c == '\x0c'

/-- The closing bracket that matches an opening one. -/
def closerOf : Char → Char
  | '(' => ')'
  | '[' => ']'
  | _ => '}'

/-- Reads literal text up to a field or the end. At the top level a doubled brace ends the
text after its first brace (`true`: go on reading literal text past the second); a single
brace is left for the caller. Returns the text, the rest and whether a doubled brace ended it. -/
def literalRun (top : Bool) (raw : Bool) (lead : String) (line : Nat) :
    Nat → List Char → List Char → Except Fault (List Char × List Char × Bool)
  | 0, acc, rest => .ok (acc.reverse, rest, false)
  | _ + 1, acc, [] => .ok (acc.reverse, [], false)
  | fuel + 1, acc, c :: rest =>
    let brace (b : Char) (acc rest : List Char) : Except Fault (List Char × List Char × Bool) :=
      if top && rest.head? == some b then .ok ((b :: acc).reverse, rest.drop 1, true)
      else if top && b == '}' then .error ⟨lead ++ "f-string: single '\x7d' is not allowed", line⟩
      else .ok (acc.reverse, b :: rest, false)
    if !raw && c == '\\' && !rest.isEmpty then
      match rest with
      | 'N' :: '{' :: more =>
        let name := more.takeWhile (· != '}')
        let after := more.dropWhile (· != '}')
        let kept := if after.isEmpty then name.reverse else '}' :: name.reverse
        literalRun top raw lead line fuel (kept ++ ['{', 'N', '\\'] ++ acc) (after.drop 1)
      | d :: more =>
        if d == '{' || d == '}' then brace d ('\\' :: acc) more
        else literalRun top raw lead line fuel (d :: '\\' :: acc) more
      | [] => .ok (acc.reverse, [], false)
    else if c == '{' || c == '}' then brace c acc rest
    else literalRun top raw lead line fuel (c :: acc) rest

/-- Reads a field's expression, after its opening brace, up to the character that ends it.
`quote` is the open quoted text (its quote and whether it is tripled) and `stack` the open
brackets, innermost first. Returns the expression and the rest, which starts with the ending
character or is empty at the end of the body. -/
def fieldExpr (lead : String) (line : Nat) :
    Nat → Option (Char × Bool) → List Char → List Char → List Char →
      Except Fault (List Char × List Char)
  | 0, _, _, acc, rest => .ok (acc.reverse, rest)
  | _ + 1, quote, stack, acc, [] =>
    if quote.isSome then .error ⟨lead ++ "f-string: unterminated string", line⟩
    else match stack with
      | o :: _ => .error ⟨lead ++ s!"f-string: unmatched '{o}'", line⟩
      | [] => .ok (acc.reverse, [])
  | fuel + 1, quote, stack, acc, c :: rest =>
    if c == '\\' then .error ⟨lead ++ "f-string expression part cannot include a backslash", line⟩
    else match quote with
    | some (q, triple) =>
      if c == q then
        if triple then
          if rest.length ≥ 2 && rest.take 2 == [q, q] then
            fieldExpr lead line fuel none stack (q :: q :: c :: acc) (rest.drop 2)
          else fieldExpr lead line fuel quote stack (c :: acc) rest
        else fieldExpr lead line fuel none stack (c :: acc) rest
      else fieldExpr lead line fuel quote stack (c :: acc) rest
    | none =>
      if c == '\'' || c == '"' then
        if rest.length ≥ 2 && rest.take 2 == [c, c] then
          fieldExpr lead line fuel (some (c, true)) stack (c :: c :: c :: acc) (rest.drop 2)
        else fieldExpr lead line fuel (some (c, false)) stack (c :: acc) rest
      else if c == '[' || c == '{' || c == '(' then
        if stack.length ≥ 200 then .error ⟨lead ++ "f-string: too many nested parenthesis", line⟩
        else fieldExpr lead line fuel none (c :: stack) (c :: acc) rest
      else if c == '#' then .error ⟨lead ++ "f-string expression part cannot include '#'", line⟩
      else if stack.isEmpty && (c == '!' || c == ':' || c == '}' || c == '=' || c == '<' || c == '>') then
        let pair := rest.head? == some '=' && (c == '!' || c == '=' || c == '<' || c == '>')
        if pair then fieldExpr lead line fuel none stack ('=' :: c :: acc) (rest.drop 1)
        else if c == '<' || c == '>' then fieldExpr lead line fuel none stack (c :: acc) rest
        else .ok (acc.reverse, c :: rest)
      else if c == ']' || c == '}' || c == ')' then
        match stack with
        | [] => .error ⟨lead ++ s!"f-string: unmatched '{c}'", line⟩
        | o :: outer =>
          if closerOf o == c then fieldExpr lead line fuel none outer (c :: acc) rest
          else
            .error ⟨lead ++ s!"f-string: closing parenthesis '{c}' does not match opening parenthesis '{o}'", line⟩
      else fieldExpr lead line fuel none stack (c :: acc) rest

/-- Decodes a piece of literal text, unless the literal is raw. A piece may end in a lone
backslash (the one before the brace of `\{`), which stands for itself. -/
def decodeLiteral (raw : Bool) (lead : String) (line : Nat) (text : List Char) :
    Except Fault Unit :=
  if raw || text.isEmpty then .ok ()
  else match decodeEscapes false text 0 [] with
    | .ok _ => .ok ()
    | .error e =>
      if e.stop == e.start + 1 && e.reason == "\\ at end of string" then .ok ()
      else .error ⟨lead ++ e.message, line⟩

mutual

/-- Reads literal text and fields: at level 0 to the end of the body, deeper to the `}` that
closes a format. `total` is the length of the whole body, to place fields. Returns the rest. -/
def formattedRun (check : FieldCheck) (raw : Bool) (lead : String) (line total : Nat) :
    Nat → Nat → List Char → Except Fault (List Char)
  | 0, _, rest => .ok rest
  | fuel + 1, level, cs => do
    let (text, rest, doubled) ← literalRun (level == 0) raw lead line (cs.length + 1) [] cs
    decodeLiteral raw lead line text
    if doubled then formattedRun check raw lead line total fuel level rest
    else match rest with
      | [] | '}' :: _ =>
        if level != 0 && rest.head? != some '}' then .error ⟨lead ++ "f-string: expecting '\x7d'", line⟩
        else .ok rest
      | _ =>
        let after ← replacementField check raw lead line total fuel level rest
        formattedRun check raw lead line total fuel level after

/-- Reads one replacement field, from its opening brace; returns the rest after its closing
brace. -/
def replacementField (check : FieldCheck) (raw : Bool) (lead : String) (line total : Nat) :
    Nat → Nat → List Char → Except Fault (List Char)
  | 0, _, rest => .ok rest
  | fuel + 1, level, cs => do
    let expecting : Fault := ⟨lead ++ "f-string: expecting '\x7d'", line⟩
    if level ≥ 2 then throw ⟨lead ++ "f-string: expressions nested too deeply", line⟩
    let place := total - cs.length
    let (expr, rest) ← fieldExpr lead line (cs.length + 1) none [] [] (cs.drop 1)
    let some stop := rest.head? | throw expecting
    if expr.all (fun c => c == ' ' || c == '\t' || c == '\n' || c == '\x0c') then
      if stop == '!' || stop == ':' || stop == '=' then
        throw ⟨lead ++ s!"f-string: expression required before '{stop}'", line⟩
      else throw ⟨lead ++ "f-string: empty expression not allowed", line⟩
    check expr stop place
    let rest ← if rest.head? == some '=' then
        let after := (rest.drop 1).dropWhile fieldBlank
        if after.isEmpty then throw expecting else pure after
      else pure rest
    let rest ← if rest.head? == some '!' then
        match rest.drop 1 with
        | [] => throw expecting
        | conv :: after =>
          if conv == 's' || conv == 'r' || conv == 'a' then pure after
          else throw ⟨lead ++ "f-string: invalid conversion character: expected 's', 'r', or 'a'", line⟩
      else pure rest
    let rest ← if rest.head? == some ':' then
        match rest.drop 1 with
        | [] => throw expecting
        | spec => formattedRun check raw lead line total fuel (level + 1) spec
      else pure rest
    match rest with
    | '}' :: after => pure after
    | _ => throw expecting

end

/-- Checks the body of a formatted string literal. Its own messages start with `lead` and are
placed on `line`; those of the field check are passed on as they are. -/
def scanFormatted (check : FieldCheck) (raw : Bool) (lead : String) (line : Nat)
    (body : List Char) : Except Fault Unit := do
  let _ ← formattedRun check raw lead line body.length (2 * body.length + 2) 0 body
  pure ()

end Dataflow.Expr
