import Dataflow.Text.Classes
/-!
# Tokens of an expression

The expression language is the expression part of Python. `lex` cuts a text into its tokens:
names, number and string literals, operators and brackets, and the layout tokens (end of a
logical line, a change of indentation, the end of the text). It stops at the first text that
is no token and reports why (`LexError`), or at the end of the text while a bracket is still
open.

Line breaks inside brackets, and blank or comment lines, produce no tokens; `\r\n` and `\r`
count as line breaks.
-/

namespace Dataflow.Expr

open Dataflow.Text

/-- The kinds of token. -/
inductive TokKind where
  | name (id : String)
  /-- a number literal, as written -/
  | number (text : String)
  /-- a string literal: its letter flags, its quote character, whether the quote is tripled,
  and the characters between the quotes as written -/
  | string (flags : String) (quote : Char) (triple : Bool) (body : List Char)
  | op (sym : String)
  | newline
  | indent
  | endmarker
deriving Repr, BEq, Inhabited

/-- A token and the line it starts on (lines count from 1). -/
structure Tok where
  kind : TokKind
  line : Nat
deriving Repr, Inhabited

/-- Why a text is no sequence of tokens. Each carries the line it is reported on. -/
inductive LexError where
  /-- a single-quoted string that reaches the end of its line or of the text -/
  | unterminatedString (startLine detectedAt : Nat)
  | unterminatedTriple (startLine detectedAt : Nat)
  /-- a backslash that is not the last character of its line -/
  | lineContinuation (line : Nat)
  /-- the text ends right after a backslash -/
  | eofAfterContinuation (line : Nat)
  | unmatched (close : Char) (line : Nat)
  | mismatched (close open_ : Char) (line openLine : Nat)
  | tooDeep (line : Nat)
  | invalidCharacter (c : Char) (line : Nat)
  | nonPrintable (c : Char) (line : Nat)
  /-- a malformed number; `kind` is `decimal`, `hexadecimal`, `octal`, `binary` or `imaginary` -/
  | invalidLiteral (kind : String) (line : Nat)
  | invalidDigit (d : Char) (kind : String) (line : Nat)
  | leadingZeros (line : Nat)
deriving Repr

/-- How a text of tokens ends. -/
inductive LexStop where
  /-- the whole text is tokens -/
  | complete
  /-- the text ends while the bracket `c`, opened on line `line`, is still open; `readToEnd`
  tells whether reading the last token read past the end of the text (a last token other than
  a string literal, with nothing after it) -/
  | openBracket (c : Char) (line : Nat) (readToEnd : Bool)
  /-- the text is no tokens here, whatever a reading finds before -/
  | failure (e : LexError)
  /-- a line continuation is broken here; this is reported only when a reading gets to it, and
  `bracket` is the innermost bracket then open -/
  | broken (e : LexError) (bracket : Option (Char × Nat))
deriving Repr

/-- The tokens of a text and how the text ends. -/
structure Lexed where
  toks : Array Tok
  stop : LexStop

/-- Upper-case hexadecimal digits of a code point, at least four. -/
def hex4 (n : Nat) : String :=
  let ds := Nat.toDigits 16 n
  let ds := ds.map Char.toUpper
  String.ofList (List.replicate (4 - ds.length) '0' ++ ds)

/-- The message of a token error, without its location. -/
def LexError.message : LexError → String
  | .unterminatedString _ d => s!"unterminated string literal (detected at line {d})"
  | .unterminatedTriple _ d => s!"unterminated triple-quoted string literal (detected at line {d})"
  | .lineContinuation _ => "unexpected character after line continuation character"
  | .eofAfterContinuation _ => "unexpected EOF while parsing"
  | .unmatched c _ => s!"unmatched '{c}'"
  | .mismatched c o l ol =>
    if l == ol then s!"closing parenthesis '{c}' does not match opening parenthesis '{o}'"
    else s!"closing parenthesis '{c}' does not match opening parenthesis '{o}' on line {ol}"
  | .tooDeep _ => "too many nested parentheses"
  | .invalidCharacter c _ => s!"invalid character '{c}' (U+{hex4 c.toNat})"
  | .nonPrintable c _ => s!"invalid non-printable character U+{hex4 c.toNat}"
  | .invalidLiteral k _ => s!"invalid {k} literal"
  | .invalidDigit d k _ => s!"invalid digit '{d}' in {k} literal"
  | .leadingZeros _ =>
    "leading zeros in decimal integer literals are not permitted; use an 0o prefix for octal integers"

/-- The line a token error is reported on. -/
def LexError.line : LexError → Nat
  | .unterminatedString l _ | .unterminatedTriple l _ | .lineContinuation l
  | .eofAfterContinuation l | .unmatched _ l | .mismatched _ _ l _ | .tooDeep l
  | .invalidCharacter _ l | .nonPrintable _ l | .invalidLiteral _ l | .invalidDigit _ _ l
  | .leadingZeros l => l

/-! ### Character scanning -/

/-- Characters that may appear in a name before it is checked: ASCII letters, digits, the
underscore and every character beyond ASCII. -/
def isNameChar (c : Char) : Bool := c.isAlphanum || c == '_' || c.toNat ≥ 128

/-- Characters that may begin a name before it is checked. -/
def isNameHead (c : Char) : Bool := c.isAlpha || c == '_' || c.toNat ≥ 128

/-- Splits off the longest run of characters satisfying `p`. -/
def span (p : Char → Bool) (cs : List Char) : List Char × List Char :=
  (cs.takeWhile p, cs.dropWhile p)

/-- Reads a run of digits in which single underscores may separate digits. Returns the run
and the rest, or `none` when an underscore is not followed by a digit. -/
def digitRun (isDig : Char → Bool) : List Char → Option (List Char × List Char)
  | [] => some ([], [])
  | '_' :: c :: rest =>
    if isDig c then (digitRun isDig (c :: rest)).map fun (ds, r) => ('_' :: ds, r)
    else none
  | ['_'] => none
  | c :: rest =>
    if isDig c then (digitRun isDig rest).map fun (ds, r) => (c :: ds, r)
    else some ([], c :: rest)

/-- The letters after a number that may start a keyword (`and`, `else`, `for`, `if`, `in`,
`is`, `not`, `or`): such a number ends well. -/
def keywordFollows : List Char → Bool
  | 'a' :: 'n' :: 'd' :: _ => true
  | 'e' :: 'l' :: 's' :: 'e' :: _ => true
  | 'f' :: 'o' :: 'r' :: _ => true
  | 'i' :: c :: _ => c == 'f' || c == 'n' || c == 's'
  | 'o' :: 'r' :: _ => true
  | 'n' :: 'o' :: 't' :: _ => true
  | _ => false

/-- A number literal ends well: what follows is no name character, or starts a keyword. -/
def endsWell (rest : List Char) : Bool :=
  match rest with
  | c :: _ => !isNameChar c || keywordFollows rest
  | [] => true

/-- Reads the part of a decimal number after its integer digits: fraction, exponent and
imaginary mark. Returns the characters read and the rest, or the kind of a malformed literal. -/
def numberTail (cs : List Char) : Except String (List Char × List Char) := do
  -- fraction
  let (frac, cs) ← match cs with
    | '.' :: '_' :: _ => throw "decimal"
    | '.' :: rest =>
      match digitRun Char.isDigit rest with
      | some (ds, r) => pure ('.' :: ds, r)
      | none => throw "decimal"
    | _ => pure ([], cs)
  -- exponent
  let (ex, cs) ← match cs with
    | e :: rest =>
      if e == 'e' || e == 'E' then
        match rest with
        | s :: d :: r =>
          if (s == '+' || s == '-') then
            if d.isDigit then
              match digitRun Char.isDigit (d :: r) with
              | some (ds, r') => pure (e :: s :: ds, r')
              | none => throw "decimal"
            else throw "decimal"
          else if s.isDigit then
            match digitRun Char.isDigit (s :: d :: r) with
            | some (ds, r') => pure (e :: ds, r')
            | none => throw "decimal"
          else if endsWell (e :: rest) then pure ([], cs) else throw "decimal"
        | [s] =>
          if s.isDigit then pure ([e, s], [])
          else if s == '+' || s == '-' then throw "decimal"
          else if endsWell (e :: rest) then pure ([], cs) else throw "decimal"
        | [] => if endsWell cs then pure ([], cs) else throw "decimal"
      else pure ([], cs)
    | [] => pure ([], [])
  match cs with
  | j :: rest =>
    if j == 'j' || j == 'J' then
      if endsWell rest then pure (frac ++ ex ++ [j], rest) else throw "imaginary"
    else if endsWell cs then pure (frac ++ ex, cs) else throw "decimal"
  | [] => pure (frac ++ ex, [])

/-- Reads a number literal starting at a digit (or at a point followed by a digit). -/
def readNumber (cs : List Char) (line : Nat) : Except LexError (List Char × List Char) :=
  let bad (k : String) : Except LexError (List Char × List Char) := throw (.invalidLiteral k line)
  match cs with
  | '0' :: x :: rest =>
    if x == 'x' || x == 'X' then
      match digitRun (fun c => c.isDigit || ('a' ≤ c.toLower && c.toLower ≤ 'f'))
          (match rest with | '_' :: r => r | r => r) with
      | some (ds, r) =>
        if ds.isEmpty then bad "hexadecimal"
        else if endsWell r then pure ('0' :: x :: ds, r) else bad "hexadecimal"
      | none => bad "hexadecimal"
    else if x == 'o' || x == 'O' || x == 'b' || x == 'B' then
      let isOct := x == 'o' || x == 'O'
      let kind := if isOct then "octal" else "binary"
      let isDig := fun c : Char => if isOct then '0' ≤ c && c ≤ '7' else c == '0' || c == '1'
      match digitRun isDig (match rest with | '_' :: r => r | r => r) with
      | some (ds, r) =>
        match r with
        | d :: _ =>
          if d.isDigit then throw (.invalidDigit d kind line)
          else if ds.isEmpty then bad kind
          else if endsWell r then pure ('0' :: x :: ds, r) else bad kind
        | [] => if ds.isEmpty then bad kind else pure ('0' :: x :: ds, r)
      | none => bad kind
    else
      -- zeros, then maybe more digits
      match digitRun Char.isDigit ('0' :: x :: rest) with
      | none => bad "decimal"
      | some (ds, r) =>
        let nonzero := ds.any fun c => c.isDigit && c != '0'
        match r with
        | c :: _ =>
          if c == '.' || c == 'e' || c == 'E' || c == 'j' || c == 'J' then
            match numberTail r with
            | .ok (t, r') => pure (ds ++ t, r')
            | .error k => bad k
          else if nonzero then throw (.leadingZeros line)
          else if endsWell r then pure (ds, r) else bad "decimal"
        | [] => if nonzero then throw (.leadingZeros line) else pure (ds, [])
  | '.' :: _ =>
    match numberTail cs with
    | .ok (t, r) => pure (t, r)
    | .error k => bad k
  | _ =>
    match digitRun Char.isDigit cs with
    | none => bad "decimal"
    | some (ds, r) =>
      match numberTail r with
      | .ok (t, r') => pure (ds ++ t, r')
      | .error k => bad k

/-- The result of reading a string body: the body, the rest of the text, and the number of
line breaks inside; or the line break count at which the text or the line ended. -/
inductive BodyRead where
  | closed (body : List Char) (rest : List Char) (breaks : Nat)
  | openAt (breaks : Nat)

/-- Reads a string body up to its closing quote. A backslash protects the next character;
a single-quoted body may not contain a line break. A text that ends just after a line break
ends on the line of that break. -/
def readBody (quote : Char) (triple : Bool) : List Char → List Char → Nat → BodyRead
  | [], acc, n => .openAt (if acc.head? == some '\n' then n - 1 else n)
  | c :: rest, acc, n =>
    if c == '\\' then
      match rest with
      | d :: rest' => readBody quote triple rest' (d :: c :: acc) (if d == '\n' then n + 1 else n)
      | [] => .openAt n
    else if c == quote then
      if triple then
        match rest with
        | q2 :: q3 :: rest' =>
          if q2 == quote && q3 == quote then .closed acc.reverse rest' n
          else readBody quote triple rest (c :: acc) n
        | _ => readBody quote triple rest (c :: acc) n
      else .closed acc.reverse rest n
    else if c == '\n' then
      if triple then readBody quote triple rest (c :: acc) (n + 1) else .openAt n
    else readBody quote triple rest (c :: acc) n

/-- The letter flags that may stand before a string's quote: at most one of `b`, `u`, `f`
(and `u` alone), with an optional `r`, in any case. -/
def validFlags (s : String) : Bool :=
  let l := s.toLower
  ["r", "u", "f", "b", "fr", "rf", "br", "rb"].contains l

/-! ### The scanner -/

/-- The state of the scanner. -/
structure LexState where
  rest : List Char
  line : Nat
  /-- open brackets, innermost first, with their lines -/
  brackets : List (Char × Nat)
  /-- at the start of a line, before its first token -/
  atLineStart : Bool
  /-- the current line has produced a token -/
  lineHasToken : Bool
  toks : Array Tok
  /-- reading the last token emitted read past the end of the text -/
  touchedEnd : Bool

/-- Emits a token on the current line. Every token but a string literal is read up to the
character after it, so one that ends the text reads past its end. -/
def LexState.emit (st : LexState) (k : TokKind) (rest : List Char) : LexState :=
  let string := match k with
    | .string .. => true
    | _ => false
  { st with toks := st.toks.push ⟨k, st.line⟩, rest := rest, lineHasToken := true,
            atLineStart := false, touchedEnd := rest.isEmpty && !string }

/-- The matching opening bracket of a closing one. -/
def opening : Char → Char
  | ')' => '('
  | ']' => '['
  | _ => '{'

/-- Three-character operators. -/
def ops3 : List String := ["**=", "//=", ">>=", "<<=", "..."]

/-- Two-character operators. -/
def ops2 : List String :=
  ["!=", "%=", "&=", "**", "*=", "+=", "-=", "->", "//", "/=", ":=", "<<", "<=", "<>", "==",
   ">=", ">>", "@=", "^=", "|="]

/-- Finishes the text: the end of the last line, then the end marker. -/
def LexState.finish (st : LexState) : Lexed :=
  match st.brackets with
  | (c, l) :: _ => ⟨st.toks, .openBracket c l st.touchedEnd⟩
  | [] =>
    let toks := if st.lineHasToken then st.toks.push ⟨.newline, st.line⟩ else st.toks
    ⟨toks.push ⟨.endmarker, st.line⟩, .complete⟩

/-- Skips the blanks within a line: spaces, tabs and form feeds. -/
def skipInline (cs : List Char) : List Char :=
  cs.dropWhile fun c => c == ' ' || c == '\t' || c == '\x0c'

/-- The blanks at the start of a line, read across line continuations: the column they reach (a
tab goes on to the next multiple of eight, a form feed back to zero), the column at the first
continuation after blanks (zero when there is none), the number of continuations, and the rest.
A backslash that does not end its line, or ends the last line, is left in the rest. -/
def lineIndent : List Char → Nat → Nat → Nat → Nat × Nat × Nat × List Char
  | ' ' :: cs, col, cont, n => lineIndent cs (col + 1) cont n
  | '\t' :: cs, col, cont, n => lineIndent cs ((col / 8 + 1) * 8) cont n
  | '\x0c' :: cs, _, cont, n => lineIndent cs 0 cont n
  | '\\' :: '\n' :: (rest@(_ :: _)), col, cont, n =>
    lineIndent rest col (if cont == 0 then col else cont) (n + 1)
  | cs, col, cont, n => (col, cont, n, cs)

/-- One step of the scanner: reads one token, or one layout item, or stops. -/
def LexState.step (st : LexState) : Sum LexState Lexed :=
  let fail (e : LexError) : Sum LexState Lexed := .inr ⟨st.toks, .failure e⟩
  let cs := st.rest
  if st.atLineStart && st.brackets.isEmpty then
    let (col, cont, n, body) := lineIndent cs 0 0 0
    let indented := (if cont == 0 then col else cont) > 0
    let line := st.line + n
    let indent : LexState :=
      { st with rest := body, line := line, atLineStart := false,
                toks := st.toks.push ⟨.indent, line⟩, lineHasToken := true }
    match body with
    | [] => .inr (if indented then indent.finish else { st with line := line }.finish)
    | '#' :: _ =>
      .inl { st with rest := body.dropWhile (· != '\n'), line := line, atLineStart := false }
    | '\n' :: rest => .inl { st with rest := rest, line := line + 1 }
    | '\\' :: _ => .inl { st with rest := body, line := line, atLineStart := false }
    | _ =>
      if indented then .inl indent
      else .inl { st with rest := body, line := line, atLineStart := false }
  else
    let cs := skipInline cs
    match cs with
    | [] => .inr st.finish
    | '#' :: _ => .inl { st with rest := cs.dropWhile (· != '\n') }
    | '\n' :: rest =>
      if !st.brackets.isEmpty then .inl { st with rest := rest, line := st.line + 1 }
      else
        let toks := if st.lineHasToken then st.toks.push ⟨.newline, st.line⟩ else st.toks
        .inl { st with rest := rest, line := st.line + 1, toks := toks, atLineStart := true,
                       lineHasToken := false }
    | '\\' :: rest =>
      let broken (e : LexError) : Sum LexState Lexed := .inr ⟨st.toks, .broken e st.brackets.head?⟩
      match rest with
      | ['\n'] => broken (.eofAfterContinuation st.line)
      | '\n' :: rest' => .inl { st with rest := rest', line := st.line + 1 }
      | _ => broken (.lineContinuation st.line)
    | c :: rest =>
      if isNameHead c then
        let (word, after) := span isNameChar cs
        match after with
        | q :: afterQuote =>
          if (q == '\'' || q == '"') && validFlags (String.ofList word) then
            stringAt st (String.ofList word) q afterQuote
          else nameAt st word after
        | [] => nameAt st word after
      else if c == '\'' || c == '"' then stringAt st "" c rest
      else if c.isDigit || (c == '.' && (rest.head?.map Char.isDigit).getD false) then
        match readNumber cs st.line with
        | .ok (text, after) => .inl (st.emit (.number (String.ofList text)) after)
        | .error e => fail e
      else
        let three := String.ofList (cs.take 3)
        let two := String.ofList (cs.take 2)
        if cs.length ≥ 3 && ops3.contains three then .inl (st.emit (.op three) (cs.drop 3))
        else if cs.length ≥ 2 && ops2.contains two then .inl (st.emit (.op two) (cs.drop 2))
        else if c == '(' || c == '[' || c == '{' then
          if st.brackets.length ≥ 200 then fail (.tooDeep st.line)
          else .inl { st.emit (.op (String.singleton c)) rest with
                      brackets := (c, st.line) :: st.brackets }
        else if c == ')' || c == ']' || c == '}' then
          match st.brackets with
          | [] => fail (.unmatched c st.line)
          | (o, ol) :: outer =>
            if o == opening c then
              .inl { st.emit (.op (String.singleton c)) rest with brackets := outer }
            else fail (.mismatched c o st.line ol)
        else if !isPrintable c then fail (.nonPrintable c st.line)
        else .inl (st.emit (.op (String.singleton c)) rest)
where
  /-- A name: checked character by character when it holds characters beyond ASCII. -/
  nameAt (st : LexState) (word rest : List Char) : Sum LexState Lexed :=
    let bad := match word with
      | [] => none
      | c :: cs => if !isIdentStart c then some c else cs.find? (!isIdentPart ·)
    match bad with
    | some c =>
      if isPrintable c then .inr ⟨st.toks, .failure (.invalidCharacter c st.line)⟩
      else .inr ⟨st.toks, .failure (.nonPrintable c st.line)⟩
    | none => .inl (st.emit (.name (String.ofList word)) rest)
  /-- A string literal whose opening quote `q` has just been read. -/
  stringAt (st : LexState) (flags : String) (q : Char) (rest : List Char) : Sum LexState Lexed :=
    let triple := rest.take 2 == [q, q]
    let body := if triple then rest.drop 2 else rest
    match readBody q triple body [] 0 with
    | .closed b after n =>
      .inl { st.emit (.string flags q triple b) after with line := st.line + n }
    | .openAt n =>
      let e := if triple then LexError.unterminatedTriple st.line (st.line + n)
               else LexError.unterminatedString st.line (st.line + n)
      .inr ⟨st.toks, .failure e⟩

/-- Runs the scanner for at most `fuel` steps. -/
def LexState.run : Nat → LexState → Lexed
  | 0, st => st.finish
  | fuel + 1, st =>
    match st.step with
    | .inl st' => st'.run fuel
    | .inr done => done

/-- Line breaks as the scanner sees them: `\r\n` and a lone `\r` become `\n`. -/
def unifyBreaks : List Char → List Char
  | '\r' :: '\n' :: rest => '\n' :: unifyBreaks rest
  | '\r' :: rest => '\n' :: unifyBreaks rest
  | c :: rest => c :: unifyBreaks rest
  | [] => []

/-- The tokens of a text whose first line has the number `first`. -/
def lexAt (first : Nat) (s : String) : Lexed :=
  let cs := unifyBreaks s.toList
  LexState.run (2 * cs.length + 4)
    ⟨cs, first, [], true, false, #[], false⟩

/-- The tokens of a text. -/
def lex (s : String) : Lexed := lexAt 1 s

end Dataflow.Expr
