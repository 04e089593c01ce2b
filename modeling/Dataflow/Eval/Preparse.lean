import Dataflow.Text.Classes
/-!
# The text that evaluation parses

Evaluation does not parse an expression as written. It first splits the text into tokens by a
simpler scanner than the parser's, rewrites three operators, and joins the tokens back with
its own spacing; the parser then reads that text. The differences are visible: the scanner
takes a name to be a run of word characters, so a character that may continue a name but is
no word character (the middle dot `·`, combining marks) is a token of its own and ends up
apart from the name before it; and a keyword that the joining leaves standing as a word of its
own changes the message of a syntax error.

The scanner reads one line (the normal form of an expression has no line ends). At each place
it skips spaces, tabs and form feeds and then takes the first of these that fits:

1. the end of the text;
2. a comment, from `#` to the end;
3. the opening of a triple-quoted string, with its prefix, together with the rest of that string;
4. a number (`numberLength`);
5. an operator, the longest that fits;
6. a quoted string on one line, with its prefix;
7. a run of word characters.

When nothing fits, the character at the place, before the skipped blanks, is a token of its
own. A run of word characters is a name when its first character may begin a name, and
otherwise passes as an operator.

The rewriting reads `&` as the word `and`, `|` as `or`, and `@` as the marker of a local
name. The joining puts a space after every name and number, a space between two strings that
follow each other, and nothing elsewhere.
-/

namespace Dataflow.Eval

open Dataflow.Text

/-- The kinds of token the scanner tells apart. -/
inductive PieceKind where
  | name | number | string | operator | comment | stray
deriving DecidableEq, Repr, Inhabited

/-- A token of the scanner: its kind and its text. -/
structure Piece where
  kind : PieceKind
  text : List Char
deriving Repr, Inhabited

/-! ### Numbers -/

/-- The length of a run of `(_?d)*`, greedy: digits that pass `ok`, each possibly after one
underscore. -/
def digitRunLength (ok : Char → Bool) : List Char → Nat
  | '_' :: d :: rest => if ok d then 2 + digitRunLength ok rest else 0
  | d :: rest => if ok d then 1 + digitRunLength ok rest else 0
  | [] => 0

/-- The length of a digit part `[0-9](_?[0-9])*`, if one starts the text. -/
def digitPart (cs : List Char) : Option Nat :=
  match cs with
  | d :: rest => if d.isDigit then some (1 + digitRunLength Char.isDigit rest) else none
  | [] => none

/-- The length of an exponent `[eE][-+]?` and a digit part, if one starts the text. -/
def exponentLength (cs : List Char) : Option Nat :=
  match cs with
  | e :: rest =>
    if e == 'e' || e == 'E' then
      let sign := if rest.head? == some '-' || rest.head? == some '+' then 1 else 0
      (digitPart (rest.drop sign)).map (1 + sign + ·)
    else none
  | [] => none

/-- The ends that an optional exponent after `e` characters gives, the longer first. -/
def withExponent (cs : List Char) (e : Nat) : List Nat :=
  ((exponentLength (cs.drop e)).map (e + ·)).toList ++ [e]

/-- The possible lengths of a number with a point, in the order of preference: digits, a
point and optional digits, or a point and digits; each with an optional exponent. -/
def pointEnds (cs : List Char) : List Nat :=
  match digitPart cs with
  | some n =>
    if cs[n]? == some '.' then
      let fraction := (digitPart (cs.drop (n + 1))).map (n + 1 + ·)
      (fraction.toList ++ [n + 1]).flatMap (withExponent cs)
    else []
  | none =>
    if cs.head? == some '.' then
      match digitPart (cs.drop 1) with
      | some n => withExponent cs (1 + n)
      | none => []
    else []

/-- The possible lengths of a number with a fraction or an exponent, in the order of
preference. -/
def floatEnds (cs : List Char) : List Nat :=
  pointEnds cs ++ (match digitPart cs with
    | some n => ((exponentLength (cs.drop n)).map (n + ·)).toList
    | none => [])

/-- Whether the character at a place is the imaginary unit `j` or `J`. -/
def imaginaryAt (cs : List Char) (n : Nat) : Bool := cs[n]? == some 'j' || cs[n]? == some 'J'

/-- The length of an integer, if one starts the text: `0x`, `0b` or `0o` and digits of the
base, or a run of zeros, or decimal digits not starting with zero. -/
def integerLength (cs : List Char) : Option Nat :=
  let isHex (c : Char) := c.isDigit || ('a' ≤ c && c ≤ 'f') || ('A' ≤ c && c ≤ 'F')
  let based (ok : Char → Bool) (rest : List Char) :=
    let n := digitRunLength ok rest
    if n > 0 then some (2 + n) else none
  let prefixed := match cs with
    | '0' :: x :: rest =>
      if x == 'x' || x == 'X' then based isHex rest
      else if x == 'b' || x == 'B' then based (fun c => c == '0' || c == '1') rest
      else if x == 'o' || x == 'O' then based (fun c => '0' ≤ c && c ≤ '7') rest
      else none
    | _ => none
  match prefixed with
  | some n => some n
  | none =>
    match cs with
    | '0' :: rest => some (1 + digitRunLength (· == '0') rest)
    | d :: _ => if d.isDigit then digitPart cs else none
    | [] => none

/-- The length of a number, if one starts the text: the first that fits of an imaginary
number, a number with a fraction or exponent, and an integer. -/
def numberLength (cs : List Char) : Option Nat :=
  let imaginaryDigits := (digitPart cs).bind fun n => if imaginaryAt cs n then some (n + 1) else none
  let imaginaryFloat := ((floatEnds cs).find? (imaginaryAt cs)).map (· + 1)
  imaginaryDigits <|> imaginaryFloat <|> (floatEnds cs).head? <|> integerLength cs

/-! ### Operators and strings -/

/-- The operators of the language. -/
def operators : List String :=
  ["!=", "%", "%=", "&", "&=", "(", ")", "*", "**", "**=", "*=", "+", "+=", ",", "-", "-=",
   "->", ".", "...", "/", "//", "//=", "/=", ":", ":=", ";", "<", "<<", "<<=", "<=", "=",
   "==", ">", ">=", ">>", ">>=", "@", "@=", "[", "]", "^", "^=", "\x7b", "|", "|=", "\x7d", "~"]

/-- The length of the longest operator that starts the text. -/
def operatorLength (cs : List Char) : Option Nat :=
  operators.foldl (fun best op =>
    if op.toList.isPrefixOf cs && op.length > best.getD 0 then some op.length else best) none

/-- The prefixes of strings, in lower case; any letter of them may also be a capital. -/
def stringPrefixes : List String := ["", "b", "r", "u", "f", "br", "rb", "fr", "rf"]

/-- The length of the string prefix that starts the text and is followed by a quote. -/
def prefixLength (cs : List Char) : Option Nat :=
  [0, 1, 2].find? fun k =>
    stringPrefixes.contains (String.ofList ((cs.take k).map Char.toLower)) &&
      (cs[k]? == some '\'' || cs[k]? == some '"')

/-- The length of the body of a one-line string up to and with its closing quote `q`; a
backslash takes the character after it along. -/
def quotedLength (q : Char) : List Char → Option Nat
  | [] => none
  | c :: rest =>
    if c == q then some 1
    else if c == '\n' then none
    else if c == '\\' then
      match rest with
      | d :: more => if d == '\n' then none else (quotedLength q more).map (2 + ·)
      | [] => none
    else (quotedLength q rest).map (1 + ·)

/-- The length of the body of a triple-quoted string up to and with its three closing quotes;
a backslash takes the character after it along. -/
def tripleQuotedLength (q : Char) : List Char → Option Nat
  | [] => none
  | c :: rest =>
    if c == q && rest.take 2 == [q, q] then some 3
    else if c == '\\' then
      match rest with
      | d :: more => if d == '\n' then none else (tripleQuotedLength q more).map (2 + ·)
      | [] => none
    else (tripleQuotedLength q rest).map (1 + ·)

/-- The length of a triple-quoted string that starts the text. Without its closing quotes it
takes the rest of the text. -/
def tripleLength (cs : List Char) : Option Nat := do
  let k ← prefixLength cs
  let q ← cs[k]?
  if cs.drop k |>.take 3 |>.all (· == q) then
    if (cs.drop k).length < 3 then none
    else
      let body := cs.drop (k + 3)
      some (k + 3 + (tripleQuotedLength q body).getD body.length)
  else none

/-- The length of a one-line quoted string that starts the text. -/
def stringLength (cs : List Char) : Option Nat := do
  let k ← prefixLength cs
  let q ← cs[k]?
  let n ← quotedLength q (cs.drop (k + 1))
  some (k + 1 + n)

/-! ### Scanning -/

/-- The blanks skipped before a token. -/
def isTokenGap (c : Char) : Bool := c == ' ' || c == '\t' || c == '\x0c'

/-- The token that starts a text with no gap before it: its kind and length. -/
def pieceAt (cs : List Char) : Option (PieceKind × Nat) :=
  if cs.head? == some '#' then
    some (.comment, (cs.takeWhile fun c => c != '\r' && c != '\n').length)
  else match tripleLength cs with
  | some n => some (.string, n)
  | none => match numberLength cs with
    | some n => some (.number, n)
    | none => match operatorLength cs with
      | some n => some (.operator, n)
      | none => match stringLength cs with
        | some n => some (.string, n)
        | none =>
          let word := cs.takeWhile isWordChar
          match word with
          | c :: _ => some (if isIdentStart c then .name else .operator, word.length)
          | [] => none

/-- The tokens of a text; `fuel` bounds their number. -/
def scanPieces : Nat → List Char → List Piece
  | 0, _ => []
  | fuel + 1, cs =>
    let rest := cs.dropWhile isTokenGap
    if rest.isEmpty then []
    else match pieceAt rest with
      | some (kind, n) => ⟨kind, rest.take (max n 1)⟩ :: scanPieces fuel (rest.drop (max n 1))
      | none => ⟨.stray, cs.take 1⟩ :: scanPieces fuel (cs.drop 1)

/-- The tokens of a text. -/
def pieces (s : String) : List Piece := scanPieces (s.length + 1) s.toList

/-! ### Rewriting and joining -/

/-- The name that marks a local variable. -/
def localMarker : String := "__pd_eval_local_"

/-- Reads `&` as `and`, `|` as `or` and `@` as the local marker. -/
def rewritePiece (p : Piece) : Piece :=
  if p.kind == .operator then
    match String.ofList p.text with
    | "&" => ⟨.name, "and".toList⟩
    | "|" => ⟨.name, "or".toList⟩
    | "@" => ⟨.operator, localMarker.toList⟩
    | _ => p
  else p

/-- Joins tokens: a space after each name and number, and a space between two strings in a
row; `afterString` says whether the token before was a string. -/
def joinPieces : Bool → List Piece → List Char
  | _, [] => []
  | afterString, p :: rest =>
    let text := if p.kind == .name || p.kind == .number then p.text ++ [' '] else p.text
    let text := if p.kind == .string && afterString then ' ' :: text else text
    text ++ joinPieces (p.kind == .string) rest

/-- The text that evaluation parses for an expression. -/
def preparse (s : String) : String :=
  String.ofList (joinPieces false ((pieces s).map rewritePiece))

end Dataflow.Eval
