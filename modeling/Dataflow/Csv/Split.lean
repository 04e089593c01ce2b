import Dataflow.Text.Classes
import Dataflow.Regex.Match
/-!
# Splitting lines by a pattern or by a record reader

The second way to read a delimited file, for separators the character tokenizer does not
take: a separator of several characters is a regular expression, and a missing separator is
guessed from the first line.

* `physicalLines` cuts a text into lines, each with its ending (`\n`, `\r\n` or `\r`).
* `patternRows` strips every line of white space and splits it at the matches of a pattern;
  quotes mean nothing there.
* `recordRows` reads records as the standard record reader does: quoted fields may hold the
  delimiter and line ends, `""` in a quoted field is one quote, and a quote closed before
  something other than a delimiter or a line end is an error.
* `sniffDelimiter` picks the delimiter of a line: first from a quoted field next to a
  delimiter (`quotedDelimiter`), else by frequency (`guessDelimiter`): among the ASCII
  characters the line holds, the first of `,`, tab, `;`, space and `:`, or else the most
  frequent one (the greatest character among equals).
-/

namespace Dataflow.Csv

open Dataflow.Text

/-- The lines of a text, each with its ending. -/
def physicalLines (text : String) : List String :=
  let rec go : List Char → List Char → List String → List String
    | [], cur, acc => (if cur.isEmpty then acc else acc.cons (String.ofList cur.reverse)).reverse
    | '\r' :: '\n' :: rest, cur, acc => go rest [] (acc.cons (String.ofList ('\n' :: '\r' :: cur).reverse))
    | '\r' :: rest, cur, acc => go rest [] (acc.cons (String.ofList ('\r' :: cur).reverse))
    | '\n' :: rest, cur, acc => go rest [] (acc.cons (String.ofList ('\n' :: cur).reverse))
    | c :: rest, cur, acc => go rest (c :: cur) acc
  go text.toList [] []

/-- A text without the white space at its ends. -/
def stripBlank (s : String) : String :=
  String.ofList ((s.toList.dropWhile isBlank).reverse.dropWhile isBlank).reverse

/-- The rows of lines split at the matches of a pattern, after stripping each line. -/
def patternRows (rx : Regex.Program) (lines : List String) : List (List (Option String)) :=
  lines.map fun line => rx.split (stripBlank line)

/-- Where the record reader stands. -/
inductive RecordPhase where
  | startRecord | startField | inField | inQuoted | quoteInQuoted | afterLineEnd
deriving Repr, BEq, DecidableEq

/-- The state of the record reader between characters. -/
structure RecordState where
  phase : RecordPhase
  fields : Array String
  field : String
deriving Repr

/-- The error of a quote closed before something that is no delimiter or line end. -/
def quoteError (delimiter : Char) : String := s!"'{delimiter}' expected after '\"'"

/-- One character of a line, or the end of the line (`none`). -/
def recordStep (delimiter : Char) (s : RecordState) : Option Char → Except String RecordState
  | none => match s.phase with
    | .startRecord | .afterLineEnd => pure { s with phase := .startRecord }
    | .startField | .inField | .quoteInQuoted =>
      pure { s with phase := .startRecord, fields := s.fields.push s.field, field := "" }
    | .inQuoted => pure s
  | some c =>
    let save (next : RecordPhase) : RecordState :=
      { s with phase := next, fields := s.fields.push s.field, field := "" }
    let lineEnd := c == '\n' || c == '\r'
    let field : RecordState → Except String RecordState := fun s =>
      if lineEnd then pure { s with phase := .afterLineEnd, fields := s.fields.push s.field, field := "" }
      else if c == '"' then pure { s with phase := .inQuoted }
      else if c == delimiter then pure { s with fields := s.fields.push s.field, field := "" }
      else pure { s with phase := .inField, field := s.field.push c }
    match s.phase with
    | .startRecord => if lineEnd then pure { s with phase := .afterLineEnd } else field s
    | .startField => field s
    | .inField =>
      if lineEnd then pure (save .afterLineEnd)
      else if c == delimiter then pure (save .startField)
      else pure { s with field := s.field.push c }
    | .inQuoted =>
      if c == '"' then pure { s with phase := .quoteInQuoted }
      else pure { s with field := s.field.push c }
    | .quoteInQuoted =>
      if c == '"' then pure { s with phase := .inQuoted, field := s.field.push c }
      else if c == delimiter then pure (save .startField)
      else if lineEnd then pure (save .afterLineEnd)
      else .error (quoteError delimiter)
    | .afterLineEnd =>
      if lineEnd then pure s
      else .error "new-line character seen in unquoted field - do you need to open the file with newline=''?"

/-- Feeds a line and its end to the record reader. -/
def feedLine (delimiter : Char) (s : RecordState) (line : String) : Except String RecordState := do
  let s ← line.toList.foldlM (fun s c => recordStep delimiter s (some c)) s
  recordStep delimiter s none

/-- The records of lines: a record may run over several lines inside a quoted field. A
quoted field left open at the end is an error. -/
def recordRows (delimiter : Char) (lines : List String) : Except String (List (List String)) :=
  let rec go : List String → RecordState → List (List String) → Except String (List (List String))
    | [], s, acc =>
      if s.phase == .inQuoted || !s.field.isEmpty then .error "unexpected end of data"
      else pure acc.reverse
    | line :: rest, s, acc => do
      let s ← feedLine delimiter s line
      if s.phase == .startRecord then
        go rest { s with fields := #[], field := "" } (acc.cons s.fields.toList)
      else go rest s acc
  go lines ⟨.startRecord, #[], ""⟩ []

/-- How often a character occurs in a text. -/
def occurrences (s : String) (c : Char) : Nat := s.toList.count c

/-- The delimiter of a line: the ASCII characters it holds are the candidates; the first of
the preferred ones wins, or else the most frequent (the greatest among equals). `none` for a
line without characters. -/
def guessDelimiter (line : String) : Option Char :=
  let body := String.ofList (line.toList.filter (· != '\n'))
  let candidates := (List.range 127).filterMap fun n =>
    let c := Char.ofNat n
    let k := occurrences body c
    if k > 0 then some (c, k) else none
  match [',', '\t', ';', ' ', ':'].find? fun d => candidates.any (·.1 == d) with
  | some d => some d
  | none =>
    candidates.foldl (fun best (c, k) => match best with
      | none => some (c, k)
      | some (b, m) => if k ≥ m then some (c, k) else some (b, m)) none |>.map (·.1)

/-- The patterns that find a quoted field beside a delimiter, tried in turn, each with the
numbers of its delimiter and quote groups: a quoted field between two delimiters, at the start
of a line before one, after one at the end of a line, and alone on a line. -/
def quotedFieldPatterns : List (String × Option Nat × Nat) :=
  [("(?P<delim>[^\\w\n\"'])(?P<space> ?)(?P<quote>[\"']).*?(?P=quote)(?P=delim)", some 1, 3),
   ("(?:^|\n)(?P<quote>[\"']).*?(?P=quote)(?P<delim>[^\\w\n\"'])(?P<space> ?)", some 2, 1),
   ("(?P<delim>[^\\w\n\"'])(?P<space> ?)(?P<quote>[\"']).*?(?P=quote)(?:$|\n)", some 1, 3),
   ("(?:^|\n)(?P<quote>[\"']).*?(?P=quote)(?:$|\n)", none, 1)]

/-- The matches of a pattern in a text, left to right, none overlapping; `fuel` bounds them. -/
def matchesFrom (p : Regex.Program) (text : Array Char) : Nat → Nat → List Regex.Found
  | 0, _ => []
  | fuel + 1, start =>
    match p.searchFrom text start false with
    | none => []
    | some f => f :: matchesFrom p text fuel (if f.stop == f.start then f.stop + 1 else f.stop)

/-- Counts the values of a list in order of first appearance. -/
def tally (xs : List Char) : List (Char × Nat) :=
  xs.foldl (fun acc x =>
    if acc.any (·.1 == x) then acc.map fun (y, n) => if y == x then (y, n + 1) else (y, n)
    else acc ++ [(x, 1)]) []

/-- The first of the most frequent values of a tally. -/
def mostFrequent (t : List (Char × Nat)) : Option Char :=
  (t.foldl (fun best (c, n) => match best with
    | some (_, m) => if n > m then some (c, n) else best
    | none => some (c, n)) none).map (·.1)

/-- The delimiter beside quoted fields of a text: the first of the patterns that matches at all
decides, and its most frequent delimiter (the first seen among equals) is the delimiter; a
pattern without a delimiter group, or no match, gives none. -/
def quotedDelimiter (text : String) : Option Char :=
  let chars := text.toList.toArray
  let found := quotedFieldPatterns.findSome? fun (pat, delimGroup, _) =>
    match Regex.compile pat (Regex.flagDotAll ||| Regex.flagMultiline) with
    | .error _ => none
    | .ok p =>
      let ms := matchesFrom p chars (chars.size + 1) 0
      if ms.isEmpty then none else some (ms, delimGroup)
  match found with
  | some (ms, some g) =>
    mostFrequent (tally (ms.filterMap fun f => (f.group chars g).bind fun d => d.toList.head?))
  | _ => none

/-- The delimiter of the first line of a file: beside quoted fields, or else by frequency. -/
def sniffDelimiter (line : String) : Option Char :=
  match quotedDelimiter line with
  | some d => some d
  | none => guessDelimiter line

end Dataflow.Csv
