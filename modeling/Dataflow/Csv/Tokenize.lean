/-!
# Splitting delimited text into fields

The tokenizer of the table reader: a machine that reads the text one character at a time and
cuts it into lines of fields.

* A line ends at `\n`, at `\r\n` or at a lone `\r`.
* Fields are separated by the delimiter. A field that starts with `"` is quoted: up to the
  closing quote, delimiters and line ends are plain characters, and `""` stands for one quote.
  A quote inside an unquoted field is a plain character.
* In blank-separated mode any run of spaces and tabs separates fields, and blanks at the start
  or end of a line separate nothing.
* A line that is empty, or holds only spaces and tabs, is skipped. A line that starts with
  blanks and then something else is read again from its start, so its blanks belong to its
  first field.
* Every line after the first is held to the number of fields of the line before it: a shorter
  line is padded with empty fields, a longer one is an error. When the first line is a header,
  the line after it is free to be longer (its extra leading fields then label the rows).
* The text may end inside a field; a quoted field left open is an error.

Reading again from the start of a line goes back to just after the last `\n`, never before
the place where the current reading pass began: the header lines are read in a first pass and
the rest in a second, and a line that ends in a lone `\r` gives no `\n` to stop at.
-/

namespace Dataflow.Csv

/-- Where the machine stands between characters. -/
inductive Phase where
  /-- at the start of a line -/
  | startRecord
  /-- at the start of a field -/
  | startField
  /-- inside an unquoted field -/
  | inField
  /-- inside a quoted field -/
  | inQuoted
  /-- just after a quote inside a quoted field -/
  | quoteInQuoted
  /-- just after a `\r` that ended a line of fields -/
  | afterCarriage
  /-- just after a `\r` that ended a skipped line -/
  | afterBlankCarriage
  /-- inside a line that so far holds only blanks -/
  | blankLine
  /-- inside a run of blanks after a field, in blank-separated mode -/
  | betweenFields
deriving Repr, BEq, DecidableEq

/-- What the tokenizer is told: the delimiter, whether the first line is a header, and
whether runs of blanks separate the fields instead of the delimiter. -/
structure Dialect where
  delimiter : Char
  header : Bool
  blanks : Bool
deriving Repr

/-- Whether a character separates fields. -/
def Dialect.separates (d : Dialect) (c : Char) : Bool :=
  if d.blanks then c == ' ' || c == '\t' else c == d.delimiter

/-- The number of lines read in the first pass. -/
def Dialect.firstPass (d : Dialect) : Nat := if d.header then 2 else 1

/-- The lines at the start that the field count does not hold: the header's follower is free
to be longer. -/
def Dialect.freeLines (d : Dialect) : Nat := if d.header then 1 else 0

/-- The state of the machine. -/
structure Machine where
  phase : Phase
  /-- the lines read, each padded to its final fields -/
  rows : Array (Array String)
  /-- the fields of the current line -/
  fields : Array String
  /-- the characters of the current field -/
  field : String
  /-- the lines of the text passed so far, skipped ones included -/
  fileLines : Nat
  /-- where reading again from the start of a line stops -/
  bound : Nat
deriving Repr

/-- The machine before the text. -/
def Machine.initial : Machine := ⟨.startRecord, #[], #[], "", 0, 0⟩

/-- A blank that may start a skipped line. -/
def isBlankChar (c : Char) : Bool := c == ' ' || c == '\t'

/-- Ends the current field. -/
def Machine.endField (m : Machine) : Machine :=
  { m with fields := m.fields.push m.field, field := "" }

/-- Adds a character to the current field. -/
def Machine.push (m : Machine) (c : Char) : Machine :=
  { m with field := m.field.push c }

/-- Ends the current line: pads it to the fields of the line before, or refuses it when it
has more than that line and is not free. -/
def Machine.endLine (d : Dialect) (m : Machine) : Except String Machine :=
  let lines := m.rows.size
  let count := m.fields.size
  match m.rows.back? with
  | none => .ok { m with rows := m.rows.push m.fields, fields := #[], fileLines := m.fileLines + 1 }
  | some before =>
    let expected := before.size
    if lines > d.freeLines && count > expected then
      .error s!"Expected {expected} fields in line {m.fileLines + 1}, saw {count}\n"
    else
      let padded := m.fields ++ Array.replicate (expected - count) ""
      .ok { m with rows := m.rows.push padded, fields := #[], fileLines := m.fileLines + 1 }

/-- Where a line that starts with blanks is read again: just after the last `\n` before `i`,
but not before `bound`. -/
def resumeAt (text : Array Char) (bound i : Nat) : Nat :=
  match ((List.range' bound (i + 1 - bound)).reverse.find? fun k => text[k]? == some '\n') with
  | some k => k + 1
  | none => bound

/-- A character at the start of a field. -/
def startField (d : Dialect) (m : Machine) (c : Char) (i : Nat) : Except String (Machine × Nat) :=
  if c == '\n' then do
    let m ← m.endField.endLine d
    pure ({ m with phase := .startRecord }, i + 1)
  else if c == '\r' then pure ({ m.endField with phase := .afterCarriage }, i + 1)
  else if c == '"' then pure ({ m with phase := .inQuoted }, i + 1)
  else if d.separates c then
    if d.blanks then pure ({ m with phase := .betweenFields }, i + 1)
    else pure ({ m.endField with phase := .startField }, i + 1)
  else pure ({ m.push c with phase := .inField }, i + 1)

/-- The phase after a separator that ended a field. -/
def Dialect.afterSeparator (d : Dialect) : Phase := if d.blanks then .betweenFields else .startField

/-- One character: the machine after it and the place of the next character to read (the
same place when the character is read again). -/
def step (d : Dialect) (text : Array Char) (m : Machine) (c : Char) (i : Nat) :
    Except String (Machine × Nat) :=
  match m.phase with
  | .blankLine =>
    if c == '\n' then pure ({ m with phase := .startRecord, fileLines := m.fileLines + 1 }, i + 1)
    else if c == '\r' then
      pure ({ m with phase := .afterBlankCarriage, fileLines := m.fileLines + 1 }, i + 1)
    else if isBlankChar c && (d.blanks || c != d.delimiter) then pure (m, i + 1)
    else if d.blanks then startField d m c i
    else pure ({ m with phase := .startField }, resumeAt text m.bound i)
  | .betweenFields =>
    if c == '\n' then do
      let m ← m.endLine d
      pure ({ m with phase := .startRecord }, i + 1)
    else if c == '\r' then pure ({ m with phase := .afterCarriage }, i + 1)
    else if isBlankChar c then pure (m, i + 1)
    else startField d m c i
  | .startRecord =>
    if c == '\n' then pure ({ m with fileLines := m.fileLines + 1 }, i + 1)
    else if c == '\r' then
      pure ({ m with phase := .afterBlankCarriage, fileLines := m.fileLines + 1 }, i + 1)
    else if isBlankChar c && (d.blanks || c != d.delimiter) then
      pure ({ m with phase := .blankLine }, i + 1)
    else startField d m c i
  | .startField => startField d m c i
  | .inField =>
    if c == '\n' then do
      let m ← m.endField.endLine d
      pure ({ m with phase := .startRecord }, i + 1)
    else if c == '\r' then pure ({ m.endField with phase := .afterCarriage }, i + 1)
    else if d.separates c then pure ({ m.endField with phase := d.afterSeparator }, i + 1)
    else pure (m.push c, i + 1)
  | .inQuoted =>
    if c == '"' then pure ({ m with phase := .quoteInQuoted }, i + 1)
    else pure (m.push c, i + 1)
  | .quoteInQuoted =>
    if c == '"' then pure ({ m.push c with phase := .inQuoted }, i + 1)
    else if d.separates c then pure ({ m.endField with phase := d.afterSeparator }, i + 1)
    else if c == '\n' then do
      let m ← m.endField.endLine d
      pure ({ m with phase := .startRecord }, i + 1)
    else if c == '\r' then pure ({ m.endField with phase := .afterCarriage }, i + 1)
    else pure ({ m.push c with phase := .inField }, i + 1)
  | .afterCarriage =>
    if c == '\n' then do
      let m ← m.endLine d
      pure ({ m with phase := .startRecord }, i + 1)
    else if d.separates c then do
      let m ← m.endLine d
      if d.blanks then pure ({ m with phase := .betweenFields }, i + 1)
      else pure ({ m.endField with phase := .startField }, i + 1)
    else do
      let m ← m.endLine d
      pure ({ m with phase := .startRecord }, i)
  | .afterBlankCarriage =>
    pure ({ m with phase := .startRecord }, if c != '\n' && !d.separates c then i else i + 1)

/-- The end of the text: the open line is closed, unless a quoted field is still open. -/
def finish (d : Dialect) (m : Machine) : Except String Machine :=
  match m.phase with
  | .startRecord | .blankLine | .afterBlankCarriage => pure m
  | .inQuoted => .error s!"EOF inside string starting at row {m.fileLines}"
  | .inField | .startField | .quoteInQuoted => m.endField.endLine d
  | .afterCarriage | .betweenFields => m.endLine d

/-- Runs the machine from place `i`; `fuel` bounds the steps (every character is read at most
three times, so four steps a character always suffice). -/
def run (d : Dialect) (text : Array Char) : Nat → Nat → Machine → Except String Machine
  | 0, _, m => finish d m
  | fuel + 1, i, m =>
    match text[i]? with
    | none => finish d m
    | some c => do
      let (next, j) ← step d text m c i
      let next :=
        if m.rows.size < d.firstPass && d.firstPass ≤ next.rows.size then { next with bound := j }
        else next
      run d text fuel j next

/-- The lines of fields of a text, or the tokenizer's complaint. A byte order mark at the
start is skipped. -/
def tokenize (d : Dialect) (text : String) : Except String (Array (Array String)) :=
  let chars := match text.toList with
    | '﻿' :: rest => rest
    | cs => cs
  let arr := chars.toArray
  (run d arr (4 * arr.size + 4) 0 Machine.initial).map (·.rows)

end Dataflow.Csv
