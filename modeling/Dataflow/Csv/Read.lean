import Dataflow.Csv.Tokenize
import Dataflow.Csv.Infer
import Dataflow.Csv.Split
import Dataflow.Text.Utf8
import Dataflow.Table.Frame
import Dataflow.Failure
/-!
# Reading a delimited file into a frame

The bytes of a file become a frame in four steps.

1. The separator chooses the reader: one ASCII character goes to the character tokenizer
   (`Csv.Tokenize`); a longer separator is a regular expression and a non-ASCII character a
   plain delimiter, both for the line splitter (`Csv.Split`); no separator at all is guessed
   from the first line. A line break as separator is refused, and so is an empty one.
2. The bytes are decoded as UTF-8.
3. The lines of fields are cut; a field ends at its first NUL character.
4. With a header, the first line names the columns: an empty name becomes `Unnamed: i`
   (`i` its place) and a repeated name gets the first free suffix `.1`, `.2`, ... (names
   given before empty ones). A first data line longer than the header makes its extra
   leading fields the row labels (one level each); otherwise the rows are labelled from 0.
   Without a header the columns are labelled `0 .. n - 1`. Every column is typed by
   `inferColumn`; a file with a header and no data gives text columns with no rows.

A file without a line of fields has no columns and cannot be read.
-/

namespace Dataflow.Csv

open Dataflow.Text

/-- A field up to its first NUL character. -/
def fieldText (w : String) : String := String.ofList (w.toList.takeWhile (· != '\x00'))

/-! ### Column names -/

/-- The count recorded for a name (`none` is the missing name). -/
def countOf (counts : List (Option String × Nat)) (s : Option String) : Nat :=
  (counts.lookup s).getD 0

/-- Records a count for a name. -/
def setCount (counts : List (Option String × Nat)) (s : Option String) (n : Nat) :
    List (Option String × Nat) :=
  (s, n) :: counts.filter (·.1 != s)

/-- Renames the name at place `i` if it was seen before: the first suffix `.k` that gives a
name not among the current names and not counted. A missing name is written `None` in the
new name. -/
def renameAt (names : Array (Option String)) (counts : List (Option String × Nat)) (i : Nat) :
    Array (Option String) × List (Option String × Nat) :=
  let old := names.getD i none
  let rec loop : Nat → Option String → Nat → List (Option String × Nat) →
      Option String × Nat × List (Option String × Nat)
    | 0, col, cur, counts => (col, cur, counts)
    | fuel + 1, col, cur, counts =>
      if cur == 0 then (col, cur, counts)
      else
        let counts := setCount counts old (cur + 1)
        let base := old.getD "None"
        let col := some s!"{base}.{cur}"
        if names.contains col then loop fuel col (cur + 1) counts
        else loop fuel col (countOf counts col) counts
  let (col, cur, counts) := loop (2 * names.size + 2) old (countOf counts old) counts
  (names.setIfInBounds i col, setCount counts col (cur + 1))

/-- The column names of a header line whose fields may be missing (`none`): an empty name
becomes `Unnamed: i`, and repeated names are renamed, the given names before the unnamed. -/
def headerLabels (fields : List (Option String)) : List (Option String) :=
  let unnamed (f : Option String) := f == some ""
  let names := (fields.zipIdx.map fun (f, i) => if unnamed f then some s!"Unnamed: {i}" else f).toArray
  let order := ((List.range fields.length).filter fun i => !unnamed (fields.getD i none)) ++
    ((List.range fields.length).filter fun i => unnamed (fields.getD i none))
  (order.foldl (fun (acc : Array (Option String) × List (Option String × Nat)) i =>
    renameAt acc.1 acc.2 i) (names, [])).1.toList

/-- The column names of a header line. -/
def headerNames (fields : List String) : List String :=
  (headerLabels (fields.map some)).map (·.getD "")

/-! ### Frames from lines of fields -/

/-- The failure of a file without columns. -/
def noColumns : Failure := ⟨.emptyData, "No columns to parse from file"⟩

/-- The frame of data lines under column labels: the first `leading` of the `width` columns
label the rows. -/
def framed (labels : List Cell) (leading width : Nat) (data : Array (Array String)) : Frame :=
  if data.isEmpty then ⟨labels.map fun l => (l, Column.object #[]), [Column.range 0]⟩
  else
    let columns := (List.range width).map fun j => inferColumn (data.toList.map (·.getD j ""))
    let index := if leading > 0 then columns.take leading else [Column.range data.size]
    ⟨labels.zip (columns.drop leading), index⟩

/-- The frame of the lines of the character tokenizer. -/
def tokenizedFrame (header : Bool) (rows : Array (Array String)) : Outcome Frame :=
  let rows := rows.map (·.map fieldText)
  if header then
    let names := headerNames (rows.getD 0 #[]).toList
    let width := if rows.size < 2 then names.length else (rows.getD 1 #[]).size
    if width == 0 then .error noColumns
    else .ok (framed (names.map Cell.str) (width - names.length) width (rows.extract 1 rows.size))
  else
    let width := (rows.getD 0 #[]).size
    if width == 0 then .error noColumns
    else .ok (framed ((List.range width).map fun (j : Nat) => Cell.int j) 0 width rows)

/-- A row that the line splitter skips: no field, or one field of white space. -/
def isBlankRow : List (Option String) → Bool
  | [] => true
  | [some f] => (stripBlank f).isEmpty
  | _ => false

/-- The label of a column named by a field that may be missing. -/
def labelOf : Option String → Cell
  | some s => .str s
  | none => .none

/-- The frame of the rows of the line splitter, whose fields may be missing (the groups of a
separator pattern that did not match); a missing field reads as an empty one. A row longer
than the first data row allows is an error, named by its place among the rows read; `multi`
adds the hint that a separator of several characters ignores quotes. -/
def splitFrame (header multi : Bool) (rows : List (List (Option String))) : Outcome Frame :=
  let read := rows.length
  let rows := (rows.filter fun r => !isBlankRow r).map fun r => r.map (·.map fieldText)
  match rows with
  | [] => .error noColumns
  | first :: rest =>
    let (labels, data) :=
      if header then ((headerLabels first).map labelOf, rest)
      else ((List.range first.length).map fun (j : Nat) => Cell.int j, rows)
    let leading := match data with
      | row :: _ => row.length - labels.length
      | [] => 0
    let width := labels.length + leading
    let hint := if multi then
        ". Error could possibly be due to quotes being ignored when a multi-char delimiter is used."
      else ""
    match data.zipIdx.find? fun (row, _) => row.length > width with
    | some (row, i) =>
      .error ⟨.parser,
        s!"Expected {width} fields in line {read - data.length + i + 1}, saw {row.length}{hint}"⟩
    | none => .ok (framed labels leading width (data.map fun r => (r.map (·.getD "")).toArray).toArray)

/-! ### Reading -/

/-- How a file is cut into fields. -/
inductive Reader where
  /-- the character tokenizer with a one-byte delimiter -/
  | chars (delimiter : Char)
  /-- the character tokenizer with runs of blanks as separators -/
  | blanks
  /-- lines split at the matches of a pattern -/
  | pattern (rx : Regex.Program)
  /-- records with a delimiter beyond ASCII -/
  | records (delimiter : Char)
  /-- records with a delimiter guessed from the first line -/
  | guessed

/-- The reader for a separator (`none`: guess it). -/
def readerFor : Option String → Outcome Reader
  | none => .ok .guessed
  | some sep =>
    if sep == "\n" then
      .error ⟨.value, "Specified \\n as separator or delimiter. This forces the python engine " ++
        "which does not accept a line terminator. Hence it is not allowed to use the line " ++
        "terminator as separator."⟩
    else match sep.toList with
      | [] => .error ⟨.value,
        "only single character unicode strings can be converted to Py_UCS4, got length 0"⟩
      | [c] => .ok (if c.toNat < 128 then .chars c else .records c)
      | _ =>
        if sep == "\\s+" then .ok .blanks
        else match Regex.compile sep 0 with
          | .ok rx => .ok (.pattern rx)
          | .error e => .error (e.failure)

/-- Reads the bytes of a delimited file. -/
def readTable (bytes : List UInt8) (header : Bool) (sep : Option String) : Outcome Frame := do
  let reader ← readerFor sep
  let text ← match decodeUtf8 bytes with
    | .ok t => pure t
    | .error e => .error ⟨.unicodeDecode, e.message⟩
  match reader with
  | .chars d =>
    match tokenize ⟨d, header, false⟩ text with
    | .ok rows => tokenizedFrame header rows
    | .error m => .error ⟨.parser, s!"Error tokenizing data. C error: {m}"⟩
  | .blanks =>
    match tokenize ⟨' ', header, true⟩ text with
    | .ok rows => tokenizedFrame header rows
    | .error m => .error ⟨.parser, s!"Error tokenizing data. C error: {m}"⟩
  | .pattern rx => splitFrame header true (patternRows rx (physicalLines text))
  | .records d =>
    match recordRows d (physicalLines text) with
    | .ok rows => splitFrame header false (rows.map (·.map some))
    | .error m => .error ⟨.parser, m⟩
  | .guessed =>
    let lines := physicalLines text
    match sniffDelimiter (lines.headD "") with
    | none => .error ⟨.value, "Could not determine delimiter"⟩
    | some d =>
      match recordRows d lines with
      | .ok rows => splitFrame header false (rows.map (·.map some))
      | .error m => .error ⟨.parser, m⟩

end Dataflow.Csv
