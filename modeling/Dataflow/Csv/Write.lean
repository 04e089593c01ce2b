import Dataflow.Table.Frame
import Dataflow.Number.Text
/-!
# Writing a frame as delimited text

A frame is written as comma-separated lines ending in `\n`: first the column labels, then
one line per row; the row labels are not written.

* Missing values (nothing, not-a-number) are written as empty fields; floats in their
  shortest form among the values of their precision (`inf` for infinity); booleans as `True`
  and `False`.
* A field is quoted when it holds a comma, a quote or a line feed; quotes inside it are
  doubled.
* A line whose only field is empty is written as `""`, so that it is not read back as an
  empty line.
-/

namespace Dataflow.Csv

/-- The text of a value in a written row: missing values are empty. -/
def writtenCell : Cell → String
  | .none => ""
  | .float f => if f.isNaN then "" else floatText f
  | c => c.text

/-- The text of a column's value in a written row; half-precision floats are written with
the fewest digits that read back among half-precision values. -/
def writtenAt (c : Column) (i : Nat) : String :=
  match c with
  | .float16 vs => let f := vs.getD i 0; if f.isNaN then "" else Decimal.halfText f
  | c => writtenCell (c.cell i)

/-- The text of a column label in the written header: nothing is empty. -/
def writtenLabel : Cell → String
  | .none => ""
  | c => c.text

/-- A field as written: quoted, with doubled quotes, when it holds a comma, a quote or a line
feed. -/
def quoteField (s : String) : String :=
  if s.toList.any (fun c => c == ',' || c == '"' || c == '\n') then
    "\"" ++ String.ofList (s.toList.flatMap fun c => if c == '"' then ['"', '"'] else [c]) ++ "\""
  else s

/-- A written line with its ending. -/
def writeLine : List String → String
  | [""] => "\"\"\n"
  | fields => ",".intercalate (fields.map quoteField) ++ "\n"

/-- The text of a frame: the header line, then the rows. -/
def writeTable (f : Frame) : String :=
  let header := writeLine (f.labels.map writtenLabel)
  let rows := (List.range f.rows).map fun i =>
    writeLine (f.columns.map fun (_, c) => writtenAt c i)
  header ++ String.join rows

end Dataflow.Csv
