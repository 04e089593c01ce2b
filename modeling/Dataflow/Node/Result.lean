import Dataflow.Table.Frame
import Dataflow.Json.Value
import Dataflow.Failure
/-!
# Results of nodes

A node gives a result: whether it succeeded, the data it produced (a frame, or a series when a
selection gave one), an error text, and metadata. Three views of the data are derived:
the number of rows, the column labels (a series has none, and asking fails), and a preview
of the first rows as records.

A record maps column labels to values; a label that occurs twice keeps its first place and
the value of its last column, as building a dictionary from pairs does.
-/

namespace Dataflow

/-- What a node gives. -/
structure NodeResult where
  success : Bool
  data : Option Selection
  error : Option String
  /-- the metadata in the order it was set -/
  metadata : List (String × Json)
deriving Inhabited

namespace NodeResult

/-- A failed result with its error text. -/
def failed (message : String) : NodeResult := ⟨false, none, some message, []⟩

/-- A successful result. -/
def succeeded (data : Selection) (metadata : List (String × Json)) : NodeResult :=
  ⟨true, some data, none, metadata⟩

/-- The number of rows of the data; none without data. -/
def rows (r : NodeResult) : Nat :=
  match r.data with
  | none => 0
  | some (.frame f) => f.rows
  | some (.series s) => s.values.size

/-- The column labels of the data; a series has no columns. -/
def columns (r : NodeResult) : Outcome (List Cell) :=
  match r.data with
  | none => .ok []
  | some (.frame f) => .ok f.labels
  | some (.series _) => .error ⟨.attribute, "'Series' object has no attribute 'columns'"⟩

end NodeResult

/-- Adds a pair to a record: a label already present keeps its place and takes the value. -/
def recordPut (record : List (Cell × Cell)) (label value : Cell) : List (Cell × Cell) :=
  if record.any (·.1 == label) then record.map fun (l, v) => if l == label then (l, value) else (l, v)
  else record ++ [(label, value)]

/-- The record of a row of a frame. -/
def Frame.record (f : Frame) (i : Nat) : List (Cell × Cell) :=
  f.columns.foldl (fun acc (l, c) => recordPut acc l (c.cell i)) []

/-- How many rows `head n` keeps: the first `n`, or all but the last `-n`. -/
def headCount (rows : Nat) (n : Int) : Nat :=
  if n ≥ 0 then min n.toNat rows else rows - min (-n).toNat rows

namespace NodeResult

/-- The first `n` rows of the data as records (all but the last `-n` for negative `n`); a
series cannot give records. -/
def preview (r : NodeResult) (n : Int) : Outcome (List (List (Cell × Cell))) :=
  match r.data with
  | none => .ok []
  | some (.frame f) => .ok ((List.range (headCount f.rows n)).map f.record)
  | some (.series _) =>
    .error ⟨.type, "Series.to_dict() got an unexpected keyword argument 'orient'"⟩

end NodeResult

end Dataflow
