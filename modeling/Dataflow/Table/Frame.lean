import Dataflow.Table.Column
/-!
# Frames

A frame is a table: labelled columns of equal length, and row labels. Row labels have one or
more levels; each level is a column of its own, as long as the others. Column labels may
repeat. A series is one labelled column with its own row labels.
-/

namespace Dataflow

/-- A table of labelled columns with row labels. -/
structure Frame where
  /-- the columns with their labels, in order -/
  columns : List (Cell × Column)
  /-- the levels of the row labels -/
  index : List Column
deriving Inhabited

/-- A single labelled column with its row labels. -/
structure Series where
  name : Cell
  values : Column
  index : Column
deriving Inhabited

/-- What a selection from a table yields: a table, or a single row or column. -/
inductive Selection where
  | frame (f : Frame)
  | series (s : Series)
deriving Inhabited

namespace Frame

/-- The number of rows. -/
def rows (f : Frame) : Nat := (f.index.head?.map Column.size).getD 0

/-- The column labels, in order. -/
def labels (f : Frame) : List Cell := f.columns.map (·.1)

/-- A frame without columns and with `n` rows labelled `0 .. n - 1`. -/
def blank (n : Nat) : Frame := ⟨[], [Column.range n]⟩

/-- Whether a label names a column. -/
def hasLabel (f : Frame) (l : Cell) : Bool := f.labels.any (· == l)

/-- The rows at the given positions, in that order, labels included. -/
def takeRows (f : Frame) (ixs : Array Nat) : Frame :=
  ⟨f.columns.map fun (l, c) => (l, c.take ixs), f.index.map (·.take ixs)⟩

/-- The rows where a mask is true. -/
def selectRows (f : Frame) (mask : Array Bool) : Frame := f.takeRows (Column.positions mask)

/-- The same rows labelled `0 .. n - 1`. -/
def resetIndex (f : Frame) : Frame := ⟨f.columns, [Column.range f.rows]⟩

/-- The first `n` rows. -/
def head (f : Frame) (n : Nat) : Frame := f.takeRows (Array.range (min n f.rows))

/-- Sets a column: every column with the label is replaced, or a new column is added last. -/
def setColumn (f : Frame) (label : Cell) (c : Column) : Frame :=
  if f.hasLabel label then ⟨f.columns.map fun (l, d) => if l == label then (l, c) else (l, d), f.index⟩
  else ⟨f.columns ++ [(label, c)], f.index⟩

/-- The row labels of a row, one per level. -/
def rowLabel (f : Frame) (i : Nat) : List Cell := f.index.map (·.cell i)

end Frame

end Dataflow
