import Dataflow.Eval.Value
import Dataflow.Failure
/-!
# Aligning series by their labels

A series whose values stand at labels of their own (`Place.labels`) meets the rows of the
table by label: the value at a row is the value at the row's label, and a row whose label the
series lacks gets a missing value. A missing value does not fit every storage kind, so a
column that gets one widens: integers become floats and truth values become mixed values.
When the labels are the rows' labels in the same order, nothing moves and nothing widens.
Looking labels up needs each label once; a series holding a label twice cannot be aligned.

An array (`Place.array`) has no labels: its values meet the rows by position.

Operations that know nothing of labels take series at the table's rows (`Obj.atRows`); what
they give back is put in the place of their operands and named after them (`Labelled.wrap`).
Two operands that are series keep their name only when they share it.
-/

namespace Dataflow.Eval

/-- Whether two columns of labels hold equal labels in the same order. -/
def sameLabels (a b : Column) : Bool :=
  a.size == b.size && (List.range a.size).all fun i => a.cell i == b.cell i

/-- Whether a column of labels holds some label twice. -/
def hasDuplicates (l : Column) : Bool :=
  (List.range l.size).any fun i => (List.range i).any fun j => l.cell j == l.cell i

/-- The position of the first label equal to a key. -/
def findLabel (l : Column) (k : Cell) : Option Nat :=
  (List.range l.size).find? fun i => l.cell i == k

/-- The values at some positions, a missing value where there is no position: with a missing
value, numbers become floats (complex numbers stay complex), and other values become mixed
values with NaN for the missing ones. -/
def pickOrMissing (c : Column) (ps : Array (Option Nat)) : Column :=
  if ps.all Option.isSome then c.take (ps.map (·.getD 0))
  else
    let nan : Float := 0.0 / 0.0
    match c with
    | .int64 _ | .uint64 _ | .float64 _ =>
      let fs := c.floats
      .float64 (ps.map fun p => match p with
        | some i => fs.getD i nan
        | none => nan)
    | .complex128 vs =>
      .complex128 (ps.map fun p => match p with
        | some i => vs.getD i (nan, 0.0)
        | none => (nan, 0.0))
    | .float16 vs =>
      .float16 (ps.map fun p => match p with
        | some i => vs.getD i nan
        | none => nan)
    | c => .object (ps.map fun p => match p with
      | some i => c.cell i
      | none => .float nan)

/-- The values of a series labelled `labels`, put at the labels `target`. -/
def reindex (c labels target : Column) : Outcome Column :=
  if sameLabels labels target then .ok c
  else if hasDuplicates labels then fail .value "cannot reindex on an axis with duplicate labels"
  else .ok (pickOrMissing c ((Array.range target.size).map fun i => findLabel labels (target.cell i)))

namespace Labelled

/-- A series at the table's rows. -/
def atTable (c : Column) (name : Cell) : Labelled := ⟨c, .rows, name⟩

/-- An array. -/
def array (c : Column) : Labelled := ⟨c, .array, .none⟩

/-- The labels of a series: the table's row labels, its own, or its positions. -/
def index (rows : Column) (s : Labelled) : Column :=
  match s.place with
  | .rows => rows
  | .labels l => l
  | .array => Column.range s.values.size

/-- Whether a series is an array. -/
def isArray (s : Labelled) : Bool := s.place matches .array

/-- The values of a series at the rows of the table; an array stays as it is. -/
def atRows (rows : Column) (s : Labelled) : Outcome Column :=
  match s.place with
  | .rows | .array => .ok s.values
  | .labels l => reindex s.values l rows

/-- The series put at the rows of the table, with its name. -/
def settle (rows : Column) (s : Labelled) : Outcome Labelled :=
  match s.place with
  | .labels l => do
    if sameLabels l rows then return ⟨s.values, .rows, s.name⟩
    return ⟨← reindex s.values l rows, .rows, s.name⟩
  | _ => .ok s

/-- A result computed from a series, put in its place with its name: a column as long as the
series takes its labels; other results stay as they are. -/
def wrap (s : Labelled) (o : Obj) : Obj :=
  match o with
  | .series c =>
    if c.size == s.values.size then .labelled ⟨c, s.place, s.name⟩
    else .labelled ⟨c, .array, .none⟩
  | o => o

end Labelled

/-- The series a value is, if it is one (an unnamed column at the rows counts). -/
def Obj.labelled? : Obj → Option Labelled
  | .labelled s => some s
  | .series c => some ⟨c, .rows, .none⟩
  | _ => none

/-- A value with its series put at the rows of the table, as operations that know nothing of
labels take them; an array stays at its positions. -/
def Obj.atRows (rows : Column) : Obj → Outcome Obj
  | .labelled s => (s.atRows rows).map .series
  | o => .ok o

/-- The place and name of the result of an operation on two values: series at the same labels
keep them, series at different labels meet at the table's rows, a series keeps its place
against a scalar or an array, and two series keep a name only when they share it. `none` when
neither value is a series. -/
def pairPlace (rows : Column) (x y : Obj) : Outcome (Option (Place × Cell) × Obj × Obj) := do
  match x.labelled?, y.labelled? with
  | some s, some t =>
    let name := if s.isArray then t.name
      else if t.isArray then s.name
      else if s.name == t.name then s.name else .none
    match s.place, t.place with
    | .array, .array => return (some (.array, .none), .series s.values, .series t.values)
    | .array, p | p, .array => return (some (p, name), .series s.values, .series t.values)
    | .labels l, .labels m =>
      if sameLabels l m then return (some (.labels l, name), .series s.values, .series t.values)
      else return (some (.rows, name), .series (← s.atRows rows), .series (← t.atRows rows))
    | _, _ => return (some (.rows, name), .series (← s.atRows rows), .series (← t.atRows rows))
  | some s, none => return (some (s.place, s.name), .series s.values, y)
  | none, some t => return (some (t.place, t.name), x, .series t.values)
  | none, none => return (none, x, y)

/-- A result put in a place with a name, when it is a column. -/
def placeResult (shape : Option (Place × Cell)) (o : Obj) : Obj :=
  match shape, o with
  | some (p, name), .series c =>
    match p with
    | .array => .labelled ⟨c, .array, .none⟩
    | p => .labelled ⟨c, p, name⟩
  | _, o => o

end Dataflow.Eval
