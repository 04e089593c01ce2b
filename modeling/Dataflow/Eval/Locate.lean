import Dataflow.Eval.Ops
/-!
# Indexing series

A key takes values out of a series in one of four ways, one for each indexer, and a fifth for
the series itself:

* by labels (`s.loc[key]`): a label gives the value there, a list of labels gives the series of
  the values there (each label must be found), a mask gives the values where it is true;
* by positions (`s.iloc[key]`): the same with positions, negative ones counted from the end; a
  series of truth values with labels cannot mask here;
* one value by its label (`s.at[key]`) or by its position (`s.iat[key]`), where lists are
  refused;
* `s[key]` reads a list of integers as positions when the labels are not numbers, and
  everything else as `loc` does.

A mask is a series, an array or a non-empty list of truth values with one value for every
label; a series with labels of its own is first put at the labels of the series it masks.
Arrays (`Place.array`) are indexed by positions only, with the array library's messages.
What several values come out as keeps the labels they had.
-/

namespace Dataflow.Eval

/-- The value at a position of a column, as indexing gives it: a fixed-width scalar for
numbers and truth values, the value itself for mixed values. -/
def columnItem (c : Column) (i : Nat) : Obj :=
  match c with
  | .int64 vs => .fixed (.int64 (vs.getD i 0))
  | .uint64 vs => .fixed (.int64 (vs.getD i 0))
  | .float64 vs => .fixed (.float64 (vs.getD i 0.0))
  | .bool vs => .fixed (.bool (vs.getD i false))
  | .float16 vs => .fixed (.float16 (vs.getD i 0.0))
  | c => .plain (c.cell i)

/-- The list text of cells, as the label index prints them. -/
def cellsText (cs : List Cell) : String :=
  "[" ++ ", ".intercalate (cs.map Cell.repr) ++ "]"

/-- The text of a label index holding some values. -/
def indexText (c : Column) : String :=
  s!"Index({cellsText c.cells.toList}, dtype='{c.dtype.name}')"

/-- The positions of the rows labelled by each key, in the order of the keys; the keys not
found, in order. -/
def lookupRows (rows : Column) (keys : List Cell) : Array Nat × List Cell :=
  keys.foldl (fun (acc : Array Nat × List Cell) k =>
    let hits := (List.range rows.size).filter fun i => rows.cell i == k
    if hits.isEmpty then (acc.1, acc.2 ++ [k]) else (acc.1 ++ hits.toArray, acc.2)) (#[], [])

/-- The failure for keys not found among labels. -/
def missingKeys (keys : Column) (missing : List Cell) (axis : String) : Failure :=
  if missing.length == keys.size then
    ⟨.key, Text.quoteText s!"None of [{indexText keys}] are in the [{axis}]"⟩
  else
    let distinct := missing.foldl (fun (acc : List Cell) x => if acc.any (· == x) then acc else acc ++ [x]) []
    ⟨.key, Text.quoteText s!"{cellsText distinct} not in index"⟩

/-- The positions of the labels a key finds, in order. -/
def labelHits (labels : Column) (k : Cell) : List Nat :=
  (List.range labels.size).filter fun i => labelFinds labels k (labels.cell i)

/-- The values of a series at some positions, with their labels; an array stays an array. -/
def Labelled.pick (rows : Column) (s : Labelled) (ps : Array Nat) : Obj :=
  match s.place with
  | .array => .labelled ⟨s.values.take ps, .array, .none⟩
  | _ => .labelled ⟨s.values.take ps, .labels ((s.index rows).take ps), s.name⟩

/-- The truth values of a column, when it holds only truth values; mixed values that are
truth values where present cannot mask. -/
def truthValues (c : Column) : Outcome (Option (Array Bool)) :=
  match c with
  | .bool bs => .ok (some bs)
  | .object cs =>
    if cs.isEmpty then .ok none
    else if cs.all (· matches .bool _) then .ok (some (cs.map Cell.truthy))
    else if cs.all fun x => x matches .bool _ || x.isNull then
      fail .value "Cannot mask with non-boolean array containing NA / NaN values"
    else .ok none
  | _ => .ok none

/-- The truth values of a list, when it is a non-empty list of them. -/
def listTruths (items : List Obj) : Option (Array Bool) :=
  let cs := items.map fun o => (o.cell?).getD .none
  if !cs.isEmpty && cs.all (· matches .bool _) then some (cs.map Cell.truthy).toArray else none

/-- A key as a mask of a series labelled `labels`, if it is one. A series with labels other
than these is put at them first, and must have a value for each. -/
def keyMask (rows labels : Column) (key : Obj) : Outcome (Option (Array Bool)) := do
  let n := labels.size
  let sized (bs : Array Bool) : Outcome (Option (Array Bool)) :=
    if bs.size != n then fail .index s!"Boolean index has wrong length: {bs.size} instead of {n}"
    else .ok (some bs)
  let aligned (own : Column) (bs : Array Bool) : Outcome (Option (Array Bool)) :=
    if sameLabels own labels then sized bs
    else
      let ps := (Array.range n).map fun i => findLabel own (labels.cell i)
      if ps.all Option.isSome then .ok (some (ps.map fun p => bs.getD (p.getD 0) false))
      else fail .index "Unalignable boolean Series provided as indexer (index of the boolean Series and of the indexed object do not match)."
  match key with
  | .series c => match ← truthValues c with
    | some bs => aligned rows bs
    | none => return none
  | .labelled ⟨c, place, _⟩ => match ← truthValues c with
    | some bs => match place with
      | .rows => aligned rows bs
      | .labels own => aligned own bs
      | .array => sized bs
    | none => return none
  | .list items => match listTruths items with
    | some bs => sized bs
    | none => return none
  | _ => return none

/-- The values of a key that is a list of keys: a list, a series or an array. -/
def keyList? (key : Obj) : Option Column :=
  match key with
  | .list items => some (listColumn items)
  | .series c => some c
  | .labelled s => some s.values
  | _ => none

/-- The values of a series at a list of labels, each of which must be found. -/
def pickLabels (rows : Column) (s : Labelled) (keys : Column) : Outcome Obj :=
  let labels := s.index rows
  let found := keys.cells.toList.map fun k => (k, labelHits labels k)
  let missing := (found.filter fun (_, hits) => hits.isEmpty).map (·.1)
  if !missing.isEmpty then .error (missingKeys keys missing "index")
  else .ok (s.pick rows (found.flatMap (·.2)).toArray)

/-- The integer of a key that is a position: plain or fixed-width integers, not truth
values. -/
def positionKey? (key : Obj) : Option Int :=
  match key with
  | .plain (.int i) | .fixed (.int64 i) => some i
  | _ => none

/-- A position counted from the end when negative, if it is within `n`. -/
def wrapPosition (n : Nat) (i : Int) : Option Nat :=
  let j := if i < 0 then i + n else i
  if 0 ≤ j && j < n then some j.toNat else none

/-- The values of a series at a list of positions, each of which must be within it. -/
def pickPositions (rows : Column) (s : Labelled) (keys : Column) : Outcome Obj := do
  let n := s.values.size
  let ps ← keys.cells.mapM fun k =>
    let i : Option Int := match k with
      | .int i => some i
      | .bool b => some (if b then 1 else 0)
      | .float f => if f.isNaN || f.isInf then none else some (Decimal.truncate f)
      | _ => none
    match i with
    | some i => match wrapPosition n i with
      | some j => pure j
      | none => fail .index "positional indexers are out-of-bounds"
    | none => fail .value s!"invalid literal for int() with base 10: {k.repr}"
  return s.pick rows ps

/-- The value (or values, for a label held several times) at a label. -/
def atLabel (rows : Column) (s : Labelled) (k : Cell) : Outcome Obj :=
  match labelHits (s.index rows) k with
  | [] => fail .key k.repr
  | [i] => .ok (columnItem s.values i)
  | hits => .ok (s.pick rows hits.toArray)

/-- `s.loc[key]`: by a mask, a list of labels, or one label; truth values are no labels
unless the labels are truth values. -/
def locLabels (rows : Column) (s : Labelled) (key : Obj) : Outcome Obj := do
  let labels := s.index rows
  if key matches .ellipsis then return .labelled s
  match ← keyMask rows labels key with
  | some m => return s.pick rows (Column.positions m)
  | none =>
    match keyList? key with
    | some keys => pickLabels rows s keys
    | none => match key.cell? with
      | some (.bool b) =>
        if labels.dtype == .bool then atLabel rows s (.bool b)
        else
          let word := if b then "True" else "False"
          fail .key (Text.quoteText s!"{word}: boolean label can not be used without a boolean index")
      | some k => atLabel rows s k
      | none => typeError s!"unhashable type: '{key.className}'"

/-- `s.iloc[key]`: by a mask without labels, a list of positions, or one position. -/
def locPositions (rows : Column) (s : Labelled) (key : Obj) : Outcome Obj := do
  let n := s.values.size
  if key matches .ellipsis then return .labelled s
  let labelledMask : Option Column := match key with
    | .series c => if c.dtype == .bool then some rows else none
    | .labelled ⟨c, .rows, _⟩ => if c.dtype == .bool then some rows else none
    | .labelled ⟨c, .labels l, _⟩ => if c.dtype == .bool then some l else none
    | _ => none
  if let some l := labelledMask then
    if l.inferred == .integer then
      fail .notImplemented "iLocation based boolean indexing on an integer type is not available"
    else fail .value "iLocation based boolean indexing cannot use an indexable as a mask"
  match ← keyMask rows (Column.range n) (match key with
      | .labelled ⟨c, _, _⟩ => .labelled (Labelled.array c)
      | .series c => .labelled (Labelled.array c)
      | k => k) with
  | some m => return s.pick rows (Column.positions m)
  | none =>
    match keyList? key with
    | some keys => pickPositions rows s keys
    | none => match positionKey? key with
      | some i => match wrapPosition n i with
        | some j => return columnItem s.values j
        | none => fail .index "single positional indexer is out-of-bounds"
      | none => typeError "Cannot index by location index with a non-integer key"

/-- `s.at[key]`: the value at one label. -/
def atOneLabel (rows : Column) (s : Labelled) (key : Obj) : Outcome Obj :=
  match keyList? key, key.cell? with
  | some _, _ => fail .value "Invalid call for scalar access (getting)!"
  | none, some k => atLabel rows s k
  | none, none => typeError s!"unhashable type: '{key.className}'"

/-- `s.iat[key]`: the value at one position. -/
def atOnePosition (s : Labelled) (key : Obj) : Outcome Obj :=
  let n := s.values.size
  match keyList? key, positionKey? key with
  | some _, _ => fail .value "Invalid call for scalar access (getting)!"
  | none, some i => match wrapPosition n i with
    | some j => .ok (columnItem s.values j)
    | none => fail .index s!"index {i} is out of bounds for axis 0 with size {n}"
  | none, none => fail .value "iAt based indexing can only have integer indexers"

/-- What an indexer takes for a key. -/
def locateIn (rows : Column) (how : Locate) (s : Labelled) (key : Obj) : Outcome Obj :=
  match how with
  | .labels => locLabels rows s key
  | .positions => locPositions rows s key
  | .label => atOneLabel rows s key
  | .position => atOnePosition s key

/-- `s[key]` for a key that is no scalar: a mask, or a list of keys, read as positions when
they are all integers and the labels are not numbers (`positional`), as labels otherwise. -/
def seriesItems (rows : Column) (s : Labelled) (key : Obj) (positional : Bool) : Outcome Obj := do
  if key matches .ellipsis then return .labelled s
  match ← keyMask rows (s.index rows) key with
  | some m => return s.pick rows (Column.positions m)
  | none =>
    match keyList? key with
    | some keys =>
      if keys.inferred == .integer && positional then pickPositions rows s keys
      else pickLabels rows s keys
    | none => fail .key (Text.quoteText key.className)

/-- `a[key]` for an array and a key that is no scalar: a mask of its length, or a list of
positions within it. -/
def arrayItems (c : Column) (key : Obj) : Outcome Obj := do
  let n := c.size
  let array (ps : Array Nat) : Obj := .labelled (Labelled.array (c.take ps))
  if key matches .ellipsis then return .labelled (Labelled.array c)
  let mask : Option Column := match key with
    | .series k => some k
    | .labelled k => some k.values
    | .list items => (listTruths items).map Column.bool
    | _ => none
  match mask with
  | some (.bool bs) =>
    if bs.size != n then
      fail .index s!"boolean index did not match indexed array along axis 0; size of axis is {n} but size of corresponding boolean axis is {bs.size}"
    else return array (Column.positions bs)
  | _ =>
    let invalid := "only integers, slices (`:`), ellipsis (`...`), numpy.newaxis (`None`) and integer or boolean arrays are valid indices"
    match keyList? key with
    | some keys =>
      if keys.size != 0 && keys.inferred != .integer then fail .index invalid
      else
        let ps ← keys.cells.mapM fun k =>
          let i := (k.asInt?).getD 0
          match wrapPosition n i with
          | some j => pure j
          | none => fail .index s!"index {i} is out of bounds for axis 0 with size {n}"
        return array ps
    | none => fail .index invalid

end Dataflow.Eval
