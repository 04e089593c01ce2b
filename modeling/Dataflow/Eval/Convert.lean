import Dataflow.Eval.Order
import Dataflow.Number.Integer
/-!
# Conversions and reshaping of series

The methods of series that change the storage of their values (`astype`), give their values
as plain values (`item`, `tolist`, `to_numpy`), rename or relabel them (`rename`,
`add_prefix`, `reset_index`, `to_frame`), and a few that look values up by label.

Converting to integers refuses missing values and infinities, converting to texts gives each
value's text, and converting to truth values gives each value's truth (NaN is true).
-/

namespace Dataflow.Eval

/-! ### Changing the storage -/

/-- The storage kind a dtype name asks for: `none` for names of kinds this library does not
hold. -/
def dtypeNamed (name : String) : Option String :=
  match name with
  | "int64" | "int" | "i8" | "int_" | "long" | "<i8" => some "int64"
  | "uint64" | "u8" | "uint" | "ulong" => some "uint64"
  | "float64" | "float" | "f8" | "double" | "d" | "<f8" | "float_" => some "float64"
  | "float16" | "half" | "e" | "f2" | "<f2" => some "float16"
  | "bool" | "?" | "bool_" | "b1" => some "bool"
  | "object" | "O" | "object_" => some "object"
  | "str" | "U" | "str_" | "unicode" => some "str"
  | "complex128" | "complex" | "c16" | "cdouble" | "complex_" => some "complex128"
  | _ => none

/-- An integer from a value, as the integer constructor makes one. -/
def cellToInt (x : Cell) : Outcome Int :=
  match x with
  | .int i => .ok i
  | .bool b => .ok (if b then 1 else 0)
  | .float f =>
    if f.isNaN then fail .value "cannot convert float NaN to integer"
    else if f.isInf then fail .overflow "cannot convert float infinity to integer"
    else .ok (Decimal.truncate f)
  | .str s => match Number.readInteger? 10 s with
    | some i => .ok i
    | none => fail .value s!"invalid literal for int() with base 10: {Text.quoteText s}"
  | c => typeError s!"int() argument must be a string, a bytes-like object or a real number, not '{c.typeName}'"

/-- A float from a value, as the float constructor makes one; nothing is NaN. -/
def cellToFloat (x : Cell) : Outcome Float :=
  match x with
  | .none => .ok nan
  | .complex _ _ => typeError "float() argument must be a string or a real number, not 'complex'"
  | x => castCell x

/-- The text of a value as the text constructor gives it. -/
def cellToText (x : Cell) : String :=
  match x with
  | .float f => floatText f
  | x => x.text

/-- A column converted to the storage kind `kind` (a name from `dtypeNamed`). -/
def convertColumn (c : Column) (kind : String) : Outcome Column := do
  match kind with
  | "int64" | "uint64" =>
    let ints ← match c with
      | .float64 vs =>
        if vs.any fun f => f.isNaN || f.isInf then
          fail .value "Cannot convert non-finite values (NA or inf) to integer"
        pure (vs.map floatToInt64)
      | .complex128 vs =>
        if vs.any fun (re, im) => re.isNaN || re.isInf || im.isNaN || im.isInf then
          fail .value "Cannot convert non-finite values (NA or inf) to integer"
        pure (vs.map fun (re, _) => floatToInt64 re)
      | .object vs => vs.mapM cellToInt
      | c => pure (c.cells.map fun x => (x.asInt?).getD 0)
    if kind == "uint64" then return .uint64 (ints.map wrapU64) else return .int64 (ints.map wrap64)
  | "float64" =>
    match c with
    | .object vs => return .float64 (← vs.mapM cellToFloat)
    | c => return .float64 c.floats
  | "bool" =>
    match c with
    | .float64 vs => return .bool (vs.map fun f => f != 0 || f.isNaN)
    | .complex128 vs => return .bool (vs.map fun (re, im) => re != 0 || im != 0 || re.isNaN || im.isNaN)
    | .object vs => return .bool (vs.map fun x => x.truthy || x.isNull && !(x matches .none))
    | c => return .bool (c.cells.map Cell.truthy)
  | "float16" =>
    match c with
    | .object vs => return .float16 ((← vs.mapM cellToFloat).map Decimal.roundToHalf)
    | .float64 vs => return .float16 (vs.map Decimal.roundToHalf)
    | .complex128 vs => return .float16 (vs.map fun (re, _) => Decimal.roundToHalf re)
    | c => return .float16 (c.floats.map Decimal.toHalf)
  | "object" => return .object c.cells
  | "str" =>
    match c with
    | .float16 vs => return .object (vs.map fun f => .str (Decimal.halfText f))
    | c => return .object (c.cells.map fun x => .str (cellToText x))
  | _ =>
    match c with
    | .object vs => return .complex128 (← vs.mapM fun x => match x with
      | .complex re im => pure (re, im)
      | x => do return (← cellToFloat x, 0.0))
    | c => return .complex128 (c.cells.map Cell.complexParts)

/-- `astype`: the values converted to the storage a dtype name asks for. -/
def astypeSeries (c : Column) (b : Bound) : Outcome Column := do
  let ignore ← match b.getD "errors" (.plain (.str "raise")) with
    | .plain (.str "raise") => pure false
    | .plain (.str "ignore") => pure true
    | _ => fail .value "errors must be one of 'raise', or 'ignore'"
  let kind ← match b.getD "dtype" noneObj with
    | .plain (.str t) => match dtypeNamed t with
      | some k => pure k
      | none => typeError s!"data type {Text.quoteText t} not understood"
    | .plain .none => pure "float64"
    | o => typeError s!"Cannot interpret '{o.text}' as a data type"
  match convertColumn c kind with
  | .ok r => return r
  | .error e => if ignore then return c else .error e

/-! ### Plain values -/

/-- The value of a column at a position as a plain value. -/
def plainAt (c : Column) (i : Nat) : Obj := .plain (c.cell i)

/-- The value of a column at a position as the numeric library gives a scalar. -/
def scalarAt (c : Column) (i : Nat) : Obj :=
  match c with
  | .int64 vs => .fixed (.int64 (vs.getD i 0))
  | .float64 vs => .fixed (.float64 (vs.getD i nan))
  | .bool vs => .fixed (.bool (vs.getD i false))
  | .float16 vs => .fixed (.float16 (vs.getD i nan))
  | c => .plain (c.cell i)

/-- The position of the first label equal to a key among labels. -/
def positionOf (labels : Column) (k : Cell) : Option Nat :=
  (List.range labels.size).find? fun i => labels.cell i == k

/-- The labels with a text before (or after) each. -/
def affixLabels (labels : Column) (affix : String) (before : Bool) : Column :=
  .object (labels.cells.map fun l => .str (if before then affix ++ cellToText l else cellToText l ++ affix))

/-- The scalar of a value given as a name or label: a plain value. -/
def labelArg (o : Obj) : Outcome Cell :=
  match o.cell? with
  | some c => .ok c
  | none => typeError s!"unhashable type: '{o.typeName}'"

/-! ### Parameter lists and calls -/

/-- The parameter list of a method of this module, if it is one. -/
def convertSignature (name : String) : Option Signature :=
  match name with
  | "astype" => some (seriesMethod "NDFrame.astype" ["dtype", "copy", "errors"] 1 false false)
  | "item" => some (seriesMethod "IndexOpsMixin.item" [] 0 false false)
  | "tolist" | "to_list" => some (seriesMethod s!"IndexOpsMixin.{name}" [] 0 false false)
  | "to_numpy" => some (seriesMethod "IndexOpsMixin.to_numpy" ["dtype", "copy", "na_value"] 0 false true)
  | "copy" => some (seriesMethod "NDFrame.copy" ["deep"] 0 false false)
  | "to_frame" => some (seriesMethod "Series.to_frame" ["name"] 0 false false)
  | "reset_index" =>
    some ⟨"Series.reset_index", ["self", "level"], 1,
      [("drop", true), ("name", true), ("inplace", true), ("allow_duplicates", true)], false, false⟩
  | "rename" =>
    some ⟨"Series.rename", ["self", "index"], 1,
      [("axis", true), ("copy", true), ("inplace", true), ("level", true), ("errors", true)], false, false⟩
  | "add_prefix" => some (seriesMethod "NDFrame.add_prefix" ["prefix", "axis"] 1 false false)
  | "add_suffix" => some (seriesMethod "NDFrame.add_suffix" ["suffix", "axis"] 1 false false)
  | "squeeze" => some (seriesMethod "NDFrame.squeeze" ["axis"] 0 false false)
  | "equals" => some (seriesMethod "NDFrame.equals" ["other"] 1 false false)
  | "get" => some (seriesMethod "NDFrame.get" ["key", "default"] 1 false false)
  | "keys" => some (seriesMethod "Series.keys" [] 0 false false)
  | "first_valid_index" | "last_valid_index" => some (seriesMethod s!"NDFrame.{name}" [] 0 false false)
  | "dot" => some (seriesMethod "Series.dot" ["other"] 1 false false)
  | "transpose" => some (seriesMethod "IndexOpsMixin.transpose" [] 0 true true)
  | "infer_objects" => some (seriesMethod "NDFrame.infer_objects" ["copy"] 0 false false)
  | "repeat" => some (seriesMethod "Series.repeat" ["repeats", "axis"] 1 false false)
  | _ => none

/-- Calls a method of this module on a series with labels `labels`, its arguments bound. -/
def callConvert (labels : Column) (s : Labelled) (name : String) (b : Bound) : Outcome Obj := do
  let c := s.values
  match name with
  | "astype" => return .series (← astypeSeries c b)
  | "item" =>
    if c.size != 1 then fail .value "can only convert an array of size 1 to a Python scalar"
    return plainAt c 0
  | "tolist" | "to_list" => return .list ((List.range c.size).map (plainAt c))
  | "to_numpy" => return .labelled (Labelled.array c)
  | "copy" | "transpose" | "infer_objects" => return .series c
  | "to_frame" =>
    let name := match b.getD "name" noneObj with
      | .plain .none => if s.name matches .none then .int 0 else s.name
      | o => (o.cell?).getD s.name
    return .frame [(name, c)] labels
  | "reset_index" =>
    let drop ← (b.getD "drop" (.plain (.bool false))).truth
    if drop then return .labelled ⟨c, .labels (Column.range c.size), s.name⟩
    let name := match s.name with
      | .none => Cell.int 0
      | n => n
    return .frame [(.str "index", labels), (name, c)] (Column.range c.size)
  | "rename" =>
    match b.getD "index" noneObj with
    | .plain .none => return .labelled s
    | o => match o.cell? with
      | some n => return .labelled ⟨c, s.place, n⟩
      | none => typeError s!"'{o.typeName}' object is not callable"
  | "add_prefix" | "add_suffix" =>
    let affix ← labelArg (b.getD (if name == "add_prefix" then "prefix" else "suffix") noneObj)
    return .labelled ⟨c, .labels (affixLabels labels (cellToText affix) (name == "add_prefix")), s.name⟩
  | "squeeze" => return if c.size == 1 then scalarAt c 0 else .labelled s
  | "equals" =>
    match b.getD "other" noneObj with
    | .series d =>
      let same := c.dtype == d.dtype && c.size == d.size &&
        (List.range c.size).all fun i => sameForCount (c.cell i) (d.cell i)
      return .plain (.bool same)
    | _ => return .plain (.bool false)
  | "get" =>
    let key ← labelArg (b.getD "key" noneObj)
    match positionOf labels key with
    | some i => return scalarAt c i
    | none => return b.getD "default" noneObj
  | "keys" => return .labelled (Labelled.array labels)
  | "first_valid_index" | "last_valid_index" =>
    let nulls := c.nulls
    let present := (List.range c.size).filter fun i => !nulls.getD i false
    let pick := if name == "first_valid_index" then present.head? else present.getLast?
    match pick with
    | some i => return scalarAt labels i
    | none => return noneObj
  | "dot" =>
    match b.getD "other" noneObj with
    | .series d =>
      if d.size != c.size then fail .value "matrices are not aligned"
      evalArith .mul (.series c) (.series d) >>= fun p => match p with
        | .series q => reduceSum q
        | o => pure o
    | .list items =>
      if items.length != c.size then
        fail .value s!"Dot product shape mismatch, ({c.size},) vs ({items.length},)"
      evalArith .mul (.series c) (.series (listColumn items)) >>= fun p => match p with
        | .series q => reduceSum q
        | o => pure o
    | o => typeError s!"unsupported dot type: {o.typeName}"
  | "repeat" =>
    let k ← countArgument (b.getD "repeats" (.plain (.int 1)))
    if k < 0 then fail .value "negative dimensions are not allowed"
    let ps := (List.range c.size).flatMap fun i => List.replicate k.toNat i
    return selection s labels ps
  | _ => fail .attribute s!"'Series' object has no attribute '{name}'"
where
  /-- The sum of products, without skipping missing values. -/
  reduceSum (q : Column) : Outcome Obj := seriesSum q false 0

end Dataflow.Eval
