import Dataflow.Eval.Wrap
import Dataflow.Eval.Series
import Dataflow.Regex.Replace
import Dataflow.Unicode.Normalize
/-!
# Text methods of series

`series.str.method(...)` applies a method of texts to each value of a series of mixed values.

* A series has text methods when its values are mixed and the present ones are inferred to be
  texts, byte strings, values of mixed kinds, or nothing at all (`allowsText`).
* A method runs value by value (`mapValues`). A missing value stays as it is, or becomes the
  fill `na` of the tests that take one. A value the method fails on as a value of the wrong
  kind would (a type or attribute failure) gives NaN, or `na`; any other failure is the
  method's own. So a number among texts gives NaN, while an unknown encoding fails.
* The results are stored by the kinds they hold (`settleResults`): integers, truth values,
  texts, or lists and tuples for the methods that give several texts for one.
* With `expand`, the methods that give several texts for one give a table instead, a column
  for each place (`expandRows`); such a table can only be stored as one column when it has
  one column.

Arguments are checked as each method checks them before it runs: some faults fail the
method at once, the others only fail it value by value, and so give NaN.
-/

namespace Dataflow.Eval

open Dataflow.Text

/-! ### Which series have text methods -/

/-- Whether a series may use text methods: its values are mixed, and the present ones are
inferred to be texts, byte strings, values of mixed kinds, or nothing at all. -/
def allowsText (c : Column) : Bool :=
  match c with
  | .object vs =>
    match inferMixed (vs.toList.filter (!·.isNull)) with
    | .empty | .string | .mixed | .mixedInteger => true
    | _ => false
  | _ => false

/-- The name of what values are inferred to hold, as messages give it. -/
def inferredName : Inferred → String
  | .empty => "empty" | .integer => "integer" | .integerNa => "integer-na"
  | .mixedIntegerFloat => "mixed-integer-float" | .mixedInteger => "mixed-integer"
  | .floating => "floating" | .boolean => "boolean" | .string => "string" | .mixed => "mixed"
  | .complex => "complex"

/-- What the present values of a list are inferred to hold; byte strings alone count as
`bytes`. -/
def presentKind (vs : List Cell) : String :=
  let kept := vs.filter (!·.isNull)
  if !kept.isEmpty && kept.all (fun v => v matches .bytes _) then "bytes"
  else inferredName (inferMixed kept)

/-! ### Applying a method value by value -/

/-- The NaN that stands for a missing result. -/
def nanCell : Cell := .float (0.0 / 0.0)

/-- Whether a failure of a method on one value gives a missing result rather than failing the
method: the failures of a value of the wrong kind. -/
def skipsValue (e : Failure) : Bool := e.kind == .type || e.kind == .attribute

/-- Results stored by the kinds they hold: integers alone as integers, numbers with missing
values as floats, truth values alone as truth values, anything else as mixed values. Results
that are all `None` stay mixed. -/
def settleResults (out : Array Cell) : Column :=
  if out.all (· matches .none) then .object out else Column.ofCells out

/-- Applies a method to each value of a column. A missing value stays as it is, or becomes
`na` when that is given; a value the method fails on as a value of the wrong kind becomes
`na`, or NaN; any other failure fails the method. The results are settled by their kinds when
`convert` is set or some value failed, unless every value was missing and no `na` was given.
An empty column gives an empty column of the kind `empty`. -/
def mapValues (c : Column) (empty : DType) (na : Option Cell) (convert : Bool)
    (f : Cell → Outcome Cell) : Outcome Column := do
  if c.size == 0 then return Column.empty empty
  let cells := c.cells
  let results ← cells.mapM fun x =>
    if x.isNull then pure (na.getD x, false)
    else match f x with
      | .ok v => pure (v, false)
      | .error e => if skipsValue e then pure (na.getD nanCell, true) else .error e
  let out := results.map (·.1)
  let convert := convert || results.any (·.2)
  if !convert || (na.isNone && cells.all Cell.isNull) then return .object out
  return settleResults out

/-- The text a method reads from a value; any other value fails as having no such method. -/
def textOf (name : String) (x : Cell) : Outcome String :=
  match x with
  | .str s => .ok s
  | x => fail .attribute s!"'{x.typeName}' object has no attribute '{name}'"

/-- What a method of a text gives, as a cell: a list of texts as a list. -/
def resultCell (o : Obj) : Cell :=
  match o with
  | .list items => .seq false (items.map fun i => (i.cell?).getD .none)
  | o => (o.cell?).getD .none

/-- The method `name` of texts, called with arguments on a value. -/
def textMethodOf (name : String) (args : List Obj) (named : List (String × Obj)) (x : Cell) :
    Outcome Cell := do
  let s ← textOf name x
  return resultCell (← callTextMethod s name args named)

/-! ### Items and slices -/

/-- The items of a value that can be indexed: the characters of a text, the items of a list
or tuple; other values fail as having no length. -/
def itemsOf (x : Cell) : Outcome (List Cell) :=
  match x with
  | .str t => .ok (t.toList.map fun ch => .str (String.singleton ch))
  | .seq _ xs => .ok xs
  | x => typeError s!"object of type '{x.typeName}' has no len()"

/-- The item of a value at a position (`get`), counted from the end when negative; NaN when the
position lies outside. A position that is no integer gives NaN. -/
def itemAt (key : Obj) (x : Cell) : Outcome Cell := do
  let items ← itemsOf x
  match (key.cell?).bind Cell.asInt? with
  | some i =>
    let n : Int := items.length
    if -n ≤ i && i < n then return items.getD (if i < 0 then i + n else i).toNat .none
    else return nanCell
  | none => typeError "indices must be integers"

/-- A slice bound or step: an integer, or `None` for the default. -/
def sliceArg (o : Obj) : Outcome (Option Int) :=
  match o.cell? with
  | some .none => .ok none
  | some c => match c.asInt? with
    | some i => .ok (some i)
    | none => typeError "slice indices must be integers or None or have an __index__ method"
  | none => typeError "slice indices must be integers or None or have an __index__ method"

/-- The positions a slice `start:stop:step` takes from `len` items, as the language reads a
slice: negative bounds count from the end, bounds are clamped to the items, and a negative
step walks back from the end. -/
def slicePositions (len : Nat) (start stop : Option Int) (step : Int) : List Nat :=
  let n : Int := len
  let clamp (lo hi v : Int) : Int := if v < lo then lo else if v > hi then hi else v
  let adjust (lo hi : Int) (v : Int) : Int := clamp lo hi (if v < 0 then v + n else v)
  if step > 0 then
    let a := match start with | some v => adjust 0 n v | none => 0
    let b := match stop with | some v => adjust 0 n v | none => n
    let count := if a < b then ((b - a - 1) / step + 1).toNat else 0
    (List.range count).map fun (k : Nat) => (a + (k : Int) * step).toNat
  else
    let a := match start with | some v => adjust (-1) (n - 1) v | none => n - 1
    let b := match stop with | some v => adjust (-1) (n - 1) v | none => -1
    let count := if b < a then ((a - b - 1) / (-step) + 1).toNat else 0
    (List.range count).map fun (k : Nat) => (a + (k : Int) * step).toNat

/-- A slice of a value: the characters of a text, the items of a list or tuple. The step is
read first, and a step of zero fails the method. -/
def sliceOf (start stop step : Obj) (x : Cell) : Outcome Cell := do
  let step ← sliceArg step
  let step := step.getD 1
  if step == 0 then fail .value "slice step cannot be zero"
  let start ← sliceArg start
  let stop ← sliceArg stop
  match x with
  | .str t =>
    let cs := t.toList.toArray
    return .str (String.ofList ((slicePositions cs.size start stop step).map fun i => cs.getD i ' '))
  | .seq tuple xs =>
    let items := xs.toArray
    return .seq tuple ((slicePositions items.size start stop step).map fun i => items.getD i .none)
  | x => typeError s!"'{x.typeName}' object is not subscriptable"

/-- A text with a slice replaced (`slice_replace`): the text before `start`, the replacement,
and the text from `stop` on, or from `start` on when the slice is empty. -/
def sliceReplace (start stop : Option Int) (repl : String) (t : String) : String :=
  let cs := t.toList.toArray
  let pick (a b : Option Int) : String :=
    String.ofList ((slicePositions cs.size a b 1).map fun i => cs.getD i ' ')
  let localStop := if (pick start stop).isEmpty then start else stop
  let before := if start.isSome then pick none start else ""
  let after := if stop.isSome then pick localStop none else ""
  before ++ repl ++ after

/-! ### Patterns -/

/-- Compiles a pattern, failing as compiling fails. -/
def compilePattern (pat : String) (flags : Nat) : Outcome Regex.Program :=
  match Regex.compile pat flags with
  | .ok p => .ok p
  | .error r => .error r.failure

/-- The text of a pattern argument; anything else is no pattern. -/
def patternText (o : Obj) : Outcome String :=
  match o with
  | .plain (.str p) => .ok p
  | _ => typeError "first argument must be string or compiled pattern"

/-- A pattern with every character that has a meaning in patterns escaped by a backslash. -/
def escapePattern (p : String) : String :=
  let special := "()[]{}?*+-|^$\\.&~# \t\n\r\x0b\x0c".toList
  String.ofList (p.toList.flatMap fun c => if special.contains c then ['\\', c] else [c])

/-- The flags of a method that takes `case` and `flags`: ignoring case when `case` is false. -/
def caseFlags (caseful : Bool) (flags : Int) : Nat :=
  if caseful then flags.toNat else flags.toNat ||| Regex.flagIgnoreCase

/-- Whether a text contains another. -/
def containsText (s t : String) : Bool :=
  let n := t.length
  (List.range (s.length + 1)).any fun i => (s.toList.drop i).take n == t.toList

/-- The test of `contains`: a pattern searched for (compiled first without flags, then with
the flags and, when case does not count, ignoring case), or a text looked for. `none` when the
text looked for is no text, which fails value by value. -/
def containsTest (pat : Option Obj) (caseful : Bool) (flags : Int) (regex : Bool) :
    Outcome (Option (String → Bool)) := do
  if regex then
    let p ← match pat with
      | some (.plain (.str p)) => pure p
      | some _ => typeError "first argument must be string or compiled pattern"
      | none => typeError "StringMethods.contains() missing 1 required positional argument: 'pat'"
    let _ ← compilePattern p 0
    let prog ← compilePattern p (caseFlags caseful flags)
    return some prog.search
  else
    match pat with
    | some (.plain (.str p)) =>
      if caseful then return some fun s => containsText s p
      else return some fun s => containsText (Unicode.upper s) (Unicode.upper p)
    | some o =>
      if caseful then return none
      else fail .attribute s!"'{o.className}' object has no attribute 'upper'"
    | none => typeError "StringMethods.contains() missing 1 required positional argument: 'pat'"

/-- The fill for missing values of a test: `none` when not given or given as `None`. -/
def fillArg (o : Option Obj) : Option Cell :=
  match o with
  | some x => match x.cell? with
    | some .none => none
    | c => c
  | none => none

/-- A prefix or suffix argument of a test: only a text is taken (a tuple written in an
expression arrives as a list, which is refused). -/
def affixArg (o : Option Obj) : Outcome String :=
  match o with
  | some (.plain (.str s)) => .ok s
  | some x => typeError s!"expected a string or tuple, not {x.className}"
  | none => typeError "missing 1 required positional argument: 'pat'"

/-! ### Splitting and tables -/

/-- How `split` cuts a text: at a literal separator, or at the matches of a pattern. -/
inductive Cutter where
  | literal (sep : Obj)
  | pattern (p : Regex.Program)

/-- The pieces of a text at the matches of a pattern, at most `n` cuts (none or `-1` for all);
a negative count other than `-1` cuts nothing. -/
def patternPieces (p : Regex.Program) (n : Obj) (t : String) : Outcome Cell := do
  let limit ← match n.cell? with
    | some .none => pure 0
    | some c => match c.asInt? with
      | some k => pure (if k == -1 then 0 else k)
      | none => typeError s!"'{c.typeName}' object cannot be interpreted as an integer"
    | none => typeError s!"'{n.typeName}' object cannot be interpreted as an integer"
  if limit < 0 then return .seq false [.str t]
  let pieces := p.splitLimited limit.toNat t
  return .seq false (pieces.map fun piece => match piece with
    | some s => .str s
    | none => .none)

/-- How `split` cuts texts at `pat`: without a pattern, at blanks; with `regex` true, at the
matches of a pattern; with `regex` false, at a literal separator; otherwise a separator of one
character is literal and a longer one a pattern. Splitting from the right is always literal. -/
def splitCutter (fromRight : Bool) (pat regex : Obj) : Outcome Cutter :=
  match pat, regex with
  | .plain .none, _ => .ok (.literal pat)
  | _, _ =>
    if fromRight then .ok (.literal pat)
    else match pat, regex with
      | _, .plain (.bool true) => (patternText pat >>= fun p => compilePattern p 0).map .pattern
      | _, .plain (.bool false) => .ok (.literal pat)
      | .plain (.str p), _ =>
        if p.length == 1 then .ok (.literal pat) else (compilePattern p 0).map .pattern
      | .list items, _ =>
        if items.length == 1 then .ok (.literal pat)
        else typeError "first argument must be string or compiled pattern"
      | o, _ => typeError s!"object of type '{o.typeName}' has no len()"

/-- The count of a literal split: none or `0` stand for all. -/
def splitCount (n : Obj) : Obj :=
  match n.cell? with
  | some .none => .plain (.int (-1))
  | some (.int 0) => .plain (.int (-1))
  | _ => n

/-- The rows of a table that `expand` makes of per-value results: a list or tuple gives its
items, anything else itself alone; rows are filled with `None` to the longest. The table has
a column for each place, labelled by its position, at the series' labels. -/
def expandRows (labels : Column) (results : Column) : Obj :=
  let rows : List (List Cell) := results.cells.toList.map fun x => match x with
    | .seq _ items => items
    | x => [x]
  let width := rows.foldl (fun m r => max m r.length) 0
  let columns := (List.range width).map fun (k : Nat) =>
    (Cell.int k, settleResults (rows.map fun r => r.getD k .none).toArray)
  .frame columns labels

/-- The texts of the tags of a value for `get_dummies`: the value between separators. -/
def dummyText (sep : String) (x : Cell) : String :=
  match x with
  | .str t => sep ++ t ++ sep
  | x => sep ++ (if x.isNull then "" else x.text) ++ sep

/-! ### The methods -/

/-- The parameter list of a text method, if texts have a method of that name. -/
def textSignature (name : String) : Option Signature :=
  let plain (params : List String) (required : Nat) : Signature :=
    seriesMethod s!"StringMethods.{name}" params required false false
  match name with
  | "len" | "lower" | "upper" | "title" | "capitalize" | "swapcase" | "casefold" => some (plain [] 0)
  | "isalnum" | "isalpha" | "isdigit" | "isspace" | "islower" | "isupper" | "istitle"
  | "isnumeric" | "isdecimal" => some (seriesMethod "_map_and_wrap.<locals>.wrapper" [] 0 false false)
  | "strip" | "lstrip" | "rstrip" => some (plain ["to_strip"] 0)
  | "contains" => some (plain ["pat", "case", "flags", "na", "regex"] 1)
  | "match" | "fullmatch" => some (plain ["pat", "case", "flags", "na"] 1)
  | "startswith" | "endswith" => some (plain ["pat", "na"] 1)
  | "replace" => some (plain ["pat", "repl", "n", "case", "flags", "regex"] 2)
  | "count" | "findall" => some (plain ["pat", "flags"] 1)
  | "find" | "rfind" | "index" | "rindex" => some (plain ["sub", "start", "end"] 1)
  | "get" => some (plain ["i"] 1)
  | "slice" => some (plain ["start", "stop", "step"] 0)
  | "slice_replace" => some (plain ["start", "stop", "repl"] 0)
  | "split" => some { plain ["pat"] 0 with keywordOnly := [("n", true), ("expand", true), ("regex", true)] }
  | "rsplit" => some { plain ["pat"] 0 with keywordOnly := [("n", true), ("expand", true)] }
  | "partition" | "rpartition" => some (plain ["sep", "expand"] 0)
  | "join" => some (plain ["sep"] 1)
  | "pad" => some (plain ["width", "side", "fillchar"] 1)
  | "center" | "ljust" | "rjust" => some (plain ["width", "fillchar"] 1)
  | "zfill" => some (plain ["width"] 1)
  | "repeat" => some (plain ["repeats"] 1)
  | "removeprefix" => some (plain ["prefix"] 1)
  | "removesuffix" => some (plain ["suffix"] 1)
  | "extract" => some (plain ["pat", "flags", "expand"] 1)
  | "cat" => some (plain ["others", "sep", "na_rep", "join"] 0)
  | "get_dummies" => some (plain ["sep"] 0)
  | "encode" | "decode" => some (plain ["encoding", "errors"] 1)
  | "normalize" => some (plain ["form"] 1)
  | "translate" => some (plain ["table"] 1)
  | "wrap" => some (seriesMethod "StringMethods.wrap" ["width"] 1 false true)
  | _ => none

/-- A width argument: an integer, not a truth value. -/
def widthArg (o : Obj) : Outcome Unit :=
  match o with
  | .plain (.int _) | .fixed (.int64 _) => .ok ()
  | o => typeError s!"width must be of integer type, not {o.typeName}"

/-- An `expand` argument: a truth value of the language itself. -/
def expandArg (o : Obj) : Outcome Bool :=
  match o with
  | .plain (.bool b) => .ok b
  | _ => fail .value "expand must be True or False"

/-- The columns `cat` joins: the series' own values and the others given. -/
def catColumns (size : Nat) (others : Obj) : Outcome (List (Array Cell)) :=
  let mismatch : Outcome (List (Array Cell)) :=
    fail .value "If `others` contains arrays or lists (or other list-likes without an index), these must all be of the same length as the calling Series/Index."
  let refused : Outcome (List (Array Cell)) :=
    typeError "others must be Series, Index, DataFrame, np.ndarray or list-like (either containing only strings or containing only objects of type Series/Index/np.ndarray[1-dim])"
  let columnOf (o : Obj) : Option Column := match o with
    | .series c => some c
    | .labelled s => some s.values
    | _ => none
  match others with
  | .series c => .ok [c.cells]
  | .labelled s => .ok [s.values.cells]
  | .list items =>
    if items.all fun i => (columnOf i).isSome then
      .ok (items.filterMap columnOf |>.map Column.cells)
    else if items.all fun i => i.isScalar then
      if items.length == size then .ok [(items.map fun i => (i.cell?).getD .none).toArray]
      else mismatch
    else refused
  | _ => refused

/-- Joins the values of columns row by row with a separator (`cat` with others): a row with a
missing value is missing unless `naRep` stands for it. Only texts join. -/
def catRows (columns : List (Array Cell)) (sep : Obj) (naRep : Option Cell) (size : Nat) :
    Outcome Column := do
  let rows : List (List Cell) := (List.range size).map fun i => columns.map fun col => col.getD i .none
  let union := rows.map fun r => r.any Cell.isNull
  let rows : List (List Cell) := match naRep with
    | some rep => rows.map fun r => r.map fun x => if x.isNull then rep else x
    | none => rows
  let kept := (rows.zip union).filterMap fun (r, missing) =>
    if missing && naRep.isNone then none else some r
  let offending := (List.range columns.length).findSome? fun k =>
    let kind := presentKind (kept.map fun r => r.getD k .none)
    if kind == "string" || kind == "empty" then none else some kind
  if let some kind := offending then
    typeError s!"Concatenation requires list-likes containing only strings (or missing values). Offending values found in column {kind}"
  let sepText ← match sep with
    | .plain (.str t) => pure t
    | _ => if kept.isEmpty then pure "" else
      fail .value "cannot access local variable 'result' where it is not associated with a value"
  let joined (r : List Cell) : Cell := .str (sepText.intercalate (r.map Cell.text))
  let out := (rows.zip union).map fun (r, missing) =>
    if missing && naRep.isNone then nanCell else joined r
  return .object out.toArray

/-- Takes a named argument of `wrap` into the options; `none` stands for options that fail
each text, as an indent that is no text or a tab size that is no integer does. -/
def wrapOption (o : Option WrapOptions) (arg : String × Obj) : Outcome (Option WrapOptions) := do
  let (k, v) := arg
  let some o := o | return none
  match k with
  | "expand_tabs" => return some { o with expandTabs := ← v.truth }
  | "replace_whitespace" => return some { o with replaceWhitespace := ← v.truth }
  | "drop_whitespace" => return some { o with dropWhitespace := ← v.truth }
  | "break_long_words" => return some { o with breakLongWords := ← v.truth }
  | "break_on_hyphens" => return some { o with breakOnHyphens := ← v.truth }
  | "fix_sentence_endings" | "max_lines" | "placeholder" => return some o
  | "tabsize" => return ((v.cell?).bind Cell.asInt?).map fun n => { o with tabSize := n }
  | "initial_indent" => return match v with
    | .plain (.str t) => some { o with initialIndent := t }
    | _ => none
  | "subsequent_indent" => return match v with
    | .plain (.str t) => some { o with subsequentIndent := t }
    | _ => none
  | _ => typeError s!"TextWrapper.__init__() got an unexpected keyword argument '{k}'"

/-- Calls a text method of a series; `rows` are the table's row labels. -/
def callText (rows : Column) (s : Labelled) (name : String) (args : List Obj)
    (named : List (String × Obj)) : Outcome Obj := do
  let some sig := textSignature name
    | fail .attribute s!"'StringMethods' object has no attribute '{name}'"
  let b ← sig.bind args named
  let c := s.values
  let labels := s.index rows
  let series (col : Column) : Obj := s.wrap (.series col)
  let each (empty : DType) (f : Cell → Outcome Cell) : Outcome Obj := do
    return series (← mapValues c empty none true f)
  let viaText (empty : DType) (method : String) (margs : List Obj) : Outcome Obj :=
    each empty (textMethodOf method margs [])
  let arg (p : String) (d : Obj) : Obj := b.getD p d
  let int (i : Int) : Obj := .plain (.int i)
  let str (t : String) : Obj := .plain (.str t)
  let flagsOf : Outcome Int := integerArg (arg "flags" (int 0))
  match name with
  | "len" => each .int64 fun x => match x with
    | .str t => pure (.int t.length)
    | .bytes t => pure (.int t.length)
    | .seq _ items => pure (.int items.length)
    | x => typeError s!"object of type '{x.typeName}' has no len()"
  | "lower" | "upper" | "title" | "capitalize" | "swapcase" | "casefold" => viaText .object name []
  | "isalnum" | "isalpha" | "isdigit" | "isspace" | "islower" | "isupper" | "istitle"
  | "isnumeric" | "isdecimal" => viaText .bool name []
  | "strip" | "lstrip" | "rstrip" => viaText .object name [arg "to_strip" noneObj]
  | "contains" =>
    let flags ← flagsOf
    let na := fillArg (b.get? "na")
    let caseful ← (arg "case" (.plain (.bool true))).truth
    let regex ← (arg "regex" (.plain (.bool true))).truth
    let test ← containsTest (b.get? "pat") caseful flags regex
    return series (← mapValues c .bool na true fun x => do
      let t ← textOf "contains" x
      match test with
      | some f => pure (.bool (f t))
      | none => typeError "'in <string>' requires string as left operand")
  | "startswith" | "endswith" =>
    let pat ← affixArg (b.get? "pat")
    let na := fillArg (b.get? "na")
    return series (← mapValues c .bool na true fun x => do
      let t ← textOf name x
      if name == "startswith" then pure (.bool (pat.toList.isPrefixOf t.toList))
      else pure (.bool (pat.toList.isSuffixOf t.toList)))
  | "match" | "fullmatch" =>
    let caseful ← (arg "case" (.plain (.bool true))).truth
    let flags ← flagsOf
    let prog ← compilePattern (← patternText (arg "pat" noneObj)) (caseFlags caseful flags)
    let na := fillArg (b.get? "na")
    return series (← mapValues c .bool na true fun x => do
      let t ← textOf name x
      pure (.bool (prog.matchesStart (name == "fullmatch") t)))
  | "replace" =>
    let pat := arg "pat" noneObj
    let repl ← match arg "repl" noneObj with
      | .plain (.str r) => pure r
      | _ => typeError "repl must be a string or callable"
    let n := arg "n" (int (-1))
    let caseful := !(arg "case" noneObj matches .plain (.bool false))
    let flags := caseFlags caseful (← flagsOf)
    let regexArg := arg "regex" (.plain (.bool false))
    if (← regexArg.truth) || flags != 0 then
      let text ← match pat, regexArg with
        | .plain (.str p), .plain (.bool false) => pure (escapePattern p)
        | o, .plain (.bool false) =>
          typeError s!"decoding to str: need a bytes-like object, {o.typeName} found"
        | o, _ => patternText o
      let prog ← compilePattern text flags
      let count ← match n.cell? with
        | some k => match k.asInt? with
          | some i => pure (if i < 0 then 0 else i.toNat)
          | none => typeError s!"'{k.typeName}' object cannot be interpreted as an integer"
        | none => typeError s!"'{n.typeName}' object cannot be interpreted as an integer"
      each .object fun x => do
        let pieces ← prog.template repl
        let t ← textOf "sub" x
        pure (.str (prog.substitute pieces count t))
    else viaText .object "replace" [pat, str repl, n]
  | "count" | "findall" =>
    let prog ← compilePattern (← patternText (arg "pat" noneObj)) (← flagsOf).toNat
    if name == "count" then
      each .int64 fun x => do pure (.int (prog.findAll (← textOf "findall" x)).length)
    else
      each .object fun x => do
        let found := prog.findAll (← textOf "findall" x)
        pure (.seq false (found.map fun groups => match groups with
          | [g] => .str g
          | gs => .seq true (gs.map Cell.str)))
  | "find" | "rfind" | "index" | "rindex" =>
    let sub ← match arg "sub" noneObj with
      | .plain (.str t) => pure t
      | o => typeError s!"expected a string object, not {o.typeName}"
    let start := arg "start" (int 0)
    let margs := match b.get? "end" with
      | none | some (.plain .none) => [str sub, start]
      | some e => [str sub, start, e]
    viaText .int64 name margs
  | "get" => each .object (itemAt (arg "i" noneObj))
  | "slice" => each .object (sliceOf (arg "start" noneObj) (arg "stop" noneObj) (arg "step" noneObj))
  | "slice_replace" =>
    let start := arg "start" noneObj
    let stop := arg "stop" noneObj
    let repl := arg "repl" noneObj
    each .object fun x => do
      let t ← textOf "slice_replace" x
      let a ← sliceArg start
      let e ← sliceArg stop
      let r ← match repl with
        | .plain .none => pure ""
        | .plain (.str r) => pure r
        | o => typeError s!"can only concatenate str (not \"{o.typeName}\") to str"
      pure (.str (sliceReplace a e r t))
  | "split" | "rsplit" =>
    let pat := arg "pat" noneObj
    let n := arg "n" (int (-1))
    let expand ← expandArg (arg "expand" (.plain (.bool false)))
    let cutter ← splitCutter (name == "rsplit") pat (arg "regex" noneObj)
    let results ← mapValues c .object none true fun x => match cutter with
      | .literal sep => textMethodOf name [sep, splitCount n] [] x
      | .pattern p => do patternPieces p n (← textOf "split" x)
    if expand then return expandRows labels results else return series results
  | "partition" | "rpartition" =>
    let sep := arg "sep" (str " ")
    let expand ← expandArg (arg "expand" (.plain (.bool true)))
    let results ← mapValues c .object none true fun x => do
      match ← textMethodOf name [sep] [] x with
      | .seq _ parts => pure (.seq true parts)
      | v => pure v
    if expand then return expandRows labels results else return series results
  | "join" =>
    match arg "sep" noneObj with
    | .plain (.str sep) => each .object fun x => match x with
      | .str t => pure (.str (sep.intercalate (t.toList.map String.singleton)))
      | .seq _ items => do
        let texts ← items.zipIdx.mapM fun (item, i) => match item with
          | .str t => pure t
          | o => typeError s!"sequence item {i}: expected str instance, {o.typeName} found"
        pure (.str (sep.intercalate texts))
      | _ => typeError "can only join an iterable"
    | o => fail .attribute s!"'{o.typeName}' object has no attribute 'join'"
  | "pad" | "center" | "ljust" | "rjust" =>
    let width := arg "width" noneObj
    let fill := arg "fillchar" (str " ")
    match fill with
    | .plain (.str f) => if f.length != 1 then typeError "fillchar must be a character, not str"
    | o => typeError s!"fillchar must be a character, not {o.typeName}"
    widthArg width
    let method ← match name, arg "side" (str "left") with
      | "pad", .plain (.str "left") => pure "rjust"
      | "pad", .plain (.str "right") => pure "ljust"
      | "pad", .plain (.str "both") => pure "center"
      | "pad", _ => fail .value "Invalid side"
      | "center", _ => pure "center"
      | "ljust", _ => pure "ljust"
      | _, _ => pure "rjust"
    viaText .object method [width, fill]
  | "zfill" =>
    let width := arg "width" noneObj
    widthArg width
    viaText .object "zfill" [width]
  | "repeat" =>
    let repeated (t : String) (r : Int) : Cell := .str (String.join (List.replicate r.toNat t))
    match arg "repeats" noneObj with
    | .plain (.int r) | .fixed (.int64 r) =>
      each .object fun x => do pure (repeated (← textOf "__mul__" x) r)
    | o =>
      let counts ← match o with
        | .series col => pure col.cells
        | .labelled l => pure l.values.cells
        | .list items => pure (items.map fun i => (i.cell?).getD .none).toArray
        | _ => fail .value "Buffer has wrong number of dimensions (expected 1, got 0)"
      if counts.size != c.size then
        fail .value s!"Arrays were different lengths: {c.size} vs {counts.size}"
      let out ← (c.cells.zip counts).mapM fun (x, r) => match x, r.asInt? with
        | .str t, some k => pure (repeated t k)
        | x, _ =>
          if x.isNull then pure x
          else if r.isNull then pure r
          else match x with
            | .str _ => typeError s!"can't multiply sequence by non-int of type '{r.typeName}'"
            | x => typeError s!"descriptor '__mul__' requires a 'str' object but received a '{x.typeName}'"
      return series (.object out)
  | "removeprefix" =>
    let lead := arg "prefix" noneObj
    each .object fun x => do
      let t ← textOf "startswith" x
      match lead with
      | .plain (.str p) =>
        pure (.str (if p.toList.isPrefixOf t.toList then String.ofList (t.toList.drop p.length) else t))
      | o => typeError s!"startswith first arg must be str or a tuple of str, not {o.typeName}"
  | "removesuffix" => viaText .object "removesuffix" [arg "suffix" noneObj]
  | "extract" =>
    let expand ← expandArg (arg "expand" (.plain (.bool true)))
    let prog ← compilePattern (← patternText (arg "pat" noneObj)) (← flagsOf).toNat
    if prog.groups == 0 then fail .value "pattern contains no capture groups"
    let groupsOf (t : String) : Option (List (Option String)) :=
      let text := t.toList.toArray
      (prog.searchFrom text 0 false).map fun f =>
        (List.range prog.groups).map fun g => f.group text (g + 1)
    if prog.groups > 1 || expand then
      let rowsOf := c.cells.toList.map fun x => match x with
        | .str t => match groupsOf t with
          | some gs => gs.map fun g => match g with
            | some v => Cell.str v
            | none => nanCell
          | none => List.replicate prog.groups nanCell
        | _ => List.replicate prog.groups nanCell
      let names := prog.names.map fun (n, g) => (g, n)
      let columns := (List.range prog.groups).map fun k =>
        let label := match names.lookup (k + 1) with
          | some n => Cell.str n
          | none => Cell.int k
        (label, Column.object (rowsOf.map fun r => r.getD k nanCell).toArray)
      return .frame columns labels
    else
      let col ← mapValues c .object none false fun x => do
        let t ← textOf "search" x
        match groupsOf t with
        | some (g :: _) => pure (match g with | some v => .str v | none => .none)
        | _ => pure nanCell
      let groupName := (prog.names.find? fun (_, g) => g == 1).map (·.1)
      match groupName, s.wrap (.series col) with
      | some n, .labelled l => return .labelled { l with name := .str n }
      | _, o => return o
  | "cat" =>
    let kind := presentKind c.cells.toList
    if kind == "bytes" || kind == "mixed" || kind == "mixed-integer" then
      typeError s!"Cannot use .str.cat with values of inferred dtype '{kind}'."
    let sep := arg "sep" noneObj
    let sep := if sep matches .plain .none then str "" else sep
    let naRep := match arg "na_rep" noneObj with
      | .plain .none => none
      | o => o.cell?
    match arg "others" noneObj with
    | .plain .none =>
      let cells : List Cell := c.cells.toList
      let items : List Cell := match naRep with
        | none => cells.filter fun x => !x.isNull
        | some rep => cells.map fun x => if x.isNull then rep else x
      match sep with
      | .plain (.str t) =>
        let texts ← items.zipIdx.mapM fun (item, i) => match item with
          | Cell.str v => pure v
          | o => typeError s!"sequence item {i}: expected str instance, {o.typeName} found"
        return .plain (.str (t.intercalate texts))
      | o => fail .attribute s!"'{o.typeName}' object has no attribute 'join'"
    | .plain (.str _) => fail .value "Did you mean to supply a `sep` keyword?"
    | others =>
      let columns ← catColumns c.size others
      let col ← catRows (c.cells :: columns) sep naRep c.size
      return series col
  | "get_dummies" =>
    let sep ← match arg "sep" (str "|") with
      | .plain (.str t) => pure t
      | o => typeError s!"unsupported operand type(s) for +: '{o.typeName}' and 'str'"
    let texts := c.cells.toList.map (dummyText sep)
    let pieces ← texts.mapM fun t =>
      if sep.length == 1 then pure (splitAt t.toList sep.toList (-1))
      else do
        let prog ← compilePattern sep 0
        pure ((prog.splitLimited 0 t).map fun p => p.getD "")
    let tags := pieces.flatten.filter (!·.isEmpty)
    let tags := (tags.mergeSort fun a b => Cell.compareText a b != Ordering.gt).eraseDups
    let columns := tags.map fun tag =>
      let mark := sep ++ tag ++ sep
      (Cell.str tag, Column.int64 (texts.map fun t => if containsText t mark then (1 : Int) else 0).toArray)
    return .frame columns labels
  | "encode" => viaText .object "encode" [arg "encoding" noneObj, arg "errors" (str "strict")]
  | "decode" =>
    let encoding := arg "encoding" noneObj
    let errors := arg "errors" (str "strict")
    match encoding with
    | .plain (.str e) =>
      if (codecNamed e).isNone then fail .value s!"unknown encoding: {e}"
    | o => typeError s!"lookup() argument must be str, not {o.typeName}"
    each .object fun x => match x with
      | .bytes t => do return resultCell (← callBytesMethod t "decode" [encoding, errors] [])
      | x => fail .attribute s!"'{x.typeName}' object has no attribute 'decode'"
  | "normalize" =>
    let form := arg "form" noneObj
    each .object fun x => do
      let t ← textOf "normalize" x
      match form with
      | .plain (.str "NFC") => pure (.str (Unicode.normalForm true false t))
      | .plain (.str "NFD") => pure (.str (Unicode.normalForm false false t))
      | .plain (.str "NFKC") => pure (.str (Unicode.normalForm true true t))
      | .plain (.str "NFKD") => pure (.str (Unicode.normalForm false true t))
      | .plain (.str _) => fail .value "invalid normalization form"
      | o => typeError s!"normalize() argument 1 must be str, not {o.typeName}"
  | "wrap" =>
    let o ← b.extraNamed.foldlM wrapOption (some { width := 0 } : Option WrapOptions)
    let width := arg "width" noneObj
    each .object fun x => do
      let t ← textOf "wrap" x
      let some w := (width.cell?).bind Cell.asInt?
        | typeError s!"'<=' not supported between instances of '{width.typeName}' and 'int'"
      let some o := o | typeError "can only concatenate str to str"
      pure (.str (← wrapText { o with width := w } t))
  | _ => viaText .object "translate" [arg "table" noneObj]

/-- The item of each value of a series at a key (`series.str[key]`), as `get` gives it. -/
def textItems (s : Labelled) (key : Obj) : Outcome Obj := do
  return s.wrap (.series (← mapValues s.values .object none true (itemAt key)))

end Dataflow.Eval
