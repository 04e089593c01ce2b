import Dataflow.Eval.Arguments
import Dataflow.Unicode.Casing
import Dataflow.Unicode.Category
import Dataflow.Unicode.Property
import Dataflow.Number.Exact
import Dataflow.Text.Utf8
/-!
# Methods of plain scalars

Expressions may call the methods of their constants: of integers (and truth values, which are
integers), of floats and of texts. Each method checks its arguments the way the language's
built-in methods do, with their messages (`Arity`), and computes as they do:

* texts: changes of case, stripping, searching and counting within a slice of the text
  (`slice bounds` as the language reads them, negative ones from the end), tests of prefixes
  and suffixes, replacing, splitting, joining, padding, and the tests of character classes;
* integers: their bit length and count of one bits, their conjugate and their ratio;
* floats: whether they are integral, their conjugate, their ratio and their hexadecimal text.
-/

namespace Dataflow.Eval

open Dataflow.Text

/-! ### Arguments of built-in methods -/

/-- How a built-in method takes its arguments, as its messages tell. -/
inductive Arity where
  /-- no arguments at all -/
  | nothing
  /-- exactly one positional argument -/
  | one
  /-- between `lo` and `hi` positional arguments, counted as `f() takes at least ...` -/
  | takes (lo hi : Nat)
  /-- between `lo` and `hi` positional arguments, counted as `f expected at least ...` -/
  | expects (lo hi : Nat)
  /-- between `lo` and `hi` arguments, by position or by the names given -/
  | named (lo hi : Nat) (names : List String)
deriving Inhabited

/-- The plural ending of "argument". -/
def argumentWord (n : Nat) : String := if n == 1 then "argument" else "arguments"

/-- Checks the arguments of a built-in method `owner.name` against its arity; gives the
arguments by position, named ones put in their places. -/
def Arity.check (arity : Arity) (owner name : String) (args : List Obj)
    (named : List (String × Obj)) : Outcome (List (Option Obj)) := do
  let n := args.length
  let qual := s!"{owner}.{name}"
  match arity with
  | .named lo hi names =>
    for (k, _) in named do
      if !names.contains k then typeError s!"'{k}' is an invalid keyword argument for {name}()"
    if n + named.length > hi then
      typeError s!"{name}() takes at most {hi} {argumentWord hi} ({n + named.length} given)"
    let slots := (List.range hi).map fun i =>
      match args[i]? with
      | some a => some a
      | none => named.lookup (names.getD i "")
    if (slots.take lo).any Option.isNone then
      typeError s!"{name}() takes at least {lo} {argumentWord lo} ({n} given)"
    return slots
  | _ =>
    if !named.isEmpty then typeError s!"{qual}() takes no keyword arguments"
    match arity with
    | .nothing =>
      if n > 0 then typeError s!"{qual}() takes no arguments ({n} given)"
      return []
    | .one =>
      if n != 1 then typeError s!"{qual}() takes exactly one argument ({n} given)"
      return args.map some
    | .takes lo hi =>
      if n < lo then typeError s!"{name}() takes at least {lo} {argumentWord lo} ({n} given)"
      if n > hi then typeError s!"{name}() takes at most {hi} {argumentWord hi} ({n} given)"
      return (List.range hi).map fun i => args[i]?
    | .expects lo hi =>
      if n < lo then typeError s!"{name} expected at least {lo} {argumentWord lo}, got {n}"
      if n > hi then typeError s!"{name} expected at most {hi} {argumentWord hi}, got {n}"
      return (List.range hi).map fun i => args[i]?
    | .named _ _ _ => return []

/-- A text argument, or the failure with the message `message` followed by the type found. -/
def textArg (message : String) (v : Option Obj) : Outcome String :=
  match v with
  | some (.plain (.str s)) => .ok s
  | some o => typeError s!"{message}{o.typeName}"
  | none => typeError s!"{message}NoneType"

/-- An integer argument of a built-in method. -/
def intArgOf (v : Option Obj) (default : Int) : Outcome Int :=
  match v with
  | none => .ok default
  | some o => match o.cell? with
    | some (.int i) => .ok i
    | some (.bool b) => .ok (if b then 1 else 0)
    | _ => typeError s!"'{o.typeName}' object cannot be interpreted as an integer"

/-- A slice bound: an integer, or `None` for the default. -/
def sliceBound (v : Option Obj) : Outcome (Option Int) :=
  match v with
  | none => .ok none
  | some o => match o.cell? with
    | some .none => .ok none
    | some (.int i) => .ok (some i)
    | some (.bool b) => .ok (some (if b then 1 else 0))
    | _ => typeError "slice indices must be integers or None or have an __index__ method"

/-- The start and end of a slice of a text of `len` characters, as searches read them:
negative bounds count from the end, and bounds are kept within the text (the start may lie
beyond its end). -/
def sliceRange (len : Nat) (start stop : Option Int) : Int × Int :=
  let n : Int := len
  let stop := match stop with
    | none => n
    | some e => if e > n then n else if e < 0 then max (e + n) 0 else e
  let start := match start with
    | none => 0
    | some s => if s < 0 then max (s + n) 0 else s
  (start, stop)

/-! ### Searching -/

/-- The places where `sub` occurs in `s` within `[start, stop)`, from the left, overlapping
occurrences included. -/
def occurrences (s sub : List Char) (start stop : Nat) : List Nat :=
  (List.range (stop + 1 - start)).filterMap fun k =>
    let i := start + k
    if i + sub.length ≤ stop && (s.drop i).take sub.length == sub then some i else none

/-- The first (or, `last`, the last) place of `sub` in a slice of `s`, or `-1`. -/
def findIn (last : Bool) (s sub : List Char) (start stop : Option Int) : Int :=
  let (a, e) := sliceRange s.length start stop
  if e - a < sub.length then -1
  else
    let places := occurrences s sub a.toNat e.toNat
    match (if last then places.getLast? else places.head?) with
    | some i => i
    | none => -1

/-- The number of non-overlapping occurrences of `sub` in a slice of `s`. -/
def countIn (s sub : List Char) (start stop : Option Int) : Nat :=
  let (a, e) := sliceRange s.length start stop
  if e - a < sub.length then 0
  else if sub.isEmpty then (e - a).toNat + 1
  else
    let step (acc : Nat × Nat) (i : Nat) : Nat × Nat :=
      if i ≥ acc.2 && i + sub.length ≤ e.toNat && (s.drop i).take sub.length == sub then
        (acc.1 + 1, i + sub.length)
      else acc
    ((List.range (e.toNat - a.toNat)).map (· + a.toNat) |>.foldl step (0, 0)).1

/-- Whether a slice of `s` starts (or, `atEnd`, ends) with `sub`. -/
def matchesAt (atEnd : Bool) (s sub : List Char) (start stop : Option Int) : Bool :=
  let (a, e) := sliceRange s.length start stop
  if e - sub.length < a then false
  else if sub.isEmpty then true
  else
    let piece := (s.drop a.toNat).take (e - a).toNat
    if atEnd then sub.isSuffixOf piece else sub.isPrefixOf piece

/-! ### Replacing, splitting, joining and padding -/

/-- Replaces the first `count` (all, when negative) non-overlapping occurrences of `old` by
`new`; an empty `old` matches before every character and at the end. -/
def replaceText (s old new : List Char) (count : Int) : List Char :=
  let limit : Nat := if count < 0 then s.length + 1 else count.toNat
  if old.isEmpty then
    let rec spread : Nat → List Char → List Char
      | 0, rest => rest
      | _ + 1, [] => new
      | k + 1, c :: rest => new ++ c :: spread k rest
    spread limit s
  else
    let rec go : Nat → Nat → List Char → List Char
      | 0, _, rest => rest
      | _ + 1, 0, rest => rest
      | fuel + 1, k + 1, rest =>
        if old.isPrefixOf rest then new ++ go fuel k (rest.drop old.length)
        else match rest with
          | [] => []
          | c :: more => c :: go fuel (k + 1) more
    go (s.length + 1) limit s

/-- Splits at runs of white space, at most `limit` times (no limit when negative), leading and
trailing white space left out; the last piece keeps what follows it. -/
def splitBlank (s : List Char) (limit : Int) : List String :=
  let rec go : Nat → Int → List Char → List String
    | 0, _, _ => []
    | fuel + 1, k, rest =>
      let rest := rest.dropWhile isBlank
      if rest.isEmpty then []
      else if k == 0 then [String.ofList rest]
      else
        let word := rest.takeWhile (!isBlank ·)
        String.ofList word :: go fuel (k - 1) (rest.drop word.length)
  go (s.length + 1) limit s

/-- Splits at a separator, at most `limit` times (no limit when negative). -/
def splitAt (s sep : List Char) (limit : Int) : List String :=
  let rec go : Nat → Int → List Char → List Char → List String
    | 0, _, piece, rest => [String.ofList (piece.reverse ++ rest)]
    | fuel + 1, k, piece, rest =>
      if k != 0 && sep.isPrefixOf rest then
        String.ofList piece.reverse :: go fuel (k - 1) [] (rest.drop sep.length)
      else match rest with
        | [] => [String.ofList piece.reverse]
        | c :: more => go fuel k (c :: piece) more
  go (s.length + 1) limit [] s

/-- Pads a text to `width` with `fill`: `left` characters before it and the rest after. -/
def padText (s : List Char) (fill : Char) (left right : Nat) : String :=
  String.ofList (List.replicate left fill ++ s ++ List.replicate right fill)

/-- Whether a text is in title case: capitals only after characters without case, small
letters only after characters with case, and some character with case. -/
def isTitleText (s : List Char) : Bool :=
  let step (acc : Option (Bool × Bool)) (c : Char) : Option (Bool × Bool) :=
    acc.bind fun (previous, cased) =>
      if Unicode.isUpper c || Unicode.category c == .titlecaseLetter then
        if previous then none else some (true, true)
      else if Unicode.isLower c then
        if previous then some (true, true) else none
      else some (false, cased)
  match s.foldl step (some (false, false)) with
  | some (_, cased) => cased
  | none => false

/-- Whether a text has cased characters, all of them small (or, `upper`, capital). -/
def isCaseText (upper : Bool) (s : List Char) : Bool :=
  let wrong (c : Char) : Bool :=
    Unicode.category c == .titlecaseLetter || (if upper then Unicode.isLower c else Unicode.isUpper c)
  let right (c : Char) : Bool := if upper then Unicode.isUpper c else Unicode.isLower c
  !s.any wrong && s.any right

/-! ### Encoding texts -/

/-- The codecs texts may be encoded with. -/
inductive Codec where
  | utf8 | latin1 | ascii | utf16 (order : Option Bool) | utf32 (order : Option Bool)

/-- A codec's name as encoding failures give it. -/
def Codec.name : Codec → String
  | .utf8 => "utf-8"
  | .latin1 => "latin-1"
  | .ascii => "ascii"
  | .utf16 _ => "utf-16"
  | .utf32 _ => "utf-32"

/-- An encoding's name made plain: lower case, each run of characters other than letters,
digits and points made one underscore, none at the ends. -/
def plainEncoding (name : String) : String :=
  let step (acc : List Char × Bool) (c : Char) : List Char × Bool :=
    let (out, gap) := acc
    if c.isAlphanum || c == '.' then
      (c.toLower :: (if gap && !out.isEmpty then '_' :: out else out), false)
    else (out, true)
  String.ofList (name.toList.foldl step ([], false)).1.reverse

/-- The codec an encoding name stands for; the byte order of the sixteen and thirty-two bit
codecs is `some true` for big-endian, `some false` for little-endian, and `none` for a
little-endian text after a byte-order mark. -/
def codecNamed (name : String) : Option Codec :=
  match plainEncoding name with
  | "utf_8" | "utf8" | "u8" | "utf" | "utf8_ucs2" | "utf8_ucs4" | "cp65001" => some .utf8
  | "latin_1" | "latin1" | "latin" | "l1" | "iso_8859_1" | "iso8859_1" | "8859" | "cp819"
  | "iso_ir_100" | "csisolatin1" | "ibm819" | "iso_8859_1_1987" => some .latin1
  | "ascii" | "us_ascii" | "646" | "us" | "ansi_x3.4_1968" | "ansi_x3_4_1968" | "ansi_x3.4_1986"
  | "cp367" | "csascii" | "ibm367" | "iso646_us" | "iso_646.irv_1991" | "iso_ir_6" => some .ascii
  | "utf_16" | "u16" | "utf16" => some (.utf16 none)
  | "utf_16_le" | "utf_16le" => some (.utf16 (some false))
  | "utf_16_be" | "utf_16be" => some (.utf16 (some true))
  | "utf_32" | "u32" | "utf32" => some (.utf32 none)
  | "utf_32_le" | "utf_32le" => some (.utf32 (some false))
  | "utf_32_be" | "utf_32be" => some (.utf32 (some true))
  | _ => none

/-- The bytes of a number `width` bytes wide, most significant first when `big`. -/
def numberBytes (big : Bool) (width n : Nat) : List UInt8 :=
  let low := (List.range width).map fun i => (n / Nat.pow 256 i % 256).toUInt8
  if big then low.reverse else low

/-- The UTF-8 bytes of a character. -/
def utf8Bytes (c : Char) : List UInt8 := (String.singleton c).toUTF8.toList

/-- The UTF-16 code units of a character. -/
def utf16Units (c : Char) : List Nat :=
  let n := c.toNat
  if n < 0x10000 then [n]
  else [0xD800 + (n - 0x10000) / 1024, 0xDC00 + (n - 0x10000) % 1024]

/-- A character as the escapes of encoding failures write it. -/
def escapedChar (c : Char) : String :=
  let n := c.toNat
  if n < 256 then "\\x" ++ hexPadded 2 n
  else if n < 65536 then "\\u" ++ hexPadded 4 n
  else "\\U" ++ hexPadded 8 n

/-- Encodes a text with a codec that holds only the characters below `limit`; the characters
beyond it are handled as `errors` says: a failure naming the run of them (`strict`), dropped,
replaced by `?`, or written as character references or escapes. -/
def encodeLimited (codec : String) (limit : Nat) (errors : String) (cs : List Char) :
    Outcome (List UInt8) := do
  let ascii (t : String) : List UInt8 := t.toList.map fun c => c.toNat.toUInt8
  let rec go (fuel pos : Nat) (rest : List Char) (acc : Array UInt8) : Outcome (Array UInt8) :=
    match fuel, rest with
    | 0, _ | _, [] => .ok acc
    | fuel + 1, c :: more =>
      if c.toNat < limit then go fuel (pos + 1) more (acc.push c.toNat.toUInt8)
      else
        let run := rest.takeWhile fun d => d.toNat ≥ limit
        let after := rest.drop run.length
        let next := pos + run.length
        match errors with
        | "ignore" => go fuel next after acc
        | "replace" => go fuel next after (acc ++ (run.map fun _ => (63 : UInt8)).toArray)
        | "xmlcharrefreplace" =>
          go fuel next after (acc ++ (run.flatMap fun d => ascii s!"&#{d.toNat};").toArray)
        | "backslashreplace" | "namereplace" =>
          go fuel next after (acc ++ (run.flatMap fun d => ascii (escapedChar d)).toArray)
        | "strict" | "surrogateescape" | "surrogatepass" =>
          let range := if limit == 128 then "ordinal not in range(128)" else "ordinal not in range(256)"
          if run.length == 1 then
            fail .value s!"'{codec}' codec can't encode character '{escapedChar c}' in position {pos}: {range}"
          else
            fail .value s!"'{codec}' codec can't encode characters in position {pos}-{next - 1}: {range}"
        | other => fail .key s!"unknown error handler name '{other}'"
  return (← go cs.length 0 cs #[]).toList

/-- Encodes a text with a codec. -/
def encodeText (codec : Codec) (errors : String) (cs : List Char) : Outcome (List UInt8) :=
  match codec with
  | .utf8 => .ok (cs.flatMap utf8Bytes)
  | .latin1 => encodeLimited "latin-1" 256 errors cs
  | .ascii => encodeLimited "ascii" 128 errors cs
  | .utf16 order =>
    let big := order == some true
    let mark := if order.isNone then [0xFF, 0xFE] else []
    .ok (mark ++ cs.flatMap fun c => (utf16Units c).flatMap (numberBytes big 2))
  | .utf32 order =>
    let big := order == some true
    let mark := if order.isNone then [0xFF, 0xFE, 0, 0] else []
    .ok (mark ++ cs.flatMap fun c => numberBytes big 4 c.toNat)

/-- The bytes of a byte string. -/
def byteList (s : String) : List UInt8 := s.toList.map fun c => c.toNat.toUInt8

/-- The byte string of some bytes. -/
def ofBytes (bs : List UInt8) : String := String.ofList (bs.map fun b => Char.ofNat b.toNat)

/-! ### Lines, tabs and tables of texts -/

/-- Whether a character ends a line, as splitting a text into lines reads it. -/
def isLineBreak (c : Char) : Bool :=
  c == '\n' || c == '\r' || c == '\x0b' || c == '\x0c' || c == '\x1c' || c == '\x1d' ||
    c == '\x1e' || c == '\x85' || c == '\u2028' || c == '\u2029'

/-- The lines of a text, each with its line break when `keep`; a carriage return followed by
a line feed is one break. -/
def splitLines (keep : Bool) (cs : List Char) : List String :=
  let rec go (fuel : Nat) (line : List Char) (rest : List Char) (out : List String) : List String :=
    match fuel, rest with
    | 0, _ => out.reverse
    | _, [] => (if line.isEmpty then out else String.ofList line.reverse :: out).reverse
    | fuel + 1, c :: more =>
      if isLineBreak c then
        let (brk, after) := if c == '\r' && more.head? == some '\n' then ([c, '\n'], more.drop 1)
          else ([c], more)
        let text := String.ofList line.reverse ++ (if keep then String.ofList brk else "")
        go fuel [] after (text :: out)
      else go fuel (c :: line) more out
  go (cs.length + 1) [] cs []

/-- A text with its tabs expanded to blanks up to the next multiple of `size` columns; line
breaks start the count again. -/
def expandTabs (size : Int) (cs : List Char) : String :=
  let step (acc : List Char × Nat) (c : Char) : List Char × Nat :=
    let (out, col) := acc
    if c == '\t' then
      if size > 0 then
        let k := size.toNat - col % size.toNat
        (List.replicate k ' ' ++ out, col + k)
      else (out, col)
    else if c == '\n' || c == '\r' then (c :: out, 0)
    else (c :: out, col + 1)
  String.ofList (cs.foldl step ([], 0)).1.reverse

/-! ### Methods of texts -/

/-- The methods of texts that expressions may call. -/
def textMethodNames : List String :=
  ["upper", "lower", "title", "capitalize", "swapcase", "strip", "lstrip", "rstrip", "find",
   "rfind", "index", "rindex", "count", "startswith", "endswith", "replace", "split", "rsplit",
   "join", "zfill", "center", "ljust", "rjust", "isdigit", "isalpha", "isalnum", "isspace",
   "islower", "isupper", "istitle", "isnumeric", "isdecimal", "isidentifier", "isprintable",
   "isascii", "removeprefix", "removesuffix", "partition", "rpartition", "casefold",
   "expandtabs", "encode", "translate", "splitlines", "format"]

/-- A text result. -/
def textObj (s : String) : Obj := .plain (.str s)

/-- A list of texts as a value. -/
def textsObj (ss : List String) : Obj := .list (ss.map textObj)

/-- Calls a method of a text. -/
def callTextMethod (s : String) (name : String) (args : List Obj) (named : List (String × Obj)) :
    Outcome Obj := do
  let cs := s.toList
  let ok (b : Bool) : Outcome Obj := .ok (.plain (.bool b))
  let nothing : Outcome Unit := do let _ ← Arity.nothing.check "str" name args named
  let nonEmptyAll (p : Char → Bool) : Outcome Obj := do
    nothing
    ok (!cs.isEmpty && cs.all p)
  match name with
  | "upper" => nothing *> pure (textObj (Unicode.upper s))
  | "lower" => nothing *> pure (textObj (Unicode.lower s))
  | "title" => nothing *> pure (textObj (Unicode.title s))
  | "capitalize" => nothing *> pure (textObj (Unicode.capitalize s))
  | "swapcase" => nothing *> pure (textObj (Unicode.swapcase s))
  | "strip" | "lstrip" | "rstrip" =>
    let ps ← (Arity.expects 0 1).check "str" name args named
    let chars ← match ps.getD 0 none with
      | none | some (.plain .none) => pure none
      | some (.plain (.str t)) => pure (some t.toList)
      | some _ => typeError s!"{name} arg must be None or str"
    let drop (c : Char) : Bool := match chars with
      | some t => t.contains c
      | none => isBlank c
    let left := if name == "rstrip" then cs else cs.dropWhile drop
    let both := if name == "lstrip" then left else (left.reverse.dropWhile drop).reverse
    return textObj (String.ofList both)
  | "find" | "rfind" | "index" | "rindex" | "count" =>
    let ps ← (Arity.takes 1 3).check "str" name args named
    let sub ← textArg "must be str, not " (ps.getD 0 none)
    let start ← sliceBound (ps.getD 1 none)
    let stop ← sliceBound (ps.getD 2 none)
    if name == "count" then return .plain (.int (countIn cs sub.toList start stop))
    let i := findIn (name == "rfind" || name == "rindex") cs sub.toList start stop
    if i < 0 && (name == "index" || name == "rindex") then fail .value "substring not found"
    return .plain (.int i)
  | "startswith" | "endswith" =>
    let ps ← (Arity.takes 1 3).check "str" name args named
    let sub ← match ps.getD 0 none with
      | some (.plain (.str t)) => pure t
      | some o => typeError s!"{name} first arg must be str or a tuple of str, not {o.typeName}"
      | none => typeError s!"{name} first arg must be str or a tuple of str, not NoneType"
    let start ← sliceBound (ps.getD 1 none)
    let stop ← sliceBound (ps.getD 2 none)
    ok (matchesAt (name == "endswith") cs sub.toList start stop)
  | "replace" =>
    let ps ← (Arity.expects 2 3).check "str" name args named
    let old ← textArg "replace() argument 1 must be str, not " (ps.getD 0 none)
    let new ← textArg "replace() argument 2 must be str, not " (ps.getD 1 none)
    let count ← intArgOf (ps.getD 2 none) (-1)
    return textObj (String.ofList (replaceText cs old.toList new.toList count))
  | "split" | "rsplit" =>
    let ps ← (Arity.named 0 2 ["sep", "maxsplit"]).check "str" name args named
    let limit ← intArgOf (ps.getD 1 none) (-1)
    match ps.getD 0 none with
    | none | some (.plain .none) =>
      if name == "split" then return textsObj (splitBlank cs limit)
      else return textsObj ((splitBlank cs.reverse limit).reverse.map fun w => String.ofList w.toList.reverse)
    | some (.plain (.str sep)) =>
      if sep.isEmpty then fail .value "empty separator"
      if name == "split" then return textsObj (splitAt cs sep.toList limit)
      else return textsObj ((splitAt cs.reverse sep.toList.reverse limit).reverse.map
        fun w => String.ofList w.toList.reverse)
    | some o => typeError s!"must be str or None, not {o.typeName}"
  | "join" =>
    let ps ← Arity.one.check "str" name args named
    let items ← match ps.getD 0 none with
      | some (.list items) => pure items
      | some (.plain (.str t)) => pure (t.toList.map fun c => textObj (String.singleton c))
      | _ => typeError "can only join an iterable"
    let texts ← items.zipIdx.mapM fun (o, i) => match o with
      | .plain (.str t) => pure t
      | o => typeError s!"sequence item {i}: expected str instance, {o.typeName} found"
    return textObj (s.intercalate texts)
  | "zfill" =>
    let ps ← Arity.one.check "str" name args named
    let width ← intArgOf (ps.getD 0 none) 0
    if width ≤ cs.length then return textObj s
    let fill := List.replicate (width.toNat - cs.length) '0'
    let signed := cs.head? == some '+' || cs.head? == some '-'
    if signed then return textObj (String.ofList (cs.take 1 ++ fill ++ cs.drop 1))
    return textObj (String.ofList (fill ++ cs))
  | "center" | "ljust" | "rjust" =>
    let ps ← (Arity.expects 1 2).check "str" name args named
    let width ← intArgOf (ps.getD 0 none) 0
    let fill ← match ps.getD 1 none with
      | none => pure ' '
      | some (.plain (.str t)) => match t.toList with
        | [c] => pure c
        | _ => typeError "The fill character must be exactly one character long"
      | some o => typeError s!"{name}() argument 2 must be str, not {o.typeName}"
    if width ≤ cs.length then return textObj s
    let margin := width.toNat - cs.length
    match name with
    | "ljust" => return textObj (padText cs fill 0 margin)
    | "rjust" => return textObj (padText cs fill margin 0)
    | _ =>
      let left := margin / 2 + (if margin % 2 == 1 && width.toNat % 2 == 1 then 1 else 0)
      return textObj (padText cs fill left (margin - left))
  | "isdigit" => nonEmptyAll Unicode.isDigit
  | "isalpha" => nonEmptyAll Unicode.isLetter
  | "isalnum" => nonEmptyAll Unicode.isAlnum
  | "isspace" => nonEmptyAll isBlank
  | "isnumeric" => nonEmptyAll Unicode.isNumeric
  | "isdecimal" => nonEmptyAll Unicode.isDecimal
  | "isprintable" => nothing *> ok (cs.all isPrintable)
  | "isascii" => nothing *> ok (cs.all fun c => c.toNat < 128)
  | "isidentifier" => nothing *> ok (Unicode.isIdentifier s)
  | "islower" => nothing *> ok (isCaseText false cs)
  | "isupper" => nothing *> ok (isCaseText true cs)
  | "istitle" => nothing *> ok (isTitleText cs)
  | "removeprefix" | "removesuffix" =>
    let ps ← Arity.one.check "str" name args named
    let affix ← textArg s!"{name}() argument must be str, not " (ps.getD 0 none)
    if name == "removeprefix" then
      return textObj (if affix.toList.isPrefixOf cs then String.ofList (cs.drop affix.length) else s)
    else
      return textObj (if affix.toList.isSuffixOf cs then String.ofList (cs.take (cs.length - affix.length)) else s)
  | "partition" | "rpartition" =>
    let ps ← Arity.one.check "str" name args named
    let sep ← textArg "must be str, not " (ps.getD 0 none)
    if sep.isEmpty then fail .value "empty separator"
    let i := findIn (name == "rpartition") cs sep.toList none none
    if i < 0 then
      if name == "partition" then return textsObj [s, "", ""] else return textsObj ["", "", s]
    let j := i.toNat
    return textsObj [String.ofList (cs.take j), sep, String.ofList (cs.drop (j + sep.length))]
  | "casefold" => nothing *> pure (textObj (Unicode.casefold s))
  | "expandtabs" =>
    let ps ← (Arity.named 0 1 ["tabsize"]).check "str" name args named
    let size ← intArgOf (ps.getD 0 none) 8
    return textObj (expandTabs size cs)
  | "splitlines" =>
    let ps ← (Arity.named 0 1 ["keepends"]).check "str" name args named
    let keep ← intArgOf (ps.getD 0 none) 0
    return textsObj (splitLines (keep != 0) cs)
  | "encode" =>
    let ps ← (Arity.named 0 2 ["encoding", "errors"]).check "str" name args named
    let encoding ← match ps.getD 0 none with
      | none => pure "utf-8"
      | some (.plain (.str e)) => pure e
      | some o => typeError s!"encode() argument 'encoding' must be str, not {o.typeName}"
    let errors ← match ps.getD 1 none with
      | none => pure "strict"
      | some (.plain (.str e)) => pure e
      | some o => typeError s!"encode() argument 'errors' must be str, not {o.typeName}"
    let some codec := codecNamed encoding | fail .value s!"unknown encoding: {encoding}"
    return .plain (.bytes (ofBytes (← encodeText codec errors cs)))
  | "translate" =>
    let ps ← Arity.one.check "str" name args named
    let table ← match ps.getD 0 none with
      | some (.plain (.str t)) => pure (t.toList.map fun c => textObj (String.singleton c))
      | some (.list items) => pure items
      | some (.plain c) => typeError s!"'{c.typeName}' object is not subscriptable"
      | some (.fixed x) => typeError s!"'{x.cell.typeName}' object is not subscriptable"
      | _ => pure []
    let out ← cs.mapM fun c => match table[c.toNat]? with
      | none => pure (String.singleton c)
      | some o => match o.cell? with
        | some (.str t) => pure t
        | some .none => pure ""
        | some (.int i) =>
          if 0 ≤ i && i < 0x110000 then pure (String.singleton (Char.ofNat i.toNat))
          else fail .value "character mapping must be in range(0x110000)"
        | some (.bool b) => pure (String.singleton (Char.ofNat (if b then 1 else 0)))
        | _ => typeError "character mapping must return integer, None or str"
    return textObj (String.join out)
  | _ => fail .attribute s!"'str' object has no attribute '{name}'"

/-! ### Methods of numbers -/

/-- The methods of integers (and truth values) that expressions may call. -/
def intMethodNames : List String :=
  ["bit_length", "bit_count", "conjugate", "as_integer_ratio", "to_bytes", "from_bytes"]

/-- The methods of floats that expressions may call. -/
def floatMethodNames : List String := ["is_integer", "conjugate", "as_integer_ratio", "hex"]

/-- The number of binary digits of a natural number. -/
def bitLength (n : Nat) : Nat := if n == 0 then 0 else Nat.log2 n + 1

/-- The number of one bits of a natural number. -/
def bitCount (n : Nat) : Nat := (Nat.toDigits 2 n).filter (· == '1') |>.length

/-- The bytes of an integer, `length` of them, most significant first when `big`; negative
integers in two's complement when `signed`. -/
def intBytes (i : Int) (length : Nat) (big signed : Bool) : Outcome (List UInt8) := do
  if i < 0 && !signed then fail .overflow "can't convert negative int to unsigned"
  let bound : Int := Int.pow 2 (8 * length)
  let fits := if signed then -(bound / 2) ≤ i && i < bound / 2 else i < bound
  if !fits then fail .overflow "int too big to convert"
  let n := if i < 0 then (i + bound).toNat else i.toNat
  return numberBytes big length n

/-- The integer of some bytes, most significant first when `big`; in two's complement when
`signed`. -/
def bytesInt (bs : List UInt8) (big signed : Bool) : Int :=
  let ordered := if big then bs else bs.reverse
  let n : Nat := ordered.foldl (fun acc b => acc * 256 + b.toNat) 0
  let bound : Nat := Nat.pow 2 (8 * bs.length)
  if signed && 2 * n ≥ bound && bs.length > 0 then (n : Int) - bound else n

/-- The byte-order argument of the conversions between integers and bytes: whether it is
big-endian. -/
def byteOrderArg (name : String) (v : Option Obj) : Outcome Bool :=
  match v with
  | none => .ok true
  | some (.plain (.str "big")) => .ok true
  | some (.plain (.str "little")) => .ok false
  | some (.plain (.str _)) => fail .value "byteorder must be either 'little' or 'big'"
  | some o => typeError s!"{name}() argument 'byteorder' must be str, not {o.typeName}"

/-- The arguments of the conversions between integers and bytes: two by position or name,
and `signed` by name only. -/
def bytesArguments (name first : String) (args : List Obj) (named : List (String × Obj)) :
    Outcome (Option Obj × Option Obj × Bool) := do
  if args.length > 2 then
    typeError s!"{name}() takes at most 2 positional arguments ({args.length} given)"
  let rest := named.filter fun (k, _) => k != "signed"
  let ps ← (Arity.named 0 2 [first, "byteorder"]).check "int" name args rest
  let signed ← match named.lookup "signed" with
    | none => pure false
    | some o => o.truth
  return (ps.getD 0 none, ps.getD 1 none, signed)

/-- Calls a method of an integer. -/
def callIntMethod (i : Int) (name : String) (args : List Obj) (named : List (String × Obj)) :
    Outcome Obj := do
  if name == "to_bytes" then
    let (length, order, signed) ← bytesArguments name "length" args named
    let length ← intArgOf length 1
    let big ← byteOrderArg name order
    if length < 0 then fail .value "length argument must be non-negative"
    return .plain (.bytes (ofBytes (← intBytes i length.toNat big signed)))
  if name == "from_bytes" then
    let (source, order, signed) ← bytesArguments name "bytes" args named
    let bs ← match source with
      | some (.plain (.bytes t)) => pure (byteList t)
      | some (.list items) => items.mapM fun o => match o.cell? with
        | some (.int k) =>
          if 0 ≤ k && k < 256 then pure k.toNat.toUInt8 else fail .value "bytes must be in range(0, 256)"
        | _ => typeError s!"'{o.typeName}' object cannot be interpreted as an integer"
      | some o => typeError s!"cannot convert '{o.typeName}' object to bytes"
      | none => typeError "from_bytes() missing required argument 'bytes' (pos 1)"
    let big ← byteOrderArg name order
    return .plain (.int (bytesInt bs big signed))
  let _ ← Arity.nothing.check "int" name args named
  match name with
  | "bit_length" => return .plain (.int (bitLength i.natAbs))
  | "bit_count" => return .plain (.int (bitCount i.natAbs))
  | "conjugate" => return .plain (.int i)
  | "as_integer_ratio" => return .list [.plain (.int i), .plain (.int 1)]
  | _ => fail .attribute s!"'int' object has no attribute '{name}'"

/-- The exact ratio of a finite float, in lowest terms with a positive denominator. -/
def floatRatio (f : Float) : Int × Nat :=
  let (negative, m, q) := Decimal.parts f
  let sign : Int := if negative then -1 else 1
  if q ≥ 0 then (sign * (m * Nat.pow 2 q.toNat : Nat), 1)
  else
    let den := Nat.pow 2 q.natAbs
    let g := Nat.gcd m den
    (sign * (m / g : Nat), den / g)

/-- The hexadecimal text of a float: `0x1.<13 hex digits>p<exponent>` for normal numbers. -/
def floatHex (f : Float) : String :=
  if f.isNaN then "nan"
  else if f.isInf then (if f < 0 then "-inf" else "inf")
  else
    let bits := f.toBits
    let sign := if bits >>> 63 == 1 then "-" else ""
    let expo := ((bits >>> 52) &&& 0x7ff).toNat
    let mant := (bits &&& 0xfffffffffffff).toNat
    if expo == 0 && mant == 0 then sign ++ "0x0.0p+0"
    else
      let digits := String.ofList ((Nat.toDigits 16 (mant + Nat.pow 2 52)).drop 1)
      let (lead, e) : String × Int := if expo == 0 then ("0", -1022) else ("1", (expo : Int) - 1023)
      let esign := if e < 0 then "-" else "+"
      s!"{sign}0x{lead}.{digits}p{esign}{e.natAbs}"

/-- Calls a method of a float. -/
def callFloatMethod (f : Float) (name : String) (args : List Obj) (named : List (String × Obj)) :
    Outcome Obj := do
  let _ ← Arity.nothing.check "float" name args named
  match name with
  | "is_integer" => return .plain (.bool (!f.isNaN && !f.isInf && f == f.round))
  | "conjugate" => return .plain (.float f)
  | "hex" => return textObj (floatHex f)
  | "as_integer_ratio" =>
    if f.isNaN then fail .value "cannot convert NaN to integer ratio"
    if f.isInf then fail .overflow "cannot convert Infinity to integer ratio"
    let (num, den) := floatRatio f
    return .list [.plain (.int num), .plain (.int den)]
  | _ => fail .attribute s!"'float' object has no attribute '{name}'"

/-! ### Methods of byte strings -/

/-- The methods of byte strings that expressions may call. -/
def bytesMethodNames : List String :=
  ["decode", "hex", "upper", "lower", "isdigit", "isalpha", "isalnum", "isspace", "isascii"]

/-- Whether a byte is an ASCII letter. -/
def isAsciiLetter (b : UInt8) : Bool := (65 ≤ b && b ≤ 90) || (97 ≤ b && b ≤ 122)

/-- Whether a byte is an ASCII digit. -/
def isAsciiDigit (b : UInt8) : Bool := 48 ≤ b && b ≤ 57

/-- Whether a byte is ASCII white space. -/
def isAsciiSpace (b : UInt8) : Bool := b == 32 || (9 ≤ b && b ≤ 13)

/-- Calls a method of a byte string. -/
def callBytesMethod (s : String) (name : String) (args : List Obj) (named : List (String × Obj)) :
    Outcome Obj := do
  let bs := byteList s
  let test (p : UInt8 → Bool) : Outcome Obj := do
    let _ ← Arity.nothing.check "bytes" name args named
    return .plain (.bool (!bs.isEmpty && bs.all p))
  match name with
  | "decode" =>
    let ps ← (Arity.named 0 2 ["encoding", "errors"]).check "bytes" name args named
    let encoding ← match ps.getD 0 none with
      | none => pure "utf-8"
      | some (.plain (.str e)) => pure (String.ofList (e.toList.map Char.toLower))
      | some o => typeError s!"decode() argument 'encoding' must be str, not {o.typeName}"
    if ["utf-8", "utf8", "utf_8", "u8"].contains encoding then
      match Text.decodeUtf8 bs with
      | .ok t => return textObj t
      | .error e => fail .unicodeDecode e.message
    else if ["latin-1", "latin1", "latin_1", "iso-8859-1", "iso8859-1"].contains encoding then
      return textObj s
    else if encoding == "ascii" then
      match bs.zipIdx.find? fun (b, _) => b ≥ 128 with
      | some (b, i) =>
        fail .value s!"'ascii' codec can't decode byte 0x{Text.hexByte b} in position {i}: ordinal not in range(128)"
      | none => return textObj s
    else fail .value s!"unknown encoding: {encoding}"
  | "hex" =>
    let _ ← Arity.nothing.check "bytes" name args named
    return textObj (String.join (bs.map Text.hexByte))
  | "upper" =>
    let _ ← Arity.nothing.check "bytes" name args named
    return .plain (.bytes (ofBytes (bs.map fun b => if 97 ≤ b && b ≤ 122 then b - 32 else b)))
  | "lower" =>
    let _ ← Arity.nothing.check "bytes" name args named
    return .plain (.bytes (ofBytes (bs.map fun b => if 65 ≤ b && b ≤ 90 then b + 32 else b)))
  | "isdigit" => test isAsciiDigit
  | "isalpha" => test isAsciiLetter
  | "isalnum" => test fun b => isAsciiLetter b || isAsciiDigit b
  | "isspace" => test isAsciiSpace
  | "isascii" =>
    let _ ← Arity.nothing.check "bytes" name args named
    return .plain (.bool (bs.all (· < 128)))
  | _ => fail .attribute s!"'bytes' object has no attribute '{name}'"

/-! ### Attributes -/

/-- An attribute of a plain scalar: a method, or one of the number attributes `real`, `imag`,
`numerator` and `denominator`. -/
def cellAttr (c : Cell) (name : String) : Outcome Obj :=
  let missing : Outcome Obj := fail .attribute s!"'{c.typeName}' object has no attribute '{name}'"
  match c with
  | .str _ => if textMethodNames.contains name then .ok (.cellMethod c name) else missing
  | .int _ | .bool _ =>
    let i := (c.asInt?).getD 0
    match name with
    | "real" | "numerator" => .ok (.plain (.int i))
    | "imag" => .ok (.plain (.int 0))
    | "denominator" => .ok (.plain (.int 1))
    | _ => if intMethodNames.contains name then .ok (.cellMethod c name) else missing
  | .float f =>
    match name with
    | "real" => .ok (.plain (.float f))
    | "imag" => .ok (.plain (.float 0.0))
    | _ => if floatMethodNames.contains name then .ok (.cellMethod c name) else missing
  | .complex re im =>
    match name with
    | "real" => .ok (.plain (.float re))
    | "imag" => .ok (.plain (.float im))
    | "conjugate" => .ok (.cellMethod c name)
    | _ => missing
  | .bytes _ => if bytesMethodNames.contains name then .ok (.cellMethod c name) else missing
  | .none | .other _ _ _ | .seq _ _ => missing

/-- Calls a method of a plain scalar. -/
def callCellMethod (self : Cell) (name : String) (args : List Obj) (named : List (String × Obj)) :
    Outcome Obj :=
  match self with
  | .str s => callTextMethod s name args named
  | .int i => callIntMethod i name args named
  | .bool b => callIntMethod (if b then 1 else 0) name args named
  | .float f => callFloatMethod f name args named
  | .complex re im =>
    if !named.isEmpty then typeError "complex.conjugate() takes no keyword arguments"
    else if !args.isEmpty then
      typeError s!"complex.conjugate() takes no arguments ({args.length} given)"
    else .ok (.plain (.complex re (-im)))
  | .bytes s => callBytesMethod s name args named
  | c => fail .attribute s!"'{c.typeName}' object has no attribute '{name}'"

end Dataflow.Eval
