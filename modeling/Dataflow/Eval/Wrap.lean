import Dataflow.Eval.Builtin
import Dataflow.Regex.Replace
/-!
# Wrapping texts into lines

A text wrapped to a width: its tabs expanded and its white space made blanks, cut into chunks
(runs of blanks, words, and the parts of hyphenated words), and the chunks put on lines of at
most `width` characters, each line after its indent.

* A chunk that fits goes on the current line; the first chunk that does not starts the next.
* A chunk longer than any line is cut: after its last hyphen that fits, when there are other
  characters before it, and otherwise at the width. Without `breakLongWords` it stays whole,
  on a line of its own.
* With `dropWhitespace`, blanks at the start of a line (but the first) and at its end are
  dropped.

The chunks are the pieces of the text at the matches of one pattern: a run of blanks, a run of
two or more hyphens between words, or a word up to a hyphen between letters, up to blanks or
the end, or up to a run of hyphens.
-/

namespace Dataflow.Eval

open Dataflow.Text

/-- How texts are wrapped. -/
structure WrapOptions where
  width : Int
  expandTabs : Bool := true
  tabSize : Int := 8
  replaceWhitespace : Bool := true
  dropWhitespace : Bool := true
  breakLongWords : Bool := true
  breakOnHyphens : Bool := true
  initialIndent : String := ""
  subsequentIndent : String := ""

/-- The pattern whose matches cut a text into chunks, hyphenated words apart. -/
def chunkPattern : String :=
  "([\\t\\n\\x0b\\x0c\\r ]+|(?<=[\\w!\"'&.,?])-{2,}(?=\\w)|[^\\t\\n\\x0b\\x0c\\r ]+?(?:-(?:(?<=[^\\d\\W]{2}-)|(?<=[^\\d\\W]-[^\\d\\W]-))(?=[^\\d\\W]-?[^\\d\\W])|(?=[\\t\\n\\x0b\\x0c\\r ]|\\Z)|(?<=[\\w!\"'&.,?])(?=-{2,}\\w)))"

/-- The pattern whose matches cut a text into chunks at blanks only. -/
def blankPattern : String := "([\\t\\n\\x0b\\x0c\\r ]+)"

/-- Whether a character is one of the blanks that wrapping makes spaces. -/
def isWrapBlank (c : Char) : Bool :=
  c == '\t' || c == '\n' || c == '\x0b' || c == '\x0c' || c == '\r' || c == ' '

/-- The chunks of a text, after its tabs are expanded and its blanks made spaces. -/
def wrapChunks (o : WrapOptions) (t : String) : List (List Char) :=
  let t := if o.expandTabs then expandTabs o.tabSize t.toList else t
  let t := if o.replaceWhitespace then String.ofList (t.toList.map fun c => if isWrapBlank c then ' ' else c) else t
  let pattern := if o.breakOnHyphens then chunkPattern else blankPattern
  match Regex.compile pattern 0 with
  | .ok p => ((p.splitLimited 0 t).filterMap id).filter (!·.isEmpty) |>.map String.toList
  | .error _ => [t.toList]

/-- Whether a chunk is nothing but white space. -/
def isBlankChunk (chunk : List Char) : Bool := chunk.all isBlank

/-- Puts what it can of a chunk too long for any line on the current line: cut after its last
hyphen that fits when characters other than hyphens come before it, otherwise at the room
left (at least one character). Without `breakLongWords` the chunk goes whole on an empty line. -/
def placeLongChunk (o : WrapOptions) (chunks : List (List Char)) (line : List (List Char))
    (used : Nat) (width : Int) : List (List Char) × List (List Char) :=
  let room : Int := if width < 1 then 1 else width - used
  match chunks with
  | [] => (chunks, line)
  | chunk :: rest =>
    if o.breakLongWords then
      let cut :=
        if o.breakOnHyphens && (chunk.length : Int) > room then
          let within := chunk.take room.toNat
          match within.reverse.findIdx? (· == '-') with
          | some k =>
            let hyphen := within.length - 1 - k
            if hyphen > 0 && (chunk.take hyphen).any (· != '-') then hyphen + 1 else room.toNat
          | none => room.toNat
        else room.toNat
      (chunk.drop cut :: rest, line ++ [chunk.take cut])
    else if line.isEmpty then (rest, line ++ [chunk])
    else (chunks, line)

/-- Fills one line from the chunks: the chunks that fit, then a piece of a chunk too long for
any line. Gives the chunks left and the line's chunks. -/
def fillLine (o : WrapOptions) (width : Int) :
    Nat → List (List Char) → List (List Char) → Nat → List (List Char) × List (List Char)
  | 0, chunks, line, _ => (chunks, line)
  | fuel + 1, chunks, line, used =>
    match chunks with
    | chunk :: rest =>
      if ((used + chunk.length : Nat) : Int) ≤ width then fillLine o width fuel rest (line ++ [chunk]) (used + chunk.length)
      else if (chunk.length : Int) > width then placeLongChunk o chunks line used width
      else (chunks, line)
    | [] => (chunks, line)

/-- Puts chunks on lines; `lines` holds the lines made so far, last first. -/
def wrapLines (o : WrapOptions) : Nat → List (List Char) → List String → List String
  | 0, _, lines => lines.reverse
  | _, [], lines => lines.reverse
  | fuel + 1, chunks, lines =>
    let indent := if lines.isEmpty then o.initialIndent else o.subsequentIndent
    let width := o.width - indent.length
    let chunks := match chunks with
      | first :: rest => if o.dropWhitespace && isBlankChunk first && !lines.isEmpty then rest else chunks
      | [] => []
    let (chunks, line) := fillLine o width (chunks.length + 1) chunks [] 0
    let line := match line.getLast? with
      | some last => if o.dropWhitespace && isBlankChunk last then line.dropLast else line
      | none => line
    let lines := if line.isEmpty then lines else (indent ++ String.ofList line.flatten) :: lines
    wrapLines o fuel chunks lines

/-- A text wrapped into lines of at most `width` characters, joined by line breaks. A width
that is not positive is refused. -/
def wrapText (o : WrapOptions) (t : String) : Outcome String := do
  if o.width ≤ 0 then fail .value s!"invalid width {o.width} (must be > 0)"
  let chunks := wrapChunks o t
  let fuel := 2 * (chunks.foldl (fun n c => n + c.length) 0) + chunks.length + 2
  return "\n".intercalate (wrapLines o fuel chunks [])

end Dataflow.Eval
