import Dataflow.Regex.Match
/-!
# Regular expressions: every match, substitution and splitting

A text holds a sequence of matches of a pattern: the first match from the start, then the first
match from where that one ended, and so on (`Program.matchesIn`). After an empty match the next
one may not be empty at the same place, so the sequence moves on; a match right after a
non-empty one may be empty. Finding all matches, counting them, splitting a text at them and
substituting them all read this one sequence.

## Templates

The replacement of a substitution is a template: literal text with references to groups.
`\1` to `\99`, `\g<name>` and `\g<number>` name groups; `\0` and three octal digits give
characters; the escapes `\a \b \f \n \r \t \v \\` give theirs; a backslash before any other
ASCII letter is refused, and before any other character it stays as it is. A group that did
not match gives nothing.

A template is read as a pattern is, token by token, a token being one character or a backslash
with the character after it, and faults are reported at the places a pattern's would be.
-/

namespace Dataflow.Regex

/-- The successive matches of a program in a text, at most `limit` of them (`0` for no
limit). Two steps move at least one place on, which bounds the number of matches. -/
def Program.matchesIn (p : Program) (text : Array Char) (limit : Nat) : List Found :=
  let rec go : Nat → Nat → Bool → List Found
    | 0, _, _ => []
    | fuel + 1, start, advance =>
      match p.searchFrom text start advance with
      | none => []
      | some f => f :: go fuel f.stop (f.stop == f.start)
  let most := 2 * text.size + 2
  go (if limit == 0 then most else min limit most) 0 false

/-- The text between two places. -/
def textBetween (text : Array Char) (start stop : Nat) : String :=
  String.ofList (text.extract start stop).toList

/-- Whether a program matches at the start of a text; with `whole`, the match must also reach
the end of the text, other ways of matching being tried until one does. -/
def Program.matchesStart (p : Program) (whole : Bool) (s : String) : Bool :=
  let text := s.toList.toArray
  let last : Rest := fun q m => if whole && q != text.size then none else some (q, m)
  (runList text (p.fuel text) p.nodes 0 (Marks.empty p.groups) last).isSome

/-! ### Templates -/

/-- A piece of a template: literal text, or the text of a group. -/
inductive Piece where
  | literal (s : String)
  | group (g : Nat)
deriving Inhabited

/-- Where the reading of a template stands: its characters, the token ahead (`none` at the
end) and the place after that token. -/
structure TemplateReader where
  chars : Array Char
  ahead : Option (List Char)
  index : Nat

/-- The place where the token ahead starts. -/
def TemplateReader.tell (r : TemplateReader) : Nat :=
  r.index - (r.ahead.map List.length).getD 0

/-- Moves to the next token; a backslash at the very end is refused at its place. -/
def TemplateReader.advance (r : TemplateReader) : Except (String × Nat) TemplateReader :=
  let i := r.index
  match r.chars[i]? with
  | none => .ok { r with ahead := none }
  | some '\\' => match r.chars[i + 1]? with
    | some c => .ok { r with ahead := some ['\\', c], index := i + 2 }
    | none => .error ("bad escape (end of pattern)", r.chars.size - 1)
  | some c => .ok { r with ahead := some [c], index := i + 1 }

/-- Reads a group name up to `>`: the name and the reader after the `>`. -/
def TemplateReader.name (r : TemplateReader) : Nat → List Char →
    Except (String × Nat) (String × TemplateReader)
  | 0, _ => .error ("missing group name", r.tell)
  | fuel + 1, acc => do
    let c := r.ahead
    let r ← r.advance
    match c with
    | none =>
      if acc.isEmpty then .error ("missing group name", r.tell)
      else .error ("missing >, unterminated name", r.tell - acc.length)
    | some ['>'] =>
      if acc.isEmpty then .error ("missing group name", r.tell - 1)
      else .ok (String.ofList acc, r)
    | some t => r.name fuel (acc ++ t)

/-- The character of an escape letter of a template, if it has one. -/
def templateEscape (c : Char) : Option Char :=
  match c with
  | 'a' => some '\x07' | 'b' => some '\x08' | 'f' => some '\x0c' | 'n' => some '\n'
  | 'r' => some '\r' | 't' => some '\t' | 'v' => some '\x0b' | '\\' => some '\\'
  | _ => none

/-- Whether a character is an octal digit. -/
def isOctal (c : Char) : Bool := '0' ≤ c && c ≤ '7'

/-- Whether a token is a single digit character. -/
def isDigitToken (t : Option (List Char)) : Bool :=
  match t with
  | some [c] => isAsciiDigit c
  | _ => false

/-- Whether a token is a single octal digit character. -/
def isOctalToken (t : Option (List Char)) : Bool :=
  match t with
  | some [c] => isOctal c
  | _ => false

/-- A fault at a place, as a template fault with its place. -/
def liftFault {α : Type} (x : Except (String × Nat) α) : Except (String × Option Nat) α :=
  x.mapError fun (m, p) => (m, some p)

/-- The outcome of reading a template: its pieces, or a fault. A fault at a place carries the
place; a name that names no group carries none. -/
abbrev TemplateRead := Except (String × Option Nat) (List Piece)

/-- Reads the tokens of a template. `groups` is the number of groups and `names` their names;
`pieces` holds what is read so far, last first, and `literal` the literal text being read. -/
def readTemplate (groups : Nat) (names : List (String × Nat)) :
    Nat → TemplateReader → List Piece → List Char → TemplateRead
  | 0, _, pieces, literal => .ok ((Piece.literal (String.ofList literal) :: pieces).reverse)
  | fuel + 1, r, pieces, literal =>
    let flush (ps : List Piece) : List Piece :=
      if literal.isEmpty then ps else .literal (String.ofList literal) :: ps
    let addGroup (g : Nat) (r : TemplateReader) (back : Nat) : TemplateRead :=
      if g > groups then .error (s!"invalid group reference {g}", some (r.tell - back))
      else readTemplate groups names fuel r (.group g :: flush pieces) []
    match r.ahead with
    | none => .ok (flush pieces).reverse
    | some this => do
      let r ← liftFault r.advance
      match this with
      | ['\\', 'g'] =>
        if r.ahead != some ['<'] then .error ("missing <", some r.tell)
        let r ← liftFault r.advance
        let (name, r) ← liftFault (r.name (r.chars.size + 1) [])
        if Unicode.isIdentifier name then
          match names.lookup name with
          | some g => addGroup g r (name.length + 1)
          | none => .error (s!"unknown group name {Text.quoteText name}", none)
        else
          match Number.readInteger? 10 name with
          | some g =>
            if g < 0 then
              .error (s!"bad character in group name {Text.quoteText name}", some (r.tell - (name.length + 1)))
            else if g ≥ 1073741823 then
              .error (s!"invalid group reference {g}", some (r.tell - (name.length + 1)))
            else addGroup g.toNat r (name.length + 1)
          | none =>
            .error (s!"bad character in group name {Text.quoteText name}", some (r.tell - (name.length + 1)))
      | ['\\', '0'] =>
        let (digits, r) ← liftFault (if isOctalToken r.ahead then do
            let d := (r.ahead.getD []).headD '0'
            let r ← r.advance
            if isOctalToken r.ahead then
              let e := (r.ahead.getD []).headD '0'
              return ([d, e], ← r.advance)
            return ([d], r)
          else pure ([], r))
        let code := digits.foldl (fun acc d => acc * 8 + (d.toNat - 48)) 0
        readTemplate groups names fuel r pieces (literal ++ [Char.ofNat (code % 256)])
      | ['\\', c] =>
        if isAsciiDigit c then
          if isDigitToken r.ahead then
            let d := (r.ahead.getD []).headD '0'
            let r ← liftFault r.advance
            if isOctal c && isOctal d && isOctalToken r.ahead then
              let e := (r.ahead.getD []).headD '0'
              let r ← liftFault r.advance
              let code := ((c.toNat - 48) * 8 + (d.toNat - 48)) * 8 + (e.toNat - 48)
              if code > 255 then
                .error (s!"octal escape value \\{String.ofList [c, d, e]} outside of range 0-0o377", some (r.tell - 4))
              else readTemplate groups names fuel r pieces (literal ++ [Char.ofNat code])
            else addGroup ((c.toNat - 48) * 10 + (d.toNat - 48)) r 2
          else addGroup (c.toNat - 48) r 1
        else match templateEscape c with
          | some e => readTemplate groups names fuel r pieces (literal ++ [e])
          | none =>
            if isAsciiLetter c then .error (s!"bad escape \\{c}", some (r.tell - 2))
            else readTemplate groups names fuel r pieces (literal ++ ['\\', c])
      | t => readTemplate groups names fuel r pieces (literal ++ t)

/-- Reads a template for a program, failing as the language's template reader does. -/
def Program.template (p : Program) (template : String) : Except Failure (List Piece) :=
  let chars := template.toList.toArray
  let start : TemplateReader := ⟨chars, none, 0⟩
  match start.advance with
  | .error (m, pos) => .error ⟨.pattern, (PatternError.mk m (some pos) false).text template⟩
  | .ok r =>
    match readTemplate p.groups p.names (chars.size + 1) r [] [] with
    | .ok pieces => .ok pieces
    | .error (m, some pos) => .error ⟨.pattern, (PatternError.mk m (some pos) false).text template⟩
    | .error (m, none) => .error ⟨.index, m⟩

/-- The text a template gives for a match. -/
def Found.expand (f : Found) (text : Array Char) (pieces : List Piece) : String :=
  String.join (pieces.map fun piece => match piece with
    | .literal s => s
    | .group g => (f.group text g).getD "")

/-! ### Substituting, finding and splitting -/

/-- A text with at most `count` matches (`0` for all) replaced by a template's text. -/
def Program.substitute (p : Program) (pieces : List Piece) (count : Nat) (s : String) : String :=
  let text := s.toList.toArray
  let found := p.matchesIn text count
  let (out, last) := found.foldl (fun (out, last) f =>
    (out ++ textBetween text last f.start ++ f.expand text pieces, f.stop)) ("", 0)
  out ++ textBetween text last text.size

/-- What finding all matches gives for each match: the matched text when the pattern has no
groups, the text of its group when it has one, and the texts of all groups otherwise (a group
that did not match giving the empty text). -/
def Program.findAll (p : Program) (s : String) : List (List String) :=
  let text := s.toList.toArray
  (p.matchesIn text 0).map fun f =>
    if p.groups == 0 then [textBetween text f.start f.stop]
    else (List.range p.groups).map fun g => (f.group text (g + 1)).getD ""

/-- The pieces of a text between at most `limit` matches (`0` for all), each match followed by
the texts of its groups (`none` for a group that did not match). -/
def Program.splitLimited (p : Program) (limit : Nat) (s : String) : List (Option String) :=
  let text := s.toList.toArray
  let found := p.matchesIn text limit
  let (out, last) := found.foldl (fun (out, last) f =>
    let groups := (List.range p.groups).map fun g => f.group text (g + 1)
    (out ++ some (textBetween text last f.start) :: groups, f.stop)) ([], 0)
  out ++ [some (textBetween text last text.size)]

end Dataflow.Regex
