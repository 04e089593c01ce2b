/-!
# Regular expressions: syntax

The parsed form of a regular expression, and the flags that change how its parts match.

A pattern is a list of items. Besides single characters and character sets there are anchors,
alternations, repetitions (greedy, lazy or possessive), groups (capturing or not, possibly
changing the flags inside them), atomic groups, look-ahead and look-behind assertions, back
references and conditionals on a group having matched.

`width` gives the least and the greatest number of characters an item can match; a
look-behind assertion needs the two to agree. Widths are capped at `2 ^ 64`, which stands for
"unbounded".
-/

namespace Dataflow.Regex

/-- The flags, as bits. -/
def flagTemplate : Nat := 1
/-- Letters match regardless of case. -/
def flagIgnoreCase : Nat := 2
/-- Locale-dependent classes (refused for text patterns). -/
def flagLocale : Nat := 4
/-- `^` and `$` match at line boundaries too. -/
def flagMultiline : Nat := 8
/-- `.` matches a line end too. -/
def flagDotAll : Nat := 16
/-- Classes and case follow Unicode. -/
def flagUnicode : Nat := 32
/-- Blanks and comments in the pattern are skipped. -/
def flagVerbose : Nat := 64
/-- The pattern is printed when compiled. -/
def flagDebug : Nat := 128
/-- Classes and case follow ASCII only. -/
def flagAscii : Nat := 256

/-- The flags that choose the character model. -/
def typeFlags : Nat := flagAscii ||| flagLocale ||| flagUnicode

/-- The flags that may only be set for the whole pattern. -/
def globalFlags : Nat := flagDebug ||| flagTemplate

/-- Whether a flag is among the flags. -/
def hasFlag (flags flag : Nat) : Bool := flags &&& flag != 0

/-- The flags inside a group that adds some and removes others: a character model added
replaces the one in force. -/
def combineFlags (flags add del : Nat) : Nat :=
  let flags := if hasFlag add typeFlags then flags &&& (typeFlags ^^^ 0xFFFFFFFF) else flags
  (flags ||| add) &&& (del ^^^ 0xFFFFFFFF)

/-- The character classes that escapes name. -/
inductive ClassKind where
  | digit | notDigit | space | notSpace | word | notWord
deriving DecidableEq, Repr, Inhabited

/-- A member of a character set. -/
inductive SetItem where
  | literal (c : Nat)
  | range (lo hi : Nat)
  | category (k : ClassKind)
deriving DecidableEq, Repr, Inhabited

/-- Zero-width tests of position. -/
inductive Anchor where
  /-- `^`: the start (of a line, in multiline mode) -/
  | beginning
  /-- `\A`: the start of the text -/
  | beginningString
  /-- `$`: the end, or before a final line end (the end of a line, in multiline mode) -/
  | ending
  /-- `\Z`: the end of the text -/
  | endingString
  /-- `\b`: between a word character and a non-word character -/
  | boundary
  /-- `\B`: not at a boundary -/
  | nonBoundary
deriving DecidableEq, Repr, Inhabited

/-- How a repetition chooses how often to match. -/
inductive RepeatKind where
  | greedy | lazy | possessive
deriving DecidableEq, Repr, Inhabited

/-- The items of a parsed pattern. -/
inductive Item where
  | literal (c : Nat)
  | notLiteral (c : Nat)
  | any
  | set (negated : Bool) (members : List SetItem)
  | anchor (a : Anchor)
  | branch (alternatives : List (List Item))
  /-- `max = none` is unbounded -/
  | repetition (kind : RepeatKind) (min : Nat) (max : Option Nat) (body : List Item)
  /-- a group; `index = none` for one that does not capture -/
  | group (index : Option Nat) (addFlags delFlags : Nat) (body : List Item)
  | atomic (body : List Item)
  | assertion (behind negated : Bool) (body : List Item)
  | backref (index : Nat)
  | conditional (index : Nat) (yes : List Item) (no : Option (List Item))
deriving Inhabited

/-- The cap on widths, standing for "unbounded". -/
def maxWidth : Nat := Nat.pow 2 64

/-- The greatest number of repetitions that can be written. -/
def maxRepeat : Nat := 4294967295

namespace Item

/-- Adds the widths of two parts, capped. -/
def addWidth (a b : Nat × Nat) : Nat × Nat := (a.1 + b.1, a.2 + b.2)

mutual

/-- The least and greatest width of an item; `groups` gives the widths of the groups that back
references name. The sums are capped by `capWidth` at the end of a list. -/
def width (groups : Nat → Nat × Nat) : Item → Nat × Nat
  | .branch alts =>
    let ws := widthAlternatives groups alts
    (ws.foldl (fun m w => min m w.1) maxWidth, ws.foldl (fun m w => max m w.2) 0)
  | .atomic body => widthList groups body
  | .group _ _ _ body => widthList groups body
  | .repetition _ lo hi body =>
    let (i, j) := widthList groups body
    (i * lo, match hi with
      | none => if j == 0 then 0 else maxWidth
      | some h => j * h)
  | .literal _ | .notLiteral _ | .any | .set _ _ => (1, 1)
  | .backref n => groups n
  | .conditional _ yes no =>
    let (i, j) := widthList groups yes
    match no with
    | some n =>
      let (l, h) := widthList groups n
      (min i l, max j h)
    | none => (0, j)
  | .anchor _ | .assertion _ _ _ => (0, 0)

/-- The widths of the alternatives of a branch. -/
def widthAlternatives (groups : Nat → Nat × Nat) : List (List Item) → List (Nat × Nat)
  | [] => []
  | alt :: rest => widthList groups alt :: widthAlternatives groups rest

/-- The width of a list of items, capped. -/
def widthList (groups : Nat → Nat × Nat) : List Item → Nat × Nat
  | [] => (0, 0)
  | item :: rest =>
    let (a, b) := addWidth (width groups item) (widthList groups rest)
    (min a maxWidth, min b maxWidth)

end

end Item

end Dataflow.Regex
