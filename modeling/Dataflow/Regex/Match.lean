import Dataflow.Regex.Compile
/-!
# Regular expressions: matching

Runs compiled nodes (`Dataflow.Regex.Compile`) over a text by backtracking. Every node is
matched with a continuation, the rest of the match: a node calls it at each way it can end,
in the order of preference, and the first call that leads to a match wins. So alternatives are
tried from the left, greedy repetitions try one more turn before they stop, lazy ones stop
before they try one more, and a possessive repetition, an atomic group or an assertion takes
the first way its body matches and never comes back to it.

## Repetitions

A repetition counts its turns. Below the least count it must take another turn. Above it, a
turn may only start where the last optional turn did not: a turn that matched nothing ends the
repetition, which keeps `(a*)*` from turning forever.

## Marks

Groups are recorded as marks (`Marks`): the places where groups open and close, and how many
marks are in use. Setting a mark beyond those in use clears the ones skipped over. A group has
matched when its closing mark is in use, both of its marks are set, and it does not end before
it starts; back references and conditionals ask this.

## Searching

A search tries each place of the text in turn. When a search must advance, a match found at
its first place may not be empty there: splitting a text at the matches of a pattern uses this
after an empty match, so that it moves on.

Matching is bounded by a fuel argument; running out of it counts as no match.
-/

namespace Dataflow.Regex

/-- The marks of a match: the place recorded in each mark, and how many marks are in use. -/
structure Marks where
  places : Array (Option Nat)
  used : Nat
deriving Inhabited

/-- No marks in use, for a pattern with `groups` capturing groups. -/
def Marks.empty (groups : Nat) : Marks := ⟨Array.replicate (2 * groups) none, 0⟩

/-- Records a place in mark `i`; the marks skipped over when `i` is beyond those in use are
cleared. -/
def Marks.record (m : Marks) (i pos : Nat) : Marks :=
  let places := if m.used < i then
      (List.range (i - m.used)).foldl (fun ps k => ps.set! (m.used + k) none) m.places
    else m.places
  ⟨places.set! i (some pos), max m.used (i + 1)⟩

/-- The span of group `g` (from 1), if it has matched. -/
def Marks.span (m : Marks) (g : Nat) : Option (Nat × Nat) :=
  let i := 2 * g - 2
  if g == 0 || m.used < i + 2 then none
  else match m.places.getD i none, m.places.getD (i + 1) none with
    | some s, some e => if e < s then none else some (s, e)
    | _, _ => none

/-- The rest of a match: from a place and marks, the end and marks of the whole match. -/
abbrev Rest := Nat → Marks → Option (Nat × Marks)

/-- The code point at a place of the text, if there is one. -/
def codeAt (text : Array Char) (pos : Nat) : Option Nat := (text[pos]?).map Char.toNat

/-- Whether a place test holds. -/
def Place.holds (text : Array Char) (pos : Nat) : Place → Bool
  | .textStart => pos == 0
  | .lineStart => pos == 0 || codeAt text (pos - 1) == some 10
  | .finish => pos == text.size || (pos + 1 == text.size && codeAt text pos == some 10)
  | .lineEnd => pos == text.size || codeAt text pos == some 10
  | .textEnd => pos == text.size
  | .boundary unicode negated =>
    if text.size == 0 then false
    else
      let word (c : Option Nat) := (c.map (ClassKind.word.holds unicode)).getD false
      let before := pos > 0 && word (codeAt text (pos - 1))
      let after := word (codeAt text pos)
      if negated then before == after else before != after

/-- Whether the text from `pos` repeats the text from `start` to `stop`, under a fold. -/
def repeatsAt (text : Array Char) (fold : Fold) (start stop pos : Nat) : Bool :=
  pos + (stop - start) ≤ text.size &&
    (List.range (stop - start)).all fun k =>
      match codeAt text (start + k), codeAt text (pos + k) with
      | some a, some b => fold.apply a == fold.apply b
      | _, _ => false

/-- Whether a repetition with at most `max` turns may take another after `count`. -/
def mayTurn (max : Option Nat) (count : Nat) : Bool :=
  match max with
  | some x => count < x
  | none => true

/-- The first way a body matches on its own: its end and marks. -/
def done : Rest := fun pos m => some (pos, m)

mutual

/-- Matches nodes one after another, then the rest. -/
def runList (text : Array Char) : Nat → List Node → Nat → Marks → Rest → Option (Nat × Marks)
  | 0, _, _, _, _ => none
  | _ + 1, [], pos, m, k => k pos m
  | fuel + 1, node :: more, pos, m, k =>
    runNode text fuel node pos m (fun p m' => runList text fuel more p m' k)

/-- Matches one node, then the rest. -/
def runNode (text : Array Char) : Nat → Node → Nat → Marks → Rest → Option (Nat × Marks)
  | 0, _, _, _, _ => none
  | fuel + 1, node, pos, m, k =>
    match node with
    | .char t =>
      match codeAt text pos with
      | some c => if t.holds c then k (pos + 1) m else none
      | none => none
    | .place p => if p.holds text pos then k pos m else none
    | .branch alts => runAlternatives text fuel alts pos m k
    | .repetition .greedy min max body => runGreedy text fuel body min max 0 none pos m k
    | .repetition .lazy min max body => runLazy text fuel body min max 0 none pos m k
    | .repetition .possessive min max body =>
      match runPossessive text fuel body min max 0 none pos m with
      | some (p, m') => k p m'
      | none => none
    | .mark i => k pos (m.record i pos)
    | .atomic body =>
      match runList text fuel body pos m done with
      | some (p, m') => k p m'
      | none => none
    | .assertion behind negated body =>
      let back := behind.getD 0
      if pos < back then (if negated then k pos m else none)
      else
        match runList text fuel body (pos - back) m done, negated with
        | some (_, m'), false => k pos m'
        | none, false => none
        | some _, true => none
        | none, true => k pos m
    | .backref g fold =>
      match m.span g with
      | some (s, e) => if repeatsAt text fold s e pos then k (pos + (e - s)) m else none
      | none => none
    | .conditional g yes no =>
      runList text fuel (if (m.span g).isSome then yes else no) pos m k

/-- Tries the alternatives of a branch from the left. -/
def runAlternatives (text : Array Char) : Nat → List (List Node) → Nat → Marks → Rest →
    Option (Nat × Marks)
  | 0, _, _, _, _ => none
  | _ + 1, [], _, _, _ => none
  | fuel + 1, alt :: more, pos, m, k =>
    match runList text fuel alt pos m k with
    | some r => some r
    | none => runAlternatives text fuel more pos m k

/-- A greedy repetition after `count` turns; `last` is where the last optional turn started. -/
def runGreedy (text : Array Char) : Nat → List Node → Nat → Option Nat → Nat → Option Nat →
    Nat → Marks → Rest → Option (Nat × Marks)
  | 0, _, _, _, _, _, _, _, _ => none
  | fuel + 1, body, min, max, count, last, pos, m, k =>
    if count < min then
      runList text fuel body pos m fun p m' => runGreedy text fuel body min max (count + 1) last p m' k
    else
      let more := mayTurn max count && last != some pos
      let again := if more then
          runList text fuel body pos m fun p m' =>
            runGreedy text fuel body min max (count + 1) (some pos) p m' k
        else none
      match again with
      | some r => some r
      | none => k pos m

/-- A lazy repetition after `count` turns; `last` is where the last optional turn started. -/
def runLazy (text : Array Char) : Nat → List Node → Nat → Option Nat → Nat → Option Nat →
    Nat → Marks → Rest → Option (Nat × Marks)
  | 0, _, _, _, _, _, _, _, _ => none
  | fuel + 1, body, min, max, count, last, pos, m, k =>
    if count < min then
      runList text fuel body pos m fun p m' => runLazy text fuel body min max (count + 1) last p m' k
    else
      match k pos m with
      | some r => some r
      | none =>
        if mayTurn max count && last != some pos then
          runList text fuel body pos m fun p m' =>
            runLazy text fuel body min max (count + 1) (some pos) p m' k
        else none

/-- A possessive repetition after `count` turns, each turn the first way the body matches on
its own; `last` is where the last optional turn started. Gives where the repetition ends. -/
def runPossessive (text : Array Char) : Nat → List Node → Nat → Option Nat → Nat → Option Nat →
    Nat → Marks → Option (Nat × Marks)
  | 0, _, _, _, _, _, _, _ => none
  | fuel + 1, body, min, max, count, last, pos, m =>
    if count < min then
      match runList text fuel body pos m done with
      | some (p, m') => runPossessive text fuel body min max (count + 1) last p m'
      | none => none
    else if mayTurn max count && last != some pos then
      match runList text fuel body pos m done with
      | some (p, m') => runPossessive text fuel body min max (count + 1) (some pos) p m'
      | none => some (pos, m)
    else some (pos, m)

end

/-- A match found by a search: where it starts and ends, and its marks. -/
structure Found where
  start : Nat
  stop : Nat
  marks : Marks
deriving Inhabited

/-- The fuel for matching a program over a text. -/
def Program.fuel (_p : Program) (text : Array Char) : Nat := 100000 + 4096 * (text.size + 1)

/-- Searches the places from `pos` on, `count` of them; the first may not give an empty match
when `advance` is set. -/
def searchPlaces (p : Program) (text : Array Char) (fuel : Nat) (advance : Bool) :
    Nat → Nat → Option Found
  | 0, _ => none
  | count + 1, pos =>
    let last : Rest := fun q m => if advance && q == pos then none else some (q, m)
    match runList text fuel p.nodes pos (Marks.empty p.groups) last with
    | some (q, m) => some ⟨pos, q, m⟩
    | none => searchPlaces p text fuel false count (pos + 1)

/-- The first match in a text from a place on. -/
def Program.searchFrom (p : Program) (text : Array Char) (start : Nat) (advance : Bool) :
    Option Found :=
  searchPlaces p text (p.fuel text) advance (text.size + 1 - start) start

/-- Whether a pattern matches somewhere in a text. -/
def Program.search (p : Program) (s : String) : Bool :=
  (p.searchFrom s.toList.toArray 0 false).isSome

/-- The text of a group of a match, if it matched. -/
def Found.group (f : Found) (text : Array Char) (g : Nat) : Option String :=
  (f.marks.span g).map fun (s, e) => String.ofList ((text.extract s e).toList)

/-- Splits a text from `start` at the matches of a pattern, each match giving the texts of its
groups too; `last` is where the current piece began. `count` bounds the matches. -/
def splitFrom (p : Program) (text : Array Char) : Nat → Nat → Nat → Bool → List (Option String)
  | 0, last, _, _ => [some (String.ofList (text.extract last text.size).toList)]
  | count + 1, last, start, advance =>
    match p.searchFrom text start advance with
    | none => [some (String.ofList (text.extract last text.size).toList)]
    | some f =>
      let piece := some (String.ofList (text.extract last f.start).toList)
      let groups := (List.range p.groups).map fun g => f.group text (g + 1)
      piece :: groups ++ splitFrom p text count f.stop f.stop (f.stop == f.start)

/-- The pieces of a text between the matches of a pattern, with the texts of the groups of
each match between them (`none` for a group that did not match). -/
def Program.split (p : Program) (s : String) : List (Option String) :=
  let text := s.toList.toArray
  splitFrom p text (2 * text.size + 2) 0 0 false

end Dataflow.Regex
