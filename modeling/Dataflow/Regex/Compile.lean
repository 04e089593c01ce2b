import Dataflow.Regex.Parse
import Dataflow.Unicode.Casing
import Dataflow.Text.Classes
import Dataflow.Failure
/-!
# Regular expressions: compiling

Turns parsed items (`Dataflow.Regex.Parse`) into nodes that the matcher runs, with the flags
in force at each place applied:

* a character, a set or `.` becomes a character test (`CharTest`): the character is first
  folded (not at all, in ASCII, or by its lowercase), then looked up among members;
* `^`, `$` and `\b` become position tests that depend on the multiline and character-model
  flags;
* a capturing group becomes two marks around its body, as the matcher records the places
  where groups start and end;
* look-behind assertions get their width, which must be fixed.

## Ignoring case

A character that has another case matches when case is ignored if the lowercase of the text
character equals its lowercase, or one of the lowercase letters that share an uppercase with
it (`Dataflow.Text.caseVariants`).

A set is compiled the same way member by member: the members are replaced by their lowercase
(and variants), and the text character is lowercased before the lookup. Members beyond the
basic plane are the exception: such a character is kept as it is, and such a range holds a
character whose lowercase or whose uppercase falls in it. (So a capital letter beyond the
basic plane in a set with other members matches nothing when case is ignored: the lowercase
of a text character is never that capital.) When no member has another case the set is looked
up without folding.

## Refusals

A repetition under the template flag is refused (`internal: unsupported template operator`),
and so is a look-behind whose body may match texts of different lengths, or that reaches back
more than `2 ^ 32 - 1` characters.
-/

namespace Dataflow.Regex

/-- How a character is brought to lowercase before a test. -/
inductive Fold where
  /-- not at all -/
  | exact
  /-- the ASCII capitals only -/
  | ascii
  /-- by the first character of its lowercase -/
  | unicode
deriving DecidableEq, Repr, Inhabited

/-- The lowercase of a code point, as case-insensitive matching takes it. -/
def lowerCode (c : Nat) : Nat :=
  if c.isValidChar then (Unicode.simpleLower (Char.ofNat c)).toNat else c

/-- The uppercase of a code point, as case-insensitive matching takes it. -/
def upperCode (c : Nat) : Nat :=
  if c.isValidChar then (Unicode.simpleUpper (Char.ofNat c)).toNat else c

/-- Folds a code point. -/
def Fold.apply : Fold → Nat → Nat
  | .exact, c => c
  | .ascii, c => if 65 ≤ c && c ≤ 90 then c + 32 else c
  | .unicode, c => lowerCode c

/-- Whether a code point has another case, in the character model of a fold. -/
def Fold.cased : Fold → Nat → Bool
  | .exact, _ => false
  | .ascii, c => (65 ≤ c && c ≤ 90) || (97 ≤ c && c ≤ 122)
  | .unicode, c => lowerCode c != c || upperCode c != c

/-- The other lowercase letters that match a lowercase letter when case is ignored. -/
def Fold.variants : Fold → Nat → List Nat
  | .unicode, c => (Text.caseVariants.lookup c).getD []
  | _, _ => []

/-- Whether a code point is of a class, in Unicode or in ASCII. -/
def ClassKind.holds (unicode : Bool) (k : ClassKind) (c : Nat) : Bool :=
  let ch := Char.ofNat c
  let valid := c.isValidChar
  let digit := if unicode then valid && Unicode.isDecimal ch else 48 ≤ c && c ≤ 57
  let space := if unicode then valid && Unicode.isSpace ch
    else c == 32 || (9 ≤ c && c ≤ 13)
  let word := if unicode then valid && (Unicode.isAlnum ch || c == 95)
    else (48 ≤ c && c ≤ 57) || (65 ≤ c && c ≤ 90) || (97 ≤ c && c ≤ 122) || c == 95
  match k with
  | .digit => digit
  | .notDigit => !digit
  | .space => space
  | .notSpace => !space
  | .word => word
  | .notWord => !word

/-- A member of a compiled set. -/
inductive Member where
  | char (c : Nat)
  | range (lo hi : Nat)
  /-- holds a character in the range, or whose uppercase is in it -/
  | rangeOrUpper (lo hi : Nat)
  | category (k : ClassKind) (unicode : Bool)
deriving DecidableEq, Repr, Inhabited

/-- Whether a (folded) code point is a member. -/
def Member.holds : Member → Nat → Bool
  | .char x, c => c == x
  | .range lo hi, c => lo ≤ c && c ≤ hi
  | .rangeOrUpper lo hi, c => (lo ≤ c && c ≤ hi) || (lo ≤ upperCode c && upperCode c ≤ hi)
  | .category k unicode, c => k.holds unicode c

/-- A test of one character: the character is folded and then looked up among the members;
`negated` turns the answer round. -/
structure CharTest where
  fold : Fold
  negated : Bool
  members : List Member
deriving Repr, Inhabited

/-- Whether a character passes a test. -/
def CharTest.holds (t : CharTest) (c : Nat) : Bool :=
  let folded := t.fold.apply c
  (t.members.any fun m => m.holds folded) != t.negated

/-- Tests of a place in the text. -/
inductive Place where
  /-- the start of the text -/
  | textStart
  /-- the start of a line -/
  | lineStart
  /-- the end of the text, or just before a line end that ends it -/
  | finish
  /-- the end of a line -/
  | lineEnd
  /-- the very end of the text -/
  | textEnd
  /-- between a word character and another character (`negated`: not there) -/
  | boundary (unicode negated : Bool)
deriving DecidableEq, Repr, Inhabited

/-- The nodes that the matcher runs. -/
inductive Node where
  | char (t : CharTest)
  | place (p : Place)
  | branch (alternatives : List (List Node))
  | repetition (kind : RepeatKind) (min : Nat) (max : Option Nat) (body : List Node)
  /-- records the current place in a mark: `2 g - 2` opens group `g`, `2 g - 1` closes it -/
  | mark (index : Nat)
  | atomic (body : List Node)
  /-- an assertion; `behind` is the width looked back, `none` for a look-ahead -/
  | assertion (behind : Option Nat) (negated : Bool) (body : List Node)
  | backref (group : Nat) (fold : Fold)
  | conditional (group : Nat) (yes no : List Node)
deriving Inhabited

/-! ### Character sets -/

/-- The fold that case-insensitive matching uses under some flags. -/
def foldOf (flags : Nat) : Fold :=
  if !hasFlag flags flagIgnoreCase then .exact
  else if hasFlag flags flagUnicode then .unicode
  else .ascii

/-- A set member as it is, for a set looked up without folding. -/
def plainMember (unicode : Bool) : SetItem → Member
  | .literal c => .char c
  | .range lo hi => .range lo hi
  | .category k => .category k unicode

/-- The members of a set being folded: the folded code points of the basic plane, the
members kept as they are, and whether some member has another case. -/
structure Folding where
  codes : List Nat
  kept : List Member
  cased : Bool

/-- The folded code points of a range from `c` on, `count` of them, with their variants;
`none` when one of them folds beyond the basic plane. -/
def foldRun (fold : Fold) (c : Nat) : Nat → List Nat → Option (List Nat)
  | 0, acc => some acc
  | count + 1, acc =>
    let lo := fold.apply c
    if lo ≥ 65536 then none
    else foldRun fold (c + 1) count (fold.variants lo ++ lo :: acc)

/-- Whether a code point of a range from `c` on, `count` of them, has another case. -/
def anyCased (fold : Fold) (c : Nat) : Nat → Bool
  | 0 => false
  | count + 1 => fold.cased c || anyCased fold (c + 1) count

/-- Adds a member to a set being folded. -/
def Folding.add (unicode : Bool) (fold : Fold) (f : Folding) : SetItem → Folding
  | .literal c =>
    let lo := fold.apply c
    if lo ≥ 65536 then { f with kept := f.kept ++ [.char c], cased := true }
    else { f with codes := fold.variants lo ++ lo :: f.codes, cased := f.cased || fold.cased c }
  | .range a b =>
    match foldRun fold a (b + 1 - a) f.codes with
    | some codes => { f with codes := codes, cased := f.cased || anyCased fold a (b + 1 - a) }
    | none =>
      let codes := (foldRun fold a (min (b + 1) 65536 - a) f.codes).getD f.codes
      { f with codes := codes, kept := f.kept ++ [.rangeOrUpper a b], cased := true }
  | .category k => { f with kept := f.kept ++ [.category k unicode] }

/-- The runs of consecutive code points in a sorted list without repeats. -/
def codeRuns : List Nat → List Member
  | [] => []
  | c :: rest =>
    match codeRuns rest with
    | .range lo hi :: more => if lo == c + 1 then .range c hi :: more else .range c c :: .range lo hi :: more
    | more => .range c c :: more

/-- The test of a set under some flags. -/
def setTest (flags : Nat) (negated : Bool) (members : List SetItem) : CharTest :=
  let unicode := hasFlag flags flagUnicode
  let fold := foldOf flags
  let plain : CharTest := ⟨.exact, negated, members.map (plainMember unicode)⟩
  if fold == .exact then plain
  else
    let f := members.foldl (Folding.add unicode fold) ⟨[], [], false⟩
    if !f.cased then plain
    else
      let codes := (f.codes.mergeSort (· ≤ ·)).eraseDups
      ⟨fold, negated, codeRuns codes ++ f.kept⟩

/-- The test of one character under some flags (`negated` for a character excluded). -/
def charTest (flags : Nat) (negated : Bool) (c : Nat) : CharTest :=
  let fold := foldOf flags
  if fold.cased c then
    let lo := fold.apply c
    ⟨fold, negated, (lo :: fold.variants lo).map Member.char⟩
  else ⟨.exact, negated, [.char c]⟩

/-- The place test of an anchor under some flags. -/
def placeOf (flags : Nat) : Anchor → Place
  | .beginning => if hasFlag flags flagMultiline then .lineStart else .textStart
  | .beginningString => .textStart
  | .ending => if hasFlag flags flagMultiline then .lineEnd else .finish
  | .endingString => .textEnd
  | .boundary => .boundary (hasFlag flags flagUnicode) false
  | .nonBoundary => .boundary (hasFlag flags flagUnicode) true

/-! ### Items -/

/-- The name of a repetition kind, as refusals print it. -/
def RepeatKind.opName : RepeatKind → String
  | .greedy => "MAX_REPEAT"
  | .lazy => "MIN_REPEAT"
  | .possessive => "POSSESSIVE_REPEAT"

/-- The greatest width a look-behind may reach back. -/
def maxLookBehind : Nat := 4294967295

mutual

/-- Compiles an item under some flags; `groups` gives the widths of the groups. -/
def compileItem (groups : Nat → Nat × Nat) (flags : Nat) : Item → Except String (List Node)
  | .literal c => .ok [.char (charTest flags false c)]
  | .notLiteral c => .ok [.char (charTest flags true c)]
  | .any => .ok [.char ⟨.exact, true, if hasFlag flags flagDotAll then [] else [.char 10]⟩]
  | .set negated members => .ok [.char (setTest flags negated members)]
  | .anchor a => .ok [.place (placeOf flags a)]
  | .branch alts => do
    return [.branch (← compileAlternatives groups flags alts)]
  | .repetition kind min max body => do
    if hasFlag flags flagTemplate then
      throw s!"internal: unsupported template operator {kind.opName}"
    return [.repetition kind min max (← compileList groups flags body)]
  | .group index add del body => do
    let inner ← compileList groups (combineFlags flags add del) body
    match index with
    | some g => return [.mark (2 * g - 2)] ++ inner ++ [.mark (2 * g - 1)]
    | none => return inner
  | .atomic body => do return [.atomic (← compileList groups flags body)]
  | .assertion behind negated body => do
    let back ← if behind then do
        let (lo, hi) := Item.widthList groups body
        if lo > maxLookBehind then throw "looks too much behind"
        if lo != hi then throw "look-behind requires fixed-width pattern"
        pure (some lo)
      else pure none
    return [.assertion back negated (← compileList groups flags body)]
  | .backref g => .ok [.backref g (foldOf flags)]
  | .conditional g yes no => do
    let yes ← compileList groups flags yes
    let no ← match no with
      | some n => compileList groups flags n
      | none => pure []
    return [.conditional g yes no]

/-- Compiles the alternatives of a branch. -/
def compileAlternatives (groups : Nat → Nat × Nat) (flags : Nat) :
    List (List Item) → Except String (List (List Node))
  | [] => .ok []
  | alt :: rest => do
    let a ← compileList groups flags alt
    return a :: (← compileAlternatives groups flags rest)

/-- Compiles a list of items. -/
def compileList (groups : Nat → Nat × Nat) (flags : Nat) : List Item → Except String (List Node)
  | [] => .ok []
  | item :: rest => do
    let a ← compileItem groups flags item
    return a ++ (← compileList groups flags rest)

end

/-- A compiled pattern: its nodes, its flags and the number of its capturing groups. -/
structure Program where
  nodes : List Node
  flags : Nat
  groups : Nat
  names : List (String × Nat)
deriving Inhabited

/-- Why a pattern is refused: a malformed pattern, a count too large, or flags at odds with
each other. -/
inductive RefusalKind where
  | malformed | overflow | badFlags
deriving DecidableEq, Repr, Inhabited

/-- A refused pattern: the kind of refusal and its message as it is shown. -/
structure Refusal where
  kind : RefusalKind
  message : String
deriving Inhabited

/-- A refusal as a failure: a malformed pattern is a pattern error, a count too large an
overflow, and flags at odds a value error. -/
def Refusal.failure (r : Refusal) : Failure :=
  match r.kind with
  | .malformed => ⟨.pattern, r.message⟩
  | .overflow => ⟨.overflow, r.message⟩
  | .badFlags => ⟨.value, r.message⟩

/-- Compiles a pattern with flags. -/
def compile (pattern : String) (flags : Nat) : Except Refusal Program :=
  match parse pattern flags with
  | .error e =>
    let kind := if e.overflow then RefusalKind.overflow
      else if e.position.isNone then .badFlags else .malformed
    .error ⟨kind, e.text pattern⟩
  | .ok p =>
    let widths : Nat → Nat × Nat := fun g => (p.widths.getD g (0, 0))
    match compileList widths p.flags p.items with
    | .error msg => .error ⟨.malformed, msg⟩
    | .ok nodes => .ok ⟨nodes, p.flags, p.groups, p.names⟩

end Dataflow.Regex
