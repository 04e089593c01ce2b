import Dataflow.Unicode.Property
import Dataflow.Unicode.Tables.Casing
/-!
# Case conversion

Case conversion of text with the full case mappings (Unicode 14.0): a character may map to
several (`ß` uppercases to `SS`, `ŉ` to `ʼN`), and titlecase may differ from uppercase (`ǆ`
titlecases to `ǅ`).

The capital sigma `Σ` has a lowercase that depends on where it stands: it is the final sigma
`ς` when a cased letter comes before it and none after it, case-ignorable characters between
them not counting; elsewhere it is `σ`.

The text operations:

* `lower` and `upper` map every character;
* `capitalize` titlecases the first character and lowercases the rest;
* `title` titlecases a character that follows no cased character and lowercases one that does;
* `swapcase` lowercases uppercase characters and uppercases lowercase ones;
* `casefold` maps every character, without regard to its neighbours, to the form in which
  texts that differ only by case become equal: the lowercase mapping, except for the characters
  whose full case folding differs from it (`ß` folds to `ss`, the Cherokee small letters to
  the capital ones).

`simpleLower` and `simpleUpper` map a character to one character, the first of its full
mapping; case-insensitive pattern matching compares by them.
-/

namespace Dataflow.Unicode

/-- The case mappings of one code point; `none` where the code point maps to itself. -/
structure CaseEntry where
  lower : Option (List Nat)
  upper : Option (List Nat)
  title : Option (List Nat)
deriving Inhabited

/-- An offset of a case pattern: `2d` stands for `d ≥ 0` and `-2d - 1` for `d < 0`. -/
def caseOffset (n : Nat) : Int :=
  if n % 2 = 0 then ((n / 2 : Nat) : Int) else -((n / 2 : Nat) : Int) - 1

/-- One field of a case pattern and the numbers after it: the count of its offsets, zero for the
identity, then the offsets. -/
def caseFieldOf : List Nat → Option (List Int) × List Nat
  | [] => (none, [])
  | 0 :: rest => (none, rest)
  | (k + 1) :: rest => (some ((rest.take (k + 1)).map caseOffset), rest.drop (k + 1))

/-- The case patterns of packed numbers, three fields each (lowercase, uppercase, titlecase). -/
def casePatternsOf : Nat → List Nat → List (Option (List Int) × Option (List Int) × Option (List Int))
  | 0, _ | _ + 1, [] => []
  | fuel + 1, ns =>
    let (lower, ns) := caseFieldOf ns
    let (upper, ns) := caseFieldOf ns
    let (title, ns) := caseFieldOf ns
    (lower, upper, title) :: casePatternsOf fuel ns

/-- The pairs of a list of numbers, the first two, the next two, and so on. -/
def pairsOf : List Nat → List (Nat × Nat)
  | a :: b :: rest => (a, b) :: pairsOf rest
  | _ => []

/-- The code points with case mappings, in order, and their mappings: every code point comes at
its distance from the one before, with the pattern of its place. -/
def caseTable : Array Nat × Array CaseEntry :=
  let ns := (readPacked caseMappingPatternText).toList
  let patterns := (casePatternsOf ns.length ns).toArray
  let shifted (cp : Nat) (field : Option (List Int)) : Option (List Nat) :=
    field.map (·.map fun d => ((cp : Int) + d).toNat)
  (pairsOf (readPacked caseMappingText).toList).foldl (fun (acc : Array Nat × Array CaseEntry) p =>
    let cp := acc.1.back?.getD 0 + p.1
    let (lower, upper, title) := patterns.getD p.2 (none, none, none)
    (acc.1.push cp, acc.2.push ⟨shifted cp lower, shifted cp upper, shifted cp title⟩)) (#[], #[])

/-- The case mappings of a character, if it has any. -/
def caseMapping? (c : Char) : Option CaseEntry :=
  let cp := c.toNat
  match countAtMost caseTable.1 cp with
  | 0 => none
  | i + 1 => if caseTable.1.getD i 0 == cp then caseTable.2[i]? else none

/-- The characters of code points. -/
def charsOf (cps : List Nat) : List Char := cps.map Char.ofNat

/-- The full lowercase mapping of a character, without regard to its neighbours. -/
def lowerFull (c : Char) : List Char :=
  match (caseMapping? c).bind (·.lower) with
  | some cps => charsOf cps
  | none => [c]

/-- The full uppercase mapping of a character. -/
def upperFull (c : Char) : List Char :=
  match (caseMapping? c).bind (·.upper) with
  | some cps => charsOf cps
  | none => [c]

/-- The full titlecase mapping of a character. -/
def titleFull (c : Char) : List Char :=
  match (caseMapping? c).bind (·.title) with
  | some cps => charsOf cps
  | none => [c]

/-- The first character of the lowercase mapping. -/
def simpleLower (c : Char) : Char := (lowerFull c).headD c

/-- The first character of the uppercase mapping. -/
def simpleUpper (c : Char) : Char := (upperFull c).headD c

/-- Whether a character has another case. -/
def hasOtherCase (c : Char) : Bool := simpleLower c != c || simpleUpper c != c

/-- The capital sigma. -/
def capitalSigma : Char := 'Σ'

/-- Whether the capital sigma after `before` (nearest first) and before `after` is final: a
cased character comes first before it, and none after it, case-ignorable characters
skipped. -/
def isFinalSigma (before after : List Char) : Bool :=
  match before.dropWhile isCaseIgnorable with
  | c :: _ =>
    isCased c && match after.dropWhile isCaseIgnorable with
      | [] => true
      | d :: _ => !isCased d
  | [] => false

/-- The lowercase of the character that follows `before` (nearest first) and precedes
`after`. -/
def lowerInContext (before : List Char) (c : Char) (after : List Char) : List Char :=
  if c == capitalSigma then [if isFinalSigma before after then 'ς' else 'σ']
  else lowerFull c

/-- Maps each character with the characters before it (nearest first) and after it. -/
def mapInContext (f : List Char → Char → List Char → List Char) :
    List Char → List Char → List Char
  | _, [] => []
  | before, c :: after => f before c after ++ mapInContext f (c :: before) after

/-- The lowercase of a text. -/
def lower (s : String) : String :=
  String.ofList (mapInContext lowerInContext [] s.toList)

/-- The uppercase of a text. -/
def upper (s : String) : String :=
  String.ofList (s.toList.flatMap upperFull)

/-- A text with its first character titlecased and the rest lowercased. -/
def capitalize (s : String) : String :=
  String.ofList (mapInContext (fun before c after =>
    if before.isEmpty then titleFull c else lowerInContext before c after) [] s.toList)

/-- A text with each character titlecased after no cased character and lowercased after
one. -/
def title (s : String) : String :=
  String.ofList (mapInContext (fun before c after =>
    match before with
    | b :: _ => if isCased b then lowerInContext before c after else titleFull c
    | [] => titleFull c) [] s.toList)

/-- A text with uppercase characters lowercased and lowercase ones uppercased. -/
def swapcase (s : String) : String :=
  String.ofList (mapInContext (fun before c after =>
    if isUpper c then lowerInContext before c after
    else if isLower c then upperFull c
    else [c]) [] s.toList)

/-- The characters whose full case folding is not their lowercase mapping, outside the
Cherokee letters: each code point with its folding. -/
def foldExceptionText : String :=
  "B5:3BC DF:73.73 149:2BC.6E 17F:73 1F0:6A.30C 345:3B9 390:3B9.308.301 3B0:3C5.308.301 3C2:3C3 " ++
  "3D0:3B2 3D1:3B8 3D5:3C6 3D6:3C0 3F0:3BA 3F1:3C1 3F5:3B5 587:565.582 1C80:432 1C81:434 " ++
  "1C82:43E 1C83:441 1C84:442 1C85:442 1C86:44A 1C87:463 1C88:A64B 1E96:68.331 1E97:74.308 " ++
  "1E98:77.30A 1E99:79.30A 1E9A:61.2BE 1E9B:1E61 1E9E:73.73 1F50:3C5.313 1F52:3C5.313.300 " ++
  "1F54:3C5.313.301 1F56:3C5.313.342 1F80:1F00.3B9 1F81:1F01.3B9 1F82:1F02.3B9 1F83:1F03.3B9 " ++
  "1F84:1F04.3B9 1F85:1F05.3B9 1F86:1F06.3B9 1F87:1F07.3B9 1F88:1F00.3B9 1F89:1F01.3B9 " ++
  "1F8A:1F02.3B9 1F8B:1F03.3B9 1F8C:1F04.3B9 1F8D:1F05.3B9 1F8E:1F06.3B9 1F8F:1F07.3B9 " ++
  "1F90:1F20.3B9 1F91:1F21.3B9 1F92:1F22.3B9 1F93:1F23.3B9 1F94:1F24.3B9 1F95:1F25.3B9 " ++
  "1F96:1F26.3B9 1F97:1F27.3B9 1F98:1F20.3B9 1F99:1F21.3B9 1F9A:1F22.3B9 1F9B:1F23.3B9 " ++
  "1F9C:1F24.3B9 1F9D:1F25.3B9 1F9E:1F26.3B9 1F9F:1F27.3B9 1FA0:1F60.3B9 1FA1:1F61.3B9 " ++
  "1FA2:1F62.3B9 1FA3:1F63.3B9 1FA4:1F64.3B9 1FA5:1F65.3B9 1FA6:1F66.3B9 1FA7:1F67.3B9 " ++
  "1FA8:1F60.3B9 1FA9:1F61.3B9 1FAA:1F62.3B9 1FAB:1F63.3B9 1FAC:1F64.3B9 1FAD:1F65.3B9 " ++
  "1FAE:1F66.3B9 1FAF:1F67.3B9 1FB2:1F70.3B9 1FB3:3B1.3B9 1FB4:3AC.3B9 1FB6:3B1.342 " ++
  "1FB7:3B1.342.3B9 1FBC:3B1.3B9 1FBE:3B9 1FC2:1F74.3B9 1FC3:3B7.3B9 1FC4:3AE.3B9 1FC6:3B7.342 " ++
  "1FC7:3B7.342.3B9 1FCC:3B7.3B9 1FD2:3B9.308.300 1FD3:3B9.308.301 1FD6:3B9.342 " ++
  "1FD7:3B9.308.342 1FE2:3C5.308.300 1FE3:3C5.308.301 1FE4:3C1.313 1FE6:3C5.342 " ++
  "1FE7:3C5.308.342 1FF2:1F7C.3B9 1FF3:3C9.3B9 1FF4:3CE.3B9 1FF6:3C9.342 1FF7:3C9.342.3B9 " ++
  "1FFC:3C9.3B9 FB00:66.66 FB01:66.69 FB02:66.6C FB03:66.66.69 FB04:66.66.6C FB05:73.74 " ++
  "FB06:73.74 FB13:574.576 FB14:574.565 FB15:574.56B FB16:57E.576 FB17:574.56D"

/-- The characters whose full case folding is not their lowercase mapping, by code point. -/
def foldTable : Array Nat × Array (List Nat) :=
  let entries := (pieces ' ' foldExceptionText).map fun piece =>
    match piece.splitOn ":" with
    | [cp, f] => (readHex cp, readSequence f)
    | _ => (readHex piece, [])
  ((entries.map (·.1)).toArray, (entries.map (·.2)).toArray)

/-- The full case folding of a character. The Cherokee letters fold to the capital ones. -/
def foldFull (c : Char) : List Char :=
  let cp := c.toNat
  if 0x13A0 ≤ cp && cp ≤ 0x13F5 then [c]
  else if 0x13F8 ≤ cp && cp ≤ 0x13FD then [Char.ofNat (cp - 8)]
  else if 0xAB70 ≤ cp && cp ≤ 0xABBF then [Char.ofNat (cp - 0xAB70 + 0x13A0)]
  else
    match countAtMost foldTable.1 cp with
    | 0 => lowerFull c
    | k => if foldTable.1.getD (k - 1) 0 == cp then charsOf (foldTable.2.getD (k - 1) [])
      else lowerFull c

/-- The case folding of a text, character by character. -/
def casefold (s : String) : String := String.ofList (s.toList.flatMap foldFull)

end Dataflow.Unicode
