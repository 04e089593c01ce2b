import Dataflow.Unicode.Table
import Dataflow.Unicode.Tables.Names
/-!
# Characters by name

Finds the character a name denotes (Unicode 14.0), as the `\N{...}` escape of string literals
does:

* a name that begins with `HANGUL SYLLABLE ` (in capitals) must go on with the short names of
  a leading consonant, a vowel and a trailing consonant, each the longest that fits, and
  nothing after them;
* a name that begins with `CJK UNIFIED IDEOGRAPH-` must go on with four or five hexadecimal
  digits in capitals that give a unified ideograph;
* any other name is compared with the listed names, the names made from a code point or a
  number (`derivedName?`) and the aliases after its ASCII letters are put in capitals.
-/

namespace Dataflow.Unicode

/-- The short names of the leading consonants of Hangul syllables, in order. -/
def leadJamoNames : List String :=
  ["G", "GG", "N", "D", "DD", "R", "M", "B", "BB", "S", "SS", "", "J", "JJ", "C", "K", "T",
   "P", "H"]

/-- The short names of the vowels, in order. -/
def vowelJamoNames : List String :=
  ["A", "AE", "YA", "YAE", "EO", "E", "YEO", "YE", "O", "WA", "WAE", "OE", "YO", "U", "WEO",
   "WE", "WI", "YU", "EU", "YI", "I"]

/-- The short names of the trailing consonants, in order, the absent one first. -/
def trailJamoNames : List String :=
  ["", "G", "GG", "GS", "N", "NJ", "NH", "D", "L", "LG", "LM", "LB", "LS", "LT", "LP", "LH",
   "M", "B", "BS", "S", "SS", "NG", "J", "C", "K", "T", "P", "H"]

/-- The longest of the names that begins a text, by its index; the first of equal length. -/
def longestPrefix (names : List String) (s : List Char) : Option (Nat × Nat) :=
  names.zipIdx.foldl (fun best (n, i) =>
    let longer := match best with
      | none => true
      | some (_, len) => n.length > len
    if longer && n.toList.isPrefixOf s then some (i, n.length) else best) none

/-- The Hangul syllable spelled by short jamo names, with nothing left over. -/
def syllableOfName? (s : List Char) : Option Nat := do
  let (l, ln) ← longestPrefix leadJamoNames s
  let s := s.drop ln
  let (v, vn) ← longestPrefix vowelJamoNames s
  let s := s.drop vn
  let (t, tn) ← longestPrefix trailJamoNames s
  if s.length == tn then some (0xAC00 + (l * 21 + v) * 28 + t) else none

/-- The blocks of unified ideographs. -/
def unifiedIdeographBlocks : List (Nat × Nat) :=
  [(0x3400, 0x4DBF), (0x4E00, 0x9FFF), (0x20000, 0x2A6DF), (0x2A700, 0x2B738),
   (0x2B740, 0x2B81D), (0x2B820, 0x2CEA1), (0x2CEB0, 0x2EBE0), (0x30000, 0x3134A)]

/-- Whether a code point is a unified ideograph. -/
def isUnifiedIdeograph (cp : Nat) : Bool :=
  unifiedIdeographBlocks.any fun (lo, hi) => lo ≤ cp && cp ≤ hi

/-- The unified ideograph written by four or five hexadecimal digits in capitals. -/
def ideographOfName? (s : List Char) : Option Nat :=
  if (s.length == 4 || s.length == 5) &&
      s.all (fun c => ('0' ≤ c && c ≤ '9') || ('A' ≤ c && c ≤ 'F')) then
    let v := s.foldl (fun acc c => acc * 16 + (hexDigit? c).getD 0) 0
    if isUnifiedIdeograph v then some v else none
  else none

/-- The characters named by a prefix and their code point in hexadecimal capitals, four digits in
the basic plane and five above it: the compatibility ideographs, the Khitan small script
characters and the Nushu characters, by prefix and blocks. -/
def hexNamedBlocks : List (String × List (Nat × Nat)) :=
  [("CJK COMPATIBILITY IDEOGRAPH-", [(0xF900, 0xFA6D), (0xFA70, 0xFAD9), (0x2F800, 0x2FA1D)]),
   ("KHITAN SMALL SCRIPT CHARACTER-", [(0x18B00, 0x18CD5)]),
   ("NUSHU CHARACTER-", [(0x1B170, 0x1B2FB)])]

/-- A number in decimal digits, with zeros in front to make it `width` digits wide. -/
def paddedDecimal (width n : Nat) : List Char :=
  let digits := Nat.toDigits 10 n
  List.replicate (width - digits.length) '0' ++ digits

/-- The value of decimal digits. -/
def decimalValue (digits : List Char) : Nat :=
  digits.foldl (fun acc c => acc * 10 + (c.toNat - '0'.toNat)) 0

/-- The characters named by a prefix and a decimal number `width` digits wide (`0` for no zeros
in front), by prefix, width and runs `(first, last, code point of first)`: the Tangut
components, the variation selectors and their aliases `VS1` to `VS256`. -/
def decimalNamedRuns : List (String × Nat × List (Nat × Nat × Nat)) :=
  [("TANGUT COMPONENT-", 3, [(1, 768, 0x18800)]),
   ("VARIATION SELECTOR-", 0, [(1, 16, 0xFE00), (17, 256, 0xE0100)]),
   ("VS", 0, [(1, 16, 0xFE00), (17, 256, 0xE0100)])]

/-- The Braille pattern named by its raised dots, digits from 1 to 8 in increasing order. -/
def brailleOfDots? (dots : List Char) : Option Nat :=
  let ns := dots.map fun c => c.toNat - '0'.toNat
  if dots ≠ [] && dots.all (fun c => '1' ≤ c && c ≤ '8') &&
      (ns.zip ns.tail).all (fun (a, b) => a < b) then
    some (0x2800 + ns.foldl (fun acc d => acc + Nat.pow 2 (d - 1)) 0)
  else none

/-- The character whose name is made from its code point or a number: the families of
`hexNamedBlocks` and `decimalNamedRuns`, and the Braille patterns but the blank one. -/
def derivedName? (s : List Char) : Option Nat :=
  let braille := "BRAILLE PATTERN DOTS-".toList
  if braille.isPrefixOf s then brailleOfDots? (s.drop braille.length)
  else
    (decimalNamedRuns.findSome? fun (head, width, runs) =>
      if head.toList.isPrefixOf s then
        let digits := s.drop head.length
        let n := decimalValue digits
        if digits == paddedDecimal width n then
          runs.findSome? fun (first, last, start) =>
            if first ≤ n && n ≤ last then some (start + n - first) else none
        else none
      else none) <|>
    hexNamedBlocks.findSome? fun (head, blocks) =>
      if head.toList.isPrefixOf s then
        let digits := s.drop head.length
        let v := digits.foldl (fun acc c => acc * 16 + (hexDigit? c).getD 0) 0
        if digits.all (fun c => ('0' ≤ c && c ≤ '9') || ('A' ≤ c && c ≤ 'F')) &&
            digits.length == (if v < 0x10000 then 4 else 5) &&
            blocks.any (fun (lo, hi) => lo ≤ v && v ≤ hi) then some v
        else none
      else none

/-- The symbols of the name codes, in order of value. -/
def nameSymbols : List Char :=
  "!#$%&()*+,-./0123456789:;<=>?@ABCDEFGHIJKLMNOPQRSTUVWXYZ[]^_abcdefghijklmnopqrstuvwxyz|~".toList

/-- The value of a symbol of the name codes: its place. -/
def nameSymbolValue (c : Char) : Nat := nameSymbols.idxOf c

/-- The first symbol value of a code digit; smaller values start entries. -/
def nameDigitBase : Nat := 13

/-- The number of code digits. -/
def nameCodeBase : Nat := 75

/-- The number of common words, each coded by one digit. -/
def commonNameCount : Nat := 45

/-- The number of first digits of two-digit codes, which name the middle words. -/
def middleNameLeads : Nat := 27

/-- The words written each against the one before it: the number of leading characters shared
with it as a lowercase letter (`a` for none), then the rest. -/
def frontCodedWords : Nat → List Char → List Char → List String
  | 0, _, _ => []
  | _, [], _ => []
  | fuel + 1, c :: rest, prev =>
    let tail := rest.takeWhile fun d => !('a' ≤ d && d ≤ 'z')
    let word := prev.take (c.toNat - 'a'.toNat) ++ tail
    String.ofList word :: frontCodedWords fuel (rest.drop tail.length) word

/-- The middle words of the names, in order. -/
def middleNameWords : List String :=
  frontCodedWords middleNameWordText.length middleNameWordText.toList []

/-- The rare words of the names, in order. -/
def rareNameWords : List String :=
  frontCodedWords rareNameWordText.length rareNameWordText.toList []

/-- The numbers of the words that code digits give, after `fresh` rare words have been named
for the first time: the last digit alone names the next of them. Gives the count after. -/
def codedWords : Nat → List Nat → List Nat × Nat
  | fresh, [] => ([], fresh)
  | fresh, x :: rest =>
    if x < commonNameCount then
      let (ws, n) := codedWords fresh rest
      (x :: ws, n)
    else if x < commonNameCount + middleNameLeads then
      match rest with
      | y :: more =>
        let (ws, n) := codedWords fresh more
        ((commonNameCount + (x - commonNameCount) * nameCodeBase + y) :: ws, n)
      | [] => ([], fresh)
    else if x + 1 < nameCodeBase then
      match rest with
      | y :: z :: more =>
        let (ws, n) := codedWords fresh more
        ((commonNameCount + middleNameLeads * nameCodeBase +
          ((x - commonNameCount - middleNameLeads) * nameCodeBase + y) * nameCodeBase + z) :: ws, n)
      | _ => ([], fresh)
    else
      let (ws, n) := codedWords (fresh + 1) rest
      ((commonNameCount + middleNameLeads * nameCodeBase + fresh) :: ws, n)

/-- The word after one that ends in a number: the number one higher, as many digits wide. -/
def nextNumbered (w : String) : String :=
  let cs := w.toList
  let digits := (cs.reverse.takeWhile Char.isDigit).reverse
  String.ofList (cs.take (cs.length - digits.length) ++
    paddedDecimal digits.length (decimalValue digits + 1))

/-- Walks the coded name list for the name with words `target`. `prev` are the words of the
previous name, `cp` the code point of the next entry and `fresh` the rare words named so far;
`fuel` bounds the entries walked. -/
def findCoded (words : Array String) (target : List String) :
    Nat → List Nat → List String → Nat → Nat → Option Nat
  | 0, _, _, _, _ => none
  | _, [], _, _, _ => none
  | fuel + 1, v :: rest, prev, cp, fresh =>
    let digits := (rest.takeWhile (· ≥ nameDigitBase)).map (· - nameDigitBase)
    let rest := rest.drop digits.length
    if v == 12 then
      findCoded words target fuel rest prev
        (cp + digits.foldl (fun acc d => acc * nameCodeBase + d) 0) fresh
    else
      let (coded, fresh) := codedWords fresh digits
      let name := if v == 11 then prev.dropLast ++ [nextNumbered (prev.getLast?.getD "")]
        else prev.take v ++ coded.map (words.getD · "")
      if name == target then some cp else findCoded words target fuel rest name (cp + 1) fresh

/-- The code point of a listed or derived name, or of an alias. -/
def listedName? (name : String) : Option Nat :=
  let words := (commonNameWords ++ middleNameWords ++ rareNameWords).toArray
  let codes := nameCodeText.toList.map nameSymbolValue
  match findCoded words (name.splitOn " ") (codes.length + 1) codes [] 0 0 <|>
      derivedName? name.toList with
  | some cp => some cp
  | none =>
    ((pieces ';' aliasText).findSome? fun entry =>
      match entry.splitOn ":" with
      | [cp, other] => if other == name then some (readHex cp) else none
      | _ => none)

/-- The character a name denotes. -/
def charOfName? (name : String) : Option Char :=
  let cs := name.toList
  let hangul := "HANGUL SYLLABLE ".toList
  let ideograph := "CJK UNIFIED IDEOGRAPH-".toList
  let cp :=
    if hangul.isPrefixOf cs then syllableOfName? (cs.drop hangul.length)
    else if ideograph.isPrefixOf cs then ideographOfName? (cs.drop ideograph.length)
    else listedName? (String.ofList (cs.map Char.toUpper))
  cp.map Char.ofNat

end Dataflow.Unicode
