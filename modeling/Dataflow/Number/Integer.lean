import Dataflow.Unicode.Property
/-!
# Reading integers

Reads the text of an integer as the integer constructor does:

* first the text is brought to ASCII: the decimal digits of every script become the ASCII
  digits of the same value, white space beyond ASCII becomes a space, and any other character
  from `U+007F` on makes the text unreadable;
* blanks around the number are skipped, a sign may lead, and in base sixteen, eight or two the
  prefix `0x`, `0o` or `0b` may follow (with one underscore after it);
* the digits may be separated by single underscores, but may neither start nor end with one.
-/

namespace Dataflow.Number

/-- The ASCII form of a text, or `none` when it holds a character that has none. -/
def asciiForm (s : String) : Option (List Char) :=
  s.toList.mapM fun c =>
    if c.toNat < 127 then some c
    else if Unicode.isSpace c then some ' '
    else (Unicode.decimalValue? c).map fun d => Char.ofNat ('0'.toNat + d)

/-- The blanks that integer reading skips. -/
def isAsciiBlank (c : Char) : Bool :=
  c == ' ' || c == '\t' || c == '\n' || c == '\x0b' || c == '\x0c' || c == '\r'

/-- The value of a digit in a base, if it is one. -/
def digitValue? (base : Nat) (c : Char) : Option Nat :=
  let v := if '0' ≤ c && c ≤ '9' then some (c.toNat - '0'.toNat)
    else if 'a' ≤ c && c ≤ 'z' then some (c.toNat - 'a'.toNat + 10)
    else if 'A' ≤ c && c ≤ 'Z' then some (c.toNat - 'A'.toNat + 10)
    else none
  v.bind fun d => if d < base then some d else none

/-- Reads digits with single underscores between them: the value, or `none`. -/
def readDigits (base : Nat) (cs : List Char) : Option Nat :=
  if cs.isEmpty || cs.head? == some '_' || cs.getLast? == some '_' then none
  else if (cs.zip (cs.drop 1)).any (fun (a, b) => a == '_' && b == '_') then none
  else (cs.filter (· != '_')).foldlM (fun acc c => (digitValue? base c).map (acc * base + ·)) 0

/-- A leading sign: whether the number is negative, and the text after the sign. -/
def splitSign : List Char → Bool × List Char
  | '-' :: rest => (true, rest)
  | '+' :: rest => (false, rest)
  | cs => (false, cs)

/-- The text after the prefix `0x`, `0o` or `0b` of a base, with one underscore after the prefix
dropped; `none` when the text does not start with the prefix. -/
def afterBasePrefix (base : Nat) : List Char → Option (List Char)
  | '0' :: x :: rest =>
    if (base == 16 && (x == 'x' || x == 'X')) || (base == 8 && (x == 'o' || x == 'O')) ||
        (base == 2 && (x == 'b' || x == 'B')) then
      some (match rest with | '_' :: more => more | _ => rest)
    else none
  | _ => none

/-- The integer a text gives in a base from two to thirty-six. -/
def readInteger? (base : Nat) (s : String) : Option Int := do
  let cs ← asciiForm s
  let cs := ((cs.dropWhile isAsciiBlank).reverse.dropWhile isAsciiBlank).reverse
  let (negative, cs) := splitSign cs
  let prefixed := afterBasePrefix base cs
  let digits := prefixed.getD cs
  if prefixed.isSome && digits.head? == some '_' then none
  else
    let n ← readDigits base digits
    return if negative then -(n : Int) else n

end Dataflow.Number
