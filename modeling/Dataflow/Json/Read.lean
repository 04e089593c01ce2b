import Dataflow.Json.Value
import Dataflow.Number.Parse
/-!
# Reading JSON documents

A reader for the text of a JSON document. Numbers with a fraction or an exponent are floats,
rounded to the nearest double; the others are integers of any size. The words `NaN`,
`Infinity` and `-Infinity` are floats too. A key given twice keeps its first place and its
last value. Escapes of surrogate halves that do not pair up read as the replacement
character.

The reader is a family of functions on the remaining characters with a fuel argument; the
length of the text is always fuel enough, because every value takes at least one character.
-/

namespace Dataflow.Json

/-- Skips blanks between tokens. -/
def skipSpace : List Char → List Char
  | c :: cs => if c == ' ' || c == '\t' || c == '\n' || c == '\r' then skipSpace cs else c :: cs
  | [] => []

/-- The decimal digits at the start of a text, and what follows them. -/
def digitsAt (cs : List Char) : List Char × List Char :=
  (cs.takeWhile Char.isDigit, cs.dropWhile Char.isDigit)

/-- The natural written by decimal digits. -/
def digitValue (ds : List Char) : Nat :=
  ds.foldl (fun acc d => acc * 10 + (d.toNat - 48)) 0

/-- A number: an integer, or a float when a fraction or an exponent is written. -/
def number (cs : List Char) : Except String (Json × List Char) := do
  let (negative, cs) := match cs with
    | '-' :: rest => (true, rest)
    | _ => (false, cs)
  let (whole, cs) := digitsAt cs
  if whole.isEmpty then throw "Expecting value"
  if whole.length > 1 && whole.head? == some '0' then throw "Extra data"
  let (frac, cs, dotted) := match cs with
    | '.' :: rest => let (f, r) := digitsAt rest; (f, r, true)
    | _ => ([], cs, false)
  if dotted && frac.isEmpty then throw "Extra data"
  let (expo, cs, hasExp) : Int × List Char × Bool := match cs with
    | e :: rest =>
      if e == 'e' || e == 'E' then
        let (sign, rest) := match rest with
          | '-' :: r => (-1, r)
          | '+' :: r => (1, r)
          | r => (1, r)
        let (ds, r) := digitsAt rest
        if ds.isEmpty then (0, e :: rest, false) else (sign * digitValue ds, r, true)
      else (0, cs, false)
    | [] => (0, cs, false)
  if dotted || hasExp then
    let m := digitValue (whole ++ frac)
    return (.float (Dataflow.Decimal.toFloat negative m (expo - frac.length)), cs)
  else
    let v := digitValue whole
    return (.int (if negative then -(v : Int) else v), cs)

/-- Reads four hexadecimal digits. -/
def hexDigits (cs : List Char) : Option Nat :=
  match cs with
  | a :: b :: c :: d :: _ =>
    [a, b, c, d].foldlM (fun acc x =>
      if x.isDigit then some (acc * 16 + (x.toNat - 48))
      else if 'a' ≤ x && x ≤ 'f' then some (acc * 16 + (x.toNat - 87))
      else if 'A' ≤ x && x ≤ 'F' then some (acc * 16 + (x.toNat - 55))
      else none) 0
  | _ => none

/-- The character of a `\\u` escape with code `hi`, given the text after its digits, and how
many more characters it takes: a leading surrogate half followed by the escape of a trailing
half makes one character of both. -/
def escapedChar (hi : Nat) (after : List Char) : Char × Nat :=
  if 0xD800 ≤ hi && hi < 0xDC00 then
    match after with
    | '\\' :: 'u' :: more =>
      match hexDigits more with
      | some lo =>
        if 0xDC00 ≤ lo && lo < 0xE000 then
          (Char.ofNat (0x10000 + (hi - 0xD800) * 0x400 + (lo - 0xDC00)), 6)
        else ('�', 0)
      | none => ('�', 0)
    | _ => ('�', 0)
  else if 0xDC00 ≤ hi && hi < 0xE000 then ('�', 0)
  else (Char.ofNat hi, 0)

/-- The body of a string literal after its opening quote, and what follows the closing one. -/
def stringBody : List Char → List Char → Except String (String × List Char)
  | [], _ => throw "Unterminated string"
  | '"' :: rest, acc => return (String.ofList acc.reverse, rest)
  | '\\' :: e :: rest, acc =>
    match e with
    | '"' => stringBody rest ('"' :: acc)
    | '\\' => stringBody rest ('\\' :: acc)
    | '/' => stringBody rest ('/' :: acc)
    | 'b' => stringBody rest ('\x08' :: acc)
    | 'f' => stringBody rest ('\x0c' :: acc)
    | 'n' => stringBody rest ('\n' :: acc)
    | 'r' => stringBody rest ('\r' :: acc)
    | 't' => stringBody rest ('\t' :: acc)
    | 'u' =>
      match hexDigits rest with
      | none => throw "Invalid \\uXXXX escape"
      | some hi =>
        let (c, used) := escapedChar hi (rest.drop 4)
        stringBody (rest.drop (4 + used)) (c :: acc)
    | _ => throw "Invalid \\escape"
  | c :: rest, acc => stringBody rest (c :: acc)
termination_by cs _ => cs.length
decreasing_by all_goals simp only [List.length_cons, List.length_drop]; all_goals omega

/-- Starts with a word. -/
def startsWith (cs : List Char) (w : String) : Bool :=
  cs.take w.length == w.toList

mutual

/-- A value, after blanks. -/
def value : Nat → List Char → Except String (Json × List Char)
  | 0, _ => throw "Expecting value"
  | n + 1, cs =>
    match skipSpace cs with
    | '{' :: rest =>
      match skipSpace rest with
      | '}' :: r => return (.obj [], r)
      | _ => members n [] rest
    | '[' :: rest =>
      match skipSpace rest with
      | ']' :: r => return (.arr [], r)
      | _ => elements n [] rest
    | '"' :: rest => do
      let (s, r) ← stringBody rest []
      return (.str s, r)
    | cs =>
      if startsWith cs "null" then return (.null, cs.drop 4)
      else if startsWith cs "true" then return (.bool true, cs.drop 4)
      else if startsWith cs "false" then return (.bool false, cs.drop 5)
      else if startsWith cs "NaN" then return (.float (0.0 / 0.0), cs.drop 3)
      else if startsWith cs "Infinity" then return (.float (1.0 / 0.0), cs.drop 8)
      else if startsWith cs "-Infinity" then return (.float (-1.0 / 0.0), cs.drop 9)
      else number cs

/-- The items of an array after its opening bracket. -/
def elements : Nat → List Json → List Char → Except String (Json × List Char)
  | 0, _, _ => throw "Expecting value"
  | n + 1, acc, cs => do
    let (v, r) ← value n cs
    match skipSpace r with
    | ',' :: more => elements n (acc ++ [v]) more
    | ']' :: more => return (.arr (acc ++ [v]), more)
    | _ => throw "Expecting ',' delimiter"

/-- The members of an object after its opening brace. -/
def members : Nat → List (String × Json) → List Char → Except String (Json × List Char)
  | 0, _, _ => throw "Expecting value"
  | n + 1, acc, cs => do
    let (k, r) ← match skipSpace cs with
      | '"' :: rest => stringBody rest []
      | _ => throw "Expecting property name enclosed in double quotes"
    let r ← match skipSpace r with
      | ':' :: more => pure more
      | _ => throw "Expecting ':' delimiter"
    let (v, r) ← value n r
    let acc := setField acc k v
    match skipSpace r with
    | ',' :: more => members n acc more
    | '}' :: more => return (.obj acc, more)
    | _ => throw "Expecting ',' delimiter"

end

/-- Reads a whole document; only blanks may follow it. -/
def parse (s : String) : Except String Json := do
  let cs := s.toList
  let (v, rest) ← value (cs.length + 1) cs
  if (skipSpace rest).isEmpty then return v else throw "Extra data"

end Dataflow.Json
