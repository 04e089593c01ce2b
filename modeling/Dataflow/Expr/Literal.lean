import Dataflow.Unicode.Name
/-!
# Values of literals

Number literals become naturals or floats; string literals become their text after escape
sequences are replaced. A malformed escape is an error whose message names the escape and its
place, counted in the escape-coded form of the body (a character beyond ASCII counts ten
places, as `\UXXXXXXXX` does).
-/

namespace Dataflow.Expr

/-- The value of a hexadecimal digit. -/
def hexValue (c : Char) : Option Nat :=
  if c.isDigit then some (c.toNat - '0'.toNat)
  else if 'a' ≤ c && c ≤ 'f' then some (c.toNat - 'a'.toNat + 10)
  else if 'A' ≤ c && c ≤ 'F' then some (c.toNat - 'A'.toNat + 10)
  else none

/-- The natural written by digits in a base (underscores skipped). -/
def digitsValue (base : Nat) (ds : List Char) : Nat :=
  ds.foldl (fun acc c => match hexValue c with
    | some d => acc * base + d
    | none => acc) 0

/-- The value of an integer literal. -/
def intLiteral (text : String) : Nat :=
  match text.toList with
  | '0' :: x :: rest =>
    if x == 'x' || x == 'X' then digitsValue 16 rest
    else if x == 'o' || x == 'O' then digitsValue 8 rest
    else if x == 'b' || x == 'B' then digitsValue 2 rest
    else digitsValue 10 ('0' :: x :: rest)
  | cs => digitsValue 10 cs

/-- A literal is a float: it has a point or an exponent and is no hexadecimal integer. -/
def isFloatLiteral (text : String) : Bool :=
  let cs := text.toList
  !(cs.take 2 == ['0', 'x'] || cs.take 2 == ['0', 'X']) && (cs.contains '.' || cs.contains 'e' || cs.contains 'E')

/-- The value of a decimal float literal, rounded to the nearest double. -/
def floatLiteral (text : String) : Float :=
  let cs := text.toList.filter (· != '_')
  let mant := cs.takeWhile fun c => c != 'e' && c != 'E'
  let expPart := (cs.dropWhile fun c => c != 'e' && c != 'E').drop 1
  let intDigits := mant.takeWhile (· != '.')
  let fracDigits := (mant.dropWhile (· != '.')).drop 1
  let m := digitsValue 10 (intDigits ++ fracDigits)
  let e : Int := match expPart with
    | '-' :: ds => -(digitsValue 10 ds : Int)
    | '+' :: ds => digitsValue 10 ds
    | ds => digitsValue 10 ds
  let e := e - fracDigits.length
  if e ≥ 0 then Float.ofScientific m false e.toNat else Float.ofScientific m true (-e).toNat

/-- A failed escape: the reason, the range of places `[start, stop)` it covers, and whether the
text is bytes (whose decoder words its one failure differently). -/
structure EscapeError where
  reason : String
  start : Nat
  stop : Nat
  bytes : Bool

/-- The message of a failed escape, as the decoder of escape-coded text words it. -/
def EscapeError.message (e : EscapeError) : String :=
  if e.bytes then s!"(value error) invalid \\x escape at position {e.start}"
  else if e.stop == e.start + 1 then
    s!"(unicode error) 'unicodeescape' codec can't decode byte 0x5c in position {e.start}: {e.reason}"
  else
    s!"(unicode error) 'unicodeescape' codec can't decode bytes in position {e.start}-{e.stop - 1}: {e.reason}"

/-- The number of places a character takes in escape-coded text. -/
def places (c : Char) : Nat := if c.toNat < 128 then 1 else 10

/-- Reads up to `count` hexadecimal digits; returns the value and the number of digits read. -/
def readHex : Nat → List Char → Nat × Nat
  | 0, _ => (0, 0)
  | k + 1, c :: cs =>
    match hexValue c with
    | some d =>
      let (v, n) := readHex k cs
      (d * Nat.pow 16 k + v, n + 1)
    | none => (0, 0)
  | _ + 1, [] => (0, 0)

/-- The octal digits of an octal escape: at most three. -/
def octalDigits (cs : List Char) : List Char :=
  (cs.take 3).takeWhile fun d => d.isDigit && d.toNat < '8'.toNat

/-- Decodes the escapes of a string body. `pos` is the place of the next character; `acc`
is the decoded prefix, reversed. In a bytes body `\u`, `\U` and `\N` are no escapes. -/
def decodeEscapes (bytes : Bool) : List Char → Nat → List Char → Except EscapeError (List Char)
  | [], _, acc => .ok acc.reverse
  | [c], pos, acc =>
    if c == '\\' then .error ⟨"\\ at end of string", pos, pos + 1, bytes⟩ else .ok (c :: acc).reverse
  | c :: d :: cs, pos, acc =>
    if c != '\\' then decodeEscapes bytes (d :: cs) (pos + places c) (c :: acc)
    else
      let simple (ch : Char) := decodeEscapes bytes cs (pos + 2) (ch :: acc)
      let keep := decodeEscapes bytes cs (pos + (if d.toNat < 128 then 2 else 16)) (d :: '\\' :: acc)
      let hexEscape (count : Nat) (reason : String) :=
        let (v, n) := readHex count cs
        if n < count then .error ⟨reason, pos, pos + 2 + n, bytes⟩
        else if v > 0x10FFFF then .error ⟨"illegal Unicode character", pos, pos + 2 + n, bytes⟩
        else decodeEscapes bytes (cs.drop n) (pos + 2 + n) (Char.ofNat v :: acc)
      match d with
      | '\n' => decodeEscapes bytes cs (pos + 2) acc
      | '\\' => simple '\\'
      | '\'' => simple '\''
      | '"' => simple '"'
      | 'a' => simple '\x07'
      | 'b' => simple '\x08'
      | 'f' => simple '\x0c'
      | 'n' => simple '\n'
      | 'r' => simple '\r'
      | 't' => simple '\t'
      | 'v' => simple '\x0b'
      | 'x' => hexEscape 2 "truncated \\xXX escape"
      | 'u' => if bytes then keep else hexEscape 4 "truncated \\uXXXX escape"
      | 'U' => if bytes then keep else hexEscape 8 "truncated \\UXXXXXXXX escape"
      | 'N' =>
        if bytes then keep else
        match cs with
        | '{' :: more =>
          let name := more.takeWhile (· != '}')
          let namePlaces := (name.map places).foldr (· + ·) 0
          if name.length == more.length then
            .error ⟨"malformed \\N character escape", pos, pos + 3 + namePlaces, bytes⟩
          else if name.isEmpty then .error ⟨"malformed \\N character escape", pos, pos + 3, bytes⟩
          else match Unicode.charOfName? (String.ofList name) with
            | some ch => decodeEscapes bytes (more.drop (name.length + 1)) (pos + 4 + namePlaces) (ch :: acc)
            | none => .error ⟨"unknown Unicode character name", pos, pos + 4 + namePlaces, bytes⟩
        | _ => .error ⟨"malformed \\N character escape", pos, pos + 2, bytes⟩
      | _ =>
        if d.isDigit && d.toNat < '8'.toNat then
          let ds := octalDigits (d :: cs)
          let v := ds.foldl (fun a e => a * 8 + (e.toNat - '0'.toNat)) 0
          decodeEscapes bytes ((d :: cs).drop ds.length) (pos + 1 + ds.length) (Char.ofNat v :: acc)
        else keep
termination_by cs _ _ => cs.length
decreasing_by
  all_goals simp only [List.length_cons, List.length_drop]
  all_goals omega

end Dataflow.Expr
