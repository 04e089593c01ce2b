import Dataflow.Number.Parse
import Dataflow.Number.Exact
import Dataflow.Table.Column
/-!
# Typing the columns of a read table

A column of fields becomes the first of these types that takes every field, in this order:

1. 64-bit integers (an absent field is missing; a column with a missing field is then held
   as doubles, its missing fields not-a-number);
2. unsigned 64-bit integers, tried only when an integer is beyond the signed range;
3. doubles;
4. booleans (`true` and `false` in any case; with a missing field the column holds objects);
5. text.

A field is *missing* when it is one of the words of `missingWords`, exactly. The integer
passes read the fields in order and the first field that fails decides: digits beyond the
range of the signed type send the column to the unsigned pass, and digits beyond the unsigned
range too make it text, whatever the later fields are.

The fields are read as a C library reads them: blanks (space, tab, line breaks, vertical tab,
form feed) may stand around numbers; an integer is a sign and digits; a double keeps its first
17 significant digits, adds them up in doubles and scales them by a cached power of ten,
so it may differ from the nearest double in the last place, and a power beyond `10^308` is
out of range. The exponent is added up in 32-bit integers, which wrap around (`wrapInt32`). Words of infinity are read without blanks, in any case.

When the signed integers overflow and the unsigned ones cannot hold the column, because it
also has negative or missing fields, the column is text, and in the second case the missing
words stay as they are.
-/

namespace Dataflow.Csv

open Dataflow.Decimal

/-- The words that mark a field as missing. -/
def missingWords : List String :=
  ["-1.#IND", "1.#QNAN", "1.#IND", "-1.#QNAN", "#N/A N/A", "#N/A", "N/A", "n/a", "NA", "<NA>",
   "#NA", "NULL", "null", "NaN", "-NaN", "nan", "-nan", "None", ""]

/-- The field is missing. -/
def isMissing (w : String) : Bool := missingWords.contains w

/-- Blanks that may stand around a number. -/
def isSpaceAscii (c : Char) : Bool :=
  c == ' ' || c == '\t' || c == '\n' || c == '\x0b' || c == '\x0c' || c == '\r'

/-- The value of an ASCII digit. -/
def digitOf (c : Char) : Nat := c.toNat - '0'.toNat

/-- An ASCII letter in lower case. -/
def asciiLower (c : Char) : Char := if 'A' ≤ c && c ≤ 'Z' then Char.ofNat (c.toNat + 32) else c

/-- Equal ignoring the case of ASCII letters. -/
def sameIgnoringCase (a b : String) : Bool := a.toList.map asciiLower == b.toList.map asciiLower

/-- The powers of ten `10^0` to `10^308`, each the nearest double. -/
def tenPowers : Array Float := (Array.range 309).map fun (k : Nat) => Decimal.toFloat false 1 k

/-- The cached power `10^k`. -/
def tenPower (k : Nat) : Float := tenPowers.getD k 0

/-! ### Doubles -/

/-- Digits before the point: at most 17 are added up; the ones beyond raise the exponent.
Returns the sum, the digits added, the exponent and the rest. -/
def wholeDigits : List Char → Float → Nat → Int → Float × Nat × Int × List Char
  | c :: cs, number, count, exponent =>
    if c.isDigit then
      if count < 17 then wholeDigits cs (number * 10 + (digitOf c).toFloat) (count + 1) exponent
      else wholeDigits cs number count (exponent + 1)
    else (number, count, exponent, c :: cs)
  | [], number, count, exponent => (number, count, exponent, [])

/-- Digits after the point, while fewer than 17 digits are added up. Returns the sum, the
digits added, the decimals added and the rest. -/
def fractionDigits : List Char → Float → Nat → Nat → Float × Nat × Nat × List Char
  | c :: cs, number, count, decimals =>
    if count < 17 && c.isDigit then
      fractionDigits cs (number * 10 + (digitOf c).toFloat) (count + 1) (decimals + 1)
    else (number, count, decimals, c :: cs)
  | [], number, count, decimals => (number, count, decimals, [])

/-- The digits of an exponent: at most 17 are read. Returns the value, the digits read and
the rest. -/
def exponentDigits : List Char → Nat → Nat → Nat × Nat × List Char
  | c :: cs, value, count =>
    if count < 17 && c.isDigit then exponentDigits cs (value * 10 + digitOf c) (count + 1)
    else (value, count, c :: cs)
  | [], value, count => (value, count, [])

/-- An integer reduced to a signed 32-bit integer, wrapping around as the reader's exponent
arithmetic does: an exponent of `2147483648` reads as `-2147483648`, one of `4294967296` as
`0`. -/
def wrapInt32 (v : Int) : Int :=
  let m := v % 4294967296
  if m ≥ 2147483648 then m - 4294967296 else m

/-- Scales a sum of digits by a power of ten; `none` when the power is beyond `10^308` or
the result is infinite. -/
def scaleByTen (number : Float) (exponent : Int) : Option Float :=
  if exponent > 308 then none
  else
    let scaled :=
      if exponent > 0 then number * tenPower exponent.toNat
      else if exponent < -616 then 0
      else if exponent < -308 then number / tenPower (-308 - exponent).toNat / tenPower 308
      else number / tenPower (-exponent).toNat
    if scaled.isInf then none else some scaled

/-- A double written with the point `.` and the exponent mark `e` or `E`, blanks around it
allowed; `none` when the text is not one whole number or is out of range. -/
def readDecimal (word : String) : Option Float :=
  let p := word.toList.dropWhile isSpaceAscii
  let (negative, p) := match p with
    | '-' :: r => (true, r)
    | '+' :: r => (false, r)
    | r => (false, r)
  let (number, count, exponent, p) := wholeDigits p 0 0 0
  let (number, count, exponent, p) := match p with
    | '.' :: r =>
      let (number, count, decimals, r) := fractionDigits r number count 0
      let r := if count ≥ 17 then r.dropWhile Char.isDigit else r
      (number, count, exponent - decimals, r)
    | r => (number, count, exponent, r)
  if count == 0 then none
  else
    let number := if negative then -number else number
    let marked := match p with
      | c :: r => if c == 'e' || c == 'E' then some r else none
      | [] => none
    let scaled : Option (Int × List Char) := match marked with
      | none => some (exponent, p)
      | some r =>
        let (negExp, r) := match r with
          | '-' :: s => (true, s)
          | '+' :: s => (false, s)
          | s => (false, s)
        let (value, digits, r) := exponentDigits r 0 0
        let value := wrapInt32 value
        if digits == 0 then none
        else some (wrapInt32 (if negExp then exponent - value else exponent + value), r)
    match scaled with
    | none => none
    | some (exponent, rest) =>
      if (rest.dropWhile isSpaceAscii).isEmpty then scaleByTen number exponent else none

/-- A field as a double: a decimal number, or a word of infinity. -/
def readDouble (word : String) : Option Float :=
  match readDecimal word with
  | some x => some x
  | none =>
    if ["inf", "+inf", "Infinity", "+Infinity"].any (sameIgnoringCase word) then some (1 / 0)
    else if ["-inf", "-Infinity"].any (sameIgnoringCase word) then some (-1 / 0)
    else none

/-! ### Integers -/

/-- How a field reads as an integer. -/
inductive IntRead where
  | value (v : Int)
  /-- the digits are beyond the range -/
  | overflow
  /-- no digits, or something after them -/
  | bad
deriving Repr, BEq

/-- The sign and the digits of an integer field, with what follows them; `none` without a
first digit. -/
def integerParts (word : String) : Option (Bool × Nat × List Char) :=
  let p := word.toList.dropWhile isSpaceAscii
  let (negative, p) := match p with
    | '-' :: r => (true, r)
    | '+' :: r => (false, r)
    | r => (false, r)
  let digits := p.takeWhile Char.isDigit
  if digits.isEmpty then none
  else some (negative, digits.foldl (fun acc c => acc * 10 + digitOf c) 0, p.drop digits.length)

/-- A field as a signed 64-bit integer. Overflow is found while reading the digits, before
what follows them is looked at. -/
def readInt64 (word : String) : IntRead :=
  match integerParts word with
  | none => .bad
  | some (negative, n, rest) =>
    let v : Int := if negative then -(n : Int) else n
    if !fitsInt64 v then .overflow
    else if (rest.dropWhile isSpaceAscii).isEmpty then .value v
    else .bad

/-- How a field reads as an unsigned integer. -/
inductive UIntRead where
  | value (v : Nat)
  /-- the field starts with a minus sign: a signed value, whatever follows -/
  | negative
  | overflow
  | bad
deriving Repr, BEq

/-- A field as an unsigned 64-bit integer. -/
def readUInt64 (word : String) : UIntRead :=
  match word.toList.dropWhile isSpaceAscii with
  | '-' :: _ => .negative
  | _ =>
    match integerParts word with
    | none => .bad
    | some (_, n, rest) =>
      if n ≥ Nat.pow 2 64 then .overflow
      else if (rest.dropWhile isSpaceAscii).isEmpty then .value n
      else .bad

/-- A field as a boolean: `true` or `false` in any case. -/
def readBool (word : String) : Option Bool :=
  if sameIgnoringCase word "true" then some true
  else if sameIgnoringCase word "false" then some false
  else none

/-! ### Columns -/

/-- How the signed integer pass over a column ends. -/
inductive IntPass where
  /-- every field read; `none` marks a missing one -/
  | ints (vs : Array (Option Int))
  | overflow
  | bad

/-- The signed integer pass: the first field that fails decides. -/
def intPass (words : List String) : IntPass :=
  let rec go : List String → Array (Option Int) → IntPass
    | [], acc => .ints acc
    | w :: ws, acc =>
      if isMissing w then go ws (acc.push none)
      else match readInt64 w with
        | .value v => go ws (acc.push (some v))
        | .overflow => .overflow
        | .bad => .bad
  go words #[]

/-- How the unsigned integer pass over a column ends. -/
inductive UIntPass where
  | ints (vs : Array Nat)
  /-- a value beyond the signed range with a negative or missing field -/
  | conflict
  /-- a negative field -/
  | signed
  | overflow
  | bad

/-- The unsigned integer pass. -/
def uintPass (words : List String) : UIntPass :=
  let rec go : List String → Array Nat → Bool → Bool → Bool → UIntPass
    | [], acc, big, negative, missing =>
      if big && (negative || missing) then .conflict
      else if negative then .signed
      else .ints acc
    | w :: ws, acc, big, negative, missing =>
      if isMissing w then go ws (acc.push 0) big negative true
      else match readUInt64 w with
        | .value v => go ws (acc.push v) (big || v > Nat.pow 2 63 - 1) negative missing
        | .negative => go ws (acc.push 0) big true missing
        | .overflow => .overflow
        | .bad => .bad
  go words #[] false false false

/-- A column of text; missing fields become not-a-number when `markMissing`. -/
def textColumn (markMissing : Bool) (words : List String) : Column :=
  .object (words.toArray.map fun w =>
    if markMissing && isMissing w then Cell.float (0.0 / 0.0) else Cell.str w)

/-- The column as doubles, if every field reads as one. -/
def doubleColumn (words : List String) : Option Column :=
  (words.toArray.mapM fun w => if isMissing w then some (0.0 / 0.0) else readDouble w).map
    Column.float64

/-- The column as booleans, if every field reads as one; with a missing field the column
holds objects. -/
def boolColumn (words : List String) : Option Column :=
  match words.toArray.mapM (fun w => if isMissing w then some none else (readBool w).map some) with
  | none => none
  | some vs =>
    if vs.any Option.isNone then
      some (.object (vs.map fun v => match v with
        | some b => Cell.bool b
        | none => Cell.float (0.0 / 0.0)))
    else some (.bool (vs.map fun v => v.getD false))

/-- The column after the integer types: doubles, booleans, or text. -/
def beyondIntegers (words : List String) : Column :=
  match doubleColumn words with
  | some c => c
  | none => match boolColumn words with
    | some c => c
    | none => textColumn true words

/-- The typed column of a list of fields. -/
def inferColumn (words : List String) : Column :=
  match intPass words with
  | .ints vs =>
    if vs.any Option.isNone then
      -- missing fields are held as the least integer, which then reads as missing too
      .float64 (vs.map fun v => match v with
        | some i => if i == int64Min then 0.0 / 0.0 else Decimal.intToFloat i
        | none => 0.0 / 0.0)
    else .int64 (vs.map fun v => v.getD 0)
  | .bad => beyondIntegers words
  | .overflow =>
    match uintPass words with
    | .ints vs => .uint64 vs
    | .conflict => textColumn false words
    | .signed | .overflow => textColumn true words
    | .bad => beyondIntegers words

end Dataflow.Csv
