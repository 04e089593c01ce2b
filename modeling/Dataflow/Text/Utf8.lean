/-!
# Decoding UTF-8

Turns the bytes of a file into text, strictly: the first byte sequence that is no UTF-8 stops
the decoding, and the failure names the bytes at fault and why, as a streaming decoder reports
it.

* A byte that cannot begin a character (`0x80` to `0xC1`, `0xF5` to `0xFF`) is an *invalid
  start byte*; the fault is that byte alone.
* A byte that cannot continue the character begun (including the second bytes that would
  give an overlong form, a surrogate or a code point above `0x10FFFF`) is an *invalid
  continuation byte*; the fault is the bytes before it in the character.
* A character cut off by the end of the file is an *unexpected end of data*. A streaming
  decoder holds such a tail back until it knows the file is over and then decodes it on its
  own, so its places are counted from the start of the tail.
-/

namespace Dataflow.Text

/-- Why bytes are no UTF-8 text: the reason, the first byte at fault, and the places
`[start, stop)` of the fault. -/
structure DecodeError where
  reason : String
  byte : UInt8
  start : Nat
  stop : Nat
deriving Repr

/-- Two hexadecimal digits of a byte. -/
def hexByte (b : UInt8) : String :=
  let digit (n : Nat) : Char := if n < 10 then Char.ofNat (48 + n) else Char.ofNat (87 + n)
  String.ofList [digit (b.toNat / 16), digit (b.toNat % 16)]

/-- The text of a decoding failure. -/
def DecodeError.message (e : DecodeError) : String :=
  if e.stop == e.start + 1 then
    s!"'utf-8' codec can't decode byte 0x{hexByte e.byte} in position {e.start}: {e.reason}"
  else
    s!"'utf-8' codec can't decode bytes in position {e.start}-{e.stop - 1}: {e.reason}"

/-- A byte that continues a character: `10xxxxxx`. -/
def isTail (b : UInt8) : Bool := 0x80 ≤ b && b ≤ 0xBF

/-- The second byte of a three-byte character is allowed after its first: no overlong form
after `0xE0`, no surrogate after `0xED`. -/
def secondOfThree (first second : UInt8) : Bool :=
  isTail second && (if second < 0xA0 then first != 0xE0 else first != 0xED)

/-- The second byte of a four-byte character is allowed after its first: no overlong form
after `0xF0`, nothing above `0x10FFFF` after `0xF4`. -/
def secondOfFour (first second : UInt8) : Bool :=
  isTail second && (if second < 0x90 then first != 0xF0 else first != 0xF4)

/-- The character of a sequence of bytes: the payload bits of each, high to low. -/
def joinBits (lead : Nat) (tails : List UInt8) : Char :=
  Char.ofNat (tails.foldl (fun acc b => acc * 64 + (b.toNat % 64)) lead)

/-- The failure for a character cut off by the end: its bytes, counted from the tail. -/
def cutOff (bytes : List UInt8) : DecodeError :=
  ⟨"unexpected end of data", bytes.headD 0, 0, bytes.length⟩

/-- Decodes bytes after the text `acc`; `pos` is the place of the first byte. -/
def decodeFrom (pos : Nat) (acc : String) : List UInt8 → Except DecodeError String
  | [] => .ok acc
  | b :: rest =>
    let invalid (len : Nat) : Except DecodeError String :=
      .error ⟨"invalid continuation byte", b, pos, pos + len⟩
    if b < 0x80 then decodeFrom (pos + 1) (acc.push (Char.ofNat b.toNat)) rest
    else if b < 0xC2 || b ≥ 0xF5 then .error ⟨"invalid start byte", b, pos, pos + 1⟩
    else if b < 0xE0 then
      match rest with
      | [] => .error (cutOff [b])
      | c :: more =>
        if isTail c then decodeFrom (pos + 2) (acc.push (joinBits (b.toNat % 32) [c])) more
        else invalid 1
    else if b < 0xF0 then
      match rest with
      | [] => .error (cutOff [b])
      | [c] => if secondOfThree b c then .error (cutOff [b, c]) else invalid 1
      | c :: d :: more =>
        if !secondOfThree b c then invalid 1
        else if !isTail d then invalid 2
        else decodeFrom (pos + 3) (acc.push (joinBits (b.toNat % 16) [c, d])) more
    else
      match rest with
      | [] => .error (cutOff [b])
      | [c] => if secondOfFour b c then .error (cutOff [b, c]) else invalid 1
      | [c, d] =>
        if !secondOfFour b c then invalid 1
        else if !isTail d then invalid 2
        else .error (cutOff [b, c, d])
      | c :: d :: e :: more =>
        if !secondOfFour b c then invalid 1
        else if !isTail d then invalid 2
        else if !isTail e then invalid 3
        else decodeFrom (pos + 4) (acc.push (joinBits (b.toNat % 8) [c, d, e])) more

/-- The text of UTF-8 bytes, or the first fault in them. -/
def decodeUtf8 (bytes : List UInt8) : Except DecodeError String :=
  decodeFrom 0 "" bytes

end Dataflow.Text
