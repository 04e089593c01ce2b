import Dataflow.Unicode.Table
import Dataflow.Unicode.Tables.Categories
/-!
# General categories

Every code point has one general category (Unicode 14.0). The classes that text operations
ask about are read off it:

* letters are the five letter categories;
* decimal digits are the category `Nd`, and their value is their place in their run of ten;
* a code point is printable unless it is a control, format, surrogate, private-use or
  unassigned code point or a separator, the space `U+0020` apart.
-/

namespace Dataflow.Unicode

/-- The general categories. -/
inductive GeneralCategory where
  | uppercaseLetter | lowercaseLetter | titlecaseLetter | modifierLetter | otherLetter
  | nonspacingMark | spacingMark | enclosingMark
  | decimalNumber | letterNumber | otherNumber
  | connectorPunctuation | dashPunctuation | openPunctuation | closePunctuation
  | initialPunctuation | finalPunctuation | otherPunctuation
  | mathSymbol | currencySymbol | modifierSymbol | otherSymbol
  | spaceSeparator | lineSeparator | paragraphSeparator
  | control | format | surrogate | privateUse | unassigned
deriving DecidableEq, Repr, Inhabited

namespace GeneralCategory

/-- The two-letter code of a category. -/
def code : GeneralCategory → String
  | uppercaseLetter => "Lu" | lowercaseLetter => "Ll" | titlecaseLetter => "Lt"
  | modifierLetter => "Lm" | otherLetter => "Lo"
  | nonspacingMark => "Mn" | spacingMark => "Mc" | enclosingMark => "Me"
  | decimalNumber => "Nd" | letterNumber => "Nl" | otherNumber => "No"
  | connectorPunctuation => "Pc" | dashPunctuation => "Pd" | openPunctuation => "Ps"
  | closePunctuation => "Pe" | initialPunctuation => "Pi" | finalPunctuation => "Pf"
  | otherPunctuation => "Po"
  | mathSymbol => "Sm" | currencySymbol => "Sc" | modifierSymbol => "Sk" | otherSymbol => "So"
  | spaceSeparator => "Zs" | lineSeparator => "Zl" | paragraphSeparator => "Zp"
  | control => "Cc" | format => "Cf" | surrogate => "Cs" | privateUse => "Co"
  | unassigned => "Cn"

/-- All categories. -/
def all : List GeneralCategory :=
  [uppercaseLetter, lowercaseLetter, titlecaseLetter, modifierLetter, otherLetter,
   nonspacingMark, spacingMark, enclosingMark, decimalNumber, letterNumber, otherNumber,
   connectorPunctuation, dashPunctuation, openPunctuation, closePunctuation,
   initialPunctuation, finalPunctuation, otherPunctuation, mathSymbol, currencySymbol,
   modifierSymbol, otherSymbol, spaceSeparator, lineSeparator, paragraphSeparator, control,
   format, surrogate, privateUse, unassigned]

/-- The category of a two-letter code; unassigned for an unknown code. -/
def ofCode (s : String) : GeneralCategory :=
  (all.find? (·.code == s)).getD unassigned

/-- Whether a category is one of the letters. -/
def isLetter : GeneralCategory → Bool
  | uppercaseLetter | lowercaseLetter | titlecaseLetter | modifierLetter | otherLetter => true
  | _ => false

/-- Whether text of a category is shown as itself: everything but the controls, format
characters, surrogates, private use, unassigned code points and separators. -/
def isShown : GeneralCategory → Bool
  | control | format | surrogate | privateUse | unassigned
  | spaceSeparator | lineSeparator | paragraphSeparator => false
  | _ => true

end GeneralCategory

/-- The runs of general categories. -/
def categoryRuns : RunMap GeneralCategory :=
  RunMap.ofPacked 30 (fun k => GeneralCategory.all.getD k .unassigned) categoryText

/-- The general category of a character. -/
def category (c : Char) : GeneralCategory := categoryRuns.get c.toNat

/-- Whether a character is a letter of any script. -/
def isLetter (c : Char) : Bool := (category c).isLetter

/-- Whether a character is a decimal digit of any script. -/
def isDecimal (c : Char) : Bool := category c == .decimalNumber

/-- The value of a decimal digit: its distance from the start of its run, modulo ten (every
run of decimal digits is a whole number of sequences zero to nine). -/
def decimalValue? (c : Char) : Option Nat :=
  let cp := c.toNat
  match countAtMost categoryRuns.starts cp with
  | 0 => none
  | i + 1 =>
    if categoryRuns.values.getD i .unassigned == .decimalNumber then
      some ((cp - categoryRuns.starts.getD i 0) % 10)
    else none

/-- Whether a character is shown as itself when text is written out: the space is, other
separators and the invisible categories are not. -/
def isPrintable (c : Char) : Bool := c == ' ' || (category c).isShown

end Dataflow.Unicode
