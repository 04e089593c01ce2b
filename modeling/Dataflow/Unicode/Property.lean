import Dataflow.Unicode.Category
import Dataflow.Unicode.Tables.Properties
/-!
# Binary properties

The sets of code points that names, case conversion and number reading depend on
(Unicode 14.0):

* identifiers begin with a character of `XID_Start` or the underscore and go on with
  characters of `XID_Continue`;
* case conversion asks which characters are uppercase, lowercase, cased, or case-ignorable;
* a character is alphanumeric when it is a letter or has a numeric value (every decimal digit
  and every digit has one);
* white space is the space separators and the characters of the bidirectional classes of
  white space, paragraph and segment separators.
-/

namespace Dataflow.Unicode

/-- Characters that may begin an identifier (the underscore aside). -/
def xidStartSet : RangeSet := RangeSet.ofPacked xidStartText

/-- Characters that may continue an identifier. -/
def xidContinueSet : RangeSet := RangeSet.ofPacked xidContinueText

/-- Uppercase characters. -/
def uppercaseSet : RangeSet := RangeSet.ofPacked uppercaseText

/-- Lowercase characters. -/
def lowercaseSet : RangeSet := RangeSet.ofPacked lowercaseText

/-- Cased characters. -/
def casedSet : RangeSet := RangeSet.ofPacked casedText

/-- Case-ignorable characters. -/
def caseIgnorableSet : RangeSet := RangeSet.ofPacked caseIgnorableText

/-- Characters with a numeric value. -/
def numericSet : RangeSet := RangeSet.ofPacked numericText

/-- Characters with a digit value. -/
def digitSet : RangeSet := RangeSet.ofPacked digitText

/-- White space characters. -/
def whiteSpaceSet : RangeSet := RangeSet.ofPacked whiteSpaceText

/-- Whether a character may begin an identifier. -/
def isIdentifierStart (c : Char) : Bool := c == '_' || xidStartSet.contains c.toNat

/-- Whether a character may continue an identifier. -/
def isIdentifierPart (c : Char) : Bool := xidContinueSet.contains c.toNat

/-- Whether a text is an identifier: a first character that may begin one, then characters
that may continue one. -/
def isIdentifier (s : String) : Bool :=
  match s.toList with
  | [] => false
  | c :: cs => isIdentifierStart c && cs.all isIdentifierPart

/-- Whether a character is uppercase. -/
def isUpper (c : Char) : Bool := uppercaseSet.contains c.toNat

/-- Whether a character is lowercase. -/
def isLower (c : Char) : Bool := lowercaseSet.contains c.toNat

/-- Whether a character is cased. -/
def isCased (c : Char) : Bool := casedSet.contains c.toNat

/-- Whether a character is ignored when the case context of a letter is looked for. -/
def isCaseIgnorable (c : Char) : Bool := caseIgnorableSet.contains c.toNat

/-- Whether a character has a numeric value. -/
def isNumeric (c : Char) : Bool := numericSet.contains c.toNat

/-- Whether a character has a digit value. -/
def isDigit (c : Char) : Bool := digitSet.contains c.toNat

/-- Whether a character is alphanumeric: a letter or a character with a numeric value. -/
def isAlnum (c : Char) : Bool := isLetter c || isNumeric c

/-- Whether a character is white space. -/
def isSpace (c : Char) : Bool := whiteSpaceSet.contains c.toNat

end Dataflow.Unicode
