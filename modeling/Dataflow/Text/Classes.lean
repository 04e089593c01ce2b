import Dataflow.Unicode.Casing
/-!
# Character classes

The classes of characters that the expression checks and the text operations rely on, over
all of Unicode (see `Dataflow.Unicode`):

* `isBlank`: white space;
* `isWordChar`: the characters of words, that is letters, characters with a numeric value, and
  the underscore;
* `isIdentStart` / `isIdentPart`: characters that may begin or continue a name;
* `isPrintable`: characters that are shown as themselves in text;
* `foldsTo`: whether a character matches a lowercase letter when case is ignored.
-/

namespace Dataflow.Text

open Dataflow.Unicode

/-- White space. -/
def isBlank (c : Char) : Bool := isSpace c

/-- Letters, characters with a numeric value, and the underscore: the characters that make up
a word. -/
def isWordChar (c : Char) : Bool := isAlnum c || c == '_'

/-- A character that may begin a name. -/
def isIdentStart (c : Char) : Bool := isIdentifierStart c

/-- A character that may continue a name. -/
def isIdentPart (c : Char) : Bool := isIdentifierPart c

/-- Characters that are shown as themselves. -/
def isPrintable (c : Char) : Bool := Unicode.isPrintable c

/-- The characters whose lowercase is one letter but that also match another when case is
ignored, because both have the same uppercase: the dotless `ı` with `i`, the long `ſ` with
`s`, the Greek letters with their symbol forms, and a few more. -/
def caseVariants : List (Nat × List Nat) :=
  [(0x69, [0x131]), (0x73, [0x17f]), (0xb5, [0x3bc]), (0x131, [0x69]), (0x17f, [0x73]),
   (0x345, [0x3b9, 0x1fbe]), (0x390, [0x1fd3]), (0x3b0, [0x1fe3]), (0x3b2, [0x3d0]),
   (0x3b5, [0x3f5]), (0x3b8, [0x3d1]), (0x3b9, [0x345, 0x1fbe]), (0x3ba, [0x3f0]),
   (0x3bc, [0xb5]), (0x3c0, [0x3d6]), (0x3c1, [0x3f1]), (0x3c2, [0x3c3]), (0x3c3, [0x3c2]),
   (0x3c6, [0x3d5]), (0x3d0, [0x3b2]), (0x3d1, [0x3b8]), (0x3d5, [0x3c6]), (0x3d6, [0x3c0]),
   (0x3f0, [0x3ba]), (0x3f1, [0x3c1]), (0x3f5, [0x3b5]), (0x432, [0x1c80]), (0x434, [0x1c81]),
   (0x43e, [0x1c82]), (0x441, [0x1c83]), (0x442, [0x1c84, 0x1c85]), (0x44a, [0x1c86]),
   (0x463, [0x1c87]), (0x1c80, [0x432]), (0x1c81, [0x434]), (0x1c82, [0x43e]),
   (0x1c83, [0x441]), (0x1c84, [0x442, 0x1c85]), (0x1c85, [0x442, 0x1c84]), (0x1c86, [0x44a]),
   (0x1c87, [0x463]), (0x1c88, [0xa64b]), (0x1e61, [0x1e9b]), (0x1e9b, [0x1e61]),
   (0x1fbe, [0x345, 0x3b9]), (0x1fd3, [0x390]), (0x1fe3, [0x3b0]), (0xa64b, [0x1c88]),
   (0xfb05, [0xfb06]), (0xfb06, [0xfb05])]

/-- The lowercase characters that also match the lowercase character `l` when case is
ignored. -/
def variantsOf (l : Char) : List Char :=
  ((caseVariants.lookup l.toNat).getD []).map Char.ofNat

/-- The character matches the lowercase character `l` when case is ignored: its lowercase is
`l` or one of the variants of `l`. -/
def foldsTo (c : Char) (l : Char) : Bool :=
  let lc := simpleLower c
  lc == l || (variantsOf l).contains lc

/-- The text without white space at either end. -/
def trimBlank (s : String) : String :=
  String.ofList ((s.toList.dropWhile isBlank).reverse.dropWhile isBlank).reverse

/-- A text without leading white space. -/
def trimLeftBlank (s : String) : String := String.ofList (s.toList.dropWhile isBlank)

/-- A text without trailing white space. -/
def trimRightBlank (s : String) : String :=
  String.ofList (s.toList.reverse.dropWhile isBlank).reverse

end Dataflow.Text
