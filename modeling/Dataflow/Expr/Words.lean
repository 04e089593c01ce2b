import Dataflow.Expr.Guard
/-!
# Column words of an expression

A rough reading of which columns an expression names: every word that starts at a word
boundary with an ASCII letter or underscore, runs over ASCII letters, digits and underscores to
a word boundary, and is not followed (after blanks) by an opening bracket. Words of the
connectives, the constants and the allowed function names are no columns. The scan is textual
and also sees words inside quoted strings.
-/

namespace Dataflow.Expr

open Dataflow.Text

/-- An ASCII character that may begin a column word. -/
def isWordHead (c : Char) : Bool := c.isAlpha || c == '_'

/-- An ASCII character that may continue a column word. -/
def isWordTail (c : Char) : Bool := c.isAlphanum || c == '_'

/-- The column words of the text that follows `before`, in order. -/
def columnWordsFrom : Option Char → List Char → List String
  | _, [] => []
  | before, c :: cs =>
    let run := (c :: cs).takeWhile isWordTail
    let after := (c :: cs).drop run.length
    let found :=
      boundary before (some c) && isWordHead c &&
        boundary run.getLast? after.head? &&
        (after.dropWhile isBlank).head? != some '('
    if found then
      String.ofList run :: columnWordsFrom (run.getLast?) (cs.drop (run.length - 1))
    else columnWordsFrom (some c) cs
termination_by _ cs => cs.length
decreasing_by
  all_goals simp only [List.length_cons, List.length_drop]
  all_goals omega

/-- The column words of an expression text. -/
def columnWords (s : String) : List String := columnWordsFrom none s.toList

/-- The names of the functions that expressions are documented to call: mathematical functions
and text operations. -/
def functionWords : List String :=
  ["abs", "round", "floor", "ceil", "sqrt", "log", "log10", "exp", "sin", "cos", "tan", "min",
   "max", "lower", "upper", "len", "strip", "contains"]

/-- Words that never name a column: connectives, constants and the function names. -/
def reservedWords : List String :=
  ["and", "or", "not", "in", "True", "False", "None"] ++ functionWords

/-- The first column word that is neither reserved nor among the known columns. -/
def unknownColumn (s : String) (columns : List String) : Option String :=
  (columnWords s).find? fun w => !reservedWords.contains w && !columns.contains w

end Dataflow.Expr
