import Dataflow.Text.Classes
/-!
# Normal form of an expression text

Before evaluation the text is brought to a normal form: surrounding blanks go, the symbolic
connectives `&&` and `||` become the words `and` and `or`, an exclamation mark that does not
start `!=` becomes the word `not`, and every run of blanks becomes one space. The replacement is
textual: it applies inside quoted strings too.

* `replacePair` replaces non-overlapping occurrences of a doubled character from the left;
* `negationWords` replaces lone exclamation marks;
* `squeezeBlanks` turns runs of blanks into single spaces;
* `normalize` composes them.
-/

namespace Dataflow.Expr

open Dataflow.Text

/-- Replaces each non-overlapping occurrence of `c c`, scanning from the left, to `word`. -/
def replacePair (c : Char) (word : List Char) : List Char → List Char
  | a :: b :: rest =>
    if a == c && b == c then word ++ replacePair c word rest
    else a :: replacePair c word (b :: rest)
  | rest => rest

/-- Replaces each `!` that is not followed by `=` to ` not `. -/
def negationWords : List Char → List Char
  | [] => []
  | '!' :: rest =>
    if rest.head? == some '=' then '!' :: negationWords rest
    else ' ' :: 'n' :: 'o' :: 't' :: ' ' :: negationWords rest
  | c :: rest => c :: negationWords rest

/-- Replaces every run of blanks by one space. -/
def squeezeBlanks : List Char → List Char
  | [] => []
  | c :: rest =>
    if isBlank c then ' ' :: squeezeBlanks (rest.dropWhile isBlank)
    else c :: squeezeBlanks rest
termination_by l => l.length
decreasing_by
  all_goals simp only [List.length_cons]
  · have shorter := (List.dropWhile_sublist (l := rest) isBlank).length_le
    omega
  · omega

/-- The normal form of an expression text. -/
def normalize (s : String) : String :=
  let cs := (trimBlank s).toList
  let cs := replacePair '&' " and ".toList cs
  let cs := replacePair '|' " or ".toList cs
  let cs := negationWords cs
  trimBlank (String.ofList (squeezeBlanks cs))

end Dataflow.Expr
