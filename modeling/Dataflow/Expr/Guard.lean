import Dataflow.Text.Classes
/-!
# Forbidden patterns

An expression is refused when it mentions a name that reaches outside the table: a double
underscore name, one of the builtins that run or open code followed by a call, an import, the
`os` and `sys` modules, `subprocess`, or a lambda. Each pattern is a rule on words: it starts at a
word boundary, its letters match regardless of case, and some demand what follows (a call
bracket after optional blanks, a blank, a dot and a word character).

`firstForbidden` tries the patterns in their fixed order and reports the first that occurs
anywhere in the text, by its written form.
-/

namespace Dataflow.Expr

open Dataflow.Text

/-- What must follow the letters of a forbidden word. -/
inductive Follow where
  /-- optional blanks, then an opening bracket -/
  | call
  /-- one blank -/
  | blank
  /-- a dot and a word character -/
  | member
  /-- nothing in particular -/
  | anything

/-- A forbidden pattern: a word starting at a word boundary, then what must follow it. -/
inductive Pattern where
  /-- a whole word that starts with two underscores, ends with two more and has a character
  between them -/
  | dunder
  | word (letters : String) (follow : Follow)

/-- The written form of each pattern, as it is reported. -/
def Pattern.source : Pattern → String
  | .dunder => "\\b__\\w+__\\b"
  | .word w .call => "\\b" ++ w ++ "\\s*\\("
  | .word w .blank => "\\b" ++ w ++ "\\s"
  | .word w .member => "\\b" ++ w ++ "\\.\\w+"
  | .word w .anything => "\\b" ++ w

/-- The patterns, in the order they are tried. -/
def patterns : List Pattern :=
  [.dunder, .word "exec" .call, .word "eval" .call, .word "compile" .call,
   .word "open" .call, .word "import" .blank, .word "os" .member, .word "sys" .member,
   .word "subprocess" .anything, .word "globals" .call, .word "locals" .call,
   .word "getattr" .call, .word "setattr" .call, .word "delattr" .call,
   .word "__builtins__" .anything, .word "lambda" .blank]

/-- The text starts with the letters, case ignored, and returns what follows them. -/
def matchLetters : List Char → List Char → Option (List Char)
  | [], rest => some rest
  | _ :: _, [] => none
  | l :: ls, c :: cs => if foldsTo c l then matchLetters ls cs else none

/-- The text after a forbidden word satisfies its follow rule. -/
def Follow.holds : Follow → List Char → Bool
  | .call, rest => (rest.dropWhile isBlank).head? == some '('
  | .blank, rest => match rest with
    | c :: _ => isBlank c
    | [] => false
  | .member, rest => match rest with
    | '.' :: c :: _ => isWordChar c
    | _ => false
  | .anything, _ => true

/-- A word boundary lies between the two characters (`none` is an end of the text). -/
def boundary (before after : Option Char) : Bool :=
  (before.map isWordChar).getD false != (after.map isWordChar).getD false

/-- The pattern occurs at the start of `rest`, where `before` precedes it. -/
def Pattern.occursAt (p : Pattern) (before : Option Char) (rest : List Char) : Bool :=
  boundary before rest.head? &&
    match p with
    | .dunder =>
      let run := rest.takeWhile isWordChar
      run.length ≥ 5 && run.take 2 == ['_', '_'] && run.drop (run.length - 2) == ['_', '_']
    | .word w f =>
      match matchLetters w.toList rest with
      | some after => f.holds after
      | none => false

/-- The pattern occurs somewhere in the text that follows `before`. -/
def Pattern.occursFrom (p : Pattern) : Option Char → List Char → Bool
  | before, [] => p.occursAt before []
  | before, c :: cs => p.occursAt before (c :: cs) || p.occursFrom (some c) cs

/-- The pattern occurs somewhere in the text. -/
def Pattern.occursIn (p : Pattern) (s : String) : Bool := p.occursFrom none s.toList

/-- The first forbidden pattern, in list order, that occurs in the text. -/
def firstForbidden (s : String) : Option Pattern :=
  patterns.find? (·.occursIn s)

end Dataflow.Expr
