import Dataflow.Failure
import Dataflow.Text.Classes
import Dataflow.Expr.Guard
import Dataflow.Expr.Words
import Dataflow.Expr.Parser
/-!
# Checking expressions

An expression is accepted when it is not blank, contains none of the forbidden patterns and
parses as a single expression. The first of these tests that fails gives the message; a text
holding a null character is refused as a syntax error before it is read.
-/

namespace Dataflow.Expr

open Dataflow.Text

/-- The verdict on an expression: accepted, or refused with a reason. -/
inductive Verdict where
  | accepted
  | refused (reason : String)
deriving Repr, BEq, DecidableEq

/-- The reason of a refusal, if any. -/
def Verdict.reason : Verdict → Option String
  | .accepted => none
  | .refused r => some r

/-- Whether the verdict accepts. -/
def Verdict.ok : Verdict → Bool
  | .accepted => true
  | .refused _ => false

/-- Checks an expression: not blank, no forbidden pattern, and well formed. -/
def validate (s : String) : Outcome Verdict :=
  if (trimBlank s).isEmpty then .ok (.refused "Expression cannot be empty")
  else match firstForbidden s with
    | some p => .ok (.refused s!"Expression contains forbidden pattern: {p.source}")
    | none =>
      if s.toList.contains (Char.ofNat 0) then
        .ok (.refused "Invalid expression syntax: source code string cannot contain null bytes")
      else match parse s with
        | .ok _ => .ok .accepted
        | .error e => .ok (.refused s!"Invalid expression syntax: {e.text}")

/-- Checks that every column word of an expression is reserved or a known column. -/
def validateColumns (s : String) (columns : List String) : Verdict :=
  match unknownColumn s columns with
  | some w => .refused s!"Unknown column reference: '{w}'"
  | none => .accepted

end Dataflow.Expr
