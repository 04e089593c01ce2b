/-!
# Failures

Every way the engine can stop without an answer: the kind of failure, which is reported by
its class name, and the message. Expression and workflow failures are the engine's own;
the others are the general failure kinds that operations on tables and values report.
-/

namespace Dataflow

/-- The kinds of failure, each reported under its own class name. -/
inductive FailureKind where
  /-- an expression is refused or cannot be evaluated -/
  | expression
  /-- a workflow is malformed -/
  | workflow
  /-- a workflow's edges form a cycle -/
  | cycle
  /-- an edge names a node that does not exist -/
  | nodeNotFound
  /-- a lookup by a missing key -/
  | key
  /-- an operation applied to values of the wrong type -/
  | type
  /-- a value without the attribute asked for -/
  | attribute
  /-- a value of the right type but unfit -/
  | value
  /-- a position out of range -/
  | index
  /-- a tabular text that cannot be read -/
  | parser
  /-- a tabular text with nothing in it -/
  | emptyData
  /-- bytes that are no valid text -/
  | unicodeDecode
  /-- a file operation that failed -/
  | os
  /-- a file that does not exist -/
  | fileNotFound
  /-- an operation that has no implementation for its operands -/
  | notImplemented
  /-- a number out of range of its type -/
  | overflow
  /-- a division by zero -/
  | zeroDivision
  /-- a name in an expression that names nothing -/
  | undefined
  /-- a text that is no expression -/
  | badSyntax
  /-- two tables that cannot be joined as asked -/
  | merge
  /-- a malformed regular expression -/
  | pattern
  /-- an internal consistency check of the table library that failed -/
  | assertion
  /-- a library that an operation needs and that is not installed -/
  | importing
  /-- a module that an operation imports and that does not exist -/
  | missingModule
  /-- a failure of no more particular kind -/
  | general
deriving Repr, BEq, DecidableEq, Inhabited

/-- The class name under which a failure kind is reported. -/
def FailureKind.name : FailureKind → String
  | .expression => "ExpressionError"
  | .workflow => "WorkflowError"
  | .cycle => "CycleDetectedError"
  | .nodeNotFound => "NodeNotFoundError"
  | .key => "KeyError"
  | .type => "TypeError"
  | .attribute => "AttributeError"
  | .value => "ValueError"
  | .index => "IndexError"
  | .parser => "ParserError"
  | .emptyData => "EmptyDataError"
  | .unicodeDecode => "UnicodeDecodeError"
  | .os => "OSError"
  | .fileNotFound => "FileNotFoundError"
  | .notImplemented => "NotImplementedError"
  | .overflow => "OverflowError"
  | .zeroDivision => "ZeroDivisionError"
  | .undefined => "UndefinedVariableError"
  | .badSyntax => "SyntaxError"
  | .merge => "MergeError"
  | .pattern => "error"
  | .assertion => "AssertionError"
  | .importing => "ImportError"
  | .missingModule => "ModuleNotFoundError"
  | .general => "Exception"

/-- A failure: its kind and its message. -/
structure Failure where
  kind : FailureKind
  message : String
deriving Repr, BEq, Inhabited

/-- A computation that may fail. -/
abbrev Outcome (α : Type) := Except Failure α

/-- Fails with a kind and a message. -/
def fail {α : Type} (kind : FailureKind) (message : String) : Outcome α :=
  .error ⟨kind, message⟩

end Dataflow
