/-!
# Kinds of nodes

The eight kinds of node a workflow is built from, in the order they are registered, with what
is shown about each: its type name, display name and description, and how many inputs it
takes and outputs it gives. A reader has no input, a join takes two, and the output node
gives nothing onward.
-/

namespace Dataflow

/-- The kinds of node. -/
inductive NodeKind where
  | readCsv | filter | select | join | aggregate | sort | formula | output
deriving Repr, BEq, DecidableEq, Inhabited

namespace NodeKind

/-- Every kind, in the order of registration. -/
def all : List NodeKind := [.readCsv, .filter, .select, .join, .aggregate, .sort, .formula, .output]

/-- The type name a workflow uses for the kind. -/
def typeName : NodeKind → String
  | .readCsv => "ReadCSV" | .filter => "Filter" | .select => "Select" | .join => "Join"
  | .aggregate => "Aggregate" | .sort => "Sort" | .formula => "Formula" | .output => "Output"

/-- The kind a type name stands for. -/
def ofName? (name : String) : Option NodeKind := all.find? (·.typeName == name)

/-- The name of the kind's node class, shown when a node is written out. -/
def className (k : NodeKind) : String := k.typeName ++ "Node"

/-- The name shown to users. -/
def displayName : NodeKind → String
  | .readCsv => "Read CSV" | .filter => "Filter" | .select => "Select Columns"
  | .join => "Join" | .aggregate => "Aggregate" | .sort => "Sort" | .formula => "Formula"
  | .output => "Output"

/-- What the kind does. -/
def description : NodeKind → String
  | .readCsv => "Load data from a CSV file"
  | .filter => "Filter rows based on a condition"
  | .select => "Choose which columns to keep"
  | .join => "Combine two datasets based on matching keys"
  | .aggregate => "Group data and calculate summaries"
  | .sort => "Sort rows by column values"
  | .formula => "Create a calculated column"
  | .output => "Export data as CSV for download"

/-- The number of inputs the kind takes. -/
def inputCount : NodeKind → Nat
  | .readCsv => 0
  | .join => 2
  | _ => 1

/-- The number of outputs the kind gives. -/
def outputCount : NodeKind → Nat
  | .output => 0
  | _ => 1

end NodeKind

end Dataflow
