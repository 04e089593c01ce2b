import Dataflow.Node.Value
import Dataflow.Node.Result
import Dataflow.Node.Storage
import Dataflow.Csv.Read
import Dataflow.Csv.Write
/-!
# Reading and writing nodes

The reader loads an uploaded file as a frame; the output node writes its input as a file and
passes it on.

The reader takes `upload_id` (required), `header` (whether the first line names the columns,
by its truth value; true when absent) and `sep` (the separator; a comma when absent, guessed
when null). The output node takes `format`, which must be `csv`; every written file gets the
next identifier, issued before the file is written.
-/

namespace Dataflow

open Dataflow.Csv

/-- The separator a configuration value gives: a text, or nothing to guess one. Values of
other types are refused as the reader refuses them. -/
def separatorOf : Json → Outcome (Option String)
  | .str s => .ok (some s)
  | .null => .ok none
  | .arr items => separatorCount "list" items.length
  | .obj fields => separatorCount "dict" fields.length
  | j => .error ⟨.type, s!"object of type '{j.typeName}' has no len()"⟩
where
  /-- A list or dictionary as separator: refused by the length the reader finds. -/
  separatorCount (kind : String) (n : Nat) : Outcome (Option String) :=
    if n == 0 then .error ⟨.attribute, s!"'{kind}' object has no attribute 'encode'"⟩
    else if n == 1 then .error ⟨.type, s!"\"delimiter\" must be string, not {kind}"⟩
    else .error ⟨.type, "first argument must be string or compiled pattern"⟩

/-- The failure of a path the system refuses as too long. -/
def tooLongFailure (path : String) : Failure :=
  ⟨.os, s!"[Errno 36] File name too long: {Text.quoteText path}"⟩

/-- Runs the reader node. -/
def readCsvNode (config : Json) (store : Storage) : Outcome NodeResult := do
  let uploadId ← config.getOr "upload_id" .null
  if !uploadId.truthy then return .failed "No upload_id specified"
  match store.uploadRoot with
  | none => return .failed "Upload directory not configured"
  | some root =>
    let name := uploadId.text
    let rel := name ++ ".csv"
    let path := (PathParts.ofText rel).text root
    match store.locate root rel with
    | .tooLong => .error (tooLongFailure path)
    | .missing => return .failed s!"Uploaded file not found: {name}"
    | .stored id =>
      let bytes := (store.upload? id).getD []
      let header := (← config.getOr "header" (.bool true)).truthy
      let sep ← config.getOr "sep" (.str ",")
      let read := separatorOf sep >>= readTable bytes header
      match read with
      | .ok frame =>
        return .succeeded (.frame frame) [("source", .str path), ("upload_id", uploadId)]
      | .error e => return .failed s!"Failed to read CSV: {e.message}"

/-- The table a selection is written as: a series becomes one column under its name (`0`
when it has none). -/
def Selection.asTable : Selection → Frame
  | .frame f => f
  | .series s => ⟨[(if s.name == .none then .int 0 else s.name, s.values)], [s.index]⟩

/-- Runs the output node; the written file is added to the storage. -/
def outputNode (config : Json) (inputs : List Selection) (store : Storage) :
    Outcome (NodeResult × Storage) := do
  match inputs with
  | [] => return (.failed "No input data to output", store)
  | data :: _ =>
    if store.output == .unset then return (.failed "Output directory not configured", store)
    let format ← config.getOr "format" (.str "csv")
    if !format.isText "csv" then return (.failed s!"Unsupported output format: {format.text}", store)
    let (fileId, store) := store.issue
    if store.output == .blocked then
      return (.failed s!"Failed to write output: [Errno 17] File exists: '{store.outputRoot}'", store)
    let store := store.putOutput fileId (writeTable data.asTable)
    let written := [("file_id", Json.str fileId),
      ("file_path", .str s!"{store.outputRoot}/{fileId}.csv"), ("format", format)]
    return (.succeeded data written, store)

end Dataflow
