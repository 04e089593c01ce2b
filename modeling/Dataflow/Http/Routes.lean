import Dataflow.Http.Request
import Dataflow.Flow.Execute
import Dataflow.Csv.Read
import Dataflow.Number.Integer
/-!
# The service

The calls the service answers, each against the files of the service (`Storage`), which the
calls share and change:

* upload a file (`.csv` names only), which is read to describe it and kept under a new
  identifier, or removed again when it cannot be read;
* run a workflow, answering every node's outcome with a preview of its rows and the link to the
  last file written;
* download a written file, describe or delete an uploaded one, each named by an identifier
  that must be well formed;
* list the kinds of node, the name of the service, its health, and its routes.

A call is answered with a body, with a refusal (a status and a detail), with the fields of a
malformed request, or with a failure that escaped.
-/

namespace Dataflow.Http

/-- A call to the service. -/
inductive Call where
  | upload (filename : Option String) (bytes : List UInt8)
  | runWorkflow (request : Json)
  | download (fileId : String)
  | uploadInfo (uploadId : String)
  | deleteUpload (uploadId : String)
  | nodeTypes
  | root
  | health
  | lifespan
  | routes

/-- The answer to a call. -/
inductive Reply where
  /-- the call succeeded with this body -/
  | ok (body : Json)
  /-- the call was refused with a status and a detail -/
  | refused (status : Nat) (detail : String)
  /-- the request body is malformed at these fields -/
  | invalid (paths : List FieldPath)
  /-- a failure escaped the call -/
  | failed (f : Failure)

/-! ### Identifiers -/

/-- Drops every occurrence of `piece`, scanning from the left: a match is dropped whole and the
scan goes on after it. -/
def dropPieces (piece : List Char) : List Char → List Char
  | [] => []
  | c :: cs =>
    if h : piece ≠ [] ∧ piece.isPrefixOf (c :: cs) then
      dropPieces piece ((c :: cs).drop piece.length)
    else c :: dropPieces piece cs
termination_by l => l.length
decreasing_by
  · have : 0 < piece.length := List.length_pos_iff.mpr h.1
    simp only [List.length_drop, List.length_cons]
    omega
  · simp

/-- Removes every occurrence of a piece of text. -/
def removeAll (s piece : String) : String := String.ofList (dropPieces piece.toList s.toList)

/-- Whether a text is a well-formed identifier: after removing `urn:` and `uuid:`, braces at
the ends and dashes, 32 characters that read as a 128-bit number in base sixteen. -/
def isIdentifier (s : String) : Bool :=
  let t := removeAll (removeAll s "urn:") "uuid:"
  let cs := ((t.toList.dropWhile (fun c => c == '{' || c == '}')).reverse.dropWhile
    (fun c => c == '{' || c == '}')).reverse
  let cs := cs.filter (· != '-')
  cs.length == 32 && match Number.readInteger? 16 (String.ofList cs) with
    | some n => 0 ≤ n && n < Int.pow 2 128
    | none => false

/-! ### Bodies -/

/-- The first rows of a frame as records, keyed by the texts of the labels. -/
def records (f : Frame) (n : Nat) : Json :=
  .arr ((List.range (min n f.rows)).map fun i =>
    .obj ((f.record i).map fun (l, v) => (l.text, Json.ofCell v)))

/-- The labels of a frame as texts. -/
def labelTexts (f : Frame) : Json := .arr (f.labels.map fun l => .str l.text)

/-- Reads an uploaded file as the service reads it: a header line and commas. -/
def readUpload (bytes : List UInt8) : Outcome Frame := Csv.readTable bytes true (some ",")

/-- The description of an uploaded file: its identifier and name, and its rows, columns and
first rows. -/
def uploadBody (id name : String) (f : Frame) : Json :=
  .obj [("upload_id", .str id), ("filename", .str name), ("rows", .int f.rows),
    ("columns", labelTexts f), ("preview", records f 10)]

/-- Stores and describes an uploaded file. -/
def upload (store : Storage) (filename : Option String) (bytes : List UInt8) : Reply × Storage :=
  match filename with
  | none | some "" => (.refused 400 "No filename provided", store)
  | some name =>
    if !(String.ofList (name.toList.map Char.toLower)).endsWith ".csv" then
      (.refused 400 "Only CSV files are supported", store)
    else
      let (id, store) := store.issue
      -- the system refuses to write a path that is too long, and to remove it again
      let path := s!"{store.uploadDir}/{id}.csv"
      if path.utf8ByteSize ≥ pathMax then (.failed (tooLongFailure path), store) else
      let store := store.putUpload id bytes
      match readUpload bytes with
      | .ok f => (.ok (uploadBody id name f), store)
      | .error e =>
        let store := store.dropUpload id
        match e.kind with
        | .emptyData => (.refused 400 "CSV file is empty", store)
        | .parser => (.refused 400 s!"Invalid CSV format: {e.message}", store)
        | _ => (.refused 500 s!"Upload failed: {e.message}", store)

/-- The outcome of one node in the answer to a run. -/
def nodeOutput (id : Json) (r : NodeResult) : Outcome Json := do
  let preview ← r.preview 100
  let labels ← r.columns
  pure (.obj [("node_id", id), ("success", .bool r.success), ("rows", .int r.rows),
    ("columns", .arr (labels.map fun l => .str l.text)),
    ("preview", .arr (preview.map fun row => .obj (row.map fun (l, v) => (l.text, Json.ofCell v)))),
    ("error", match r.error with | some e => .str e | none => .null)])

/-- Whether a failure is one of the workflow's own. -/
def workflowFailure (f : Failure) : Bool :=
  f.kind == .workflow || f.kind == .cycle || f.kind == .nodeNotFound

/-- The answer to a run: its status, every node's outcome by identifier, the link to the last
file written, and the failures. -/
structure RunResponse where
  status : String
  nodeOutputs : List (String × Json)
  finalOutputUrl : Option String
  errors : List String

/-- The answer to a run as it is sent. -/
def RunResponse.toJson (r : RunResponse) : Json :=
  .obj [("status", .str r.status), ("node_outputs", .obj r.nodeOutputs),
    ("final_output_url", match r.finalOutputUrl with | some l => .str l | none => .null),
    ("errors", .arr (r.errors.map .str))]

/-- The answer to a run that did not get to run its nodes. -/
def runRefused (message : String) : RunResponse := ⟨"error", [], none, [message]⟩

/-- A node's outcome in the answer to a run, under its identifier. -/
def nodeEntry (p : Json × NodeResult) : Outcome (String × Json) := do
  pure (p.1.text, ← nodeOutput p.1 p.2)

/-- The entry a node's result gives among the failures of a run: a failure with a message, under
the node's identifier. -/
def errorEntry (p : Json × NodeResult) : Option String :=
  match p.2.success, p.2.error with
  | false, some e => if e.isEmpty then none else some s!"{p.1.text}: {e}"
  | _, _ => none

/-- The link a result gives: the download of the file id of a success that carries a true
one. -/
def downloadLink (r : NodeResult) : Option String :=
  match r.success, r.metadata.lookup "file_id" with
  | true, some fileId => if fileId.truthy then some s!"/api/download/{fileId.text}" else none
  | _, _ => none

/-- The link of the last result that gives one. -/
def lastLink (results : List (Json × NodeResult)) : Option String :=
  results.foldl (fun link p => (downloadLink p.2).or link) none

/-- The answer to a run from the results of its nodes: every node's outcome, the failures, the
link of the last result that gives one, and the status. -/
def runResponse (results : List (Json × NodeResult)) : Outcome RunResponse := do
  let outputs ← results.mapM nodeEntry
  let errors := results.filterMap errorEntry
  let status :=
    if errors.isEmpty then "success"
    else if results.any (·.2.success) then "partial" else "error"
  pure ⟨status, outputs, lastLink results, errors⟩

/-- Runs a workflow request. -/
def runRequest (store : Storage) (request : Json) : Reply × Storage :=
  match checkRunRequest request with
  | .error paths => (.invalid paths, store)
  | .ok doc =>
    match runWorkflow doc store with
    | .error f =>
      let message := if workflowFailure f then f.message else s!"Internal error: {f.message}"
      (.ok (runRefused message).toJson, store)
    | .ok run =>
      match runResponse run.results with
      | .error f => (.failed f, run.store)
      | .ok response => (.ok response.toJson, run.store)

/-- Downloads a written file. -/
def download (store : Storage) (fileId : String) : Reply :=
  if !isIdentifier fileId then .refused 400 "Invalid file ID format"
  else match store.locateOutput (fileId ++ ".csv") with
    | .tooLong => .failed (tooLongFailure s!"{store.outputRoot}/{fileId}.csv")
    | .missing => .refused 404 "File not found"
    | .stored id =>
      let text := (store.outputs.lookup id).getD ""
      .ok (.obj [("filename", .str s!"output-{String.ofList (fileId.toList.take 8)}.csv"),
        ("media_type", .str "text/csv"), ("path", .str s!"{store.outputRoot}/{fileId}.csv"),
        ("content", .str text)])

/-- The description of a stored upload: its identifier, and its rows, columns and first rows. -/
def infoBody (id : String) (f : Frame) : Json :=
  .obj [("upload_id", .str id), ("rows", .int f.rows), ("columns", .arr (f.labels.map Json.ofCell)),
    ("preview", records f 10)]

/-- Describes an uploaded file. -/
def uploadInfo (store : Storage) (uploadId : String) : Reply :=
  if !isIdentifier uploadId then .refused 400 "Invalid upload ID format"
  else match store.locate store.uploadDir (uploadId ++ ".csv") with
    | .tooLong => .failed (tooLongFailure s!"{store.uploadDir}/{uploadId}.csv")
    | .missing => .refused 404 "Upload not found"
    | .stored id =>
      let bytes := (store.upload? id).getD []
      match readUpload bytes with
      | .ok f => .ok (infoBody uploadId f)
      | .error e => .refused 500 s!"Failed to read file: {e.message}"

/-- Deletes an uploaded file. -/
def deleteUpload (store : Storage) (uploadId : String) : Reply × Storage :=
  if !isIdentifier uploadId then (.refused 400 "Invalid upload ID format", store)
  else match store.locate store.uploadDir (uploadId ++ ".csv") with
    | .tooLong => (.failed (tooLongFailure s!"{store.uploadDir}/{uploadId}.csv"), store)
    | .missing => (.refused 404 "Upload not found", store)
    | .stored _ => (.ok (.obj [("status", .str "deleted"), ("upload_id", .str uploadId),
        ("file_still_exists", .bool false)]), store.dropUpload uploadId)

/-- The routes of the service, each with its methods. -/
def routeTable : Json :=
  let route (path method : String) : Json := .arr [.str path, .arr [.str method]]
  .arr [route "/" "GET", route "/api/download/\x7bfile_id\x7d" "GET", route "/api/nodes" "GET",
    route "/api/run-workflow" "POST", route "/api/upload" "POST",
    route "/api/uploads/\x7bupload_id\x7d" "DELETE", route "/api/uploads/\x7bupload_id\x7d" "GET",
    route "/health" "GET"]

/-- Answers one call. -/
def serve (store : Storage) : Call → Reply × Storage
  | .upload filename bytes => upload store filename bytes
  | .runWorkflow request => runRequest store request
  | .download fileId => (download store fileId, store)
  | .uploadInfo uploadId => (uploadInfo store uploadId, store)
  | .deleteUpload uploadId => deleteUpload store uploadId
  | .nodeTypes => (.ok nodeCatalogue, store)
  | .root => (.ok (.obj [("name", .str "DataFlow Studio API"), ("version", .str "1.0.0"),
      ("docs", .str "/docs"), ("redoc", .str "/redoc")]), store)
  | .health => (.ok (.obj [("status", .str "healthy")]), store)
  | .lifespan => (.ok .null, store)
  | .routes => (.ok routeTable, store)

/-- Answers calls in turn, each seeing the files the calls before it left. -/
def serveAll (store : Storage) : List Call → List Reply
  | [] => []
  | c :: rest =>
    let (reply, store) := serve store c
    reply :: serveAll store rest

end Dataflow.Http
