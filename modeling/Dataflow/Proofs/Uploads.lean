import Dataflow.Proofs.Identifier
import Dataflow.Proofs.Response
/-!
# The upload directory across calls

**The upload directory holds exactly what the replies account for.** Across any sequence of calls
on one service where no upload draws an identifier that names a stored upload, the upload
directory is the one present before the calls, with the bytes of every upload answered with a
description under the identifier it names, and without every upload whose deletion was answered
`deleted` (`serveRun_upload_directory`). A call not answered with a body leaves the directory as
it was, and an upload still present is described again with the rows, columns and first rows its
upload was answered with.

* `serveRun`: a run of calls, each seeing the files the calls before it left;
* `UploadDoes`, `upload_does`: what one upload can do, case by case;
* `Accounts`: the directory, and what each upload in it was described as, against a `Ledger` of
  the replies; `Accounts.serve` keeps it over one call and `accounts_serveRun` over a run;
* `Accounts.uploadInfo`: an upload in the ledger is described again as its upload was.
-/

namespace Dataflow.Http

/-! ### Runs of calls -/

/-- Answers calls in turn, each seeing the files the calls before it left: the replies, and the
files after the last call. -/
def serveRun (store : Storage) : List Call → List Reply × Storage
  | [] => ([], store)
  | c :: rest =>
    let later := serveRun (serve store c).2 rest
    ((serve store c).1 :: later.1, later.2)

/-- Every identifier an upload draws names no stored upload. -/
def FreshDraws : Storage → List Call → Prop
  | _, [] => True
  | store, c :: rest =>
    (∀ name bytes, c = .upload name bytes → (serve store c).2.issued ≠ store.issued →
      store.issue.1 ∉ store.uploads.map (·.1)) ∧ FreshDraws (serve store c).2 rest

/-- The uploads present, as the replies account for them. -/
inductive UploadEntry where
  /-- a file stored before the first call -/
  | initial (bytes : List UInt8)
  /-- a file an upload stored, answered with this description -/
  | uploaded (bytes : List UInt8) (body : Json)

/-- The bytes of an upload. -/
def UploadEntry.bytes : UploadEntry → List UInt8
  | .initial bytes => bytes
  | .uploaded bytes _ => bytes

/-- The upload directory by upload identifier, as the replies account for it. -/
abbrev Ledger := String → Option UploadEntry

/-- The files stored before the first call. -/
def Ledger.initial (store : Storage) : Ledger := fun u => (store.upload? u).map .initial

/-- What a reply accounts for: an upload answered with a description adds its bytes under the
`upload_id` the description names, a deletion answered `deleted` removes the upload it names,
and every other reply leaves the ledger. -/
def Ledger.record (ledger : Ledger) : Call → Reply → Ledger
  | .upload _ bytes, .ok body =>
    match body.get? "upload_id" with
    | some (.str u) => Function.update ledger u (some (.uploaded bytes body))
    | _ => ledger
  | .deleteUpload u, .ok body =>
    match body.get? "status" with
    | some (.str "deleted") => Function.update ledger u none
    | _ => ledger
  | _, _ => ledger

/-- The ledger after calls answered with replies, each reply recorded in turn. -/
def Ledger.after (ledger : Ledger) (calls : List Call) (replies : List Reply) : Ledger :=
  (calls.zip replies).foldl (fun l p => l.record p.1 p.2) ledger

/-- A reply that is not a body accounts for nothing. -/
theorem Ledger.record_of_unanswered (ledger : Ledger) (c : Call) {reply : Reply}
    (unanswered : ∀ body, reply ≠ .ok body) : ledger.record c reply = ledger := by
  cases reply with
  | ok body => exact absurd rfl (unanswered body)
  | _ => cases c <;> rfl

/-! ### Uploaded files -/

theorem lookup_cons_ne {l : List (String × List UInt8)} {k u : String} (v : List UInt8)
    (other : u ≠ k) : ((k, v) :: l).lookup u = l.lookup u := by
  rw [List.lookup_cons, beq_eq_false_iff_ne.mpr other]

/-- Looking up among the entries kept by removing an identifier. -/
theorem lookup_filter_ne (l : List (String × List UInt8)) (id u : String) :
    (l.filter (·.1 != id)).lookup u = if u = id then none else l.lookup u := by
  induction l with
  | nil => simp
  | cons p rest ih =>
    obtain ⟨k, v⟩ := p
    by_cases kept : k = id
    · subst kept
      rw [List.filter_cons_of_neg (by simp), ih]
      by_cases same : u = k
      · rw [if_pos same, if_pos same]
      · rw [if_neg same, if_neg same, lookup_cons_ne v same]
    · rw [List.filter_cons_of_pos (by simpa using kept)]
      by_cases same : u = k
      · subst same
        rw [List.lookup_cons_self, List.lookup_cons_self, if_neg kept]
      · rw [lookup_cons_ne v same, lookup_cons_ne v same, ih]

@[simp]
theorem upload?_putUpload (s : Storage) (id : String) (bytes : List UInt8) :
    (s.putUpload id bytes).upload? = Function.update s.upload? id (some bytes) := by
  funext u
  by_cases same : u = id
  · subst same
    simp [Storage.upload?, Storage.putUpload, List.lookup_append, lookup_filter_ne]
  · simp [Storage.upload?, Storage.putUpload, List.lookup_append, lookup_filter_ne, same,
      lookup_cons_ne bytes same]

@[simp]
theorem upload?_dropUpload (s : Storage) (id : String) :
    (s.dropUpload id).upload? = Function.update s.upload? id none := by
  funext u
  by_cases same : u = id
  · subst same
    simp [Storage.upload?, Storage.dropUpload, lookup_filter_ne]
  · simp [Storage.upload?, Storage.dropUpload, lookup_filter_ne, same]

/-- An identifier that names no stored upload has no file. -/
theorem upload?_of_not_mem {s : Storage} {id : String} (absent : id ∉ s.uploads.map (·.1)) :
    s.upload? id = none :=
  List.lookup_eq_none_iff.mpr fun p member => by
    simpa using fun same : id = p.1 => absent (List.mem_map.mpr ⟨p, member, same.symm⟩)

/-- An identifier with a file names a stored upload. -/
theorem mem_of_upload? {s : Storage} {id : String} {bytes : List UInt8}
    (stored : s.upload? id = some bytes) : id ∈ s.uploads.map (·.1) := by
  by_contra absent
  rw [upload?_of_not_mem absent] at stored
  cases stored

/-- A frame of lines under named columns is labelled by texts. -/
theorem framed_labels (names : List String) (leading width : Nat) (data : Array (Array String)) :
    ∀ l ∈ (Csv.framed (names.map Cell.str) leading width data).labels, ∃ s, l = .str s := by
  intro l member
  -- every label of the frame is one of the names given
  have given : l ∈ names.map Cell.str := by
    unfold Csv.framed at member
    split at member
    · simpa [Frame.labels] using member
    · simp only [Frame.labels, List.mem_map] at member
      obtain ⟨⟨l', column⟩, inZip, rfl⟩ := member
      exact (List.of_mem_zip inZip).1
  obtain ⟨s, -, rfl⟩ := List.mem_map.mp given
  exact ⟨s, rfl⟩

theorem tokenizedFrame_labels {rows : Array (Array String)} {f : Frame}
    (read : Csv.tokenizedFrame true rows = .ok f) : ∀ l ∈ f.labels, ∃ s, l = .str s := by
  unfold Csv.tokenizedFrame at read
  rw [if_pos rfl] at read
  -- the width comes from the header or from the first data line; the labels are the names
  split at read <;> dsimp only at read <;> split at read
  · cases read
  · cases read
    exact framed_labels _ _ _ _
  · cases read
  · cases read
    exact framed_labels _ _ _ _

/-- An uploaded file is read with a header line, so every column label is a text. -/
theorem readUpload_labels {bytes : List UInt8} {f : Frame} (read : readUpload bytes = .ok f) :
    ∀ l ∈ f.labels, ∃ s, l = .str s := by
  have reader : Csv.readerFor (some ",") = .ok (.chars ',') := rfl
  simp only [readUpload, Csv.readTable, reader, bind, Except.bind] at read
  cases decoded : Text.decodeUtf8 bytes with
  | error e =>
    rw [decoded] at read
    cases read
  | ok text =>
    cases tokens : Csv.tokenize ⟨',', true, false⟩ text with
    | error m =>
      simp only [decoded, pure, Except.pure, tokens] at read
      cases read
    | ok rows =>
      simp only [decoded, pure, Except.pure, tokens] at read
      exact tokenizedFrame_labels read

/-! ### One call -/

/-- What an upload does, case by case. -/
inductive UploadDoes (store : Storage) (bytes : List UInt8) : Reply × Storage → Prop
  /-- the name is refused before an identifier is drawn -/
  | refused (status : Nat) (detail : String) :
      UploadDoes store bytes (.refused status detail, store)
  /-- the path of the drawn identifier is too long to write -/
  | tooLong (f : Failure) : UploadDoes store bytes (.failed f, store.issue.2)
  /-- the file is stored under the drawn identifier, and described -/
  | described (name : String) (f : Frame) : readUpload bytes = .ok f →
      (store.uploadDir ++ "/" ++ (store.issue.1 ++ ".csv")).utf8ByteSize < pathMax →
      UploadDoes store bytes
        (.ok (uploadBody store.issue.1 name f), store.issue.2.putUpload store.issue.1 bytes)
  /-- the file is stored, cannot be read, and is removed again -/
  | unreadable (status : Nat) (detail : String) : UploadDoes store bytes
      (.refused status detail,
        (store.issue.2.putUpload store.issue.1 bytes).dropUpload store.issue.1)

theorem upload_does (store : Storage) (name? : Option String) (bytes : List UInt8) :
    UploadDoes store bytes (upload store name? bytes) := by
  unfold upload
  split
  · exact .refused _ _
  · exact .refused _ _
  · rename_i name _
    split
    · exact .refused _ _
    · dsimp only [Storage.issue]
      split
      · exact .tooLong _
      · rename_i short
        split
        · rename_i f read
          refine .described name f read ?_
          simpa [String.utf8ByteSize_append, Nat.add_assoc, Storage.issue, Storage.uploadDir] using
            Nat.lt_of_not_le short
        · split <;> exact .unreadable _ _

/-- The files after an upload that could not be read: the drawn identifier's file is removed again,
and when it named no upload before, nothing else changed. -/
theorem upload?_unreadable {store : Storage} (bytes : List UInt8)
    (fresh : store.issue.1 ∉ store.uploads.map (·.1)) :
    ((store.issue.2.putUpload store.issue.1 bytes).dropUpload store.issue.1).upload? =
      store.upload? := by
  rw [upload?_dropUpload, upload?_putUpload, Function.update_idem]
  exact Function.update_eq_self_iff.mpr (upload?_of_not_mem fresh).symm

/-- A run request leaves the uploads and their place: a run reads uploads and writes outputs
only. -/
theorem runRequest_uploads (store : Storage) (request : Json) :
    (runRequest store request).2.uploads = store.uploads ∧
      (runRequest store request).2.uploadRoot = store.uploadRoot := by
  unfold runRequest
  split
  · exact ⟨rfl, rfl⟩
  · rename_i doc checked
    obtain ⟨d, rfl⟩ := checkRunRequest_ok checked
    split
    · exact ⟨rfl, rfl⟩
    · rename_i run ran
      obtain ⟨w, -, -, -, -, -, reported⟩ := runWorkflow_reported ran
      split <;> exact ⟨reported.uploads, reported.uploadRoot⟩

/-! ### What the directory accounts for -/

/-- The upload directory of a service against a ledger of the replies: its place stays `root`, its
files are the ledger's, and every upload in the ledger is under an issued identifier, was read
and described as its reply says, and has a path short enough to write. -/
structure Accounts (root : Option String) (ledger : Ledger) (store : Storage) : Prop where
  place : store.uploadRoot = root
  files : store.upload? = fun u => (ledger u).map UploadEntry.bytes
  described : ∀ u bytes body, ledger u = some (.uploaded bytes body) →
    ∃ k name f, u = identifierText k ∧ readUpload bytes = .ok f ∧ body = uploadBody u name f ∧
      (root.getD "" ++ "/" ++ (u ++ ".csv")).utf8ByteSize < pathMax

theorem accounts_initial (store : Storage) :
    Accounts store.uploadRoot (Ledger.initial store) store where
  place := rfl
  files := by
    funext u
    simp only [Ledger.initial, Option.map_map]
    cases store.upload? u <;> rfl
  described u bytes body held := by
    simp only [Ledger.initial] at held
    cases stored : store.upload? u <;> simp [stored] at held

variable {root : Option String} {ledger : Ledger} {store : Storage}

/-- A store with the same uploads in the same place accounts for the same ledger. -/
theorem Accounts.keep (acc : Accounts root ledger store) {store' : Storage}
    (place : store'.uploadRoot = store.uploadRoot) (same : store'.upload? = store.upload?) :
    Accounts root ledger store' :=
  ⟨place.trans acc.place, same.trans acc.files, acc.described⟩

/-- Two stores that account for one ledger hold the same files. -/
theorem Accounts.files_eq {store' : Storage} (acc : Accounts root ledger store)
    (acc' : Accounts root ledger store') : store'.upload? = store.upload? :=
  acc'.files.trans acc.files.symm

/-- An upload that is stored and described adds its file and its description. -/
theorem Accounts.described_upload (acc : Accounts root ledger store) (name? : Option String)
    {bytes : List UInt8} {name : String} {f : Frame} (read : readUpload bytes = .ok f)
    (short : (store.uploadDir ++ "/" ++ (store.issue.1 ++ ".csv")).utf8ByteSize < pathMax) :
    Accounts root (ledger.record (.upload name? bytes) (.ok (uploadBody store.issue.1 name f)))
      (store.issue.2.putUpload store.issue.1 bytes) := by
  have recorded : ledger.record (.upload name? bytes) (.ok (uploadBody store.issue.1 name f)) =
      Function.update ledger store.issue.1
        (some (.uploaded bytes (uploadBody store.issue.1 name f))) :=
    rfl
  rw [recorded]
  refine ⟨acc.place, ?_, fun u bytes' body held => ?_⟩
  · rw [upload?_putUpload]
    funext u
    by_cases drawn : u = store.issue.1
    · subst drawn
      simp [UploadEntry.bytes]
    · rw [Function.update_of_ne drawn, Function.update_of_ne drawn]
      show store.upload? u = _
      rw [acc.files]
  · by_cases drawn : u = store.issue.1
    · subst drawn
      simp only [Function.update_self, Option.some.injEq, UploadEntry.uploaded.injEq] at held
      obtain ⟨rfl, rfl⟩ := held
      refine ⟨store.issued + 1, name, f, rfl, read, rfl, ?_⟩
      rw [← acc.place]
      exact short
    · rw [Function.update_of_ne drawn] at held
      exact acc.described u bytes' body held

/-- Removing a file and its entry keeps the accounts. -/
theorem Accounts.drop (acc : Accounts root ledger store) (u : String) :
    Accounts root (Function.update ledger u none) (store.dropUpload u) := by
  refine ⟨acc.place, ?_, fun v bytes body held => ?_⟩
  · rw [upload?_dropUpload, acc.files]
    funext v
    by_cases deleted : v = u
    · subst deleted
      simp
    · simp [deleted]
  · have other : v ≠ u := by
      rintro rfl
      simp at held
    exact acc.described v bytes body (by rwa [Function.update_of_ne other] at held)

/-- A deletion answered `deleted` removes the file and its entry; any other answer leaves both. -/
theorem Accounts.deleteUpload (acc : Accounts root ledger store) (u : String) :
    Accounts root (ledger.record (.deleteUpload u) (deleteUpload store u).1)
      (deleteUpload store u).2 := by
  unfold Http.deleteUpload
  split
  · exact acc
  · split
    · exact acc
    · exact acc
    · exact acc.drop u

/-- **Every call keeps the accounts**, when an upload that draws an identifier draws one that names
no stored upload. -/
theorem Accounts.serve (acc : Accounts root ledger store) (c : Call)
    (fresh : ∀ name bytes, c = .upload name bytes → (serve store c).2.issued ≠ store.issued →
      store.issue.1 ∉ store.uploads.map (·.1)) :
    Accounts root (ledger.record c (serve store c).1) (serve store c).2 := by
  cases c with
  | upload name? bytes =>
    have fresh := fresh name? bytes rfl
    have does := upload_does store name? bytes
    simp only [Http.serve] at fresh ⊢
    generalize upload store name? bytes = outcome at does fresh ⊢
    cases does with
    | refused => exact acc
    | tooLong => exact acc.keep rfl rfl
    | described name f read short => exact acc.described_upload name? read short
    | unreadable =>
      have drawn :
          ((store.issue.2.putUpload store.issue.1 bytes).dropUpload store.issue.1).issued ≠
            store.issued := by
        simp [Storage.issue, Storage.putUpload, Storage.dropUpload]
      exact acc.keep rfl (upload?_unreadable bytes (fresh drawn))
  | runWorkflow request =>
    obtain ⟨uploads, place⟩ := runRequest_uploads store request
    exact acc.keep place (funext fun u => by simp only [Http.serve, Storage.upload?, uploads])
  | deleteUpload u => exact acc.deleteUpload u
  | download | uploadInfo | nodeTypes | root | health | lifespan | routes => exact acc

/-- **Every run of calls keeps the accounts.** -/
theorem accounts_serveRun : ∀ (calls : List Call) {store : Storage} {ledger : Ledger},
    Accounts root ledger store → FreshDraws store calls →
    Accounts root (ledger.after calls (serveRun store calls).1) (serveRun store calls).2
  | [], _, _, acc, _ => acc
  | _ :: rest, _, _, acc, ⟨fresh, later⟩ => accounts_serveRun rest (acc.serve _ fresh) later

/-- Fresh draws over calls are fresh draws over their first part and, from where it leaves the
files, over the rest. -/
theorem freshDraws_append : ∀ (pre : List Call) {store : Storage} {rest : List Call},
    FreshDraws store (pre ++ rest) →
      FreshDraws store pre ∧ FreshDraws (serveRun store pre).2 rest
  | [], _, _, fresh => ⟨trivial, fresh⟩
  | _ :: pre, _, _, ⟨now, later⟩ =>
    have split := freshDraws_append pre later
    ⟨⟨now, split.1⟩, split.2⟩

/-- **An upload in the ledger is described again as its upload was**: with the same rows, the same
columns and the same first rows. -/
theorem Accounts.uploadInfo (acc : Accounts root ledger store) {u : String} {bytes : List UInt8}
    {body : Json} (held : ledger u = some (.uploaded bytes body)) :
    ∃ body', uploadInfo store u = .ok body' ∧
      ∀ key ∈ ["rows", "columns", "preview"], body'.get? key = body.get? key := by
  obtain ⟨k, name, f, rfl, read, rfl, short⟩ := acc.described u bytes body held
  have stored : store.upload? (identifierText k) = some bytes := by
    rw [acc.files]
    simp [held, UploadEntry.bytes]
  have place : store.uploadDir = root.getD "" := by
    rw [Storage.uploadDir, acc.place]
  have located : store.locate store.uploadDir (identifierText k ++ ".csv") =
      .stored (identifierText k) := by
    rw [Storage.locate, locateIn_identifierText, place, if_neg (Nat.not_le_of_lt short),
      if_pos (mem_of_upload? stored)]
  -- the labels of an uploaded file are texts, which both descriptions show alike
  have columns : f.labels.map Json.ofCell = f.labels.map fun l => .str l.text :=
    List.map_congr_left fun l member => by
      obtain ⟨s, rfl⟩ := readUpload_labels read l member
      rfl
  refine ⟨infoBody (identifierText k) f, ?_, ?_⟩
  · simp only [Http.uploadInfo, isIdentifier_identifierText, located, stored, Option.getD_some,
      read, Bool.not_true, Bool.false_eq_true, if_false]
  · intro key member
    simp only [List.mem_cons, List.mem_nil_iff, or_false] at member
    rcases member with rfl | rfl | rfl
    · rfl
    · simp only [infoBody, columns]
      rfl
    · rfl

/-! ### Runs of calls from any directory -/

/-- **What the upload directory holds after a run of calls.** From any directory, over calls where
every identifier an upload draws names no stored upload: the files are those of the ledger the
replies record; a call not answered with a body leaves the files as that call found them; and each
upload the ledger holds is described again with the rows, columns and first rows its upload was
answered with. -/
theorem serveRun_upload_directory (store : Storage) (calls : List Call)
    (fresh : FreshDraws store calls) :
    let ledger := (Ledger.initial store).after calls (serveRun store calls).1
    (serveRun store calls).2.upload? = (fun u => (ledger u).map UploadEntry.bytes) ∧
    (∀ pre c post, calls = pre ++ c :: post →
      (∀ body, (serve (serveRun store pre).2 c).1 ≠ .ok body) →
      (serve (serveRun store pre).2 c).2.upload? = (serveRun store pre).2.upload?) ∧
    (∀ u bytes body, ledger u = some (.uploaded bytes body) →
      ∃ body', uploadInfo (serveRun store calls).2 u = .ok body' ∧
        ∀ key ∈ ["rows", "columns", "preview"], body'.get? key = body.get? key) := by
  intro ledger
  have accounted := accounts_serveRun calls (accounts_initial store) fresh
  refine ⟨accounted.files, fun pre c post split unanswered => ?_,
    fun u bytes body held => accounted.uploadInfo held⟩
  -- the call sees the directory the calls before it left, which the ledger so far accounts for
  subst split
  obtain ⟨before, now, -⟩ := freshDraws_append pre fresh
  have found := accounts_serveRun pre (accounts_initial store) before
  have after := found.serve c now
  rw [Ledger.record_of_unanswered _ c unanswered] at after
  exact found.files_eq after

end Dataflow.Http
