/-!
# Files of a run

The files the nodes read and write: the upload directory holds uploaded files by their
upload id (each stored as `<id>.csv`), the output directory receives written files by their
file id. Either directory may be left unconfigured; the output directory may also be
blocked by a plain file standing in its place, so that it cannot be created.

File ids are identifiers issued in sequence: the `n`-th is the 128-bit number `n` written
as an identifier, `8-4-4-4-12` lower-case hexadecimal digits.

A name given for an upload is joined to the upload directory as a path: a name starting with
`/` replaces the directory, empty and `.` parts are dropped, and `..` parts are kept. The
system then walks the path part by part (`Storage.locate`). Inside the upload directory only a
last part can name a stored upload, since the directory holds nothing but those files. A `..`
leaves it for the directories above, and an absolute path starts at the root; out there the only
files known are those stored under a name that itself leads out of the directory (`fileOf`,
reading `..` lexically), and the only directories known are those that hold them. A part longer
than 255 bytes, or a path of 4096 bytes or more, is refused by the system as too long; a path
holding a NUL character names nothing.
-/

namespace Dataflow

/-- The state of the output directory. -/
inductive OutputPlace where
  /-- no output directory is configured -/
  | unset
  /-- the directory can be created and written -/
  | ready
  /-- a plain file stands where the directory should be -/
  | blocked
deriving Repr, BEq, DecidableEq, Inhabited

/-- The files of a run. -/
structure Storage where
  /-- where uploads live, as shown in paths; `none` when unconfigured -/
  uploadRoot : Option String
  /-- the uploaded files by upload id, as bytes -/
  uploads : List (String × List UInt8)
  /-- where outputs go, as shown in paths -/
  outputRoot : String
  output : OutputPlace
  /-- the written files by file id, as text -/
  outputs : List (String × String)
  /-- how many identifiers were issued -/
  issued : Nat
deriving Inhabited

/-- The lower-case hexadecimal digits of `n`, `width` wide. -/
def hexDigits (width n : Nat) : String :=
  let digit (d : Nat) : Char := if d < 10 then Char.ofNat (48 + d) else Char.ofNat (87 + d)
  String.ofList ((List.range width).reverse.map fun k => digit (n / Nat.pow 16 k % 16))

/-- The identifier of the number `n`. -/
def identifierText (n : Nat) : String :=
  let h := hexDigits 32 n
  let part (a b : Nat) := String.ofList ((h.toList.drop a).take (b - a))
  s!"{part 0 8}-{part 8 12}-{part 12 16}-{part 16 20}-{part 20 32}"

namespace Storage

/-- Issues the next identifier. -/
def issue (s : Storage) : String × Storage :=
  (identifierText (s.issued + 1), { s with issued := s.issued + 1 })

/-- The bytes of an upload. -/
def upload? (s : Storage) (id : String) : Option (List UInt8) := s.uploads.lookup id

/-- Stores an upload (replacing one of the same id). -/
def putUpload (s : Storage) (id : String) (bytes : List UInt8) : Storage :=
  { s with uploads := (s.uploads.filter (·.1 != id)) ++ [(id, bytes)] }

/-- Removes an upload. -/
def dropUpload (s : Storage) (id : String) : Storage :=
  { s with uploads := s.uploads.filter (·.1 != id) }

/-- Stores an output file. -/
def putOutput (s : Storage) (id text : String) : Storage :=
  { s with outputs := (s.outputs.filter (·.1 != id)) ++ [(id, text)] }

end Storage

/-! ### Paths of uploads -/

/-- A path as the path library reads it: whether it is absolute (and with how many leading
slashes: two are kept, more count as one), and its parts, empty and `.` parts dropped. -/
structure PathParts where
  /-- the leading slashes kept: none (a relative path), `/` or `//` -/
  root : String
  parts : List String
deriving Repr, BEq, Inhabited

/-- Reads a path. -/
def PathParts.ofText (s : String) : PathParts :=
  let cs := s.toList
  let slashes := (cs.takeWhile (· == '/')).length
  let root := if slashes == 0 then "" else if slashes == 2 then "//" else "/"
  ⟨root, ((cs.splitOn '/').map String.ofList).filter fun p => p != "" && p != "."⟩

/-- The text of a path relative to the upload directory, which stands as `dir`; an absolute
path stands alone. -/
def PathParts.text (dir : String) (p : PathParts) : String :=
  let body := "/".intercalate p.parts
  if p.root == "" then dir ++ "/" ++ body else p.root ++ body

/-- What a path names. -/
inductive Found where
  /-- the file stored under this id -/
  | stored (id : String)
  /-- no file the service knows -/
  | missing
  /-- the system refuses the path as too long -/
  | tooLong
deriving Repr, BEq, DecidableEq, Inhabited

/-- The longest part of a path the system takes, in bytes. -/
def nameMax : Nat := 255

/-- The shortest path the system refuses as too long, in bytes. -/
def pathMax : Nat := 4096

/-- A directory reached by a walk: for a path relative to the directory of the stored files, `up`
levels above it and then down through the names `down` (innermost first); for an absolute path,
down from the root. The directory of the stored files is `home`. -/
structure Place where
  absolute : Bool
  up : Nat
  down : List String
deriving DecidableEq, Repr

namespace Place

/-- The directory of the stored files. -/
def home : Place := ⟨false, 0, []⟩

/-- The root of the file system. -/
def root : Place := ⟨true, 0, []⟩

/-- The directory above; the root is its own parent. -/
def parent (p : Place) : Place :=
  match p.down with
  | _ :: outer => { p with down := outer }
  | [] => if p.absolute then p else { p with up := p.up + 1 }

/-- A directory inside, by name. -/
def child (p : Place) (name : String) : Place := { p with down := name :: p.down }

/-- Whether a directory is `q` or lies inside it. -/
def within (p q : Place) : Bool :=
  p.absolute == q.absolute && p.up == q.up && q.down.isSuffixOf p.down

end Place

/-- The directory and the name of the file a path's parts lead to from `here`, reading `..`
lexically; none when the last part is no name. -/
def placeFrom (here : Place) : List String → Option (Place × String)
  | [] => none
  | [name] => if name == ".." then none else some (here, name)
  | part :: rest => placeFrom (if part == ".." then here.parent else here.child part) rest

/-- Where the file stored under `id` lies, when its name leads out of the directory of the stored
files: the directory and the file name. -/
def fileOf (id : String) : Option (Place × String) :=
  let p := PathParts.ofText (id ++ ".csv")
  match placeFrom (if p.root == "" then .home else .root) p.parts with
  | some (place, name) => if place.absolute || place.up > 0 then some (place, name) else none
  | none => none

/-- Walks the parts of a path from the directory `here`, among the files stored under `ids`. A
`..` moves to the directory above and a part too long is refused. In the directory of the
stored files a last part is looked up by its name and any other part names no directory; out of
it a last part is looked up among the files stored out there, and any other part must be a
directory that holds one of them. -/
def walkFrom (ids : List String) (here : Place) : List String → Found
  | [] => .missing
  | part :: rest =>
    if part == ".." then walkFrom ids here.parent rest
    else if part.utf8ByteSize > nameMax then .tooLong
    else if here == .home then
      if rest.isEmpty then
        match ids.find? (· ++ ".csv" == part) with
        | some id => .stored id
        | none => .missing
      else .missing
    else if rest.isEmpty then
      match ids.find? (fun id => fileOf id == some (here, part)) with
      | some id => .stored id
      | none => .missing
    else if ids.any (fun id => (fileOf id).any fun (p, _) => p.within (here.child part)) then
      walkFrom ids (here.child part) rest
    else .missing

/-- What the path `rel`, joined to the directory `dir` of the stored files `ids`, names. -/
def locateIn (ids : List String) (dir rel : String) : Found :=
  let p := PathParts.ofText rel
  if rel.contains (Char.ofNat 0) then .missing
  else if (p.text dir).utf8ByteSize ≥ pathMax then .tooLong
  else walkFrom ids (if p.root == "" then .home else .root) p.parts

/-- What the path `rel`, joined to the upload directory `dir`, names. -/
def Storage.locate (s : Storage) (dir rel : String) : Found :=
  locateIn (s.uploads.map (·.1)) dir rel

/-- The upload directory, as shown in paths (empty when unconfigured). -/
def Storage.uploadDir (s : Storage) : String := s.uploadRoot.getD ""

/-- What the path `rel`, joined to the output directory, names. -/
def Storage.locateOutput (s : Storage) (rel : String) : Found :=
  locateIn (s.outputs.map (·.1)) s.outputRoot rel

end Dataflow
