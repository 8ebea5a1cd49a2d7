import Quartz.Path
import Quartz.Text.CaseFold
import Quartz.Text.Utf8

/-!
# `Quartz.Volume`: files and directories

A volume holds files under slash-separated paths, and directories that may
be empty. The root is a directory, and nothing lies below a file. Links,
files that are neither regular nor directories, and whatever cannot be read
are left out. Volumes in memory and on disk hold the same things and differ
in the wording of their errors.

`Volume.find` looks for a file in a directory without regard to case: a
file with exactly the given name wins, and otherwise the first one in byte
order whose name is equal when case is folded.
-/

set_option autoImplicit false

namespace Quartz

/-- Where a volume lives. -/
inductive Medium where
  | memory
  | disk
  deriving DecidableEq, Repr

/-- Files by their paths, and directories beside those that hold a file.
Nothing lies below a file. -/
structure Volume where
  medium : Medium
  files : List (Bytes × Bytes)
  directories : List Bytes
  apart : ∀ f ∈ files, ∀ p ∈ files.map Prod.fst ++ directories, Path.below? f.1 p = none

namespace Volume

/-- Whether a path is free to be used beside files: none of them lies above
it. -/
def isFree (files : List (Bytes × Bytes)) (p : Bytes) : Bool :=
  files.all fun f => (Path.below? f.1 p).isNone

/-- The volume of some files and directories. A file hides what is stored
below it, and the root is no file. -/
def ofEntries (medium : Medium) (files : List (Bytes × Bytes)) (directories : List Bytes) :
    Volume :=
  let files := files.filter fun f => f.1 ≠ Path.here
  { medium
    files := files.filter fun f => isFree files f.1
    directories := directories.filter (isFree files)
    apart := by
      intro f hf p hp
      have hfree : isFree files p = true := by
        rcases List.mem_append.1 hp with hp | hp
        · obtain ⟨g, hg, rfl⟩ := List.mem_map.1 hp
          exact (List.mem_filter.1 hg).2
        · exact (List.mem_filter.1 hp).2
      exact Option.isNone_iff_eq_none.1
        (List.all_eq_true.1 hfree f (List.mem_filter.1 hf).1) }

/-! ### Errors -/

/-- What can be wrong with a path. -/
inductive Problem where
  | missing
  | invalid
  | notDirectory
  | isDirectory
  | unsupported
  deriving DecidableEq, Repr

/-- The wording of a problem. -/
def Problem.message : Problem → Medium → Bytes
  | .missing, .memory => utf8 "file does not exist"
  | .missing, .disk => utf8 "no such file or directory"
  | .invalid, _ => utf8 "invalid argument"
  | .notDirectory, _ => utf8 "not a directory"
  | .isDirectory, _ => utf8 "is a directory"
  | .unsupported, _ => utf8 "not implemented"

/-- An operation on a path that failed. -/
structure Error where
  operation : Bytes
  path : Bytes
  medium : Medium
  problem : Problem
  deriving DecidableEq, Repr

/-- The wording of an error. -/
def Error.message (e : Error) : Bytes :=
  e.operation ++ utf8 " " ++ e.path ++ utf8 ": " ++ e.problem.message e.medium

/-! ### Looking at paths -/

/-- Whether a text can be the path of something in a volume: the root, or
elements that are neither empty nor point elsewhere. -/
def validPath (p : Bytes) : Bool :=
  p.isUtf8 && (p = Path.here || (Bytes.splitOn Path.slash p).all fun e =>
    e ≠ [] && e ≠ Path.here && e ≠ Path.above)

/-- The path of an entry of a directory. -/
def inside (dir name : Bytes) : Bytes :=
  if dir = Path.here then name else dir ++ Path.slash :: name

/-- The contents of the file at a path. -/
def file? (v : Volume) (p : Bytes) : Option Bytes :=
  if validPath p then v.files.lookup p else none

/-- Every path that is stored, of files and of directories. -/
def paths (v : Volume) : List Bytes := v.files.map Prod.fst ++ v.directories

/-- Whether there is a directory at a path. -/
def isDirectory (v : Volume) (p : Bytes) : Bool :=
  validPath p && (v.file? p).isNone &&
    (p = Path.here || v.directories.contains p || v.paths.any fun q => (Path.below? p q).isSome)

/-- The same texts without the neighbours that are equal. -/
def distinct : List Bytes → List Bytes
  | a :: b :: rest => if a = b then distinct (b :: rest) else a :: distinct (b :: rest)
  | l => l

/-- The names in a directory, in byte order. -/
def names (v : Volume) (dir : Bytes) : List Bytes :=
  let found := v.paths.filterMap fun p =>
    (Path.below? dir p).map fun rest => rest.takeWhile (· ≠ Path.slash)
  distinct (Bytes.sort found)

/-- Whether a path is that of a file, or leads through one. -/
def coveredByFile (v : Volume) (p : Bytes) : Bool :=
  v.files.any fun f => f.1 = p || (Path.below? f.1 p).isSome

/-- The files in a directory, in byte order of their names. -/
def filesIn (v : Volume) (dir : Bytes) : Except Error (List Bytes) :=
  let fault (operation : String) (problem : Problem) : Except Error (List Bytes) :=
    .error ⟨utf8 operation, dir, v.medium, problem⟩
  if v.isDirectory dir then
    .ok ((v.names dir).filter fun name => (v.file? (inside dir name)).isSome)
  else
    match v.medium with
    | .memory => if (v.file? dir).isSome then fault "readdir" .unsupported else fault "open" .missing
    | .disk =>
      if !validPath dir then fault "readdir" .invalid
      else if v.coveredByFile dir then fault "open" .notDirectory
      else fault "open" .missing

/-! ### Finding files -/

/-- Why a file was not found, or found and not read. -/
inductive Miss where
  | unreadable (dir : Bytes) (why : Error)
  | notFound (name dir : Bytes)
  | unread (why : Error)
  deriving DecidableEq, Repr

/-- The wording of a miss. -/
def Miss.message : Miss → Bytes
  | .unreadable dir why =>
    utf8 "failed to read directory " ++ dir ++ utf8 ": " ++ why.message
  | .notFound name dir =>
    utf8 "file not found: " ++ name ++ utf8 " (searched in " ++ dir ++ utf8 ")"
  | .unread why => why.message

/-- Finds a file in a directory without regard to case. -/
def find (v : Volume) (dir name : Bytes) : Except Miss Bytes :=
  let dir := Path.ofHost dir
  let exact := Path.join dir name
  if (v.file? exact).isSome then .ok exact
  else
    match v.filesIn dir with
    | .error e => .error (.unreadable dir e)
    | .ok names =>
      match names.find? fun n => n.equalFold name with
      | some n => .ok (Path.join dir n)
      | none => .error (.notFound name dir)

/-- The contents of the file at a path, or why there are none. -/
def contents (v : Volume) (p : Bytes) : Except Error Bytes :=
  let fault (operation : String) (problem : Problem) : Except Error Bytes :=
    .error ⟨utf8 operation, p, v.medium, problem⟩
  match v.file? p, v.medium with
  | some data, _ => .ok data
  | none, .memory => if v.isDirectory p then fault "read" .invalid else fault "open" .missing
  | none, .disk =>
    if !validPath p then fault "readfile" .invalid
    else if v.isDirectory p then fault "read" .isDirectory
    else if v.coveredByFile p then fault "open" .notDirectory
    else fault "open" .missing

/-- Finds a file by its path, of which only the last element is looked up
without regard to case, and reads it. -/
def read (v : Volume) (name : Bytes) : Except Miss (Bytes × Bytes) := do
  let name := Path.ofHost name
  let path ← v.find (Path.directory name) (Path.base name)
  let data ← (v.contents path).mapError .unread
  return (path, data)

/-! ### Walking -/

/-- Whether one path comes before another when directories are walked in
byte order of the names in them. -/
def walksBefore (p q : Bytes) : Bool :=
  Bytes.splitOn Path.slash p ≤ Bytes.splitOn Path.slash q

/-- Puts a path into its place in a walk. -/
def insertWalk (p : Bytes) : List Bytes → List Bytes
  | [] => [p]
  | q :: rest => if walksBefore p q then p :: q :: rest else q :: insertWalk p rest

/-- Every file, in the order of a walk. -/
def walk (v : Volume) : List Bytes :=
  ((v.files.map Prod.fst).filter validPath).foldr insertWalk []

/-! ### Paths from a working directory -/

/-- The part of a volume below a directory. -/
def under (v : Volume) (dir : Bytes) : Volume :=
  ofEntries v.medium (v.files.filterMap fun f => (Path.below? dir f.1).map fun p => (p, f.2))
    (v.directories.filterMap (Path.below? dir))

/-- What a path leads to: a file with its contents, or a directory with all
that lies in it. -/
inductive Node where
  | file (contents : Bytes)
  | directory (contents : Volume)

/-- One more element of a path. -/
def follow (v : Volume) (p element : Bytes) : Except Problem Bytes :=
  if (v.file? p).isSome then .error .notDirectory
  else if element = [] ∨ element = Path.here then .ok p
  else if element = Path.above then .ok (Path.directory p)
  else
    let q := inside p element
    if (v.file? q).isSome || v.isDirectory q then .ok q else .error .missing

/-- What a path leads to that is followed element by element from the root
of the volume. Nothing outside the volume is known. -/
def locate (v : Volume) (p : Bytes) : Except Problem Node :=
  if p = [] ∨ Path.isRooted p then .error .missing
  else
    match (Bytes.splitOn Path.slash p).foldlM v.follow Path.here with
    | .error e => .error e
    | .ok q =>
      match v.file? q with
      | some contents => .ok (.file contents)
      | none => .ok (.directory (v.under q))

end Volume

end Quartz
