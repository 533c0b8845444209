import DocumentStore.Cluster.Target

/-! Files below a working directory, found by path. A directory of which nothing is known lies above the working
directory, and there is another one above it. -/

namespace DocumentStore

/-- A path of a file system: its components, behind as many slashes as count. -/
structure FilePath where
  slashes : Nat
  components : List String
  deriving DecidableEq, Repr

namespace FilePath

/-- How many slashes in front of a path count: two are two, any more are one. -/
def countedSlashes (n : Nat) : Nat := if n ≤ 2 then n else 1

/-- The path that a text writes; empty components and those that stay in place are dropped. -/
def ofString (s : String) : FilePath where
  slashes := countedSlashes (s.toList.takeWhile (· = '/')).length
  components := ((s.toList.splitOn '/').map String.ofList).filter fun c => c ≠ "" && c ≠ "."

/-- The path that a value names, which has to be a text. -/
def ofJson : Json → Except Failure FilePath
  | .str t => .ok (ofString t.toString)
  | _ => .error (.misuse .wrongKind)

/-- The path `q` as seen from `p`. -/
def join (p q : FilePath) : FilePath :=
  if q.slashes = 0 then { p with components := p.components ++ q.components } else q

def render (p : FilePath) : String :=
  let path := String.ofList (List.replicate p.slashes '/') ++ "/".intercalate p.components
  if path = "" then "." else path

end FilePath

/-- The directories and files below the working directory, each with the components of its path. -/
structure Files where
  directories : List (List String) := []
  contents : List (List String × Cluster.Payload) := []

/-- What is found at a path. -/
inductive FileSearch where
  | file (content : Cluster.Payload)
  | nothing
  | overlong

namespace Files

/-- A file put where some components lead from a directory; the directories on the way are made. -/
def insert (content : Cluster.Payload) : (place : List String) → List String → Files → Files
  | _, [], files => files
  | place, [name], files => { files with contents := putField (place ++ [name]) content files.contents }
  | place, c :: cs, files =>
    let next := if c = ".." then place.dropLast else place ++ [c]
    insert content next cs { files with directories := files.directories ++ [next] }

/-- Some files, written one after the other. -/
def ofList (entries : List (FilePath × Cluster.Payload)) : Files :=
  entries.foldl (fun files (p, content) => files.insert content [] p.components) {}

/-- The most bytes that the name of a file can have, and a whole path. -/
def longestName : Nat := 255

def longestPath : Nat := 4095

/-- Whether a place is a directory; `none` is a directory above the working directory. -/
def isDirectory (files : Files) : Option (List String) → Bool
  | none | some [] => true
  | some place => files.directories.contains place

/-- The directory above a place. -/
def parent : Option (List String) → Option (List String)
  | none | some [] => none
  | some place => some place.dropLast

/-- What some components lead to from a place. Every place on the way has to be a directory, and a name that is
looked up there must not be too long. -/
def walk (files : Files) : Option (List String) → List String → FileSearch
  | place, [] =>
    match place.bind fun p => files.contents.lookup p with
    | some content => .file content
    | none => .nothing
  | place, c :: cs =>
    if !files.isDirectory place then .nothing
    else if longestName < c.utf8ByteSize then .overlong
    else if c = ".." then walk files (parent place) cs
    else
      match place with
      | none => .nothing
      | some names => walk files (some (names ++ [c])) cs

/-- What is at a path, seen from the working directory. No path holds a null character. -/
def find (files : Files) (p : FilePath) : FileSearch :=
  if p.render.toList.contains '\x00' then .nothing
  else if longestPath < p.render.utf8ByteSize then .overlong
  else files.walk (if p.slashes = 0 then some [] else none) p.components

end Files

end DocumentStore
