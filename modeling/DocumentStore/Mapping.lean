import DocumentStore.Files

/-! Where the settings of new indices come from: values by version of the store and name, given directly or as
files in a directory. -/

namespace DocumentStore

/-- The text with every kind of line break read as one line feed. -/
def plainLineBreaks : List Char → List Char
  | '\r' :: '\n' :: rest => '\n' :: plainLineBreaks rest
  | '\r' :: rest => '\n' :: plainLineBreaks rest
  | c :: rest => c :: plainLineBreaks rest
  | [] => []

/-- A mapping that is given directly; one whose version is null is for all versions that have none of their own. -/
structure FixedMapping where
  version : Json
  name : Json
  mapping : Json

inductive MappingSource where
  | fixed (entries : List FixedMapping)
  /-- The files `<root>/<version>/<name>.json`. -/
  | directory (root : FilePath) (files : Files)

namespace MappingSource

/-- The source of some entries, whose versions and names have to be scalars. -/
def ofEntries (entries : List FixedMapping) : Except Failure MappingSource :=
  if entries.all fun e => e.version.isScalar && e.name.isScalar then .ok (.fixed entries)
  else .error (.misuse .wrongKind)

/-- The last entry for a version and a name. -/
def lookup (entries : List FixedMapping) (version name : Json) : Option Json :=
  (entries.reverse.find? fun e => e.version.sameScalar version && e.name.sameScalar name).map (·.mapping)

def filePath (root : FilePath) (version name : Json) : FilePath :=
  (root.join (.ofString version.display)).join (.ofString (name.display ++ ".json"))

def readFixed (entries : List FixedMapping) (version name : Json) : Except Failure Json :=
  if !name.isScalar then .error (.misuse .wrongKind)
  else
    match (lookup entries (.str version.display) name).or (lookup entries .null name) with
    | some mapping => .ok mapping
    | none => .error (.client (.mappingMissing version name none))

def readFile (files : Files) (path : FilePath) (version name : Json) : Except Failure Json :=
  match files.find path with
  | .nothing => .error (.client (.mappingMissing version name (some path.render)))
  | .overlong => .error (.misuse .overlongName)
  | .file content =>
    match content.text? with
    | some text => .ok (.str (Text.ofChars (plainLineBreaks text.toList)))
    | none => .error (.misuse .undecodable)

/-- The mapping of a name for a version of the store. -/
def read (m : MappingSource) (version name : Json) : Except Failure Json :=
  match m with
  | .fixed entries => readFixed entries version name
  | .directory root files => readFile files (filePath root version name) version name

end MappingSource

end DocumentStore
