import DocumentStore.Failure
import DocumentStore.Json.Printer

/-! Queries as trees, and their form on the wire. A node that is no query of a known kind is kept with the name
of its type, so that compiling can refuse it by name. A comparison is written by a query library, which gets the field as
the name of an argument; what becomes of an argument is the library's own affair. -/

namespace DocumentStore

/-- How a query compares one field with one value. -/
inductive Comparison where
  | term | fullText | start
  deriving DecidableEq, Repr

def Comparison.name : Comparison → String
  | .term => "term"
  | .fullText => "match"
  | .start => "prefix"

/-- What a query library makes of an argument by its name: it clashes with one that the constructors are given anyway, it is
a parameter of theirs for something else, or it is an attribute, written under some name. -/
inductive QueryLibrary.Use where
  | clash
  | parameter
  | written (name : Text)
  deriving DecidableEq, Repr

/-- A library that constructs comparisons out of named arguments, of which the field is one. -/
structure QueryLibrary where
  use : Text → QueryLibrary.Use

namespace QueryLibrary

/-- The comparison of a field with a value, constructed and written. -/
def write (l : QueryLibrary) (c : Comparison) (field : Text) (value : Json) : Except Failure Json :=
  match l.use field with
  | .clash => .error (.misuse .wrongKind)
  | .parameter => .ok (.obj [(c.name, .obj [])])
  | .written name => .ok (.obj [(c.name, .obj [(name, value)])])

/-- The name that an attribute is written under, where some are renamed. -/
def wireName (renamed : List (Text × Text)) (name : Text) : Text := (renamed.lookup name).getD name

/-- A library by the names that clash, those of other parameters, and the attributes that are written under another name. -/
def ofNames (clashing parameters : List Text) (renamed : List (Text × Text)) : QueryLibrary where
  use field :=
    if clashing.contains field then .clash
    else if parameters.contains field then .parameter
    else .written (wireName renamed field)

/-- The library whose constructors take nothing but attributes. -/
def standard : QueryLibrary := ofNames ["self", "_expand__to_dot"] [] [("from_", "from")]

/-- The library whose constructors may be given field and value by themselves. -/
def withFieldParameters : QueryLibrary :=
  ofNames ["self", "_expand__to_dot"] ["_field", "_value"] [("from_", "from")]

end QueryLibrary

inductive Query where
  | field (c : Comparison) (field value : Json)
  | range (field atLeast below : Json)
  | bool (must : List Query)
  | foreign (type : String)
  deriving Inhabited

namespace Query

/-- The query with one more clause; only a query made of clauses takes one. -/
def addMust (q clause : Query) : Query :=
  match q with
  | .bool must => .bool (must ++ [clause])
  | q => q

/-- A comparison on the wire, as the library writes it; its field has to be a text. -/
def compileField (library : QueryLibrary) (c : Comparison) (field value : Json) : Except Failure Json :=
  match field with
  | .str name => library.write c name value
  | _ => .error (.misuse .wrongKind)

/-- A bound of a range; one that is not set is left out. -/
def bound (key : Text) : Json → List (Text × Json)
  | .null => []
  | v => [(key, v)]

/-- A range on the wire; its field has to be a scalar. -/
def compileRange (field atLeast below : Json) : Except Failure Json :=
  match field.keyText? with
  | some name => .ok (.obj [("range", .obj [(name, .obj (bound "gte" atLeast ++ bound "lt" below))])])
  | none => .error (.misuse .wrongKind)

mutual

/-- The form of a query on the wire; the first node that is no known query, in the order of the clauses,
refuses it. -/
def compile (library : QueryLibrary := .standard) : Query → Except Failure Json
  | .field c name value => compileField library c name value
  | .range name atLeast below => compileRange name atLeast below
  | .bool must => do return .obj [("bool", .obj [("must", .arr (← compileAll library must))])]
  | .foreign type => .error (.unsupportedQuery type)

def compileAll (library : QueryLibrary) : List Query → Except Failure (List Json)
  | [] => .ok []
  | q :: qs => do
    let v ← compile library q
    return v :: (← compileAll library qs)

end

end Query

end DocumentStore
