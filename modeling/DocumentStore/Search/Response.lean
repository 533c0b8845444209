import DocumentStore.Document

/-! Answers to searches and lookups, decoded into hits and buckets. Highlights, stored fields, sources and
aggregations may be missing; what must be there is read strictly. -/

namespace DocumentStore

/-- A bucket of a terms aggregation. -/
structure TermsBucket where
  key : Json
  documentCount : Json

/-- A document that was found: its text is kept as it was, beside its value. -/
structure SearchHit where
  index : Text
  id : Text
  version : Int
  source : Option Text
  sourceFields : Json
  highlights : Json
  storedFields : Json

structure SearchResponse where
  totalHits : Int
  hits : List SearchHit
  aggregations : List (Text × List TermsBucket)
  tookMillis : Json

namespace SearchHit

/-- What is highlighted of a field, which is named by a scalar; nothing is an empty list. -/
def fragments (h : SearchHit) (field : Json) : Except Failure Json :=
  match field with
  | .str name => .ok ((h.highlights.field? name).getD (.arr []))
  | v => if v.isScalar then .ok (.arr []) else .error (.misuse .wrongKind)

/-- The first highlighted fragment of a field, or the default where there is none. -/
def highlight (h : SearchHit) (field default : Json) : Except Failure Json := do
  match ← h.fragments field with
  | .arr (x :: _) => return x
  | .str t => return match t.points with
    | p :: _ => .str ⟨[p]⟩
    | [] => default
  | .obj (_ :: _) => throw (.misuse .noEntry)
  | v => if v.truthy then throw (.misuse .wrongKind) else return default

/-- The source of the hit at a path, as text and as value; a hit need not have one. -/
def readSource (document : Json) (path : Text) : Except Failure (Option Text × Json) := do
  if ← document.has path then
    let text ← document.extract path
    let fields ← document.read path (.one .object)
    return (some text, fields)
  else return (none, .obj [])

/-- The hit at a place of a document. -/
def read (document : Json) (place : Text) : Except Failure SearchHit := do
  let index ← document.readText (place ++ "._index")
  let id ← document.readText (place ++ "._id")
  let version ← document.readInt (place ++ "._version")
  let (source, sourceFields) ← readSource document (place ++ "._source")
  let highlights ← document.readOptional (place ++ ".highlight") (.obj []) (.one .object)
  let storedFields ← document.readOptional (place ++ ".fields") (.obj []) (.one .object)
  return { index, id, version, source, sourceFields, highlights, storedFields }

end SearchHit

namespace TermsBucket

def read : Json → Except Failure TermsBucket
  | .obj fs => .ok {
      key := (Json.lookupField fs "key_as_string").getD ((Json.lookupField fs "key").getD .null)
      documentCount := (Json.lookupField fs "doc_count").getD (.int 0) }
  | _ => .error (.misuse .noMember)

/-- The buckets of an aggregation. -/
def readAll (v : Json) : Except Failure (List TermsBucket) :=
  match v.elements? with
  | some xs => xs.mapM read
  | none => .error (.misuse .wrongKind)

/-- The buckets of each aggregation that has some; other aggregations are passed over. -/
def readAggregations : List (Text × Json) → Except Failure (List (Text × List TermsBucket))
  | [] => .ok []
  | (name, v) :: rest =>
    match v.field? "buckets" with
    | none => readAggregations rest
    | some buckets => do
      let bs ← readAll buckets
      return (name, bs) :: (← readAggregations rest)

end TermsBucket

namespace SearchResponse

/-- The total number of hits, which stands by itself or under a key of its own. -/
def readTotal (document : Json) : Except Failure Int := do
  match ← document.read "$.hits.total" (.oneOf [.int, .object]) with
  | .int i => return i
  | _ => document.readInt "$.hits.total.value"

def readAggregations (document : Json) : Except Failure (List (Text × List TermsBucket)) := do
  match ← document.readOptional "$.aggregations" (.obj []) (.one .object) with
  | .obj fs => TermsBucket.readAggregations fs
  | _ => return []

def hitPlace (n : Nat) : Text := "$.hits.hits[" ++ toString n ++ "]"

/-- How many of the hits in an answer are decoded, given the size that was asked for. -/
def hitCount (size : Json) (found : Nat) : Except Failure Nat :=
  match Quantity.ofJson? size with
  | none => .error (.misuse .wrongKind)
  | some size =>
    match (size.min (.int found)).toInt? with
    | some n => .ok n.toNat
    | none => .error (.misuse .wrongKind)

/-- The answer to a search for at most `size` hits. -/
def read (document : Json) (size : Json) : Except Failure SearchResponse := do
  let found ← document.length "$.hits.hits"
  let hits ← (List.range (← hitCount size found)).mapM fun n => SearchHit.read document (hitPlace n)
  let totalHits ← readTotal document
  let aggregations ← readAggregations document
  let tookMillis ← document.readOptional "$.took" .null (.one .int)
  return { totalHits, hits, aggregations, tookMillis }

def parse (text : Text) (size : Json) : Except Failure SearchResponse := do
  read (← Document.parse (.text text)) size

end SearchResponse

end DocumentStore
