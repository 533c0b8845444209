import DocumentStore.Query

/-! What a search asks for, and the body that asks it. Only the parts that are set are written, always in one
order. -/

namespace DocumentStore

structure TermsAggregation where
  name : Json
  field : Json

structure SearchRequest where
  index : Json := .null
  size : Json := .null
  storedFields : Json := .arr []
  query : Option Query := none
  sort : Json := .null
  highlighters : Json := .arr []
  aggregations : List TermsAggregation := []

namespace SearchRequest

/-- How many hits are returned when the request does not say. -/
def defaultSize : Json := .int 10

def effectiveSize (r : SearchRequest) : Json :=
  match r.size with
  | .null => defaultSize
  | size => size

/-- The members of a part of the request that can be listed. -/
def listed (v : Json) : Except Failure (List Json) :=
  match v.elements? with
  | some xs => .ok xs
  | none => .error (.misuse .wrongKind)

/-- The entries with one more: a scalar that is a key already keeps its place and takes the new value. -/
def putScalar (k v : Json) : List (Json × Json) → List (Json × Json)
  | [] => [(k, v)]
  | (k', v') :: rest => if k'.sameScalar k then (k', v) :: rest else (k', v') :: putScalar k v rest

/-- The object with the given entries, whose keys have to be scalars. Keys that are one value share a field; keys
that only look alike do not. -/
def scalarObject (entries : List (Json × Json)) : Except Failure Json := do
  let distinct := entries.foldl (fun acc (k, v) => putScalar k v acc) []
  let fields ← distinct.mapM fun (k, v) =>
    match k.keyText? with
    | some key => .ok (key, v)
    | none => .error (.misuse .wrongKind)
  return .obj fields

def storedFieldsPart (v : Json) : Except Failure (List (Text × Json)) :=
  if v.truthy then do return [("stored_fields", .arr (← listed v))] else .ok []

def queryPart (library : QueryLibrary) : Option Query → Except Failure (List (Text × Json))
  | some q => do return [("query", ← q.compile library)]
  | none => .ok []

def highlightPart (v : Json) : Except Failure (List (Text × Json)) :=
  if v.truthy then do
    let fields ← scalarObject ((← listed v).map (·, .obj []))
    return [("highlight", .obj [("fields", fields)])]
  else .ok []

def aggregationPart (aggs : List TermsAggregation) : Except Failure (List (Text × Json)) :=
  if aggs.isEmpty then .ok []
  else do return [("aggs", ← scalarObject (aggs.map fun a => (a.name, .obj [("terms", .obj [("field", a.field)])])))]

/-- The parts of a search put together, with a query as the library writes it. -/
def assemble (r : SearchRequest) (library : QueryLibrary) : Except Failure Json := do
  let size := match r.size with
    | .null => []
    | size => [(Text.ofString "size", size)]
  let stored ← storedFieldsPart r.storedFields
  let query ← queryPart library r.query
  let sort := if r.sort.truthy then [(Text.ofString "sort", Json.arr [r.sort])] else []
  let highlight ← highlightPart r.highlighters
  let aggregations ← aggregationPart r.aggregations
  return .obj (size ++ stored ++ query ++ sort ++ highlight ++ aggregations)

/-- The body of a search, which is spelled out for whoever follows what is searched. -/
def body (r : SearchRequest) (library : QueryLibrary := .standard) : Except Failure Json := do
  let v ← r.assemble library
  v.spell
  return v

theorem body_of_assemble {r : SearchRequest} {library : QueryLibrary} {v : Json} (h : r.assemble library = .ok v) :
    r.body library = if v.isSpellable then .ok v else .error (.misuse .overlongNumber) := by
  unfold body
  rw [h]
  change (v.spell >>= fun _ => .ok v) = _
  unfold Json.spell
  cases v.isSpellable <;> rfl

theorem body_eq_ok_iff {r : SearchRequest} {library : QueryLibrary} {b : Json} :
    r.body library = .ok b ↔ r.assemble library = .ok b ∧ b.isSpellable = true := by
  cases h : r.assemble library with
  | error f =>
    unfold body
    rw [h]
    exact iff_of_false nofun nofun
  | ok v =>
    rw [body_of_assemble h]
    cases hspelled : v.isSpellable with
    | true => simp +contextual [← hspelled]
    | false =>
      refine iff_of_false nofun ?_
      rintro ⟨⟨⟩, hb⟩
      exact Bool.false_ne_true (hspelled.symm.trans hb)

end SearchRequest

end DocumentStore
