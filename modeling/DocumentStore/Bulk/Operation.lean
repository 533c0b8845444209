import DocumentStore.Document

/-! Writes to single documents, and the body that submits a list of them: one line for the action, and for an
index operation one more for the document. -/

namespace DocumentStore.Bulk

inductive Verb where
  | index | delete
  deriving DecidableEq, Repr

def Verb.name : Verb → String
  | .index => "index"
  | .delete => "delete"

inductive Action where
  | index (body pipeline : Json)
  | delete

/-- A write to the document `id` of an index; a null `id` leaves its choice to the store. -/
structure Operation where
  index : Json
  id : Json
  action : Action

namespace Operation

/-- The operation, if it can be asked for: a document that is to be deleted has to be named. -/
def validate (op : Operation) : Except Failure Operation :=
  match op.action with
  | .index .. => .ok op
  | .delete => if op.id.truthy then .ok op else .error (.bulk (.invalid (.deleteWithoutId op.index)))

def verb (op : Operation) : Verb :=
  match op.action with
  | .index .. => .index
  | .delete => .delete

def idField : Json → List (Text × Json)
  | .null => []
  | id => [("_id", id)]

/-- The pipeline of an operation; one that counts as nothing is left out. -/
def pipelineField : Action → List (Text × Json)
  | .index _ p => if p.truthy then [("pipeline", p)] else []
  | .delete => []

/-- The action of the operation and the document that it is for. -/
def header (op : Operation) : Json :=
  .obj [(op.verb.name, .obj ((("_index" : Text), op.index) :: idField op.id ++ pipelineField op.action))]

/-- A document as one line can hold it: a text that has line breaks is read, so that it can be written again
without them. -/
def singleLine (op : Operation) (body : Json) : Except Failure Json :=
  match body with
  | .str t =>
    if t.points.contains (.char '\n') then
      (Json.parse t).mapError fun f => .bulk (.invalid (.documentNotJson op.index op.id f))
    else .ok body
  | _ => .ok body

/-- The lines of the operation. -/
def lines (op : Operation) : Except Failure (List Json) :=
  match op.action with
  | .index body _ => do return [op.header, ← op.singleLine body]
  | .delete => .ok [op.header]

end Operation

/-- A line of a body: a text as it stands, any other value as compact JSON. -/
def linePoints : Json → List CodePoint
  | .str t => if t.points.getLast? = some (.char '\n') then t.points else t.points ++ [.char '\n']
  | v => v.print ++ [.char '\n']

/-- The body that submits the operations, in their order. -/
def ndjsonPoints : List Operation → Except Failure (List CodePoint)
  | [] => .ok []
  | op :: ops => do
    let lines ← op.lines
    return lines.flatMap linePoints ++ (← ndjsonPoints ops)

def ndjson (ops : List Operation) : Except Failure Text := Text.mk <$> ndjsonPoints ops

end DocumentStore.Bulk
