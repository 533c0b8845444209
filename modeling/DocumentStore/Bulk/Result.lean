import DocumentStore.Bulk.Operation

/-! What became of the operations of a batch. -/

namespace DocumentStore.Bulk

/-- An operation that failed for good. -/
structure ErrorItem where
  index : Json
  id : Json
  verb : Verb
  status : Json
  errorType : Json
  errorReason : Json

structure Result where
  total : Int := 0
  success : Int := 0
  failed : Int := 0
  retried : Int := 0
  errors : List ErrorItem := []
  took : Quantity := .float 0.0

def Result.isSuccess (r : Result) : Bool := r.failed = 0

/-- How many errors a summary lists. -/
def listedErrors : Nat := 10

def errorLine (number : Nat) (e : ErrorItem) : String :=
  toString number ++ ". [" ++ e.verb.name ++ "] Index: " ++ e.index.display ++ ", DocID: " ++ e.id.display ++
    ", Status: " ++ e.status.display ++ ", Type: " ++ e.errorType.display ++
    ", Reason: " ++ e.errorReason.display ++ "\n"

/-- The first of some errors in a line each, and how many there are. -/
def errorSummary (errors : List ErrorItem) : String :=
  if errors.isEmpty then "No errors"
  else
    let listed := (errors.take listedErrors).zipIdx 1
    let more :=
      if listedErrors < errors.length then
        "... and " ++ toString (errors.length - listedErrors) ++ " more errors\n"
      else ""
    "Total errors: " ++ toString errors.length ++ "\n" ++
      String.join (listed.map fun (e, n) => errorLine n e) ++ more

/-- A result as it is handed on, with counts that anybody may have set. -/
structure Report where
  total : Json := .int 0
  success : Json := .int 0
  failed : Json := .int 0
  retried : Json := .int 0
  errors : List ErrorItem := []
  took : Quantity := .float 0.0

def Report.isSuccess (r : Report) : Bool := r.failed.sameScalar (.int 0)

def Report.summary (r : Report) : String := errorSummary r.errors

def Result.report (r : Result) : Report :=
  ⟨.int r.total, .int r.success, .int r.failed, .int r.retried, r.errors, r.took⟩

/-- The part of an answer's item that reports on the operation, whatever the action is called there. -/
def reportOf : Json → Json
  | .obj ((_, v) :: _) => v
  | _ => .obj []

/-- The error that an item of an answer reports of an operation, if it reports one. -/
def itemError (op : Operation) (item : Json) : Except Failure (Option ErrorItem) :=
  match reportOf item with
  | .obj report =>
    let field (key : Text) (default : Json) := (Json.lookupField report key).getD default
    let error := field "error" .null
    if error.truthy then
      let (errorType, errorReason) := match error with
        | .obj fs =>
          ((Json.lookupField fs "type").getD (.str "unknown"), (Json.lookupField fs "reason").getD (.str ""))
        | e => (.str "unknown", .str e.display)
      .ok (some {
        index := field "_index" op.index
        id := field "_id" op.id
        verb := op.verb
        status := field "status" (.int 0)
        errorType, errorReason })
    else .ok none
  | _ => .error (.misuse .noMember)

/-- The operations for which an answer reports an error; its items stand in the order of the operations. -/
def failuresOf : List Operation → List Json → Except Failure (List (Operation × ErrorItem))
  | op :: ops, item :: items => do
    let error ← itemError op item
    let rest ← failuresOf ops items
    return (error.map (op, ·)).toList ++ rest
  | _, _ => .ok []

/-- The items of an answer that reports errors, one for each submitted operation. An answer that reports no errors
need not have items. -/
def reportedItems (submitted : Nat) (answer : String) : Except Failure (Option (List Json)) := do
  let document ← Document.parse (.text answer)
  match ← document.readOptional "$.errors" (.bool false) (.one .bool) with
  | .bool true =>
    match ← document.read "$.items" (.one .list) with
    | .arr items =>
      if items.length = submitted then return some items
      else throw (.read (.itemCount items.length submitted))
    | _ => return none
  | _ => return none

/-- The operations that failed according to the answer to their submission. -/
def readFailures (ops : List Operation) (answer : String) : Except Failure (List (Operation × ErrorItem)) := do
  match ← reportedItems ops.length answer with
  | some items => failuresOf ops items
  | none => return []

end DocumentStore.Bulk
