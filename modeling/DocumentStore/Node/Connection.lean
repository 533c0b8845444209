import DocumentStore.Failure

/-! How nodes are connected to, and how failing ones are treated. -/

namespace DocumentStore.Node

structure Connection where
  maxRetries : Quantity := .int 3
  retryOnTimeout : Json := .bool false
  requestTimeout : Quantity := .int 30
  httpCompress : Json := .bool false
  failureThreshold : Quantity := .int 3
  resurrectTimeout : Quantity := .float 60.0

namespace Connection

/-- Why fields make no connection: an unknown key, a limit that is no number, or one that is too small; but that cannot be
complained about if the limit has too many digits to be told. -/
inductive Refusal where
  | unknownKey (key : Text)
  | incomparable (k : Json.Kind)
  | invalid (f : ConnectionFailure)
  | untold

def Refusal.toFailure : Refusal → Failure
  | .unknownKey _ | .incomparable _ => .misuse .wrongKind
  | .invalid f => .connection f
  | .untold => .misuse .overlongNumber

def keys : List Text :=
  ["max_retries", "retry_on_timeout", "request_timeout", "http_compress", "failure_threshold", "resurrect_timeout"]

/-- A limit that a field sets, or its default; it must not be less than `least`. -/
def limit (fields : List (Text × Json)) (key : String) (least : Nat) (default : Quantity) :
    Except Refusal Quantity :=
  match Json.lookupField fields key with
  | none => .ok default
  | some v =>
    match Quantity.ofJson? v with
    | none => .error (.incomparable v.kind)
    | some q =>
      if !q.lt (.int least) then .ok q
      else .error (if q.isSpellable then .invalid (.below key least q) else .untold)

def ofFields (fields : List (Text × Json)) : Except Refusal Connection := do
  match fields.find? fun f => !keys.contains f.1 with
  | some (k, _) => throw (.unknownKey k)
  | none =>
    let maxRetries ← limit fields "max_retries" 0 (.int 3)
    let requestTimeout ← limit fields "request_timeout" 0 (.int 30)
    let failureThreshold ← limit fields "failure_threshold" 1 (.int 3)
    let resurrectTimeout ← limit fields "resurrect_timeout" 0 (.float 60.0)
    return {
      maxRetries, requestTimeout, failureThreshold, resurrectTimeout
      retryOnTimeout := (Json.lookupField fields "retry_on_timeout").getD (.bool false)
      httpCompress := (Json.lookupField fields "http_compress").getD (.bool false) }

def toFields (c : Connection) : List (Text × Json) := [
  ("max_retries", c.maxRetries.toJson), ("retry_on_timeout", c.retryOnTimeout),
  ("request_timeout", c.requestTimeout.toJson), ("http_compress", c.httpCompress),
  ("failure_threshold", c.failureThreshold.toJson), ("resurrect_timeout", c.resurrectTimeout.toJson)]

end Connection

end DocumentStore.Node
