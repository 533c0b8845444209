import DocumentStore.Quantity.Power

/-! When an operation that was rejected is submitted again, and after what delay. -/

namespace DocumentStore.Bulk

/-- The error type of a write that the store had no room to queue. -/
def rejectedExecution : String := "es_rejected_execution_exception"

structure RetryPolicy where
  maxRetries : Quantity := .int 3
  retryDelay : Quantity := .float 1.0
  backoffFactor : Json := .float 1.0
  retryableErrors : List Json := [.str rejectedExecution]

namespace RetryPolicy

/-- The policy with the given limits, if they are limits. -/
def build (maxRetries retryDelay backoffFactor retryableErrors : Json) : Except Failure RetryPolicy := do
  let maxRetries ← Quantity.require maxRetries
  if maxRetries.lt (.int 0) then throw (Failure.about (.bulk (.invalid (.below "max_retries" 0 maxRetries))) maxRetries)
  let retryDelay ← Quantity.require retryDelay
  if retryDelay.lt (.int 0) then throw (Failure.about (.bulk (.invalid (.below "retry_delay" 0 retryDelay))) retryDelay)
  match retryableErrors.elements? with
  | none => throw (.misuse .wrongKind)
  | some errors =>
    if errors.all Json.isScalar then
      return { maxRetries, retryDelay, backoffFactor, retryableErrors := distinctScalars errors }
    else throw (.misuse .wrongKind)

def keys : List Text := ["max_retries", "retry_delay", "backoff_factor", "retryable_errors"]

/-- The policy that some fields describe; what they leave out is as usual. -/
def ofFields (fields : List (Text × Json)) : Except Failure RetryPolicy :=
  let field (key : Text) (default : Json) := (Json.lookupField fields key).getD default
  if fields.any fun f => !keys.contains f.1 then .error (.misuse .wrongKind)
  else build (field "max_retries" (.int 3)) (field "retry_delay" (.float 1.0))
    (field "backoff_factor" (.float 1.0)) (field "retryable_errors" (.arr [.str rejectedExecution]))

/-- The error types in ascending order. Texts compare with texts and numbers with numbers, nothing else does. -/
def sortedErrors (p : RetryPolicy) : Except Failure (List Json) :=
  let errors := p.retryableErrors
  if errors.length ≤ 1 then .ok errors
  else if errors.all (·.kind = .str) then .ok (errors.mergeSort fun a b => a.display ≤ b.display)
  else do return (((← errors.mapM Quantity.require).mergeSort Quantity.le).map Quantity.toJson)

/-- Whether an operation that failed for the `attempt`-th time, counted from zero, is submitted again. -/
def shouldRetry (p : RetryPolicy) (attempt : Quantity) (errorType : Json) : Except Failure Bool :=
  if attempt.lt p.maxRetries then
    if errorType.isScalar then .ok (p.retryableErrors.any (·.sameScalar errorType))
    else .error (.misuse .wrongKind)
  else .ok false

/-- The delay before the `attempt`-th retry, counted from one: it grows by the factor from each to the next. -/
def delay (p : RetryPolicy) (attempt : Quantity) : Except Failure Quantity := do
  let growths := (← attempt.sub (.int 1)).max (.int 0)
  let factor ← Quantity.require p.backoffFactor
  match factor.pow growths with
  | .real power => requireInRange (p.retryDelay.mul? power)
  | .notReal => do
    discard (requireInRange p.retryDelay.inRange?)
    throw (.misuse .wrongKind)
  | .outOfRange => throw (.misuse .outOfRange)

end RetryPolicy

end DocumentStore.Bulk
