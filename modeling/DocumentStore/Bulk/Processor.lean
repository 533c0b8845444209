import DocumentStore.Bulk.Result
import DocumentStore.Bulk.RetryPolicy
import DocumentStore.Cluster.Basic
import DocumentStore.Effect

/-! A queue of writes that is submitted in batches: when enough of them wait, when the time since the last
flush is up, or on demand. Rejected operations of a batch are submitted again, by themselves. -/

namespace DocumentStore

/-- The first whole number that is not less than a quantity; an infinity counts as the first power of two
beyond the binary64 numbers. -/
def Quantity.ceil : Quantity → Nat
  | .float x =>
    match Decimal.Binary.ofFloat? x with
    | some b =>
      if b.negative then 0
      else if 0 ≤ b.exponent then b.mantissa * Nat.pow 2 b.exponent.toNat
      else (b.mantissa + Nat.pow 2 (-b.exponent).toNat - 1) / Nat.pow 2 (-b.exponent).toNat
    | none => if x.isNaN || x < 0.0 then 0 else Nat.pow 2 1024
  | q => (q.toInt?.getD 0).toNat

namespace Bulk

structure Processor where
  threshold : Quantity
  flushInterval : Option Quantity
  policy : RetryPolicy
  listening : Bool
  queue : List Operation := []
  closed : Bool := false
  batches : Nat := 0
  lastFlush : Quantity
  timer : Bool := false

/-- A processor with the cluster that it writes to. -/
structure Writer where
  processor : Processor
  cluster : Cluster

/-- An empty processor, if the limits are limits that can be told. -/
def Processor.build (threshold flushInterval : Json) (policy : RetryPolicy) (listening : Bool)
    (now : Quantity) : Except Failure Processor := do
  let threshold ← Quantity.require threshold
  if threshold.lt (.int 1) then throw (Failure.about (.bulk (.invalid (.below "bulk_actions" 1 threshold))) threshold)
  let flushInterval ← match flushInterval with
    | .null => pure none
    | v => do
      let interval ← Quantity.require v
      if interval.le (.int 0) then
        throw (Failure.about (.bulk (.invalid (.notPositive "flush_interval" interval))) interval)
      pure (some interval)
  discard threshold.writable
  discard (flushInterval.mapM Quantity.writable)
  discard policy.maxRetries.writable
  return { threshold, flushInterval, policy, listening, lastFlush := now }

namespace Writer

def modifyProcessor (f : Processor → Processor) : Effect Writer Unit :=
  modify fun w => { w with processor := f w.processor }

def modifyWorld (f : World → World) : Effect Writer Unit :=
  modify fun w => { w with cluster := { w.cluster with world := f w.cluster.world } }

def advance (seconds : Quantity) : Effect Writer Unit := do
  let world ← Effect.ofExcept ((← get).cluster.world.advance seconds)
  modifyWorld fun _ => world

def record (e : Event) : Effect Writer Unit := modifyWorld (·.record e)

/-- Tells whoever listens to the processor. -/
def notify (e : Event) : Effect Writer Unit := do
  if (← get).processor.listening then record e

def now : Effect Writer Quantity := do return (← get).cluster.world.clock

def pause (seconds : Quantity) : Effect Writer Unit := .ofStep fun w =>
  let (r, world) := w.cluster.world.pause seconds
  (r, { w with cluster := { w.cluster with world } })

/-- Sends the body of a batch and gives the text of the answer. -/
def post (body : Text) : Effect Writer String := .ofStep fun w =>
  let (r, cluster) := w.cluster.call "POST" (some "_bulk") (.lines body) []
  (r, { w with cluster })

/-- The failed operations to be submitted again, and the errors of the others. -/
def divide (policy : RetryPolicy) (attempt : Nat) :
    List (Operation × ErrorItem) → Except Failure (List Operation × List ErrorItem)
  | [] => .ok ([], [])
  | (op, error) :: rest => do
    let again ← policy.shouldRetry (.int attempt) error.errorType
    let (ops, errors) ← divide policy attempt rest
    return if again then (op :: ops, errors) else (ops, error :: errors)

/-- What the answer to a submission leaves: the failed operations to be submitted again, and the result so far. -/
def settle (policy : RetryPolicy) (attempt : Nat) (ops : List Operation) (result : Result) (answer : String) :
    Except Failure (List Operation × Result) := do
  let failures ← readFailures ops answer
  let (again, errors) ← divide policy attempt failures
  return (again, { result with
    success := result.success + (ops.length - failures.length : Int)
    failed := result.failed + errors.length
    errors := result.errors ++ errors })

/-- Submits operations once. -/
def submitOnce (number attempt : Nat) (ops : List Operation) (result : Result) :
    Effect Writer (List Operation × Result) := do
  let body ← Effect.ofExcept (ndjson ops)
  record (.batchSubmitted number attempt ops)
  let answer ← post body
  Effect.ofExcept (settle (← get).processor.policy attempt ops result answer)

/-- Waits for the `attempt`-th retry. The delay is announced before it begins. -/
def awaitRetry (attempt : Nat) : Effect Writer Unit := do
  let delay ← Effect.ofExcept ((← get).processor.policy.delay (.int attempt))
  pause (← Effect.ofExcept delay.writable)

/-- Submits the operations of a batch, and after each answer those again that it rejects for a while, at most
`left` more times. -/
def submit (number : Nat) : (left attempt : Nat) → List Operation → Result → Effect Writer Result
  | 0, attempt, ops, result => Prod.snd <$> submitOnce number attempt ops result
  | left + 1, attempt, ops, result => do
    let (again, result) ← submitOnce number attempt ops result
    if again.isEmpty then return result
    else
      awaitRetry (attempt + 1)
      submit number left (attempt + 1) again { result with retried := result.retried + again.length }

/-- What abandons a batch for good, if a failure does. -/
def causeOf : Failure → Option BatchCause
  | .dispatch f => some (.dispatch f)
  | .read f => some (.read f)
  | _ => none

/-- The time that a batch took. That of a success has to be a time that can be written with two places. -/
def timeTaken (start now : Quantity) (result : Result) : Except Failure Quantity := do
  let took ← now.sub start
  if result.isSuccess then discard (requireInRange took.inRange?)
  return took

/-- Carries a batch out, and tells the listener how it ended. -/
def execute (number : Nat) (ops : List Operation) : Effect Writer Result := do
  notify (.batchStarts number ops)
  let start ← now
  let left := (← get).processor.policy.maxRetries.ceil
  match ← (submit number left 0 ops { total := ops.length }).outcome with
  | .ok result =>
    let took ← Effect.ofExcept (timeTaken start (← now) result)
    let result := { result with took }
    notify (.batchEnds number result)
    return result
  | .error f =>
    match causeOf f with
    | some cause => do
      notify (.batchFails number ops cause)
      throw (.bulk (.batch number cause))
    | none => throw f

/-- Submits what is in the queue; an empty queue is no batch. -/
def flush : Effect Writer (Option Result) := do
  let time ← now
  modifyProcessor fun p => { p with lastFlush := time }
  match (← get).processor.queue with
  | [] => return none
  | ops => do
    modifyProcessor fun p => { p with queue := [], batches := p.batches + 1 }
    return some (← execute (← get).processor.batches ops)

/-- Puts an operation into the queue, and submits the queue if it has become long enough. -/
def add (op : Operation) : Effect Writer Unit := do
  if (← get).processor.closed then throw (.bulk (.closedToAdd op.index op.id))
  modifyProcessor fun p => { p with queue := p.queue ++ [op] }
  let p := (← get).processor
  if p.threshold.le (.int p.queue.length) then discard flush

/-- Adds operations one after the other; each is checked when its turn comes. -/
def addAll : List Operation → Effect Writer Unit
  | [] => return
  | op :: ops => do
    add (← Effect.ofExcept op.validate)
    addAll ops

/-- Starts the flush timer, if there is an interval for it. -/
def start : Effect Writer Unit := do
  let p := (← get).processor
  if p.closed then throw (.bulk .closedToStart)
  if p.flushInterval.isSome && !p.timer then
    modifyProcessor fun p => { p with timer := true }
    record .timerStarts

/-- Closes the processor: stops the timer and submits what is left. Only the first time does anything. If the system
cannot wait for the timer for so long, the processor is closed, with its timer and with what is left. -/
def close (timeout : Json) : Effect Writer (Option Result) := do
  if (← get).processor.closed then return none
  modifyProcessor fun p => { p with closed := true }
  if (← get).processor.timer then
    Effect.ofExcept ((← get).cluster.world.awaitEnd timeout)
    record (.timerJoined timeout)
    modifyProcessor fun p => { p with timer := false }
  flush

/-- How long the timer waits before it looks again. -/
def timerWait (p : Processor) (interval now : Quantity) : Except Failure Quantity := do
  return Quantity.max (.float 0.0) (← (← p.lastFlush.add interval).sub now)

/-- The timer goes to sleep, for so long at most, unless the processor is closed; gives how long it means to. -/
def timerSleeps (interval : Quantity) : Effect Writer Quantity := do
  let wait ← Effect.ofExcept (timerWait (← get).processor interval (← now))
  if !(← get).processor.closed then Effect.ofExcept ((← get).cluster.world.await wait)
  record (.waits wait)
  return wait

/-- The timer wakes up: it flushes if the interval is over since the last flush, and goes on whatever comes of
it. -/
def timerWakes (interval : Quantity) : Effect Writer Unit := do
  let elapsed ← Effect.ofExcept ((← now).sub (← get).processor.lastFlush)
  if interval.le elapsed then discard flush.outcome

end Writer

end Bulk

end DocumentStore
