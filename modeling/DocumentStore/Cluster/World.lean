import DocumentStore.Bulk.Result
import DocumentStore.Cluster.Target
import DocumentStore.Search.Response

/-! The world around a client: a clock, a network that answers requests, and the log of what has happened. -/

namespace DocumentStore

namespace Cluster

structure Request where
  endpoint : String
  method : String
  target : String
  payload : Option Payload
  deriving DecidableEq, Repr

/-- What comes back for a request: a status with a body, or no answer at all. -/
inductive Answer where
  | response (status : Json) (body : Payload)
  | failure (e : TransportError)

/-- How the nodes behave: what they answer to a request after others, and how long it takes them, if any time at
all. -/
structure Network where
  respond : List Request → Request → Answer
  elapsed : List Request → Request → Option Quantity := fun _ _ => none

end Cluster

/-- What an operation gives back to whoever asked for it. -/
inductive Reply where
  | nothing
  | flag (b : Bool)
  | text (s : String)
  | value (v : Json)
  | batch (r : Bulk.Result)
  | hit (h : SearchHit)
  | response (r : SearchResponse)
  | replies (rs : List Reply)
  | noTimer

inductive Event where
  | request (r : Cluster.Request)
  | close (endpoint : String)
  | sleep (seconds : Quantity)
  | batchStarts (number : Nat) (ops : List Bulk.Operation)
  | batchSubmitted (number attempt : Nat) (ops : List Bulk.Operation)
  | batchEnds (number : Nat) (r : Bulk.Result)
  | batchFails (number : Nat) (ops : List Bulk.Operation) (cause : BatchCause)
  | timerStarts
  | timerJoined (timeout : Json)
  | waits (seconds : Quantity)
  | step (outcome : Except Failure Reply)

structure World where
  clock : Quantity
  network : Cluster.Network
  log : List Event := []
  /-- The longest time in seconds that the system can wait for, if there is one. -/
  longestWait : Option Quantity := none

namespace World

def record (w : World) (e : Event) : World := { w with log := w.log ++ [e] }

/-- Lets time pass. -/
def advance (w : World) (seconds : Quantity) : Except Failure World := do
  return { w with clock := ← w.clock.add seconds }

/-- The requests sent so far, in their order. -/
def requests (w : World) : List Cluster.Request :=
  w.log.filterMap fun
    | .request r => some r
    | _ => none

/-- Sends a request and waits for what comes back; time that the clock cannot count does not pass. -/
def send (w : World) (r : Cluster.Request) : Cluster.Answer × World :=
  let earlier := w.requests
  let clock := ((w.network.elapsed earlier r).bind w.clock.add?).getD w.clock
  (w.network.respond earlier r, { w.record (.request r) with clock })

/-- The longest wait of a system that counts nanoseconds in 64 bits: the last binary64 number before they end. -/
def usualLongestWait : Quantity := .float 9223372036.854774

/-- Why a system cannot wait for some time, if it cannot: the time is beyond what it counts, on either side of zero, or is no
number. -/
def refusal? (longestWait : Option Quantity) (seconds : Quantity) : Option Misuse :=
  longestWait.bind fun longest =>
    if seconds.isNaN then some .negativePause
    else if longest.lt seconds || seconds.lt longest.neg then some .outOfRange
    else none

/-- Waits for something that may happen, for so long at most. -/
def await (w : World) (seconds : Quantity) : Except Failure Unit :=
  match refusal? w.longestWait seconds with
  | some m => .error (.misuse m)
  | none => .ok ()

/-- Waits for something that is going to happen: for so long at most, or for good. A negative time is none. -/
def awaitEnd (w : World) : Json → Except Failure Unit
  | .null => .ok ()
  | timeout =>
    if w.longestWait.isNone then .ok ()
    else do w.await ((← Quantity.require timeout).max (.int 0))

/-- Lets time pass in a pause, which cannot be negative. -/
def pause (w : World) (seconds : Quantity) : Except Failure Unit × World :=
  match refusal? w.longestWait seconds with
  | some m => (.error (.misuse m), w)
  | none =>
    if seconds.lt (.int 0) then (.error (.misuse .negativePause), w)
    else
      let w := w.record (.sleep seconds)
      match w.advance seconds with
      | .ok w => (.ok (), w)
      | .error f => (.error f, w)

end World

namespace Cluster

/-- A network that plays back answers: each endpoint with a list of its own goes through that list and repeats
its end, all others share one list, and `default` follows when that is used up. -/
def Network.playback (perEndpoint : List (String × List Answer)) (shared : List Answer) (default : Answer) :
    Network where
  respond earlier r :=
    match perEndpoint.lookup r.endpoint with
    | some answers =>
      let n := earlier.countP (·.endpoint = r.endpoint)
      (answers[n]?.or answers.getLast?).getD default
    | none =>
      let n := earlier.countP fun e => (perEndpoint.lookup e.endpoint).isNone
      shared[n]?.getD default

end Cluster

end DocumentStore
