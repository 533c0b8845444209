import DocumentStore.Failure

/-! Which nodes may be asked. A node that fails is suspected, one that fails too often in a row is removed, and
a removed node is tried again once its time is up. -/

namespace DocumentStore.Node

inductive State where
  | healthy | suspected | removed
  deriving DecidableEq, Repr

def State.name : State → String
  | .healthy => "healthy"
  | .suspected => "suspected"
  | .removed => "removed"

structure Status where
  state : State := .healthy
  consecutiveFailures : Nat := 0
  removedAt : Option Quantity := none

/-- The statuses of the nodes that were asked about, and the limits that change them. A limit that is no number is
none, and nothing can be compared with it. -/
structure Health where
  failureThreshold : Option Quantity := some (.int 3)
  resurrectTimeout : Option Quantity := some (.float 60.0)
  statuses : List (String × Status) := []

namespace Health

def keys : List Text := ["failure_threshold", "resurrect_timeout"]

/-- The limits that some fields describe, with no node known yet. -/
def ofFields (fields : List (Text × Json)) : Except Failure Health :=
  let limit (key : Text) (default : Quantity) :=
    match Json.lookupField fields key with
    | none => some default
    | some v => Quantity.ofJson? v
  if fields.any fun f => !keys.contains f.1 then .error (.misuse .wrongKind)
  else .ok {
    failureThreshold := limit "failure_threshold" (.int 3)
    resurrectTimeout := limit "resurrect_timeout" (.float 60.0) }

/-- The status of a node; a node not asked about before is healthy. -/
def status (h : Health) (endpoint : String) : Status := (h.statuses.lookup endpoint).getD {}

def setStatus (h : Health) (endpoint : String) (s : Status) : Health :=
  { h with statuses := putField endpoint s h.statuses }

/-- The node's state; asking makes the node known. -/
def state (h : Health) (endpoint : String) : State × Health :=
  ((h.status endpoint).state, h.setStatus endpoint (h.status endpoint))

/-- How long a node has been removed; a time of zero is as good as none. -/
def age (now : Quantity) (s : Status) : Except Failure Quantity :=
  let since := s.removedAt.getD (.float 0.0)
  now.sub (if since.isZero then .float 0.0 else since)

/-- Whether the time of a removed node is not yet up. -/
def resting (h : Health) (now : Quantity) (s : Status) : Except Failure Bool := do
  let age ← age now s
  match h.resurrectTimeout with
  | some timeout => return age.lt timeout
  | none => throw (.misuse .wrongKind)

/-- Whether a node may be asked. A removed node whose time is up may, and is suspected from then on. -/
def isAvailable (h : Health) (now : Quantity) (endpoint : String) : Except Failure Bool × Health :=
  let s := h.status endpoint
  if s.state ≠ .removed then (.ok true, h.setStatus endpoint s)
  else
    match h.resting now s with
    | .error f => (.error f, h.setStatus endpoint s)
    | .ok true => (.ok false, h.setStatus endpoint s)
    | .ok false => (.ok true, h.setStatus endpoint { s with state := .suspected, removedAt := none })

def markSuccess (h : Health) (endpoint : String) : Health := h.setStatus endpoint {}

/-- Whether it can be told for how long a node is removed. -/
def tellsTimeout (h : Health) : Bool := h.resurrectTimeout.all Quantity.isSpellable

/-- One more failure in a row; with enough of them the node is removed, from this moment on. The failure counts also where
the limit cannot be compared with, and where it cannot be told for how long the node is to be removed: it is not then. -/
def markFailure (h : Health) (now : Quantity) (endpoint : String) : Except Failure Unit × Health :=
  let s := h.status endpoint
  let s := { s with consecutiveFailures := s.consecutiveFailures + 1 }
  match h.failureThreshold with
  | none => (.error (.misuse .wrongKind), h.setStatus endpoint s)
  | some threshold =>
    if !threshold.le (.int s.consecutiveFailures) then (.ok (), h.setStatus endpoint { s with state := .suspected })
    else if s.state ≠ .removed && !h.tellsTimeout then (.error (.misuse .overlongNumber), h.setStatus endpoint s)
    else (.ok (), h.setStatus endpoint { s with state := .removed, removedAt := some now })

/-- The first of some nodes that may be asked; the nodes behind it are not asked about. -/
def firstAvailable (h : Health) (now : Quantity) : List String → Except Failure (Option String) × Health
  | [] => (.ok none, h)
  | e :: es =>
    match h.isAvailable now e with
    | (.error f, h) => (.error f, h)
    | (.ok true, h) => (.ok (some e), h)
    | (.ok false, h) => h.firstAvailable now es

end Health

end DocumentStore.Node
