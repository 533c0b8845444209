import DocumentStore.Cluster.World
import DocumentStore.Node.Config
import DocumentStore.Node.Health
import DocumentStore.Text.UpperCase

/-! A fixed set of nodes that requests are spread over: where the nodes are, which of them are well, and whose
turn is next. -/

namespace DocumentStore

/-- The nodes in their order, with the number of selections made so far; the world is part of it. -/
structure Cluster where
  nodes : List Node.Config
  connection : Node.Connection
  health : Node.Health
  counter : Nat := 0
  world : World

namespace Cluster

def endpoints (c : Cluster) : List String := c.nodes.map (·.endpoint)

/-- The endpoint that an element of a list of nodes names; what counts as nothing is an address without parts. -/
def endpointOf : Json → Except Failure String
  | .str t => .ok t.toString
  | v => .error (if v.truthy then .misuse .wrongKind else .connection (.address v.display .incomplete))

/-- The elements of a list of nodes, of which there has to be one at least. -/
def nodeList (nodes : Json) : Except Failure (List Json) :=
  if !nodes.truthy then .error (.connection .noNodes)
  else
    match nodes.elements? with
    | some elements => .ok elements
    | none => .error (.misuse .wrongKind)

/-- A cluster of the given nodes, all of them taken to be well. -/
def build (nodes : List Json) (connection : Node.Connection) (options : Node.Options) (health : Option Node.Health)
    (world : World) (read : Node.AddressReader := Node.Address.parse) : Except Failure Cluster := do
  let authorization ← options.credentials.authorization
  let nodes ← nodes.mapM fun v => do Node.Config.build connection options authorization (← endpointOf v) read
  return {
    nodes, connection, world
    health := health.getD {
      failureThreshold := connection.failureThreshold
      resurrectTimeout := connection.resurrectTimeout } }

/-- The endpoints in the order in which a selection with this count looks at them. -/
def rotation (endpoints : List String) (counter : Nat) : List String :=
  let start := counter % endpoints.length
  endpoints.drop start ++ endpoints.take start

/-- Chooses the next node, and counts the selection: the first in turn that was not tried and may be asked, or
the first that was not tried if none may be asked. -/
def select (c : Cluster) (tried : List String) : Except Failure String × Cluster :=
  let candidates := (rotation c.endpoints c.counter).filter (!tried.contains ·)
  let (available, health) := c.health.firstAvailable c.world.clock candidates
  let c := { c with counter := c.counter + 1, health }
  match available with
  | .error f => (.error f, c)
  | .ok chosen =>
    match chosen.or candidates.head? with
    | some endpoint => (.ok endpoint, c)
    | none => (.error (.misuse .noCandidate), c)

def markSuccess (c : Cluster) (endpoint : String) : Cluster := { c with health := c.health.markSuccess endpoint }

def markFailure (c : Cluster) (endpoint : String) : Except Failure Unit × Cluster :=
  let (r, health) := c.health.markFailure c.world.clock endpoint
  (r, { c with health })

/-- What an attempt on one node came to: a final outcome, or a failure after which another node may be tried. -/
inductive Attempt where
  | final (outcome : Except Failure String)
  | failed (f : DispatchFailure)

/-- An attempt that counts against its node. -/
def blamed (c : Cluster) (endpoint : String) (a : Attempt) : Attempt × Cluster :=
  match c.markFailure endpoint with
  | (.ok (), c) => (a, c)
  | (.error f, c) => (.final (.error f), c)

/-- An attempt of which the status of the answer is told, if it can be. -/
def Attempt.told (status : Quantity) (a : Attempt) : Attempt :=
  if status.isSpellable then a else .final (.error (.misuse .overlongNumber))

/-- The address of a target on a node. -/
def urlOf (endpoint target : String) : String :=
  String.ofList (endpoint.toList.reverse.dropWhile (· = '/')).reverse ++ target

/-- What the status of an answer means for the request and for the health of the node. -/
def settleStatus (c : Cluster) (endpoint method url : String) (status : Quantity) (text : String) :
    Attempt × Cluster :=
  let failure blame :=
    DispatchFailure.response ⟨blame, status.toJson, .str text, .str method, .str url⟩
  let atLeast (n : Int) := (Quantity.int n).le status
  if atLeast 200 && status.lt (.int 300) then ((Attempt.final (.ok text)).told status, c.markSuccess endpoint)
  else if atLeast 500 then c.blamed endpoint ((Attempt.failed (failure .node)).told status)
  else
    let blame := if atLeast 400 then .request else .other
    ((Attempt.final (.error (.dispatch (failure blame)))).told status, c.markSuccess endpoint)

/-- What an answer means for the request and for the health of the node. -/
def settle (c : Cluster) (endpoint method url : String) : Answer → Attempt × Cluster
  | .failure e =>
    let f := DispatchFailure.transport method url endpoint e
    let again := e.kind ≠ .timeout || c.connection.retryOnTimeout.truthy
    c.blamed endpoint (if again then .failed f else .final (.error (.dispatch f)))
  | .response status body =>
    match body.text?, Quantity.ofJson? status with
    | none, _ => (.final (.error (.misuse .undecodable)), c)
    | _, none => (.final (.error (.misuse .wrongKind)), c)
    | some text, some status => c.settleStatus endpoint method url status text

/-- One attempt on one node. -/
def attempt (c : Cluster) (endpoint method target : String) (payload : Option Payload) : Attempt × Cluster :=
  let (answer, world) := c.world.send ⟨endpoint, method, target, payload⟩
  settle { c with world } endpoint method (urlOf endpoint target) answer

/-- Attempts on one node after the other, at most `more` after the first. -/
def attempts (method target : String) (payload : Option Payload) :
    (more : Nat) → (tried : List String) → Cluster → Except Failure String × Cluster
  | more, tried, c =>
    match c.select tried with
    | (.error f, c) => (.error f, c)
    | (.ok endpoint, c) =>
      match c.attempt endpoint method target payload with
      | (.final outcome, c) => (outcome, c)
      | (.failed f, c) =>
        match more with
        | 0 => (.error (.dispatch f), c)
        | more + 1 => attempts method target payload more (tried ++ [endpoint]) c

/-- How many nodes may be tried after the first. -/
def retryBudget (c : Cluster) : Except Failure Nat :=
  match (c.connection.maxRetries.min (.int (c.nodes.length - 1))).toInt? with
  | some n => .ok n.toNat
  | none => .error (.misuse .wrongKind)

/-- Sends a request to one node after the other until one answers it for good, and gives the text of the
answer. -/
def call (c : Cluster) (method : String) (path : Option Text) (body : Body) (params : Params) :
    Except Failure String × Cluster :=
  match encode path body params with
  | .error f => (.error f, c)
  | .ok (target, payload) =>
    match c.retryBudget with
    | .error f => (.error f, c)
    | .ok more => attempts (Text.upperCase method) target payload more [] c

/-- A request whose parts are values as they came: its method has to be a text, its path may be missing, and its
parameters are fields or pairs. -/
def request (c : Cluster) (method path : Json) (body : Body) (params : Json) : Except Failure String × Cluster :=
  let parts := do return (← method.requireText, ← pathOf path, ← paramsOf params)
  match parts with
  | .error f => (.error f, c)
  | .ok (method, path, params) => c.call method path body params

/-- Closes the connections to all nodes, each endpoint once. -/
def close (c : Cluster) : Cluster :=
  { c with world := c.endpoints.eraseDups.foldl (fun w e => w.record (.close e)) c.world }

end Cluster

end DocumentStore
