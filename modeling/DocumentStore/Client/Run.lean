import DocumentStore.Bulk.Run
import DocumentStore.Client.Basic

/-! Runs of a client: what its users ask of it, one thing after the other. -/

namespace DocumentStore.Client

mutual

inductive Command where
  | start
  | close
  | majorVersion
  | version
  | createIndex (index : Json) (lenient : Bool) (settings : Json)
  | indexExists (index : Json)
  | pipelineExists (name : Json)
  | waitForHealth (index timeout : Json)
  | refresh (index : Json)
  | deleteIndex (index : Json)
  | createIndices
  | index (index id body pipeline : Json)
  | indexSingle (index id : Json) (document : Cluster.Body) (pipeline : Json)
  | delete (index id : Json)
  | deleteSingle (index id : Json)
  | documentExists (index id : Json)
  | read (index id : Json)
  | search (r : SearchRequest)
  | bulk (operations : Json)
  | flush
  | request (method path : Json) (body : Cluster.Body) (params : Json)
  | advance (seconds : Json)
  | within (commands : List Command)
  | timer (pauses : List Pause)
  /-- A command that cannot be asked for. -/
  | refused (f : Failure)
  deriving Inhabited

/-- A sleep of the flush timer: how long it really takes, if not as long as meant, and what is asked
meanwhile. -/
inductive Pause where
  | mk (seconds : Option Json) (commands : List Command)

end

def modifyWorld (f : World → World) : Effect Client Unit :=
  modifyThe Client fun c => { c with cluster := { c.cluster with world := f c.cluster.world } }

def advance (seconds : Json) : Effect Client Unit := do
  let q ← Effect.ofExcept (Quantity.require seconds)
  let world ← Effect.ofExcept ((← getThe Client).cluster.world.advance q)
  modifyWorld fun _ => world

/-- A command that does nothing but one thing and gives nothing back. -/
def silently (e : Effect Client Unit) : Effect Client Reply := do
  e
  return .nothing

def isProcessorClosed (c : Client) : Bool := (c.processor.map (·.closed)).getD true

/-- The interval of the flush timer, if there is one. -/
def timerInterval? (c : Client) : Option Quantity :=
  match c.processor with
  | some p => if p.timer then p.flushInterval else none
  | none => none

mutual

def run : Command → Effect Client Reply
  | .start => do
    start
    return .flag true
  | .close => silently close
  | .majorVersion => do
    match (← getThe Client).majorVersion with
    | some v => return .text v
    | none => return .nothing
  | .version => do return .text (← version)
  | .createIndex index lenient settings => do return .flag (← createIndex index lenient settings)
  | .indexExists index => do return .flag (← indexExists index)
  | .pipelineExists name => do return .flag (← pipelineExists name)
  | .waitForHealth index timeout => do return .value (← waitForHealth index timeout)
  | .refresh index => silently (refresh index)
  | .deleteIndex index => silently (deleteIndex index)
  | .createIndices => silently createIndices
  | .index target id body pipeline => silently (index target id body pipeline)
  | .indexSingle target id document pipeline => do return .text (← indexSingle target id document pipeline)
  | .delete target id => silently (delete target id)
  | .deleteSingle target id => silently (deleteSingle target id)
  | .documentExists target id => do return .flag (← documentExists target id)
  | .read target id => do return .hit (← read target id)
  | .search r => do return .response (← search r)
  | .bulk operations => do return .text (← bulk operations)
  | .flush => do return Bulk.Writer.replyOf (← flush)
  | .request method path body params => do return .text (← request method path body params)
  | .advance seconds => silently (advance seconds)
  | .within commands => do
    return .replies (← (runInOrder commands).andFinally close)
  | .timer pauses => do
    match timerInterval? (← getThe Client) with
    | some interval => silently (runTimer interval pauses)
    | none => throw (.misuse .noMember)
  | .refused f => throw f

/-- The replies to some commands; the first that fails ends them. -/
def runInOrder : List Command → Effect Client (List Reply)
  | [] => return []
  | c :: cs => do
    let r ← run c
    return r :: (← runInOrder cs)

/-- The flush timer at work: it sleeps and wakes until the processor is closed or the pauses are used up. -/
def runTimer (interval : Quantity) : List Pause → Effect Client Unit
  | [] => discard (onProcessor (Bulk.Writer.timerSleeps interval))
  | pause :: pauses => do
    let wait ← onProcessor (Bulk.Writer.timerSleeps interval)
    if isProcessorClosed (← getThe Client) then return
    runPause wait pause
    if isProcessorClosed (← getThe Client) then return
    onProcessor (Bulk.Writer.timerWakes interval)
    runTimer interval pauses

def runPause (wait : Quantity) : Pause → Effect Client Unit
  | .mk seconds commands => do
    advance (seconds.getD wait.toJson)
    runAll commands

def runAll : List Command → Effect Client Unit
  | [] => return
  | c :: cs => do
    let r ← (run c).outcome
    modifyWorld (·.record (.step r))
    runAll cs

end

end DocumentStore.Client
