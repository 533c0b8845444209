import DocumentStore.Bulk.Processor

/-! Runs of a processor: what its users ask of it, and what goes on while its timer sleeps. -/

namespace DocumentStore.Bulk

mutual

inductive Command where
  | add (op : Operation)
  | addAll (ops : List Operation)
  | flush
  | close (timeout : Json)
  | start
  | within (ops : List Operation)
  | advance (seconds : Json)
  | timer (pauses : List Pause)
  /-- A command that cannot be asked for. -/
  | refused (f : Failure)
  deriving Inhabited

/-- A sleep of the timer: how long it really takes, if not as long as meant, and what is asked meanwhile. -/
inductive Pause where
  | mk (seconds : Option Json) (commands : List Command)

end

namespace Writer

def replyOf : Option Result → Reply
  | some r => .batch r
  | none => .nothing

mutual

def run : Command → Effect Writer Reply
  | .add op => do
    add (← Effect.ofExcept op.validate)
    return .nothing
  | .addAll ops => do
    addAll ops
    return .nothing
  | .flush => do return replyOf (← flush)
  | .close timeout => do return replyOf (← close timeout)
  | .start => do
    start
    return .flag true
  | .within ops => do
    start
    (addAll ops).andFinally (discard (close .null))
    return .nothing
  | .advance seconds => do
    advance (← Effect.ofExcept (Quantity.require seconds))
    return .nothing
  | .timer pauses => do
    let p := (← get).processor
    match p.timer, p.flushInterval with
    | true, some interval => do
      runTimer interval pauses
      return .nothing
    | _, _ => return .noTimer
  | .refused f => throw f

/-- The timer at work: it sleeps and wakes until the processor is closed or the pauses are used up. -/
def runTimer (interval : Quantity) : List Pause → Effect Writer Unit
  | [] => discard (timerSleeps interval)
  | pause :: pauses => do
    let wait ← timerSleeps interval
    if (← get).processor.closed then return
    runPause wait pause
    if (← get).processor.closed then return
    timerWakes interval
    runTimer interval pauses

def runPause (wait : Quantity) : Pause → Effect Writer Unit
  | .mk seconds commands => do
    advance (← Effect.ofExcept (Quantity.require (seconds.getD wait.toJson)))
    runAll commands

def runAll : List Command → Effect Writer Unit
  | [] => return
  | c :: cs => do
    record (.step (← (run c).outcome))
    runAll cs

end

end Writer

end DocumentStore.Bulk
