import DocumentStore.Failure

/-! Computations on a state that may fail. A failure keeps the state that was reached: what has been sent has
been sent. -/

namespace DocumentStore

abbrev Effect (σ α : Type) := ExceptT Failure (StateM σ) α

namespace Effect

variable {σ τ α : Type}

/-- A step that is given by what it makes of a state. -/
def ofStep (f : σ → Except Failure α × σ) : Effect σ α := fun s => f s

/-- What a computation makes of a state. -/
def runOn (e : Effect σ α) (s : σ) : Except Failure α × σ := e s

/-- The outcome of a computation as a value; the state that it reached stays. -/
def outcome (e : Effect σ α) : Effect σ (Except Failure α) := fun s =>
  let (r, s) := e s
  (.ok r, s)

/-- A computation on a part of a state. -/
def onPart (get : σ → τ) (set : τ → σ → σ) (e : Effect τ α) : Effect σ α := fun s =>
  let (r, t) := e (get s)
  (r, set t s)

/-- A result as a computation that leaves the state alone. -/
def ofExcept (r : Except Failure α) : Effect σ α := fun s => (r, s)

/-- Runs one computation and then another, whatever the first comes to. A failure of the second hides
the outcome of the first. -/
def andFinally (e : Effect σ α) (last : Effect σ Unit) : Effect σ α := do
  let r ← e.outcome
  last
  ofExcept r

end Effect

end DocumentStore
