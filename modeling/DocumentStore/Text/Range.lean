/-! Sets of characters as ranges of their numbers. -/

namespace DocumentStore.Text

/-- Whether a character lies in one of some ranges, both ends included. -/
def inRanges (ranges : Array (Nat × Nat)) (c : Char) : Bool :=
  ranges.any fun (lo, hi) => lo ≤ c.toNat && c.toNat ≤ hi

/-- Whether a character lies in one of some runs: first, last, and the step from one to the next. -/
def inRuns (runs : Array (Nat × Nat × Nat)) (c : Char) : Bool :=
  runs.any fun (lo, hi, step) => lo ≤ c.toNat && c.toNat ≤ hi && (c.toNat - lo) % step = 0

/-- The value of the range that a character lies in. -/
def valueIn? {α : Type} (ranges : Array (Nat × Nat × α)) (c : Char) : Option α :=
  (ranges.find? fun (lo, hi, _) => lo ≤ c.toNat && c.toNat ≤ hi).map (·.2.2)

end DocumentStore.Text
