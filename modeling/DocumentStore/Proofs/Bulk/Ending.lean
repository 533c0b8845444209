import DocumentStore.Proofs.Bulk.Notice
import DocumentStore.Proofs.Quantity

/-! How a batch ends. It comes to a result, or it is abandoned for a cause that the processor expects and reports,
or a failure escapes that nobody reports. -/

namespace DocumentStore.Bulk

inductive Ending where
  | finished (r : Result)
  | abandoned (cause : BatchCause)
  | escaped (f : Failure)

namespace Ending

/-- What whoever has flushed the queue gets. -/
def outcome (number : Nat) : Ending → Except Failure Result
  | finished r => .ok r
  | abandoned cause => .error (.bulk (.batch number cause))
  | escaped f => .error f

/-- How the listener hears of the end. -/
def report (number : Nat) (ops : List Operation) : Ending → List Event
  | finished r => [.batchEnds number r]
  | abandoned cause => [.batchFails number ops cause]
  | escaped _ => []

/-- All that the listener hears of the batch. -/
def notices (number : Nat) (ops : List Operation) (e : Ending) : List Event :=
  .batchStarts number ops :: e.report number ops

end Ending

namespace Writer

open Effect

theorem now_runOn (w : Writer) : now.runOn w = (.ok w.cluster.world.clock, w) := rfl

/-- The state after an event that only a listener makes worth recording. -/
def told (e : Event) (w : Writer) : Writer :=
  if w.processor.listening then
    { w with cluster := { w.cluster with world := w.cluster.world.record e } }
  else w

theorem notify_runOn (e : Event) (w : Writer) : (notify e).runOn w = (.ok (), told e w) := by
  unfold notify told
  rw [runOn_bind_ok (runOn_get w)]
  split_ifs <;> rfl

@[simp] theorem told_processor (e : Event) (w : Writer) : (told e w).processor = w.processor := by
  unfold told
  split_ifs <;> rfl

theorem told_log (e : Event) (w : Writer) :
    (told e w).cluster.world.log = w.cluster.world.log ++ if w.processor.listening then [e] else [] := by
  unfold told
  split_ifs
  · rfl
  · exact (List.append_nil _).symm

theorem told_heard {e : Event} (he : e.heard = true) (w : Writer) :
    (told e w).heard = w.heard ++ if w.processor.listening then [e] else [] := by
  unfold heard
  rw [told_log, List.filter_append]
  split_ifs <;> simp [he]

theorem timeTaken_binary {start now : Quantity} (hstart : start.Binary) (hnow : now.Binary) (r : Result) :
    ∃ took, timeTaken start now r = .ok took := by
  obtain ⟨s, rfl⟩ := hstart
  obtain ⟨t, rfl⟩ := hnow
  refine ⟨.float (t - s), ?_⟩
  unfold timeTaken
  rw [Quantity.sub_binary]
  cases r.isSuccess <;> rfl

/-- The end of a batch whose submissions came to `r` between two instants. -/
def endingOf (start now : Quantity) : Except Failure Result → Ending
  | .ok result =>
    match timeTaken start now result with
    | .ok took => .finished { result with took }
    | .error f => .escaped f
  | .error f =>
    match causeOf f with
    | some cause => .abandoned cause
    | none => .escaped f

/-- The submissions of a batch, after its listener has heard that it starts. -/
def submissions (number : Nat) (ops : List Operation) (w : Writer) : Except Failure Result × Writer :=
  (submit number w.processor.policy.maxRetries.ceil 0 ops { total := ops.length }).runOn
    (told (.batchStarts number ops) w)

def ending (number : Nat) (ops : List Operation) (w : Writer) : Ending :=
  endingOf w.cluster.world.clock (submissions number ops w).2.cluster.world.clock (submissions number ops w).1

/-- Carrying out a batch is to submit it and to tell how that ended. -/
theorem execute_runOn (number : Nat) (ops : List Operation) (w : Writer) :
    (execute number ops).runOn w =
      ((ending number ops w).outcome number,
        ((ending number ops w).report number ops).foldl (fun v e => told e v) (submissions number ops w).2) := by
  have hclock : (told (.batchStarts number ops) w).cluster.world.clock = w.cluster.world.clock := by
    unfold told
    split_ifs <;> rfl
  unfold ending execute
  rw [runOn_bind_ok (notify_runOn _ w), runOn_bind_ok (now_runOn _), runOn_bind_ok (runOn_get _), hclock]
  simp only [told_processor]
  rcases hs : submissions number ops w with ⟨r, v⟩
  unfold submissions at hs
  rw [runOn_bind_ok (runOn_outcome _ _), hs]
  cases r with
  | ok result =>
    simp only [endingOf]
    rw [runOn_bind_ok (now_runOn v)]
    rcases timeTaken w.cluster.world.clock v.cluster.world.clock result with f | took
    · rfl
    · rw [runOn_bind_ok (runOn_ofExcept _ v), runOn_bind_ok (notify_runOn _ v)]
      rfl
  | error f =>
    simp only [endingOf]
    cases causeOf f with
    | none => rfl
    | some cause =>
      rw [runOn_bind_ok (notify_runOn _ v)]
      rfl

theorem foldl_told_processor (es : List Event) (w : Writer) :
    (es.foldl (fun v e => told e v) w).processor = w.processor := by
  induction es generalizing w with
  | nil => rfl
  | cons e es ih => rw [List.foldl_cons, ih, told_processor]

theorem foldl_told_log (es : List Event) (w : Writer) :
    (es.foldl (fun v e => told e v) w).cluster.world.log =
      w.cluster.world.log ++ if w.processor.listening then es else [] := by
  induction es generalizing w with
  | nil => simp
  | cons e es ih =>
    rw [List.foldl_cons, ih, told_processor, told_log]
    split_ifs <;> simp

theorem foldl_told_heard {es : List Event} (hes : ∀ e ∈ es, e.heard = true) (w : Writer) :
    (es.foldl (fun v e => told e v) w).heard = w.heard ++ if w.processor.listening then es else [] := by
  unfold heard
  rw [foldl_told_log, List.filter_append]
  split_ifs
  · rw [List.filter_eq_self.2 hes]
  · rfl

theorem report_heard (number : Nat) (ops : List Operation) (e : Ending) :
    ∀ n ∈ e.report number ops, n.heard = true := by
  cases e <;> simp [Ending.report, Event.heard]

theorem submissions_quiet (number : Nat) (ops : List Operation) (w : Writer) :
    Quiet (told (.batchStarts number ops) w) (submissions number ops w).2 :=
  quiet_submit _ _ _ _ _ _

theorem execute_processor (number : Nat) (ops : List Operation) (w : Writer) :
    ((execute number ops).runOn w).2.processor = w.processor := by
  rw [execute_runOn, foldl_told_processor, (submissions_quiet number ops w).processor, told_processor]

/-- All that is heard of a batch is that it starts and, right after that, how it ended. -/
theorem execute_heard (number : Nat) (ops : List Operation) (w : Writer) :
    ((execute number ops).runOn w).2.heard =
      w.heard ++ if w.processor.listening then (ending number ops w).notices number ops else [] := by
  have hq := submissions_quiet number ops w
  rw [execute_runOn, foldl_told_heard (report_heard number ops _), hq.heard, hq.processor, told_processor,
    told_heard (e := .batchStarts number ops) rfl]
  split_ifs <;> simp [Ending.notices]

end Writer

end DocumentStore.Bulk
