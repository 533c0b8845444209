import DocumentStore.Bulk.Processor
import DocumentStore.Proofs.Cluster.Frame
import DocumentStore.Proofs.Cluster.Waiting
import DocumentStore.Proofs.Effect

/-! What the listener of a processor hears of a batch: that it starts, and then how it ends, if it ends in a way
that the processor expects. The submissions in between are quiet. -/

namespace DocumentStore

/-- The events that are told to a listener. -/
def Event.heard : Event → Bool
  | .batchStarts .. | .batchEnds .. | .batchFails .. => true
  | _ => false

namespace Bulk.Writer

open Effect

/-- All that the listener has been told, in order. -/
def heard (w : Writer) : List Event := w.cluster.world.log.filter Event.heard

/-- From `v` to `w` nobody is told anything, and the processor stays as it is. -/
structure Quiet (v w : Writer) : Prop where
  processor : w.processor = v.processor
  heard : w.heard = v.heard

instance : Std.Refl Quiet := ⟨fun _ => ⟨rfl, rfl⟩⟩

instance : IsTrans Writer Quiet :=
  ⟨fun _ _ _ h₁ h₂ => ⟨h₂.processor.trans h₁.processor, h₂.heard.trans h₁.heard⟩⟩

theorem quiet_of_log {v w : Writer} (hp : w.processor = v.processor) (es : List Event)
    (hl : w.cluster.world.log = v.cluster.world.log ++ es) (hes : ∀ e ∈ es, e.heard = false) : Quiet v w := by
  refine ⟨hp, ?_⟩
  have : es.filter Event.heard = [] := by simpa [List.filter_eq_nil_iff] using hes
  simp only [heard, hl, List.filter_append, this, List.append_nil]

theorem record_runOn (e : Event) (w : Writer) :
    (record e).runOn w = (.ok (), { w with cluster := { w.cluster with world := w.cluster.world.record e } }) := rfl

theorem keeps_record {e : Event} (he : e.heard = false) : Keeps Quiet (record e) := by
  intro w
  exact quiet_of_log rfl [e] rfl (by simpa using he)

theorem keeps_post (body : Text) : Keeps Quiet (post body) := by
  intro w
  obtain ⟨rs, hrs⟩ := (Cluster.call_advances w.cluster "POST" (some "_bulk") (.lines body) []).log
  exact quiet_of_log rfl _ hrs (by simp [Event.heard])

theorem keeps_pause (seconds : Quantity) : Keeps Quiet (pause seconds) := by
  intro w
  unfold pause
  rw [runOn_ofStep]
  obtain ⟨m, hpause⟩ | ⟨m, hpause⟩ | ⟨clock, -, hpause⟩ := w.cluster.world.pause_cases seconds <;> rw [hpause]
  · exact refl w
  · exact quiet_of_log rfl [.sleep seconds] rfl (by simp [Event.heard])
  · exact quiet_of_log rfl [.sleep seconds] rfl (by simp [Event.heard])

section submit

variable {R : Writer → Writer → Prop} [Std.Refl R] [IsTrans Writer R]
  (hrecord : ∀ number attempt ops, Keeps R (record (.batchSubmitted number attempt ops)))
  (hpost : ∀ body, Keeps R (post body)) (hpause : ∀ seconds, Keeps R (pause seconds))

include hrecord hpost in
theorem keeps_submitOnce (number attempt : Nat) (ops : List Operation) (result : Result) :
    Keeps R (submitOnce number attempt ops result) :=
  (keeps_ofExcept _).bind fun body => (hrecord number attempt ops).bind fun _ => (hpost body).bind fun _ =>
    keeps_get.bind fun _ => keeps_ofExcept _

include hpause in
theorem keeps_awaitRetry (attempt : Nat) : Keeps R (awaitRetry attempt) :=
  keeps_get.bind fun _ => (keeps_ofExcept _).bind fun _ => (keeps_ofExcept _).bind fun _ => hpause _

include hrecord hpost hpause in
/-- The submissions of a batch leave no relation that their requests, pauses and records do not leave. -/
theorem keeps_submit (number left attempt : Nat) (ops : List Operation) (result : Result) :
    Keeps R (submit number left attempt ops result) := by
  induction left generalizing attempt ops result with
  | zero => exact (keeps_submitOnce hrecord hpost _ _ _ _).map _
  | succ left ih =>
    refine (keeps_submitOnce hrecord hpost _ _ _ _).bind fun (again, result) => ?_
    simp only
    split_ifs
    · exact keeps_pure _
    · exact (keeps_awaitRetry hpause _).bind fun _ => ih _ _ _

end submit

/-- Whatever is submitted, the listener hears nothing of it. -/
theorem quiet_submit (number left attempt : Nat) (ops : List Operation) (result : Result) :
    Keeps Quiet (submit number left attempt ops result) :=
  keeps_submit (fun _ _ _ => keeps_record rfl) keeps_post keeps_pause number left attempt ops result

end Bulk.Writer

end DocumentStore
