import DocumentStore.Proofs.Bulk.Answer
import DocumentStore.Proofs.Bulk.Body
import DocumentStore.Proofs.Bulk.Notice
import DocumentStore.Proofs.Json.Spelling

/-! One submission of the operations of a batch, and the pause before the next. A submission leads on to the operations
that its answer rejects, or it fails as the processor expects, or it slips: then the failure is none that anybody
reports. -/

namespace DocumentStore.Bulk

namespace Writer

open Effect

variable {number attempt : Nat} {ops again : List Operation} {result : Result} {w v : Writer}

theorem requests_record {w : World} {e : Event} (he : ∀ r, e ≠ .request r) : (w.record e).requests = w.requests := by
  unfold World.requests World.record
  rw [List.filterMap_append]
  cases e with
  | request r => exact absurd rfl (he r)
  | _ => exact List.append_nil _

/-- The state with one more event in the log. -/
def logged (w : Writer) (e : Event) : Writer :=
  { w with cluster := { w.cluster with world := w.cluster.world.record e } }

/-- What comes back for the body of a submission, and the cluster after that. -/
def answered (number attempt : Nat) (ops : List Operation) (body : Text) (w : Writer) :
    Except Failure String × Cluster :=
  (w.logged (.batchSubmitted number attempt ops)).cluster.call "POST" (some "_bulk") (.lines body) []

theorem submitOnce_runOn {body : Text} (h : ndjson ops = .ok body) (number attempt : Nat) (result : Result)
    (w : Writer) :
    (submitOnce number attempt ops result).runOn w =
      ((answered number attempt ops body w).1 >>= settle w.processor.policy attempt ops result,
        { w with cluster := (answered number attempt ops body w).2 }) := by
  have hpost : (post body).runOn (w.logged (.batchSubmitted number attempt ops)) =
      ((answered number attempt ops body w).1, { w with cluster := (answered number attempt ops body w).2 }) := rfl
  have hrecord : (record (.batchSubmitted number attempt ops)).runOn w =
      (.ok (), w.logged (.batchSubmitted number attempt ops)) := rfl
  unfold submitOnce
  rw [runOn_bind, runOn_ofExcept, h]
  simp only
  rw [runOn_bind_ok hrecord, runOn_bind, hpost]
  cases (answered number attempt ops body w).1 <;> rfl

theorem submitOnce_unwritable {f : Failure} (h : ndjson ops = .error f) (number attempt : Nat) (result : Result)
    (w : Writer) : (submitOnce number attempt ops result).runOn w = (.error f, w) := by
  unfold submitOnce
  rw [runOn_bind, runOn_ofExcept, h]

/-- The submission is answered in a way that leaves some operations to be submitted again. -/
def Leads (number attempt : Nat) (ops : List Operation) (w : Writer) (again : List Operation) (v : Writer) : Prop :=
  ∃ body answer items, ndjson ops = .ok body ∧ (answered number attempt ops body w).1 = .ok answer ∧
    reportedItems ops.length answer = .ok items ∧
    (∀ is ∈ items, ∀ item ∈ is, ¬Muddled w.processor.policy attempt item) ∧
    again = resubmitted w.processor.policy attempt ops items ∧
    v = { w with cluster := (answered number attempt ops body w).2 }

/-- A submission that leads on does not change how many operations the result is about. -/
theorem Leads.runOn (h : Leads number attempt ops w again v) (result : Result) :
    ∃ result', result'.total = result.total ∧
      (submitOnce number attempt ops result).runOn w = (.ok (again, result'), v) := by
  obtain ⟨body, answer, items, hbody, hanswer, hitems, hclear, rfl, rfl⟩ := h
  obtain ⟨success, failed, errors, hs⟩ := settle_clear hitems hclear result
  have hrun := submitOnce_runOn hbody number attempt result w
  rw [hanswer] at hrun
  change _ = (settle w.processor.policy attempt ops result answer, _) at hrun
  rw [hs] at hrun
  exact ⟨{ result with success, failed, errors }, rfl, hrun⟩

/-- The delay before a retry can be told, announced and slept through. -/
def Rests (attempt : Nat) (w v : Writer) : Prop :=
  ∃ delay world, w.processor.policy.delay (.int attempt) = .ok delay ∧ delay.writable = .ok delay ∧
    w.cluster.world.pause delay = (.ok (), world) ∧ v = { w with cluster := { w.cluster with world } }

theorem delay_error {policy : RetryPolicy} {attempt : Quantity} {f : Failure} (h : policy.delay attempt = .error f) :
    ∃ m, f = .misuse m := by
  unfold RetryPolicy.delay at h
  rcases except_bind_eq_error h with h | ⟨q, -, h⟩
  · exact requireInRange_error h
  rcases except_bind_eq_error h with h | ⟨factor, -, h⟩
  · unfold Quantity.require at h
    split at h <;> cases h
    exact ⟨_, rfl⟩
  split at h
  · exact requireInRange_error h
  · cases hq : requireInRange policy.retryDelay.inRange? with
    | error g =>
      rw [hq] at h
      cases h
      exact requireInRange_error hq
    | ok x =>
      rw [hq] at h
      cases h
      exact ⟨_, rfl⟩
  · cases h
    exact ⟨_, rfl⟩

theorem writable_cases (q : Quantity) : q.writable = .ok q ∨ ∃ m, q.writable = .error (.misuse m) := by
  cases h : q.isSpellable with
  | true => exact .inl (Quantity.writable_of_spellable h)
  | false => exact .inr ⟨_, Quantity.writable_of_not_spellable h⟩

theorem pause_error {w v : World} {seconds : Quantity} {f : Failure} (h : w.pause seconds = (.error f, v)) :
    ∃ m, f = .misuse m := by
  obtain ⟨m, hpause⟩ | ⟨m, hpause⟩ | ⟨clock, -, hpause⟩ := w.pause_cases seconds <;> rw [hpause] at h <;> cases h
  · exact ⟨m, rfl⟩
  · exact ⟨m, rfl⟩

theorem awaitRetry_cases (attempt : Nat) (w : Writer) :
    (∃ v, Rests attempt w v ∧ (awaitRetry attempt).runOn w = (.ok (), v)) ∨
      ((¬∃ v, Rests attempt w v) ∧
        ∃ f v, causeOf f = none ∧ (awaitRetry attempt).runOn w = (.error f, v)) := by
  unfold awaitRetry
  rw [runOn_bind_ok (runOn_get w), runOn_bind, runOn_ofExcept]
  cases hd : w.processor.policy.delay (.int attempt) with
  | error f =>
    obtain ⟨m, rfl⟩ := delay_error hd
    refine .inr ⟨fun ⟨v, delay, world, hdelay, _⟩ => ?_, _, w, rfl, rfl⟩
    rw [hd] at hdelay
    cases hdelay
  | ok delay =>
    simp only
    rw [runOn_bind, runOn_ofExcept]
    rcases writable_cases delay with hw | ⟨m, hw⟩
    · rw [hw]
      rcases hp : w.cluster.world.pause delay with ⟨f | u, world⟩
      · obtain ⟨m, rfl⟩ := pause_error hp
        refine .inr ⟨fun ⟨v, d, world', hdelay, _, hpause, _⟩ => ?_, .misuse m,
          { w with cluster := { w.cluster with world } }, rfl, by simp only [pause, runOn_ofStep, hp]⟩
        rw [hd] at hdelay
        cases hdelay
        rw [hp] at hpause
        cases hpause
      · exact .inl ⟨{ w with cluster := { w.cluster with world } }, ⟨delay, world, hd, hw, hp, rfl⟩,
          by simp only [pause, runOn_ofStep, hp]⟩
    · rw [hw]
      refine .inr ⟨fun ⟨v, d, world, hdelay, hwritable, _⟩ => ?_, _, w, rfl, rfl⟩
      rw [hd] at hdelay
      cases hdelay
      rw [hw] at hwritable
      cases hwritable

section submit

variable {result' : Result}

theorem submit_of_error (left : Nat) {f : Failure}
    (h : (submitOnce number attempt ops result).runOn w = (.error f, v)) :
    (submit number left attempt ops result).runOn w = (.error f, v) := by
  cases left with
  | zero => rw [submit, runOn_map, h]; rfl
  | succ left => rw [submit, runOn_bind_error h]

theorem submit_of_settled (h : (submitOnce number attempt ops result).runOn w = (.ok (again, result'), v))
    {left : Nat} (hdone : left = 0 ∨ again = []) :
    (submit number left attempt ops result).runOn w = (.ok result', v) := by
  cases left with
  | zero => rw [submit, runOn_map, h]; rfl
  | succ left =>
    obtain rfl : again = [] := hdone.resolve_left (Nat.succ_ne_zero left)
    rw [submit, runOn_bind_ok h]
    rfl

theorem submit_of_restless {left : Nat} {f : Failure} {u : Writer}
    (h : (submitOnce number attempt ops result).runOn w = (.ok (again, result'), v)) (hne : again ≠ [])
    (hrest : (awaitRetry (attempt + 1)).runOn v = (.error f, u)) :
    (submit number (left + 1) attempt ops result).runOn w = (.error f, u) := by
  rw [submit, runOn_bind_ok h]
  simp only [List.isEmpty_eq_false_iff.2 hne, Bool.false_eq_true, if_false]
  rw [runOn_bind_error hrest]

theorem submit_of_rested {left : Nat} {u : Writer}
    (h : (submitOnce number attempt ops result).runOn w = (.ok (again, result'), v)) (hne : again ≠ [])
    (hrest : (awaitRetry (attempt + 1)).runOn v = (.ok (), u)) :
    (submit number (left + 1) attempt ops result).runOn w =
      (submit number left (attempt + 1) again { result' with retried := result'.retried + again.length }).runOn u := by
  rw [submit, runOn_bind_ok h]
  simp only [List.isEmpty_eq_false_iff.2 hne, Bool.false_eq_true, if_false]
  rw [runOn_bind_ok hrest]

end submit

end Writer

end DocumentStore.Bulk
