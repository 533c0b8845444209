import DocumentStore.Proofs.Bulk.Fault
import DocumentStore.Proofs.Bulk.Idle

/-! What the result of a batch counts. Each operation of the batch ends up in one of two ways, by the answer to the last
submission that it is in: it has succeeded, or it is entered once as failed, with what that answer says of it. -/

namespace DocumentStore.Bulk.Writer

open Effect

variable {α : Type} {number attempt left : Nat} {op : α → Operation} {labels : List α} {w v : Writer}
  {rounds : List (List α × String)} {r result : Result}

/-- The submissions of a batch from one attempt on, each with the answer to it. What an answer has submitted again makes
up the next one, after a pause. -/
inductive Rounds (number : Nat) (op : α → Operation) :
    (attempt : Nat) → (labels : List α) → Writer → List (List α × String) → Writer → Prop
  | last {attempt : Nat} {labels : List α} {w : Writer} {body : Text} {answer : String}
    (hbody : ndjson (labels.map op) = .ok body)
    (hanswer : (answered number attempt (labels.map op) body w).1 = .ok answer)
    (hdone : readmitted w.processor.policy attempt labels answer = []) :
    Rounds number op attempt labels w [(labels, answer)]
      { w with cluster := (answered number attempt (labels.map op) body w).2 }
  | more {attempt : Nat} {labels : List α} {w u v : Writer} {body : Text} {answer : String}
    {rounds : List (List α × String)} (hbody : ndjson (labels.map op) = .ok body)
    (hanswer : (answered number attempt (labels.map op) body w).1 = .ok answer)
    (hagain : readmitted w.processor.policy attempt labels answer ≠ [])
    (hrest : Rests (attempt + 1) { w with cluster := (answered number attempt (labels.map op) body w).2 } u)
    (hmore : Rounds number op (attempt + 1) (readmitted w.processor.policy attempt labels answer) u rounds v) :
    Rounds number op attempt labels w ((labels, answer) :: rounds) v

/-- The operations that fail for good in some rounds, each with its entry. -/
def losses (policy : RetryPolicy) (op : α → Operation) : (attempt : Nat) → List (List α × String) →
    List (α × ErrorItem)
  | _, [] => []
  | attempt, (labels, answer) :: rounds =>
    entered policy attempt op labels answer ++ losses policy op (attempt + 1) rounds

/-- The result after some rounds more. -/
def tallied (policy : RetryPolicy) (op : α → Operation) (attempt : Nat) (labels : List α)
    (rounds : List (List α × String)) (result : Result) : Result :=
  let lost := losses policy op attempt rounds
  { result with
    success := result.success + (labels.length - lost.length)
    failed := result.failed + lost.length
    retried := result.retried + ((rounds.drop 1).map (·.1.length)).sum
    errors := result.errors ++ lost.map Prod.snd }

theorem submitOnce_of_ok {ops again : List Operation} {attempt : Nat} {result' : Result}
    (h : (submitOnce number attempt ops result).runOn w = (.ok (again, result'), v)) :
    ∃ body answer, ndjson ops = .ok body ∧ (answered number attempt ops body w).1 = .ok answer ∧
      settle w.processor.policy attempt ops result answer = .ok (again, result') ∧
      v = { w with cluster := (answered number attempt ops body w).2 } := by
  rcases ndjson_cases ops with ⟨-, body, hbody⟩ | ⟨-, x, hx⟩
  · rw [submitOnce_runOn hbody] at h
    obtain ⟨hfst, hsnd⟩ := Prod.mk.inj h
    obtain ⟨answer, hanswer, hsettle⟩ := except_bind_eq_ok hfst
    exact ⟨body, answer, hbody, hanswer, hsettle, hsnd.symm⟩
  · rw [submitOnce_unwritable hx] at h
    cases h

theorem Rounds.head (h : Rounds number op attempt labels w rounds v) :
    ∃ answer rest, rounds = (labels, answer) :: rest := by
  cases h <;> exact ⟨_, _, rfl⟩

theorem tallied_last {policy : RetryPolicy} {answer : String} (hdone : readmitted policy attempt labels answer = []) :
    tallied policy op attempt labels [(labels, answer)] result =
      { result with
        success := result.success + (labels.length - (readmitted policy attempt labels answer).length -
          (entered policy attempt op labels answer).length)
        failed := result.failed + (entered policy attempt op labels answer).length
        errors := result.errors ++ (entered policy attempt op labels answer).map Prod.snd } := by
  simp [tallied, losses, hdone]

theorem tallied_more {policy : RetryPolicy} {answer answer' : String} {rest : List (List α × String)} :
    tallied policy op attempt labels
        ((labels, answer) :: (readmitted policy attempt labels answer, answer') :: rest) result =
      tallied policy op (attempt + 1) (readmitted policy attempt labels answer)
        ((readmitted policy attempt labels answer, answer') :: rest)
        { result with
          success := result.success + (labels.length - (readmitted policy attempt labels answer).length -
            (entered policy attempt op labels answer).length)
          failed := result.failed + (entered policy attempt op labels answer).length
          retried := result.retried + (readmitted policy attempt labels answer).length
          errors := result.errors ++ (entered policy attempt op labels answer).map Prod.snd } := by
  unfold tallied
  rw [losses]
  simp only [List.length_append, List.map_append, List.append_assoc, List.drop_one, List.tail_cons, List.map_cons,
    List.sum_cons]
  congr 1
  · push_cast
    ring
  · push_cast
    ring
  · push_cast
    ring

theorem answered_asks {ops : List Operation} {body : Text} {answer : String}
    (h : (answered number attempt ops body w).1 = .ok answer) :
    w.cluster.world.requests.length < (answered number attempt ops body w).2.world.requests.length := by
  have hrecord : (logged w (.batchSubmitted number attempt ops)).cluster.world.requests = w.cluster.world.requests :=
    requests_record (by simp)
  rw [← hrecord]
  exact Cluster.call_asks h

/-- With as many submissions left as the policy has, or more than are made, a batch that comes to a result is over when
no operation is to be submitted again, and the result counts what the rounds have brought. -/
theorem rounds_of_submit (hleft : w.processor.policy.lasts (attempt + left) = false ∨
      v.cluster.world.requests.length ≤ w.cluster.world.requests.length + left)
    (h : (submit number left attempt (labels.map op) result).runOn w = (.ok r, v)) :
    ∃ rounds, Rounds number op attempt labels w rounds v ∧
      r = tallied w.processor.policy op attempt labels rounds result := by
  induction left generalizing attempt labels w result with
  | zero =>
    rcases hrun : (submitOnce number attempt (labels.map op) result).runOn w with ⟨f | ⟨ops, result'⟩, u⟩
    · rw [submit_of_error 0 hrun] at h
      cases h
    · rw [submit_of_settled hrun (.inl rfl)] at h
      cases h
      obtain ⟨body, answer, hbody, hanswer, hsettle, rfl⟩ := submitOnce_of_ok hrun
      obtain ⟨rfl, rfl⟩ := settle_eq hsettle
      have hlasts : w.processor.policy.lasts attempt = false := by
        refine hleft.resolve_right fun hfew => ?_
        have := answered_asks hanswer
        simp only at hfew
        omega
      have hdone : readmitted w.processor.policy attempt labels answer = [] := by
        unfold readmitted
        rw [hlasts]
        rfl
      exact ⟨[(labels, answer)], .last hbody hanswer hdone, (tallied_last hdone).symm⟩
  | succ left ih =>
    rcases hrun : (submitOnce number attempt (labels.map op) result).runOn w with ⟨f | ⟨ops, result'⟩, u⟩
    · rw [submit_of_error _ hrun] at h
      cases h
    · obtain ⟨body, answer, hbody, hanswer, hsettle, rfl⟩ := submitOnce_of_ok hrun
      obtain ⟨rfl, rfl⟩ := settle_eq hsettle
      by_cases hdone : readmitted w.processor.policy attempt labels answer = []
      · rw [submit_of_settled hrun (.inr (by rw [hdone]; rfl))] at h
        cases h
        exact ⟨[(labels, answer)], .last hbody hanswer hdone, (tallied_last hdone).symm⟩
      · have hne : (readmitted w.processor.policy attempt labels answer).map op ≠ [] := by simpa using hdone
        rcases awaitRetry_cases (attempt + 1) { w with cluster := (answered number attempt (labels.map op) body w).2 }
          with ⟨u, hrest, hwait⟩ | ⟨-, f, u, -, hwait⟩
        · rw [submit_of_rested hrun hne hwait, List.length_map] at h
          have hpolicy : u.processor.policy = w.processor.policy := hrest.idle.policy
          have hmore : u.processor.policy.lasts (attempt + 1 + left) = false ∨
              v.cluster.world.requests.length ≤ u.cluster.world.requests.length + left := by
            rw [hpolicy, hrest.idle.requests, Nat.add_assoc, Nat.add_comm 1]
            have := answered_asks hanswer
            exact hleft.imp_right fun hfew => by simp only; omega
          obtain ⟨rounds, hrounds, rfl⟩ := ih hmore h
          obtain ⟨answer', rest, rfl⟩ := hrounds.head
          refine ⟨_, .more hbody hanswer hdone hrest hrounds, ?_⟩
          rw [tallied_more, hpolicy]
        · rw [submit_of_restless hrun hne hwait] at h
          cases h

theorem Rounds.sublist (h : Rounds number op attempt labels w rounds v) : ∀ x ∈ rounds, x.1.Sublist labels := by
  induction h with
  | last hbody hanswer hdone =>
    intro x hx
    obtain rfl := List.mem_singleton.1 hx
    exact List.Sublist.refl _
  | more hbody hanswer hagain hrest hmore ih =>
    intro x hx
    rcases List.mem_cons.1 hx with rfl | hx
    · exact List.Sublist.refl _
    · exact (ih x hx).trans (readmitted_sublist ..)

/-- What the answer to the last submission of `a` comes to: no fault and no entry, or one entry that describes it. -/
structure LastWord (op : α → Operation) (rounds : List (List α × String)) (entries : List (α × ErrorItem)) (a : α)
    (before after : List (List α × String)) (submitted : List α) (answer : String) (n : Nat) : Prop where
  rounds : rounds = before ++ (submitted, answer) :: after
  place : submitted[n]? = some a
  last : ∀ x ∈ after, a ∉ x.1
  entry : (faultAt submitted.length answer n = none ∧ ∀ e, (a, e) ∉ entries) ∨
    ∃ item error e, faultAt submitted.length answer n = some (item, error) ∧ Describes (op a) item error e ∧
      ∀ e', (a, e') ∈ entries ↔ e' = e

/-- The operations that are lost are among those of the first round, and each of them is lost once. -/
theorem Rounds.losses_nodup (h : Rounds number op attempt labels w rounds v) (hnodup : labels.Nodup) :
    (∀ p ∈ losses w.processor.policy op attempt rounds, p.1 ∈ labels) ∧
      ((losses w.processor.policy op attempt rounds).map Prod.fst).Nodup := by
  induction h with
  | @last attempt labels w body answer hbody hanswer hdone =>
    have hsub := entered_sublist w.processor.policy attempt op labels answer
    rw [losses, losses, List.append_nil]
    exact ⟨fun p hp => hsub.subset (List.mem_map_of_mem hp), hnodup.sublist hsub⟩
  | @more attempt labels w u v body answer rounds hbody hanswer hagain hrest hmore ih =>
    have hsub := entered_sublist w.processor.policy attempt op labels answer
    have hagainsub := readmitted_sublist w.processor.policy attempt labels answer
    obtain ⟨hmem, hdistinct⟩ := ih (hnodup.sublist hagainsub)
    rw [hrest.idle.policy] at hmem hdistinct
    rw [losses, List.map_append]
    refine ⟨fun p hp => ?_, List.nodup_append.2 ⟨hnodup.sublist hsub, hdistinct, ?_⟩⟩
    · rcases List.mem_append.1 hp with hp | hp
      · exact hsub.subset (List.mem_map_of_mem hp)
      · exact hagainsub.subset (hmem p hp)
    · -- what is entered after this answer is not submitted again, so it cannot be lost later
      intro a ha b hb hab
      subst hab
      obtain ⟨⟨a, e⟩, he, rfl⟩ := List.mem_map.1 ha
      obtain ⟨p, hp, hpa⟩ := List.mem_map.1 hb
      have hin : a ∈ readmitted w.processor.policy attempt labels answer := by
        have := hmem p hp
        rwa [hpa] at this
      obtain ⟨n, hn⟩ := List.mem_iff_getElem?.1 (hagainsub.subset hin)
      rcases verdict_at hnodup op answer hn with ⟨-, hnone⟩ | ⟨hnot, -⟩
      · exact hnone e he
      · exact hnot hin

/-- Each operation of a batch has a last submission, and the answer to that has the last word on it. -/
theorem Rounds.lastWord (h : Rounds number op attempt labels w rounds v) (hnodup : labels.Nodup) {a : α}
    (ha : a ∈ labels) : ∃ before after submitted answer n,
      LastWord op rounds (losses w.processor.policy op attempt rounds) a before after submitted answer n := by
  induction h with
  | @last attempt labels w body answer hbody hanswer hdone =>
    obtain ⟨n, hn⟩ := List.mem_iff_getElem?.1 ha
    refine ⟨[], [], labels, answer, n, rfl, hn, by simp, ?_⟩
    rw [losses, losses, List.append_nil]
    rcases verdict_at hnodup op answer hn with ⟨hin, -⟩ | ⟨-, hverdict⟩
    · rw [hdone] at hin
      exact absurd hin List.not_mem_nil
    · exact hverdict
  | @more attempt labels w u v body answer rounds hbody hanswer hagain hrest hmore ih =>
    have hagainsub := readmitted_sublist w.processor.policy attempt labels answer
    have hnodup' := hnodup.sublist hagainsub
    obtain ⟨n, hn⟩ := List.mem_iff_getElem?.1 ha
    have hmem (e : ErrorItem) : (a, e) ∈ losses w.processor.policy op attempt ((labels, answer) :: rounds) ↔
        (a, e) ∈ entered w.processor.policy attempt op labels answer ∨
          (a, e) ∈ losses w.processor.policy op (attempt + 1) rounds := by
      rw [losses, List.mem_append]
    rcases verdict_at hnodup op answer hn with ⟨hin, hnone⟩ | ⟨hnot, hverdict⟩
    · -- submitted again, it gets its verdict later
      obtain ⟨before, after, submitted, answer', n', hrounds, hplace, hlast, hentry⟩ := ih hnodup' hin
      rw [hrest.idle.policy] at hentry
      refine ⟨(labels, answer) :: before, after, submitted, answer', n', by rw [hrounds]; rfl, hplace, hlast, ?_⟩
      simp only [hmem, hnone, false_or]
      exact hentry
    · have hlater (x : List α × String) (hx : x ∈ rounds) : a ∉ x.1 := fun hin => hnot ((hmore.sublist x hx).subset hin)
      have hlost (e : ErrorItem) : (a, e) ∉ losses w.processor.policy op (attempt + 1) rounds := by
        intro he
        have := (hmore.losses_nodup hnodup').1
        rw [hrest.idle.policy] at this
        exact hnot (this _ he)
      refine ⟨[], rounds, labels, answer, n, rfl, hn, hlater, ?_⟩
      simp only [hmem, hlost, or_false]
      exact hverdict

/-- A batch that comes to a result has had its submissions, and the result is told to whoever listens. -/
theorem execute_of_ok {ops : List Operation} (h : (execute number ops).runOn w = (.ok r, v)) :
    ∃ result u took, submissions number ops w = (.ok result, u) ∧ r = { result with took } ∧
      v = told (.batchEnds number r) u := by
  rw [execute_runOn] at h
  unfold ending at h
  rcases hs : submissions number ops w with ⟨f | result, u⟩
  · rw [hs] at h
    simp only [endingOf] at h
    cases hc : causeOf f <;> rw [hc] at h <;> cases h
  · rw [hs] at h
    simp only [endingOf] at h
    cases ht : timeTaken w.cluster.world.clock u.cluster.world.clock result with
    | error f =>
      rw [ht] at h
      cases h
    | ok took =>
      rw [ht] at h
      cases h
      exact ⟨result, u, took, rfl, rfl, rfl⟩

/-- The result of a batch accounts for each of its operations, and equal operations are told apart: the answer to the
last submission that one is in finds no fault with it, or it is entered exactly once, as that answer describes it. The
result counts the operations, those that are not entered, those that are, and those that were submitted again. A batch
that could be submitted again for ever has to come to its end before the count of retries does. -/
theorem accounts_for_operations {ops : List Operation}
    (hends : (∃ n, w.processor.policy.lasts n = false) ∨ v.cluster.world.requests.length ≤
      w.cluster.world.requests.length + w.processor.policy.maxRetries.ceil)
    (hrun : (execute number ops).runOn w = (.ok r, v)) :
    ∃ (rounds : List (List (Fin ops.length) × String)) (u : Writer) (entries : List (Fin ops.length × ErrorItem)),
      Rounds number ops.get 0 (List.finRange ops.length) (told (.batchStarts number ops) w) rounds u ∧
      v = told (.batchEnds number r) u ∧
      r.total = ops.length ∧ r.total = r.success + r.failed ∧ (r.errors.length : Int) = r.failed ∧
      r.retried = ((rounds.drop 1).map (·.1.length)).sum ∧
      r.errors = entries.map Prod.snd ∧ (entries.map Prod.fst).Nodup ∧
      ∀ i, ∃ before after submitted answer n, LastWord ops.get rounds entries i before after submitted answer n := by
  obtain ⟨result, u, took, hsub, rfl, rfl⟩ := execute_of_ok hrun
  have hget : (List.finRange ops.length).map ops.get = ops := List.map_get_finRange ops
  have htold : Idle w (told (.batchStarts number ops) w) := idle_told (by simp) w
  have hleft : (told (.batchStarts number ops) w).processor.policy.lasts
      (0 + w.processor.policy.maxRetries.ceil) = false ∨ u.cluster.world.requests.length ≤
        (told (.batchStarts number ops) w).cluster.world.requests.length + w.processor.policy.maxRetries.ceil := by
    have hdone : Idle u (told (.batchEnds number { result with took }) u) := idle_told (by simp) u
    rw [hdone.requests, ← htold.requests] at hends
    rw [told_processor, Nat.zero_add]
    exact hends.imp_left Quantity.ceil_not_lt
  have hlabelled : (submit number w.processor.policy.maxRetries.ceil 0 ((List.finRange ops.length).map ops.get)
      { total := ops.length }).runOn (told (.batchStarts number ops) w) = (.ok result, u) := by
    rw [hget]
    exact hsub
  obtain ⟨rounds, hrounds, hresult⟩ := rounds_of_submit hleft hlabelled
  have hnodup := List.nodup_finRange ops.length
  obtain ⟨-, hdistinct⟩ := hrounds.losses_nodup hnodup
  refine ⟨rounds, u, _, hrounds, rfl, ?_, ?_, ?_, ?_, ?_, hdistinct, fun i => ?_⟩
  · rw [hresult]
    rfl
  · rw [hresult]
    simp [tallied]
  · rw [hresult]
    simp [tallied]
  · rw [hresult]
    simp [tallied]
  · rw [hresult]
    simp [tallied]
  · exact hrounds.lastWord hnodup (List.mem_finRange i)

/-- The answer of a store that has no room for the first of two deletions, and does not know what the second one is
about. -/
def mixedAnswer : String :=
  "\x7b\"errors\":true,\"items\":[\x7b\"delete\":\x7b\"error\":" ++
    "\x7b\"type\":\"es_rejected_execution_exception\"\x7d\x7d\x7d,\x7b\"delete\":\x7b\"status\":400,\"error\":" ++
    "\"no such index\"\x7d\x7d]\x7d"

/-- A network whose store gives such an answer first, and is content after that. -/
def hesitant : Cluster.Network where
  respond earlier _ := .response (.int 200) (.text (if earlier.isEmpty then mixedAnswer else "\x7b\x7d"))

/-- A processor for a store that tries once more after a second. -/
def steady (network : Cluster.Network) : Writer :=
  ⟨{ threshold := .int 10, flushInterval := none, listening := true, lastFlush := .float 0.0,
     policy := { maxRetries := .int 1, retryDelay := .int 1, backoffFactor := .int 1 } }, Cluster.twins network⟩

/-- Of two equal deletions one succeeds when it is submitted again, and the other is entered. -/
theorem accounts_for_equal_operations :
    ∃ r v, (execute 1 [deletion "1", deletion "1"]).runOn (steady hesitant) = (.ok r, v) ∧
      r.retried = 1 ∧ r.success = 1 ∧ r.failed = 1 ∧
      ∃ entries : List (Fin 2 × ErrorItem), r.errors = entries.map Prod.snd ∧ (entries.map Prod.fst).Nodup := by
  have hcounts : (((execute 1 [deletion "1", deletion "1"]).runOn (steady hesitant)).1.toOption.any fun r =>
      r.retried = 1 && r.errors.length = 1) = true := by decide +kernel
  rcases hrun : (execute 1 [deletion "1", deletion "1"]).runOn (steady hesitant) with ⟨f | r, v⟩
  · rw [hrun] at hcounts
    cases hcounts
  · rw [hrun] at hcounts
    have hcounts : r.retried = 1 ∧ r.errors.length = 1 := by simpa [Except.toOption] using hcounts
    obtain ⟨rounds, u, entries, -, -, htotal, hsum, hfailed, -, herrors, hnodup, -⟩ :=
      accounts_for_operations (.inl ⟨1, by decide⟩) hrun
    have htwo : r.total = 2 := htotal
    exact ⟨r, v, rfl, hcounts.1, by omega, by omega, entries, herrors, hnodup⟩

/-- An answer that says that there are no errors and reports one all the same. -/
def mutedAnswer : String :=
  "\x7b\"errors\":false,\"items\":[\x7b\"delete\":\x7b\"status\":400,\"error\":" ++
    "\x7b\"type\":\"mapper_parsing_exception\"\x7d\x7d\x7d]\x7d"

/-- A network whose store always gives that answer. -/
def muted : Cluster.Network where
  respond _ _ := .response (.int 200) (.text mutedAnswer)

/-- The items of an answer, whether or not it says that there are errors. -/
def itemsOf (answer : String) : List Json :=
  match Document.parse (.text answer) >>= fun document => document.read "$.items" (.one .list) with
  | .ok (.arr items) => items
  | _ => []

/-- The only submission of a deletion is answered with an item that reports an error, and the deletion counts as a
success. -/
theorem muted_error_counts_as_success :
    (∃ r v, (execute 1 [deletion "1"]).runOn (steady muted) = (.ok r, v) ∧ v.cluster.world.requests.length = 1 ∧
      r.success = 1 ∧ r.failed = 0 ∧ r.errors = []) ∧
    ((itemsOf mutedAnswer)[0]?.bind faultOf).isSome = true := by
  refine ⟨?_, by decide +kernel⟩
  obtain ⟨hcounts, honce⟩ : (((execute 1 [deletion "1"]).runOn (steady muted)).1.toOption.any fun r =>
        r.success = 1 && r.failed = 0 && r.errors.isEmpty) = true ∧
      ((execute 1 [deletion "1"]).runOn (steady muted)).2.cluster.world.requests.length = 1 := by decide +kernel
  rcases hrun : (execute 1 [deletion "1"]).runOn (steady muted) with ⟨f | r, v⟩
  · rw [hrun] at hcounts
    cases hcounts
  · rw [hrun] at hcounts honce
    refine ⟨r, v, rfl, honce, ?_⟩
    simpa [Except.toOption, and_assoc] using hcounts

end DocumentStore.Bulk.Writer
