import DocumentStore.Bulk.Processor
import DocumentStore.Proofs.Document
import DocumentStore.Proofs.Quantity

/-! What the answer to a submission says. Its items stand in the order of the operations, so that each of them is
about the operation at its place. An answer that is no such list is refused as unreadable; items that are there may
still have a shape with which nothing can be done. -/

namespace DocumentStore

namespace Bulk

theorem errors_steps : Json.stepsOf "$.errors" = .ok [.name "errors"] := by
  have h : Path.parse "$.errors" = .ok [.name "errors"] := by decide +kernel
  rw [Json.stepsOf, h]
  rfl

theorem items_steps : Json.stepsOf "$.items" = .ok [.name "items"] := by
  have h : Path.parse "$.items" = .ok [.name "items"] := by decide +kernel
  rw [Json.stepsOf, h]
  rfl

/-- The part of an item that reports on the operation is an object, in which an error can be looked for. -/
def Shaped (item : Json) : Prop := ∃ report, reportOf item = .obj report

/-- The type of the error that an item reports, if it reports an error. -/
def errorTypeOf (item : Json) : Option Json :=
  match reportOf item with
  | .obj report =>
    let error := (Json.lookupField report "error").getD .null
    if error.truthy then
      match error with
      | .obj fs => some ((Json.lookupField fs "type").getD (.str "unknown"))
      | _ => some (.str "unknown")
    else none
  | _ => none

theorem itemError_of_shaped {item : Json} (h : Shaped item) (op : Operation) :
    ∃ e, itemError op item = .ok e ∧ e.map (·.errorType) = errorTypeOf item := by
  obtain ⟨report, hr⟩ := h
  unfold itemError errorTypeOf
  simp only [hr]
  split_ifs
  · refine ⟨_, rfl, ?_⟩
    cases (Json.lookupField report "error").getD .null <;> rfl
  · exact ⟨none, rfl, rfl⟩

theorem itemError_of_not_shaped {item : Json} (h : ¬Shaped item) (op : Operation) :
    itemError op item = .error (.misuse .noMember) := by
  unfold itemError
  split
  · rename_i report hr
    exact absurd ⟨report, hr⟩ h
  · rfl

/-- The failures of an answer are at the places of the items that report errors, with the types given there. -/
theorem failuresOf_shaped {items : List Json} (h : ∀ item ∈ items, Shaped item) (ops : List Operation) :
    ∃ failures, failuresOf ops items = .ok failures ∧
      failures.map (fun p => (p.1, p.2.errorType)) =
        (ops.zip items).filterMap fun p => (errorTypeOf p.2).map (p.1, ·) := by
  induction items generalizing ops with
  | nil => cases ops <;> exact ⟨[], rfl, rfl⟩
  | cons item items ih =>
    cases ops with
    | nil => exact ⟨[], rfl, rfl⟩
    | cons op ops =>
      obtain ⟨e, he, htype⟩ := itemError_of_shaped (h item (by simp)) op
      obtain ⟨failures, hf, hmap⟩ := ih (fun i hi => h i (by simp [hi])) ops
      refine ⟨(e.map (op, ·)).toList ++ failures, by rw [failuresOf, he, hf]; rfl, ?_⟩
      rw [List.zip_cons_cons, List.filterMap_cons, List.map_append, hmap, ← htype]
      cases e <;> rfl

theorem failuresOf_not_shaped {ops : List Operation} {items : List Json} (hlength : items.length = ops.length)
    {item : Json} (hmem : item ∈ items) (h : ¬Shaped item) : failuresOf ops items = .error (.misuse .noMember) := by
  induction items generalizing ops with
  | nil => simp at hmem
  | cons first items ih =>
    obtain ⟨op, ops, rfl⟩ := List.exists_cons_of_length_pos (by rw [← hlength]; simp)
    rw [failuresOf]
    by_cases hs : Shaped first
    · obtain ⟨e, he, -⟩ := itemError_of_shaped hs op
      have hrest : item ∈ items := by
        rcases List.mem_cons.1 hmem with rfl | hrest
        · exact absurd hs h
        · exact hrest
      rw [he, ih (by simpa using hlength) hrest]
      rfl
    · rw [itemError_of_not_shaped hs]
      rfl

/-- The policy lets an operation that fails with an error of this type be submitted again. -/
def RetryPolicy.covers (policy : RetryPolicy) (errorType : Json) : Bool :=
  policy.retryableErrors.any (·.sameScalar errorType)

/-- Whether a retry is left after a submission, counted from zero. -/
def RetryPolicy.lasts (policy : RetryPolicy) (attempt : Nat) : Bool := (Quantity.int attempt).lt policy.maxRetries

/-- The operations, or whatever stands for them, whose items report an error of a type that the policy covers. -/
def rejected {α : Type} (policy : RetryPolicy) (ops : List α) (items : List Json) : List α :=
  ((ops.zip items).filter fun p => (errorTypeOf p.2).any policy.covers).map Prod.fst

theorem shouldRetry_ok (policy : RetryPolicy) (attempt : Nat) {errorType : Json}
    (h : policy.lasts attempt = true → errorType.isScalar = true) :
    policy.shouldRetry (.int attempt) errorType = .ok (policy.lasts attempt && policy.covers errorType) := by
  unfold RetryPolicy.shouldRetry RetryPolicy.covers
  cases hl : policy.lasts attempt with
  | false =>
    rw [RetryPolicy.lasts] at hl
    simp [hl]
  | true =>
    have hs := h hl
    rw [RetryPolicy.lasts] at hl
    simp [hl, hs]

/-- While retries are left, the failures divide by their types; after that none is submitted again. -/
theorem divide_ok {policy : RetryPolicy} {attempt : Nat} {failures : List (Operation × ErrorItem)}
    (h : policy.lasts attempt = true → ∀ p ∈ failures, p.2.errorType.isScalar = true) :
    ∃ errors, Writer.divide policy attempt failures =
      .ok ((failures.filter fun p => policy.lasts attempt && policy.covers p.2.errorType).map Prod.fst, errors) := by
  induction failures with
  | nil => exact ⟨[], rfl⟩
  | cons p failures ih =>
    obtain ⟨op, error⟩ := p
    obtain ⟨errors, he⟩ := ih fun hl p hp => h hl p (by simp [hp])
    have hretry := shouldRetry_ok policy attempt fun hl => h hl (op, error) (by simp)
    rw [Writer.divide, hretry, he, List.filter_cons]
    simp only [bind, Except.bind, pure, Except.pure]
    split_ifs
    · exact ⟨errors, rfl⟩
    · exact ⟨error :: errors, rfl⟩

theorem divide_error {policy : RetryPolicy} {attempt : Nat} {failures : List (Operation × ErrorItem)}
    (hl : policy.lasts attempt = true) {p : Operation × ErrorItem} (hp : p ∈ failures)
    (hs : p.2.errorType.isScalar = false) : Writer.divide policy attempt failures = .error (.misuse .wrongKind) := by
  induction failures with
  | nil => simp at hp
  | cons first failures ih =>
    obtain ⟨op, error⟩ := first
    rw [Writer.divide]
    cases he : error.errorType.isScalar with
    | false =>
      rw [RetryPolicy.lasts] at hl
      simp [RetryPolicy.shouldRetry, hl, he, bind, Except.bind]
    | true =>
      have hrest : p ∈ failures := by
        rcases List.mem_cons.1 hp with rfl | hrest
        · rw [he] at hs
          cases hs
        · exact hrest
      rw [shouldRetry_ok policy attempt fun _ => he, ih hrest]
      rfl

/-- Nothing can be done with the item: it has no report, or while retries are left an error type that no set holds. -/
def Muddled (policy : RetryPolicy) (attempt : Nat) (item : Json) : Prop :=
  ¬Shaped item ∨ policy.lasts attempt = true ∧ ∃ t ∈ errorTypeOf item, t.isScalar = false

/-- The operations to be submitted again after an answer. -/
def resubmitted (policy : RetryPolicy) (attempt : Nat) (ops : List Operation) : Option (List Json) → List Operation
  | none => []
  | some items => if policy.lasts attempt then rejected policy ops items else []

theorem reportedItems_length {n : Nat} {answer : String} {items : List Json}
    (h : reportedItems n answer = .ok (some items)) : items.length = n := by
  unfold reportedItems at h
  obtain ⟨document, -, h⟩ := except_bind_eq_ok h
  obtain ⟨flag, -, h⟩ := except_bind_eq_ok h
  split at h
  · obtain ⟨value, -, h⟩ := except_bind_eq_ok h
    split at h
    · split_ifs at h with hlength
      cases h
      exact hlength
    · cases h
  · cases h

/-- An answer that reports no errors is one to any number of operations. -/
theorem reportedItems_none {m n : Nat} {answer : String} (h : reportedItems m answer = .ok none) :
    reportedItems n answer = .ok none := by
  unfold reportedItems at h ⊢
  obtain ⟨document, hdocument, h⟩ := except_bind_eq_ok h
  obtain ⟨flag, hflag, h⟩ := except_bind_eq_ok h
  rw [hdocument]
  simp only [bind, Except.bind, hflag]
  split at h
  · obtain ⟨items, hitems, h⟩ := except_bind_eq_ok h
    simp only [hitems]
    split at h
    · split_ifs at h
      cases h
    · rfl
  · rfl

/-- To keep the failures of the types that are covered is to keep the operations at the places of their items. -/
theorem filter_filterMap_errorTypeOf (policy : RetryPolicy) (ps : List (Operation × Json)) :
    ((ps.filterMap fun p => (errorTypeOf p.2).map (p.1, ·)).filter fun q => policy.covers q.2).map Prod.fst =
      (ps.filter fun p => (errorTypeOf p.2).any policy.covers).map Prod.fst := by
  induction ps with
  | nil => rfl
  | cons p ps ih =>
    rw [List.filterMap_cons, List.filter_cons]
    cases errorTypeOf p.2 with
    | none => exact ih
    | some t =>
      simp only [Option.map_some, Option.any_some, List.filter_cons]
      split_ifs
      · rw [List.map_cons, List.map_cons, ih]
      · exact ih

theorem settle_unreadable {policy : RetryPolicy} {attempt : Nat} {ops : List Operation} {result : Result}
    {answer : String} {f : Failure} (h : reportedItems ops.length answer = .error f) :
    Writer.settle policy attempt ops result answer = .error f := by
  rw [Writer.settle, readFailures, h]
  rfl

/-- With items in which every error can be judged, an answer leads on to exactly the operations that it rejects. -/
theorem settle_clear {policy : RetryPolicy} {attempt : Nat} {ops : List Operation} {answer : String}
    {r : Option (List Json)} (h : reportedItems ops.length answer = .ok r)
    (hclear : ∀ items ∈ r, ∀ item ∈ items, ¬Muddled policy attempt item) (result : Result) :
    ∃ success failed errors, Writer.settle policy attempt ops result answer =
      .ok (resubmitted policy attempt ops r, { result with success, failed, errors }) := by
  cases r with
  | none =>
    rw [Writer.settle, readFailures, h]
    exact ⟨_, _, _, rfl⟩
  | some items =>
    have hitems (item) (hi : item ∈ items) := hclear items rfl item hi
    have hshaped : ∀ item ∈ items, Shaped item := fun item hi => by
      by_contra hs
      exact hitems item hi (.inl hs)
    obtain ⟨failures, hf, hmap⟩ := failuresOf_shaped hshaped ops
    have hscalar : policy.lasts attempt = true → ∀ p ∈ failures, p.2.errorType.isScalar = true := by
      intro hl p hp
      have hin : (p.1, p.2.errorType) ∈ failures.map fun p => (p.1, p.2.errorType) := List.mem_map.2 ⟨p, hp, rfl⟩
      rw [hmap] at hin
      obtain ⟨q, hq, htype⟩ := List.mem_filterMap.1 hin
      obtain ⟨t, ht, heq⟩ := Option.map_eq_some_iff.1 htype
      by_contra hs
      refine hitems q.2 (List.of_mem_zip hq).2 (.inr ⟨hl, t, ht, ?_⟩)
      rw [(Prod.mk.inj heq).2]
      simpa using hs
    obtain ⟨errors, hd⟩ := divide_ok hscalar
    rw [Writer.settle, readFailures, h]
    simp only [bind, Except.bind, hf, hd, pure, Except.pure]
    refine ⟨_, _, _, congrArg (fun again => Except.ok (again, _)) ?_⟩
    unfold resubmitted
    cases policy.lasts attempt with
    | false => simp
    | true =>
      have : (failures.filter fun p => policy.covers p.2.errorType).map Prod.fst =
          ((failures.map fun p => (p.1, p.2.errorType)).filter fun q => policy.covers q.2).map Prod.fst := by
        rw [List.filter_map, List.map_map]
        rfl
      simp only [Bool.true_and, if_true]
      rw [this, hmap, filter_filterMap_errorTypeOf]
      rfl

theorem settle_muddled {policy : RetryPolicy} {attempt : Nat} {ops : List Operation} {answer : String}
    {items : List Json} (h : reportedItems ops.length answer = .ok (some items)) {item : Json} (hmem : item ∈ items)
    (hm : Muddled policy attempt item) (result : Result) :
    ∃ m, Writer.settle policy attempt ops result answer = .error (.misuse m) := by
  rw [Writer.settle, readFailures, h]
  simp only [bind, Except.bind]
  by_cases hshaped : ∀ item ∈ items, Shaped item
  · obtain ⟨hl, t, ht, hs⟩ := hm.resolve_left fun hn => hn (hshaped item hmem)
    obtain ⟨failures, hf, hmap⟩ := failuresOf_shaped hshaped ops
    obtain ⟨i, hi, rfl⟩ := List.getElem_of_mem hmem
    have hops : i < ops.length := by rw [← reportedItems_length h]; exact hi
    have hzip : (ops[i], items[i]) ∈ ops.zip items := by
      rw [← List.getElem_zip (h := by simp [hi, hops])]
      exact List.getElem_mem _
    have hin : (ops[i], t) ∈ failures.map fun p => (p.1, p.2.errorType) := by
      rw [hmap]
      exact List.mem_filterMap.2 ⟨_, hzip, Option.map_eq_some_iff.2 ⟨t, ht, rfl⟩⟩
    obtain ⟨p, hp, heq⟩ := List.mem_map.1 hin
    rw [hf]
    simp only
    rw [divide_error hl hp (by rw [(Prod.mk.inj heq).2]; exact hs)]
    exact ⟨_, rfl⟩
  · push Not at hshaped
    obtain ⟨bad, hbad, hnot⟩ := hshaped
    rw [failuresOf_not_shaped (reportedItems_length h) hbad hnot]
    exact ⟨_, rfl⟩

end Bulk

end DocumentStore
