import DocumentStore.Proofs.Bulk.Retry

/-! What one answer says against the operations of a submission, and how the result takes it up. An operation with
which an answer finds a fault is submitted again or entered as failed, the others have succeeded; nothing else enters
the result. Anything may stand for the operations, so that occurrences of equal ones can be told apart. -/

namespace DocumentStore.Bulk

/-- A member of the part of an item that reports on an operation. -/
def reported (item : Json) (key : Text) : Option Json :=
  match reportOf item with
  | .obj report => Json.lookupField report key
  | _ => none

/-- The error that an item reports, if it reports one that counts as something. -/
def faultOf (item : Json) : Option Json := (reported item "error").filter Json.truthy

/-- The answer to so many operations finds a fault with the one at a place: the item there and the error in it. An
answer that says that there are no errors finds none. -/
def faultAt (submitted : Nat) (answer : String) (n : Nat) : Option (Json × Json) :=
  match reportedItems submitted answer with
  | .ok (some items) => items[n]?.bind fun item => (faultOf item).map (item, ·)
  | _ => none

/-- A member of an error; one that is no object has none. -/
def memberOf (error : Json) (key : Text) : Option Json :=
  match error with
  | .obj fs => Json.lookupField fs key
  | _ => none

/-- The entry says what the item says, and what the operation says where the item is silent. -/
structure Describes (op : Operation) (item error : Json) (e : ErrorItem) : Prop where
  index : e.index = (reported item "_index").getD op.index
  id : e.id = (reported item "_id").getD op.id
  verb : e.verb = op.verb
  status : e.status = (reported item "status").getD (.int 0)
  errorType : e.errorType = (memberOf error "type").getD (.str "unknown")
  errorReason : e.errorReason =
    (memberOf error "reason").getD (match error with | .obj _ => .str "" | v => .str v.display)

/-- The entry that an operation gets for what an item says of it, if it gets one. -/
def entryOf (op : Operation) (item : Json) : Option ErrorItem := (itemError op item).toOption.join

theorem reported_of_shaped {item : Json} {report : List (Text × Json)} (hr : reportOf item = .obj report) (key : Text) :
    reported item key = Json.lookupField report key := by
  unfold reported
  rw [hr]

/-- An item gets the operation an entry exactly if it reports an error. -/
theorem entryOf_cases (op : Operation) (item : Json) :
    (faultOf item = none ∧ entryOf op item = none) ∨
      ∃ error e, faultOf item = some error ∧ entryOf op item = some e ∧ Describes op item error e := by
  by_cases hshaped : Shaped item
  · obtain ⟨report, hr⟩ := hshaped
    have hreported := reported_of_shaped hr
    unfold faultOf entryOf itemError
    rw [hreported, hr]
    cases hl : Json.lookupField report "error" with
    | none => exact .inl ⟨rfl, by simp [hl, Json.truthy, Except.toOption]⟩
    | some error =>
      cases htruthy : error.truthy with
      | false => exact .inl ⟨by simp [htruthy], by simp [hl, htruthy, Except.toOption]⟩
      | true =>
        refine .inr ⟨error, _, by simp [htruthy], by simp [hl, htruthy, Except.toOption]; rfl, ?_⟩
        cases error <;> constructor <;> simp only [hreported] <;> rfl
  · refine .inl ⟨?_, ?_⟩
    · unfold faultOf reported
      split
      · rename_i report hr
        exact absurd ⟨report, hr⟩ hshaped
      · rfl
    · unfold entryOf
      rw [itemError_of_not_shaped hshaped]
      rfl

section settle

variable {α : Type} {policy : RetryPolicy} {attempt : Nat} {op : α → Operation}

/-- The operations with which some items find a fault, each with its entry. -/
def faulted (op : α → Operation) (labels : List α) (items : List Json) : List (α × ErrorItem) :=
  (labels.zip items).filterMap fun p => (entryOf (op p.1) p.2).map (p.1, ·)

theorem failuresOf_eq {labels : List α} {items : List Json} {failures : List (Operation × ErrorItem)}
    (h : failuresOf (labels.map op) items = .ok failures) :
    failures = (faulted op labels items).map fun p => (op p.1, p.2) := by
  induction labels generalizing items failures with
  | nil =>
    cases h
    rfl
  | cons a labels ih =>
    cases items with
    | nil =>
      cases h
      rfl
    | cons item items =>
      rw [List.map_cons, failuresOf] at h
      obtain ⟨error, herror, h⟩ := except_bind_eq_ok h
      obtain ⟨rest, hrest, h⟩ := except_bind_eq_ok h
      cases h
      have hentry : entryOf (op a) item = error := by
        unfold entryOf
        rw [herror]
        rfl
      unfold faulted
      rw [ih hrest, List.zip_cons_cons, List.filterMap_cons, hentry]
      cases error <;> rfl

/-- The policy has an operation submitted again that failed with this entry. -/
def RetryPolicy.readmits (policy : RetryPolicy) (attempt : Nat) (e : ErrorItem) : Bool :=
  policy.lasts attempt && policy.covers e.errorType

theorem shouldRetry_eq {errorType : Json} {b : Bool} (h : policy.shouldRetry (.int attempt) errorType = .ok b) :
    b = (policy.lasts attempt && policy.covers errorType) := by
  unfold RetryPolicy.shouldRetry at h
  unfold RetryPolicy.lasts RetryPolicy.covers
  split_ifs at h with hlasts hscalar
  · cases h
    rw [hlasts, Bool.true_and]
  · cases h
    simp [hlasts]

/-- The failures divide into those that are submitted again and those that are entered. -/
theorem divide_eq {failures : List (α × ErrorItem)} {again : List Operation} {errors : List ErrorItem}
    (h : Writer.divide policy attempt (failures.map fun p => (op p.1, p.2)) = .ok (again, errors)) :
    again = ((failures.filter fun p => policy.readmits attempt p.2).map Prod.fst).map op ∧
      errors = (failures.filter fun p => !policy.readmits attempt p.2).map Prod.snd := by
  induction failures generalizing again errors with
  | nil =>
    cases h
    exact ⟨rfl, rfl⟩
  | cons p failures ih =>
    rw [List.map_cons, Writer.divide] at h
    obtain ⟨b, hb, h⟩ := except_bind_eq_ok h
    obtain ⟨⟨again', errors'⟩, hrest, h⟩ := except_bind_eq_ok h
    obtain ⟨rfl, rfl⟩ := ih hrest
    have hreadmits : b = policy.readmits attempt p.2 := shouldRetry_eq hb
    rw [List.filter_cons, List.filter_cons, ← hreadmits]
    cases b <;> cases h <;> exact ⟨rfl, rfl⟩

theorem entryOf_errorType (op : Operation) (item : Json) : (entryOf op item).map (·.errorType) = errorTypeOf item := by
  by_cases hshaped : Shaped item
  · obtain ⟨e, he, htype⟩ := itemError_of_shaped hshaped op
    unfold entryOf
    rw [he, ← htype]
    rfl
  · have hnone : errorTypeOf item = none := by
      unfold errorTypeOf
      split
      · rename_i report hr
        exact absurd ⟨report, hr⟩ hshaped
      · rfl
    unfold entryOf
    rw [itemError_of_not_shaped hshaped, hnone]
    rfl

/-- The operations with which an answer finds a fault, each with its entry. -/
def complaints (op : α → Operation) (labels : List α) (answer : String) : List (α × ErrorItem) :=
  match reportedItems labels.length answer with
  | .ok (some items) => faulted op labels items
  | _ => []

/-- The operations that are submitted again after an answer. -/
def readmitted (policy : RetryPolicy) (attempt : Nat) (labels : List α) (answer : String) : List α :=
  if policy.lasts attempt then rejectedBy policy labels answer else []

/-- The operations that have failed for good with an answer, each with its entry. -/
def entered (policy : RetryPolicy) (attempt : Nat) (op : α → Operation) (labels : List α) (answer : String) :
    List (α × ErrorItem) :=
  (complaints op labels answer).filter fun p => !policy.readmits attempt p.2

/-- To keep the entries of the types that are covered is to keep the operations whose items report such types. -/
theorem filter_faulted (policy : RetryPolicy) (op : α → Operation) (ps : List (α × Json)) :
    ((ps.filterMap fun p => (entryOf (op p.1) p.2).map (p.1, ·)).filter fun p => policy.covers p.2.errorType).map
        Prod.fst =
      (ps.filter fun p => (errorTypeOf p.2).any policy.covers).map Prod.fst := by
  induction ps with
  | nil => rfl
  | cons p ps ih =>
    rw [List.filterMap_cons, List.filter_cons, ← entryOf_errorType (op p.1) p.2]
    cases entryOf (op p.1) p.2 with
    | none => exact ih
    | some e =>
      simp only [Option.map_some, Option.any_some, List.filter_cons]
      split_ifs
      · rw [List.map_cons, List.map_cons, ih]
      · exact ih

theorem readmitted_eq (policy : RetryPolicy) (attempt : Nat) (op : α → Operation) (labels : List α) (answer : String) :
    readmitted policy attempt labels answer =
      ((complaints op labels answer).filter fun p => policy.readmits attempt p.2).map Prod.fst := by
  unfold readmitted complaints rejectedBy RetryPolicy.readmits
  cases policy.lasts attempt with
  | false => simp
  | true =>
    simp only [Bool.true_and, if_true]
    rcases reportedItems labels.length answer with f | (_ | items)
    · rfl
    · rfl
    · exact (filter_faulted policy op _).symm

/-- Every operation is submitted again, entered, or counted as a success. -/
theorem settle_eq {labels : List α} {answer : String} {result result' : Result} {ops : List Operation}
    (h : Writer.settle policy attempt (labels.map op) result answer = .ok (ops, result')) :
    ops = (readmitted policy attempt labels answer).map op ∧
      result' = { result with
        success := result.success +
          (labels.length - (readmitted policy attempt labels answer).length -
            (entered policy attempt op labels answer).length)
        failed := result.failed + (entered policy attempt op labels answer).length
        errors := result.errors ++ (entered policy attempt op labels answer).map Prod.snd } := by
  have hread {failures : List (Operation × ErrorItem)} (hr : readFailures (labels.map op) answer = .ok failures) :
      failures = (complaints op labels answer).map fun p => (op p.1, p.2) := by
    unfold readFailures complaints at *
    rw [List.length_map] at hr
    cases hitems : reportedItems labels.length answer with
    | error f =>
      rw [hitems] at hr
      cases hr
    | ok items =>
      rw [hitems] at hr
      cases items with
      | none =>
        cases hr
        rfl
      | some items => exact failuresOf_eq hr
  unfold Writer.settle at h
  obtain ⟨failures, hfailures, h⟩ := except_bind_eq_ok h
  obtain ⟨⟨ops', errors⟩, hdivide, h⟩ := except_bind_eq_ok h
  rw [hread hfailures] at hdivide h
  obtain ⟨rfl, rfl⟩ := divide_eq hdivide
  cases h
  have hlength : (complaints op labels answer).length =
      (readmitted policy attempt labels answer).length + (entered policy attempt op labels answer).length := by
    rw [readmitted_eq policy attempt op, List.length_map]
    exact (List.length_eq_length_filter_add _).trans rfl
  refine ⟨by rw [readmitted_eq policy attempt op], ?_⟩
  have hentered : (complaints op labels answer).filter (fun p => !policy.readmits attempt p.2) =
    entered policy attempt op labels answer := rfl
  rw [hentered]
  simp only [List.length_map, hlength]
  congr 1
  push_cast
  ring

theorem faulted_sublist (op : α → Operation) (labels : List α) (items : List Json) :
    ((faulted op labels items).map Prod.fst).Sublist labels := by
  induction labels generalizing items with
  | nil => exact List.Sublist.refl _
  | cons a labels ih =>
    cases items with
    | nil => exact List.nil_sublist _
    | cons item items =>
      have hrest := ih items
      unfold faulted at hrest ⊢
      rw [List.zip_cons_cons, List.filterMap_cons]
      cases entryOf (op a) item with
      | none => exact hrest.cons a
      | some e => exact hrest.cons_cons a

theorem complaints_sublist (op : α → Operation) (labels : List α) (answer : String) :
    ((complaints op labels answer).map Prod.fst).Sublist labels := by
  unfold complaints
  split
  · exact faulted_sublist op labels _
  · exact List.nil_sublist labels

theorem mem_faulted {labels : List α} {items : List Json} {a : α} {e : ErrorItem} :
    (a, e) ∈ faulted op labels items ↔
      ∃ (n : Nat) (item : Json), labels[n]? = some a ∧ items[n]? = some item ∧ entryOf (op a) item = some e := by
  unfold faulted
  rw [List.mem_filterMap]
  constructor
  · rintro ⟨⟨b, item⟩, hmem, hentry⟩
    obtain ⟨e', he', heq⟩ := Option.map_eq_some_iff.1 hentry
    cases heq
    obtain ⟨n, hn⟩ := List.mem_iff_getElem?.1 hmem
    obtain ⟨hb, hitem⟩ := List.getElem?_zip_eq_some.1 hn
    exact ⟨n, item, hb, hitem, he'⟩
  · rintro ⟨n, item, ha, hitem, hentry⟩
    refine ⟨(a, item), List.mem_iff_getElem?.2 ⟨n, List.getElem?_zip_eq_some.2 ⟨ha, hitem⟩⟩, ?_⟩
    rw [hentry]
    rfl

/-- An answer finds a fault with the operation at a place and gets it one entry, or it gets it none. -/
theorem complaints_at {labels : List α} (hnodup : labels.Nodup) (op : α → Operation) (answer : String) {n : Nat} {a : α}
    (ha : labels[n]? = some a) :
    (faultAt labels.length answer n = none ∧ ∀ e, (a, e) ∉ complaints op labels answer) ∨
      ∃ item error e, faultAt labels.length answer n = some (item, error) ∧ Describes (op a) item error e ∧
        ∀ e', (a, e') ∈ complaints op labels answer ↔ e' = e := by
  unfold faultAt complaints
  rcases hitems : reportedItems labels.length answer with f | (_ | items)
  · exact .inl ⟨rfl, fun e => List.not_mem_nil⟩
  · exact .inl ⟨rfl, fun e => List.not_mem_nil⟩
  obtain ⟨hn, -⟩ := List.getElem?_eq_some_iff.1 ha
  have hplace : n < items.length := by
    rw [reportedItems_length hitems]
    exact hn
  have hitem : items[n]? = some items[n] := List.getElem?_eq_getElem hplace
  generalize items[n] = item at hitem
  -- distinct labels have one place each, so that only this item speaks of this one
  have hmem (e : ErrorItem) : (a, e) ∈ faulted op labels items ↔ entryOf (op a) item = some e := by
    rw [mem_faulted]
    constructor
    · rintro ⟨m, item', hm, hitem', hentry⟩
      obtain rfl : m = n := (List.getElem?_inj (List.getElem?_eq_some_iff.1 hm).1 hnodup).1 (hm.trans ha.symm)
      rw [hitem] at hitem'
      cases hitem'
      exact hentry
    · intro hentry
      exact ⟨n, item, ha, hitem, hentry⟩
  simp only [hitem, Option.bind_some, hmem]
  rcases entryOf_cases (op a) item with ⟨hfault, hentry⟩ | ⟨error, e, hfault, hentry, hdescribes⟩
  · exact .inl ⟨by rw [hfault]; rfl, by simp [hentry]⟩
  · refine .inr ⟨item, error, e, by rw [hfault]; rfl, hdescribes, fun e' => ?_⟩
    rw [hentry, Option.some.injEq]
    exact eq_comm

theorem readmitted_sublist (policy : RetryPolicy) (attempt : Nat) (labels : List α) (answer : String) :
    (readmitted policy attempt labels answer).Sublist labels := by
  unfold readmitted
  split_ifs
  · exact rejectedBy_sublist policy labels answer
  · exact List.nil_sublist labels

theorem mem_readmitted (op : α → Operation) {labels : List α} {answer : String} {a : α} :
    a ∈ readmitted policy attempt labels answer ↔
      ∃ e, (a, e) ∈ complaints op labels answer ∧ policy.readmits attempt e = true := by
  rw [readmitted_eq policy attempt op, List.mem_map]
  constructor
  · rintro ⟨⟨b, e⟩, hmem, rfl⟩
    exact ⟨e, List.mem_filter.1 hmem⟩
  · rintro ⟨e, hmem, hreadmits⟩
    exact ⟨(a, e), List.mem_filter.2 ⟨hmem, hreadmits⟩, rfl⟩

theorem mem_entered {labels : List α} {answer : String} {a : α} {e : ErrorItem} :
    (a, e) ∈ entered policy attempt op labels answer ↔
      (a, e) ∈ complaints op labels answer ∧ policy.readmits attempt e = false := by
  unfold entered
  rw [List.mem_filter, Bool.not_eq_true']

theorem entered_sublist (policy : RetryPolicy) (attempt : Nat) (op : α → Operation) (labels : List α)
    (answer : String) : ((entered policy attempt op labels answer).map Prod.fst).Sublist labels :=
  (List.filter_sublist.map Prod.fst).trans (complaints_sublist op labels answer)

/-- An answer leaves the operation at a place to the next submission, or it is the last word on it. -/
theorem verdict_at {labels : List α} (hnodup : labels.Nodup) (op : α → Operation) (answer : String) {n : Nat} {a : α}
    (ha : labels[n]? = some a) :
    (a ∈ readmitted policy attempt labels answer ∧ ∀ e, (a, e) ∉ entered policy attempt op labels answer) ∨
    (a ∉ readmitted policy attempt labels answer ∧
      ((faultAt labels.length answer n = none ∧ ∀ e, (a, e) ∉ entered policy attempt op labels answer) ∨
        ∃ item error e, faultAt labels.length answer n = some (item, error) ∧ Describes (op a) item error e ∧
          ∀ e', (a, e') ∈ entered policy attempt op labels answer ↔ e' = e)) := by
  simp only [mem_readmitted op, mem_entered]
  rcases complaints_at hnodup op answer ha with ⟨hfault, hnone⟩ | ⟨item, error, e, hfault, hdescribes, hmem⟩
  · exact .inr ⟨by simp [hnone], .inl ⟨hfault, by simp [hnone]⟩⟩
  · simp only [hmem]
    cases hreadmits : policy.readmits attempt e with
    | true => exact .inl ⟨⟨e, rfl, hreadmits⟩, by rintro e' ⟨rfl, hnot⟩; simp [hreadmits] at hnot⟩
    | false =>
      refine .inr ⟨by rintro ⟨e', rfl, hyes⟩; simp [hreadmits] at hyes, .inr ⟨item, error, e, hfault, hdescribes, ?_⟩⟩
      intro e'
      exact ⟨fun h => h.1, fun h => ⟨h, h ▸ hreadmits⟩⟩

end settle

end DocumentStore.Bulk
