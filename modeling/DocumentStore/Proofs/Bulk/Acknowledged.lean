import DocumentStore.Proofs.Bulk.Conservation

/-! What an operation counts as a success for. The answer to its submission says that there are no errors, and then the
items are not looked at; or it lists one item for each operation, and the one for this operation reports no error. An
answer that reports errors and lists anything else fails the batch. -/

namespace DocumentStore.Bulk

/-- An answer says that there are no errors: it has no such member, or one that is null or false. -/
def Contented (document : Json) : Prop := ∀ v ∈ document.child? (.name "errors"), v = .null ∨ v = .bool false

/-- An answer reports errors, and lists these items. -/
structure Lists (document : Json) (items : List Json) : Prop where
  errors : document.child? (.name "errors") = some (.bool true)
  items : document.child? (.name "items") = some (.arr items)

/-- The item reports on an operation, and reports no error that counts as something. What is no object or an empty one
reports nothing at all. -/
structure Faultless (item : Json) : Prop where
  shaped : Shaped item
  fault : faultOf item = none

/-- The answer to the submission of so many operations acknowledges the one at a place. -/
inductive Acknowledges (submitted : Nat) (document : Json) (n : Nat) : Prop
  | unread (h : Contented document)
  | listed {items : List Json} {item : Json} (h : Lists document items) (hlength : items.length = submitted)
    (hitem : items[n]? = some item) (hfaultless : Faultless item)

/-- The answer reports errors, but does not list one item for each of so many operations. -/
inductive Miscounts (submitted : Nat) (document : Json) : ReadFailure → Prop
  | missing (herrors : document.child? (.name "errors") = some (.bool true))
    (hitems : document.child? (.name "items") = none) : Miscounts submitted document (.pathNotFound "$.items")
  | unlisted {v : Json} (herrors : document.child? (.name "errors") = some (.bool true))
    (hitems : document.child? (.name "items") = some v) (hv : ∀ items, v ≠ .arr items) :
    Miscounts submitted document (.kindMismatch "$.items" (.one .list) v.kind)
  | other {items : List Json} (h : Lists document items) (hlength : items.length ≠ submitted) :
    Miscounts submitted document (.itemCount items.length submitted)

section reportedItems

variable {submitted : Nat} {answer : String} {document : Json}

/-- All that can be made of an answer that is a document. -/
theorem reportedItems_eq (hdocument : Document.parse (.text answer) = .ok document) :
    reportedItems submitted answer =
      match document.child? (.name "errors") with
      | none | some .null | some (.bool false) => .ok none
      | some (.bool true) =>
        match document.child? (.name "items") with
        | none => .error (.read (.pathNotFound "$.items"))
        | some (.arr items) =>
          if items.length = submitted then .ok (some items) else .error (.read (.itemCount items.length submitted))
        | some v => .error (.read (.kindMismatch "$.items" (.one .list) v.kind))
      | some v => .error (.read (.kindMismatch "$.errors" (.one .bool) v.kind)) := by
  have hitems : document.read "$.items" (.one .list) =
      match document.child? (.name "items") with
      | none => .error (.read (.pathNotFound "$.items"))
      | some (.arr items) => .ok (.arr items)
      | some v => .error (.read (.kindMismatch "$.items" (.one .list) v.kind)) := by
    unfold Json.read Json.resolve
    rw [items_steps]
    simp only [bind, Except.bind, Json.follow?_name]
    rcases document.child? (.name "items") with _ | v
    · rfl
    · cases v <;> rfl
  unfold reportedItems
  rw [hdocument]
  unfold Json.readOptional
  rw [errors_steps]
  simp only [bind, Except.bind, Json.follow?_name, hitems]
  rcases document.child? (.name "errors") with _ | v
  · rfl
  cases v with
  | bool b =>
    cases b with
    | false => rfl
    | true =>
      simp only [Json.convert, Json.Expectation.admits, Json.kind, decide_true, if_true]
      rcases document.child? (.name "items") with _ | v
      · rfl
      · cases v <;> rfl
  | _ => rfl

/-- An answer of which anything can be made is a document. -/
theorem parse_of_reportedItems {r : Option (List Json)} (h : reportedItems submitted answer = .ok r) :
    ∃ document, Document.parse (.text answer) = .ok document := by
  unfold reportedItems at h
  obtain ⟨document, hdocument, -⟩ := except_bind_eq_ok h
  exact ⟨document, hdocument⟩

theorem reportedItems_none_iff (hdocument : Document.parse (.text answer) = .ok document) :
    reportedItems submitted answer = .ok none ↔ Contented document := by
  rw [reportedItems_eq hdocument]
  unfold Contented
  cases document.child? (.name "errors") with
  | none => exact iff_of_true rfl (by simp)
  | some v =>
    cases v with
    | null => exact iff_of_true rfl (by simp)
    | bool b =>
      cases b with
      | false => exact iff_of_true rfl (by simp)
      | true =>
        refine iff_of_false (fun h => ?_) (by simp)
        simp only at h
        split at h
        · cases h
        · split_ifs at h
          cases h
        · cases h
    | _ => exact iff_of_false (fun h => by cases h) (by simp)

theorem reportedItems_some_iff (hdocument : Document.parse (.text answer) = .ok document) {items : List Json} :
    reportedItems submitted answer = .ok (some items) ↔ Lists document items ∧ items.length = submitted := by
  rw [reportedItems_eq hdocument]
  constructor
  · intro h
    split at h
    · cases h
    · cases h
    · cases h
    · rename_i herrors
      split at h
      · cases h
      · rename_i hitems
        split_ifs at h with hlength
        cases h
        exact ⟨⟨herrors, hitems⟩, hlength⟩
      · cases h
    · cases h
  · rintro ⟨⟨herrors, hitems⟩, hlength⟩
    rw [herrors]
    simp only [hitems, hlength, if_true]

theorem reportedItems_of_miscounts (hdocument : Document.parse (.text answer) = .ok document) {g : ReadFailure}
    (h : Miscounts submitted document g) : reportedItems submitted answer = .error (.read g) := by
  rw [reportedItems_eq hdocument]
  cases h with
  | missing herrors hitems =>
    rw [herrors]
    simp only [hitems]
  | @unlisted v herrors hitems hv =>
    rw [herrors]
    simp only [hitems]
  | other hlists hlength =>
    rw [hlists.errors]
    simp only [hlists.items, hlength, if_false]

end reportedItems

section cleared

variable {α : Type} {policy : RetryPolicy} {attempt : Nat} {op : α → Operation} {labels : List α} {answer : String}

/-- Whether an item is without fault. -/
def clears (item : Json) : Bool :=
  match reportOf item with
  | .obj _ => (faultOf item).isNone
  | _ => false

theorem clears_of_shaped {item : Json} (h : Shaped item) : clears item = (faultOf item).isNone := by
  obtain ⟨report, hreport⟩ := h
  unfold clears
  rw [hreport]

theorem clears_iff (item : Json) : clears item = true ↔ Faultless item := by
  constructor
  · intro h
    have hshaped : Shaped item := by
      unfold clears at h
      split at h
      · exact ⟨_, ‹_›⟩
      · cases h
    rw [clears_of_shaped hshaped, Option.isNone_iff_eq_none] at h
    exact ⟨hshaped, h⟩
  · rintro ⟨hshaped, hfault⟩
    rw [clears_of_shaped hshaped, hfault]
    rfl

/-- The operations that an answer acknowledges, or whatever stands for them. -/
def cleared (labels : List α) (answer : String) : List α :=
  match reportedItems labels.length answer with
  | .ok (some items) => ((labels.zip items).filter fun p => clears p.2).map Prod.fst
  | .ok none => labels
  | .error _ => []

theorem cleared_sublist (labels : List α) (answer : String) : (cleared labels answer).Sublist labels := by
  unfold cleared
  split
  · rename_i items hitems
    have hzip : (labels.zip items).map Prod.fst = labels := List.map_fst_zip (reportedItems_length hitems).ge
    have hsub := (List.filter_sublist (p := fun p : α × Json => clears p.2) (l := labels.zip items)).map Prod.fst
    rwa [hzip] at hsub
  · exact List.Sublist.refl _
  · exact List.nil_sublist _

theorem parse_of_mem_cleared {a : α} (h : a ∈ cleared labels answer) :
    ∃ document, Document.parse (.text answer) = .ok document := by
  unfold cleared at h
  split at h
  · exact parse_of_reportedItems ‹_›
  · exact parse_of_reportedItems ‹_›
  · cases h

theorem mem_cleared {document : Json} (hdocument : Document.parse (.text answer) = .ok document) {a : α} :
    a ∈ cleared labels answer ↔ ∃ n, labels[n]? = some a ∧ Acknowledges labels.length document n := by
  unfold cleared
  constructor
  · intro h
    split at h
    · rename_i items hitems
      obtain ⟨⟨b, item⟩, hmem, rfl⟩ := List.mem_map.1 h
      obtain ⟨hzip, hclears⟩ := List.mem_filter.1 hmem
      obtain ⟨n, hn⟩ := List.mem_iff_getElem?.1 hzip
      obtain ⟨hb, hitem⟩ := List.getElem?_zip_eq_some.1 hn
      obtain ⟨hlists, hlength⟩ := (reportedItems_some_iff hdocument).1 hitems
      exact ⟨n, hb, .listed hlists hlength hitem ((clears_iff item).1 hclears)⟩
    · rename_i hnone
      obtain ⟨n, hn⟩ := List.mem_iff_getElem?.1 h
      exact ⟨n, hn, .unread ((reportedItems_none_iff hdocument).1 hnone)⟩
    · cases h
  · rintro ⟨n, hn, h⟩
    cases h with
    | unread hcontented =>
      rw [(reportedItems_none_iff hdocument).2 hcontented]
      exact List.mem_of_getElem? hn
    | @listed items item hlists hlength hitem hfaultless =>
      rw [(reportedItems_some_iff hdocument).2 ⟨hlists, hlength⟩]
      refine List.mem_map.2 ⟨(a, item), List.mem_filter.2 ⟨?_, (clears_iff item).2 hfaultless⟩, rfl⟩
      exact List.mem_iff_getElem?.2 ⟨n, List.getElem?_zip_eq_some.2 ⟨hn, hitem⟩⟩

/-- An operation gets no entry exactly if its item is without fault. -/
theorem isNone_itemError {op : Operation} {item : Json} {e : Option ErrorItem} (h : itemError op item = .ok e) :
    e.isNone = clears item := by
  have hshaped : Shaped item := by
    by_contra hnot
    rw [itemError_of_not_shaped hnot] at h
    cases h
  have hentry : entryOf op item = e := by
    unfold entryOf
    rw [h]
    rfl
  rw [clears_of_shaped hshaped, ← hentry]
  rcases entryOf_cases op item with ⟨hfault, hnone⟩ | ⟨error, e', hfault, hsome, -⟩
  · rw [hfault, hnone]
    rfl
  · rw [hfault, hsome]
    rfl

theorem length_failuresOf {items : List Json} {failures : List (Operation × ErrorItem)}
    (hlength : items.length = labels.length) (h : failuresOf (labels.map op) items = .ok failures) :
    failures.length + ((labels.zip items).filter fun p => clears p.2).length = labels.length := by
  induction labels generalizing items failures with
  | nil =>
    cases h
    rfl
  | cons a labels ih =>
    cases items with
    | nil => cases hlength
    | cons item items =>
      rw [List.map_cons, failuresOf] at h
      obtain ⟨e, he, h⟩ := except_bind_eq_ok h
      obtain ⟨rest, hrest, h⟩ := except_bind_eq_ok h
      cases h
      have hih := ih (Nat.succ.inj hlength) hrest
      have hclears := isNone_itemError he
      rw [List.zip_cons_cons, List.filter_cons, List.length_append, List.length_cons]
      cases e with
      | none =>
        rw [Option.isNone_none] at hclears
        simp only [← hclears, if_true, Option.map_none, Option.toList_none, List.length_nil, List.length_cons]
        omega
      | some e =>
        rw [Option.isNone_some] at hclears
        simp only [← hclears, Bool.false_eq_true, if_false, Option.map_some, Option.toList_some, List.length_singleton]
        omega

/-- What counts as a success after an answer is what the answer acknowledges. -/
theorem settle_success {result result' : Result} {ops : List Operation}
    (h : Writer.settle policy attempt (labels.map op) result answer = .ok (ops, result')) :
    result'.success = result.success + (cleared labels answer).length := by
  unfold Writer.settle at h
  obtain ⟨failures, hfailures, h⟩ := except_bind_eq_ok h
  obtain ⟨⟨again, errors⟩, -, h⟩ := except_bind_eq_ok h
  cases h
  have hcount : failures.length + (cleared labels answer).length = labels.length := by
    unfold readFailures at hfailures
    rw [List.length_map] at hfailures
    obtain ⟨r, hr, hfailures⟩ := except_bind_eq_ok hfailures
    unfold cleared
    rw [hr]
    cases r with
    | none =>
      cases hfailures
      simp
    | some items =>
      simp only [List.length_map]
      exact length_failuresOf (reportedItems_length hr) hfailures
  simp only [List.length_map]
  omega

/-- What is acknowledged is not submitted again. -/
theorem not_mem_readmitted (hnodup : labels.Nodup) (op : α → Operation) {a : α} (ha : a ∈ cleared labels answer) :
    a ∉ readmitted policy attempt labels answer := by
  have hfault : ∃ n, labels[n]? = some a ∧ faultAt labels.length answer n = none := by
    unfold cleared at ha
    unfold faultAt
    split at ha
    · rename_i items hitems
      obtain ⟨⟨b, item⟩, hmem, rfl⟩ := List.mem_map.1 ha
      obtain ⟨hzip, hclears⟩ := List.mem_filter.1 hmem
      obtain ⟨n, hn⟩ := List.mem_iff_getElem?.1 hzip
      obtain ⟨hb, hitem⟩ := List.getElem?_zip_eq_some.1 hn
      refine ⟨n, hb, ?_⟩
      rw [hitems]
      simp only [hitem, Option.bind_some, ((clears_iff item).1 hclears).fault, Option.map_none]
    · rename_i hitems
      obtain ⟨n, hn⟩ := List.mem_iff_getElem?.1 ha
      refine ⟨n, hn, ?_⟩
      rw [hitems]
    · cases ha
  obtain ⟨n, hn, hnone⟩ := hfault
  rw [mem_readmitted op]
  rintro ⟨e, he, -⟩
  rcases complaints_at hnodup op answer hn with ⟨-, hno⟩ | ⟨item, error, e', hsome, -⟩
  · exact hno e he
  · rw [hnone] at hsome
    cases hsome

end cleared

/-- Every item of the answer to so many operations can be dealt with. -/
def Settles (policy : RetryPolicy) (attempt submitted : Nat) (answer : String) : Prop :=
  ∃ items, reportedItems submitted answer = .ok items ∧
    ∀ is ∈ items, ∀ item ∈ is, ¬Muddled policy attempt item

theorem settles_of_ok {policy : RetryPolicy} {attempt : Nat} {ops : List Operation} {result : Result} {answer : String}
    {x : List Operation × Result} (h : Writer.settle policy attempt ops result answer = .ok x) :
    Settles policy attempt ops.length answer := by
  cases hitems : reportedItems ops.length answer with
  | error f =>
    rw [settle_unreadable hitems] at h
    cases h
  | ok items =>
    refine ⟨items, hitems, fun is his item hitem hm => ?_⟩
    obtain rfl : items = some is := his
    obtain ⟨m, hs⟩ := settle_muddled hitems hitem hm result
    rw [hs] at h
    cases h

namespace Writer

open Effect

/-- Among the submissions of a batch from one attempt on, the one with number `k` holds these operations and gets this
answer. -/
inductive Exchange {α : Type} (number : Nat) (op : α → Operation) :
    (left attempt : Nat) → (labels : List α) → Writer → (k : Nat) → (submitted : List α) → (answer : String) → Prop
  | here {left attempt : Nat} {labels : List α} {w : Writer} {body : Text} {answer : String}
    (hbody : ndjson (labels.map op) = .ok body)
    (hanswer : (answered number attempt (labels.map op) body w).1 = .ok answer) :
    Exchange number op left attempt labels w attempt labels answer
  | later {left attempt k : Nat} {labels submitted : List α} {w u : Writer} {body : Text} {answer answer' : String}
    (hbody : ndjson (labels.map op) = .ok body)
    (hanswer : (answered number attempt (labels.map op) body w).1 = .ok answer)
    (hsettles : Settles w.processor.policy attempt labels.length answer)
    (hagain : readmitted w.processor.policy attempt labels answer ≠ [])
    (hrest : Rests (attempt + 1) { w with cluster := (answered number attempt (labels.map op) body w).2 } u)
    (hlater : Exchange number op left (attempt + 1) (readmitted w.processor.policy attempt labels answer) u k submitted
      answer') :
    Exchange number op (left + 1) attempt labels w k submitted answer'

variable {α : Type} {number attempt left k : Nat} {op : α → Operation} {labels submitted : List α} {w u v : Writer}
  {body : Text} {answer : String} {result r : Result}

theorem Exchange.sublist (h : Exchange number op left attempt labels w k submitted answer) :
    submitted.Sublist labels := by
  induction h with
  | here hbody hanswer => exact List.Sublist.refl _
  | later hbody hanswer hsettles hagain hrest hlater ih => exact ih.trans (readmitted_sublist ..)

/-- An answer that can be dealt with leads on to the operations that it has submitted again. -/
theorem submitOnce_of_settles (hbody : ndjson (labels.map op) = .ok body)
    (hanswer : (answered number attempt (labels.map op) body w).1 = .ok answer)
    (hsettles : Settles w.processor.policy attempt labels.length answer) (result : Result) :
    ∃ result', (submitOnce number attempt (labels.map op) result).runOn w =
      (.ok ((readmitted w.processor.policy attempt labels answer).map op, result'),
        { w with cluster := (answered number attempt (labels.map op) body w).2 }) := by
  obtain ⟨items, hitems, hclear⟩ := hsettles
  rw [← List.length_map op] at hitems
  have hagain : (readmitted w.processor.policy attempt labels answer).map op =
      resubmitted w.processor.policy attempt (labels.map op) items := by
    rw [resubmitted_eq hitems, rejectedBy_map]
    unfold readmitted
    split_ifs <;> rfl
  have hleads : Leads number attempt (labels.map op) w ((readmitted w.processor.policy attempt labels answer).map op)
      { w with cluster := (answered number attempt (labels.map op) body w).2 } :=
    ⟨body, answer, items, hbody, hanswer, hitems, hclear, hagain, rfl⟩
  obtain ⟨result', -, hrun⟩ := hleads.runOn result
  exact ⟨result', hrun⟩

/-- A batch comes to nothing with an answer that does not list one item for each operation submitted. -/
theorem Exchange.miscounted (h : Exchange number op left attempt labels w k submitted answer) {document : Json}
    (hdocument : Document.parse (.text answer) = .ok document) {g : ReadFailure}
    (hmiscounts : Miscounts submitted.length document g) (result : Result) :
    ∃ v, (submit number left attempt (labels.map op) result).runOn w = (.error (.read g), v) := by
  induction h generalizing result with
  | @here left attempt labels w body answer hbody hanswer =>
    have hunreadable : reportedItems (labels.map op).length answer = .error (.read g) := by
      rw [List.length_map]
      exact reportedItems_of_miscounts hdocument hmiscounts
    have hrun := submitOnce_runOn hbody number attempt result w
    rw [hanswer] at hrun
    change _ = (settle w.processor.policy attempt (labels.map op) result answer, _) at hrun
    rw [settle_unreadable hunreadable] at hrun
    exact ⟨_, submit_of_error left hrun⟩
  | later hbody hanswer hsettles hagain hrest hlater ih =>
    obtain ⟨result', hrun⟩ := submitOnce_of_settles hbody hanswer hsettles result
    obtain ⟨v, hv⟩ := ih hdocument hmiscounts
      { result' with retried := result'.retried + ((readmitted _ _ _ _).map op).length }
    refine ⟨v, ?_⟩
    rw [submit_of_rested hrun (by simpa using hagain) (awaitRetry_of_rests hrest)]
    exact hv

/-- A submission is the one at hand, or one that the answer to this leads to. -/
theorem Exchange.cases {answer' : String} (h : Exchange number op left attempt labels w k submitted answer')
    (hbody : ndjson (labels.map op) = .ok body)
    (hanswer : (answered number attempt (labels.map op) body w).1 = .ok answer) :
    k = attempt ∧ submitted = labels ∧ answer' = answer ∨
      ∃ left' u, left = left' + 1 ∧ readmitted w.processor.policy attempt labels answer ≠ [] ∧
        Rests (attempt + 1) { w with cluster := (answered number attempt (labels.map op) body w).2 } u ∧
        Exchange number op left' (attempt + 1) (readmitted w.processor.policy attempt labels answer) u k submitted
          answer' := by
  cases h with
  | @here _ _ _ _ body' _ hbody' hanswer' =>
    obtain rfl : body' = body := Except.ok.inj (hbody'.symm.trans hbody)
    exact .inl ⟨rfl, rfl, Except.ok.inj (hanswer'.symm.trans hanswer)⟩
  | @later left' _ _ _ _ _ u body' answer'' _ hbody' hanswer' hsettles hagain hrest hlater =>
    obtain rfl : body' = body := Except.ok.inj (hbody'.symm.trans hbody)
    obtain rfl : answer'' = answer := Except.ok.inj (hanswer'.symm.trans hanswer)
    exact .inr ⟨left', u, rfl, hagain, hrest, hlater⟩

/-- Among the submissions of a batch from one attempt on there is one whose answer acknowledges the operation. -/
def ClearedIn (number : Nat) (op : α → Operation) (left attempt : Nat) (labels : List α) (w : Writer) (a : α) : Prop :=
  ∃ k submitted answer, Exchange number op left attempt labels w k submitted answer ∧ a ∈ cleared submitted answer

/-- What is acknowledged by a submission that is the last is what its answer acknowledges. -/
theorem clearedIn_of_settled (hbody : ndjson (labels.map op) = .ok body)
    (hanswer : (answered number attempt (labels.map op) body w).1 = .ok answer)
    (hlast : left = 0 ∨ readmitted w.processor.policy attempt labels answer = []) (a : α) :
    ClearedIn number op left attempt labels w a ↔ a ∈ cleared labels answer := by
  constructor
  · rintro ⟨k, submitted, answer', hexchange, ha⟩
    rcases hexchange.cases hbody hanswer with ⟨-, rfl, rfl⟩ | ⟨left', u, hleft, hagain, -⟩
    · exact ha
    · rcases hlast with rfl | hnone
      · cases hleft
      · exact absurd hnone hagain
  · intro ha
    exact ⟨attempt, labels, answer, .here hbody hanswer, ha⟩

/-- What is acknowledged by a submission and those after it is what its answer acknowledges, and what they do. -/
theorem clearedIn_of_rested (hbody : ndjson (labels.map op) = .ok body)
    (hanswer : (answered number attempt (labels.map op) body w).1 = .ok answer)
    (hsettles : Settles w.processor.policy attempt labels.length answer)
    (hagain : readmitted w.processor.policy attempt labels answer ≠ [])
    (hrest : Rests (attempt + 1) { w with cluster := (answered number attempt (labels.map op) body w).2 } u) (a : α) :
    ClearedIn number op (left + 1) attempt labels w a ↔ a ∈ cleared labels answer ∨
      ClearedIn number op left (attempt + 1) (readmitted w.processor.policy attempt labels answer) u a := by
  constructor
  · rintro ⟨k, submitted, answer', hexchange, ha⟩
    rcases hexchange.cases hbody hanswer with ⟨-, rfl, rfl⟩ | ⟨left', u', hleft, -, hrest', hlater⟩
    · exact .inl ha
    · cases hleft
      obtain rfl := hrest.unique hrest'
      exact .inr ⟨k, submitted, answer', hlater, ha⟩
  · rintro (ha | ⟨k, submitted, answer', hexchange, ha⟩)
    · exact ⟨attempt, labels, answer, .here hbody hanswer, ha⟩
    · exact ⟨k, submitted, answer', .later hbody hanswer hsettles hagain hrest hexchange, ha⟩

/-- The successes of a batch are the operations that the answers to its submissions acknowledge, each once. -/
theorem submit_success (hnodup : labels.Nodup)
    (h : (submit number left attempt (labels.map op) result).runOn w = (.ok r, v)) :
    ∃ successes : List α, r.success = result.success + successes.length ∧ successes.Nodup ∧
      (∀ a ∈ successes, a ∈ labels) ∧ ∀ a, a ∈ successes ↔ ClearedIn number op left attempt labels w a := by
  induction left generalizing attempt labels w result with
  | zero =>
    rcases hrun : (submitOnce number attempt (labels.map op) result).runOn w with ⟨f | ⟨again, result'⟩, u⟩
    · rw [submit_of_error 0 hrun] at h
      cases h
    obtain ⟨body, answer, hbody, hanswer, hsettle, rfl⟩ := submitOnce_of_ok hrun
    have hsub := cleared_sublist labels answer
    rw [submit_of_settled hrun (.inl rfl)] at h
    cases h
    exact ⟨cleared labels answer, settle_success hsettle, hnodup.sublist hsub, fun a ha => hsub.subset ha,
      fun a => (clearedIn_of_settled hbody hanswer (.inl rfl) a).symm⟩
  | succ left ih =>
    rcases hrun : (submitOnce number attempt (labels.map op) result).runOn w with ⟨f | ⟨again, result'⟩, u⟩
    · rw [submit_of_error _ hrun] at h
      cases h
    obtain ⟨body, answer, hbody, hanswer, hsettle, rfl⟩ := submitOnce_of_ok hrun
    have hsub := cleared_sublist labels answer
    have hsuccess := settle_success hsettle
    have hsettles := settles_of_ok hsettle
    rw [List.length_map] at hsettles
    obtain ⟨rfl, -⟩ := settle_eq hsettle
    by_cases hdone : readmitted w.processor.policy attempt labels answer = []
    · rw [submit_of_settled hrun (.inr (by rw [hdone]; rfl))] at h
      cases h
      exact ⟨cleared labels answer, hsuccess, hnodup.sublist hsub, fun a ha => hsub.subset ha,
        fun a => (clearedIn_of_settled hbody hanswer (.inr hdone) a).symm⟩
    have hne : (readmitted w.processor.policy attempt labels answer).map op ≠ [] := by simpa using hdone
    rcases awaitRetry_cases (attempt + 1) { w with cluster := (answered number attempt (labels.map op) body w).2 } with
      ⟨u, hrest, hwait⟩ | ⟨-, f, u, -, hwait⟩
    · -- what is acknowledged now is not submitted again, so it is not counted twice
      have hagain := readmitted_sublist w.processor.policy attempt labels answer
      rw [submit_of_rested hrun hne hwait] at h
      obtain ⟨successes, hcount, hdistinct, hmem, hiff⟩ := ih (hnodup.sublist hagain) h
      refine ⟨cleared labels answer ++ successes, ?_, List.nodup_append.2 ⟨hnodup.sublist hsub, hdistinct, ?_⟩, ?_, ?_⟩
      · rw [hcount]
        simp only [hsuccess, List.length_append, Nat.cast_add]
        ring
      · rintro a ha b hb rfl
        exact not_mem_readmitted hnodup op ha (hmem a hb)
      · intro a ha
        rcases List.mem_append.1 ha with ha | ha
        · exact hsub.subset ha
        · exact hagain.subset (hmem a ha)
      · intro a
        rw [List.mem_append, hiff, clearedIn_of_rested hbody hanswer hsettles hdone hrest]
    · rw [submit_of_restless hrun hne hwait] at h
      cases h

theorem Exchange.le (h : Exchange number op left attempt labels w k submitted answer) : attempt ≤ k := by
  induction h with
  | here hbody hanswer => exact le_refl _
  | later hbody hanswer hsettles hagain hrest hlater ih => exact Nat.le_of_succ_le ih

/-- What is submitted after an answer is some of what that answer has submitted again. -/
theorem Exchange.follows (h : Exchange number op left attempt labels w k submitted answer) {k' : Nat}
    {submitted' : List α} {answer' : String}
    (h' : Exchange number op left attempt labels w k' submitted' answer') (hk : k < k') :
    submitted'.Sublist (readmitted w.processor.policy k submitted answer) := by
  induction h with
  | here hbody hanswer =>
    rcases h'.cases hbody hanswer with ⟨rfl, -⟩ | ⟨left', u, -, -, -, hlater⟩
    · exact absurd hk (lt_irrefl _)
    · exact hlater.sublist
  | later hbody hanswer hsettles hagain hrest hlater ih =>
    rcases h'.cases hbody hanswer with ⟨rfl, -⟩ | ⟨left', u, hleft, -, hrest', hlater'⟩
    · exact absurd (hk.trans_le (Nat.le_succ _)) (not_lt.2 hlater.le)
    · cases hleft
      obtain rfl := hrest.unique hrest'
      have hpolicy := hrest.idle.policy
      rw [← hpolicy]
      exact ih hlater' hk

/-- A batch has a submission with number `k`, which holds the operations at these places of the batch and gets this
answer. -/
def Exchanges (number : Nat) (ops : List Operation) (w : Writer) (k : Nat) (submitted : List (Fin ops.length))
    (answer : String) : Prop :=
  Exchange number ops.get w.processor.policy.maxRetries.ceil 0 (List.finRange ops.length)
    (told (.batchStarts number ops) w) k submitted answer

/-- The answer to the last submission that an operation of a batch is in acknowledges it. -/
structure Acknowledged (number : Nat) (ops : List Operation) (w : Writer) (i : Fin ops.length) (k : Nat)
    (submitted : List (Fin ops.length)) (answer : String) (document : Json) (n : Nat) : Prop where
  exchanged : Exchanges number ops w k submitted answer
  readable : Document.parse (.text answer) = .ok document
  place : submitted[n]? = some i
  acknowledges : Acknowledges submitted.length document n
  last : ∀ k' submitted' answer', Exchanges number ops w k' submitted' answer' → k < k' → i ∉ submitted'

section execute

variable {ops : List Operation}

theorem submissions_eq (number : Nat) (ops : List Operation) (w : Writer) :
    submissions number ops w =
      (submit number w.processor.policy.maxRetries.ceil 0 ((List.finRange ops.length).map ops.get)
        { total := ops.length }).runOn (told (.batchStarts number ops) w) := by
  rw [List.map_get_finRange]
  rfl

/-- No operation counts as a success that no answer acknowledges. The successes of a batch that comes to a result are
the operations that the answer to their last submission acknowledges, equal ones told apart. An answer that reports
errors and does not list one item for each operation submitted fails the batch, and whoever listens hears of that. -/
theorem success_acknowledged (number : Nat) (ops : List Operation) (w : Writer) :
    (∀ r v, (execute number ops).runOn w = (.ok r, v) → ∃ successes : List (Fin ops.length),
      r.success = successes.length ∧ successes.Nodup ∧
      ∀ i, i ∈ successes ↔ ∃ k submitted answer document n, Acknowledged number ops w i k submitted answer document n) ∧
    (∀ k submitted answer document g, Exchanges number ops w k submitted answer →
      Document.parse (.text answer) = .ok document → Miscounts submitted.length document g →
      ((execute number ops).runOn w).1 = .error (.bulk (.batch number (.read g))) ∧
      ((execute number ops).runOn w).2.heard = w.heard ++ if w.processor.listening then
        [.batchStarts number ops, .batchFails number ops (.read g)] else []) := by
  have hnodup := List.nodup_finRange ops.length
  constructor
  · intro r v hrun
    obtain ⟨result, u, took, hsub, rfl, -⟩ := execute_of_ok hrun
    rw [submissions_eq] at hsub
    obtain ⟨successes, hcount, hdistinct, -, hiff⟩ := submit_success hnodup hsub
    refine ⟨successes, by simpa using hcount, hdistinct, fun i => ?_⟩
    rw [hiff]
    constructor
    · rintro ⟨k, submitted, answer, hexchange, hi⟩
      obtain ⟨document, hdocument⟩ := parse_of_mem_cleared hi
      obtain ⟨n, hn, hacknowledges⟩ := (mem_cleared hdocument).1 hi
      have hagain : i ∉ readmitted (told (.batchStarts number ops) w).processor.policy k submitted answer :=
        not_mem_readmitted (hnodup.sublist hexchange.sublist) ops.get hi
      refine ⟨k, submitted, answer, document, n, hexchange, hdocument, hn, hacknowledges, ?_⟩
      intro k' submitted' answer' h' hk hi'
      exact hagain ((hexchange.follows h' hk).subset hi')
    · rintro ⟨k, submitted, answer, document, n, h⟩
      exact ⟨k, submitted, answer, h.exchanged, (mem_cleared h.readable).2 ⟨n, h.place, h.acknowledges⟩⟩
  · intro k submitted answer document g hexchange hdocument hmiscounts
    obtain ⟨u, hsub⟩ := hexchange.miscounted hdocument hmiscounts { total := ops.length }
    have hending : ending number ops w = .abandoned (.read g) := by
      unfold ending
      rw [submissions_eq, hsub]
      rfl
    rw [execute_heard, execute_runOn, hending]
    exact ⟨rfl, rfl⟩

end execute

/-- A network whose store always gives the same answer. -/
def repeating (answer : String) : Cluster.Network where
  respond _ _ := .response (.int 200) (.text answer)

/-- The answer of a store that reports errors and lists nothing. -/
def hollowAnswer : String := "\x7b\"errors\":true,\"items\":[]\x7d"

/-- The answer reports errors, and lists nothing. -/
def isHollow (document : Json) : Bool :=
  match document.child? (.name "errors"), document.child? (.name "items") with
  | some (.bool true), some (.arr []) => true
  | _, _ => false

theorem lists_of_isHollow {document : Json} (h : isHollow document = true) : Lists document [] := by
  unfold isHollow at h
  split at h
  · exact ⟨‹_›, ‹_›⟩
  · cases h

/-- Of two equal deletions the answer to the second submission acknowledges one. An answer that lists nothing fails the
batch of one deletion. -/
theorem success_acknowledged_after_refusal :
    (∃ r v, (execute 1 [deletion "1", deletion "1"]).runOn (steady hesitant) = (.ok r, v) ∧ r.success = 1 ∧
      ∃ i k submitted answer document n,
        Acknowledged 1 [deletion "1", deletion "1"] (steady hesitant) i k submitted answer document n) ∧
    ((execute 1 [deletion "1"]).runOn (steady (repeating hollowAnswer))).1 =
      .error (.bulk (.batch 1 (.read (.itemCount 0 1)))) := by
  constructor
  · obtain ⟨hsuccess, -⟩ := success_acknowledged 1 [deletion "1", deletion "1"] (steady hesitant)
    have hcounts : (((execute 1 [deletion "1", deletion "1"]).runOn (steady hesitant)).1.toOption.any fun r =>
        r.success = 1) = true := by decide +kernel
    rcases hrun : (execute 1 [deletion "1", deletion "1"]).runOn (steady hesitant) with ⟨f | r, v⟩
    · rw [hrun] at hcounts
      cases hcounts
    · rw [hrun] at hcounts
      have hone : r.success = 1 := by simpa [Except.toOption] using hcounts
      obtain ⟨successes, hlength, -, hiff⟩ := hsuccess r v hrun
      obtain ⟨i, rest, rfl⟩ := List.exists_cons_of_length_pos (l := successes) (by omega)
      exact ⟨r, v, rfl, hone, i, (hiff i).1 (List.mem_cons_self ..)⟩
  · obtain ⟨-, hfails⟩ := success_acknowledged 1 [deletion "1"] (steady (repeating hollowAnswer))
    obtain ⟨body, hbody⟩ : ∃ body, ndjson [deletion "1"] = .ok body := ⟨_, rfl⟩
    have hexchanges : Exchanges 1 [deletion "1"] (steady (repeating hollowAnswer)) 0 [0] hollowAnswer :=
      .here hbody rfl
    have hhollow : (Document.parse (.text hollowAnswer)).toOption.any isHollow = true := by decide +kernel
    cases hdocument : Document.parse (.text hollowAnswer) with
    | error f =>
      rw [hdocument] at hhollow
      cases hhollow
    | ok document =>
      rw [hdocument] at hhollow
      exact (hfails 0 [0] _ _ _ hexchanges hdocument (.other (lists_of_isHollow hhollow) (by decide))).1

/-- The only submission of a deletion gets this answer, and the deletion counts as a success. -/
def Credits (answer : String) : Prop :=
  ∃ r v, (execute 1 [deletion "1"]).runOn (steady (repeating answer)) = (.ok r, v) ∧
    v.cluster.world.requests.length = 1 ∧ r.success = 1

theorem credits_of_counts {answer : String}
    (hcounts : (((execute 1 [deletion "1"]).runOn (steady (repeating answer))).1.toOption.any fun r =>
      r.success = 1) = true)
    (honce : ((execute 1 [deletion "1"]).runOn (steady (repeating answer))).2.cluster.world.requests.length = 1) :
    Credits answer := by
  unfold Credits
  rcases hrun : (execute 1 [deletion "1"]).runOn (steady (repeating answer)) with ⟨f | r, v⟩
  · rw [hrun] at hcounts
    cases hcounts
  · rw [hrun] at hcounts honce
    exact ⟨r, v, rfl, honce, by simpa [Except.toOption] using hcounts⟩

/-- A deletion counts as a success with an answer that lists no items, and with one whose only item is null. -/
theorem unlisted_counts_as_success :
    Credits "\x7b\"errors\":false\x7d" ∧ (itemsOf "\x7b\"errors\":false\x7d").length = 0 ∧
      Credits "\x7b\"errors\":true,\"items\":[null]\x7d" ∧
      ((itemsOf "\x7b\"errors\":true,\"items\":[null]\x7d")[0]?.any fun item => item.kind = .object) = false := by
  refine ⟨credits_of_counts ?_ ?_, ?_, credits_of_counts ?_ ?_, ?_⟩ <;> decide +kernel

end Writer

end DocumentStore.Bulk
