import DocumentStore.Proofs.Bulk.Serving

/-! A store at the other end of a processor. It takes the writes of a bulk request in their order, but for those that it
has no room for, and says in its answer which these are. The last write on a document that it has taken decides what the
document is. -/

namespace DocumentStore.Bulk

open Cluster (Request Network Payload)

/-- A write as a store takes it: the document that it is about, and what this is from then on, if it is anything. -/
structure Write (δ : Type) where
  index : Text
  id : Text
  document : Option δ
  deriving DecidableEq, Repr

/-- The name by which a store knows an index or a document. -/
def nameOf : Json → Text
  | .str t => t
  | v => .ofString v.display

variable {δ : Type}

/-- What an operation means to a store that makes documents of bodies, with the pipelines that they go through. -/
def Operation.write (make : Json → Json → δ) (op : Operation) : Write δ where
  index := nameOf op.index
  id := nameOf op.id
  document :=
    match op.action with
    | .index body pipeline => some (make body pipeline)
    | .delete => none

def Operation.concerns (op : Operation) (index id : Text) : Bool := nameOf op.index = index && nameOf op.id = id

/-- The documents of a store, by their indices and names. -/
abbrev Content (δ : Type) := Text → Text → Option δ

def Write.apply (c : Content δ) (w : Write δ) : Content δ := fun index id =>
  if w.index = index && w.id = id then w.document else c index id

/-- The documents after some writes, one after the other. -/
def contentAfter (ws : List (Write δ)) (c : Content δ) : Content δ := ws.foldl Write.apply c

/-- The last operation on a document decides what it is. -/
theorem contentAfter_last (make : Json → Json → δ) (ops : List Operation) (c : Content δ) (index id : Text) :
    contentAfter (ops.map (·.write make)) c index id =
      ((ops.filter (·.concerns index id)).getLast?).elim (c index id) fun op => (op.write make).document := by
  unfold contentAfter
  induction ops using List.reverseRecOn with
  | nil => rfl
  | append_singleton ops op ih =>
    rw [List.map_append, List.foldl_append, List.filter_append]
    change (if op.concerns index id then _ else _) = _
    cases hop : op.concerns index id with
    | true => simp [hop]
    | false => simpa [hop] using ih

/-- A store: which writes it finds in the payload of a request, and for which of them, by their places, it has no room
when the request comes after others. -/
structure Store (δ : Type) where
  reads : Option Payload → List (Write δ)
  refuses : List Request → Request → Nat → Bool

/-- The answer says of each place of a submission whether its write was refused, with an error that the policy has
submitted again. -/
structure Tells (policy : RetryPolicy) (submitted : Nat) (answer : String) (refused : Nat → Bool) : Prop where
  classifiable : Classifiable submitted answer
  rejects : ∀ n < submitted, Rejects policy submitted answer n ↔ refused n = true

namespace Store

variable (store : Store δ)

/-- The writes of a request that the store takes. -/
def taken (earlier : List Request) (r : Request) : List (Write δ) :=
  ((store.reads r.payload).zipIdx.filter fun p => !store.refuses earlier r p.2).map Prod.fst

/-- The writes that the store takes from one request after the other. -/
def applied : (earlier sent : List Request) → List (Write δ)
  | _, [] => []
  | earlier, r :: sent => store.taken earlier r ++ applied (earlier ++ [r]) sent

/-- The store is what answers bulk requests on the network: with success, and with what it has refused. -/
structure Backs (policy : RetryPolicy) (network : Network) : Prop where
  answers : ∀ earlier (r : Request), r.method = "POST" → r.target = "/_bulk" → ∃ i payload answer,
    network.respond earlier r = .response (.int i) payload ∧ 200 ≤ i ∧ i < 300 ∧ payload.text? = some answer ∧
      Tells policy (store.reads r.payload).length answer (store.refuses earlier r)

/-- The store finds in the body of a batch what the operations of the batch mean, whichever of some operations these
are. -/
def Reads (make : Json → Json → δ) (ops : List Operation) : Prop :=
  ∀ (batch : List Operation) (body : Text), batch.Sublist ops → ndjson batch = .ok body →
    store.reads (some (.text body)) = batch.map (·.write make)

variable {store}

theorem Reads.mono {make : Json → Json → δ} {ops ops' : List Operation} (h : store.Reads make ops)
    (hsub : ops'.Sublist ops) : store.Reads make ops' := fun batch body hbatch => h batch body (hbatch.trans hsub)

theorem applied_append (earlier xs ys : List Request) :
    store.applied earlier (xs ++ ys) = store.applied earlier xs ++ store.applied (earlier ++ xs) ys := by
  induction xs generalizing earlier with
  | nil => simp [applied]
  | cons r xs ih =>
    rw [List.cons_append, applied, applied, ih, List.append_assoc, List.append_assoc, List.singleton_append]

end Store

section labels

variable {α : Type} [DecidableEq α] {labels : List α}

theorem zipIdx_eq_idxOf (hnodup : labels.Nodup) : labels.zipIdx = labels.map fun a => (a, labels.idxOf a) := by
  apply List.ext_getElem
  · simp
  · intro n hn _
    have hn : n < labels.length := by simpa using hn
    simp [hnodup.idxOf_getElem n hn]

/-- What is kept of distinct things is what is among the kept ones. -/
theorem filter_mem_of_sublist {kept : List α} (hnodup : labels.Nodup) (h : kept.Sublist labels) :
    labels.filter (· ∈ kept) = kept := by
  have hself : kept.filter (· ∈ kept) = kept := List.filter_eq_self.2 (by simp)
  have hsub : kept.Sublist (labels.filter (· ∈ kept)) := by
    have := h.filter (· ∈ kept)
    rwa [hself] at this
  have hperm : kept.Perm (labels.filter (· ∈ kept)) := by
    refine (List.perm_ext_iff_of_nodup (hnodup.sublist h) (hnodup.filter _)).2 fun a => ?_
    rw [List.mem_filter, decide_eq_true_eq]
    exact ⟨fun ha => ⟨h.subset ha, ha⟩, fun ha => ha.2⟩
  exact (hsub.eq_of_length hperm.length_eq).symm

/-- An answer that tells what was refused has just that submitted again. -/
theorem rejectedBy_of_tells {policy : RetryPolicy} {answer : String} {refused : Nat → Bool} (hnodup : labels.Nodup)
    (h : Tells policy labels.length answer refused) :
    rejectedBy policy labels answer = labels.filter fun a => refused (labels.idxOf a) := by
  rw [← filter_mem_of_sublist hnodup (rejectedBy_sublist policy labels answer)]
  refine List.filter_congr fun a ha => ?_
  have hn := List.idxOf_lt_length_iff.2 ha
  have hget : labels[labels.idxOf a] = a := List.getElem_idxOf hn
  have hmem : labels[labels.idxOf a] ∈ rejectedBy policy labels answer ↔
      Rejects policy labels.length answer (labels.idxOf a) := getElem_mem_rejectedBy hnodup hn
  rw [hget, h.rejects _ hn] at hmem
  rw [Bool.eq_iff_iff, decide_eq_true_eq]
  exact hmem

/-- The store takes of a request what it does not refuse. -/
theorem Store.taken_eq {store : Store δ} (earlier : List Request) {r : Request} {f : α → Write δ}
    (hnodup : labels.Nodup) (hr : store.reads r.payload = labels.map f) :
    store.taken earlier r = (labels.filter fun a => !store.refuses earlier r (labels.idxOf a)).map f := by
  unfold taken
  rw [hr, List.zipIdx_map, zipIdx_eq_idxOf hnodup, List.map_map, List.filter_map, List.map_map]
  rfl

end labels

section tells

variable {policy : RetryPolicy} {submitted : Nat} {answer : String} {refused : Nat → Bool}

/-- An answer tells what it rejects. -/
theorem tells_of_rejectedBy (hclass : Classifiable submitted answer)
    (h : ∀ n < submitted, n ∈ rejectedBy policy (List.range submitted) answer ↔ refused n = true) :
    Tells policy submitted answer refused := by
  refine ⟨hclass, fun n hn => ?_⟩
  have hrange : n < (List.range submitted).length := by simpa using hn
  have hmem : (List.range submitted)[n] ∈ rejectedBy policy (List.range submitted) answer ↔
      Rejects policy (List.range submitted).length answer n := getElem_mem_rejectedBy List.nodup_range hrange
  simp only [List.getElem_range, List.length_range] at hmem
  exact hmem.symm.trans (h n hn)

/-- An answer that reports no errors tells that nothing was refused. -/
theorem tells_of_none (h : reportedItems submitted answer = .ok none) (hrefused : ∀ n, refused n = false) :
    Tells policy submitted answer refused := by
  refine tells_of_rejectedBy ⟨none, h, by simp⟩ fun n _ => ?_
  unfold rejectedBy
  rw [List.length_range, h, hrefused]
  simp

end tells

end DocumentStore.Bulk
