import DocumentStore.Proofs.Bulk.Fault
import DocumentStore.Proofs.Bulk.Reporting
import DocumentStore.Proofs.Bulk.Store

/-! One batch on its way into a store. What the store refuses is submitted again, by itself, so that the operations of
the batch reach the store in the order of how often each of them is refused. -/

namespace DocumentStore.Bulk

open Cluster (Request)
open Writer (Carries)

/-- A batch that is delivered: its operations, each with how often the store refuses it, and how often something of the
batch is submitted. -/
structure Shipment where
  ranked : List (Operation × Nat)
  rounds : Nat

namespace Shipment

def operations (s : Shipment) : List Operation := s.ranked.map Prod.fst

/-- The operations of each submission: those that were refused in all submissions before. -/
def submissions (s : Shipment) : List (List Operation) :=
  (List.range s.rounds).map fun k => (s.ranked.filter (k ≤ ·.2)).map Prod.fst

/-- The operations in the order in which the store takes them. -/
def inTurn (s : Shipment) : List Operation :=
  (List.range s.rounds).flatMap fun k => (s.ranked.filter (·.2 = k)).map Prod.fst

end Shipment

section Delivers

variable {α δ : Type} [DecidableEq α] {store : Store δ} {op : α → Operation} {labels : List α}
  {earlier sent : List Request} {make : Json → Json → δ}

/-- Requests that carry operations to a store: each one carries those that the store has refused of the one before. -/
inductive Delivers (store : Store δ) (op : α → Operation) :
    (earlier : List Request) → (labels : List α) → (sent : List Request) → Prop
  | ended {earlier : List Request} {labels : List α} : Delivers store op earlier labels []
  | onward {earlier sent : List Request} {labels : List α} {r : Request} (hr : Carries (labels.map op) r)
    (hrest : Delivers store op (earlier ++ [r])
      (labels.filter fun a => store.refuses earlier r (labels.idxOf a)) sent) :
    Delivers store op earlier labels (r :: sent)

omit [DecidableEq α] in
theorem Store.Reads.carried (hreads : store.Reads make (labels.map op)) {r : Request} (hr : Carries (labels.map op) r) :
    store.reads r.payload = labels.map fun a => (op a).write make := by
  obtain ⟨-, -, body, hbody, hpayload⟩ := hr
  rw [hpayload, hreads _ body (List.Sublist.refl _) hbody, List.map_map]
  rfl

/-- Each operation is refused some number of times, and that says which submissions it is in and when it is taken. -/
theorem Delivers.ranks (h : Delivers store op earlier labels sent) (hnodup : labels.Nodup)
    (hreads : store.Reads make (labels.map op)) :
    ∃ rank : α → Nat,
      List.Forall₂ Carries ((List.range sent.length).map fun k => (labels.filter (k ≤ rank ·)).map op) sent ∧
      store.applied earlier sent =
        (List.range sent.length).flatMap fun k => (labels.filter (rank · = k)).map fun a => (op a).write make := by
  induction h with
  | ended => exact ⟨fun _ => 0, .nil, rfl⟩
  | @onward earlier sent labels r hr hrest ih =>
    set refused := labels.filter fun a => store.refuses earlier r (labels.idxOf a) with hrefused
    have hsub : refused.Sublist labels := List.filter_sublist
    obtain ⟨rank, hcarries, happlied⟩ := ih (hnodup.sublist hsub) (hreads.mono (hsub.map op))
    have htaken := Store.taken_eq earlier hnodup (hreads.carried hr)
    -- what is refused now is refused once more than from the next request on
    let rank' (a : α) : Nat := if a ∈ refused then rank a + 1 else 0
    have hrank (a : α) (ha : a ∈ labels) :
        rank' a = if store.refuses earlier r (labels.idxOf a) then rank a + 1 else 0 := by
      have : a ∈ refused ↔ store.refuses earlier r (labels.idxOf a) = true := by
        rw [hrefused, List.mem_filter]
        exact and_iff_right ha
      simp only [rank', this]
    have hlater (p : Nat → Bool) (hp : p 0 = false) :
        labels.filter (fun a => p (rank' a)) = refused.filter fun a => p (rank a + 1) := by
      rw [hrefused, List.filter_filter]
      refine List.filter_congr fun a ha => ?_
      rw [hrank a ha]
      cases store.refuses earlier r (labels.idxOf a) <;> simp [hp]
    have hnow : labels.filter (fun a => rank' a = 0) =
        labels.filter fun a => !store.refuses earlier r (labels.idxOf a) := by
      refine List.filter_congr fun a ha => ?_
      rw [hrank a ha]
      cases store.refuses earlier r (labels.idxOf a) <;> simp
    have hstays (k : Nat) : labels.filter (k + 1 ≤ rank' ·) = refused.filter (k ≤ rank ·) := by
      simpa using hlater (fun n => k + 1 ≤ n) (by simp)
    have htakes (k : Nat) : labels.filter (rank' · = k + 1) = refused.filter (rank · = k) := by
      simpa using hlater (fun n => n = k + 1) (by simp)
    refine ⟨rank', ?_, ?_⟩
    · rw [List.length_cons, List.range_succ_eq_map, List.map_cons, List.map_map]
      refine .cons (by simpa using hr) ?_
      convert hcarries using 2
      funext k
      exact congrArg (List.map op) (hstays k)
    · rw [List.length_cons, List.range_succ_eq_map, List.flatMap_cons, hnow, Store.applied, htaken, happlied,
        List.flatMap_map]
      congr 1
      exact List.flatMap_congr fun k _ => congrArg _ (htakes k).symm

/-- A whole batch that is delivered is a shipment. -/
theorem Delivers.shipment {ops : List Operation} (h : Delivers store ops.get earlier (List.finRange ops.length) sent)
    (hreads : store.Reads make ops) :
    ∃ s : Shipment, s.operations = ops ∧ List.Forall₂ Carries s.submissions sent ∧
      store.applied earlier sent = s.inTurn.map (·.write make) := by
  have hget : (List.finRange ops.length).map ops.get = ops := List.map_get_finRange ops
  obtain ⟨rank, hcarries, happlied⟩ := h.ranks (List.nodup_finRange _) (hget.symm ▸ hreads)
  refine ⟨⟨(List.finRange ops.length).map fun i => (ops.get i, rank i), sent.length⟩, ?_, ?_, ?_⟩
  · unfold Shipment.operations
    rw [List.map_map]
    exact hget
  · convert hcarries using 1
    unfold Shipment.submissions
    refine List.map_congr_left fun k _ => ?_
    rw [List.filter_map, List.map_map]
    rfl
  · rw [happlied]
    unfold Shipment.inTurn
    rw [List.map_flatMap]
    refine List.flatMap_congr fun k _ => ?_
    rw [List.filter_map, List.map_map, List.map_map]
    rfl

end Delivers

end DocumentStore.Bulk
