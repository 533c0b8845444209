import DocumentStore.Proofs.Bulk.Drain
import DocumentStore.Proofs.Bulk.Idle
import DocumentStore.Proofs.Bulk.Shipment

/-! What a processor sends to a store that answers it. Every flush delivers the queue, or what can be delivered of it,
so that a run delivers what it has accepted, batch by batch. -/

namespace DocumentStore.Bulk.Writer

open Effect
open Cluster (Request)

variable {α δ : Type} [DecidableEq α] {store : Store δ} {make : Json → Json → δ} {op : α → Operation} {labels : List α}
  {number attempt : Nat} {v w : Writer}

/-- A processor whose cluster can judge its nodes, with a store that answers for them. -/
structure Backed (store : Store δ) (w : Writer) : Prop where
  ready : w.cluster.Ready
  backs : store.Backs w.processor.policy w.cluster.world.network

theorem Backed.idle (h : Backed store v) (hi : Idle v w) : Backed store w := by
  refine ⟨hi.ready h.ready, ?_⟩
  rw [hi.network, hi.policy]
  exact h.backs

/-- Where there is nobody to ask, a submission fails and nothing is sent. -/
theorem answered_unasked (h : v.cluster.endpoints = [] ∨ ∃ f, v.cluster.retryBudget = .error f) (number attempt : Nat)
    (ops : List Operation) (body : Text) :
    ∃ f d, answered number attempt ops body v = (.error f, d) ∧ Idle v { v with cluster := d } := by
  have hlogged : (v.logged (.batchSubmitted number attempt ops)).cluster.endpoints = [] ∨
      ∃ f, (v.logged (.batchSubmitted number attempt ops)).cluster.retryBudget = .error f := h
  obtain ⟨f, counter, hcall⟩ := Cluster.call_unasked hlogged "POST" (some "_bulk") (.lines body) []
  have hidle : Idle v (v.logged (.batchSubmitted number attempt ops)) := idle_logged (by simp) v
  exact ⟨f, _, hcall, hidle.policy, hidle.health, hidle.network, hidle.requests, hidle.clock⟩

/-- Where there is somebody to ask, a submission sends the operations, and leads on to those that the store refuses if
a retry is left. -/
theorem submitOnce_asked (h : Backed store v) (hnodup : labels.Nodup) (hreads : store.Reads make (labels.map op))
    (hne : v.cluster.endpoints ≠ []) {more : Nat} (hmore : v.cluster.retryBudget = .ok more) {body : Text}
    (hbody : ndjson (labels.map op) = .ok body) (number attempt : Nat) (result : Result) :
    ∃ r again result' d, Carries (labels.map op) r ∧
      (submitOnce number attempt (labels.map op) result).runOn v =
        (.ok (again.map op, result'), { v with cluster := d }) ∧
      (again = [] ∨ again = labels.filter fun a => store.refuses v.cluster.world.requests r (labels.idxOf a)) ∧
      d.world.requests = v.cluster.world.requests ++ [r] ∧ Backed store { v with cluster := d } := by
  have hread : (store.reads (some (.text body))).length = labels.length := by
    rw [hreads _ body (List.Sublist.refl _) hbody, List.length_map, List.length_map]
  have hanswers (e : String) :=
    h.backs.answers v.cluster.world.requests ⟨e, "POST", "/_bulk", some (.text body)⟩ rfl rfl
  simp only [hread] at hanswers
  choose i payload answer hresponse hge hlt htext htells using hanswers
  have hclass (e : String) : Classifiable (labels.map op).length (answer e) := by
    rw [List.length_map]
    exact (htells e).classifiable
  obtain ⟨e, d, hlead, hd, hadv, hlog⟩ :=
    leads_of_answer h.ready hne hmore hbody (fun e => ⟨i e, payload e, hresponse e, hge e, hlt e, htext e⟩) hclass
      number attempt
  obtain ⟨result', -, hrun⟩ := hlead.runOn result
  rw [rejectedBy_map, rejectedBy_of_tells hnodup (htells e)] at hrun
  have hbacked : Backed store { v with cluster := d } := by
    refine ⟨hd, ?_⟩
    rw [hadv.network]
    exact h.backs
  have hcarries : Carries (labels.map op) ⟨e, "POST", "/_bulk", some (.text body)⟩ := ⟨rfl, rfl, body, hbody, rfl⟩
  by_cases hlasts : v.processor.policy.lasts attempt = true
  · rw [if_pos hlasts] at hrun
    exact ⟨_, _, result', d, hcarries, hrun, .inr rfl, requests_submitted hlog, hbacked⟩
  · rw [if_neg hlasts] at hrun
    exact ⟨_, [], result', d, hcarries, hrun, .inl rfl, requests_submitted hlog, hbacked⟩

/-- A submission sends the operations and leads on to those that the store refuses, or it sends nothing. -/
theorem submitOnce_backed (h : Backed store v) (hnodup : labels.Nodup) (hreads : store.Reads make (labels.map op))
    (number attempt : Nat) (result : Result) :
    (∃ f u, (submitOnce number attempt (labels.map op) result).runOn v = (.error f, u) ∧ Idle v u) ∨
      ∃ r again result' d, Carries (labels.map op) r ∧
        (submitOnce number attempt (labels.map op) result).runOn v =
          (.ok (again.map op, result'), { v with cluster := d }) ∧
        (again = [] ∨ again = labels.filter fun a => store.refuses v.cluster.world.requests r (labels.idxOf a)) ∧
        d.world.requests = v.cluster.world.requests ++ [r] ∧ Backed store { v with cluster := d } := by
  rcases ndjson_cases (labels.map op) with ⟨-, body, hbody⟩ | ⟨-, x, hx⟩
  · by_cases hunasked : v.cluster.endpoints = [] ∨ ∃ f, v.cluster.retryBudget = .error f
    · obtain ⟨f, d, hanswered, hidle⟩ := answered_unasked hunasked number attempt (labels.map op) body
      refine .inl ⟨f, _, ?_, hidle⟩
      rw [submitOnce_runOn hbody, hanswered]
      rfl
    · obtain ⟨hne, hbudget⟩ := not_or.1 hunasked
      cases hmore : v.cluster.retryBudget with
      | error f => exact absurd ⟨f, hmore⟩ hbudget
      | ok more => exact .inr (submitOnce_asked h hnodup hreads hne hmore hbody number attempt result)
  · exact .inl ⟨_, v, submitOnce_unwritable hx .., refl v⟩

/-- From `v` to `w` some requests have delivered the operations to the store. -/
def Sends (store : Store δ) (op : α → Operation) (labels : List α) (v w : Writer) : Prop :=
  ∃ sent, w.cluster.world.requests = v.cluster.world.requests ++ sent ∧
    Delivers store op v.cluster.world.requests labels sent ∧ Backed store w

/-- However the submissions of a batch end, they have delivered what they could of it. -/
theorem submit_sends (h : Backed store v) (hnodup : labels.Nodup) (hreads : store.Reads make (labels.map op))
    (number left attempt : Nat) (result : Result) :
    Sends store op labels v ((submit number left attempt (labels.map op) result).runOn v).2 := by
  induction left generalizing attempt labels v result with
  | zero =>
    rcases submitOnce_backed h hnodup hreads number attempt result with ⟨f, u, hrun, hidle⟩ |
      ⟨r, again, result', d, hr, hrun, -, hrequests, hd⟩
    · rw [submit_of_error 0 hrun]
      exact ⟨[], hidle.requests.trans (List.append_nil _).symm, .ended, h.idle hidle⟩
    · rw [submit_of_settled hrun (.inl rfl)]
      exact ⟨[r], hrequests, .onward hr .ended, hd⟩
  | succ left ih =>
    rcases submitOnce_backed h hnodup hreads number attempt result with ⟨f, u, hrun, hidle⟩ |
      ⟨r, again, result', d, hr, hrun, hagain, hrequests, hd⟩
    · rw [submit_of_error _ hrun]
      exact ⟨[], hidle.requests.trans (List.append_nil _).symm, .ended, h.idle hidle⟩
    · by_cases hne : again = []
      · rw [submit_of_settled hrun (.inr (by rw [hne]; rfl))]
        exact ⟨[r], hrequests, .onward hr .ended, hd⟩
      · obtain rfl := hagain.resolve_left hne
        have hidle := keeps_idle_awaitRetry (attempt + 1) { v with cluster := d }
        rcases hwait : (awaitRetry (attempt + 1)).runOn { v with cluster := d } with ⟨f | _, u⟩
        · rw [hwait] at hidle
          rw [submit_of_restless hrun (by simpa using hne) hwait]
          exact ⟨[r], hidle.requests.trans hrequests, .onward hr .ended, hd.idle hidle⟩
        · rw [hwait] at hidle
          rw [submit_of_rested hrun (by simpa using hne) hwait]
          have hsub := List.filter_sublist
            (p := fun a => store.refuses v.cluster.world.requests r (labels.idxOf a)) (l := labels)
          obtain ⟨sent, hsent, hdelivers, hu⟩ := ih (hd.idle hidle) (hnodup.sublist hsub)
            (hreads.mono (hsub.map op)) (attempt + 1) { result' with retried := result'.retried + _ }
          have hstart : u.cluster.world.requests = v.cluster.world.requests ++ [r] := hidle.requests.trans hrequests
          rw [hstart] at hsent hdelivers
          exact ⟨r :: sent, by rw [hsent, List.append_assoc]; rfl, .onward hr hdelivers, hu⟩

theorem execute_sends {ops : List Operation} (h : Backed store v) (hreads : store.Reads make ops) (number : Nat) :
    Sends store ops.get (List.finRange ops.length) v ((execute number ops).runOn v).2 := by
  have hget : (List.finRange ops.length).map ops.get = ops := List.map_get_finRange ops
  have hstart : Idle v (told (.batchStarts number ops) v) := idle_told (by simp) v
  have hsends := submit_sends (h.idle hstart) (List.nodup_finRange ops.length) (hget.symm ▸ hreads) number
    v.processor.policy.maxRetries.ceil 0 { total := ops.length }
  rw [hget] at hsends
  obtain ⟨sent, hsent, hdelivers, hu⟩ := hsends
  rw [hstart.requests] at hsent hdelivers
  rw [execute_runOn]
  have hend := idle_foldl_told (report_no_request number ops (ending number ops v)) (submissions number ops v).2
  exact ⟨sent, hend.requests.trans hsent, hdelivers, Backed.idle hu hend⟩

/-- After the requests `earlier` some batches are delivered to the store with the requests `sent`. -/
structure Delivered (store : Store δ) (make : Json → Json → δ) (earlier : List Request) (shipments : List Shipment)
    (sent : List Request) : Prop where
  carries : List.Forall₂ Carries (shipments.flatMap Shipment.submissions) sent
  applied : store.applied earlier sent = (shipments.flatMap Shipment.inTurn).map (·.write make)

omit [DecidableEq α] in
theorem Delivered.append {earlier sent sent' : List Request} {shipments shipments' : List Shipment}
    (h : Delivered store make earlier shipments sent) (h' : Delivered store make (earlier ++ sent) shipments' sent') :
    Delivered store make earlier (shipments ++ shipments') (sent ++ sent') := by
  refine ⟨?_, ?_⟩
  · rw [List.flatMap_append]
    exact List.rel_append h.carries h'.carries
  · rw [Store.applied_append, h.applied, h'.applied, List.flatMap_append, List.map_append]

/-- A flush delivers the queue as one batch, unless the queue is empty. -/
theorem flush_delivers (h : Backed store v) (hreads : store.Reads make v.processor.queue) :
    Backed store (flush.runOn v).2 ∧ (flush.runOn v).2.processor.queue = [] ∧
      ∃ shipments sent, (flush.runOn v).2.cluster.world.requests = v.cluster.world.requests ++ sent ∧
        Delivered store make v.cluster.world.requests shipments sent ∧
        shipments.flatMap Shipment.operations = v.processor.queue := by
  by_cases hq : v.processor.queue = []
  · rw [flush_of_nil hq, hq]
    exact ⟨⟨h.ready, h.backs⟩, rfl, [], [], (List.append_nil _).symm, ⟨.nil, rfl⟩, rfl⟩
  · rw [flush_of_ne_nil hq]
    have hemptied : Backed store v.emptied := ⟨h.ready, h.backs⟩
    obtain ⟨sent, hsent, hdelivers, hu⟩ := execute_sends hemptied hreads (v.processor.batches + 1)
    obtain ⟨s, hops, hcarries, happlied⟩ := hdelivers.shipment hreads
    refine ⟨hu, ?_, [s], sent, hsent, ⟨?_, ?_⟩, ?_⟩
    · simp only [execute_processor]
      rfl
    · rwa [List.flatMap_singleton]
    · rwa [List.flatMap_singleton]
    · rwa [List.flatMap_singleton]

/-- The invariant of a run after the requests `base`: what it has accepted is delivered, or waits in the queue. -/
def Delivering (store : Store δ) (make : Json → Json → δ) (base : List Request) (acc : List Operation) (w : Writer) :
    Prop :=
  store.Reads make acc → Backed store w ∧ ∃ shipments sent, w.cluster.world.requests = base ++ sent ∧
    Delivered store make base shipments sent ∧ shipments.flatMap Shipment.operations ++ w.processor.queue = acc

theorem next_delivering {base : List Request} {acc : List Operation} {s : Step} (hs : ∀ ops, s ≠ .addAll ops)
    (h : Delivering store make base acc w) : Delivering store make base (acc ++ w.accepted s) (w.next s) := by
  intro hreads
  obtain ⟨hw, shipments, sent, hsent, hdelivered, hops⟩ := h (hreads.mono (List.sublist_append_left _ _))
  obtain ⟨v, hv, ⟨hf, r, hr⟩ | ⟨hf, hr⟩⟩ := perform_cases w hs
  · have hnext : w.next s = v := by rw [next, hr]
    have hidle := idle_of_not_flushing hs hf
    rw [hnext] at hidle ⊢
    refine ⟨hw.idle hidle, shipments, sent, hidle.requests.trans hsent, hdelivered, ?_⟩
    rw [hv.queue, ← List.append_assoc, hops]
  · have hnext : w.next s = (flush.runOn v).2 := by rw [next, hr]
    have hidle := idle_of_flushing hf
    have hqueue : shipments.flatMap Shipment.operations ++ v.processor.queue = acc ++ w.accepted s := by
      rw [hv.queue, ← List.append_assoc, hops]
    obtain ⟨hu, hempty, new, sent', hsent', hdelivered', hops'⟩ := flush_delivers (hw.idle hidle)
      (hreads.mono (hqueue ▸ List.sublist_append_right _ _))
    have hstart : v.cluster.world.requests = base ++ sent := hidle.requests.trans hsent
    rw [hstart] at hsent' hdelivered'
    rw [hnext]
    refine ⟨hu, shipments ++ new, sent ++ sent', ?_, hdelivered.append hdelivered', ?_⟩
    · rw [hsent', List.append_assoc]
    · rw [List.flatMap_append, hops', hempty, List.append_nil, hqueue]

end DocumentStore.Bulk.Writer
