import DocumentStore.Proofs.Bulk.Retry
import DocumentStore.Proofs.Bulk.Submission
import DocumentStore.Proofs.Cluster.Failover

/-! A cluster that answers every request with success, and what a processor can rely on with it: a submission is
answered and leads on to what the answer rejects, and a pause that can be borne is made. -/

namespace DocumentStore.Bulk

variable {policy : RetryPolicy} {retries delay growth : Int}

section pause

variable {seconds : Int}

/-- A pause for which the system waits is made if the clock can count it. -/
theorem pause_int {w : World} {t : Float} (ht : w.clock = .float t) (hnonneg : 0 ≤ seconds)
    (hwaits : World.refusal? w.longestWait (.int seconds) = none) :
    w.pause (.int seconds) =
      match Quantity.finiteFloat? seconds with
      | some x => (.ok (), { w.record (.sleep (.int seconds)) with clock := .float (t + x) })
      | none => (.error (.misuse .outOfRange), w.record (.sleep (.int seconds))) := by
  have hadd : (w.record (.sleep (.int seconds))).clock.add? (.int seconds) =
      (Quantity.finiteFloat? seconds).bind fun x => some (.float (t + x)) := by
    unfold World.record
    rw [ht]
    rfl
  unfold World.pause World.advance Quantity.add
  rw [hwaits]
  dsimp only
  rw [Quantity.lt_int, if_neg (by simpa using hnonneg)]
  simp only [hadd]
  cases Quantity.finiteFloat? seconds <;> rfl

theorem pause_bearable {w : World} (hclock : w.clock.Binary) (hnonneg : 0 ≤ seconds)
    (hb : Bearable w.longestWait seconds) :
    (Quantity.int seconds).writable = .ok (.int seconds) ∧
      ∃ clock, clock.Binary ∧ w.pause (.int seconds) = (.ok (), { w.record (.sleep (.int seconds)) with clock }) := by
  obtain ⟨htold, hwaits, hfinite⟩ := hb
  obtain ⟨t, ht⟩ := hclock
  obtain ⟨x, hx⟩ := Option.isSome_iff_exists.1 hfinite
  refine ⟨Quantity.writable_of_spellable htold, .float (t + x), ⟨_, rfl⟩, ?_⟩
  rw [pause_int ht hnonneg hwaits, hx]

/-- A pause that cannot be borne cannot be announced, or the system does not make it, or the clock does not count it. -/
theorem pause_not_bearable {w : World} (hclock : w.clock.Binary) (hnonneg : 0 ≤ seconds)
    (hb : ¬Bearable w.longestWait seconds) :
    (∃ m, (Quantity.int seconds).writable = .error (.misuse m)) ∨
      (Quantity.int seconds).writable = .ok (.int seconds) ∧
        ((∃ m, w.pause (.int seconds) = (.error (.misuse m), w)) ∨
          ∃ m, w.pause (.int seconds) = (.error (.misuse m), w.record (.sleep (.int seconds)))) := by
  obtain ⟨t, ht⟩ := hclock
  cases htold : (Quantity.int seconds).isSpellable with
  | false => exact .inl ⟨_, Quantity.writable_of_not_spellable htold⟩
  | true =>
    refine .inr ⟨Quantity.writable_of_spellable htold, ?_⟩
    cases hwaits : World.refusal? w.longestWait (.int seconds) with
    | some m =>
      refine .inl ⟨m, ?_⟩
      unfold World.pause
      rw [hwaits]
    | none =>
      have hnone : Quantity.finiteFloat? seconds = none := by
        by_contra hsome
        exact hb ⟨htold, hwaits, Option.isSome_iff_ne_none.2 hsome⟩
      refine .inr ⟨.outOfRange, ?_⟩
      rw [pause_int ht hnonneg hwaits, hnone]

end pause

namespace Writer

open Effect

/-- A cluster on a system that waits for so long, whose answers, from the one to its request number `base` on, all mean
success and carry these texts. Of these `k` have been given. -/
structure Serves (longestWait : Option Quantity) (answers : Nat → String) (base k : Nat) (c : Cluster) : Prop where
  ready : c.Ready
  longestWait : c.world.longestWait = longestWait
  nonempty : c.endpoints ≠ []
  budget : ∃ more, c.retryBudget = .ok more
  count : c.world.requests.length = base + k
  answered : ∀ earlier r, ∃ i payload, c.world.network.respond earlier r = .response (.int i) payload ∧
    200 ≤ i ∧ i < 300 ∧ payload.text? = some (answers (earlier.length - base))

variable {longestWait : Option Quantity} {answers : Nat → String} {base k : Nat} {ops : List Operation} {v : Writer}

/-- Nothing but a request changes what is served next. -/
theorem Serves.world {c : Cluster} (h : Serves longestWait answers base k c) {world : World}
    (hclock : world.clock.Binary) (hwait : world.longestWait = c.world.longestWait)
    (hnetwork : world.network = c.world.network) (hrequests : world.requests = c.world.requests) :
    Serves longestWait answers base k { c with world } :=
  ⟨⟨hclock, h.ready.health⟩, hwait.trans h.longestWait, h.nonempty, h.budget, hrequests ▸ h.count,
    hnetwork ▸ h.answered⟩

theorem requests_submitted {v w : World} {number attempt : Nat} {ops : List Operation} {r : Cluster.Request}
    (h : w.log = v.log ++ [.batchSubmitted number attempt ops, .request r]) : w.requests = v.requests ++ [r] := by
  unfold World.requests
  rw [h, List.filterMap_append]
  rfl

theorem Serves.requested {number attempt : Nat} {d : Cluster} (h : Serves longestWait answers base k v.cluster)
    (hd : d.Ready) (hadv : Cluster.Advances (v.logged (.batchSubmitted number attempt ops)).cluster d)
    {r : Cluster.Request}
    (hlog : d.world.log = v.cluster.world.log ++ [.batchSubmitted number attempt ops, .request r]) :
    Serves longestWait answers base (k + 1) d := by
  refine ⟨hd, hadv.longestWait.trans h.longestWait, ?_, ?_, ?_, ?_⟩
  · rw [Cluster.endpoints, hadv.nodes]
    exact h.nonempty
  · obtain ⟨more, hmore⟩ := h.budget
    refine ⟨more, ?_⟩
    rw [Cluster.retryBudget, hadv.nodes, hadv.connection]
    exact hmore
  · rw [requests_submitted hlog, List.length_append, h.count]
    rfl
  · rw [hadv.network]
    exact h.answered

/-- The request carries these operations to where batches are taken. -/
def Carries (ops : List Operation) (r : Cluster.Request) : Prop :=
  r.method = "POST" ∧ r.target = "/_bulk" ∧ ∃ body, ndjson ops = .ok body ∧ r.payload = some (.text body)

/-- What the request for a batch carries. -/
theorem encode_bulk (body : Text) : Cluster.encode (some "_bulk") (.lines body) [] = .ok ("/_bulk", some (.text body)) := by
  have htarget : Cluster.target (some "_bulk") [] = "/_bulk" := by decide +kernel
  rw [← htarget]
  rfl

/-- A submission that any node would answer with success is one request, and leads on to the operations that the answer
to it rejects. -/
theorem leads_of_answer (hc : v.cluster.Ready) (hne : v.cluster.endpoints ≠ []) {more : Nat}
    (hmore : v.cluster.retryBudget = .ok more) {body : Text} (hbody : ndjson ops = .ok body) {answer : String → String}
    (hanswer : ∀ e, ∃ i payload, v.cluster.world.network.respond v.cluster.world.requests
        ⟨e, "POST", "/_bulk", some (.text body)⟩ = .response (.int i) payload ∧
      200 ≤ i ∧ i < 300 ∧ payload.text? = some (answer e))
    (hclass : ∀ e, Classifiable ops.length (answer e)) (number attempt : Nat) :
    ∃ e d,
      Leads number attempt ops v
        (if v.processor.policy.lasts attempt then rejectedBy v.processor.policy ops (answer e) else [])
        { v with cluster := d } ∧
      d.Ready ∧ Cluster.Advances (v.logged (.batchSubmitted number attempt ops)).cluster d ∧
      d.world.log = v.cluster.world.log ++
        [.batchSubmitted number attempt ops, .request ⟨e, "POST", "/_bulk", some (.text body)⟩] := by
  have hmethod : Text.upperCase "POST" = "POST" := by decide +kernel
  have hrequests : (v.logged (.batchSubmitted number attempt ops)).cluster.world.requests = v.cluster.world.requests :=
    requests_record (by simp)
  have hlogged : (v.logged (.batchSubmitted number attempt ops)).cluster.Ready := ⟨hc.clock, hc.health⟩
  obtain ⟨e, d, hcall, hd, hadv, hlog⟩ :=
    Cluster.call_answered hlogged hne hmore "POST" (encode_bulk body) (by rw [hmethod, hrequests]; exact hanswer)
  rw [hmethod] at hlog
  change answered number attempt ops body v = (.ok (answer e), d) at hcall
  obtain ⟨items, hitems, hclear⟩ := (hclass e).clear v.processor.policy attempt
  refine ⟨e, d, ⟨body, answer e, items, hbody, by rw [hcall], hitems, hclear, ?_, by rw [hcall]⟩, hd, hadv, ?_⟩
  · rw [resubmitted_eq hitems]
  · rw [hlog]
    simp only [logged, World.record, List.append_assoc]
    rfl

/-- A submission that is served sends the operations, and leads on to those that its answer rejects. -/
theorem leads_of_serves (h : Serves longestWait answers base k v.cluster) (hops : ∀ op ∈ ops, op.Writable)
    (hclass : Classifiable ops.length (answers k)) (number : Nat) :
    ∃ u r,
      Leads number k ops v
        (if v.processor.policy.lasts k then rejectedBy v.processor.policy ops (answers k) else []) u ∧
      u.processor = v.processor ∧ Serves longestWait answers base (k + 1) u.cluster ∧
      u.cluster.world.log = v.cluster.world.log ++ [.batchSubmitted number k ops, .request r] ∧ Carries ops r := by
  obtain ⟨body, hbody⟩ := ndjson_ok hops
  obtain ⟨more, hmore⟩ := h.budget
  have hanswer (r : Cluster.Request) := h.answered v.cluster.world.requests r
  rw [h.count, Nat.add_sub_cancel_left] at hanswer
  obtain ⟨e, d, hlead, hd, hadv, hlog⟩ :=
    leads_of_answer h.ready h.nonempty hmore hbody (fun _ => hanswer _) (fun _ => hclass) number k
  exact ⟨_, _, hlead, rfl, h.requested hd hadv hlog, hlog, rfl, rfl, body, hbody, rfl⟩

theorem awaitRetry_bearable (hp : v.processor.policy.Whole retries delay growth)
    (h : Serves longestWait answers base k v.cluster) {n : Nat} (hb : Bearable longestWait (delay * growth ^ n)) :
    ∃ u, (awaitRetry (n + 1)).runOn v = (.ok (), u) ∧ u.processor = v.processor ∧
      Serves longestWait answers base k u.cluster ∧ u.cluster.world.log = v.cluster.world.log ++ [.sleep (.int (delay * growth ^ n))] := by
  have hnonneg : 0 ≤ delay * growth ^ n := mul_nonneg hp.delay_nonneg (pow_nonneg hp.growth_nonneg n)
  obtain ⟨hwritable, clock, hclock, hpause⟩ := pause_bearable h.ready.clock hnonneg (h.longestWait.symm ▸ hb)
  refine ⟨{ v with cluster := { v.cluster with
    world := { v.cluster.world.record (.sleep (.int (delay * growth ^ n))) with clock } } }, ?_, rfl, ?_, rfl⟩
  · unfold awaitRetry
    rw [runOn_bind_ok (runOn_get v), runOn_bind, runOn_ofExcept, delay_whole hp n]
    simp only
    rw [runOn_bind, runOn_ofExcept, hwritable]
    simp only [pause, runOn_ofStep, hpause]
  · exact h.world hclock rfl rfl (requests_record (by simp))

theorem awaitRetry_not_bearable (hp : v.processor.policy.Whole retries delay growth)
    (h : Serves longestWait answers base k v.cluster) {n : Nat} (hb : ¬Bearable longestWait (delay * growth ^ n)) :
    ∃ m u tail, (awaitRetry (n + 1)).runOn v = (.error (.misuse m), u) ∧ u.cluster.world.clock.Binary ∧
      u.cluster.world.log = v.cluster.world.log ++ tail ∧
      (tail = [] ∨ tail = [.sleep (.int (delay * growth ^ n))]) := by
  have hnonneg : 0 ≤ delay * growth ^ n := mul_nonneg hp.delay_nonneg (pow_nonneg hp.growth_nonneg n)
  unfold awaitRetry
  rw [runOn_bind_ok (runOn_get v), runOn_bind, runOn_ofExcept, delay_whole hp n]
  simp only
  rw [runOn_bind, runOn_ofExcept]
  rcases pause_not_bearable h.ready.clock hnonneg (h.longestWait.symm ▸ hb) with
    ⟨m, hwritable⟩ | ⟨hwritable, ⟨m, hpause⟩ | ⟨m, hpause⟩⟩
  · rw [hwritable]
    exact ⟨m, v, [], rfl, h.ready.clock, (List.append_nil _).symm, .inl rfl⟩
  · rw [hwritable]
    simp only [pause, runOn_ofStep, hpause]
    exact ⟨m, v, [], rfl, h.ready.clock, (List.append_nil _).symm, .inl rfl⟩
  · rw [hwritable]
    simp only [pause, runOn_ofStep, hpause]
    exact ⟨m, _, [.sleep (.int (delay * growth ^ n))], rfl, h.ready.clock, rfl, .inr rfl⟩

end Writer

end DocumentStore.Bulk
