import DocumentStore.Proofs.Cluster.Failover
import DocumentStore.Proofs.Node.Trace

/-! What a call leaves behind. To choose a node may bring a removed one back, but only the one that is asked then, and
its answer decides at once what becomes of it. So between calls the state of a node is a matter of how often it has
failed since it last answered otherwise. -/

namespace DocumentStore

namespace Node

/-- The state of a node that has failed so often in a row. -/
def stateAfter (threshold : Quantity) (failures : Nat) : State :=
  if failures = 0 then .healthy else if threshold.le (.int failures) then .removed else .suspected

theorem stateAfter_eq_healthy_iff {threshold : Quantity} {n : Nat} :
    stateAfter threshold n = .healthy ↔ n = 0 := by
  unfold stateAfter
  split_ifs with hn hle <;> simp [hn]

theorem stateAfter_eq_removed_iff {threshold : Quantity} (hthreshold : threshold.lt (.int 1) = false) {n : Nat} :
    stateAfter threshold n = .removed ↔ threshold.le (.int n) = true := by
  unfold stateAfter
  split_ifs with hn hle
  · subst hn
    simp [Quantity.not_le_zero hthreshold]
  · simp [hle]
  · simp [hle]

theorem stateAfter_eq_suspected_iff {threshold : Quantity} {n : Nat} :
    stateAfter threshold n = .suspected ↔ 0 < n ∧ threshold.le (.int n) = false := by
  unfold stateAfter
  split_ifs with hn hle
  · simp [hn]
  · simp [hle]
  · simp [hle, Nat.pos_of_ne_zero hn]

namespace Health

/-- The node has failed so often in a row, and nothing else shows in its state. -/
structure Settled (h : Health) (threshold : Quantity) (e : String) (failures : Nat) : Prop where
  count : (h.status e).consecutiveFailures = failures
  state : (h.status e).state = stateAfter threshold failures

theorem isAvailable_counts (h : Health) (now : Quantity) (e e' : String) :
    ((h.isAvailable now e).2.status e').consecutiveFailures = (h.status e').consecutiveFailures := by
  rw [isAvailable_snd, status_setStatus]
  by_cases he : e' = e
  · subst he
    rw [if_pos rfl]
    split
    · split_ifs <;> rfl
    · rfl
  · rw [if_neg he]

/-- A node stays as it is unless somebody is told that it may be asked. -/
theorem isAvailable_spares (h : Health) (now : Quantity) {e e' : String}
    (he : e' ≠ e ∨ (h.isAvailable now e).1 ≠ .ok true) : (h.isAvailable now e).2.status e' = h.status e' := by
  rw [isAvailable_snd, status_setStatus]
  by_cases heq : e' = e
  · subst heq
    rw [if_pos rfl]
    split
    · rename_i htrue
      exact absurd htrue (he.resolve_left (by simp))
    · rfl
  · rw [if_neg heq]

theorem firstAvailable_counts (h : Health) (now : Quantity) (es : List String) (e' : String) :
    ((h.firstAvailable now es).2.status e').consecutiveFailures = (h.status e').consecutiveFailures :=
  firstAvailable_keeps (R := fun h h' => (h'.status e').consecutiveFailures = (h.status e').consecutiveFailures)
    (fun _ => rfl) (fun hfirst hrest => hrest.trans hfirst) (fun h e => h.isAvailable_counts now e e') h es

/-- Of the nodes that are looked at, only the one that is found may come back from where it was. -/
theorem firstAvailable_spares (h : Health) (now : Quantity) (es : List String) {e' : String}
    (he : (h.firstAvailable now es).1 ≠ .ok (some e')) : (h.firstAvailable now es).2.status e' = h.status e' := by
  induction es generalizing h with
  | nil => rfl
  | cons e es ih =>
    have hfirst (hspared : e' ≠ e ∨ (h.isAvailable now e).1 ≠ .ok true) := h.isAvailable_spares now hspared
    unfold firstAvailable at he ⊢
    split at he <;> rename_i h' heq <;> simp only [heq] at hfirst ⊢
    · exact hfirst (.inr (by simp))
    · refine hfirst (.inl ?_)
      rintro rfl
      exact he rfl
    · exact (ih h' he).trans (hfirst (.inr (by simp)))

/-- What an answer of a node, bad or not, makes of its health. -/
def judge (h : Health) (now : Quantity) (e : String) (bad : Bool) : Health :=
  if bad then (h.markFailure now e).2 else h.markSuccess e

theorem judge_snd (h : Health) (now : Quantity) (e : String) (bad : Bool) :
    ∃ s, h.judge now e bad = h.setStatus e s := by
  unfold judge
  split_ifs
  · obtain ⟨s, hs, -⟩ := h.markFailure_snd now e
    exact ⟨s, hs⟩
  · exact ⟨{}, rfl⟩

theorem judge_sameLimits (h : Health) (now : Quantity) (e : String) (bad : Bool) :
    SameLimits h (h.judge now e bad) := by
  obtain ⟨s, hs⟩ := h.judge_snd now e bad
  rw [hs]
  exact h.setStatus_sameLimits e s

theorem judge_spares (h : Health) (now : Quantity) {e e' : String} (he : e' ≠ e) (bad : Bool) :
    (h.judge now e bad).status e' = h.status e' := by
  obtain ⟨s, hs⟩ := h.judge_snd now e bad
  rw [hs, status_setStatus, if_neg he]

/-- Once its answer is judged a node is settled, whatever state it was in before. -/
theorem judge_settled {h : Health} {threshold : Quantity} (hlimit : h.failureThreshold = some threshold)
    (htold : h.tellsTimeout = true) (now : Quantity) (e : String) (bad : Bool) :
    (h.judge now e bad).Settled threshold e (if bad then (h.status e).consecutiveFailures + 1 else 0) := by
  cases bad with
  | false => constructor <;> simp [judge, markSuccess, status_setStatus, stateAfter]
  | true =>
    unfold judge
    rw [if_pos rfl, if_pos rfl, markFailure_told hlimit htold]
    unfold counted
    constructor
    · rw [status_setStatus, if_pos rfl]
      split_ifs <;> rfl
    · rw [status_setStatus, if_pos rfl, stateAfter, if_neg (Nat.succ_ne_zero _)]
      split_ifs <;> rfl

end Health

end Node

namespace Cluster

/-- The body of the answer is text, if there is one. -/
def Answer.Decodable : Answer → Prop
  | .failure _ => True
  | .response _ body => body.text?.isSome = true

theorem settle_judges (c : Cluster) (endpoint method url : String) {a : Answer} (hwhole : a.Whole)
    (hdecodable : a.Decodable) :
    (c.settle endpoint method url a).2 =
      { c with health := c.health.judge c.world.clock endpoint a.bad } := by
  cases a with
  | failure e => exact blamed_snd c endpoint _
  | response status body =>
    obtain ⟨i, rfl⟩ := hwhole
    obtain ⟨text, htext⟩ := Option.isSome_iff_exists.1 hdecodable
    unfold settle settleStatus
    simp only [htext, Quantity.ofJson?, Quantity.le_int, Quantity.lt_int, Bool.and_eq_true, decide_eq_true_eq]
    unfold Answer.bad Node.Health.judge
    simp only [decide_eq_true_eq]
    split_ifs with hfine hbad hbad
    · omega
    · rfl
    · exact blamed_snd c endpoint _
    · rfl
    · rfl

/-- Requests that follow others, each with the answer to it. -/
def exchanges (network : Network) : (earlier sent : List Request) → List (Request × Answer)
  | _, [] => []
  | earlier, r :: sent => (r, network.respond earlier r) :: exchanges network (earlier ++ [r]) sent

theorem exchanges_concat (network : Network) (earlier sent : List Request) (r : Request) :
    exchanges network earlier (sent ++ [r]) =
      exchanges network earlier sent ++ [(r, network.respond (earlier ++ sent) r)] := by
  induction sent generalizing earlier with
  | nil => simp [exchanges]
  | cons s sent ih => simp [exchanges, ih]

/-- How often a node has failed since it last answered otherwise. -/
def failedSince (e : String) (xs : List (Request × Answer)) : Nat :=
  tally (fun x => x.1.endpoint = e && x.2.bad) (fun x => x.1.endpoint = e && !x.2.bad) xs

theorem failedSince_concat (e : String) (xs : List (Request × Answer)) (r : Request) (a : Answer) :
    failedSince e (xs ++ [(r, a)]) =
      if r.endpoint = e then if a.bad then failedSince e xs + 1 else 0 else failedSince e xs := by
  unfold failedSince
  rw [tally_concat]
  by_cases he : r.endpoint = e <;> cases a.bad <;> simp [he]

/-- After some requests every node is in the state that the answers to them make it. -/
structure Resolved (threshold : Quantity) (network : Network) (earlier sent : List Request) (c : Cluster) :
    Prop where
  limit : c.health.failureThreshold = some threshold
  told : c.health.tellsTimeout = true
  responds : c.world.network = network
  requests : c.world.requests = earlier ++ sent
  settled : ∀ e, c.health.Settled threshold e (failedSince e (exchanges network earlier sent))

section Resolved

variable {threshold : Quantity} {network : Network} {earlier sent : List Request} {c d : Cluster}

theorem Resolved.still (hc : Resolved threshold network earlier sent c) :
    ∃ sent', Resolved threshold network earlier (sent ++ sent') c :=
  ⟨[], by rwa [List.append_nil]⟩

/-- A choice leaves all nodes but the chosen one as they are, and no node has failed more or less often for it. -/
theorem Resolved.select (hc : Resolved threshold network earlier sent c) (tried : List String) :
    let d := (c.select tried).2
    d.health.failureThreshold = some threshold ∧ d.health.tellsTimeout = true ∧ d.world = c.world ∧ ∀ e,
      (d.health.status e).consecutiveFailures = failedSince e (exchanges network earlier sent) ∧
      ((c.select tried).1 ≠ .ok e → d.health.Settled threshold e (failedSince e (exchanges network earlier sent))) := by
  intro d
  set candidates := (rotation c.endpoints c.counter).filter (!tried.contains ·) with hcandidates
  have hd : d = { c with
      counter := c.counter + 1
      health := (c.health.firstAvailable c.world.clock candidates).2 } := select_snd c tried
  have hfound (e : String) (he : (c.select tried).1 ≠ .ok e) :
      (c.health.firstAvailable c.world.clock candidates).1 ≠ .ok (some e) := by
    intro hfound
    apply he
    unfold Cluster.select
    simp only [← hcandidates, hfound, Option.some_or]
  have hlimits := c.health.firstAvailable_sameLimits c.world.clock candidates
  have hcount (e : String) : (d.health.status e).consecutiveFailures =
      failedSince e (exchanges network earlier sent) := by
    rw [hd, Node.Health.firstAvailable_counts]
    exact (hc.settled e).count
  refine ⟨?_, ?_, ?_, fun e => ⟨hcount e, fun he => ⟨hcount e, ?_⟩⟩⟩
  · rw [hd]
    exact hlimits.failureThreshold.trans hc.limit
  · rw [hd]
    exact hlimits.tellsTimeout.trans hc.told
  · rw [hd]
  · rw [hd, Node.Health.firstAvailable_spares _ _ _ (hfound e he)]
    exact (hc.settled e).state

theorem Resolved.select_error (hc : Resolved threshold network earlier sent c) {tried : List String} {f : Failure}
    (hsel : c.select tried = (.error f, d)) : Resolved threshold network earlier sent d := by
  obtain ⟨hlimit, htold, hworld, hsettled⟩ := hc.select tried
  simp only [hsel] at hlimit htold hworld hsettled
  refine ⟨hlimit, htold, by rw [hworld, hc.responds], by rw [hworld, hc.requests], fun e => ?_⟩
  exact (hsettled e).2 (by simp)

/-- The chosen node may be left unsettled, and the answer to the request that follows settles it. -/
theorem Resolved.round (hc : Resolved threshold network earlier sent c)
    (hwhole : ∀ earlier r, (network.respond earlier r).Whole)
    (hdecodable : ∀ earlier r, (network.respond earlier r).Decodable) {tried : List String} {endpoint : String}
    (hsel : c.select tried = (.ok endpoint, d)) (method target : String) (payload : Option Payload) :
    Resolved threshold network earlier (sent ++ [⟨endpoint, method, target, payload⟩])
      (d.attempt endpoint method target payload).2 := by
  obtain ⟨hlimit, htold, hworld, hsettled⟩ := hc.select tried
  simp only [hsel] at hlimit htold hworld hsettled
  set r : Request := ⟨endpoint, method, target, payload⟩ with hr
  have hrequests : d.world.requests = earlier ++ sent := by rw [hworld, hc.requests]
  have hrespond : (d.world.send r).1 = network.respond (earlier ++ sent) r := by
    rw [← hc.responds, ← hrequests, ← hworld]
    rfl
  have hjudged : (d.attempt endpoint method target payload).2 =
      { d with
        world := (d.world.send r).2
        health := d.health.judge (d.world.send r).2.clock endpoint (network.respond (earlier ++ sent) r).bad } := by
    have hw : (d.world.send r).1.Whole := by rw [hrespond]; exact hwhole _ _
    have hdec : (d.world.send r).1.Decodable := by rw [hrespond]; exact hdecodable _ _
    rw [← hrespond]
    exact settle_judges { d with world := (d.world.send r).2 } endpoint method (urlOf endpoint target) hw hdec
  rw [hjudged]
  refine ⟨?_, ?_, ?_, ?_, fun e => ?_⟩
  · exact (Node.Health.judge_sameLimits ..).failureThreshold.trans hlimit
  · exact (Node.Health.judge_sameLimits ..).tellsTimeout.trans htold
  · change d.world.network = network
    rw [hworld, hc.responds]
  · have : (d.world.send r).2.requests = d.world.requests ++ [r] := requests_append (send_log ..)
    rw [this, hrequests, List.append_assoc]
  · rw [exchanges_concat, failedSince_concat]
    by_cases he : endpoint = e
    · subst he
      rw [if_pos rfl, ← (hsettled endpoint).1]
      exact Node.Health.judge_settled hlimit htold ..
    · rw [if_neg he]
      have hspared := Node.Health.judge_spares d.health (d.world.send r).2.clock (Ne.symm he)
        (network.respond (earlier ++ sent) r).bad
      obtain ⟨hcount, hstate⟩ := (hsettled e).2 (by simpa using he)
      exact ⟨by rw [hspared, hcount], by rw [hspared, hstate]⟩

theorem Resolved.attempts (hc : Resolved threshold network earlier sent c)
    (hwhole : ∀ earlier r, (network.respond earlier r).Whole)
    (hdecodable : ∀ earlier r, (network.respond earlier r).Decodable) (method target : String)
    (payload : Option Payload) (more : Nat) (tried : List String) :
    ∃ sent', Resolved threshold network earlier (sent ++ sent')
      (Cluster.attempts method target payload more tried c).2 := by
  have hround {c d d' : Cluster} {sent tried endpoint a} (hc : Resolved threshold network earlier sent c)
      (hsel : c.select tried = (.ok endpoint, d)) (hatt : d.attempt endpoint method target payload = (a, d')) :
      Resolved threshold network earlier (sent ++ [⟨endpoint, method, target, payload⟩]) d' := by
    have := hc.round hwhole hdecodable hsel method target payload
    rwa [hatt] at this
  fun_induction Cluster.attempts method target payload more tried c generalizing sent with
  | case1 more tried c f d hsel => exact (hc.select_error hsel).still
  | case2 more tried c endpoint d hsel outcome d' hatt => exact ⟨_, hround hc hsel hatt⟩
  | case3 tried c endpoint d hsel f d' hatt => exact ⟨_, hround hc hsel hatt⟩
  | case4 tried c endpoint d hsel f d' hatt more ih =>
    obtain ⟨sent', hsent'⟩ := ih (hround hc hsel hatt)
    rw [List.append_assoc] at hsent'
    exact ⟨_, hsent'⟩

theorem Resolved.call (hc : Resolved threshold network earlier sent c)
    (hwhole : ∀ earlier r, (network.respond earlier r).Whole)
    (hdecodable : ∀ earlier r, (network.respond earlier r).Decodable) (method : String) (path : Option Text)
    (body : Body) (params : Params) :
    ∃ sent', Resolved threshold network earlier (sent ++ sent') (c.call method path body params).2 := by
  rcases call_cases c method path body params with ⟨f, hcall, -⟩ | ⟨target, payload, more, -, -, hcall⟩
  · rw [hcall]
    exact hc.still
  · rw [hcall]
    exact hc.attempts hwhole hdecodable ..

end Resolved

/-- What happens to a cluster that nobody but its callers touches: calls, with arguments checked or as they came, and
time that passes in between. -/
inductive Step where
  | call (method : String) (path : Option Text) (body : Body) (params : Params)
  | request (method path : Json) (body : Body) (params : Json)
  | clock (now : Quantity)

def perform (c : Cluster) : Step → Cluster
  | .call method path body params => (c.call method path body params).2
  | .request method path body params => (c.request method path body params).2
  | .clock now => { c with world := { c.world with clock := now } }

def after (steps : List Step) (c : Cluster) : Cluster := steps.foldl perform c

section Resolved

variable {threshold : Quantity} {network : Network} {earlier sent : List Request} {c d : Cluster}

theorem Resolved.perform (hc : Resolved threshold network earlier sent c)
    (hwhole : ∀ earlier r, (network.respond earlier r).Whole)
    (hdecodable : ∀ earlier r, (network.respond earlier r).Decodable) (step : Step) :
    ∃ sent', Resolved threshold network earlier (sent ++ sent') (c.perform step) := by
  cases step with
  | call method path body params => exact hc.call hwhole hdecodable method path body params
  | request method path body params =>
    unfold Cluster.perform Cluster.request
    simp only
    split
    · exact hc.still
    · exact hc.call hwhole hdecodable ..
  | clock now => exact Resolved.still ⟨hc.limit, hc.told, hc.responds, hc.requests, hc.settled⟩

theorem Resolved.after (hc : Resolved threshold network earlier sent c)
    (hwhole : ∀ earlier r, (network.respond earlier r).Whole)
    (hdecodable : ∀ earlier r, (network.respond earlier r).Decodable) (steps : List Step) :
    ∃ sent', Resolved threshold network earlier (sent ++ sent') (Cluster.after steps c) := by
  induction steps generalizing sent c with
  | nil => exact hc.still
  | cons step steps ih =>
    obtain ⟨sent', hstep⟩ := hc.perform hwhole hdecodable step
    obtain ⟨sent'', hrest⟩ := ih hstep
    rw [List.append_assoc] at hrest
    exact ⟨sent' ++ sent'', hrest⟩

end Resolved

/-- The limit of failures that a checked connection sets is not less than one. -/
theorem failureThreshold_not_lt {fields : List (Text × Json)} {connection : Node.Connection}
    (h : Node.Connection.ofFields fields = .ok connection) : connection.failureThreshold.lt (.int 1) = false := by
  unfold Node.Connection.ofFields at h
  split at h
  · cases h
  · obtain ⟨maxRetries, -, h⟩ := except_bind_eq_ok h
    obtain ⟨requestTimeout, -, h⟩ := except_bind_eq_ok h
    obtain ⟨failureThreshold, hf, h⟩ := except_bind_eq_ok h
    obtain ⟨resurrectTimeout, -, h⟩ := except_bind_eq_ok h
    cases h
    exact limit_not_lt rfl hf

theorem build_resolved {nodes : List Json} {fields : List (Text × Json)} {connection : Node.Connection}
    {options : Node.Options} {health : Option Node.Health} {world : World} {c : Cluster}
    (hconn : Node.Connection.ofFields fields = .ok connection)
    (hhealth : ∀ h ∈ health, ∃ threshold timeout, threshold.lt (.int 1) = false ∧ h = .fresh threshold timeout)
    (h : build nodes connection options health world = .ok c) (htold : c.health.tellsTimeout = true) :
    ∃ threshold, threshold.lt (.int 1) = false ∧ Resolved threshold world.network world.requests [] c := by
  unfold build at h
  obtain ⟨authorization, -, h⟩ := except_bind_eq_ok h
  obtain ⟨configs, -, h⟩ := except_bind_eq_ok h
  cases h
  have hsettled (threshold timeout : Quantity) (e : String) :
      (Node.Health.fresh threshold timeout).Settled threshold e 0 := ⟨rfl, rfl⟩
  cases health with
  | none =>
    exact ⟨_, failureThreshold_not_lt hconn, rfl, htold, rfl, by simp, hsettled _ connection.resurrectTimeout⟩
  | some own =>
    obtain ⟨threshold, timeout, hthreshold, rfl⟩ := hhealth own rfl
    exact ⟨threshold, hthreshold, rfl, htold, rfl, by simp, hsettled threshold timeout⟩

/-- Between the calls of a cluster that can tell for how long a node is removed, no node is on trial: how often it has failed
since it last answered otherwise is what its health counts, and says by itself what state it is in. -/
theorem no_node_on_trial {nodes : List Json} {fields : List (Text × Json)} {connection : Node.Connection}
    {options : Node.Options} {health : Option Node.Health} {world : World} {c : Cluster}
    (hconn : Node.Connection.ofFields fields = .ok connection)
    (hhealth : ∀ h ∈ health, ∃ threshold timeout, threshold.lt (.int 1) = false ∧ h = .fresh threshold timeout)
    (hbuild : build nodes connection options health world = .ok c) (htold : c.health.tellsTimeout = true)
    (hwhole : ∀ earlier r, (world.network.respond earlier r).Whole)
    (hdecodable : ∀ earlier r, (world.network.respond earlier r).Decodable) (steps : List Step) :
    ∃ threshold sent, c.health.failureThreshold = some threshold ∧
      (after steps c).world.requests = world.requests ++ sent ∧ ∀ e,
        let n := failedSince e (exchanges world.network world.requests sent)
        let s := (after steps c).health.status e
        s.consecutiveFailures = n ∧
        (s.state = .healthy ↔ n = 0) ∧
        (s.state = .suspected ↔ 0 < n ∧ threshold.le (.int n) = false) ∧
        (s.state = .removed ↔ threshold.le (.int n) = true) ∧
        ∀ limit, threshold.toInt? = some limit →
          (s.state = .suspected ↔ 1 ≤ n ∧ (n : Int) ≤ limit - 1) ∧ (s.state = .removed ↔ limit ≤ n) := by
  obtain ⟨threshold, hthreshold, hc⟩ := build_resolved hconn hhealth hbuild htold
  obtain ⟨sent, hafter⟩ := hc.after hwhole hdecodable steps
  rw [List.nil_append] at hafter
  refine ⟨threshold, sent, hc.limit, hafter.requests, fun e => ?_⟩
  intro n s
  obtain ⟨hcount, hstate⟩ : (after steps c).health.Settled threshold e n := hafter.settled e
  have hstate : s.state = Node.stateAfter threshold n := hstate
  rw [hstate, Node.stateAfter_eq_suspected_iff, Node.stateAfter_eq_removed_iff hthreshold]
  refine ⟨hcount, Node.stateAfter_eq_healthy_iff, Iff.rfl, Iff.rfl, fun limit hlimit => ?_⟩
  rw [Quantity.le_whole hlimit rfl, decide_eq_false_iff_not, decide_eq_true_eq]
  exact ⟨by omega, Iff.rfl⟩

/-- A network on which no node is in order. -/
def broken : Network where
  respond _ _ := .response (.int 503) (.text "")

/-- Both nodes fail and are removed, both are tried again when their time is up, and both are removed again. -/
theorem no_node_on_trial_after_relapse :
    let start : Cluster :=
      { twins broken with health := .fresh (.int 1) (.int 60), world := { clock := .int 0, network := broken } }
    let get : Step := .call "get" none .none []
    let c := after [get, .clock (.int 60), get] start
    ∀ e ∈ ["http://a:1", "http://b:1"], (c.health.status e).consecutiveFailures = 2 ∧
      (c.health.status e).state = .removed := by
  intro start get c
  have hhealth : ∀ h ∈ some (Node.Health.fresh (.int 1) (.int 60)),
      ∃ threshold timeout, threshold.lt (.int 1) = false ∧ h = .fresh threshold timeout := by
    rintro _ ⟨⟩
    exact ⟨.int 1, .int 60, by decide, rfl⟩
  obtain ⟨threshold, sent, hlimit, hrequests, hsettled⟩ :=
    no_node_on_trial (show Node.Connection.ofFields [] = .ok {} from rfl) hhealth
      (twins_build rfl rfl (some (.fresh (.int 1) (.int 60))) { clock := .int 0, network := broken })
      (by decide +kernel) (fun _ _ => ⟨503, rfl⟩)
      (fun _ _ => rfl) [get, .clock (.int 60), get]
  obtain rfl : .int 1 = threshold := Option.some.inj hlimit
  let asked : List Request := ["http://a:1", "http://b:1", "http://a:1", "http://b:1"].map (⟨·, "GET", "/", none⟩)
  have hasked : c.world.requests = asked := by decide +kernel
  obtain rfl : asked = sent := hasked.symm.trans hrequests
  intro e he
  obtain ⟨hcount, -, -, hremoved, -⟩ := hsettled e
  have htwo : failedSince e (exchanges broken [] asked) = 2 := by
    revert e
    decide +kernel
  have hle : (Quantity.int 1).le (.int (failedSince e (exchanges broken [] asked))) = true := by
    rw [htwo]
    decide
  exact ⟨hcount.trans htwo, hremoved.2 hle⟩

/-- A network on which no node is in order at first, and then none gives its answers a status. -/
def lapsing : Network where
  respond earlier _ := .response (if earlier.length < 2 then .int 503 else .null) (.text "")

/-- A node is left on trial if the status of its answer is no number. And it stays healthy, however often it has failed, if it
cannot be told for how long it is to be removed. -/
theorem node_left_on_trial :
    (let start : Cluster :=
        { twins lapsing with health := .fresh (.int 1) (.int 60), world := { clock := .int 0, network := lapsing } }
      let get : Step := .call "get" none .none []
      let s := (after [get, .clock (.int 60), get] start).health.status "http://a:1"
      s.consecutiveFailures = 1 ∧ s.state = .suspected) ∧
    (let start : Cluster :=
        { twins broken with health := .fresh (.int 1) Node.Health.overlong, world := { clock := .int 0, network := broken } }
      let s := (after [.call "get" none .none []] start).health.status "http://a:1"
      s.consecutiveFailures = 1 ∧ s.state = .healthy) := by
  decide +kernel

end Cluster

end DocumentStore
