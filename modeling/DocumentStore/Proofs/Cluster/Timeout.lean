import DocumentStore.Proofs.Cluster.Resolved

/-! A request that is not answered in time. Where such requests are not to be repeated, the call that has sent one sends
no more, and fails. -/

namespace DocumentStore.Cluster

/-- The request, sent after some others, is not answered in time. -/
structure TimesOut (network : Network) (earlier : List Request) (r : Request) (e : TransportError) : Prop where
  failure : network.respond earlier r = .failure e
  kind : e.kind = .timeout

theorem blamed_final (c : Cluster) (endpoint : String) {f : Failure} :
    ∃ g, (c.blamed endpoint (.final (.error f))).1 = .final (.error g) := by
  rcases h : c.blamed endpoint (.final (.error f)) with ⟨b, d⟩
  rcases blamed_error h with rfl | ⟨m, rfl⟩
  · exact ⟨f, rfl⟩
  · exact ⟨.misuse m, rfl⟩

/-- Whoever has asked for the request gets a failure, and if failures of nodes can be judged it is the one that has come
back for the request. -/
def Abandoned {α : Type} (judged : Prop) (r : Request) (e : TransportError) (outcome : Except Failure α) : Prop :=
  ∃ f, outcome = .error f ∧ (judged → f = .dispatch (.transport r.method r.url r.endpoint e))

/-- Where requests are not repeated that are not answered in time, an attempt with one is final. -/
theorem attempt_of_timesOut {c : Cluster} (hoff : c.connection.retryOnTimeout.truthy = false)
    {endpoint method target : String} {payload : Option Payload} {e : TransportError}
    (hout : TimesOut c.world.network c.world.requests ⟨endpoint, method, target, payload⟩ e) :
    ∃ outcome, (c.attempt endpoint method target payload).1 = .final outcome ∧
      Abandoned (Judged c) ⟨endpoint, method, target, payload⟩ e outcome := by
  have hanswer : (c.world.send ⟨endpoint, method, target, payload⟩).1 = .failure e := hout.failure
  set sent : Cluster := { c with world := (c.world.send ⟨endpoint, method, target, payload⟩).2 } with hsent
  unfold attempt
  simp only [hanswer]
  unfold settle
  simp only [hout.kind, hoff, ne_eq, not_true, decide_false, Bool.or_self, Bool.false_eq_true, if_false]
  obtain ⟨g, hg⟩ := sent.blamed_final endpoint
  refine ⟨_, hg, g, rfl, fun hjudged => ?_⟩
  rw [blamed_judged (c := sent) hjudged] at hg
  cases hg
  rfl

/-- What a call sends: requests that agree in all but the node, and none after one that is not answered in time. -/
structure Sends (c : Cluster) (method target : String) (payload : Option Payload) (sent : List Request)
    (run : Except Failure String × Cluster) : Prop where
  log : run.2.world.log = c.world.log ++ sent.map .request
  alike : ∀ r ∈ sent, r.method = method ∧ r.target = target ∧ r.payload = payload
  timeout : ∀ before r after, sent = before ++ r :: after →
    ∀ e, TimesOut c.world.network (c.world.requests ++ before) r e →
      after = [] ∧ Abandoned (Judged c) r e run.1

section sends

variable {c d d' : Cluster} {tried : List String} {endpoint method target : String} {payload : Option Payload}

/-- A round sends one request, to the node that is chosen, and it is the last one if it is not answered in time. -/
theorem round_sends {a : Attempt} (hoff : c.connection.retryOnTimeout.truthy = false)
    (hsel : c.select tried = (.ok endpoint, d)) (hatt : d.attempt endpoint method target payload = (a, d')) :
    d'.world.log = c.world.log ++ [.request ⟨endpoint, method, target, payload⟩] ∧
      ∀ e, TimesOut c.world.network c.world.requests ⟨endpoint, method, target, payload⟩ e →
        ∃ outcome, a = .final outcome ∧ Abandoned (Judged c) ⟨endpoint, method, target, payload⟩ e outcome := by
  have hworld : d.world = c.world := select_world_of_eq hsel
  have hadvances := select_advances_of_eq hsel
  have hlog := attempt_log d endpoint method target payload
  rw [hatt, hworld] at hlog
  refine ⟨hlog, fun e hout => ?_⟩
  rw [← hworld] at hout
  have hfinal := attempt_of_timesOut (by rw [hadvances.connection]; exact hoff) hout
  rwa [hatt, hadvances.judged] at hfinal

theorem sends_single {outcome : Except Failure String}
    (hlog : d'.world.log = c.world.log ++ [.request ⟨endpoint, method, target, payload⟩])
    (htimeout : ∀ e, TimesOut c.world.network c.world.requests ⟨endpoint, method, target, payload⟩ e →
      Abandoned (Judged c) ⟨endpoint, method, target, payload⟩ e outcome) :
    Sends c method target payload [⟨endpoint, method, target, payload⟩] (outcome, d') := by
  refine ⟨hlog, by simp, fun before r after hsplit e hout => ?_⟩
  cases before with
  | nil =>
    cases hsplit
    rw [List.append_nil] at hout
    exact ⟨rfl, htimeout e hout⟩
  | cons first before => simp at hsplit

/-- A request in front that does not end the call. -/
theorem Sends.cons {sent : List Request} {run : Except Failure String × Cluster} (h : Sends d method target payload sent run)
    (hadvances : c.Advances d) (hlog : d.world.log = c.world.log ++ [.request ⟨endpoint, method, target, payload⟩])
    (hanswered : ∀ e, ¬TimesOut c.world.network c.world.requests ⟨endpoint, method, target, payload⟩ e) :
    Sends c method target payload (⟨endpoint, method, target, payload⟩ :: sent) run := by
  refine ⟨?_, List.forall_mem_cons.2 ⟨⟨rfl, rfl, rfl⟩, h.alike⟩, fun before r after hsplit e hout => ?_⟩
  · rw [h.log, hlog, List.append_assoc]
    rfl
  · cases before with
    | nil =>
      cases hsplit
      rw [List.append_nil] at hout
      exact absurd hout (hanswered e)
    | cons first before =>
      obtain ⟨rfl, htail⟩ := List.cons.inj hsplit
      rw [List.append_cons, ← requests_append hlog, ← hadvances.network] at hout
      rw [← hadvances.judged]
      exact h.timeout before r after htail e hout

theorem attempts_sends (more : Nat) (tried : List String) (c : Cluster)
    (hoff : c.connection.retryOnTimeout.truthy = false) :
    ∃ sent, Sends c method target payload sent (attempts method target payload more tried c) := by
  fun_induction attempts method target payload more tried c with
  | case1 more tried c f d hsel =>
    have hlog : d.world.log = c.world.log := by
      have := congrArg (·.world.log) (select_snd c tried)
      rwa [hsel] at this
    exact ⟨[], by simpa using hlog, by simp, by simp⟩
  | case2 more tried c endpoint d hsel outcome d' hatt =>
    obtain ⟨hlog, htimeout⟩ := round_sends hoff hsel hatt
    refine ⟨_, sends_single hlog fun e hout => ?_⟩
    obtain ⟨_, heq, habandoned⟩ := htimeout e hout
    cases heq
    exact habandoned
  | case3 tried c endpoint d hsel f d' hatt =>
    obtain ⟨hlog, htimeout⟩ := round_sends hoff hsel hatt
    refine ⟨_, sends_single hlog fun e hout => ?_⟩
    obtain ⟨_, heq, -⟩ := htimeout e hout
    cases heq
  | case4 tried c endpoint d hsel f d' hatt more ih =>
    obtain ⟨hlog, htimeout⟩ := round_sends hoff hsel hatt
    have hadvances := (select_advances_of_eq hsel).trans (attempt_advances_of_eq hatt)
    obtain ⟨sent, hsends⟩ := ih (by rw [hadvances.connection]; exact hoff)
    refine ⟨_, hsends.cons hadvances hlog fun e hout => ?_⟩
    obtain ⟨_, heq, -⟩ := htimeout e hout
    cases heq

end sends

/-- Where requests are not repeated that are not answered in time, such a request is the last of its call, and the call
fails. -/
theorem call_sends {c : Cluster} (hoff : c.connection.retryOnTimeout.truthy = false) (method : String)
    (path : Option Text) (body : Body) (params : Params) : ∃ sent,
      Sends c (Text.upperCase method) (targetOf path params) body.payload sent (c.call method path body params) := by
  rcases call_cases c method path body params with ⟨f, hcall, -⟩ | ⟨target, payload, more, hencode, -, hcall⟩
  · rw [hcall]
    exact ⟨[], by simp, by simp, by simp⟩
  · obtain ⟨rfl, rfl⟩ := encode_ok hencode
    rw [hcall]
    exact attempts_sends _ _ c hoff

end DocumentStore.Cluster
