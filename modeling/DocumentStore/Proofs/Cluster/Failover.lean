import DocumentStore.Proofs.Cluster.Ready
import DocumentStore.Proofs.Json.Spelling
import DocumentStore.Proofs.Node.Trace

/-! What one call does to a cluster of distinct nodes: it asks one of them after the other, none of them twice, until
an answer settles the matter or no retry is left. The last answer decides what the caller gets. -/

namespace DocumentStore.Cluster

/-- The address that a request goes to. -/
def Request.url (r : Request) : String := urlOf r.endpoint r.target

/-- The status of the answer is a whole number, if it has one. -/
def Answer.Whole : Answer → Prop
  | .response status _ => ∃ i, status = .int i
  | .failure _ => True

/-- The answer counts against the node that gave it, or that failed to give one. -/
def Answer.bad : Answer → Bool
  | .failure _ => true
  | .response (.int status) _ => 500 ≤ status
  | .response _ _ => false

/-- Whether another node may be tried after an answer. -/
def Answer.retriable (connection : Node.Connection) : Answer → Bool
  | .response (.int i) body => 500 ≤ i && body.text?.isSome && (Quantity.int i).isSpellable
  | .response _ _ => false
  | .failure e => e.kind ≠ .timeout || connection.retryOnTimeout.truthy

/-- Whose fault a status is that does not mean success. -/
def blameOf (status : Int) : Blame := if 500 ≤ status then .node else if 400 ≤ status then .request else .other

/-- What an answer, taken by itself, means for whoever sent the request. -/
def verdict (r : Request) : Answer → Except Failure String
  | .failure e => .error (.dispatch (.transport r.method r.url r.endpoint e))
  | .response (.int i) body =>
    match body.text? with
    | none => .error (.misuse .undecodable)
    | some text =>
      if (Quantity.int i).isSpellable = false then .error (.misuse .overlongNumber)
      else if 200 ≤ i ∧ i < 300 then .ok text
      else .error (.dispatch (.response ⟨blameOf i, .int i, .str text, .str r.method, .str r.url⟩))
  | .response _ _ => .error (.misuse .wrongKind)

/-- A conversation: after the requests `earlier`, some more are sent, at most `more` after the first of them. -/
inductive Conversation (connection : Node.Connection) (network : Network) :
    (more : Nat) → (earlier sent : List Request) → Except Failure String → Prop
  | settled {more earlier r} (h : (network.respond earlier r).retriable connection = false) :
    Conversation connection network more earlier [r] (verdict r (network.respond earlier r))
  | exhausted {earlier r} : Conversation connection network 0 earlier [r] (verdict r (network.respond earlier r))
  | onward {more earlier r sent outcome} (h : (network.respond earlier r).retriable connection = true)
    (rest : Conversation connection network more (earlier ++ [r]) sent outcome) :
    Conversation connection network (more + 1) earlier (r :: sent) outcome

namespace Conversation

variable {connection : Node.Connection} {network : Network} {more : Nat} {earlier sent : List Request}
  {outcome : Except Failure String}

theorem length_pos (h : Conversation connection network more earlier sent outcome) : 0 < sent.length := by
  cases h <;> simp

theorem length_le (h : Conversation connection network more earlier sent outcome) : sent.length ≤ more + 1 := by
  induction h with
  | settled h => simp
  | exhausted => simp
  | onward h rest ih => simpa using ih

/-- Every answer but the last asks for a retry that is left, the last one does not, and decides. -/
theorem exchange (h : Conversation connection network more earlier sent outcome) (i : Nat) (hi : i < sent.length) :
    (i + 1 < sent.length ↔
      (network.respond (earlier ++ sent.take i) sent[i]).retriable connection = true ∧ i < more) ∧
    (i + 1 = sent.length → outcome = verdict sent[i] (network.respond (earlier ++ sent.take i) sent[i])) := by
  induction h generalizing i with
  | settled h =>
    obtain rfl : i = 0 := by simpa using hi
    simp [h]
  | exhausted =>
    obtain rfl : i = 0 := by simpa using hi
    simp
  | @onward more earlier r sent outcome h rest ih =>
    cases i with
    | zero =>
      have := rest.length_pos
      simp only [List.length_cons, List.take_zero, List.append_nil, List.getElem_cons_zero, h, true_and]
      exact ⟨by omega, by omega⟩
    | succ i =>
      obtain ⟨hstep, hlast⟩ := ih i (by simpa using hi)
      simp only [List.length_cons, List.take_succ_cons, List.getElem_cons_succ, Nat.add_lt_add_iff_right,
        Nat.add_right_cancel_iff]
      rw [List.append_cons]
      exact ⟨hstep, hlast⟩

/-- The last answer decides. -/
theorem last (h : Conversation connection network more earlier sent outcome) :
    ∃ before r, sent = before ++ [r] ∧ outcome = verdict r (network.respond (earlier ++ before) r) := by
  induction h with
  | @settled more earlier r h => exact ⟨[], r, rfl, by rw [List.append_nil]⟩
  | @exhausted earlier r => exact ⟨[], r, rfl, by rw [List.append_nil]⟩
  | @onward more earlier r sent outcome h rest ih =>
    obtain ⟨before, last, rfl, houtcome⟩ := ih
    refine ⟨r :: before, last, rfl, ?_⟩
    rw [houtcome, ← List.append_cons]

end Conversation

/-- A status that can be told decides by the range that it is in. -/
theorem settleStatus_fst {c : Cluster} (hc : c.Ready) {i : Int} (htold : 500 ≤ i → c.health.tellsTimeout = true)
    (endpoint method url : String) (text : String) :
    (c.settleStatus endpoint method url (.int i) text).1 =
      let f := DispatchFailure.response ⟨blameOf i, .int i, .str text, .str method, .str url⟩
      Attempt.told (.int i) (if 200 ≤ i ∧ i < 300 then .final (.ok text)
        else if 500 ≤ i then .failed f
        else .final (.error (.dispatch f))) := by
  unfold settleStatus blameOf
  simp only [Quantity.le_int, Quantity.lt_int, Bool.and_eq_true, decide_eq_true_eq]
  split_ifs with hfine hbad
  · rfl
  · exact blamed_judged (hc.judged (htold hbad)) _ _
  · rfl
  · rfl

/-- What an attempt comes to is the meaning of the answer, and it is final unless another node may be tried. -/
theorem settle_fst {c : Cluster} (hc : c.Ready) (r : Request) {a : Answer} (ha : a.Whole)
    (htold : a.bad = true → c.health.tellsTimeout = true) :
    (a.retriable c.connection = false ∧ (c.settle r.endpoint r.method r.url a).1 = .final (verdict r a)) ∨
    a.retriable c.connection = true ∧
      ∃ f, (c.settle r.endpoint r.method r.url a).1 = .failed f ∧ verdict r a = .error (.dispatch f) := by
  cases a with
  | failure e =>
    have h := blamed_judged (hc.judged (htold rfl)) r.endpoint
    unfold settle
    simp only [h]
    cases ht : (e.kind ≠ .timeout || c.connection.retryOnTimeout.truthy : Bool) with
    | false => exact .inl ⟨ht, rfl⟩
    | true => exact .inr ⟨ht, _, rfl, rfl⟩
  | response status body =>
    obtain ⟨i, rfl⟩ := ha
    unfold settle Answer.retriable verdict
    cases hb : body.text? with
    | none => exact .inl ⟨by simp [hb], by simp only [hb]⟩
    | some text =>
      simp only [hb, Quantity.ofJson?, settleStatus_fst hc fun h => htold (decide_eq_true h), Attempt.told,
        Option.isSome_some, Bool.and_true]
      cases hspell : (Quantity.int i).isSpellable with
      | false => exact .inl ⟨by simp, by simp⟩
      | true =>
        simp only [if_true, Bool.true_eq_false, if_false, Bool.and_true]
        split_ifs with h₂ h₅
        · exact .inl ⟨by simp; omega, rfl⟩
        · exact .inr ⟨by simpa using h₅, _, rfl, rfl⟩
        · exact .inl ⟨by simpa using h₅, rfl⟩

theorem mem_rotation {endpoints : List String} {counter : Nat} {e : String} :
    e ∈ rotation endpoints counter ↔ e ∈ endpoints := by
  unfold rotation
  rw [List.mem_append, or_comm, ← List.mem_append, List.take_append_drop]

/-- A selection finds a node that was not tried, if there is one. -/
theorem select_fst {c : Cluster} (hc : c.Ready) {tried : List String} (huntried : ∃ e ∈ c.endpoints, e ∉ tried) :
    ∃ e, (c.select tried).1 = .ok e ∧ e ∈ c.endpoints ∧ e ∉ tried := by
  obtain ⟨t, ht⟩ := hc.clock
  set candidates := (rotation c.endpoints c.counter).filter (!tried.contains ·) with hcandidates
  have hmem (e : String) (he : e ∈ candidates) : e ∈ c.endpoints ∧ e ∉ tried := by
    simpa [hcandidates, mem_rotation] using he
  have hne : candidates ≠ [] := by
    obtain ⟨e, he, hnot⟩ := huntried
    have : e ∈ candidates := by simpa [hcandidates, mem_rotation] using ⟨he, hnot⟩
    exact List.ne_nil_of_mem this
  obtain ⟨first, hfirst⟩ := Option.isSome_iff_exists.1 (List.isSome_head?.2 hne)
  obtain ⟨found, h, hf, -, hin⟩ := hc.health.firstAvailable t candidates
  unfold select
  simp only [← hcandidates, ht, hf]
  cases found with
  | none =>
    simp only [Option.none_or, hfirst]
    exact ⟨first, rfl, hmem first (List.mem_of_head? hfirst)⟩
  | some e => exact ⟨e, rfl, hmem e (hin e rfl)⟩

/-- Once all nodes were tried a selection finds none. -/
theorem select_exhausted {c : Cluster} {tried : List String} (hall : ∀ e ∈ c.endpoints, e ∈ tried) :
    c.select tried = (.error (.misuse .noCandidate), { c with counter := c.counter + 1 }) := by
  have hcandidates : (rotation c.endpoints c.counter).filter (!tried.contains ·) = [] := by
    refine List.filter_eq_nil_iff.2 fun e he => ?_
    simpa using hall e (mem_rotation.1 he)
  unfold select
  simp only [hcandidates, Node.Health.firstAvailable]
  rfl

theorem attempt_log (c : Cluster) (endpoint method target : String) (payload : Option Payload) :
    (c.attempt endpoint method target payload).2.world.log =
      c.world.log ++ [.request ⟨endpoint, method, target, payload⟩] := by
  obtain ⟨h, hh, -⟩ := attempt_snd c endpoint method target payload
  rw [hh, send_log]

theorem requests_append {v w : World} {rs : List Request} (h : w.log = v.log ++ rs.map .request) :
    w.requests = v.requests ++ rs := by
  unfold World.requests
  rw [h, List.filterMap_append, List.filterMap_map]
  congr 1
  exact List.filterMap_some

/-- A round of a call adds its request to those that were sent. -/
theorem round_requests {c d d' : Cluster} {endpoint method target : String} {payload : Option Payload}
    {tried : List String} {r : Except Failure String} {a : Attempt} (hsel : c.select tried = (r, d))
    (hatt : d.attempt endpoint method target payload = (a, d')) :
    d'.world.requests = c.world.requests ++ [⟨endpoint, method, target, payload⟩] := by
  have hlog := attempt_log d endpoint method target payload
  rw [hatt, select_world_of_eq hsel] at hlog
  exact requests_append hlog

/-- Whatever is sent is the one request, and where nothing could be sent the call does not pass for an answer. -/
theorem attempts_requests (method target : String) (payload : Option Payload) (more : Nat) (tried : List String)
    (c : Cluster) :
    ∃ sent, (attempts method target payload more tried c).2.world.requests = c.world.requests ++ sent ∧
      (∀ r ∈ sent, r.method = method ∧ r.target = target ∧ r.payload = payload) ∧
      (sent = [] → ∃ m, (attempts method target payload more tried c).1 = .error (.misuse m)) := by
  fun_induction attempts method target payload more tried c with
  | case1 more tried c f d hsel =>
    obtain ⟨m, rfl⟩ := select_error hsel
    exact ⟨[], by rw [select_world_of_eq hsel, List.append_nil], by simp, fun _ => ⟨m, rfl⟩⟩
  | case2 more tried c endpoint d hsel outcome d' hatt => exact ⟨_, round_requests hsel hatt, by simp, by simp⟩
  | case3 tried c endpoint d hsel f d' hatt => exact ⟨_, round_requests hsel hatt, by simp, by simp⟩
  | case4 tried c endpoint d hsel f d' hatt more ih =>
    obtain ⟨sent, hsent, halike, -⟩ := ih
    refine ⟨⟨endpoint, method, target, payload⟩ :: sent, ?_, List.forall_mem_cons.2 ⟨⟨rfl, rfl, rfl⟩, halike⟩, by simp⟩
    rw [hsent, round_requests hsel hatt, List.append_assoc, List.singleton_append]

theorem call_requests (c : Cluster) (method : String) (path : Option Text) (body : Body) (params : Params) :
    ∃ sent, (c.call method path body params).2.world.requests = c.world.requests ++ sent ∧
      (∀ r ∈ sent, r.method = Text.upperCase method ∧ r.target = targetOf path params ∧ r.payload = body.payload) ∧
      (sent = [] → ∃ m, (c.call method path body params).1 = .error (.misuse m)) := by
  rcases call_cases c method path body params with ⟨f, hcall, hnone⟩ | ⟨target, payload, more, hencode, -, hcall⟩
  · obtain ⟨m, rfl⟩ := hnone.elim (encode_misused path body params f) retryBudget_error
    rw [hcall]
    exact ⟨[], (List.append_nil _).symm, by simp, fun _ => ⟨m, rfl⟩⟩
  · obtain ⟨rfl, rfl⟩ := encode_ok hencode
    rw [hcall]
    exact attempts_requests ..

/-- A text is not had for nothing. -/
theorem call_asks {c : Cluster} {method : String} {path : Option Text} {body : Body} {params : Params}
    {text : String} (h : (c.call method path body params).1 = .ok text) :
    c.world.requests.length < (c.call method path body params).2.world.requests.length := by
  obtain ⟨sent, hsent, -, hnone⟩ := call_requests c method path body params
  have hsome : sent ≠ [] := by
    intro hempty
    obtain ⟨m, hm⟩ := hnone hempty
    rw [hm] at h
    cases h
  rw [hsent, List.length_append]
  exact Nat.lt_add_of_pos_right (List.length_pos_of_ne_nil hsome)

/-- One round: a node that was not tried yet is asked, and the answer ends the call or leads to the next round. -/
theorem attempts_round {c : Cluster} (hc : c.Ready) {tried : List String}
    (huntried : ∃ e ∈ c.endpoints, e ∉ tried) (method target : String) (payload : Option Payload)
    (hwhole : ∀ e, (c.world.network.respond c.world.requests ⟨e, method, target, payload⟩).Whole)
    (htold : ∀ e, (c.world.network.respond c.world.requests ⟨e, method, target, payload⟩).bad = true →
      c.health.tellsTimeout = true) :
    ∃ e d, e ∈ c.endpoints ∧ e ∉ tried ∧ d.Ready ∧ Advances c d ∧
      let r : Request := ⟨e, method, target, payload⟩
      let answer := c.world.network.respond c.world.requests r
      d.world.log = c.world.log ++ [.request r] ∧
      ((answer.retriable c.connection = false ∧
          ∀ more, attempts method target payload more tried c = (verdict r answer, d)) ∨
        (answer.retriable c.connection = true ∧ attempts method target payload 0 tried c = (verdict r answer, d) ∧
          ∀ more, attempts method target payload (more + 1) tried c =
            attempts method target payload more (tried ++ [e]) d)) := by
  obtain ⟨e, he, hmem, huntried⟩ := select_fst hc huntried
  set r : Request := ⟨e, method, target, payload⟩ with hr
  rcases hsel : c.select tried with ⟨x, s⟩
  rw [hsel] at he
  obtain rfl : x = .ok e := he
  have hsnd : (c.select tried).2 = s := by rw [hsel]
  have hs : s.Ready := hsnd ▸ hc.select tried
  have hworld : s.world = c.world := by rw [← hsnd, select_snd]
  have hconn : s.connection = c.connection := by rw [← hsnd, select_snd]
  have hstold : s.health.tellsTimeout = c.health.tellsTimeout := (select_advances_of_eq hsel).limits.tellsTimeout
  have hfst := settle_fst (hs.send r) r (hwhole e) fun hbad => hstold.trans (htold e hbad)
  have hlog := attempt_log s e method target payload
  have hready := hs.attempt e method target payload
  have hanswer : s.attempt e method target payload =
      settle { s with world := (s.world.send r).2 } r.endpoint r.method r.url
        (c.world.network.respond c.world.requests r) := by
    rw [← hworld]
    rfl
  rcases hatt : s.attempt e method target payload with ⟨a, d⟩
  rw [hatt] at hlog hready
  rw [← hanswer, hatt] at hfst
  refine ⟨e, d, hmem, huntried, hready, (select_advances_of_eq hsel).trans (attempt_advances_of_eq hatt), ?_, ?_⟩
  · rw [hlog, hworld]
  · rw [← hconn]
    rcases hfst with ⟨hret, ha⟩ | ⟨hret, f, ha, hf⟩
    · obtain rfl : a = _ := ha
      refine .inl ⟨hret, fun more => ?_⟩
      rw [attempts, hsel]
      simp only [hatt]
      rfl
    · obtain rfl : a = .failed f := ha
      refine .inr ⟨hret, ?_, fun more => ?_⟩
      · rw [attempts, hsel]
        simp only [hatt]
        rw [← hr, hf]
      · rw [attempts, hsel]
        simp only [hatt]

/-- The requests of a call that has not tried all nodes yet: they go to untried nodes, and agree in all else. -/
structure Spread (c : Cluster) (method target : String) (payload : Option Payload) (tried : List String)
    (sent : List Request) : Prop where
  distinct : (sent.map (·.endpoint)).Nodup
  known : ∀ r ∈ sent, r.endpoint ∈ c.endpoints
  untried : ∀ r ∈ sent, r.endpoint ∉ tried
  alike : ∀ r ∈ sent, r.method = method ∧ r.target = target ∧ r.payload = payload

theorem spread_singleton {c : Cluster} {method target : String} {payload : Option Payload} {tried : List String}
    {e : String} (hmem : e ∈ c.endpoints) (huntried : e ∉ tried) :
    Spread c method target payload tried [⟨e, method, target, payload⟩] :=
  ⟨by simp, by simpa using hmem, by simpa using huntried, by simp⟩

theorem Spread.cons {c d : Cluster} {method target : String} {payload : Option Payload} {tried : List String}
    {e : String} {sent : List Request} (h : Spread d method target payload (tried ++ [e]) sent)
    (hd : d.endpoints = c.endpoints) (hmem : e ∈ c.endpoints) (huntried : e ∉ tried) :
    Spread c method target payload tried (⟨e, method, target, payload⟩ :: sent) := by
  have hfresh (r : Request) (hr : r ∈ sent) : r.endpoint ∉ tried ∧ r.endpoint ≠ e := by
    simpa using h.untried r hr
  refine ⟨?_, ?_, ?_, ?_⟩
  · refine List.nodup_cons.2 ⟨fun hin => ?_, h.distinct⟩
    obtain ⟨r, hr, hre⟩ := List.mem_map.1 hin
    exact (hfresh r hr).2 hre
  · exact List.forall_mem_cons.2 ⟨hmem, fun r hr => hd ▸ h.known r hr⟩
  · exact List.forall_mem_cons.2 ⟨huntried, fun r hr => (hfresh r hr).1⟩
  · exact List.forall_mem_cons.2 ⟨⟨rfl, rfl, rfl⟩, h.alike⟩

/-- The nodes run out before the retries: all answers ask for another node, and one more could be tried, but all of
them have been. -/
structure Stranded (c : Cluster) (more : Nat) (tried : List String) (sent : List Request) : Prop where
  retriable : ∀ i (hi : i < sent.length),
    (c.world.network.respond (c.world.requests ++ sent.take i) sent[i]).retriable c.connection = true
  retries : sent.length ≤ more
  asked : ∀ e ∈ c.endpoints, e ∈ tried ∨ ∃ r ∈ sent, r.endpoint = e

theorem Stranded.cons {c d : Cluster} {more : Nat} {tried : List String} {r : Request} {sent : List Request}
    (h : Stranded d more (tried ++ [r.endpoint]) sent) (hadv : Advances c d)
    (hlog : d.world.log = c.world.log ++ [.request r])
    (hret : (c.world.network.respond c.world.requests r).retriable c.connection = true) :
    Stranded c (more + 1) tried (r :: sent) := by
  have hrequests : d.world.requests = c.world.requests ++ [r] := requests_append hlog
  refine ⟨fun i hi => ?_, Nat.succ_le_succ h.retries, fun e he => ?_⟩
  · cases i with
    | zero => rwa [List.take_zero, List.append_nil]
    | succ i =>
      have hrest := h.retriable i (Nat.lt_of_succ_lt_succ hi)
      rw [hadv.network, hadv.connection, hrequests, ← List.append_cons] at hrest
      exact hrest
  · have hend : d.endpoints = c.endpoints := by rw [endpoints, endpoints, hadv.nodes]
    rcases h.asked e (hend ▸ he) with htried | ⟨s, hs, hse⟩
    · rcases List.mem_append.1 htried with htried | hlast
      · exact .inl htried
      · exact .inr ⟨r, List.mem_cons_self, (List.mem_singleton.1 hlast).symm⟩
    · exact .inr ⟨s, List.mem_cons_of_mem r hs, hse⟩

/-- Where the nodes are distinct, those tried so far and those asked since are all of them. -/
theorem Stranded.length_le {c : Cluster} {more : Nat} {tried : List String} {sent : List Request}
    (h : Stranded c more tried sent) (hnodup : c.endpoints.Nodup) : c.endpoints.length ≤ tried.length + more := by
  have hsubset : c.endpoints ⊆ tried ++ sent.map (·.endpoint) := by
    intro e he
    rcases h.asked e he with htried | ⟨r, hr, rfl⟩
    · exact List.mem_append_left _ htried
    · exact List.mem_append_right _ (List.mem_map_of_mem hr)
  have hlength := (hnodup.subperm hsubset).length_le
  rw [List.length_append, List.length_map] at hlength
  have := h.retries
  omega

/-- Some attempts: requests that go to untried nodes, until an answer or the last retry closes the conversation, or for
want of a node. -/
structure Course (c : Cluster) (method target : String) (payload : Option Payload) (more : Nat) (tried : List String)
    (sent : List Request) (result : Except Failure String × Cluster) : Prop where
  log : result.2.world.log = c.world.log ++ sent.map .request
  spread : Spread c method target payload tried sent
  ending : Conversation c.connection c.world.network more c.world.requests sent result.1 ∨
    Stranded c more tried sent ∧ result.1 = .error (.misuse .noCandidate)

theorem attempts_exhausted {c : Cluster} {tried : List String} (hall : ∀ e ∈ c.endpoints, e ∈ tried)
    (method target : String) (payload : Option Payload) (more : Nat) :
    Course c method target payload more tried [] (attempts method target payload more tried c) := by
  have hstranded : Stranded c more tried [] :=
    ⟨fun i hi => absurd hi (Nat.not_lt_zero i), Nat.zero_le _, fun e he => .inl (hall e he)⟩
  rw [attempts, select_exhausted hall]
  exact ⟨by simp, ⟨List.nodup_nil, by simp, by simp, by simp⟩, .inr ⟨hstranded, rfl⟩⟩

theorem attempts_course (method target : String) (payload : Option Payload) (more : Nat) (tried : List String)
    {c : Cluster} (hc : c.Ready) (htold : c.health.tellsTimeout = true)
    (hwhole : ∀ earlier r, (c.world.network.respond earlier r).Whole) :
    ∃ sent, Course c method target payload more tried sent (attempts method target payload more tried c) := by
  induction more generalizing tried c with
  | zero =>
    by_cases huntried : ∃ e ∈ c.endpoints, e ∉ tried
    · obtain ⟨e, d, hmem, huntried, -, -, hlog, hround⟩ :=
        attempts_round hc huntried method target payload (fun _ => hwhole _ _) fun _ _ => htold
      refine ⟨[⟨e, method, target, payload⟩], ?_, spread_singleton hmem huntried, .inl ?_⟩
      · rcases hround with ⟨-, h⟩ | ⟨-, h, -⟩ <;> rw [h, hlog] <;> rfl
      · rcases hround with ⟨-, h⟩ | ⟨-, h, -⟩ <;> rw [h] <;> exact .exhausted
    · exact ⟨[], attempts_exhausted (by simpa using huntried) method target payload 0⟩
  | succ more ih =>
    by_cases huntried : ∃ e ∈ c.endpoints, e ∉ tried
    · obtain ⟨e, d, hmem, huntried, hd, hadv, hlog, hround⟩ :=
        attempts_round hc huntried method target payload (fun _ => hwhole _ _) fun _ _ => htold
      rcases hround with ⟨hret, h⟩ | ⟨hret, -, h⟩
      · refine ⟨[⟨e, method, target, payload⟩], ?_, spread_singleton hmem huntried, .inl ?_⟩
        · rw [h, hlog]
          rfl
        · rw [h]
          exact .settled hret
      · have hend : d.endpoints = c.endpoints := by rw [endpoints, endpoints, hadv.nodes]
        have hrequests : d.world.requests = c.world.requests ++ [⟨e, method, target, payload⟩] := requests_append hlog
        obtain ⟨sent, hrest⟩ :=
          ih (tried ++ [e]) hd (hadv.limits.tellsTimeout.trans htold) (by rw [hadv.network]; exact hwhole)
        refine ⟨⟨e, method, target, payload⟩ :: sent, ?_, hrest.spread.cons hend hmem huntried, ?_⟩
        · rw [h, hrest.log, hlog]
          simp
        · rw [h]
          rcases hrest.ending with hconv | ⟨hstranded, hnone⟩
          · rw [hadv.connection, hadv.network, hrequests] at hconv
            exact .inl (.onward hret hconv)
          · exact .inr ⟨hstranded.cons hadv hlog hret, hnone⟩
    · exact ⟨[], attempts_exhausted (by simpa using huntried) method target payload (more + 1)⟩

/-- Without a node to ask, or without a number of nodes that may be asked, a call asks nothing. -/
theorem call_unasked {c : Cluster} (h : c.endpoints = [] ∨ ∃ f, c.retryBudget = .error f) (method : String)
    (path : Option Text) (body : Body) (params : Params) :
    ∃ f counter, c.call method path body params = (.error f, { c with counter }) := by
  rcases call_cases c method path body params with ⟨f, hcall, -⟩ | ⟨target, payload, more, -, hbudget, hcall⟩
  · exact ⟨f, c.counter, hcall⟩
  · have hnone : c.endpoints = [] := h.resolve_right (by simp [hbudget])
    have hselect : c.select [] = (.error (.misuse .noCandidate), { c with counter := c.counter + 1 }) :=
      select_exhausted (by simp [hnone])
    refine ⟨.misuse .noCandidate, c.counter + 1, ?_⟩
    rw [hcall, attempts, hselect]

/-- A call that can be encoded, and that may try a number of nodes, is a series of attempts. -/
theorem call_of_encode {c : Cluster} {path : Option Text} {body : Body} {params : Params} {target : String}
    {payload : Option Payload} (hencode : encode path body params = .ok (target, payload)) {more : Nat}
    (hbudget : c.retryBudget = .ok more) (method : String) :
    c.call method path body params = attempts (Text.upperCase method) target payload more [] c := by
  unfold call
  rw [hencode, hbudget]

/-- A call whose first answer means success asks no other node. -/
theorem call_answered {c : Cluster} (hc : c.Ready) (hne : c.endpoints ≠ []) {more : Nat}
    (hbudget : c.retryBudget = .ok more) (method : String) {path : Option Text} {body : Body} {params : Params}
    {target : String} {payload : Option Payload} (hencode : encode path body params = .ok (target, payload))
    {text : String → String}
    (hanswer : ∀ e, ∃ i answer, c.world.network.respond c.world.requests
        ⟨e, Text.upperCase method, target, payload⟩ = .response (.int i) answer ∧
      200 ≤ i ∧ i < 300 ∧ answer.text? = some (text e)) :
    ∃ e d, c.call method path body params = (.ok (text e), d) ∧ d.Ready ∧ Advances c d ∧
      d.world.log = c.world.log ++ [.request ⟨e, Text.upperCase method, target, payload⟩] := by
  obtain ⟨first, hfirst⟩ := List.exists_mem_of_ne_nil _ hne
  have huntried : ∃ e ∈ c.endpoints, e ∉ ([] : List String) := ⟨first, hfirst, List.not_mem_nil⟩
  have hgood (e : String) : (c.world.network.respond c.world.requests
      ⟨e, Text.upperCase method, target, payload⟩).Whole ∧ (c.world.network.respond c.world.requests
      ⟨e, Text.upperCase method, target, payload⟩).bad = false := by
    obtain ⟨i, answer, hresponse, hge, hlt, -⟩ := hanswer e
    rw [hresponse]
    exact ⟨⟨i, rfl⟩, decide_eq_false (by omega)⟩
  obtain ⟨e, d, -, -, hd, hadv, hlog, hround⟩ :=
    attempts_round hc huntried (Text.upperCase method) target payload (fun e => (hgood e).1)
      fun e hbad => absurd hbad (by simp [(hgood e).2])
  obtain ⟨i, answer, hresponse, hge, hlt, htext⟩ := hanswer e
  rcases hround with ⟨-, h⟩ | ⟨hret, -⟩
  · refine ⟨e, d, ?_, hd, hadv, hlog⟩
    rw [call_of_encode hencode hbudget, h, hresponse]
    simp only [verdict, htext, Quantity.isSpellable_of_lt (show i.natAbs < 1000 by omega), Bool.true_eq_false, if_false]
    rw [if_pos ⟨hge, hlt⟩]
  · rw [hresponse] at hret
    have : 500 ≤ i := by
      unfold Answer.retriable at hret
      simp only [Bool.and_eq_true, decide_eq_true_eq] at hret
      exact hret.1.1
    omega

/-- There are more nodes than may be tried after the first. -/
theorem retryBudget_lt {c : Cluster} {more : Nat} (h : c.retryBudget = .ok more) (hne : c.endpoints ≠ []) :
    more < c.endpoints.length := by
  have hlength : c.endpoints.length = c.nodes.length := List.length_map ..
  have hpos : 0 < c.endpoints.length := List.length_pos_iff.2 hne
  unfold retryBudget at h
  split at h
  · rename_i b hb
    cases h
    have := Quantity.min_int_le hb
    omega
  · cases h

/-- How many nodes may be tried after the first, where that is a whole number. -/
theorem retryBudget_whole {c : Cluster} (hlimit : c.connection.maxRetries.lt (.int 0) = false)
    (hne : c.endpoints ≠ []) {b : Int}
    (hb : (c.connection.maxRetries.min (.int (c.nodes.length - 1))).toInt? = some b) :
    c.retryBudget = .ok b.toNat ∧ 0 ≤ b ∧ b ≤ c.endpoints.length - 1 := by
  have hlength : c.endpoints.length = c.nodes.length := List.length_map ..
  have hpos : 0 < c.endpoints.length := List.length_pos_iff.2 hne
  have hle := Quantity.min_int_le hb
  refine ⟨by simp only [retryBudget, hb], ?_, by omega⟩
  unfold Quantity.min at hb
  split_ifs at hb
  · obtain rfl : (c.nodes.length - 1 : Int) = b := Option.some.inj hb
    omega
  · rw [Quantity.lt_whole hb rfl] at hlimit
    simpa using hlimit

theorem call_course {c : Cluster} (hc : c.Ready) (htold : c.health.tellsTimeout = true)
    (hwhole : ∀ earlier r, (c.world.network.respond earlier r).Whole) {more : Nat} (hbudget : c.retryBudget = .ok more)
    {path : Option Text} {body : Body} {params : Params} {target : String} {payload : Option Payload}
    (hencode : encode path body params = .ok (target, payload)) (method : String) :
    ∃ sent, Course c (Text.upperCase method) target payload more [] sent (c.call method path body params) := by
  rw [call_of_encode hencode hbudget]
  exact attempts_course _ _ _ more [] hc htold hwhole

section call

variable {c : Cluster} (hc : Reachable c) (htold : c.health.tellsTimeout = true) (hne : c.endpoints ≠ [])
  (hnodup : c.endpoints.Nodup) {b : Int}
  (hb : (c.connection.maxRetries.min (.int (c.nodes.length - 1))).toInt? = some b)
  (hwhole : ∀ earlier r, (c.world.network.respond earlier r).Whole) {path : Option Text} {body : Body} {params : Params}
  {target : String} {payload : Option Payload} (hencode : encode path body params = .ok (target, payload))
  (method : String)

include hc htold hne hnodup hb hwhole hencode

theorem call_conversation : ∃ sent : List Request,
    (c.call method path body params).2.world.log = c.world.log ++ sent.map .request ∧
    Spread c (Text.upperCase method) target payload [] sent ∧
    Conversation c.connection c.world.network b.toNat c.world.requests sent (c.call method path body params).1 := by
  obtain ⟨fields, hfields⟩ := hc.connection
  obtain ⟨hbudget, hnonneg, hle⟩ := retryBudget_whole (maxRetries_not_lt hfields) hne hb
  have hpos : 0 < c.endpoints.length := List.length_pos_iff.2 hne
  obtain ⟨sent, hcourse⟩ := call_course hc.ready htold hwhole hbudget hencode method
  refine ⟨sent, hcourse.log, hcourse.spread, hcourse.ending.resolve_right fun ⟨hstranded, _⟩ => ?_⟩
  have := hstranded.length_le hnodup
  rw [List.length_nil] at this
  omega

/-- A call sends at least one request and at most one more than there are retries, each to another node, and all to
the same target with the same payload. After an answer it goes on exactly if the answer leaves room for a retry and a
retry is left, and the last answer decides what comes of it. -/
theorem call_fails_over :
    ∃ sent : List Request,
      (c.call method path body params).2.world.log = c.world.log ++ sent.map .request ∧
      0 < sent.length ∧ (sent.length : Int) ≤ b + 1 ∧
      (sent.map (·.endpoint)).Nodup ∧
      (∀ r ∈ sent, r.endpoint ∈ c.endpoints ∧ r.method = Text.upperCase method ∧ r.target = targetOf path params ∧
        r.payload = body.payload) ∧
      ∀ i (hi : i < sent.length),
        let answer := c.world.network.respond (c.world.requests ++ sent.take i) sent[i]
        (i + 1 < sent.length ↔ answer.retriable c.connection = true ∧ (i : Int) < b) ∧
        (i + 1 = sent.length → (c.call method path body params).1 = verdict sent[i] answer) := by
  obtain ⟨fields, hfields⟩ := hc.connection
  obtain ⟨-, hnonneg, -⟩ := retryBudget_whole (maxRetries_not_lt hfields) hne hb
  obtain ⟨sent, hlog, hspread, hconv⟩ := call_conversation hc htold hne hnodup hb hwhole hencode method
  obtain ⟨rfl, rfl⟩ := encode_ok hencode
  have hlength := hconv.length_le
  refine ⟨sent, hlog, hconv.length_pos, by omega, hspread.distinct, fun r hr => ?_, fun i hi => ?_⟩
  · exact ⟨hspread.known r hr, hspread.alike r hr⟩
  · obtain ⟨hstep, hlast⟩ := hconv.exchange i hi
    refine ⟨hstep.trans (and_congr_right fun _ => ?_), hlast⟩
    omega

end call

/-- A network on which the node that is asked first is out of order. -/
def faltering : Network where
  respond earlier _ := if earlier.isEmpty then .response (.int 503) (.bytes []) else .response (.int 200) (.text "ok")

theorem faltering_whole (earlier : List Request) (r : Request) : (faltering.respond earlier r).Whole := by
  unfold faltering
  simp only
  split_ifs
  · exact ⟨503, rfl⟩
  · exact ⟨200, rfl⟩

theorem call_fails_over_to_second_node :
    ∃ first second : Request, first.endpoint ≠ second.endpoint ∧
      ((twins faltering).call "get" none .none []).2.world.log = [.request first, .request second] ∧
      ((twins faltering).call "get" none .none []).1 = .ok "ok" := by
  obtain ⟨sent, hlog, hpos, hle, hdistinct, -, hsent⟩ := call_fails_over (twins_reachable faltering) (by decide +kernel)
    (by decide) (by decide) (b := 1) rfl faltering_whole
    (show encode none .none [] = .ok (targetOf none [], none) from rfl) "get"
  obtain ⟨hfirst, -⟩ := hsent 0 hpos
  have htwo : sent.length = 2 := by
    have : 0 + 1 < sent.length := hfirst.2 ⟨rfl, by decide⟩
    omega
  obtain ⟨first, second, rfl⟩ := List.length_eq_two.1 htwo
  obtain ⟨-, hlast⟩ := hsent 1 Nat.one_lt_two
  exact ⟨first, second, by simpa using hdistinct, hlog, hlast rfl⟩

/-- With half a retry a call asks nobody. And if the first failure of a node removes it, for a time that cannot be told, then
after this failure a call asks no other node, though a retry is left. -/
theorem call_stops_short :
    let halved := twinsWith { maxRetries := .float 0.5 } faltering
    let untold := twinsWith { failureThreshold := .int 1, resurrectTimeout := Node.Health.overlong } faltering
    (Reachable halved ∧ (halved.call "get" none .none []).2.world.requests = []) ∧
      Reachable untold ∧ (untold.call "get" none .none []).2.world.requests = [⟨"http://a:1", "GET", "/", none⟩] := by
  intro halved untold
  have hhalved : Node.Connection.ofFields [("max_retries", .float 0.5)] = .ok { maxRetries := .float 0.5 } := rfl
  exact ⟨⟨twinsWith_reachable rfl rfl hhalved faltering, by decide +kernel⟩,
    twinsWith_reachable rfl rfl (ofFields_of_limits (by decide) (by decide +kernel)) faltering, by decide +kernel⟩

end DocumentStore.Cluster
