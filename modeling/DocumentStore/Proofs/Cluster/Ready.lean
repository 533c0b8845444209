import DocumentStore.Proofs.Cluster.Frame
import DocumentStore.Proofs.Effect
import DocumentStore.Proofs.Node.Health

/-! The states that a cluster gets into. In all of them its clock runs in binary64 and its nodes are judged by that
clock, so that no selection can fail over a number. Nor can a mark, if the time can be told that a node is removed for. -/

namespace DocumentStore.Cluster

structure Ready (c : Cluster) : Prop where
  clock : c.world.clock.Binary
  health : c.health.Sound

theorem Ready.select {c : Cluster} (hc : c.Ready) (tried : List String) : (c.select tried).2.Ready := by
  obtain ⟨t, ht⟩ := hc.clock
  obtain ⟨found, h, hf, hs, -⟩ :=
    hc.health.firstAvailable t ((rotation c.endpoints c.counter).filter (!tried.contains ·))
  rw [select_snd, ht, hf]
  exact ⟨⟨t, ht⟩, hs⟩

theorem Ready.markFailure {c : Cluster} (hc : c.Ready) (endpoint : String) : (c.markFailure endpoint).2.Ready := by
  obtain ⟨t, ht⟩ := hc.clock
  refine ⟨hc.clock, ?_⟩
  have hs := hc.health.markFailure t endpoint
  rwa [← ht] at hs

theorem Ready.blamed {c : Cluster} (hc : c.Ready) (endpoint : String) (a : Attempt) :
    (c.blamed endpoint a).2.Ready := by
  rw [blamed_snd]
  exact hc.markFailure endpoint

theorem Ready.judged {c : Cluster} (hc : c.Ready) (htold : c.health.tellsTimeout = true) : Judged c := by
  obtain ⟨threshold, hthreshold⟩ := hc.health.failureThreshold
  exact ⟨by rw [hthreshold]; rfl, htold⟩

theorem Ready.markSuccess {c : Cluster} (hc : c.Ready) (endpoint : String) : (c.markSuccess endpoint).Ready :=
  ⟨hc.clock, hc.health.markSuccess endpoint⟩

theorem Ready.settle {c : Cluster} (hc : c.Ready) (endpoint method url : String) (a : Answer) :
    (c.settle endpoint method url a).2.Ready := by
  cases a with
  | failure e => exact hc.blamed endpoint _
  | response status body =>
    unfold Cluster.settle
    simp only
    split
    · exact hc
    · exact hc
    · unfold settleStatus
      simp only
      split_ifs
      · exact hc.markSuccess endpoint
      · exact hc.blamed endpoint _
      · exact hc.markSuccess endpoint
      · exact hc.markSuccess endpoint

/-- Time that passes while a request is answered does not change what the clock runs in. -/
theorem Ready.send {c : Cluster} (hc : c.Ready) (r : Request) :
    Ready { c with world := (c.world.send r).2 } := by
  refine ⟨?_, hc.health⟩
  have hclock : (c.world.send r).2.clock =
      ((c.world.network.elapsed c.world.requests r).bind c.world.clock.add?).getD c.world.clock := rfl
  simp only [hclock]
  cases hq : (c.world.network.elapsed c.world.requests r).bind c.world.clock.add? with
  | none => exact hc.clock
  | some q =>
    obtain ⟨s, -, hs⟩ := Option.bind_eq_some_iff.1 hq
    exact Quantity.binary_of_add hc.clock hs

theorem Ready.attempt {c : Cluster} (hc : c.Ready) (endpoint method target : String) (payload : Option Payload) :
    (c.attempt endpoint method target payload).2.Ready :=
  (hc.send ⟨endpoint, method, target, payload⟩).settle endpoint method (urlOf endpoint target) _

theorem Ready.attempts {c : Cluster} (hc : c.Ready) (method target : String) (payload : Option Payload) (more : Nat)
    (tried : List String) : (Cluster.attempts method target payload more tried c).2.Ready := by
  have hselect {c d : Cluster} {tried} {r} (hc : c.Ready) (h : c.select tried = (r, d)) : d.Ready := by
    have := hc.select tried
    rwa [h] at this
  have hattempt {c d : Cluster} {e} {a} (hc : c.Ready) (h : c.attempt e method target payload = (a, d)) :
      d.Ready := by
    have := hc.attempt e method target payload
    rwa [h] at this
  fun_induction Cluster.attempts method target payload more tried c with
  | case1 more tried c f d hsel => exact hselect hc hsel
  | case2 more tried c endpoint d hsel outcome e hatt => exact hattempt (hselect hc hsel) hatt
  | case3 tried c endpoint d hsel f e hatt => exact hattempt (hselect hc hsel) hatt
  | case4 tried c endpoint d hsel f e hatt more ih => exact ih (hattempt (hselect hc hsel) hatt)

theorem Ready.call {c : Cluster} (hc : c.Ready) (method : String) (path : Option Text) (body : Body)
    (params : Params) : (c.call method path body params).2.Ready := by
  rcases call_cases c method path body params with ⟨f, hcall, -⟩ | ⟨target, payload, more, -, -, hcall⟩
  · rw [hcall]
    exact hc
  · rw [hcall]
    exact hc.attempts ..

/-- The states of the clusters that a checked connection is for. A cluster starts with nodes that are all well, and
may be given limits of its own for their health; then requests are sent, the world goes on, and whoever holds the
health of the nodes asks about them or marks them. -/
inductive Reachable : Cluster → Prop
  | built {nodes : List Json} {fields : List (Text × Json)} {connection : Node.Connection} {options : Node.Options}
      {health : Option Node.Health} {world : World} {c : Cluster}
      (hconn : Node.Connection.ofFields fields = .ok connection)
      (hhealth : ∀ h ∈ health, ∃ threshold timeout, h = ⟨some threshold, some timeout, []⟩)
      (hclock : world.clock.Binary) (h : build nodes connection options health world = .ok c) : Reachable c
  | called {c : Cluster} (h : Reachable c) (method : String) (path : Option Text) (body : Body)
      (params : Params) : Reachable (c.call method path body params).2
  | later {c : Cluster} (h : Reachable c) {world : World} (hclock : world.clock.Binary) :
      Reachable { c with world }
  | asked {c : Cluster} (h : Reachable c) (endpoint : String) :
      Reachable { c with health := (c.health.isAvailable c.world.clock endpoint).2 }
  | succeeded {c : Cluster} (h : Reachable c) (endpoint : String) : Reachable (c.markSuccess endpoint)
  | failed {c : Cluster} (h : Reachable c) (endpoint : String) : Reachable (c.markFailure endpoint).2

theorem build_ready {nodes : List Json} {connection : Node.Connection} {options : Node.Options}
    {health : Option Node.Health} {world : World} {c : Cluster}
    (hhealth : ∀ h ∈ health, ∃ threshold timeout, h = ⟨some threshold, some timeout, []⟩)
    (hclock : world.clock.Binary) (h : build nodes connection options health world = .ok c) :
    c.Ready ∧ c.connection = connection := by
  unfold build at h
  obtain ⟨authorization, -, h⟩ := except_bind_eq_ok h
  obtain ⟨configs, -, h⟩ := except_bind_eq_ok h
  cases h
  refine ⟨⟨hclock, ?_⟩, rfl⟩
  cases health with
  | none => exact Node.Health.sound_of_fresh rfl rfl rfl
  | some own =>
    obtain ⟨threshold, timeout, rfl⟩ := hhealth own rfl
    exact Node.Health.sound_of_fresh rfl rfl rfl

theorem Reachable.ready {c : Cluster} (h : Reachable c) : c.Ready := by
  induction h with
  | built hconn hhealth hclock h => exact (build_ready hhealth hclock h).1
  | called h method path body params ih => exact ih.call method path body params
  | later h hclock ih => exact ⟨hclock, ih.health⟩
  | @asked c h endpoint ih =>
    obtain ⟨t, ht⟩ := ih.clock
    obtain ⟨b, h', hb, hs⟩ := ih.health.isAvailable t endpoint
    rw [ht, hb]
    exact ⟨⟨t, ht⟩, hs⟩
  | succeeded h endpoint ih => exact ih.markSuccess endpoint
  | failed h endpoint ih => exact ih.markFailure endpoint

theorem limit_not_lt {fields : List (Text × Json)} {key : String} {least : Nat} {default q : Quantity}
    (hd : default.lt (.int least) = false) (h : Node.Connection.limit fields key least default = .ok q) :
    q.lt (.int least) = false := by
  unfold Node.Connection.limit at h
  split at h
  · cases h
    exact hd
  · split at h
    · cases h
    · split_ifs at h with hlt
      cases h
      simpa using hlt

/-- The limit of retries that a checked connection sets is not negative. -/
theorem maxRetries_not_lt {fields : List (Text × Json)} {connection : Node.Connection}
    (h : Node.Connection.ofFields fields = .ok connection) : connection.maxRetries.lt (.int 0) = false := by
  unfold Node.Connection.ofFields at h
  split at h
  · cases h
  · obtain ⟨maxRetries, hm, h⟩ := except_bind_eq_ok h
    obtain ⟨requestTimeout, -, h⟩ := except_bind_eq_ok h
    obtain ⟨failureThreshold, -, h⟩ := except_bind_eq_ok h
    obtain ⟨resurrectTimeout, -, h⟩ := except_bind_eq_ok h
    cases h
    exact limit_not_lt rfl hm

/-- Every limit of failures that is not less than one is accepted, with every time that is not negative. -/
theorem ofFields_of_limits {threshold timeout : Quantity} (hthreshold : threshold.lt (.int 1) = false)
    (htimeout : timeout.lt (.int 0) = false) :
    Node.Connection.ofFields [("failure_threshold", threshold.toJson), ("resurrect_timeout", timeout.toJson)] =
      .ok { failureThreshold := threshold, resurrectTimeout := timeout } := by
  set fields : List (Text × Json) :=
    [("failure_threshold", threshold.toJson), ("resurrect_timeout", timeout.toJson)] with hfields
  have hlimit {key : String} {least : Nat} {q : Quantity} (default : Quantity)
      (h : Json.lookupField fields key = some q.toJson) (hq : q.lt (.int least) = false) :
      Node.Connection.limit fields key least default = .ok q := by
    have hread : Quantity.ofJson? q.toJson = some q := by cases q <;> rfl
    unfold Node.Connection.limit
    simp only [h, hread, hq, Bool.not_false, if_true]
  have hfailures : Node.Connection.limit fields "failure_threshold" 1 (.int 3) = .ok threshold :=
    hlimit (.int 3) rfl hthreshold
  have hrest : Node.Connection.limit fields "resurrect_timeout" 0 (.float 60.0) = .ok timeout :=
    hlimit (.float 60.0) rfl htimeout
  unfold Node.Connection.ofFields
  simp only [hfailures, hrest]
  rfl

theorem Reachable.connection {c : Cluster} (h : Reachable c) :
    ∃ fields, Node.Connection.ofFields fields = .ok c.connection := by
  induction h with
  | built hconn hhealth hclock h => exact ⟨_, (build_ready hhealth hclock h).2 ▸ hconn⟩
  | @called c h method path body params ih =>
    rw [(call_advances c method path body params).connection]
    exact ih
  | later h hclock ih => exact ih
  | asked h endpoint ih => exact ih
  | succeeded h endpoint ih => exact ih
  | failed h endpoint ih => exact ih

/-- A node of which nothing is given but its host. -/
def nodeAt (endpoint host : String) : Node.Config where
  endpoint
  address := ⟨"http", none, host, 1, ""⟩
  authorization := none
  requestTimeout := .int 30
  httpCompress := .bool false
  verifyCerts := .bool true
  caCerts := .null
  showWarnings := true

/-- Two nodes, and nothing out of the ordinary. -/
def twins (network : Network) : Cluster where
  nodes := [nodeAt "http://a:1" "a", nodeAt "http://b:1" "b"]
  connection := {}
  health := {}
  world := { clock := .float 0.0, network }

/-- Two such nodes, connected to and judged otherwise. -/
def twinsWith (connection : Node.Connection) (network : Network) : Cluster :=
  { twins network with
    connection
    health := { failureThreshold := connection.failureThreshold, resurrectTimeout := connection.resurrectTimeout } }

section build

variable {connection : Node.Connection} (htimeout : connection.requestTimeout = .int 30)
  (hcompress : connection.httpCompress = .bool false)

include htimeout hcompress

theorem config_nodeAt (endpoint host : String) (h : Node.Address.parse endpoint = .ok ⟨"http", none, host, 1, ""⟩) :
    Node.Config.build connection {} none endpoint = .ok (nodeAt endpoint host) := by
  unfold Node.Config.build
  rw [h, htimeout, hcompress]
  rfl

theorem twins_build (health : Option Node.Health) (world : World) :
    build [.str "http://a:1", .str "http://b:1"] connection {} health world =
      .ok { twinsWith connection world.network with
        health := health.getD (twinsWith connection world.network).health, world } := by
  have ha := config_nodeAt htimeout hcompress "http://a:1" "a" (by decide +kernel)
  have hb := config_nodeAt htimeout hcompress "http://b:1" "b" (by decide +kernel)
  have hauth : ({} : Node.Credentials).authorization = .ok none := rfl
  unfold build
  simp only [List.mapM_cons, List.mapM_nil, endpointOf, Text.toString_ofString, hauth, bind, Except.bind, ha, hb]
  rfl

theorem twinsWith_reachable {fields : List (Text × Json)} (h : Node.Connection.ofFields fields = .ok connection)
    (network : Network) : Reachable (twinsWith connection network) :=
  .built h (by simp) ⟨0.0, rfl⟩ (twins_build htimeout hcompress none { clock := .float 0.0, network })

end build

theorem twins_reachable (network : Network) : Reachable (twins network) :=
  twinsWith_reachable rfl rfl (show Node.Connection.ofFields [] = .ok {} from rfl) network

end DocumentStore.Cluster
