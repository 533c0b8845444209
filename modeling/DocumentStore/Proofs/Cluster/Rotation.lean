import DocumentStore.Proofs.Cluster.Resolved

/-! Whose turn it is. As long as every node may be asked whenever one is chosen, the nodes are asked in their order, over
and over: a retry takes the next turn like any other request, and no call begins a round anew. -/

namespace DocumentStore.Cluster

/-- Every node may be asked. -/
def AllAvailable (c : Cluster) : Prop := ∀ e ∈ c.endpoints, (c.health.isAvailable c.world.clock e).1 = .ok true

/-- The states in which some attempts choose a node. -/
def choices (method target : String) (payload : Option Payload) :
    (more : Nat) → (tried : List String) → Cluster → List Cluster
  | more, tried, c =>
    c :: match c.select tried with
      | (.error _, _) => []
      | (.ok endpoint, d) =>
        match d.attempt endpoint method target payload with
        | (.final _, _) => []
        | (.failed _, d) =>
          match more with
          | 0 => []
          | more + 1 => choices method target payload more (tried ++ [endpoint]) d

/-- The states in which a call chooses a node. -/
def callChoices (c : Cluster) (method : String) (path : Option Text) (body : Body) (params : Params) :
    List Cluster :=
  match encode path body params, c.retryBudget with
  | .ok (target, payload), .ok more => choices (Text.upperCase method) target payload more [] c
  | _, _ => []

/-- What a call is made with, out of values as they came. -/
def argumentsOf (method path params : Json) : Except Failure (String × Option Text × Params) := do
  return (← method.requireText, ← pathOf path, ← paramsOf params)

theorem request_eq (c : Cluster) (method path : Json) (body : Body) (params : Json) :
    c.request method path body params =
      match argumentsOf method path params with
      | .error f => (.error f, c)
      | .ok (method, path, params) => c.call method path body params := rfl

/-- The states in which a step chooses a node. -/
def stepChoices (c : Cluster) : Step → List Cluster
  | .call method path body params => c.callChoices method path body params
  | .request method path body params =>
    match argumentsOf method path params with
    | .error _ => []
    | .ok (method, path, params) => c.callChoices method path body params
  | .clock _ => []

/-- The states in which a run chooses a node. -/
def runChoices : List Step → Cluster → List Cluster
  | [], _ => []
  | step :: steps, c => c.stepChoices step ++ runChoices steps (c.perform step)

/-- Every choice is counted, and is among the choices. -/
theorem attempts_counter (method target : String) (payload : Option Payload) (more : Nat) (tried : List String)
    (c : Cluster) :
    (attempts method target payload more tried c).2.counter =
      c.counter + (choices method target payload more tried c).length := by
  have hselect {c d : Cluster} {tried : List String} {r} (h : c.select tried = (r, d)) : d.counter = c.counter + 1 := by
    have := congrArg (·.counter) (select_snd c tried)
    rwa [h] at this
  have hattempt {d d' : Cluster} {endpoint : String} {a : Attempt}
      (h : d.attempt endpoint method target payload = (a, d')) : d'.counter = d.counter := by
    obtain ⟨health, hsnd, -⟩ := attempt_snd d endpoint method target payload
    rw [h] at hsnd
    exact congrArg (·.counter) hsnd
  fun_induction attempts method target payload more tried c with
  | case1 more tried c f d hsel =>
    rw [choices, hsel]
    exact hselect hsel
  | case2 more tried c endpoint d hsel outcome d' hatt =>
    rw [choices, hsel]
    simp only [hatt]
    rw [hattempt hatt]
    exact hselect hsel
  | case3 tried c endpoint d hsel f d' hatt =>
    rw [choices, hsel]
    simp only [hatt]
    rw [hattempt hatt]
    exact hselect hsel
  | case4 tried c endpoint d hsel f d' hatt more ih =>
    rw [choices, hsel]
    simp only [hatt]
    rw [ih, hattempt hatt, hselect hsel, List.length_cons]
    omega

theorem call_counter (c : Cluster) (method : String) (path : Option Text) (body : Body) (params : Params) :
    (c.call method path body params).2.counter = c.counter + (c.callChoices method path body params).length := by
  unfold call callChoices
  cases encode path body params with
  | error f => rfl
  | ok parts =>
    cases c.retryBudget with
    | error f => rfl
    | ok more => exact attempts_counter ..

theorem perform_counter (c : Cluster) (step : Step) :
    (c.perform step).counter = c.counter + (c.stepChoices step).length := by
  cases step with
  | call method path body params => exact call_counter ..
  | request method path body params =>
    unfold perform stepChoices
    simp only [request_eq]
    cases argumentsOf method path params with
    | error f => rfl
    | ok arguments => exact call_counter ..
  | clock now => rfl

theorem after_counter (steps : List Step) (c : Cluster) :
    (after steps c).counter = c.counter + (runChoices steps c).length := by
  induction steps generalizing c with
  | nil => rfl
  | cons step steps ih =>
    have hrest := ih (c.perform step)
    rw [perform_counter] at hrest
    rw [runChoices, List.length_append, ← Nat.add_assoc]
    exact hrest

theorem rotation_eq_rotate (endpoints : List String) (counter : Nat) :
    rotation endpoints counter = endpoints.rotate counter :=
  List.rotate_eq_drop_append_take_mod.symm

/-- Where all nodes may be asked, the node in turn is chosen, unless it was tried. -/
theorem select_in_turn {c : Cluster} (havailable : c.AllAvailable) {e : String}
    (hturn : c.endpoints[c.counter % c.endpoints.length]? = some e) {tried : List String} (huntried : e ∉ tried) :
    ∃ health, c.select tried = (.ok e, { c with counter := c.counter + 1, health }) := by
  have hmem : e ∈ c.endpoints := List.mem_of_getElem? hturn
  have hhead : (rotation c.endpoints c.counter).head? = some e := by
    rw [rotation_eq_rotate, List.head?_eq_getElem?, List.getElem?_rotate (List.length_pos_of_mem hmem), Nat.zero_add,
      hturn]
  obtain ⟨rest, hrest⟩ := List.head?_eq_some_iff.1 hhead
  have hcandidates : (rotation c.endpoints c.counter).filter (!tried.contains ·) =
      e :: rest.filter (!tried.contains ·) := by
    rw [hrest, List.filter_cons_of_pos (by simpa using huntried)]
  have hasked := havailable e hmem
  unfold select
  simp only [hcandidates, Node.Health.firstAvailable]
  rcases hfirst : c.health.isAvailable c.world.clock e with ⟨b, health⟩
  rw [hfirst] at hasked
  obtain rfl : b = .ok true := hasked
  exact ⟨health, rfl⟩

/-- After some requests, each of which went to the node in turn, it is the turn of the next. -/
structure InTurn (turns : List String) (earlier sent : List Request) (c : Cluster) : Prop where
  endpoints : c.endpoints = turns
  requests : c.world.requests = earlier ++ sent
  counter : c.counter = sent.length
  sent : ∀ i (hi : i < sent.length), turns[i % turns.length]? = some sent[i].endpoint

/-- Fewer nodes than there are, asked one after the other just before, do not include the one in turn. -/
theorem not_mem_of_recent {turns : List String} (hnodup : turns.Nodup) {sent : List Request}
    (hsent : ∀ i (hi : i < sent.length), turns[i % turns.length]? = some sent[i].endpoint) {e : String}
    (hturn : turns[sent.length % turns.length]? = some e) {tried : List String}
    (hrecent : tried <:+ sent.map (·.endpoint)) (hfew : tried.length < turns.length) : e ∉ tried := by
  intro hmem
  obtain ⟨before, hbefore⟩ := hrecent
  obtain ⟨j, hj, hje⟩ := List.mem_iff_getElem.1 hmem
  have hlength : before.length + tried.length = sent.length := by
    rw [← List.length_append, hbefore, List.length_map]
  have hi : before.length + j < sent.length := by omega
  have hasked : sent[before.length + j].endpoint = e := by
    have hget : (before ++ tried)[before.length + j]? = some e := by
      rw [List.getElem?_append_right (Nat.le_add_right ..), Nat.add_sub_cancel_left, List.getElem?_eq_getElem hj, hje]
    rw [hbefore, List.getElem?_map, List.getElem?_eq_getElem hi] at hget
    exact Option.some.inj hget
  have hsame : sent.length % turns.length = (before.length + j) % turns.length := by
    refine (List.getElem?_inj (Nat.mod_lt _ (by omega)) hnodup).1 ?_
    rw [hturn, hsent _ hi, hasked]
  -- two places in the same turn are a whole round apart, and the nodes tried do not fill a round
  have hround := Nat.sub_mod_eq_zero_of_mod_eq hsame
  rw [Nat.mod_eq_of_lt (by omega)] at hround
  omega

section InTurn

variable {turns : List String} {earlier sent : List Request} {c d : Cluster}

/-- One round: the node in turn is asked, and then it is the turn of the next. -/
theorem InTurn.round (hc : InTurn turns earlier sent c) (hnodup : turns.Nodup) (havailable : c.AllAvailable)
    {tried : List String} (hrecent : tried <:+ sent.map (·.endpoint)) (hfew : tried.length < turns.length)
    (method target : String) (payload : Option Payload) :
    ∃ e d, c.select tried = (.ok e, d) ∧ ∀ {a d'}, d.attempt e method target payload = (a, d') →
      InTurn turns earlier (sent ++ [⟨e, method, target, payload⟩]) d' := by
  have hlt : sent.length % turns.length < turns.length := Nat.mod_lt _ (by omega)
  have hturn : turns[sent.length % turns.length]? = some turns[sent.length % turns.length] :=
    List.getElem?_eq_getElem hlt
  set e := turns[sent.length % turns.length]
  have huntried : e ∉ tried := not_mem_of_recent hnodup hc.sent hturn hrecent hfew
  obtain ⟨health, hselect⟩ := select_in_turn havailable (by rw [hc.endpoints, hc.counter, hturn]) huntried
  refine ⟨e, _, hselect, fun {a d'} hattempt => ?_⟩
  obtain ⟨health', hsnd, -⟩ := attempt_snd { c with counter := c.counter + 1, health } e method target payload
  rw [hattempt] at hsnd
  obtain rfl := hsnd
  refine ⟨hc.endpoints, ?_, ?_, fun i hi => ?_⟩
  · have : (c.world.send ⟨e, method, target, payload⟩).2.requests = c.world.requests ++ [⟨e, method, target, payload⟩] :=
      requests_append (send_log ..)
    rw [this, hc.requests, List.append_assoc]
  · rw [List.length_append, List.length_singleton, ← hc.counter]
  · rcases Nat.lt_or_ge i sent.length with hlt | hge
    · rw [List.getElem_append_left hlt]
      exact hc.sent i hlt
    · obtain rfl : i = sent.length := by
        rw [List.length_append, List.length_singleton] at hi
        omega
      rw [List.getElem_concat_length rfl, hturn]

theorem InTurn.attempts (hc : InTurn turns earlier sent c) (hnodup : turns.Nodup) {method target : String}
    {payload : Option Payload} {more : Nat} {tried : List String}
    (havailable : ∀ d ∈ choices method target payload more tried c, d.AllAvailable)
    (hrecent : tried <:+ sent.map (·.endpoint)) (hfew : tried.length + more < turns.length) :
    ∃ sent', InTurn turns earlier (sent ++ sent') (Cluster.attempts method target payload more tried c).2 := by
  have hround {c d d' : Cluster} {sent tried endpoint a} (hc : InTurn turns earlier sent c)
      (havailable : c.AllAvailable) (hrecent : tried <:+ sent.map (·.endpoint)) (hfew : tried.length < turns.length)
      (hsel : c.select tried = (.ok endpoint, d)) (hatt : d.attempt endpoint method target payload = (a, d')) :
      InTurn turns earlier (sent ++ [⟨endpoint, method, target, payload⟩]) d' := by
    obtain ⟨e, d, hselect, hturn⟩ := hc.round hnodup havailable hrecent hfew method target payload
    rw [hsel] at hselect
    cases hselect
    exact hturn hatt
  fun_induction Cluster.attempts method target payload more tried c generalizing sent with
  | case1 more tried c f d hsel =>
    rw [choices, List.forall_mem_cons] at havailable
    obtain ⟨e, d, hselect, -⟩ := hc.round hnodup havailable.1 hrecent (by omega) method target payload
    rw [hsel] at hselect
    cases hselect
  | case2 more tried c endpoint d hsel outcome d' hatt =>
    rw [choices, List.forall_mem_cons] at havailable
    exact ⟨_, hround hc havailable.1 hrecent (by omega) hsel hatt⟩
  | case3 tried c endpoint d hsel f d' hatt =>
    rw [choices, List.forall_mem_cons] at havailable
    exact ⟨_, hround hc havailable.1 hrecent (by omega) hsel hatt⟩
  | case4 tried c endpoint d hsel f d' hatt more ih =>
    rw [choices, List.forall_mem_cons, hsel] at havailable
    simp only [hatt] at havailable
    have hnext := hround hc havailable.1 hrecent (by omega) hsel hatt
    have hrecent' : tried ++ [endpoint] <:+
        (sent ++ [(⟨endpoint, method, target, payload⟩ : Request)]).map (·.endpoint) := by
      obtain ⟨before, hbefore⟩ := hrecent
      refine ⟨before, ?_⟩
      rw [List.map_append, ← hbefore, List.append_assoc]
      rfl
    obtain ⟨sent', hsent'⟩ := ih hnext havailable.2 hrecent' (by rw [List.length_append, List.length_singleton]; omega)
    rw [List.append_assoc] at hsent'
    exact ⟨_, hsent'⟩

theorem InTurn.call (hc : InTurn turns earlier sent c) (hne : turns ≠ []) (hnodup : turns.Nodup) {method : String}
    {path : Option Text} {body : Body} {params : Params}
    (havailable : ∀ d ∈ c.callChoices method path body params, d.AllAvailable) :
    ∃ sent', InTurn turns earlier (sent ++ sent') (c.call method path body params).2 := by
  unfold callChoices at havailable
  rcases call_cases c method path body params with ⟨f, hcall, -⟩ | ⟨target, payload, more, hencode, hbudget, hcall⟩
  · rw [hcall]
    exact ⟨[], by rwa [List.append_nil]⟩
  · have hmore := retryBudget_lt hbudget (hc.endpoints ▸ hne)
    rw [hencode, hbudget] at havailable
    rw [hc.endpoints] at hmore
    rw [hcall]
    exact hc.attempts hnodup havailable (List.nil_suffix ..) (by rw [List.length_nil]; omega)

theorem InTurn.perform (hc : InTurn turns earlier sent c) (hne : turns ≠ []) (hnodup : turns.Nodup) {step : Step}
    (havailable : ∀ d ∈ c.stepChoices step, d.AllAvailable) :
    ∃ sent', InTurn turns earlier (sent ++ sent') (c.perform step) := by
  cases step with
  | call method path body params => exact hc.call hne hnodup havailable
  | request method path body params =>
    unfold Cluster.perform stepChoices at *
    simp only [request_eq]
    cases hparts : argumentsOf method path params with
    | error f => exact ⟨[], by rwa [List.append_nil]⟩
    | ok arguments =>
      simp only [hparts] at havailable
      exact hc.call hne hnodup havailable
  | clock now => exact ⟨[], by rw [List.append_nil]; exact ⟨hc.endpoints, hc.requests, hc.counter, hc.sent⟩⟩

theorem InTurn.after (hc : InTurn turns earlier sent c) (hne : turns ≠ []) (hnodup : turns.Nodup) {steps : List Step}
    (havailable : ∀ d ∈ runChoices steps c, d.AllAvailable) :
    ∃ sent', InTurn turns earlier (sent ++ sent') (Cluster.after steps c) := by
  induction steps generalizing sent c with
  | nil => exact ⟨[], by rwa [List.append_nil]⟩
  | cons step steps ih =>
    rw [runChoices, List.forall_mem_append] at havailable
    obtain ⟨sent', hstep⟩ := hc.perform hne hnodup havailable.1
    obtain ⟨sent'', hrest⟩ := ih hstep havailable.2
    rw [List.append_assoc] at hrest
    exact ⟨sent' ++ sent'', hrest⟩

/-- As many requests in a row as there are nodes go once around. -/
theorem window_perm (hsent : ∀ i (hi : i < sent.length), turns[i % turns.length]? = some sent[i].endpoint) {i : Nat}
    (hi : i + turns.length ≤ sent.length) :
    (((sent.drop i).take turns.length).map (·.endpoint)).Perm turns := by
  have hround : ((sent.drop i).take turns.length).map (·.endpoint) = turns.rotate i := by
    refine List.ext_getElem? fun j => ?_
    rcases Nat.lt_or_ge j turns.length with hj | hj
    · have hij : i + j < sent.length := by omega
      rw [List.getElem?_map, List.getElem?_take_of_lt hj, List.getElem?_drop, List.getElem?_eq_getElem hij,
        List.getElem?_rotate hj, Nat.add_comm j i, hsent _ hij]
      rfl
    · rw [List.getElem?_eq_none (by simp; omega), List.getElem?_eq_none (by simpa using hj)]
  rw [hround]
  exact List.rotate_perm turns i

end InTurn

/-- While all nodes may be asked whenever one is chosen, the requests of a whole run go to the nodes in their order, over
and over, so that as many requests in a row as there are nodes reach each node once. -/
theorem requests_in_turn {nodes : List Json} {connection : Node.Connection} {options : Node.Options}
    {health : Option Node.Health} {world : World} {c : Cluster}
    (hbuild : build nodes connection options health world = .ok c) (hne : c.endpoints ≠ [])
    (hnodup : c.endpoints.Nodup) (steps : List Step) (havailable : ∀ d ∈ runChoices steps c, d.AllAvailable) :
    ∃ sent, (after steps c).world.requests = world.requests ++ sent ∧
      sent.length = (runChoices steps c).length ∧
      (∀ i (hi : i < sent.length), c.endpoints[i % c.endpoints.length]? = some sent[i].endpoint) ∧
      ∀ i, i + c.endpoints.length ≤ sent.length →
        (((sent.drop i).take c.endpoints.length).map (·.endpoint)).Perm c.endpoints := by
  obtain ⟨hcounter, hworld⟩ : c.counter = 0 ∧ c.world = world := by
    unfold build at hbuild
    obtain ⟨authorization, -, hbuild⟩ := except_bind_eq_ok hbuild
    obtain ⟨configs, -, hbuild⟩ := except_bind_eq_ok hbuild
    cases hbuild
    exact ⟨rfl, rfl⟩
  have hstart : InTurn c.endpoints world.requests [] c :=
    ⟨rfl, by rw [hworld, List.append_nil], hcounter, fun i hi => absurd hi (Nat.not_lt_zero i)⟩
  obtain ⟨sent, hafter⟩ := hstart.after hne hnodup havailable
  rw [List.nil_append] at hafter
  refine ⟨sent, hafter.requests, ?_, hafter.sent, fun i hi => window_perm hafter.sent hi⟩
  rw [← hafter.counter, after_counter, hcounter, Nat.zero_add]

/-- The first node fails, the second answers in its place, and the next call begins with the first again. -/
theorem requests_in_turn_past_failure :
    let get : Step := .call "get" none .none []
    ((after [get, get] (twins faltering)).world.requests.map (·.endpoint)) =
      ["http://a:1", "http://b:1", "http://a:1"] := by
  intro get
  have hhealthy : ∀ d ∈ runChoices [get, get] (twins faltering), ∀ e ∈ d.endpoints,
      (d.health.status e).state ≠ .removed := by decide +kernel
  obtain ⟨sent, hrequests, hlength, hsent, -⟩ :=
    requests_in_turn (@twins_build {} rfl rfl none { clock := .float 0.0, network := faltering }) (by decide) (by decide)
      [get, get] fun d hd e he => by rw [Node.Health.isAvailable_of_not_removed (hhealthy d hd e he)]
  have hthree : sent.length = 3 := hlength.trans (by decide +kernel)
  obtain ⟨first, second, third, rfl⟩ := List.length_eq_three.1 hthree
  have hfirst : "http://a:1" = first.endpoint := Option.some.inj (hsent 0 (by simp))
  have hsecond : "http://b:1" = second.endpoint := Option.some.inj (hsent 1 (by simp))
  have hthird : "http://a:1" = third.endpoint := Option.some.inj (hsent 2 (by simp))
  have hasked : (after [get, get] (twins faltering)).world.requests = [first, second, third] := hrequests
  simp only [hasked, List.map_cons, List.map_nil, ← hfirst, ← hsecond, ← hthird]

end DocumentStore.Cluster
