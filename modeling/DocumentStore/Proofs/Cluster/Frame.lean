import DocumentStore.Cluster.Basic
import DocumentStore.Proofs.Effect
import DocumentStore.Proofs.Json.Spelling
import DocumentStore.Proofs.Node.Health

/-! What a call leaves alone, and how it can fail. A call may count selections, judge nodes and let time pass; of the
log it only adds to the end, and only requests. It fails as a dispatch, or over a value that it cannot work with. -/

namespace DocumentStore.Cluster

open Node.Health (SameLimits)

/-- `d` is `c` after some requests, with the same nodes and the same limits of their health on the same network, in a world
that waits for as long. -/
structure Advances (c d : Cluster) : Prop where
  nodes : d.nodes = c.nodes
  connection : d.connection = c.connection
  limits : SameLimits c.health d.health
  network : d.world.network = c.world.network
  longestWait : d.world.longestWait = c.world.longestWait
  log : ∃ rs : List Request, d.world.log = c.world.log ++ rs.map .request

theorem Advances.refl (c : Cluster) : Advances c c := ⟨rfl, rfl, .refl _, rfl, rfl, [], by simp⟩

theorem Advances.trans {a b c : Cluster} (h₁ : Advances a b) (h₂ : Advances b c) : Advances a c := by
  obtain ⟨rs, hrs⟩ := h₁.log
  obtain ⟨ss, hss⟩ := h₂.log
  refine ⟨h₂.nodes.trans h₁.nodes, h₂.connection.trans h₁.connection, h₁.limits.trans h₂.limits,
    h₂.network.trans h₁.network, h₂.longestWait.trans h₁.longestWait, rs ++ ss, ?_⟩
  rw [hss, hrs, List.map_append, List.append_assoc]

/-- The health of the nodes and the count of selections say nothing about the requests. -/
theorem Advances.of_health (c : Cluster) {h : Node.Health} (hl : SameLimits c.health h) (n : Nat) :
    Advances c { c with health := h, counter := n } := ⟨rfl, rfl, hl, rfl, rfl, [], by simp⟩

theorem select_snd (c : Cluster) (tried : List String) :
    (c.select tried).2 = { c with
      counter := c.counter + 1
      health := (c.health.firstAvailable c.world.clock
        ((rotation c.endpoints c.counter).filter (!tried.contains ·))).2 } := by
  unfold select
  simp only
  split <;> [rfl; (split <;> rfl)]

theorem blamed_snd (c : Cluster) (endpoint : String) (a : Attempt) :
    (c.blamed endpoint a).2 = { c with health := (c.health.markFailure c.world.clock endpoint).2 } := by
  unfold blamed markFailure
  rcases c.health.markFailure c.world.clock endpoint with ⟨_ | ⟨⟩, h⟩ <;> rfl

theorem settle_snd (c : Cluster) (endpoint method url : String) (a : Answer) :
    ∃ h : Node.Health, (c.settle endpoint method url a).2 = { c with health := h } ∧ SameLimits c.health h := by
  have hfailed := c.health.markFailure_sameLimits c.world.clock endpoint
  have hsucceeded : SameLimits c.health (c.health.markSuccess endpoint) := c.health.setStatus_sameLimits endpoint {}
  cases a with
  | failure e => exact ⟨_, blamed_snd c endpoint _, hfailed⟩
  | response status body =>
    unfold settle
    simp only
    split
    · exact ⟨c.health, rfl, .refl _⟩
    · exact ⟨c.health, rfl, .refl _⟩
    · unfold settleStatus
      simp only
      split_ifs
      · exact ⟨_, rfl, hsucceeded⟩
      · exact ⟨_, blamed_snd c endpoint _, hfailed⟩
      · exact ⟨_, rfl, hsucceeded⟩
      · exact ⟨_, rfl, hsucceeded⟩

theorem send_log (w : World) (r : Request) : (w.send r).2.log = w.log ++ [.request r] := rfl

/-- An attempt sends its request and judges the node, and changes nothing else. -/
theorem attempt_snd (c : Cluster) (endpoint method target : String) (payload : Option Payload) :
    ∃ h : Node.Health, (c.attempt endpoint method target payload).2 =
      { c with world := (c.world.send ⟨endpoint, method, target, payload⟩).2, health := h } ∧ SameLimits c.health h :=
  settle_snd { c with world := (c.world.send ⟨endpoint, method, target, payload⟩).2 } endpoint method
    (urlOf endpoint target) (c.world.send ⟨endpoint, method, target, payload⟩).1

theorem attempt_advances (c : Cluster) (endpoint method target : String) (payload : Option Payload) :
    Advances c (c.attempt endpoint method target payload).2 := by
  obtain ⟨h, hh, hl⟩ := attempt_snd c endpoint method target payload
  rw [hh]
  exact ⟨rfl, rfl, hl, rfl, rfl, [⟨endpoint, method, target, payload⟩], rfl⟩

theorem select_advances_of_eq {c d : Cluster} {tried : List String} {r : Except Failure String}
    (h : c.select tried = (r, d)) : Advances c d := by
  have hs : Advances c (c.select tried).2 := by
    rw [select_snd]
    exact .of_health c (c.health.firstAvailable_sameLimits ..) _
  rwa [h] at hs

theorem select_world_of_eq {c d : Cluster} {tried : List String} {r : Except Failure String}
    (h : c.select tried = (r, d)) : d.world = c.world := by
  have hsnd := select_snd c tried
  rw [h] at hsnd
  exact congrArg (·.world) hsnd

theorem attempt_advances_of_eq {c d : Cluster} {endpoint method target : String} {payload : Option Payload}
    {a : Attempt} (h : c.attempt endpoint method target payload = (a, d)) : Advances c d := by
  have ha := attempt_advances c endpoint method target payload
  rwa [h] at ha

theorem attempts_advances (method target : String) (payload : Option Payload) (more : Nat) (tried : List String)
    (c : Cluster) : Advances c (attempts method target payload more tried c).2 := by
  fun_induction attempts method target payload more tried c with
  | case1 more tried c f d hsel => exact select_advances_of_eq hsel
  | case2 more tried c endpoint d hsel outcome e hatt =>
    exact (select_advances_of_eq hsel).trans (attempt_advances_of_eq hatt)
  | case3 tried c endpoint d hsel f e hatt =>
    exact (select_advances_of_eq hsel).trans (attempt_advances_of_eq hatt)
  | case4 tried c endpoint d hsel f e hatt more ih =>
    exact ((select_advances_of_eq hsel).trans (attempt_advances_of_eq hatt)).trans ih

/-- A call either ends before it begins, or is a series of attempts with one target and one payload. -/
theorem call_cases (c : Cluster) (method : String) (path : Option Text) (body : Body) (params : Params) :
    (∃ f, c.call method path body params = (.error f, c) ∧
      (encode path body params = .error f ∨ c.retryBudget = .error f)) ∨
    ∃ target payload more, encode path body params = .ok (target, payload) ∧ c.retryBudget = .ok more ∧
      c.call method path body params = attempts (Text.upperCase method) target payload more [] c := by
  unfold call
  cases hencode : encode path body params with
  | error f => exact .inl ⟨f, rfl, .inl rfl⟩
  | ok parts =>
    cases hbudget : c.retryBudget with
    | error f => exact .inl ⟨f, rfl, .inr rfl⟩
    | ok more => exact .inr ⟨parts.1, parts.2, more, rfl, rfl, rfl⟩

theorem call_advances (c : Cluster) (method : String) (path : Option Text) (body : Body) (params : Params) :
    Advances c (c.call method path body params).2 := by
  rcases call_cases c method path body params with ⟨f, hcall, -⟩ | ⟨target, payload, more, -, -, hcall⟩
  · rw [hcall]
    exact .refl c
  · rw [hcall]
    exact attempts_advances ..

/-- A value cannot be worked with. -/
def Misused (f : Failure) : Prop := ∃ m, f = .misuse m

/-- The failures that a call can end with. -/
def Dispatched (f : Failure) : Prop := (∃ g, f = .dispatch g) ∨ Misused f

/-- A failure of a node can be marked: its threshold is a number, and it can be told for how long the node is removed. -/
def Judged (c : Cluster) : Prop := c.health.failureThreshold.isSome = true ∧ c.health.tellsTimeout = true

theorem Advances.judged {c d : Cluster} (h : Advances c d) : Judged d ↔ Judged c := by
  unfold Judged
  rw [h.limits.failureThreshold, h.limits.tellsTimeout]

theorem blamed_judged {c : Cluster} (hc : Judged c) (endpoint : String) (a : Attempt) : (c.blamed endpoint a).1 = a := by
  obtain ⟨threshold, hthreshold⟩ := Option.isSome_iff_exists.1 hc.1
  unfold blamed markFailure
  rw [Node.Health.markFailure_told hthreshold hc.2]

theorem resting_error {h : Node.Health} {now : Quantity} {s : Node.Status} {f : Failure}
    (hr : h.resting now s = .error f) : ∃ m, f = .misuse m := by
  unfold Node.Health.resting at hr
  rcases except_bind_eq_error hr with hr | ⟨age, -, hr⟩
  · exact requireInRange_error hr
  · split at hr <;> cases hr
    exact ⟨_, rfl⟩

theorem isAvailable_error {h : Node.Health} {now : Quantity} {e : String} {f : Failure}
    (ha : (h.isAvailable now e).1 = .error f) : ∃ m, f = .misuse m := by
  unfold Node.Health.isAvailable at ha
  simp only at ha
  split_ifs at ha
  split at ha <;> cases ha
  rename_i hr
  exact resting_error hr

theorem firstAvailable_error {h : Node.Health} {now : Quantity} {es : List String} {f : Failure}
    (hf : (h.firstAvailable now es).1 = .error f) : ∃ m, f = .misuse m := by
  induction es generalizing h with
  | nil => cases hf
  | cons e es ih =>
    unfold Node.Health.firstAvailable at hf
    split at hf
    · rename_i g h' ha
      cases hf
      exact isAvailable_error (congrArg Prod.fst ha)
    · cases hf
    · exact ih hf

theorem select_error {c d : Cluster} {tried : List String} {f : Failure} (h : c.select tried = (.error f, d)) :
    ∃ m, f = .misuse m := by
  unfold select at h
  simp only at h
  split at h
  · rename_i g hg
    cases h
    exact firstAvailable_error hg
  · split at h <;> cases h
    exact ⟨_, rfl⟩

theorem blamed_error {c d : Cluster} {endpoint : String} {a b : Attempt} (h : c.blamed endpoint a = (b, d)) :
    b = a ∨ ∃ m, b = .final (.error (.misuse m)) := by
  unfold blamed at h
  split at h <;> cases h
  · exact .inl rfl
  · rename_i f hm
    obtain ⟨m, rfl⟩ := Node.Health.markFailure_error (congrArg Prod.fst hm)
    exact .inr ⟨m, rfl⟩

theorem told_error {status : Quantity} {a : Attempt} {f : Failure} (h : a.told status = .final (.error f)) :
    a = .final (.error f) ∨ Misused f := by
  unfold Attempt.told at h
  split_ifs at h
  · exact .inl h
  · cases h
    exact .inr ⟨_, rfl⟩

theorem settle_error {c d : Cluster} {endpoint method url : String} {a : Answer} {f : Failure}
    (h : c.settle endpoint method url a = (.final (.error f), d)) : Dispatched f := by
  have hblamed {a : Attempt} (ha : a = .final (.error f) → Dispatched f)
      (h : c.blamed endpoint a = (.final (.error f), d)) : Dispatched f := by
    rcases blamed_error h with hb | ⟨m, hb⟩
    · exact ha hb.symm
    · cases hb
      exact .inr ⟨m, rfl⟩
  cases a with
  | failure e =>
    refine hblamed (fun ha => ?_) h
    split_ifs at ha
    cases ha
    exact .inl ⟨_, rfl⟩
  | response status body =>
    unfold settle at h
    simp only at h
    split at h
    · cases h
      exact .inr ⟨_, rfl⟩
    · cases h
      exact .inr ⟨_, rfl⟩
    · have htold (a : Attempt) (status : Quantity) (ha : a = .final (.error f) → Dispatched f)
          (h : a.told status = .final (.error f)) : Dispatched f := (told_error h).elim ha .inr
      unfold settleStatus at h
      simp only at h
      split_ifs at h
      · exact htold _ _ (fun ha => by cases ha) (congrArg Prod.fst h)
      · exact hblamed (htold _ _ fun ha => by cases ha) h
      all_goals
        refine htold _ _ (fun ha => ?_) (congrArg Prod.fst h)
        cases ha
        exact .inl ⟨_, rfl⟩

theorem attempts_error {method target : String} {payload : Option Payload} {more : Nat} {tried : List String}
    {c : Cluster} {f : Failure} (h : (attempts method target payload more tried c).1 = .error f) : Dispatched f := by
  fun_induction attempts method target payload more tried c with
  | case1 more tried c g d hsel =>
    cases h
    exact .inr (select_error hsel)
  | case2 more tried c endpoint d hsel outcome e hatt =>
    cases h
    exact settle_error hatt
  | case3 tried c endpoint d hsel g e hatt =>
    cases h
    exact .inl ⟨g, rfl⟩
  | case4 tried c endpoint d hsel g e hatt more ih => exact ih h

theorem retryBudget_error {c : Cluster} {f : Failure} (h : c.retryBudget = .error f) : ∃ m, f = .misuse m := by
  unfold retryBudget at h
  split at h <;> cases h
  exact ⟨_, rfl⟩

theorem require_misused (t : Text) : OnlyFails Misused t.require := by
  unfold Text.require
  split
  · exact .ok _
  · exact .error ⟨_, rfl⟩

theorem spell_misused (v : Json) : OnlyFails Misused v.spell := .ite (.ok _) (.error ⟨_, rfl⟩)

theorem encode_misused (path : Option Text) (body : Body) (params : Params) :
    OnlyFails Misused (encode path body params) := by
  have hpath : OnlyFails Misused (encodePath path) := by
    cases path with
    | none => exact .ok _
    | some t => exact (require_misused t).bind fun _ => .ok _
  have hpart (v : Json) : OnlyFails Misused (encodePart v) :=
    (spell_misused v).bind fun _ => (require_misused _).discard
  have hvalue (v : Json) : OnlyFails Misused (spellValue v) := by
    unfold spellValue
    split
    · exact .ok _
    · exact spell_misused v
  have hvalues : OnlyFails Misused (params.mapM fun p => spellValue p.2) := .mapM (fun p => hvalue p.2) params
  have hparts : OnlyFails Misused (params.mapM fun p => do
      encodePart p.1
      encodePart p.2) := .mapM (fun p => (hpart p.1).bind fun _ => hpart p.2) params
  have hparams : OnlyFails Misused (encodeParams params) := hvalues.discard.bind fun _ => hparts.discard
  have hbody : OnlyFails Misused body.encode := by
    unfold Body.encode
    split
    · exact (require_misused _).discard
    · exact .ok _
  exact hpath.bind fun _ => hparams.bind fun _ => hbody.bind fun _ => .ok _

/-- What can be encoded is the target of the path, as the text that it is, and the payload of the body. -/
theorem encode_ok {path : Option Text} {body : Body} {params : Params} {target : String} {payload : Option Payload}
    (h : encode path body params = .ok (target, payload)) :
    target = targetOf path params ∧ payload = body.payload := by
  obtain ⟨named, hnamed, h⟩ := except_bind_eq_ok h
  obtain ⟨-, -, h⟩ := except_bind_eq_ok h
  obtain ⟨-, -, h⟩ := except_bind_eq_ok h
  cases h
  refine ⟨?_, rfl⟩
  cases path with
  | none =>
    cases hnamed
    rfl
  | some t =>
    obtain ⟨s, hs, hnamed⟩ := except_bind_eq_ok hnamed
    cases hnamed
    rw [Text.require_eq_ok_iff.1 hs, targetOf, Option.map_some, Text.toString_ofString]

theorem call_error {c : Cluster} {method : String} {path : Option Text} {body : Body} {params : Params}
    {f : Failure} (h : (c.call method path body params).1 = .error f) : Dispatched f := by
  rcases call_cases c method path body params with ⟨g, hcall, hnone⟩ | ⟨target, payload, more, -, -, hcall⟩
  · rw [hcall] at h
    cases h
    exact .inr (hnone.elim (encode_misused path body params f) retryBudget_error)
  · rw [hcall] at h
    exact attempts_error h

end DocumentStore.Cluster
