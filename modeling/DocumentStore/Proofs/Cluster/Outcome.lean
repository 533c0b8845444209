import DocumentStore.Proofs.Cluster.Resolved

/-! How a call can end. Its callers are prepared for the text of an answer and for a failure to dispatch. It ends otherwise
if it cannot be encoded, if an answer cannot be decoded or its status cannot be told, or if a list that names nodes
repeatedly runs out of them before the retries are used up. -/

namespace DocumentStore.Cluster

/-- What the callers of a cluster are prepared for: the text of an answer, or a failure to dispatch. -/
def Dispatches (outcome : Except Failure String) : Prop :=
  (∃ text, outcome = .ok text) ∨ ∃ f, outcome = .error (.dispatch f)

theorem not_dispatches_misuse (m : Misuse) : ¬Dispatches (.error (.misuse m)) := by
  rintro (⟨text, h⟩ | ⟨f, h⟩) <;> cases h

/-- The body of the answer is text and its status can be told, if there is an answer. -/
def Answer.Legible : Answer → Prop
  | .failure _ => True
  | .response status body => body.text?.isSome = true ∧ status.isSpellable = true

theorem legible_of_retriable {connection : Node.Connection} {a : Answer} (h : a.retriable connection = true) :
    a.Legible := by
  cases a with
  | failure e => trivial
  | response status body =>
    cases status with
    | int i =>
      unfold Answer.retriable at h
      simp only [Bool.and_eq_true] at h
      exact ⟨h.1.2, h.2⟩
    | _ => cases h

/-- An answer means something to a caller exactly if it is legible. -/
theorem verdict_dispatches_iff {r : Request} {a : Answer} (ha : a.Whole) : Dispatches (verdict r a) ↔ a.Legible := by
  cases a with
  | failure e => exact iff_of_true (.inr ⟨_, rfl⟩) trivial
  | response status body =>
    obtain ⟨i, rfl⟩ := ha
    cases hbody : body.text? with
    | none =>
      refine iff_of_false ?_ (by simp [Answer.Legible, hbody])
      simp only [verdict, hbody]
      exact not_dispatches_misuse _
    | some text =>
      simp only [verdict, hbody, Answer.Legible, Option.isSome_some, true_and]
      by_cases hspell : (Quantity.int i).isSpellable = true
      · refine iff_of_true ?_ hspell
        rw [if_neg (by simp [hspell])]
        split_ifs
        · exact .inl ⟨text, rfl⟩
        · exact .inr ⟨_, rfl⟩
      · refine iff_of_false ?_ hspell
        rw [if_pos (by simpa using hspell)]
        exact not_dispatches_misuse _

/-- A conversation ends as expected exactly if all of its answers are legible. -/
theorem Conversation.dispatches_iff {connection : Node.Connection} {network : Network} {more : Nat}
    {earlier sent : List Request} {outcome : Except Failure String}
    (h : Conversation connection network more earlier sent outcome)
    (hwhole : ∀ earlier r, (network.respond earlier r).Whole) :
    Dispatches outcome ↔ ∀ i (hi : i < sent.length), (network.respond (earlier ++ sent.take i) sent[i]).Legible := by
  have hpos := h.length_pos
  obtain ⟨-, hlast⟩ := h.exchange (sent.length - 1) (by omega)
  rw [hlast (by omega), verdict_dispatches_iff (hwhole _ _)]
  refine ⟨fun hlegible i hi => ?_, fun hall => hall _ (by omega)⟩
  rcases Nat.lt_or_ge (i + 1) sent.length with hlt | hge
  · exact legible_of_retriable ((h.exchange i hi).1.1 hlt).1
  · obtain rfl : i = sent.length - 1 := by omega
    exact hlegible

/-- In a conversation no answer asks for a retry that is left and is not made. -/
theorem Conversation.not_stranded {c : Cluster} {more : Nat} {tried : List String} {sent : List Request}
    {outcome : Except Failure String}
    (h : Conversation c.connection c.world.network more c.world.requests sent outcome) :
    ¬Stranded c more tried sent := by
  intro hstranded
  have hpos := h.length_pos
  have hretries := hstranded.retries
  obtain ⟨hstep, -⟩ := h.exchange (sent.length - 1) (by omega)
  have := hstep.2 ⟨hstranded.retriable _ (by omega), by omega⟩
  omega

/-- Where it can be told for how long a node is removed, a call ends with an answer or a failure to dispatch exactly if it can
be encoded, the number of nodes it may try is known, the answers it gets are legible, and it does not run out of nodes; it
cannot run out of distinct ones. -/
theorem call_dispatches_iff {c : Cluster} (hc : Reachable c) (htold : c.health.tellsTimeout = true)
    (hwhole : ∀ earlier r, (c.world.network.respond earlier r).Whole) (method : String) (path : Option Text)
    (body : Body) (params : Params) :
    ∃ sent : List Request,
      (c.call method path body params).2.world.log = c.world.log ++ sent.map .request ∧
      (Dispatches (c.call method path body params).1 ↔
        (∃ parts, encode path body params = .ok parts) ∧
        (∃ more, c.retryBudget = .ok more ∧ ¬Stranded c more [] sent) ∧
        ∀ i (hi : i < sent.length), (c.world.network.respond (c.world.requests ++ sent.take i) sent[i]).Legible) ∧
      (c.endpoints ≠ [] → c.endpoints.Nodup → ∀ more, c.retryBudget = .ok more → ¬Stranded c more [] sent) := by
  have hdistinct (sent : List Request) (hne : c.endpoints ≠ []) (hnodup : c.endpoints.Nodup) (more : Nat)
      (hmore : c.retryBudget = .ok more) : ¬Stranded c more [] sent := by
    intro hstranded
    have hlt := retryBudget_lt hmore hne
    have hle := hstranded.length_le hnodup
    rw [List.length_nil] at hle
    omega
  rcases call_cases c method path body params with ⟨f, hcall, hnone⟩ | ⟨target, payload, more, hencode, hbudget, -⟩
  · obtain ⟨m, rfl⟩ := hnone.elim (encode_misused path body params f) retryBudget_error
    refine ⟨[], by rw [hcall]; simp, ?_, hdistinct []⟩
    rw [hcall]
    refine iff_of_false (not_dispatches_misuse m) ?_
    rintro ⟨⟨parts, hparts⟩, ⟨more, hmore, -⟩, -⟩
    rcases hnone with hnone | hnone <;> simp_all
  · obtain ⟨sent, hcourse⟩ := call_course hc.ready htold hwhole hbudget hencode method
    refine ⟨sent, hcourse.log, ?_, hdistinct sent⟩
    rcases hcourse.ending with hconv | ⟨hstranded, hnone⟩
    · rw [hconv.dispatches_iff hwhole]
      exact ⟨fun hall => ⟨⟨_, hencode⟩, ⟨more, hbudget, hconv.not_stranded⟩, hall⟩, fun h => h.2.2⟩
    · rw [hnone]
      refine iff_of_false (not_dispatches_misuse _) ?_
      rintro ⟨-, ⟨more', hmore', hnot⟩, -⟩
      obtain rfl := Except.ok.inj (hbudget.symm.trans hmore')
      exact hnot hstranded

/-- The first node fails and the second answers: the nodes are distinct and the answers are texts. -/
theorem call_dispatches_after_failover : Dispatches ((twins faltering).call "get" none .none []).1 := by
  obtain ⟨sent, -, hiff, hdistinct⟩ :=
    call_dispatches_iff (twins_reachable faltering) (by decide +kernel) faltering_whole "get" none .none []
  have hlegible (earlier : List Request) (r : Request) : (faltering.respond earlier r).Legible := by
    unfold faltering
    simp only
    split_ifs
    · exact ⟨by decide +kernel, by decide +kernel⟩
    · exact ⟨by decide +kernel, by decide +kernel⟩
  exact hiff.2 ⟨⟨(targetOf none [], none), rfl⟩, ⟨1, rfl, hdistinct (by decide) (by decide) 1 rfl⟩,
    fun i hi => hlegible _ _⟩

/-- One node, named twice. -/
def twice (network : Network) : Cluster := { twins network with nodes := [nodeAt "http://a:1" "a", nodeAt "http://a:1" "a"] }

theorem twice_reachable (network : Network) : Reachable (twice network) := by
  have ha := @config_nodeAt {} rfl rfl "http://a:1" "a" (by decide +kernel)
  have hauth : ({} : Node.Credentials).authorization = .ok none := rfl
  have hbuild : build [.str "http://a:1", .str "http://a:1"] {} {} none { clock := .float 0.0, network } =
      .ok (twice network) := by
    unfold build
    simp only [List.mapM_cons, List.mapM_nil, endpointOf, Text.toString_ofString, hauth, bind, Except.bind, ha]
    rfl
  exact .built (show Node.Connection.ofFields [] = .ok {} from rfl) (by simp) ⟨0.0, rfl⟩ hbuild

/-- A network of nodes that answer in bytes that are no text. -/
def garbled : Network where
  respond _ _ := .response (.int 503) (.bytes [0xFF])

theorem garbled_undispatched : ¬Dispatches ((twins garbled).call "get" none .none []).1 := by
  have hwhole (earlier : List Request) (r : Request) : (garbled.respond earlier r).Whole := ⟨503, rfl⟩
  obtain ⟨sent, hcourse⟩ :=
    call_course (twins_reachable garbled).ready (by decide +kernel) hwhole
      (show (twins garbled).retryBudget = .ok 1 from rfl)
      (show encode none .none [] = .ok (targetOf none [], none) from rfl) "get"
  rcases hcourse.ending with hconv | ⟨-, hnone⟩
  · rw [hconv.dispatches_iff hwhole]
    intro hall
    have hfirst : (Payload.bytes [0xFF]).text?.isSome = true := (hall 0 hconv.length_pos).1
    exact absurd hfirst (by decide +kernel)
  · rw [hnone]
    exact not_dispatches_misuse _

/-- An answer that cannot be decoded, and a retry where all nodes were tried, end a call otherwise. -/
theorem call_fails_undispatched :
    (Reachable (twins garbled) ∧ ¬Dispatches ((twins garbled).call "get" none .none []).1) ∧
      Reachable (twice broken) ∧ ¬Dispatches ((twice broken).call "get" none .none []).1 := by
  have hbroken : ((twice broken).call "get" none .none []).1 = .error (.misuse .noCandidate) := rfl
  refine ⟨⟨twins_reachable garbled, garbled_undispatched⟩, twice_reachable broken, ?_⟩
  rw [hbroken]
  exact not_dispatches_misuse _

end DocumentStore.Cluster
