import DocumentStore.Proofs.Cluster.Rotation

/-! Which node a selection chooses. From the node in turn on it asks about one node after the other that was not tried, and
takes the first that may be asked, or the first of all if none may. To ask about a node makes it known, and changes only
one that was removed and whose time is up, which is then the one that is chosen. -/

namespace DocumentStore

namespace Node.Health

/-- It can be told whether the node may be asked: if it was removed, how long ago that was and how long it lasts. -/
def Tells (h : Health) (now : Quantity) (e : String) : Prop :=
  (h.status e).state = .removed → ∃ timeout elapsed, h.resurrectTimeout = some timeout ∧ age now (h.status e) = .ok elapsed

/-- The node was removed, and its time is up. -/
def TimeUp (h : Health) (now : Quantity) (e : String) : Prop :=
  (h.status e).state = .removed ∧ ∃ timeout elapsed,
    h.resurrectTimeout = some timeout ∧ age now (h.status e) = .ok elapsed ∧ elapsed.lt timeout = false

/-- The node may be asked: it was not removed, or its time is up. -/
def Available (h : Health) (now : Quantity) (e : String) : Prop := (h.status e).state ≠ .removed ∨ h.TimeUp now e

/-- The node is known from now on. -/
def register (h : Health) (e : String) : Health := h.setStatus e (h.status e)

/-- The node is on trial from now on. -/
def onTrial (h : Health) (e : String) : Health :=
  h.setStatus e { h.status e with state := .suspected, removedAt := none }

theorem SameLimits.exists_statuses {h h' : Health} (hl : SameLimits h h') : ∃ statuses, h' = { h with statuses } := by
  obtain ⟨failureThreshold, resurrectTimeout, statuses⟩ := h'
  obtain ⟨hthreshold, htimeout⟩ := hl
  cases hthreshold
  cases htimeout
  exact ⟨statuses, rfl⟩

theorem lookup_setStatus (h : Health) (e x : String) (s : Status) :
    (h.setStatus e s).statuses.lookup x = if x = e then some s else h.statuses.lookup x := lookup_putField ..

theorem status_eq_of_lookup {h : Health} {e : String} {s : Status} (hs : h.statuses.lookup e = some s) : h.status e = s := by
  rw [status, hs, Option.getD_some]

theorem Sound.tells {h : Health} (hs : h.Sound) {now : Quantity} (hnow : now.Binary) (e : String) : h.Tells now e := by
  intro _
  obtain ⟨t, rfl⟩ := hnow
  obtain ⟨timeout, htimeout⟩ := hs.resurrectTimeout
  obtain ⟨elapsed, helapsed⟩ := age_ok (hs.dated e) t
  exact ⟨timeout, elapsed, htimeout, helapsed⟩

section register

variable (h : Health) (now : Quantity) (e x : String)

theorem register_status : (h.register e).status x = h.status x := by
  rw [register, status_setStatus]
  split_ifs with hx
  · rw [hx]
  · rfl

theorem register_tells : (h.register e).Tells now x ↔ h.Tells now x := by
  unfold Tells
  rw [register_status]
  rfl

theorem register_timeUp : (h.register e).TimeUp now x ↔ h.TimeUp now x := by
  unfold TimeUp
  rw [register_status]
  rfl

theorem register_available : (h.register e).Available now x ↔ h.Available now x := by
  rw [Available, Available, register_status, register_timeUp]

end register

/-- All that asking about a node can come to. -/
theorem isAvailable_cases {h : Health} {now : Quantity} {e : String} (htells : h.Tells now e) :
    ((h.status e).state ≠ .removed ∧ h.isAvailable now e = (.ok true, h.register e)) ∨
      (h.TimeUp now e ∧ h.isAvailable now e = (.ok true, h.onTrial e)) ∨
      (¬h.Available now e ∧ h.isAvailable now e = (.ok false, h.register e)) := by
  by_cases hs : (h.status e).state = .removed
  · obtain ⟨timeout, elapsed, htimeout, helapsed⟩ := htells hs
    rw [isAvailable_of_removed hs, resting_timed htimeout, helapsed]
    cases hlt : elapsed.lt timeout with
    | false => exact .inr (.inl ⟨⟨hs, timeout, elapsed, htimeout, helapsed, hlt⟩, by simp only [Except.map, hlt]; rfl⟩)
    | true =>
      refine .inr (.inr ⟨?_, by simp only [Except.map, hlt]; rfl⟩)
      rintro (hne | ⟨-, timeout', elapsed', htimeout', helapsed', hlt'⟩)
      · exact hne hs
      · rw [htimeout] at htimeout'
        rw [helapsed] at helapsed'
        cases htimeout'
        cases helapsed'
        rw [hlt] at hlt'
        cases hlt'
  · exact .inl ⟨hs, isAvailable_of_not_removed hs now⟩

/-- What is known of the nodes after some of them were asked about and one was chosen: it was removed and is on trial, or
nothing has changed but that those asked about are known. -/
structure Asked (h h' : Health) (now : Quantity) (asked : List String) (chosen : String) : Prop where
  limits : SameLimits h h'
  back : h.TimeUp now chosen →
    h'.statuses.lookup chosen = some { h.status chosen with state := .suspected, removedAt := none }
  others : ∀ x, ¬(x = chosen ∧ h.TimeUp now chosen) →
    h'.statuses.lookup x = if x ∈ asked then some (h.status x) else h.statuses.lookup x

section Asked

variable {h h' : Health} {now : Quantity} {asked : List String} {e chosen : String}

theorem asked_nil (hup : ¬h.TimeUp now chosen) : Asked h h now [] chosen :=
  ⟨⟨rfl, rfl⟩, fun hup' => absurd hup' hup, fun x _ => by rw [if_neg List.not_mem_nil]⟩

/-- One more node was asked about before, and could not be asked. -/
theorem Asked.cons (ha : Asked (h.register e) h' now asked chosen) : Asked h h' now (e :: asked) chosen := by
  refine ⟨⟨ha.limits.failureThreshold, ha.limits.resurrectTimeout⟩, fun hup => ?_, fun x hx => ?_⟩
  · rw [ha.back ((h.register_timeUp now e chosen).2 hup), register_status]
  · have hothers := ha.others x fun hx' => hx ⟨hx'.1, (h.register_timeUp now e chosen).1 hx'.2⟩
    rw [hothers, register_status, register, lookup_setStatus]
    by_cases hxe : x = e
    · subst hxe
      simp
    · simp [hxe]

theorem asked_onTrial (hup : h.TimeUp now e) : Asked h (h.onTrial e) now [e] e := by
  refine ⟨⟨rfl, rfl⟩, fun _ => ?_, fun x hx => ?_⟩
  · rw [onTrial, lookup_setStatus, if_pos rfl]
  · have hne : x ≠ e := fun hxe => hx ⟨hxe, hup⟩
    rw [onTrial, lookup_setStatus, if_neg hne, if_neg (by simpa using hne)]

/-- A node that was known is as it was, unless its time was up and it is chosen. -/
theorem Asked.known (ha : Asked h h' now asked chosen) {x : String} {s : Status} (hs : h.statuses.lookup x = some s)
    (hx : ¬(x = chosen ∧ h.TimeUp now chosen)) : h'.statuses.lookup x = some s := by
  rw [ha.others x hx, status_eq_of_lookup hs, hs, ite_self]

/-- A node that was not known is in order if it was asked about, and not known otherwise. -/
theorem Asked.unknown (ha : Asked h h' now asked chosen) {x : String} (hx : h.statuses.lookup x = none) :
    h'.statuses.lookup x = if x ∈ asked then some {} else none := by
  have hstatus : h.status x = {} := by rw [status, hx, Option.getD_none]
  have hnotUp : ¬(x = chosen ∧ h.TimeUp now chosen) := by
    rintro ⟨rfl, hs, -⟩
    rw [hstatus] at hs
    cases hs
  rw [ha.others x hnotUp, hstatus, hx]

end Asked

/-- The nodes in turn are asked about up to the first that may be asked. -/
theorem firstAvailable_cases {h : Health} {now : Quantity} {es : List String} (htells : ∀ e ∈ es, h.Tells now e) :
    ∃ h', ((∀ x ∈ es, ¬h.Available now x) ∧ h.firstAvailable now es = (.ok none, h') ∧
        ∀ e, ¬h.TimeUp now e → Asked h h' now es e) ∨
      ∃ passed e behind, es = passed ++ e :: behind ∧ (∀ x ∈ passed, ¬h.Available now x) ∧ h.Available now e ∧
        h.firstAvailable now es = (.ok (some e), h') ∧ Asked h h' now (passed ++ [e]) e := by
  induction es generalizing h with
  | nil => exact ⟨h, .inl ⟨by simp, rfl, fun e => asked_nil⟩⟩
  | cons e es ih =>
    rw [firstAvailable]
    rcases isAvailable_cases (htells e List.mem_cons_self) with ⟨hs, hasked⟩ | ⟨hup, hasked⟩ | ⟨hno, hasked⟩
    · rw [hasked]
      have hnotUp : ¬(h.register e).TimeUp now e := fun hup => hs ((h.register_timeUp now e e).1 hup).1
      exact ⟨_, .inr ⟨[], e, es, rfl, by simp, .inl hs, rfl, (asked_nil hnotUp).cons⟩⟩
    · rw [hasked]
      exact ⟨_, .inr ⟨[], e, es, rfl, by simp, .inr hup, rfl, asked_onTrial hup⟩⟩
    · rw [hasked]
      have htells' : ∀ x ∈ es, (h.register e).Tells now x := fun x hx =>
        (h.register_tells now e x).2 (htells x (List.mem_cons_of_mem e hx))
      have hpassed {passed : List String} (hrest : ∀ x ∈ passed, ¬(h.register e).Available now x) :
          ∀ x ∈ e :: passed, ¬h.Available now x := by
        rintro x (_ | ⟨_, hx⟩)
        · exact hno
        · exact fun hmay => hrest x hx ((h.register_available now e x).2 hmay)
      obtain ⟨h', ⟨hnone, hfirst, ha⟩ | ⟨passed, e', behind, rfl, hrest, hmay, hfirst, ha⟩⟩ := ih htells'
      · refine ⟨h', .inl ⟨hpassed hnone, hfirst, fun x hup => (ha x ?_).cons⟩⟩
        exact fun hup' => hup ((h.register_timeUp now e x).1 hup')
      · exact ⟨h', .inr ⟨e :: passed, e', behind, rfl, hpassed hrest, (h.register_available now e e').1 hmay, hfirst,
          ha.cons⟩⟩

end Node.Health

namespace Cluster

section turns

variable {c : Cluster} {tried : List String}

theorem mem_turns {x : String} :
    x ∈ (c.endpoints.rotate c.counter).filter (· ∉ tried) ↔ x ∈ c.endpoints ∧ x ∉ tried := by
  simp [List.mem_filter, List.mem_rotate]

/-- The first node found among those in turn is chosen, and the first of them if none is found. -/
theorem select_of_firstAvailable {h' : Node.Health} {found : Option String} {e : String}
    (hfirst : c.health.firstAvailable c.world.clock ((c.endpoints.rotate c.counter).filter (· ∉ tried)) = (.ok found, h'))
    (he : found.or ((c.endpoints.rotate c.counter).filter (· ∉ tried)).head? = some e) :
    c.select tried = (.ok e, { c with counter := c.counter + 1, health := h' }) := by
  have hturns : (rotation c.endpoints c.counter).filter (!tried.contains ·) =
      (c.endpoints.rotate c.counter).filter (· ∉ tried) := by
    rw [rotation_eq_rotate]
    exact List.filter_congr (by simp)
  unfold select
  simp only [hturns]
  rw [hfirst]
  simp only [he]

end turns

/-- A selection chooses the first node in turn that was not tried and may be asked, and the first that was not tried if
there is none such. It counts itself; of the nodes that were known it changes only the chosen one, if that was removed and
its time is up, and puts it on trial; and of the others it makes those known as nodes in order that it asks about. On a
clock in binary64 it can always be told whether a node may be asked. -/
theorem select_first_available (c : Cluster) (tried : List String) (hleft : ∃ e ∈ c.endpoints, e ∉ tried) :
    let now := c.world.clock
    let turns := (c.endpoints.rotate c.counter).filter (· ∉ tried)
    (c.Ready → ∀ e, c.health.Tells now e) ∧
    ((∀ e ∈ c.endpoints, e ∉ tried → c.health.Tells now e) →
      ∃ e d asked, c.select tried = (.ok e, d) ∧ e ∈ c.endpoints ∧ e ∉ tried ∧
        ((∃ x ∈ turns, c.health.Available now x) → ∃ passed behind, turns = passed ++ e :: behind ∧
          c.health.Available now e ∧ (∀ x ∈ passed, ¬c.health.Available now x) ∧ asked = passed ++ [e]) ∧
        ((∀ x ∈ turns, ¬c.health.Available now x) → turns.head? = some e ∧ asked = turns) ∧
        (∃ statuses, d = { c with counter := c.counter + 1, health := { c.health with statuses } }) ∧
        (c.health.TimeUp now e → d.health.statuses.lookup e =
          some { c.health.status e with state := .suspected, removedAt := none }) ∧
        (∀ x s, c.health.statuses.lookup x = some s → ¬(x = e ∧ c.health.TimeUp now e) →
          d.health.statuses.lookup x = some s) ∧
        ∀ x, c.health.statuses.lookup x = none →
          d.health.statuses.lookup x = if x ∈ asked then some {} else none) := by
  intro now turns
  refine ⟨fun hc => hc.health.tells hc.clock, fun htells => ?_⟩
  have hframe {h' : Node.Health} (hl : Node.Health.SameLimits c.health h') :
      ∃ statuses, ({ c with counter := c.counter + 1, health := h' } : Cluster) =
        { c with counter := c.counter + 1, health := { c.health with statuses } } := by
    obtain ⟨statuses, rfl⟩ := hl.exists_statuses
    exact ⟨statuses, rfl⟩
  obtain ⟨h', ⟨hnone, hfirst, hasked⟩ | ⟨passed, e, behind, hturns, hpassed, hmay, hfirst, hasked⟩⟩ :=
    Node.Health.firstAvailable_cases fun x (hx : x ∈ turns) => htells x (mem_turns.1 hx).1 (mem_turns.1 hx).2
  · -- nobody may be asked: the first in turn is taken all the same, and its time is not up
    obtain ⟨e, he⟩ : ∃ e, turns.head? = some e := by
      obtain ⟨x, hx, huntried⟩ := hleft
      exact Option.isSome_iff_exists.1 (List.isSome_head?.2 (List.ne_nil_of_mem (mem_turns.2 ⟨hx, huntried⟩)))
    have hin : e ∈ turns := List.mem_of_head? he
    have hasked := hasked e fun hup => hnone e hin (.inr hup)
    have hselect := select_of_firstAvailable hfirst (by rw [Option.none_or, he])
    refine ⟨e, _, turns, hselect, (mem_turns.1 hin).1, (mem_turns.1 hin).2, ?_, fun _ => ⟨he, rfl⟩, hframe hasked.limits,
      hasked.back, fun x s hs hx => hasked.known hs hx, fun x hx => hasked.unknown hx⟩
    rintro ⟨x, hx, hmay⟩
    exact absurd hmay (hnone x hx)
  · have hin : e ∈ turns := by
      rw [hturns]
      exact List.mem_append_right _ List.mem_cons_self
    refine ⟨e, _, passed ++ [e], select_of_firstAvailable hfirst rfl, (mem_turns.1 hin).1, (mem_turns.1 hin).2,
      fun _ => ⟨passed, behind, hturns, hmay, hpassed, rfl⟩, fun hnone => absurd hmay (hnone e hin),
      hframe hasked.limits, hasked.back, fun x s hs hx => hasked.known hs hx, fun x hx => hasked.unknown hx⟩

/-- Three nodes on two of which nobody may count: the second was removed a short while ago, the third long ago. -/
def depleted : Cluster where
  nodes := [nodeAt "http://a:1" "a", nodeAt "http://b:1" "b", nodeAt "http://c:1" "c"]
  connection := {}
  health := {
    failureThreshold := some (.int 1)
    resurrectTimeout := some (.int 30)
    statuses := [("http://b:1", ⟨.removed, 2, some (.int 90)⟩), ("http://c:1", ⟨.removed, 1, some (.int 70)⟩)] }
  counter := 4
  world := { clock := .int 100, network := broken }

theorem depleted_tells (e : String) : depleted.health.Tells depleted.world.clock e := by
  intro hremoved
  by_cases hb : e = "http://b:1"
  · subst hb
    exact ⟨.int 30, .int 10, rfl, rfl⟩
  by_cases hc : e = "http://c:1"
  · subst hc
    exact ⟨.int 30, .int 30, rfl, rfl⟩
  have hunknown : depleted.health.status e = {} := by
    simp [Node.Health.status, depleted, List.lookup_cons, beq_eq_false_iff_ne.2 hb, beq_eq_false_iff_ne.2 hc]
  rw [hunknown] at hremoved
  cases hremoved

/-- The second node rests and is left alone; the third one's time is up, and it is chosen and put on trial. -/
theorem select_depleted : (∃ e ∈ depleted.endpoints, e ∉ ["http://a:1"]) ∧
    ∃ d, depleted.select ["http://a:1"] = (.ok "http://c:1", d) ∧ d.counter = 5 ∧
      d.health.statuses.lookup "http://a:1" = none ∧
      d.health.statuses.lookup "http://b:1" = some ⟨.removed, 2, some (.int 90)⟩ ∧
      d.health.statuses.lookup "http://c:1" = some ⟨.suspected, 1, none⟩ := by
  have hleft : ∃ e ∈ depleted.endpoints, e ∉ ["http://a:1"] := ⟨"http://b:1", by decide, by decide⟩
  have hrests : ¬depleted.health.Available depleted.world.clock "http://b:1" := by
    rintro (hin | ⟨-, timeout, elapsed, htimeout, helapsed, hlt⟩)
    · exact hin rfl
    · cases htimeout
      cases helapsed
      exact absurd hlt (by decide)
  have hup : depleted.health.TimeUp depleted.world.clock "http://c:1" := ⟨rfl, .int 30, .int 30, rfl, rfl, by decide⟩
  have hturns : (depleted.endpoints.rotate 4).filter (· ∉ ["http://a:1"]) = ["http://b:1", "http://c:1"] := by decide
  obtain ⟨e, d, asked, hselect, -, -, hfirst, -, ⟨statuses, hd⟩, hback, hknown, hunknown⟩ :=
    (select_first_available depleted ["http://a:1"] hleft).2 fun e _ _ => depleted_tells e
  obtain ⟨passed, behind, hsplit, hmay, hpassed, rfl⟩ :=
    hfirst ⟨"http://c:1", List.mem_filter.2 ⟨by decide, by decide⟩, .inr hup⟩
  replace hsplit : ["http://b:1", "http://c:1"] = passed ++ e :: behind := hturns.symm.trans hsplit
  obtain ⟨rfl, rfl, rfl⟩ : passed = ["http://b:1"] ∧ e = "http://c:1" ∧ behind = [] := by
    rcases passed with - | ⟨x, - | ⟨y, rest⟩⟩
    · obtain ⟨rfl, -⟩ := List.cons.inj hsplit
      exact absurd hmay hrests
    · simpa [eq_comm] using hsplit
    · simp at hsplit
  refine ⟨hleft, d, hselect, by rw [hd]; rfl, ?_, ?_, hback hup⟩
  · exact (hunknown "http://a:1" rfl).trans (if_neg (by decide))
  · exact hknown "http://b:1" _ rfl fun hx => absurd hx.1 (by decide)

end Cluster

end DocumentStore
