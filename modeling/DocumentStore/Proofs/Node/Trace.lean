import DocumentStore.Proofs.Node.Health

/-! The health of a node as a function of what has been done to it. How often it has failed since it last answered, when
it failed last, and whether it has been given out since then decide its state, whatever was done to other nodes in
between. -/

namespace DocumentStore

section Since

variable {α : Type}

/-- The entries after the last one that meets a condition, or all of them if none does; the latest comes first. -/
def since (p : α → Bool) (t : List α) : List α := t.reverse.takeWhile (!p ·)

/-- How many entries are hits since the last reset. -/
def tally (hit reset : α → Bool) (t : List α) : Nat := (since reset t).countP hit

@[simp] theorem since_nil (p : α → Bool) : since p [] = [] := rfl

theorem since_concat (p : α → Bool) (t : List α) (x : α) :
    since p (t ++ [x]) = if p x then [] else x :: since p t := by
  unfold since
  rw [List.reverse_concat, List.takeWhile_cons]
  cases p x <;> rfl

theorem tally_concat (hit reset : α → Bool) (t : List α) (x : α) :
    tally hit reset (t ++ [x]) = if reset x then 0 else tally hit reset t + if hit x then 1 else 0 := by
  unfold tally
  rw [since_concat]
  split_ifs with hr hh
  · rfl
  · rw [List.countP_cons, if_pos hh]
  · rw [List.countP_cons, if_neg hh]

end Since

namespace Node.Health

inductive Verb where
  | markFailure | markSuccess | isAvailable | state
  deriving DecidableEq, Repr

/-- Something that is asked of the health of the nodes, about one of them, and what the clock shows then. -/
structure Op where
  verb : Verb
  endpoint : String
  now : Quantity

inductive Reply where
  | done
  | available (b : Bool)
  | state (s : State)

def perform (h : Health) (o : Op) : Except Failure Reply × Health :=
  match o.verb with
  | .markFailure =>
    let (r, h) := h.markFailure o.now o.endpoint
    (r.map fun _ => .done, h)
  | .markSuccess => (.ok .done, h.markSuccess o.endpoint)
  | .isAvailable =>
    let (r, h) := h.isAvailable o.now o.endpoint
    (r.map .available, h)
  | .state =>
    let (s, h) := h.state o.endpoint
    (.ok (.state s), h)

/-- An operation with what came of it. -/
structure Entry where
  op : Op
  reply : Except Failure Reply

def after (os : List Op) (h : Health) : Health := os.foldl (fun h o => (h.perform o).2) h

/-- Operations in their order, each with what came of it. -/
def trace : List Op → Health → List Entry
  | [], _ => []
  | o :: os, h => ⟨o, (h.perform o).1⟩ :: trace os (h.perform o).2

namespace Entry

variable (e : String)

/-- A failure of the node `e`. -/
def fails (x : Entry) : Bool := x.op.verb = .markFailure && x.op.endpoint = e

/-- A success of the node `e`. -/
def succeeds (x : Entry) : Bool := x.op.verb = .markSuccess && x.op.endpoint = e

/-- Somebody is told that the node `e` may be asked. -/
def admits (x : Entry) : Bool :=
  match x.reply with
  | .ok (.available true) => x.op.verb = .isAvailable && x.op.endpoint = e
  | _ => false

end Entry

/-- How often the node has failed since its last success. -/
def failures (e : String) (t : List Entry) : Nat := tally (·.fails e) (·.succeeds e) t

/-- When the node failed last. -/
def lastFailure (e : String) (t : List Entry) : Option Quantity := (t.reverse.find? (·.fails e)).map (·.op.now)

/-- The node was given out since it failed last. -/
def admitted (e : String) (t : List Entry) : Bool := (since (·.fails e) t).any (·.admits e)

theorem failures_concat (e : String) (t : List Entry) (x : Entry) :
    failures e (t ++ [x]) = if x.succeeds e then 0 else failures e t + if x.fails e then 1 else 0 :=
  tally_concat ..

theorem lastFailure_concat (e : String) (t : List Entry) (x : Entry) :
    lastFailure e (t ++ [x]) = if x.fails e then some x.op.now else lastFailure e t := by
  unfold lastFailure
  rw [List.reverse_concat, List.find?_cons]
  cases x.fails e <;> rfl

theorem admitted_concat (e : String) (t : List Entry) (x : Entry) :
    admitted e (t ++ [x]) = if x.fails e then false else x.admits e || admitted e t := by
  unfold admitted
  rw [since_concat]
  split_ifs <;> rfl

theorem after_concat (os : List Op) (o : Op) (h : Health) : after (os ++ [o]) h = ((after os h).perform o).2 := by
  unfold after
  rw [List.foldl_concat]

theorem trace_concat (os : List Op) (o : Op) (h : Health) :
    trace (os ++ [o]) h = trace os h ++ [⟨o, ((after os h).perform o).1⟩] := by
  induction os generalizing h with
  | nil => rfl
  | cons p os ih => exact congrArg (_ :: ·) (ih _)

theorem isAvailable_fst (h : Health) (now : Quantity) (e : String) :
    (h.isAvailable now e).1 =
      if (h.status e).state = .removed then (h.resting now (h.status e)).map (!·) else .ok true := by
  split_ifs with hs
  · rw [isAvailable_of_removed hs]
  · rw [isAvailable_of_not_removed hs]

/-- The limits and no status of any node. -/
def fresh (threshold timeout : Quantity) : Health where
  failureThreshold := some threshold
  resurrectTimeout := some timeout
  statuses := []

/-- Only the status of the node in question changes. -/
theorem perform_snd (h : Health) (o : Op) : ∃ s, (h.perform o).2 = h.setStatus o.endpoint s := by
  unfold perform
  cases o.verb with
  | markFailure =>
    obtain ⟨s, hs, -⟩ := h.markFailure_snd o.now o.endpoint
    exact ⟨s, hs⟩
  | markSuccess => exact ⟨_, rfl⟩
  | isAvailable => exact ⟨_, h.isAvailable_snd o.now o.endpoint⟩
  | state => exact ⟨_, rfl⟩

theorem status_perform_of_ne (h : Health) {o : Op} {e : String} (he : o.endpoint ≠ e) :
    (h.perform o).2.status e = h.status e := by
  obtain ⟨s, hs⟩ := h.perform_snd o
  rw [hs, status_setStatus, if_neg he.symm]

theorem sameLimits_perform (h : Health) (o : Op) : SameLimits h (h.perform o).2 := by
  obtain ⟨s, hs⟩ := h.perform_snd o
  rw [hs]
  exact h.setStatus_sameLimits o.endpoint s

namespace SameLimits

variable {h h' h'' : Health}

/-- What is asked of one node is answered from its status, and the status it gets follows from the one it has. -/
theorem perform_status (hl : SameLimits h h') {o : Op}
    (hs : h'.status o.endpoint = h.status o.endpoint) :
    (h'.perform o).1 = (h.perform o).1 ∧
      (h'.perform o).2.status o.endpoint = (h.perform o).2.status o.endpoint := by
  unfold Health.perform
  cases o.verb with
  | markFailure =>
    simp only [markFailure, hs, hl.failureThreshold, hl.tellsTimeout]
    cases h.failureThreshold with
    | none => simp [status_setStatus]
    | some threshold =>
      dsimp only
      split_ifs <;> simp [status_setStatus]
  | markSuccess => simp [markSuccess, status_setStatus]
  | isAvailable =>
    have hfst : (h'.isAvailable o.now o.endpoint).1 = (h.isAvailable o.now o.endpoint).1 := by
      rw [isAvailable_fst, isAvailable_fst, hs, hl.resting]
    refine ⟨congrArg (Except.map Reply.available) hfst, ?_⟩
    simp only [isAvailable_snd, status_setStatus, hfst, hs, if_true]
  | state => simp [state, status_setStatus, hs]

/-- What was asked of other nodes shows neither in the status of a node nor in the answers about it. -/
theorem filtered (hl : SameLimits h h') {e : String} (hs : h'.status e = h.status e) (os : List Op) :
    (after (os.filter (·.endpoint = e)) h').status e = (after os h).status e ∧
      trace (os.filter (·.endpoint = e)) h' = (trace os h).filter (·.op.endpoint = e) := by
  induction os generalizing h h' with
  | nil => exact ⟨hs, rfl⟩
  | cons o os ih =>
    by_cases he : o.endpoint = e
    · subst he
      obtain ⟨hreply, hstatus⟩ := hl.perform_status hs
      have hlimits := (sameLimits_perform h o).symm.trans (hl.trans (sameLimits_perform h' o))
      obtain ⟨hafter, htrace⟩ := ih hlimits hstatus
      simp only [trace, List.filter_cons, decide_true, if_true]
      exact ⟨hafter, by rw [htrace, hreply]⟩
    · have hlimits := (sameLimits_perform h o).symm.trans hl
      obtain ⟨hafter, htrace⟩ := ih hlimits (hs.trans (h.status_perform_of_ne he).symm)
      simp only [trace, List.filter_cons, he, decide_false, Bool.false_eq_true, if_false]
      exact ⟨hafter, htrace⟩

end SameLimits

theorem sameLimits_after (h : Health) (os : List Op) : SameLimits h (after os h) := by
  induction os generalizing h with
  | nil => exact .refl h
  | cons o os ih => exact (sameLimits_perform h o).trans (ih _)

/-- The status of a node is the one that a trace makes it. Where it cannot be `told` for how long a node is removed, no node
is, and it stays healthy where its first failure should have removed it. -/
structure Follows (threshold : Quantity) (told : Bool) (e : String) (t : List Entry) (s : Status) : Prop where
  count : s.consecutiveFailures = failures e t
  healthy : s.state = .healthy ↔ failures e t = 0 ∨ told = false ∧ threshold.le (.int 1) = true
  removed : s.state = .removed ↔ told = true ∧ threshold.le (.int (failures e t)) = true ∧ admitted e t = false
  removedAt : s.removedAt = if s.state = .removed then lastFailure e t else none

section Follows

variable {threshold : Quantity} {told : Bool} {e : String} {t : List Entry} {h : Health}

theorem follows_fresh (hthreshold : threshold.lt (.int 1) = false) (timeout : Quantity) (e : String) :
    Follows threshold told e [] ((fresh threshold timeout).status e) where
  count := rfl
  healthy := by simp [failures, tally, status, fresh]
  removed := by simp [failures, tally, status, fresh, Quantity.not_le_zero hthreshold]
  removedAt := rfl

/-- An entry that counts for nothing changes nothing. -/
theorem Follows.skip {s : Status} (hf : Follows threshold told e t s) {x : Entry} (hfails : x.fails e = false)
    (hsucceeds : x.succeeds e = false) (hadmits : x.admits e = false) : Follows threshold told e (t ++ [x]) s := by
  obtain ⟨hcount, hhealthy, hremoved, hat⟩ := hf
  constructor <;>
    simpa only [failures_concat, lastFailure_concat, admitted_concat, hfails, hsucceeds, hadmits,
      Bool.false_eq_true, if_false, Nat.add_zero, Bool.false_or]

/-- A failure is one more; where that is enough the node is removed again, whoever it was given out to before. -/
theorem Follows.failed {s : Status} (hf : Follows threshold true e t s) {x : Entry} (hfails : x.fails e = true)
    (hsucceeds : x.succeeds e = false) : Follows threshold true e (t ++ [x]) (counted threshold x.op.now s) := by
  obtain ⟨hcount, hhealthy, hremoved, hat⟩ := hf
  unfold counted
  rw [hcount]
  by_cases hle : threshold.le (.int ((failures e t + 1 : Nat) : Int)) = true
  · rw [if_pos hle]
    push_cast at hle
    constructor <;> simp [failures_concat, lastFailure_concat, admitted_concat, hfails, hsucceeds, hle]
  · -- the limit has not been reached before either, so the node was not removed and bears no date
    have hnot : s.state ≠ .removed := by
      intro hs
      exact hle (Quantity.le_int_mono (by omega) (hremoved.1 hs).2.1)
    have hnone : s.removedAt = none := by rw [hat, if_neg hnot]
    rw [if_neg hle]
    push_cast at hle
    constructor <;> simp [failures_concat, hfails, hsucceeds, hle, hnone]

/-- A failure that should remove the node, but cannot tell for how long, leaves it as it is but for the count. -/
theorem Follows.untold {s : Status} (hf : Follows threshold false e t s) {x : Entry} (hfails : x.fails e = true)
    (hsucceeds : x.succeeds e = false) :
    Follows threshold false e (t ++ [x])
      (if threshold.le (.int (s.consecutiveFailures + 1 : Nat)) then
        { s with consecutiveFailures := s.consecutiveFailures + 1 }
      else { s with consecutiveFailures := s.consecutiveFailures + 1, state := .suspected }) := by
  obtain ⟨hcount, hhealthy, hremoved, hat⟩ := hf
  have hnot : s.state ≠ .removed := fun hs => Bool.false_ne_true (hremoved.1 hs).1
  have hnone : s.removedAt = none := by rw [hat, if_neg hnot]
  rw [hcount]
  by_cases hle : threshold.le (.int ((failures e t + 1 : Nat) : Int)) = true
  · -- a node that has not failed before has its first failure now, and that is enough
    have hfirst : failures e t = 0 ∨ threshold.le (.int 1) = true ↔ threshold.le (.int 1) = true := by
      refine ⟨fun h => h.elim (fun hzero => ?_) id, .inr⟩
      simpa [hzero] using hle
    rw [if_pos hle]
    constructor <;> simp [failures_concat, hfails, hsucceeds, hnot, hnone, hhealthy, hfirst]
  · have hmany : threshold.le (.int 1) = false := by
      by_contra hone
      have hone : threshold.le (.int 1) = true := by simpa using hone
      exact hle (Quantity.le_int_mono (by omega) hone)
    rw [if_neg hle]
    constructor <;> simp [failures_concat, hfails, hsucceeds, hmany, hnone]

theorem Follows.succeeded (hthreshold : threshold.lt (.int 1) = false) {x : Entry} (hsucceeds : x.succeeds e = true) :
    Follows threshold told e (t ++ [x]) {} := by
  constructor <;> simp [failures_concat, hsucceeds, Quantity.not_le_zero hthreshold]

/-- Once the node is given out, only its next failure removes it. -/
theorem Follows.givenOut {s : Status} (hthreshold : threshold.lt (.int 1) = false) (hf : Follows threshold told e t s)
    {x : Entry} (hfails : x.fails e = false) (hsucceeds : x.succeeds e = false) (hadmits : x.admits e = true) :
    Follows threshold told e (t ++ [x])
      (if s.state = .removed then { s with state := .suspected, removedAt := none } else s) := by
  obtain ⟨hcount, hhealthy, hremoved, hat⟩ := hf
  by_cases hs : s.state = .removed
  · obtain ⟨htold, hle, -⟩ := hremoved.1 hs
    have hpos : failures e t ≠ 0 := by
      intro hzero
      rw [hzero] at hle
      exact Bool.false_ne_true ((Quantity.not_le_zero hthreshold).symm.trans hle)
    constructor <;>
      simp [failures_concat, admitted_concat, hfails, hsucceeds, hadmits, hcount, hs, hpos, htold]
  · constructor <;>
      simp [failures_concat, admitted_concat, hfails, hsucceeds, hadmits, hcount, hs, hat, hhealthy]

/-- A failure of the node is one more, whether it can be told what follows from it or not. -/
theorem Follows.markFailure (hf : Follows threshold h.tellsTimeout e t (h.status e))
    (hlimit : h.failureThreshold = some threshold) {x : Entry} (hfails : x.fails e = true)
    (hsucceeds : x.succeeds e = false) :
    Follows threshold h.tellsTimeout e (t ++ [x]) ((h.markFailure x.op.now e).2.status e) := by
  cases htold : h.tellsTimeout with
  | true =>
    rw [htold] at hf
    rw [markFailure_told hlimit htold, status_setStatus, if_pos rfl]
    exact hf.failed hfails hsucceeds
  | false =>
    rw [htold] at hf
    have hnot : (h.status e).state ≠ .removed := fun hs => Bool.false_ne_true (hf.removed.1 hs).1
    convert hf.untold hfails hsucceeds using 1
    rw [markFailure_untold hlimit htold hnot]
    split_ifs <;> simp [status_setStatus]

/-- What one operation on any node does to the status of the node `e`. -/
theorem Follows.perform (hf : Follows threshold h.tellsTimeout e t (h.status e))
    (hlimit : h.failureThreshold = some threshold) (hthreshold : threshold.lt (.int 1) = false) (o : Op) :
    Follows threshold h.tellsTimeout e (t ++ [⟨o, (h.perform o).1⟩]) ((h.perform o).2.status e) := by
  by_cases he : o.endpoint = e
  · obtain ⟨verb, endpoint, now⟩ := o
    subst he
    cases verb with
    | markFailure => exact hf.markFailure hlimit (by simp [Entry.fails]) (by simp [Entry.succeeds])
    | markSuccess =>
      simp only [Health.perform, markSuccess, status_setStatus, if_true]
      exact .succeeded hthreshold (by simp [Entry.succeeds])
    | isAvailable =>
      simp only [Health.perform, isAvailable_snd, status_setStatus, if_true]
      rcases hr : (h.isAvailable now endpoint).1 with f | (_ | _)
      · exact hf.skip (by simp [Entry.fails]) (by simp [Entry.succeeds]) (by simp [Entry.admits, Except.map])
      · exact hf.skip (by simp [Entry.fails]) (by simp [Entry.succeeds]) (by simp [Entry.admits, Except.map])
      · exact hf.givenOut hthreshold (by simp [Entry.fails]) (by simp [Entry.succeeds])
          (by simp [Entry.admits, Except.map])
    | state =>
      have := hf.skip (x := ⟨⟨.state, endpoint, now⟩, .ok (.state (h.status endpoint).state)⟩)
        (by simp [Entry.fails]) (by simp [Entry.succeeds]) (by simp [Entry.admits])
      simpa [Health.perform, state, status_setStatus] using this
  · rw [h.status_perform_of_ne he]
    refine hf.skip (by simp [Entry.fails, he]) (by simp [Entry.succeeds, he]) ?_
    unfold Entry.admits
    split <;> simp [he]

end Follows

theorem follows_trace {threshold : Quantity} (hthreshold : threshold.lt (.int 1) = false) (timeout : Quantity)
    (e : String) (os : List Op) :
    Follows threshold timeout.isSpellable e (trace os (fresh threshold timeout))
      ((after os (fresh threshold timeout)).status e) := by
  induction os using List.reverseRecOn with
  | nil => exact follows_fresh hthreshold timeout e
  | append_singleton os o ih =>
    have hlimits : SameLimits (fresh threshold timeout) (after os (fresh threshold timeout)) := sameLimits_after _ os
    have htold : (after os (fresh threshold timeout)).tellsTimeout = timeout.isSpellable := hlimits.tellsTimeout
    rw [trace_concat, after_concat, ← htold]
    exact (htold.symm ▸ ih).perform hlimits.failureThreshold hthreshold o

theorem lastFailure_isSome {e : String} {t : List Entry} (h : failures e t ≠ 0) :
    (lastFailure e t).isSome = true := by
  obtain ⟨x, hx, hfails⟩ := List.countP_pos_iff.1 (Nat.pos_of_ne_zero h)
  have hmem : x ∈ t.reverse := (List.takeWhile_sublist _).subset hx
  unfold lastFailure
  rw [Option.isSome_map, List.find?_isSome]
  exact ⟨x, hmem, hfails⟩

section states

variable {threshold : Quantity} {told : Bool} {e : String} {t : List Entry} {s : Status}

/-- Where it can be told for how long a node is removed, the trace alone says what state the node is in. -/
theorem Follows.states (hf : Follows threshold true e t s) :
    (s.state = .healthy ↔ failures e t = 0) ∧
    (s.state = .removed ↔ threshold.le (.int (failures e t)) = true ∧ admitted e t = false) ∧
    (s.state = .suspected ↔
      failures e t ≠ 0 ∧ ¬(threshold.le (.int (failures e t)) = true ∧ admitted e t = false)) := by
  have hhealthy : s.state = .healthy ↔ failures e t = 0 := by simpa using hf.healthy
  have hremoved : s.state = .removed ↔ threshold.le (.int (failures e t)) = true ∧ admitted e t = false := by
    simpa using hf.removed
  refine ⟨hhealthy, hremoved, ?_⟩
  rw [Ne, ← hhealthy, ← hremoved]
  cases s.state <;> simp

/-- A removed node bears the date of its last failure. -/
theorem Follows.dated (hf : Follows threshold told e t s) (hs : s.state = .removed) :
    ∃ now, lastFailure e t = some now ∧ s.removedAt = some now := by
  have hpos : failures e t ≠ 0 := by
    intro hzero
    rw [hf.healthy.2 (.inl hzero)] at hs
    cases hs
  obtain ⟨now, hnow⟩ := Option.isSome_iff_exists.1 (lastFailure_isSome hpos)
  exact ⟨now, hnow, by rw [hf.removedAt, if_pos hs, hnow]⟩

end states

/-- A failure ends in an error just if it should remove the node and cannot tell for how long. -/
theorem markFailure_ok_iff {h : Health} {threshold : Quantity} {e : String} {t : List Entry}
    (hf : Follows threshold h.tellsTimeout e t (h.status e)) (hlimit : h.failureThreshold = some threshold)
    (now : Quantity) :
    (h.markFailure now e).1 = .ok () ↔
      h.tellsTimeout = true ∨ threshold.le (.int (failures e t + 1 : Nat)) = false := by
  cases htold : h.tellsTimeout with
  | true => simp [markFailure_told hlimit htold]
  | false =>
    have hnot : (h.status e).state ≠ .removed := by
      intro hs
      have := (hf.removed.1 hs).1
      simp [htold] at this
    rw [markFailure_untold hlimit htold hnot, hf.count]
    generalize threshold.le (.int (failures e t + 1 : Nat)) = enough
    cases enough <;> simp

/-- With a clock in binary64 and a time that can be told, every operation gets its reply. -/
theorem Sound.perform {h : Health} (hs : h.Sound) (htold : h.tellsTimeout = true) {o : Op} (hnow : o.now.Binary) :
    (∃ r, (h.perform o).1 = .ok r) ∧ (h.perform o).2.Sound := by
  obtain ⟨verb, e, now⟩ := o
  obtain ⟨now, rfl⟩ := hnow
  cases verb with
  | markFailure =>
    refine ⟨⟨.done, ?_⟩, hs.markFailure now e⟩
    exact congrArg (Except.map fun _ => Reply.done) (hs.markFailure_ok htold (.float now) e)
  | markSuccess => exact ⟨⟨_, rfl⟩, hs.markSuccess e⟩
  | isAvailable =>
    obtain ⟨b, h', hb, hs'⟩ := hs.isAvailable now e
    simp only [Health.perform, hb]
    exact ⟨⟨_, rfl⟩, hs'⟩
  | state => exact ⟨⟨_, rfl⟩, hs.setStatus e (hs.dated e)⟩

theorem Sound.run {h : Health} (hs : h.Sound) (htold : h.tellsTimeout = true) {os : List Op}
    (hnow : ∀ o ∈ os, o.now.Binary) :
    (∀ x ∈ trace os h, ∃ r, x.reply = .ok r) ∧ (after os h).Sound := by
  induction os generalizing h with
  | nil => exact ⟨fun x hx => absurd hx List.not_mem_nil, hs⟩
  | cons o os ih =>
    obtain ⟨hreply, hs'⟩ := hs.perform htold (hnow o List.mem_cons_self)
    have htold' := (sameLimits_perform h o).tellsTimeout.trans htold
    obtain ⟨hreplies, hafter⟩ := ih hs' htold' fun p hp => hnow p (List.mem_cons_of_mem o hp)
    refine ⟨fun x hx => ?_, hafter⟩
    rcases List.mem_cons.1 hx with rfl | hx
    · exact hreply
    · exact hreplies x hx

theorem resting_timed {h : Health} {timeout : Quantity} (ht : h.resurrectTimeout = some timeout) (now : Quantity)
    (s : Status) : h.resting now s = (age now s).map (·.lt timeout) := by
  unfold resting
  rw [ht]
  cases age now s <;> rfl

theorem isAvailable_eq_false_iff {h : Health} {timeout : Quantity} (ht : h.resurrectTimeout = some timeout)
    (now : Quantity) (e : String) :
    (h.isAvailable now e).1 = .ok false ↔ (h.status e).state = .removed ∧
      ∃ elapsed, age now (h.status e) = .ok elapsed ∧ elapsed.lt timeout = true := by
  rw [isAvailable_fst, resting_timed ht]
  by_cases hs : (h.status e).state = .removed
  · cases age now (h.status e) <;> simp [hs, Except.map]
  · simp [hs]

theorem isAvailable_eq_true_iff {h : Health} {timeout : Quantity} (ht : h.resurrectTimeout = some timeout)
    (now : Quantity) (e : String) :
    (h.isAvailable now e).1 = .ok true ↔ (h.status e).state ≠ .removed ∨
      ∃ elapsed, age now (h.status e) = .ok elapsed ∧ elapsed.lt timeout = false := by
  rw [isAvailable_fst, resting_timed ht]
  by_cases hs : (h.status e).state = .removed
  · cases age now (h.status e) <;> simp [hs, Except.map]
  · simp [hs]

/-- What a node is comes from what was asked of it alone: from how often it has failed since it last answered, when it
failed last, and whether it has been given out since. No node is removed whose removal cannot be announced because the
time has too many digits to be told; the failures that should remove it count and end in an error. -/
theorem status_decided_by_trace {threshold : Quantity} (hthreshold : threshold.lt (.int 1) = false)
    (timeout : Quantity) (os : List Op) (e : String) :
    let h := after os (fresh threshold timeout)
    let t := trace os (fresh threshold timeout)
    let own := os.filter (·.endpoint = e)
    let s := h.status e
    (s = (after own (fresh threshold timeout)).status e ∧
      t.filter (·.op.endpoint = e) = trace own (fresh threshold timeout)) ∧
    s.consecutiveFailures = failures e t ∧
    (timeout.isSpellable = true →
      (s.state = .healthy ↔ failures e t = 0) ∧
      (s.state = .removed ↔ threshold.le (.int (failures e t)) = true ∧ admitted e t = false) ∧
      (s.state = .suspected ↔
        failures e t ≠ 0 ∧ ¬(threshold.le (.int (failures e t)) = true ∧ admitted e t = false))) ∧
    (timeout.isSpellable = false →
      s.state ≠ .removed ∧ (s.state = .healthy ↔ failures e t = 0 ∨ threshold.le (.int 1) = true)) ∧
    (s.state = .removed → ∃ now, lastFailure e t = some now ∧ s.removedAt = some now) ∧
    (s.state ≠ .removed → s.removedAt = none) ∧
    (∀ now, ((h.isAvailable now e).1 = .ok false ↔
        s.state = .removed ∧ ∃ elapsed, age now s = .ok elapsed ∧ elapsed.lt timeout = true) ∧
      ((h.isAvailable now e).1 = .ok true ↔
        s.state ≠ .removed ∨ ∃ elapsed, age now s = .ok elapsed ∧ elapsed.lt timeout = false) ∧
      ((h.markFailure now e).1 = .ok () ↔
        timeout.isSpellable = true ∨ threshold.le (.int (failures e t + 1 : Nat)) = false)) ∧
    (timeout.isSpellable = true → (∀ o ∈ os, o.now.Binary) → (∀ x ∈ t, ∃ r, x.reply = .ok r) ∧
      ∀ now, now.Binary → ∃ b, (h.isAvailable now e).1 = .ok b) := by
  intro h t own s
  have hf : Follows threshold timeout.isSpellable e t s := follows_trace hthreshold timeout e os
  have hlimits : SameLimits (fresh threshold timeout) h := sameLimits_after _ os
  have htold : h.tellsTimeout = timeout.isSpellable := hlimits.tellsTimeout
  refine ⟨?_, hf.count, fun hspelled => (hspelled ▸ hf).states, ?_, hf.dated, ?_, ?_, ?_⟩
  · obtain ⟨hstatus, htrace⟩ := SameLimits.filtered (h := fresh threshold timeout) ⟨rfl, rfl⟩ (e := e) rfl os
    exact ⟨hstatus.symm, htrace.symm⟩
  · intro hlong
    rw [hlong] at hf
    exact ⟨fun hs => Bool.false_ne_true (hf.removed.1 hs).1, by simpa using hf.healthy⟩
  · intro hs
    rw [hf.removedAt, if_neg hs]
  · intro now
    refine ⟨isAvailable_eq_false_iff hlimits.resurrectTimeout now e,
      isAvailable_eq_true_iff hlimits.resurrectTimeout now e, ?_⟩
    rw [← htold] at hf ⊢
    exact markFailure_ok_iff hf hlimits.failureThreshold now
  · intro hspelled hnow
    have hfresh : (fresh threshold timeout).Sound := sound_of_fresh rfl rfl rfl
    obtain ⟨hreplies, hsound⟩ := hfresh.run hspelled hnow
    refine ⟨hreplies, ?_⟩
    rintro _ ⟨now, rfl⟩
    obtain ⟨b, h', hb, -⟩ := hsound.isAvailable now e
    exact ⟨b, congrArg Prod.fst hb⟩

/-- Two nodes fail, the first of them twice; it is still away a second before its time is up and comes back then. With
a clock in binary64 it can be asked about. -/
theorem status_decided_by_trace_in_outage :
    let os : List Op := [⟨.markFailure, "a", .int 100⟩, ⟨.markFailure, "b", .int 105⟩, ⟨.isAvailable, "a", .int 110⟩,
      ⟨.markFailure, "a", .int 120⟩]
    let h := after os (fresh (.int 2) (.int 30))
    (h.status "a").state = .removed ∧ (h.status "a").removedAt = some (.int 120) ∧
      (h.isAvailable (.int 149) "a").1 = .ok false ∧ (h.isAvailable (.int 150) "a").1 = .ok true ∧
      ∃ b, ((after [⟨.markFailure, "a", .float 100.0⟩] (fresh (.int 1) (.float 60.0))).isAvailable (.float 110.0)
        "a").1 = .ok b := by
  intro os h
  obtain ⟨-, -, hstates, -, hdated, -, havailable, -⟩ :=
    status_decided_by_trace (show (Quantity.int 2).lt (.int 1) = false by decide) (.int 30) os "a"
  obtain ⟨-, hremoved, -⟩ := hstates (by decide +kernel)
  have hs : (h.status "a").state = .removed := hremoved.2 ⟨by decide +kernel, by decide +kernel⟩
  obtain ⟨now, hlast, hat⟩ := hdated hs
  have hnow : now = .int 120 := Option.some.inj (hlast.symm.trans rfl)
  subst hnow
  have hage (i : Int) : age (.int i) (h.status "a") = .ok (.int (i - 120)) := by
    unfold age
    rw [hat]
    rfl
  refine ⟨hs, hat, (havailable _).1.2 ⟨hs, _, hage _, by decide⟩, (havailable _).2.1.2 (.inr ⟨_, hage _, by decide⟩), ?_⟩
  obtain ⟨-, -, -, -, -, -, -, hbinary⟩ := status_decided_by_trace
    (show (Quantity.int 1).lt (.int 1) = false by decide) (.float 60.0) [⟨.markFailure, "a", .float 100.0⟩] "a"
  exact (hbinary rfl (by simp [Quantity.Binary])).2 _ ⟨_, rfl⟩

/-- The first whole number that has too many digits to be spelled out. -/
def overlong : Quantity := .int (10 ^ 4300)

/-- A time and a longer one, both beyond binary64. -/
def ages : Quantity := .int (10 ^ 400)

def eternity : Quantity := .int (10 ^ 401)

/-- A node that is removed at the instant zero of a clock of whole numbers. -/
def removedAtZero : Health := after [⟨.markFailure, "a", .int 0⟩] (fresh (.int 1) eternity)

/-- A removed node is not asked about in vain only as long as its age can be computed: on a clock of whole numbers that has
left binary64 it cannot, though the time of the node is not yet up. And a node is not removed, though it has failed often
enough and has not been given out, if the time that it is removed for cannot be told. -/
theorem status_beyond_trace :
    ((removedAtZero.status "a").state = .removed ∧ (removedAtZero.status "a").removedAt = some (.int 0) ∧
      (ages.sub? (.int 0)).any (·.lt eternity) = true ∧ (removedAtZero.isAvailable ages "a").1 ≠ .ok false) ∧
    ((after [⟨.markFailure, "a", .int 100⟩] (fresh (.int 1) overlong)).status "a").state ≠ .removed ∧
      (Quantity.int 1).le (.int (failures "a" (trace [⟨.markFailure, "a", .int 100⟩] (fresh (.int 1) overlong)))) = true ∧
      admitted "a" (trace [⟨.markFailure, "a", .int 100⟩] (fresh (.int 1) overlong)) = false := by
  have hstatus : removedAtZero.status "a" = ⟨.removed, 1, some (.int 0)⟩ := by
    have hmark : removedAtZero = ((fresh (.int 1) eternity).markFailure (.int 0) "a").2 := by
      simp only [removedAtZero, after, List.foldl_cons, List.foldl_nil, perform]
    have hlimit : (fresh (.int 1) eternity).failureThreshold = some (.int 1) := rfl
    rw [hmark, markFailure_told hlimit (by decide +kernel), status_setStatus, if_pos rfl]
    rfl
  rw [hstatus]
  refine ⟨⟨rfl, rfl, by decide +kernel, ?_⟩, by decide +kernel, by decide +kernel, by decide +kernel⟩
  intro havailable
  have hnone : (removedAtZero.isAvailable ages "a").1.toOption = none := by decide +kernel
  rw [havailable] at hnone
  cases hnone

end Node.Health

end DocumentStore
