import DocumentStore.Node.Health
import DocumentStore.Proofs.Quantity

/-! Health that is judged by a clock in binary64. As long as the limits are numbers, no node can be asked about in vain: every
comparison that this takes can be made. Nor can one be marked in vain, if the time that it is removed for can be told. -/

namespace DocumentStore

theorem lookup_cons {α : Type} (k k' : String) (v : α) (fields : List (String × α)) :
    ((k, v) :: fields).lookup k' = if k' = k then some v else fields.lookup k' := by
  rw [List.lookup_cons]
  by_cases h : k' = k
  · simp [h]
  · simp [beq_false_of_ne h, h]

theorem lookup_putField {α : Type} (k k' : String) (v : α) (fields : List (String × α)) :
    (putField k v fields).lookup k' = if k' = k then some v else fields.lookup k' := by
  induction fields with
  | nil => exact lookup_cons k k' v []
  | cons f fields ih =>
    obtain ⟨l, u⟩ := f
    unfold putField
    by_cases hl : l = k
    · subst hl
      rw [if_pos rfl, lookup_cons, lookup_cons]
      split_ifs <;> rfl
    · rw [if_neg hl, lookup_cons, lookup_cons, ih]
      by_cases h : k' = l
      · subst h
        simp [hl]
      · simp [h]

namespace Node

/-- The node was removed at an instant of a binary64 clock, if it was removed. -/
def Status.Dated (s : Status) : Prop := ∀ q, s.removedAt = some q → q.Binary

namespace Health

/-- Limits that are numbers, and removals that a binary64 clock has dated. -/
structure Sound (h : Health) : Prop where
  failureThreshold : ∃ q, h.failureThreshold = some q
  resurrectTimeout : ∃ q, h.resurrectTimeout = some q
  dated : ∀ e, (h.status e).Dated

theorem status_setStatus (h : Health) (e e' : String) (s : Status) :
    (h.setStatus e s).status e' = if e' = e then s else h.status e' := by
  unfold status setStatus
  rw [lookup_putField]
  split_ifs <;> rfl

theorem Sound.setStatus {h : Health} (hs : h.Sound) (e : String) {s : Status} (hd : s.Dated) :
    (h.setStatus e s).Sound := by
  refine ⟨hs.failureThreshold, hs.resurrectTimeout, fun e' => ?_⟩
  rw [status_setStatus]
  split_ifs
  · exact hd
  · exact hs.dated e'

theorem sound_of_fresh {h : Health} {threshold timeout : Quantity} (ht : h.failureThreshold = some threshold)
    (hr : h.resurrectTimeout = some timeout) (hs : h.statuses = []) : h.Sound := by
  refine ⟨⟨_, ht⟩, ⟨_, hr⟩, fun e q hq => ?_⟩
  simp [status, hs] at hq

theorem age_ok {s : Status} (hd : s.Dated) (t : Float) : ∃ q, age (.float t) s = .ok q := by
  have hsince : (s.removedAt.getD (.float 0.0)).Binary := by
    cases hr : s.removedAt with
    | none => exact ⟨0.0, rfl⟩
    | some q => exact hd q hr
  obtain ⟨x, hx⟩ := hsince
  unfold age
  simp only [hx]
  split_ifs
  · exact ⟨_, Quantity.sub_binary t 0.0⟩
  · exact ⟨_, Quantity.sub_binary t x⟩

theorem Sound.resting {h : Health} (hs : h.Sound) (t : Float) {s : Status} (hd : s.Dated) :
    ∃ b, h.resting (.float t) s = .ok b := by
  obtain ⟨timeout, ht⟩ := hs.resurrectTimeout
  obtain ⟨q, hq⟩ := age_ok hd t
  refine ⟨q.lt timeout, ?_⟩
  unfold Health.resting
  rw [hq, ht]
  rfl

theorem isAvailable_of_not_removed {h : Health} {e : String} (hs : (h.status e).state ≠ .removed) (now : Quantity) :
    h.isAvailable now e = (.ok true, h.setStatus e (h.status e)) := by
  unfold Health.isAvailable
  exact if_pos hs

theorem isAvailable_of_removed {h : Health} {e : String} (hs : (h.status e).state = .removed) (now : Quantity) :
    h.isAvailable now e = ((h.resting now (h.status e)).map (!·), h.setStatus e (match h.resting now (h.status e) with
      | .ok false => { h.status e with state := .suspected, removedAt := none }
      | _ => h.status e)) := by
  unfold Health.isAvailable
  simp only [hs, ne_eq, not_true_eq_false, if_false]
  rcases h.resting now (h.status e) with f | (_ | _) <;> rfl

theorem Sound.isAvailable {h : Health} (hs : h.Sound) (t : Float) (e : String) :
    ∃ b h', h.isAvailable (.float t) e = (.ok b, h') ∧ h'.Sound := by
  have hsame := hs.setStatus e (hs.dated e)
  obtain ⟨b, hb⟩ := hs.resting t (hs.dated e)
  by_cases hr : (h.status e).state = .removed
  · rw [isAvailable_of_removed hr, hb]
    cases b with
    | true => exact ⟨false, _, rfl, hsame⟩
    | false => exact ⟨true, _, rfl, hs.setStatus e (by simp [Status.Dated])⟩
  · rw [isAvailable_of_not_removed hr]
    exact ⟨true, _, rfl, hsame⟩

theorem Sound.firstAvailable {h : Health} (hs : h.Sound) (t : Float) (es : List String) :
    ∃ found h', h.firstAvailable (.float t) es = (.ok found, h') ∧ h'.Sound ∧ ∀ e ∈ found, e ∈ es := by
  induction es generalizing h with
  | nil => exact ⟨none, h, rfl, hs, by simp⟩
  | cons e es ih =>
    obtain ⟨b, h', hb, hs'⟩ := hs.isAvailable t e
    unfold Health.firstAvailable
    rw [hb]
    cases b with
    | true => exact ⟨some e, h', rfl, hs', by simp⟩
    | false =>
      obtain ⟨found, h'', hf, hs'', hmem⟩ := ih hs'
      exact ⟨found, h'', hf, hs'', fun e' he' => List.mem_cons_of_mem e (hmem e' he')⟩

theorem Sound.markSuccess {h : Health} (hs : h.Sound) (e : String) : (h.markSuccess e).Sound :=
  hs.setStatus e (by simp [Status.Dated])

theorem isAvailable_snd (h : Health) (now : Quantity) (e : String) :
    (h.isAvailable now e).2 = h.setStatus e (match (h.isAvailable now e).1 with
      | .ok true =>
        if (h.status e).state = .removed then { h.status e with state := .suspected, removedAt := none }
        else h.status e
      | _ => h.status e) := by
  by_cases hs : (h.status e).state = .removed
  · rw [isAvailable_of_removed hs, if_pos hs]
    rcases h.resting now (h.status e) with f | (_ | _) <;> rfl
  · rw [isAvailable_of_not_removed hs, if_neg hs]

/-- Both have the same limits. -/
structure SameLimits (h h' : Health) : Prop where
  failureThreshold : h'.failureThreshold = h.failureThreshold
  resurrectTimeout : h'.resurrectTimeout = h.resurrectTimeout

namespace SameLimits

variable {h h' h'' : Health}

theorem refl (h : Health) : SameLimits h h := ⟨rfl, rfl⟩

theorem symm (hl : SameLimits h h') : SameLimits h' h := ⟨hl.failureThreshold.symm, hl.resurrectTimeout.symm⟩

theorem trans (hl : SameLimits h h') (hl' : SameLimits h' h'') : SameLimits h h'' :=
  ⟨hl'.failureThreshold.trans hl.failureThreshold, hl'.resurrectTimeout.trans hl.resurrectTimeout⟩

theorem tellsTimeout (hl : SameLimits h h') : h'.tellsTimeout = h.tellsTimeout := by
  unfold Health.tellsTimeout
  rw [hl.resurrectTimeout]

theorem resting (hl : SameLimits h h') (now : Quantity) (s : Status) : h'.resting now s = h.resting now s := by
  unfold Health.resting
  rw [hl.resurrectTimeout]

end SameLimits

theorem setStatus_sameLimits (h : Health) (e : String) (s : Status) : SameLimits h (h.setStatus e s) := ⟨rfl, rfl⟩

theorem isAvailable_sameLimits (h : Health) (now : Quantity) (e : String) :
    SameLimits h (h.isAvailable now e).2 := by
  rw [isAvailable_snd]
  exact h.setStatus_sameLimits e _

/-- What asking about one node keeps, looking for a node keeps. -/
theorem firstAvailable_keeps {R : Health → Health → Prop} {now : Quantity} (hrefl : ∀ h, R h h)
    (htrans : ∀ {h₁ h₂ h₃}, R h₁ h₂ → R h₂ h₃ → R h₁ h₃) (hstep : ∀ (h : Health) e, R h (h.isAvailable now e).2)
    (h : Health) (es : List String) : R h (h.firstAvailable now es).2 := by
  induction es generalizing h with
  | nil => exact hrefl h
  | cons e es ih =>
    have hfirst := hstep h e
    unfold firstAvailable
    split <;> rename_i h' heq <;> rw [heq] at hfirst
    · exact hfirst
    · exact hfirst
    · exact htrans hfirst (ih h')

theorem firstAvailable_sameLimits (h : Health) (now : Quantity) (es : List String) :
    SameLimits h (h.firstAvailable now es).2 :=
  firstAvailable_keeps (R := SameLimits) .refl SameLimits.trans
    (fun h e => h.isAvailable_sameLimits now e) h es

/-- The status of a node after one more failure that nothing goes wrong with. -/
def counted (threshold now : Quantity) (s : Status) : Status :=
  if threshold.le (.int (s.consecutiveFailures + 1 : Nat)) then
    { s with consecutiveFailures := s.consecutiveFailures + 1, state := .removed, removedAt := some now }
  else { s with consecutiveFailures := s.consecutiveFailures + 1, state := .suspected }

theorem markFailure_told {h : Health} {threshold : Quantity} (ht : h.failureThreshold = some threshold)
    (htold : h.tellsTimeout = true) (now : Quantity) (e : String) :
    h.markFailure now e = (.ok (), h.setStatus e (counted threshold now (h.status e))) := by
  unfold Health.markFailure counted
  simp only [ht, htold, Bool.not_true, Bool.and_false, Bool.false_eq_true, if_false]
  split_ifs with hle hcount <;> simp_all

/-- Where it cannot be told for how long a node is removed, it is not, and the failure that should have removed it ends in an
error. -/
theorem markFailure_untold {h : Health} {threshold : Quantity} (ht : h.failureThreshold = some threshold)
    (huntold : h.tellsTimeout = false) {e : String} (hs : (h.status e).state ≠ .removed) (now : Quantity) :
    h.markFailure now e =
      if threshold.le (.int ((h.status e).consecutiveFailures + 1 : Nat)) then
        (.error (.misuse .overlongNumber),
          h.setStatus e { h.status e with consecutiveFailures := (h.status e).consecutiveFailures + 1 })
      else
        (.ok (), h.setStatus e
          { h.status e with consecutiveFailures := (h.status e).consecutiveFailures + 1, state := .suspected }) := by
  unfold Health.markFailure
  simp only [ht, huntold, hs, ne_eq, not_false_eq_true, decide_true, Bool.not_false, Bool.and_self, if_true]
  cases threshold.le (.int ((h.status e).consecutiveFailures + 1 : Nat)) <;> rfl

/-- A failure that is marked, for good or in vain, leaves the limits alone and dates no removal otherwise than now. -/
theorem markFailure_snd (h : Health) (now : Quantity) (e : String) : ∃ s : Status,
    (h.markFailure now e).2 = h.setStatus e s ∧ (s.removedAt = (h.status e).removedAt ∨ s.removedAt = some now) := by
  unfold Health.markFailure
  dsimp only
  split
  · exact ⟨_, rfl, .inl rfl⟩
  · split_ifs
    · exact ⟨_, rfl, .inl rfl⟩
    · exact ⟨_, rfl, .inl rfl⟩
    · exact ⟨_, rfl, .inr rfl⟩

theorem markFailure_sameLimits (h : Health) (now : Quantity) (e : String) : SameLimits h (h.markFailure now e).2 := by
  obtain ⟨s, hs, -⟩ := h.markFailure_snd now e
  rw [hs]
  exact h.setStatus_sameLimits e s

theorem markFailure_error {h : Health} {now : Quantity} {e : String} {f : Failure}
    (hf : (h.markFailure now e).1 = .error f) : ∃ m, f = .misuse m := by
  unfold Health.markFailure at hf
  dsimp only at hf
  split at hf
  · cases hf
    exact ⟨_, rfl⟩
  · split_ifs at hf
    cases hf
    exact ⟨_, rfl⟩

theorem Sound.markFailure {h : Health} (hs : h.Sound) (t : Float) (e : String) :
    (h.markFailure (.float t) e).2.Sound := by
  obtain ⟨s, hmark, hdate⟩ := h.markFailure_snd (.float t) e
  rw [hmark]
  refine hs.setStatus e fun q hq => ?_
  rcases hdate with hsame | hnow
  · exact hs.dated e q (hsame ▸ hq)
  · obtain rfl := Option.some.inj (hnow.symm.trans hq)
    exact ⟨t, rfl⟩

/-- With a threshold that is a number and a time that can be told, every failure can be marked. -/
theorem Sound.markFailure_ok {h : Health} (hs : h.Sound) (htold : h.tellsTimeout = true) (now : Quantity) (e : String) :
    (h.markFailure now e).1 = .ok () := by
  obtain ⟨threshold, ht⟩ := hs.failureThreshold
  rw [markFailure_told ht htold]

end Health

end Node

end DocumentStore
