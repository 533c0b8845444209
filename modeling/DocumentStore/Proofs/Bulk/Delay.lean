import DocumentStore.Proofs.Bulk.Course
import DocumentStore.Proofs.Bulk.Reporting
import DocumentStore.Proofs.Quantity.Rounding

/-! How long the pauses between the submissions of a batch are, by the policy, and what becomes of the batch at each. A
policy is accepted with a factor of any sign, so that every other of its delays may be negative; then no batch gets past
its second pause. -/

namespace DocumentStore

open Decimal.Binary (beyond)

/-- What keeps a pause of so many seconds from being made, on a system that waits for so long and with a clock that runs in
binary64: it cannot be announced, or the system refuses it, or it is negative, or the clock cannot count it. -/
def obstacle? (longest : Option Quantity) (seconds : Int) : Option Misuse :=
  if (Quantity.int seconds).isSpellable then
    match World.refusal? longest (.int seconds) with
    | some m => some m
    | none =>
      if seconds < 0 then some .negativePause
      else if beyond ≤ seconds.natAbs then some .outOfRange
      else none
  else some .overlongNumber

/-- What the clock can count can be announced. -/
theorem spellable_of_lt_beyond {seconds : Int} (h : seconds.natAbs < beyond) :
    (Quantity.int seconds).isSpellable = true := by
  have hpow {k l : Nat} (h : k ≤ l) : 2 ^ k ≤ 10 ^ l :=
    (Nat.pow_le_pow_left (by decide) k).trans (Nat.pow_le_pow_right (by decide) h)
  have hlarge : beyond ≤ 10 ^ Text.longestNumeral := by
    unfold beyond
    exact (Nat.sub_le _ _).trans (hpow (by decide))
  exact (Quantity.isSpellable_int seconds).2 (h.trans_le hlarge)

variable {longest : Option Quantity} {seconds : Int}

theorem obstacle?_eq_none_iff : obstacle? longest seconds = none ↔
    World.refusal? longest (.int seconds) = none ∧ 0 ≤ seconds ∧ seconds < beyond := by
  unfold obstacle?
  cases htold : (Quantity.int seconds).isSpellable with
  | false =>
    refine iff_of_false (by simp) fun ⟨_, hnonneg, hlt⟩ => ?_
    rw [spellable_of_lt_beyond (by omega)] at htold
    cases htold
  | true =>
    rw [if_pos rfl]
    cases World.refusal? longest (.int seconds) with
    | some m => exact iff_of_false nofun fun h => nomatch h.1
    | none =>
      dsimp only
      split_ifs with hnegative hbeyond
      · exact iff_of_false nofun (by omega)
      · exact iff_of_false nofun (by omega)
      · exact iff_of_true rfl ⟨rfl, by omega⟩

/-- A usual system makes pauses of up to three centuries. -/
theorem obstacle?_usual : obstacle? (some World.usualLongestWait) seconds = none ↔ 0 ≤ seconds ∧ seconds ≤ 9223372036 := by
  have hlarge : 10 ^ 10 < beyond := by decide +kernel
  rw [obstacle?_eq_none_iff, World.refusal?_usual_int, abs_le]
  omega

/-- What comes of a pause of so many seconds. -/
def pauseOutcome (longest : Option Quantity) (seconds : Int) : Except Failure Unit :=
  match obstacle? longest seconds with
  | none => .ok ()
  | some m => .error (.misuse m)

theorem pauseOutcome_of_obstacle {m : Misuse} (h : obstacle? longest seconds = some m) :
    pauseOutcome longest seconds = .error (.misuse m) := by
  unfold pauseOutcome
  rw [h]

theorem pauseOutcome_ok_iff : pauseOutcome longest seconds = .ok () ↔ obstacle? longest seconds = none := by
  unfold pauseOutcome
  cases obstacle? longest seconds with
  | none => exact iff_of_true rfl rfl
  | some m => exact iff_of_false nofun nofun

namespace Bulk

variable {policy : RetryPolicy} {delay growth : Int}

theorem delay_neg_iff (h : 0 ≤ delay) (k : Nat) : delay * growth ^ k < 0 ↔ 0 < delay ∧ growth < 0 ∧ Odd k := by
  constructor
  · intro hneg
    have hpos : 0 < delay := by
      rcases h.lt_or_eq with hpos | rfl
      · exact hpos
      · simp at hneg
    have hpow : growth ^ k < 0 := by nlinarith
    have hodd : Odd k := by
      by_contra heven
      exact absurd (Nat.not_odd_iff_even.1 heven |>.pow_nonneg growth) (not_le.2 hpow)
    exact ⟨hpos, hodd.pow_neg_iff.1 hpow, hodd⟩
  · rintro ⟨hpos, hgrowth, hodd⟩
    exact mul_neg_of_pos_of_neg hpos (hodd.pow_neg hgrowth)

theorem delays_nonneg_iff (h : 0 ≤ delay) : (∀ k : Nat, 0 ≤ delay * growth ^ k) ↔ delay = 0 ∨ 0 ≤ growth := by
  constructor
  · intro hall
    have hsecond := hall 1
    rw [← not_lt, delay_neg_iff h] at hsecond
    by_contra hneither
    rw [not_or, not_le] at hneither
    exact hsecond ⟨lt_of_le_of_ne h (Ne.symm hneither.1), hneither.2, odd_one⟩
  · intro hsign k
    rw [← not_lt, delay_neg_iff h]
    rintro ⟨hpos, hnegative, -⟩
    omega

/-- The delay of a policy that is accepted is not below zero; nothing is asked of its factor. -/
theorem build_accepts {maxRetries retryDelay backoffFactor retryableErrors : Json}
    (h : RetryPolicy.build maxRetries retryDelay backoffFactor retryableErrors = .ok policy) :
    Quantity.ofJson? retryDelay = some policy.retryDelay ∧ policy.retryDelay.lt (.int 0) = false ∧
      policy.backoffFactor = backoffFactor := by
  unfold RetryPolicy.build at h
  obtain ⟨retries, -, h⟩ := except_bind_eq_ok h
  split_ifs at h
  · cases h
  obtain ⟨first, hfirst, h⟩ := except_bind_eq_ok h
  split_ifs at h with hnegative
  · cases h
  have hgiven : Quantity.ofJson? retryDelay = some first := by
    unfold Quantity.require at hfirst
    split at hfirst
    · rename_i q hq
      rw [hq, Except.ok.inj hfirst]
    · cases hfirst
  dsimp only at h
  split at h
  · cases h
  split_ifs at h
  cases h
  exact ⟨hgiven, by simpa using hnegative, rfl⟩

theorem build_counts {maxRetries retryDelay backoffFactor retryableErrors : Json}
    (h : RetryPolicy.build maxRetries retryDelay backoffFactor retryableErrors = .ok policy)
    (hdelay : (Quantity.ofJson? retryDelay).bind Quantity.toInt? = some delay)
    (hgrowth : (Quantity.ofJson? backoffFactor).bind Quantity.toInt? = some growth) :
    0 ≤ delay ∧ policy.Counts delay growth := by
  obtain ⟨hgiven, hnonneg, hfactor⟩ := build_accepts h
  rw [hgiven] at hdelay
  have hint : policy.retryDelay.toInt? = some delay := hdelay
  rw [Quantity.lt_whole hint rfl, decide_eq_false_iff_not, not_lt] at hnonneg
  exact ⟨hnonneg, hint, hfactor ▸ hgrowth⟩

/-- A pause that is announced is made unless something is in the way of it. -/
theorem pause_outcome {w : World} (hclock : w.clock.Binary) (htold : (Quantity.int seconds).isSpellable = true) :
    (w.pause (.int seconds)).1 = pauseOutcome w.longestWait seconds := by
  obtain ⟨t, ht⟩ := hclock
  unfold pauseOutcome obstacle?
  rw [if_pos htold]
  cases hwaits : World.refusal? w.longestWait (.int seconds) with
  | some m =>
    unfold World.pause
    rw [hwaits]
  | none =>
    dsimp only
    split_ifs with hnegative hbeyond
    · unfold World.pause
      rw [hwaits]
      dsimp only
      rw [Quantity.lt_int, if_pos (by simpa using hnegative)]
    all_goals
      rw [pause_int ht (not_lt.1 hnegative) hwaits]
      rcases Quantity.finiteFloat?_cases seconds with ⟨hrange, x, hx, -⟩ | ⟨hrange, hx⟩
    · exact absurd hbeyond (not_le.2 hrange)
    · rw [hx]
    · rw [hx]
    · exact absurd hrange hbeyond

namespace Writer

open Effect

/-- A pause before a retry is made unless something is in the way of it. -/
theorem awaitRetry_outcome {w : Writer} (hpolicy : w.processor.policy.Counts delay growth)
    (hclock : w.cluster.world.clock.Binary) (k : Nat) :
    ((awaitRetry (k + 1)).runOn w).1 = pauseOutcome w.cluster.world.longestWait (delay * growth ^ k) := by
  unfold awaitRetry
  rw [runOn_bind_ok (runOn_get w), runOn_bind, runOn_ofExcept, delay_counts hpolicy k]
  dsimp only
  rw [runOn_bind, runOn_ofExcept]
  cases htold : (Quantity.int (delay * growth ^ k)).isSpellable with
  | true =>
    rw [Quantity.writable_of_spellable htold, ← pause_outcome hclock htold]
    rfl
  | false =>
    have hlong : obstacle? w.cluster.world.longestWait (delay * growth ^ k) = some .overlongNumber := by
      unfold obstacle?
      rw [htold]
      rfl
    rw [Quantity.writable_of_not_spellable htold, pauseOutcome_of_obstacle hlong]

/-- On the way through the submissions of a batch, of which `left` are left after the next one, it comes to the pause
before retry number `k`, and the processor is like this by then. -/
inductive Awaits (number : Nat) : (left attempt : Nat) → List Operation → Writer → (k : Nat) → Writer → Prop
  | next {left attempt : Nat} {ops again : List Operation} {w v : Writer} (h : Leads number attempt ops w again v)
    (hne : again ≠ []) : Awaits number (left + 1) attempt ops w (attempt + 1) v
  | later {left attempt k : Nat} {ops again : List Operation} {w v u x : Writer}
    (h : Leads number attempt ops w again v) (hne : again ≠ []) (hrest : Rests (attempt + 1) v u)
    (hlater : Awaits number left (attempt + 1) again u k x) : Awaits number (left + 1) attempt ops w k x

section awaits

variable {number left attempt j k : Nat} {ops again : List Operation} {w v u x : Writer}

theorem Leads.processor (h : Leads number attempt ops w again v) : v.processor = w.processor := by
  obtain ⟨body, answer, items, -, -, -, -, -, rfl⟩ := h
  rfl

theorem Leads.ready (h : Leads number attempt ops w again v) (hw : w.cluster.Ready) : v.cluster.Ready := by
  obtain ⟨body, answer, items, -, -, -, -, -, rfl⟩ := h
  have hlogged : (w.logged (.batchSubmitted number attempt ops)).cluster.Ready := ⟨hw.clock, hw.health⟩
  exact hlogged.call ..

theorem Rests.processor (h : Rests attempt w v) : v.processor = w.processor := by
  obtain ⟨delay, world, -, -, -, rfl⟩ := h
  rfl

theorem Leads.longestWait (h : Leads number attempt ops w again v) :
    v.cluster.world.longestWait = w.cluster.world.longestWait := by
  obtain ⟨body, answer, items, -, -, -, -, -, rfl⟩ := h
  exact (Cluster.call_advances (w.logged (.batchSubmitted number attempt ops)).cluster ..).longestWait

theorem Rests.longestWait (h : Rests attempt w v) : v.cluster.world.longestWait = w.cluster.world.longestWait := by
  obtain ⟨delay, world, -, -, hpause, rfl⟩ := h
  obtain ⟨m, hrefused⟩ | ⟨m, hrefused⟩ | ⟨clock, -, hmade⟩ := w.cluster.world.pause_cases delay
  · cases hrefused.symm.trans hpause
  · cases hrefused.symm.trans hpause
  · cases hmade.symm.trans hpause
    rfl

theorem Rests.ready (h : Rests attempt w v) (hw : w.cluster.Ready) : v.cluster.Ready := by
  obtain ⟨delay, world, -, -, hpause, rfl⟩ := h
  have hclock := pause_binary hw.clock delay
  rw [hpause] at hclock
  exact ⟨hclock, hw.health⟩

/-- The policy is the same at every pause. -/
theorem Awaits.processor (h : Awaits number left attempt ops w k v) : v.processor = w.processor := by
  induction h with
  | next h => exact h.processor
  | later h _ hrest _ ih => exact ih.trans (hrest.processor.trans h.processor)

theorem Awaits.ready (h : Awaits number left attempt ops w k v) (hw : w.cluster.Ready) : v.cluster.Ready := by
  induction h with
  | next h => exact h.ready hw
  | later h _ hrest _ ih => exact ih (hrest.ready (h.ready hw))

/-- The system waits for as long at every pause. -/
theorem Awaits.longestWait (h : Awaits number left attempt ops w k v) :
    v.cluster.world.longestWait = w.cluster.world.longestWait := by
  induction h with
  | next h => exact h.longestWait
  | later h _ hrest _ ih => exact ih.trans (hrest.longestWait.trans h.longestWait)

/-- Every pause before the one that a batch has come to has been made. -/
theorem Awaits.earlier (h : Awaits number left attempt ops w k x) (hj : attempt < j) (hk : j < k) :
    ∃ v u, Awaits number left attempt ops w j v ∧ Rests j v u := by
  induction h with
  | next => omega
  | @later left attempt k ops again w v u x h hne hrest hlater ih =>
    by_cases hfirst : j = attempt + 1
    · subst hfirst
      exact ⟨v, u, .next h hne, hrest⟩
    · obtain ⟨v', u', hawaits, hrest'⟩ := ih (by omega) hk
      exact ⟨v', u', .later h hne hrest hawaits, hrest'⟩

/-- A batch ends at a pause that fails, and in the way that the pause does. -/
theorem Awaits.submit_error (h : Awaits number left attempt ops w k v) {f : Failure}
    (hfails : (awaitRetry k).runOn v = (.error f, x)) (result : Result) :
    (submit number left attempt ops result).runOn w = (.error f, x) := by
  induction h generalizing result with
  | next h hne =>
    obtain ⟨result', -, hrun⟩ := h.runOn result
    exact submit_of_restless hrun hne hfails
  | later h hne hrest _ ih =>
    obtain ⟨result', -, hrun⟩ := h.runOn result
    rw [submit_of_rested hrun hne (awaitRetry_of_rests hrest)]
    exact ih hfails _

end awaits

/-- The batch comes to the pause before retry number `k`, and the processor is like this by then. -/
def ComesToPause (number : Nat) (ops : List Operation) (w : Writer) (k : Nat) (v : Writer) : Prop :=
  Awaits number w.processor.policy.maxRetries.ceil 0 ops (told (.batchStarts number ops) w) k v

section batch

variable {number k : Nat} {ops : List Operation} {w v : Writer}

theorem ComesToPause.processor (h : ComesToPause number ops w k v) : v.processor = w.processor := by
  rw [Awaits.processor h, told_processor]

theorem ComesToPause.ready (h : ComesToPause number ops w k v) (hw : w.cluster.Ready) : v.cluster.Ready :=
  Awaits.ready h (ready_told hw _)

theorem ComesToPause.longestWait (h : ComesToPause number ops w k v) :
    v.cluster.world.longestWait = w.cluster.world.longestWait := by
  rw [Awaits.longestWait h]
  unfold told
  split_ifs <;> rfl

theorem ComesToPause.execute_error (h : ComesToPause number ops w k v) {m : Misuse}
    (hfails : ((awaitRetry k).runOn v).1 = .error (.misuse m)) :
    ((execute number ops).runOn w).1 = .error (.misuse m) := by
  rcases hrun : (awaitRetry k).runOn v with ⟨r, x⟩
  rw [hrun] at hfails
  obtain rfl : r = .error (.misuse m) := hfails
  have hsubmissions : submissions number ops w = (.error (.misuse m), x) := Awaits.submit_error h hrun _
  rw [execute_runOn]
  unfold ending
  rw [hsubmissions]
  rfl

variable (hpolicy : w.processor.policy.Counts delay growth) (hw : w.cluster.Ready)

include hpolicy hw

theorem ComesToPause.outcome (h : ComesToPause number ops w (k + 1) v) :
    ((awaitRetry (k + 1)).runOn v).1 = pauseOutcome w.cluster.world.longestWait (delay * growth ^ k) := by
  rw [← h.processor] at hpolicy
  rw [← h.longestWait]
  exact awaitRetry_outcome hpolicy (h.ready hw).clock k

theorem ComesToPause.rests_iff (h : ComesToPause number ops w (k + 1) v) :
    (∃ u, Rests (k + 1) v u) ↔ obstacle? w.cluster.world.longestWait (delay * growth ^ k) = none := by
  rw [← pauseOutcome_ok_iff, ← h.outcome hpolicy hw]
  constructor
  · rintro ⟨u, hrest⟩
    rw [awaitRetry_of_rests hrest]
  · intro hok
    rcases awaitRetry_cases (k + 1) v with ⟨u, hrest, -⟩ | ⟨-, f, u, -, hrun⟩
    · exact ⟨u, hrest⟩
    · rw [hrun] at hok
      cases hok

/-- A batch whose second pause would be negative does not get past it. -/
theorem ComesToPause.at_most_second (h : ComesToPause number ops w (k + 1) v) (hdelay : 0 < delay)
    (hgrowth : growth < 0) : k ≤ 1 := by
  by_contra hk
  obtain ⟨v', u, hawaits, hrest⟩ := Awaits.earlier (j := 2) h (by decide) (by omega)
  have hcomes : ComesToPause number ops w (1 + 1) v' := hawaits
  have hnonneg := (obstacle?_eq_none_iff.1 ((hcomes.rests_iff hpolicy hw).1 ⟨u, hrest⟩)).2.1
  rw [pow_one] at hnonneg
  exact absurd (mul_neg_of_pos_of_neg hdelay hgrowth) (not_lt.2 hnonneg)

end batch

/-- The delays of a policy that is accepted with whole numbers are powers of its factor times the first one, and none of
them is negative just if the factor is not, or there is no delay at all. A batch makes a pause that it comes to just if
this is not negative, the system does not refuse it and the clock can count it, and ends there otherwise; a usual system
makes pauses of up to three centuries. -/
theorem pauses_of_accepted {maxRetries retryDelay backoffFactor retryableErrors : Json}
    (haccepted : RetryPolicy.build maxRetries retryDelay backoffFactor retryableErrors = .ok policy)
    (hdelay : (Quantity.ofJson? retryDelay).bind Quantity.toInt? = some delay)
    (hgrowth : (Quantity.ofJson? backoffFactor).bind Quantity.toInt? = some growth) :
    (∀ k : Nat, policy.delay (.int ((k + 1 : Nat) : Int)) = .ok (.int (delay * growth ^ k)) ∧
      (delay * growth ^ k < 0 ↔ 0 < delay ∧ growth < 0 ∧ Odd k)) ∧
    ((∀ k : Nat, 0 ≤ delay * growth ^ k) ↔ delay = 0 ∨ 0 ≤ growth) ∧
    ∀ (number : Nat) (ops : List Operation) (w : Writer), w.processor.policy = policy → w.cluster.Ready →
      ∀ (k : Nat) (v : Writer), ComesToPause number ops w (k + 1) v →
        ((∃ u, Rests (k + 1) v u) ↔ World.refusal? w.cluster.world.longestWait (.int (delay * growth ^ k)) = none ∧
          0 ≤ delay * growth ^ k ∧ delay * growth ^ k < beyond) ∧
        (w.cluster.world.longestWait = some World.usualLongestWait →
          ((∃ u, Rests (k + 1) v u) ↔ 0 ≤ delay * growth ^ k ∧ delay * growth ^ k ≤ 9223372036)) ∧
        (∀ m, obstacle? w.cluster.world.longestWait (delay * growth ^ k) = some m →
          ((execute number ops).runOn w).1 = .error (.misuse m)) ∧
        (0 < delay → growth < 0 → k ≤ 1) := by
  obtain ⟨hnonneg, hcounts⟩ := build_counts haccepted hdelay hgrowth
  refine ⟨fun k => ⟨delay_counts hcounts k, delay_neg_iff hnonneg k⟩, delays_nonneg_iff hnonneg, ?_⟩
  intro number ops w hpolicy hw k v h
  rw [← hpolicy] at hcounts
  refine ⟨(h.rests_iff hcounts hw).trans obstacle?_eq_none_iff, fun husual => ?_, fun m hm => ?_,
    h.at_most_second hcounts hw⟩
  · rw [h.rests_iff hcounts hw, husual, obstacle?_usual]
  · exact h.execute_error ((h.outcome hcounts hw).trans (pauseOutcome_of_obstacle hm))

/-- A batch that is rejected comes to the pause that is to be a second long, and makes it. -/
theorem pauses_of_accepted_steady :
    RetryPolicy.build (.int 1) (.int 1) (.int 1) (.arr [.str rejectedExecution]) = .ok patient.processor.policy ∧
      (∀ k : Nat, patient.processor.policy.delay (.int ((k + 1 : Nat) : Int)) = .ok (.int 1)) ∧
      ∃ v u, ComesToPause 1 [deletion "1"] patient 1 v ∧ Rests 1 v u := by
  have hbuild : RetryPolicy.build (.int 1) (.int 1) (.int 1) (.arr [.str rejectedExecution]) =
      .ok patient.processor.policy := rfl
  obtain ⟨hdelays, -, hbatch⟩ := pauses_of_accepted hbuild rfl rfl
  have hserves : Serves patient.cluster.world.longestWait (fun _ => rejection) 0 0 patient.cluster :=
    serves_of_reachable (b := 1) patient_reachable (by decide) rfl fun _ _ =>
      ⟨200, .text rejection, rfl, by decide, by decide, rfl⟩
  have hwritable : ∀ op ∈ [deletion "1"], op.Writable := by
    intro op hop
    obtain rfl : op = deletion "1" := by simpa using hop
    trivial
  have hsorted : Classifiable 1 rejection := by decide +kernel
  have htold := hserves.told (e := .batchStarts 1 [deletion "1"]) (by simp)
  obtain ⟨v, r, hleads, -⟩ := leads_of_serves htold hwritable hsorted 1
  have hcomes : ComesToPause 1 [deletion "1"] patient 1 v := by
    change Awaits 1 (0 + 1) 0 _ _ (0 + 1) v
    apply Awaits.next hleads
    rw [told_processor]
    exact rejectedBy_rejection
  obtain ⟨u, hrest⟩ := (hbatch 1 [deletion "1"] patient rfl hserves.ready 0 v hcomes).2.1 rfl |>.2 (by decide)
  refine ⟨hbuild, fun k => ?_, v, u, hcomes, hrest⟩
  rw [(hdelays k).1, one_pow]
  rfl

/-- A processor for the same store whose policy has a negative factor. -/
def alternating : Writer :=
  ⟨{ threshold := .int 10, flushInterval := none, listening := true, lastFlush := .int 0,
     policy := { maxRetries := .int 3, retryDelay := .int 1, backoffFactor := .int (-2) } },
    { Cluster.twins crowded with world := { clock := .int 0, network := crowded } }⟩

def refusesNegative : Except Failure Result → Bool
  | .error (.misuse .negativePause) => true
  | _ => false

theorem negativePause_of_refuses {r : Except Failure Result} (h : refusesNegative r = true) :
    r = .error (.misuse .negativePause) := by
  unfold refusesNegative at h
  split at h
  · rfl
  · cases h

/-- A policy with a negative factor is accepted; its second delay is negative, and breaks a batch off after two of the
four submissions that it may have. -/
theorem alternating_policy_breaks_batch_off :
    RetryPolicy.build (.int 3) (.int 1) (.int (-2)) (.arr [.str rejectedExecution]) = .ok alternating.processor.policy ∧
      alternating.processor.policy.delay (.int 2) = .ok (.int (-2)) ∧
      ((execute 1 [deletion "1"]).runOn alternating).1 = .error (.misuse .negativePause) ∧
      ((execute 1 [deletion "1"]).runOn alternating).2.cluster.world.requests.length = 2 := by
  have hrefuses : refusesNegative ((execute 1 [deletion "1"]).runOn alternating).1 = true := by decide +kernel
  exact ⟨rfl, rfl, negativePause_of_refuses hrefuses, by decide +kernel⟩

end Writer

end Bulk

end DocumentStore
