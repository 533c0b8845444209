import DocumentStore.Proofs.Bulk.Ending
import DocumentStore.Proofs.Bulk.Serving
import DocumentStore.Proofs.Bulk.Step
import DocumentStore.Proofs.Quantity.Rounding

/-! The course of a batch whose submissions are all answered with success. The rejected operations are submitted again,
by themselves, until none is rejected or no retry is left. Only a pause that is too long for the system or its clock, or
too long to be announced, breaks the course off. -/

namespace DocumentStore.Bulk.Writer

open Effect

variable {policy : RetryPolicy} {retries delay growth : Int} {longestWait : Option Quantity} {answers : Nat → String}
  {base k n number : Nat} {ops : List Operation} {v w : Writer}

/-- The events of the submissions of a batch from number `k` on, and of the pauses between them. -/
def turns (number : Nat) (submitted : Nat → List Operation) (pause : Nat → Int) :
    Nat → List Cluster.Request → List Event
  | _, [] => []
  | k, [r] => [.batchSubmitted number k (submitted k), .request r]
  | k, r :: rs => .batchSubmitted number k (submitted k) :: .request r :: .sleep (.int (pause k)) ::
      turns number submitted pause (k + 1) rs

/-- The requests of the submissions of a batch from number `k` on, on a system that waits for so long: they go on as long as
there is something to submit and the pauses can be borne, and each carries what is submitted in its turn. -/
structure Course (longestWait : Option Quantity) (submitted : Nat → List Operation) (pause : Nat → Int) (k : Nat)
    (sent : List Cluster.Request) : Prop where
  goes_on : ∀ j, j < sent.length ↔ submitted (k + j) ≠ [] ∧ ∀ i < j, Bearable longestWait (pause (k + i))
  carries : ∀ j (hj : j < sent.length), Carries (submitted (k + j)) sent[j]

section Course

variable {submitted : Nat → List Operation} {pause : Nat → Int} {r : Cluster.Request}
  {sent : List Cluster.Request}

/-- A course is over with a submission if nothing is left to submit, or if the pause after it is too long. -/
theorem course_last (hempty : ∀ j, submitted (k + 1) = [] → submitted (k + 1 + j) = [])
    (hne : submitted k ≠ []) (hr : Carries (submitted k) r)
    (hlast : submitted (k + 1) = [] ∨ ¬Bearable longestWait (pause k)) : Course longestWait submitted pause k [r] := by
  constructor
  · intro j
    cases j with
    | zero => simpa using hne
    | succ j =>
      refine iff_of_false (by simp) ?_
      rintro ⟨hrest, hall⟩
      rcases hlast with hnil | hlong
      · apply hrest
        rw [← hempty j hnil]
        congr 1
        omega
      · exact hlong (hall 0 (Nat.succ_pos j))
  · intro j hj
    obtain rfl : j = 0 := by simpa using hj
    exact hr

theorem Course.cons (h : Course longestWait submitted pause (k + 1) sent) (hne : submitted k ≠ [])
    (hr : Carries (submitted k) r) (hb : Bearable longestWait (pause k)) :
    Course longestWait submitted pause k (r :: sent) := by
  have hshift (j : Nat) : k + 1 + j = k + (j + 1) := by omega
  constructor
  · intro j
    cases j with
    | zero => simpa using hne
    | succ j =>
      rw [List.length_cons, Nat.add_lt_add_iff_right, h.goes_on, hshift]
      refine and_congr_right fun _ => ⟨fun hall i hi => ?_, fun hall i hi => ?_⟩
      · cases i with
        | zero => exact hb
        | succ i =>
          rw [← hshift]
          exact hall i (by omega)
      · rw [hshift]
        exact hall (i + 1) (by omega)
  · intro j hj
    cases j with
    | zero => exact hr
    | succ j =>
      rw [List.getElem_cons_succ, ← hshift]
      exact h.carries j (by simpa using hj)

theorem Course.ne_nil (h : Course longestWait submitted pause k sent) (hne : submitted k ≠ []) : sent ≠ [] := by
  have : 0 < sent.length := (h.goes_on 0).2 ⟨hne, by simp⟩
  exact List.ne_nil_of_length_pos this

theorem turns_cons (number : Nat) (hne : sent ≠ []) :
    turns number submitted pause k (r :: sent) = [.batchSubmitted number k (submitted k), .request r] ++
      [.sleep (.int (pause k))] ++ turns number submitted pause (k + 1) sent := by
  cases sent with
  | nil => exact absurd rfl hne
  | cons r' sent => rfl

end Course

/-- What comes of a batch after as many submissions, and the events after the last of them: a result if nothing is left
to submit, else a failure at the pause, announced or not. -/
inductive Concludes (submitted : Nat → List Operation) (pause : Nat → Int) (n : Nat) :
    List Event → Except Failure Result → Prop
  | settled {r : Result} (h : submitted n = []) : Concludes submitted pause n [] (.ok r)
  | broken {tail : List Event} {m : Misuse} (h : submitted n ≠ [])
    (htail : tail = [] ∨ tail = [.sleep (.int (pause (n - 1)))]) :
    Concludes submitted pause n tail (.error (.misuse m))

/-- A run of the submissions of a batch from number `k` on, after some events, takes its course and comes to its end. -/
def Completes (longestWait : Option Quantity) (number : Nat) (submitted : Nat → List Operation) (pause : Nat → Int)
    (k : Nat) (log : List Event) (run : Except Failure Result × Writer) : Prop :=
  ∃ sent tail, run.2.cluster.world.log = log ++ turns number submitted pause k sent ++ tail ∧
    Course longestWait submitted pause k sent ∧ Concludes submitted pause (k + sent.length) tail run.1 ∧
    run.2.cluster.world.clock.Binary

section submit

variable (hpolicy : v.processor.policy = policy) (hops : ∀ op ∈ ops, op.Writable)

include hpolicy hops

theorem submitOnce_pending (h : Serves longestWait answers base k v.cluster)
    (hclass : Classifiable (pending policy answers ops k).length (answers k)) (number : Nat) (result : Result) :
    ∃ u r result', (submitOnce number k (pending policy answers ops k) result).runOn v =
        (.ok (pending policy answers ops (k + 1), result'), u) ∧
      u.processor = v.processor ∧ Serves longestWait answers base (k + 1) u.cluster ∧
      u.cluster.world.log =
        v.cluster.world.log ++ [.batchSubmitted number k (pending policy answers ops k), .request r] ∧
      Carries (pending policy answers ops k) r := by
  have hwritable : ∀ op ∈ pending policy answers ops k, op.Writable := fun op hop =>
    hops op ((pending_sublist policy answers ops (Nat.zero_le k)).subset hop)
  obtain ⟨u, r, hlead, hprocessor, hserves, hlog, hr⟩ := leads_of_serves h hwritable hclass number
  obtain ⟨result', -, hrun⟩ := hlead.runOn result
  rw [hpolicy] at hrun
  exact ⟨u, r, result', hrun, hprocessor, hserves, hlog, hr⟩

theorem submit_completes_last (left : Nat) (h : Serves longestWait answers base k v.cluster)
    (hne : pending policy answers ops k ≠ [])
    (hclass : Classifiable (pending policy answers ops k).length (answers k))
    (hnext : pending policy answers ops (k + 1) = []) (number : Nat) (pause : Nat → Int) (result : Result) :
    Completes longestWait number (pending policy answers ops) pause k v.cluster.world.log
      ((submit number left k (pending policy answers ops k) result).runOn v) := by
  obtain ⟨u, r, result', hrun, -, hserves, hlog, hr⟩ := submitOnce_pending hpolicy hops h hclass number result
  have hempty (j : Nat) (hnil : pending policy answers ops (k + 1) = []) :
      pending policy answers ops (k + 1 + j) = [] := pending_eq_nil (Nat.le_add_right ..) hnil
  rw [submit_of_settled hrun (.inr hnext)]
  refine ⟨[r], [], ?_, course_last hempty hne hr (.inl hnext), .settled hnext, hserves.ready.clock⟩
  rw [hlog, List.append_nil]
  rfl

/-- With as many submissions left as the policy has, they take their course. -/
theorem submit_completes (hwhole : policy.Whole retries delay growth) (left : Nat) (hleft : left + k = retries.toNat)
    (h : Serves longestWait answers base k v.cluster) (hne : pending policy answers ops k ≠ [])
    (hclass : ∀ j, pending policy answers ops j ≠ [] →
      Classifiable (pending policy answers ops j).length (answers j)) (number : Nat) (result : Result) :
    Completes longestWait number (pending policy answers ops) (fun n => delay * growth ^ n) k v.cluster.world.log
      ((submit number left k (pending policy answers ops k) result).runOn v) := by
  induction left generalizing k v result with
  | zero =>
    have hnext : pending policy answers ops (k + 1) = [] := pending_exhausted hwhole (by omega)
    exact submit_completes_last hpolicy hops 0 h hne (hclass k hne) hnext number _ result
  | succ left ih =>
    by_cases hnext : pending policy answers ops (k + 1) = []
    · exact submit_completes_last hpolicy hops (left + 1) h hne (hclass k hne) hnext number _ result
    obtain ⟨u, r, result', hrun, hprocessor, hserves, hlog, hr⟩ :=
      submitOnce_pending hpolicy hops h (hclass k hne) number result
    have hu : u.processor.policy.Whole retries delay growth := by rwa [hprocessor, hpolicy]
    by_cases hb : Bearable longestWait (delay * growth ^ k)
    · obtain ⟨x, hwait, hx, hserves', hlog'⟩ := awaitRetry_bearable hu hserves hb
      have hpolicy' : x.processor.policy = policy := by rw [hx, hprocessor, hpolicy]
      rw [submit_of_rested hrun hnext hwait]
      obtain ⟨sent, tail, hrest, hcourse, hend, hclock⟩ := ih hpolicy' (by omega) hserves' hnext
        { result' with retried := result'.retried + (pending policy answers ops (k + 1)).length }
      have hlength : k + (r :: sent).length = k + 1 + sent.length := by
        rw [List.length_cons]
        omega
      refine ⟨r :: sent, tail, ?_, hcourse.cons hne hr hb, hlength ▸ hend, hclock⟩
      rw [hrest, turns_cons number (hcourse.ne_nil hnext), hlog', hlog]
      simp only [List.append_assoc]
    · obtain ⟨m, x, tail, hwait, hclock, hlog', htail⟩ := awaitRetry_not_bearable hu hserves hb
      rw [submit_of_restless hrun hnext hwait]
      have hempty (j : Nat) (hnil : pending policy answers ops (k + 1) = []) :
          pending policy answers ops (k + 1 + j) = [] := absurd hnil hnext
      refine ⟨[r], tail, ?_, course_last hempty hne hr (.inr hb), .broken hnext htail, hclock⟩
      rw [hlog', hlog]
      rfl

end submit

theorem Serves.told (h : Serves longestWait answers base k v.cluster) {e : Event} (he : ∀ r, e ≠ .request r) :
    Serves longestWait answers base k (told e v).cluster := by
  unfold Writer.told
  split_ifs
  · exact h.world h.ready.clock rfl rfl (requests_record he)
  · exact h

/-- Carrying out a batch adds to its submissions nothing but what a listener hears, and comes to the same end. -/
theorem execute_completes {submitted : Nat → List Operation} {pause : Nat → Int}
    (hclock : w.cluster.world.clock.Binary) (number : Nat) (ops : List Operation)
    (h : Completes longestWait number submitted pause 0 (told (.batchStarts number ops) w).cluster.world.log
      (submissions number ops w)) :
    ∃ sent tail before after,
      ((execute number ops).runOn w).2.cluster.world.log =
        w.cluster.world.log ++ before ++ turns number submitted pause 0 sent ++ tail ++ after ∧
      (∀ e ∈ before ++ after, e.heard = true) ∧ Course longestWait submitted pause 0 sent ∧
      Concludes submitted pause sent.length tail ((execute number ops).runOn w).1 := by
  obtain ⟨sent, tail, hlog, hcourse, hend, hlater⟩ := h
  rw [execute_runOn, foldl_told_log, hlog, told_log]
  rw [Nat.zero_add] at hend
  refine ⟨sent, tail, _, _, rfl, ?_, hcourse, ?_⟩
  · intro e he
    rcases List.mem_append.1 he with he | he
    · split_ifs at he
      · obtain rfl : e = .batchStarts number ops := by simpa using he
        rfl
      · cases he
    · split_ifs at he
      · exact report_heard number ops _ e he
      · cases he
  · unfold ending
    generalize submissions number ops w = run at hend hlater
    obtain ⟨x, v⟩ := run
    cases hend with
    | settled hdone =>
      obtain ⟨took, htook⟩ := timeTaken_binary hclock hlater ‹Result›
      simp only [endingOf, htook]
      exact .settled hdone
    | broken hne htail => exact .broken hne htail

theorem Course.length_le {submitted : Nat → List Operation} {pause : Nat → Int} {sent : List Cluster.Request}
    (h : Course longestWait submitted pause 0 sent) (hover : submitted (n + 1) = []) : sent.length ≤ n + 1 := by
  by_contra hlong
  have hmore := ((h.goes_on (n + 1)).1 (by omega)).1
  rw [Nat.zero_add] at hmore
  exact hmore hover

/-- A cluster that answers with success whatever it is asked is one that serves. -/
theorem serves_of_reachable {c : Cluster} (hc : c.Reachable) (hne : c.endpoints ≠ []) {b : Int}
    (hb : (c.connection.maxRetries.min (.int (c.nodes.length - 1))).toInt? = some b)
    (hanswers : ∀ earlier r, ∃ i payload, c.world.network.respond earlier r = .response (.int i) payload ∧
      200 ≤ i ∧ i < 300 ∧ payload.text? = some (answers (earlier.length - c.world.requests.length))) :
    Serves c.world.longestWait answers c.world.requests.length 0 c := by
  obtain ⟨fields, hfields⟩ := hc.connection
  obtain ⟨hbudget, -, -⟩ := Cluster.retryBudget_whole (Cluster.maxRetries_not_lt hfields) hne hb
  exact ⟨hc.ready, rfl, hne, ⟨b.toNat, hbudget⟩, rfl, hanswers⟩

/-- A usual system bears pauses of up to three centuries. -/
theorem bearable_usual_iff {seconds : Int} (h : 0 ≤ seconds) :
    Bearable (some World.usualLongestWait) seconds ↔ seconds ≤ 9223372036 := by
  unfold Bearable
  rw [World.refusal?_usual_int, abs_of_nonneg h]
  refine ⟨fun hb => hb.2.1, fun hle => ⟨?_, hle, ?_⟩⟩
  · rw [Quantity.isSpellable_int]
    have : 10 ^ 10 ≤ 10 ^ Text.longestNumeral := Nat.pow_le_pow_right (by decide) (by decide)
    omega
  · rcases Quantity.finiteFloat?_cases seconds with ⟨-, x, hx, -⟩ | ⟨hbeyond, -⟩
    · rw [hx]
      rfl
    · have : 10 ^ 10 < Decimal.Binary.beyond := by decide +kernel
      omega

/-- What is rejected is submitted again, exactly that and in its order, until nothing is rejected or no retry is left;
only a pause that cannot be borne breaks this off. An operation that is not rejected at its place in a submission is
in no later one. -/
theorem resubmits_rejected (answers : Nat → String) {w : Writer} (hc : w.cluster.Reachable)
    (hendpoints : w.cluster.endpoints ≠ []) {b : Int}
    (hb : (w.cluster.connection.maxRetries.min (.int (w.cluster.nodes.length - 1))).toInt? = some b)
    (hwhole : w.processor.policy.Whole retries delay growth)
    (hanswers : ∀ earlier r, ∃ i payload, w.cluster.world.network.respond earlier r = .response (.int i) payload ∧
      200 ≤ i ∧ i < 300 ∧ payload.text? = some (answers (earlier.length - w.cluster.world.requests.length)))
    {ops : List Operation} (hne : ops ≠ []) (hops : ∀ op ∈ ops, op.Writable)
    (hclass : ∀ k, pending w.processor.policy answers ops k ≠ [] →
      Classifiable (pending w.processor.policy answers ops k).length (answers k)) (number : Nat) :
    let submitted := pending w.processor.policy answers ops
    let place := pending w.processor.policy answers (List.range ops.length)
    let pause (k : Nat) := delay * growth ^ k
    (∃ sent tail before after,
      ((execute number ops).runOn w).2.cluster.world.log =
        w.cluster.world.log ++ before ++ turns number submitted pause 0 sent ++ tail ++ after ∧
      (∀ e ∈ before ++ after, e.heard = true) ∧
      (∀ k, k < sent.length ↔ submitted k ≠ [] ∧ ∀ i < k, Bearable w.cluster.world.longestWait (pause i)) ∧
      (∀ k (hk : k < sent.length), Carries (submitted k) sent[k]) ∧
      (sent.length : Int) ≤ retries + 1 ∧
      Concludes submitted pause sent.length tail ((execute number ops).runOn w).1) ∧
    (∀ k, submitted (k + 1) =
      if (k : Int) < retries then rejectedBy w.processor.policy (submitted k) (answers k) else []) ∧
    (∀ k, (submitted k).map some = (place k).map (ops[·]?) ∧ (place k).Pairwise (· < ·)) ∧
    ∀ j k n (hn : n < (place j).length), j < k → (place j)[n] ∈ place k →
      Rejects w.processor.policy (place j).length (answers j) n := by
  intro submitted place pause
  have hrange : ops.map some = (List.range ops.length).map (ops[·]?) := by
    apply List.ext_getElem
    · simp
    · intro i hi _
      have : i < ops.length := by simpa using hi
      simp [this]
  refine ⟨?_, fun k => pending_whole _ _ _ hwhole k, fun k => ⟨?_, ?_⟩, fun j k n hn hjk hmem => ?_⟩
  · have hserves := serves_of_reachable hc hendpoints hb hanswers
    have htold := hserves.told (e := .batchStarts number ops) (by simp)
    have hceil : w.processor.policy.maxRetries.ceil = retries.toNat := by
      rw [hwhole.maxRetries]
      rfl
    have hrun := submit_completes (v := told (.batchStarts number ops) w) (congrArg _ (told_processor _ w)) hops hwhole
      retries.toNat rfl htold hne hclass number { total := ops.length }
    have hsub : submissions number ops w = (submit number retries.toNat 0 ops { total := ops.length }).runOn
        (told (.batchStarts number ops) w) := by
      unfold submissions
      rw [hceil]
    rw [pending, ← hsub] at hrun
    obtain ⟨sent, tail, before, after, hlog, hheard, hcourse, hend⟩ :=
      execute_completes hserves.ready.clock number ops hrun
    have hnonneg := hwhole.retries_nonneg
    have hlength := hcourse.length_le (pending_exhausted hwhole (k := retries.toNat) (by omega))
    refine ⟨sent, tail, before, after, hlog, hheard, fun k => ?_, fun k hk => ?_, by omega, hend⟩
    · simpa only [Nat.zero_add] using hcourse.goes_on k
    · simpa only [Nat.zero_add] using hcourse.carries k hk
  · rw [← pending_map, ← pending_map, hrange]
  · exact (List.pairwise_lt_range).sublist (pending_sublist _ _ _ (Nat.zero_le k))
  · exact rejects_of_mem_pending List.nodup_range hjk hn hmem

/-- The answer of a store that has no room for one deletion. -/
def rejection : String :=
  "\x7b\"errors\":true,\"items\":[\x7b\"delete\":\x7b\"error\":" ++
    "\x7b\"type\":\"es_rejected_execution_exception\"\x7d\x7d\x7d]\x7d"

/-- A network whose store never has room. -/
def crowded : Cluster.Network where
  respond _ _ := .response (.int 200) (.text rejection)

/-- A processor for such a store, on a usual system, that tries once more after a second. -/
def patient : Writer where
  processor := { threshold := .int 10, flushInterval := none, listening := true, lastFlush := .float 0.0,
                 policy := { maxRetries := .int 1, retryDelay := .int 1, backoffFactor := .int 1 } }
  cluster := { Cluster.twins crowded with world :=
    { clock := .float 0.0, network := crowded, longestWait := some World.usualLongestWait } }

theorem patient_reachable : patient.cluster.Reachable := .later (Cluster.twins_reachable crowded) ⟨0.0, rfl⟩

theorem rejectedBy_rejection : rejectedBy patient.processor.policy [deletion "1"] rejection ≠ [] := by
  have hlength : (rejectedBy patient.processor.policy [deletion "1"] rejection).length = 1 := by decide +kernel
  exact List.ne_nil_of_length_pos (hlength ▸ Nat.one_pos)

theorem resubmits_rejected_once :
    ∃ first rest, Carries [deletion "1"] first ∧ rest.length = 1 ∧
      ∃ tail before after, ((execute 1 [deletion "1"]).runOn patient).2.cluster.world.log =
        before ++ turns 1 (pending patient.processor.policy (fun _ => rejection) [deletion "1"]) (fun k => 1 * 1 ^ k) 0
          (first :: rest) ++ tail ++ after := by
  have hwritable : ∀ op ∈ [deletion "1"], op.Writable := by
    intro op hop
    obtain rfl : op = deletion "1" := by simpa using hop
    trivial
  have hsorted : Classifiable 1 rejection := by decide +kernel
  have hclass (k : Nat) (hk : pending patient.processor.policy (fun _ => rejection) [deletion "1"] k ≠ []) :
      Classifiable (pending patient.processor.policy (fun _ => rejection) [deletion "1"] k).length rejection := by
    have hle := (pending_sublist patient.processor.policy (fun _ => rejection) [deletion "1"] (Nat.zero_le k)).length_le
    have hpos := List.length_pos_iff.2 hk
    have hone : (pending patient.processor.policy (fun _ => rejection) [deletion "1"] k).length = 1 :=
      Nat.le_antisymm hle hpos
    rw [hone]
    exact hsorted
  obtain ⟨⟨sent, tail, before, after, hlog, -, hgoes, hcarries, hlength, -⟩, -⟩ :=
    resubmits_rejected (fun _ => rejection) (w := patient) patient_reachable (by decide) (b := 1) rfl
      ⟨rfl, rfl, rfl, by decide, by decide, by decide⟩
      (fun _ _ => ⟨200, .text rejection, rfl, by decide, by decide, rfl⟩) (List.cons_ne_nil _ _) hwritable hclass 1
  cases sent with
  | nil =>
    have hfirst := (hgoes 0).2 ⟨List.cons_ne_nil _ _, by simp⟩
    exact absurd hfirst (Nat.lt_irrefl 0)
  | cons first rest =>
    have hborne : Bearable patient.cluster.world.longestWait (1 * 1 ^ 0) := (bearable_usual_iff (by decide)).2 (by decide)
    have hnext : 1 < (first :: rest).length := by
      refine (hgoes 1).2 ⟨rejectedBy_rejection, fun i hi => ?_⟩
      obtain rfl : i = 0 := by omega
      exact hborne
    rw [List.length_cons] at hlength hnext
    exact ⟨first, rest, hcarries 0 (by simp), by omega, tail, before, after, hlog⟩

/-- A processor for such a store whose second pause has more digits than a number is written with. -/
def stalling : Writer :=
  ⟨{ threshold := .int 10, flushInterval := none, listening := true, lastFlush := .int 0,
     policy := { maxRetries := .int 2, retryDelay := .int 10, backoffFactor := .int (10 ^ 4299) } },
    { Cluster.twins crowded with world := { clock := .int 0, network := crowded } }⟩

theorem stalling_skips_last_retry :
    pending stalling.processor.policy (fun _ => rejection) [deletion "1"] 2 ≠ [] ∧
      ∀ ops, Event.batchSubmitted 1 2 ops ∉ ((execute 1 [deletion "1"]).runOn stalling).2.cluster.world.log := by
  have hpending : (pending stalling.processor.policy (fun _ => rejection) [deletion "1"] 2).length = 1 := by
    decide +kernel
  have hlog : (((execute 1 [deletion "1"]).runOn stalling).2.cluster.world.log.all fun
      | .batchSubmitted _ attempt _ => attempt ≠ 2
      | _ => true) = true := by
    decide +kernel
  refine ⟨List.ne_nil_of_length_pos (hpending ▸ Nat.one_pos), fun ops hmem => ?_⟩
  simpa using List.all_eq_true.1 hlog _ hmem

end DocumentStore.Bulk.Writer
