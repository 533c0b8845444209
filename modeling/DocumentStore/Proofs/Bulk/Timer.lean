import DocumentStore.Proofs.Bulk.Closed
import DocumentStore.Proofs.Bulk.Drain
import DocumentStore.Proofs.Quantity.Value

/-! The flush timer keeps its time. As long as the clock does not go back, and the timer can count with it, it waits no
longer than its interval, it flushes when the interval is over and not before, and it goes on until the processor is
closed. What waits in the queue came there since the last flush. -/

namespace DocumentStore.Bulk.Writer

open Effect

/-- The reading of the clock. -/
def time (w : Writer) : Quantity := w.cluster.world.clock

/-- The reading of the clock at the last flush. -/
def flushed (w : Writer) : Quantity := w.processor.lastFlush

/-- Steps that do not add lists. -/
def Single (ss : List Step) : Prop := ∀ s ∈ ss, ∀ ops, s ≠ .addAll ops

/-! ### What a step does to the queue and to the time of the last flush -/

theorem flush_time (w : Writer) : (flush.runOn w).2.flushed = w.time ∧ (flush.runOn w).2.processor.queue = [] := by
  unfold flushed time
  rw [flush_processor]
  exact ⟨rfl, rfl⟩

theorem flushing_time {w v : Writer} {s : Step} (h : w.flushing s = some v) : v.time = w.time := by
  unfold flushing at h
  cases s with
  | add op =>
    simp only at h
    split_ifs at h
    cases h
    rfl
  | flush =>
    cases h
    rfl
  | close timeout =>
    simp only at h
    split_ifs at h
    split at h <;> cases h
    rfl
  | wake interval =>
    simp only at h
    split at h
    · split_ifs at h
      cases h
      rfl
    · cases h
  | _ => cases h

/-- A step with a flush leaves nothing in the queue, and the time at which it began as that of the last flush. -/
theorem next_of_flushing {w v : Writer} {s : Step} (h : w.flushing s = some v) :
    (w.next s).processor.queue = [] ∧ (w.next s).flushed = w.time := by
  have hs (ops : List Operation) : s ≠ .addAll ops := by
    rintro rfl
    cases h
  obtain ⟨u, -, ⟨hnone, -⟩ | ⟨hsome, hrun⟩⟩ := perform_cases w hs
  · rw [hnone] at h
    cases h
  · obtain rfl : u = v := Option.some.inj (hsome.symm.trans h)
    have hnext : w.next s = (flush.runOn u).2 := by rw [next, hrun]
    rw [hnext, (flush_time u).1, (flush_time u).2, flushing_time h]
    exact ⟨rfl, rfl⟩

/-- A step without a flush only puts something into the queue. -/
theorem next_of_still {w : Writer} {s : Step} (hs : ∀ ops, s ≠ .addAll ops) (h : w.flushing s = none) :
    (w.next s).processor.queue = w.processor.queue ++ w.accepted s ∧ (w.next s).flushed = w.flushed := by
  obtain ⟨v, henqueues, ⟨-, r, hrun⟩ | ⟨hsome, -⟩⟩ := perform_cases w hs
  · have hnext : w.next s = v := congrArg Prod.snd hrun
    refine ⟨by rw [hnext, henqueues.queue], ?_⟩
    have hquiet {α : Type} {e : Effect Writer α} (he : Keeps Quiet e) :
        ((e >>= fun _ => pure (none : Option Result)).runOn w).2.flushed = w.flushed :=
      congrArg Processor.lastFlush (he.bind (fun _ => keeps_pure _) w).processor
    cases s with
    | add op =>
      rw [next_add]
      cases hc : w.processor.closed with
      | true => rw [add_of_closed op hc]
      | false =>
        have hroom : ¬w.processor.threshold.le (.int (w.processor.queue.length + 1)) = true := by
          intro hfull
          simp [flushing, hc, hfull] at h
        rw [add_of_open op hc, if_neg hroom]
        rfl
    | addAll ops => exact absurd rfl (hs ops)
    | flush => cases h
    | close timeout =>
      rcases next_close_of_still h with hclose | hclose <;> rw [hclose]
      rfl
    | start =>
      rw [next_start]
      cases hc : w.processor.closed with
      | true => rw [start_of_closed hc]
      | false =>
        rw [start_of_open hc]
        split_ifs <;> rfl
    | advance seconds => exact hquiet (keeps_advance seconds)
    | sleep interval => exact hquiet ((keeps_timerSleeps interval).map _)
    | wake interval =>
      rw [next_wake]
      rcases timerWakes_cases w interval with ⟨hsome, -⟩ | ⟨-, r, hw⟩
      · rw [h] at hsome
        cases hsome
      · rw [hw]
    | note outcome => exact hquiet (keeps_record (e := .step outcome) rfl)
  · rw [h] at hsome
    cases hsome

/-! ### The age of what waits in the queue -/

/-- The operations that a run puts into the queue, with the reading of the clock when each of them is put there. -/
def stampedIn : List Step → Writer → List (Operation × Quantity)
  | [], _ => []
  | s :: ss, w => (w.accepted s).map (·, w.time) ++ stampedIn ss (w.next s)

theorem stampedIn_append (ss ts : List Step) (w : Writer) :
    stampedIn (ss ++ ts) w = stampedIn ss w ++ stampedIn ts (after ss w) := by
  induction ss generalizing w with
  | nil => rfl
  | cons s ss ih => rw [List.cons_append, stampedIn, stampedIn, ih, List.append_assoc, after_cons]

/-- What waits in the queue was put there last, and not before the last flush. -/
structure Dated (stamped : List (Operation × Quantity)) (w : Writer) : Prop where
  flushed : w.flushed.number ≤ w.time.number
  queue : ∃ old young, stamped = old ++ young ∧ w.processor.queue = young.map Prod.fst ∧
    ∀ entry ∈ young, w.flushed.number ≤ entry.2.number

/-- A step at which the clock does not go back keeps the queue dated. -/
theorem next_dated {stamped : List (Operation × Quantity)} {w : Writer} {s : Step} (hs : ∀ ops, s ≠ .addAll ops)
    (hforward : w.time.number ≤ (w.next s).time.number) (h : Dated stamped w) :
    Dated (stamped ++ (w.accepted s).map (·, w.time)) (w.next s) := by
  obtain ⟨old, young, hsplit, hqueue, hyoung⟩ := h.queue
  cases hflushing : w.flushing s with
  | some v =>
    obtain ⟨hempty, hflushed⟩ := next_of_flushing hflushing
    refine ⟨by rwa [hflushed], _, [], (List.append_nil _).symm, hempty, by simp⟩
  | none =>
    obtain ⟨hgrown, hflushed⟩ := next_of_still hs hflushing
    refine ⟨by rw [hflushed]; exact h.flushed.trans hforward, old, young ++ (w.accepted s).map (·, w.time), ?_, ?_, ?_⟩
    · rw [hsplit, List.append_assoc]
    · rw [hgrown, hqueue, List.map_append, List.map_map]
      simp [Function.comp_def]
    · rw [hflushed]
      refine List.forall_mem_append.2 ⟨hyoung, ?_⟩
      rw [List.forall_mem_map]
      exact fun op _ => h.flushed

/-! ### The timer and the clock -/

/-- The timer counts with the readings of the clock without an error. -/
def Exact (interval : Quantity) (w : Writer) : Prop :=
  ∃ deadline remaining elapsed, w.flushed.AddsTo interval deadline ∧ deadline.SubtractsTo w.time remaining ∧
    w.time.SubtractsTo w.flushed elapsed

theorem exact_iff {interval : Quantity} {w : Writer} :
    Exact interval w ↔ w.flushed.Finite ∧ interval.Finite ∧ w.time.Finite ∧
      ((w.flushed.add? interval).any fun deadline =>
        deadline.value? = some (w.flushed.number + interval.number) ∧
        (deadline.sub? w.time).bind Quantity.value? = some (deadline.number - w.time.number)) ∧
      (w.time.sub? w.flushed).bind Quantity.value? = some (w.time.number - w.flushed.number) := by
  unfold Exact
  simp only [Quantity.computes_iff, Option.any_eq_true, Option.bind_eq_some_iff]
  constructor
  · rintro ⟨deadline, remaining, elapsed, ⟨hflushed, hinterval, hadd, hsum⟩, ⟨-, htime, hsub, hrest⟩, -, -, hsub',
      hrest'⟩
    exact ⟨hflushed, hinterval, htime, ⟨deadline, hadd, by simpa [hsum] using ⟨remaining, hsub, hrest⟩⟩,
      elapsed, hsub', hrest'⟩
  · rintro ⟨hflushed, hinterval, htime, ⟨deadline, hadd, h⟩, elapsed, hsub', hrest'⟩
    obtain ⟨hsum, remaining, hsub, hrest⟩ := of_decide_eq_true h
    exact ⟨deadline, remaining, elapsed, ⟨hflushed, hinterval, hadd, hsum⟩, ⟨⟨_, hsum⟩, htime, hsub, hrest⟩, htime,
      hflushed, hsub', hrest'⟩

instance (interval : Quantity) : DecidablePred (Exact interval) := fun _ => decidable_of_iff' _ exact_iff

/-- The interval is over since the last flush. -/
def Due (interval : Quantity) (w : Writer) : Prop := interval.number ≤ w.time.number - w.flushed.number

instance (interval : Quantity) : DecidablePred (Due interval) := fun w =>
  inferInstanceAs (Decidable (interval.number ≤ w.time.number - w.flushed.number))

/-- All along a run the clock does not go back, and the timer counts without an error. -/
structure Timely (interval : Quantity) (ss : List Step) (w : Writer) : Prop where
  exact : ∀ before, before <+: ss → Exact interval (after before w)
  forward : ∀ before s, before ++ [s] <+: ss → (after before w).time.number ≤ ((after before w).next s).time.number

theorem Timely.behind {interval : Quantity} {before behind : List Step} {w : Writer}
    (h : Timely interval (before ++ behind) w) : Timely interval behind (after before w) where
  exact pre hpre := by
    rw [← after_append]
    exact h.exact _ ((List.prefix_append_right_inj before).2 hpre)
  forward pre s hpre := by
    rw [← after_append]
    refine h.forward _ s ?_
    rw [List.append_assoc]
    exact (List.prefix_append_right_inj before).2 hpre

theorem Timely.upTo {interval : Quantity} {before ss : List Step} {w : Writer} (h : Timely interval ss w)
    (hbefore : before <+: ss) : Timely interval before w where
  exact pre hpre := h.exact pre (hpre.trans hbefore)
  forward pre s hpre := h.forward pre s (hpre.trans hbefore)

theorem timely_nil {interval : Quantity} {w : Writer} : Timely interval [] w ↔ Exact interval w := by
  refine ⟨fun h => h.exact [] List.nil_prefix, fun h => ⟨fun before hbefore => ?_, fun before s hbefore => ?_⟩⟩
  · rw [List.prefix_nil.1 hbefore]
    exact h
  · simpa using List.prefix_nil.1 hbefore

theorem timely_cons {interval : Quantity} {s : Step} {ss : List Step} {w : Writer} :
    Timely interval (s :: ss) w ↔
      Exact interval w ∧ w.time.number ≤ (w.next s).time.number ∧ Timely interval ss (w.next s) := by
  constructor
  · intro h
    exact ⟨h.exact [] List.nil_prefix, h.forward [] s (by simp), (show Timely interval ([s] ++ ss) w from h).behind⟩
  · rintro ⟨hexact, hforward, hrest⟩
    refine ⟨fun before hbefore => ?_, fun before t hbefore => ?_⟩
    · rcases before with - | ⟨u, before⟩
      · exact hexact
      · obtain ⟨rfl, hlater⟩ := List.cons_prefix_cons.1 hbefore
        exact hrest.exact before hlater
    · rcases before with - | ⟨u, before⟩
      · obtain ⟨rfl, -⟩ := List.cons_prefix_cons.1 hbefore
        exact hforward
      · obtain ⟨rfl, hlater⟩ := List.cons_prefix_cons.1 hbefore
        exact hrest.forward before t hlater

instance decidableTimely (interval : Quantity) : (ss : List Step) → (w : Writer) → Decidable (Timely interval ss w)
  | [], _ => decidable_of_iff' _ timely_nil
  | s :: ss, w =>
    have := decidableTimely interval ss (w.next s)
    decidable_of_iff' _ timely_cons

theorem Timely.dated {interval : Quantity} {ss : List Step} {w : Writer} (h : Timely interval ss w) (hs : Single ss)
    (hfresh : w.flushed.number ≤ w.time.number) (hqueue : w.processor.queue = []) {before : List Step}
    (hbefore : before <+: ss) : Dated (stampedIn before w) (after before w) := by
  induction before using List.reverseRecOn with
  | nil => exact ⟨hfresh, [], [], rfl, hqueue, by simp⟩
  | append_singleton before s ih =>
    have hshort : before <+: ss := (List.prefix_append before [s]).trans hbefore
    have hsingle : ∀ ops, s ≠ .addAll ops := hs s (hbefore.subset (by simp))
    have hnext := next_dated hsingle (h.forward before s hbefore) (ih hshort)
    rw [stampedIn_append, after_append]
    simpa [stampedIn] using hnext

/-- The system waits for as long as is asked of it, up to the interval. -/
def Bears (interval : Quantity) (w : World) : Prop :=
  ∀ wait : Quantity, wait.Finite → 0 ≤ wait.number → wait.number ≤ interval.number → w.await wait = .ok ()

/-- A system that waits for as long as most do bears intervals that are not longer. -/
theorem bears_usual {interval : Quantity} {w : World} (hw : w.longestWait = some World.usualLongestWait)
    (hinterval : interval.number ≤ World.usualLongestWait.number) : Bears interval w := by
  intro wait hfinite hnonneg hle
  have hborne : World.refusal? (some World.usualLongestWait) wait = none := by
    rw [World.refusal?_usual_iff hfinite, abs_of_nonneg hnonneg]
    exact hle.trans hinterval
  unfold World.await
  rw [hw, hborne]

/-- From `v` to `w` the system waits for as long. -/
def SameWait (v w : Writer) : Prop := w.cluster.world.longestWait = v.cluster.world.longestWait

instance : Std.Refl SameWait := ⟨fun _ => rfl⟩

instance : IsTrans Writer SameWait := ⟨fun _ _ _ h₁ h₂ => h₂.trans h₁⟩

theorem after_sameWait (ss : List Step) (w : Writer) : SameWait w (after ss w) := by
  have hadvance (seconds : Quantity) : Keeps SameWait (advance seconds) := by
    intro w
    unfold advance World.advance
    rw [runOn_bind_ok (runOn_get w)]
    cases w.cluster.world.clock.add seconds <;> rfl
  have hpause (seconds : Quantity) : Keeps SameWait (pause seconds) := by
    intro w
    unfold pause
    rw [runOn_ofStep]
    obtain ⟨m, hpause⟩ | ⟨m, hpause⟩ | ⟨clock, -, hpause⟩ := w.cluster.world.pause_cases seconds <;> rw [hpause]
    all_goals exact Eq.refl w.cluster.world.longestWait
  exact keeps_after (fun _ _ _ => rfl) hadvance (fun _ _ => rfl)
    (fun body w => (Cluster.call_advances w.cluster "POST" (some "_bulk") (.lines body) []).longestWait) hpause ss w

theorem Bears.after {interval : Quantity} {w : Writer} (h : Bears interval w.cluster.world) (ss : List Step) :
    Bears interval (after ss w).cluster.world := by
  unfold Bears World.await World.refusal?
  rw [after_sameWait ss w]
  exact h

/-- The timer means to wait for what is left of the interval, and not at all if nothing is left of it. -/
theorem timerSleeps_exact {interval : Quantity} {w : Writer} (h : Exact interval w) :
    ∃ wait : Quantity, wait.Finite ∧ wait.number = max 0 (w.flushed.number + interval.number - w.time.number) ∧
      (w.processor.closed = true ∨ w.cluster.world.await wait = .ok () →
        (timerSleeps interval).runOn w = (.ok wait, w.logged (.waits wait))) := by
  obtain ⟨deadline, remaining, elapsed, hadd, hsub, -⟩ := h
  have hwait : timerWait w.processor interval w.cluster.world.clock = .ok (Quantity.max (.float 0.0) remaining) := by
    have hdeadline : w.processor.lastFlush.add interval = .ok deadline := congrArg requireInRange hadd.computed
    have hremaining : deadline.sub w.cluster.world.clock = .ok remaining := congrArg requireInRange hsub.computed
    unfold timerWait
    rw [hdeadline]
    change Quantity.max (.float 0.0) <$> deadline.sub w.cluster.world.clock = _
    rw [hremaining]
    rfl
  have hzero : (Quantity.float 0.0).value? = some 0 := by decide +kernel
  have hnil : (Quantity.float 0.0).number = 0 := by rw [Quantity.number, hzero, Option.getD_some]
  obtain ⟨hfinite, hnumber⟩ := Quantity.max_number ⟨0, hzero⟩ hsub.finite
  refine ⟨_, hfinite, ?_, fun hborne => ?_⟩
  · rw [hnumber, hnil, hsub.number, hadd.number]
  · unfold timerSleeps
    rw [runOn_bind_ok (runOn_get w), runOn_bind_ok (now_runOn w), hwait, runOn_bind_ok (runOn_ofExcept _ w),
      runOn_bind_ok (runOn_get w)]
    cases hclosed : w.processor.closed with
    | true => rfl
    | false =>
      have hawait := hborne.resolve_left (by simp [hclosed])
      simp only [Bool.not_false, if_true]
      rw [runOn_bind_ok (runOn_get w), hawait]
      rfl

/-- The timer flushes if the interval is over, and does nothing otherwise; whatever comes of the flush, it goes on. -/
theorem timerWakes_exact {interval : Quantity} {w : Writer} (h : Exact interval w) :
    (timerWakes interval).runOn w = (.ok (), if Due interval w then (flush.runOn w).2 else w) := by
  obtain ⟨deadline, remaining, elapsed, hadd, -, hsub⟩ := h
  have helapsed : w.cluster.world.clock.sub w.processor.lastFlush = .ok elapsed :=
    congrArg requireInRange hsub.computed
  have hle : interval.le elapsed = decide (Due interval w) := by
    rw [Quantity.le_number hadd.right hsub.finite, hsub.number]
    rfl
  unfold timerWakes
  rw [runOn_bind_ok (now_runOn w), runOn_bind_ok (runOn_get w), helapsed, runOn_bind_ok (runOn_ofExcept _ w)]
  simp only [hle, decide_eq_true_eq]
  split_ifs <;> rfl

/-! ### A wait -/

/-- None of the steps flushes. -/
def Undisturbed : List Step → Writer → Prop
  | [], _ => True
  | s :: ss, w => w.flushing s = none ∧ Undisturbed ss (w.next s)

theorem after_flushed {ss : List Step} {w : Writer} (hs : Single ss) (h : Undisturbed ss w) :
    (after ss w).flushed = w.flushed := by
  induction ss generalizing w with
  | nil => rfl
  | cons s ss ih =>
    obtain ⟨hfirst, hrest⟩ := List.forall_mem_cons.1 hs
    rw [after_cons, ih hrest h.2, (next_of_still hfirst h.1).2]

/-- After a wait as long as it was meant to be, and without a flush in it, the interval is over. -/
theorem due_of_wait {interval wait : Quantity} {w : Writer} {during : List Step} (hduring : Single during)
    (hstill : Undisturbed during (w.next (.sleep interval)))
    (hwait : wait.number = max 0 (w.flushed.number + interval.number - w.time.number))
    (hlong : wait.number ≤ (after during (w.next (.sleep interval))).time.number - w.time.number) :
    Due interval (after during (w.next (.sleep interval))) := by
  have hsleep : (w.next (.sleep interval)).flushed = w.flushed := (next_of_still (by simp) rfl).2
  unfold Due
  rw [after_flushed hduring hstill, hsleep]
  have hleft := le_max_right 0 (w.flushed.number + interval.number - w.time.number)
  linarith

/-- What the timer does in a state, if it does it in time. -/
structure OnTime (interval : Quantity) (behind : List Step) (stamped : List (Operation × Quantity)) (w : Writer) :
    Prop where
  /-- It waits no longer than the interval, and if nobody flushes during the wait the interval is over behind it. -/
  waits : ∃ wait, (timerSleeps interval).runOn w = (.ok wait, w.logged (.waits wait)) ∧ wait.Finite ∧
    0 ≤ wait.number ∧ wait.number ≤ interval.number ∧
    ∀ during, .sleep interval :: during <+: behind → Undisturbed during (w.next (.sleep interval)) →
      wait.number ≤ (after during (w.next (.sleep interval))).time.number - w.time.number →
      Due interval (after during (w.next (.sleep interval)))
  /-- It flushes exactly if the interval is over, and goes on whatever comes of that. -/
  wakes : (timerWakes interval).runOn w = (.ok (), if Due interval w then (flush.runOn w).2 else w)
  /-- What waits in the queue was put there since the last flush. -/
  dated : Dated stamped w
  /-- When it has flushed nothing waits any more. -/
  empties : Due interval w → ((timerWakes interval).runOn w).2.processor.queue = []

theorem Timely.onTime {interval : Quantity} {before behind : List Step} {w : Writer}
    (h : Timely interval (before ++ behind) w) (hs : Single (before ++ behind)) (hpositive : 0 < interval.number)
    (hbears : Bears interval w.cluster.world) (hfresh : w.flushed.number ≤ w.time.number)
    (hqueue : w.processor.queue = []) :
    OnTime interval behind (stampedIn before w) (after before w) := by
  have hbefore := List.prefix_append before behind
  have hexact := h.exact before hbefore
  have hdated := h.dated hs hfresh hqueue hbefore
  obtain ⟨wait, hfinite, hwait, hsleep⟩ := timerSleeps_exact hexact
  have hnonneg : 0 ≤ wait.number := by
    rw [hwait]
    exact le_max_left _ _
  have hle : wait.number ≤ interval.number := by
    rw [hwait]
    have := hdated.flushed
    exact max_le hpositive.le (by linarith)
  have hborne := hbears.after before wait hfinite hnonneg hle
  refine ⟨⟨wait, hsleep (.inr hborne), hfinite, hnonneg, hle, ?_⟩, timerWakes_exact hexact, hdated, fun hdue => ?_⟩
  · intro during hduring hstill hlong
    have hsingle : Single during := fun s hmem =>
      hs s (List.mem_append_right _ (hduring.subset (List.mem_cons_of_mem _ hmem)))
    exact due_of_wait hsingle hstill hwait hlong
  · rw [timerWakes_exact hexact, if_pos hdue]
    exact (flush_time _).2

/-! ### The loop -/

/-- The turns that the timer takes over some pauses, as steps: it goes to sleep, whatever is asked meanwhile is done,
and unless the processor is closed it wakes up and takes its next turn. -/
inductive Turns (interval : Quantity) : List Pause → Writer → List Step → Prop
  | done {w : Writer} : Turns interval [] w []
  | closed {pauses : List Pause} {w : Writer} (hclosed : w.processor.closed = true) :
      Turns interval pauses w [.sleep interval]
  | closing {pause : Pause} {pauses : List Pause} {w : Writer} {wait : Quantity} {during : List Step}
      (hopen : w.processor.closed = false)
      (hsleep : (timerSleeps interval).runOn w = (.ok wait, w.next (.sleep interval)))
      (hpause : (runPause wait pause).runOn (w.next (.sleep interval)) =
        (.ok (), after during (w.next (.sleep interval))))
      (hclosed : (after during (w.next (.sleep interval))).processor.closed = true) :
      Turns interval (pause :: pauses) w (.sleep interval :: during)
  | turn {pause : Pause} {pauses : List Pause} {w : Writer} {wait : Quantity} {during rest : List Step}
      (hopen : w.processor.closed = false)
      (hsleep : (timerSleeps interval).runOn w = (.ok wait, w.next (.sleep interval)))
      (hpause : (runPause wait pause).runOn (w.next (.sleep interval)) =
        (.ok (), after during (w.next (.sleep interval))))
      (hawake : (after during (w.next (.sleep interval))).processor.closed = false)
      (hrest : Turns interval pauses ((after during (w.next (.sleep interval))).next (.wake interval)) rest) :
      Turns interval (pause :: pauses) w (.sleep interval :: (during ++ .wake interval :: rest))

/-- An open processor whose timer slept through a pause: the timer is done if the pause has closed the processor, and
else it wakes up and goes on. -/
theorem runTimer_turn {interval wait : Quantity} {w u v : Writer} {pause : Pause} (hopen : w.processor.closed = false)
    (hsleep : (timerSleeps interval).runOn w = (.ok wait, u)) (hpause : (runPause wait pause).runOn u = (.ok (), v))
    (hawake : v.processor.closed = false) (hexact : Exact interval v) (pauses : List Pause) :
    (runTimer interval (pause :: pauses)).runOn w = (runTimer interval pauses).runOn (v.next (.wake interval)) := by
  have hu : u.processor.closed = false := by
    have hprocessor := timerSleeps_processor interval w
    rw [hsleep] at hprocessor
    exact (congrArg Processor.closed hprocessor).trans hopen
  have hwake : (timerWakes interval).runOn v = (.ok (), v.next (.wake interval)) := by
    rw [next_wake, timerWakes_exact hexact]
  rw [runTimer, runOn_bind_ok hsleep, runOn_bind_ok (runOn_get u)]
  simp only [hu, Bool.false_eq_true, if_false]
  rw [runOn_bind_ok hpause, runOn_bind_ok (runOn_get v)]
  simp only [hawake, Bool.false_eq_true, if_false]
  rw [runOn_bind_ok hwake]

/-- Over whatever pauses, the timer either ends with the processor closed or goes on with the pauses that follow. -/
theorem Turns.lasts {interval : Quantity} {pauses : List Pause} {w : Writer} {ss : List Step}
    (h : Turns interval pauses w ss) (htimely : Timely interval ss w) :
    ((after ss w).processor.closed = true ∧
      ∀ more, (runTimer interval (pauses ++ more)).runOn w = (.ok (), after ss w)) ∨
    ∀ more, (runTimer interval (pauses ++ more)).runOn w = (runTimer interval more).runOn (after ss w) := by
  induction h with
  | done => exact .inr fun _ => rfl
  | @closed pauses w hclosed =>
    refine .inl ⟨?_, fun more => ?_⟩
    · rw [after_cons, after_nil, next_sleep, timerSleeps_processor]
      exact hclosed
    · obtain ⟨wait, -, -, hsleep⟩ := timerSleeps_exact (htimely.exact [] List.nil_prefix)
      replace hsleep := hsleep (.inl hclosed)
      rw [after_nil] at hsleep
      have hdiscard : (discard (timerSleeps interval)).runOn w = (.ok (), ((timerSleeps interval).runOn w).2) := by
        have hmap := runOn_map (fun _ => ()) (timerSleeps interval) w
        rw [hsleep] at hmap ⊢
        exact hmap
      rw [runTimer_of_closed hclosed, hdiscard, after_cons, after_nil, next_sleep]
  | @closing pause pauses w wait during hopen hsleep hpause hclosed =>
    refine .inl ⟨hclosed, fun more => ?_⟩
    rw [List.cons_append, runTimer_of_closing hsleep hopen (by rwa [hpause]), hpause]
    rfl
  | @turn pause pauses w wait during rest hopen hsleep hpause hawake hrest ih =>
    have hexact : Exact interval (after during (w.next (.sleep interval))) :=
      htimely.exact (.sleep interval :: during) (List.prefix_append (.sleep interval :: during) _)
    have hturn := runTimer_turn hopen hsleep hpause hawake hexact
    have hsplit : .sleep interval :: (during ++ .wake interval :: rest) =
        (.sleep interval :: (during ++ [.wake interval])) ++ rest := by simp
    have hstate : after (.sleep interval :: (during ++ [.wake interval])) w =
        (after during (w.next (.sleep interval))).next (.wake interval) := by
      rw [after_cons, after_append, after_cons, after_nil]
    rw [hsplit] at htimely ⊢
    have hlater := ih (hstate ▸ htimely.behind)
    rw [after_append, hstate]
    rcases hlater with ⟨hclosed, hends⟩ | hgoes
    · exact .inl ⟨hclosed, fun more => by rw [List.cons_append, hturn, hends]⟩
    · exact .inr fun more => by rw [List.cons_append, hturn, hgoes]

/-! ### Steps of commands -/

theorem Single.append {ss ts : List Step} (hs : Single ss) (ht : Single ts) : Single (ss ++ ts) :=
  List.forall_mem_append.2 ⟨hs, ht⟩

/-- To add lists is to add single operations. -/
theorem exists_single (ss : List Step) (w : Writer) : ∃ ts, Single ts ∧ after ts w = after ss w := by
  induction ss generalizing w with
  | nil => exact ⟨[], by simp [Single], rfl⟩
  | cons s ss ih =>
    obtain ⟨ts, hts, hafter⟩ := ih (w.next s)
    by_cases hs : ∃ ops, s = .addAll ops
    · obtain ⟨ops, rfl⟩ := hs
      have hadds : Single ((acceptedAll ops w).map .add) := by simp [Single]
      refine ⟨_, hadds.append hts, ?_⟩
      rw [after_append, ← (addAll_eq_adds ops w).2.1, hafter, after_cons]
    · push Not at hs
      exact ⟨s :: ts, List.forall_mem_cons.2 ⟨hs, hts⟩, by rw [after_cons, after_cons, hafter]⟩

theorem exists_single_of_keeps {α : Type} {e : Effect Writer α} (h : Keeps Reaches e) (w : Writer) :
    ∃ ts, Single ts ∧ (e.runOn w).2 = after ts w := by
  obtain ⟨ss, hss⟩ := h w
  obtain ⟨ts, hts, hafter⟩ := exists_single ss w
  exact ⟨ts, hts, hss.trans hafter.symm⟩

/-- A timer that comes back from its pauses has taken its turns. -/
theorem exists_turns {interval : Quantity} {pauses : List Pause} {w v : Writer}
    (h : (runTimer interval pauses).runOn w = (.ok (), v)) : ∃ ss, Single ss ∧ Turns interval pauses w ss := by
  induction pauses generalizing w with
  | nil => exact ⟨[], by simp [Single], .done⟩
  | cons pause pauses ih =>
    cases hclosed : w.processor.closed with
    | true => exact ⟨[.sleep interval], by simp [Single], .closed hclosed⟩
    | false =>
      have hstate := next_sleep interval w
      have hprocessor := timerSleeps_processor interval w
      rw [runTimer] at h
      rcases hsleep : (timerSleeps interval).runOn w with ⟨f | wait, u⟩
      · rw [runOn_bind_error hsleep] at h
        cases h
      rw [hsleep] at hstate hprocessor
      obtain rfl : w.next (.sleep interval) = u := hstate
      have hawake : (w.next (.sleep interval)).processor.closed = false :=
        (congrArg Processor.closed hprocessor).trans hclosed
      rw [runOn_bind_ok hsleep, runOn_bind_ok (runOn_get _)] at h
      simp only [hawake, Bool.false_eq_true, if_false] at h
      obtain ⟨during, hduring, hpaused⟩ :=
        exists_single_of_keeps (reaches_runPause wait pause) (w.next (.sleep interval))
      rcases hpause : (runPause wait pause).runOn (w.next (.sleep interval)) with ⟨f | _, x⟩
      · rw [runOn_bind_error hpause] at h
        cases h
      rw [hpause] at hpaused
      obtain rfl : x = after during (w.next (.sleep interval)) := hpaused
      have hasleep : Single (.sleep interval :: during) := List.forall_mem_cons.2 ⟨by simp, hduring⟩
      cases hend : (after during (w.next (.sleep interval))).processor.closed with
      | true => exact ⟨_, hasleep, .closing hclosed hsleep hpause hend⟩
      | false =>
        rw [runOn_bind_ok hpause, runOn_bind_ok (runOn_get _)] at h
        simp only [hend, Bool.false_eq_true, if_false] at h
        have hwoken := next_wake interval (after during (w.next (.sleep interval)))
        rcases hwake : (timerWakes interval).runOn (after during (w.next (.sleep interval))) with ⟨f | _, y⟩
        · rw [runOn_bind_error hwake] at h
          cases h
        rw [hwake] at hwoken
        rw [runOn_bind_ok hwake, ← show _ = y from hwoken] at h
        obtain ⟨rest, hrest, hturns⟩ := ih h
        refine ⟨_, ?_, .turn hclosed hsleep hpause hend hturns⟩
        exact hasleep.append (List.forall_mem_cons.2 ⟨by simp, hrest⟩)

/-- The interval of a timer is not below zero, and its time begins when the processor is built. -/
theorem build_interval {threshold flushInterval : Json} {policy : RetryPolicy} {listening : Bool} {now : Quantity}
    {p : Processor} {interval : Quantity} (h : Processor.build threshold flushInterval policy listening now = .ok p)
    (hinterval : p.flushInterval = some interval) : interval.le (.int 0) = false ∧ p.lastFlush = now := by
  obtain ⟨limit, given, -, hpositive, rfl⟩ := build_ok h
  exact ⟨hpositive interval hinterval, rfl⟩

/-- The timer of a processor keeps its time in every run in which the clock does not go back and it counts without an
error, on a system that waits for as long as the interval: it waits no longer than its interval, it flushes exactly if the
interval is over, which is so behind a wait as long as it was meant to be and without another flush, and what waits in the
queue came there since the last flush. It goes on whatever comes of a flush, until the processor is closed. What a timer does,
and what commands do, are such runs. -/
theorem timer_keeps_time {threshold flushInterval : Json} {policy : RetryPolicy} {listening : Bool} {now : Quantity}
    {p : Processor} {interval : Quantity} {c : Cluster}
    (hp : Processor.build threshold flushInterval policy listening now = .ok p)
    (hinterval : p.flushInterval = some interval) (hclock : c.world.clock = now) (hbears : Bears interval c.world) :
    (∀ before behind : List Step, Single (before ++ behind) → Timely interval (before ++ behind) ⟨p, c⟩ →
      OnTime interval behind (stampedIn before ⟨p, c⟩) (after before ⟨p, c⟩) ∧
      ∀ pauses ss, Turns interval pauses (after before ⟨p, c⟩) ss → ss <+: behind →
        ((after (before ++ ss) ⟨p, c⟩).processor.closed = true ∧ ∀ more,
          (runTimer interval (pauses ++ more)).runOn (after before ⟨p, c⟩) = (.ok (), after (before ++ ss) ⟨p, c⟩)) ∨
        ∀ more, (runTimer interval (pauses ++ more)).runOn (after before ⟨p, c⟩) =
          (runTimer interval more).runOn (after (before ++ ss) ⟨p, c⟩)) ∧
    (∀ pauses w v, (runTimer interval pauses).runOn w = (.ok (), v) → ∃ ss, Single ss ∧ Turns interval pauses w ss) ∧
    ∀ (cs : List Command) (w : Writer), ∃ ss, Single ss ∧ ((runAll cs).runOn w).2 = after ss w := by
  obtain ⟨hqueue, -, -⟩ := build_fresh hp
  obtain ⟨hpositive, hbegin⟩ := build_interval hp hinterval
  have hfresh : (Writer.mk p c).flushed = (Writer.mk p c).time := hbegin.trans hclock.symm
  refine ⟨fun before behind hs htimely => ⟨?_, ?_⟩, fun pauses w v => exists_turns, fun cs w => ?_⟩
  · have hfinite : interval.Finite := by
      obtain ⟨_, _, _, hadd, -⟩ := htimely.exact [] List.nil_prefix
      exact hadd.right
    have hnumber : 0 < interval.number := by
      rw [Quantity.le_number hfinite ⟨0, rfl⟩] at hpositive
      simpa [Quantity.number, Quantity.value?] using hpositive
    exact htimely.onTime hs hnumber hbears (by rw [hfresh]) hqueue
  · intro pauses ss hturns hbehind
    rw [after_append]
    exact hturns.lasts (htimely.behind.upTo hbehind)
  · exact exists_single_of_keeps (reaches_runAll cs) w

/-- A processor with some flush interval on a cluster without nodes, on a usual system whose clock reads a thousand. -/
def tickingAt (interval : Quantity) : Writer where
  processor :=
    { threshold := .int 10, flushInterval := some interval, policy := {}, listening := false, lastFlush := .float 1000.0 }
  cluster := { nowhere with world :=
    { nowhere.world with clock := .float 1000.0, longestWait := some World.usualLongestWait } }

/-- With a timer of five seconds. -/
def ticking : Writer := tickingAt (.float 5.0)

/-- An operation is added, and the timer sleeps for six seconds. -/
def overslept : List Step := [.add (deletion "1"), .sleep (.float 5.0), .advance (.float 6.0)]

/-- When the timer wakes up the interval is over. It flushes, and though the batch fails it goes on. -/
theorem ticking_past_failure :
    OnTime (.float 5.0) [.wake (.float 5.0)] (stampedIn overslept ticking) (after overslept ticking) ∧
      Due (.float 5.0) (after overslept ticking) ∧ (flush.runOn (after overslept ticking)).1.toOption = none ∧
      ∀ more, (runTimer (.float 5.0) (.mk (some (.float 6.0)) [] :: more)).runOn (ticking.next (.add (deletion "1"))) =
        (runTimer (.float 5.0) more).runOn (after (overslept ++ [.wake (.float 5.0)]) ticking) := by
  have hbuild : Processor.build (.int 10) (.float 5.0) {} false (.float 1000.0) = .ok ticking.processor := rfl
  have htimely : Timely (.float 5.0) (overslept ++ [.wake (.float 5.0)]) ticking := by decide +kernel
  have hsingle : Single (overslept ++ [.wake (.float 5.0)]) := by simp [Single, overslept]
  have hbears : Bears (.float 5.0) ticking.cluster.world := bears_usual rfl (by decide +kernel)
  obtain ⟨hkeeps, -⟩ := timer_keeps_time (c := ticking.cluster) hbuild rfl rfl hbears
  refine ⟨(hkeeps overslept _ hsingle htimely).1, by decide +kernel, by decide +kernel, ?_⟩
  have hturn : Turns (.float 5.0) [.mk (some (.float 6.0)) []] (after [.add (deletion "1")] ticking)
      (.sleep (.float 5.0) :: ([.advance (.float 6.0)] ++ .wake (.float 5.0) :: [])) :=
    .turn rfl rfl rfl rfl .done
  obtain ⟨-, hlasts⟩ := hkeeps [.add (deletion "1")] _ hsingle htimely
  rcases hlasts _ _ hturn List.prefix_rfl with ⟨hclosed, -⟩ | hgoes
  · cases hclosed
  · exact hgoes

/-- A timer that cannot go to sleep is done at once, and closes nothing. -/
theorem runTimer_of_sleepless {interval : Quantity} {w v : Writer} {f : Failure}
    (h : (timerSleeps interval).runOn w = (.error f, v)) (pauses : List Pause) :
    (runTimer interval pauses).runOn w = (.error f, v) := by
  cases pauses with
  | nil =>
    rw [runTimer, runOn_discard, h]
    rfl
  | cons pause pauses => rw [runTimer, runOn_bind_error h]

/-- Nor can it, if the clock cannot be added up with its interval. -/
theorem timerSleeps_beyond {i : Int} {x : Float} {w : Writer} (hflushed : w.flushed = .float x)
    (hi : Quantity.finiteFloat? i = none) : (timerSleeps (.int i)).runOn w = (.error (.misuse .outOfRange), w) := by
  have hadd : w.flushed.add? (.int i) = none := by
    rw [hflushed]
    exact congrArg (·.bind fun y => some (Quantity.float (x + y))) hi
  have hwait : timerWait w.processor (.int i) w.cluster.world.clock = .error (.misuse .outOfRange) := by
    unfold timerWait Quantity.add
    rw [show w.processor.lastFlush.add? (.int i) = none from hadd]
    rfl
  unfold timerSleeps
  rw [runOn_bind_ok (runOn_get w), runOn_bind_ok (now_runOn w), hwait]
  rfl

/-- Any interval above zero that can be told is accepted. -/
theorem build_tickingAt {i : Int} (hpositive : 0 < i) (htold : (Quantity.int i).isSpellable = true) :
    Processor.build (.int 10) (.int i) {} false (.float 1000.0) = .ok (tickingAt (.int i)).processor := by
  have htold' : (some (Quantity.int i)).mapM Quantity.writable = .ok (some (.int i)) :=
    congrArg (Except.map some) (Quantity.writable_of_spellable htold)
  have hpositive' : ¬(Quantity.int i).le (.int 0) = true := by simpa using hpositive
  unfold Processor.build
  rw [except_bind_of_ok (show Quantity.require (.int 10) = .ok (.int 10) from rfl), if_neg (by decide)]
  dsimp only
  rw [except_bind_of_ok (show Quantity.require (.int i) = .ok (.int i) from rfl), if_neg hpositive',
    pure_bind, except_bind_of_ok (show discard (Quantity.int 10).writable = .ok () from rfl), htold']
  rfl


/-- An interval of three centuries is accepted, but the system does not wait for so long, and one of `10 ^ 400` seconds is
accepted, but the clock does not count so far: the timer is done at its first wait, and the processor is open. -/
theorem timer_ends_at_first_wait :
    (Processor.build (.int 10) (.float 10000000000.0) {} false (.float 1000.0) =
        .ok (tickingAt (.float 10000000000.0)).processor ∧
      Exact (.float 10000000000.0) (tickingAt (.float 10000000000.0)) ∧
      ∀ pauses, (runTimer (.float 10000000000.0) pauses).runOn (tickingAt (.float 10000000000.0)) =
        (.error (.misuse .outOfRange), tickingAt (.float 10000000000.0))) ∧
    Processor.build (.int 10) (.int (10 ^ 400)) {} false (.float 1000.0) = .ok (tickingAt (.int (10 ^ 400))).processor ∧
    ∀ pauses, (runTimer (.int (10 ^ 400)) pauses).runOn (tickingAt (.int (10 ^ 400))) =
      (.error (.misuse .outOfRange), tickingAt (.int (10 ^ 400))) :=
  ⟨⟨rfl, by decide +kernel, runTimer_of_sleepless rfl⟩, build_tickingAt (by decide +kernel) (by decide +kernel),
    runTimer_of_sleepless (timerSleeps_beyond rfl (by decide +kernel))⟩

end DocumentStore.Bulk.Writer
