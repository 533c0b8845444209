import DocumentStore.Bulk.Run
import DocumentStore.Proofs.Bulk.Ending

/-! Runs of a processor as sequences of steps, in any order: what its users ask for, the two halves of a turn of
its timer, time that passes. Every step puts something into the queue or nothing, and then flushes or does not.
A command is such a run, with all that goes on while the timer sleeps. -/

namespace DocumentStore.Bulk

open Effect

inductive Step where
  | add (op : Operation)
  | addAll (ops : List Operation)
  | flush
  | close (timeout : Json)
  | start
  | advance (seconds : Quantity)
  /-- The timer goes to sleep. -/
  | sleep (interval : Quantity)
  /-- The timer has woken up. -/
  | wake (interval : Quantity)
  /-- Somebody writes down what a command came to. -/
  | note (outcome : Except Failure Reply)

/-- The least that can be asked for. -/
def deletion (id : String) : Operation := ⟨.str "docs", .str id, .delete⟩

namespace Writer

def perform : Step → Effect Writer (Option Result)
  | .add op => do
    add op
    return none
  | .addAll ops => do
    addAll ops
    return none
  | .flush => flush
  | .close timeout => close timeout
  | .start => do
    start
    return none
  | .advance seconds => do
    advance seconds
    return none
  | .sleep interval => do
    discard (timerSleeps interval)
    return none
  | .wake interval => do
    timerWakes interval
    return none
  | .note outcome => do
    record (.step outcome)
    return none

/-- The state after a step, whatever the step comes to. -/
def next (w : Writer) (s : Step) : Writer := ((perform s).runOn w).2

def after (ss : List Step) (w : Writer) : Writer := ss.foldl next w

@[simp] theorem after_nil (w : Writer) : after [] w = w := rfl

@[simp] theorem after_cons (s : Step) (ss : List Step) (w : Writer) : after (s :: ss) w = after ss (w.next s) :=
  rfl

theorem after_append (ss ts : List Step) (w : Writer) : after (ss ++ ts) w = after ts (after ss w) :=
  List.foldl_append

/-- The state in which the whole queue is carried out as a batch. -/
def emptied (w : Writer) : Writer :=
  { w with processor := { w.processor with
      lastFlush := w.cluster.world.clock, queue := [], batches := w.processor.batches + 1 } }

theorem flush_of_nil {w : Writer} (h : w.processor.queue = []) :
    flush.runOn w =
      (.ok none, { w with processor := { w.processor with lastFlush := w.cluster.world.clock } }) := by
  unfold flush modifyProcessor
  rw [runOn_bind_ok (now_runOn w), runOn_bind_ok (runOn_modify _ w), runOn_bind_ok (runOn_get _)]
  simp only [h]
  rfl

theorem flush_of_ne_nil {w : Writer} (h : w.processor.queue ≠ []) :
    flush.runOn w =
      (((execute (w.processor.batches + 1) w.processor.queue).runOn w.emptied).1.map some,
        ((execute (w.processor.batches + 1) w.processor.queue).runOn w.emptied).2) := by
  obtain ⟨op, ops, hq⟩ := List.exists_cons_of_ne_nil h
  unfold flush modifyProcessor
  rw [runOn_bind_ok (now_runOn w), runOn_bind_ok (runOn_modify _ w), runOn_bind_ok (runOn_get _)]
  simp only [hq]
  rw [runOn_bind_ok (runOn_modify _ _), runOn_bind_ok (runOn_get _), ← hq]
  exact runOn_map some _ _

/-- The state with one more operation in the queue. -/
def push (w : Writer) (op : Operation) : Writer :=
  { w with processor := { w.processor with queue := w.processor.queue ++ [op] } }

theorem add_of_closed {w : Writer} (op : Operation) (h : w.processor.closed = true) :
    (add op).runOn w = (.error (.bulk (.closedToAdd op.index op.id)), w) := by
  unfold add
  rw [runOn_bind_ok (runOn_get w)]
  simp only [h, if_true]
  rw [runOn_bind_error (runOn_throw _ w)]

theorem add_of_open {w : Writer} (op : Operation) (h : w.processor.closed = false) :
    (add op).runOn w =
      if w.processor.threshold.le (.int (w.processor.queue.length + 1)) then
        ((flush.runOn (w.push op)).1.map fun _ => (), (flush.runOn (w.push op)).2)
      else (.ok (), w.push op) := by
  unfold add modifyProcessor
  rw [runOn_bind_ok (runOn_get w)]
  simp only [h, Bool.false_eq_true, if_false]
  rw [runOn_bind_ok (runOn_modify _ w), runOn_bind_ok (runOn_get _)]
  simp only [List.length_append, List.length_singleton, Nat.cast_add, Nat.cast_one]
  split_ifs
  · exact runOn_map _ _ _
  · rfl

/-- The state with the flag that nothing more is to be added, and the timer stopped. -/
def shut (w : Writer) (timeout : Json) : Writer :=
  let log := if w.processor.timer then w.cluster.world.log ++ [.timerJoined timeout] else w.cluster.world.log
  { processor := { w.processor with closed := true, timer := false }
    cluster := { w.cluster with world := { w.cluster.world with log } } }

/-- The state with that flag alone. -/
def barred (w : Writer) : Writer := { w with processor := { w.processor with closed := true } }

/-- The end of the timer, if there is one, can be waited for. -/
def joins (w : Writer) (timeout : Json) : Except Failure Unit :=
  if w.processor.timer then w.cluster.world.awaitEnd timeout else .ok ()

/-- The end of the timer can be waited for for good. -/
theorem joins_null (w : Writer) : w.joins .null = .ok () := by
  unfold joins
  split_ifs <;> rfl

theorem close_of_closed {w : Writer} (timeout : Json) (h : w.processor.closed = true) :
    (close timeout).runOn w = (.ok none, w) := by
  unfold close
  rw [runOn_bind_ok (runOn_get w)]
  simp only [h, if_true]
  rfl

/-- What an open processor does when it is closed. -/
theorem close_of_open {w : Writer} (timeout : Json) (h : w.processor.closed = false) :
    (close timeout).runOn w = match w.joins timeout with
      | .ok () => flush.runOn (w.shut timeout)
      | .error f => (.error f, w.barred) := by
  unfold close modifyProcessor joins
  rw [runOn_bind_ok (runOn_get w)]
  simp only [h, Bool.false_eq_true, if_false]
  rw [runOn_bind_ok (runOn_modify _ w), runOn_bind_ok (runOn_get _)]
  cases ht : w.processor.timer with
  | false =>
    have : w.shut timeout = { w with processor := { w.processor with closed := true } } := by
      simp only [shut, ht, Bool.false_eq_true, if_false]
    simp only [this, ht, Bool.false_eq_true, if_false]
  | true =>
    simp only [if_true]
    rw [runOn_bind_ok (runOn_get _), runOn_bind, runOn_ofExcept]
    cases w.cluster.world.awaitEnd timeout with
    | error f => simp only [barred, ht]
    | ok _ =>
      have : w.shut timeout = { w with
          processor := { w.processor with closed := true, timer := false }
          cluster := { w.cluster with world := w.cluster.world.record (.timerJoined timeout) } } := by
        simp only [shut, ht, if_true, World.record]
      simp only [this]
      rw [runOn_bind_ok (record_runOn _ _), runOn_bind_ok (runOn_modify _ _)]

theorem close_of_joined {w : Writer} {timeout : Json} (h : w.processor.closed = false)
    (hjoins : w.joins timeout = .ok ()) : (close timeout).runOn w = flush.runOn (w.shut timeout) := by
  rw [close_of_open timeout h, hjoins]

theorem close_of_refused {w : Writer} {timeout : Json} (h : w.processor.closed = false) {f : Failure}
    (hjoins : w.joins timeout = .error f) : (close timeout).runOn w = (.error f, w.barred) := by
  rw [close_of_open timeout h, hjoins]

/-- The operations of a list that get into the queue when they are added one after the other, until one is refused
or the batch that it completes fails. -/
def acceptedAll : List Operation → Writer → List Operation
  | [], _ => []
  | op :: ops, w =>
    match op.validate with
    | .error _ => []
    | .ok op =>
      if w.processor.closed then []
      else
        match (add op).runOn w with
        | (.ok _, v) => op :: acceptedAll ops v
        | (.error _, _) => [op]

/-- The operations that a step puts into the queue: those that it passes to a processor that is open. -/
def accepted (w : Writer) : Step → List Operation
  | .add op => if w.processor.closed then [] else [op]
  | .addAll ops => acceptedAll ops w
  | _ => []

/-- The operations that a run puts into the queue, in their order. -/
def acceptedIn : List Step → Writer → List Operation
  | [], _ => []
  | s :: ss, w => w.accepted s ++ acceptedIn ss (w.next s)

/-- From `v` to `w` some operations were put into the queue, and nobody was told anything. -/
structure Enqueues (ops : List Operation) (v w : Writer) : Prop where
  queue : w.processor.queue = v.processor.queue ++ ops
  batches : w.processor.batches = v.processor.batches
  listening : w.processor.listening = v.processor.listening
  heard : w.heard = v.heard

theorem Enqueues.of_quiet {v w : Writer} (h : Quiet v w) : Enqueues [] v w := by
  refine ⟨?_, ?_, ?_, h.heard⟩ <;> simp [h.processor]

theorem Enqueues.of_keeps {α : Type} {e : Effect Writer α} (h : Keeps Quiet e) (w : Writer) :
    Enqueues [] w (e.runOn w).2 := .of_quiet (h w)

theorem enqueues_push (w : Writer) (op : Operation) : Enqueues [op] w (w.push op) := ⟨rfl, rfl, rfl, rfl⟩

theorem enqueues_shut (w : Writer) (timeout : Json) : Enqueues [] w (w.shut timeout) := by
  refine ⟨by simp [shut], rfl, rfl, ?_⟩
  unfold shut heard
  cases w.processor.timer <;> simp [Event.heard]

theorem enqueues_barred (w : Writer) : Enqueues [] w w.barred := ⟨(List.append_nil _).symm, rfl, rfl, rfl⟩

/-- What whoever has asked for a step gets of the flush in it. The timer goes on whatever comes of a flush. -/
def answer : Step → Except Failure (Option Result) → Except Failure (Option Result)
  | .flush, r | .close _, r => r
  | .wake _, _ => .ok none
  | _, r => r.map fun _ => none

theorem perform_add (w : Writer) (op : Operation) :
    (perform (.add op)).runOn w = (((add op).runOn w).1.map fun _ => none, ((add op).runOn w).2) :=
  runOn_bind_pure ..

theorem keeps_advance (seconds : Quantity) : Keeps Quiet (advance seconds) := by
  intro w
  unfold advance World.advance
  rw [runOn_bind_ok (runOn_get w)]
  rcases w.cluster.world.clock.add seconds with f | q
  · exact refl w
  · exact quiet_of_log rfl [] (List.append_nil _).symm (by simp)

/-- The timer goes to sleep or cannot, and leaves no relation that the note of its sleep does not leave. -/
theorem keeps_timerSleeps_of {R : Writer → Writer → Prop} [Std.Refl R] [IsTrans Writer R]
    (hwaits : ∀ wait, Keeps R (record (.waits wait))) (interval : Quantity) : Keeps R (timerSleeps interval) := by
  have hnoted (wait : Quantity) : Keeps R (do
      record (.waits wait)
      return wait) := (hwaits wait).bind fun _ => keeps_pure _
  refine keeps_get.bind fun _ => (keeps_get.bind fun _ => keeps_pure _).bind fun _ => (keeps_ofExcept _).bind fun wait =>
    keeps_get.bind fun w => ?_
  dsimp only
  split_ifs
  · exact keeps_get.bind fun _ => (keeps_ofExcept _).bind fun _ => hnoted wait
  · exact hnoted wait

theorem keeps_timerSleeps (interval : Quantity) : Keeps Quiet (timerSleeps interval) :=
  keeps_timerSleeps_of (fun _ => keeps_record rfl) interval

instance : Std.Refl (Enqueues []) := ⟨fun _ => .of_quiet (refl _)⟩

instance : IsTrans Writer (Enqueues []) where
  trans _ _ _ h₁ h₂ := ⟨by rw [h₂.queue, h₁.queue, List.append_assoc, List.append_nil],
    h₂.batches.trans h₁.batches, h₂.listening.trans h₁.listening, h₂.heard.trans h₁.heard⟩

theorem keeps_start : Keeps (Enqueues []) start := by
  have hstarted : Keeps (Enqueues []) (do
      modifyProcessor fun p => { p with timer := true }
      record .timerStarts) :=
    Keeps.bind (fun _ => ⟨(List.append_nil _).symm, rfl, rfl, rfl⟩) fun _ w => .of_keeps (keeps_record rfl) w
  refine keeps_get.bind fun w => ?_
  simp only
  split_ifs
  · exact (keeps_throw _).bind fun _ => hstarted
  · exact (keeps_throw _).bind fun _ => keeps_pure _
  · exact hstarted
  · exact keeps_pure _

/-- The state in which a step flushes the queue, if it does. -/
def flushing (w : Writer) : Step → Option Writer
  | .add op =>
    if w.processor.closed then none
    else if w.processor.threshold.le (.int (w.processor.queue.length + 1)) then some (w.push op) else none
  | .flush => some w
  | .close timeout =>
    if w.processor.closed then none
    else
      match w.joins timeout with
      | .ok () => some (w.shut timeout)
      | .error _ => none
  | .wake interval =>
    match w.cluster.world.clock.sub w.processor.lastFlush with
    | .ok elapsed => if interval.le elapsed then some w else none
    | .error _ => none
  | _ => none

/-- A processor that does not flush when it is closed is closed already, or cannot wait for its timer. -/
theorem next_close_of_still {w : Writer} {timeout : Json} (h : w.flushing (.close timeout) = none) :
    w.next (.close timeout) = w ∨ w.next (.close timeout) = w.barred := by
  cases hc : w.processor.closed with
  | true => exact .inl (congrArg Prod.snd (close_of_closed timeout hc))
  | false =>
    cases hjoins : w.joins timeout with
    | ok _ => simp [flushing, hc, hjoins] at h
    | error f => exact .inr (congrArg Prod.snd (close_of_refused hc hjoins))

theorem timerWakes_cases (w : Writer) (interval : Quantity) :
    (w.flushing (.wake interval) = some w ∧ (timerWakes interval).runOn w = (.ok (), (flush.runOn w).2)) ∨
      (w.flushing (.wake interval) = none ∧ ∃ r, (timerWakes interval).runOn w = (r, w)) := by
  unfold timerWakes flushing
  rw [runOn_bind_ok (now_runOn w), runOn_bind_ok (runOn_get w), runOn_bind, runOn_ofExcept]
  rcases w.cluster.world.clock.sub w.processor.lastFlush with f | elapsed
  · exact .inr ⟨rfl, _, rfl⟩
  · simp only
    split_ifs
    · exact .inl ⟨rfl, rfl⟩
    · exact .inr ⟨rfl, _, rfl⟩

/-- All that a step can do: it puts what it is given into the queue, unless the processor is closed, and may then
flush. -/
theorem perform_cases (w : Writer) {s : Step} (hs : ∀ ops, s ≠ .addAll ops) :
    ∃ v, Enqueues (w.accepted s) w v ∧
      ((w.flushing s = none ∧ ∃ r, (perform s).runOn w = (r, v)) ∨
        (w.flushing s = some v ∧ (perform s).runOn w = (answer s (flush.runOn v).1, (flush.runOn v).2))) := by
  cases s with
  | add op =>
    rw [perform_add]
    cases hc : w.processor.closed with
    | true =>
      rw [add_of_closed op hc]
      exact ⟨w, by simpa [accepted, hc] using Enqueues.of_quiet (refl w), .inl ⟨by simp [flushing, hc], _, rfl⟩⟩
    | false =>
      rw [add_of_open op hc]
      refine ⟨w.push op, by simpa [accepted, hc] using enqueues_push w op, ?_⟩
      split_ifs with hfull
      · right
        refine ⟨by simp [flushing, hc, hfull], ?_⟩
        rcases (flush.runOn (w.push op)).1 <;> rfl
      · exact .inl ⟨by simp [flushing, hc, hfull], _, rfl⟩
  | addAll ops => exact absurd rfl (hs ops)
  | flush => exact ⟨w, .of_quiet (refl w), .inr ⟨rfl, rfl⟩⟩
  | close timeout =>
    unfold perform
    cases hc : w.processor.closed with
    | true =>
      rw [close_of_closed timeout hc]
      exact ⟨w, .of_quiet (refl w), .inl ⟨by simp [flushing, hc], _, rfl⟩⟩
    | false =>
      cases hjoins : w.joins timeout with
      | ok _ =>
        rw [close_of_joined hc hjoins]
        exact ⟨w.shut timeout, enqueues_shut w timeout, .inr ⟨by simp [flushing, hc, hjoins], rfl⟩⟩
      | error f =>
        rw [close_of_refused hc hjoins]
        exact ⟨w.barred, enqueues_barred w, .inl ⟨by simp [flushing, hc, hjoins], _, rfl⟩⟩
  | start => exact ⟨_, keeps_start w, .inl ⟨rfl, _, runOn_bind_pure start _ w⟩⟩
  | advance seconds =>
    exact ⟨_, .of_keeps (keeps_advance seconds) w, .inl ⟨rfl, _, runOn_bind_pure (advance seconds) _ w⟩⟩
  | sleep interval =>
    exact ⟨_, .of_keeps ((keeps_timerSleeps interval).map _) w, .inl ⟨rfl, _, runOn_bind_pure (discard _) _ w⟩⟩
  | wake interval =>
    refine ⟨w, .of_quiet (refl w), ?_⟩
    have h : (perform (.wake interval)).runOn w =
        (((timerWakes interval).runOn w).1.map fun _ => none, ((timerWakes interval).runOn w).2) :=
      runOn_bind_pure ..
    rw [h]
    rcases timerWakes_cases w interval with ⟨hf, hw⟩ | ⟨hf, r, hw⟩
    · rw [hw]
      exact .inr ⟨hf, rfl⟩
    · rw [hw]
      exact .inl ⟨hf, _, rfl⟩
  | note outcome =>
    exact ⟨_, .of_keeps (keeps_record (e := .step outcome) rfl) w, .inl ⟨rfl, _, rfl⟩⟩

theorem validate_eq_ok {op op' : Operation} (h : op.validate = .ok op') : op' = op := by
  unfold Operation.validate at h
  split at h
  · exact (Except.ok.inj h).symm
  · split_ifs at h
    exact (Except.ok.inj h).symm

theorem next_addAll (ops : List Operation) (w : Writer) : w.next (.addAll ops) = ((addAll ops).runOn w).2 :=
  congrArg Prod.snd (runOn_bind_pure (addAll ops) _ w)

theorem next_add (op : Operation) (w : Writer) : w.next (.add op) = ((add op).runOn w).2 :=
  congrArg Prod.snd (perform_add w op)

theorem next_start (w : Writer) : w.next .start = (start.runOn w).2 :=
  congrArg Prod.snd (runOn_bind_pure start _ w)

theorem next_wake (interval : Quantity) (w : Writer) : w.next (.wake interval) = ((timerWakes interval).runOn w).2 :=
  congrArg Prod.snd (runOn_bind_pure (timerWakes interval) _ w)

theorem next_sleep (interval : Quantity) (w : Writer) :
    w.next (.sleep interval) = ((timerSleeps interval).runOn w).2 := by
  have hperform := congrArg Prod.snd
    (runOn_bind_pure (discard (timerSleeps interval)) (fun _ => (none : Option Result)) w)
  have hdiscard := congrArg Prod.snd (runOn_map (fun _ => ()) (timerSleeps interval) w)
  exact hperform.trans hdiscard

/-- To add a list is to add its operations one by one, up to the first that is refused or fails. -/
theorem addAll_eq_adds (ops : List Operation) (w : Writer) :
    acceptedAll ops w <+: ops ∧ w.next (.addAll ops) = after ((acceptedAll ops w).map .add) w ∧
      acceptedIn ((acceptedAll ops w).map .add) w = acceptedAll ops w := by
  rw [next_addAll]
  induction ops generalizing w with
  | nil => exact ⟨List.prefix_rfl, rfl, rfl⟩
  | cons op ops ih =>
    cases hv : op.validate with
    | error f =>
      have hacc : acceptedAll (op :: ops) w = [] := by simp [acceptedAll, hv]
      rw [hacc]
      exact ⟨List.nil_prefix, by simp [addAll, hv, runOn_bind], rfl⟩
    | ok op' =>
      obtain rfl := validate_eq_ok hv
      cases hc : w.processor.closed with
      | true =>
        have hacc : acceptedAll (op' :: ops) w = [] := by simp [acceptedAll, hv, hc]
        rw [hacc]
        exact ⟨List.nil_prefix, by simp [addAll, hv, runOn_bind, add_of_closed op' hc], rfl⟩
      | false =>
        rcases ha : (add op').runOn w with ⟨f | u, v⟩
        · have hacc : acceptedAll (op' :: ops) w = [op'] := by simp [acceptedAll, hv, hc, ha]
          rw [hacc]
          refine ⟨by simp, ?_, by simp [acceptedIn, accepted, hc]⟩
          simp [addAll, hv, runOn_bind, ha, next_add]
        · obtain ⟨hpre, hafter, hin⟩ := ih v
          have hnext : w.next (.add op') = v := by rw [next_add, ha]
          have hacc : acceptedAll (op' :: ops) w = op' :: acceptedAll ops v := by simp [acceptedAll, hv, hc, ha]
          rw [hacc]
          refine ⟨by simpa using hpre, ?_, ?_⟩
          · simp [addAll, hv, runOn_bind, ha, hnext, hafter]
          · simp [acceptedIn, accepted, hc, hnext, hin]

/-- What every single step preserves, a run preserves, with the operations that it accepts. -/
theorem after_induction {I : List Operation → Writer → Prop}
    (hstep : ∀ acc w s, (∀ ops, s ≠ .addAll ops) → I acc w → I (acc ++ w.accepted s) (w.next s))
    (ss : List Step) (acc : List Operation) {w : Writer} (h : I acc w) : I (acc ++ acceptedIn ss w) (after ss w) := by
  have hadds : ∀ (ops : List Operation) {acc w}, I acc w →
      I (acc ++ acceptedIn (ops.map .add) w) (after (ops.map .add) w) := by
    intro ops
    induction ops with
    | nil => intro acc w h; simpa [acceptedIn] using h
    | cons op ops ih =>
      intro acc w h
      have := ih (hstep acc w (.add op) (by simp) h)
      rwa [List.append_assoc] at this
  induction ss generalizing acc w with
  | nil => simpa [acceptedIn] using h
  | cons s ss ih =>
    rw [acceptedIn, ← List.append_assoc, after_cons]
    apply ih
    by_cases hs : ∃ ops, s = .addAll ops
    · obtain ⟨ops, rfl⟩ := hs
      obtain ⟨-, hafter, hacc⟩ := addAll_eq_adds ops w
      have hrun := hadds (acceptedAll ops w) h
      rw [hacc] at hrun
      rw [hafter]
      exact hrun
    · exact hstep acc w s (fun ops he => hs ⟨ops, he⟩) h

/-- What a processor is set up with is the same. -/
structure SameSetup (v w : Writer) : Prop where
  threshold : w.processor.threshold = v.processor.threshold
  flushInterval : w.processor.flushInterval = v.processor.flushInterval
  policy : w.processor.policy = v.processor.policy
  listening : w.processor.listening = v.processor.listening

instance : Std.Refl SameSetup := ⟨fun _ => ⟨rfl, rfl, rfl, rfl⟩⟩

instance : IsTrans Writer SameSetup where
  trans _ _ _ h₁ h₂ := ⟨h₂.threshold.trans h₁.threshold, h₂.flushInterval.trans h₁.flushInterval,
    h₂.policy.trans h₁.policy, h₂.listening.trans h₁.listening⟩

theorem SameSetup.of_processor {v w : Writer} (h : w.processor = v.processor) : SameSetup v w := by
  constructor <;> rw [h]

section parts

variable {R : Writer → Writer → Prop} [Std.Refl R] [IsTrans Writer R]
  (hprocessor : ∀ f, (∀ w, SameSetup w { w with processor := f w.processor }) → Keeps R (modifyProcessor f))
  (hadvance : ∀ seconds, Keeps R (advance seconds)) (hrecord : ∀ e, Keeps R (record e))
  (hpost : ∀ body, Keeps R (post body)) (hpause : ∀ seconds, Keeps R (pause seconds))

include hrecord hpost hpause in
theorem keeps_execute (number : Nat) (ops : List Operation) : Keeps R (execute number ops) := by
  have hnotify (e : Event) : Keeps R (notify e) := by
    refine keeps_get.bind fun w => ?_
    split_ifs
    · exact hrecord e
    · exact keeps_pure _
  have hnow : Keeps R now := keeps_get.bind fun _ => keeps_pure _
  refine (hnotify _).bind fun _ => hnow.bind fun start => keeps_get.bind fun w => ?_
  refine (keeps_submit (fun _ _ _ => hrecord _) hpost hpause number _ 0 ops _).outcome.bind fun r => ?_
  cases r with
  | ok result =>
    exact hnow.bind fun _ => (keeps_ofExcept _).bind fun _ => (hnotify _).bind fun _ => keeps_pure _
  | error f =>
    dsimp only
    split
    · exact (hnotify _).bind fun _ => keeps_throw _
    · exact keeps_throw _

include hprocessor hrecord hpost hpause in
theorem keeps_flush : Keeps R flush := by
  have hnow : Keeps R now := keeps_get.bind fun _ => keeps_pure _
  refine hnow.bind fun _ => (hprocessor _ fun _ => ⟨rfl, rfl, rfl, rfl⟩).bind fun _ => keeps_get.bind fun w => ?_
  split
  · exact keeps_pure _
  · exact (hprocessor _ fun _ => ⟨rfl, rfl, rfl, rfl⟩).bind fun _ => keeps_get.bind fun _ =>
      (keeps_execute hrecord hpost hpause _ _).bind fun _ => keeps_pure _

include hprocessor hrecord hpost hpause in
theorem keeps_add (op : Operation) : Keeps R (add op) := by
  have hflush := keeps_flush hprocessor hrecord hpost hpause
  have hput : Keeps R (do
      modifyProcessor fun p => { p with queue := p.queue ++ [op] }
      let p := (← get).processor
      if p.threshold.le (.int p.queue.length) then discard flush) := by
    refine (hprocessor _ fun _ => ⟨rfl, rfl, rfl, rfl⟩).bind fun _ => keeps_get.bind fun w => ?_
    dsimp only
    split_ifs
    · exact hflush.map _
    · exact keeps_pure _
  refine keeps_get.bind fun w => ?_
  dsimp only
  split_ifs
  · exact (keeps_throw _).bind fun _ => hput
  · exact hput

include hprocessor hadvance hrecord hpost hpause in
/-- A step leaves no relation that its parts do not leave. -/
theorem keeps_perform (s : Step) : Keeps R (perform s) := by
  have hflush := keeps_flush hprocessor hrecord hpost hpause
  have hadd := keeps_add hprocessor hrecord hpost hpause
  have haddAll (ops : List Operation) : Keeps R (addAll ops) := by
    induction ops with
    | nil => exact keeps_pure _
    | cons op ops ih => exact (keeps_ofExcept _).bind fun op => (hadd op).bind fun _ => ih
  have hstarts : Keeps R (do
      modifyProcessor fun p => { p with timer := true }
      record .timerStarts) := (hprocessor _ fun _ => ⟨rfl, rfl, rfl, rfl⟩).bind fun _ => hrecord _
  cases s with
  | add op => exact (hadd op).bind fun _ => keeps_pure _
  | addAll ops => exact (haddAll ops).bind fun _ => keeps_pure _
  | flush => exact hflush
  | close timeout =>
    refine keeps_get.bind fun w => ?_
    split_ifs
    · exact keeps_pure _
    refine (hprocessor _ fun _ => ⟨rfl, rfl, rfl, rfl⟩).bind fun _ => keeps_get.bind fun v => ?_
    dsimp only
    split_ifs
    · exact keeps_get.bind fun _ => (keeps_ofExcept _).bind fun _ => (hrecord _).bind fun _ =>
        (hprocessor _ fun _ => ⟨rfl, rfl, rfl, rfl⟩).bind fun _ => hflush
    · exact hflush
  | start =>
    refine Keeps.bind (keeps_get.bind fun w => ?_) fun _ => keeps_pure _
    dsimp only
    split_ifs
    · exact (keeps_throw _).bind fun _ => hstarts
    · exact (keeps_throw _).bind fun _ => keeps_pure _
    · exact hstarts
    · exact keeps_pure _
  | advance seconds => exact (hadvance seconds).bind fun _ => keeps_pure _
  | sleep interval =>
    exact ((keeps_timerSleeps_of (fun wait => hrecord (.waits wait)) interval).map _).bind fun _ => keeps_pure _
  | wake interval =>
    refine Keeps.bind (Keeps.bind (keeps_get.bind fun _ => keeps_pure _) fun _ => keeps_get.bind fun w =>
      (keeps_ofExcept _).bind fun elapsed => ?_) fun _ => keeps_pure _
    split_ifs
    · exact hflush.outcome.map _
    · exact keeps_pure _
  | note outcome => exact (hrecord _).bind fun _ => keeps_pure _

include hprocessor hadvance hrecord hpost hpause in
theorem keeps_after (ss : List Step) (w : Writer) : R w (after ss w) := by
  induction ss generalizing w with
  | nil => exact refl w
  | cons s ss ih =>
    exact IsTrans.trans _ _ _ (keeps_perform hprocessor hadvance hrecord hpost hpause s w) (ih _)

end parts

theorem next_setup (w : Writer) (s : Step) : SameSetup w (w.next s) := by
  have hquiet {α : Type} {e : Effect Writer α} (h : Keeps Quiet e) : Keeps SameSetup e :=
    fun w => .of_processor (h w).processor
  exact keeps_perform (fun _ h => h) (fun seconds => hquiet (keeps_advance seconds)) (fun _ _ => .of_processor rfl)
    (fun body => hquiet (keeps_post body)) (fun seconds => hquiet (keeps_pause seconds)) s w

/-- From `v` some run leads to `w`. -/
def Reaches (v w : Writer) : Prop := ∃ ss, w = after ss v

instance : Std.Refl Reaches := ⟨fun _ => ⟨[], rfl⟩⟩

instance : IsTrans Writer Reaches where
  trans := by
    rintro u _ _ ⟨ss, rfl⟩ ⟨ts, rfl⟩
    exact ⟨ss ++ ts, (after_append ss ts u).symm⟩

theorem keeps_reaches {α : Type} {e : Effect Writer α} (s : Step) (h : ∀ w, (e.runOn w).2 = w.next s) :
    Keeps Reaches e := fun w => ⟨[s], h w⟩

theorem reaches_add (op : Operation) : Keeps Reaches (add op) :=
  keeps_reaches (.add op) fun w => (next_add op w).symm

theorem reaches_addAll (ops : List Operation) : Keeps Reaches (addAll ops) :=
  keeps_reaches (.addAll ops) fun w => (next_addAll ops w).symm

theorem reaches_flush : Keeps Reaches flush := keeps_reaches .flush fun _ => rfl

theorem reaches_close (timeout : Json) : Keeps Reaches (close timeout) :=
  keeps_reaches (.close timeout) fun _ => rfl

theorem reaches_start : Keeps Reaches start := keeps_reaches .start fun w => (next_start w).symm

theorem reaches_advance (seconds : Quantity) : Keeps Reaches (advance seconds) :=
  keeps_reaches (.advance seconds) fun w => (congrArg Prod.snd (runOn_bind_pure (advance seconds) _ w)).symm

theorem reaches_timerSleeps (interval : Quantity) : Keeps Reaches (timerSleeps interval) :=
  keeps_reaches (.sleep interval) fun w => (next_sleep interval w).symm

theorem reaches_timerWakes (interval : Quantity) : Keeps Reaches (timerWakes interval) :=
  keeps_reaches (.wake interval) fun w => (next_wake interval w).symm

theorem reaches_note (outcome : Except Failure Reply) : Keeps Reaches (record (.step outcome)) :=
  keeps_reaches (.note outcome) fun _ => rfl

mutual

/-- What a command does, with all that goes on while the timer sleeps, is a run. -/
theorem reaches_run : ∀ c : Command, Keeps Reaches (run c)
  | .add op => (keeps_ofExcept _).bind fun op => (reaches_add op).bind fun _ => keeps_pure _
  | .addAll ops => (reaches_addAll ops).bind fun _ => keeps_pure _
  | .flush => reaches_flush.bind fun _ => keeps_pure _
  | .close timeout => (reaches_close timeout).bind fun _ => keeps_pure _
  | .start => reaches_start.bind fun _ => keeps_pure _
  | .within ops =>
    reaches_start.bind fun _ =>
      Keeps.bind ((reaches_addAll ops).outcome.bind fun _ =>
        Keeps.bind ((reaches_close .null).map _) fun _ => keeps_ofExcept _) fun _ => keeps_pure _
  | .advance seconds => (keeps_ofExcept _).bind fun _ => (reaches_advance _).bind fun _ => keeps_pure _
  | .timer pauses => by
    rw [run]
    refine keeps_get.bind fun w => ?_
    simp only
    split
    · exact (reaches_runTimer _ pauses).bind fun _ => keeps_pure _
    · exact keeps_pure _
  | .refused f => keeps_throw f

theorem reaches_runTimer (interval : Quantity) : ∀ pauses : List Pause, Keeps Reaches (runTimer interval pauses)
  | [] => by
    rw [runTimer]
    exact (reaches_timerSleeps interval).map _
  | pause :: pauses => by
    rw [runTimer]
    refine (reaches_timerSleeps interval).bind fun wait => keeps_get.bind fun w => ?_
    split_ifs
    · exact keeps_pure _
    refine (reaches_runPause wait pause).bind fun _ => keeps_get.bind fun v => ?_
    split_ifs
    · exact keeps_pure _
    · exact (reaches_timerWakes interval).bind fun _ => reaches_runTimer interval pauses

theorem reaches_runPause (wait : Quantity) : ∀ pause : Pause, Keeps Reaches (runPause wait pause)
  | .mk seconds commands => by
    rw [runPause]
    exact (keeps_ofExcept _).bind fun _ => (reaches_advance _).bind fun _ => reaches_runAll commands

theorem reaches_runAll : ∀ cs : List Command, Keeps Reaches (runAll cs)
  | [] => by
    rw [runAll]
    exact keeps_pure _
  | c :: cs => by
    rw [runAll]
    exact (reaches_run c).outcome.bind fun _ => (reaches_note _).bind fun _ => reaches_runAll cs

end

end Writer

end DocumentStore.Bulk
