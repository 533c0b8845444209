import DocumentStore.Proofs.Bulk.Listening

/-! Nothing is lost on the way from the queue into the batches, and nothing goes twice: along every run the batches
that were started, followed by what waits in the queue, are the operations that were accepted, in their order. -/

namespace DocumentStore

/-- The number and the operations of a batch that starts. -/
def Event.started? : Event → Option (Nat × List Bulk.Operation)
  | .batchStarts number ops => some (number, ops)
  | _ => none

/-- Whoever listens hears of every batch that starts. -/
theorem filterMap_started_heard (es : List Event) :
    (es.filter Event.heard).filterMap Event.started? = es.filterMap Event.started? := by
  rw [List.filterMap_filter]
  congr 1
  funext e
  cases e <;> rfl

namespace Bulk

/-- What a processor is built of: a threshold that is not below one, and an interval above zero or none. It is open then, with
an empty queue and no batch behind it. -/
theorem build_ok {threshold flushInterval : Json} {policy : RetryPolicy} {listening : Bool} {now : Quantity} {p : Processor}
    (h : Processor.build threshold flushInterval policy listening now = .ok p) :
    ∃ (limit : Quantity) (interval : Option Quantity), limit.lt (.int 1) = false ∧
      (∀ q ∈ interval, q.le (.int 0) = false) ∧
      p = { threshold := limit, flushInterval := interval, policy, listening, lastFlush := now } := by
  have htold {limit : Quantity} {interval : Option Quantity} (h : (do
      discard limit.writable
      discard (interval.mapM Quantity.writable)
      discard policy.maxRetries.writable
      return ({ threshold := limit, flushInterval := interval, policy, listening, lastFlush := now } : Processor)) =
        .ok p) : p = { threshold := limit, flushInterval := interval, policy, listening, lastFlush := now } := by
    obtain ⟨-, -, h⟩ := except_bind_eq_ok h
    obtain ⟨-, -, h⟩ := except_bind_eq_ok h
    obtain ⟨-, -, h⟩ := except_bind_eq_ok h
    exact (Except.ok.inj h).symm
  unfold Processor.build at h
  obtain ⟨limit, -, h⟩ := except_bind_eq_ok h
  simp only at h
  split_ifs at h with hlow
  · cases h
  have hlimit : limit.lt (.int 1) = false := by simpa using hlow
  split at h
  · exact ⟨limit, none, hlimit, by simp, htold h⟩
  · obtain ⟨q, -, h⟩ := except_bind_eq_ok h
    split_ifs at h with hpositive
    · cases h
    · refine ⟨limit, some q, hlimit, ?_, htold h⟩
      rintro _ ⟨⟩
      simpa using hpositive

theorem build_fresh {threshold flushInterval : Json} {policy : RetryPolicy} {listening : Bool} {now : Quantity}
    {p : Processor} (h : Processor.build threshold flushInterval policy listening now = .ok p) :
    p.queue = [] ∧ p.batches = 0 ∧ p.closed = false := by
  obtain ⟨limit, interval, -, -, rfl⟩ := build_ok h
  exact ⟨rfl, rfl, rfl⟩

namespace Writer

open Effect

/-- The batches that listeners have heard of, with their numbers, in their order. -/
def drained (w : Writer) : List (Nat × List Operation) := w.cluster.world.log.filterMap Event.started?

theorem drained_eq_heard (w : Writer) : w.drained = w.heard.filterMap Event.started? :=
  (filterMap_started_heard w.cluster.world.log).symm

theorem notices_started (number : Nat) (ops : List Operation) (e : Ending) :
    (e.notices number ops).filterMap Event.started? = [(number, ops)] := by
  cases e <;> rfl

/-- Some batches and the queue of a writer account for all operations that it has accepted. -/
structure Accounts (accepted : List Operation) (batches : List (Nat × List Operation)) (w : Writer) : Prop where
  operations : batches.flatMap Prod.snd ++ w.processor.queue = accepted
  numbers : batches.map Prod.fst = List.range' 1 w.processor.batches
  nonempty : ∀ b ∈ batches, b.2 ≠ []

theorem Accounts.enqueues {accepted ops : List Operation} {batches : List (Nat × List Operation)} {v w : Writer}
    (h : Accounts accepted batches v) (he : Enqueues ops v w) : Accounts (accepted ++ ops) batches w := by
  refine ⟨?_, ?_, h.nonempty⟩
  · rw [he.queue, ← List.append_assoc, h.operations]
  · rw [he.batches, h.numbers]

/-- Whoever listens hears of one batch in a flush, the whole queue, and of none if the queue is empty. -/
theorem flush_drained {w : Writer} (hl : w.processor.listening = true) :
    (flush.runOn w).2.drained =
      w.drained ++ if w.processor.queue = [] then [] else [(w.processor.batches + 1, w.processor.queue)] := by
  by_cases hq : w.processor.queue = []
  · rw [flush_of_nil hq, if_pos hq]
    exact (List.append_nil _).symm
  · have hheard := execute_heard (w.processor.batches + 1) w.processor.queue w.emptied
    have hemptied : w.emptied.heard = w.heard := rfl
    have hlistening : w.emptied.processor.listening = true := hl
    rw [hlistening, if_pos rfl, hemptied] at hheard
    rw [flush_of_ne_nil hq, if_neg hq, drained_eq_heard, drained_eq_heard, hheard, List.filterMap_append,
      notices_started]

/-- A flush turns the queue into the last batch, unless the queue is empty. -/
theorem flush_accounts {accepted : List Operation} {batches : List (Nat × List Operation)} {w : Writer}
    (hl : w.processor.listening = true) (h : Accounts accepted batches w) :
    ∃ new, (flush.runOn w).2.drained = w.drained ++ new ∧ (flush.runOn w).2.processor.listening = true ∧
      Accounts accepted (batches ++ new) (flush.runOn w).2 := by
  have hd := flush_drained hl
  by_cases hq : w.processor.queue = []
  · rw [if_pos hq] at hd
    refine ⟨[], hd, ?_⟩
    rw [flush_of_nil hq, List.append_nil]
    exact ⟨hl, h.operations, h.numbers, h.nonempty⟩
  · rw [if_neg hq] at hd
    refine ⟨_, hd, ?_⟩
    rw [flush_of_ne_nil hq]
    have hp := execute_processor (w.processor.batches + 1) w.processor.queue w.emptied
    refine ⟨by rw [hp]; exact hl, ?_, ?_, ?_⟩
    · rw [hp, ← h.operations]
      simp [emptied]
    · rw [hp, List.map_append, h.numbers]
      simp [emptied, List.range'_concat, Nat.add_comm]
    · intro b hb
      rcases List.mem_append.1 hb with hb | hb
      · exact h.nonempty b hb
      · obtain rfl := List.mem_singleton.1 hb
        exact hq

/-- The invariant of a run that starts where the batches `before` are started: what has been accepted since is in
later batches or in the queue. -/
def Accounted (before : List (Nat × List Operation)) (accepted : List Operation) (w : Writer) : Prop :=
  w.processor.listening = true ∧ ∃ batches, w.drained = before ++ batches ∧ Accounts accepted batches w

theorem next_accounted {before : List (Nat × List Operation)} {acc : List Operation} {w : Writer} {s : Step}
    (hs : ∀ ops, s ≠ .addAll ops) (h : Accounted before acc w) :
    Accounted before (acc ++ w.accepted s) (w.next s) := by
  obtain ⟨hl, batches, hd, ha⟩ := h
  obtain ⟨v, hv, hnext⟩ := perform_cases w hs
  have hvl : v.processor.listening = true := hv.listening.trans hl
  have hvd : v.drained = before ++ batches := by rw [drained_eq_heard, hv.heard, ← drained_eq_heard, hd]
  have hva := ha.enqueues hv
  rcases hnext with ⟨-, r, hr⟩ | ⟨-, hr⟩
  · have : w.next s = v := by rw [next, hr]
    rw [this]
    exact ⟨hvl, batches, hvd, hva⟩
  · have : w.next s = (flush.runOn v).2 := by rw [next, hr]
    rw [this]
    obtain ⟨new, hnd, hnl, hna⟩ := flush_accounts hvl hva
    exact ⟨hnl, batches ++ new, by rw [hnd, hvd, List.append_assoc], hna⟩

/-- Along every run the batches that are started are numbered from one on, none of them is empty, and together with
the queue they hold the accepted operations, each once and in order. A flush of an empty queue is no batch, and
leaves nothing behind but the time of the flush. With no listener at all the queue and the count of batches are those
of the run that a listener attends. The same goes for whatever commands are run. -/
theorem drained_then_queued {threshold flushInterval : Json} {policy : RetryPolicy} {listening : Bool}
    {now : Quantity} {p : Processor} (hp : Processor.build threshold flushInterval policy listening now = .ok p)
    (c : Cluster) :
    (∀ ss : List Step, ∃ batches,
      (after ss (attended ⟨p, c⟩)).drained = drained ⟨p, c⟩ ++ batches ∧
      batches.flatMap Prod.snd ++ (after ss ⟨p, c⟩).processor.queue = acceptedIn ss ⟨p, c⟩ ∧
      batches.map Prod.fst = List.range' 1 (after ss ⟨p, c⟩).processor.batches ∧
      (∀ b ∈ batches, b.2 ≠ []) ∧
      ((after ss ⟨p, c⟩).processor.queue = [] →
        (perform .flush).runOn (after ss ⟨p, c⟩) = (.ok none, { after ss ⟨p, c⟩ with
          processor := { (after ss ⟨p, c⟩).processor with
            lastFlush := (after ss ⟨p, c⟩).cluster.world.clock } }))) ∧
    ∀ cs : List Command, Reaches ⟨p, c⟩ ((runAll cs).runOn ⟨p, c⟩).2 := by
  obtain ⟨hqueue, hbatches, -⟩ := build_fresh hp
  refine ⟨fun ss => ?_, fun cs => reaches_runAll cs ⟨p, c⟩⟩
  set w : Writer := ⟨p, c⟩
  have hstart : Accounted w.drained [] w.attended :=
    ⟨rfl, [], (List.append_nil _).symm, by simp [attended, w, hqueue], by simp [attended, w, hbatches], by simp⟩
  obtain ⟨-, batches, hd, hops, hnums, hne⟩ := after_induction (fun acc w s => next_accounted) ss [] hstart
  refine ⟨batches, hd, ?_, ?_, hne, flush_of_nil⟩
  · rw [← queue_attended, hops, List.nil_append, acceptedIn_attended]
  · rw [hnums, batches_attended]

/-- A cluster without nodes, on which every batch fails. -/
def nowhere : Cluster where
  nodes := []
  connection := {}
  health := {}
  world := { clock := .int 0, network := { respond := fun _ _ => .failure ⟨.connection, "", none⟩ } }

/-- The second of three operations completes a batch that fails, and the third is accepted all the same. -/
theorem drained_then_queued_past_failure :
    ∃ p, Processor.build (.int 2) .null {} false (.int 0) = .ok p ∧
      ∃ batches,
        (after [.add (deletion "1"), .add (deletion "2"), .add (deletion "3")] (attended ⟨p, nowhere⟩)).drained =
          drained ⟨p, nowhere⟩ ++ batches ∧
        batches.flatMap Prod.snd ++
          (after [.add (deletion "1"), .add (deletion "2"), .add (deletion "3")] ⟨p, nowhere⟩).processor.queue =
          [deletion "1", deletion "2", deletion "3"] := by
  have hp : Processor.build (.int 2) .null {} false (.int 0) =
      .ok { threshold := .int 2, flushInterval := none, policy := {}, listening := false, lastFlush := .int 0 } := rfl
  obtain ⟨batches, hd, hops, -⟩ := (drained_then_queued hp nowhere).1
    [.add (deletion "1"), .add (deletion "2"), .add (deletion "3")]
  exact ⟨_, hp, batches, hd, hops.trans rfl⟩

end Writer

end Bulk

end DocumentStore
