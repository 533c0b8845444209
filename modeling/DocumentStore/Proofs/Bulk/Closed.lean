import DocumentStore.Proofs.Bulk.Drain
import DocumentStore.Proofs.Bulk.Idle

/-! A processor is closed once and for all. The first close carries out what waits in the queue, as one batch and
whatever comes of it; after that every call is refused or does nothing, the timer stops at its next wait, and neither
the cluster nor a listener hears of the processor again. Where the system cannot wait for the timer for as long as the
close says, the processor is closed too, but the queue and the timer stay as they are. -/

namespace DocumentStore.Bulk.Writer

open Effect

/-- The processor is closed, and nothing is left in it or at work for it. -/
structure Spent (w : Writer) : Prop where
  queue : w.processor.queue = []
  timer : w.processor.timer = false
  closed : w.processor.closed = true

/-- From `v` to `w` time may pass and be taken down, and nothing else happens. -/
structure Lingers (v w : Writer) : Prop where
  processor : ∃ t, w.processor = { v.processor with lastFlush := t }
  idle : Idle v w
  heard : w.heard = v.heard

instance : Std.Refl Lingers := ⟨fun w => ⟨⟨w.processor.lastFlush, rfl⟩, refl w, rfl⟩⟩

instance : IsTrans Writer Lingers where
  trans := by
    rintro u v w ⟨⟨t, ht⟩, hidle, hheard⟩ ⟨⟨t', ht'⟩, hidle', hheard'⟩
    refine ⟨⟨t', ?_⟩, IsTrans.trans _ _ _ hidle hidle', hheard'.trans hheard⟩
    rw [ht', ht]

theorem Lingers.of_quiet {v w : Writer} (hquiet : Quiet v w) (hidle : Idle v w) : Lingers v w :=
  ⟨⟨v.processor.lastFlush, hquiet.processor⟩, hidle, hquiet.heard⟩

theorem Lingers.spent {v w : Writer} (h : Lingers v w) (hv : Spent v) : Spent w := by
  obtain ⟨t, ht⟩ := h.processor
  constructor
  · rw [ht]
    exact hv.queue
  · rw [ht]
    exact hv.timer
  · rw [ht]
    exact hv.closed

/-- A flush empties the queue, and counts a batch if there was something in it. -/
theorem flush_processor (w : Writer) : (flush.runOn w).2.processor = { w.processor with
    lastFlush := w.cluster.world.clock
    queue := []
    batches := w.processor.batches + if w.processor.queue.isEmpty then 0 else 1 } := by
  by_cases hq : w.processor.queue = []
  · rw [flush_of_nil hq]
    simp [hq]
  · rw [flush_of_ne_nil hq, execute_processor, List.isEmpty_eq_false_iff.2 hq]
    rfl

section closed

variable {w : Writer}

theorem start_of_closed (h : w.processor.closed = true) : start.runOn w = (.error (.bulk .closedToStart), w) := by
  unfold start
  rw [runOn_bind_ok (runOn_get w)]
  simp only [h, if_true]
  rw [runOn_bind_error (runOn_throw _ w)]

theorem addAll_of_closed (ops : List Operation) (h : w.processor.closed = true) : w.next (.addAll ops) = w := by
  have hnone : acceptedAll ops w = [] := by
    cases ops with
    | nil => rfl
    | cons op ops =>
      unfold acceptedAll
      cases op.validate with
      | error f => rfl
      | ok op => simp only [h, if_true]
  rw [(addAll_eq_adds ops w).2.1, hnone]
  rfl

/-- Whatever is asked of a processor that is spent, only time passes. -/
theorem next_lingers (h : Spent w) (s : Step) : Lingers w (w.next s) := by
  have hflush : Lingers w (flush.runOn w).2 := by
    rw [flush_of_nil h.queue]
    exact ⟨⟨_, rfl⟩, ⟨rfl, rfl, rfl, rfl, id⟩, rfl⟩
  have hkeeps {α : Type} {e : Effect Writer α} (hquiet : Keeps Quiet e) (hidle : Keeps Idle e) :
      Lingers w ((e >>= fun _ => pure (none : Option Result)).runOn w).2 :=
    .of_quiet (hquiet.bind (fun _ => keeps_pure _) w) (hidle.bind (fun _ => keeps_pure _) w)
  cases s with
  | add op =>
    rw [next_add, add_of_closed op h.closed]
    exact refl w
  | addAll ops =>
    rw [addAll_of_closed ops h.closed]
    exact refl w
  | flush => exact hflush
  | close timeout =>
    have hrun : w.next (.close timeout) = w := congrArg Prod.snd (close_of_closed timeout h.closed)
    rw [hrun]
    exact refl w
  | start =>
    rw [next_start, start_of_closed h.closed]
    exact refl w
  | advance seconds => exact hkeeps (keeps_advance seconds) (keeps_idle_advance seconds)
  | sleep interval => exact hkeeps ((keeps_timerSleeps interval).map _) ((keeps_idle_timerSleeps interval).map _)
  | wake interval =>
    rw [next_wake]
    rcases timerWakes_cases w interval with ⟨-, hw⟩ | ⟨-, r, hw⟩
    · rw [hw]
      exact hflush
    · rw [hw]
      exact refl w
  | note outcome => exact hkeeps (keeps_record (e := .step outcome) rfl) (keeps_idle_record (by simp))

end closed

theorem timerSleeps_processor (interval : Quantity) (w : Writer) :
    ((timerSleeps interval).runOn w).2.processor = w.processor := (keeps_timerSleeps interval w).processor

/-- The timer does not get beyond a wait in which the processor is closed. -/
theorem runTimer_of_closed {w : Writer} (h : w.processor.closed = true) (interval : Quantity) (pauses : List Pause) :
    (runTimer interval pauses).runOn w = (discard (timerSleeps interval)).runOn w := by
  cases pauses with
  | nil => rw [runTimer]
  | cons pause pauses =>
    have hmap := runOn_map (fun _ => ()) (timerSleeps interval) w
    change (discard (timerSleeps interval)).runOn w = _ at hmap
    rw [runTimer, hmap, runOn_bind]
    have hprocessor := timerSleeps_processor interval w
    rcases hsleep : (timerSleeps interval).runOn w with ⟨f | wait, v⟩
    · rfl
    · rw [hsleep] at hprocessor
      have hv : v.processor.closed = true := (congrArg Processor.closed hprocessor).trans h
      simp only
      rw [runOn_bind_ok (runOn_get v)]
      simp only [hv, if_true]
      rfl

theorem runTimer_of_closing {w u : Writer} {interval wait : Quantity} {pause : Pause}
    (hsleep : (timerSleeps interval).runOn w = (.ok wait, u)) (hopen : w.processor.closed = false)
    (hclosed : ((runPause wait pause).runOn u).2.processor.closed = true) (pauses : List Pause) :
    (runTimer interval (pause :: pauses)).runOn w = (runPause wait pause).runOn u := by
  have hprocessor := timerSleeps_processor interval w
  rw [hsleep] at hprocessor
  have hu : u.processor.closed = false := (congrArg Processor.closed hprocessor).trans hopen
  rw [runTimer, runOn_bind_ok hsleep, runOn_bind_ok (runOn_get u)]
  simp only [hu, Bool.false_eq_true, if_false]
  rcases hpause : (runPause wait pause).runOn u with ⟨f | _, v⟩
  · rw [runOn_bind_error hpause]
  · have hv : v.processor.closed = true := by rwa [hpause] at hclosed
    rw [runOn_bind_ok hpause, runOn_bind_ok (runOn_get v)]
    simp only [hv, if_true]
    rfl

/-- The state in which the timer is at work. -/
def timed (w : Writer) : Writer :=
  { w with processor := { w.processor with timer := true } }.logged .timerStarts

theorem start_of_open {w : Writer} (h : w.processor.closed = false) : start.runOn w =
    (.ok (), if w.processor.flushInterval.isSome && !w.processor.timer then w.timed else w) := by
  unfold start modifyProcessor
  rw [runOn_bind_ok (runOn_get w)]
  simp only [h, Bool.false_eq_true, if_false]
  split_ifs
  · rw [runOn_bind_ok (runOn_modify _ w), record_runOn]
    rfl
  · rfl

theorem next_add_closed (op : Operation) (w : Writer) : (w.next (.add op)).processor.closed = w.processor.closed := by
  rw [next_add]
  cases hc : w.processor.closed with
  | true =>
    rw [add_of_closed op hc]
    exact hc
  | false =>
    rw [add_of_open op hc]
    split_ifs
    · rw [flush_processor]
      exact hc
    · exact hc

theorem after_adds_closed (ops : List Operation) (w : Writer) :
    (after (ops.map .add) w).processor.closed = w.processor.closed := by
  induction ops generalizing w with
  | nil => rfl
  | cons op ops ih => rw [List.map_cons, after_cons, ih, next_add_closed]

/-- Only a close closes a processor. -/
theorem next_closed {w : Writer} {s : Step} (hs : ∀ timeout, s ≠ .close timeout) :
    (w.next s).processor.closed = w.processor.closed := by
  have hquiet {α : Type} {e : Effect Writer α} (he : Keeps Quiet e) :
      ((e >>= fun _ => pure (none : Option Result)).runOn w).2.processor.closed = w.processor.closed := by
    rw [(he.bind (fun _ => keeps_pure _) w).processor]
  cases s with
  | add op => exact next_add_closed op w
  | addAll ops => rw [(addAll_eq_adds ops w).2.1, after_adds_closed]
  | flush =>
    unfold next perform
    rw [flush_processor]
  | close timeout => exact absurd rfl (hs timeout)
  | start =>
    rw [next_start]
    cases hc : w.processor.closed with
    | true =>
      rw [start_of_closed hc]
      exact hc
    | false =>
      rw [start_of_open hc]
      split_ifs <;> exact hc
  | advance seconds => exact hquiet (keeps_advance seconds)
  | sleep interval => exact hquiet ((keeps_timerSleeps interval).map _)
  | wake interval =>
    rw [next_wake]
    rcases timerWakes_cases w interval with ⟨-, hw⟩ | ⟨-, r, hw⟩
    · rw [hw, flush_processor]
    · rw [hw]
  | note outcome => exact hquiet (keeps_record (e := .step outcome) rfl)

theorem next_close_of_joined {w : Writer} {timeout : Json} (h : w.processor.closed = false)
    (hjoins : w.joins timeout = .ok ()) : w.next (.close timeout) = (flush.runOn (w.shut timeout)).2 :=
  congrArg Prod.snd (close_of_joined h hjoins)

theorem spent_close {w : Writer} {timeout : Json} (h : w.processor.closed = false)
    (hjoins : w.joins timeout = .ok ()) : Spent (w.next (.close timeout)) := by
  rw [next_close_of_joined h hjoins]
  constructor <;> rw [flush_processor] <;> rfl

end DocumentStore.Bulk.Writer
