import DocumentStore.Proofs.Bulk.Step

/-! A listener only listens. With or without one a processor does the same, step for step: what the listener is told
stands in the log, and nothing that is sent, queued or counted depends on it. -/

namespace DocumentStore

/-- The world without what listeners have been told. -/
def World.deaf (w : World) : World := { w with log := w.log.filter (!·.heard) }

theorem requests_deaf (w : World) : w.deaf.requests = w.requests := by
  unfold World.requests World.deaf
  simp only [List.filterMap_filter]
  congr 1
  funext e
  cases e <;> rfl

theorem record_deaf {e : Event} (he : e.heard = false) (w : World) : (w.record e).deaf = w.deaf.record e := by
  simp [World.deaf, World.record, he]

theorem record_heard_deaf {e : Event} (he : e.heard = true) (w : World) : (w.record e).deaf = w.deaf := by
  simp [World.deaf, World.record, he]

theorem send_deaf (w : World) (r : Cluster.Request) : w.deaf.send r = ((w.send r).1, (w.send r).2.deaf) := by
  unfold World.send
  rw [requests_deaf]
  simp [World.deaf, World.record, Event.heard]

theorem advance_deaf (w : World) (seconds : Quantity) :
    w.deaf.advance seconds = (w.advance seconds).map World.deaf := by
  unfold World.advance
  change (w.clock.add seconds >>= _) = (w.clock.add seconds >>= _).map _
  rcases w.clock.add seconds with f | q <;> rfl

theorem pause_deaf (w : World) (seconds : Quantity) :
    w.deaf.pause seconds = ((w.pause seconds).1, (w.pause seconds).2.deaf) := by
  have hlongest : w.deaf.longestWait = w.longestWait := rfl
  unfold World.pause
  rw [hlongest]
  cases World.refusal? w.longestWait seconds with
  | some m => rfl
  | none =>
    simp only
    split_ifs
    · rfl
    · rw [← record_deaf rfl, advance_deaf]
      rcases (w.record (.sleep seconds)).advance seconds with f | v <;> rfl

namespace Cluster

/-- The cluster without what listeners have been told. -/
def deaf (c : Cluster) : Cluster := { c with world := c.world.deaf }

theorem select_deaf (c : Cluster) (tried : List String) :
    c.deaf.select tried = ((c.select tried).1, (c.select tried).2.deaf) := by
  unfold select
  simp only [deaf, World.deaf, endpoints]
  generalize c.health.firstAvailable _ _ = found
  obtain ⟨f | chosen, h⟩ := found
  · rfl
  · simp only
    split <;> rfl

theorem blamed_deaf (c : Cluster) (endpoint : String) (a : Attempt) :
    c.deaf.blamed endpoint a = ((c.blamed endpoint a).1, (c.blamed endpoint a).2.deaf) := by
  unfold blamed markFailure
  simp only [deaf, World.deaf]
  generalize c.health.markFailure _ _ = marked
  obtain ⟨f | u, h⟩ := marked <;> rfl

theorem settle_deaf (c : Cluster) (endpoint method url : String) (a : Answer) :
    c.deaf.settle endpoint method url a =
      ((c.settle endpoint method url a).1, (c.settle endpoint method url a).2.deaf) := by
  cases a with
  | failure e => exact blamed_deaf c endpoint _
  | response status body =>
    unfold settle
    simp only
    split
    · rfl
    · rfl
    · unfold settleStatus
      simp only
      split_ifs
      · rfl
      · exact blamed_deaf c endpoint _
      · rfl
      · rfl

theorem attempt_deaf (c : Cluster) (endpoint method target : String) (payload : Option Payload) :
    c.deaf.attempt endpoint method target payload =
      ((c.attempt endpoint method target payload).1, (c.attempt endpoint method target payload).2.deaf) := by
  unfold attempt
  have hsend : c.deaf.world.send = c.world.deaf.send := rfl
  rw [hsend, send_deaf]
  exact settle_deaf { c with world := (c.world.send ⟨endpoint, method, target, payload⟩).2 } ..

theorem attempts_deaf (method target : String) (payload : Option Payload) (more : Nat) (tried : List String)
    (c : Cluster) : attempts method target payload more tried c.deaf =
      ((attempts method target payload more tried c).1, (attempts method target payload more tried c).2.deaf) := by
  fun_induction attempts method target payload more tried c with
  | case1 more tried c f d hsel =>
    unfold attempts
    rw [select_deaf, hsel]
  | case2 more tried c endpoint d hsel outcome e hatt =>
    unfold attempts
    simp only [select_deaf, hsel, attempt_deaf, hatt]
  | case3 tried c endpoint d hsel f e hatt =>
    unfold attempts
    simp only [select_deaf, hsel, attempt_deaf, hatt]
  | case4 tried c endpoint d hsel f e hatt more ih =>
    conv_lhs => unfold attempts
    simp only [select_deaf, hsel, attempt_deaf, hatt]
    exact ih

theorem call_deaf (c : Cluster) (method : String) (path : Option Text) (body : Body) (params : Params) :
    c.deaf.call method path body params = ((c.call method path body params).1, (c.call method path body params).2.deaf)
    := by
  unfold call
  have hbudget : c.deaf.retryBudget = c.retryBudget := rfl
  rw [hbudget]
  split
  · rfl
  · split
    · rfl
    · exact attempts_deaf ..

end Cluster

namespace Bulk.Writer

open Effect

/-- The writer whose processor has no listener, and never had one. -/
def deaf (w : Writer) : Writer :=
  { processor := { w.processor with listening := false }
    cluster := w.cluster.deaf }

/-- The writer whose processor has a listener. -/
def attended (w : Writer) : Writer := { w with processor := { w.processor with listening := true } }

theorem deaf_attended (w : Writer) : w.attended.deaf = w.deaf := rfl

theorem respects_record {e : Event} (he : e.heard = false) : Respects deaf (record e) := by
  intro w
  rw [record_runOn, record_runOn]
  simp only [deaf, Cluster.deaf, record_deaf he]

theorem told_deaf {e : Event} (he : e.heard = true) (w : Writer) : told e w.deaf = (told e w).deaf := by
  unfold told
  split_ifs with h₁ h₂ h₂
  · exact absurd h₁ (by simp [deaf])
  · exact absurd h₁ (by simp [deaf])
  · simp only [deaf, Cluster.deaf, record_heard_deaf he]
  · rfl

theorem respects_notify {e : Event} (he : e.heard = true) : Respects deaf (notify e) := by
  intro w
  rw [notify_runOn, notify_runOn, told_deaf he]

theorem respects_post (body : Text) : Respects deaf (post body) := by
  intro w
  have h := Cluster.call_deaf w.cluster "POST" (some "_bulk") (.lines body) []
  unfold post
  simp only [runOn_ofStep, deaf, h]

theorem respects_pause (seconds : Quantity) : Respects deaf (pause seconds) := by
  intro w
  have h := pause_deaf w.cluster.world seconds
  unfold pause
  simp only [runOn_ofStep, deaf, Cluster.deaf, h]

theorem respects_submitOnce (number attempt : Nat) (ops : List Operation) (result : Result) :
    Respects deaf (submitOnce number attempt ops result) :=
  (respects_ofExcept _).bind fun _ => (respects_record rfl).bind fun _ => (respects_post _).bind fun _ =>
    respects_get_bind (fun _ => rfl) fun _ => respects_ofExcept _

theorem respects_awaitRetry (attempt : Nat) : Respects deaf (awaitRetry attempt) :=
  respects_get_bind (fun _ => rfl) fun _ => (respects_ofExcept _).bind fun _ =>
    (respects_ofExcept _).bind fun _ => respects_pause _

theorem respects_submit (number left attempt : Nat) (ops : List Operation) (result : Result) :
    Respects deaf (submit number left attempt ops result) := by
  induction left generalizing attempt ops result with
  | zero => exact (respects_submitOnce _ _ _ _).map _
  | succ left ih =>
    refine (respects_submitOnce _ _ _ _).bind fun (again, result) => ?_
    simp only
    split_ifs
    · exact respects_pure _
    · exact (respects_awaitRetry _).bind fun _ => ih _ _ _

theorem respects_now : Respects deaf now := respects_get_bind (fun _ => rfl) fun _ => respects_pure _

theorem respects_modifyProcessor {f : Processor → Processor}
    (hf : ∀ p : Processor, f { p with listening := false } = { f p with listening := false }) :
    Respects deaf (modifyProcessor f) := by
  intro w
  unfold modifyProcessor
  simp only [runOn_modify, deaf, hf]

theorem respects_execute (number : Nat) (ops : List Operation) : Respects deaf (execute number ops) := by
  refine (respects_notify rfl).bind fun _ => respects_now.bind fun start =>
    respects_get_bind (fun _ => rfl) fun w => (respects_submit _ _ _ _ _).outcome.bind fun r => ?_
  cases r with
  | ok result =>
    exact respects_now.bind fun _ => (respects_ofExcept _).bind fun _ => (respects_notify rfl).bind fun _ =>
      respects_pure _
  | error f =>
    simp only
    cases causeOf f with
    | some cause => exact (respects_notify rfl).bind fun _ => respects_throw _
    | none => exact respects_throw _

theorem respects_flush : Respects deaf flush := by
  refine respects_now.bind fun _ => (respects_modifyProcessor fun _ => rfl).bind fun _ =>
    respects_get_bind (fun _ => rfl) fun w => ?_
  split
  · exact respects_pure _
  · exact (respects_modifyProcessor fun _ => rfl).bind fun _ => respects_get_bind (fun _ => rfl) fun _ =>
      (respects_execute _ _).bind fun _ => respects_pure _

theorem respects_add (op : Operation) : Respects deaf (add op) := by
  have henqueue : Respects deaf (do
      modifyProcessor fun p => { p with queue := p.queue ++ [op] }
      let p := (← get).processor
      if p.threshold.le (.int p.queue.length) then discard flush) := by
    refine (respects_modifyProcessor fun _ => rfl).bind fun _ => respects_get_bind (fun _ => rfl) fun w => ?_
    simp only
    split_ifs
    · exact respects_flush.map _
    · exact respects_pure _
  refine respects_get_bind (fun _ => rfl) fun w => ?_
  simp only
  split_ifs
  · exact (respects_throw _).bind fun _ => henqueue
  · exact henqueue

theorem respects_addAll (ops : List Operation) : Respects deaf (addAll ops) := by
  induction ops with
  | nil => exact respects_pure _
  | cons op ops ih => exact (respects_ofExcept _).bind fun op => (respects_add op).bind fun _ => ih

theorem respects_close (timeout : Json) : Respects deaf (close timeout) := by
  refine respects_get_bind (fun _ => rfl) fun w => ?_
  simp only
  split_ifs
  · exact respects_pure _
  refine (respects_modifyProcessor fun _ => rfl).bind fun _ => respects_get_bind (fun _ => rfl) fun v => ?_
  split_ifs
  · exact respects_get_bind (fun _ => rfl) fun _ => (respects_ofExcept _).bind fun _ => (respects_record rfl).bind fun _ =>
      (respects_modifyProcessor fun _ => rfl).bind fun _ => respects_flush
  · exact respects_flush

theorem respects_start : Respects deaf start := by
  have hstarted : Respects deaf (do
      modifyProcessor fun p => { p with timer := true }
      record .timerStarts) :=
    (respects_modifyProcessor fun _ => rfl).bind fun _ => respects_record rfl
  refine respects_get_bind (fun _ => rfl) fun w => ?_
  simp only
  split_ifs
  · exact (respects_throw _).bind fun _ => hstarted
  · exact (respects_throw _).bind fun _ => respects_pure _
  · exact hstarted
  · exact respects_pure _

theorem respects_advance (seconds : Quantity) : Respects deaf (advance seconds) := by
  intro w
  have h := advance_deaf w.cluster.world seconds
  unfold advance
  rw [runOn_bind_ok (runOn_get w), runOn_bind_ok (runOn_get w.deaf)]
  simp only [deaf, Cluster.deaf, h, runOn_bind, runOn_ofExcept]
  rcases w.cluster.world.advance seconds with f | v <;> rfl

theorem respects_timerSleeps (interval : Quantity) : Respects deaf (timerSleeps interval) := by
  have hlogged (wait : Quantity) : Respects deaf (do
      record (.waits wait)
      return wait) := (respects_record rfl).bind fun _ => respects_pure _
  refine respects_get_bind (fun _ => rfl) fun _ => respects_now.bind fun _ => (respects_ofExcept _).bind fun wait =>
    respects_get_bind (fun _ => rfl) fun _ => ?_
  dsimp only
  split_ifs
  · exact respects_get_bind (fun _ => rfl) fun _ => (respects_ofExcept _).bind fun _ => hlogged wait
  · exact hlogged wait

theorem respects_timerWakes (interval : Quantity) : Respects deaf (timerWakes interval) := by
  refine respects_now.bind fun _ => respects_get_bind (fun _ => rfl) fun w => (respects_ofExcept _).bind fun _ => ?_
  split_ifs
  · exact respects_flush.outcome.map _
  · exact respects_pure _

theorem respects_perform (s : Step) : Respects deaf (perform s) := by
  cases s with
  | add op => exact (respects_add op).bind fun _ => respects_pure _
  | addAll ops => exact (respects_addAll ops).bind fun _ => respects_pure _
  | flush => exact respects_flush
  | close timeout => exact respects_close timeout
  | start => exact respects_start.bind fun _ => respects_pure _
  | advance seconds => exact (respects_advance seconds).bind fun _ => respects_pure _
  | sleep interval => exact ((respects_timerSleeps interval).map _).bind fun _ => respects_pure _
  | wake interval => exact (respects_timerWakes interval).bind fun _ => respects_pure _
  | note outcome => exact (respects_record rfl).bind fun _ => respects_pure _

/-- A run without a listener is the run with one, less what the listener is told. -/
theorem after_deaf (ss : List Step) (w : Writer) : after ss w.deaf = (after ss w).deaf := by
  induction ss generalizing w with
  | nil => rfl
  | cons s ss ih =>
    have hs : w.deaf.next s = (w.next s).deaf := congrArg Prod.snd (respects_perform s w)
    rw [after_cons, after_cons, hs, ih]

theorem after_attended (ss : List Step) (w : Writer) : (after ss w.attended).deaf = (after ss w).deaf := by
  rw [← after_deaf, ← after_deaf, deaf_attended]

theorem queue_attended (ss : List Step) (w : Writer) :
    (after ss w.attended).processor.queue = (after ss w).processor.queue := by
  have h := congrArg (fun v : Writer => v.processor.queue) (after_attended ss w)
  exact h

theorem batches_attended (ss : List Step) (w : Writer) :
    (after ss w.attended).processor.batches = (after ss w).processor.batches := by
  have h := congrArg (fun v : Writer => v.processor.batches) (after_attended ss w)
  exact h

theorem acceptedAll_deaf (ops : List Operation) (w : Writer) : acceptedAll ops w.deaf = acceptedAll ops w := by
  induction ops generalizing w with
  | nil => rfl
  | cons op ops ih =>
    have hclosed : w.deaf.processor.closed = w.processor.closed := rfl
    unfold acceptedAll
    rw [hclosed]
    cases op.validate with
    | error f => rfl
    | ok op =>
      simp only [respects_add op w]
      rcases (add op).runOn w with ⟨f | u, v⟩
      · rfl
      · simp only [ih]

theorem acceptedIn_deaf (ss : List Step) (w : Writer) : acceptedIn ss w.deaf = acceptedIn ss w := by
  induction ss generalizing w with
  | nil => rfl
  | cons s ss ih =>
    have hs : w.deaf.next s = (w.next s).deaf := congrArg Prod.snd (respects_perform s w)
    have haccepted : w.deaf.accepted s = w.accepted s := by
      cases s with
      | addAll ops => exact acceptedAll_deaf ops w
      | _ => rfl
    rw [acceptedIn, acceptedIn, hs, ih, haccepted]

theorem acceptedIn_attended (ss : List Step) (w : Writer) : acceptedIn ss w.attended = acceptedIn ss w := by
  rw [← acceptedIn_deaf ss w.attended, deaf_attended, acceptedIn_deaf]

end Bulk.Writer

end DocumentStore
