import DocumentStore.Proofs.Client.Step

/-! The life of a client: all that a start and a close can do. A start finds out about the store and then sets up a
processor, if there is none; the first close closes the processor, if there is one. -/

namespace DocumentStore.Client

open Effect
open Bulk (Operation Processor Writer)

/-- All that the listener of a client has been told, in order. -/
def heard (c : Client) : List Event := c.cluster.world.log.filter Event.heard

/-- From `v` to `w` the cluster may be asked, and time may pass; the processor stays as it is, and nobody hears of
anything. -/
structure Quiet (v w : Client) : Prop where
  listening : w.listening = v.listening
  processor : w.processor = v.processor
  closed : w.closed = v.closed
  heard : w.heard = v.heard

instance : Std.Refl Quiet := ⟨fun _ => ⟨rfl, rfl, rfl, rfl⟩⟩

instance : IsTrans Client Quiet where
  trans _ _ _ h h' := ⟨h'.listening.trans h.listening, h'.processor.trans h.processor, h'.closed.trans h.closed,
    h'.heard.trans h.heard⟩

theorem heard_of_log {v w : Client} (es : List Event) (hl : w.cluster.world.log = v.cluster.world.log ++ es)
    (hes : ∀ e ∈ es, e.heard = false) : w.heard = v.heard := by
  have hnone : es.filter Event.heard = [] := by simpa [List.filter_eq_nil_iff] using hes
  unfold heard
  rw [hl, List.filter_append, hnone, List.append_nil]

theorem quiet_call (method : String) (path : Option Text) (body : Cluster.Body) (params : Cluster.Params) :
    Keeps Quiet (call method path body params) := by
  intro c
  obtain ⟨rs, hrs⟩ := (Cluster.call_advances c.cluster method path body params).log
  exact ⟨rfl, rfl, rfl, heard_of_log _ hrs (by simp [Event.heard])⟩

theorem quiet_advance (seconds : Json) : Keeps Quiet (advance seconds) := by
  intro c
  unfold advance World.advance
  rw [runOn_bind]
  simp only [runOn_ofExcept]
  rcases Quantity.require seconds with f | q
  · exact refl c
  simp only
  rw [runOn_bind_ok (runOn_getThe c)]
  rcases c.cluster.world.clock.add q with f | t
  · exact refl c
  · exact ⟨rfl, rfl, rfl, rfl⟩

section start

/-- What a client finds out about the store before it sets up a processor. -/
def inquire (pipeline : Json) : Effect Client Unit := do
  let version ← version
  modifyThe Client fun c => { c with majorVersion := some (majorVersionOf version) }
  if pipeline.truthy then
    if !(← pipelineExists pipeline) then throw (.client (.pipelineMissing pipeline))

theorem quiet_inquire (pipeline : Json) : Keeps Quiet (inquire pipeline) := by
  refine (keeps_version quiet_call).bind fun version => Keeps.bind (fun c => ⟨rfl, rfl, rfl, rfl⟩) fun _ => ?_
  split_ifs
  · refine (keeps_existsAt quiet_call _ _).bind fun known => ?_
    split_ifs
    · exact keeps_throw _
    · exact keeps_pure _
  · exact keeps_pure _

/-- A processor is built with or without a listener, and that is all the difference. -/
theorem build_heard (threshold interval : Json) (policy : Bulk.RetryPolicy) (listening listening' : Bool)
    (now : Quantity) : Processor.build threshold interval policy listening now =
      (Processor.build threshold interval policy listening' now).map fun p => { p with listening } := by
  have hbind {α : Type} (r : Except Failure α) {k k' : α → Except Failure Processor}
      (hk : ∀ a, k a = (k' a).map fun p => { p with listening }) :
      (r >>= k) = (r >>= k').map fun p => { p with listening } := by
    cases r with
    | error f => rfl
    | ok a => exact hk a
  have htold (limit : Quantity) (given : Option Quantity) : (do
        discard limit.writable
        discard (given.mapM Quantity.writable)
        discard policy.maxRetries.writable
        return ({ threshold := limit, flushInterval := given, policy, listening, lastFlush := now } : Processor)) =
      (do
        discard limit.writable
        discard (given.mapM Quantity.writable)
        discard policy.maxRetries.writable
        return ({ threshold := limit, flushInterval := given, policy, listening := listening', lastFlush := now } :
          Processor) : Except Failure Processor).map fun p => { p with listening } :=
    hbind _ fun _ => hbind _ fun _ => hbind _ fun _ => rfl
  unfold Processor.build
  refine hbind _ fun q => ?_
  simp only
  split_ifs
  · rfl
  split
  · exact htold q none
  · refine hbind _ fun i => ?_
    split_ifs
    · rfl
    · exact htold q (some i)

theorem build_listening {threshold interval : Json} {policy : Bulk.RetryPolicy} {listening : Bool} {now : Quantity}
    {p : Processor} (h : Processor.build threshold interval policy listening now = .ok p) :
    p.listening = listening := by
  obtain ⟨limit, given, -, -, rfl⟩ := Bulk.build_ok h
  rfl

/-- The processor that a client sets up. -/
def setUp (c : Client) (now : Quantity) : Except Failure Processor :=
  let interval := match c.settings.flushInterval with
    | none => .null
    | some q => q.toJson
  Processor.build c.settings.bulkSize.toJson interval c.policy c.listening now

/-- What a client does with the processor that it was to set up. -/
def equip (c : Client) : Effect Client Unit := do
  let p ← Effect.ofExcept (c.setUp (← getThe Client).cluster.world.clock)
  let (r, w) := Writer.start.runOn ⟨p, (← getThe Client).cluster⟩
  modifyThe Client fun c => { c with processor := some w.processor, cluster := w.cluster }
  Effect.ofExcept r

theorem start_of_some {c : Client} (h : c.processor.isSome = true) : start.runOn c = (.ok (), c) := by
  unfold start
  rw [runOn_bind_ok (runOn_getThe c)]
  simp only [h, if_true]
  rfl

theorem start_of_none {c : Client} (h : c.processor = none) :
    start.runOn c = (inquire c.settings.pipeline >>= fun _ => equip c).runOn c := by
  unfold start inquire
  rw [runOn_bind_ok (runOn_getThe c)]
  simp only [h, Option.isSome_none, Bool.false_eq_true, if_false]
  rw [runOn_bind, runOn_bind, runOn_bind]
  rcases version.runOn c with ⟨f | version, u⟩
  · rfl
  simp only
  rw [runOn_bind_ok (runOn_modifyThe _ u), runOn_bind_ok (runOn_modifyThe _ u)]
  split_ifs
  · simp only [runOn_bind]
    rcases (pipelineExists c.settings.pipeline).runOn _ with ⟨f | known, v⟩
    · rfl
    · cases known <;> rfl
  · rfl

theorem equip_runOn (c v : Client) : (equip c).runOn v =
    match c.setUp v.cluster.world.clock with
    | .error f => (.error f, v)
    | .ok p => ((Writer.start.runOn ⟨p, v.cluster⟩).1, v.holding (Writer.start.runOn ⟨p, v.cluster⟩).2) := by
  unfold equip
  rw [runOn_bind_ok (runOn_getThe v), runOn_bind, runOn_ofExcept]
  rcases c.setUp v.cluster.world.clock with f | p
  · rfl
  · simp only
    rw [runOn_bind_ok (runOn_getThe v)]
    rfl

/-- A processor that a client sets up starts, open and with nothing in it, and tells whoever listens to the client. -/
theorem start_setUp {c : Client} {now : Quantity} {p : Processor} (h : c.setUp now = .ok p) (cluster : Cluster) :
    ∃ w : Writer, Writer.start.runOn ⟨p, cluster⟩ = (.ok (), w) ∧ w.processor.queue = [] ∧ w.processor.batches = 0 ∧
      w.processor.closed = false ∧ w.processor.listening = c.listening ∧ w.heard = Writer.heard ⟨p, cluster⟩ := by
  obtain ⟨hqueue, hbatches, hopen⟩ := Bulk.build_fresh h
  have hlistening : p.listening = c.listening := build_listening h
  have hstart := Writer.start_of_open (w := ⟨p, cluster⟩) hopen
  have henqueues := Writer.keeps_start ⟨p, cluster⟩
  refine ⟨(Writer.start.runOn ⟨p, cluster⟩).2, ?_, ?_, henqueues.batches.trans hbatches, ?_,
    henqueues.listening.trans hlistening, henqueues.heard⟩
  · rw [hstart]
  · rw [henqueues.queue]
    exact (List.append_nil _).trans hqueue
  · rw [← Writer.next_start, Writer.next_closed (by simp)]
    exact hopen

/-- All that a start can do to a client without a processor: the client finds out about the store, and then it may have
an open processor with nothing in it, that is told to whoever listens to the client. -/
theorem start_cases {c : Client} (h : c.processor = none) :
    ∃ v, Quiet c v ∧ ((∃ f, start.runOn c = (.error f, v)) ∨
      ∃ w : Writer, w.processor.queue = [] ∧ w.processor.batches = 0 ∧ w.processor.closed = false ∧
        w.processor.listening = c.listening ∧ w.heard = c.heard ∧ start.runOn c = (.ok (), v.holding w)) := by
  have hinquire := quiet_inquire c.settings.pipeline c
  rw [start_of_none h, runOn_bind]
  rcases hrun : (inquire c.settings.pipeline).runOn c with ⟨f | _, v⟩ <;> rw [hrun] at hinquire
  · exact ⟨v, hinquire, .inl ⟨f, rfl⟩⟩
  refine ⟨v, hinquire, ?_⟩
  simp only [equip_runOn]
  cases hp : c.setUp v.cluster.world.clock with
  | error f => exact .inl ⟨f, rfl⟩
  | ok p =>
    obtain ⟨w, hstart, hqueue, hbatches, hopen, hlistening, hheard⟩ := start_setUp hp v.cluster
    have hsame : heard v = c.heard := hinquire.heard
    refine .inr ⟨w, hqueue, hbatches, hopen, hlistening, hheard.trans hsame, ?_⟩
    simp only [hstart]

end start

section close

def retired (c : Client) : Client := { c with closed := true }

def released (c : Client) : Client := { c with cluster := c.cluster.close }

theorem heard_released (c : Client) : c.released.heard = c.heard := by
  have hrecord (es : List String) (w : World) :
      (es.foldl (fun w e => w.record (.close e)) w).log = w.log ++ es.map Event.close := by
    induction es generalizing w with
    | nil => simp
    | cons e es ih =>
      rw [List.foldl_cons, ih]
      simp [World.record]
  exact heard_of_log _ (hrecord c.cluster.endpoints.eraseDups c.cluster.world) (by simp [Event.heard])

theorem close_of_closed {c : Client} (h : c.closed = true) : close.runOn c = (.ok (), c) := by
  unfold close
  rw [runOn_bind_ok (runOn_getThe c)]
  simp only [h, if_true]
  rfl

theorem andFinally_closeCluster (e : Effect Client Unit) (c : Client) :
    (e.andFinally closeCluster).runOn c = ((e.runOn c).1, (e.runOn c).2.released) := by
  unfold andFinally
  rw [runOn_bind_ok (runOn_outcome e c)]
  rfl

/-- The first close of a client without a processor closes the connections. -/
theorem close_of_none {c : Client} (h : c.closed = false) (hw : c.writer? = none) :
    close.runOn c = (.ok (), c.retired.released) := by
  have hp : c.processor = none := writer?_eq_none.1 hw
  have hretired : c.retired = { c with processor := none, closed := true } := by rw [← hp]; rfl
  unfold close
  rw [runOn_bind_ok (runOn_getThe c)]
  simp only [h, Bool.false_eq_true, if_false]
  rw [runOn_bind_ok (runOn_modifyThe _ c), andFinally_closeCluster]
  simp only [hp]
  rw [hretired]
  rfl

/-- The first close closes the processor, and then the connections, whatever comes of that. -/
theorem close_of_some {c : Client} (h : c.closed = false) {w : Writer} (hw : c.writer? = some w) :
    close.runOn c = (((Writer.close .null).runOn w).1.map fun _ => (),
      (c.retired.holding (w.next (.close .null))).released) := by
  have hlast : (discard (onProcessor (Writer.close .null))).runOn c.retired =
      (((Writer.close .null).runOn w).1.map fun _ => (), c.retired.holding (w.next (.close .null))) := by
    have hretired : c.retired.writer? = some w := hw
    refine (runOn_map (fun _ => ()) (onProcessor (Writer.close .null)) c.retired).trans ?_
    rw [onProcessor_of_some _ hretired]
    rfl
  obtain ⟨hp, -⟩ := writer?_eq_some.1 hw
  have hretired : c.retired = { c with processor := some w.processor, closed := true } := by rw [← hp]; rfl
  unfold close
  rw [runOn_bind_ok (runOn_getThe c)]
  simp only [h, Bool.false_eq_true, if_false]
  rw [runOn_bind_ok (runOn_modifyThe _ c), andFinally_closeCluster]
  simp only [hp]
  rw [← hretired, hlast]

end close

theorem next_start (c : Client) : c.next .start = (start.runOn c).2 := rfl

theorem next_close (c : Client) : c.next .close = (close.runOn c).2 := rfl

/-- A step asks something of the processor, or it is a start or a close, or it leaves the processor alone. -/
theorem step_cases (s : Step) :
    (∃ t, s.errand? = some t) ∨ s = .start ∨ s = .close ∨ s.errand? = none ∧ ∀ c, Quiet c (c.next s) := by
  cases s with
  | call method path body params =>
    refine .inr (.inr (.inr ⟨rfl, fun c => ?_⟩))
    have hcall : c.next (.call method path body params) = ((call method path body params).runOn c).2 :=
      congrArg Prod.snd (runOn_map (fun _ => ()) (call method path body params) c)
    rw [hcall]
    exact quiet_call method path body params c
  | start => exact .inr (.inl rfl)
  | close => exact .inr (.inr (.inl rfl))
  | advance seconds => exact .inr (.inr (.inr ⟨rfl, quiet_advance seconds⟩))
  | note outcome =>
    refine .inr (.inr (.inr ⟨rfl, fun c => ?_⟩))
    exact ⟨rfl, rfl, rfl, heard_of_log [.step outcome] rfl (by simp [Event.heard])⟩
  | _ => exact .inl ⟨_, rfl⟩

end DocumentStore.Client
