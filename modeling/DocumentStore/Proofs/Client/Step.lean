import DocumentStore.Client.Run
import DocumentStore.Proofs.Bulk.Closed

/-! Runs of a client as sequences of steps, in any order: a request to the cluster, a start, a close, what it asks of
its bulk processor, time that passes. Whatever is asked of a client comes to such a run, with all that goes on while the
flush timer sleeps. -/

namespace DocumentStore.Client

open Effect
open Bulk (Operation Writer)

inductive Step where
  | call (method : String) (path : Option Text) (body : Cluster.Body) (params : Cluster.Params)
  | start
  | close
  | add (op : Operation)
  | flush
  /-- The flush timer goes to sleep. -/
  | sleep (interval : Quantity)
  /-- The flush timer has woken up. -/
  | wake (interval : Quantity)
  | advance (seconds : Json)
  /-- Somebody writes down what a command came to. -/
  | note (outcome : Except Failure Reply)

def perform : Step → Effect Client Unit
  | .call method path body params => discard (call method path body params)
  | .start => start
  | .close => close
  | .add op => onProcessor (Writer.add op)
  | .flush => discard (onProcessor Writer.flush)
  | .sleep interval => discard (onProcessor (Writer.timerSleeps interval))
  | .wake interval => onProcessor (Writer.timerWakes interval)
  | .advance seconds => advance seconds
  | .note outcome => modifyWorld (·.record (.step outcome))

/-- The state after a step, whatever the step comes to. -/
def next (c : Client) (s : Step) : Client := ((perform s).runOn c).2

def after (ss : List Step) (c : Client) : Client := ss.foldl next c

@[simp] theorem after_nil (c : Client) : after [] c = c := rfl

@[simp] theorem after_cons (s : Step) (ss : List Step) (c : Client) : after (s :: ss) c = after ss (c.next s) := rfl

theorem after_append (ss ts : List Step) (c : Client) : after (ss ++ ts) c = after ts (after ss c) :=
  List.foldl_append

/-! ### What a client asks of its processor -/

/-- The bulk processor of a client, on the cluster of the client. -/
def writer? (c : Client) : Option Writer := c.processor.map (⟨·, c.cluster⟩)

theorem writer?_eq_none {c : Client} : c.writer? = none ↔ c.processor = none := Option.map_eq_none_iff

theorem writer?_eq_some {c : Client} {w : Writer} :
    c.writer? = some w ↔ c.processor = some w.processor ∧ c.cluster = w.cluster := by
  unfold writer?
  constructor
  · intro h
    obtain ⟨p, hp, rfl⟩ := Option.map_eq_some_iff.1 h
    exact ⟨hp, rfl⟩
  · rintro ⟨hp, hc⟩
    rw [hp, hc]
    rfl

/-- The client with this writer. -/
def holding (c : Client) (w : Writer) : Client := { c with processor := some w.processor, cluster := w.cluster }

@[simp] theorem writer?_holding (c : Client) (w : Writer) : (c.holding w).writer? = some w := rfl

theorem holding_of_writer? {c : Client} {w : Writer} (h : c.writer? = some w) : c.holding w = c := by
  obtain ⟨hp, hc⟩ := writer?_eq_some.1 h
  unfold holding
  rw [← hp, ← hc]

theorem onProcessor_of_none {α : Type} (e : Effect Writer α) {c : Client} (h : c.writer? = none) :
    (onProcessor e).runOn c = (.error (.client .notStarted), c) := by
  unfold onProcessor
  rw [runOn_bind_ok (runOn_getThe c)]
  simp only [writer?_eq_none.1 h]
  rfl

theorem onProcessor_of_some {α : Type} (e : Effect Writer α) {c : Client} {w : Writer} (h : c.writer? = some w) :
    (onProcessor e).runOn c = ((e.runOn w).1, c.holding (e.runOn w).2) := by
  obtain ⟨hp, hc⟩ := writer?_eq_some.1 h
  unfold onProcessor
  rw [runOn_bind_ok (runOn_getThe c)]
  simp only [hp, hc]
  rfl

/-- The step of the processor that a step of the client asks for. -/
def Step.errand? : Step → Option Bulk.Step
  | .add op => some (.add op)
  | .flush => some .flush
  | .sleep interval => some (.sleep interval)
  | .wake interval => some (.wake interval)
  | _ => none

theorem Step.errand_ne_addAll {s : Step} {t : Bulk.Step} (h : s.errand? = some t) (ops : List Operation) :
    t ≠ .addAll ops := by
  rintro rfl
  cases s <;> cases h

theorem Step.errand_ne_close {s : Step} {t : Bulk.Step} (h : s.errand? = some t) (timeout : Json) :
    t ≠ .close timeout := by
  rintro rfl
  cases s <;> cases h

/-- What the processor makes of a computation, and nothing else changes. -/
theorem onProcessor_snd {α : Type} (e : Effect Writer α) (c : Client) :
    ((onProcessor e).runOn c).2 = match c.writer? with
      | some w => c.holding (e.runOn w).2
      | none => c := by
  cases hw : c.writer? with
  | none => rw [onProcessor_of_none e hw]
  | some w => rw [onProcessor_of_some e hw]

/-- What a step asks of the processor is a step of the processor. -/
theorem next_of_errand {c : Client} {s : Step} {t : Bulk.Step} (h : s.errand? = some t) :
    c.next s = match c.writer? with
      | some w => c.holding (w.next t)
      | none => c := by
  have hdiscard {α : Type} (e : Effect Writer α) :
      ((discard (onProcessor e)).runOn c).2 = ((onProcessor e).runOn c).2 :=
    congrArg Prod.snd (runOn_map (fun _ => ()) (onProcessor e) c)
  unfold next perform
  cases s with
  | add op =>
    obtain rfl : .add op = t := Option.some.inj h
    simp only [onProcessor_snd, Writer.next_add]
  | flush =>
    obtain rfl : .flush = t := Option.some.inj h
    simp only [hdiscard, onProcessor_snd]
    rfl
  | sleep interval =>
    obtain rfl : .sleep interval = t := Option.some.inj h
    simp only [hdiscard, onProcessor_snd, Writer.next_sleep]
  | wake interval =>
    obtain rfl : .wake interval = t := Option.some.inj h
    simp only [onProcessor_snd, Writer.next_wake]
  | _ => cases h

/-! ### What a client asks of the cluster -/

theorem request_runOn (method path : Json) (body : Cluster.Body) (params : Json) (c : Client) :
    (∃ f, (request method path body params).runOn c = (.error f, c)) ∨
      ∃ m p q, (request method path body params).runOn c = (call m p body q).runOn c := by
  change (∃ f, ((c.cluster.request method path body params).1, { c with
    cluster := (c.cluster.request method path body params).2 }) = (.error f, c)) ∨ ∃ m p q,
      ((c.cluster.request method path body params).1, { c with
        cluster := (c.cluster.request method path body params).2 }) = (call m p body q).runOn c
  unfold Cluster.request
  simp only
  split
  · exact .inl ⟨_, rfl⟩
  · exact .inr ⟨_, _, _, rfl⟩

section asks

variable {R : Client → Client → Prop} [Std.Refl R] [IsTrans Client R]
  (hcall : ∀ method path body params, Keeps R (call method path body params))

theorem keeps_orMissing {α : Type} {e : Effect Client α} {missing : ResponseError → Effect Client α} (he : Keeps R e)
    (hmissing : ∀ r, Keeps R (missing r)) : Keeps R (orMissing e missing) := by
  refine he.outcome.bind fun r => ?_
  split
  · split_ifs
    · exact hmissing _
    · exact keeps_throw _
  · exact keeps_ofExcept _

include hcall

theorem keeps_callAt (method : String) (path : Json) (body : Cluster.Body) : Keeps R (callAt method path body) :=
  (keeps_ofExcept _).bind fun _ => hcall _ _ _ _

omit [IsTrans Client R] in
theorem keeps_request (method path : Json) (body : Cluster.Body) (params : Json) :
    Keeps R (request method path body params) := by
  intro c
  rcases request_runOn method path body params c with ⟨f, h⟩ | ⟨m, p, q, h⟩
  · rw [h]
    exact refl c
  · rw [h]
    exact hcall m p body q c

theorem keeps_version : Keeps R version :=
  (hcall _ _ _ _).bind fun _ => (keeps_ofExcept _).bind fun _ => keeps_ofExcept _

theorem keeps_existsAt (method : String) (path : Json) : Keeps R (existsAt method path) :=
  keeps_orMissing (((keeps_callAt hcall _ _ _).map _).bind fun _ => keeps_pure _) fun _ => keeps_pure _

theorem keeps_waitForHealth (index timeout : Json) : Keeps R (waitForHealth index timeout) :=
  (hcall _ _ _ _).bind fun _ => (keeps_ofExcept _).bind fun _ => keeps_ofExcept _

theorem keeps_createIndex (index : Json) (lenient : Bool) (settings : Json) :
    Keeps R (createIndex index lenient settings) := by
  refine (keeps_callAt hcall _ _ _).outcome.bind fun r => ?_
  split
  · exact ((keeps_waitForHealth hcall _ _).map _).bind fun _ => keeps_pure _
  · split_ifs
    · exact keeps_throw _
    · exact keeps_pure _
    · exact keeps_throw _
  · exact keeps_throw _

theorem keeps_refresh (index : Json) : Keeps R (refresh index) := by
  refine (hcall _ _ _ _).bind fun _ => (keeps_ofExcept _).bind fun _ => (keeps_ofExcept _).bind fun _ => ?_
  split_ifs
  · exact keeps_throw _
  · exact keeps_pure _

theorem keeps_deleteIndex (index : Json) : Keeps R (deleteIndex index) := by
  refine (keeps_orMissing ((keeps_callAt hcall _ _ _).map _) fun _ => keeps_pure _).bind fun answer => ?_
  cases answer with
  | none => exact keeps_pure _
  | some answer =>
    refine (keeps_ofExcept _).bind fun _ => (keeps_ofExcept _).bind fun _ => ?_
    split_ifs
    · exact (keeps_ofExcept _).bind fun _ => keeps_throw _
    · exact keeps_pure _

theorem keeps_createFromMapping (mapping : String) (index : Json) : Keeps R (createFromMapping mapping index) := by
  refine Keeps.bind (fun c => refl c) fun c => ?_
  split
  · exact keeps_throw _
  · split
    · exact keeps_throw _
    · exact (keeps_ofExcept _).bind fun _ => (keeps_createIndex hcall _ _ _).map _

theorem keeps_createConfigured (mapped : Bool) (mapping : String) (index : Json) :
    Keeps R (createConfigured mapped mapping index) := by
  unfold createConfigured
  split_ifs
  · exact keeps_createFromMapping hcall _ _
  · exact (keeps_createIndex hcall _ _ _).map _

theorem keeps_createIndices : Keeps R createIndices := by
  refine Keeps.bind (fun c => refl c) fun c => ?_
  simp only
  have hconfigured {mapped mapped' : Bool} {mapping mapping' : String} {index index' : Json} :
      Keeps R (do
        createConfigured mapped mapping index
        createConfigured mapped' mapping' index') :=
    (keeps_createConfigured hcall _ _ _).bind fun _ => keeps_createConfigured hcall _ _ _
  split_ifs
  · exact (keeps_throw _).bind fun _ => hconfigured
  · exact hconfigured

theorem keeps_deleteSingle (index id : Json) : Keeps R (deleteSingle index id) := by
  refine (keeps_orMissing (hcall _ _ _ _) fun _ => keeps_throw _).bind fun _ =>
    (keeps_ofExcept _).bind fun _ => (keeps_ofExcept _).bind fun _ => ?_
  split_ifs
  · exact keeps_throw _
  · exact keeps_pure _

theorem keeps_read (index id : Json) : Keeps R (read index id) :=
  (keeps_orMissing (hcall _ _ _ _) fun _ => keeps_throw _).bind fun _ =>
    (keeps_ofExcept _).bind fun _ => keeps_ofExcept _

theorem keeps_search (r : SearchRequest) : Keeps R (search r) :=
  Keeps.bind (fun c => refl c) fun _ => (keeps_ofExcept _).bind fun _ =>
    (keeps_orMissing (hcall _ _ _ _) fun _ => keeps_throw _).bind fun _ => keeps_ofExcept _

omit [IsTrans Client R] in
theorem keeps_bulk (operations : Json) : Keeps R (bulk operations) := by
  unfold bulk
  split_ifs
  · exact hcall _ _ _ _
  · exact keeps_throw _

end asks

/-! ### Commands as runs -/

/-- From `v` some run leads to `w`. -/
def Reaches (v w : Client) : Prop := ∃ ss, w = after ss v

instance : Std.Refl Reaches := ⟨fun _ => ⟨[], rfl⟩⟩

instance : IsTrans Client Reaches where
  trans := by
    rintro u _ _ ⟨ss, rfl⟩ ⟨ts, rfl⟩
    exact ⟨ss ++ ts, (after_append ss ts u).symm⟩

theorem keeps_reaches {α : Type} {e : Effect Client α} (s : Step) (h : ∀ c, (e.runOn c).2 = c.next s) :
    Keeps Reaches e := fun c => ⟨[s], h c⟩

theorem reaches_call (method : String) (path : Option Text) (body : Cluster.Body) (params : Cluster.Params) :
    Keeps Reaches (call method path body params) :=
  keeps_reaches (.call method path body params) fun c =>
    (congrArg Prod.snd (runOn_map (fun _ => ()) (call method path body params) c)).symm

theorem reaches_start : Keeps Reaches start := keeps_reaches .start fun _ => rfl

theorem reaches_close : Keeps Reaches close := keeps_reaches .close fun _ => rfl

theorem reaches_advance (seconds : Json) : Keeps Reaches (advance seconds) :=
  keeps_reaches (.advance seconds) fun _ => rfl

theorem reaches_note (outcome : Except Failure Reply) : Keeps Reaches (modifyWorld (·.record (.step outcome))) :=
  keeps_reaches (.note outcome) fun _ => rfl

theorem reaches_onProcessor {α : Type} {e : Effect Writer α} {s : Step} {t : Bulk.Step} (hs : s.errand? = some t)
    (h : ∀ w, (e.runOn w).2 = w.next t) : Keeps Reaches (onProcessor e) :=
  keeps_reaches s fun c => by
    rw [next_of_errand hs, onProcessor_snd]
    cases c.writer? with
    | none => rfl
    | some w => simp only [h]

theorem reaches_add (op : Operation) : Keeps Reaches (onProcessor (Writer.add op)) :=
  reaches_onProcessor (s := .add op) rfl fun w => (Writer.next_add op w).symm

theorem reaches_flush : Keeps Reaches flush := reaches_onProcessor (s := .flush) rfl fun _ => rfl

theorem reaches_sleep (interval : Quantity) : Keeps Reaches (onProcessor (Writer.timerSleeps interval)) :=
  reaches_onProcessor (s := .sleep interval) rfl fun w => (Writer.next_sleep interval w).symm

theorem reaches_wake (interval : Quantity) : Keeps Reaches (onProcessor (Writer.timerWakes interval)) :=
  reaches_onProcessor (s := .wake interval) rfl fun w => (Writer.next_wake interval w).symm

theorem reaches_delete (index id : Json) : Keeps Reaches (delete index id) := by
  unfold delete
  cases hop : Operation.validate ⟨index, id, .delete⟩ with
  | error f =>
    intro c
    refine ⟨[], ?_⟩
    rw [onProcessor_snd]
    cases hw : c.writer? with
    | none => rfl
    | some w => exact holding_of_writer? hw
  | ok op => exact reaches_add op

mutual

/-- Whatever is asked of a client, with all that goes on while the timer sleeps, is a run. -/
theorem reaches_run : ∀ x : Command, Keeps Reaches (run x)
  | .start => reaches_start.bind fun _ => keeps_pure _
  | .close => reaches_close.bind fun _ => keeps_pure _
  | .majorVersion => Keeps.bind (fun c => refl c) fun c => by split <;> exact keeps_pure _
  | .version => (keeps_version reaches_call).bind fun _ => keeps_pure _
  | .createIndex _ _ _ => (keeps_createIndex reaches_call _ _ _).bind fun _ => keeps_pure _
  | .indexExists _ => (keeps_existsAt reaches_call _ _).bind fun _ => keeps_pure _
  | .pipelineExists _ => (keeps_existsAt reaches_call _ _).bind fun _ => keeps_pure _
  | .waitForHealth _ _ => (keeps_waitForHealth reaches_call _ _).bind fun _ => keeps_pure _
  | .refresh _ => (keeps_refresh reaches_call _).bind fun _ => keeps_pure _
  | .deleteIndex _ => (keeps_deleteIndex reaches_call _).bind fun _ => keeps_pure _
  | .createIndices => (keeps_createIndices reaches_call).bind fun _ => keeps_pure _
  | .index _ _ _ _ => (reaches_add _).bind fun _ => keeps_pure _
  | .indexSingle _ _ _ _ => (reaches_call _ _ _ _).bind fun _ => keeps_pure _
  | .delete _ _ => (reaches_delete _ _).bind fun _ => keeps_pure _
  | .deleteSingle _ _ => (keeps_deleteSingle reaches_call _ _).bind fun _ => keeps_pure _
  | .documentExists _ _ => (keeps_existsAt reaches_call _ _).bind fun _ => keeps_pure _
  | .read _ _ => (keeps_read reaches_call _ _).bind fun _ => keeps_pure _
  | .search _ => (keeps_search reaches_call _).bind fun _ => keeps_pure _
  | .bulk _ => (keeps_bulk reaches_call _).bind fun _ => keeps_pure _
  | .flush => reaches_flush.bind fun _ => keeps_pure _
  | .request _ _ _ _ => (keeps_request reaches_call _ _ _ _).bind fun _ => keeps_pure _
  | .advance _ => (reaches_advance _).bind fun _ => keeps_pure _
  | .within commands => by
    rw [run]
    exact Keeps.bind ((reaches_runInOrder commands).outcome.bind fun _ =>
      reaches_close.bind fun _ => keeps_ofExcept _) fun _ => keeps_pure _
  | .timer pauses => by
    rw [run]
    refine Keeps.bind (fun c => refl c) fun c => ?_
    split
    · exact (reaches_runTimer _ pauses).bind fun _ => keeps_pure _
    · exact keeps_throw _
  | .refused f => keeps_throw f

theorem reaches_runInOrder : ∀ xs : List Command, Keeps Reaches (runInOrder xs)
  | [] => by
    rw [runInOrder]
    exact keeps_pure _
  | x :: xs => by
    rw [runInOrder]
    exact (reaches_run x).bind fun _ => (reaches_runInOrder xs).bind fun _ => keeps_pure _

theorem reaches_runTimer (interval : Quantity) : ∀ pauses : List Pause, Keeps Reaches (runTimer interval pauses)
  | [] => by
    rw [runTimer]
    exact (reaches_sleep interval).map _
  | pause :: pauses => by
    rw [runTimer]
    refine (reaches_sleep interval).bind fun wait => Keeps.bind (fun c => refl c) fun c => ?_
    split_ifs
    · exact keeps_pure _
    refine (reaches_runPause wait pause).bind fun _ => Keeps.bind (fun c => refl c) fun d => ?_
    split_ifs
    · exact keeps_pure _
    · exact (reaches_wake interval).bind fun _ => reaches_runTimer interval pauses

theorem reaches_runPause (wait : Quantity) : ∀ pause : Pause, Keeps Reaches (runPause wait pause)
  | .mk seconds commands => by
    rw [runPause]
    exact (reaches_advance _).bind fun _ => reaches_runAll commands

theorem reaches_runAll : ∀ xs : List Command, Keeps Reaches (runAll xs)
  | [] => by
    rw [runAll]
    exact keeps_pure _
  | x :: xs => by
    rw [runAll]
    exact (reaches_run x).outcome.bind fun _ => (reaches_note _).bind fun _ => reaches_runAll xs

end

/-! ### What a run accepts -/

/-- The operations that a step puts into the queue of the processor. -/
def accepted (c : Client) (s : Step) : List Operation :=
  match c.writer?, s.errand? with
  | some w, some t => w.accepted t
  | _, _ => []

/-- The operations that a run puts into the queue, in their order. -/
def acceptedIn : List Step → Client → List Operation
  | [], _ => []
  | s :: ss, c => c.accepted s ++ acceptedIn ss (c.next s)

/-- What every step preserves, a run preserves, with the operations that it accepts. -/
theorem after_induction {I : List Operation → Client → Prop}
    (hstep : ∀ acc c s, I acc c → I (acc ++ c.accepted s) (c.next s)) (ss : List Step) (acc : List Operation)
    {c : Client} (h : I acc c) : I (acc ++ acceptedIn ss c) (after ss c) := by
  induction ss generalizing acc c with
  | nil => simpa [acceptedIn] using h
  | cons s ss ih =>
    rw [acceptedIn, ← List.append_assoc, after_cons]
    exact ih _ (hstep acc c s h)

end DocumentStore.Client
