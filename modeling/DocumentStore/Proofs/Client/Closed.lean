import DocumentStore.Proofs.Client.Listening

/-! What a close leaves behind. The client and its processor keep separate flags; they agree as long as no start sets up
a processor after the client is closed, and then a close that comes back leaves nothing unsent. A processor that is set
up later is never closed. -/

namespace DocumentStore.Client

open Effect
open Bulk (Operation Processor Writer)

/-- The processor is closed if the client is, and only then; and then nothing is left in it. -/
structure Agrees (c : Client) (p : Processor) : Prop where
  closed : p.closed = c.closed
  queue : c.closed = true → p.queue = []
  timer : c.closed = true → p.timer = false

/-- The client has no processor that it does not agree with. -/
def Tidy (c : Client) : Prop := ∀ p ∈ c.processor, c.Agrees p

/-- The client is closed, and has a processor that is not. -/
def Stranded (c : Client) : Prop := c.closed = true ∧ ∃ p ∈ c.processor, p.closed = false

/-- A step sets up a processor for a client that is closed. -/
def Revives (c : Client) (s : Step) : Prop :=
  s = .start ∧ c.closed = true ∧ c.processor = none ∧ (c.next s).processor.isSome = true

/-- Some step of a run sets up a processor for a client that is closed. -/
def RevivesIn (ss : List Step) (c : Client) : Prop :=
  ∃ before s later, ss = before ++ s :: later ∧ (after before c).Revives s

section step

variable {c v : Client} {s : Step}

theorem tidy_of_none (h : c.processor = none) : c.Tidy := by
  intro p hp
  rw [h] at hp
  cases hp

theorem Quiet.tidy (h : Quiet c v) (hc : c.Tidy) : v.Tidy := by
  intro p hp
  rw [h.processor] at hp
  obtain ⟨hclosed, hqueue, htimer⟩ := hc p hp
  rw [← h.closed] at hclosed hqueue htimer
  exact ⟨hclosed, hqueue, htimer⟩

theorem Quiet.stranded (h : Quiet c v) (hc : c.Stranded) : v.Stranded := by
  unfold Stranded
  rw [h.closed, h.processor]
  exact hc

/-- What is asked of the processor does not close it, and adds nothing to one that is closed. -/
theorem errand_tidy {t : Bulk.Step} (herrand : s.errand? = some t) (hc : c.Tidy) : (c.next s).Tidy := by
  rw [next_of_errand herrand]
  cases hw : c.writer? with
  | none => exact hc
  | some w =>
    obtain ⟨hclosed, hqueue, htimer⟩ := hc w.processor (writer?_eq_some.1 hw).1
    have hnext : (w.next t).processor.closed = c.closed :=
      (Writer.next_closed fun _ => s.errand_ne_close herrand _).trans hclosed
    have hspent (h : c.closed = true) : (w.next t).Spent :=
      have hw : w.Spent := ⟨hqueue h, htimer h, hclosed.trans h⟩
      (Writer.next_lingers hw t).spent hw
    rintro p ⟨⟩
    exact ⟨hnext, fun h => (hspent h).queue, fun h => (hspent h).timer⟩

theorem errand_stranded {t : Bulk.Step} (herrand : s.errand? = some t) (hc : c.Stranded) : (c.next s).Stranded := by
  rw [next_of_errand herrand]
  cases hw : c.writer? with
  | none => exact hc
  | some w =>
    obtain ⟨hclosed, p, hp, hopen⟩ := hc
    obtain ⟨hprocessor, -⟩ := writer?_eq_some.1 hw
    obtain rfl : w.processor = p := Option.some.inj (hprocessor.symm.trans hp)
    exact ⟨hclosed, _, rfl, (Writer.next_closed fun _ => s.errand_ne_close herrand _).trans hopen⟩

theorem close_tidy (hc : c.Tidy) : (c.next .close).Tidy := by
  rw [next_close]
  cases hclosed : c.closed with
  | true =>
    rw [close_of_closed hclosed]
    exact hc
  | false =>
    cases hw : c.writer? with
    | none =>
      have hp : c.processor = none := writer?_eq_none.1 hw
      rw [close_of_none hclosed hw]
      exact tidy_of_none hp
    | some w =>
      rw [close_of_some hclosed hw]
      obtain ⟨hopen, -, -⟩ := hc w.processor (writer?_eq_some.1 hw).1
      have hspent := Writer.spent_close (hopen.trans hclosed) w.joins_null
      rintro p ⟨⟩
      exact ⟨hspent.closed, fun _ => hspent.queue, fun _ => hspent.timer⟩

/-- A start leaves a tidy client tidy, unless it sets up a processor for one that is closed. -/
theorem start_tidy (hc : c.Tidy) (h : ¬c.Revives .start) : (c.next .start).Tidy := by
  cases hp : c.processor with
  | some p =>
    rw [next_start, start_of_some (by rw [hp]; rfl)]
    exact hc
  | none =>
    obtain ⟨v, hv, ⟨f, hrun⟩ | ⟨w, hqueue, -, hopen, -, -, hrun⟩⟩ := start_cases hp
    · rw [next_start, hrun]
      exact hv.tidy hc
    · have hnext : c.next .start = v.holding w := by rw [next_start, hrun]
      have hclosed : v.closed = false := by
        by_contra hclosed
        refine h ⟨rfl, ?_, hp, by rw [hnext]; rfl⟩
        rw [← hv.closed]
        simpa using hclosed
      rw [hnext]
      rintro p ⟨⟩
      exact ⟨hopen.trans hclosed.symm, fun _ => hqueue, fun htrue => absurd (hclosed.symm.trans htrue) (by simp)⟩

theorem next_tidy (hc : c.Tidy) (h : ¬c.Revives s) : (c.next s).Tidy := by
  rcases step_cases s with ⟨t, herrand⟩ | rfl | rfl | ⟨-, hquiet⟩
  · exact errand_tidy herrand hc
  · exact start_tidy hc h
  · exact close_tidy hc
  · exact (hquiet c).tidy hc

/-- Neither a start nor a close does anything to a client that is stranded. -/
theorem next_stranded (hc : c.Stranded) (s : Step) : (c.next s).Stranded := by
  obtain ⟨hclosed, p, hp, -⟩ := id hc
  rcases step_cases s with ⟨t, herrand⟩ | rfl | rfl | ⟨-, hquiet⟩
  · exact errand_stranded herrand hc
  · rw [next_start, start_of_some (by rw [hp]; rfl)]
    exact hc
  · rw [next_close, close_of_closed hclosed]
    exact hc
  · exact (hquiet c).stranded hc

theorem stranded_of_revives (h : c.Revives s) : (c.next s).Stranded := by
  obtain ⟨rfl, hclosed, hnone, hsome⟩ := h
  obtain ⟨v, hv, ⟨f, hrun⟩ | ⟨w, -, -, hopen, -, -, hrun⟩⟩ := start_cases hnone
  · rw [next_start, hrun, hv.processor, hnone] at hsome
    cases hsome
  · have hnext : c.next .start = v.holding w := by rw [next_start, hrun]
    rw [hnext]
    exact ⟨hv.closed.trans hclosed, _, rfl, hopen⟩

end step

theorem after_stranded {c : Client} (hc : c.Stranded) (ss : List Step) : (after ss c).Stranded := by
  induction ss generalizing c with
  | nil => exact hc
  | cons s ss ih => exact ih (next_stranded hc s)

theorem not_revivesIn_nil (c : Client) : ¬RevivesIn [] c := by
  rintro ⟨before, s, later, hss, -⟩
  simp at hss

theorem revivesIn_cons (s : Step) (ss : List Step) (c : Client) :
    RevivesIn (s :: ss) c ↔ c.Revives s ∨ RevivesIn ss (c.next s) := by
  constructor
  · rintro ⟨before, t, later, hss, h⟩
    cases before with
    | nil =>
      obtain ⟨rfl, -⟩ := List.cons.inj hss
      exact .inl h
    | cons u before =>
      obtain ⟨rfl, rfl⟩ := List.cons.inj hss
      exact .inr ⟨before, t, later, rfl, h⟩
  · rintro (h | ⟨before, t, later, rfl, h⟩)
    · exact ⟨[], s, ss, rfl, h⟩
    · exact ⟨s :: before, t, later, rfl, h⟩

/-- A client stays tidy until a step sets up a processor for it after its close, and is stranded from then on. -/
theorem after_tidy {c : Client} (hc : c.Tidy) (ss : List Step) :
    (RevivesIn ss c ∧ (after ss c).Stranded) ∨ (¬RevivesIn ss c ∧ (after ss c).Tidy) := by
  induction ss generalizing c with
  | nil => exact .inr ⟨not_revivesIn_nil c, hc⟩
  | cons s ss ih =>
    rw [revivesIn_cons, after_cons]
    by_cases h : c.Revives s
    · exact .inl ⟨.inl h, after_stranded (stranded_of_revives h) ss⟩
    · simpa [h] using ih (next_tidy hc h)

/-! ### What has been carried out -/

/-- The batches that the listener of a client has heard of, with their numbers, in their order. -/
def drained (c : Client) : List (Nat × List Operation) := c.cluster.world.log.filterMap Event.started?

theorem drained_eq_heard (c : Client) : c.drained = c.heard.filterMap Event.started? :=
  (filterMap_started_heard c.cluster.world.log).symm

/-- The invariant of a run that starts where the batches `before` are started: what has been accepted since is in
later batches or in the queue of the processor. -/
def Accounted (before : List (Nat × List Operation)) (acc : List Operation) (c : Client) : Prop :=
  c.listening = true ∧
    match c.writer? with
    | some w => w.Accounted before acc
    | none => c.drained = before ∧ acc = []

section accounted

variable {before : List (Nat × List Operation)} {acc : List Operation} {c v : Client} {s : Step}

theorem accounted_of_some {w : Writer} (h : c.Accounted before acc) (hw : c.writer? = some w) :
    w.Accounted before acc := by
  have := h.2
  rwa [hw] at this

theorem accounted_of_none (h : c.Accounted before acc) (hw : c.writer? = none) : c.drained = before ∧ acc = [] := by
  have := h.2
  rwa [hw] at this

/-- What is heard and what is queued is all that counts. -/
theorem accounted_of_quiet {u w : Writer} (h : Writer.Quiet u w) (hu : u.Accounted before acc) :
    w.Accounted before acc := by
  obtain ⟨hl, batches, hd, ha⟩ := hu
  refine ⟨by rw [h.processor]; exact hl, batches, ?_, by simpa using ha.enqueues (.of_quiet h)⟩
  rw [Writer.drained_eq_heard, h.heard, ← Writer.drained_eq_heard, hd]

theorem accounted_of_heard (hl : v.listening = c.listening) (hp : v.processor = c.processor) (hh : v.heard = c.heard)
    (hc : c.Accounted before acc) : v.Accounted before acc := by
  refine ⟨hl.trans hc.1, ?_⟩
  cases hw : c.writer? with
  | none =>
    obtain ⟨hd, hacc⟩ := accounted_of_none hc hw
    have hv : v.writer? = none := writer?_eq_none.2 (hp.trans (writer?_eq_none.1 hw))
    rw [hv, drained_eq_heard, hh, ← drained_eq_heard]
    exact ⟨hd, hacc⟩
  | some w =>
    obtain ⟨hprocessor, hcluster⟩ := writer?_eq_some.1 hw
    have hv : v.writer? = some ⟨w.processor, v.cluster⟩ := writer?_eq_some.2 ⟨hp.trans hprocessor, rfl⟩
    have hheard : w.heard = c.heard := by
      unfold Client.heard
      rw [hcluster]
      rfl
    rw [hv]
    exact accounted_of_quiet (u := w) ⟨rfl, hh.trans hheard.symm⟩ (accounted_of_some hc hw)

theorem Quiet.accounted (h : Quiet c v) (hc : c.Accounted before acc) : v.Accounted before acc :=
  accounted_of_heard h.listening h.processor h.heard hc

theorem accounted_released (h : c.Accounted before acc) : c.released.Accounted before acc :=
  accounted_of_heard (c := c) rfl rfl (heard_released c) h

theorem accepted_of_errand_none (h : s.errand? = none) (c : Client) : c.accepted s = [] := by
  unfold accepted
  rw [h]
  split <;> simp_all

theorem errand_accounted {t : Bulk.Step} (herrand : s.errand? = some t) (h : c.Accounted before acc) :
    (c.next s).Accounted before (acc ++ c.accepted s) := by
  rw [next_of_errand herrand]
  unfold accepted
  rw [herrand]
  cases hw : c.writer? with
  | none =>
    simp only [List.append_nil]
    exact h
  | some w =>
    have hnext := Writer.next_accounted (fun _ => s.errand_ne_addAll herrand _) (accounted_of_some h hw)
    exact ⟨h.1, hnext⟩

theorem start_accounted (h : c.Accounted before acc) : (c.next .start).Accounted before acc := by
  cases hp : c.processor with
  | some p =>
    rw [next_start, start_of_some (by rw [hp]; rfl)]
    exact h
  | none =>
    obtain ⟨v, hv, ⟨f, hrun⟩ | ⟨w, hqueue, hbatches, -, hlistening, hheard, hrun⟩⟩ := start_cases hp
    · rw [next_start, hrun]
      exact hv.accounted h
    · obtain ⟨hd, rfl⟩ := accounted_of_none h (writer?_eq_none.2 hp)
      have hnext : c.next .start = v.holding w := by rw [next_start, hrun]
      have hdrained : w.drained = before := by
        rw [Writer.drained_eq_heard, hheard, ← drained_eq_heard, hd]
      rw [hnext]
      exact ⟨hv.listening.trans h.1, hlistening.trans h.1, [], hdrained.trans (List.append_nil _).symm,
        hqueue, by rw [hbatches]; rfl, by simp⟩

theorem close_accounted (h : c.Accounted before acc) : (c.next .close).Accounted before acc := by
  rw [next_close]
  cases hclosed : c.closed with
  | true =>
    rw [close_of_closed hclosed]
    exact h
  | false =>
    cases hw : c.writer? with
    | none =>
      rw [close_of_none hclosed hw]
      have hretired : c.retired.Accounted before acc := h
      exact accounted_released hretired
    | some w =>
      have hnext : Writer.Accounted before (acc ++ []) (w.next (.close .null)) :=
        Writer.next_accounted (by simp) (accounted_of_some h hw)
      rw [List.append_nil] at hnext
      rw [close_of_some hclosed hw]
      have hheld : (c.retired.holding (w.next (.close .null))).Accounted before acc := ⟨h.1, hnext⟩
      exact accounted_released hheld

theorem next_accounted (h : c.Accounted before acc) : (c.next s).Accounted before (acc ++ c.accepted s) := by
  rcases step_cases s with ⟨t, herrand⟩ | rfl | rfl | ⟨hnone, hquiet⟩
  · exact errand_accounted herrand h
  · rw [accepted_of_errand_none rfl, List.append_nil]
    exact start_accounted h
  · rw [accepted_of_errand_none rfl, List.append_nil]
    exact close_accounted h
  · rw [accepted_of_errand_none hnone, List.append_nil]
    exact (hquiet c).accounted h

end accounted

/-- Only a close closes a client. -/
theorem next_closed {s : Step} (hs : s ≠ .close) (c : Client) : (c.next s).closed = c.closed := by
  rcases step_cases s with ⟨t, herrand⟩ | rfl | rfl | ⟨-, hquiet⟩
  · rw [next_of_errand herrand]
    cases c.writer? <;> rfl
  · rw [next_start]
    cases hp : c.processor with
    | some p => rw [start_of_some (by rw [hp]; rfl)]
    | none =>
      obtain ⟨v, hv, ⟨f, hrun⟩ | ⟨w, -, -, -, -, -, hrun⟩⟩ := start_cases hp
      · rw [hrun]
        exact hv.closed
      · rw [hrun]
        exact hv.closed
  · exact absurd rfl hs
  · exact (hquiet c).closed

theorem close_closed (c : Client) : (c.next .close).closed = true := by
  rw [next_close]
  cases hclosed : c.closed with
  | true =>
    rw [close_of_closed hclosed]
    exact hclosed
  | false =>
    cases hw : c.writer? with
    | none =>
      rw [close_of_none hclosed hw]
      rfl
    | some w =>
      rw [close_of_some hclosed hw]
      rfl

/-- Without a close no start comes after one. -/
theorem not_revivesIn {ss : List Step} {c : Client} (hopen : c.closed = false) (h : .close ∉ ss) : ¬RevivesIn ss c := by
  induction ss generalizing c with
  | nil => exact not_revivesIn_nil c
  | cons s ss ih =>
    rw [List.mem_cons, not_or] at h
    obtain ⟨hs, hss⟩ := h
    rw [revivesIn_cons]
    rintro (⟨-, hclosed, -⟩ | hlater)
    · rw [hopen] at hclosed
      cases hclosed
    · exact ih ((next_closed (Ne.symm hs) c).trans hopen) hss hlater

/-- Unless a step of a run sets up a processor for a client that is closed already, a close at the end of the run leaves
nothing unsent, whatever it comes to: the processor is closed, its queue is empty, and what the run has accepted is in
batches that were started, each operation once and in order. Otherwise the close comes back at once, and the processor
stays open. The same goes for whatever commands are run. -/
theorem close_leaves_nothing_unsent {c : Client} (hnew : c.processor = none) :
    (∀ ss : List Step,
      (¬RevivesIn ss c →
        (∀ p ∈ (close.runOn (after ss c)).2.processor, p.closed = true ∧ p.queue = []) ∧
        ∃ batches, (close.runOn (after ss c.attended)).2.drained = c.drained ++ batches ∧
          batches.flatMap Prod.snd = acceptedIn ss c) ∧
      (RevivesIn ss c → close.runOn (after ss c) = (.ok (), after ss c) ∧
        ∃ p ∈ (after ss c).processor, p.closed = false)) ∧
    ∀ cs : List Command, Reaches c ((runAll cs).runOn c).2 := by
  refine ⟨fun ss => ⟨fun hno => ?_, fun hrevives => ?_⟩, fun cs => reaches_runAll cs c⟩
  · have htidy : (after ss c).Tidy := by
      rcases after_tidy (tidy_of_none hnew) ss with ⟨hyes, -⟩ | ⟨-, htidy⟩
      · exact absurd hyes hno
      · exact htidy
    have hclose := close_tidy htidy
    have hclosed := close_closed (after ss c)
    have hspent (p : Processor) (hp : p ∈ (close.runOn (after ss c)).2.processor) : p.closed = true ∧ p.queue = [] := by
      obtain ⟨hagrees, hqueue, -⟩ := hclose p hp
      exact ⟨hagrees.trans hclosed, hqueue hclosed⟩
    refine ⟨hspent, ?_⟩
    -- what is started is told to a listener, so the batches are those of the run that somebody listens to
    have hbase : c.attended.Accounted c.drained [] := by
      refine ⟨rfl, ?_⟩
      have hnone : c.attended.processor = none := congrArg (Option.map _) hnew
      rw [writer?_eq_none.2 hnone]
      exact ⟨rfl, rfl⟩
    have hend := close_accounted (after_induction (fun acc c s => next_accounted) ss [] hbase)
    rw [List.nil_append, acceptedIn_attended] at hend
    cases hw : ((after ss c.attended).next .close).writer? with
    | none =>
      obtain ⟨hdrained, haccepted⟩ := accounted_of_none hend hw
      exact ⟨[], hdrained.trans (List.append_nil _).symm, haccepted.symm⟩
    | some w =>
      obtain ⟨-, batches, hdrained, hbatches⟩ := accounted_of_some hend hw
      obtain ⟨hprocessor, hcluster⟩ := writer?_eq_some.1 hw
      have hqueue : w.processor.queue = [] := by
        obtain ⟨p, hp, hsame⟩ := queue_of_deaf (next_attended ss .close c) hprocessor
        rw [hsame]
        exact (hspent p hp).2
      refine ⟨batches, ?_, ?_⟩
      · rw [← hdrained, ← next_close]
        unfold drained Writer.drained
        rw [hcluster]
      · rw [← hbatches.operations, hqueue, List.append_nil]
  · rcases after_tidy (tidy_of_none hnew) ss with ⟨-, hclosed, p, hp, hopen⟩ | ⟨hno, -⟩
    · exact ⟨close_of_closed hclosed, p, hp, hopen⟩
    · exact absurd hrevives hno

/-- The answer of a store to whoever asks for its version. -/
def versionAnswer : String := "\x7b\"version\":\x7b\"number\":\"7.17.3\"\x7d\x7d"

/-- A network whose store has a version and takes whatever is submitted. -/
def versioned : Cluster.Network where
  respond _ r := .response (.int 200) (.text (if r.method = "GET" then versionAnswer else "\x7b\x7d"))

/-- A client that was just created, with nothing set up. -/
def novice : Client where
  settings := {
    nodes := Settings.defaultNodes, username := .null, password := .null, apiKey := .whole .null
    sslVerification := .bool true, caCerts := .null, bulkSize := .int 100, flushInterval := none, pipeline := .null
    index := .null, indexFolder := .null, addAsInnerObject := .bool false, jsonSupport := .bool false
    xmlSupport := .bool false, indexFolders := .bool false, bulkMaxRetries := .int 3, bulkRetryDelay := .int 1
    connection := .checked {} }
  mappings := none
  policy := {}
  listening := true
  cluster := Cluster.twins versioned

/-- A client that is started before it is closed leaves nothing of what it has accepted. -/
theorem close_leaves_nothing_unsent_once :
    (close.runOn (after [.start, .add (Bulk.deletion "1")] novice)).2.processor.isSome = true ∧
    (∀ p ∈ (close.runOn (after [.start, .add (Bulk.deletion "1")] novice)).2.processor,
      p.closed = true ∧ p.queue = []) ∧
    ∃ batches, (close.runOn (after [.start, .add (Bulk.deletion "1")] novice.attended)).2.drained =
        novice.drained ++ batches ∧
      (batches.flatMap Prod.snd).length = 1 := by
  have hno : ¬RevivesIn [.start, .add (Bulk.deletion "1")] novice := not_revivesIn rfl (by simp)
  obtain ⟨hrun, -⟩ := close_leaves_nothing_unsent (c := novice) rfl
  obtain ⟨hclosed, batches, hdrained, haccepted⟩ := (hrun [.start, .add (Bulk.deletion "1")]).1 hno
  have hsome : (close.runOn (after [.start, .add (Bulk.deletion "1")] novice)).2.processor.isSome = true := by
    decide +kernel
  have hone : (acceptedIn [.start, .add (Bulk.deletion "1")] novice).length = 1 := by decide +kernel
  exact ⟨hsome, hclosed, batches, hdrained, by rw [haccepted, hone]⟩

/-- A client that is closed, started and closed again keeps a deletion in a processor that is open, and says nothing of
it. -/
theorem reopened_client_keeps_deletion :
    ∃ v p, close.runOn (after [.close, .start, .add (Bulk.deletion "1")] novice) = (.ok (), v) ∧
      v.processor = some p ∧ p.closed = false ∧ p.queue.length = 1 ∧ v.drained.length = 0 := by
  have hclosed : (after [.close, .start, .add (Bulk.deletion "1")] novice).closed = true := by decide +kernel
  have hwaits : ((after [.close, .start, .add (Bulk.deletion "1")] novice).processor.any fun p =>
      !p.closed && p.queue.length = 1) = true := by decide +kernel
  have hnothing : (after [.close, .start, .add (Bulk.deletion "1")] novice).drained.length = 0 := by decide +kernel
  cases hp : (after [.close, .start, .add (Bulk.deletion "1")] novice).processor with
  | none =>
    rw [hp] at hwaits
    cases hwaits
  | some p =>
    rw [hp] at hwaits
    obtain ⟨hopen, hone⟩ : p.closed = false ∧ p.queue.length = 1 := by simpa using hwaits
    exact ⟨_, p, close_of_closed hclosed, hp, hopen, hone, hnothing⟩

end DocumentStore.Client
