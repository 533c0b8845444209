import DocumentStore.Proofs.Bulk.Traffic

/-! What becomes of a batch of which a request is not answered in time, where such requests are not repeated. It may be
that the store has taken the operations, so none of them is sent again: the request is the last one of its batch, and
the listener hears of the failure. -/

namespace DocumentStore.Bulk.Writer

open Effect Cluster

/-- The request, after some traffic, carries a part of a batch: the submission announced last, which the requests right
before it carry as well. -/
structure Belongs (before : List Event) (r : Request) (number : Nat) (batch ops : List Operation) : Prop where
  announced : ∃ (start : List Event) (attempt : Nat) (rs : List Request),
    before = start ++ .batchSubmitted number attempt ops :: rs.map .request
  part : ops.Sublist batch
  carries : Carries ops r

theorem Belongs.mono {before : List Event} {r : Request} {number : Nat} {batch batch' ops : List Operation}
    (h : Belongs before r number batch ops) (hpart : batch.Sublist batch') (earlier : List Event) :
    Belongs (earlier ++ before) r number batch' ops := by
  obtain ⟨start, attempt, rs, rfl⟩ := h.announced
  exact ⟨⟨earlier ++ start, attempt, rs, by rw [List.append_assoc]⟩, h.part.trans hpart, h.carries⟩

/-- Something at a place of two lists in a row is in the first or in the second. -/
theorem append_eq_append_cons {α : Type} {xs ys before after : List α} {x : α}
    (h : xs ++ ys = before ++ x :: after) :
    (∃ rest, xs = before ++ x :: rest ∧ after = rest ++ ys) ∨
      ∃ rest, before = xs ++ rest ∧ ys = rest ++ x :: after := by
  rcases List.append_eq_append_iff.1 h with ⟨rest, hbefore, hys⟩ | ⟨rest, hxs, hrest⟩
  · exact .inr ⟨rest, hbefore, hys⟩
  · cases rest with
    | nil => exact .inr ⟨[], by simpa using hxs.symm, by simpa using hrest.symm⟩
    | cons y rest =>
      obtain ⟨rfl, htail⟩ := List.cons.inj hrest
      exact .inl ⟨rest, hxs, htail⟩

section submissions

variable {α : Type} {number attempt left : Nat} {ops again : List Operation} {result : Result} {w u v : Writer}
  {es es' : List Event}

/-- The traffic of some submissions of a batch: each request carries a part of it, and one that is not answered in time
is the last of them, and ends them with its failure. -/
structure Submits (number : Nat) (ops : List Operation) (w : Writer) (es : List Event)
    (run : Except Failure α × Writer) : Prop where
  traffic : run.2.traffic = w.traffic ++ es
  terms : SameTerms w run.2
  starts : es.filterMap Event.started? = []
  carried : ∀ before r after, es = before ++ .request r :: after → ∃ part, Belongs before r number ops part
  timeout : ∀ before r after, es = before ++ .request r :: after →
    ∀ e, TimesOut w.cluster.world.network (w.cluster.world.requests ++ before.filterMap Event.request?) r e →
      after = [] ∧ Abandoned (Judged w.cluster) r e run.1

theorem submits_nil (r : Except Failure α) : Submits number ops w [] (r, w) :=
  ⟨(List.append_nil _).symm, .refl w, rfl, by simp, by simp⟩

/-- The same submissions may be taken for others with another result. -/
theorem Submits.outcome {β : Type} {run : Except Failure α × Writer} {r : Except Failure β}
    (h : Submits number ops w es run) (hr : ∀ f, run.1 = .error f → r = .error f) :
    Submits number ops w es (r, run.2) := by
  refine ⟨h.traffic, h.terms, h.starts, h.carried, fun before r after hsplit e hout => ?_⟩
  obtain ⟨hlast, f, hf, hcause⟩ := h.timeout before r after hsplit e hout
  exact ⟨hlast, f, hr f hf, hcause⟩

/-- A place among the events of a submission is one among its requests. -/
theorem announced_split {sent : List Request} {before after : List Event} {r : Request}
    (h : Event.batchSubmitted number attempt ops :: sent.map .request = before ++ .request r :: after) :
    ∃ rs rest, before = .batchSubmitted number attempt ops :: rs.map .request ∧ after = rest.map .request ∧
      sent = rs ++ r :: rest := by
  cases before with
  | nil => cases h
  | cons first before =>
    obtain ⟨rfl, hsent⟩ := List.cons.inj h
    obtain ⟨rs, tail, rfl, rfl, htail⟩ := List.map_eq_append_iff.1 hsent
    obtain ⟨r', rest, rfl, hr, rfl⟩ := List.map_eq_cons_iff.1 htail
    cases hr
    exact ⟨rs, rest, rfl, rfl, rfl⟩

/-- The requests of one submission follow its announcement. -/
theorem submits_once (hoff : w.cluster.connection.retryOnTimeout.truthy = false) (number attempt : Nat)
    (ops : List Operation) (result : Result) :
    ∃ es, Submits number ops w es ((submitOnce number attempt ops result).runOn w) := by
  have hmethod : Text.upperCase "POST" = "POST" := by decide +kernel
  have htarget : Cluster.targetOf (some "_bulk") [] = "/_bulk" := (encode_ok (encode_bulk "")).1.symm
  cases hbody : ndjson ops with
  | error f =>
    rw [submitOnce_unwritable hbody]
    exact ⟨[], submits_nil _⟩
  | ok body =>
    rw [submitOnce_runOn hbody]
    have hlogged : (w.logged (.batchSubmitted number attempt ops)).cluster.world.requests =
      w.cluster.world.requests := requests_record (by simp)
    obtain ⟨sent, hsent⟩ := call_sends (c := (w.logged (.batchSubmitted number attempt ops)).cluster) hoff "POST"
      (some "_bulk") (.lines body) []
    change Cluster.Sends _ _ _ _ sent (answered number attempt ops body w) at hsent
    rw [hmethod, htarget] at hsent
    have hadvances := call_advances (w.logged (.batchSubmitted number attempt ops)).cluster "POST" (some "_bulk")
      (.lines body) []
    refine ⟨.batchSubmitted number attempt ops :: sent.map .request, ?_,
      ⟨hadvances.connection, hadvances.network, hadvances.judged⟩, ?_, ?_, ?_⟩
    · have hall : (sent.map Event.request).filter Event.traffic = sent.map .request := by
        simp [List.filter_eq_self, Event.traffic]
      unfold traffic
      rw [hsent.log]
      simp only [logged, World.record, List.filter_append, hall, List.append_assoc]
      rfl
    · simp [Event.started?]
    · intro before r after hsplit
      obtain ⟨rs, rest, rfl, rfl, rfl⟩ := announced_split hsplit
      obtain ⟨hm, ht, hp⟩ := hsent.alike r (by simp)
      exact ⟨ops, ⟨[], attempt, rs, rfl⟩, List.Sublist.refl _, hm, ht, body, hbody, hp⟩
    · intro before r after hsplit e hout
      obtain ⟨rs, rest, rfl, rfl, rfl⟩ := announced_split hsplit
      have hrequests : (Event.batchSubmitted number attempt ops :: rs.map .request).filterMap Event.request? = rs :=
        filterMap_request rs
      rw [hrequests, ← hlogged] at hout
      obtain ⟨hlast, f, hf, hcause⟩ := hsent.timeout rs r rest rfl e hout
      subst hlast
      refine ⟨rfl, f, ?_, hcause⟩
      simp only [hf]
      rfl

/-- If a submission leads on to others after a while, all of its requests were answered in time. -/
theorem Submits.append {a : α} {β : Type} {run : Except Failure β × Writer} (h : Submits number ops w es (.ok a, v))
    (hu : Aside v u) (hpart : again.Sublist ops) (h' : Submits number again u es' run) :
    Submits number ops w (es ++ es') run := by
  have htraffic : u.traffic = w.traffic ++ es := hu.traffic.trans h.traffic
  have hterms : SameTerms w u := h.terms.trans hu.terms
  have hrequests : u.cluster.world.requests = w.cluster.world.requests ++ es.filterMap Event.request? := by
    rw [requests_eq_traffic, requests_eq_traffic, htraffic, List.filterMap_append]
  refine ⟨?_, hterms.trans h'.terms, ?_, ?_, ?_⟩
  · rw [h'.traffic, htraffic, List.append_assoc]
  · rw [List.filterMap_append, h.starts, h'.starts]
    rfl
  · intro before r after hsplit
    rcases append_eq_append_cons hsplit with ⟨rest, hes, -⟩ | ⟨rest, rfl, hes'⟩
    · exact h.carried before r rest hes
    · obtain ⟨part, hbelongs⟩ := h'.carried rest r after hes'
      exact ⟨part, hbelongs.mono hpart es⟩
  · intro before r after hsplit e hout
    rcases append_eq_append_cons hsplit with ⟨rest, hes, -⟩ | ⟨rest, rfl, hes'⟩
    · obtain ⟨-, f, hf, -⟩ := h.timeout before r rest hes e hout
      cases hf
    · rw [List.filterMap_append, ← List.append_assoc, ← hrequests, ← hterms.network] at hout
      obtain ⟨hlast, f, hf, hcause⟩ := h'.timeout rest r after hes' e hout
      exact ⟨hlast, f, hf, fun hjudged => hcause (hterms.judged.2 hjudged)⟩

theorem submitOnce_part {result' : Result}
    (h : (submitOnce number attempt ops result).runOn w = (.ok (again, result'), v)) : again.Sublist ops := by
  obtain ⟨body, answer, -, -, hsettle, -⟩ := submitOnce_of_ok h
  have hlabels : settle w.processor.policy attempt (ops.map id) result answer = .ok (again, result') := by
    rwa [List.map_id]
  obtain ⟨rfl, -⟩ := settle_eq hlabels
  rw [List.map_id]
  exact readmitted_sublist ..

theorem submits (hoff : w.cluster.connection.retryOnTimeout.truthy = false) (number left attempt : Nat)
    (ops : List Operation) (result : Result) :
    ∃ es, Submits number ops w es ((submit number left attempt ops result).runOn w) := by
  induction left generalizing attempt ops result w with
  | zero =>
    obtain ⟨es, hes⟩ := submits_once hoff number attempt ops result
    rw [submit, runOn_map]
    exact ⟨es, hes.outcome fun f hf => by rw [hf]; rfl⟩
  | succ left ih =>
    obtain ⟨es, hes⟩ := submits_once hoff number attempt ops result
    rcases hrun : (submitOnce number attempt ops result).runOn w with ⟨f | ⟨again, result'⟩, v⟩
    · rw [submit_of_error _ hrun]
      rw [hrun] at hes
      exact ⟨es, hes.outcome fun g hg => by cases hg; rfl⟩
    rw [hrun] at hes
    by_cases hne : again = []
    · rw [submit_of_settled hrun (.inr hne)]
      exact ⟨es, hes.outcome (by simp)⟩
    have hpart := submitOnce_part hrun
    have haside := keeps_aside_awaitRetry (attempt + 1) v
    rcases hwait : (awaitRetry (attempt + 1)).runOn v with ⟨f | _, u⟩
    · rw [hwait] at haside
      rw [submit_of_restless hrun hne hwait]
      exact ⟨es ++ [], hes.append haside hpart (submits_nil _)⟩
    · rw [hwait] at haside
      rw [submit_of_rested hrun hne hwait]
      have hoff' : u.cluster.connection.retryOnTimeout.truthy = false := by
        rw [haside.terms.connection, hes.terms.connection]
        exact hoff
      obtain ⟨es', hes'⟩ := ih hoff' (attempt + 1) again
        { result' with retried := result'.retried + again.length }
      exact ⟨es ++ es', hes.append haside hpart hes'⟩

end submissions

section batch

variable {number : Nat} {batch : List Operation} {w v : Writer} {es : List Event}

/-- The traffic of a batch: it starts, each request carries a part of it, and after one that is not answered in time
there is no other, only the notice that the batch has failed of it. -/
structure Batch (number : Nat) (batch : List Operation) (w : Writer) (es : List Event) (v : Writer) : Prop where
  traffic : v.traffic = w.traffic ++ es
  terms : SameTerms w v
  starts : es.filterMap Event.started? = [(number, batch)]
  carried : ∀ before r later, es = before ++ .request r :: later →
    (number, batch) ∈ before.filterMap Event.started? ∧ ∃ ops, Belongs before r number batch ops
  timeout : ∀ before r later, es = before ++ .request r :: later →
    ∀ e, TimesOut w.cluster.world.network (w.cluster.world.requests ++ before.filterMap Event.request?) r e →
      (∀ r', .request r' ∉ later) ∧ (Judged w.cluster →
        later = [.batchFails number batch (.dispatch (.transport r.method r.url r.endpoint e))])

theorem execute_batch (hoff : w.cluster.connection.retryOnTimeout.truthy = false) (hl : w.processor.listening = true)
    (number : Nat) (batch : List Operation) :
    ∃ es, Batch number batch w es ((execute number batch).runOn w).2 := by
  set u := told (.batchStarts number batch) w with hu
  have hterms : SameTerms w u := told_terms _ w
  obtain ⟨es, hes⟩ := submits (w := u) (by rw [hterms.connection]; exact hoff) number
    w.processor.policy.maxRetries.ceil 0 batch { total := batch.length }
  change Submits number batch u es (submissions number batch w) at hes
  set report := (ending number batch w).report number batch with hreport
  have hquiet : (submissions number batch w).2.processor.listening = true := by
    rw [(submissions_quiet number batch w).processor, told_processor]
    exact hl
  have hheard : ∀ n ∈ report, n.traffic = true := fun n hn => by
    have := report_heard number batch _ n hn
    cases n <;> first | rfl | cases this
  have hrequests : u.cluster.world.requests = w.cluster.world.requests := (idle_told (by simp) w).requests
  -- The notices at both ends are no requests, so a place of a request is one among the submissions.
  have hsplit {before later : List Event} {r : Request}
      (h : .batchStarts number batch :: (es ++ report) = before ++ .request r :: later) :
      ∃ earlier rest, before = .batchStarts number batch :: earlier ∧ es = earlier ++ .request r :: rest ∧
        later = rest ++ report := by
    cases before with
    | nil => cases h
    | cons first before =>
      obtain ⟨rfl, htail⟩ := List.cons.inj h
      rcases append_eq_append_cons htail with ⟨rest, hin, rfl⟩ | ⟨rest, -, hin⟩
      · exact ⟨before, rest, rfl, hin, rfl⟩
      · exact absurd rfl (report_no_request number batch (ending number batch w) (.request r)
          (by rw [← hreport, hin]; simp) r)
  refine ⟨.batchStarts number batch :: (es ++ report), ?_, ?_, ?_, ?_, ?_⟩
  · rw [execute_runOn, foldl_told_traffic hheard hquiet, hes.traffic, hu, told_traffic rfl hl]
    simp
  · rw [execute_runOn]
    exact (hterms.trans hes.terms).trans (foldl_told_terms _ _)
  · have hnone : report.filterMap Event.started? = [] := by
      rw [hreport]
      cases ending number batch w <;> rfl
    rw [List.filterMap_cons, List.filterMap_append, hes.starts, hnone]
    rfl
  · intro before r later h
    obtain ⟨earlier, rest, rfl, hin, -⟩ := hsplit h
    obtain ⟨ops, hbelongs⟩ := hes.carried earlier r rest hin
    exact ⟨List.mem_cons_self, ops, hbelongs.mono (List.Sublist.refl _) [.batchStarts number batch]⟩
  · intro before r later h e hout
    obtain ⟨earlier, rest, rfl, hin, rfl⟩ := hsplit h
    rw [← hrequests, ← hterms.network] at hout
    obtain ⟨rfl, f, hf, hcause⟩ := hes.timeout earlier r rest hin e hout
    refine ⟨fun r' hr' => report_no_request number batch _ _ hr' r' rfl, fun hjudged => ?_⟩
    rw [hcause (hterms.judged.2 hjudged)] at hf
    rw [List.nil_append, hreport, ending, hf]
    rfl

end batch

/-- In this traffic all requests are of batches after the one with the number, and these batches start in it. -/
def Moved (number : Nat) (es : List Event) : Prop :=
  ∀ before r later, es = before ++ .request r :: later → ∃ next batch ops, number < next ∧
    (next, batch) ∈ before.filterMap Event.started? ∧ Belongs before r next batch ops

theorem Moved.append {number : Nat} {es es' : List Event} (h : Moved number es) (h' : Moved number es') :
    Moved number (es ++ es') := by
  intro before r later hsplit
  rcases append_eq_append_cons hsplit with ⟨rest, hes, -⟩ | ⟨rest, rfl, hes'⟩
  · exact h before r rest hes
  · obtain ⟨next, batch, ops, hlt, hstarted, hbelongs⟩ := h' rest r later hes'
    refine ⟨next, batch, ops, hlt, ?_, hbelongs.mono (List.Sublist.refl _) es⟩
    rw [List.filterMap_append]
    exact List.mem_append_right _ hstarted

section run

variable {start w v : Writer} {es es' : List Event}

/-- The traffic of a run: each request carries a part of a batch that has started, and after one that is not answered in
time there are only requests of later batches; next to it stands the notice that its batch has failed of it. -/
structure Chronicle (start w : Writer) (es : List Event) : Prop where
  listening : w.processor.listening = true
  traffic : w.traffic = start.traffic ++ es
  terms : SameTerms start w
  numbered : ∀ b ∈ es.filterMap Event.started?, b.1 ≤ w.processor.batches
  handled : ∀ before r later, es = before ++ .request r :: later → ∃ number batch ops,
    (number, batch) ∈ before.filterMap Event.started? ∧ Belongs before r number batch ops ∧
    ∀ e, TimesOut start.cluster.world.network
        (start.cluster.world.requests ++ before.filterMap Event.request?) r e →
      Moved number later ∧ (Judged start.cluster → ∃ rest,
        later = .batchFails number batch (.dispatch (.transport r.method r.url r.endpoint e)) :: rest)

theorem Chronicle.requests (h : Chronicle start w es) :
    w.cluster.world.requests = start.cluster.world.requests ++ es.filterMap Event.request? := by
  rw [requests_eq_traffic, requests_eq_traffic, h.traffic, List.filterMap_append]

theorem Chronicle.aside (h : Chronicle start w es) (hv : Aside w v) (hlistening : v.processor.listening = true)
    (hbatches : v.processor.batches = w.processor.batches) : Chronicle start v es where
  listening := hlistening
  traffic := hv.traffic.trans h.traffic
  terms := h.terms.trans hv.terms
  numbered := by
    rw [hbatches]
    exact h.numbered
  handled := h.handled

theorem Chronicle.batch {batch : List Operation} (h : Chronicle start w es)
    (hbatch : Batch (w.processor.batches + 1) batch w es' v) (hlistening : v.processor.listening = true)
    (hbatches : v.processor.batches = w.processor.batches + 1) : Chronicle start v (es ++ es') := by
  refine ⟨hlistening, ?_, h.terms.trans hbatch.terms, ?_, ?_⟩
  · rw [hbatch.traffic, h.traffic, List.append_assoc]
  · intro b hb
    rw [List.filterMap_append, hbatch.starts] at hb
    rw [hbatches]
    rcases List.mem_append.1 hb with hb | hb
    · exact Nat.le_succ_of_le (h.numbered b hb)
    · obtain rfl := List.mem_singleton.1 hb
      exact Nat.le_refl _
  · intro before r later hsplit
    -- What follows a request of the earlier batches now goes on with this one, which has a later number.
    rcases append_eq_append_cons hsplit with ⟨rest, hes, rfl⟩ | ⟨rest, rfl, hes'⟩
    · obtain ⟨number, part, ops, hstarted, hbelongs, htimeout⟩ := h.handled before r rest hes
      refine ⟨number, part, ops, hstarted, hbelongs, fun e hout => ?_⟩
      obtain ⟨hmoved, hnotice⟩ := htimeout e hout
      have hle : number ≤ w.processor.batches := by
        apply h.numbered (number, part)
        rw [hes, List.filterMap_append]
        exact List.mem_append_left _ hstarted
      refine ⟨hmoved.append fun before' r' later' h' => ?_, fun hjudged => ?_⟩
      · obtain ⟨hstarted', ops', hbelongs'⟩ := hbatch.carried before' r' later' h'
        exact ⟨_, batch, ops', Nat.lt_succ_of_le hle, hstarted', hbelongs'⟩
      · obtain ⟨tail, rfl⟩ := hnotice hjudged
        exact ⟨tail ++ es', rfl⟩
    · obtain ⟨hstarted, ops, hbelongs⟩ := hbatch.carried rest r later hes'
      refine ⟨w.processor.batches + 1, batch, ops, ?_, hbelongs.mono (List.Sublist.refl _) es, fun e hout => ?_⟩
      · rw [List.filterMap_append]
        exact List.mem_append_right _ hstarted
      · rw [List.filterMap_append, ← List.append_assoc, ← h.requests, ← h.terms.network] at hout
        obtain ⟨hlast, hnotice⟩ := hbatch.timeout rest r later hes' e hout
        refine ⟨fun before' r' later' h' => ?_, fun hjudged => ⟨[], ?_⟩⟩
        · exact absurd (by rw [h']; simp) (hlast r')
        · exact hnotice (h.terms.judged.2 hjudged)

theorem next_chronicle (hoff : start.cluster.connection.retryOnTimeout.truthy = false) {s : Step}
    (hs : ∀ ops, s ≠ .addAll ops) (h : Chronicle start w es) : ∃ es', Chronicle start (w.next s) es' := by
  obtain ⟨v, hv, ⟨hf, r, hr⟩ | ⟨hf, hr⟩⟩ := perform_cases w hs
  · have hnext : w.next s = v := by rw [next, hr]
    have haside := aside_of_not_flushing hs hf
    rw [hnext] at haside ⊢
    exact ⟨es, h.aside haside (hv.listening.trans h.listening) hv.batches⟩
  have hnext : w.next s = (flush.runOn v).2 := by rw [next, hr]
  have hstart : Chronicle start v es := h.aside (aside_of_flushing hf) (hv.listening.trans h.listening) hv.batches
  rw [hnext]
  by_cases hq : v.processor.queue = []
  · rw [flush_of_nil hq]
    exact ⟨es, hstart.aside (aside_of_cluster rfl) hstart.listening rfl⟩
  · rw [flush_of_ne_nil hq]
    have hoff' : v.emptied.cluster.connection.retryOnTimeout.truthy = false := by
      have hconnection : v.emptied.cluster.connection = start.cluster.connection := hstart.terms.connection
      rw [hconnection]
      exact hoff
    obtain ⟨es', hbatch⟩ :=
      execute_batch hoff' hstart.listening (v.processor.batches + 1) v.processor.queue
    have hprocessor := execute_processor (v.processor.batches + 1) v.processor.queue v.emptied
    have hv' : Batch (v.processor.batches + 1) v.processor.queue v es' _ :=
      ⟨hbatch.traffic, ⟨hbatch.terms.connection, hbatch.terms.network, hbatch.terms.judged⟩, hbatch.starts,
        hbatch.carried, hbatch.timeout⟩
    exact ⟨es ++ es', hstart.batch hv' (by rw [hprocessor]; exact hstart.listening) (by rw [hprocessor]; rfl)⟩

end run

/-- Where requests are not repeated that are not answered in time, such a request is the last one that carries any of
its operations. The operations that a run accepts go into batches, each into one, and the rest waits in the queue; each
request carries a part of a batch that has started. After one that is not answered in time there are only requests of
later batches, and the next thing that goes on is that the listener hears of the failure of its batch, if a failure of
a node can be marked at all. Without a listener the same requests are sent, and commands are such runs. -/
theorem abandoned_at_timeout {threshold flushInterval : Json} {policy : RetryPolicy} {listening : Bool} {now : Quantity}
    {p : Processor} (hp : Processor.build threshold flushInterval policy listening now = .ok p) {c : Cluster}
    (hoff : c.connection.retryOnTimeout.truthy = false) :
    (∀ ss : List Step, ∃ es,
      (after ss (attended ⟨p, c⟩)).traffic = traffic ⟨p, c⟩ ++ es ∧
      (after ss ⟨p, c⟩).cluster.world.requests = c.world.requests ++ es.filterMap Event.request? ∧
      (es.filterMap Event.started?).flatMap Prod.snd ++ (after ss ⟨p, c⟩).processor.queue = acceptedIn ss ⟨p, c⟩ ∧
      (es.filterMap Event.started?).map Prod.fst = List.range' 1 (after ss ⟨p, c⟩).processor.batches ∧
      ∀ before r later, es = before ++ .request r :: later → ∃ number batch ops,
        (number, batch) ∈ before.filterMap Event.started? ∧ Belongs before r number batch ops ∧
        ∀ e, TimesOut c.world.network (c.world.requests ++ before.filterMap Event.request?) r e →
          Moved number later ∧ (Judged c → ∃ rest,
            later = .batchFails number batch (.dispatch (.transport r.method r.url r.endpoint e)) :: rest)) ∧
    ∀ cs : List Command, Reaches ⟨p, c⟩ ((runAll cs).runOn ⟨p, c⟩).2 := by
  obtain ⟨hqueue, hbatches, -⟩ := build_fresh hp
  refine ⟨fun ss => ?_, fun cs => reaches_runAll cs ⟨p, c⟩⟩
  set w : Writer := ⟨p, c⟩
  have haccounted : Accounted w.drained [] w.attended :=
    ⟨rfl, [], (List.append_nil _).symm, by simp [attended, w, hqueue], by simp [attended, w, hbatches], by simp⟩
  have hchronicle : Chronicle w w.attended [] :=
    ⟨rfl, (List.append_nil _).symm, ⟨rfl, rfl, .rfl⟩, by simp, by simp⟩
  have hstep (acc : List Operation) (v : Writer) (s : Step) (hs : ∀ ops, s ≠ .addAll ops)
      (h : Accounted w.drained acc v ∧ ∃ es, Chronicle w v es) :
      Accounted w.drained (acc ++ v.accepted s) (v.next s) ∧ ∃ es, Chronicle w (v.next s) es := by
    obtain ⟨ha, es, hes⟩ := h
    exact ⟨next_accounted hs ha, next_chronicle hoff hs hes⟩
  obtain ⟨⟨-, batches, hdrained, hops, hnumbers, -⟩, es, hes⟩ :=
    after_induction hstep ss [] ⟨haccounted, [], hchronicle⟩
  have hstarted : es.filterMap Event.started? = batches := by
    rw [drained_eq_traffic, drained_eq_traffic, hes.traffic, List.filterMap_append] at hdrained
    exact List.append_cancel_left hdrained
  refine ⟨es, hes.traffic, ?_, ?_, ?_, hes.handled⟩
  · rw [← requests_attended, hes.requests]
  · rw [hstarted, ← queue_attended, hops, List.nil_append, acceptedIn_attended]
  · rw [hstarted, hnumbers, batches_attended]

/-- A network whose first answer never comes in time. -/
def sluggish : Cluster.Network where
  respond earlier _ :=
    if earlier.isEmpty then .failure ⟨.timeout, "", none⟩ else .response (.int 200) (.text "\x7b\x7d")

/-- A processor that submits each operation at once, and that somebody listens to. -/
def hasty : Processor where
  threshold := .int 1
  flushInterval := none
  policy := {}
  listening := true
  lastFlush := .float 0.0

/-- The first of two batches is not answered in time, and its request is not repeated, though another node is there to
be asked; the request of the second batch goes out after that. -/
theorem abandoned_at_timeout_once :
    Processor.build (.int 1) .null {} true (.float 0.0) = .ok hasty ∧
    ∃ es, es.filterMap Event.request? =
        (after [.add (deletion "1"), .add (deletion "2")] ⟨hasty, twins sluggish⟩).cluster.world.requests ∧
      (es.filterMap Event.request?).length = 2 ∧
      ∃ before r later, es = before ++ .request r :: later ∧ ∃ number batch e rest, Moved number later ∧
        later = .batchFails number batch (.dispatch (.transport r.method r.url r.endpoint e)) :: rest := by
  have hp : Processor.build (.int 1) .null {} true (.float 0.0) = .ok hasty := rfl
  obtain ⟨hrun, -⟩ := abandoned_at_timeout hp (c := twins sluggish) rfl
  obtain ⟨es, -, hrequests, -, -, hhandled⟩ := hrun [.add (deletion "1"), .add (deletion "2")]
  have hcount : (after [.add (deletion "1"), .add (deletion "2")]
      ⟨hasty, twins sluggish⟩).cluster.world.requests.length = 2 := by decide +kernel
  have htwo : (es.filterMap Event.request?).length = 2 := by
    rw [← hcount, hrequests]
    rfl
  obtain ⟨r, rs, hfirst⟩ := List.exists_cons_of_length_pos (l := es.filterMap Event.request?) (by omega)
  obtain ⟨before, x, later, rfl, hnone, hx, -⟩ := List.filterMap_eq_cons_iff.1 hfirst
  obtain rfl : x = .request r := by
    cases x <;> cases hx
    rfl
  obtain ⟨number, batch, ops, -, -, htimeout⟩ := hhandled before r later rfl
  have hout : TimesOut (twins sluggish).world.network
      ((twins sluggish).world.requests ++ before.filterMap Event.request?) r ⟨.timeout, "", none⟩ := by
    rw [List.filterMap_eq_nil_iff.2 hnone]
    exact ⟨rfl, rfl⟩
  obtain ⟨hmoved, hnotice⟩ := htimeout _ hout
  obtain ⟨rest, hrest⟩ := hnotice ⟨rfl, rfl⟩
  exact ⟨hp, _, hrequests.symm, htwo, before, r, later, rfl, number, batch, _, rest, hmoved, hrest⟩

/-- Where a node that fails is to be removed for a time that cannot be told, or no threshold is given for its failures, the
listener never hears that a batch has failed whose request is not answered in time. -/
theorem timeout_goes_unreported :
    let untold := twinsWith { failureThreshold := .int 1, resurrectTimeout := Node.Health.overlong } sluggish
    let unlimited := { twins sluggish with health := ⟨none, some (.float 60.0), []⟩ }
    Processor.build (.int 1) .null {} true (.float 0.0) = .ok hasty ∧ Reachable untold ∧
      ∀ c ∈ [untold, unlimited], c.connection.retryOnTimeout.truthy = false ∧
        (after [.add (deletion "1")] ⟨hasty, c⟩).cluster.world.requests.length = 1 ∧
        ∀ number ops cause,
          .batchFails number ops cause ∉ (after [.add (deletion "1")] ⟨hasty, c⟩).cluster.world.log := by
  intro untold unlimited
  have hunheard {w : Writer} (h : (w.cluster.world.log.all fun
      | .batchFails .. => false
      | _ => true) = true) (number : Nat) (ops : List Operation) (cause : BatchCause) :
      .batchFails number ops cause ∉ w.cluster.world.log := fun hmem => by simpa using List.all_eq_true.1 h _ hmem
  refine ⟨rfl, twinsWith_reachable rfl rfl (ofFields_of_limits (by decide) (by decide +kernel)) sluggish, ?_⟩
  refine List.forall_mem_cons.2 ⟨⟨rfl, by decide +kernel, hunheard (by decide +kernel)⟩, List.forall_mem_singleton.2 ?_⟩
  exact ⟨rfl, by decide +kernel, hunheard (by decide +kernel)⟩

end DocumentStore.Bulk.Writer
