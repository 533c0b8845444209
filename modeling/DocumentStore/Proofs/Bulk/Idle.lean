import DocumentStore.Proofs.Bulk.Reporting

/-! What a processor does besides submitting. It may wait, take operations into its queue, and write down what goes on,
and none of that shows on the cluster. -/

namespace DocumentStore.Bulk.Writer

open Effect

/-- From `v` to `w` nothing is asked of the cluster, though time may pass. -/
structure Idle (v w : Writer) : Prop where
  policy : w.processor.policy = v.processor.policy
  health : w.cluster.health = v.cluster.health
  network : w.cluster.world.network = v.cluster.world.network
  requests : w.cluster.world.requests = v.cluster.world.requests
  clock : v.cluster.world.clock.Binary → w.cluster.world.clock.Binary

instance : Std.Refl Idle := ⟨fun _ => ⟨rfl, rfl, rfl, rfl, id⟩⟩

instance : IsTrans Writer Idle where
  trans _ _ _ h₁ h₂ := ⟨h₂.policy.trans h₁.policy, h₂.health.trans h₁.health, h₂.network.trans h₁.network,
    h₂.requests.trans h₁.requests, h₂.clock ∘ h₁.clock⟩

theorem Idle.ready {v w : Writer} (h : Idle v w) (hv : v.cluster.Ready) : w.cluster.Ready :=
  ⟨h.clock hv.clock, h.health ▸ hv.health⟩

theorem idle_logged {e : Event} (he : ∀ r, e ≠ .request r) (w : Writer) : Idle w (w.logged e) :=
  ⟨rfl, rfl, rfl, requests_record he, id⟩

theorem keeps_idle_record {e : Event} (he : ∀ r, e ≠ .request r) : Keeps Idle (record e) := idle_logged he

theorem idle_told {e : Event} (he : ∀ r, e ≠ .request r) (w : Writer) : Idle w (told e w) := by
  unfold told
  split_ifs
  · exact idle_logged he w
  · exact refl w

theorem idle_foldl_told {es : List Event} (hes : ∀ e ∈ es, ∀ r, e ≠ .request r) (w : Writer) :
    Idle w (es.foldl (fun v e => told e v) w) := by
  induction es generalizing w with
  | nil => exact refl w
  | cons e es ih =>
    have hfirst := idle_told (hes e List.mem_cons_self) w
    exact IsTrans.trans _ _ _ hfirst (ih (fun e' he' => hes e' (List.mem_cons_of_mem e he')) _)

theorem report_no_request (number : Nat) (ops : List Operation) (e : Ending) :
    ∀ n ∈ e.report number ops, ∀ r, n ≠ .request r := by
  cases e <;> simp [Ending.report]

theorem keeps_idle_pause (seconds : Quantity) : Keeps Idle (pause seconds) := by
  intro w
  have hrecord : (w.cluster.world.record (.sleep seconds)).requests = w.cluster.world.requests :=
    requests_record (by simp)
  unfold pause
  rw [runOn_ofStep]
  obtain ⟨m, hpause⟩ | ⟨m, hpause⟩ | ⟨clock, hadd, hpause⟩ := w.cluster.world.pause_cases seconds <;> rw [hpause]
  · exact refl w
  · exact ⟨rfl, rfl, rfl, hrecord, id⟩
  · exact ⟨rfl, rfl, rfl, hrecord, fun hw => Quantity.binary_of_add hw hadd⟩

theorem keeps_idle_awaitRetry (attempt : Nat) : Keeps Idle (awaitRetry attempt) :=
  keeps_awaitRetry keeps_idle_pause attempt

theorem Rests.idle {attempt : Nat} {w u : Writer} (h : Rests attempt w u) : Idle w u := by
  obtain ⟨delay, world, -, -, hpause, rfl⟩ := h
  have hidle := keeps_idle_pause delay w
  have hrun : ((pause delay).runOn w).2 = { w with cluster := { w.cluster with world } } := by
    simp only [pause, runOn_ofStep, hpause]
  rwa [hrun] at hidle

theorem keeps_idle_modifyProcessor {f : Processor → Processor} (hf : ∀ p, (f p).policy = p.policy) :
    Keeps Idle (modifyProcessor f) := fun w => ⟨hf w.processor, rfl, rfl, rfl, id⟩

theorem keeps_idle_advance (seconds : Quantity) : Keeps Idle (advance seconds) := by
  intro w
  have hadd (q : Quantity) (h : w.cluster.world.clock.add seconds = .ok q) (hw : w.cluster.world.clock.Binary) :
      q.Binary := by
    unfold Quantity.add at h
    cases ha : w.cluster.world.clock.add? seconds with
    | none => rw [ha] at h; cases h
    | some s =>
      rw [ha] at h
      cases h
      exact Quantity.binary_of_add hw ha
  unfold advance World.advance
  rw [runOn_bind_ok (runOn_get w)]
  cases h : w.cluster.world.clock.add seconds with
  | error f => exact refl w
  | ok q => exact ⟨rfl, rfl, rfl, rfl, hadd q h⟩

theorem keeps_idle_timerSleeps (interval : Quantity) : Keeps Idle (timerSleeps interval) :=
  keeps_timerSleeps_of (fun _ => keeps_idle_record (by simp)) interval

theorem keeps_idle_start : Keeps Idle start := by
  have hstarted : Keeps Idle (do
      modifyProcessor fun p => { p with timer := true }
      record .timerStarts) :=
    Keeps.bind (keeps_idle_modifyProcessor fun _ => rfl) fun _ => keeps_idle_record (e := .timerStarts) (by simp)
  refine keeps_get.bind fun w => ?_
  simp only
  split_ifs
  · exact (keeps_throw _).bind fun _ => hstarted
  · exact (keeps_throw _).bind fun _ => keeps_pure _
  · exact hstarted
  · exact keeps_pure _

theorem idle_push (w : Writer) (op : Operation) : Idle w (w.push op) := ⟨rfl, rfl, rfl, rfl, id⟩

theorem idle_barred (w : Writer) : Idle w w.barred := ⟨rfl, rfl, rfl, rfl, id⟩

theorem idle_shut (w : Writer) (timeout : Json) : Idle w (w.shut timeout) := by
  refine ⟨rfl, rfl, rfl, ?_, id⟩
  unfold shut
  simp only
  split_ifs
  · exact requests_record (w := w.cluster.world) (e := .timerJoined timeout) (by simp)
  · rfl

/-- Up to the point where a step flushes the queue, nothing is asked of the cluster. -/
theorem idle_of_flushing {w v : Writer} {s : Step} (h : w.flushing s = some v) : Idle w v := by
  unfold flushing at h
  cases s with
  | add op =>
    simp only at h
    split_ifs at h
    cases h
    exact idle_push w op
  | flush =>
    cases h
    exact refl w
  | close timeout =>
    simp only at h
    split_ifs at h
    split at h <;> cases h
    exact idle_shut w timeout
  | wake interval =>
    simp only at h
    split at h
    · split_ifs at h
      cases h
      exact refl w
    · cases h
  | addAll ops => cases h
  | start => cases h
  | advance seconds => cases h
  | sleep interval => cases h
  | note outcome => cases h

/-- A step that does not flush asks nothing of the cluster. -/
theorem idle_of_not_flushing {w : Writer} {s : Step} (hs : ∀ ops, s ≠ .addAll ops) (h : w.flushing s = none) :
    Idle w (w.next s) := by
  have hnext {α : Type} {e : Effect Writer α} (he : Keeps Idle e) :
      Idle w ((e >>= fun _ => pure (none : Option Result)).runOn w).2 :=
    he.bind (fun _ => keeps_pure _) w
  cases s with
  | add op =>
    rw [next_add]
    cases hc : w.processor.closed with
    | true =>
      rw [add_of_closed op hc]
      exact refl w
    | false =>
      have hroom : ¬w.processor.threshold.le (.int (w.processor.queue.length + 1)) = true := by
        simpa [flushing, hc] using h
      rw [add_of_open op hc, if_neg hroom]
      exact idle_push w op
  | flush => cases h
  | close timeout =>
    rcases next_close_of_still h with hrun | hrun
    · rw [hrun]
      exact refl w
    · rw [hrun]
      exact idle_barred w
  | wake interval =>
    rcases timerWakes_cases w interval with ⟨hf, -⟩ | ⟨-, r, hw⟩
    · rw [h] at hf
      cases hf
    · have hrun : w.next (.wake interval) = w :=
        (congrArg Prod.snd (runOn_bind_pure (timerWakes interval) _ w)).trans (congrArg Prod.snd hw)
      rw [hrun]
      exact refl w
  | addAll ops => exact absurd rfl (hs ops)
  | start => exact hnext keeps_idle_start
  | advance seconds => exact hnext (keeps_idle_advance seconds)
  | sleep interval => exact hnext ((keeps_idle_timerSleeps interval).map _)
  | note outcome => exact hnext (keeps_idle_record (e := .step outcome) (by simp))

end DocumentStore.Bulk.Writer
