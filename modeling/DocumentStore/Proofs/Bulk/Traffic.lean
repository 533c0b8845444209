import DocumentStore.Proofs.Bulk.Closed
import DocumentStore.Proofs.Bulk.Conservation
import DocumentStore.Proofs.Bulk.Serving
import DocumentStore.Proofs.Cluster.Timeout

/-! What goes out to the cluster and what listeners are told, in one sequence: the traffic of a processor. Whatever a
processor does between two batches leaves no trace in it, and a batch leaves its submissions, each with the requests
that carry it. -/

namespace DocumentStore

/-- The events of which the cluster or a listener hears, and the submissions that they belong to. -/
def Event.traffic : Event → Bool
  | .request _ | .batchSubmitted .. => true
  | e => e.heard

def Event.request? : Event → Option Cluster.Request
  | .request r => some r
  | _ => none

namespace Bulk.Writer

open Effect Cluster

def traffic (w : Writer) : List Event := w.cluster.world.log.filter Event.traffic

theorem requests_eq_traffic (w : Writer) : w.cluster.world.requests = w.traffic.filterMap Event.request? := by
  unfold traffic World.requests
  rw [List.filterMap_filter]
  congr 1
  funext e
  cases e <;> rfl

theorem filterMap_request (rs : List Request) : (rs.map Event.request).filterMap Event.request? = rs := by
  rw [List.filterMap_map]
  exact List.filterMap_some

theorem requests_attended (ss : List Step) (w : Writer) :
    (after ss w.attended).cluster.world.requests = (after ss w).cluster.world.requests := by
  have h := congrArg (fun v : Writer => v.cluster.world.requests) (after_attended ss w)
  simp only [deaf, Cluster.deaf, requests_deaf] at h
  exact h

theorem drained_eq_traffic (w : Writer) : w.drained = w.traffic.filterMap Event.started? := by
  unfold traffic drained
  rw [List.filterMap_filter]
  congr 1
  funext e
  cases e <;> rfl

/-- From `v` to `w` the cluster and its nodes stay as they are, and no traffic arises. -/
structure Aside (v w : Writer) : Prop where
  cluster : ∃ clock es, w.cluster =
      { v.cluster with world := { v.cluster.world with clock, log := v.cluster.world.log ++ es } } ∧
    ∀ e ∈ es, e.traffic = false

instance : Std.Refl Aside := ⟨fun w => ⟨w.cluster.world.clock, [], by simp, by simp⟩⟩

instance : IsTrans Writer Aside where
  trans := by
    rintro u v w ⟨clock, es, hv, hes⟩ ⟨clock', es', hw, hes'⟩
    refine ⟨clock', es ++ es', ?_, ?_⟩
    · rw [hw, hv]
      simp only [List.append_assoc]
    · intro e he
      rcases List.mem_append.1 he with he | he
      · exact hes e he
      · exact hes' e he

theorem Aside.traffic {v w : Writer} (h : Aside v w) : w.traffic = v.traffic := by
  obtain ⟨clock, es, hcluster, hes⟩ := h.cluster
  have hnone : es.filter Event.traffic = [] := by simpa [List.filter_eq_nil_iff] using hes
  unfold Writer.traffic
  rw [hcluster]
  simp only [List.filter_append, hnone, List.append_nil]

/-- Both send to the same network on the same terms, and judge the failures of nodes by the same limits. -/
structure SameTerms (v w : Writer) : Prop where
  connection : w.cluster.connection = v.cluster.connection
  network : w.cluster.world.network = v.cluster.world.network
  judged : Judged w.cluster ↔ Judged v.cluster

theorem SameTerms.refl (w : Writer) : SameTerms w w := ⟨rfl, rfl, .rfl⟩

theorem SameTerms.trans {u v w : Writer} (h : SameTerms u v) (h' : SameTerms v w) : SameTerms u w :=
  ⟨h'.connection.trans h.connection, h'.network.trans h.network, h'.judged.trans h.judged⟩

theorem Aside.terms {v w : Writer} (h : Aside v w) : SameTerms v w := by
  obtain ⟨clock, es, hcluster, -⟩ := h.cluster
  exact ⟨by rw [hcluster], by rw [hcluster], by rw [hcluster]; rfl⟩

theorem told_traffic {e : Event} (he : e.traffic = true) {w : Writer} (hl : w.processor.listening = true) :
    (told e w).traffic = w.traffic ++ [e] := by
  unfold traffic
  rw [told_log, hl, if_pos rfl, List.filter_append]
  simp [he]

theorem foldl_told_traffic {es : List Event} (hes : ∀ e ∈ es, e.traffic = true) {w : Writer}
    (hl : w.processor.listening = true) : (es.foldl (fun v e => told e v) w).traffic = w.traffic ++ es := by
  unfold traffic
  rw [foldl_told_log, hl, if_pos rfl, List.filter_append, List.filter_eq_self.2 hes]

theorem told_terms (e : Event) (w : Writer) : SameTerms w (told e w) := by
  unfold told
  split_ifs <;> exact ⟨rfl, rfl, .rfl⟩

theorem foldl_told_terms (es : List Event) (w : Writer) : SameTerms w (es.foldl (fun v e => told e v) w) := by
  induction es generalizing w with
  | nil => exact .refl w
  | cons e es ih => exact (told_terms e w).trans (ih _)

section aside

variable {w v : Writer}

theorem aside_logged {e : Event} (he : e.traffic = false) (w : Writer) : Aside w (w.logged e) :=
  ⟨w.cluster.world.clock, [e], rfl, by simpa using he⟩

theorem aside_of_cluster (h : v.cluster = w.cluster) : Aside w v :=
  ⟨w.cluster.world.clock, [], by rw [h]; simp, by simp⟩

theorem keeps_aside_advance (seconds : Quantity) : Keeps Aside (advance seconds) := by
  intro w
  unfold advance World.advance
  rw [runOn_bind_ok (runOn_get w)]
  rcases w.cluster.world.clock.add seconds with f | q
  · exact refl w
  · exact ⟨q, [], by simp [modifyWorld, runOn_bind], by simp⟩

theorem keeps_aside_pause (seconds : Quantity) : Keeps Aside (pause seconds) := by
  intro w
  have hquiet : ∀ e ∈ [Event.sleep seconds], e.traffic = false := by simp [Event.traffic, Event.heard]
  unfold pause
  rw [runOn_ofStep]
  obtain ⟨m, hpause⟩ | ⟨m, hpause⟩ | ⟨clock, -, hpause⟩ := w.cluster.world.pause_cases seconds <;> rw [hpause]
  · exact aside_of_cluster rfl
  · exact ⟨w.cluster.world.clock, [.sleep seconds], rfl, hquiet⟩
  · exact ⟨clock, [.sleep seconds], rfl, hquiet⟩

theorem keeps_aside_awaitRetry (attempt : Nat) : Keeps Aside (awaitRetry attempt) :=
  keeps_awaitRetry keeps_aside_pause attempt

theorem keeps_aside_timerSleeps (interval : Quantity) : Keeps Aside (timerSleeps interval) :=
  keeps_timerSleeps_of (fun _ => aside_logged rfl) interval

theorem aside_shut (w : Writer) (timeout : Json) : Aside w (w.shut timeout) := by
  unfold shut
  cases w.processor.timer with
  | false => exact aside_of_cluster rfl
  | true => exact ⟨w.cluster.world.clock, [.timerJoined timeout], rfl, by simp [Event.traffic, Event.heard]⟩

theorem aside_start (w : Writer) : Aside w (start.runOn w).2 := by
  cases hc : w.processor.closed with
  | true =>
    rw [start_of_closed hc]
    exact refl w
  | false =>
    rw [start_of_open hc]
    split_ifs
    · exact ⟨w.cluster.world.clock, [.timerStarts], rfl, by simp [Event.traffic, Event.heard]⟩
    · exact refl w

/-- Up to the point where a step flushes the queue, no traffic arises. -/
theorem aside_of_flushing {s : Step} (h : w.flushing s = some v) : Aside w v := by
  unfold flushing at h
  cases s with
  | add op =>
    simp only at h
    split_ifs at h
    cases h
    exact aside_of_cluster rfl
  | flush =>
    cases h
    exact refl w
  | close timeout =>
    simp only at h
    split_ifs at h
    split at h <;> cases h
    exact aside_shut w timeout
  | wake interval =>
    simp only at h
    split at h
    · split_ifs at h
      cases h
      exact refl w
    · cases h
  | _ => cases h

/-- In a step that does not flush, no traffic arises. -/
theorem aside_of_not_flushing {s : Step} (hs : ∀ ops, s ≠ .addAll ops) (h : w.flushing s = none) :
    Aside w (w.next s) := by
  have hnext {α : Type} {e : Effect Writer α} (he : Keeps Aside e) :
      Aside w ((e >>= fun _ => pure (none : Option Result)).runOn w).2 :=
    he.bind (fun _ => keeps_pure _) w
  cases s with
  | add op =>
    rw [next_add]
    cases hc : w.processor.closed with
    | true =>
      rw [add_of_closed op hc]
      exact refl w
    | false =>
      have hroom : ¬w.processor.threshold.le (.int (w.processor.queue.length + 1)) = true := by
        simpa [flushing, hc] using h
      rw [add_of_open op hc, if_neg hroom]
      exact aside_of_cluster rfl
  | flush => cases h
  | close timeout =>
    rcases next_close_of_still h with hrun | hrun <;> rw [hrun]
    · exact refl w
    · exact aside_of_cluster rfl
  | wake interval =>
    rw [next_wake]
    rcases timerWakes_cases w interval with ⟨hf, -⟩ | ⟨-, r, hw⟩
    · rw [h] at hf
      cases hf
    · rw [hw]
      exact refl w
  | addAll ops => exact absurd rfl (hs ops)
  | start =>
    rw [next_start]
    exact aside_start w
  | advance seconds => exact hnext (keeps_aside_advance seconds)
  | sleep interval => exact hnext ((keeps_aside_timerSleeps interval).map _)
  | note outcome => exact hnext (e := record (.step outcome)) (aside_logged rfl)

end aside

end Bulk.Writer

end DocumentStore
