import DocumentStore.Proofs.Bulk.Step
import DocumentStore.Proofs.Bulk.Submission
import DocumentStore.Proofs.Cluster.Failover

/-! Whether the listener hears how a batch ends. It hears of a result, and of the failures that a dispatch or the
reading of an answer ends with. A batch that ends in any other way has left the queue, and nobody says so: which
batches these are is said here exactly. -/

namespace DocumentStore.Bulk.Writer

open Effect

variable {number attempt left : Nat} {ops again : List Operation} {w v : Writer}

theorem Leads.unique {again' : List Operation} {v' : Writer} (h : Leads number attempt ops w again v)
    (h' : Leads number attempt ops w again' v') : again' = again ∧ v' = v := by
  obtain ⟨body, answer, items, hbody, hanswer, hitems, -, rfl, rfl⟩ := h
  obtain ⟨body', answer', items', hbody', hanswer', hitems', -, rfl, rfl⟩ := h'
  obtain rfl : body' = body := Except.ok.inj (hbody'.symm.trans hbody)
  obtain rfl : answer' = answer := Except.ok.inj (hanswer'.symm.trans hanswer)
  obtain rfl : items' = items := Except.ok.inj (hitems'.symm.trans hitems)
  exact ⟨rfl, rfl⟩

theorem Rests.unique {v' : Writer} (h : Rests attempt w v) (h' : Rests attempt w v') : v' = v := by
  obtain ⟨delay, world, hdelay, -, hpause, rfl⟩ := h
  obtain ⟨delay', world', hdelay', -, hpause', rfl⟩ := h'
  obtain rfl : delay' = delay := Except.ok.inj (hdelay'.symm.trans hdelay)
  obtain rfl : world' = world := (Prod.mk.inj (hpause'.symm.trans hpause)).2
  rfl

theorem awaitRetry_of_rests (h : Rests attempt w v) : (awaitRetry attempt).runOn w = (.ok (), v) := by
  rcases awaitRetry_cases attempt w with ⟨u, hrest, hrun⟩ | ⟨hno, -⟩
  · rw [hrun, hrest.unique h]
  · exact absurd ⟨v, h⟩ hno

theorem pause_binary {w : World} (hw : w.clock.Binary) (seconds : Quantity) : (w.pause seconds).2.clock.Binary := by
  obtain ⟨m, hpause⟩ | ⟨m, hpause⟩ | ⟨clock, hadd, hpause⟩ := w.pause_cases seconds <;> rw [hpause]
  · exact hw
  · exact hw
  · exact Quantity.binary_of_add hw hadd

theorem ready_told (hw : w.cluster.Ready) (e : Event) : (told e w).cluster.Ready := by
  unfold told
  split_ifs
  · exact ⟨hw.clock, hw.health⟩
  · exact hw

end DocumentStore.Bulk.Writer
