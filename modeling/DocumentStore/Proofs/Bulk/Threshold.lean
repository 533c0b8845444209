import DocumentStore.Proofs.Bulk.Timer

/-! The queue never gets as long as the threshold. It is submitted as soon as it would, whatever comes of that, so that
every batch has at least one operation and at most as many as the threshold says, and exactly as many if an addition
has started it. With nothing but additions the batches cut what was added into pieces of that length. -/

namespace DocumentStore.Bulk

open Effect

/-- The step puts operations into the queue. -/
def Step.adds : Step → Bool
  | .add _ | .addAll _ => true
  | _ => false

/-- Pieces of one length, and a shorter one behind them, are what a list is cut into. -/
theorem cut_into_pieces {α : Type} {n : Nat} {pieces : List (List α)} {rest all : List α}
    (hall : pieces.flatten ++ rest = all) (hpieces : ∀ b ∈ pieces, b.length = n) (hrest : rest.length < n) :
    rest = all.drop (all.length / n * n) ∧
      pieces = (List.range (all.length / n)).map fun i => (all.drop (i * n)).take n := by
  induction pieces generalizing all with
  | nil =>
    obtain rfl : rest = all := hall
    rw [Nat.div_eq_of_lt hrest, Nat.zero_mul]
    exact ⟨rfl, rfl⟩
  | cons b pieces ih =>
    obtain ⟨hb, hpieces⟩ := List.forall_mem_cons.1 hpieces
    obtain ⟨hdrop, hmap⟩ := ih rfl hpieces
    set tail := pieces.flatten ++ rest
    obtain rfl : b ++ tail = all := by rw [← hall, List.flatten_cons, List.append_assoc]
    have hcount : (b ++ tail).length / n = tail.length / n + 1 := by
      rw [List.length_append, hb, Nat.add_div_left _ (by omega)]
    have hskip (k : Nat) : (b ++ tail).drop ((k + 1) * n) = tail.drop (k * n) := by
      rw [Nat.succ_mul, Nat.add_comm, ← hb, List.drop_length_add_append]
    rw [hcount]
    refine ⟨by rw [hskip]; exact hdrop, ?_⟩
    rw [List.range_succ_eq_map, List.map_cons, List.map_map, Nat.zero_mul, List.drop_zero, ← hb, List.take_left, hb]
    refine congrArg (b :: ·) (hmap.trans (List.map_congr_left fun i _ => ?_))
    rw [Function.comp_apply, hskip]

namespace Writer

/-! ### The queue stays below it -/

/-- The threshold is `n`, and the queue is shorter than that. -/
structure Below (n : Nat) (w : Writer) : Prop where
  threshold : w.processor.threshold.toInt? = some (n : Int)
  room : w.processor.queue.length < n

section below

variable {n : Nat} {v w : Writer} {s : Step}

/-- The next operation fills the queue just if it is the last one that is missing. -/
theorem Below.full_iff (h : Below n w) :
    w.processor.threshold.le (.int (w.processor.queue.length + 1)) = true ↔ w.processor.queue.length + 1 = n := by
  have hroom := h.room
  rw [Quantity.le_whole h.threshold rfl, decide_eq_true_iff]
  omega

/-- What is submitted by a step is a full queue if the step adds something, and is not otherwise. -/
theorem Below.flushing (h : Below n w) (hf : w.flushing s = some v) :
    v.processor.queue.length ≤ n ∧ (v.processor.queue.length = n ↔ s.adds = true) := by
  have hroom := h.room
  have hshort : w.processor.queue.length ≤ n ∧ (w.processor.queue.length = n ↔ false = true) := by simp; omega
  unfold Writer.flushing at hf
  cases s with
  | add op =>
    simp only at hf
    split_ifs at hf with hclosed hfull
    cases hf
    have hlength : (w.push op).processor.queue.length = n := by
      rw [← h.full_iff.1 hfull]
      simp [push]
    exact ⟨hlength.le, by simp [hlength, Step.adds]⟩
  | flush =>
    cases hf
    exact hshort
  | close timeout =>
    simp only at hf
    split_ifs at hf
    split at hf <;> cases hf
    exact hshort
  | wake interval =>
    simp only at hf
    split at hf
    · split_ifs at hf
      cases hf
      exact hshort
    · cases hf
  | _ => cases hf

theorem Below.next (hs : ∀ ops, s ≠ .addAll ops) (h : Below n w) : Below n (w.next s) := by
  have hroom := h.room
  refine ⟨(congrArg Quantity.toInt? (next_setup w s).threshold).trans h.threshold, ?_⟩
  cases hf : w.flushing s with
  | some v =>
    rw [(next_of_flushing hf).1]
    exact Nat.zero_lt_of_lt hroom
  | none =>
    rw [(next_of_still hs hf).1, List.length_append]
    cases s with
    | add op =>
      cases hc : w.processor.closed with
      | true => simpa [accepted, hc] using hroom
      | false =>
        have hnotFull : ¬w.processor.queue.length + 1 = n := fun hfull => by
          simp [Writer.flushing, hc, h.full_iff.2 hfull] at hf
        simp only [accepted, hc, Bool.false_eq_true, if_false, List.length_singleton]
        omega
    | addAll ops => exact absurd rfl (hs ops)
    | _ => exact hroom

theorem Below.after (h : Below n w) (ss : List Step) : Below n (after ss w) :=
  after_induction (I := fun _ => Below n) (fun _ _ _ hs => Below.next hs) ss [] h

end below

/-! ### The sizes of the batches -/

/-- The size of a batch: none is empty or too long, and one that an addition starts is a full one, and no other is. -/
def Sized (n : Nat) (added : Bool) (ops : List Operation) : Prop :=
  0 < ops.length ∧ ops.length ≤ n ∧ (ops.length = n ↔ added = true)

/-- From `v` to `w` only such batches are started. -/
def Starts (P : List Operation → Prop) (v w : Writer) : Prop :=
  ∃ batches, w.drained = v.drained ++ batches ∧ ∀ b ∈ batches, P b.2

instance (P : List Operation → Prop) : Std.Refl (Starts P) := ⟨fun _ => ⟨[], (List.append_nil _).symm, by simp⟩⟩

instance (P : List Operation → Prop) : IsTrans Writer (Starts P) where
  trans := by
    rintro u v w ⟨bs, hbs, hall⟩ ⟨cs, hcs, hall'⟩
    exact ⟨bs ++ cs, by rw [hcs, hbs, List.append_assoc], List.forall_mem_append.2 ⟨hall, hall'⟩⟩

section starts

variable {n : Nat} {w : Writer} {s : Step}

theorem Starts.mono {P Q : List Operation → Prop} {v w : Writer} (hPQ : ∀ ops, P ops → Q ops) (h : Starts P v w) :
    Starts Q v w := by
  obtain ⟨batches, hdrained, hall⟩ := h
  exact ⟨batches, hdrained, fun b hb => hPQ _ (hall b hb)⟩

theorem starts_single (hs : ∀ ops, s ≠ .addAll ops) (hl : w.processor.listening = true) (h : Below n w) :
    Starts (Sized n s.adds) w (w.next s) := by
  obtain ⟨v, hv, hnext⟩ := perform_cases w hs
  have hheard : v.drained = w.drained := by rw [drained_eq_heard, hv.heard, ← drained_eq_heard]
  rcases hnext with ⟨-, r, hr⟩ | ⟨hf, hr⟩
  · have hnext : w.next s = v := congrArg Prod.snd hr
    exact ⟨[], by rw [hnext, hheard, List.append_nil], by simp⟩
  · have hnext : w.next s = (flush.runOn v).2 := by rw [Writer.next, hr]
    refine ⟨_, by rw [hnext, flush_drained (hv.listening.trans hl), hheard], fun b hb => ?_⟩
    split_ifs at hb with hempty
    · cases hb
    · obtain rfl := List.mem_singleton.1 hb
      exact ⟨List.length_pos_of_ne_nil hempty, h.flushing hf⟩

theorem after_adds (ops : List Operation) (hl : w.processor.listening = true) (h : Below n w) :
    Starts (Sized n true) w (after (ops.map .add) w) ∧ (after (ops.map .add) w).processor.listening = true := by
  induction ops generalizing w with
  | nil => exact ⟨refl w, hl⟩
  | cons op ops ih =>
    have hs (ops' : List Operation) : Step.add op ≠ .addAll ops' := by simp
    obtain ⟨hstarts, hl'⟩ := ih ((next_setup w _).listening.trans hl) (h.next hs)
    exact ⟨IsTrans.trans _ _ _ (starts_single hs hl h) hstarts, hl'⟩

/-- What a step starts is of the size that its batches have, and it takes no listener away. -/
theorem starts_next (s : Step) (hl : w.processor.listening = true) (h : Below n w) :
    Starts (Sized n s.adds) w (w.next s) ∧ (w.next s).processor.listening = true := by
  by_cases hs : ∃ ops, s = .addAll ops
  · obtain ⟨ops, rfl⟩ := hs
    rw [(addAll_eq_adds ops w).2.1]
    exact after_adds _ hl h
  · have hs (ops : List Operation) : s ≠ .addAll ops := fun he => hs ⟨ops, he⟩
    exact ⟨starts_single hs hl h, (next_setup w s).listening.trans hl⟩

/-- What a run starts is of the size that the batches of its steps have. -/
theorem starts_after (ss : List Step) (hl : w.processor.listening = true) (h : Below n w) :
    Starts (fun ops => ∃ s ∈ ss, Sized n s.adds ops) w (after ss w) ∧ (after ss w).processor.listening = true := by
  induction ss generalizing w with
  | nil => exact ⟨refl w, hl⟩
  | cons s ss ih =>
    obtain ⟨hnext, hl'⟩ := starts_next s hl h
    obtain ⟨hrest, hl''⟩ := ih hl' (h.after [s])
    have hfirst := hnext.mono (Q := fun ops => ∃ t ∈ s :: ss, Sized n t.adds ops) fun _ hsize =>
      ⟨s, List.mem_cons_self, hsize⟩
    refine ⟨IsTrans.trans _ _ _ hfirst (hrest.mono ?_), hl''⟩
    rintro ops ⟨t, ht, hsize⟩
    exact ⟨t, List.mem_cons_of_mem s ht, hsize⟩

end starts

/-! ### The whole run -/

theorem build_threshold {threshold flushInterval : Json} {policy : RetryPolicy} {listening : Bool} {now : Quantity}
    {p : Processor} (h : Processor.build threshold flushInterval policy listening now = .ok p) :
    p.threshold.lt (.int 1) = false := by
  obtain ⟨limit, interval, hlimit, -, rfl⟩ := build_ok h
  exact hlimit

/-- An open processor takes all operations that are added one by one. -/
theorem acceptedIn_adds (ops : List Operation) {w : Writer} (h : w.processor.closed = false) :
    acceptedIn (ops.map .add) w = ops := by
  induction ops generalizing w with
  | nil => rfl
  | cons op ops ih =>
    have hopen : (w.next (.add op)).processor.closed = false := (next_closed (by simp)).trans h
    rw [List.map_cons, acceptedIn, ih hopen]
    simp [accepted, h]

/-- Batches of one length, and a shorter queue behind them, are what the accepted operations are cut into. -/
theorem Accounts.pieces {n : Nat} {accepted : List Operation} {batches : List (Nat × List Operation)} {w : Writer}
    (h : Accounts accepted batches w) (hsizes : ∀ b ∈ batches, b.2.length = n) (hroom : w.processor.queue.length < n) :
    w.processor.queue = accepted.drop (accepted.length / n * n) ∧
      batches = (List.range (accepted.length / n)).map fun i => (i + 1, (accepted.drop (i * n)).take n) := by
  have hall : (batches.map Prod.snd).flatten ++ w.processor.queue = accepted := by
    rw [← List.flatMap_def]
    exact h.operations
  obtain ⟨hqueue, hpieces⟩ := cut_into_pieces hall (List.forall_mem_map.2 hsizes) hroom
  refine ⟨hqueue, ?_⟩
  have hcount : w.processor.batches = accepted.length / n := by
    have hnumbers := congrArg List.length h.numbers
    have hlength := congrArg List.length hpieces
    simp only [List.length_map, List.length_range', List.length_range] at hnumbers hlength
    exact hnumbers.symm.trans hlength
  have hnumbers : batches.map Prod.fst = (List.range (accepted.length / n)).map (· + 1) := by
    rw [h.numbers, hcount, List.range'_eq_map_range]
    exact List.map_congr_left fun i _ => Nat.add_comm 1 i
  exact (List.zip_of_prod hnumbers hpieces).trans (List.zip_map' ..)

/-- Along every run of a processor whose threshold is a whole number the queue stays shorter than that, whatever becomes
of the batches. None of them is empty or longer than the threshold, and those of that length are those that an addition
starts. If there are only additions, the batches are the pieces of that length that what was accepted is cut into, and
the queue is the rest; of operations that are added one by one all are accepted. With no listener the queue is that of
the run that a listener attends. The same goes for whatever commands are run. -/
theorem threshold_kept {threshold flushInterval : Json} {policy : RetryPolicy} {listening : Bool} {now : Quantity}
    {p : Processor} (hp : Processor.build threshold flushInterval policy listening now = .ok p) {n : Nat}
    (hn : p.threshold.toInt? = some (n : Int)) (c : Cluster) :
    (∀ ss : List Step,
      (after ss ⟨p, c⟩).processor.queue.length < n ∧
      ∃ batches, (after ss (attended ⟨p, c⟩)).drained = drained ⟨p, c⟩ ++ batches ∧
        (∀ b ∈ batches, 0 < b.2.length ∧ b.2.length ≤ n) ∧
        ∀ s, ∃ new, (after (ss ++ [s]) (attended ⟨p, c⟩)).drained = drained ⟨p, c⟩ ++ batches ++ new ∧
          ∀ b ∈ new, b.2.length = n ↔ s.adds = true) ∧
    (∀ ss : List Step, (∀ s ∈ ss, s.adds = true) →
      let ops := acceptedIn ss ⟨p, c⟩
      (after ss ⟨p, c⟩).processor.queue = ops.drop (ops.length / n * n) ∧
      (after ss (attended ⟨p, c⟩)).drained = drained ⟨p, c⟩ ++
        (List.range (ops.length / n)).map fun i => (i + 1, (ops.drop (i * n)).take n)) ∧
    (∀ ops : List Operation, acceptedIn (ops.map .add) ⟨p, c⟩ = ops) ∧
    ∀ cs : List Command, Reaches ⟨p, c⟩ ((runAll cs).runOn ⟨p, c⟩).2 := by
  set w : Writer := ⟨p, c⟩
  obtain ⟨hqueue, hbatches, hopen⟩ := build_fresh hp
  have hpos : 0 < n := by
    have hlow := build_threshold hp
    rw [Quantity.lt_whole hn rfl, decide_eq_false_iff_not] at hlow
    omega
  have hbelow : Below n w := ⟨hn, by rw [show w.processor.queue = [] from hqueue]; exact hpos⟩
  have hattended : Below n w.attended := ⟨hbelow.threshold, hbelow.room⟩
  have hstart : Accounted w.drained [] w.attended :=
    ⟨rfl, [], (List.append_nil _).symm, by simp [attended, w, hqueue], by simp [attended, w, hbatches], by simp⟩
  refine ⟨fun ss => ⟨(hbelow.after ss).room, ?_⟩, fun ss hadds => ?_, fun ops => acceptedIn_adds ops hopen,
    fun cs => reaches_runAll cs w⟩
  · obtain ⟨⟨batches, hdrained, hsizes⟩, hl⟩ := starts_after ss rfl hattended
    refine ⟨batches, hdrained, fun b hb => ?_, fun s => ?_⟩
    · obtain ⟨s, -, hsome, hmost, -⟩ := hsizes b hb
      exact ⟨hsome, hmost⟩
    · obtain ⟨⟨new, hnew, hsizes'⟩, -⟩ := starts_next s hl (hattended.after ss)
      refine ⟨new, ?_, fun b hb => (hsizes' b hb).2.2⟩
      rw [after_append, after_cons, after_nil, hnew, hdrained]
      rfl
  · obtain ⟨⟨batches, hdrained, hsizes⟩, -⟩ := starts_after ss rfl hattended
    obtain ⟨-, batches', hdrained', haccounts⟩ :=
      after_induction (fun acc w s => next_accounted) ss [] hstart
    obtain rfl : batches = batches' := List.append_cancel_left (hdrained.symm.trans hdrained')
    have hfull (b : Nat × List Operation) (hb : b ∈ batches) : b.2.length = n := by
      obtain ⟨s, hs, -, -, hsize⟩ := hsizes b hb
      exact hsize.2 (hadds s hs)
    obtain ⟨hrest, hpieces⟩ := haccounts.pieces hfull (hattended.after ss).room
    rw [List.nil_append, acceptedIn_attended] at hrest hpieces
    rw [queue_attended] at hrest
    exact ⟨hrest, by rw [hdrained', ← hpieces]⟩

/-- Of five operations that are added two make up a batch each time, though every batch fails, and the last one waits. -/
theorem threshold_kept_past_failures :
    ∃ p, Processor.build (.int 2) .null {} false (.int 0) = .ok p ∧ p.threshold.toInt? = some (2 : Nat) ∧
      (after (["1", "2", "3", "4", "5"].map (.add ∘ deletion)) ⟨p, nowhere⟩).processor.queue = [deletion "5"] ∧
      (after (["1", "2", "3", "4", "5"].map (.add ∘ deletion)) (attended ⟨p, nowhere⟩)).drained =
        [(1, [deletion "1", deletion "2"]), (2, [deletion "3", deletion "4"])] := by
  have hp : Processor.build (.int 2) .null {} false (.int 0) =
      .ok { threshold := .int 2, flushInterval := none, policy := {}, listening := false, lastFlush := .int 0 } := rfl
  obtain ⟨-, hpieces, haccepted, -⟩ := threshold_kept hp (n := 2) rfl nowhere
  obtain ⟨hqueue, hdrained⟩ := hpieces ((["1", "2", "3", "4", "5"].map deletion).map .add) (by simp [Step.adds])
  rw [haccepted, List.map_map] at hqueue hdrained
  exact ⟨_, hp, rfl, hqueue, hdrained⟩

end Writer

end DocumentStore.Bulk
