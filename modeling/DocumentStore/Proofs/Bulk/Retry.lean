import DocumentStore.Proofs.Bulk.Answer

/-! What a policy makes of the answers to a batch. Each submission holds those operations of the one before that its
answer rejects, in their order, as long as a retry is left; so what is submitted is a function of the answers alone. -/

namespace DocumentStore

theorem powInt_eq (i : Int) (n : Nat) : powInt i n = i ^ n := by
  unfold powInt
  split_ifs with hlarge hzero heven
  · rfl
  · rw [hzero, pow_zero]
  · obtain rfl | rfl | rfl : i = 0 ∨ i = 1 ∨ i = -1 := by omega
    · rw [zero_pow hzero, mul_zero]
    · rw [one_pow, mul_one]
    · rw [(Nat.even_iff.2 heven).neg_one_pow, neg_mul_neg, mul_one]
  · obtain rfl | rfl | rfl : i = 0 ∨ i = 1 ∨ i = -1 := by omega
    · rw [zero_pow hzero]
    · rw [one_pow]
    · rw [(Nat.odd_iff.2 (by omega)).neg_one_pow]

namespace Quantity

theorem int_lt_binary (i : Int) (x : Float) :
    (Quantity.int i).lt (.float x) = decide (compareFloat x i = some .gt) := by
  have h : (Quantity.int i).compare? (.float x) = (compareFloat x i).map Ordering.swap := rfl
  unfold lt
  rw [h]
  rcases compareFloat x i with _ | (_ | _ | _) <;> rfl

/-- The fraction is not above the first whole number that is not below it. -/
theorem compareInt_ceil (b : Decimal.Binary) :
    b.compareInt ((if b.negative then 0
      else if 0 ≤ b.exponent then b.mantissa * Nat.pow 2 b.exponent.toNat
      else (b.mantissa + Nat.pow 2 (-b.exponent).toNat - 1) / Nat.pow 2 (-b.exponent).toNat : Nat) : Int) ≠ .gt := by
  have hpow (n : Nat) : ((Nat.pow 2 n : Nat) : Int) = Int.pow 2 n := by simp
  have hpos (n : Nat) : 0 < Nat.pow 2 n := Nat.pow_pos (by decide)
  unfold Decimal.Binary.compareInt
  rw [Ne]
  by_cases hn : b.negative <;> by_cases he : 0 ≤ b.exponent <;>
    simp only [hn, he, if_true, if_false, Bool.false_eq_true, compare_gt_iff_gt, not_lt, ← hpow]
  · have := hpos b.exponent.toNat
    push_cast
    nlinarith
  · simp
  · push_cast
    exact le_refl _
  · set p := Nat.pow 2 (-b.exponent).toNat with hp
    have hp0 : 0 < p := hpos _
    have hdiv := Nat.div_add_mod (b.mantissa + p - 1) p
    have hmod := Nat.mod_lt (b.mantissa + p - 1) hp0
    have : b.mantissa ≤ (b.mantissa + p - 1) / p * p := by
      rw [Nat.mul_comm]
      omega
    exact_mod_cast this

/-- A number that some whole number is not below is not above the first such number. -/
theorem ceil_not_lt {q : Quantity} (h : ∃ n : Nat, (Quantity.int n).lt q = false) :
    (Quantity.int q.ceil).lt q = false := by
  obtain ⟨n, hn⟩ := h
  cases q with
  | flag b =>
    rw [lt_whole rfl rfl]
    cases b <;> rfl
  | int i =>
    have : Quantity.ceil (.int i) = i.toNat := rfl
    rw [lt_int, this, decide_eq_false_iff_not]
    omega
  | float x =>
    rw [int_lt_binary, decide_eq_false_iff_not] at hn ⊢
    unfold compareFloat at hn ⊢
    unfold Quantity.ceil
    cases hb : Decimal.Binary.ofFloat? x with
    | some b =>
      simp only [hb, Option.some.injEq]
      exact compareInt_ceil b
    | none =>
      simp only [hb] at hn ⊢
      exact hn

end Quantity

/-- A pause of so many seconds can be announced, the system waits for so long, and a clock in binary64 can count it. -/
def Bearable (longestWait : Option Quantity) (seconds : Int) : Prop :=
  (Quantity.int seconds).isSpellable = true ∧ World.refusal? longestWait (.int seconds) = none ∧
    (Quantity.finiteFloat? seconds).isSome

namespace Bulk

/-- The delay of the policy and the factor that it grows by are whole numbers, of any sign. -/
structure RetryPolicy.Counts (policy : RetryPolicy) (delay growth : Int) : Prop where
  retryDelay : policy.retryDelay.toInt? = some delay
  backoffFactor : (Quantity.ofJson? policy.backoffFactor).bind Quantity.toInt? = some growth

/-- The limits of the policy are whole numbers, and none of them is negative. -/
structure RetryPolicy.Whole (policy : RetryPolicy) (retries delay growth : Int) : Prop where
  maxRetries : policy.maxRetries = .int retries
  retryDelay : policy.retryDelay = .int delay
  backoffFactor : policy.backoffFactor = .int growth
  retries_nonneg : 0 ≤ retries
  delay_nonneg : 0 ≤ delay
  growth_nonneg : 0 ≤ growth

variable {policy : RetryPolicy} {retries delay growth : Int}

theorem lasts_whole (h : policy.Whole retries delay growth) (k : Nat) :
    policy.lasts k = decide ((k : Int) < retries) := by
  unfold RetryPolicy.lasts
  rw [h.maxRetries, Quantity.lt_int]

/-- The delay before a retry is a power of the factor, times the first delay. -/
theorem delay_counts (h : policy.Counts delay growth) (k : Nat) :
    policy.delay (.int ((k + 1 : Nat) : Int)) = .ok (.int (delay * growth ^ k)) := by
  have hsub : (Quantity.int ((k + 1 : Nat) : Int)).sub (.int 1) = .ok (.int k) := by
    have : (((k + 1 : Nat) : Int) - 1) = k := by omega
    rw [← this]
    rfl
  have hmax : (Quantity.int (k : Int)).max (.int 0) = .int k := by
    unfold Quantity.max
    rw [Quantity.lt_int, if_neg (by simp)]
  obtain ⟨factor, hfactor, hgrowth⟩ := Option.bind_eq_some_iff.1 h.backoffFactor
  have hpow : factor.pow (.int k) = .real (.int (growth ^ k)) := by
    unfold Quantity.pow
    rw [hgrowth, ← powInt_eq]
    rfl
  have hmul : policy.retryDelay.mul? (.int (growth ^ k)) = some (.int (delay * growth ^ k)) := by
    unfold Quantity.mul? Quantity.combine
    rw [h.retryDelay]
    rfl
  unfold RetryPolicy.delay
  rw [hsub]
  simp only [bind, Except.bind, hmax, Quantity.require, hfactor, hpow, hmul]
  rfl

theorem delay_whole (h : policy.Whole retries delay growth) (k : Nat) :
    policy.delay (.int ((k + 1 : Nat) : Int)) = .ok (.int (delay * growth ^ k)) :=
  delay_counts ⟨by rw [h.retryDelay]; rfl, by rw [h.backoffFactor]; rfl⟩ k

section pending

variable {α β : Type}

/-- The operations that an answer rejects: those with an error of a covered type in the item at their place. Anything
may stand for the operations, since only their number matters. -/
def rejectedBy (policy : RetryPolicy) (ops : List α) (answer : String) : List α :=
  match reportedItems ops.length answer with
  | .ok (some items) => rejected policy ops items
  | _ => []

theorem rejectedBy_sublist (policy : RetryPolicy) (ops : List α) (answer : String) :
    (rejectedBy policy ops answer).Sublist ops := by
  unfold rejectedBy
  split
  · rename_i items h
    have hzip : (ops.zip items).map Prod.fst = ops := List.map_fst_zip (reportedItems_length h).ge
    have hfilter := List.filter_sublist (p := fun p => (errorTypeOf p.2).any policy.covers) (l := ops.zip items)
    have hmap := hfilter.map Prod.fst
    rw [hzip] at hmap
    exact hmap
  · exact List.nil_sublist ops

theorem rejectedBy_map (policy : RetryPolicy) (f : α → β) (ops : List α) (answer : String) :
    rejectedBy policy (ops.map f) answer = (rejectedBy policy ops answer).map f := by
  unfold rejectedBy rejected
  rw [List.length_map]
  split
  · rw [List.zip_map_left, List.filter_map, List.map_map, List.map_map]
    rfl
  · rfl

/-- The answer to so many operations rejects the one at place `n`. -/
def Rejects (policy : RetryPolicy) (submitted : Nat) (answer : String) (n : Nat) : Prop :=
  ∃ items item t, reportedItems submitted answer = .ok (some items) ∧ items[n]? = some item ∧
    errorTypeOf item = some t ∧ policy.covers t = true

/-- Among distinct things, the one at a place is left exactly if the answer rejects that place. -/
theorem getElem_mem_rejectedBy {ops : List α} (hnodup : ops.Nodup) {n : Nat} (hn : n < ops.length) {answer : String} :
    ops[n] ∈ rejectedBy policy ops answer ↔ Rejects policy ops.length answer n := by
  unfold rejectedBy rejected
  constructor
  · intro hmem
    split at hmem
    · rename_i items hitems
      obtain ⟨⟨op, item⟩, hp, hop⟩ := List.mem_map.1 hmem
      obtain ⟨hzip, hcovers⟩ := List.mem_filter.1 hp
      obtain ⟨t, ht, hcovered⟩ := (Option.any_eq_true _ _).1 hcovers
      obtain ⟨i, hi, hget⟩ := List.getElem_of_mem hzip
      rw [List.getElem_zip] at hget
      obtain ⟨hfst, hsnd⟩ := Prod.mk.inj hget
      obtain rfl : i = n := (hnodup.getElem_inj_iff).1 (hfst.trans hop)
      refine ⟨items, item, t, hitems, ?_, ht, hcovered⟩
      rw [← hsnd]
      exact List.getElem?_eq_getElem _
    · exact absurd hmem List.not_mem_nil
  · rintro ⟨items, item, t, hitems, hget, ht, hcovered⟩
    rw [hitems]
    obtain ⟨hi, rfl⟩ := List.getElem?_eq_some_iff.1 hget
    refine List.mem_map.2 ⟨(ops[n], items[n]), List.mem_filter.2 ⟨?_, ?_⟩, rfl⟩
    · rw [← List.getElem_zip (h := by simp [hn, hi])]
      exact List.getElem_mem _
    · simp only [ht, Option.any_some, hcovered]

theorem resubmitted_eq {ops : List Operation} {answer : String} {items : Option (List Json)}
    (h : reportedItems ops.length answer = .ok items) (k : Nat) :
    resubmitted policy k ops items = if policy.lasts k then rejectedBy policy ops answer else [] := by
  unfold resubmitted rejectedBy
  rw [h]
  cases items with
  | none => simp
  | some items => rfl

/-- The operations of each submission of a batch, counted from zero, for a sequence of answers. -/
def pending (policy : RetryPolicy) (answers : Nat → String) (ops : List α) : Nat → List α
  | 0 => ops
  | k + 1 => if policy.lasts k then rejectedBy policy (pending policy answers ops k) (answers k) else []

variable (policy : RetryPolicy) (answers : Nat → String) (ops : List α)

theorem pending_whole (h : policy.Whole retries delay growth) (k : Nat) :
    pending policy answers ops (k + 1) =
      if (k : Int) < retries then rejectedBy policy (pending policy answers ops k) (answers k) else [] := by
  rw [pending, lasts_whole h]
  simp only [decide_eq_true_eq]

theorem pending_succ_sublist (k : Nat) :
    (pending policy answers ops (k + 1)).Sublist (pending policy answers ops k) := by
  rw [pending]
  split_ifs
  · exact rejectedBy_sublist _ _ _
  · exact List.nil_sublist _

theorem pending_sublist {j k : Nat} (h : j ≤ k) :
    (pending policy answers ops k).Sublist (pending policy answers ops j) := by
  induction h with
  | refl => exact List.Sublist.refl _
  | step _ ih => exact (pending_succ_sublist policy answers ops _).trans ih

theorem pending_map (f : α → β) (k : Nat) :
    pending policy answers (ops.map f) k = (pending policy answers ops k).map f := by
  induction k with
  | zero => rfl
  | succ k ih =>
    rw [pending, pending, ih, rejectedBy_map]
    split_ifs <;> rfl

variable {policy answers ops}

theorem pending_eq_nil {j k : Nat} (h : j ≤ k) (hnil : pending policy answers ops j = []) :
    pending policy answers ops k = [] := by
  have hsub := pending_sublist policy answers ops h
  rw [hnil] at hsub
  exact List.sublist_nil.1 hsub

/-- After the last retry nothing is submitted. -/
theorem pending_exhausted (h : policy.Whole retries delay growth) {k : Nat} (hk : retries ≤ k) :
    pending policy answers ops (k + 1) = [] := by
  rw [pending_whole policy answers ops h, if_neg (by omega)]

/-- What is at a place of a submission and not rejected there is in no later one. -/
theorem rejects_of_mem_pending (hnodup : ops.Nodup) {j k : Nat} (hjk : j < k) {n : Nat}
    (hn : n < (pending policy answers ops j).length)
    (hmem : (pending policy answers ops j)[n] ∈ pending policy answers ops k) :
    Rejects policy (pending policy answers ops j).length (answers j) n := by
  have hnext : (pending policy answers ops j)[n] ∈ pending policy answers ops (j + 1) :=
    (pending_sublist policy answers ops hjk).subset hmem
  have hdistinct : (pending policy answers ops j).Nodup :=
    hnodup.sublist (pending_sublist policy answers ops (Nat.zero_le j))
  rw [pending] at hnext
  split_ifs at hnext
  · exact (getElem_mem_rejectedBy hdistinct hn).1 hnext
  · exact absurd hnext List.not_mem_nil

end pending

/-- The answer can be sorted into rejections and the rest: items that report errors say so in objects, and the types of
their errors are texts. -/
def Classifiable (submitted : Nat) (answer : String) : Prop :=
  ∃ items, reportedItems submitted answer = .ok items ∧
    ∀ is ∈ items, ∀ item ∈ is, Shaped item ∧ ∀ t ∈ errorTypeOf item, ∃ s, t = .str s

/-- The item can be sorted. -/
def sorts (item : Json) : Bool :=
  match reportOf item, errorTypeOf item with
  | .obj _, none => true
  | .obj _, some (.str _) => true
  | _, _ => false

theorem sorts_iff (item : Json) : sorts item = true ↔ Shaped item ∧ ∀ t ∈ errorTypeOf item, ∃ s, t = .str s := by
  unfold sorts
  constructor
  · intro h
    split at h
    · rename_i report hr he
      exact ⟨⟨report, hr⟩, by simp [he]⟩
    · rename_i report s hr he
      exact ⟨⟨report, hr⟩, by simp [he]⟩
    · cases h
  · rintro ⟨⟨report, hr⟩, htext⟩
    rw [hr]
    cases he : errorTypeOf item with
    | none => rfl
    | some t =>
      obtain ⟨s, rfl⟩ := htext t he
      rfl

instance (submitted : Nat) (answer : String) : Decidable (Classifiable submitted answer) :=
  decidable_of_iff ((reportedItems submitted answer).toOption.any fun items => (items.getD []).all sorts) <| by
    unfold Classifiable
    cases reportedItems submitted answer with
    | error f => simp [Except.toOption]
    | ok items => cases items <;> simp [Except.toOption, sorts_iff]

theorem Classifiable.clear {submitted : Nat} {answer : String} (h : Classifiable submitted answer)
    (policy : RetryPolicy) (attempt : Nat) : ∃ items, reportedItems submitted answer = .ok items ∧
      ∀ is ∈ items, ∀ item ∈ is, ¬Muddled policy attempt item := by
  obtain ⟨items, hitems, hall⟩ := h
  refine ⟨items, hitems, fun is his item hitem hm => ?_⟩
  obtain ⟨hshaped, htext⟩ := hall is his item hitem
  obtain ⟨-, t, ht, hscalar⟩ := hm.resolve_left fun hn => hn hshaped
  obtain ⟨s, rfl⟩ := htext t ht
  cases hscalar

end Bulk

end DocumentStore
