import DocumentStore.Failure
import Mathlib.Tactic

/-! Quantities of one sort. Whole numbers compare as such, a limit in binary64 that a whole number reaches is reached by
those above it, and readings of a clock in binary64 stay readings of it, however much time passes. -/

namespace DocumentStore

theorem requireInRange_error {α : Type} {x : Option α} {f : Failure} (h : requireInRange x = .error f) :
    ∃ m, f = .misuse m := by
  cases x <;> cases h
  exact ⟨_, rfl⟩

/-- A finite binary64 number is a fraction, and compares with whole numbers as such. -/
theorem Decimal.Binary.compareInt_fraction (b : Decimal.Binary) :
    ∃ num den : Int, 0 < den ∧ ∀ i, b.compareInt i = compare num (i * den) := by
  unfold Decimal.Binary.compareInt
  by_cases he : 0 ≤ b.exponent
  · simp only [he, if_true]
    exact ⟨_, 1, Int.one_pos, fun i => by rw [mul_one]⟩
  · simp only [he, if_false]
    exact ⟨_, Int.pow 2 (-b.exponent).toNat, pow_pos (by decide) _, fun i => rfl⟩

namespace Quantity

theorem compare?_whole {a b : Quantity} {i j : Int} (ha : a.toInt? = some i) (hb : b.toInt? = some j) :
    a.compare? b = some (compare i j) := by
  unfold compare?
  rw [ha, hb]

theorem lt_whole {a b : Quantity} {i j : Int} (ha : a.toInt? = some i) (hb : b.toInt? = some j) :
    a.lt b = decide (i < j) := by
  unfold lt
  rw [compare?_whole ha hb]
  simp [compare_lt_iff_lt]

theorem le_whole {a b : Quantity} {i j : Int} (ha : a.toInt? = some i) (hb : b.toInt? = some j) :
    a.le b = decide (i ≤ j) := by
  unfold le
  rw [compare?_whole ha hb]
  simp [compare_lt_iff_lt, Int.le_iff_lt_or_eq]

@[simp] theorem lt_int (i j : Int) : (Quantity.int i).lt (.int j) = decide (i < j) := lt_whole rfl rfl

@[simp] theorem le_int (i j : Int) : (Quantity.int i).le (.int j) = decide (i ≤ j) := le_whole rfl rfl

/-- The smaller of two numbers, the second of them whole, does not exceed that one. -/
theorem min_int_le {q : Quantity} {k b : Int} (h : (q.min (.int k)).toInt? = some b) : b ≤ k := by
  unfold Quantity.min at h
  split_ifs at h with hlt
  · exact (Option.some.inj h).ge
  · rw [lt_whole (show (Quantity.int k).toInt? = some k from rfl) h] at hlt
    simpa using hlt

/-- A binary64 number compares with whole numbers as a fraction does, or it compares with all of them alike. -/
theorem compareFloat_cases (x : Float) :
    (∃ num den : Int, 0 < den ∧ ∀ i, compareFloat x i = some (compare num (i * den))) ∨
      ∃ o, o ≠ some .eq ∧ ∀ i, compareFloat x i = o := by
  unfold compareFloat
  cases Decimal.Binary.ofFloat? x with
  | some b =>
    obtain ⟨num, den, hden, h⟩ := b.compareInt_fraction
    exact .inl ⟨num, den, hden, fun i => congrArg some (h i)⟩
  | none =>
    refine .inr ⟨if x.isNaN then none else some (if x < 0.0 then .lt else .gt), ?_, fun i => rfl⟩
    split_ifs <;> simp

theorem compare?_binary {q : Quantity} (h : q.toInt? = none) (i : Int) :
    q.compare? (.int i) = compareFloat q.toFloat i := by
  unfold compare?
  rw [h]
  rfl

/-- A limit is reached by all whole numbers above one that reaches it. -/
theorem le_int_mono {q : Quantity} {m n : Int} (h : m ≤ n) (hq : q.le (.int m) = true) : q.le (.int n) = true := by
  cases hi : q.toInt? with
  | some i =>
    rw [le_whole hi rfl, decide_eq_true_eq] at hq ⊢
    omega
  | none =>
    unfold le at hq ⊢
    rw [compare?_binary hi] at hq ⊢
    rcases compareFloat_cases q.toFloat with ⟨num, den, hden, hall⟩ | ⟨o, -, hall⟩
    · rw [hall] at hq ⊢
      have hle : m * den ≤ n * den := mul_le_mul_of_nonneg_right h hden.le
      simp only [Option.some.injEq, Bool.or_eq_true, decide_eq_true_eq, compare_lt_iff_lt, compare_eq_iff_eq] at hq ⊢
      omega
    · rw [hall] at hq ⊢
      exact hq

/-- No limit that is not below one is reached by zero. -/
theorem not_le_zero {q : Quantity} (h : q.lt (.int 1) = false) : q.le (.int 0) = false := by
  cases hi : q.toInt? with
  | some i =>
    rw [lt_whole hi rfl, decide_eq_false_iff_not] at h
    rw [le_whole hi rfl, decide_eq_false_iff_not]
    omega
  | none =>
    unfold lt at h
    unfold le
    rw [compare?_binary hi] at h ⊢
    rcases compareFloat_cases q.toFloat with ⟨num, den, hden, hall⟩ | ⟨o, ho, hall⟩
    · rw [hall] at h ⊢
      simp only [Option.some.injEq, decide_eq_false_iff_not, Bool.or_eq_false_iff, compare_lt_iff_lt,
        compare_eq_iff_eq] at h ⊢
      omega
    · rw [hall] at h ⊢
      simpa [ho] using h

/-- The quantity is a reading of a clock that runs in binary64. -/
def Binary (q : Quantity) : Prop := ∃ x, q = .float x

theorem sub_binary (x y : Float) : (Quantity.float x).sub (.float y) = .ok (.float (x - y)) := rfl

theorem binary_of_add {q r s : Quantity} (hq : q.Binary) (h : q.add? r = some s) : s.Binary := by
  obtain ⟨x, rfl⟩ := hq
  have hadd : (Quantity.float x).add? r = r.inRange?.bind fun y => some (.float (x + y)) := rfl
  rw [hadd, Option.bind_eq_some_iff] at h
  obtain ⟨y, -, hy⟩ := h
  exact ⟨x + y, (Option.some.inj hy).symm⟩

end Quantity

end DocumentStore
