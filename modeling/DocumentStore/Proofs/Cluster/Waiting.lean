import DocumentStore.Cluster.World
import DocumentStore.Proofs.Quantity.Value

/-! What a system says to a wait, and what comes of a pause. A system that counts nanoseconds in 64 bits waits for times of
either sign up to its limit, and for no others. -/

namespace DocumentStore.World

theorem usualLongestWait_finite : usualLongestWait.Finite ∧ usualLongestWait.neg.Finite := by decide +kernel

theorem usualLongestWait_number :
    usualLongestWait.neg.number = -usualLongestWait.number ∧ 9223372036 ≤ usualLongestWait.number ∧
      usualLongestWait.number < 9223372037 := by
  decide +kernel

theorem refusal?_usual_iff {seconds : Quantity} (h : seconds.Finite) :
    refusal? (some usualLongestWait) seconds = none ↔ |seconds.number| ≤ usualLongestWait.number := by
  obtain ⟨hlongest, hopposite⟩ := usualLongestWait_finite
  rw [abs_le, ← usualLongestWait_number.1]
  unfold refusal?
  simp only [Option.bind_some, h.isNaN, Quantity.lt_number hlongest h, Quantity.lt_number h hopposite,
    Bool.false_eq_true, if_false, Bool.or_eq_true, decide_eq_true_eq, ← not_le]
  split_ifs with hrefused
  · exact iff_of_false nofun (by tauto)
  · exact iff_of_true rfl (by tauto)

theorem refusal?_usual_int (i : Int) : refusal? (some usualLongestWait) (.int i) = none ↔ |i| ≤ 9223372036 := by
  obtain ⟨-, hlow, hhigh⟩ := usualLongestWait_number
  rw [refusal?_usual_iff ⟨i, rfl⟩, show (Quantity.int i).number = (i : ℚ) from rfl, ← Int.cast_abs]
  constructor
  · intro h
    have hlt : ((|i| : Int) : ℚ) < (9223372037 : Int) := by exact_mod_cast h.trans_lt hhigh
    have := Int.cast_lt.1 hlt
    omega
  · intro h
    have hle : ((|i| : Int) : ℚ) ≤ (9223372036 : Int) := Int.cast_le.2 h
    exact (by exact_mod_cast hle : ((|i| : Int) : ℚ) ≤ 9223372036).trans hlow

/-- A pause is not made at all, or it begins; then it ends unless the clock cannot count it. -/
theorem pause_cases (w : World) (seconds : Quantity) :
    (∃ m, w.pause seconds = (.error (.misuse m), w)) ∨
      (∃ m, w.pause seconds = (.error (.misuse m), w.record (.sleep seconds))) ∨
      ∃ clock, w.clock.add? seconds = some clock ∧
        w.pause seconds = (.ok (), { w.record (.sleep seconds) with clock }) := by
  unfold pause
  cases refusal? w.longestWait seconds with
  | some m => exact .inl ⟨m, rfl⟩
  | none =>
    dsimp only
    split_ifs
    · exact .inl ⟨_, rfl⟩
    · have hclock : (w.record (.sleep seconds)).clock = w.clock := rfl
      unfold advance Quantity.add
      rw [hclock]
      cases w.clock.add? seconds with
      | none => exact .inr (.inl ⟨_, rfl⟩)
      | some clock => exact .inr (.inr ⟨clock, rfl, rfl⟩)

end DocumentStore.World
