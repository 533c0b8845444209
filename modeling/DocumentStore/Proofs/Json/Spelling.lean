import DocumentStore.Failure
import Mathlib.Tactic

/-! Which values can be spelled out: those in which no whole number has more digits than a numeral may have. And which texts
have bytes: those that are strings. -/

namespace DocumentStore

theorem Text.fits_iff (digits n : Nat) : fits digits n = true ↔ n < 10 ^ digits := by
  induction digits generalizing n with
  | zero => simp [fits]
  | succ digits ih =>
    rw [fits, Bool.or_eq_true, decide_eq_true_eq, ih, Nat.div_lt_iff_lt_mul (by decide), pow_succ]
    have := Nat.pow_pos (n := digits) (show 0 < 10 by decide)
    omega

theorem Text.require_eq_ok_iff {t : Text} {s : String} : t.require = .ok s ↔ t = .ofString s := by
  rw [← Text.string?_eq_some_iff]
  unfold Text.require
  cases t.string? <;> simp

namespace Json

theorem isSpellable_int (i : Int) : (Json.int i).isSpellable = true ↔ i.natAbs < 10 ^ Text.longestNumeral :=
  Text.fits_iff ..

theorem areSpellable_iff (xs : List Json) : areSpellable xs = true ↔ ∀ x ∈ xs, x.isSpellable = true := by
  induction xs with
  | nil => simp [areSpellable]
  | cons x xs ih => rw [areSpellable, Bool.and_eq_true, ih, List.forall_mem_cons]

theorem haveSpellable_iff (fs : List (Text × Json)) :
    haveSpellable fs = true ↔ ∀ f ∈ fs, f.2.isSpellable = true := by
  induction fs with
  | nil => simp [haveSpellable]
  | cons f fs ih => rw [haveSpellable, Bool.and_eq_true, ih, List.forall_mem_cons]

theorem spell_eq_ok_iff (v : Json) : v.spell = .ok () ↔ v.isSpellable = true := by
  unfold spell
  split_ifs with h <;> simp [h]

theorem spell_of_not_spellable {v : Json} (h : v.isSpellable = false) : v.spell = .error (.misuse .overlongNumber) := by
  unfold spell
  rw [if_neg (by simp [h])]

end Json

namespace Quantity

theorem isSpellable_int (i : Int) : (Quantity.int i).isSpellable = true ↔ i.natAbs < 10 ^ Text.longestNumeral :=
  Json.isSpellable_int i

/-- Every number that the status of an answer usually is can be spelled out. -/
theorem isSpellable_of_lt {i : Int} (h : i.natAbs < 1000) : (Quantity.int i).isSpellable = true := by
  rw [isSpellable_int]
  have : 10 ^ 3 ≤ 10 ^ Text.longestNumeral := Nat.pow_le_pow_right (by decide) (by decide)
  omega

theorem writable_of_spellable {q : Quantity} (h : q.isSpellable = true) : q.writable = .ok q := by
  unfold writable
  rw [(Json.spell_eq_ok_iff _).2 h]
  rfl

theorem writable_of_not_spellable {q : Quantity} (h : q.isSpellable = false) :
    q.writable = .error (.misuse .overlongNumber) := by
  unfold writable
  rw [Json.spell_of_not_spellable h]
  rfl

end Quantity

end DocumentStore
