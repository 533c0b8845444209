import DocumentStore.Json.Printer
import Mathlib.Tactic

/-! The compact text of a document is one line, and not an empty one: what is a line break or another control character in a
text or a key is written as an escape, and numbers of either kind have none. -/

namespace DocumentStore

namespace Decimal

theorem visible_of_all {cs : List Char} (h : (cs.all fun c => 0x20 ≤ c.toNat) = true) : ∀ c ∈ cs, 0x20 ≤ c.toNat := by
  simpa using h

theorem digits_visible (n : Nat) : ∀ c ∈ Nat.toDigits 10 n, 0x20 ≤ c.toNat := by
  intro c hc
  have hdigit := Nat.isDigit_of_mem_toDigits (by decide) (by decide) hc
  simp only [Char.isDigit, Bool.and_eq_true, decide_eq_true_eq, ge_iff_le, UInt32.le_iff_toNat_le] at hdigit
  exact le_trans (by decide) hdigit.1

theorem unsigned_visible (l : Layout) (s : Significant) : ∀ c ∈ (l.unsigned s).toList, 0x20 ≤ c.toNat := by
  have htake (n k : Nat) : ∀ c ∈ (Nat.toDigits 10 n).take k, 0x20 ≤ c.toNat :=
    fun c hc => digits_visible n c (List.mem_of_mem_take hc)
  have hdrop (n k : Nat) : ∀ c ∈ (Nat.toDigits 10 n).drop k, 0x20 ≤ c.toNat :=
    fun c hc => digits_visible n c (List.mem_of_mem_drop hc)
  have hzeros (k : Nat) : ∀ c ∈ List.replicate k '0', 0x20 ≤ c.toNat := by
    intro c hc
    rw [List.eq_of_mem_replicate hc]
    decide
  unfold Layout.unsigned
  simp only
  split_ifs
  · exact visible_of_all (by decide)
  all_goals
    simp only [String.toList_append, String.toList_ofList, List.forall_mem_append]
    and_intros
  -- runs of digits and of zeros, and the marks between them
  all_goals first
    | exact digits_visible _
    | exact htake _ _
    | exact hdrop _ _
    | exact hzeros _
    | exact visible_of_all (by decide)

theorem unsigned_ne_empty (l : Layout) (s : Significant) : (l.unsigned s).toList ≠ [] := by
  unfold Layout.unsigned
  simp only
  split_ifs <;> simp

theorem render_visible (x : Float) : ∀ c ∈ (documentLayout.render x).toList, 0x20 ≤ c.toNat := by
  unfold Layout.render
  split
  · rw [String.toList_append, List.forall_mem_append]
    refine ⟨?_, unsigned_visible _ _⟩
    split_ifs <;> exact visible_of_all (by decide)
  · split_ifs <;> exact visible_of_all (by decide)

theorem render_ne_empty (x : Float) : (documentLayout.render x).toList ≠ [] := by
  unfold Layout.render
  split
  · rw [String.toList_append]
    exact List.append_ne_nil_of_right_ne_nil _ (unsigned_ne_empty _ _)
  · split_ifs <;> decide

end Decimal

namespace Json

theorem escapeChar_visible (c : Char) : ∀ d ∈ escapeChar c, 0x20 ≤ d.toNat := by
  have hhex : ∀ n < 16, 0x20 ≤ (Text.hexDigit n).toNat := by decide
  unfold escapeChar
  split_ifs with h1 h2 h3 h4 h5 h6 h7 hcontrol
  -- the seven short escapes first
  all_goals try exact Decimal.visible_of_all (by decide)
  · simp [hhex (c.toNat / 16) (by omega), hhex (c.toNat % 16) (by omega)]
  · simpa using hcontrol

theorem escapePoint_visible (p : CodePoint) : ∀ q ∈ escapePoint p, 0x20 ≤ q.toNat := by
  cases p with
  | surrogate n =>
    intro q hq
    rw [List.mem_singleton.1 hq, CodePoint.toNat]
    omega
  | char c => simpa [escapePoint, CodePoint.toNat] using escapeChar_visible c

theorem printText_visible (t : Text) : ∀ p ∈ printText t, 0x20 ≤ p.toNat := by
  intro p hp
  simp only [printText, List.mem_append, List.mem_cons, List.mem_flatMap, List.not_mem_nil, or_false] at hp
  rcases hp with (rfl | ⟨q, -, hp⟩) | rfl
  · decide
  · exact escapePoint_visible q p hp
  · decide

theorem printInt_visible (i : Int) : ∀ c ∈ printInt i, 0x20 ≤ c.toNat := by
  unfold printInt
  split_ifs
  · exact List.forall_mem_cons.2 ⟨by decide, Decimal.digits_visible _⟩
  · exact Decimal.digits_visible _

theorem ofChars_visible {cs : List Char} (h : ∀ c ∈ cs, 0x20 ≤ c.toNat) : ∀ p ∈ (Text.ofChars cs).points, 0x20 ≤ p.toNat := by
  simpa [Text.ofChars, CodePoint.toNat] using h

mutual

/-- A document is written without control characters, whatever texts and keys are in it. -/
theorem print_visible : ∀ v : Json, ∀ p ∈ v.print, 0x20 ≤ p.toNat
  | .null | .bool true | .bool false => by decide
  | .int i => ofChars_visible (printInt_visible i)
  | .float x => ofChars_visible (Decimal.render_visible x)
  | .str t => printText_visible t
  | .arr xs => by
    rw [print, List.forall_mem_append, List.forall_mem_cons]
    exact ⟨⟨by decide, printItems_visible xs⟩, by decide⟩
  | .obj fs => by
    rw [print, List.forall_mem_append, List.forall_mem_cons]
    exact ⟨⟨by decide, printFields_visible fs⟩, by decide⟩

theorem printItems_visible : ∀ xs : List Json, ∀ p ∈ printItems xs, 0x20 ≤ p.toNat
  | [] => by simp [printItems]
  | [x] => print_visible x
  | x :: y :: ys => by
    simp only [printItems, List.forall_mem_append, List.forall_mem_cons]
    exact ⟨print_visible x, by decide, printItems_visible (y :: ys)⟩

theorem printFields_visible : ∀ fs : List (Text × Json), ∀ p ∈ printFields fs, 0x20 ≤ p.toNat
  | [] => by simp [printFields]
  | [(k, x)] => by
    rw [printFields, List.forall_mem_append, List.forall_mem_cons]
    exact ⟨printText_visible k, by decide, print_visible x⟩
  | (k, x) :: f :: fs => by
    simp only [printFields, List.forall_mem_append, List.forall_mem_cons]
    exact ⟨⟨printText_visible k, by decide, print_visible x⟩, by decide, printFields_visible (f :: fs)⟩

end

theorem newline_notMem_print (v : Json) : .char '\n' ∉ v.print :=
  fun h => absurd (print_visible v _ h) (by decide)

theorem print_ne_nil (v : Json) : v.print ≠ [] := by
  cases v with
  | null => decide
  | bool b => cases b <;> decide
  | int i =>
    suffices printInt i ≠ [] by simpa [print, Text.ofChars] using this
    unfold printInt
    split_ifs <;> simp [Nat.toDigits_ne_nil]
  | float x =>
    have := Decimal.render_ne_empty x
    simpa [print, Text.ofString, Text.ofChars] using this
  | str t => simp [print, printText]
  | arr xs => simp [print]
  | obj fs => simp [print]

end Json

end DocumentStore
