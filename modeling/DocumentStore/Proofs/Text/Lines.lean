import DocumentStore.Proofs.Text.Utf8

/-! Bytes cut into lines. Every line is ended by a line break, the last one too, and one line after the other is all there
is to the bytes. -/

namespace DocumentStore.Text

/-- The lines of some bytes, without the breaks that end them; none if the last one is not ended. -/
def lines? : List UInt8 → Option (List (List UInt8))
  | [] => some []
  | b :: bs =>
    match lines? bs with
    | none => none
    | some ls =>
      if b = 10 then some ([] :: ls)
      else
        match ls with
        | [] => none
        | l :: ls => some ((b :: l) :: ls)

theorem lines?_line {l : List UInt8} (hl : 10 ∉ l) (rest : List UInt8) :
    lines? (l ++ 10 :: rest) = (lines? rest).map (l :: ·) := by
  induction l with
  | nil => cases h : lines? rest <;> simp [lines?, h]
  | cons b l ih =>
    rw [List.mem_cons, not_or] at hl
    rw [List.cons_append, lines?, ih hl.2]
    cases lines? rest <;> simp [Ne.symm hl.1]

/-- Cutting takes apart what lines, ended one by one, are put together to, and nothing else. -/
theorem lines?_eq_some_iff (bs : List UInt8) (ls : List (List UInt8)) :
    lines? bs = some ls ↔ bs = ls.flatMap (· ++ [10]) ∧ ∀ l ∈ ls, 10 ∉ l := by
  constructor
  · intro h
    induction bs generalizing ls with
    | nil => simp_all [lines?]
    | cons b bs ih =>
      rw [lines?] at h
      cases hbs : lines? bs with
      | none => simp [hbs] at h
      | some more =>
        obtain ⟨hbytes, hfree⟩ := ih more hbs
        simp only [hbs] at h
        split_ifs at h with hb
        · obtain rfl := Option.some.inj h
          exact ⟨by simp [hb, hbytes], List.forall_mem_cons.mpr ⟨List.not_mem_nil, hfree⟩⟩
        · cases more with
          | nil => cases h
          | cons l more =>
            obtain rfl := Option.some.inj h
            rw [List.forall_mem_cons] at hfree ⊢
            refine ⟨by simp [hbytes], ?_, hfree.2⟩
            simpa [Ne.symm hb] using hfree.1
  · rintro ⟨rfl, hfree⟩
    induction ls with
    | nil => rfl
    | cons l ls ih =>
      obtain ⟨hl, hls⟩ := List.forall_mem_cons.mp hfree
      rw [List.flatMap_cons, List.append_assoc, List.singleton_append, lines?_line hl, ih hls]
      rfl

theorem lines?_append {as bs : List UInt8} {ls ms : List (List UInt8)} (has : lines? as = some ls)
    (hbs : lines? bs = some ms) : lines? (as ++ bs) = some (ls ++ ms) := by
  rw [lines?_eq_some_iff] at *
  obtain ⟨rfl, hls⟩ := has
  obtain ⟨rfl, hms⟩ := hbs
  exact ⟨by simp, fun l hl => (List.mem_append.mp hl).elim (hls l) (hms l)⟩

theorem getLast?_of_lines? {bs : List UInt8} {ls : List (List UInt8)} (h : lines? bs = some ls) (hne : ls ≠ []) :
    bs.getLast? = some 10 := by
  obtain ⟨rfl, -⟩ := (lines?_eq_some_iff bs ls).mp h
  rw [← List.dropLast_append_getLast hne, List.flatMap_append]
  simp

theorem exists_lines? {bs : List UInt8} (h : bs.getLast? = some 10) : ∃ ls, ls ≠ [] ∧ lines? bs = some ls := by
  induction bs with
  | nil => cases h
  | cons b bs ih =>
    cases bs with
    | nil =>
      obtain rfl : b = 10 := by simpa using h
      exact ⟨[[]], by simp, rfl⟩
    | cons c bs =>
      obtain ⟨ls, hne, hls⟩ := ih (by simpa using h)
      obtain ⟨l, ls, rfl⟩ := List.exists_cons_of_ne_nil hne
      rw [lines?, hls]
      by_cases hb : b = 10
      · exact ⟨[] :: l :: ls, by simp, by simp [hb]⟩
      · exact ⟨(b :: l) :: ls, by simp, by simp [hb]⟩

theorem utf8_append (ps qs : List CodePoint) : (⟨ps ++ qs⟩ : Text).utf8 = (⟨ps⟩ : Text).utf8 ++ (⟨qs⟩ : Text).utf8 := by
  simp [utf8]

/-- Code points without a line break, and a break behind them, are one line. -/
theorem lines?_utf8 {ps : List CodePoint} (hps : .char '\n' ∉ ps) :
    lines? (⟨ps ++ [.char '\n']⟩ : Text).utf8 = some [(⟨ps⟩ : Text).utf8] := by
  have hfree : 10 ∉ (⟨ps⟩ : Text).utf8 := fun h => hps ((newline_mem_utf8_iff ⟨ps⟩).mp h)
  rw [utf8_append]
  exact lines?_line hfree []

theorem utf8_ne_nil {ps : List CodePoint} (h : ps ≠ []) : (⟨ps⟩ : Text).utf8 ≠ [] := by
  obtain ⟨p, ps, rfl⟩ := List.exists_cons_of_ne_nil h
  obtain ⟨b, more, hp, -⟩ := frontWithSurrogates_point p []
  simp [utf8, hp]

end DocumentStore.Text
