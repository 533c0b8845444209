import DocumentStore.Document
import DocumentStore.Proofs.Json.Token

/-! The grammar of paths. A text is a path if it is a row of segments; it is read with bare names as long as they can
be, and a row of steps written in brackets is read as these steps. -/

namespace DocumentStore.Path

/-! ### Runs of code points -/

section run

variable {p : CodePoint → Bool} {run rest : List CodePoint}

theorem drop_takeWhile (p : CodePoint → Bool) (cs : List CodePoint) : cs.drop (cs.takeWhile p).length = cs.dropWhile p := by
  have h : (cs.takeWhile p ++ cs.dropWhile p).drop (cs.takeWhile p).length = cs.dropWhile p := List.drop_left
  rwa [List.takeWhile_append_dropWhile] at h

theorem head?_dropWhile (p : CodePoint → Bool) (cs : List CodePoint) : ∀ c ∈ (cs.dropWhile p).head?, p c = false := by
  intro c hc
  have hend := List.head?_dropWhile_not p cs
  rw [Option.mem_def.1 hc] at hend
  exact hend

theorem dropWhile_of_head {p : CodePoint → Bool} {cs : List CodePoint} (h : ∀ c ∈ cs.head?, p c = false) : cs.dropWhile p = cs := by
  cases cs with
  | nil => rfl
  | cons c cs => rw [List.dropWhile_cons_of_neg (by simp [h c rfl])]

/-- A text is its longest run of some code points, with what does not go on with them behind it. -/
theorem run_split (p : CodePoint → Bool) (cs : List CodePoint) :
    cs.takeWhile p ++ cs.drop (cs.takeWhile p).length = cs ∧ (∀ c ∈ cs.takeWhile p, p c = true) ∧
      ∀ c ∈ (cs.drop (cs.takeWhile p).length).head?, p c = false := by
  rw [drop_takeWhile]
  exact ⟨List.takeWhile_append_dropWhile, List.all_eq_true.1 List.all_takeWhile, head?_dropWhile p cs⟩

theorem takeWhile_run (hrun : ∀ c ∈ run, p c = true) (hrest : ∀ c ∈ rest.head?, p c = false) :
    (run ++ rest).takeWhile p = run := by
  rw [List.takeWhile_append_of_pos hrun]
  cases rest with
  | nil => simp
  | cons c rest => simp [hrest c rfl]

end run

/-! ### The grammar -/

/-- Steps as they are written in brackets. -/
inductive Bracketed : List CodePoint → Step → Prop
  | index {digits : List Char} (hne : digits ≠ []) (hdigits : ∀ c ∈ digits, Text.isDigit (.char c) = true)
      (hshort : digits.length ≤ Text.longestNumeral) :
      Bracketed (.char '[' :: (digits.map .char ++ [.char ']'])) (.index (Text.ofDigits digits))
  | quoted {mark : CodePoint} {name : List CodePoint} (hmark : mark = .char '\x27' ∨ mark = .char '\x22')
      (hname : mark ∉ name) :
      Bracketed (.char '[' :: mark :: (name ++ [mark, .char ']'])) (.name ⟨name⟩)

/-- A segment of a path, and what may follow it: a bare name is not followed by more of it. -/
inductive Segment : List CodePoint → List CodePoint → Step → Prop
  | bracketed {front rest : List CodePoint} {step : Step} (h : Bracketed front step) : Segment front rest step
  | bare {dot name rest : List CodePoint} (hdot : dot = [] ∨ dot = [.char '.']) (hne : name ≠ [])
      (hname : ∀ c ∈ name, isBare c = true) (hend : ∀ c ∈ rest.head?, isBare c = false) :
      Segment (dot ++ name) rest (.name ⟨name⟩)

/-- A text as the steps that its segments write. -/
inductive Reads : List CodePoint → List Step → Prop
  | done : Reads [] []
  | segment {front rest : List CodePoint} {step : Step} {steps : List Step} (h : Segment front rest step)
      (hrest : Reads rest steps) : Reads (front ++ rest) (step :: steps)

/-! ### Single segments -/

theorem isDigit_char {p : CodePoint} (h : Text.isDigit p = true) : p = .char p.shown := by
  cases p with
  | char c => rfl
  | surrogate n =>
    have hnone : Text.isDigit (.char '\uFFFD') = false := by decide
    exact absurd h (by simpa [Text.isDigit, CodePoint.shown] using hnone)

/-- A run of digits holds characters only. -/
theorem map_shown_digits {ps : List CodePoint} (h : ∀ p ∈ ps, Text.isDigit p = true) :
    (ps.map CodePoint.shown).map .char = ps := by
  rw [List.map_map]
  conv_rhs => rw [← List.map_id ps]
  exact List.map_congr_left fun p hp => (isDigit_char (h p hp)).symm

theorem indexSegment_eq_ok {cs : List CodePoint} {step : Step} {n : Nat} (h : indexSegment cs = .ok (step, n)) :
    ∃ front, .char '[' :: cs = front ++ cs.drop n ∧ Bracketed front step := by
  obtain ⟨hsplit, hdigits, -⟩ := run_split Text.isDigit cs
  have hchars := map_shown_digits hdigits
  unfold indexSegment at h
  simp only at h
  split_ifs at h with hwrong hlong
  cases h
  simp only [Bool.or_eq_true, List.isEmpty_iff, decide_eq_true_eq, not_or, not_not, List.length_map] at hwrong
  obtain ⟨hne, hclose⟩ := hwrong
  obtain ⟨rest, hrest⟩ := List.head?_eq_some_iff.1 hclose
  have hwritten : ∀ c ∈ (cs.takeWhile Text.isDigit).map CodePoint.shown, Text.isDigit (.char c) = true := by
    refine List.forall_mem_map.2 fun p hp => ?_
    rw [← isDigit_char (hdigits p hp)]
    exact hdigits p hp
  refine ⟨_, ?_, .index hne hwritten (by omega)⟩
  rw [hchars, List.length_map, ← List.drop_drop, hrest, List.drop_one, List.tail_cons, List.cons_append,
    List.append_assoc, List.singleton_append, ← hrest, hsplit]

theorem quotedSegment_eq_ok {mark : CodePoint} (hmark : mark = .char '\x27' ∨ mark = .char '\x22') {cs : List CodePoint} {step : Step}
    {n : Nat} (h : quotedSegment mark cs = .ok (step, n)) :
    ∃ front, CodePoint.char '[' :: mark :: cs = front ++ (mark :: cs).drop n ∧ Bracketed front step := by
  obtain ⟨hsplit, hname, -⟩ := run_split (· ≠ mark) cs
  unfold quotedSegment at h
  simp only at h
  split_ifs at h with hclose
  cases h
  have hfree : mark ∉ cs.takeWhile (· ≠ mark) := fun hmem => by simpa using hname mark hmem
  refine ⟨_, ?_, .quoted hmark hfree⟩
  have hrest := List.take_append_drop 2 (cs.drop (cs.takeWhile (· ≠ mark)).length)
  rw [hclose, List.drop_drop] at hrest
  rw [← hrest] at hsplit
  rw [List.drop_succ_cons]
  simpa using hsplit.symm

theorem bareSegment_eq_ok {cs : List CodePoint} {step : Step} {n : Nat} (h : bareSegment cs = .ok (step, n)) :
    ∃ name, cs = name ++ cs.drop n ∧ name.length = n ∧ name ≠ [] ∧ (∀ c ∈ name, isBare c = true) ∧
      (∀ c ∈ (cs.drop n).head?, isBare c = false) ∧ step = .name ⟨name⟩ := by
  obtain ⟨hsplit, hname, hend⟩ := run_split isBare cs
  unfold bareSegment at h
  simp only at h
  split_ifs at h with hempty
  cases h
  exact ⟨_, hsplit.symm, rfl, by simpa [List.isEmpty_iff] using hempty, hname, hend, rfl⟩

/-- What is read at the front of a text is a segment. -/
theorem segment_eq_ok {c : CodePoint} {cs : List CodePoint} {step : Step} {n : Nat} (h : segment c cs = .ok (step, n)) :
    ∃ front, c :: cs = front ++ cs.drop n ∧ Segment front (cs.drop n) step := by
  unfold segment at h
  split_ifs at h with hbracket hdot
  · subst hbracket
    have hbracketed : ∃ front, CodePoint.char '[' :: cs = front ++ cs.drop n ∧ Bracketed front step := by
      split at h
      · exact quotedSegment_eq_ok (.inl rfl) h
      · exact quotedSegment_eq_ok (.inr rfl) h
      · exact indexSegment_eq_ok h
    obtain ⟨front, hfront, hstep⟩ := hbracketed
    exact ⟨front, hfront, .bracketed hstep⟩
  · subst hdot
    obtain ⟨name, hsplit, -, hne, hname, hend, rfl⟩ := bareSegment_eq_ok h
    exact ⟨[.char '.'] ++ name, congrArg (.char '.' :: ·) hsplit, .bare (.inr rfl) hne hname hend⟩
  · cases hbare : bareSegment (c :: cs) with
    | error f => rw [hbare] at h; cases h
    | ok found =>
      obtain ⟨step', m⟩ := found
      rw [hbare] at h
      cases h
      obtain ⟨name, hsplit, hlength, hne, hname, hend, rfl⟩ := bareSegment_eq_ok hbare
      obtain ⟨k, rfl⟩ : ∃ k, m = k + 1 := Nat.exists_eq_add_one.2 (hlength ▸ List.length_pos_of_ne_nil hne)
      exact ⟨[] ++ name, hsplit, .bare (.inl rfl) hne hname hend⟩

theorem indexSegment_run {digits : List Char} (hne : digits ≠ [])
    (hdigits : ∀ c ∈ digits, Text.isDigit (.char c) = true) (hshort : digits.length ≤ Text.longestNumeral)
    (rest : List CodePoint) : indexSegment (digits.map .char ++ .char ']' :: rest) =
      .ok (.index (Text.ofDigits digits), digits.length + 1) := by
  have hwritten : ∀ p ∈ digits.map CodePoint.char, Text.isDigit p = true := List.forall_mem_map.2 hdigits
  have hrun : (digits.map CodePoint.char ++ .char ']' :: rest).takeWhile Text.isDigit = digits.map .char :=
    takeWhile_run hwritten (by simp; decide)
  have hshown : (digits.map CodePoint.char).map CodePoint.shown = digits := by
    rw [List.map_map]
    exact List.map_id digits
  have hclose : ((digits.map CodePoint.char ++ .char ']' :: rest).drop digits.length).head? = some (.char ']') := by
    rw [List.drop_left' (List.length_map _)]
    rfl
  unfold indexSegment
  simp only [hrun, hshown, hclose]
  rw [if_neg (by simpa using hne), if_neg (by omega)]

theorem quotedSegment_run {mark : CodePoint} {name : List CodePoint} (hname : mark ∉ name) (rest : List CodePoint) :
    quotedSegment mark (name ++ mark :: .char ']' :: rest) = .ok (.name ⟨name⟩, name.length + 3) := by
  have hrun : (name ++ mark :: .char ']' :: rest).takeWhile (· ≠ mark) = name :=
    takeWhile_run (fun c hc => decide_eq_true fun he => hname (he ▸ hc)) (by simp)
  unfold quotedSegment
  simp only [hrun, List.drop_left]
  exact if_pos rfl

theorem bareSegment_run {name rest : List CodePoint} (hne : name ≠ []) (hname : ∀ c ∈ name, isBare c = true)
    (hend : ∀ c ∈ rest.head?, isBare c = false) :
    bareSegment (name ++ rest) = .ok (.name ⟨name⟩, name.length) := by
  unfold bareSegment
  simp only [takeWhile_run hname hend]
  rw [if_neg (by simpa using hne)]

/-- Behind an opening bracket, digits are read as an index: they do not begin with a quotation mark. -/
theorem segment_digits {digits : List Char} (hne : digits ≠ [])
    (hdigits : ∀ c ∈ digits, Text.isDigit (.char c) = true) (rest : List CodePoint) :
    segment (.char '[') (digits.map .char ++ rest) = indexSegment (digits.map .char ++ rest) := by
  obtain ⟨d, ds, rfl⟩ := List.exists_cons_of_ne_nil hne
  have hd := hdigits d List.mem_cons_self
  unfold segment
  rw [if_pos rfl]
  split
  · rename_i heq
    cases heq
    exact absurd hd (by decide)
  · rename_i heq
    cases heq
    exact absurd hd (by decide)
  · rfl

theorem segment_bracketed {front : List CodePoint} {step : Step} (h : Bracketed front step) (rest : List CodePoint) :
    ∃ c cs n, front ++ rest = c :: cs ∧ segment c cs = .ok (step, n) ∧ cs.drop n = rest := by
  cases h with
  | @index digits hne hdigits hshort =>
    refine ⟨.char '[', digits.map .char ++ .char ']' :: rest, digits.length + 1, by simp, ?_, ?_⟩
    · rw [segment_digits hne hdigits, indexSegment_run hne hdigits hshort]
    · rw [← List.drop_drop, List.drop_left' (List.length_map _)]
      rfl
  | @quoted mark name hmark hname =>
    refine ⟨.char '[', mark :: (name ++ mark :: .char ']' :: rest), name.length + 3, by simp, ?_, by simp⟩
    rcases hmark with rfl | rfl
    · exact quotedSegment_run hname rest
    · exact quotedSegment_run hname rest

/-- A segment is read from the front of a text, up to what is behind it. -/
theorem segment_of_segment {front rest : List CodePoint} {step : Step} (h : Segment front rest step) :
    ∃ c cs n, front ++ rest = c :: cs ∧ segment c cs = .ok (step, n) ∧ cs.drop n = rest := by
  cases h with
  | bracketed h => exact segment_bracketed h rest
  | @bare dot name _ hdot hne hname hend =>
    have hbare := bareSegment_run hne hname hend
    rcases hdot with rfl | rfl
    · obtain ⟨c, cs, rfl⟩ := List.exists_cons_of_ne_nil hne
      have hc := hname c List.mem_cons_self
      simp only [isBare, Bool.and_eq_true, decide_eq_true_eq] at hc
      obtain ⟨⟨hdot, hopen⟩, -⟩ := hc
      refine ⟨c, cs ++ rest, cs.length, rfl, ?_, List.drop_left⟩
      unfold segment
      rw [if_neg hopen, if_neg hdot, ← List.cons_append, hbare]
      rfl
    · exact ⟨.char '.', name ++ rest, name.length, rfl, hbare, List.drop_left⟩

/-! ### Rows of segments -/

theorem segments_iff {cs : List CodePoint} {steps : List Step} : segments cs = .ok steps ↔ Reads cs steps := by
  constructor
  · intro h
    fun_induction segments cs generalizing steps with
    | case1 =>
      cases h
      exact .done
    | case2 c cs f hsegment => cases h
    | case3 c cs step n hsegment ih =>
      cases hrest : segments (cs.drop n) with
      | error f => rw [hrest] at h; cases h
      | ok tail =>
        rw [hrest] at h
        cases h
        obtain ⟨front, hfront, hstep⟩ := segment_eq_ok hsegment
        rw [hfront]
        exact .segment hstep (ih hrest)
  · intro h
    induction h with
    | done => rw [segments]
    | @segment front rest step steps h hrest ih =>
      obtain ⟨c, cs, n, hfront, hsegment, hdrop⟩ := segment_of_segment h
      rw [hfront, segments, hsegment]
      simp only [hdrop, ih]
      rfl

theorem Segment.alone {front rest : List CodePoint} {step : Step} (h : Segment front rest step) : Segment front [] step := by
  cases h with
  | bracketed h => exact .bracketed h
  | bare hdot hne hname hend => exact .bare hdot hne hname (by simp)

theorem dropWhile_bracketed {front : List CodePoint} {step : Step} (h : Bracketed front step) (rest : List CodePoint) :
    (front ++ rest).dropWhile isBare = front ++ rest := by
  cases h <;> rfl

/-- However a text is cut into segments, there is a way to read it, also without the rest of a bare name in front. -/
theorem exists_reads {fronts : List (List CodePoint)} (h : ∀ front ∈ fronts, ∃ step, Segment front [] step) :
    (∃ steps, Reads fronts.flatten steps) ∧ ∃ steps, Reads (fronts.flatten.dropWhile isBare) steps := by
  induction fronts with
  | nil => exact ⟨⟨[], .done⟩, ⟨[], .done⟩⟩
  | cons front fronts ih =>
    obtain ⟨⟨step, hstep⟩, hfronts⟩ := List.forall_mem_cons.1 h
    obtain ⟨⟨whole, hwhole⟩, ⟨steps, hsteps⟩⟩ := ih hfronts
    rw [List.flatten_cons]
    cases hstep with
    | bracketed hbracketed =>
      have hreads : Reads (front ++ fronts.flatten) (step :: whole) := .segment (.bracketed hbracketed) hwhole
      exact ⟨⟨_, hreads⟩, ⟨_, by rwa [dropWhile_bracketed hbracketed]⟩⟩
    | @bare dot name _ hdot hne hname _ =>
      obtain ⟨hsplit, hmore, hend⟩ := run_split isBare fronts.flatten
      rw [drop_takeWhile] at hsplit hend
      -- the name goes on with whatever of the next segments can be part of it
      have hlonger : Reads (dot ++ (name ++ fronts.flatten.takeWhile isBare) ++ fronts.flatten.dropWhile isBare)
          (.name ⟨name ++ fronts.flatten.takeWhile isBare⟩ :: steps) :=
        .segment (.bare hdot (by simp [hne]) (List.forall_mem_append.2 ⟨hname, hmore⟩) hend) hsteps
      rw [List.append_assoc, List.append_assoc, hsplit, ← List.append_assoc] at hlonger
      refine ⟨⟨_, hlonger⟩, ?_⟩
      rcases hdot with rfl | rfl
      · rw [List.nil_append, List.dropWhile_append_of_pos hname]
        exact ⟨steps, hsteps⟩
      · exact ⟨_, hlonger⟩

theorem Reads.fronts {cs : List CodePoint} {steps : List Step} (h : Reads cs steps) :
    ∃ fronts : List (List CodePoint), cs = fronts.flatten ∧ ∀ front ∈ fronts, ∃ step, Segment front [] step := by
  induction h with
  | done => exact ⟨[], rfl, by simp⟩
  | @segment front rest step steps h hrest ih =>
    obtain ⟨fronts, rfl, hfronts⟩ := ih
    exact ⟨front :: fronts, rfl, List.forall_mem_cons.2 ⟨⟨step, h.alone⟩, hfronts⟩⟩

/-- A text can be read if it can be cut into segments. -/
theorem reads_iff_fronts {cs : List CodePoint} :
    (∃ steps, Reads cs steps) ↔
      ∃ fronts : List (List CodePoint), cs = fronts.flatten ∧ ∀ front ∈ fronts, ∃ step, Segment front [] step := by
  constructor
  · rintro ⟨steps, hsteps⟩
    exact hsteps.fronts
  · rintro ⟨fronts, rfl, hfronts⟩
    exact (exists_reads hfronts).1

theorem segment_overlong {c : CodePoint} {cs : List CodePoint} {n : Nat} (h : segment c cs = .error (.overlong n)) :
    Text.longestNumeral < n := by
  have hquoted {mark : CodePoint} {cs : List CodePoint} : quotedSegment mark cs ≠ .error (.overlong n) := by
    unfold quotedSegment
    simp only
    split_ifs <;> simp
  have hbare {cs : List CodePoint} : bareSegment cs ≠ .error (.overlong n) := by
    unfold bareSegment
    simp only
    split_ifs <;> simp
  unfold segment at h
  split_ifs at h with hbracket hdot
  · split at h
    · exact absurd h hquoted
    · exact absurd h hquoted
    · unfold indexSegment at h
      simp only at h
      split_ifs at h with hwrong hlong
      · cases h
      · cases h
        exact hlong
  · exact absurd h hbare
  · cases hfound : bareSegment (c :: cs) with
    | error f =>
      rw [hfound] at h
      cases h
      exact absurd hfound hbare
    | ok found => rw [hfound] at h; cases h

/-- An index that is too long has more digits than a number may have. -/
theorem segments_overlong {cs : List CodePoint} {n : Nat} (h : segments cs = .error (.overlong n)) :
    Text.longestNumeral < n := by
  fun_induction segments cs with
  | case1 => cases h
  | case2 c cs f hsegment =>
    cases h
    exact segment_overlong hsegment
  | case3 c cs step more hsegment ih =>
    cases hrest : segments (cs.drop more) with
    | error f =>
      rw [hrest] at h
      cases h
      exact ih hrest
    | ok tail => rw [hrest] at h; cases h

/-! ### The text around the segments -/

/-- The middle of a text is what the blanks at its ends leave. -/
def Trimmed (cs middle : List CodePoint) : Prop :=
  ∃ before behind, cs = before ++ middle ++ behind ∧ (∀ c ∈ before ++ behind, Text.isBlank c = true) ∧
    (∀ c ∈ middle.head?, Text.isBlank c = false) ∧ ∀ c ∈ middle.getLast?, Text.isBlank c = false

theorem trimmed_trimBlank (cs : List CodePoint) : Trimmed cs (Text.trimBlank cs) := by
  have hblank {cs : List CodePoint} : ∀ c ∈ cs.takeWhile Text.isBlank, Text.isBlank c = true :=
    List.all_eq_true.1 List.all_takeWhile
  set tail := (cs.dropWhile Text.isBlank).reverse with htail
  have hsplit : Text.trimBlank cs ++ (tail.takeWhile Text.isBlank).reverse = cs.dropWhile Text.isBlank := by
    rw [Text.trimBlank, ← htail, ← List.reverse_append, List.takeWhile_append_dropWhile, htail, List.reverse_reverse]
  refine ⟨cs.takeWhile Text.isBlank, (tail.takeWhile Text.isBlank).reverse, ?_, ?_, ?_, ?_⟩
  · rw [List.append_assoc, hsplit, List.takeWhile_append_dropWhile]
  · refine List.forall_mem_append.2 ⟨hblank, fun c hc => hblank c (List.mem_reverse.1 hc)⟩
  · intro c hc
    refine head?_dropWhile Text.isBlank cs c ?_
    rw [← hsplit, List.head?_append, Option.mem_def.1 hc]
    rfl
  · intro c hc
    rw [Text.trimBlank, List.getLast?_reverse] at hc
    exact head?_dropWhile Text.isBlank _ c hc

theorem body_of_trimmed (path : Text) :
    ∃ middle, Trimmed path.points middle ∧
      (middle = .char '$' :: body path ∨ middle = body path ∧ middle.head? ≠ some (.char '$')) := by
  refine ⟨_, trimmed_trimBlank path.points, ?_⟩
  unfold body
  split
  · exact .inl ‹_›
  · rename_i h
    refine .inr ⟨rfl, fun hdollar => ?_⟩
    obtain ⟨rest, hrest⟩ := List.head?_eq_some_iff.1 hdollar
    exact h rest hrest

/-! ### Rendering -/

/-- A step that brackets can hold: an index with not too many digits, or a name without one of the two marks. -/
def Step.Writable : Step → Prop
  | .index n => (Nat.toDigits 10 n).length ≤ Text.longestNumeral
  | .name s => .char '\x27' ∉ s.points ∨ .char '\x22' ∉ s.points

instance : DecidablePred Step.Writable
  | .index n => inferInstanceAs (Decidable ((Nat.toDigits 10 n).length ≤ Text.longestNumeral))
  | .name s => inferInstanceAs (Decidable (.char '\x27' ∉ s.points ∨ .char '\x22' ∉ s.points))

theorem bracketed_render {step : Step} (h : step.Writable) : Bracketed step.render step := by
  cases step with
  | index n =>
    have hdigits : ∀ c ∈ Nat.toDigits 10 n, Text.isDigit (.char c) = true := fun c hc => by
      rw [Text.isDigit, CodePoint.shown, Json.digitValue?_ascii (Json.toDigits_isDigit n c hc)]
      rfl
    have hne : Nat.toDigits 10 n ≠ [] := by
      obtain ⟨c, cs, heq, -⟩ := Json.toDigits_cons n
      simp [heq]
    have hindex := Bracketed.index hne hdigits h
    rw [Json.ofDigits_toDigits] at hindex
    exact hindex
  | name s =>
    unfold Step.render
    simp only [List.contains_iff_mem]
    split_ifs with hsingle
    · exact .quoted (.inr rfl) (h.resolve_left (not_not.2 hsingle))
    · exact .quoted (.inl rfl) hsingle

theorem reads_render {steps : List Step} (h : ∀ step ∈ steps, step.Writable) :
    Reads (steps.flatMap Step.render) steps := by
  induction steps with
  | nil => exact .done
  | cons step steps ih =>
    obtain ⟨hstep, hsteps⟩ := List.forall_mem_cons.1 h
    rw [List.flatMap_cons]
    exact .segment (.bracketed (bracketed_render hstep)) (ih hsteps)

theorem trimBlank_of_ends {cs : List CodePoint} (hfirst : ∀ c ∈ cs.head?, Text.isBlank c = false)
    (hlast : ∀ c ∈ cs.getLast?, Text.isBlank c = false) : Text.trimBlank cs = cs := by
  rw [Text.trimBlank, dropWhile_of_head hfirst, dropWhile_of_head (by rwa [List.head?_reverse]), List.reverse_reverse]

theorem getLast?_render (steps : List Step) :
    ∀ c ∈ (.char '$' :: steps.flatMap Step.render).getLast?, Text.isBlank c = false := by
  have hclose (step : Step) : step.render.getLast? = some (.char ']') := by
    cases step <;> simp [Step.render, List.getLast?_cons, List.getLast?_append]
  rcases List.eq_nil_or_concat steps with rfl | ⟨init, last, rfl⟩
  · rintro c ⟨⟩
    decide
  · have hlast : (.char '$' :: (init.concat last).flatMap Step.render).getLast? = some (.char ']') := by
      rw [List.concat_eq_append, List.flatMap_append, List.flatMap_singleton, ← List.cons_append, List.getLast?_append,
        hclose, Option.some_or]
    rw [hlast]
    rintro c ⟨⟩
    decide

theorem body_render (steps : List Step) : body (render steps) = steps.flatMap Step.render := by
  have htrim : Text.trimBlank (.char '$' :: steps.flatMap Step.render) = .char '$' :: steps.flatMap Step.render :=
    trimBlank_of_ends (by simp; decide) (getLast?_render steps)
  unfold body render
  rw [htrim]
  rfl

/-- A path is a text whose middle, without a `$` in front, can be cut into segments. It is read with bare names as long
as they can be, whatever else there is is complained about as a bad path or as an index with too many digits, and steps
that are written in brackets are read as what they are. -/
theorem stepsOf_follows_grammar (path : Text) :
    (∃ middle, Trimmed path.points middle ∧
      (middle = .char '$' :: body path ∨ middle = body path ∧ middle.head? ≠ some (.char '$'))) ∧
    (∀ steps, Json.stepsOf path = .ok steps ↔ Reads (body path) steps) ∧
    ((∃ steps, Json.stepsOf path = .ok steps) ↔
      ∃ fronts : List (List CodePoint), body path = fronts.flatten ∧ ∀ front ∈ fronts, ∃ step, Segment front [] step) ∧
    ((∀ steps, Json.stepsOf path ≠ .ok steps) →
      Json.stepsOf path = .error (.misuse (.badPath path)) ∨
        ∃ n, Text.longestNumeral < n ∧ Json.stepsOf path = .error (.misuse (.overlongIndex n))) ∧
    ∀ steps : List Step, (∀ step ∈ steps, step.Writable) → Json.stepsOf (render steps) = .ok steps := by
  have hread (path : Text) (steps : List Step) : Json.stepsOf path = .ok steps ↔ Reads (body path) steps := by
    unfold Json.stepsOf parse
    rw [← segments_iff]
    cases segments (body path) <;> simp [Except.mapError]
  refine ⟨body_of_trimmed path, hread path, ?_, ?_, ?_⟩
  · simp only [hread]
    exact reads_iff_fronts
  · intro hfail
    cases h : segments (body path) with
    | ok steps => exact absurd ((hread path steps).2 (segments_iff.1 h)) (hfail steps)
    | error flaw =>
      have hstepsOf : Json.stepsOf path = (Except.error flaw : Except Flaw (List Step)).mapError _ :=
        congrArg (Except.mapError _) h
      cases flaw with
      | noSegment => exact .inl hstepsOf
      | overlong n => exact .inr ⟨n, segments_overlong h, hstepsOf⟩
  · intro steps hsteps
    rw [hread, body_render]
    exact reads_render hsteps

/-- A path of all kinds of segments with blanks around it, and steps in brackets, one of them a name with a surrogate by
itself. -/
theorem mixed_path_follows_grammar :
    Reads (body " $a.b[٣]['c.d']e ") [.name "a", .name "b", .index 3, .name "c.d", .name "e"] ∧
    (∀ step ∈ [Step.index 12, .name "a'b", .name "", .name ⟨[.surrogate 0]⟩], step.Writable) ∧
    Json.stepsOf "$[12][\"a'b\"]['']" = .ok [.index 12, .name "a'b", .name ""] ∧
    Json.stepsOf (render [.name ⟨[.surrogate 0]⟩]) = .ok [.name ⟨[.surrogate 0]⟩] := by
  obtain ⟨-, hread, -⟩ := stepsOf_follows_grammar " $a.b[٣]['c.d']e "
  obtain ⟨-, -, -, -, hrender⟩ := stepsOf_follows_grammar "$"
  have hparse : parse " $a.b[٣]['c.d']e " = .ok [.name "a", .name "b", .index 3, .name "c.d", .name "e"] := by
    decide +kernel
  have hwritable : ∀ step ∈ [Step.index 12, .name "a'b", .name "", .name ⟨[.surrogate 0]⟩], step.Writable := by
    decide +kernel
  refine ⟨(hread _).1 ?_, hwritable, ?_, hrender _ (by decide)⟩
  · unfold Json.stepsOf
    rw [hparse]
    rfl
  · have hwritten : ("$[12][\"a'b\"]['']" : Text) = render [.index 12, .name "a'b", .name ""] := by decide +kernel
    rw [hwritten]
    exact hrender _ fun step hstep => hwritable step (List.mem_append_left [_] hstep)

end DocumentStore.Path
