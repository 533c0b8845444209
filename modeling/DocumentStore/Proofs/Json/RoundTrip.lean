import DocumentStore.Proofs.Json.Reading

/-! Reading back what was written. The text of a document is read as this document again, wherever in a longer text it
stands, as long as its keys are distinct and its numbers are whole and no longer than is allowed. -/

namespace DocumentStore.Json

variable {limit n offset : Nat}

mutual

/-- No whole number in the value has more digits than are allowed. -/
def NumeralsWithin (limit : Nat) : Json → Prop
  | .int i => (Nat.toDigits 10 i.natAbs).length ≤ limit
  | .arr xs => NumeralsWithinAll limit xs
  | .obj fs => NumeralsWithinFields limit fs
  | _ => True

def NumeralsWithinAll (limit : Nat) : List Json → Prop
  | [] => True
  | x :: xs => NumeralsWithin limit x ∧ NumeralsWithinAll limit xs

def NumeralsWithinFields (limit : Nat) : List (Text × Json) → Prop
  | [] => True
  | (_, x) :: fs => NumeralsWithin limit x ∧ NumeralsWithinFields limit fs

end

theorem numeralsWithinAll_iff (xs : List Json) : NumeralsWithinAll limit xs ↔ ∀ x ∈ xs, x.NumeralsWithin limit := by
  induction xs with
  | nil => simp [NumeralsWithinAll]
  | cons x xs ih => simp [NumeralsWithinAll, ih]

theorem numeralsWithinFields_iff (fs : List (Text × Json)) :
    NumeralsWithinFields limit fs ↔ ∀ f ∈ fs, f.2.NumeralsWithin limit := by
  induction fs with
  | nil => simp [NumeralsWithinFields]
  | cons f fs ih =>
    obtain ⟨k, x⟩ := f
    simp [NumeralsWithinFields, ih]

theorem numeralsWithin_inherited (limit : Nat) : Inherited limit (NumeralsWithin limit) where
  null := trivial
  bool _ := trivial
  int _ h := h
  float _ := trivial
  str _ := trivial
  arr xs h := (numeralsWithinAll_iff xs).2 h
  obj fs _ h := (numeralsWithinFields_iff fs).2 h

mutual

/-- A text that is no longer than a numeral may be has no numeral that is too long. -/
theorem numeralsWithin_of_length : ∀ v : Json, v.print.length ≤ limit → v.NumeralsWithin limit
  | .null, _ | .bool _, _ | .float _, _ | .str _, _ => trivial
  | .int i, h => by
    rw [print, Text.ofChars, List.length_map] at h
    exact (toDigits_length_le i).trans h
  | .arr xs, h => numeralsWithinAll_of_length xs (by
      simp only [print, List.length_cons, List.length_append] at h
      omega)
  | .obj fs, h => numeralsWithinFields_of_length fs (by
      simp only [print, List.length_cons, List.length_append] at h
      omega)

theorem numeralsWithinAll_of_length : ∀ xs : List Json, (printItems xs).length ≤ limit → NumeralsWithinAll limit xs
  | [], _ => trivial
  | [x], h => ⟨numeralsWithin_of_length x h, trivial⟩
  | x :: y :: ys, h => by
    simp only [printItems, List.length_append, List.length_cons] at h
    exact ⟨numeralsWithin_of_length x (by omega), numeralsWithinAll_of_length (y :: ys) (by omega)⟩

theorem numeralsWithinFields_of_length :
    ∀ fs : List (Text × Json), (printFields fs).length ≤ limit → NumeralsWithinFields limit fs
  | [], _ => trivial
  | [(k, x)], h => by
    simp only [printFields, List.length_append, List.length_cons] at h
    exact ⟨numeralsWithin_of_length x (by omega), trivial⟩
  | (k, x) :: f :: fs, h => by
    simp only [printFields, List.length_append, List.length_cons] at h
    exact ⟨numeralsWithin_of_length x (by omega), numeralsWithinFields_of_length (f :: fs) (by omega)⟩

end

/-- A value may come next: anywhere, or as the first item of a list that has just been opened. -/
inductive Awaits : Mode → List Frame → List Frame → Prop
  | value (stack : List Frame) : Awaits .value stack stack
  | firstItem (stack : List Frame) : Awaits .firstItem stack (.list [] :: stack)

theorem Awaits.step {m : Mode} {s stack : List Frame} (h : Awaits m s stack) {l : Placed} (hl : l.lexeme ≠ .endList) :
    step m s l = stepValue stack l := by
  cases h with
  | value => rfl
  | firstItem =>
    rw [Json.step]
    split
    · contradiction
    · rfl

theorem readLexemes_step {m m' : Mode} {stack stack' : List Frame} {l : Placed} (h : step m stack l = .ok (m', stack'))
    (ls : List Placed) : readLexemes n m stack (l :: ls) = readLexemes n m' stack' ls := by
  rw [readLexemes, h]

theorem Awaits.readLexemes {m m' : Mode} {s stack stack' : List Frame} (h : Awaits m s stack) {l : Placed}
    (hstep : stepValue stack l = .ok (m', stack')) (hl : l.lexeme ≠ .endList) (ls : List Placed) :
    readLexemes n m s (l :: ls) = Json.readLexemes n m' stack' ls :=
  readLexemes_step ((h.step hl).trans hstep) ls

theorem delimited_mark {c : Char} (hc : c ∈ [',', ']', '\x7d', '\n']) (rest : List CodePoint) :
    Delimited (.char c :: rest) := by
  intro p hp
  obtain rfl : CodePoint.char c = p := by simpa using hp
  simp only [List.mem_cons, List.not_mem_nil, or_false] at hc
  rcases hc with rfl | rfl | rfl | rfl <;> decide

/-- Behind the text of the value, wherever it may stand, the reader goes on with the value complete. -/
def ReadsBack (limit n : Nat) (v : Json) : Prop :=
  ∀ (m : Mode) (s stack : List Frame) (offset : Nat) (rest : List CodePoint), Awaits m s stack → Delimited rest →
    readLexemes n m s (lexemes limit offset (v.print ++ rest)) =
      readLexemes n (.after v) stack (lexemes limit (offset + v.print.length) rest)

theorem ReadsBack.of_scalar {v : Json}
    (h : ∀ (offset : Nat) (rest : List CodePoint), Delimited rest → lexemes limit offset (v.print ++ rest) =
      ⟨offset, .scalar v⟩ :: lexemes limit (offset + v.print.length) rest) : ReadsBack limit n v := by
  intro m s stack offset rest hawaits hrest
  rw [h offset rest hrest]
  exact hawaits.readLexemes rfl (by simp) _

/-- The first key of an object that has just been opened is read like any later one. -/
theorem readLexemes_firstKey (f : Text × Json) (fs : List (Text × Json)) (stack : List Frame) (rest : List CodePoint) :
    readLexemes n .firstKey stack (lexemes limit offset (printFields (f :: fs) ++ rest)) =
      readLexemes n (.key []) stack (lexemes limit offset (printFields (f :: fs) ++ rest)) := by
  have hkey : ∃ more, printFields (f :: fs) = printText f.1 ++ more := by
    cases fs <;> simp only [printFields, List.append_assoc] <;> exact ⟨_, rfl⟩
  obtain ⟨more, hmore⟩ := hkey
  rw [hmore, List.append_assoc, lexemes_printText]
  rfl

/-- A key and its colon are read, and its value may come next. -/
theorem readLexemes_key (fields : List (Text × Json)) (k : Text) (stack : List Frame) (rest : List CodePoint) :
    readLexemes n (.key fields) stack (lexemes limit offset (printText k ++ .char ':' :: rest)) =
      readLexemes n .value (.object fields k :: stack) (lexemes limit (offset + (printText k).length + 1) rest) := by
  rw [lexemes_printText, lexemes_mark rfl]
  rfl

mutual

/-- Every document of whole numbers is read back, by recursion on it. The items of a list and the fields of an object come
one after the other behind what was read of it before, so these are read with any such beginning. -/
theorem readsBack : ∀ v : Json, v.IntegersOnly → v.DistinctKeys → v.NumeralsWithin limit → ReadsBack limit n v
  | .null, _, _, _ => ReadsBack.of_scalar fun _ _ _ => lexemes_word (.inl rfl) _
  | .bool b, _, _, _ => ReadsBack.of_scalar fun _ _ _ => lexemes_word (.inr ⟨b, rfl⟩) _
  | .int i, _, _, hlimit => by
    refine ReadsBack.of_scalar fun offset rest hrest => ?_
    simpa [print, Text.ofChars] using lexemes_printInt i hlimit hrest
  | .float x, hint, _, _ => hint.elim
  | .str t, _, _, _ => by
    intro m s stack offset rest hawaits _
    rw [print, lexemes_printText]
    exact hawaits.readLexemes rfl (by simp) _
  | .arr xs, hint, hkeys, hlimit => by
    intro m s stack offset rest hawaits _
    simp only [print, List.length_cons, List.length_append]
    rw [List.cons_append, List.cons_append, List.append_assoc, List.singleton_append, lexemes_mark rfl,
      hawaits.readLexemes rfl (by simp)]
    cases xs with
    | nil =>
      rw [printItems, List.nil_append, lexemes_mark rfl]
      rfl
    | cons x xs =>
      rw [readItems (x :: xs) (by simp) hint hkeys hlimit _ _ _ _ _ _ (.firstItem stack)]
      simp only [List.reverse_nil, List.nil_append, List.length_nil]
      congr 2
      omega
  | .obj fs, hint, hkeys, hlimit => by
    intro m s stack offset rest hawaits _
    simp only [print, List.length_cons, List.length_append]
    rw [List.cons_append, List.cons_append, List.append_assoc, List.singleton_append, lexemes_mark rfl,
      hawaits.readLexemes rfl (by simp)]
    cases fs with
    | nil =>
      rw [printFields, List.nil_append, lexemes_mark rfl]
      rfl
    | cons f fs =>
      rw [readLexemes_firstKey, readFields (f :: fs) (by simp) hint hkeys.2 hlimit _ _ _ _ hkeys.1]
      simp only [List.nil_append, List.length_nil]
      congr 2
      omega

theorem readItems : ∀ xs : List Json, xs ≠ [] → IntegersOnlyAll xs → DistinctKeysAll xs →
    NumeralsWithinAll limit xs → ∀ (m : Mode) (s stack : List Frame) (acc : List Json) (offset : Nat)
    (rest : List CodePoint), Awaits m s (.list acc :: stack) →
    readLexemes n m s (lexemes limit offset (printItems xs ++ .char ']' :: rest)) =
      readLexemes n (.after (.arr (acc.reverse ++ xs))) stack (lexemes limit (offset + (printItems xs).length + 1) rest)
  | [], h, _, _, _ => absurd rfl h
  | [x], _, hint, hkeys, hlimit => by
    intro m s stack acc offset rest hawaits
    rw [printItems, readsBack x hint.1 hkeys.1 hlimit.1 m s _ offset _ hawaits (delimited_mark (by simp) _), lexemes_mark rfl]
    simp [readLexemes, step, stepAfter]
  | x :: y :: ys, _, hint, hkeys, hlimit => by
    intro m s stack acc offset rest hawaits
    simp only [printItems, List.length_append, List.length_cons]
    rw [List.append_assoc, List.cons_append,
      readsBack x hint.1 hkeys.1 hlimit.1 m s _ offset _ hawaits (delimited_mark (by simp) _), lexemes_mark rfl,
      readLexemes_step rfl, readItems (y :: ys) (by simp) hint.2 hkeys.2 hlimit.2 _ _ _ _ _ _ (.value _)]
    simp only [List.reverse_cons, List.append_assoc, List.singleton_append]
    congr 2
    omega

theorem readFields : ∀ fs : List (Text × Json), fs ≠ [] → IntegersOnlyFields fs → DistinctKeysFields fs →
    NumeralsWithinFields limit fs → ∀ (stack : List Frame) (acc : List (Text × Json)) (offset : Nat)
    (rest : List CodePoint), ((acc ++ fs).map (·.1)).Nodup →
    readLexemes n (.key acc) stack (lexemes limit offset (printFields fs ++ .char '\x7d' :: rest)) =
      readLexemes n (.after (.obj (acc ++ fs))) stack (lexemes limit (offset + (printFields fs).length + 1) rest)
  | [], h, _, _, _ => absurd rfl h
  | [(k, x)], _, hint, hkeys, hlimit => by
    intro stack acc offset rest hnodup
    simp only [printFields, List.length_append, List.length_cons]
    rw [List.append_assoc, List.cons_append, readLexemes_key,
      readsBack x hint.1 hkeys.1 hlimit.1 _ _ _ _ _ (.value _) (delimited_mark (by simp) _), lexemes_mark rfl,
      readLexemes_step rfl, putField_new (notMem_of_nodup hnodup)]
    congr 2
    omega
  | (k, x) :: f :: fs, _, hint, hkeys, hlimit => by
    intro stack acc offset rest hnodup
    -- the key is not among those read before, so it is put behind them
    have hmore : ((acc ++ [(k, x)] ++ f :: fs).map (·.1)).Nodup := by simpa using hnodup
    simp only [printFields, List.length_append, List.length_cons]
    simp only [List.append_assoc, List.cons_append]
    rw [readLexemes_key,
      readsBack x hint.1 hkeys.1 hlimit.1 _ _ _ _ _ (.value _) (delimited_mark (by simp) _), lexemes_mark rfl,
      readLexemes_step rfl, putField_new (notMem_of_nodup hnodup),
      readFields (f :: fs) (by simp) hint.2 hkeys.2 hlimit.2 _ _ _ _ hmore]
    simp only [List.append_assoc, List.singleton_append]
    congr 2
    omega

end

/-- A document of whole numbers, none of them too long, is read back as it was, with or without a line break behind it. -/
theorem readPoints_print {v : Json} (hint : v.IntegersOnly) (hkeys : v.DistinctKeys) (hlimit : v.NumeralsWithin limit)
    {rest : List CodePoint} (hrest : rest = [] ∨ rest = [.char '\n']) : readPoints limit (v.print ++ rest) = .ok v := by
  have hdelimited : Delimited rest := by
    rcases hrest with rfl | rfl
    · simp [Delimited]
    · exact delimited_mark (by simp) []
  have hnone (offset : Nat) : lexemes limit offset rest = [] := by
    rcases hrest with rfl | rfl
    · exact lexemes_nil
    · rw [lexemes_newline, lexemes_nil]
  rw [readPoints, readsBack v hint hkeys hlimit _ _ _ _ _ (.value []) hdelimited, hnone]
  rfl

theorem print_startsWith_mark {v : Json} (hint : v.IntegersOnly) (rest : List CodePoint) :
    startsWith '\uFEFF' (v.print ++ rest) = false := by
  cases v with
  | null => rfl
  | bool b => cases b <;> rfl
  | float x => exact hint.elim
  | int i =>
    obtain ⟨p, ps, hps, hp⟩ := printInt_head i
    rw [print, Text.ofChars, hps, List.cons_append]
    rcases hp with rfl | hdigit
    · rfl
    · have hmark : p ≠ .char '\uFEFF' := by
        rintro rfl
        exact absurd hdigit (by decide)
      simpa [startsWith] using hmark
  | str t => rfl
  | arr xs => rfl
  | obj fs => rfl

theorem parse_print {v : Json} (hint : v.IntegersOnly) (hkeys : v.DistinctKeys)
    (hlimit : v.NumeralsWithin Text.longestNumeral) {rest : List CodePoint} (hrest : rest = [] ∨ rest = [.char '\n']) :
    parse ⟨v.print ++ rest⟩ = .ok v := by
  rw [parse, if_neg (by simp [print_startsWith_mark hint])]
  exact readPoints_print hint hkeys hlimit hrest

end DocumentStore.Json
