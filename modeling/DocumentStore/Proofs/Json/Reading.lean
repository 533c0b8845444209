import DocumentStore.Proofs.Json.Token

/-! What holds of a document that was read. Whatever a value has as soon as its parts have it, and what is put together has
it, every document that is read has; so its objects have every key once, however often it is written, and its whole numbers
have no more digits than are allowed. -/

namespace DocumentStore

theorem putField_new {κ α : Type} [DecidableEq κ] {k : κ} {fields : List (κ × α)} (h : k ∉ fields.map (·.1)) (v : α) :
    putField k v fields = fields ++ [(k, v)] := by
  induction fields with
  | nil => rfl
  | cons f fields ih =>
    rw [List.map_cons, List.mem_cons, not_or] at h
    rw [putField, if_neg (Ne.symm h.1), ih h.2, List.cons_append]

theorem putField_keys {κ α : Type} [DecidableEq κ] (k : κ) (v : α) (fields : List (κ × α)) :
    (putField k v fields).map (·.1) = if k ∈ fields.map (·.1) then fields.map (·.1) else fields.map (·.1) ++ [k] := by
  induction fields with
  | nil => rfl
  | cons f fields ih =>
    rw [putField]
    by_cases hf : f.1 = k
    · simp [hf]
    · rw [if_neg hf, List.map_cons, ih]
      simp only [List.map_cons, List.mem_cons, Ne.symm hf, false_or]
      split_ifs <;> rfl

theorem putField_nodup {κ α : Type} [DecidableEq κ] {fields : List (κ × α)} (h : (fields.map (·.1)).Nodup) (k : κ) (v : α) :
    ((putField k v fields).map (·.1)).Nodup := by
  rw [putField_keys]
  split_ifs with hk
  · exact h
  · refine List.nodup_append.mpr ⟨h, List.nodup_singleton k, fun a ha b hb heq => hk ?_⟩
    rwa [← List.mem_singleton.mp hb, ← heq]

theorem mem_putField {κ α : Type} [DecidableEq κ] {k : κ} {v : α} {fields : List (κ × α)} {f : κ × α}
    (h : f ∈ putField k v fields) : f = (k, v) ∨ f ∈ fields := by
  induction fields with
  | nil => simpa [putField] using h
  | cons g fields ih =>
    rw [putField] at h
    split_ifs at h with hg
    · rcases List.mem_cons.mp h with rfl | hmem
      · exact .inl rfl
      · exact .inr (List.mem_cons_of_mem _ hmem)
    · rcases List.mem_cons.mp h with rfl | hmem
      · exact .inr List.mem_cons_self
      · exact (ih hmem).imp_right (List.mem_cons_of_mem _)

theorem notMem_of_nodup {κ α : Type} {before after : List (κ × α)} {k : κ} {v : α}
    (h : ((before ++ (k, v) :: after).map (·.1)).Nodup) : k ∉ before.map (·.1) := by
  rw [List.map_append, List.map_cons] at h
  exact fun hmem => (List.nodup_append.mp h).2.2 k hmem k List.mem_cons_self rfl

namespace Json

/-! ### Invariants of the reader -/

/-- The value has as many digits as were written at most. -/
theorem ofDigits_lt (cs : List Char) : Text.ofDigits cs < 10 ^ cs.length := by
  have hdigit (c : Char) : (Text.digitValue? c).getD 0 < 10 := by
    unfold Text.digitValue?
    cases hzero : Text.digitZeros.find? fun z => z ≤ c.toNat && c.toNat < z + 10 with
    | none => exact Nat.succ_pos 9
    | some z =>
      have hz := List.find?_some hzero
      simp only [Bool.and_eq_true, decide_eq_true_eq] at hz
      show c.toNat - z < 10
      omega
  have hfold (n : Nat) : cs.foldl (fun n c => 10 * n + (Text.digitValue? c).getD 0) n < (n + 1) * 10 ^ cs.length := by
    induction cs generalizing n with
    | nil => simp
    | cons c cs ih =>
      have hc := hdigit c
      calc cs.foldl (fun n c => 10 * n + (Text.digitValue? c).getD 0) (10 * n + (Text.digitValue? c).getD 0)
          < (10 * n + (Text.digitValue? c).getD 0 + 1) * 10 ^ cs.length := ih _
        _ ≤ ((n + 1) * 10) * 10 ^ cs.length := Nat.mul_le_mul_right _ (by omega)
        _ = (n + 1) * 10 ^ (c :: cs).length := by rw [List.length_cons, pow_succ]; ring
  have h := hfold 0
  rwa [Nat.zero_add, Nat.one_mul] at h

theorem length_toDigits_ofDigits {cs : List Char} (h : cs ≠ []) :
    (Nat.toDigits 10 (Text.ofDigits cs)).length ≤ cs.length :=
  (Nat.length_toDigits_le_iff (by decide) (List.length_pos_of_ne_nil h)).2 (ofDigits_lt cs)

theorem whole_ne_nil {ps : List CodePoint} {n : Numeral} {k : Nat} (h : numeral? ps = some (n, k)) : n.whole ≠ [] := by
  unfold numeral? at h
  extract_lets negative sign body whole afterWhole fraction point afterFraction at h
  split at h
  extract_lets digits hasPower at h
  split_ifs at h with hwhole
  all_goals
    obtain ⟨rfl, -⟩ := Prod.mk.inj (Option.some.inj h)
    simpa using hwhole

/-- A value has the property as soon as its parts have it: objects with distinct keys, and whole numbers with no more digits
than are allowed. -/
structure Inherited (limit : Nat) (P : Json → Prop) : Prop where
  null : P .null
  bool (b : Bool) : P (.bool b)
  int (i : Int) (h : (Nat.toDigits 10 i.natAbs).length ≤ limit) : P (.int i)
  float (x : Float) : P (.float x)
  str (t : Text) : P (.str t)
  arr (xs : List Json) (h : ∀ x ∈ xs, P x) : P (.arr xs)
  obj (fs : List (Text × Json)) (hkeys : (fs.map (·.1)).Nodup) (h : ∀ f ∈ fs, P f.2) : P (.obj fs)

/-- The fields of an object that has every key once, and only values with a property. -/
structure Keyed (P : Json → Prop) (fields : List (Text × Json)) : Prop where
  keys : (fields.map (·.1)).Nodup
  values : ∀ f ∈ fields, P f.2

section reading

variable {limit : Nat} {P : Json → Prop}

theorem Keyed.nil : Keyed P [] := ⟨List.nodup_nil, by simp⟩

theorem Keyed.putField {fields : List (Text × Json)} (h : Keyed P fields) (k : Text) {v : Json} (hv : P v) :
    Keyed P (putField k v fields) := by
  refine ⟨putField_nodup h.keys k v, ?_⟩
  intro f hf
  rcases mem_putField hf with rfl | hf
  · exact hv
  · exact h.values f hf

/-- What a lexeme brings along has the property. -/
def Lexeme.Has (P : Json → Prop) : Lexeme → Prop
  | .scalar v => P v
  | _ => True

def Frame.Has (P : Json → Prop) : Frame → Prop
  | .list items => ∀ x ∈ items, P x
  | .object fields _ => Keyed P fields

theorem Frame.Has.putField {fields : List (Text × Json)} {k : Text} (h : (Frame.object fields k).Has P) {v : Json}
    (hv : P v) : Keyed P (DocumentStore.putField k v fields) :=
  Keyed.putField h k hv

def Mode.Has (P : Json → Prop) : Mode → Prop
  | .key fields | .colon fields _ => Keyed P fields
  | .after v => P v
  | _ => True

theorem lexeme_has (hP : Inherited limit P) {ps : List CodePoint} {n : Numeral} {k : Nat} (h : numeral? ps = some (n, k)) :
    (n.lexeme limit).Has P := by
  have hdigits := length_toDigits_ofDigits (whole_ne_nil h)
  unfold Numeral.lexeme
  split
  · split
    · trivial
    · apply hP.int
      -- a sign adds no digits
      split_ifs <;> simp only [Int.natAbs_neg, Int.natAbs_natCast] <;> omega
  · apply hP.float

theorem wordValues_have (hP : Inherited limit P) : ∀ w ∈ wordValues, P w.2 := by
  simp [wordValues, hP.null, hP.bool, hP.float]

theorem lexemeAt_has (hP : Inherited limit P) (offset : Nat) (p : CodePoint) (ps : List CodePoint) :
    (lexemeAt limit offset p ps).1.Has P := by
  unfold lexemeAt
  split_ifs <;> try trivial
  · split <;> trivial
  · split
    · exact lexeme_has hP ‹_›
    · split
      · exact wordValues_have hP _ (List.mem_of_find?_eq_some ‹_›)
      · trivial

theorem lexemes_have (hP : Inherited limit P) (offset : Nat) (ps : List CodePoint) :
    ∀ l ∈ lexemes limit offset ps, l.lexeme.Has P := by
  fun_induction lexemes limit offset ps with
  | case1 => simp
  | case2 offset p ps hspace ih => exact ih
  | case3 offset p ps hspace l more hl ih =>
    have hhas := lexemeAt_has hP offset p ps
    rw [hl] at hhas
    exact List.forall_mem_cons.2 ⟨hhas, ih⟩

theorem stepValue_has (hP : Inherited limit P) {stack stack' : List Frame} {l : Placed} {m' : Mode}
    (h : stepValue stack l = .ok (m', stack')) (hstack : ∀ f ∈ stack, f.Has P) (hl : l.lexeme.Has P) :
    m'.Has P ∧ ∀ f ∈ stack', f.Has P := by
  unfold stepValue at h
  split at h <;> cases h
  · rename_i v hv
    rw [hv] at hl
    exact ⟨hl, hstack⟩
  · exact ⟨hP.str _, hstack⟩
  · exact ⟨trivial, hstack⟩
  · exact ⟨trivial, hstack⟩

theorem stepKey_has {fields : List (Text × Json)} {stack stack' : List Frame} {l : Placed} {m' : Mode}
    (h : stepKey fields stack l = .ok (m', stack')) (hfields : Keyed P fields) (hstack : ∀ f ∈ stack, f.Has P) :
    m'.Has P ∧ ∀ f ∈ stack', f.Has P := by
  unfold stepKey at h
  split at h <;> cases h
  exact ⟨hfields, hstack⟩

theorem stepAfter_has (hP : Inherited limit P) {v : Json} {stack stack' : List Frame} {l : Placed} {m' : Mode}
    (h : stepAfter v stack l = .ok (m', stack')) (hv : P v) (hstack : ∀ f ∈ stack, f.Has P) :
    m'.Has P ∧ ∀ f ∈ stack', f.Has P := by
  unfold stepAfter at h
  split at h <;> cases h <;> obtain ⟨hframe, hrest⟩ := List.forall_mem_cons.1 hstack
  · exact ⟨trivial, List.forall_mem_cons.2 ⟨List.forall_mem_cons.2 ⟨hv, hframe⟩, hrest⟩⟩
  · refine ⟨hP.arr _ fun x hx => ?_, hrest⟩
    exact List.forall_mem_cons.2 ⟨hv, hframe⟩ x (List.mem_reverse.1 hx)
  · exact ⟨hframe.putField hv, hrest⟩
  · have hkeyed := hframe.putField hv
    exact ⟨hP.obj _ hkeyed.keys hkeyed.values, hrest⟩

/-- One lexeme more leaves the property with all that is open. -/
theorem step_has (hP : Inherited limit P) {m m' : Mode} {stack stack' : List Frame} {l : Placed}
    (h : step m stack l = .ok (m', stack')) (hm : m.Has P) (hstack : ∀ f ∈ stack, f.Has P) (hl : l.lexeme.Has P) :
    m'.Has P ∧ ∀ f ∈ stack', f.Has P := by
  cases m with
  | value => exact stepValue_has hP h hstack hl
  | after v => exact stepAfter_has hP h hm hstack
  | key fields => exact stepKey_has h hm hstack
  | firstItem =>
    rw [step] at h
    split at h
    · cases h
      exact ⟨hP.arr [] (by simp), hstack⟩
    · exact stepValue_has hP h (List.forall_mem_cons.2 ⟨by simp [Frame.Has], hstack⟩) hl
  | firstKey =>
    rw [step] at h
    split at h
    · cases h
      exact ⟨hP.obj [] List.nodup_nil (by simp), hstack⟩
    · exact stepKey_has h .nil hstack
  | colon fields k =>
    rw [step] at h
    split at h <;> cases h
    exact ⟨trivial, List.forall_mem_cons.2 ⟨hm, hstack⟩⟩

theorem readLexemes_has (hP : Inherited limit P) {n : Nat} {m : Mode} {stack : List Frame} {ls : List Placed} {v : Json}
    (h : readLexemes n m stack ls = .ok v) (hm : m.Has P) (hstack : ∀ f ∈ stack, f.Has P)
    (hls : ∀ l ∈ ls, l.lexeme.Has P) : P v := by
  induction ls generalizing m stack with
  | nil =>
    unfold readLexemes finish at h
    split at h <;> cases h
    exact hm
  | cons l ls ih =>
    rw [readLexemes] at h
    split at h
    · cases h
    · rename_i m' stack' hstep
      obtain ⟨hl, hls⟩ := List.forall_mem_cons.1 hls
      obtain ⟨hm', hstack'⟩ := step_has hP hstep hm hstack hl
      exact ih h hm' hstack' hls

/-- Whatever is inherited from the parts of a value, every document that is read has. -/
theorem readPoints_has (hP : Inherited limit P) {ps : List CodePoint} {v : Json} (h : readPoints limit ps = .ok v) : P v := by
  unfold readPoints at h
  cases hread : readLexemes ps.length .value [] (lexemes limit 0 ps) with
  | error r => rw [hread] at h; cases h
  | ok w =>
    rw [hread] at h
    cases h
    exact readLexemes_has hP hread trivial (by simp) (lexemes_have hP 0 ps)

end reading

/-! ### Distinct keys -/

theorem distinctKeysAll_iff (xs : List Json) : DistinctKeysAll xs ↔ ∀ x ∈ xs, x.DistinctKeys := by
  induction xs with
  | nil => simp [DistinctKeysAll]
  | cons x xs ih => simp [DistinctKeysAll, ih]

theorem distinctKeysFields_iff (fs : List (Text × Json)) : DistinctKeysFields fs ↔ ∀ f ∈ fs, f.2.DistinctKeys := by
  induction fs with
  | nil => simp [DistinctKeysFields]
  | cons f fs ih =>
    obtain ⟨k, x⟩ := f
    simp [DistinctKeysFields, ih]

theorem distinctKeys_inherited (limit : Nat) : Inherited limit DistinctKeys where
  null := trivial
  bool _ := trivial
  int _ _ := trivial
  float _ := trivial
  str _ := trivial
  arr xs h := (distinctKeysAll_iff xs).2 h
  obj fs hkeys h := ⟨hkeys, (distinctKeysFields_iff fs).2 h⟩

/-- A text is read as a document whose keys are distinct. -/
theorem parse_distinctKeys {t : Text} {v : Json} (h : parse t = .ok v) : v.DistinctKeys := by
  unfold parse at h
  split_ifs at h
  exact readPoints_has (distinctKeys_inherited _) h

end Json

end DocumentStore
