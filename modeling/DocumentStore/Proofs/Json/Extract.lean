import DocumentStore.Proofs.Document
import DocumentStore.Proofs.Json.OneLine
import DocumentStore.Proofs.Json.RoundTrip

/-! Parts of a document that was read. Where its numbers are whole, every part of it can be written and read again: its keys
are distinct and its numbers no longer than is allowed, as those of the whole document are. -/

namespace DocumentStore

namespace Json

theorem integersOnlyAll_iff (xs : List Json) : IntegersOnlyAll xs ↔ ∀ x ∈ xs, x.IntegersOnly := by
  induction xs with
  | nil => simp [IntegersOnlyAll]
  | cons x xs ih => simp [IntegersOnlyAll, ih]

theorem integersOnlyFields_iff (fs : List (Text × Json)) : IntegersOnlyFields fs ↔ ∀ f ∈ fs, f.2.IntegersOnly := by
  induction fs with
  | nil => simp [IntegersOnlyFields]
  | cons f fs ih =>
    obtain ⟨k, x⟩ := f
    simp [IntegersOnlyFields, ih]

/-- The text of the value is read as the value again. -/
structure Rereadable (v : Json) : Prop where
  integers : v.IntegersOnly
  keys : v.DistinctKeys
  numerals : v.NumeralsWithin Text.longestNumeral

theorem rereadable_int (i : Int) :
    (Json.int i).Rereadable ↔ (Nat.toDigits 10 i.natAbs).length ≤ Text.longestNumeral :=
  ⟨fun h => h.numerals, fun h => ⟨trivial, trivial, h⟩⟩

theorem rereadable_arr (xs : List Json) : (Json.arr xs).Rereadable ↔ ∀ x ∈ xs, x.Rereadable := by
  constructor
  · intro h x hx
    exact ⟨(integersOnlyAll_iff xs).1 h.integers x hx, (distinctKeysAll_iff xs).1 h.keys x hx,
      (numeralsWithinAll_iff xs).1 h.numerals x hx⟩
  · intro h
    exact ⟨(integersOnlyAll_iff xs).2 fun x hx => (h x hx).integers, (distinctKeysAll_iff xs).2 fun x hx => (h x hx).keys,
      (numeralsWithinAll_iff xs).2 fun x hx => (h x hx).numerals⟩

theorem rereadable_obj (fs : List (Text × Json)) :
    (Json.obj fs).Rereadable ↔ (fs.map (·.1)).Nodup ∧ ∀ f ∈ fs, f.2.Rereadable := by
  constructor
  · intro h
    refine ⟨h.keys.1, fun f hf => ?_⟩
    exact ⟨(integersOnlyFields_iff fs).1 h.integers f hf, (distinctKeysFields_iff fs).1 h.keys.2 f hf,
      (numeralsWithinFields_iff fs).1 h.numerals f hf⟩
  · rintro ⟨hkeys, h⟩
    exact ⟨(integersOnlyFields_iff fs).2 fun f hf => (h f hf).integers,
      ⟨hkeys, (distinctKeysFields_iff fs).2 fun f hf => (h f hf).keys⟩,
      (numeralsWithinFields_iff fs).2 fun f hf => (h f hf).numerals⟩

theorem rereadable_str (t : Text) : (Json.str t).Rereadable := ⟨trivial, trivial, trivial⟩

theorem rereadable_null : Json.null.Rereadable := ⟨trivial, trivial, trivial⟩

namespace Rereadable

variable {v x : Json}

theorem parse_text (h : v.Rereadable) : Document.parse (.text v.text) = .ok v := by
  have hread : Json.parse v.text = .ok v := by
    have hprint := parse_print h.integers h.keys h.numerals (.inl rfl)
    rwa [List.append_nil] at hprint
  unfold Document.parse
  simp only [hread]
  rfl

theorem child {s : Path.Step} (h : v.Rereadable) (hx : v.child? s = some x) : x.Rereadable := by
  unfold child? at hx
  split at hx
  · exact (rereadable_arr _).1 h x (List.mem_of_getElem? hx)
  · obtain ⟨before, behind, rfl, -⟩ := List.lookup_eq_some_iff.1 hx
    exact ((rereadable_obj _).1 h).2 _ (List.mem_append_right _ List.mem_cons_self)
  · cases hx

theorem follow {steps : List Path.Step} (h : v.Rereadable) (hx : v.follow? steps = some x) : x.Rereadable := by
  induction steps generalizing v with
  | nil =>
    obtain rfl : v = x := Option.some.inj hx
    exact h
  | cons s steps ih =>
    obtain ⟨w, hw, hx⟩ := Option.bind_eq_some_iff.1 hx
    exact ih (h.child hw) hx

theorem resolve {path : Text} (h : v.Rereadable) (hx : v.resolve path = .ok x) : x.Rereadable := by
  obtain ⟨steps, -, hx⟩ := except_bind_eq_ok hx
  split at hx <;> rename_i hfollow
  · cases hx
    exact h.follow hfollow
  · cases hx

end Rereadable

end Json

/-- Whatever is inherited from the parts of a value, every document has, whether it arrives as text or as bytes. -/
theorem Document.parse_inherits {P : Json → Prop} (hP : Json.Inherited Text.longestNumeral P) {s : Source} {document : Json}
    (h : Document.parse s = .ok document) : P document := by
  unfold Document.parse at h
  cases s <;> simp only at h
  case text t =>
    cases hp : Json.parse t <;> rw [hp] at h <;> cases h
    rw [Json.parse] at hp
    split_ifs at hp
    exact Json.readPoints_has hP hp
  case bytes bs =>
    cases hp : Json.parseBytes bs <;> rw [hp] at h <;> cases h
    rw [Json.parseBytes] at hp
    split at hp
    · cases hp
    · exact Json.readPoints_has hP hp
  case other k => cases h

/-- A document whose numbers are whole can be read again. -/
theorem Document.parse_rereadable {s : Source} {document : Json} (h : Document.parse s = .ok document)
    (hint : document.IntegersOnly) : document.Rereadable where
  integers := hint
  keys := Document.parse_inherits (Json.distinctKeys_inherited _) h
  numerals := Document.parse_inherits (Json.numeralsWithin_inherited _) h

end DocumentStore
