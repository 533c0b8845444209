import DocumentStore.Bulk.Operation
import DocumentStore.Proofs.Effect

/-! Which operations can be written into the body of a batch. Only a document that is given as a text of several lines
can be in the way, if it is no document at all. -/

namespace DocumentStore.Bulk

/-- The document of the operation fits on one line: a text that has line breaks can be read. -/
def Operation.Writable (op : Operation) : Prop :=
  match op.action with
  | .index (.str t) _ => CodePoint.char '\n' ∈ t.points → ∃ v, Json.parse t = .ok v
  | _ => True

theorem lines_cases (op : Operation) :
    (op.Writable ∧ ∃ lines, op.lines = .ok lines) ∨
      (¬op.Writable ∧ ∃ v, op.lines = .error (.bulk (.invalid v))) := by
  unfold Operation.Writable Operation.lines
  cases op.action with
  | delete => exact .inl ⟨trivial, _, rfl⟩
  | index body pipeline =>
    cases body with
    | str t =>
      by_cases hbreak : CodePoint.char '\n' ∈ t.points
      · cases hp : Json.parse t with
        | ok v =>
          refine .inl ⟨fun _ => ⟨v, hp⟩, ?_⟩
          simp [Operation.singleLine, hbreak, hp, Except.mapError, bind, Except.bind, pure, Except.pure]
        | error f =>
          refine .inr ⟨fun h => by simpa [hp] using h hbreak, ?_⟩
          simp [Operation.singleLine, hbreak, hp, Except.mapError, bind, Except.bind]
      · refine .inl ⟨fun h => absurd h hbreak, ?_⟩
        simp [Operation.singleLine, hbreak, bind, Except.bind, pure, Except.pure]
    | _ => exact .inl ⟨trivial, _, rfl⟩

theorem ndjsonPoints_cases (ops : List Operation) :
    ((∀ op ∈ ops, op.Writable) ∧ ∃ points, ndjsonPoints ops = .ok points) ∨
      ((∃ op ∈ ops, ¬op.Writable) ∧ ∃ v, ndjsonPoints ops = .error (.bulk (.invalid v))) := by
  induction ops with
  | nil => exact .inl ⟨by simp, [], rfl⟩
  | cons op ops ih =>
    rw [ndjsonPoints]
    rcases lines_cases op with ⟨hw, lines, hl⟩ | ⟨hw, v, hl⟩
    · rcases ih with ⟨hall, points, hp⟩ | ⟨⟨bad, hbad, hnot⟩, v, hp⟩
      · exact .inl ⟨by simpa using ⟨hw, hall⟩, _, by rw [hl, hp]; rfl⟩
      · exact .inr ⟨⟨bad, List.mem_cons_of_mem op hbad, hnot⟩, v, by rw [hl, hp]; rfl⟩
    · exact .inr ⟨⟨op, List.mem_cons_self, hw⟩, v, by rw [hl]; rfl⟩

/-- A batch has a body if all of its operations can be written, and one that cannot refuses it to all of them. -/
theorem ndjson_cases (ops : List Operation) :
    ((∀ op ∈ ops, op.Writable) ∧ ∃ body, ndjson ops = .ok body) ∨
      ((∃ op ∈ ops, ¬op.Writable) ∧ ∃ v, ndjson ops = .error (.bulk (.invalid v))) := by
  rcases ndjsonPoints_cases ops with ⟨hall, points, hp⟩ | ⟨hsome, v, hp⟩
  · exact .inl ⟨hall, ⟨points⟩, by rw [ndjson, hp]; rfl⟩
  · exact .inr ⟨hsome, v, by rw [ndjson, hp]; rfl⟩

theorem ndjson_ok {ops : List Operation} (h : ∀ op ∈ ops, op.Writable) : ∃ body, ndjson ops = .ok body := by
  rcases ndjson_cases ops with ⟨-, hbody⟩ | ⟨⟨op, hop, hnot⟩, -⟩
  · exact hbody
  · exact absurd (h op hop) hnot

end DocumentStore.Bulk
