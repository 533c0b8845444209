import DocumentStore.Proofs.Effect
import DocumentStore.Proofs.Path

/-! Reading along paths that are put together. What is written behind a path is followed from where the path leads, so a
value is read in its place as it is read by itself; and whatever cannot be read, the failure says what is wrong with
the answer. -/

namespace DocumentStore

namespace Path

/-! ### Paths behind paths -/

theorem Segment.extend {front rest more : List CodePoint} {step : Step} (h : Segment front rest step)
    (hmore : ∀ c ∈ more.head?, isBare c = false) : Segment front (rest ++ more) step := by
  cases h with
  | bracketed h => exact .bracketed h
  | bare hdot hne hname hend =>
    refine .bare hdot hne hname ?_
    intro c hc
    cases rest with
    | nil => exact hmore c hc
    | cons d rest => exact hend c hc

theorem Reads.append {cs more : List CodePoint} {steps others : List Step} (h : Reads cs steps) (hmore : Reads more others)
    (hfirst : ∀ c ∈ more.head?, isBare c = false) : Reads (cs ++ more) (steps ++ others) := by
  induction h with
  | done => exact hmore
  | segment h hrest ih =>
    rw [List.append_assoc, List.cons_append]
    exact .segment (h.extend hfirst) ih

theorem not_bare {c : CodePoint} (h : isBare c = false) : Text.isBlank c = false ∧ c ≠ .char '$' := by
  have hc : c = .char '.' ∨ c = .char '[' ∨ c = .char ']' := by
    simp only [isBare, Bool.and_eq_false_iff, decide_eq_false_iff_not, not_not] at h
    tauto
  rcases hc with rfl | rfl | rfl <;> decide

theorem trimBlank_of_last {cs : List CodePoint} (h : ∀ c ∈ cs.getLast?, Text.isBlank c = false) :
    Text.trimBlank cs = cs.dropWhile Text.isBlank := by
  have hlast : ∀ c ∈ (cs.dropWhile Text.isBlank).getLast?, Text.isBlank c = false := by
    intro c hc
    apply h
    rw [← List.takeWhile_append_dropWhile (p := Text.isBlank) (l := cs), List.getLast?_append, Option.mem_def.1 hc]
    rfl
  rw [Text.trimBlank, dropWhile_of_head (by rwa [List.head?_reverse]), List.reverse_reverse]

theorem dropWhile_append_of_head {p : CodePoint → Bool} (cs : List CodePoint) {more : List CodePoint}
    (h : ∀ c ∈ more.head?, p c = false) : (cs ++ more).dropWhile p = cs.dropWhile p ++ more := by
  rw [List.dropWhile_append, dropWhile_of_head h]
  split_ifs with hnone
  · rw [List.isEmpty_iff.1 hnone, List.nil_append]
  · rfl

/-- The path reads as these steps, and does not end in a blank, which would be lost if it stood alone: so more can be
written behind it. -/
structure Open (place : Text) (steps : List Step) : Prop where
  steps : Json.stepsOf place = .ok steps
  last : ∀ c ∈ place.points.getLast?, Text.isBlank c = false

/-- These steps are written so that they can stand behind any path. -/
structure Onward (suffix : Text) (steps : List Step) : Prop where
  reads : Reads suffix.points steps
  first : ∀ c ∈ suffix.points.head?, isBare c = false
  last : ∀ c ∈ suffix.points.getLast?, Text.isBlank c = false

theorem stepsOf_eq_ok_iff {path : Text} {steps : List Step} :
    Json.stepsOf path = .ok steps ↔ Reads (body path) steps := by
  unfold Json.stepsOf parse
  rw [← segments_iff]
  cases segments (body path) <;> simp [Except.mapError]

theorem body_append {place suffix : Text} (hlast : ∀ c ∈ place.points.getLast?, Text.isBlank c = false)
    {steps : List Step} (hsuffix : Onward suffix steps) : body (place ++ suffix) = body place ++ suffix.points := by
  have hend : ∀ c ∈ (place.points ++ suffix.points).getLast?, Text.isBlank c = false := by
    intro c hc
    rw [List.getLast?_append] at hc
    cases hs : suffix.points.getLast? with
    | none => exact hlast c (by simpa [hs] using hc)
    | some d => exact hsuffix.last c (by simpa [hs] using hc)
  have htrim : Text.trimBlank (place ++ suffix).points = Text.trimBlank place.points ++ suffix.points := by
    rw [Text.points_append, trimBlank_of_last hend, trimBlank_of_last hlast]
    exact dropWhile_append_of_head _ fun c hc => (not_bare (hsuffix.first c hc)).1
  unfold body
  rw [htrim]
  -- the `$` in front is dropped once: what is written behind cannot begin with another
  cases Text.trimBlank place.points with
  | nil =>
    rw [List.nil_append]
    split
    · rename_i rest heq
      exact absurd rfl (not_bare (hsuffix.first (.char '$') (by rw [heq]; rfl))).2
    · rfl
  | cons c cs =>
    by_cases hc : c = .char '$'
    · subst hc
      rfl
    · rw [List.cons_append]
      split <;> split <;> simp_all

/-- What is written behind a path adds its steps. -/
theorem Open.append {place suffix : Text} {steps more : List Step} (h : Open place steps) (hs : Onward suffix more) :
    Open (place ++ suffix) (steps ++ more) := by
  constructor
  · rw [stepsOf_eq_ok_iff, body_append h.last hs]
    exact (stepsOf_eq_ok_iff.1 h.steps).append hs.reads hs.first
  · intro c hc
    rw [Text.points_append, List.getLast?_append] at hc
    cases hlast : suffix.points.getLast? with
    | none => exact h.last c (by simpa [hlast] using hc)
    | some d => exact hs.last c (by simpa [hlast] using hc)

theorem open_root : Open "$" [] := by
  constructor
  · rw [stepsOf_eq_ok_iff, show body "$" = [] by decide]
    exact .done
  · rintro c ⟨⟩
    decide

/-- The name needs no quotation marks, and does not end in a blank. -/
def standsBare (key : Text) : Bool :=
  !key.points.isEmpty && key.points.all isBare && key.points.getLast?.all fun c => !Text.isBlank c

theorem standsBare_iff (key : Text) : standsBare key = true ↔
    (key.points ≠ [] ∧ ∀ c ∈ key.points, isBare c = true) ∧ ∀ c ∈ key.points.getLast?, Text.isBlank c = false := by
  unfold standsBare
  cases key.points.getLast? <;> simp [List.all_eq_true]

/-- A dot and a name that needs no quotation marks can stand behind any path. -/
theorem onward_member (suffix key : Text) (h : suffix.points = .char '.' :: key.points ∧ standsBare key = true) :
    Onward suffix [.name key] := by
  obtain ⟨hsuffix, hkey⟩ := h
  obtain ⟨⟨hne, hbare⟩, hlast⟩ := (standsBare_iff key).1 hkey
  have hsegment : Segment (.char '.' :: key.points) [] (.name key) := .bare (.inr rfl) hne hbare (by simp)
  constructor
  · rw [hsuffix, ← List.append_nil (.char '.' :: key.points)]
    exact .segment hsegment .done
  · rw [hsuffix]
    rintro c ⟨⟩
    decide
  · rw [hsuffix]
    intro c hc
    apply hlast
    obtain ⟨d, ds, hcons⟩ := List.exists_cons_of_ne_nil hne
    rwa [hcons, List.getLast?_cons_cons, ← hcons] at hc

/-- An index in brackets can stand behind any path, if it has not too many digits. -/
theorem onward_index {n : Nat} (h : (Step.index n).Writable) : Onward ("[" ++ toString n ++ "]") [.index n] := by
  have hchars : ("[" ++ toString n ++ "]" : Text).points = (Step.index n).render := by
    simp [Step.render, Text.points_append, Text.ofString, Text.ofChars]
  constructor
  · rw [hchars, ← List.append_nil (Step.index n).render]
    exact .segment (.bracketed (bracketed_render h)) .done
  · rw [hchars]
    rintro c ⟨⟩
    decide
  · rw [hchars]
    intro c hc
    obtain rfl : .char ']' = c := by simpa [Step.render, List.getLast?_cons, List.getLast?_append] using hc
    decide

end Path

/-! ### What a path leads to -/

theorem Document.parse_error {s : Source} {f : Failure} (h : Document.parse s = .error f) : ∃ g, f = .read g := by
  unfold Document.parse at h
  simp only at h
  split at h <;> rename_i t
  · cases hp : Json.parse t <;> rw [hp] at h <;> cases h
    exact ⟨_, rfl⟩
  · cases hp : Json.parseBytes t <;> rw [hp] at h <;> cases h
    exact ⟨_, rfl⟩
  · cases h
    exact ⟨_, rfl⟩

namespace Json

variable {path : Text} {steps : List Path.Step} {e : Expectation} {f : Failure}

theorem follow?_append (v : Json) (steps more : List Path.Step) :
    v.follow? (steps ++ more) = (v.follow? steps).bind (·.follow? more) := List.foldlM_append

theorem follow?_name (v : Json) (key : Text) : v.follow? [.name key] = v.child? (.name key) := by
  unfold follow?
  simp [List.foldlM]

theorem resolve_eq (h : stepsOf path = .ok steps) (v : Json) :
    v.resolve path = match v.follow? steps with
      | some x => .ok x
      | none => .error (.read (.pathNotFound path)) := by
  unfold resolve
  rw [h]
  rfl

theorem readOptional_eq (h : stepsOf path = .ok steps) (v default : Json) (e : Expectation) :
    v.readOptional path default e = match v.follow? steps with
      | none | some .null => .ok default
      | some x => convert path e x := by
  unfold readOptional
  rw [h]
  rfl

theorem has_eq (h : stepsOf path = .ok steps) (v : Json) :
    v.has path = match v.follow? steps with
      | none | some .null => .ok false
      | some _ => .ok true := by
  unfold has
  rw [h]
  rfl

/-! ### Failures of reading -/

theorem convert_error {v : Json} (he : e ≠ .one .float) (h : convert path e v = .error f) : ∃ g, f = .read g := by
  unfold convert at h
  split at h
  · exact absurd rfl he
  · split_ifs at h
    cases h
    exact ⟨_, rfl⟩

theorem resolve_error {v : Json} (hsteps : stepsOf path = .ok steps) (h : v.resolve path = .error f) :
    ∃ g, f = .read g := by
  rw [resolve_eq hsteps] at h
  split at h <;> cases h
  exact ⟨_, rfl⟩

theorem read_error {v : Json} (hsteps : stepsOf path = .ok steps) (he : e ≠ .one .float)
    (h : v.read path e = .error f) : ∃ g, f = .read g := by
  rcases except_bind_eq_error h with h | ⟨x, -, h⟩
  · exact resolve_error hsteps h
  · exact convert_error he h

theorem readOptional_error {v default : Json} (hsteps : stepsOf path = .ok steps) (he : e ≠ .one .float)
    (h : v.readOptional path default e = .error f) : ∃ g, f = .read g := by
  rw [readOptional_eq hsteps] at h
  split at h
  · cases h
  · cases h
  · exact convert_error he h

theorem readText_error {v : Json} (hsteps : stepsOf path = .ok steps) (h : v.readText path = .error f) :
    ∃ g, f = .read g := by
  rcases except_bind_eq_error h with h | ⟨x, -, h⟩
  · exact read_error hsteps (by decide) h
  · split at h <;> cases h
    exact ⟨_, rfl⟩

theorem readInt_error {v : Json} (hsteps : stepsOf path = .ok steps) (h : v.readInt path = .error f) :
    ∃ g, f = .read g := by
  rcases except_bind_eq_error h with h | ⟨x, -, h⟩
  · exact read_error hsteps (by decide) h
  · split at h <;> cases h
    exact ⟨_, rfl⟩

theorem length_error {v : Json} (hsteps : stepsOf path = .ok steps) (h : v.length path = .error f) :
    ∃ g, f = .read g := by
  rcases except_bind_eq_error h with h | ⟨x, -, h⟩
  · exact read_error hsteps (by decide) h
  · cases h

end Json

/-! ### Values in their place -/

/-- A path with a place written for the `$` in front of it. -/
def Path.under (place path : Text) : Text := ⟨place.points ++ path.points.tail⟩

theorem Path.under_root (place suffix : Text) : under place ("$" ++ suffix) = place ++ suffix := rfl

/-- The same failure of the value at a place. -/
def ReadFailure.within (place : Text) : ReadFailure → ReadFailure
  | .pathNotFound path => .pathNotFound (Path.under place path)
  | .kindMismatch path expected actual => .kindMismatch (Path.under place path) expected actual
  | f => f

def Failure.within (place : Text) : Failure → Failure
  | .read f => .read (f.within place)
  | f => f

namespace Json

/-- A value is in a document at a place, behind which more of a path can be written. -/
def At (document : Json) (place : Text) (v : Json) : Prop :=
  ∃ steps, Path.Open place steps ∧ document.follow? steps = some v

theorem at_root (v : Json) : v.At "$" v := ⟨[], Path.open_root, rfl⟩

section At

variable {document v : Json} {place suffix : Text} {more : List Path.Step}

theorem At.look (h : document.At place v) (hs : Path.Onward suffix more) :
    ∃ steps, stepsOf (place ++ suffix) = .ok steps ∧ document.follow? steps = v.follow? more := by
  obtain ⟨steps, hopen, hv⟩ := h
  refine ⟨steps ++ more, (hopen.append hs).steps, ?_⟩
  rw [follow?_append, hv]
  rfl

theorem convert_within (place suffix : Text) {e : Expectation} (he : e ≠ .one .float) (v : Json) :
    convert (place ++ suffix) e v = (convert ("$" ++ suffix) e v).mapError (Failure.within place) := by
  unfold convert
  split
  · exact absurd rfl he
  · split_ifs
    · rfl
    · simp only [Except.mapError, Failure.within, ReadFailure.within, Path.under_root]

theorem At.resolve (h : document.At place v) (hs : Path.Onward suffix more) :
    document.resolve (place ++ suffix) = (v.resolve ("$" ++ suffix)).mapError (Failure.within place) := by
  obtain ⟨steps, hsteps, hfollow⟩ := h.look hs
  obtain ⟨steps', hsteps', hfollow'⟩ := (at_root v).look hs
  rw [resolve_eq hsteps, resolve_eq hsteps', hfollow, hfollow']
  cases v.follow? more with
  | some x => rfl
  | none => simp only [Except.mapError, Failure.within, ReadFailure.within, Path.under_root]

theorem At.has (h : document.At place v) (hs : Path.Onward suffix more) :
    document.has (place ++ suffix) = (v.has ("$" ++ suffix)).mapError (Failure.within place) := by
  obtain ⟨steps, hsteps, hfollow⟩ := h.look hs
  obtain ⟨steps', hsteps', hfollow'⟩ := (at_root v).look hs
  rw [has_eq hsteps, has_eq hsteps', hfollow, hfollow']
  split <;> rfl

theorem At.readOptional (h : document.At place v) (hs : Path.Onward suffix more) (default : Json) {e : Expectation}
    (he : e ≠ .one .float) : document.readOptional (place ++ suffix) default e =
      (v.readOptional ("$" ++ suffix) default e).mapError (Failure.within place) := by
  obtain ⟨steps, hsteps, hfollow⟩ := h.look hs
  obtain ⟨steps', hsteps', hfollow'⟩ := (at_root v).look hs
  rw [readOptional_eq hsteps, readOptional_eq hsteps', hfollow, hfollow']
  split
  · rfl
  · rfl
  · exact convert_within place suffix he _

theorem At.read (h : document.At place v) (hs : Path.Onward suffix more) {e : Expectation} (he : e ≠ .one .float) :
    document.read (place ++ suffix) e = (v.read ("$" ++ suffix) e).mapError (Failure.within place) :=
  except_bind_mapError (h.resolve hs) fun x => convert_within place suffix he x

theorem At.extract (h : document.At place v) (hs : Path.Onward suffix more) :
    document.extract (place ++ suffix) = (v.extract ("$" ++ suffix)).mapError (Failure.within place) :=
  except_bind_mapError (h.resolve hs) fun _ => rfl

theorem At.readText (h : document.At place v) (hs : Path.Onward suffix more) :
    document.readText (place ++ suffix) = (v.readText ("$" ++ suffix)).mapError (Failure.within place) := by
  refine except_bind_mapError (h.read hs (by decide)) fun x => ?_
  split
  · rfl
  · simp only [Except.mapError, Failure.within, ReadFailure.within, Path.under_root]

theorem At.readInt (h : document.At place v) (hs : Path.Onward suffix more) :
    document.readInt (place ++ suffix) = (v.readInt ("$" ++ suffix)).mapError (Failure.within place) := by
  refine except_bind_mapError (h.read hs (by decide)) fun x => ?_
  split
  · rfl
  · simp only [Except.mapError, Failure.within, ReadFailure.within, Path.under_root]

end At

end Json

end DocumentStore
