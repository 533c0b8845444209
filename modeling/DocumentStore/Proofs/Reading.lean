import DocumentStore.Proofs.Document
import DocumentStore.Search.Response

/-! What can come of reading an answer. Whatever the path and the size are, what fails is the reading: no reader says that
something is missing from the store, or speaks for the cluster. -/

namespace DocumentStore

/-- What can come of reading: an answer without the form that is needed, or a value that cannot be worked with. -/
inductive Failure.OfReading : Failure → Prop
  | read (f : ReadFailure) : OfReading (.read f)
  | misuse (m : Misuse) : OfReading (.misuse m)

/-- The only failures are those of reading. -/
abbrev OnlyReads {α : Type} (x : Except Failure α) : Prop := OnlyFails Failure.OfReading x

namespace OnlyReads

theorem read {α : Type} (f : ReadFailure) : OnlyReads (.error (.read f) : Except Failure α) := .error (.read f)

theorem misuse {α : Type} (m : Misuse) : OnlyReads (.error (.misuse m) : Except Failure α) := .error (.misuse m)

end OnlyReads

theorem Document.parse_onlyReads (s : Source) : OnlyReads (Document.parse s) := by
  intro f h
  obtain ⟨g, rfl⟩ := Document.parse_error h
  exact .read g

namespace Json

theorem stepsOf_onlyReads (path : Text) : OnlyReads (stepsOf path) := by
  unfold stepsOf
  cases Path.parse path with
  | ok steps => exact .ok steps
  | error f => cases f <;> exact OnlyReads.misuse _

theorem convert_onlyReads (path : Text) (e : Expectation) (v : Json) : OnlyReads (convert path e v) := by
  unfold convert
  split
  · split
    · exact .ok _
    · exact OnlyReads.misuse _
  · exact .ite (.ok _) (OnlyReads.read _)

theorem resolve_onlyReads (v : Json) (path : Text) : OnlyReads (v.resolve path) := by
  refine (stepsOf_onlyReads path).bind fun steps => ?_
  cases v.follow? steps with
  | none => exact OnlyReads.read _
  | some x => exact .ok x

theorem read_onlyReads (v : Json) (path : Text) (e : Expectation) : OnlyReads (v.read path e) :=
  (resolve_onlyReads v path).bind fun _ => convert_onlyReads path e _

theorem readOptional_onlyReads (v : Json) (path : Text) (default : Json) (e : Expectation) :
    OnlyReads (v.readOptional path default e) := by
  refine (stepsOf_onlyReads path).bind fun steps => ?_
  split
  · exact .ok _
  · exact .ok _
  · exact convert_onlyReads path e _

theorem has_onlyReads (v : Json) (path : Text) : OnlyReads (v.has path) := by
  refine (stepsOf_onlyReads path).bind fun steps => ?_
  split <;> exact .ok _

theorem extract_onlyReads (v : Json) (path : Text) : OnlyReads (v.extract path) :=
  (resolve_onlyReads v path).bind fun _ => .ok _

theorem length_onlyReads (v : Json) (path : Text) : OnlyReads (v.length path) :=
  (read_onlyReads v path _).bind fun _ => .ok _

theorem readText_onlyReads (v : Json) (path : Text) : OnlyReads (v.readText path) := by
  refine (read_onlyReads v path _).bind fun x => ?_
  split
  · exact .ok _
  · exact OnlyReads.read _

theorem readInt_onlyReads (v : Json) (path : Text) : OnlyReads (v.readInt path) := by
  refine (read_onlyReads v path _).bind fun x => ?_
  split
  · exact .ok _
  · exact OnlyReads.read _

/-! ### What is read at a known place -/

section place

variable {path : Text} {steps : List Path.Step}

theorem follow?_field (v : Json) (key : String) : v.follow? [.name key] = v.field? key := by
  rw [follow?_name]
  cases v <;> rfl

theorem follow?_fields (v : Json) (key inner : String) :
    v.follow? [.name key, .name inner] = (v.field? key).bind (·.field? inner) := by
  have happend := follow?_append v [.name key] [.name inner]
  simp only [follow?_field] at happend
  exact happend

theorem readText_ok_iff (hsteps : stepsOf path = .ok steps) (v : Json) (t : Text) :
    v.readText path = .ok t ↔ v.follow? steps = some (.str t) := by
  unfold readText read
  rw [resolve_eq hsteps]
  cases v.follow? steps with
  | none => exact iff_of_false nofun nofun
  | some x =>
    cases x with
    | str s => exact ⟨fun h => congrArg (fun s => some (Json.str s)) (Except.ok.inj h), fun h => by cases h; rfl⟩
    | _ => exact iff_of_false nofun nofun

theorem readBool_ok_iff (hsteps : stepsOf path = .ok steps) (v : Json) (b : Bool) :
    v.readBool path = .ok b ↔ v.follow? steps = some (.bool b) := by
  unfold readBool read
  rw [resolve_eq hsteps]
  cases v.follow? steps with
  | none => exact iff_of_false nofun nofun
  | some x =>
    cases x with
    | bool b' => exact ⟨fun h => congrArg (fun b => some (Json.bool b)) (Except.ok.inj h), fun h => by cases h; rfl⟩
    | _ => exact iff_of_false nofun nofun

end place

end Json

theorem SearchHit.readSource_onlyReads (document : Json) (path : Text) : OnlyReads (readSource document path) := by
  refine (document.has_onlyReads path).bind fun found => .ite ?_ (.ok _)
  exact (document.extract_onlyReads path).bind fun _ => (document.read_onlyReads path _).bind fun _ => .ok _

theorem SearchHit.read_onlyReads (document : Json) (place : Text) : OnlyReads (SearchHit.read document place) :=
  (document.readText_onlyReads _).bind fun _ => (document.readText_onlyReads _).bind fun _ =>
    (document.readInt_onlyReads _).bind fun _ => (readSource_onlyReads document _).bind fun _ =>
      (document.readOptional_onlyReads _ _ _).bind fun _ => (document.readOptional_onlyReads _ _ _).bind fun _ => .ok _

theorem TermsBucket.readAll_onlyReads (v : Json) : OnlyReads (readAll v) := by
  unfold readAll
  split
  · refine .mapM (fun x => ?_) _
    cases x <;> first | exact .ok _ | exact OnlyReads.misuse _
  · exact OnlyReads.misuse _

theorem TermsBucket.readAggregations_onlyReads (fs : List (Text × Json)) : OnlyReads (readAggregations fs) := by
  induction fs with
  | nil => exact .ok []
  | cons a fs ih =>
    rw [readAggregations]
    split
    · exact ih
    · exact (readAll_onlyReads _).bind fun _ => ih.bind fun _ => .ok _

namespace SearchResponse

theorem readTotal_onlyReads (document : Json) : OnlyReads (readTotal document) := by
  refine (document.read_onlyReads _ _).bind fun v => ?_
  split
  · exact .ok _
  · exact document.readInt_onlyReads _

theorem readAggregations_onlyReads (document : Json) : OnlyReads (readAggregations document) := by
  refine (document.readOptional_onlyReads _ _ _).bind fun v => ?_
  split
  · exact TermsBucket.readAggregations_onlyReads _
  · exact .ok _

theorem hitCount_onlyReads (size : Json) (found : Nat) : OnlyReads (hitCount size found) := by
  unfold hitCount
  split
  · exact OnlyReads.misuse _
  · split
    · exact .ok _
    · exact OnlyReads.misuse _

/-- Whatever the answer to a search is, nothing but reading it fails. -/
theorem parse_onlyReads (text : Text) (size : Json) : OnlyReads (parse text size) :=
  (Document.parse_onlyReads _).bind fun document =>
    (document.length_onlyReads _).bind fun found => (hitCount_onlyReads size found).bind fun _ =>
      (OnlyFails.mapM (fun n => SearchHit.read_onlyReads document (hitPlace n)) _).bind fun _ =>
        (readTotal_onlyReads document).bind fun _ => (readAggregations_onlyReads document).bind fun _ =>
          (document.readOptional_onlyReads _ _ _).bind fun _ => .ok _

end SearchResponse

end DocumentStore
