import DocumentStore.Proofs.Access
import DocumentStore.Proofs.Json.Extract
import DocumentStore.Proofs.Query
import DocumentStore.Search.Request

/-! Comparisons as they are written. A comparison is carried with its field and its value as they are, by itself and
wherever it is a clause of the query of a search, unless its field has the name of a parameter of the library that writes
it, or is written under another name. -/

namespace DocumentStore.Query

open QueryLibrary (wireName)

/-- A comparison written as it is asked. -/
def verbatim (c : Comparison) (name : Text) (value : Json) : Json := .obj [(c.name, .obj [(name, value)])]

section verbatim

variable {library : QueryLibrary} {parameters : List Text} {renamed : List (Text × Text)}
variable {c : Comparison} {name : Text} {value : Json}

theorem verbatim_inj {c' : Comparison} {name' : Text} {value' : Json}
    (h : verbatim c name value = verbatim c' name' value') : c = c' ∧ name = name' ∧ value = value' := by
  simp only [verbatim, Json.obj.injEq, List.cons.injEq, Prod.mk.injEq, and_true] at h
  obtain ⟨hkind, hname, hvalue⟩ := h
  refine ⟨?_, hname, hvalue⟩
  have hsome := comparison?_name c
  rw [hkind, comparison?_name] at hsome
  exact (Option.some.inj hsome).symm

/-- Writing a comparison and reading it again needs no more than doing so with its value. -/
theorem verbatim_rereadable (c : Comparison) (name : Text) (value : Json) :
    (verbatim c name value).Rereadable ↔ value.Rereadable := by
  simp [verbatim, Json.rereadable_obj]

theorem compileField_own (hl : library.Documented parameters renamed) (hname : name ∈ parameters) (c : Comparison)
    (value : Json) (c' : Comparison) (name' : Text) (value' : Json) :
    ¬compileField library c (.str name) value = .ok (verbatim c' name' value') := by
  unfold compileField QueryLibrary.write
  dsimp only
  cases huse : library.use name with
  | clash => simp
  | parameter => simp [verbatim]
  | written name => exact absurd huse (hl.own _ hname name)

theorem compileField_verbatim_iff (hl : library.Documented parameters renamed) (c : Comparison) (name : Text)
    (value : Json) :
    compileField library c (.str name) value = .ok (verbatim c name value) ↔
      name ∉ parameters ∧ wireName renamed name = name := by
  by_cases hname : name ∈ parameters
  · exact iff_of_false (compileField_own hl hname c value c name value) fun h => h.1 hname
  · rw [compileField_attribute hl c hname, Except.ok.injEq]
    refine ⟨fun h => ⟨hname, (verbatim_inj h).2.1⟩, ?_⟩
    rintro ⟨-, hkept⟩
    rw [hkept]
    rfl

end verbatim

/-! ### Clauses in their place -/

/-- The clause at a place of the tree: the positions of the clauses that it stands in, the outermost first, and its own. -/
def clause? (q : Query) : List Nat → Option Query
  | [] => some q
  | n :: ns =>
    match q with
    | .bool must => must[n]?.bind fun clause => clause.clause? ns
    | _ => none

/-- The steps to the fragment of a clause. -/
def place (ns : List Nat) : List Path.Step := ns.flatMap fun n => [.name "bool", .name "must", .index n]

theorem compileAll_eq (library : QueryLibrary) (qs : List Query) : compileAll library qs = qs.mapM (compile library) := by
  induction qs with
  | nil => rfl
  | cons q qs ih => rw [compileAll, ih, List.mapM_cons]

section place

variable {library : QueryLibrary}

/-- A clause has a fragment of its own in the fragment of a query. -/
theorem compileAll_at {qs : List Query} {vs : List Json} {n : Nat} {q : Query} (h : compileAll library qs = .ok vs)
    (hq : qs[n]? = some q) : ∃ hn : n < vs.length, compile library q = .ok vs[n] := by
  rw [compileAll_eq, except_mapM_eq_ok_iff, List.forall₂_iff_get] at h
  obtain ⟨hlength, hall⟩ := h
  obtain ⟨hn, rfl⟩ := List.getElem?_eq_some_iff.1 hq
  exact ⟨hlength ▸ hn, hall n hn _⟩

/-- Every clause of a tree is compiled as it would be by itself, and its fragment stands in its place. By induction on the
place, one query with clauses after the other. -/
theorem compile_clause {q clause : Query} {ns : List Nat} {v : Json} (h : compile library q = .ok v)
    (hclause : q.clause? ns = some clause) : ∃ w, compile library clause = .ok w ∧ v.Leads (place ns) w := by
  induction ns generalizing q v with
  | nil =>
    obtain rfl : q = clause := Option.some.inj hclause
    exact ⟨v, h, .here⟩
  | cons n ns ih =>
    unfold clause? at hclause
    split at hclause
    case h_1 must =>
      obtain ⟨q, hq, hclause⟩ := Option.bind_eq_some_iff.1 hclause
      rw [compile] at h
      obtain ⟨vs, hvs, h⟩ := except_bind_eq_ok h
      cases h
      obtain ⟨hn, hv⟩ := compileAll_at hvs hq
      obtain ⟨w, hw, hleads⟩ := ih hv hclause
      exact ⟨w, hw, Json.leads_only (Json.leads_only (.item hn hleads))⟩
    case h_2 => cases hclause

theorem storedFieldsPart_names {v : Json} {stored : List (Text × Json)} (h : SearchRequest.storedFieldsPart v = .ok stored) :
    ∀ f ∈ stored, f.1 = "stored_fields" := by
  unfold SearchRequest.storedFieldsPart at h
  split_ifs at h
  · obtain ⟨xs, -, h⟩ := except_bind_eq_ok h
    cases h
    simp
  · cases h
    simp

/-- The query of a search stands in the body under its name, behind no part of the same name. -/
theorem body_query {r : SearchRequest} {q : Query} {b : Json} (h : r.body library = .ok b) (hq : r.query = some q) :
    ∃ v, compile library q = .ok v ∧ b.Leads [.name "query"] v := by
  obtain ⟨h, -⟩ := SearchRequest.body_eq_ok_iff.1 h
  unfold SearchRequest.assemble at h
  obtain ⟨stored, hstored, h⟩ := except_bind_eq_ok h
  obtain ⟨query, hquery, h⟩ := except_bind_eq_ok h
  obtain ⟨highlight, -, h⟩ := except_bind_eq_ok h
  obtain ⟨aggregations, -, h⟩ := except_bind_eq_ok h
  rw [hq] at hquery
  obtain ⟨v, hv, hquery⟩ := except_bind_eq_ok hquery
  cases hquery
  cases h
  refine ⟨v, hv, ?_⟩
  simp only [List.append_assoc, List.singleton_append]
  rw [← List.append_assoc]
  refine .member ?_ .here
  intro f hf
  rcases List.mem_append.1 hf with hsize | hstored'
  · split at hsize
    · cases hsize
    · rw [List.mem_singleton.1 hsize]
      change Text.ofString "size" ≠ "query"
      decide
  · rw [storedFieldsPart_names hstored f hstored']
    decide

end place

/-- Whatever library writes the comparisons: one is written as it is asked just if its field is none of the parameters of the
library and is not renamed. With a field that clashes it refuses every tree that it is a clause of. With an attribute it
stands in its place of what a tree is compiled to, and of the body of a search, under the name that the attribute is
written under; its text is read as it again, if that of its value is; and no other comparison is written so, but for names
that are written as others. -/
theorem comparison_verbatim {library : QueryLibrary} {parameters : List Text} {renamed : List (Text × Text)}
    (hl : library.Documented parameters renamed) (c : Comparison) (name : Text) (value : Json) :
    (compile library (.field c (.str name) value) = .ok (verbatim c name value) ↔
      name ∉ parameters ∧ wireName renamed name = name) ∧
    (library.use name = .clash → ∀ q ns, q.clause? ns = some (.field c (.str name) value) →
      ∀ v, compile library q ≠ .ok v) ∧
    (name ∉ parameters →
      compile library (.field c (.str name) value) = .ok (verbatim c (wireName renamed name) value) ∧
      (∀ q ns, q.clause? ns = some (.field c (.str name) value) →
        (∀ v, compile library q = .ok v → v.Leads (place ns) (verbatim c (wireName renamed name) value)) ∧
        ∀ (r : SearchRequest) b, r.query = some q → r.body library = .ok b →
          b.Leads (.name "query" :: place ns) (verbatim c (wireName renamed name) value)) ∧
      (value.Rereadable → Document.parse (.text (verbatim c (wireName renamed name) value).text) =
        .ok (verbatim c (wireName renamed name) value))) ∧
    ∀ c' (name' : Text) value', wireName renamed name' = name' →
      compile library (.field c' (.str name') value') = .ok (verbatim c name value) →
        c' = c ∧ name' = name ∧ value' = value := by
  refine ⟨compileField_verbatim_iff hl c name value, ?_, ?_, ?_⟩
  · intro hclash q ns hclause v hv
    obtain ⟨w, hw, -⟩ := compile_clause hv hclause
    have hrefused : compileField library c (.str name) value = .error (.misuse .wrongKind) := by
      unfold compileField QueryLibrary.write
      simp only [hclash]
    rw [compile, hrefused] at hw
    cases hw
  · intro hname
    have hcompile : compile library (.field c (.str name) value) = .ok (verbatim c (wireName renamed name) value) :=
      compileField_attribute hl c hname value
    refine ⟨hcompile, fun q ns hclause => ?_, fun hvalue => ((verbatim_rereadable c _ value).2 hvalue).parse_text⟩
    have hplace : ∀ v, compile library q = .ok v → v.Leads (place ns) (verbatim c (wireName renamed name) value) := by
      intro v hv
      obtain ⟨w, hw, hleads⟩ := compile_clause hv hclause
      obtain rfl := Except.ok.inj (hw.symm.trans hcompile)
      exact hleads
    refine ⟨hplace, fun r b hr hb => ?_⟩
    obtain ⟨v, hv, hquery⟩ := body_query hb hr
    exact hquery.append (hplace v hv)
  · intro c' name' value' hkept h
    by_cases hname : name' ∈ parameters
    · exact absurd h (compileField_own hl hname c' value' c name value)
    · rw [compile, compileField_attribute hl c' hname, hkept] at h
      exact verbatim_inj (Except.ok.inj h)

/-- A query with a comparison deep in it whose field has two underscores in its name. -/
def underscored : Query :=
  .bool [.range (.str "self") (.int 1) .null, .bool [.field .term (.str "meta__query") (.str "_field")]]

/-- With either library, a field with two underscores is carried as it is, and one of the two carries fields that the other
has parameters for. -/
theorem comparison_verbatim_underscored :
    (∀ library ∈ [QueryLibrary.standard, .withFieldParameters],
      compile library (.field .term (.str "meta__query") (.str "_field")) =
        .ok (verbatim .term "meta__query" (.str "_field"))) ∧
    (compile .standard (.field .term (.str "_field") (.str "x")) = .ok (verbatim .term "_field" (.str "x")) ∧
      compile .withFieldParameters (.field .term (.str "_field") (.str "x")) ≠
        .ok (verbatim .term "_field" (.str "x"))) ∧
    Document.parse (.text (verbatim .term "meta__query" (.str "_field")).text) =
      .ok (verbatim .term "meta__query" (.str "_field")) ∧
    ∃ b, SearchRequest.body { query := some underscored } = .ok b ∧
      b.Leads (.name "query" :: place [1, 0]) (verbatim .term "meta__query" (.str "_field")) := by
  obtain ⟨hkept, -, hwritten, -⟩ :=
    comparison_verbatim QueryLibrary.standard_documented .term "meta__query" (.str "_field")
  obtain ⟨hkept', -⟩ :=
    comparison_verbatim QueryLibrary.withFieldParameters_documented .term "meta__query" (.str "_field")
  obtain ⟨hfield, -⟩ := comparison_verbatim QueryLibrary.standard_documented .term "_field" (.str "x")
  obtain ⟨hfield', -⟩ := comparison_verbatim QueryLibrary.withFieldParameters_documented .term "_field" (.str "x")
  have hwire : wireName [("from_", "from")] "meta__query" = "meta__query" := by decide
  obtain ⟨-, hplace, htext⟩ := hwritten (by decide)
  rw [hwire] at hplace htext
  have hbody : ∃ b, SearchRequest.body { query := some underscored } = .ok b := ⟨_, rfl⟩
  obtain ⟨b, hb⟩ := hbody
  refine ⟨?_, ⟨hfield.2 (by decide), mt hfield'.1 (by decide)⟩, htext (Json.rereadable_str _), b, hb,
    (hplace underscored [1, 0] rfl).2 _ b rfl hb⟩
  rintro library (_ | ⟨_, _ | ⟨_, ⟨⟩⟩⟩)
  · exact hkept.2 (by decide)
  · exact hkept'.2 (by decide)

/-- Neither library writes every comparison as it is asked: both refuse one with `self`, and write one with `from_` as one
with `from`. -/
theorem fields_altered :
    (¬∃ library ∈ [QueryLibrary.standard, .withFieldParameters],
      ∀ c name value, compile library (.field c (.str name) value) = .ok (verbatim c name value)) ∧
    ∀ library ∈ [QueryLibrary.standard, .withFieldParameters],
      compile library (.field .term (.str "self") (.str "x")) = .error (.misuse .wrongKind) ∧
      compile library (.field .term (.str "from_") (.str "x")) = .ok (verbatim .term "from" (.str "x")) := by
  have hself : ∀ library ∈ [QueryLibrary.standard, .withFieldParameters],
      compile library (.field .term (.str "self") (.str "x")) = .error (.misuse .wrongKind) := by
    rintro library (_ | ⟨_, _ | ⟨_, ⟨⟩⟩⟩) <;> rfl
  refine ⟨?_, fun library hlibrary => ⟨hself library hlibrary, ?_⟩⟩
  · rintro ⟨library, hlibrary, h⟩
    have hrefused := hself library hlibrary
    rw [h] at hrefused
    cases hrefused
  · rcases hlibrary with _ | ⟨_, _ | ⟨_, ⟨⟩⟩⟩ <;> rfl

end DocumentStore.Query
