import DocumentStore.Proofs.Effect
import DocumentStore.Query

/-! Compiling queries. A tree of known nodes is compiled to a fragment that it can be read back from, and the first node
that is no query of a known kind refuses any other tree. Only the field names do not come back that the query library writes
as others. -/

namespace DocumentStore

namespace QueryLibrary

/-- What is known of a library: its constructors have parameters of their own, whose names are no attributes, and any other
name is one, which is written as it is unless it is renamed. -/
structure Documented (l : QueryLibrary) (parameters : List Text) (renamed : List (Text × Text)) : Prop where
  own : ∀ name ∈ parameters, ∀ written, l.use name ≠ .written written
  others : ∀ name ∉ parameters, l.use name = .written (wireName renamed name)

theorem documented_ofNames (clashing parameters : List Text) (renamed : List (Text × Text)) :
    (ofNames clashing parameters renamed).Documented (clashing ++ parameters) renamed where
  own name hname written := by
    rw [List.mem_append] at hname
    simp only [ofNames, List.contains_iff_mem]
    split_ifs <;> simp_all
  others name hname := by
    rw [List.mem_append, not_or] at hname
    simp [ofNames, hname]

theorem standard_documented : standard.Documented ["self", "_expand__to_dot"] [("from_", "from")] :=
  documented_ofNames ["self", "_expand__to_dot"] [] [("from_", "from")]

theorem withFieldParameters_documented :
    withFieldParameters.Documented ["self", "_expand__to_dot", "_field", "_value"] [("from_", "from")] :=
  documented_ofNames ["self", "_expand__to_dot"] ["_field", "_value"] [("from_", "from")]

end QueryLibrary

namespace Query

open QueryLibrary (wireName)

mutual

/-- Every comparison of the tree can be asked about its field, and every range has a name for its own. -/
def Plain (parameters : List Text) : Query → Prop
  | .field _ f _ => ∃ name, f = .str name ∧ name ∉ parameters
  | .range f _ _ => ∃ name, f = .str name
  | .bool must => PlainAll parameters must
  | .foreign _ => True

def PlainAll (parameters : List Text) : List Query → Prop
  | [] => True
  | q :: qs => Plain parameters q ∧ PlainAll parameters qs

end

mutual

/-- The types of the nodes that are no queries of a known kind, depth first and in the order of the clauses. -/
def foreigners : Query → List String
  | .bool must => foreignersAll must
  | .foreign type => [type]
  | _ => []

def foreignersAll : List Query → List String
  | [] => []
  | q :: qs => foreigners q ++ foreignersAll qs

end

mutual

/-- Some comparison of the tree is about a field that is written under another name. -/
def Renames (renamed : List (Text × Text)) : Query → Prop
  | .field _ f _ => ∃ name, f = .str name ∧ wireName renamed name ≠ name
  | .bool must => RenamesAny renamed must
  | _ => False

def RenamesAny (renamed : List (Text × Text)) : List Query → Prop
  | [] => False
  | q :: qs => Renames renamed q ∨ RenamesAny renamed qs

end

mutual

/-- The tree with its fields under the names that comparisons carry them. -/
def asWritten (renamed : List (Text × Text)) : Query → Query
  | .field c (.str name) value => .field c (.str (wireName renamed name)) value
  | .bool must => .bool (asWrittenAll renamed must)
  | q => q

def asWrittenAll (renamed : List (Text × Text)) : List Query → List Query
  | [] => []
  | q :: qs => asWritten renamed q :: asWrittenAll renamed qs

end

/-! ### Reading fragments -/

def comparison? (kind : Text) : Option Comparison := [.term, .fullText, .start].find? fun c => kind = c.name

/-- A bound that is written: it is not null. -/
def written? : Json → Option Json
  | .null => none
  | v => some v

/-- The bounds of a range; one that is not written is null. -/
def readBounds : List (Text × Json) → Option (Json × Json)
  | [] => some (.null, .null)
  | [(k, v)] =>
    if k = "gte" then (written? v).map (·, .null)
    else if k = "lt" then (written? v).map (.null, ·)
    else none
  | [(k, v), (l, w)] => if k = "gte" ∧ l = "lt" then (written? v).bind fun v => (written? w).map (v, ·) else none
  | _ => none

/-- The query that a fragment without clauses writes. -/
def readLeaf (kind name : Text) (v : Json) : Option Query :=
  if kind = "range" then
    match v with
    | .obj bounds => (readBounds bounds).map fun b => .range (.str name) b.1 b.2
    | _ => none
  else (comparison? kind).map fun c => .field c (.str name) v

mutual

/-- The query that a fragment writes. -/
def ofWire? : Json → Option Query
  | .obj [(kind, .obj [(name, v)])] =>
    if kind = "bool" then
      match v with
      | .arr clauses => if name = "must" then (ofWireAll? clauses).map .bool else none
      | _ => none
    else readLeaf kind name v
  | _ => none

def ofWireAll? : List Json → Option (List Query)
  | [] => some []
  | v :: vs => (ofWire? v).bind fun q => (ofWireAll? vs).map (q :: ·)

end

theorem comparison?_name (c : Comparison) : comparison? c.name = some c := by cases c <;> decide

theorem readBounds_bound (atLeast below : Json) :
    readBounds (bound "gte" atLeast ++ bound "lt" below) = some (atLeast, below) := by
  cases atLeast <;> cases below <;> rfl

/-! ### Compiling -/

section compile

variable {library : QueryLibrary} {parameters : List Text} {renamed : List (Text × Text)}

theorem compileField_attribute (h : library.Documented parameters renamed) (c : Comparison) {name : Text}
    (hname : name ∉ parameters) (value : Json) :
    compileField library c (.str name) value = .ok (.obj [(c.name, .obj [(wireName renamed name, value)])]) := by
  unfold compileField QueryLibrary.write
  simp only [h.others name hname]

theorem compileField_reads (h : library.Documented parameters renamed) (c : Comparison) {name : Text}
    (hname : name ∉ parameters) (value : Json) :
    ∃ v, compileField library c (.str name) value = .ok v ∧
      ofWire? v = some (.field c (.str (wireName renamed name)) value) := by
  refine ⟨_, compileField_attribute h c hname value, ?_⟩
  have hkind : (c.name : Text) ≠ "bool" ∧ (c.name : Text) ≠ "range" := by cases c <;> decide
  unfold ofWire? readLeaf
  rw [if_neg hkind.1, if_neg hkind.2, comparison?_name]
  rfl

theorem compileRange_reads (name : Text) (atLeast below : Json) :
    ∃ v, compileRange (.str name) atLeast below = .ok v ∧ ofWire? v = some (.range (.str name) atLeast below) := by
  refine ⟨_, rfl, ?_⟩
  unfold ofWire? readLeaf
  rw [if_neg (by decide), if_pos rfl]
  simp only [readBounds_bound, Option.map_some]

mutual

/-- Either all nodes are of a known kind, and the fragment reads as the tree as it is written; or the first that is not
refuses the tree. By recursion on the tree, and on the clauses of a query from the first to the last. -/
theorem compile_cases (hl : library.Documented parameters renamed) : ∀ q : Query, q.Plain parameters →
    (q.foreigners = [] ∧ ∃ v, compile library q = .ok v ∧ ofWire? v = some (q.asWritten renamed)) ∨
      ∃ type rest, q.foreigners = type :: rest ∧ compile library q = .error (.unsupportedQuery type)
  | .field c f value, h => by
    obtain ⟨name, rfl, hname⟩ := h
    exact .inl ⟨rfl, compileField_reads hl c hname value⟩
  | .range f atLeast below, h => by
    obtain ⟨name, rfl⟩ := h
    exact .inl ⟨rfl, compileRange_reads name atLeast below⟩
  | .foreign type, _ => .inr ⟨type, [], rfl, rfl⟩
  | .bool must, h => by
    rw [compile, foreigners]
    rcases compileAll_cases hl must h with ⟨hnone, vs, hvs, hread⟩ | ⟨type, rest, hsome, herror⟩
    · refine .inl ⟨hnone, _, by rw [hvs]; rfl, ?_⟩
      rw [ofWire?, if_pos rfl]
      simp only [hread, if_true, Option.map_some, asWritten]
    · exact .inr ⟨type, rest, hsome, by rw [herror]; rfl⟩

theorem compileAll_cases (hl : library.Documented parameters renamed) : ∀ qs : List Query, PlainAll parameters qs →
    (foreignersAll qs = [] ∧ ∃ vs, compileAll library qs = .ok vs ∧
      ofWireAll? vs = some (asWrittenAll renamed qs)) ∨
      ∃ type rest, foreignersAll qs = type :: rest ∧ compileAll library qs = .error (.unsupportedQuery type)
  | [], _ => .inl ⟨rfl, [], rfl, rfl⟩
  | q :: qs, h => by
    rw [compileAll, foreignersAll]
    rcases compile_cases hl q h.1 with ⟨hnone, v, hv, hread⟩ | ⟨type, rest, hsome, herror⟩
    · -- only now are the clauses behind it asked, so theirs is the first unknown node
      rw [hv, hnone, List.nil_append]
      rcases compileAll_cases hl qs h.2 with ⟨hnone, vs, hvs, hreads⟩ | ⟨type, rest, hsome, herror⟩
      · refine .inl ⟨hnone, v :: vs, by rw [hvs]; rfl, ?_⟩
        rw [ofWireAll?, hread, hreads, asWrittenAll]
        rfl
      · exact .inr ⟨type, rest, hsome, by rw [herror]; rfl⟩
    · exact .inr ⟨type, rest ++ foreignersAll qs, by rw [hsome]; rfl, by rw [herror]; rfl⟩

end

theorem compile_ok (hl : library.Documented parameters renamed) {q : Query} (h : q.Plain parameters)
    (hnone : q.foreigners = []) : ∃ v, compile library q = .ok v ∧ ofWire? v = some (q.asWritten renamed) := by
  rcases compile_cases hl q h with ⟨-, hread⟩ | ⟨type, rest, hsome, -⟩
  · exact hread
  · rw [hnone] at hsome
    cases hsome

theorem compile_foreign (hl : library.Documented parameters renamed) {q : Query} (h : q.Plain parameters) {type : String}
    {rest : List String} (hsome : q.foreigners = type :: rest) :
    compile library q = .error (.unsupportedQuery type) := by
  rcases compile_cases hl q h with ⟨hnone, -⟩ | ⟨type', rest', hsome', herror⟩
  · rw [hnone] at hsome
    cases hsome
  · rw [hsome] at hsome'
    cases hsome'
    exact herror

mutual

/-- The tree is written under its own names if no comparison in it is about a name that is not kept. -/
theorem asWritten_eq_iff : ∀ q : Query, q.Plain parameters → (q.asWritten renamed = q ↔ ¬q.Renames renamed)
  | .field c f value, h => by
    obtain ⟨name, rfl, -⟩ := h
    simp [asWritten, Renames]
  | .range f atLeast below, _ => by simp [asWritten, Renames]
  | .foreign type, _ => by simp [asWritten, Renames]
  | .bool must, h => by
    simp only [asWritten, Renames, Query.bool.injEq]
    exact asWrittenAll_eq_iff must h

theorem asWrittenAll_eq_iff : ∀ qs : List Query, PlainAll parameters qs →
    (asWrittenAll renamed qs = qs ↔ ¬RenamesAny renamed qs)
  | [], _ => by simp [asWrittenAll, RenamesAny]
  | q :: qs, h => by
    simp only [asWrittenAll, RenamesAny, List.cons.injEq, not_or]
    exact and_congr (asWritten_eq_iff q h.1) (asWrittenAll_eq_iff qs h.2)

end

theorem foldl_addMust (must clauses : List Query) : clauses.foldl addMust (.bool must) = .bool (must ++ clauses) := by
  induction clauses generalizing must with
  | nil => simp
  | cons q clauses ih => rw [List.foldl_cons, addMust, ih, List.append_assoc, List.singleton_append]

mutual

/-- The fragment of a tree is told by the names that its fields are written under. -/
theorem compile_congr (hl : library.Documented parameters renamed) : ∀ q q' : Query, q.Plain parameters →
    q'.Plain parameters → q.asWritten renamed = q'.asWritten renamed → compile library q = compile library q'
  | .field c f value, q', h, h', heq => by
    obtain ⟨name, rfl, hname⟩ := h
    cases q' with
    | field c' f' value' =>
      obtain ⟨name', rfl, hname'⟩ := h'
      simp only [asWritten, Query.field.injEq, Json.str.injEq] at heq
      obtain ⟨rfl, hwire, rfl⟩ := heq
      rw [compile, compile, compileField_attribute hl c hname, compileField_attribute hl c hname', hwire]
    | _ => simp [asWritten] at heq
  | .range f atLeast below, q', h, h', heq => by
    cases q' with
    | field c' f' value' =>
      obtain ⟨name', rfl, -⟩ := h'
      simp [asWritten] at heq
    | range f' atLeast' below' =>
      simp only [asWritten] at heq
      rw [heq]
    | _ => simp [asWritten] at heq
  | .foreign type, q', h, h', heq => by
    cases q' with
    | field c' f' value' =>
      obtain ⟨name', rfl, -⟩ := h'
      simp [asWritten] at heq
    | foreign type' =>
      simp only [asWritten] at heq
      rw [heq]
    | _ => simp [asWritten] at heq
  | .bool must, q', h, h', heq => by
    cases q' with
    | field c' f' value' =>
      obtain ⟨name', rfl, -⟩ := h'
      simp [asWritten] at heq
    | bool must' =>
      simp only [asWritten, Query.bool.injEq] at heq
      rw [compile, compile, compileAll_congr hl must must' h h' heq]
    | _ => simp [asWritten] at heq

theorem compileAll_congr (hl : library.Documented parameters renamed) : ∀ qs qs' : List Query,
    PlainAll parameters qs → PlainAll parameters qs' → asWrittenAll renamed qs = asWrittenAll renamed qs' →
      compileAll library qs = compileAll library qs'
  | [], [], _, _, _ => rfl
  | q :: qs, q' :: qs', h, h', heq => by
    simp only [asWrittenAll, List.cons.injEq] at heq
    rw [compileAll, compileAll, compile_congr hl q q' h.1 h'.1 heq.1, compileAll_congr hl qs qs' h.2 h'.2 heq.2]

end

/-- Trees of known nodes are compiled to one fragment if and only if they are written alike. -/
theorem compile_eq_iff (hl : library.Documented parameters renamed) {q q' : Query} (h : q.Plain parameters)
    (h' : q'.Plain parameters) (hq : q.foreigners = []) (hq' : q'.foreigners = []) :
    compile library q = compile library q' ↔ q.asWritten renamed = q'.asWritten renamed := by
  refine ⟨fun heq => ?_, compile_congr hl q q' h h'⟩
  obtain ⟨v, hv, hread⟩ := compile_ok hl h hq
  obtain ⟨w, hw, hread'⟩ := compile_ok hl h' hq'
  obtain rfl : v = w := Except.ok.inj (hv.symm.trans (heq.trans hw))
  exact Option.some.inj (hread.symm.trans hread')

end compile

/-- Whatever library writes the comparisons: the first node of a tree that is no query of a known kind refuses it by its type.
A tree without such nodes is compiled to a fragment that is read back as the tree, if no comparison is about a renamed field,
and as the tree that it is written as in any case; no two trees have a fragment in common that are not written alike. Adding
clauses one by one builds the query of all of them. -/
theorem compile_reads_back {library : QueryLibrary} {parameters : List Text} {renamed : List (Text × Text)}
    (hl : library.Documented parameters renamed) (q : Query) (h : q.Plain parameters) :
    (∀ type rest, q.foreigners = type :: rest → compile library q = .error (.unsupportedQuery type)) ∧
    (q.foreigners = [] →
      (∃ v, compile library q = .ok v ∧ ofWire? v = some (q.asWritten renamed) ∧
        (ofWire? v = some q ↔ ¬q.Renames renamed)) ∧
      ∀ q' : Query, q'.Plain parameters → q'.foreigners = [] →
        (compile library q = compile library q' ↔ q.asWritten renamed = q'.asWritten renamed) ∧
        (¬q.Renames renamed → ¬q'.Renames renamed → compile library q = compile library q' → q = q')) ∧
    ∀ must clauses, q = .bool must →
      compile library (clauses.foldl addMust q) = compile library (.bool (must ++ clauses)) := by
  refine ⟨fun type rest hsome => compile_foreign hl h hsome, ?_, ?_⟩
  · intro hq
    constructor
    · obtain ⟨v, hv, hread⟩ := compile_ok hl h hq
      refine ⟨v, hv, hread, ?_⟩
      rw [hread, Option.some.injEq, asWritten_eq_iff q h]
    · intro q' h' hq'
      refine ⟨compile_eq_iff hl h h' hq hq', ?_⟩
      intro hkept hkept' heq
      rw [compile_eq_iff hl h h' hq hq', (asWritten_eq_iff q h).2 hkept, (asWritten_eq_iff q' h').2 hkept'] at heq
      exact heq
  · rintro must clauses rfl
    rw [foldl_addMust]

/-- A query with clauses of every known kind. -/
def nested : Query :=
  .bool [.field .start (.str "path") (.str "/a"), .bool [.range (.str "size") (.int 1) .null],
    .field .fullText (.str "title") (.str "x")]

/-- The same with two nodes of an unknown kind. -/
def estranged : Query := .bool [nested, .bool [.foreign "WildcardQuery"], .foreign "str"]

theorem nested_plain {parameters : List Text} (hpath : ("path" : Text) ∉ parameters)
    (htitle : ("title" : Text) ∉ parameters) :
    nested.Plain parameters :=
  ⟨⟨"path", rfl, hpath⟩, ⟨⟨"size", rfl⟩, trivial⟩, ⟨"title", rfl, htitle⟩, trivial⟩

theorem nested_kept : ¬nested.Renames [("from_", "from")] := by
  simp only [nested, Renames, RenamesAny, Json.str.injEq, exists_eq_left']
  decide

/-- A query with clauses is read back from its fragment, and only it has this fragment among those that do not compare
a renamed field; with nodes of an unknown kind it is refused by the type of the first. That holds for either library. -/
theorem compile_reads_back_nested :
    (∀ library ∈ [QueryLibrary.standard, .withFieldParameters],
      ∃ v, compile library nested = .ok v ∧ ofWire? v = some nested) ∧
    (∀ q : Query, q.Plain ["self", "_expand__to_dot"] → q.foreigners = [] → ¬q.Renames [("from_", "from")] →
      compile .standard q = compile .standard nested → q = nested) ∧
    compile .standard estranged = .error (.unsupportedQuery "WildcardQuery") := by
  have hnested : nested.Plain ["self", "_expand__to_dot"] := nested_plain (by decide) (by decide)
  have hestranged : estranged.Plain ["self", "_expand__to_dot"] := ⟨hnested, ⟨trivial, trivial⟩, trivial, trivial⟩
  obtain ⟨⟨v, hv, -, hback⟩, hunique⟩ := (compile_reads_back QueryLibrary.standard_documented nested hnested).2.1 rfl
  refine ⟨?_, ?_, (compile_reads_back QueryLibrary.standard_documented estranged hestranged).1 _ _ rfl⟩
  · rintro library (_ | ⟨_, _ | ⟨_, ⟨⟩⟩⟩)
    · exact ⟨v, hv, hback.2 nested_kept⟩
    · obtain ⟨⟨w, hw, -, hback⟩, -⟩ := (compile_reads_back QueryLibrary.withFieldParameters_documented nested
        (nested_plain (by decide) (by decide))).2.1 rfl
      exact ⟨w, hw, hback.2 nested_kept⟩
  · intro q h hq hq' heq
    exact ((hunique q h hq).2 nested_kept hq' heq.symm).symm

/-- A comparison with `from_` has the fragment of one with `from`: neither library tells all queries apart. -/
theorem from_compiles_like_another :
    ¬∃ library ∈ [QueryLibrary.standard, .withFieldParameters],
      ∀ q q' : Query, q.Plain ["self", "_expand__to_dot", "_field", "_value"] →
        q'.Plain ["self", "_expand__to_dot", "_field", "_value"] → q.foreigners = [] → q'.foreigners = [] →
        compile library q = compile library q' → q = q' := by
  rintro ⟨library, hlibrary, h⟩
  have hsame : compile library (.field .term (.str "from_") (.str "x")) =
      compile library (.field .term (.str "from") (.str "x")) := by
    rcases hlibrary with _ | ⟨_, _ | ⟨_, ⟨⟩⟩⟩ <;> rfl
  have heq := h (.field .term (.str "from_") (.str "x")) (.field .term (.str "from") (.str "x"))
    ⟨"from_", rfl, by decide⟩ ⟨"from", rfl, by decide⟩ rfl rfl hsame
  simp only [Query.field.injEq, Json.str.injEq, true_and, and_true] at heq
  exact absurd heq (by decide)

end Query

end DocumentStore
