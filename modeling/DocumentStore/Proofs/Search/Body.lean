import DocumentStore.Client.Basic
import DocumentStore.Proofs.Effect
import DocumentStore.Proofs.Json.Reading
import DocumentStore.Proofs.Json.Spelling

/-! The body of a search. It has the parts of a request that are set, in one order and under names of their own, so each
of them can be read from it again; a number too long to be spelled out is in none. A query that is of no known kind is refused
before anything is sent. -/

namespace DocumentStore.SearchRequest

/-! ### Objects of what is set -/

/-- The field of a section, if it is set. -/
def sectionFields (k : Text) (v : Option Json) : List (Text × Json) := (v.map (k, ·)).toList

def setFields (sections : List (Text × Option Json)) : List (Text × Json) :=
  sections.flatMap fun s => sectionFields s.1 s.2

theorem setFields_keys_sublist (sections : List (Text × Option Json)) :
    ((setFields sections).map (·.1)).Sublist (sections.map (·.1)) := by
  induction sections with
  | nil => exact .slnil
  | cons s sections ih =>
    obtain ⟨k, v⟩ := s
    cases v with
    | none => exact ih.cons k
    | some v => exact ih.cons_cons k

theorem lookupField_eq_none_iff {fields : List (Text × Json)} {k : Text} :
    Json.lookupField fields k = none ↔ k ∉ fields.map (·.1) := by
  rw [Json.lookupField, List.lookup_eq_none_iff, List.mem_map]
  simp only [bne_iff_ne, ne_eq, not_exists, not_and]
  exact forall₂_congr fun f _ => ne_comm

/-- Where no two sections have one name, what stands under the name of a section is what it is set to. -/
theorem lookup_setFields {sections : List (Text × Option Json)} (hnames : (sections.map (·.1)).Nodup) {k : Text}
    {v : Option Json} (h : (k, v) ∈ sections) : Json.lookupField (setFields sections) k = v := by
  induction sections with
  | nil => cases h
  | cons s sections ih =>
    obtain ⟨k', v'⟩ := s
    obtain ⟨hfirst, hnames⟩ := List.nodup_cons.1 hnames
    rcases List.mem_cons.1 h with heq | hbehind
    · cases heq
      cases v with
      | none => exact lookupField_eq_none_iff.2 fun hk => hfirst ((setFields_keys_sublist sections).subset hk)
      | some v => exact List.lookup_cons_self
    · have hne : k ≠ k' := by
        rintro rfl
        exact hfirst (List.mem_map.2 ⟨_, hbehind, rfl⟩)
      rw [← ih hnames hbehind]
      cases v' with
      | none => rfl
      | some v' =>
        change List.lookup k ((k', v') :: setFields sections) = _
        rw [List.lookup_cons, beq_false_of_ne hne]
        rfl

/-- A field is there just if its section is set. -/
theorem mem_setFields_keys {sections : List (Text × Option Json)} (hnames : (sections.map (·.1)).Nodup) {k : Text}
    {v : Option Json} (h : (k, v) ∈ sections) : k ∈ (setFields sections).map (·.1) ↔ v ≠ none := by
  rw [← not_iff_not, ← lookupField_eq_none_iff, lookup_setFields hnames h, not_not]

/-! ### Objects keyed by names -/

/-- Entries whose keys are texts. -/
def textKeyed (entries : List (Text × Json)) : List (Json × Json) := entries.map fun e => (.str e.1, e.2)

theorem putScalar_textKeyed (k : Text) (v : Json) (entries : List (Text × Json)) :
    putScalar (.str k) v (textKeyed entries) = textKeyed (putField k v entries) := by
  induction entries with
  | nil => rfl
  | cons e entries ih =>
    have hsame : (Json.str e.1).sameScalar (.str k) = decide (e.1 = k) := rfl
    change putScalar (.str k) v ((.str e.1, e.2) :: textKeyed entries) = _
    rw [putScalar, putField, hsame, ih]
    by_cases hk : e.1 = k <;> simp [hk, textKeyed]

theorem foldl_putScalar (entries acc : List (Text × Json)) :
    (textKeyed entries).foldl (fun acc e => putScalar e.1 e.2 acc) (textKeyed acc) =
      textKeyed (entries.foldl (fun acc e => putField e.1 e.2 acc) acc) := by
  induction entries generalizing acc with
  | nil => rfl
  | cons e entries ih =>
    change (textKeyed entries).foldl _ (putScalar (.str e.1) e.2 (textKeyed acc)) = _
    rw [putScalar_textKeyed]
    exact ih _

theorem mapM_textKeyed {f : Json × Json → Except Failure (Text × Json)} (hf : ∀ e : Text × Json, f (.str e.1, e.2) = .ok e)
    (entries : List (Text × Json)) : (textKeyed entries).mapM f = .ok entries := by
  rw [except_mapM_eq_ok_iff, textKeyed, List.forall₂_map_left_iff]
  exact List.forall₂_same.2 fun e _ => hf e

/-- Keys that are texts make an object as fields do. -/
theorem scalarObject_textKeyed (entries : List (Text × Json)) :
    scalarObject (textKeyed entries) = .ok (.obj (putFields entries)) := by
  have hput : (textKeyed entries).foldl (fun acc e => putScalar e.1 e.2 acc) [] = textKeyed (putFields entries) :=
    foldl_putScalar entries []
  unfold scalarObject
  dsimp only
  rw [hput, mapM_textKeyed fun _ => rfl]
  rfl

theorem putFields_eq_self {entries : List (Text × Json)} (h : (entries.map (·.1)).Nodup) :
    putFields entries = entries := by
  induction entries using List.reverseRecOn with
  | nil => rfl
  | append_singleton entries e ih =>
    rw [List.map_append, List.nodup_append] at h
    obtain ⟨hnodup, -, hnew⟩ := h
    have hk : e.1 ∉ entries.map (·.1) := fun hmem => hnew _ hmem _ List.mem_cons_self rfl
    unfold putFields at ih ⊢
    rw [List.foldl_append, ih hnodup]
    exact putField_new hk e.2

theorem mem_of_mem_putFields {entries : List (Text × Json)} {e : Text × Json} (h : e ∈ putFields entries) : e ∈ entries := by
  induction entries using List.reverseRecOn with
  | nil => exact h
  | append_singleton entries e' ih =>
    unfold putFields at h ih
    rw [List.foldl_append] at h
    rcases mem_putField h with rfl | h
    · exact List.mem_append_right entries List.mem_cons_self
    · exact List.mem_append_left _ (ih h)

/-! ### The parts of a request -/

/-- What a search asks for: how many hits, null if it does not say; the fragment of its query, if it has one; and the field
that it sorts by, empty if there is none. -/
structure Parts where
  size : Json
  storedFields : List Text
  query : Option Json
  sort : Text
  highlighters : List Text
  aggregations : List (Text × Text)

/-- The names of the sections of a body, in their order. -/
def sectionNames : List Text := ["size", "stored_fields", "query", "sort", "highlight", "aggs"]

namespace Parts

/-- No field is highlighted twice, and no two aggregations have one name. -/
structure Distinct (p : Parts) : Prop where
  highlighters : p.highlighters.Nodup
  aggregations : (p.aggregations.map (·.1)).Nodup

/-- The entries of the object of aggregations, as they come. -/
def aggregationsJson (p : Parts) : List (Text × Json) :=
  p.aggregations.map fun a => (a.1, .obj [("terms", .obj [("field", .str a.2)])])

def highlightersJson (p : Parts) : List (Text × Json) := p.highlighters.map (·, .obj [])

/-- A value, unless there is nothing for it to say. -/
def unlessEmpty {α : Type} (said : List α) (v : Json) : Option Json := if said.isEmpty then none else some v

def unlessNull : Json → Option Json
  | .null => none
  | v => some v

/-- What each section of the body is set to. -/
def sections (p : Parts) : List (Text × Option Json) := [
  ("size", unlessNull p.size),
  ("stored_fields", unlessEmpty p.storedFields (.arr (p.storedFields.map .str))),
  ("query", p.query),
  ("sort", unlessEmpty p.sort.points (.arr [.str p.sort])),
  ("highlight", unlessEmpty p.highlighters (.obj [("fields", .obj (putFields p.highlightersJson))])),
  ("aggs", unlessEmpty p.aggregations (.obj (putFields p.aggregationsJson)))]

theorem Distinct.putFields_highlighters {p : Parts} (h : p.Distinct) :
    putFields p.highlightersJson = p.highlightersJson := by
  apply putFields_eq_self
  rw [highlightersJson, List.map_map]
  exact (List.map_id p.highlighters).symm ▸ h.highlighters

theorem Distinct.putFields_aggregations {p : Parts} (h : p.Distinct) :
    putFields p.aggregationsJson = p.aggregationsJson := by
  apply putFields_eq_self
  rw [aggregationsJson, List.map_map]
  exact h.aggregations

theorem sectionNames_nodup : sectionNames.Nodup := by decide

/-! ### What a body tells -/

def textOf : Json → Text
  | .str t => t
  | _ => ⟨[]⟩

def itemsOf : Json → List Json
  | .arr xs => xs
  | _ => []

def fieldsOf : Json → List (Text × Json)
  | .obj fs => fs
  | _ => []

/-- What stands under a name, null if nothing does. -/
def under (k : Text) (v : Json) : Json := (v.field? k).getD .null

/-- The parts that a body was made of. -/
def ofBody (b : Json) : Parts where
  size := under "size" b
  storedFields := (itemsOf (under "stored_fields" b)).map textOf
  query := b.field? "query"
  sort := textOf ((itemsOf (under "sort" b)).headD .null)
  highlighters := (fieldsOf (under "fields" (under "highlight" b))).map (·.1)
  aggregations := (fieldsOf (under "aggs" b)).map fun f => (f.1, textOf (under "field" (under "terms" f.2)))

/-- The value that the body of some parts has under the name of each section. -/
theorem field?_sections {p : Parts} {k : Text} {v : Option Json} (n : Nat) (h : p.sections[n]? = some (k, v)) :
    (Json.obj (setFields p.sections)).field? k = v := by
  have hnodup : (p.sections.map (·.1)).Nodup := sectionNames_nodup
  exact lookup_setFields hnodup (List.mem_of_getElem? h)

theorem under_sections {p : Parts} {k : Text} {v : Option Json} (n : Nat) (h : p.sections[n]? = some (k, v)) :
    under k (.obj (setFields p.sections)) = v.getD .null := by
  rw [under, field?_sections n h]

/-- A list of texts that is left out when it is empty is read as empty. -/
theorem itemsOf_unlessEmpty (ts : List Text) :
    (itemsOf ((unlessEmpty ts (.arr (ts.map .str))).getD .null)).map textOf = ts := by
  cases ts with
  | nil => rfl
  | cons t ts =>
    change ((t :: ts).map Json.str).map textOf = _
    rw [List.map_map]
    exact List.map_id _

theorem fieldsOf_unlessEmpty {α : Type} {said : List α} {fields : List (Text × Json)} (h : said = [] → fields = []) :
    fieldsOf ((unlessEmpty said (.obj fields)).getD .null) = fields := by
  cases said with
  | nil => exact (h rfl).symm
  | cons a said => rfl

/-- Every part is read from the body again. -/
theorem Distinct.ofBody_sections {p : Parts} (h : p.Distinct) : ofBody (.obj (setFields p.sections)) = p := by
  have hsize : under "size" (.obj (setFields p.sections)) = p.size := by
    rw [under_sections 0 rfl]
    cases p.size <;> rfl
  have hstored : (itemsOf (under "stored_fields" (.obj (setFields p.sections)))).map textOf = p.storedFields := by
    rw [under_sections 1 rfl]
    exact itemsOf_unlessEmpty p.storedFields
  have hquery : (Json.obj (setFields p.sections)).field? "query" = p.query := field?_sections 2 rfl
  have hsort : textOf ((itemsOf (under "sort" (.obj (setFields p.sections)))).headD .null) = p.sort := by
    rw [under_sections 3 rfl]
    obtain ⟨_ | _⟩ := p.sort <;> rfl
  have hhighlight : (fieldsOf (under "fields" (under "highlight" (.obj (setFields p.sections))))).map (·.1) =
      p.highlighters := by
    rw [under_sections 4 rfl, h.putFields_highlighters]
    cases hp : p.highlighters with
    | nil => rfl
    | cons t ts =>
      change p.highlightersJson.map (·.1) = _
      rw [highlightersJson, List.map_map, hp]
      exact List.map_id _
  have haggs : (fieldsOf (under "aggs" (.obj (setFields p.sections)))).map
      (fun f => (f.1, textOf (under "field" (under "terms" f.2)))) = p.aggregations := by
    rw [under_sections 5 rfl, h.putFields_aggregations,
      fieldsOf_unlessEmpty fun hp => by rw [aggregationsJson, hp]; rfl, aggregationsJson,
      List.map_map]
    exact List.map_id _
  simp only [ofBody, hsize, hstored, hquery, hsort, hhighlight, haggs]

end Parts

/-! ### Requests and their bodies -/

variable {library : QueryLibrary} {r : SearchRequest} {p : Parts}

/-- The request asks for these parts: its names are texts, its query compiles to the fragment, and a sort by the empty text
is none. -/
structure Asks (library : QueryLibrary) (r : SearchRequest) (p : Parts) : Prop where
  size : r.size = p.size
  storedFields : r.storedFields = .arr (p.storedFields.map .str)
  query : r.query.map (Query.compile library) = p.query.map .ok
  sort : r.sort = .str p.sort ∨ r.sort = .null ∧ p.sort = ⟨[]⟩
  highlighters : r.highlighters = .arr (p.highlighters.map .str)
  aggregations : r.aggregations = p.aggregations.map fun a => ⟨.str a.1, .str a.2⟩

theorem Asks.storedFieldsPart_eq (h : r.Asks library p) : storedFieldsPart r.storedFields =
    .ok (sectionFields "stored_fields" (Parts.unlessEmpty p.storedFields (.arr (p.storedFields.map .str)))) := by
  rw [h.storedFields]
  cases p.storedFields <;> rfl

theorem Asks.queryPart_eq (h : r.Asks library p) : queryPart library r.query = .ok (sectionFields "query" p.query) := by
  have hquery := h.query
  cases hr : r.query with
  | none =>
    rw [hr, Option.map_none] at hquery
    rw [Option.map_eq_none_iff.1 hquery.symm]
    rfl
  | some q =>
    rw [hr, Option.map_some] at hquery
    obtain ⟨v, hv, hcompile⟩ := Option.map_eq_some_iff.1 hquery.symm
    rw [queryPart, ← hcompile, hv]
    rfl

theorem Asks.sortPart_eq (h : r.Asks library p) :
    (if r.sort.truthy then [(Text.ofString "sort", Json.arr [r.sort])] else []) =
      sectionFields "sort" (Parts.unlessEmpty p.sort.points (.arr [.str p.sort])) := by
  rcases h.sort with hsort | ⟨hsort, hnone⟩
  · rw [hsort]
    obtain ⟨_ | _⟩ := p.sort <;> rfl
  · rw [hsort, hnone]
    rfl

theorem Asks.highlightPart_eq (h : r.Asks library p) :
    highlightPart r.highlighters = .ok (sectionFields "highlight"
      (Parts.unlessEmpty p.highlighters (.obj [("fields", .obj (putFields p.highlightersJson))]))) := by
  have hkeyed : (p.highlighters.map Json.str).map (·, Json.obj []) = textKeyed p.highlightersJson := by
    rw [textKeyed, Parts.highlightersJson, List.map_map, List.map_map]
    rfl
  have hobject := scalarObject_textKeyed p.highlightersJson
  rw [← hkeyed] at hobject
  rw [h.highlighters]
  revert hobject
  generalize putFields p.highlightersJson = fields
  cases p.highlighters with
  | nil => exact fun _ => rfl
  | cons t ts =>
    intro hobject
    change (do
      let fields ← scalarObject (((t :: ts).map Json.str).map (·, .obj []))
      return [(Text.ofString "highlight", Json.obj [("fields", fields)])]) = _
    rw [hobject]
    rfl

theorem Asks.aggregationPart_eq (h : r.Asks library p) :
    aggregationPart r.aggregations =
      .ok (sectionFields "aggs" (Parts.unlessEmpty p.aggregations (.obj (putFields p.aggregationsJson)))) := by
  have hkeyed : (r.aggregations.map fun a => (a.name, Json.obj [("terms", .obj [("field", a.field)])])) =
      textKeyed p.aggregationsJson := by
    rw [h.aggregations, textKeyed, Parts.aggregationsJson, List.map_map, List.map_map]
    rfl
  rw [aggregationPart, hkeyed, scalarObject_textKeyed, h.aggregations]
  cases p.aggregations <;> rfl

/-- Also where names are said twice, the sections are what is put together. -/
theorem Asks.assemble_eq (h : r.Asks library p) : r.assemble library = .ok (.obj (setFields p.sections)) := by
  unfold assemble
  rw [h.storedFieldsPart_eq, h.queryPart_eq, h.sortPart_eq, h.highlightPart_eq, h.aggregationPart_eq, h.size]
  unfold setFields Parts.sections
  simp only [List.flatMap_cons, List.flatMap_nil, List.append_nil, List.append_assoc]
  cases p.size <;> rfl

/-! ### Numbers that can be told -/

namespace Parts

/-- No number is too long to be spelled out: there are none but in the size and in the query. -/
structure Spellable (p : Parts) : Prop where
  size : p.size.isSpellable = true
  query : ∀ v ∈ p.query, v.isSpellable = true

theorem isSpellable_setFields (sections : List (Text × Option Json)) :
    (Json.obj (setFields sections)).isSpellable = true ↔ ∀ s ∈ sections, ∀ v ∈ s.2, v.isSpellable = true := by
  rw [Json.isSpellable, Json.haveSpellable_iff]
  unfold setFields sectionFields
  simp only [List.mem_flatMap, Option.mem_toList, Option.map_eq_some_iff]
  constructor
  · intro h s hs v hv
    exact h (s.1, v) ⟨s, hs, v, hv, rfl⟩
  · rintro h _ ⟨s, hs, v, hv, rfl⟩
    exact h s hs v hv

theorem isSpellable_unlessNull (v : Json) :
    (∀ w ∈ unlessNull v, w.isSpellable = true) ↔ v.isSpellable = true := by
  cases v <;> simp [unlessNull, Json.isSpellable]

theorem isSpellable_unlessEmpty {α : Type} {said : List α} {v : Json} (h : v.isSpellable = true) :
    ∀ w ∈ unlessEmpty said v, w.isSpellable = true := by
  intro w hw
  unfold unlessEmpty at hw
  split_ifs at hw
  · cases hw
  · obtain rfl := Option.some.inj hw
    exact h

theorem isSpellable_strings (ts : List Text) : (Json.arr (ts.map .str)).isSpellable = true := by
  rw [Json.isSpellable, Json.areSpellable_iff]
  intro v hv
  obtain ⟨t, -, rfl⟩ := List.mem_map.1 hv
  rfl

theorem isSpellable_putFields {entries : List (Text × Json)} (h : ∀ e ∈ entries, e.2.isSpellable = true) :
    (Json.obj (putFields entries)).isSpellable = true := by
  rw [Json.isSpellable, Json.haveSpellable_iff]
  exact fun e he => h e (mem_of_mem_putFields he)

theorem isSpellable_highlighters (p : Parts) : (Json.obj (putFields p.highlightersJson)).isSpellable = true := by
  apply isSpellable_putFields
  intro e he
  obtain ⟨t, -, rfl⟩ := List.mem_map.1 he
  rfl

theorem isSpellable_aggregations (p : Parts) : (Json.obj (putFields p.aggregationsJson)).isSpellable = true := by
  apply isSpellable_putFields
  intro e he
  obtain ⟨a, -, rfl⟩ := List.mem_map.1 he
  rfl

/-- What is put together can be spelled out just if the size and the query can. -/
theorem spellable_iff (p : Parts) : (Json.obj (setFields p.sections)).isSpellable = true ↔ p.Spellable := by
  rw [isSpellable_setFields]
  constructor
  · intro hall
    have hsections {k : Text} {v : Option Json} (n : Nat) (hn : p.sections[n]? = some (k, v)) :
        ∀ w ∈ v, w.isSpellable = true := hall (k, v) (List.mem_of_getElem? hn)
    exact ⟨(isSpellable_unlessNull _).1 (hsections 0 rfl), hsections 2 rfl⟩
  · intro hp
    have hhighlight : (Json.obj [("fields", .obj (putFields p.highlightersJson))]).isSpellable = true := by
      rw [Json.isSpellable, Json.haveSpellable_iff, List.forall_mem_singleton]
      exact isSpellable_highlighters p
    unfold sections
    simp only [List.forall_mem_cons]
    exact ⟨(isSpellable_unlessNull _).2 hp.size, isSpellable_unlessEmpty (isSpellable_strings _), hp.query,
      isSpellable_unlessEmpty rfl, isSpellable_unlessEmpty hhighlight,
      isSpellable_unlessEmpty (isSpellable_aggregations p), by simp⟩

end Parts

theorem Asks.body_eq (h : r.Asks library p) (hspellable : p.Spellable) :
    r.body library = .ok (.obj (setFields p.sections)) :=
  body_eq_ok_iff.2 ⟨h.assemble_eq, p.spellable_iff.2 hspellable⟩

theorem Asks.body_eq_error (h : r.Asks library p) (hspellable : ¬p.Spellable) :
    r.body library = .error (.misuse .overlongNumber) := by
  rw [body_of_assemble h.assemble_eq, if_neg (mt p.spellable_iff.1 hspellable)]

/-- A query that cannot be compiled is all that comes of a search. -/
theorem body_refused {names : List Json} {q : Query} {f : Failure} (hnames : r.storedFields = .arr names)
    (hquery : r.query = some q) (hrefused : q.compile library = .error f) : r.body library = .error f := by
  have hstored : ∃ stored, storedFieldsPart r.storedFields = .ok stored := by
    rw [hnames]
    cases names <;> exact ⟨_, rfl⟩
  obtain ⟨stored, hstored⟩ := hstored
  have hpart : queryPart library r.query = .error f := by
    rw [hquery, queryPart, hrefused]
    rfl
  unfold body assemble
  rw [hstored, hpart]
  rfl

theorem search_refused {c : Client} {f : Failure} (h : r.body c.library = .error f) :
    (Client.search r).runOn c = (.error f, c) := by
  unfold Client.search
  rw [Effect.runOn_bind_ok (Effect.runOn_getThe c), h]
  rfl

/-- The keys are in the one order, and each is there just if its part of the request is set. -/
structure KeysOf (r : SearchRequest) (p : Parts) (keys : List Text) : Prop where
  order : keys.Sublist ["size", "stored_fields", "query", "sort", "highlight", "aggs"]
  size : ("size" : Text) ∈ keys ↔ r.size ≠ .null
  storedFields : ("stored_fields" : Text) ∈ keys ↔ p.storedFields ≠ []
  query : ("query" : Text) ∈ keys ↔ r.query ≠ none
  sort : ("sort" : Text) ∈ keys ↔ p.sort.points ≠ []
  highlighters : ("highlight" : Text) ∈ keys ↔ p.highlighters ≠ []
  aggregations : ("aggs" : Text) ∈ keys ↔ p.aggregations ≠ []

theorem Asks.keysOf (h : r.Asks library p) : KeysOf r p ((setFields p.sections).map (·.1)) := by
  have hnodup : (p.sections.map (·.1)).Nodup := Parts.sectionNames_nodup
  have hset {k : Text} {v : Option Json} (n : Nat) (hn : p.sections[n]? = some (k, v)) :
      k ∈ (setFields p.sections).map (·.1) ↔ v ≠ none := mem_setFields_keys hnodup (List.mem_of_getElem? hn)
  have hsaid {α : Type} (said : List α) (v : Json) : Parts.unlessEmpty said v ≠ none ↔ said ≠ [] := by
    cases said <;> simp [Parts.unlessEmpty]
  have hsize : Parts.unlessNull p.size ≠ none ↔ r.size ≠ .null := by
    rw [h.size]
    cases p.size <;> simp [Parts.unlessNull]
  have hquery : p.query ≠ none ↔ r.query ≠ none := by
    have := congrArg Option.isSome h.query
    rw [Option.isSome_map, Option.isSome_map] at this
    rw [← Option.isSome_iff_ne_none, ← Option.isSome_iff_ne_none, this]
  exact ⟨setFields_keys_sublist p.sections, (hset 0 rfl).trans hsize, (hset 1 rfl).trans (hsaid _ _),
    (hset 2 rfl).trans hquery, (hset 3 rfl).trans (hsaid _ _), (hset 4 rfl).trans (hsaid _ _),
    (hset 5 rfl).trans (hsaid _ _)⟩

/-- Where every number of a request can be spelled out, its body is built; the keys are in one order, each there just if
its part is set, and all the parts are read from the body again: it is the body of just the requests for these parts,
whatever their index. A number that cannot be spelled out is the failure that comes instead. A search with a query of an
unknown kind fails so, with nothing sent and nothing changed. -/
theorem body_reads_back (library : QueryLibrary) (r : SearchRequest) :
    (∀ p, r.Asks library p → p.Distinct →
      (p.Spellable → ∃ fields, r.body library = .ok (.obj fields) ∧ KeysOf r p (fields.map (·.1)) ∧
        Parts.ofBody (.obj fields) = p ∧ (∀ index, { r with index }.body library = r.body library) ∧
        ∀ r' p', Asks library r' p' → p'.Distinct → (r'.body library = r.body library ↔ p' = p)) ∧
      (¬p.Spellable → r.body library = .error (.misuse .overlongNumber))) ∧
    ∀ names q type c, r.storedFields = .arr names → r.query = some q →
      q.compile c.library = .error (.unsupportedQuery type) →
      (Client.search r).runOn c = (.error (.unsupportedQuery type), c) := by
  constructor
  · intro p h hdistinct
    refine ⟨fun hspellable => ?_, h.body_eq_error⟩
    have hbody := h.body_eq hspellable
    refine ⟨_, hbody, h.keysOf, hdistinct.ofBody_sections, fun index => rfl, ?_⟩
    intro r' p' h' hdistinct'
    constructor
    · intro heq
      have hassembled := h'.assemble_eq.symm.trans (body_eq_ok_iff.1 (heq.trans hbody)).1
      rw [← hdistinct'.ofBody_sections, Except.ok.inj hassembled, hdistinct.ofBody_sections]
    · rintro rfl
      rw [hbody, h'.body_eq hspellable]
  · intro names q type c hnames hquery hrefused
    exact search_refused (body_refused hnames hquery hrefused)

/-- A request with every part, none of its hits wanted. -/
def full : SearchRequest where
  index := .str "docs"
  size := .int 0
  storedFields := .arr [.str "file.name"]
  query := some (.bool [.range (.str "size") (.int 0) .null])
  sort := .str "created"
  highlighters := .arr [.str "title", .str "content"]
  aggregations := [⟨.str "types", .str "type"⟩, ⟨.str "kinds", .str "type"⟩]

def fullParts : Parts where
  size := .int 0
  storedFields := ["file.name"]
  query := some (.obj [("bool", .obj [("must", .arr [.obj [("range", .obj [("size", .obj [("gte", .int 0)])])]])])])
  sort := "created"
  highlighters := ["title", "content"]
  aggregations := [("types", "type"), ("kinds", "type")]

theorem full_asks : full.Asks .standard fullParts := ⟨rfl, rfl, rfl, .inl rfl, rfl, rfl⟩

theorem fullParts_distinct : fullParts.Distinct := ⟨by decide, by decide⟩

theorem full_reads_back : full.Asks .standard fullParts ∧ fullParts.Distinct ∧ fullParts.Spellable ∧
    (∃ fields, full.body = .ok (.obj fields) ∧ KeysOf full fullParts (fields.map (·.1)) ∧
      Parts.ofBody (.obj fields) = fullParts) ∧
    ∀ c, (Client.search { query := some (.foreign "Wildcard") }).runOn c = (.error (.unsupportedQuery "Wildcard"), c) := by
  have hspellable : fullParts.Spellable := ⟨by decide, by decide⟩
  obtain ⟨fields, hbody, hkeys, hparts, -⟩ :=
    ((body_reads_back .standard full).1 fullParts full_asks fullParts_distinct).1 hspellable
  exact ⟨full_asks, fullParts_distinct, hspellable, ⟨fields, hbody, hkeys, hparts⟩, fun c =>
    (body_reads_back .standard { query := some (.foreign "Wildcard") }).2 [] _ "Wildcard" c rfl rfl rfl⟩

/-- The first size that has too many digits to be spelled out. -/
def overlongSize : Json := .int (10 ^ 4300)

theorem overlong_asks : ({ full with size := overlongSize }).Asks .standard { fullParts with size := overlongSize } :=
  ⟨rfl, rfl, full_asks.query, .inl rfl, rfl, rfl⟩

theorem overlong_refused : ({ full with size := overlongSize }).body = .error (.misuse .overlongNumber) := by
  apply overlong_asks.body_eq_error
  intro h
  have hsize : overlongSize.isSpellable = false := by decide +kernel
  exact Bool.false_ne_true (hsize.symm.trans h.size)

/-- A size of more digits than a numeral may have is in no body; and stored fields that are no list are refused before a query
of an unknown kind is. -/
theorem body_not_built :
    ({ full with size := overlongSize }).Asks .standard { fullParts with size := overlongSize } ∧
    Parts.Distinct { fullParts with size := overlongSize } ∧
    ({ full with size := overlongSize }).body = .error (.misuse .overlongNumber) ∧
    (Query.foreign "Wildcard").compile = .error (.unsupportedQuery "Wildcard") ∧
    ∀ c, (Client.search { storedFields := .int 5, query := some (.foreign "Wildcard") }).runOn c =
      (.error (.misuse .wrongKind), c) :=
  ⟨overlong_asks, ⟨fullParts_distinct.highlighters, fullParts_distinct.aggregations⟩, overlong_refused, rfl, fun _ =>
    search_refused rfl⟩

end DocumentStore.SearchRequest
