import DocumentStore.Proofs.Search.Hits

/-! Why an answer to a search cannot be read. Its hits, their total and the time it took are read along paths, so what is
wrong with them is always a failure of reading; but the buckets of its aggregations are walked as if nothing else than
objects could be there. -/

namespace DocumentStore

namespace SearchHit

variable {document : Json} {path place : Text} {steps : List Path.Step} {f : Failure}

theorem readSource_error (hsteps : Json.stepsOf path = .ok steps) (h : readSource document path = .error f) :
    ∃ g, f = .read g := by
  unfold readSource at h
  rw [Json.has_eq hsteps] at h
  rcases except_bind_eq_error h with h | ⟨found, -, h⟩
  · split at h <;> cases h
  · split at h
    · rcases except_bind_eq_error h with h | ⟨text, -, h⟩
      · rcases except_bind_eq_error h with h | ⟨v, -, h⟩
        · exact Json.resolve_error hsteps h
        · cases h
      · rcases except_bind_eq_error h with h | ⟨fields, -, h⟩
        · exact Json.read_error hsteps (by decide) h
        · cases h
    · cases h

/-- What is wrong with a hit is a failure of reading. -/
theorem read_error (hplace : Path.Open place steps) (h : SearchHit.read document place = .error f) : ∃ g, f = .read g := by
  have hmember (suffix key : Text) (hkey : suffix.points = .char '.' :: key.points ∧ Path.standsBare key = true) :
      Json.stepsOf (place ++ suffix) = .ok (steps ++ [.name key]) :=
    (hplace.append (Path.onward_member suffix key hkey)).steps
  rcases except_bind_eq_error h with h | ⟨index, -, h⟩
  · exact Json.readText_error (hmember "._index" "_index" (by decide)) h
  rcases except_bind_eq_error h with h | ⟨id, -, h⟩
  · exact Json.readText_error (hmember "._id" "_id" (by decide)) h
  rcases except_bind_eq_error h with h | ⟨version, -, h⟩
  · exact Json.readInt_error (hmember "._version" "_version" (by decide)) h
  rcases except_bind_eq_error h with h | ⟨source, -, h⟩
  · exact readSource_error (hmember "._source" "_source" (by decide)) h
  rcases except_bind_eq_error h with h | ⟨highlights, -, h⟩
  · exact Json.readOptional_error (hmember ".highlight" "highlight" (by decide)) (by decide) h
  rcases except_bind_eq_error h with h | ⟨storedFields, -, h⟩
  · exact Json.readOptional_error (hmember ".fields" "fields" (by decide)) (by decide) h
  cases h

end SearchHit

namespace TermsBucket

/-! ### Walking buckets -/

/-- The value can be walked, and whatever it holds is an object. -/
def Walkable (v : Json) : Prop := ∃ xs, v.elements? = some xs ∧ ∀ x ∈ xs, ∃ fs, x = .obj fs

/-- The buckets of an aggregation, if it has some, are objects. -/
def Bucketed (v : Json) : Prop := ∀ b, v.field? "buckets" = some b → Walkable b

/-- What comes of walking a value that is something else: it cannot be walked, or what it holds has no members. -/
def Slip (f : Failure) : Prop := f = .misuse .wrongKind ∨ f = .misuse .noMember

theorem read_ok {v : Json} {b : TermsBucket} (h : read v = .ok b) : ∃ fs, v = .obj fs := by
  cases v with
  | obj fs => exact ⟨fs, rfl⟩
  | _ => cases h

theorem read_error {v : Json} {f : Failure} (h : read v = .error f) : (¬∃ fs, v = .obj fs) ∧ Slip f := by
  cases v <;> cases h <;> exact ⟨nofun, .inr rfl⟩

theorem readAll_cases (v : Json) :
    (Walkable v ∧ ∃ bs, readAll v = .ok bs) ∨ (¬Walkable v ∧ ∃ f, readAll v = .error f ∧ Slip f) := by
  unfold readAll Walkable
  cases v.elements? with
  | none => exact .inr ⟨by simp, _, rfl, .inl rfl⟩
  | some xs =>
    rcases except_row_cases read xs with ⟨bs, hbs⟩ | ⟨before, x, behind, f, rfl, hbefore, hx⟩
    · refine .inl ⟨⟨xs, rfl, ?_⟩, bs, except_mapM_eq_ok_iff.2 hbs⟩
      intro x hx
      obtain ⟨b, hb⟩ := except_row_ok hbs x hx
      exact read_ok hb
    · obtain ⟨hobject, hslip⟩ := read_error hx
      refine .inr ⟨?_, f, except_mapM_error hbefore hx behind, hslip⟩
      rintro ⟨ys, hys, hall⟩
      cases hys
      exact hobject (hall x (List.mem_append_right _ List.mem_cons_self))

/-- Either the buckets of all aggregations are objects and are read, or walking them slips. -/
theorem readAggregations_cases (fs : List (Text × Json)) :
    ((∀ a ∈ fs, Bucketed a.2) ∧ ∃ r, readAggregations fs = .ok r) ∨
      ((∃ a ∈ fs, ¬Bucketed a.2) ∧ ∃ f, readAggregations fs = .error f ∧ Slip f) := by
  induction fs with
  | nil => exact .inl ⟨by simp, [], rfl⟩
  | cons a fs ih =>
    obtain ⟨name, v⟩ := a
    rw [List.forall_mem_cons, List.exists_mem_cons_iff, readAggregations]
    cases hbuckets : v.field? "buckets" with
    | none =>
      have hv : Bucketed v := fun b hb => by rw [hbuckets] at hb; cases hb
      exact ih.imp (fun h => ⟨⟨hv, h.1⟩, h.2⟩) fun h => ⟨.inr h.1, h.2⟩
    | some b =>
      have hv : Bucketed v ↔ Walkable b :=
        ⟨fun h => h b hbuckets, fun h b' hb' => Option.some.inj (hbuckets.symm.trans hb') ▸ h⟩
      rw [hv]
      dsimp only
      rcases readAll_cases b with ⟨hwalk, bs, hbs⟩ | ⟨hwalk, f, hf, hslip⟩
      · rcases ih with ⟨hall, r, hr⟩ | ⟨hsome, f, hf, hslip⟩
        · exact .inl ⟨⟨hwalk, hall⟩, (name, bs) :: r, by rw [hbs, hr]; rfl⟩
        · exact .inr ⟨.inr hsome, f, by rw [hbs, hf]; rfl, hslip⟩
      · exact .inr ⟨.inl hwalk, f, by rw [hf]; rfl, hslip⟩

end TermsBucket

namespace SearchResponse

/-- Everything in front of the aggregations is read: the hits that are asked for, and how many there are. -/
structure Opened (document : Json) (size : Int) : Prop where
  hits : ∃ n, document.length "$.hits.hits" = .ok n ∧
    ∀ i < (min size n).toNat, ∃ hit, SearchHit.read document (hitPlace i) = .ok hit
  total : ∃ n, readTotal document = .ok n

/-- The answer is read up to its aggregations, and one of these has buckets that are no objects. -/
def Misshapen (document : Json) (size : Int) : Prop :=
  Opened document size ∧ ∃ fs, document.follow? [.name "aggregations"] = some (.obj fs) ∧
    ∃ a ∈ fs, ¬TermsBucket.Bucketed a.2

theorem readTotal_error {document : Json} {f : Failure} (h : readTotal document = .error f) : ∃ g, f = .read g := by
  rcases except_bind_eq_error h with h | ⟨v, -, h⟩
  · exact Json.read_error total_open.steps (by decide) h
  · split at h
    · cases h
    · exact Json.readInt_error totalValue_open.steps h

theorem readAggregations_cases (document : Json) :
    (∃ fs, document.follow? [.name "aggregations"] = some (.obj fs) ∧
      readAggregations document = TermsBucket.readAggregations fs) ∨
    (¬∃ fs, document.follow? [.name "aggregations"] = some (.obj fs)) ∧
      ((∃ r, readAggregations document = .ok r) ∨ ∃ g, readAggregations document = .error (.read g)) := by
  unfold readAggregations
  rw [Json.readOptional_eq aggregations_open.steps]
  cases document.follow? [.name "aggregations"] with
  | none => exact .inr ⟨nofun, .inl ⟨[], rfl⟩⟩
  | some v =>
    cases v with
    | obj fs => exact .inl ⟨fs, rfl, rfl⟩
    | null => exact .inr ⟨nofun, .inl ⟨[], rfl⟩⟩
    | _ => exact .inr ⟨nofun, .inr ⟨_, rfl⟩⟩

section

variable {document : Json} {size : Int}

/-- Whatever stands in front of the aggregations and cannot be read is a failure of reading. -/
theorem opened_or_error (haddressable : Addressable document size) :
    Opened document size ∨ ∃ g, read document (.int size) = .error (.read g) := by
  unfold read
  cases hfound : document.length "$.hits.hits" with
  | error f =>
    obtain ⟨g, rfl⟩ := Json.length_error hits_open.steps hfound
    exact .inr ⟨g, rfl⟩
  | ok n =>
    simp only [hitCount_int, bind, Except.bind]
    rcases except_row_cases (fun i => SearchHit.read document (hitPlace i)) (List.range (min size n).toNat) with
      ⟨hits, hhits⟩ | ⟨before, i, behind, f, hrange, hbefore, hi⟩
    · rw [except_mapM_eq_ok_iff.2 hhits]
      cases htotal : readTotal document with
      | error f =>
        obtain ⟨g, rfl⟩ := readTotal_error htotal
        exact .inr ⟨g, rfl⟩
      | ok total =>
        refine .inl ⟨⟨n, hfound, ?_⟩, total, htotal⟩
        intro i hi
        exact except_row_ok hhits i (List.mem_range.2 hi)
    · have hmem : i < (min size n).toNat := List.mem_range.1 (hrange ▸ List.mem_append_right _ List.mem_cons_self)
      have hplace := hitPlace_open (haddressable n hfound i (by omega) (by omega))
      obtain ⟨g, rfl⟩ := SearchHit.read_error hplace hi
      rw [hrange, except_mapM_error hbefore hi behind]
      exact .inr ⟨g, rfl⟩

/-- What is left to read when the answer is read up to its aggregations. -/
theorem Opened.read (h : Opened document size) : ∃ hits totalHits, SearchResponse.read document (.int size) = do
    let aggregations ← readAggregations document
    let tookMillis ← document.readOptional "$.took" .null (.one .int)
    return { totalHits, hits, aggregations, tookMillis } := by
  obtain ⟨n, hn, hall⟩ := h.hits
  obtain ⟨total, htotal⟩ := h.total
  unfold SearchResponse.read
  rw [hn, htotal]
  simp only [hitCount_int, bind, Except.bind]
  rcases except_row_cases (fun i => SearchHit.read document (hitPlace i)) (List.range (min size n).toNat) with
    ⟨hits, hhits⟩ | ⟨before, i, behind, f, hrange, hbefore, hi⟩
  · rw [except_mapM_eq_ok_iff.2 hhits]
    exact ⟨hits, total, rfl⟩
  · obtain ⟨hit, hhit⟩ := hall i (List.mem_range.1 (hrange ▸ List.mem_append_right _ List.mem_cons_self))
    rw [hhit] at hi
    cases hi

/-- An answer that is not misshapen is read, or cannot be read for a reason that its reader names. -/
theorem read_of_not_misshapen (haddressable : Addressable document size) (h : ¬Misshapen document size) :
    (∃ r, read document (.int size) = .ok r) ∨ ∃ g, read document (.int size) = .error (.read g) := by
  rcases opened_or_error haddressable with hopened | herror
  · obtain ⟨hits, total, hread⟩ := hopened.read
    -- without aggregations that are an object there is nothing to walk
    have haggregations : (∃ r, readAggregations document = .ok r) ∨ ∃ g, readAggregations document = .error (.read g) := by
      rcases readAggregations_cases document with ⟨fs, hfs, hread⟩ | ⟨-, hread⟩
      · rcases TermsBucket.readAggregations_cases fs with ⟨-, r, hr⟩ | ⟨hsome, -⟩
        · exact .inl ⟨r, hread.trans hr⟩
        · exact absurd ⟨hopened, fs, hfs, hsome⟩ h
      · exact hread
    rw [hread]
    rcases haggregations with ⟨r, hr⟩ | ⟨g, hg⟩
    · rw [hr]
      cases htook : document.readOptional "$.took" .null (.one .int) with
      | ok took => exact .inl ⟨_, rfl⟩
      | error f =>
        obtain ⟨g, rfl⟩ := Json.readOptional_error took_open.steps (by decide) htook
        exact .inr ⟨g, rfl⟩
    · exact .inr ⟨g, by rw [hg]; rfl⟩
  · exact .inr herror

/-- A misshapen answer is walked as far as its buckets, and reading it slips. -/
theorem Misshapen.read (h : Misshapen document size) :
    ∃ f, SearchResponse.read document (.int size) = .error f ∧ TermsBucket.Slip f := by
  obtain ⟨hopened, fs, hfs, a, ha, hbuckets⟩ := h
  obtain ⟨hits, total, hread⟩ := hopened.read
  rcases TermsBucket.readAggregations_cases fs with ⟨hall, -⟩ | ⟨-, f, hf, hslip⟩
  · exact absurd (hall a ha) hbuckets
  · rcases readAggregations_cases document with ⟨fs', hfs', haggregations⟩ | ⟨hnone, -⟩
    · obtain rfl : fs = fs' := by
        rw [hfs] at hfs'
        cases hfs'
        rfl
      exact ⟨f, by rw [hread, haggregations, hf]; rfl, hslip⟩
    · exact absurd ⟨fs, hfs⟩ hnone

end

/-- Decoding the answer to a search succeeds or fails for a reason that the decoder names, unless the answer is read up to
its aggregations and one of these has buckets that are no objects: then, and only then, decoding it slips. -/
theorem parse_settles_iff (text : Text) (size : Int)
    (haddressable : ∀ document, Document.parse (.text text) = .ok document → Addressable document size) :
    (((∃ r, parse text (.int size) = .ok r) ∨ ∃ g, parse text (.int size) = .error (.read g)) ↔
      ∀ document, Document.parse (.text text) = .ok document → ¬Misshapen document size) ∧
    ∀ document, Document.parse (.text text) = .ok document → Misshapen document size →
      ∃ f, parse text (.int size) = .error f ∧ TermsBucket.Slip f := by
  cases hdocument : Document.parse (.text text) with
  | error f =>
    obtain ⟨g, rfl⟩ := Document.parse_error hdocument
    have hparse : parse text (.int size) = .error (.read g) := by
      unfold parse
      rw [hdocument]
      rfl
    exact ⟨iff_of_true (.inr ⟨g, hparse⟩) nofun, nofun⟩
  | ok document =>
    rw [parse_eq hdocument]
    have hslips (d : Json) (hd : (Except.ok document : Except Failure Json) = .ok d) (h : Misshapen d size) :
        ∃ f, read document (.int size) = .error f ∧ TermsBucket.Slip f := by
      cases hd
      exact h.read
    refine ⟨⟨?_, fun h => read_of_not_misshapen (haddressable document hdocument) (h document rfl)⟩, hslips⟩
    intro h d hd hmisshapen
    obtain ⟨f, hf, hslip⟩ := hslips d hd hmisshapen
    rw [hf] at h
    rcases h with ⟨r, hr⟩ | ⟨g, hg⟩
    · cases hr
    · cases hg
      rcases hslip with hslip | hslip <;> cases hslip

/-- An answer without hits, with this value for its aggregations. -/
def aggregated (aggregations : Json) : Json :=
  .obj [("hits", .obj [("total", .int 0), ("hits", .arr [])]), ("aggregations", aggregations)]

/-- An aggregation with a bucket, one whose buckets are an empty text, and one that has none. -/
def bucketed : Json :=
  aggregated (.obj [("a", .obj [("buckets", .arr [.obj [("key", .int 1)]])]), ("b", .obj [("buckets", .str "")]),
    ("c", .int 7)])

/-- An aggregation whose buckets are null. -/
def unbucketed : Json := aggregated (.obj [("a", .obj [("buckets", .null)])])

def bucketedText : String := "\x7b\"hits\":\x7b\"total\":0,\"hits\":[]\x7d,\"aggregations\":" ++
  "\x7b\"a\":\x7b\"buckets\":[\x7b\"key\":1\x7d]\x7d,\"b\":\x7b\"buckets\":\"\"\x7d,\"c\":7\x7d\x7d"

def unbucketedText : String :=
  "\x7b\"hits\":\x7b\"total\":0,\"hits\":[]\x7d,\"aggregations\":\x7b\"a\":\x7b\"buckets\":null\x7d\x7d\x7d"

theorem parse_bucketedText : Document.parse (.text bucketedText) = .ok bucketed := by
  have hprint : (bucketedText : Text) = bucketed.text := by decide +kernel
  rw [hprint]
  apply Json.Rereadable.parse_text
  simp +decide [bucketed, aggregated, Json.rereadable_obj, Json.rereadable_arr, Json.rereadable_str, Json.rereadable_int]

theorem parse_unbucketedText : Document.parse (.text unbucketedText) = .ok unbucketed := by
  have hprint : (unbucketedText : Text) = unbucketed.text := by decide +kernel
  rw [hprint]
  apply Json.Rereadable.parse_text
  simp +decide [unbucketed, aggregated, Json.rereadable_obj, Json.rereadable_arr, Json.rereadable_int, Json.rereadable_null]

theorem aggregated_length (aggregations : Json) : (aggregated aggregations).length "$.hits.hits" = .ok 0 :=
  @length_items (aggregated aggregations) [] rfl

theorem aggregated_addressable (aggregations : Json) (size : Int) : Addressable (aggregated aggregations) size := by
  intro n hn i _ hi
  obtain rfl : 0 = n := Except.ok.inj ((aggregated_length aggregations).symm.trans hn)
  omega

/-- An answer whose buckets are objects, or that has none, is not misshapen, and decoding it settles; one whose buckets are
null slips. -/
theorem parse_settles_for_bucketed :
    ((∀ document, Document.parse (.text bucketedText) = .ok document → Addressable document 10) ∧
      ((∃ r, parse bucketedText (.int 10) = .ok r) ∨ ∃ g, parse bucketedText (.int 10) = .error (.read g))) ∧
    (∀ document, Document.parse (.text unbucketedText) = .ok document → Addressable document 10) ∧
      ∃ f, parse unbucketedText (.int 10) = .error f ∧ TermsBucket.Slip f := by
  have hgood : ∀ document, Document.parse (.text bucketedText) = .ok document → Addressable document 10 := by
    intro document h
    rw [parse_bucketedText] at h
    cases h
    exact aggregated_addressable _ 10
  have hbad : ∀ document, Document.parse (.text unbucketedText) = .ok document → Addressable document 10 := by
    intro document h
    rw [parse_unbucketedText] at h
    cases h
    exact aggregated_addressable _ 10
  refine ⟨⟨hgood, (parse_settles_iff bucketedText 10 hgood).1.2 ?_⟩, hbad,
    (parse_settles_iff unbucketedText 10 hbad).2 unbucketed parse_unbucketedText ?_⟩
  · intro document h
    rw [parse_bucketedText] at h
    cases h
    rintro ⟨-, fs, hfs, a, ha, hbuckets⟩
    cases hfs
    apply hbuckets
    simp only [List.mem_cons, List.not_mem_nil, or_false] at ha
    rcases ha with rfl | rfl | rfl <;> intro b hb
    · obtain rfl : Json.arr [.obj [("key", .int 1)]] = b := Option.some.inj hb
      exact ⟨_, rfl, by simp⟩
    · obtain rfl : Json.str "" = b := Option.some.inj hb
      exact ⟨_, rfl, by simp [Text.ofString, Text.ofChars]⟩
    · cases hb
  · refine ⟨⟨⟨0, aggregated_length _, by simp⟩, 0, by cbv⟩, _, rfl, _, List.mem_cons_self, fun h => ?_⟩
    obtain ⟨xs, hxs, -⟩ := h .null rfl
    cases hxs

/-- Buckets that are null fail with what no decoder names. -/
theorem unbucketed_slips : ¬∀ (text : Text) (size : Int),
    (∃ r, parse text (.int size) = .ok r) ∨ ∃ g, parse text (.int size) = .error (.read g) := by
  intro h
  have hslips : read unbucketed (.int 10) = .error (.misuse .wrongKind) := by cbv
  rcases h unbucketedText 10 with ⟨r, hr⟩ | ⟨g, hg⟩
  · rw [parse_eq parse_unbucketedText, hslips] at hr
    cases hr
  · rw [parse_eq parse_unbucketedText, hslips] at hg
    cases hg

end SearchResponse

end DocumentStore
