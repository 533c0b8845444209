import DocumentStore.Proofs.Json.Extract
import DocumentStore.Proofs.Quantity
import DocumentStore.Search.Response
import Mathlib

/-! Hits in their place. A hit is read off the value at its place as it is read off this value by itself, and only the path
in a failure tells the difference. So the hits of an answer are what its first items are, one by one, and the items behind
them are never looked at. -/

namespace DocumentStore

namespace SearchHit

variable {document v : Json} {place : Text}

theorem readSource_within (h : document.At place v) : readSource document (place ++ "._source") =
    (readSource v ("$" ++ "._source")).mapError (Failure.within place) := by
  have hsource := Path.onward_member "._source" "_source" (by decide)
  refine except_bind_mapError (h.has hsource) fun found => ?_
  split
  · refine except_bind_mapError (h.extract hsource) fun text => ?_
    exact except_bind_mapError (h.read hsource (by decide)) fun fields => rfl
  · rfl

/-- The hit at a place is the hit that the value there is. A failure differs in the path that it complains about. -/
theorem read_within (h : document.At place v) :
    read document place = (read v "$").mapError (Failure.within place) := by
  refine except_bind_mapError (h.readText (Path.onward_member "._index" "_index" (by decide))) fun index => ?_
  refine except_bind_mapError (h.readText (Path.onward_member "._id" "_id" (by decide))) fun id => ?_
  refine except_bind_mapError (h.readInt (Path.onward_member "._version" "_version" (by decide))) fun version => ?_
  refine except_bind_mapError (readSource_within h) fun source => ?_
  refine except_bind_mapError
    (h.readOptional (Path.onward_member ".highlight" "highlight" (by decide)) _ (by decide)) fun highlights => ?_
  refine except_bind_mapError
    (h.readOptional (Path.onward_member ".fields" "fields" (by decide)) _ (by decide)) fun storedFields => ?_
  rfl

end SearchHit

namespace SearchResponse

/-! ### The places of an answer -/

theorem hits_open : Path.Open "$.hits.hits" [.name "hits", .name "hits"] :=
  (Path.open_root.append (Path.onward_member ".hits" "hits" (by decide))).append
    (Path.onward_member ".hits" "hits" (by decide))

theorem total_open : Path.Open "$.hits.total" [.name "hits", .name "total"] :=
  (Path.open_root.append (Path.onward_member ".hits" "hits" (by decide))).append
    (Path.onward_member ".total" "total" (by decide))

theorem totalValue_open : Path.Open "$.hits.total.value" [.name "hits", .name "total", .name "value"] :=
  total_open.append (Path.onward_member ".value" "value" (by decide))

theorem aggregations_open : Path.Open "$.aggregations" [.name "aggregations"] :=
  Path.open_root.append (Path.onward_member ".aggregations" "aggregations" (by decide))

theorem took_open : Path.Open "$.took" [.name "took"] :=
  Path.open_root.append (Path.onward_member ".took" "took" (by decide))

theorem hitPlace_open {i : Nat} (h : (Path.Step.index i).Writable) :
    Path.Open (hitPlace i) [.name "hits", .name "hits", .index i] := by
  have hplace : hitPlace i = "$.hits.hits" ++ ("[" ++ toString i ++ "]") := rfl
  rw [hplace]
  exact hits_open.append (Path.onward_index h)

/-! ### One hit after the other -/

theorem hitCount_int (size : Int) (n : Nat) : hitCount (.int size) n = .ok (min size n).toNat := by
  have hmin : ((Quantity.int size).min (.int n)).toInt? = some (min size n) := by
    unfold Quantity.min
    rw [Quantity.lt_int]
    split_ifs with h
    · rw [decide_eq_true_eq] at h
      exact congrArg some (by omega)
    · rw [decide_eq_true_eq] at h
      exact congrArg some (by omega)
  unfold hitCount
  simp only [Quantity.ofJson?, hmin]

/-- An answer is read as its hits, one after the other, and the rest of it, which a search for no hits gives too. -/
theorem read_eq {document : Json} {n : Nat} (h : document.length "$.hits.hits" = .ok n) (size : Int) :
    read document (.int size) = do
      let hits ← (List.range (min size n).toNat).mapM fun i => SearchHit.read document (hitPlace i)
      let r ← read document (.int 0)
      return { r with hits } := by
  have hnone : (min 0 (n : Int)).toNat = 0 := by omega
  unfold read
  rw [h]
  simp only [hitCount_int, hnone, List.range_zero, List.mapM_nil, bind, Except.bind, pure, Except.pure]
  cases (List.range (min size n).toNat).mapM fun i => SearchHit.read document (hitPlace i) with
  | error f => rfl
  | ok hits =>
    cases readTotal document with
    | error f => rfl
    | ok total =>
      cases readAggregations document with
      | error f => rfl
      | ok aggregations => cases document.readOptional "$.took" .null (.one .int) <;> rfl

/-- The items of an answer that are hits for a search of this size: so many of the first ones as there are. -/
def shown (size : Int) (items : List Json) : List Json := items.take (max 0 (min size items.length)).toNat

/-- Every hit that is decoded has a place that a path can name: its index has no more digits than a numeral may have. No
list that a machine can hold is longer. -/
def Addressable (document : Json) (size : Int) : Prop :=
  ∀ n, document.length "$.hits.hits" = .ok n → ∀ i : Nat, i < size → i < n → (Path.Step.index i).Writable

section items

variable {document : Json} {items : List Json} {size : Int}

theorem length_shown (size : Int) (items : List Json) : (shown size items).length = (min size items.length).toNat := by
  rw [shown, List.length_take]
  omega

theorem length_items (hitems : document.follow? [.name "hits", .name "hits"] = some (.arr items)) :
    document.length "$.hits.hits" = .ok items.length := by
  unfold Json.length Json.read
  rw [Json.resolve_eq hits_open.steps, hitems]
  rfl

/-- What is read as a hit in its place is what the item there is by itself. -/
theorem read_hitPlace (hitems : document.follow? [.name "hits", .name "hits"] = some (.arr items))
    (haddressable : Addressable document size) {i : Nat} (hi : i < (shown size items).length) :
    SearchHit.read document (hitPlace i) =
      (SearchHit.read ((shown size items).get ⟨i, hi⟩) "$").mapError (Failure.within (hitPlace i)) := by
  have hcount := length_shown size items
  have hplace := hitPlace_open (haddressable _ (length_items hitems) i (by omega) (by omega))
  apply SearchHit.read_within
  refine ⟨_, hplace, ?_⟩
  have hitem : items[i]? = some ((shown size items).get ⟨i, hi⟩) := by
    rw [List.get_eq_getElem, ← List.getElem?_eq_getElem hi, shown, List.getElem?_take_of_lt (by omega)]
  rw [show [Path.Step.name "hits", .name "hits", .index i] = [.name "hits", .name "hits"] ++ [.index i] from rfl,
    Json.follow?_append, hitems]
  simpa [Json.follow?, List.foldlM, Json.child?] using hitem

/-- An answer whose items are hits gives them, and whatever else a search for no hits gives. -/
theorem read_of_hits (hitems : document.follow? [.name "hits", .name "hits"] = some (.arr items))
    (haddressable : Addressable document size) {hits : List SearchHit}
    (h : List.Forall₂ (fun item hit => SearchHit.read item "$" = .ok hit) (shown size items) hits) :
    read document (.int size) = (read document (.int 0)).map fun r => { r with hits } := by
  obtain ⟨hlength, hall⟩ := List.forall₂_iff_get.1 h
  have hread : (List.range (min size items.length).toNat).mapM (fun i => SearchHit.read document (hitPlace i)) =
      .ok hits := by
    rw [except_mapM_eq_ok_iff, List.forall₂_iff_get]
    refine ⟨by rw [List.length_range, ← length_shown, hlength], ?_⟩
    intro i _ hi
    have hplace := read_hitPlace hitems haddressable (hlength ▸ hi)
    rw [hall i (hlength ▸ hi) hi] at hplace
    rw [List.get_eq_getElem, List.getElem_range, hplace]
    rfl
  rw [read_eq (length_items hitems), hread]
  cases read document (.int 0) <;> rfl

/-- The first item that is no hit decides why an answer cannot be read. -/
theorem read_of_malformed (hitems : document.follow? [.name "hits", .name "hits"] = some (.arr items))
    (haddressable : Addressable document size) {before behind : List Json} {item : Json} {f : Failure}
    (hshown : shown size items = before ++ item :: behind)
    (hbefore : ∀ x ∈ before, ∃ hit, SearchHit.read x "$" = .ok hit) (hitem : SearchHit.read item "$" = .error f) :
    read document (.int size) = .error (f.within (hitPlace before.length)) := by
  have hlength : (shown size items).length = before.length + (behind.length + 1) := by
    rw [hshown, List.length_append, List.length_cons]
  -- the indices are cut where the items are
  have hrange : List.range (min size items.length).toNat =
      List.range before.length ++ before.length :: (List.range behind.length).map (before.length + · + 1) := by
    rw [← length_shown, hlength, List.range_add, List.range_succ_eq_map, List.map_cons, List.map_map]
    rfl
  have hread : (List.range (min size items.length).toNat).mapM (fun i => SearchHit.read document (hitPlace i)) =
      .error (f.within (hitPlace before.length)) := by
    rw [hrange]
    apply except_mapM_error
    · intro i hi
      rw [List.mem_range] at hi
      have hplace := read_hitPlace hitems haddressable (i := i) (by omega)
      have hget : (shown size items).get ⟨i, by omega⟩ = before[i] := by
        simp only [List.get_eq_getElem, hshown, List.getElem_append_left hi]
      obtain ⟨hit, hhit⟩ := hbefore before[i] (List.getElem_mem hi)
      rw [hget, hhit] at hplace
      exact ⟨hit, hplace⟩
    · have hplace := read_hitPlace hitems haddressable (i := before.length) (by omega)
      have hget : (shown size items).get ⟨before.length, by omega⟩ = item := by
        simp [hshown]
      rw [hget, hitem] at hplace
      exact hplace
  rw [read_eq (length_items hitems), hread]
  rfl

/-- The hits of an answer are what its first items are, one by one. -/
theorem hits_of_read (hitems : document.follow? [.name "hits", .name "hits"] = some (.arr items))
    (haddressable : Addressable document size) {r : SearchResponse} (h : read document (.int size) = .ok r) :
    List.Forall₂ (fun item hit => SearchHit.read item "$" = .ok hit) (shown size items) r.hits := by
  rcases except_row_cases (SearchHit.read · "$") (shown size items) with
    ⟨hits, hhits⟩ | ⟨before, item, behind, f, hshown, hbefore, hitem⟩
  · rw [read_of_hits hitems haddressable hhits] at h
    cases hrest : read document (.int 0) with
    | error f => rw [hrest] at h; cases h
    | ok rest =>
      rw [hrest] at h
      cases h
      exact hhits
  · rw [read_of_malformed hitems haddressable hshown hbefore hitem] at h
    cases h

end items

/-- A search for fewer hits gives the first of those that a search for more gives. -/
theorem read_fewer {document : Json} {size size' : Int} (hsize : size ≤ size') {r' : SearchResponse}
    (h : read document (.int size') = .ok r') : ∃ r, read document (.int size) = .ok r ∧ r.hits <+: r'.hits := by
  obtain ⟨n, hn, -⟩ := except_bind_eq_ok h
  rw [read_eq hn] at h ⊢
  obtain ⟨hits', hhits', h⟩ := except_bind_eq_ok h
  obtain ⟨rest, hrest, h⟩ := except_bind_eq_ok h
  cases h
  have hhits : (List.range (min size n).toNat).mapM (fun i => SearchHit.read document (hitPlace i)) =
      .ok (hits'.take (min size n).toNat) := by
    rw [except_mapM_eq_ok_iff] at hhits' ⊢
    have htake := List.forall₂_take (min size n).toNat hhits'
    rwa [List.take_range, Nat.min_eq_left (by omega)] at htake
  refine ⟨{ rest with hits := hits'.take (min size n).toNat }, ?_, List.take_prefix _ _⟩
  rw [hhits, hrest]
  rfl

/-! ### What is around the hits -/

/-- The answers are the same, but for what their hits are. -/
structure SameAround (document document' : Json) : Prop where
  total : document.follow? [.name "hits", .name "total"] = document'.follow? [.name "hits", .name "total"]
  aggregations : document.follow? [.name "aggregations"] = document'.follow? [.name "aggregations"]
  took : document.follow? [.name "took"] = document'.follow? [.name "took"]

theorem SameAround.readTotal {document document' : Json} (h : SameAround document document') :
    readTotal document = readTotal document' := by
  have hvalue : document.follow? [.name "hits", .name "total", .name "value"] =
      document'.follow? [.name "hits", .name "total", .name "value"] := by
    rw [show [Path.Step.name "hits", .name "total", .name "value"] =
      [.name "hits", .name "total"] ++ [.name "value"] from rfl, Json.follow?_append, Json.follow?_append, h.total]
  unfold SearchResponse.readTotal Json.readInt Json.read
  simp only [Json.resolve_eq total_open.steps, Json.resolve_eq totalValue_open.steps, h.total, hvalue]

theorem SameAround.readAggregations {document document' : Json} (h : SameAround document document') :
    readAggregations document = readAggregations document' := by
  unfold SearchResponse.readAggregations
  rw [Json.readOptional_eq aggregations_open.steps, Json.readOptional_eq aggregations_open.steps, h.aggregations]

theorem SameAround.read {document document' : Json} (h : SameAround document document') {n n' : Nat}
    (hn : document.length "$.hits.hits" = .ok n) (hn' : document'.length "$.hits.hits" = .ok n') :
    read document (.int 0) = read document' (.int 0) := by
  have hnone (m : Nat) : (min 0 (m : Int)).toNat = 0 := by omega
  unfold SearchResponse.read
  rw [hn, hn', h.readTotal, h.readAggregations, Json.readOptional_eq took_open.steps, Json.readOptional_eq took_open.steps,
    h.took]
  simp only [hitCount_int, hnone, List.range_zero, List.mapM_nil, bind, Except.bind]

/-- The items behind the hits that are asked for are never noticed. -/
theorem read_unnoticed {document document' : Json} {items items' : List Json} {size : Int}
    (hitems : document.follow? [.name "hits", .name "hits"] = some (.arr items))
    (hitems' : document'.follow? [.name "hits", .name "hits"] = some (.arr items'))
    (haddressable : Addressable document size) (haddressable' : Addressable document' size)
    (haround : SameAround document document') (hshown : shown size items = shown size items') :
    read document (.int size) = read document' (.int size) := by
  rcases except_row_cases (SearchHit.read · "$") (shown size items) with
    ⟨hits, hhits⟩ | ⟨before, item, behind, f, hfirst, hbefore, hitem⟩
  · rw [read_of_hits hitems haddressable hhits, read_of_hits hitems' haddressable' (hshown ▸ hhits),
      haround.read (length_items hitems) (length_items hitems')]
  · rw [read_of_malformed hitems haddressable hfirst hbefore hitem,
      read_of_malformed hitems' haddressable' (hshown ▸ hfirst) hbefore hitem]

/-! ### Hits of an answer -/

theorem parse_eq {text : Text} {document : Json} (h : Document.parse (.text text) = .ok document) (size : Json) :
    parse text size = read document size := by
  unfold parse
  rw [h]
  rfl

/-- A hit is decoded at its place as it is decoded by itself; a failure has the place in front of its path and is the same
otherwise. So the hits of an answer whose hits are a list are what its first items are by themselves, one after the other
and as many as are asked for. The first of these that is no hit is the failure of the whole, items behind them are never
noticed, and a search for fewer hits gives the first of those that a search for more gives. -/
theorem hits_decoded_in_place :
    (∀ (document : Json) (place : Text) (v : Json), document.At place v →
      SearchHit.read document place = (SearchHit.read v "$").mapError (Failure.within place)) ∧
    (∀ (text : Text) (document size : Json), Document.parse (.text text) = .ok document →
      parse text size = read document size) ∧
    ∀ (document : Json) (items : List Json), document.follow? [.name "hits", .name "hits"] = some (.arr items) →
      ∀ size : Int, Addressable document size →
      (∀ r, read document (.int size) = .ok r →
        List.Forall₂ (fun item hit => SearchHit.read item "$" = .ok hit) (shown size items) r.hits) ∧
      (∀ hits, List.Forall₂ (fun item hit => SearchHit.read item "$" = .ok hit) (shown size items) hits →
        read document (.int size) = (read document (.int 0)).map fun r => { r with hits }) ∧
      (∀ before item behind f, shown size items = before ++ item :: behind →
        (∀ x ∈ before, ∃ hit, SearchHit.read x "$" = .ok hit) → SearchHit.read item "$" = .error f →
        read document (.int size) = .error (f.within (hitPlace before.length))) ∧
      (∀ (document' : Json) (items' : List Json),
        document'.follow? [.name "hits", .name "hits"] = some (.arr items') → Addressable document' size →
        SameAround document document' → shown size items = shown size items' →
        read document' (.int size) = read document (.int size)) ∧
      ∀ size' r', size ≤ size' → read document (.int size') = .ok r' →
        ∃ r, read document (.int size) = .ok r ∧ r.hits <+: r'.hits := by
  refine ⟨fun document place v h => SearchHit.read_within h, fun text document size h => parse_eq h size, ?_⟩
  intro document items hitems size haddressable
  refine ⟨fun r h => hits_of_read hitems haddressable h, fun hits h => read_of_hits hitems haddressable h, ?_, ?_, ?_⟩
  · intro before item behind f hshown hbefore hitem
    exact read_of_malformed hitems haddressable hshown hbefore hitem
  · intro document' items' hitems' haddressable' haround hshown
    exact (read_unnoticed hitems hitems' haddressable haddressable' haround hshown).symm
  · intro size' r' hsize h
    exact read_fewer hsize h

/-- An item that is a hit. -/
def goodItem : Json := .obj [("_index", .str "docs"), ("_id", .str "1"), ("_version", .int 1)]

/-- An answer with a hit, and with an item behind it that is none. -/
def halfGood : Json := .obj [("hits", .obj [("total", .int 2), ("hits", .arr [goodItem, .null])])]

def halfGoodText : String :=
  "\x7b\"hits\":\x7b\"total\":2,\"hits\":[\x7b\"_index\":\"docs\",\"_id\":\"1\",\"_version\":1\x7d,null]\x7d\x7d"

theorem parse_halfGoodText : Document.parse (.text halfGoodText) = .ok halfGood := by
  have hprint : (halfGoodText : Text) = halfGood.text := by decide +kernel
  rw [hprint]
  apply Json.Rereadable.parse_text
  simp +decide [halfGood, goodItem, Json.rereadable_obj, Json.rereadable_arr, Json.rereadable_str, Json.rereadable_int,
    Json.rereadable_null]

/-- A hit at a place that begins with a blank, and an answer whose second item is no hit: a search for one hit gives the
first, and a search for two fails at the second. -/
theorem hits_decoded_before_malformed :
    (halfGood.At " $['hits'].hits[0]" goodItem ∧ SearchHit.read halfGood " $['hits'].hits[0]" =
      (SearchHit.read goodItem "$").mapError (Failure.within " $['hits'].hits[0]")) ∧
    Document.parse (.text halfGoodText) = .ok halfGood ∧ Addressable halfGood 2 ∧
      (∃ hit, SearchHit.read goodItem "$" = .ok hit ∧
        parse halfGoodText (.int 1) = (parse halfGoodText (.int 0)).map fun r => { r with hits := [hit] }) ∧
      parse halfGoodText (.int 2) = .error (.read (.pathNotFound "$.hits.hits[1]._index")) := by
  obtain ⟨hplaced, hparse, hread⟩ := hits_decoded_in_place
  have hitems : halfGood.follow? [.name "hits", .name "hits"] = some (.arr [goodItem, .null]) := rfl
  have haddressable (size : Int) : Addressable halfGood size := by
    intro n hn i _ hi
    obtain rfl : 2 = n := Except.ok.inj ((length_items hitems).symm.trans hn)
    interval_cases i <;> decide
  have hgood : SearchHit.read goodItem "$" = .ok ⟨"docs", "1", 1, none, .obj [], .obj [], .obj []⟩ := by cbv
  have hbad : SearchHit.read .null "$" = .error (.read (.pathNotFound "$._index")) := by cbv
  have hat : halfGood.At " $['hits'].hits[0]" goodItem := by
    refine ⟨[.name "hits", .name "hits", .index 0], ⟨by cbv, ?_⟩, rfl⟩
    rintro c ⟨⟩
    decide
  refine ⟨⟨hat, hplaced _ _ _ hat⟩, parse_halfGoodText, haddressable 2, ⟨_, hgood, ?_⟩, ?_⟩
  · simp only [hparse _ _ _ parse_halfGoodText]
    exact (hread halfGood _ hitems 1 (haddressable 1)).2.1 _ (.cons hgood .nil)
  · rw [hparse _ _ _ parse_halfGoodText]
    have hsecond := (hread halfGood _ hitems 2 (haddressable 2)).2.2.1 [goodItem] .null [] _ rfl
      (by simpa using ⟨_, hgood⟩) hbad
    have hpath : Path.under (hitPlace 1) "$._index" = "$.hits.hits[1]._index" := by decide
    rw [hsecond, List.length_singleton, Failure.within, ReadFailure.within, hpath]

end SearchResponse

end DocumentStore
