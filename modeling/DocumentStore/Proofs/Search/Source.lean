import DocumentStore.Proofs.Bulk.Framing
import DocumentStore.Proofs.Json.Extract
import DocumentStore.Search.Response
import Mathlib

/-! The text of a value that was read. It is one line, it is read as this value again, and where it is the source of a hit it
can be the document of an operation as it stands. -/

namespace DocumentStore

namespace SearchHit

theorem convert_object {path : Text} {v x : Json} (h : Json.convert path (.one .object) v = .ok x) : v = x := by
  unfold Json.convert at h
  split at h
  · contradiction
  · split_ifs at h
    exact Except.ok.inj h

theorem source_of_readSource {document fields : Json} {path : Text} {t : Text}
    (h : readSource document path = .ok (some t, fields)) : document.resolve path = .ok fields ∧ t = fields.text := by
  obtain ⟨found, -, h⟩ := except_bind_eq_ok h
  split at h
  · obtain ⟨text, htext, h⟩ := except_bind_eq_ok h
    obtain ⟨v, hv, h⟩ := except_bind_eq_ok h
    cases h
    obtain ⟨x, hx, htext⟩ := except_bind_eq_ok htext
    obtain ⟨y, hy, hv⟩ := except_bind_eq_ok hv
    cases htext
    obtain rfl := convert_object hv
    obtain rfl : x = y := Except.ok.inj (hx.symm.trans hy)
    exact ⟨hx, rfl⟩
  · cases h

/-- The source of a hit is the text of its fields, and both are read off one value. -/
theorem source_of_read {document : Json} {place : Text} {hit : SearchHit} {t : Text}
    (h : SearchHit.read document place = .ok hit) (ht : hit.source = some t) :
    document.resolve (place ++ "._source") = .ok hit.sourceFields ∧ t = hit.sourceFields.text := by
  obtain ⟨index, -, h⟩ := except_bind_eq_ok h
  obtain ⟨id, -, h⟩ := except_bind_eq_ok h
  obtain ⟨version, -, h⟩ := except_bind_eq_ok h
  obtain ⟨⟨source, fields⟩, hsource, h⟩ := except_bind_eq_ok h
  obtain ⟨highlights, -, h⟩ := except_bind_eq_ok h
  obtain ⟨storedFields, -, h⟩ := except_bind_eq_ok h
  cases h
  obtain rfl : source = some t := ht
  exact source_of_readSource hsource

/-- In a document whose numbers are whole, the text of the value at a path has no control characters and is read as this
value again, its keys in their order. So the source of a hit is read as the fields of the hit, and an operation that has it
for a document writes it into the body as it stands, one line between the lines of the others. -/
theorem extracted_text_rereadable {s : Source} {document : Json} (hparse : Document.parse s = .ok document)
    (hint : document.IntegersOnly) :
    (∀ path v, document.read path .any = .ok v → ∃ t, document.extract path = .ok t ∧
      (∀ p ∈ t.points, 0x20 ≤ p.toNat) ∧ Document.parse (.text t) = .ok v) ∧
    ∀ place hit t, SearchHit.read document place = .ok hit → hit.source = some t →
      Document.parse (.text t) = .ok hit.sourceFields ∧
      (t.points ≠ [] ∧ Text.lines? (⟨t.points ++ [.char '\n']⟩ : Text).utf8 = some [t.utf8]) ∧
      ∀ (op : Bulk.Operation) pipeline before behind front back, op.action = .index (.str t) pipeline →
        Bulk.ndjson before = .ok front → Bulk.ndjson behind = .ok back → Bulk.ndjson (before ++ op :: behind) =
          .ok ⟨front.points ++ Bulk.linePoints op.header ++ (t.points ++ [.char '\n']) ++ back.points⟩ := by
  have hdocument := Document.parse_rereadable hparse hint
  constructor
  · intro path v hv
    obtain ⟨x, hx, hv⟩ := except_bind_eq_ok hv
    obtain rfl : x = v := by simpa [Json.convert, Json.Expectation.admits] using hv
    refine ⟨x.text, ?_, x.print_visible, (hdocument.resolve hx).parse_text⟩
    rw [Json.extract, hx]
    rfl
  · intro place hit t hhit ht
    obtain ⟨hfields, rfl⟩ := source_of_read hhit ht
    have hnewline := hit.sourceFields.newline_notMem_print
    refine ⟨(hdocument.resolve hfields).parse_text, ⟨hit.sourceFields.print_ne_nil, Text.lines?_utf8 hnewline⟩, ?_⟩
    intro op pipeline before behind front back haction hbefore hbehind
    exact Bulk.ndjson_text haction hnewline hbefore hbehind

/-- A source with a line break in a text, a list, and a number with a sign. -/
def note : Json := .obj [("title", .str "a\nb"), ("pages", .arr [.int (-3), .null])]

def noted : Json := .obj [("_index", .str "docs"), ("_id", .str "1"), ("_version", .int 1), ("_source", note)]

def dropped : Bulk.Operation := ⟨.str "docs", .str "0", .delete⟩

/-- The source of the note as the document of an operation. -/
def copied : Bulk.Operation := ⟨.str "docs", .str "2", .index (.str note.text) .null⟩

theorem noted_rereadable : noted.Rereadable := by
  simp +decide [noted, note, Json.rereadable_obj, Json.rereadable_arr, Json.rereadable_str, Json.rereadable_int,
    Json.rereadable_null]

/-- The title of a note is extracted with its break escaped and read again; and the source of the note is read as the note,
and copied as it stands behind the line of a deletion. -/
theorem extracted_text_rereadable_note :
    Document.parse (.text noted.text) = .ok noted ∧ noted.IntegersOnly ∧
      (noted.read "$._source.title" .any = .ok (.str "a\nb") ∧ ∃ t, noted.extract "$._source.title" = .ok t ∧
        (∀ p ∈ t.points, 0x20 ≤ p.toNat) ∧ Document.parse (.text t) = .ok (.str "a\nb")) ∧
      ∃ hit, SearchHit.read noted "$" = .ok hit ∧ hit.source = some note.text ∧
        Document.parse (.text note.text) = .ok hit.sourceFields ∧
        ∃ front, Bulk.ndjson [dropped] = .ok front ∧ Bulk.ndjson [dropped, copied] =
          .ok ⟨front.points ++ Bulk.linePoints copied.header ++ (note.text.points ++ [.char '\n']) ++ []⟩ := by
  have hparse := noted_rereadable.parse_text
  obtain ⟨htexts, hhits⟩ := extracted_text_rereadable hparse noted_rereadable.integers
  have htitle : noted.read "$._source.title" .any = .ok (.str "a\nb") := by cbv
  have hhit : SearchHit.read noted "$" = .ok ⟨"docs", "1", 1, some note.text, note, .obj [], .obj []⟩ := by cbv
  obtain ⟨hsource, -, hline⟩ := hhits "$" _ note.text hhit rfl
  refine ⟨hparse, noted_rereadable.integers, ⟨htitle, htexts _ _ htitle⟩, _, hhit, rfl, hsource, _, rfl, ?_⟩
  exact hline copied .null [dropped] [] _ ⟨[]⟩ rfl rfl rfl

end SearchHit

end DocumentStore
