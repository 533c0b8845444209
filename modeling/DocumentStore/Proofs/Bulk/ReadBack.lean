import DocumentStore.Proofs.Bulk.Framing

/-! Reading a body back. A reader that takes the body line by line, an action first and behind an index action a document,
finds the operations that were written, in their order. -/

namespace DocumentStore.Bulk

open Text (lines?)

/-! ### The reader -/

/-- The document on a line. A line has no more digits than code points, so no numeral is too long. -/
def readLine (line : List UInt8) : Option Json := do
  let ps ← (Text.decodeFrom .utf8 0 line).toOption
  (Json.readPoints ps.length ps).toOption

/-- What the line of an action says. -/
structure Header where
  verb : Verb
  index : Text
  id : Option Text
  pipeline : Option Text

def verb? (t : Text) : Option Verb := [Verb.index, Verb.delete].find? fun v => Text.ofString v.name = t

/-- A field that has to be a text if it is there. -/
def textField? (fields : List (Text × Json)) (k : Text) : Option (Option Text) :=
  match Json.lookupField fields k with
  | none => some none
  | some (.str t) => some (some t)
  | some _ => none

def readHeader : Json → Option Header
  | .obj [(name, .obj fields)] => do
    let verb ← verb? name
    let index ← (← textField? fields "_index")
    let id ← textField? fields "_id"
    let pipeline ← textField? fields "pipeline"
    return ⟨verb, index, id, pipeline⟩
  | _ => none

/-- An operation as it is read: its action, and the line behind it if it is an index action. -/
structure Entry where
  header : Header
  document : Option (List UInt8)

def readEntries : List (List UInt8) → Option (List Entry)
  | [] => some []
  | line :: rest =>
    match readLine line >>= readHeader with
    | none => none
    | some header =>
      match header.verb with
      | .delete => (readEntries rest).map (⟨header, none⟩ :: ·)
      | .index =>
        match rest with
        | [] => none
        | document :: rest => (readEntries rest).map (⟨header, some document⟩ :: ·)

def readBatch (body : List UInt8) : Option (List Entry) := lines? body >>= readEntries

/-! ### Operations that can be read back -/

/-- A text that may be left out. -/
def optional : Option Text → Json
  | none => .null
  | some t => .str t

/-- A document that a line can hold: an object of whole numbers, a text without line breaks that is not empty, or a text
with line breaks that is read as such an object. -/
inductive Storable : Json → Prop
  | object {fs : List (Text × Json)} (hint : (Json.obj fs).IntegersOnly) (hkeys : (Json.obj fs).DistinctKeys) :
      Storable (.obj fs)
  | line {t : Text} (hne : t.points ≠ []) (hfree : .char '\n' ∉ t.points) : Storable (.str t)
  | lines {t : Text} {fs : List (Text × Json)} (hbreak : .char '\n' ∈ t.points) (hparse : Json.parse t = .ok (.obj fs))
      (hint : (Json.obj fs).IntegersOnly) : Storable (.str t)

/-- Whatever names the operation is a text, and its document is one that a line can hold. -/
structure Operation.Plain (op : Operation) : Prop where
  index : ∃ t, op.index = .str t
  id : ∃ t, op.id = optional t
  action : ∀ body pipeline, op.action = .index body pipeline → Storable body ∧ ∃ t, pipeline = optional t

/-- The line has the document: a text without line breaks byte for byte, any other document as a value. -/
inductive Holds : List UInt8 → Json → Prop
  | verbatim {t : Text} (hfree : .char '\n' ∉ t.points) : Holds t.utf8 (.str t)
  | reread {line : List UInt8} {t : Text} {v : Json} (hbreak : .char '\n' ∈ t.points) (hparse : Json.parse t = .ok v)
      (hline : readLine line = some v) : Holds line (.str t)
  | object {line : List UInt8} {fs : List (Text × Json)} (hline : readLine line = some (.obj fs)) : Holds line (.obj fs)

/-- The pipeline of an action. One that is empty is none. -/
def Action.pipeline : Action → Json
  | .index _ pipeline => if pipeline.truthy then pipeline else .null
  | .delete => .null

/-- The action of the operation, as it is read. -/
structure Header.Records (hd : Header) (op : Operation) : Prop where
  verb : hd.verb = op.verb
  index : .str hd.index = op.index
  id : optional hd.id = op.id
  pipeline : optional hd.pipeline = op.action.pipeline

/-- What was read is the operation, with its document if it has one. -/
structure Entry.Records (e : Entry) (op : Operation) : Prop where
  header : e.header.Records op
  document : match op.action with
    | .index body _ => ∃ line, e.document = some line ∧ Holds line body
    | .delete => e.document = none

/-! ### Reading an action -/

theorem readLine_text {v : Json} (hint : v.IntegersOnly) (hkeys : v.DistinctKeys) : readLine v.text.utf8 = some v := by
  have hread := Json.readPoints_print hint hkeys (v.numeralsWithin_of_length (Nat.le_refl _)) (.inl rfl)
  rw [List.append_nil] at hread
  simp [readLine, Text.decodeFrom_utf8, Json.text, hread, Except.toOption]

theorem verb?_name (v : Verb) : verb? v.name = some v := by
  cases v <;> decide

def optionalField (k : Text) : Option Text → List (Text × Json)
  | none => []
  | some t => [(k, .str t)]

/-- The fields of an action. -/
def actionFields (index : Text) (id pipeline : Option Text) : List (Text × Json) :=
  (("_index" : Text), .str index) :: optionalField "_id" id ++ optionalField "pipeline" pipeline

theorem textField?_actionFields (index : Text) (id pipeline : Option Text) :
    textField? (actionFields index id pipeline) "_index" = some (some index) ∧
      textField? (actionFields index id pipeline) "_id" = some id ∧
      textField? (actionFields index id pipeline) "pipeline" = some pipeline := by
  cases id <;> cases pipeline <;> exact ⟨rfl, rfl, rfl⟩

theorem readHeader_actionFields (v : Verb) (index : Text) (id pipeline : Option Text) :
    readHeader (.obj [(v.name, .obj (actionFields index id pipeline))]) = some ⟨v, index, id, pipeline⟩ := by
  obtain ⟨hindex, hid, hpipeline⟩ := textField?_actionFields index id pipeline
  simp [readHeader, verb?_name, hindex, hid, hpipeline]

theorem actionFields_whole (v : Verb) (index : Text) (id pipeline : Option Text) :
    (Json.obj [(v.name, .obj (actionFields index id pipeline))]).IntegersOnly := by
  cases id <;> cases pipeline <;>
    simp [actionFields, optionalField, Json.IntegersOnly, Json.IntegersOnlyFields]

theorem actionFields_distinct (v : Verb) (index : Text) (id pipeline : Option Text) :
    (Json.obj [(v.name, .obj (actionFields index id pipeline))]).DistinctKeys := by
  have hall : ([("_index" : Text), "_id", "pipeline"]).Nodup := by decide
  have hkeys : ((actionFields index id pipeline).map (·.1)).Nodup := by
    refine hall.sublist ?_
    cases id <;> cases pipeline <;> simp [actionFields, optionalField]
  have hvalues : Json.DistinctKeysFields (actionFields index id pipeline) := by
    cases id <;> cases pipeline <;> simp [actionFields, optionalField, Json.DistinctKeysFields, Json.DistinctKeys]
  exact ⟨List.nodup_singleton _, ⟨hkeys, hvalues⟩, trivial⟩

/-- What the action of an operation says is made of texts. -/
structure Operation.Named (op : Operation) : Prop where
  index : ∃ t, op.index = .str t
  id : ∃ t, op.id = optional t
  pipeline : ∀ body pipeline, op.action = .index body pipeline → ∃ t, pipeline = optional t

theorem Operation.Plain.named {op : Operation} (h : op.Plain) : op.Named :=
  ⟨h.index, h.id, fun body pipeline haction => (h.action body pipeline haction).2⟩

theorem pipelineField_named {op : Operation} (h : op.Named) :
    ∃ pipeline, Operation.pipelineField op.action = optionalField "pipeline" pipeline ∧
      optional pipeline = op.action.pipeline := by
  cases haction : op.action with
  | delete => exact ⟨none, rfl, rfl⟩
  | index body p =>
    obtain ⟨t, rfl⟩ := h.pipeline body p haction
    cases t with
    | none => exact ⟨none, rfl, rfl⟩
    | some t =>
      cases hempty : t.isEmpty with
      | true => exact ⟨none, by simp [Operation.pipelineField, optional, Json.truthy, hempty, optionalField],
          by simp [optional, Action.pipeline, Json.truthy, hempty]⟩
      | false => exact ⟨some t, by simp [Operation.pipelineField, optional, Json.truthy, hempty, optionalField],
          by simp [optional, Action.pipeline, Json.truthy, hempty]⟩

/-- The action of an operation that is named by texts is read as what it is. -/
theorem header_readsBack {op : Operation} (h : op.Named) :
    ∃ hd : Header, (readLine op.header.text.utf8 >>= readHeader) = some hd ∧ hd.Records op := by
  obtain ⟨index, hindex⟩ := h.index
  obtain ⟨id, hid⟩ := h.id
  obtain ⟨pipeline, hfield, hpipeline⟩ := pipelineField_named h
  have hidField : Operation.idField op.id = optionalField "_id" id := by
    rw [hid]
    cases id <;> rfl
  have hheader : op.header = .obj [(op.verb.name, .obj (actionFields index id pipeline))] := by
    rw [Operation.header, hindex, hidField, hfield]
    rfl
  refine ⟨⟨op.verb, index, id, pipeline⟩, ?_, rfl, hindex.symm, hid.symm, hpipeline⟩
  rw [hheader, readLine_text (actionFields_whole _ _ _ _) (actionFields_distinct _ _ _ _)]
  exact readHeader_actionFields _ _ _ _

/-! ### Reading the operations -/

/-- The document of a plain operation is written on one line that has it. -/
theorem document_readsBack (op : Operation) {body : Json} (hbody : Storable body) :
    ∃ v line, op.singleLine body = .ok v ∧ lines? (lineBytes v) = some [line] ∧ Holds line body := by
  cases hbody with
  | @object fs hint hkeys =>
    exact ⟨.obj fs, _, rfl, lines?_print (by simp), .object (readLine_text hint hkeys)⟩
  | @line t hne hfree =>
    refine ⟨.str t, t.utf8, by simp [Operation.singleLine, hfree], ?_, .verbatim hfree⟩
    rw [lineBytes, linePoints_of_line hfree (.inl rfl), Text.lines?_utf8 hfree]
  | @lines t fs hbreak hparse hint =>
    refine ⟨.obj fs, _, by simp [Operation.singleLine, hbreak, hparse, Except.mapError], lines?_print (by simp), ?_⟩
    exact .reread hbreak hparse (readLine_text hint (Json.parse_distinctKeys hparse))

theorem readEntries_delete {line : List UInt8} {hd : Header} (hline : (readLine line >>= readHeader) = some hd)
    (hverb : hd.verb = .delete) (rest : List (List UInt8)) :
    readEntries (line :: rest) = (readEntries rest).map (⟨hd, none⟩ :: ·) := by
  rw [readEntries, hline]
  simp only [hverb]

theorem readEntries_index {line : List UInt8} {hd : Header} (hline : (readLine line >>= readHeader) = some hd)
    (hverb : hd.verb = .index) (document : List UInt8) (rest : List (List UInt8)) :
    readEntries (line :: document :: rest) = (readEntries rest).map (⟨hd, some document⟩ :: ·) := by
  rw [readEntries, hline]
  simp only [hverb]

/-- A plain operation is written on lines from which the reader takes it, and goes on behind them. -/
theorem operation_readsBack {op : Operation} (h : op.Plain) :
    ∃ js block e, op.lines = .ok js ∧ lines? (⟨js.flatMap linePoints⟩ : Text).utf8 = some block ∧ e.Records op ∧
      ∀ rest, readEntries (block ++ rest) = (readEntries rest).map (e :: ·) := by
  obtain ⟨hd, hread, hrecords⟩ := header_readsBack h.named
  have hheader := lines?_header op
  have hverb := hrecords.verb
  unfold Operation.verb at hverb
  cases haction : op.action with
  | delete =>
    rw [haction] at hverb
    refine ⟨[op.header], [op.header.text.utf8], ⟨hd, none⟩, by simp [Operation.lines, haction], ?_,
      ⟨hrecords, by simp [haction]⟩, readEntries_delete hread hverb⟩
    simpa [lineBytes] using hheader
  | index body pipeline =>
    rw [haction] at hverb
    obtain ⟨v, line, hv, hline, hholds⟩ := document_readsBack op (h.action body pipeline haction).1
    refine ⟨[op.header, v], [op.header.text.utf8] ++ [line], ⟨hd, some line⟩, ?_, ?_,
      ⟨hrecords, by simpa [haction] using hholds⟩, readEntries_index hread hverb line⟩
    · rw [Operation.lines, haction]
      simp only [hv]
      rfl
    · simpa [lineBytes, Text.utf8_append] using Text.lines?_append hheader hline

theorem ndjsonPoints_readsBack {ops : List Operation} (h : ∀ op ∈ ops, op.Plain) :
    ∃ ps ls entries, ndjsonPoints ops = .ok ps ∧ lines? (⟨ps⟩ : Text).utf8 = some ls ∧ readEntries ls = some entries ∧
      List.Forall₂ Entry.Records entries ops := by
  induction ops with
  | nil => exact ⟨[], [], [], rfl, rfl, rfl, .nil⟩
  | cons op ops ih =>
    obtain ⟨hop, hops⟩ := List.forall_mem_cons.mp h
    obtain ⟨js, block, e, hjs, hblock, he, hread⟩ := operation_readsBack hop
    obtain ⟨ps, ls, entries, hps, hls, hentries, hall⟩ := ih hops
    refine ⟨js.flatMap linePoints ++ ps, block ++ ls, e :: entries, ?_, ?_, ?_, .cons he hall⟩
    · rw [ndjsonPoints, hjs, hps]
      rfl
    · rw [Text.utf8_append]
      exact Text.lines?_append hblock hls
    · rw [hread, hentries]
      rfl

/-- A batch of plain operations is written as lines, the last one ended too, and a reader that takes an action and behind
an index action a document finds the operations again: all of them and in their order. -/
theorem ndjson_reads_back {ops : List Operation} (hne : ops ≠ []) (h : ∀ op ∈ ops, op.Plain) :
    ∃ body, ndjson ops = .ok body ∧ body.utf8.getLast? = some 10 ∧
      ∃ entries, readBatch body.utf8 = some entries ∧ List.Forall₂ Entry.Records entries ops := by
  obtain ⟨ps, ls, entries, hps, hls, hentries, hall⟩ := ndjsonPoints_readsBack h
  have hlines : ls ≠ [] := by
    rintro rfl
    obtain rfl := Option.some.inj hentries
    cases hall
    exact hne rfl
  refine ⟨⟨ps⟩, by rw [ndjson, hps]; rfl, Text.getLast?_of_lines? hls hlines, entries, ?_, hall⟩
  rw [readBatch, hls]
  exact hentries

/-- An object with a line break behind it. -/
def ended : Text := ⟨(Json.obj [("n", .int 1)]).print ++ [.char '\n']⟩

theorem parse_ended : Json.parse ended = .ok (.obj [("n", .int 1)]) := by
  refine Json.parse_print (v := .obj [("n", .int 1)]) ?_ ?_ ?_ (.inr rfl)
  · simp [Json.IntegersOnly, Json.IntegersOnlyFields]
  · simp [Json.DistinctKeys, Json.DistinctKeysFields]
  · exact ⟨show (Nat.toDigits 10 1).length ≤ Text.longestNumeral by decide, trivial⟩

/-- Operations of one line and of two, with documents of every kind and line breaks wherever a text can have one. -/
def mixed : List Operation := [
  ⟨.str "docs", .str "a\nb", .index (.obj [("k\n", .arr [.str "\"\n", .int (-7), .null])]) (.str "attach\n")⟩,
  ⟨.str "docs", .str "a\nb", .delete⟩,
  ⟨.str "docs", .null, .index (.str ended) .null⟩,
  ⟨.str "docs", .str "", .index (.str "[1]") (.str "")⟩]

theorem mixed_plain : ∀ op ∈ mixed, op.Plain := by
  have hbreak : .char '\n' ∈ ended.points := by decide
  have hfree : .char '\n' ∉ ("[1]" : Text).points := by decide
  rw [mixed, List.forall_mem_cons, List.forall_mem_cons, List.forall_mem_cons, List.forall_mem_singleton]
  refine ⟨⟨⟨_, rfl⟩, ⟨some _, rfl⟩, ?_⟩, ⟨⟨_, rfl⟩, ⟨some _, rfl⟩, ?_⟩, ⟨⟨_, rfl⟩, ⟨none, rfl⟩, ?_⟩,
    ⟨⟨_, rfl⟩, ⟨some _, rfl⟩, ?_⟩⟩ <;> intro body pipeline h <;> cases h
  · exact ⟨.object (by simp [Json.IntegersOnly, Json.IntegersOnlyFields, Json.IntegersOnlyAll])
      (by simp [Json.DistinctKeys, Json.DistinctKeysFields, Json.DistinctKeysAll]), some _, rfl⟩
  · exact ⟨.lines hbreak parse_ended (by simp [Json.IntegersOnly, Json.IntegersOnlyFields]), none, rfl⟩
  · exact ⟨.line (by decide) hfree, some _, rfl⟩

theorem mixed_reads_back : mixed ≠ [] ∧ (∀ op ∈ mixed, op.Plain) ∧
    ∃ body, ndjson mixed = .ok body ∧ body.utf8.getLast? = some 10 ∧
      ∃ entries, readBatch body.utf8 = some entries ∧ List.Forall₂ Entry.Records entries mixed :=
  ⟨List.cons_ne_nil _ _, mixed_plain, ndjson_reads_back (List.cons_ne_nil _ _) mixed_plain⟩

end DocumentStore.Bulk
