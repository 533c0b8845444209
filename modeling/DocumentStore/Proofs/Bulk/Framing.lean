import DocumentStore.Proofs.Bulk.Body
import DocumentStore.Proofs.Json.OneLine
import DocumentStore.Proofs.Json.RoundTrip
import DocumentStore.Proofs.Text.Lines

/-! The lines of a body. The action and a document that is a value are one line each, whatever is in them. A text that is
given as a document is not: what it is read as is written as it stands if it is a text again, and so is a text without a
break, an empty one too. -/

namespace DocumentStore.Bulk

open Text (lines?)

/-- The bytes of one line of a body, with the break that ends it. -/
def lineBytes (v : Json) : List UInt8 := (⟨linePoints v⟩ : Text).utf8

theorem lines?_print {v : Json} (h : ∀ t, v ≠ .str t) : lines? (lineBytes v) = some [v.text.utf8] := by
  have hpoints : linePoints v = v.print ++ [.char '\n'] := by
    unfold linePoints
    split
    · exact absurd rfl (h _)
    · rfl
  rw [lineBytes, hpoints, Text.lines?_utf8 v.newline_notMem_print]
  rfl

theorem text_utf8_ne_nil (v : Json) : v.text.utf8 ≠ [] := Text.utf8_ne_nil v.print_ne_nil

theorem lines?_header (op : Operation) : lines? (lineBytes op.header) = some [op.header.text.utf8] :=
  lines?_print (by simp [Operation.header])

/-- A text is written up to a line break, which is its own if it ends with one. -/
theorem linePoints_str (s : Text) : ∃ line, linePoints (.str s) = line ++ [.char '\n'] ∧
    (s.points = line ∨ s.points = line ++ [.char '\n']) := by
  simp only [linePoints]
  split_ifs with hlast
  · obtain ⟨line, hline⟩ := List.getLast?_eq_some_iff.mp hlast
    exact ⟨line, hline, .inr hline⟩
  · exact ⟨s.points, rfl, .inl rfl⟩

/-- The text is one line that is not empty, whether a break ends it or not. -/
def FitsLine (s : Text) : Prop :=
  ∃ line, line ≠ [] ∧ .char '\n' ∉ line ∧ (s.points = line ∨ s.points = line ++ [.char '\n'])

theorem linePoints_of_line {s : Text} {line : List CodePoint} (hfree : .char '\n' ∉ line)
    (hs : s.points = line ∨ s.points = line ++ [.char '\n']) : linePoints (.str s) = line ++ [.char '\n'] := by
  rw [linePoints]
  rcases hs with hs | hs
  · have hlast : s.points.getLast? ≠ some (.char '\n') := fun h => hfree (hs ▸ List.mem_of_getLast? h)
    rw [if_neg hlast, hs]
  · rw [if_pos (by simp [hs]), hs]

theorem fitsLine_iff (s : Text) : FitsLine s ↔ ∃ l, l ≠ [] ∧ lines? (lineBytes (.str s)) = some [l] := by
  constructor
  · rintro ⟨line, hne, hfree, hs⟩
    rw [lineBytes, linePoints_of_line hfree hs, Text.lines?_utf8 hfree]
    exact ⟨_, Text.utf8_ne_nil hne, rfl⟩
  · rintro ⟨l, hne, hl⟩
    obtain ⟨line, hpoints, hs⟩ := linePoints_str s
    obtain ⟨hbytes, hfree⟩ := (Text.lines?_eq_some_iff _ _).mp hl
    rw [lineBytes, hpoints, Text.utf8_append, List.flatMap_singleton] at hbytes
    obtain rfl : (⟨line⟩ : Text).utf8 = l := List.append_cancel_right hbytes
    refine ⟨line, ?_, fun h => ?_, hs⟩
    · rintro rfl
      exact hne rfl
    · exact hfree _ List.mem_cons_self ((Text.newline_mem_utf8_iff ⟨line⟩).mpr h)

theorem lines?_str (s : Text) : ∃ ls, ls ≠ [] ∧ lines? (lineBytes (.str s)) = some ls := by
  obtain ⟨line, hpoints, -⟩ := linePoints_str s
  refine Text.exists_lines? ?_
  rw [lineBytes, hpoints, Text.utf8_append]
  exact List.getLast?_concat

/-- How many lines an operation takes: one for the action, and one for the document if there is one. -/
def Operation.lineCount (op : Operation) : Nat :=
  match op.action with
  | .index .. => 2
  | .delete => 1

/-- The document of the operation leaves the lines around it alone. A text that has line breaks and is read as a text has
to be one line itself, and one that has none has to be something at all. -/
def Operation.Contained (op : Operation) : Prop :=
  match op.action with
  | .index (.str t) _ =>
    if .char '\n' ∈ t.points then ∀ s, Json.parse t = .ok (.str s) → FitsLine s else t.points ≠ []
  | _ => True

/-- The lines are those of the operations, in their order: as many for each as it takes, the first of them its action. -/
inductive Forms : List Operation → List (List UInt8) → Prop
  | nil : Forms [] []
  | cons {op : Operation} {ops : List Operation} {block rest : List (List UInt8)}
      (hhead : block.head? = some op.header.text.utf8) (hlength : block.length = op.lineCount) (hrest : Forms ops rest) :
      Forms (op :: ops) (block ++ rest)

/-- The bytes are the lines of the operations, none of them empty. -/
def Framed (ops : List Operation) (bs : List UInt8) : Prop :=
  ∃ ls, lines? bs = some ls ∧ (∀ l ∈ ls, l ≠ []) ∧ Forms ops ls

theorem Forms.length {ops : List Operation} {ls : List (List UInt8)} (h : Forms ops ls) :
    ls.length = (ops.map Operation.lineCount).sum := by
  induction h with
  | nil => rfl
  | cons hhead hlength hrest ih => simp [hlength, ih]

theorem contained_iff {op : Operation} {body pipeline v : Json} (haction : op.action = .index body pipeline)
    (hv : op.singleLine body = .ok v) : op.Contained ↔ ∀ s, v = .str s → FitsLine s := by
  unfold Operation.Contained Operation.singleLine at *
  rw [haction]
  cases body with
  | str t =>
    by_cases hbreak : CodePoint.char '\n' ∈ t.points
    · simp only [List.contains_iff_mem, hbreak, if_true] at hv ⊢
      cases hparse : Json.parse t with
      | error f => simp [hparse, Except.mapError] at hv
      | ok w =>
        obtain rfl : w = v := by simpa [hparse, Except.mapError] using hv
        simp
    · simp only [List.contains_iff_mem, hbreak, if_false] at hv ⊢
      obtain rfl : Json.str t = v := by simpa using hv
      simp only [Json.str.injEq, forall_eq']
      constructor
      · intro hne
        exact ⟨t.points, hne, hbreak, .inl rfl⟩
      · rintro ⟨line, hne, -, hs | hs⟩ hnil
        · exact hne (hs ▸ hnil)
        · simp [hnil] at hs
  | _ =>
    obtain rfl := Except.ok.inj hv
    simp

theorem document_lines {op : Operation} {body pipeline v : Json} (haction : op.action = .index body pipeline)
    (hv : op.singleLine body = .ok v) :
    ∃ ls, lines? (lineBytes v) = some ls ∧ 1 ≤ ls.length ∧ (op.Contained ↔ ls.length = 1 ∧ ∀ l ∈ ls, l ≠ []) := by
  rw [contained_iff haction hv]
  by_cases hstr : ∃ s, v = .str s
  · obtain ⟨s, rfl⟩ := hstr
    obtain ⟨ls, hne, hls⟩ := lines?_str s
    refine ⟨ls, hls, List.length_pos_iff.mpr hne, ?_⟩
    simp only [Json.str.injEq, forall_eq', fitsLine_iff, hls, Option.some.injEq]
    constructor
    · rintro ⟨l, hl, rfl⟩
      simpa using hl
    · rintro ⟨hlength, hall⟩
      obtain ⟨l, rfl⟩ := List.length_eq_one_iff.mp hlength
      exact ⟨l, by simpa using hall, rfl⟩
  · have hnot : ∀ s, v ≠ .str s := by simpa using hstr
    refine ⟨_, lines?_print hnot, Nat.le_refl _, ?_⟩
    simp [hnot, text_utf8_ne_nil]

theorem operation_lines {op : Operation} {js : List Json} (h : op.lines = .ok js) :
    ∃ block, lines? (⟨js.flatMap linePoints⟩ : Text).utf8 = some block ∧ block.head? = some op.header.text.utf8 ∧
      op.lineCount ≤ block.length ∧ (op.Contained ↔ block.length = op.lineCount ∧ ∀ l ∈ block, l ≠ []) := by
  have hheader := lines?_header op
  unfold Operation.lines at h
  cases haction : op.action with
  | delete =>
    obtain rfl : [op.header] = js := by simpa [haction] using h
    refine ⟨[op.header.text.utf8], by simpa [lineBytes] using hheader, rfl, ?_⟩
    simp [Operation.lineCount, Operation.Contained, haction, text_utf8_ne_nil]
  | index body pipeline =>
    rw [haction] at h
    cases hv : op.singleLine body with
    | error f => simp [hv, bind, Except.bind] at h
    | ok v =>
      obtain rfl : [op.header, v] = js := by simpa [hv, bind, Except.bind, pure, Except.pure] using h
      obtain ⟨ls, hls, hcount, hcontained⟩ := document_lines haction hv
      refine ⟨[op.header.text.utf8] ++ ls, ?_, rfl, ?_⟩
      · simpa [lineBytes, Text.utf8_append] using Text.lines?_append hheader hls
      · simp only [Operation.lineCount, haction, hcontained, List.singleton_append, List.length_cons, List.forall_mem_cons]
        exact ⟨by omega, by simp [text_utf8_ne_nil]⟩

theorem ndjsonPoints_cons {op : Operation} {ops : List Operation} {ps : List CodePoint}
    (h : ndjsonPoints (op :: ops) = .ok ps) :
    ∃ js qs, op.lines = .ok js ∧ ndjsonPoints ops = .ok qs ∧ ps = js.flatMap linePoints ++ qs := by
  rw [ndjsonPoints] at h
  obtain ⟨js, hjs, h⟩ := except_bind_eq_ok h
  obtain ⟨qs, hqs, h⟩ := except_bind_eq_ok h
  exact ⟨js, qs, hjs, hqs, (Except.ok.inj h).symm⟩

/-- A body has at least the lines that its operations take. It has them and no more, and none of them is empty, if and only
if every document leaves the others alone, and then they stand where they belong. -/
theorem batch_lines {ops : List Operation} {ps : List CodePoint} (h : ndjsonPoints ops = .ok ps) :
    ∃ ls, lines? (⟨ps⟩ : Text).utf8 = some ls ∧ (ops.map Operation.lineCount).sum ≤ ls.length ∧
      ((∀ op ∈ ops, op.Contained) ↔ ls.length = (ops.map Operation.lineCount).sum ∧ ∀ l ∈ ls, l ≠ []) ∧
      ((∀ op ∈ ops, op.Contained) → Forms ops ls) := by
  induction ops generalizing ps with
  | nil =>
    obtain rfl := Except.ok.inj h
    exact ⟨[], rfl, by simp, by simp, fun _ => .nil⟩
  | cons op ops ih =>
    obtain ⟨js, qs, hjs, hqs, rfl⟩ := ndjsonPoints_cons h
    obtain ⟨block, hblock, hhead, hcount, hcontained⟩ := operation_lines hjs
    obtain ⟨ls, hls, hsum, hall, hforms⟩ := ih hqs
    refine ⟨block ++ ls, ?_, ?_, ?_, fun hops => ?_⟩
    · rw [Text.utf8_append]
      exact Text.lines?_append hblock hls
    · simp only [List.map_cons, List.sum_cons, List.length_append]
      omega
    · simp only [List.forall_mem_cons, hcontained, hall, List.map_cons, List.sum_cons, List.length_append,
        List.forall_mem_append]
      -- neither part has fewer lines than it takes, so together they have no more only if neither has
      constructor
      · rintro ⟨⟨h1, h2⟩, h3, h4⟩
        exact ⟨by omega, h2, h4⟩
      · rintro ⟨hlength, h2, h4⟩
        exact ⟨⟨by omega, h2⟩, by omega, h4⟩
    · obtain ⟨hop, hops⟩ := List.forall_mem_cons.mp hops
      exact .cons hhead (hcontained.mp hop).1 (hforms hops)

theorem framed_iff {ops : List Operation} {ps : List CodePoint} (h : ndjsonPoints ops = .ok ps) :
    Framed ops (⟨ps⟩ : Text).utf8 ↔ ∀ op ∈ ops, op.Contained := by
  obtain ⟨ls, hls, -, hall, hforms⟩ := batch_lines h
  constructor
  · rintro ⟨ms, hms, hne, hms'⟩
    obtain rfl : ls = ms := Option.some.inj (hls.symm.trans hms)
    exact hall.mpr ⟨hms'.length, hne⟩
  · intro hops
    exact ⟨ls, hls, (hall.mp hops).2, hforms hops⟩

/-- A batch either has no body, because of a document that cannot be read, or has one that is framed, with one line for
each action and one for each document, if and only if every document is contained in its line. -/
theorem ndjson_framed_iff (ops : List Operation) :
    ((∃ op ∈ ops, ¬op.Writable) ∧ ∃ v, ndjson ops = .error (.bulk (.invalid v))) ∨
      ∃ body, ndjson ops = .ok body ∧ (Framed ops body.utf8 ↔ ∀ op ∈ ops, op.Contained) := by
  rcases ndjsonPoints_cases ops with ⟨-, ps, hps⟩ | ⟨hunwritable, v, hv⟩
  · exact .inr ⟨⟨ps⟩, by rw [ndjson, hps]; rfl, framed_iff hps⟩
  · exact .inl ⟨hunwritable, v, by rw [ndjson, hv]; rfl⟩

/-! ### A text as it stands -/

theorem lines_text {op : Operation} {t : Text} {pipeline : Json} (haction : op.action = .index (.str t) pipeline)
    (ht : .char '\n' ∉ t.points) : op.lines = .ok [op.header, .str t] := by
  unfold Operation.lines
  rw [haction]
  simp [Operation.singleLine, ht, bind, Except.bind, pure, Except.pure]

theorem ndjsonPoints_append {before behind : List Operation} {front back : List CodePoint}
    (hbefore : ndjsonPoints before = .ok front) (hbehind : ndjsonPoints behind = .ok back) :
    ndjsonPoints (before ++ behind) = .ok (front ++ back) := by
  induction before generalizing front with
  | nil =>
    cases hbefore
    exact hbehind
  | cons op before ih =>
    obtain ⟨js, rest, hjs, hrest, rfl⟩ := ndjsonPoints_cons hbefore
    rw [List.cons_append, ndjsonPoints, hjs, ih hrest, List.append_assoc]
    rfl

theorem ndjson_eq_ok_iff {ops : List Operation} {body : Text} : ndjson ops = .ok body ↔ ndjsonPoints ops = .ok body.points := by
  obtain ⟨ps⟩ := body
  unfold ndjson
  cases ndjsonPoints ops with
  | error f => exact iff_of_false nofun nofun
  | ok qs => exact ⟨fun h => by cases h; rfl, fun h => by cases h; rfl⟩

/-- A text without line breaks that is given as a document is a line of the body as it stands, wherever in the batch its
operation is. -/
theorem ndjson_text {op : Operation} {t : Text} {pipeline : Json} (haction : op.action = .index (.str t) pipeline)
    (ht : .char '\n' ∉ t.points) {before behind : List Operation} {front back : Text}
    (hbefore : ndjson before = .ok front) (hbehind : ndjson behind = .ok back) :
    ndjson (before ++ op :: behind) =
      .ok ⟨front.points ++ linePoints op.header ++ (t.points ++ [.char '\n']) ++ back.points⟩ := by
  rw [ndjson_eq_ok_iff] at hbefore hbehind ⊢
  have hop : ndjsonPoints (op :: behind) =
      .ok (linePoints op.header ++ (t.points ++ [.char '\n']) ++ back.points) := by
    rw [ndjsonPoints, lines_text haction ht, hbehind]
    simp only [bind, Except.bind, pure, Except.pure, List.flatMap_cons, List.flatMap_nil, List.append_nil,
      linePoints_of_line ht (.inl rfl)]
  rw [ndjsonPoints_append hbefore hop]
  simp only [List.append_assoc]

/-! ### A document that holds an operation -/

theorem FitsLine.newline_notMem {s : Text} (h : FitsLine s) : .char '\n' ∉ s.points.dropLast := by
  obtain ⟨line, -, hfree, hs | hs⟩ := h
  · rw [hs]
    exact fun hmem => hfree (List.mem_of_mem_dropLast hmem)
  · simpa [hs] using hfree

def carrier (body : Json) : Operation := ⟨.str "docs", .str "1", .index body .null⟩

def stowaway : Operation := ⟨.str "docs", .str "9", .delete⟩

/-- An empty document and the action of a deletion, one below the other. -/
def stacked : Text := ⟨(Json.obj []).print ++ .char '\n' :: stowaway.header.print⟩

/-- The text that is read as `stacked`, with a line break behind it. -/
def smuggled : Text := ⟨(Json.str stacked).print ++ [.char '\n']⟩

theorem parse_smuggled : Json.parse smuggled = .ok (.str stacked) :=
  Json.parse_print (v := .str stacked) trivial trivial trivial (.inr rfl)

theorem newline_mem_smuggled : .char '\n' ∈ smuggled.points := by simp [smuggled]

theorem lines_smuggled :
    (carrier (.str smuggled)).lines = .ok [(carrier (.obj [])).header, .str stacked] := by
  have hline : (carrier (.str smuggled)).singleLine (.str smuggled) = .ok (.str stacked) := by
    simp [Operation.singleLine, newline_mem_smuggled, parse_smuggled, Except.mapError]
  unfold Operation.lines
  simp only [carrier] at hline ⊢
  rw [hline]
  rfl

/-- A single operation writes the body of two, its document the deletion of another one; and an empty text leaves the line
of the document empty. -/
theorem smuggled_deletion :
    ndjson [carrier (.str smuggled)] = ndjson [carrier (.obj []), stowaway] ∧
      (∃ body, ndjson [carrier (.str smuggled)] = .ok body ∧ ¬Framed [carrier (.str smuggled)] body.utf8) ∧
      ∃ body, ndjson [carrier (.str "")] = .ok body ∧ ¬Framed [carrier (.str "")] body.utf8 := by
  have hpoints : ndjsonPoints [carrier (.str smuggled)] =
      .ok ([(carrier (.obj [])).header, .str stacked].flatMap linePoints ++ []) := by
    rw [ndjsonPoints, lines_smuggled]
    rfl
  refine ⟨?_, ⟨_, by rw [ndjson, hpoints]; rfl, ?_⟩, ⟨_, rfl, ?_⟩⟩
  · rw [ndjson, hpoints]
    rfl
  · rw [framed_iff hpoints]
    intro hops
    have hcontained := hops _ List.mem_cons_self
    simp only [Operation.Contained, carrier, newline_mem_smuggled, if_true] at hcontained
    exact absurd (hcontained stacked parse_smuggled).newline_notMem (by decide +kernel)
  · rw [framed_iff rfl]
    intro hops
    exact absurd (hops _ List.mem_cons_self) (by simp [Operation.Contained, carrier, Text.ofString, Text.ofChars])

end DocumentStore.Bulk
