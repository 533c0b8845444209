import DocumentStore.Proofs.Bulk.ReadBack
import DocumentStore.Proofs.Client.Inquiry
import DocumentStore.Proofs.Cluster.Target

/-! Which document a request is about. The commands that work on one document at once name it by the path of their
request, a batch names it by the fields of an action. -/

namespace DocumentStore.Client

open Effect
open Bulk (Operation)
open Cluster (Request pathPart segments? target targetOf)

variable {α β : Type}

/-! ### Commands that ask the cluster once -/

/-- A computation is one question, and then it only judges what that came to. What could not be asked stays so. -/
def AsksOnce (question : Effect Client String) (e : Effect Client α) : Prop :=
  ∀ c, (e.runOn c).2 = (question.runOn c).2 ∧
    ∀ m, (question.runOn c).1 = .error (.misuse m) → (e.runOn c).1 = .error (.misuse m)

theorem asksOnce_self (question : Effect Client String) : AsksOnce question question := fun _ => ⟨rfl, fun _ => id⟩

theorem AsksOnce.bind {question : Effect Client String} {e : Effect Client α} {k : α → Effect Client β}
    (he : AsksOnce question e) (hk : ∀ a, Keeps Eq (k a)) : AsksOnce question (e >>= k) := by
  intro c
  obtain ⟨hstate, hmisuse⟩ := he c
  rcases hr : e.runOn c with ⟨f | a, d⟩
  · rw [hr] at hstate hmisuse
    rw [runOn_bind_error hr]
    refine ⟨hstate, fun m hm => ?_⟩
    cases hmisuse m hm
    rfl
  · rw [hr] at hstate hmisuse
    rw [runOn_bind_ok hr, ← hk a d]
    exact ⟨hstate, fun m hm => absurd (hmisuse m hm) (by simp)⟩

/-- A command that settles what its question comes to has nothing else to ask. -/
theorem asksOnce_inquiry {x : Inquiry} {q : Question} (hq : ∀ library, x.question library = .ok q) :
    AsksOnce q.asked (run x.command) := by
  intro c
  rw [Inquiry.command_settled (hq c.library)]
  refine ⟨rfl, fun m hm => ?_⟩
  rw [hm]
  rfl

/-- All that such a computation sends has the target of its question, and it does not pass for done if it sends
nothing. -/
theorem AsksOnce.requests {method : String} {path : Option Text} {body : Cluster.Body} {params : Cluster.Params}
    {e : Effect Client α} (h : AsksOnce (call method path body params) e) (c : Client) :
    ∃ sent, (e.runOn c).2.cluster.world.requests = c.cluster.world.requests ++ sent ∧
      (∀ r ∈ sent, r.target = targetOf path params) ∧ (sent = [] → ∃ m, (e.runOn c).1 = .error (.misuse m)) := by
  obtain ⟨hstate, hmisuse⟩ := h c
  obtain ⟨sent, hsent, halike, hnone⟩ := Cluster.call_requests c.cluster method path body params
  refine ⟨sent, ?_, fun r hr => (halike r hr).2.1, fun hempty => ?_⟩
  · rw [hstate]
    exact hsent
  · obtain ⟨m, hm⟩ := hnone hempty
    exact ⟨m, hmisuse m hm⟩

/-! ### The path of a document -/

/-- The commands that work on one document at once. -/
inductive Concerns (index id : String) : Command → Prop
  | read : Concerns index id (.read (.str index) (.str id))
  | documentExists : Concerns index id (.documentExists (.str index) (.str id))
  | deleteSingle : Concerns index id (.deleteSingle (.str index) (.str id))
  | indexSingle (document : Cluster.Body) (pipeline : Json) :
      Concerns index id (.indexSingle (.str index) (.str id) document pipeline)

variable {index id : String}

theorem targetOf_placeOf (index id : String) (params : Cluster.Params) :
    targetOf (some (Inquiry.placeOf index id)) params = target (some (index ++ "/_doc/" ++ id)) params := by
  have hplace : Inquiry.placeOf index id = Text.ofString (index ++ "/_doc/" ++ id) := by
    rw [Text.ofString_append, Text.ofString_append]
    rfl
  rw [targetOf, Option.map_some, hplace, Text.toString_ofString]

theorem asksOnce_of_concerns {x : Command} (hx : Concerns index id x) :
    ∃ method body params, AsksOnce (call method (some (Inquiry.placeOf index id)) body params) (run x) := by
  cases hx with
  | read =>
    have hasks := asksOnce_inquiry (x := .read index id) fun _ => rfl
    exact ⟨"GET", .none, [], hasks⟩
  | documentExists =>
    have hasks := asksOnce_inquiry (x := .documentExists index id) fun _ => rfl
    exact ⟨"HEAD", .none, [], hasks⟩
  | deleteSingle =>
    have hasks := asksOnce_inquiry (x := .deleteSingle index id) fun _ => rfl
    exact ⟨"DELETE", .none, [], hasks⟩
  | indexSingle document pipeline =>
    refine ⟨"PUT", document, if pipeline.truthy then [(.str "pipeline", pipeline)] else [], ?_⟩
    rw [run]
    exact (asksOnce_self _).bind fun _ => keeps_pure _

/-- The path below its first slash, where no index name begins with one. -/
theorem relative_document (hne : index ≠ "") (hslash : '/' ∉ index.toList) (id : String) :
    Cluster.relative (some (index ++ "/_doc/" ++ id)) = index.toList ++ '/' :: ("_doc".toList ++ '/' :: id.toList) := by
  have hpath : (index ++ "/_doc/" ++ id).toList = index.toList ++ '/' :: ("_doc".toList ++ '/' :: id.toList) := by
    simp
  unfold Cluster.relative
  rw [Option.getD_some, hpath]
  cases hindex : index.toList with
  | nil => exact absurd (String.toList_eq_nil_iff.1 hindex) hne
  | cons c cs =>
    have hc : c ≠ '/' := by
      rintro rfl
      exact hslash (hindex ▸ List.mem_cons_self)
    rw [List.cons_append, List.dropWhile_cons_of_neg (by simpa using hc)]

theorem segments?_document (hne : index ≠ "") (hslash : '/' ∉ index.toList) (id : String) (params : Cluster.Params) :
    segments? (target (some (index ++ "/_doc/" ++ id)) params) =
      some ("" :: index :: "_doc" :: (id.toList.splitOn '/').map String.ofList) := by
  have hroot (cs : List Char) : ('/' :: cs).splitOn '/' = [] :: cs.splitOn '/' :=
    List.splitOn_append_cons_self_of_not_mem List.not_mem_nil cs
  rw [Cluster.segments?_target, relative_document hne hslash, hroot, List.splitOn_append_cons_self_of_not_mem hslash,
    List.splitOn_append_cons_self_of_not_mem (by decide), List.map_cons, List.map_cons, List.map_cons,
    String.ofList_toList, String.ofList_toList]

/-- What is split at its slashes stays in one piece only if it has none. -/
theorem map_splitOn_eq_singleton_iff (s : String) : (s.toList.splitOn '/').map String.ofList = [s] ↔ '/' ∉ s.toList := by
  constructor
  · intro hone hmem
    obtain ⟨before, behind, hsplit⟩ := List.append_of_mem hmem
    have hlength := congrArg List.length hone
    rw [hsplit, List.splitOn_append_cons_self, List.length_map, List.length_append, List.length_singleton] at hlength
    have hbefore := List.length_pos_of_ne_nil (List.splitOn_ne_nil '/' before)
    have hbehind := List.length_pos_of_ne_nil (List.splitOn_ne_nil '/' behind)
    omega
  · intro hfree
    rw [List.splitOn_eq_singleton hfree, List.map_singleton, String.ofList_toList]

theorem segments?_document_iff (hne : index ≠ "") (hslash : '/' ∉ index.toList) (id : String)
    (params : Cluster.Params) :
    segments? (target (some (index ++ "/_doc/" ++ id)) params) = some ["", index, "_doc", id] ↔ '/' ∉ id.toList := by
  rw [segments?_document hne hslash, ← map_splitOn_eq_singleton_iff]
  simp

/-- A path tells the index and the document, whatever is in the name of the document. -/
theorem document_eq_of_pathPart {index' id' : String} {params params' : Cluster.Params} (hne : index ≠ "")
    (hslash : '/' ∉ index.toList) (hne' : index' ≠ "") (hslash' : '/' ∉ index'.toList)
    (h : pathPart (target (some (index ++ "/_doc/" ++ id)) params) =
      pathPart (target (some (index' ++ "/_doc/" ++ id')) params')) : index = index' ∧ id = id' := by
  have hparts : segments? (target (some (index ++ "/_doc/" ++ id)) params) =
      segments? (target (some (index' ++ "/_doc/" ++ id')) params') := by
    unfold segments?
    rw [h]
  rw [segments?_document hne hslash, segments?_document hne' hslash'] at hparts
  simp only [Option.some.injEq, List.cons.injEq, true_and] at hparts
  obtain ⟨hindex, hid⟩ := hparts
  refine ⟨hindex, ?_⟩
  have hpieces := List.map_injective_iff.2 (fun _ _ => String.ofList_inj.1) hid
  have hjoined := congrArg (List.intercalate ['/']) hpieces
  rw [List.intercalate_splitOn, List.intercalate_splitOn] at hjoined
  exact String.toList_inj.1 hjoined

/-! ### The name of a document -/

/-- The index and the document that a target names. -/
def addressed? (target : String) : Option (Text × Text) :=
  match segments? target with
  | some ["", index, "_doc", id] => some (index, id)
  | _ => none

/-- The index and the document that the line of an action names. -/
def named? (line : List UInt8) : Option (Text × Text) := do
  let header ← Bulk.readLine line >>= Bulk.readHeader
  return (header.index, ← header.id)

theorem named?_header {op : Operation} (h : op.Named) (hindex : op.index = .str index) (hid : op.id = .str id) :
    named? op.header.text.utf8 = some (Text.ofString index, Text.ofString id) := by
  obtain ⟨header, hread, hrecords⟩ := Bulk.header_readsBack h
  have hheader : header.index = Text.ofString index := by
    have := hrecords.index.trans hindex
    simpa using this
  have hdocument : header.id = some (Text.ofString id) := by
    have := hrecords.id.trans hid
    cases hcase : header.id with
    | none => rw [hcase] at this; cases this
    | some t => rw [hcase] at this; simpa [Bulk.optional] using this
  unfold named?
  rw [hread]
  simp [hheader, hdocument]

theorem addressed?_eq_some_iff {target : String} :
    addressed? target = some (Text.ofString index, Text.ofString id) ↔
      segments? target = some ["", index, "_doc", id] := by
  have hinj : Function.Injective Text.ofString := Function.LeftInverse.injective Text.toString_ofString
  unfold addressed?
  constructor
  · intro h
    split at h
    · rename_i index' id' hsegments
      simp only [Option.some.injEq, Prod.mk.injEq] at h
      rw [hsegments, hinj h.1, hinj h.2]
    · cases h
  · intro h
    rw [h]
    rfl

/-- The requests that a command sends. -/
def sentBy (x : Command) (c : Client) : List Request :=
  ((run x).runOn c).2.cluster.world.requests.drop c.cluster.world.requests.length

theorem sentBy_concerns {x : Command} (hx : Concerns index id x) (c : Client) :
    ((run x).runOn c).2.cluster.world.requests = c.cluster.world.requests ++ sentBy x c ∧
    (∃ params, ∀ r ∈ sentBy x c, r.target = target (some (index ++ "/_doc/" ++ id)) params) ∧
    (sentBy x c = [] → ∃ m, ((run x).runOn c).1 = .error (.misuse m)) := by
  obtain ⟨method, body, params, hasks⟩ := asksOnce_of_concerns hx
  obtain ⟨sent, hsent, htarget, hnone⟩ := hasks.requests c
  have hdrop : sentBy x c = sent := by rw [sentBy, hsent, List.drop_left]
  rw [hdrop]
  refine ⟨hsent, ⟨params, fun r hr => ?_⟩, hnone⟩
  rw [htarget r hr, targetOf_placeOf]

/-- The segments of whatever is sent about a document name the index and the document, as the action of a batch does,
exactly if there is no slash in the name of the document. Requests about two documents never have the same path. -/
theorem document_addressed_iff (hne : index ≠ "") (hslash : '/' ∉ index.toList) {x : Command} (hx : Concerns index id x)
    (c : Client) :
    ((run x).runOn c).2.cluster.world.requests = c.cluster.world.requests ++ sentBy x c ∧
    (sentBy x c = [] → ∃ m, ((run x).runOn c).1 = .error (.misuse m)) ∧
    ∀ r ∈ sentBy x c,
      (segments? r.target = some ["", index, "_doc", id] ↔ '/' ∉ id.toList) ∧
      (∀ op : Operation, op.Named → op.index = .str index → op.id = .str id →
        (addressed? r.target = named? op.header.text.utf8 ↔ '/' ∉ id.toList)) ∧
      ∀ index' id' y d, index' ≠ "" → '/' ∉ index'.toList → Concerns index' id' y → ∀ r' ∈ sentBy y d,
        pathPart r.target = pathPart r'.target → index = index' ∧ id = id' := by
  obtain ⟨hrequests, ⟨params, htarget⟩, hnone⟩ := sentBy_concerns hx c
  refine ⟨hrequests, hnone, fun r hr => ⟨?_, ?_, ?_⟩⟩
  · rw [htarget r hr]
    exact segments?_document_iff hne hslash id params
  · intro op hop hindex hid
    rw [named?_header hop hindex hid, addressed?_eq_some_iff, htarget r hr]
    exact segments?_document_iff hne hslash id params
  · intro index' id' y d hne' hslash' hy r' hr' hpath
    obtain ⟨-, ⟨params', htarget'⟩, -⟩ := sentBy_concerns hy d
    rw [htarget r hr, htarget' r' hr'] at hpath
    exact document_eq_of_pathPart hne hslash hne' hslash' hpath

/-- A document with a name that has to be encoded is asked for by that name. -/
theorem encoded_document_addressed :
    (sentBy (.documentExists (.str "docs") (.str "a b%2F?é#")) novice).map (·.target) =
        ["/docs/_doc/a%20b%252F%3F%C3%A9%23"] ∧
    ∀ r ∈ sentBy (.documentExists (.str "docs") (.str "a b%2F?é#")) novice,
      segments? r.target = some ["", "docs", "_doc", "a b%2F?é#"] ∧
      addressed? r.target =
        named? (Operation.mk (.str "docs") (.str "a b%2F?é#") .delete).header.text.utf8 := by
  have hconcerns : Concerns "docs" "a b%2F?é#" (.documentExists (.str "docs") (.str "a b%2F?é#")) := .documentExists
  obtain ⟨-, -, hall⟩ := document_addressed_iff (by decide) (by decide) hconcerns novice
  refine ⟨by decide +kernel, fun r hr => ?_⟩
  obtain ⟨hsegments, hnamed, -⟩ := hall r hr
  have hplain : (Operation.mk (.str "docs") (.str "a b%2F?é#") .delete).Named :=
    ⟨⟨"docs", rfl⟩, ⟨some "a b%2F?é#", rfl⟩, fun _ _ h => by cases h⟩
  exact ⟨hsegments.2 (by decide), (hnamed _ hplain rfl rfl).2 (by decide)⟩

/-- A slash in the name of a document stays one, so what is asked for is at another place. -/
theorem slashed_document_not_addressed :
    (sentBy (.documentExists (.str "docs") (.str "a/b")) novice).map (·.target) = ["/docs/_doc/a/b"] ∧
    segments? "/docs/_doc/a/b" = some ["", "docs", "_doc", "a", "b"] ∧
    addressed? "/docs/_doc/a/b" ≠ named? (Operation.mk (.str "docs") (.str "a/b") .delete).header.text.utf8 := by
  refine ⟨by decide +kernel, by decide +kernel, by decide +kernel⟩

end DocumentStore.Client
