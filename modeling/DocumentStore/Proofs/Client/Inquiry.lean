import DocumentStore.Proofs.Client.Closed
import DocumentStore.Proofs.Client.Dialogue
import DocumentStore.Proofs.Reading
import DocumentStore.Proofs.Search.Body

/-! The commands that ask the cluster one thing and may be told that there is no such thing. They say so themselves just if
the cluster does, pass every other failure on as it is, and never take an answer for a denial. -/

namespace DocumentStore.Client

open Effect

/-- The commands that ask the cluster one thing, with the arguments they are made for. -/
inductive Inquiry where
  | read (index id : Text)
  | deleteSingle (index id : Text)
  | search (r : SearchRequest)
  | deleteIndex (index : Text)
  | indexExists (index : Text)
  | pipelineExists (name : Text)
  | documentExists (index id : Text)

namespace Inquiry

/-- The names in a request are texts, its query can be compiled, and its numbers can be spelled out. -/
def Sound (library : QueryLibrary) : Inquiry → Prop
  | .search r => ∃ p, r.Asks library p ∧ p.Spellable
  | _ => True

def command : Inquiry → Command
  | .read index id => .read (.str index) (.str id)
  | .deleteSingle index id => .deleteSingle (.str index) (.str id)
  | .search r => .search r
  | .deleteIndex index => .deleteIndex (.str index)
  | .indexExists index => .indexExists (.str index)
  | .pipelineExists name => .pipelineExists (.str name)
  | .documentExists index id => .documentExists (.str index) (.str id)

def placeOf (index id : Text) : Text := index ++ "/_doc/" ++ id

/-- What is asked; a search asks nothing if it has no body. -/
def question (library : QueryLibrary) : Inquiry → Except Failure Question
  | .read index id => .ok ⟨"GET", placeOf index id, .none, []⟩
  | .deleteSingle index id => .ok ⟨"DELETE", placeOf index id, .none, []⟩
  | .search r => do
    let path := if r.index.truthy then r.index.shown ++ "/_search" else "_search"
    return ⟨"POST", path, .document (← r.body library), [(.str "version", .bool true)]⟩
  | .deleteIndex index => .ok ⟨"DELETE", index, .none, []⟩
  | .indexExists index => .ok ⟨"GET", index, .none, []⟩
  | .pipelineExists name => .ok ⟨"GET", "_ingest/pipeline/" ++ name, .none, []⟩
  | .documentExists index id => .ok ⟨"HEAD", placeOf index id, .none, []⟩

/-- How it is said that there is no such thing, with what the cluster said as the cause where it is a failure. -/
def denial : Inquiry → ResponseError → Except Failure Reply
  | .read index id, r | .deleteSingle index id, r => .error (.client (.documentMissing (.str index) (.str id) r))
  | .search request, r => .error (.client (.indexMissing request.index r))
  | .deleteIndex _, _ => .ok .nothing
  | .indexExists _, _ | .pipelineExists _, _ | .documentExists _ _, _ => .ok (.flag false)

/-- The hit that an answer is. -/
def hitOf (text : String) : Except Failure SearchHit := do SearchHit.read (← Document.parse (.text text)) "$"

/-- What an answer says about the deletion of a document. -/
def documentDeleted (index id : Text) (text : String) : Except Failure Unit := do
  let result ← (← Document.parse (.text text)).readText "$.result"
  if result ≠ "deleted" then throw (.client (.documentNotDeleted (.str index) (.str id) text))

/-- What an answer says about the deletion of an index. -/
def indexDeleted (index : Text) (text : String) : Except Failure Unit := do
  let document ← Document.parse (.text text)
  if !(← document.readBool "$.acknowledged") then
    throw (.client (.indexNotDeleted (.str index) (← document.readOptional "$.error.reason" .null .any)))

/-- What is made of the text of an answer. -/
def verdict : Inquiry → String → Except Failure Reply
  | .read _ _, text => do return .hit (← hitOf text)
  | .deleteSingle index id, text => do
    documentDeleted index id text
    return .nothing
  | .search request, text => do return .response (← SearchResponse.parse text request.effectiveSize)
  | .deleteIndex index, text => do
    indexDeleted index text
    return .nothing
  | .indexExists _, _ | .pipelineExists _, _ | .documentExists _ _, _ => .ok (.flag true)

/-! ### One question and what is made of it -/

theorem settled_existsAt (method : String) (path : Text) :
    Settled (Question.asked ⟨method, path, .none, []⟩) (fun _ => .ok true) (fun _ => .ok false)
      (existsAt method (.str path)) := by
  have hfound (c : Client) : (do discard (callAt method (.str path) .none); return true : Effect Client Bool).runOn c =
      (((Question.asked ⟨method, path, .none, []⟩).runOn c).1.map fun _ => true,
        ((Question.asked ⟨method, path, .none, []⟩).runOn c).2) := by
    rw [callAt_text, runOn_bind_pure, runOn_discard]
    cases ((Question.asked ⟨method, path, .none, []⟩).runOn c).1 <;> rfl
  exact settled_orMissing hfound fun _ => rfl

/-- A call that is denied in this way, and is followed by a look at the answer. -/
theorem settled_denied {α : Type} {q : Question} {f : ResponseError → Failure} {k : String → Effect Client α}
    {g : String → Except Failure α} (hk : ∀ text, k text = Effect.ofExcept (g text)) :
    Settled q.asked g (fun r => .error (f r)) (orMissing q.asked (fun r => throw (f r)) >>= k) := by
  have hask (c : Client) : q.asked.runOn c = ((q.asked.runOn c).1.map id, (q.asked.runOn c).2) := by
    cases h : q.asked.runOn c with
    | mk outcome d => cases outcome <;> rfl
  exact (settled_orMissing hask fun _ => rfl).bind hk

/-- The settled command, with a reply made of its result. -/
theorem settled_reply {α : Type} {e : Effect Client String} {v : String → Except Failure α}
    {m : ResponseError → Except Failure α} {e' : Effect Client α} (h : Settled e v m e') (reply : α → Reply) :
    Settled e (fun text => do return reply (← v text)) (fun r => do return reply (← m r)) (e' >>= fun a => pure (reply a)) :=
  h.bind fun _ => rfl

theorem settled_read (index id : Text) :
    Settled (Question.asked ⟨"GET", placeOf index id, .none, []⟩) (verdict (.read index id)) (denial (.read index id))
      (run (.read (.str index) (.str id))) := by
  have hhit : Settled (Question.asked ⟨"GET", placeOf index id, .none, []⟩) hitOf
      (fun r => .error (.client (.documentMissing (.str index) (.str id) r))) (Client.read (.str index) (.str id)) :=
    settled_denied fun text => ofExcept_bind fun _ => rfl
  rw [run]
  exact settled_reply hhit .hit

theorem search_settled {r : SearchRequest} {q : Question} {c : Client} (hq : question c.library (.search r) = .ok q) :
    (run (.search r)).runOn c = (settle (verdict (.search r)) (denial (.search r)) (q.asked.runOn c).1,
      (q.asked.runOn c).2) := by
  obtain ⟨body, hbody, hq⟩ := except_bind_eq_ok hq
  -- A search whose body is had already is settled as the other commands are.
  let asked : Effect Client SearchResponse := do
    let answer ← orMissing q.asked fun e => throw (.client (.indexMissing r.index e))
    .ofExcept (SearchResponse.parse answer r.effectiveSize)
  have hasked : Settled q.asked (fun text => SearchResponse.parse text r.effectiveSize)
      (fun e => .error (.client (.indexMissing r.index e))) asked := settled_denied fun text => rfl
  have hsearch : (Client.search r).runOn c = asked.runOn c := by
    cases hq
    unfold Client.search
    rw [runOn_bind_ok (runOn_getThe c), hbody]
    rfl
  rw [run, runOn_bind, hsearch, ← runOn_bind]
  exact settled_reply hasked .response c

theorem settled_deleteSingle (index id : Text) :
    Settled (Question.asked ⟨"DELETE", placeOf index id, .none, []⟩) (verdict (.deleteSingle index id))
      (denial (.deleteSingle index id)) (run (.deleteSingle (.str index) (.str id))) := by
  have hdeleted : Settled (Question.asked ⟨"DELETE", placeOf index id, .none, []⟩) (documentDeleted index id)
      (fun r => .error (.client (.documentMissing (.str index) (.str id) r)))
      (Client.deleteSingle (.str index) (.str id)) := by
    apply settled_denied
    intro text
    exact ofExcept_bind fun document => ofExcept_bind fun result => ofExcept_if _ rfl
  rw [run]
  exact settled_reply hdeleted fun _ => .nothing

theorem settled_deleteIndex (index : Text) :
    Settled (Question.asked ⟨"DELETE", index, .none, []⟩) (verdict (.deleteIndex index))
      (denial (.deleteIndex index)) (run (.deleteIndex (.str index))) := by
  have hanswer : Settled (Question.asked ⟨"DELETE", index, .none, []⟩) (fun text => .ok (some text))
      (fun _ => .ok none)
      (orMissing (some <$> callAt "DELETE" (.str index) .none) fun _ => return none) := by
    apply settled_orMissing
    · intro c
      rw [callAt_text, runOn_map]
    · intro r
      rfl
  have hdeleted : Settled (Question.asked ⟨"DELETE", index, .none, []⟩) (indexDeleted index) (fun _ => .ok ())
      (Client.deleteIndex (.str index)) := by
    refine hanswer.bind (g := fun answer => answer.elim (.ok ()) (indexDeleted index)) fun answer => ?_
    cases answer with
    | none => rfl
    | some text =>
      exact ofExcept_bind fun document => ofExcept_bind fun acknowledged =>
        ofExcept_if _ (ofExcept_bind fun reason => rfl)
  rw [run]
  exact settled_reply hdeleted fun _ => .nothing

/-- Every command asks its question, and settles what that comes to. -/
theorem command_settled {x : Inquiry} {q : Question} {c : Client} (hq : x.question c.library = .ok q) :
    (run x.command).runOn c = (settle x.verdict x.denial (q.asked.runOn c).1, (q.asked.runOn c).2) := by
  cases x with
  | search r => exact search_settled hq
  | read index id =>
    cases hq
    exact settled_read index id c
  | deleteSingle index id =>
    cases hq
    exact settled_deleteSingle index id c
  | deleteIndex index =>
    cases hq
    exact settled_deleteIndex index c
  | indexExists index =>
    cases hq
    rw [command, run]
    exact settled_reply (settled_existsAt "GET" index) .flag c
  | pipelineExists name =>
    cases hq
    rw [command, run]
    exact settled_reply (settled_existsAt "GET" ("_ingest/pipeline/" ++ name)) .flag c
  | documentExists index id =>
    cases hq
    rw [command, run]
    exact settled_reply (settled_existsAt "HEAD" (placeOf index id)) .flag c

/-! ### What an answer says -/

theorem result_steps : Json.stepsOf "$.result" = .ok [.name "result"] :=
  (Path.open_root.append (Path.onward_member ".result" "result" (by decide))).steps

theorem acknowledged_steps : Json.stepsOf "$.acknowledged" = .ok [.name "acknowledged"] :=
  (Path.open_root.append (Path.onward_member ".acknowledged" "acknowledged" (by decide))).steps

theorem documentDeleted_ok_iff (index id : Text) (text : String) : documentDeleted index id text = .ok () ↔
    ∃ v, Document.parse (.text text) = .ok v ∧ v.field? "result" = some (.str "deleted") := by
  constructor
  · intro h
    obtain ⟨v, hv, h⟩ := except_bind_eq_ok h
    obtain ⟨result, hresult, h⟩ := except_bind_eq_ok h
    split_ifs at h with hdeleted
    rw [not_not.1 hdeleted, Json.readText_ok_iff result_steps, Json.follow?_field] at hresult
    exact ⟨v, hv, hresult⟩
  · rintro ⟨v, hv, hfield⟩
    rw [← Json.follow?_field, ← Json.readText_ok_iff result_steps] at hfield
    unfold documentDeleted
    rw [hv]
    change v.readText "$.result" >>= _ = _
    rw [hfield]
    rfl

theorem indexDeleted_ok_iff (index : Text) (text : String) : indexDeleted index text = .ok () ↔
    ∃ v, Document.parse (.text text) = .ok v ∧ v.field? "acknowledged" = some (.bool true) := by
  constructor
  · intro h
    obtain ⟨v, hv, h⟩ := except_bind_eq_ok h
    obtain ⟨acknowledged, hread, h⟩ := except_bind_eq_ok h
    cases acknowledged with
    | false =>
      obtain ⟨reason, -, h⟩ := except_bind_eq_ok h
      cases h
    | true =>
      rw [Json.readBool_ok_iff acknowledged_steps, Json.follow?_field] at hread
      exact ⟨v, hv, hread⟩
  · rintro ⟨v, hv, hfield⟩
    rw [← Json.follow?_field, ← Json.readBool_ok_iff acknowledged_steps] at hfield
    unfold indexDeleted
    rw [hv]
    change v.readBool "$.acknowledged" >>= _ = _
    rw [hfield]
    rfl

theorem documentDeleted_error {index id : Text} {text : String} {f : Failure}
    (h : documentDeleted index id text = .error f) :
    f.OfReading ∨ f = .client (.documentNotDeleted (.str index) (.str id) text) := by
  rcases except_bind_eq_error h with h | ⟨v, -, h⟩
  · exact .inl (Document.parse_onlyReads _ f h)
  rcases except_bind_eq_error h with h | ⟨result, -, h⟩
  · exact .inl (v.readText_onlyReads _ f h)
  split_ifs at h
  · cases h
    exact .inr rfl
  · cases h

/-! ### Denials -/

/-- The command says that there is no such thing. A deletion of an index that passes for done says so only if there was no
answer to it. -/
def Denies : Inquiry → Except Failure String → Except Failure Reply → Prop
  | .read index id, _, reply | .deleteSingle index id, _, reply =>
    ∃ r, reply = .error (.client (.documentMissing (.str index) (.str id) r))
  | .search request, _, reply => ∃ r, reply = .error (.client (.indexMissing request.index r))
  | .deleteIndex _, outcome, reply => (∃ f, outcome = .error f) ∧ reply = .ok .nothing
  | .indexExists _, _, reply | .pipelineExists _, _, reply | .documentExists _ _, _, reply => reply = .ok (.flag false)

/-- The cluster says that there is no such thing, and that the request is to blame. -/
def NotFound (outcome : Except Failure String) (r : ResponseError) : Prop :=
  outcome = .error (.dispatch (.response r)) ∧ r.blame = .request ∧ r.isNotFound = true

theorem denies_denial (x : Inquiry) {outcome : Except Failure String} {r : ResponseError} (h : NotFound outcome r) :
    x.Denies outcome (x.denial r) := by
  cases x with
  | read | deleteSingle | search => exact ⟨r, rfl⟩
  | deleteIndex => exact ⟨⟨_, h.1⟩, rfl⟩
  | indexExists | pipelineExists | documentExists => rfl

/-- What the cluster answers is not taken for a denial. -/
theorem verdict_not_denies (x : Inquiry) (text : String) : ¬x.Denies (.ok text) (x.verdict text) := by
  intro h
  cases x with
  | read index id =>
    obtain ⟨r, h⟩ := h
    have hreads : OnlyReads (verdict (.read index id) text) :=
      ((Document.parse_onlyReads _).bind fun v => SearchHit.read_onlyReads v "$").bind fun _ => .ok _
    cases hreads _ h
  | deleteSingle index id =>
    obtain ⟨r, h⟩ := h
    rcases except_bind_eq_error h with h | ⟨_, -, h⟩
    · rcases documentDeleted_error h with h | h <;> cases h
    · cases h
  | search request =>
    obtain ⟨r, h⟩ := h
    have hreads : OnlyReads (verdict (.search request) text) :=
      (SearchResponse.parse_onlyReads text _).bind fun _ => .ok _
    cases hreads _ h
  | deleteIndex =>
    obtain ⟨⟨f, h⟩, -⟩ := h
    cases h
  | indexExists | pipelineExists | documentExists => cases h

/-- No failure of a call is a denial by itself. -/
theorem not_denies_dispatched (x : Inquiry) {f : Failure} (h : Cluster.Dispatched f) : ¬x.Denies (.error f) (.error f) := by
  intro hdenies
  cases x with
  | read | deleteSingle | search =>
    obtain ⟨r, hr⟩ := hdenies
    cases hr
    rcases h with ⟨g, hg⟩ | ⟨m, hm⟩
    · cases hg
    · cases hm
  | deleteIndex => cases hdenies.2
  | indexExists | pipelineExists | documentExists => cases hdenies

/-- What is made of the outcome of the one call of a command. -/
structure Faithful (x : Inquiry) (outcome : Except Failure String) (reply : Except Failure Reply) : Prop where
  /-- It is said that there is no such thing just if the cluster says so, and this is the cause. -/
  denies : x.Denies outcome reply ↔ ∃ r, NotFound outcome r
  cause (r : ResponseError) : NotFound outcome r → reply = x.denial r
  /-- Every other failure is passed on. -/
  unchanged (f : Failure) : outcome = .error f → (∀ r, ¬NotFound outcome r) → reply = .error f
  documentDeleted (index id : Text) (text : String) : x = .deleteSingle index id → outcome = .ok text →
    ((∃ a, reply = .ok a) ↔
      ∃ v, Document.parse (.text text) = .ok v ∧ v.field? "result" = some (.str "deleted"))
  indexDeleted (index : Text) (text : String) : x = .deleteIndex index → outcome = .ok text →
    ((∃ a, reply = .ok a) ↔
      ∃ v, Document.parse (.text text) = .ok v ∧ v.field? "acknowledged" = some (.bool true))
  found (text : String) : ((∃ index, x = .indexExists index) ∨ (∃ name, x = .pipelineExists name) ∨
    ∃ index id, x = .documentExists index id) → outcome = .ok text → reply = .ok (.flag true)

theorem notFound_error_iff {f : Failure} {r : ResponseError} : NotFound (.error f) r ↔ notFound? f = some r := by
  rw [notFound?_eq_some_iff, NotFound, Except.error.injEq]

theorem faithful_of_notFound (x : Inquiry) {outcome : Except Failure String} {r : ResponseError} (h : NotFound outcome r) :
    x.Faithful outcome (x.denial r) where
  denies := iff_of_true (denies_denial x h) ⟨r, h⟩
  cause r' h' := by
    cases h.1.symm.trans h'.1
    rfl
  unchanged f _ hnot := absurd h (hnot r)
  documentDeleted index id text _ hanswer := by cases h.1.symm.trans hanswer
  indexDeleted index text _ hanswer := by cases h.1.symm.trans hanswer
  found text _ hanswer := by cases h.1.symm.trans hanswer

theorem faithful_of_failed (x : Inquiry) {f : Failure} (h : Cluster.Dispatched f) (hnot : ∀ r, ¬NotFound (.error f) r) :
    x.Faithful (.error f) (.error f) where
  denies := by
    refine iff_of_false (not_denies_dispatched x h) ?_
    rintro ⟨r, hr⟩
    exact hnot r hr
  cause r hr := absurd hr (hnot r)
  unchanged g hg _ := by
    cases hg
    rfl
  documentDeleted index id text _ hanswer := by cases hanswer
  indexDeleted index text _ hanswer := by cases hanswer
  found text _ hanswer := by cases hanswer

/-- A reply that says nothing is there just if what it follows has succeeded. -/
theorem nothing_ok_iff {e : Except Failure Unit} :
    (∃ a : Reply, (e >>= fun _ => .ok .nothing : Except Failure Reply) = .ok a) ↔ e = .ok () := by
  cases e with
  | error f => exact iff_of_false nofun nofun
  | ok u => exact iff_of_true ⟨_, rfl⟩ rfl

theorem faithful_of_answered (x : Inquiry) (text : String) : x.Faithful (.ok text) (x.verdict text) where
  denies := by
    refine iff_of_false (verdict_not_denies x text) ?_
    rintro ⟨r, hr⟩
    cases hr.1
  cause r hr := by cases hr.1
  unchanged f hf := by cases hf
  documentDeleted index id text' hx hanswer := by
    subst hx
    cases hanswer
    exact nothing_ok_iff.trans (documentDeleted_ok_iff index id text)
  indexDeleted index text' hx hanswer := by
    subst hx
    cases hanswer
    exact nothing_ok_iff.trans (indexDeleted_ok_iff index text)
  found text' hx _ := by
    rcases hx with ⟨index, rfl⟩ | ⟨name, rfl⟩ | ⟨index, id, rfl⟩
    · rfl
    · rfl
    · rfl

theorem settle_faithful (x : Inquiry) {outcome : Except Failure String}
    (h : ∀ f, outcome = .error f → Cluster.Dispatched f) :
    x.Faithful outcome (settle x.verdict x.denial outcome) := by
  cases outcome with
  | ok text => exact faithful_of_answered x text
  | error f =>
    cases hf : notFound? f with
    | some r =>
      rw [settle, hf]
      exact faithful_of_notFound x (notFound_error_iff.2 hf)
    | none =>
      rw [settle, hf]
      apply faithful_of_failed x (h f rfl)
      intro r
      rw [notFound_error_iff, hf]
      exact nofun

theorem Sound.question {library : QueryLibrary} {x : Inquiry} (h : x.Sound library) : ∃ q, x.question library = .ok q := by
  cases x with
  | search r =>
    obtain ⟨p, hp, hspellable⟩ := h
    rw [Inquiry.question, hp.body_eq hspellable]
    exact ⟨_, rfl⟩
  | _ => exact ⟨_, rfl⟩

/-- A command asks the cluster its one question, and what it makes of the outcome is faithful. -/
theorem inquiry_faithful (x : Inquiry) (c : Client) (h : x.Sound c.library) : ∃ q outcome reply d,
    x.question c.library = .ok q ∧ Dialogue c [(q, outcome)] d ∧ (run x.command).runOn c = (reply, d) ∧
      x.Faithful outcome reply := by
  obtain ⟨q, hq⟩ := h.question
  refine ⟨q, (q.asked.runOn c).1, settle x.verdict x.denial (q.asked.runOn c).1, (q.asked.runOn c).2, hq,
    Dialogue.once_iff.2 rfl, command_settled hq, ?_⟩
  apply settle_faithful
  intro f hf
  exact Question.asked_error hf

def deletedAnswer : String := "\x7b\"result\":\"deleted\"\x7d"

/-- A network whose store has one document, which can be deleted, and nothing else. -/
def sparse : Cluster.Network where
  respond _ r :=
    if r.target = "/docs/_doc/1" then .response (.int 200) (.text deletedAnswer) else .response (.int 404) (.text "")

def lonely : Client := { novice with cluster := Cluster.twins sparse }

def saysNotFound : Except Failure String → Bool
  | .error f => (notFound? f).isSome
  | .ok _ => false

theorem exists_notFound {outcome : Except Failure String} (h : saysNotFound outcome = true) : ∃ r, NotFound outcome r := by
  cases outcome with
  | error f =>
    obtain ⟨r, hr⟩ := Option.isSome_iff_exists.1 h
    exact ⟨r, notFound_error_iff.2 hr⟩
  | ok text => cases h

/-- A search in an index that is not there fails with what the cluster says as the cause, and the deletion of a document that
is there succeeds. -/
theorem inquiry_faithful_of_sparse : Sound .standard (.search SearchRequest.full) ∧
    Sound .standard (.deleteSingle "docs" "1") ∧
    (∃ r d, (run (.search SearchRequest.full)).runOn lonely = (.error (.client (.indexMissing (.str "docs") r)), d)) ∧
    ∃ reply d, (run (.deleteSingle (.str "docs") (.str "1"))).runOn lonely = (.ok reply, d) := by
  have hsound : Sound .standard (.search SearchRequest.full) :=
    ⟨SearchRequest.fullParts, SearchRequest.full_asks, by decide, by decide⟩
  refine ⟨hsound, trivial, ?_, ?_⟩
  · obtain ⟨q, outcome, reply, d, hq, hdialogue, hrun, hfaithful⟩ := inquiry_faithful _ lonely hsound
    cases hq
    have hdenied := congrArg (fun answered => saysNotFound answered.1) (Dialogue.once_iff.1 hdialogue)
    obtain ⟨r, hr⟩ := exists_notFound (hdenied.symm.trans (by decide +kernel))
    rw [hfaithful.cause r hr] at hrun
    exact ⟨r, d, hrun⟩
  · obtain ⟨q, outcome, reply, d, hq, hdialogue, hrun, hfaithful⟩ :=
      inquiry_faithful (.deleteSingle "docs" "1") lonely trivial
    cases hq
    have houtcome : (Question.asked ⟨"DELETE", placeOf "docs" "1", .none, []⟩ |>.runOn lonely).1.toOption =
        some deletedAnswer := by decide +kernel
    rw [Dialogue.once_iff.1 hdialogue] at houtcome
    have hparse : Document.parse (.text deletedAnswer) = .ok (.obj [("result", .str "deleted")]) := by cbv
    cases outcome with
    | error f => cases houtcome
    | ok text =>
      obtain rfl : text = deletedAnswer := Option.some.inj houtcome
      obtain ⟨a, ha⟩ := (hfaithful.documentDeleted "docs" "1" deletedAnswer rfl rfl).2 ⟨_, hparse, rfl⟩
      rw [ha] at hrun
      exact ⟨a, d, hrun⟩

/-- An answer that says that a document is deleted, and a number of more digits than a numeral may have. -/
@[irreducible] def longAnswer : String :=
  String.ofList ("\x7b\"result\":\"deleted\",\"n\":1".toList ++ List.replicate 4300 '0' ++ "\x7d".toList)

/-- A client whose cluster answers so, whatever it is asked. -/
def burdened : Client :=
  { novice with cluster := Cluster.twins ⟨fun _ _ => .response (.int 200) (.text longAnswer), fun _ _ => none⟩ }

theorem longAnswer_points : (Text.ofString longAnswer).points =
    ("\x7b\"result\":\"deleted\",\"n\":1".toList ++ List.replicate 4300 '0' ++ "\x7d".toList).map .char := by
  unfold longAnswer
  rw [Text.ofString, String.toList_ofList]
  rfl

/-- Where one digit more is allowed, the answer is read. -/
theorem longAnswer_read : ∃ v, Json.readPoints 4301 (Text.ofString longAnswer).points = .ok v ∧
    v.field? "result" = some (.str "deleted") := by
  have hresult : ((Json.readPoints 4301 (Text.ofString longAnswer).points).toOption.bind fun v =>
      (v.readText "$.result").toOption) = some (Text.ofString "deleted") := by
    rw [longAnswer_points]
    decide +kernel
  cases hv : Json.readPoints 4301 (Text.ofString longAnswer).points with
  | error f =>
    rw [hv] at hresult
    cases hresult
  | ok v =>
    rw [hv] at hresult
    have htext : v.readText "$.result" = .ok "deleted" := by
      cases h : v.readText "$.result" with
      | error f => exact absurd hresult (by simp [h, Except.toOption])
      | ok t => simpa [h, Except.toOption] using hresult
    rw [Json.readText_ok_iff result_steps, Json.follow?_field] at htext
    exact ⟨v, rfl, htext⟩

/-- The document that the answer would be is not read. -/
theorem longAnswer_refused : ∃ f, Document.parse (.text longAnswer) = .error f := by
  have hnone : (Json.parse longAnswer).toOption.isNone = true := by
    unfold Json.parse
    rw [longAnswer_points]
    decide +kernel
  cases h : Json.parse longAnswer with
  | error f =>
    refine ⟨.read (.malformed f), ?_⟩
    simp only [Document.parse, h]
    rfl
  | ok v =>
    rw [h] at hnone
    cases hnone

/-- What the client is answered. -/
theorem burdened_asked {q : Question} {target : String} {payload : Option Cluster.Payload}
    (h : Cluster.encode (some q.path) q.body q.params = .ok (target, payload)) :
    ∃ d, q.asked.runOn burdened = (.ok longAnswer, d) := by
  have hready : burdened.cluster.Ready := (Cluster.twins_reachable _).ready
  have hanswer (e : String) : ∃ i answer, burdened.cluster.world.network.respond burdened.cluster.world.requests
      ⟨e, Text.upperCase q.method, target, payload⟩ = .response (.int i) answer ∧
        200 ≤ i ∧ i < 300 ∧ answer.text? = some longAnswer :=
    ⟨200, .text longAnswer, rfl, by decide, by decide, Text.string?_ofString _⟩
  obtain ⟨e, d, hcall, -⟩ := Cluster.call_answered hready (by decide)
    (show burdened.cluster.retryBudget = .ok 1 from rfl) q.method h hanswer
  refine ⟨{ burdened with cluster := d }, ?_⟩
  have hasked : q.asked.runOn burdened = ((burdened.cluster.call q.method (some q.path) q.body q.params).1,
    { burdened with cluster := (burdened.cluster.call q.method (some q.path) q.body q.params).2 }) := rfl
  rw [hasked, hcall]

/-- Numbers of more digits than a numeral may have are an obstacle. A search that asks for so many hits asks the cluster
nothing; and though an answer is written as documents are, and says that a document is deleted, the deletion fails. -/
theorem numerals_obstruct :
    (({ SearchRequest.full with size := SearchRequest.overlongSize }).Asks .standard
        { SearchRequest.fullParts with size := SearchRequest.overlongSize } ∧
      (run (.search { SearchRequest.full with size := SearchRequest.overlongSize })).runOn lonely =
        (.error (.misuse .overlongNumber), lonely)) ∧
    ∃ q d f, question .standard (.deleteSingle "docs" "1") = .ok q ∧ Dialogue burdened [(q, .ok longAnswer)] d ∧
      (∃ v, Json.readPoints 4301 (Text.ofString longAnswer).points = .ok v ∧ v.field? "result" = some (.str "deleted")) ∧
      (run (.deleteSingle (.str "docs") (.str "1"))).runOn burdened = (.error f, d) := by
  constructor
  · refine ⟨SearchRequest.overlong_asks, ?_⟩
    rw [run]
    exact runOn_bind_error (SearchRequest.search_refused SearchRequest.overlong_refused)
  · have hq : question burdened.library (.deleteSingle "docs" "1") = .ok ⟨"DELETE", placeOf "docs" "1", .none, []⟩ := rfl
    have hencode : Cluster.encode (some (placeOf "docs" "1")) .none [] =
      .ok (Cluster.targetOf (placeOf "docs" "1") [], none) := rfl
    obtain ⟨d, hasked⟩ := @burdened_asked ⟨"DELETE", placeOf "docs" "1", .none, []⟩ _ _ hencode
    obtain ⟨f, hf⟩ := longAnswer_refused
    have hrun := command_settled hq
    refine ⟨_, d, f, hq, Dialogue.once_iff.2 hasked, longAnswer_read, hrun.trans ?_⟩
    have hdeleted : documentDeleted "docs" "1" longAnswer = .error f := except_bind_of_error hf
    have hverdict : verdict (.deleteSingle "docs" "1") longAnswer = .error f := except_bind_of_error hdeleted
    rw [hasked]
    exact congrArg (·, d) hverdict

end Inquiry

end DocumentStore.Client
