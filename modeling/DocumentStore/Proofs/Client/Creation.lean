import DocumentStore.Proofs.Client.Closed
import DocumentStore.Proofs.Client.Dialogue
import DocumentStore.Proofs.Reading

/-! How indices are made. An index is put, and only if that was answered its health is asked for; that it is there already
is told from the body of the answer, and from nothing else. The indices of the settings are made one after the other, each
from its mapping as it stands. -/

namespace DocumentStore.Client

open Effect
open Cluster (Request)

/-! ### What is asked, and what the answers say -/

def putOf (index : Text) (body : Cluster.Body) : Question := ⟨"PUT", index, body, []⟩

def healthOf (index : Text) : Question :=
  ⟨"GET", "_cluster/health/" ++ index, .none,
    [(.str "wait_for_status", .str "yellow"), (.str "timeout", .str healthTimeout)]⟩

/-- The answer is a document whose status is missing, null or a text. -/
def TellsHealth (answer : String) : Prop :=
  ∃ v, Document.parse (.text answer) = .ok v ∧
    (v.field? "status" = none ∨ v.field? "status" = some .null ∨ ∃ t, v.field? "status" = some (.str t))

/-- The request is to blame, and the body of the answer is a document with a text for the type of its error that has the
marker in it. -/
def SaysExists (r : ResponseError) : Prop :=
  r.blame = .request ∧ ∃ body v t, r.body = .str body ∧ Document.parse (.text body) = .ok v ∧
    (v.field? "error").bind (·.field? "type") = some (.str t) ∧ alreadyExists.toList.map CodePoint.char <:+: t.points

/-- The index is put, and just if that was answered its health is asked for. -/
inductive Attempted (index : Text) (body : Cluster.Body) : List (Question × Except Failure String) → Prop
  | failed (f : Failure) : Attempted index body [(putOf index body, .error f)]
  | answered (text : String) (health : Except Failure String) :
      Attempted index body [(putOf index body, .ok text), (healthOf index, health)]

/-- What creating an index comes to, by the outcomes of what is asked. -/
structure Creates (index : Text) (body : Cluster.Body) (lenient : Bool) (turns : List (Question × Except Failure String))
    (reply : Except Failure Bool) : Prop where
  attempted : Attempted index body turns
  created : reply = .ok true ↔
    ∃ text health, turns = [(putOf index body, .ok text), (healthOf index, .ok health)] ∧ TellsHealth health
  existing : reply = .ok false ↔
    lenient = true ∧ ∃ r, turns = [(putOf index body, .error (.dispatch (.response r)))] ∧ SaysExists r
  refused (r : ResponseError) : (∃ i, reply = .error (.client (.indexExists i r))) ↔
    lenient = false ∧ turns = [(putOf index body, .error (.dispatch (.response r)))] ∧ SaysExists r
  /-- Every other failure is passed on, whatever the body of its answer. -/
  unchanged (f : Failure) : turns = [(putOf index body, .error f)] →
    (∀ r, f = .dispatch (.response r) → ¬SaysExists r) → reply = .error f
  unhealthy (text : String) (f : Failure) :
    turns = [(putOf index body, .ok text), (healthOf index, .error f)] → reply = .error f
  unreadable (text health : String) : turns = [(putOf index body, .ok text), (healthOf index, .ok health)] →
    ¬TellsHealth health → ∃ f, f.OfReading ∧ reply = .error f

section Creates

variable {index : Text} {body : Cluster.Body} {lenient : Bool} {f : Failure}

/-- No failure of a call is one of the client. -/
theorem not_client_of_dispatched (h : Cluster.Dispatched f) (g : ClientFailure) : f ≠ .client g := by
  rintro rfl
  rcases h with ⟨_, h⟩ | ⟨_, h⟩ <;> cases h

end Creates

/-- Whether the index for documents has a mapping: not where the store finds it out from inner objects. -/
def documentMapped (s : Settings) : Bool := !(s.addAsInnerObject.truthy && (s.jsonSupport.truthy || s.xmlSupport.truthy))

/-- What comes of one index of the settings. Without a mapping nothing is sent; otherwise the index is made from what it is
put with, byte for byte, and one that is there already will do. -/
inductive Handles (c : Client) (index : Text) : Except Failure Cluster.Body → Except Failure Bool → Client → Prop
  | missing (f : Failure) : Handles c index (.error f) (.error f) c
  | made {body : Cluster.Body} {turns : List (Question × Except Failure String)} {reply : Except Failure Bool} {d : Client}
      (sent : List Request) (hdialogue : Dialogue c turns d) (hcreates : Creates index body true turns reply)
      (hsent : d.cluster.world.requests = c.cluster.world.requests ++ sent)
      (hbody : ∀ r ∈ sent, r.method = "PUT" → r.payload = body.payload) : Handles c index (.ok body) reply d

theorem Handles.frame {c d : Client} {index : Text} {plan : Except Failure Cluster.Body} {reply : Except Failure Bool}
    (h : Handles c index plan reply d) : d = { c with cluster := d.cluster } := by
  cases h with
  | missing => rfl
  | made _ hdialogue => exact hdialogue.frame

theorem createIndices_runOn {c : Client} (h : c.settings.index.truthy = true) : createIndices.runOn c = (do
    createConfigured (documentMapped c.settings) documentMapping c.settings.index
    createConfigured c.settings.indexFolders.truthy folderMapping c.settings.indexFolder : Effect Client Unit).runOn c := by
  unfold createIndices
  rw [runOn_bind_ok (runOn_getThe c)]
  dsimp only
  rw [h]
  rfl

/-- A network whose store has an index for documents already. -/
def taken : Cluster.Network where
  respond _ r :=
    if r.target = "/docs" then
      .response (.int 400) (.text "\x7b\"error\":\x7b\"type\":\"resource_already_exists_exception\"\x7d\x7d")
    else .response (.int 200) (.text "\x7b\"status\":\"green\"\x7d")

end DocumentStore.Client
