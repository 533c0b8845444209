import DocumentStore.Client.Run
import DocumentStore.Proofs.Cluster.Failover
import DocumentStore.Proofs.Effect

/-! What a client asks of its cluster, one question after the other, and what it makes of an answer. A command that asks once
is its question, followed by a judgement of what that came to. -/

namespace DocumentStore.Client

open Effect
open Cluster (Request targetOf)

variable {α β : Type}

/-- A question to the cluster, whichever node is to answer it. -/
structure Question where
  method : String
  path : Text
  body : Cluster.Body := .none
  params : Cluster.Params := []

namespace Question

def asked (q : Question) : Effect Client String := call q.method (some q.path) q.body q.params

/-- A request that asks the question. -/
def AskedBy (q : Question) (r : Request) : Prop :=
  r.method = Text.upperCase q.method ∧ r.target = targetOf (some q.path) q.params ∧ r.payload = q.body.payload

theorem asked_error {q : Question} {c : Client} {f : Failure} (h : (q.asked.runOn c).1 = .error f) :
    Cluster.Dispatched f := Cluster.call_error h

end Question

/-! ### Dialogues -/

/-- The questions that lead a client from one state to another, each with what it came to; nothing else happens. -/
inductive Dialogue : Client → List (Question × Except Failure String) → Client → Prop
  | done (c : Client) : Dialogue c [] c
  | ask {c d e : Client} {q : Question} {outcome : Except Failure String}
    {turns : List (Question × Except Failure String)} (h : q.asked.runOn c = (outcome, d))
    (hrest : Dialogue d turns e) : Dialogue c ((q, outcome) :: turns) e

namespace Dialogue

variable {c d : Client} {turns : List (Question × Except Failure String)} {q : Question} {outcome : Except Failure String}

theorem once_iff : Dialogue c [(q, outcome)] d ↔ q.asked.runOn c = (outcome, d) := by
  constructor
  · intro h
    cases h with
    | ask h hrest =>
      cases hrest
      exact h
  · intro h
    exact .ask h (.done d)

/-- Nothing but the cluster is another after a dialogue. -/
theorem frame (h : Dialogue c turns d) : d = { c with cluster := d.cluster } := by
  induction h with
  | done => rfl
  | @ask c d e q outcome turns h _ ih =>
    obtain rfl : (q.asked.runOn c).2 = d := congrArg Prod.snd h
    rw [ih]
    rfl

/-- Every request of a dialogue asks one of its questions. -/
theorem requests (h : Dialogue c turns d) : ∃ sent : List Request,
    d.cluster.world.requests = c.cluster.world.requests ++ sent ∧ ∀ r ∈ sent, ∃ turn ∈ turns, turn.1.AskedBy r := by
  induction h with
  | done => exact ⟨[], by simp, by simp⟩
  | @ask c d e q outcome turns h _ ih =>
    obtain ⟨sent, hsent, hasked⟩ := ih
    obtain ⟨first, hfirst, halike, -⟩ := Cluster.call_requests c.cluster q.method (some q.path) q.body q.params
    obtain rfl : (q.asked.runOn c).2 = d := congrArg Prod.snd h
    have hround : (q.asked.runOn c).2.cluster.world.requests = c.cluster.world.requests ++ first := hfirst
    refine ⟨first ++ sent, by rw [hsent, hround, List.append_assoc], ?_⟩
    intro r hr
    rcases List.mem_append.1 hr with hr | hr
    · exact ⟨(q, outcome), List.mem_cons_self, halike r hr⟩
    · obtain ⟨turn, hturn, hasks⟩ := hasked r hr
      exact ⟨turn, List.mem_cons_of_mem _ hturn, hasks⟩

end Dialogue

/-! ### What is made of an answer -/

/-- What the cluster answered, if it was that there is no such thing. -/
def notFound? : Failure → Option ResponseError
  | .dispatch (.response r) => if r.blame = .request && r.isNotFound then some r else none
  | _ => none

theorem notFound?_eq_some_iff {f : Failure} {r : ResponseError} :
    notFound? f = some r ↔ f = .dispatch (.response r) ∧ r.blame = .request ∧ r.isNotFound = true := by
  unfold notFound?
  split
  · rename_i r'
    simp only [Bool.and_eq_true, decide_eq_true_eq, Option.ite_none_right_eq_some, Option.some.injEq, Failure.dispatch.injEq,
      DispatchFailure.response.injEq]
    constructor
    · rintro ⟨h, rfl⟩
      exact ⟨rfl, h⟩
    · rintro ⟨rfl, h⟩
      exact ⟨h, rfl⟩
  · rename_i hnone
    simp only [reduceCtorEq, false_iff, not_and]
    intro h
    exact absurd h (hnone r)

theorem orMissing_runOn (e : Effect Client α) (k : ResponseError → Effect Client α) (c : Client) :
    (orMissing e k).runOn c = match e.runOn c with
      | (.ok a, d) => (.ok a, d)
      | (.error f, d) => match notFound? f with
        | some r => (k r).runOn d
        | none => (.error f, d) := by
  unfold orMissing
  rw [runOn_bind_ok (runOn_outcome e c)]
  rcases e.runOn c with ⟨f | a, d⟩
  · cases f with
    | dispatch g =>
      cases g with
      | response r =>
        dsimp only [notFound?]
        split_ifs <;> rfl
      | transport => rfl
    | _ => rfl
  · rfl

/-- What is made of an outcome: the text of an answer has a verdict, that there is no such thing has another, and any other
failure is passed on. -/
def settle (verdict : String → Except Failure α) (missing : ResponseError → Except Failure α) :
    Except Failure String → Except Failure α
  | .ok text => verdict text
  | .error f => match notFound? f with
    | some r => missing r
    | none => .error f

/-- The computation asks another one, and settles what that comes to. -/
def Settled (e : Effect Client String) (verdict : String → Except Failure α) (missing : ResponseError → Except Failure α)
    (e' : Effect Client α) : Prop :=
  ∀ c, e'.runOn c = (settle verdict missing (e.runOn c).1, (e.runOn c).2)

variable {e : Effect Client String} {verdict : String → Except Failure α} {missing : ResponseError → Except Failure α}

theorem settled_orMissing {e' : Effect Client α} {g : String → α} {k : ResponseError → Effect Client α}
    (he : ∀ c, e'.runOn c = ((e.runOn c).1.map g, (e.runOn c).2)) (hk : ∀ r, k r = Effect.ofExcept (missing r)) :
    Settled e (fun text => .ok (g text)) missing (orMissing e' k) := by
  intro c
  rw [orMissing_runOn, he c]
  cases (e.runOn c).1 with
  | ok text => rfl
  | error f =>
    dsimp only [Except.map, settle]
    cases notFound? f with
    | none => rfl
    | some r =>
      dsimp only
      rw [hk r]
      rfl

theorem settle_bind (outcome : Except Failure String) (g : α → Except Failure β) :
    (settle verdict missing outcome >>= g) = settle (fun text => verdict text >>= g) (fun r => missing r >>= g) outcome := by
  cases outcome with
  | ok text => rfl
  | error f =>
    unfold settle
    dsimp only
    cases notFound? f <;> rfl

theorem Settled.bind {e' : Effect Client α} (h : Settled e verdict missing e') {k : α → Effect Client β}
    {g : α → Except Failure β} (hk : ∀ a, k a = Effect.ofExcept (g a)) :
    Settled e (fun text => verdict text >>= g) (fun r => missing r >>= g) (e' >>= k) := by
  intro c
  rw [runOn_bind, h c, ← settle_bind]
  cases settle verdict missing (e.runOn c).1 with
  | error f => rfl
  | ok a =>
    dsimp only
    rw [hk a]
    rfl

theorem runOn_bind_ofExcept (e : Effect Client α) (g : α → Except Failure β) (c : Client) :
    (e >>= fun a => Effect.ofExcept (g a)).runOn c = ((e.runOn c).1 >>= g, (e.runOn c).2) := by
  rw [runOn_bind]
  rcases e.runOn c with ⟨_ | _, _⟩ <;> rfl

theorem ofExcept_bind {r : Except Failure α} {k : α → Effect Client β} {g : α → Except Failure β}
    (hk : ∀ a, k a = Effect.ofExcept (g a)) : Effect.ofExcept r >>= k = Effect.ofExcept (r >>= g) := by
  cases r with
  | error f => rfl
  | ok a => exact hk a

theorem ofExcept_if (p : Prop) [Decidable p] {e : Effect Client Unit} {x : Except Failure Unit} (h : e = Effect.ofExcept x) :
    (if p then e else pure ()) = Effect.ofExcept (if p then x else pure ()) := by
  split_ifs
  · exact h
  · rfl

theorem pathOf_text (t : Text) : Cluster.pathOf (.str t) = .ok (if t.isEmpty then none else some t) := by
  obtain ⟨_ | _⟩ := t <;> rfl

/-- A text that is empty names the same place as no path at all. -/
theorem callAt_text (method : String) (t : Text) (body : Cluster.Body) :
    callAt method (.str t) body = Question.asked ⟨method, t, body, []⟩ := by
  unfold callAt
  rw [pathOf_text]
  obtain ⟨_ | _⟩ := t <;> rfl

end DocumentStore.Client
