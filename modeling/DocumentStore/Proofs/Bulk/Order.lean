import DocumentStore.Proofs.Bulk.Conservation
import DocumentStore.Proofs.Bulk.Delivery

/-! What becomes of a document when what the store refuses is submitted again. The store takes the operations of a batch
in the order of how often it refuses them, so that the last one on a document has the last word unless another one of
its batch is refused more often. -/

namespace DocumentStore.Bulk

section rank

variable {β γ : Type}

/-- To go through the ranks is to go through all that have one of them. -/
theorem flatMap_rank_perm (l : List (β × Nat)) (n : Nat) :
    ((List.range n).flatMap fun k => l.filter (·.2 = k)).Perm (l.filter (·.2 < n)) := by
  induction n with
  | zero => simp
  | succ n ih =>
    have hsplit := List.filter_append_perm (fun p => decide (p.2 < n)) (l.filter (·.2 < n + 1))
    rw [List.filter_filter, List.filter_filter] at hsplit
    rw [List.range_succ, List.flatMap_append, List.flatMap_singleton]
    refine (List.Perm.append ih (.refl _)).trans ((List.Perm.of_eq ?_).trans hsplit)
    congr 1
    · refine List.filter_congr fun p _ => ?_
      rw [← Bool.decide_and, decide_eq_decide]
      omega
    · refine List.filter_congr fun p _ => ?_
      rw [← decide_not, ← Bool.decide_and, decide_eq_decide]
      omega

/-- Among some things that have ranks there is a last one of the highest rank. -/
theorem exists_last_highest {l : List (β × Nat)} (hne : l ≠ []) : ∃ before x r after,
    l = before ++ (x, r) :: after ∧ (∀ p ∈ before, p.2 ≤ r) ∧ ∀ p ∈ after, p.2 < r := by
  induction l with
  | nil => exact absurd rfl hne
  | cons p l ih =>
    by_cases hl : l = []
    · exact ⟨[], p.1, p.2, [], by rw [hl]; rfl, by simp, by simp⟩
    · obtain ⟨before, x, r, after, rfl, hbefore, hafter⟩ := ih hl
      by_cases hp : p.2 ≤ r
      · exact ⟨p :: before, x, r, after, rfl, by simpa using ⟨hp, fun a k h => hbefore (a, k) h⟩, hafter⟩
      · refine ⟨[], p.1, p.2, before ++ (x, r) :: after, rfl, by simp, fun q hq => ?_⟩
        rcases List.mem_append.1 hq with hq | hq
        · have := hbefore q hq
          omega
        · rcases List.mem_cons.1 hq with rfl | hq
          · omega
          · have := hafter q hq
            omega

/-- Whoever goes through the ranks comes to the last one of the highest rank in the end. -/
theorem getLast?_flatMap_rank {before after : List (β × Nat)} {x : β} {r n : Nat} (hr : r < n)
    (hbefore : ∀ p ∈ before, p.2 ≤ r) (hafter : ∀ p ∈ after, p.2 < r) :
    ((List.range n).flatMap fun k => (before ++ (x, r) :: after).filter (·.2 = k)).getLast? = some (x, r) := by
  induction n with
  | zero => omega
  | succ n ih =>
    rw [List.range_succ, List.flatMap_append, List.flatMap_singleton]
    have hrest (k : Nat) (hk : r ≤ k) : after.filter (·.2 = k) = [] := by
      refine List.filter_eq_nil_iff.2 fun p hp => ?_
      have := hafter p hp
      simp only [decide_eq_true_eq]
      omega
    by_cases hn : r = n
    · subst hn
      simp [hrest r le_rfl]
    · have hnone : (before ++ (x, r) :: after).filter (·.2 = n) = [] := by
        rw [List.filter_append, List.filter_cons_of_neg (by simpa using hn), hrest n (by omega), List.append_nil]
        refine List.filter_eq_nil_iff.2 fun p hp => ?_
        have := hbefore p hp
        simp only [decide_eq_true_eq]
        omega
      rw [hnone, List.append_nil]
      exact ih (by omega)

/-- The last of some lists that has an end has the end of all. -/
theorem getLast?_flatMap (f : γ → List β) (xs : List γ) :
    (xs.flatMap f).getLast? = (xs.filter fun x => !(f x).isEmpty).getLast?.bind fun x => (f x).getLast? := by
  induction xs using List.reverseRecOn with
  | nil => rfl
  | append_singleton xs x ih =>
    rw [List.flatMap_append, List.flatMap_singleton, List.filter_append]
    cases hx : f x with
    | nil => simpa [hx] using ih
    | cons y ys =>
      have hlast : (y :: ys).getLast? = some ((y :: ys).getLast (by simp)) := List.getLast?_eq_some_getLast _
      simp [hx, List.getLast?_append, hlast]

end rank

namespace Shipment

variable {s : Shipment} {index id : Text} {op : Operation}

/-- The operations on a document. -/
def on (s : Shipment) (index id : Text) : List (Operation × Nat) := s.ranked.filter (·.1.concerns index id)

/-- The store takes all operations in the end. -/
def Complete (s : Shipment) : Prop := ∀ p ∈ s.ranked, p.2 < s.rounds

/-- No operation on the document is refused more often than this one, and later ones are refused less often. -/
def Decides (s : Shipment) (index id : Text) (op : Operation) : Prop :=
  ∃ before r after, s.on index id = before ++ (op, r) :: after ∧ (∀ p ∈ before, p.2 ≤ r) ∧ ∀ p ∈ after, p.2 < r

/-- No operation on the document is refused more often than the last one. -/
def InOrder (s : Shipment) (index id : Text) : Prop :=
  ∀ last ∈ (s.on index id).getLast?, ∀ p ∈ s.on index id, p.2 ≤ last.2

theorem filter_operations (s : Shipment) (index id : Text) :
    s.operations.filter (·.concerns index id) = (s.on index id).map Prod.fst := by
  unfold operations on
  rw [List.filter_map]
  rfl

theorem filter_inTurn (s : Shipment) (index id : Text) :
    s.inTurn.filter (·.concerns index id) =
      ((List.range s.rounds).flatMap fun k => (s.on index id).filter (·.2 = k)).map Prod.fst := by
  unfold inTurn on
  rw [List.filter_flatMap, List.map_flatMap]
  refine List.flatMap_congr fun k _ => ?_
  rw [List.filter_map, List.filter_filter, List.filter_filter]
  simp only [Function.comp_apply, Bool.and_comm]

theorem inTurn_length (s : Shipment) : s.inTurn.length = (s.ranked.filter (·.2 < s.rounds)).length := by
  unfold inTurn
  rw [← List.map_flatMap, List.length_map]
  exact (flatMap_rank_perm s.ranked s.rounds).length_eq

theorem inTurn_length_le (s : Shipment) : s.inTurn.length ≤ s.operations.length := by
  unfold operations
  rw [inTurn_length, List.length_map]
  exact List.length_filter_le _ _

theorem complete_of_length (h : s.operations.length ≤ s.inTurn.length) : s.Complete := by
  unfold operations at h
  rw [inTurn_length, List.length_map] at h
  have hall := List.length_filter_eq_length_iff.1 (Nat.le_antisymm (List.length_filter_le _ _) h)
  simpa [Complete] using hall

/-- If as many operations are taken as there are, no batch keeps one back, and nothing waits. -/
theorem all_complete {shipments : List Shipment} {queue : List Operation}
    (h : (shipments.flatMap operations ++ queue).length ≤ (shipments.flatMap inTurn).length) :
    queue = [] ∧ ∀ s ∈ shipments, s.Complete := by
  have hle (shipments : List Shipment) :
      (shipments.flatMap inTurn).length ≤ (shipments.flatMap operations).length := by
    rw [List.length_flatMap, List.length_flatMap]
    exact List.sum_le_sum fun s _ => s.inTurn_length_le
  induction shipments with
  | nil => exact ⟨by simpa using h, by simp⟩
  | cons s shipments ih =>
    have hs := s.inTurn_length_le
    have hrest := hle shipments
    simp only [List.flatMap_cons, List.length_append] at h ih
    obtain ⟨hqueue, hall⟩ := ih (by omega)
    refine ⟨hqueue, fun t ht => ?_⟩
    rcases List.mem_cons.1 ht with rfl | ht
    · exact complete_of_length (by omega)
    · exact hall t ht

theorem exists_decides (h : s.on index id ≠ []) : ∃ op, s.Decides index id op := by
  obtain ⟨before, op, r, after, hl, hbefore, hafter⟩ := exists_last_highest h
  exact ⟨op, before, r, after, hl, hbefore, hafter⟩

/-- What decides about the document is the last that the store takes of what is on it. -/
theorem Decides.getLast?_inTurn (h : s.Decides index id op) (hc : s.Complete) :
    (s.inTurn.filter (·.concerns index id)).getLast? = some op := by
  obtain ⟨before, r, after, hl, hbefore, hafter⟩ := h
  have hmem : (op, r) ∈ s.on index id := by
    rw [hl]
    exact List.mem_append_right before List.mem_cons_self
  have hr : r < s.rounds := hc _ (List.mem_of_mem_filter hmem)
  rw [filter_inTurn, hl, List.getLast?_map, getLast?_flatMap_rank hr hbefore hafter]
  rfl

/-- In order, the last operation decides. -/
theorem InOrder.decides (h : s.InOrder index id) {last : Operation × Nat}
    (hlast : (s.on index id).getLast? = some last) : s.Decides index id last.1 := by
  obtain ⟨before, hl⟩ := List.getLast?_eq_some_iff.1 hlast
  refine ⟨before, last.2, [], hl, fun p hp => ?_, by simp⟩
  exact h last hlast p (by rw [hl]; exact List.mem_append_left _ hp)

end Shipment

/-- The last batch with an operation on a document. -/
def lastOn (shipments : List Shipment) (index id : Text) : Option Shipment :=
  (shipments.filter fun s => !(s.on index id).isEmpty).getLast?

section content

variable {shipments : List Shipment} {index id : Text}

theorem mem_of_lastOn {s : Shipment} (h : lastOn shipments index id = some s) :
    s ∈ shipments ∧ s.on index id ≠ [] := by
  obtain ⟨hmem, hon⟩ := List.mem_filter.1 (List.mem_of_getLast? h)
  exact ⟨hmem, by simpa using hon⟩

theorem last_operation (shipments : List Shipment) (index id : Text) :
    ((shipments.flatMap Shipment.operations).filter (·.concerns index id)).getLast? =
      (lastOn shipments index id).bind fun s => (s.on index id).getLast?.map Prod.fst := by
  rw [List.filter_flatMap]
  simp only [Shipment.filter_operations]
  rw [getLast?_flatMap]
  simp only [List.isEmpty_map, List.getLast?_map]
  rfl

theorem last_taken (hall : ∀ s ∈ shipments, s.Complete) :
    ((shipments.flatMap Shipment.inTurn).filter (·.concerns index id)).getLast? =
      (lastOn shipments index id).bind fun s => (s.inTurn.filter (·.concerns index id)).getLast? := by
  rw [List.filter_flatMap, getLast?_flatMap]
  congr 2
  refine List.filter_congr fun s hs => ?_
  by_cases hon : s.on index id = []
  · simp [Shipment.filter_inTurn, hon]
  · obtain ⟨op, hop⟩ := Shipment.exists_decides hon
    have htaken := hop.getLast?_inTurn (hall s hs)
    rw [List.isEmpty_eq_false_iff.2 hon, List.isEmpty_eq_false_iff.2 fun hnil => ?_]
    rw [hnil] at htaken
    cases htaken

end content

namespace Writer

variable {δ : Type} {store : Store δ} {make : Json → Json → δ}

/-- A store that takes every operation in the end has them batch by batch, and within a batch in the order of how often
it refused them. So what becomes of a document is decided in the last batch with an operation on it, by the operation
that was refused most often there, the last of these if there are several. This is the operation that was added last,
and the document is as if the operations had been applied one by one, unless another one of that batch was refused more
often. -/
theorem applied_in_turn {threshold flushInterval : Json} {policy : RetryPolicy} {listening : Bool} {now : Quantity}
    {p : Processor} (hp : Processor.build threshold flushInterval policy listening now = .ok p) {c : Cluster}
    (hc : c.Reachable) (hstore : store.Backs p.policy c.world.network) {ss : List Step}
    (hreads : store.Reads make (acceptedIn ss ⟨p, c⟩))
    {sent : List Cluster.Request} (hsent : (after ss ⟨p, c⟩).cluster.world.requests = c.world.requests ++ sent)
    (hall : (store.applied c.world.requests sent).Perm ((acceptedIn ss ⟨p, c⟩).map (·.write make))) :
    ∃ shipments : List Shipment,
      shipments.flatMap Shipment.operations = acceptedIn ss ⟨p, c⟩ ∧ (∀ s ∈ shipments, s.Complete) ∧
      List.Forall₂ Carries (shipments.flatMap Shipment.submissions) sent ∧
      store.applied c.world.requests sent = (shipments.flatMap Shipment.inTurn).map (·.write make) ∧
      ∀ (content : Content δ) (index id : Text),
        (∀ s ∈ lastOn shipments index id, ∃ op, s.Decides index id op ∧
          contentAfter (store.applied c.world.requests sent) content index id = (op.write make).document) ∧
        ((∀ s ∈ lastOn shipments index id, s.InOrder index id) →
          contentAfter (store.applied c.world.requests sent) content index id =
              contentAfter ((acceptedIn ss ⟨p, c⟩).map (·.write make)) content index id ∧
            ∀ last ∈ ((acceptedIn ss ⟨p, c⟩).filter (·.concerns index id)).getLast?,
              contentAfter (store.applied c.world.requests sent) content index id = (last.write make).document) := by
  obtain ⟨hqueue, -, -⟩ := build_fresh hp
  have hbacked : Backed store ⟨p, c⟩ := ⟨hc.ready, hstore⟩
  have hstart : Delivering store make c.world.requests [] ⟨p, c⟩ :=
    fun _ => ⟨hbacked, [], [], (List.append_nil _).symm, ⟨.nil, rfl⟩, by simpa using hqueue⟩
  have hrun := after_induction (fun acc w s => next_delivering) ss [] hstart
  rw [List.nil_append] at hrun
  obtain ⟨-, shipments, sent', hsent', hdelivered, hops⟩ := hrun hreads
  obtain rfl : sent' = sent := List.append_cancel_left (hsent'.symm.trans hsent)
  have happlied := hdelivered.applied
  have hlength := hall.length_eq
  rw [happlied, List.length_map, List.length_map, ← hops] at hlength
  obtain ⟨hempty, hcomplete⟩ := Shipment.all_complete hlength.ge
  rw [hempty, List.append_nil] at hops
  refine ⟨shipments, hops, hcomplete, hdelivered.carries, happlied, fun content index id => ?_⟩
  have hcontent := contentAfter_last make (shipments.flatMap Shipment.inTurn) content index id
  rw [last_taken hcomplete, ← happlied] at hcontent
  have hdecides (s : Shipment) (hs : lastOn shipments index id = some s) {op : Operation}
      (hop : s.Decides index id op) :
      contentAfter (store.applied c.world.requests sent') content index id = (op.write make).document := by
    rw [hcontent, hs, Option.bind_some, hop.getLast?_inTurn (hcomplete s (mem_of_lastOn hs).1)]
    rfl
  refine ⟨fun s hs => ?_, fun horder => ?_⟩
  · obtain ⟨op, hop⟩ := Shipment.exists_decides (mem_of_lastOn hs).2
    exact ⟨op, hop, hdecides s hs hop⟩
  · have hsame : contentAfter (store.applied c.world.requests sent') content index id =
        contentAfter ((acceptedIn ss ⟨p, c⟩).map (·.write make)) content index id := by
      rw [contentAfter_last, ← hops, last_operation]
      cases hs : lastOn shipments index id with
      | none =>
        rw [hcontent, hs]
        rfl
      | some s =>
        obtain ⟨last, hlast⟩ := Option.isSome_iff_exists.1 (List.getLast?_isSome.2 (mem_of_lastOn hs).2)
        rw [hdecides s hs ((horder s hs).decides hlast), Option.bind_some, hlast]
        rfl
    refine ⟨hsame, fun last hlast => ?_⟩
    rw [hsame, contentAfter_last, hlast]
    rfl

/-- The writes that the lines of a body ask for. -/
def writesIn : List Text → List (Write Text)
  | [] => []
  | header :: rest =>
    match Json.parse header with
    | .ok (.obj [(verb, .obj fields)]) =>
      let name (key : Text) := nameOf ((Json.lookupField fields key).getD .null)
      if verb = "delete" then ⟨name "_index", name "_id", none⟩ :: writesIn rest
      else
        match rest with
        | [] => []
        | document :: rest => ⟨name "_index", name "_id", some document⟩ :: writesIn rest
    | _ => []

def writesOf : Option Cluster.Payload → List (Write Text)
  | some (.text body) => writesIn ((body.points.splitOn (.char '\n')).map Text.mk)
  | _ => []

/-- A store that has no room for the operation at one place of the first request, if there are two of them. -/
def picky (n : Nat) : Store Text where
  reads := writesOf
  refuses earlier r place := earlier.isEmpty && (writesOf r.payload).length = 2 && place = n

/-- What such a store says to that request, and to any other. -/
def pickyAnswer (n : Nat) (first : Bool) : String :=
  let refused := "\x7b\"index\":\x7b\"error\":\x7b\"type\":\"es_rejected_execution_exception\"\x7d\x7d\x7d"
  let taken := "\x7b\"index\":\x7b\"status\":200\x7d\x7d"
  let items := if n = 0 then refused ++ "," ++ taken else taken ++ "," ++ refused
  if first then "\x7b\"errors\":true,\"items\":[" ++ items ++ "]\x7d" else "\x7b\x7d"

/-- A processor with such a store. -/
def besidePicky (n : Nat) : Writer :=
  steady ⟨fun earlier r => .response (.int 200) (.text (.ofString
    (pickyAnswer n (earlier.isEmpty && (writesOf r.payload).length = 2)))), fun _ _ => none⟩

theorem pickyAnswer_silent (n submitted : Nat) : reportedItems submitted (pickyAnswer n false) = .ok none := by
  have hsilent : (reportedItems 0 "\x7b\x7d").toOption.any Option.isNone = true := by decide +kernel
  have hnone : reportedItems 0 "\x7b\x7d" = .ok none := by
    rcases hr : reportedItems 0 "\x7b\x7d" with f | (_ | items)
    · rw [hr] at hsilent
      cases hsilent
    · rfl
    · rw [hr] at hsilent
      cases hsilent
  exact reportedItems_none hnone

theorem pickyAnswer_rejects {n : Nat} (hn : n < 2) :
    Classifiable 2 (pickyAnswer n true) ∧
      rejectedBy (besidePicky n).processor.policy (List.range 2) (pickyAnswer n true) = [n] := by
  obtain rfl | rfl : n = 0 ∨ n = 1 := by omega
  all_goals decide +kernel

theorem picky_backs {n : Nat} (hn : n < 2) :
    (picky n).Backs (besidePicky n).processor.policy (besidePicky n).cluster.world.network := by
  refine ⟨fun earlier r _ _ => ⟨200, _, _, rfl, by decide, by decide, Text.string?_ofString _, ?_⟩⟩
  cases hfirst : (earlier.isEmpty && decide ((writesOf r.payload).length = 2)) with
  | false => exact tells_of_none (pickyAnswer_silent n _) fun k => by simp [picky, hfirst]
  | true =>
    have htwo : ((picky n).reads r.payload).length = 2 := by
      simp only [Bool.and_eq_true, decide_eq_true_eq] at hfirst
      exact hfirst.2
    obtain ⟨hclass, hrejected⟩ := pickyAnswer_rejects hn
    rw [htwo]
    refine tells_of_rejectedBy hclass fun k _ => ?_
    rw [hrejected]
    simp [picky, hfirst]

/-- An operation that the one after it undoes. -/
def insertion : Operation := ⟨.str "docs", .str "1", .index (.obj [("n", .int 1)]) .null⟩

/-- Such a store keeps documents as they are sent. -/
def asSent (body _pipeline : Json) : Text := body.text

theorem picky_reads (n : Nat) : (picky n).Reads asSent [insertion, deletion "1"] := by
  intro batch body hsub hbody
  have hread : ∀ batch ∈ List.sublists [insertion, deletion "1"],
      (ndjson batch).toOption.map (fun body => writesOf (some (.text body))) = some (batch.map (·.write asSent)) := by
    have hsublists : List.sublists [insertion, deletion "1"] =
      [[], [insertion], [deletion "1"], [insertion, deletion "1"]] := rfl
    rw [hsublists]
    simp only [List.forall_mem_cons]
    refine ⟨?_, ?_, ?_, ?_, by simp⟩ <;> decide +kernel
  have hbatch := hread batch (List.mem_sublists.2 hsub)
  rw [hbody] at hbatch
  exact Option.some.inj hbatch

/-- The run that puts a document in and takes it out again, in one batch. -/
def toAndFro : List Step := [.add insertion, .add (deletion "1"), .flush]

theorem picky_build (n : Nat) :
    Processor.build (.int 10) .null (besidePicky n).processor.policy true (.float 0.0) =
      .ok (besidePicky n).processor := rfl

/-- A deletion that is refused, after the insertion of its document was not, is submitted again alone and applied. -/
theorem applied_in_turn_after_refusal :
    ∃ (shipments : List Shipment) (sent : List Cluster.Request),
      (after toAndFro (besidePicky 1)).cluster.world.requests = sent ∧ sent.length = 2 ∧
      shipments.flatMap Shipment.operations = [insertion, deletion "1"] ∧ (∀ s ∈ shipments, s.Complete) ∧
      List.Forall₂ Carries (shipments.flatMap Shipment.submissions) sent := by
  obtain ⟨happlied, htwice⟩ : (picky 1).applied [] (after toAndFro (besidePicky 1)).cluster.world.requests =
        [insertion, deletion "1"].map (·.write asSent) ∧
      (after toAndFro (besidePicky 1)).cluster.world.requests.length = 2 := by decide +kernel
  have hreads : (picky 1).Reads asSent (acceptedIn toAndFro (besidePicky 1)) := picky_reads 1
  obtain ⟨shipments, hops, hcomplete, hcarries, -⟩ := applied_in_turn (picky_build 1) (Cluster.twins_reachable _)
    (picky_backs (by decide)) hreads rfl (.of_eq happlied)
  exact ⟨shipments, _, rfl, htwice, hops, hcomplete, hcarries⟩

/-- The insertion of a document is refused and the deletion after it is not, so that the document is there in the end,
although every operation was applied. -/
theorem refused_insertion_outlives_deletion :
    ∃ p, Processor.build (.int 10) .null (besidePicky 0).processor.policy true (.float 0.0) = .ok p ∧
      (picky 0).Backs p.policy (besidePicky 0).cluster.world.network ∧
      acceptedIn toAndFro ⟨p, (besidePicky 0).cluster⟩ = [insertion, deletion "1"] ∧
      (picky 0).Reads asSent [insertion, deletion "1"] ∧
      ((picky 0).applied [] (after toAndFro ⟨p, (besidePicky 0).cluster⟩).cluster.world.requests).Perm
        ([insertion, deletion "1"].map (·.write asSent)) ∧
      contentAfter ((picky 0).applied [] (after toAndFro ⟨p, (besidePicky 0).cluster⟩).cluster.world.requests)
          (fun _ _ => none) "docs" "1" ≠
        contentAfter ([insertion, deletion "1"].map (·.write asSent)) (fun _ _ => none) "docs" "1" := by
  have happlied : (picky 0).applied [] (after toAndFro (besidePicky 0)).cluster.world.requests =
      [deletion "1", insertion].map (·.write asSent) := by decide +kernel
  refine ⟨_, picky_build 0, picky_backs (by decide), rfl, picky_reads 0, ?_, ?_⟩
  · change ((picky 0).applied [] (after toAndFro (besidePicky 0)).cluster.world.requests).Perm _
    rw [happlied]
    exact .swap ..
  · change contentAfter ((picky 0).applied [] (after toAndFro (besidePicky 0)).cluster.world.requests) _ _ _ ≠ _
    rw [happlied]
    decide +kernel

end Writer

end DocumentStore.Bulk
