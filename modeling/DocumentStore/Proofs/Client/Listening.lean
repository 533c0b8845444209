import DocumentStore.Proofs.Client.Lifecycle

/-! A listener only listens, to a client too: with or without one a client does the same, step for step. -/

namespace DocumentStore

theorem Cluster.close_deaf (c : Cluster) : c.deaf.close = c.close.deaf := by
  have hrecord (es : List String) (w : World) :
      es.foldl (fun w e => w.record (.close e)) w.deaf = (es.foldl (fun w e => w.record (.close e)) w).deaf := by
    induction es generalizing w with
    | nil => rfl
    | cons e es ih =>
      rw [List.foldl_cons, List.foldl_cons, ← record_deaf rfl]
      exact ih (w.record (.close e))
  unfold close
  simp only [deaf]
  rw [← hrecord]
  rfl

namespace Client

open Effect
open Bulk (Operation Processor Writer)

/-- The client without a listener, which never had one. -/
def deaf (c : Client) : Client :=
  { c with listening := false, cluster := c.cluster.deaf, processor := c.processor.map ({ · with listening := false }) }

/-- The client with a listener. -/
def attended (c : Client) : Client :=
  { c with listening := true, processor := c.processor.map ({ · with listening := true }) }

theorem deaf_attended (c : Client) : c.attended.deaf = c.deaf := by
  unfold deaf attended
  simp only [Option.map_map]
  rfl

theorem writer?_deaf (c : Client) : c.deaf.writer? = c.writer?.map Writer.deaf := by
  unfold writer? deaf
  simp only [Option.map_map]
  rfl

theorem respects_call (method : String) (path : Option Text) (body : Cluster.Body) (params : Cluster.Params) :
    Respects deaf (call method path body params) := by
  intro c
  have h := Cluster.call_deaf c.cluster method path body params
  change ((c.cluster.deaf.call method path body params).1, { c.deaf with
    cluster := (c.cluster.deaf.call method path body params).2 }) = _
  rw [h]
  rfl

theorem respects_callAt (method : String) (path : Json) (body : Cluster.Body) :
    Respects deaf (callAt method path body) :=
  (respects_ofExcept _).bind fun _ => respects_call _ _ _ _

theorem respects_orMissing {α : Type} {e : Effect Client α} {missing : ResponseError → Effect Client α}
    (he : Respects deaf e) (hmissing : ∀ r, Respects deaf (missing r)) : Respects deaf (orMissing e missing) := by
  refine he.outcome.bind fun r => ?_
  split
  · split_ifs
    · exact hmissing _
    · exact respects_throw _
  · exact respects_ofExcept _

theorem respects_existsAt (method : String) (path : Json) : Respects deaf (existsAt method path) :=
  respects_orMissing (((respects_callAt _ _ _).map _).bind fun _ => respects_pure _) fun _ => respects_pure _

theorem respects_inquire (pipeline : Json) : Respects deaf (inquire pipeline) := by
  have hversion : Respects deaf version :=
    (respects_call _ _ _ _).bind fun _ => (respects_ofExcept _).bind fun _ => respects_ofExcept _
  refine hversion.bind fun version => Respects.bind (fun c => rfl) fun _ => ?_
  split_ifs
  · refine (respects_existsAt _ _).bind fun known => ?_
    split_ifs
    · exact respects_throw _
    · exact respects_pure _
  · exact respects_pure _

theorem setUp_deaf (c : Client) (now : Quantity) :
    c.deaf.setUp now = (c.setUp now).map ({ · with listening := false }) :=
  build_heard _ _ _ _ _ _

theorem respects_start : Respects deaf start := by
  -- `start` reads whether there is a listener, which `deaf` drops, so it does not compose as the others do: the
  -- processors it sets up differ, and agree again once they are taken for deaf.
  intro c
  cases hp : c.processor with
  | some p =>
    have hsome : c.processor.isSome = true := by rw [hp]; rfl
    have hdeaf : c.deaf.processor.isSome = true := by simpa [deaf] using hsome
    rw [start_of_some hsome, start_of_some hdeaf]
  | none =>
    have hnone : c.deaf.processor = none := congrArg (Option.map _) hp
    have hinquire : (inquire c.deaf.settings.pipeline).runOn c.deaf = _ := respects_inquire c.settings.pipeline c
    rw [start_of_none hp, start_of_none hnone, runOn_bind, runOn_bind, hinquire]
    rcases (inquire c.settings.pipeline).runOn c with ⟨f | _, v⟩
    · rfl
    simp only [equip_runOn, setUp_deaf]
    have hclock : v.deaf.cluster.world.clock = v.cluster.world.clock := rfl
    rw [hclock]
    rcases c.setUp v.cluster.world.clock with f | p
    · rfl
    · have hwriter := Writer.respects_start ⟨p, v.cluster⟩
      change (((Writer.start.runOn (Writer.deaf ⟨p, v.cluster⟩)).1,
        v.deaf.holding (Writer.start.runOn (Writer.deaf ⟨p, v.cluster⟩)).2)) = _
      rw [hwriter]
      rfl

theorem released_deaf (c : Client) : c.deaf.released = c.released.deaf := by
  unfold released
  simp only [deaf, Cluster.close_deaf]

theorem respects_close : Respects deaf close := by
  intro c
  have hdeaf := writer?_deaf c
  cases hclosed : c.closed with
  | true => rw [close_of_closed hclosed, close_of_closed (by exact hclosed)]
  | false =>
    cases hw : c.writer? with
    | none =>
      rw [hw] at hdeaf
      rw [close_of_none hclosed hw, close_of_none (by exact hclosed) hdeaf]
      exact congrArg (Prod.mk _) (released_deaf c.retired)
    | some w =>
      rw [hw] at hdeaf
      have hwriter := Writer.respects_close .null w
      have hnext : w.deaf.next (.close .null) = (w.next (.close .null)).deaf := congrArg Prod.snd hwriter
      rw [close_of_some hclosed hw, close_of_some (by exact hclosed) hdeaf, hwriter, hnext]
      exact congrArg (Prod.mk _) (released_deaf (c.retired.holding (w.next (.close .null))))

theorem next_deaf_of_errand {s : Step} {t : Bulk.Step} (h : s.errand? = some t) (c : Client) :
    c.deaf.next s = (c.next s).deaf := by
  rw [next_of_errand h, next_of_errand h, writer?_deaf]
  cases c.writer? with
  | none => rfl
  | some w =>
    have hnext : w.deaf.next t = (w.next t).deaf := congrArg Prod.snd (Writer.respects_perform t w)
    simp only [Option.map_some, hnext]
    rfl

theorem respects_advance (seconds : Json) : Respects deaf (advance seconds) := by
  refine (respects_ofExcept _).bind fun q => ?_
  intro c
  have h := advance_deaf c.cluster.world q
  rw [runOn_bind_ok (runOn_getThe c), runOn_bind_ok (runOn_getThe c.deaf)]
  change (ofExcept (c.cluster.world.deaf.advance q) >>= _).runOn _ = _
  rw [h]
  rcases c.cluster.world.advance q with f | v <;> rfl

/-- Step for step, a client without a listener does what the client does. -/
theorem next_deaf (s : Step) (c : Client) : c.deaf.next s = (c.next s).deaf := by
  cases s with
  | call method path body params => exact congrArg Prod.snd ((respects_call method path body params).map _ c)
  | start => exact congrArg Prod.snd (respects_start c)
  | close => exact congrArg Prod.snd (respects_close c)
  | advance seconds => exact congrArg Prod.snd (respects_advance seconds c)
  | note outcome =>
    change { c.deaf with cluster := { c.cluster.deaf with world := c.cluster.world.deaf.record (.step outcome) } } = _
    rw [← record_deaf rfl]
    rfl
  | _ => exact next_deaf_of_errand rfl c

theorem after_deaf (ss : List Step) (c : Client) : after ss c.deaf = (after ss c).deaf := by
  induction ss generalizing c with
  | nil => rfl
  | cons s ss ih => rw [after_cons, after_cons, next_deaf, ih]

theorem after_attended (ss : List Step) (c : Client) : (after ss c.attended).deaf = (after ss c).deaf := by
  rw [← after_deaf, ← after_deaf, deaf_attended]

theorem next_attended (ss : List Step) (s : Step) (c : Client) :
    ((after ss c.attended).next s).deaf = ((after ss c).next s).deaf := by
  rw [← next_deaf, ← next_deaf, after_attended]

theorem queue_of_deaf {c d : Client} (h : c.deaf = d.deaf) {p : Processor} (hp : p ∈ c.processor) :
    ∃ q ∈ d.processor, p.queue = q.queue := by
  have hmap : c.processor.map ({ · with listening := false }) = d.processor.map ({ · with listening := false }) :=
    congrArg processor h
  rw [hp, Option.map_some] at hmap
  obtain ⟨q, hq, hsame⟩ := Option.map_eq_some_iff.1 hmap.symm
  have hqueue := congrArg Processor.queue hsame
  exact ⟨q, hq, hqueue.symm⟩

theorem acceptedIn_deaf (ss : List Step) (c : Client) : acceptedIn ss c.deaf = acceptedIn ss c := by
  induction ss generalizing c with
  | nil => rfl
  | cons s ss ih =>
    have haccepted : c.deaf.accepted s = c.accepted s := by
      unfold accepted
      rw [writer?_deaf]
      cases c.writer? with
      | none => rfl
      | some w => cases s <;> rfl
    rw [acceptedIn, acceptedIn, next_deaf, ih, haccepted]

theorem acceptedIn_attended (ss : List Step) (c : Client) : acceptedIn ss c.attended = acceptedIn ss c := by
  rw [← acceptedIn_deaf ss c.attended, deaf_attended, acceptedIn_deaf]

end Client

end DocumentStore
