import DocumentStore.Proofs.Client.Creation
import DocumentStore.Proofs.Client.Inquiry

/-! How a start of a client goes, and what one that fails leaves behind. A start asks for the version of the store and
notes it, and only then looks for the pipeline and sets up the processor; so a start that fails may leave a version
behind, and nothing else. -/

namespace DocumentStore.Client

open Effect
open Bulk (Processor Writer)

/-! ### What is asked, and what the answers say -/

/-- The question for the version; an empty path is none. -/
def versionAsked : Question := ⟨"GET", "", .none, []⟩

def pipelineAsked (pipeline : Json) : Question := ⟨"GET", "_ingest/pipeline/" ++ pipeline.shown, .none, []⟩

/-- The answer is a document with a text for the number of the version, and this is the part before its first dot. -/
def TellsVersion (answer version : String) : Prop :=
  ∃ v t, Document.parse (.text answer) = .ok v ∧ (v.field? "version").bind (·.field? "number") = some (.str t) ∧
    majorVersionOf t.toString = version

theorem versionNumber_steps : Json.stepsOf "$.version.number" = .ok [.name "version", .name "number"] :=
  ((Path.open_root.append (Path.onward_member ".version" "version" (by decide))).append
    (Path.onward_member ".number" "number" (by decide))).steps

/-- What is made of the answer about the version. -/
def readVersion (answer : String) : Except Failure String := do
  let number ← (← Document.parse (.text answer)).readText "$.version.number"
  return number.toString

theorem readVersion_tells {answer version : String} (h : readVersion answer = .ok version) :
    TellsVersion answer (majorVersionOf version) := by
  obtain ⟨v, hv, h⟩ := except_bind_eq_ok h
  obtain ⟨t, ht, h⟩ := except_bind_eq_ok h
  rw [Json.readText_ok_iff versionNumber_steps, Json.follow?_fields] at ht
  exact ⟨v, t, hv, ht, congrArg majorVersionOf (Except.ok.inj h)⟩

theorem readVersion_silent {answer : String} {f : Failure} (h : readVersion answer = .error f) :
    (∀ version, ¬TellsVersion answer version) ∧ f.OfReading := by
  constructor
  · intro version htells
    obtain ⟨v, t, hv, ht, -⟩ := htells
    rw [← Json.follow?_fields, ← Json.readText_ok_iff versionNumber_steps] at ht
    unfold readVersion at h
    rw [hv] at h
    change v.readText "$.version.number" >>= _ = _ at h
    rw [ht] at h
    cases h
  · have hreads : OnlyReads (readVersion answer) :=
      (Document.parse_onlyReads _).bind fun v => (v.readText_onlyReads _).bind fun _ => .ok _
    exact hreads f h

/-! ### A start with any version noted -/

/-- The client with this version noted. -/
def noting (c : Client) (version : Option String) : Client := { c with majorVersion := version }

theorem noting_self (c : Client) : c.noting c.majorVersion = c := rfl

/-- What is noted makes no difference to a question. -/
theorem asked_noting (q : Question) (c : Client) (version : Option String) :
    q.asked.runOn (c.noting version) = ((q.asked.runOn c).1, (q.asked.runOn c).2.noting version) := rfl

theorem version_runOn (c : Client) :
    version.runOn c = ((versionAsked.asked.runOn c).1 >>= readVersion, (versionAsked.asked.runOn c).2) := by
  have hread (answer : String) :
      (do Effect.ofExcept (Text.toString <$> (← parse answer).readText "$.version.number") : Effect Client String) =
        Effect.ofExcept (readVersion answer) :=
    ofExcept_bind fun _ => congrArg Effect.ofExcept (map_eq_pure_bind ..)
  rw [← runOn_bind_ofExcept]
  simp only [← hread]
  rfl

/-- The look for the pipeline, if there is to be one. -/
def check (pipeline : Json) : Effect Client Unit := do
  if pipeline.truthy then
    if !(← pipelineExists pipeline) then throw (.client (.pipelineMissing pipeline))

theorem check_of_not_truthy {pipeline : Json} (h : pipeline.truthy = false) (c : Client) :
    (check pipeline).runOn c = (.ok (), c) := by
  unfold check
  rw [h]
  rfl

theorem check_of_truthy {pipeline : Json} (h : pipeline.truthy = true) :
    Settled (pipelineAsked pipeline).asked (fun _ => .ok ()) (fun _ => .error (.client (.pipelineMissing pipeline)))
      (check pipeline) := by
  have hexists := Inquiry.settled_existsAt "GET" ("_ingest/pipeline/" ++ pipeline.shown)
  have hcheck := hexists.bind
    (k := fun known => if !known then throw (.client (.pipelineMissing pipeline)) else pure ())
    (g := fun known => if !known then .error (.client (.pipelineMissing pipeline)) else .ok ())
    fun known => by cases known <;> rfl
  unfold check
  rw [if_pos h]
  exact hcheck

/-- What follows a version that is told. -/
def proceed (c : Client) : Effect Client Unit := do
  check c.settings.pipeline
  equip c

/-- A start goes by what it is answered: whatever version is noted, another is noted just if one is told. -/
theorem start_noting {c : Client} (h : c.processor = none) (noted : Option String) :
    start.runOn (c.noting noted) =
      match versionAsked.asked.runOn c with
      | (.error f, d) => (.error f, d.noting noted)
      | (.ok answer, d) =>
        match readVersion answer with
        | .error f => (.error f, d.noting noted)
        | .ok version => c.proceed.runOn (d.noting (some (majorVersionOf version))) := by
  have hnone : (c.noting noted).processor = none := h
  have hproceed : start.runOn (c.noting noted) = (version >>= fun version => do
      modifyThe Client fun c => { c with majorVersion := some (majorVersionOf version) }
      c.proceed).runOn (c.noting noted) := by
    rw [start_of_none hnone]
    unfold inquire proceed check
    simp only [bind_assoc]
    rfl
  have hversion := version_runOn (c.noting noted)
  rw [asked_noting] at hversion
  rw [hproceed]
  rcases hasked : versionAsked.asked.runOn c with ⟨f | answer, d⟩ <;> rw [hasked] at hversion
  · exact runOn_bind_error hversion
  change version.runOn _ = (readVersion answer, d.noting noted) at hversion
  dsimp only
  cases hread : readVersion answer with
  | error f =>
    rw [hread] at hversion
    exact runOn_bind_error hversion
  | ok version =>
    rw [hread] at hversion
    exact (runOn_bind_ok hversion).trans (runOn_bind_ok (runOn_modifyThe _ _))

/-! ### The course of a start -/

/-- The store has the pipeline, or none is to be looked for. -/
inductive Checked (pipeline : Json) : List (Question × Except Failure String) → Prop
  | unneeded (h : pipeline.truthy = false) : Checked pipeline []
  | present (h : pipeline.truthy = true) (answer : String) : Checked pipeline [(pipelineAsked pipeline, .ok answer)]

/-- The course of a start of a client without a processor, which leaves the cluster like this: what is asked, each with
its outcome, the version that is told on the way, and the processor in the end, or the failure. -/
inductive Begins (c : Client) (cluster : Cluster) :
    List (Question × Except Failure String) → Option String → Except Failure Writer → Prop
  /-- The store could not be asked. -/
  | unanswered {f : Failure} (hf : Cluster.Dispatched f) : Begins c cluster [(versionAsked, .error f)] none (.error f)
  /-- The answer tells no version. -/
  | untold {answer : String} {f : Failure} (hanswer : ∀ version, ¬TellsVersion answer version) (hf : f.OfReading) :
    Begins c cluster [(versionAsked, .ok answer)] none (.error f)
  /-- Whether the store has the pipeline could not be found out. -/
  | unchecked {answer version : String} {f : Failure} (hanswer : TellsVersion answer version)
    (hneeded : c.settings.pipeline.truthy = true) (hf : Cluster.Dispatched f)
    (hnot : ∀ r, ¬Inquiry.NotFound (.error f) r) :
    Begins c cluster [(versionAsked, .ok answer), (pipelineAsked c.settings.pipeline, .error f)] (some version)
      (.error f)
  /-- The store does not have the pipeline. -/
  | missing {answer version : String} {outcome : Except Failure String} {r : ResponseError}
    (hanswer : TellsVersion answer version) (hneeded : c.settings.pipeline.truthy = true)
    (houtcome : Inquiry.NotFound outcome r) :
    Begins c cluster [(versionAsked, .ok answer), (pipelineAsked c.settings.pipeline, outcome)] (some version)
      (.error (.client (.pipelineMissing c.settings.pipeline)))
  /-- The limits of the settings are none for a processor. -/
  | unlimited {answer version : String} {checks : List (Question × Except Failure String)} {f : Failure}
    (hanswer : TellsVersion answer version) (hchecks : Checked c.settings.pipeline checks)
    (hf : c.setUp cluster.world.clock = .error f) :
    Begins c cluster ((versionAsked, .ok answer) :: checks) (some version) (.error f)
  /-- A processor is set up and started, open and with nothing in it. -/
  | equipped {answer version : String} {checks : List (Question × Except Failure String)} {p : Processor} {w : Writer}
    (hanswer : TellsVersion answer version) (hchecks : Checked c.settings.pipeline checks)
    (hp : c.setUp cluster.world.clock = .ok p) (hstart : Writer.start.runOn ⟨p, cluster⟩ = (.ok (), w))
    (hqueue : w.processor.queue = []) (hopen : w.processor.closed = false) :
    Begins c cluster ((versionAsked, .ok answer) :: checks) (some version) (.ok w)

/-- The client with the processor that it got, if it got one. -/
def outfitted (c : Client) : Except Failure Writer → Client
  | .error _ => c
  | .ok w => c.holding w

/-- A start takes its course, the same whatever version is noted, and notes another just if one is told on the way. -/
def StartsAnew (c : Client) : Prop :=
  ∃ turns told outcome d, Dialogue c turns d ∧ Begins c d.cluster turns told outcome ∧
    ∀ noted, start.runOn (c.noting noted) = (outcome.map fun _ => (), (d.outfitted outcome).noting (told.or noted))

section course

variable {c d : Client} {answer version : String} {checks : List (Question × Except Failure String)}

/-- With the version told and the pipeline looked for, a processor is set up, or the settings do not allow for one. -/
theorem equip_course (hanswer : TellsVersion answer version) (hchecks : Checked c.settings.pipeline checks)
    (d : Client) : ∃ outcome, Begins c d.cluster ((versionAsked, .ok answer) :: checks) (some version) outcome ∧
      (equip c).runOn (d.noting (some version)) =
        (outcome.map fun _ => (), (d.outfitted outcome).noting (some version)) := by
  cases hp : c.setUp d.cluster.world.clock with
  | error f =>
    have hnoted : c.setUp (d.noting (some version)).cluster.world.clock = .error f := hp
    refine ⟨.error f, .unlimited hanswer hchecks hp, ?_⟩
    rw [equip_runOn, hnoted]
    rfl
  | ok p =>
    have hnoted : c.setUp (d.noting (some version)).cluster.world.clock = .ok p := hp
    obtain ⟨w, hstart, hqueue, -, hopen, -, -⟩ := start_setUp hp d.cluster
    have hstart' : Writer.start.runOn ⟨p, (d.noting (some version)).cluster⟩ = (.ok (), w) := hstart
    refine ⟨.ok w, .equipped hanswer hchecks hp hstart hqueue hopen, ?_⟩
    rw [equip_runOn, hnoted]
    dsimp only
    rw [hstart']
    rfl

/-- With the version told, the pipeline is looked for, if there is to be one, and a processor is set up just if the
store has it. -/
theorem proceed_course (hasked : versionAsked.asked.runOn c = (.ok answer, d)) (hanswer : TellsVersion answer version) :
    ∃ turns outcome e, Dialogue c turns e ∧ Begins c e.cluster turns (some version) outcome ∧
      c.proceed.runOn (d.noting (some version)) =
        (outcome.map fun _ => (), (e.outfitted outcome).noting (some version)) := by
  unfold proceed
  cases hneeded : c.settings.pipeline.truthy with
  | false =>
    rw [runOn_bind_ok (check_of_not_truthy hneeded _)]
    obtain ⟨outcome, hbegins, hequip⟩ := equip_course hanswer (.unneeded hneeded) d
    exact ⟨_, outcome, d, Dialogue.once_iff.2 hasked, hbegins, hequip⟩
  | true =>
    have hcheck := check_of_truthy hneeded (d.noting (some version))
    rw [asked_noting] at hcheck
    rcases hlooked : (pipelineAsked c.settings.pipeline).asked.runOn d with ⟨f | text, e⟩ <;>
      rw [hlooked] at hcheck
    · have hdialogue := Dialogue.ask hasked (Dialogue.once_iff.2 hlooked)
      have hdispatched : Cluster.Dispatched f := Question.asked_error (congrArg Prod.fst hlooked)
      rw [settle] at hcheck
      cases hf : notFound? f with
      | none =>
        have hnot (r : ResponseError) : ¬Inquiry.NotFound (.error f) r := by
          intro hnot
          rw [Inquiry.notFound_error_iff, hf] at hnot
          cases hnot
        rw [hf] at hcheck
        exact ⟨_, _, e, hdialogue, .unchecked hanswer hneeded hdispatched hnot, runOn_bind_error hcheck⟩
      | some r =>
        rw [hf] at hcheck
        have hmissing := Inquiry.notFound_error_iff.2 hf
        exact ⟨_, _, e, hdialogue, .missing hanswer hneeded hmissing, runOn_bind_error hcheck⟩
    · rw [runOn_bind_ok hcheck]
      obtain ⟨outcome, hbegins, hequip⟩ := equip_course hanswer (.present hneeded text) e
      exact ⟨_, outcome, e, .ask hasked (Dialogue.once_iff.2 hlooked), hbegins, hequip⟩

theorem startsAnew_of_none (h : c.processor = none) : c.StartsAnew := by
  have hstart := start_noting h
  rcases hasked : versionAsked.asked.runOn c with ⟨f | answer, d⟩ <;> simp only [hasked] at hstart
  · have hf : Cluster.Dispatched f := Question.asked_error (congrArg Prod.fst hasked)
    exact ⟨_, none, .error f, d, Dialogue.once_iff.2 hasked, .unanswered hf, hstart⟩
  cases hread : readVersion answer with
  | error f =>
    simp only [hread] at hstart
    obtain ⟨huntold, hf⟩ := readVersion_silent hread
    exact ⟨_, none, .error f, d, Dialogue.once_iff.2 hasked, .untold huntold hf, hstart⟩
  | ok number =>
    simp only [hread] at hstart
    obtain ⟨turns, outcome, e, hdialogue, hbegins, hproceed⟩ := proceed_course hasked (readVersion_tells hread)
    exact ⟨turns, _, outcome, e, hdialogue, hbegins, fun noted => (hstart noted).trans hproceed⟩

end course

/-! ### A client that is not started -/

/-- Whatever is asked of the processor is refused, and changes nothing. -/
structure Unstarted (c : Client) : Prop where
  index (index id body pipeline : Json) :
    (Client.index index id body pipeline).runOn c = (.error (.client .notStarted), c)
  delete (index id : Json) : (Client.delete index id).runOn c = (.error (.client .notStarted), c)
  flush : Client.flush.runOn c = (.error (.client .notStarted), c)

/-- Some start of a run succeeds. -/
def StartedIn (ss : List Step) (c : Client) : Prop :=
  ∃ before later, ss = before ++ .start :: later ∧ (start.runOn (after before c)).1 = .ok ()

section unstarted

variable {c : Client}

theorem unstarted_of_none (h : c.processor = none) : c.Unstarted where
  index _ _ _ _ := onProcessor_of_none _ (writer?_eq_none.2 h)
  delete _ _ := onProcessor_of_none _ (writer?_eq_none.2 h)
  flush := onProcessor_of_none _ (writer?_eq_none.2 h)

/-- Without a start that succeeds no step sets up a processor. -/
theorem next_processor (hc : c.processor = none) {s : Step} (h : s = .start → (start.runOn c).1 ≠ .ok ()) :
    (c.next s).processor = none := by
  have hw : c.writer? = none := writer?_eq_none.2 hc
  rcases step_cases s with ⟨t, herrand⟩ | rfl | rfl | ⟨-, hquiet⟩
  · rw [next_of_errand herrand, hw]
    exact hc
  · obtain ⟨v, hv, ⟨f, hrun⟩ | ⟨w, -, -, -, -, -, hrun⟩⟩ := start_cases hc
    · rw [next_start, hrun]
      exact hv.processor.trans hc
    · exact absurd (congrArg Prod.fst hrun) (h rfl)
  · rw [next_close]
    cases hclosed : c.closed with
    | true =>
      rw [close_of_closed hclosed]
      exact hc
    | false =>
      rw [close_of_none hclosed hw]
      exact hc
  · exact (hquiet c).processor.trans hc

theorem not_startedIn_nil (c : Client) : ¬StartedIn [] c := by
  rintro ⟨before, later, hss, -⟩
  simp at hss

theorem after_processor (hc : c.processor = none) {ss : List Step} (h : ¬StartedIn ss c) :
    (after ss c).processor = none := by
  induction ss generalizing c with
  | nil => exact hc
  | cons s ss ih =>
    have hnext : (c.next s).processor = none := by
      apply next_processor hc
      rintro rfl hok
      exact h ⟨[], ss, rfl, hok⟩
    apply ih hnext
    rintro ⟨before, later, rfl, hok⟩
    exact h ⟨s :: before, later, rfl, hok⟩

end unstarted

/-! ### The mappings of a client that knows no version -/

/-- A mapping is come to as the indices of the settings are made: that of the index for documents, or else that of the
one for folders, if the first index is made. -/
def ComesToMapping (c : Client) : Prop :=
  documentMapped c.settings = true ∨ c.settings.indexFolders.truthy = true ∧
    ∃ new, ((createIndex c.settings.index true .null).runOn c).1 = .ok new

/-- That the version is not known is not what it comes to. -/
def Informed {α : Type} (x : Except Failure α) : Prop := x ≠ .error (.client .versionUnknown)

section mappings

variable {α β : Type} {c : Client}

theorem informed_bind {e : Effect Client α} {k : α → Effect Client β} (he : Informed (e.runOn c).1)
    (hk : ∀ a d, e.runOn c = (.ok a, d) → Informed ((k a).runOn d).1) : Informed ((e >>= k).runOn c).1 := by
  rcases hrun : e.runOn c with ⟨f | a, d⟩
  · rw [runOn_bind_error hrun]
    rw [hrun] at he
    exact fun h => he (congrArg Except.error (Except.error.inj h))
  · rw [runOn_bind_ok hrun]
    exact hk a d hrun

theorem informed_discard {e : Effect Client α} (he : Informed (e.runOn c).1) :
    Informed ((discard e : Effect Client Unit).runOn c).1 := by
  rw [runOn_discard]
  intro h
  cases hrun : (e.runOn c).1 <;> rw [hrun] at h he
  · exact he (congrArg Except.error (Except.error.inj h))
  · cases h

theorem informed_of_dispatched {x : Except Failure α} (h : ∀ f, x = .error f → Cluster.Dispatched f) : Informed x :=
  fun hx => not_client_of_dispatched (h _ hx) _ rfl

theorem informed_of_onlyReads {x : Except Failure α} (h : OnlyReads x) : Informed x := fun hx => by cases h _ hx

theorem informed_call (method : String) (path : Option Text) (body : Cluster.Body) (params : Cluster.Params) :
    Informed ((call method path body params).runOn c).1 := informed_of_dispatched fun _ h => Cluster.call_error h

theorem pathOf_onlyReads (path : Json) : OnlyReads (Cluster.pathOf path) := by
  unfold Cluster.pathOf
  split_ifs
  · cases path with
    | str t => exact .ok _
    | _ => exact .misuse _
  · exact .ok _

theorem informed_callAt (method : String) (path : Json) (body : Cluster.Body) :
    Informed ((callAt method path body).runOn c).1 :=
  informed_bind (informed_of_onlyReads (pathOf_onlyReads path)) fun _ _ _ => informed_call _ _ _ _

theorem informed_waitForHealth (index timeout : Json) : Informed ((waitForHealth index timeout).runOn c).1 := by
  refine informed_bind (informed_call _ _ _ _) fun answer _ _ => ?_
  have hparse := informed_of_onlyReads (Document.parse_onlyReads (.text answer))
  exact informed_bind hparse fun document _ _ => informed_of_onlyReads (document.readOptional_onlyReads _ _ _)

theorem informed_createIndex (index : Json) (lenient : Bool) (settings : Json) :
    Informed ((createIndex index lenient settings).runOn c).1 := by
  refine informed_bind nofun fun outcome d houtcome => ?_
  split
  · exact informed_bind (informed_discard (informed_waitForHealth _ _)) fun _ _ _ => nofun
  · split_ifs <;> exact nofun
  · rename_i f _
    intro h
    cases h
    exact informed_callAt (c := c) _ _ _ (congrArg Prod.fst houtcome |> Except.ok.inj)

theorem informed_readFixed (entries : List FixedMapping) (version name : Json) :
    Informed (MappingSource.readFixed entries version name) := by
  unfold MappingSource.readFixed
  split_ifs
  · exact nofun
  · split <;> exact nofun

theorem informed_readFile (files : Files) (path : FilePath) (version name : Json) :
    Informed (MappingSource.readFile files path version name) := by
  unfold MappingSource.readFile
  cases files.find path with
  | nothing | overlong => exact nofun
  | file content =>
    dsimp only
    cases content.text? <;> exact nofun

theorem informed_read (source : MappingSource) (version name : Json) : Informed (source.read version name) := by
  cases source with
  | fixed entries => exact informed_readFixed entries version name
  | directory root files => exact informed_readFile files (MappingSource.filePath root version name) version name

theorem createFromMapping_of_none (h : c.majorVersion = none) (mapping : String) (index : Json) :
    (createFromMapping mapping index).runOn c = (.error (.client .versionUnknown), c) := by
  unfold createFromMapping
  rw [runOn_bind_ok (runOn_getThe c), h]
  rfl

theorem informed_createFromMapping {version : String} (h : c.majorVersion = some version) (mapping : String)
    (index : Json) : Informed ((createFromMapping mapping index).runOn c).1 := by
  unfold createFromMapping
  rw [runOn_bind_ok (runOn_getThe c), h]
  dsimp only
  split
  · exact nofun
  · exact informed_bind (informed_read _ _ _) fun _ _ _ => informed_discard (informed_createIndex _ _ _)

theorem informed_createConfigured (mapped : Bool) (mapping : String) (index : Json)
    (h : mapped = true → c.majorVersion ≠ none) : Informed ((createConfigured mapped mapping index).runOn c).1 := by
  unfold createConfigured
  split_ifs with hmapped
  · obtain ⟨version, hversion⟩ := Option.ne_none_iff_exists'.1 (h hmapped)
    exact informed_createFromMapping hversion _ _
  · exact informed_discard (informed_createIndex _ _ _)

theorem createConfigured_of_none (h : c.majorVersion = none) (mapping : String) (index : Json) :
    (createConfigured true mapping index).runOn c = (.error (.client .versionUnknown), c) :=
  createFromMapping_of_none h mapping index

/-- Nothing is noted that was not. -/
def SameVersion (v w : Client) : Prop := w.majorVersion = v.majorVersion

instance : Std.Refl SameVersion := ⟨fun _ => rfl⟩

instance : IsTrans Client SameVersion := ⟨fun _ _ _ h h' => h'.trans h⟩

theorem sameVersion_createConfigured (mapped : Bool) (mapping : String) (index : Json) :
    Keeps SameVersion (createConfigured mapped mapping index) :=
  keeps_createConfigured (fun _ _ _ _ _ => rfl) mapped mapping index

theorem createIndices_of_no_index (h : c.settings.index.truthy = false) :
    createIndices.runOn c = (.error (.settings .noIndex), c) := by
  unfold createIndices
  rw [runOn_bind_ok (runOn_getThe c)]
  dsimp only
  rw [h]
  rfl

theorem informed_createIndices (h : c.majorVersion ≠ none) : Informed (createIndices.runOn c).1 := by
  cases hindex : c.settings.index.truthy with
  | false =>
    rw [createIndices_of_no_index hindex]
    exact nofun
  | true =>
    rw [createIndices_runOn hindex]
    apply informed_bind (informed_createConfigured _ _ _ fun _ => h)
    intro _ d hrun
    have hsame := sameVersion_createConfigured (documentMapped c.settings) documentMapping c.settings.index c
    rw [hrun] at hsame
    exact informed_createConfigured _ _ _ fun _ hnone => h (hsame.symm.trans hnone)

theorem createIndices_of_none (h : c.majorVersion = none) (hindex : c.settings.index.truthy = true) :
    (createIndices.runOn c).1 = .error (.client .versionUnknown) ↔ c.ComesToMapping := by
  rw [createIndices_runOn hindex]
  unfold ComesToMapping
  cases hmapped : documentMapped c.settings with
  | true =>
    rw [runOn_bind_error (createConfigured_of_none h _ _)]
    exact iff_of_true rfl (.inl rfl)
  | false =>
    have hsame := sameVersion_createConfigured false documentMapping c.settings.index c
    have hfirst : (createConfigured false documentMapping c.settings.index).runOn c =
        (((createIndex c.settings.index true .null).runOn c).1.map fun _ => (),
          ((createIndex c.settings.index true .null).runOn c).2) := runOn_discard _ c
    have hinformed := informed_createIndex (c := c) c.settings.index true .null
    rw [hfirst] at hsame
    rcases hput : (createIndex c.settings.index true .null).runOn c with ⟨f | new, d⟩ <;>
      rw [hput] at hfirst hsame hinformed
    · rw [runOn_bind_error hfirst]
      refine iff_of_false (fun hunknown => hinformed (congrArg Except.error (Except.error.inj hunknown))) ?_
      rintro (h | ⟨-, new, hnew⟩)
      · cases h
      · cases hnew
    · rw [runOn_bind_ok hfirst]
      cases hfolders : c.settings.indexFolders.truthy with
      | true =>
        rw [createConfigured_of_none (hsame.trans h)]
        exact iff_of_true rfl (.inr ⟨rfl, new, rfl⟩)
      | false =>
        refine iff_of_false (informed_createConfigured _ _ _ nofun) ?_
        rintro (h | ⟨h, -⟩) <;> cases h

/-- Creating the indices of the settings is refused for want of a version just if none is known and a mapping is come
to. -/
theorem createIndices_unknown_iff (c : Client) : (createIndices.runOn c).1 = .error (.client .versionUnknown) ↔
    c.majorVersion = none ∧ c.settings.index.truthy = true ∧ c.ComesToMapping := by
  by_cases h : c.majorVersion = none
  · cases hindex : c.settings.index.truthy with
    | false =>
      rw [createIndices_of_no_index hindex]
      exact iff_of_false nofun nofun
    | true =>
      rw [createIndices_of_none h hindex]
      simp [h]
  · exact iff_of_false (informed_createIndices h) fun hunknown => h hunknown.1

end mappings

/-! ### A start that fails -/

/-- What a start leaves behind that fails: `c` is the client before it, and `d` the one after it. -/
structure FailsToStart (c d : Client) (f : Failure) : Prop where
  unstarted : c.processor = none
  /-- Of the client itself no more is another than the version that is noted, and that just if another one is told. -/
  noted : ∃ turns told, Dialogue c turns (d.noting c.majorVersion) ∧ Begins c d.cluster turns told (.error f) ∧
    d = { c with cluster := d.cluster, majorVersion := told.or c.majorVersion } ∧
    (d = { c with cluster := d.cluster } ↔ told = none ∨ told = c.majorVersion)
  /-- Until a start succeeds whatever is asked of the processor is refused, and every start begins anew. -/
  refuses (ss : List Step) : ¬StartedIn ss d → (after ss d).Unstarted ∧ (after ss d).StartsAnew
  /-- A mapping that is come to is refused just as long as no version is noted. -/
  creates : (createIndices.runOn d).1 = .error (.client .versionUnknown) ↔
    d.majorVersion = none ∧ c.settings.index.truthy = true ∧ d.ComesToMapping

/-- What is told makes no difference just if it is nothing, or what is noted already. -/
theorem noting_told_iff (c : Client) (told : Option String) :
    c.noting (told.or c.majorVersion) = c ↔ told = none ∨ told = c.majorVersion := by
  constructor
  · intro hsame
    have hversion : told.or c.majorVersion = c.majorVersion := congrArg majorVersion hsame
    cases told with
    | none => exact .inl rfl
    | some version => exact .inr hversion
  · intro htold
    have hversion : told.or c.majorVersion = c.majorVersion := by
      rcases htold with htold | htold <;> simp [htold]
    rw [hversion]
    exact noting_self c

theorem failsToStart {c d : Client} {f : Failure} (h : start.runOn c = (.error f, d)) : c.FailsToStart d f := by
  have hnone : c.processor = none := by
    by_contra hsome
    rw [start_of_some (Option.isSome_iff_ne_none.2 hsome)] at h
    cases h
  obtain ⟨turns, told, outcome, e, hdialogue, hbegins, hstart⟩ := startsAnew_of_none hnone
  have hrun := hstart c.majorVersion
  rw [noting_self, h] at hrun
  cases outcome with
  | ok w => cases hrun
  | error g =>
    obtain ⟨cluster, rfl⟩ : ∃ cluster, e = { c with cluster } := ⟨_, hdialogue.frame⟩
    obtain rfl : f = g := Except.error.inj (congrArg Prod.fst hrun)
    obtain rfl : d = { c with cluster, majorVersion := told.or c.majorVersion } := congrArg Prod.snd hrun
    refine ⟨hnone, ⟨turns, told, hdialogue, hbegins, rfl, noting_told_iff { c with cluster } told⟩, ?_, ?_⟩
    · intro ss hss
      have hlater : ({ c with cluster, majorVersion := told.or c.majorVersion } : Client).processor = none := hnone
      have hafter := after_processor hlater hss
      exact ⟨unstarted_of_none hafter, startsAnew_of_none hafter⟩
    · exact createIndices_unknown_iff _

/-- A start does nothing to a client that is started. Otherwise it takes its course, and one that fails leaves the
client as it was, but for the version that it may have been told: there is no processor, and whatever needs one is still
refused. -/
theorem failed_start_keeps_all_but_version (c : Client) :
    (c.processor.isSome = true → start.runOn c = (.ok (), c)) ∧ (c.processor = none → c.StartsAnew) ∧
    ∀ f d, start.runOn c = (.error f, d) → c.FailsToStart d f :=
  ⟨start_of_some, startsAnew_of_none, fun _ _ h => failsToStart h⟩

/-- A network whose store tells no version. -/
def reticent : Cluster.Network where
  respond _ _ := .response (.int 200) (.text "\x7b\x7d")

/-- A client whose store tells no version cannot be started, and is as it was afterwards; one that is started is left
alone. -/
theorem failed_start_keeps_all_where_untold :
    (∃ f d, start.runOn { novice with cluster := Cluster.twins reticent } = (.error f, d) ∧
      d = { novice with cluster := d.cluster } ∧ d.Unstarted ∧ d.StartsAnew) ∧
    (novice.next .start).processor.isSome = true ∧ start.runOn (novice.next .start) = (.ok (), novice.next .start) := by
  have hfails : (start.runOn { novice with cluster := Cluster.twins reticent }).1.toOption = none := by decide +kernel
  have huntold : (start.runOn { novice with cluster := Cluster.twins reticent }).2.majorVersion = none := by
    decide +kernel
  have hstarted : (novice.next .start).processor.isSome = true := by decide +kernel
  refine ⟨?_, hstarted, (failed_start_keeps_all_but_version _).1 hstarted⟩
  rcases hrun : start.runOn { novice with cluster := Cluster.twins reticent } with ⟨f | _, d⟩ <;>
    rw [hrun] at hfails huntold
  · have hfailed := (failed_start_keeps_all_but_version _).2.2 f d hrun
    obtain ⟨turns, told, -, -, hd, -⟩ := hfailed.noted
    refine ⟨f, d, rfl, hd.trans ?_, hfailed.refuses [] (not_startedIn_nil d)⟩
    have hversion : d.majorVersion = told.or none := congrArg majorVersion hd
    change ({ novice with cluster := d.cluster, majorVersion := told.or none } : Client) = _
    rw [← hversion, huntold]
    rfl
  · cases hfails

/-- A network whose store has a version, and does not have the pipeline. -/
def pipeless : Cluster.Network where
  respond _ r :=
    if r.target = "/_ingest/pipeline/attachment" then .response (.int 404) (.text "\x7b\x7d")
    else .response (.int 200) (.text versionAnswer)

/-- A client with an index for documents that needs a mapping, and a pipeline. -/
def attaching : Client := { novice with
  settings := { novice.settings with pipeline := .str "attachment", index := .str "docs" }
  cluster := Cluster.twins pipeless }

/-- The name of the pipeline that is said to be missing. -/
def missingPipeline? : Except Failure Unit → Option Text
  | .error (.client (.pipelineMissing (.str name))) => some name
  | _ => none

theorem pipelineMissing_of_some {outcome : Except Failure Unit} {name : Text}
    (h : missingPipeline? outcome = some name) : outcome = .error (.client (.pipelineMissing (.str name))) := by
  unfold missingPipeline? at h
  split at h
  · rw [Option.some.inj h]
  · cases h

/-- The start of a client fails whose pipeline is missing, and the version stays noted: for want of one, to create the
indices was refused before, and is no longer. -/
theorem failed_start_notes_version : attaching.majorVersion = none ∧
    (createIndices.runOn attaching).1 = .error (.client .versionUnknown) ∧
    ∃ d, start.runOn attaching = (.error (.client (.pipelineMissing (.str "attachment"))), d) ∧
      d.majorVersion = some "7" ∧ (createIndices.runOn d).1 ≠ .error (.client .versionUnknown) := by
  have hfails : missingPipeline? (start.runOn attaching).1 = some (.ofString "attachment") := by decide +kernel
  have hversion : (start.runOn attaching).2.majorVersion = some "7" := by decide +kernel
  have hrefused := (createIndices_unknown_iff attaching).2 ⟨rfl, rfl, .inl rfl⟩
  refine ⟨rfl, hrefused, (start.runOn attaching).2, ?_, hversion, ?_⟩
  · rw [← pipelineMissing_of_some hfails]
  · intro hunknown
    have hnone := ((createIndices_unknown_iff _).1 hunknown).1
    rw [hversion] at hnone
    cases hnone

end DocumentStore.Client
