import DocumentStore.Effect
import Mathlib.Tactic

/-! What an effect makes of a state, one construct at a time, and relations between states that an effect cannot
leave. A relation that a run of many effects keeps has to be reflexive and transitive, nothing more. -/

namespace DocumentStore

theorem except_bind_eq_ok {ε α β : Type} {x : Except ε α} {k : α → Except ε β} {b : β} (h : x >>= k = .ok b) :
    ∃ a, x = .ok a ∧ k a = .ok b := by
  cases x with
  | error f => cases h
  | ok a => exact ⟨a, rfl, h⟩

theorem except_bind_of_ok {ε α β : Type} {x : Except ε α} {k : α → Except ε β} {a : α} (h : x = .ok a) :
    x >>= k = k a := by
  rw [h]
  rfl

theorem except_bind_of_error {ε α β : Type} {x : Except ε α} {k : α → Except ε β} {f : ε} (h : x = .error f) :
    x >>= k = .error f := by
  rw [h]
  rfl

theorem except_bind_eq_error {ε α β : Type} {x : Except ε α} {k : α → Except ε β} {f : ε}
    (h : x >>= k = .error f) : x = .error f ∨ ∃ a, x = .ok a ∧ k a = .error f := by
  cases x with
  | error g =>
    cases h
    exact .inl rfl
  | ok a => exact .inr ⟨a, rfl, h⟩

/-- Steps that do the same but for what is made of their failures do the same one after the other. -/
theorem except_bind_mapError {ε δ α β : Type} {g : δ → ε} {x : Except ε α} {y : Except δ α} {k : α → Except ε β}
    {l : α → Except δ β} (hx : x = y.mapError g) (hk : ∀ a, k a = (l a).mapError g) :
    x >>= k = (y >>= l).mapError g := by
  subst hx
  cases y with
  | error f => rfl
  | ok a => exact hk a

theorem except_mapM_eq_ok_iff {ε α β : Type} {f : α → Except ε β} {xs : List α} {ys : List β} :
    xs.mapM f = .ok ys ↔ List.Forall₂ (fun x y => f x = .ok y) xs ys := by
  induction xs generalizing ys with
  | nil =>
    rw [List.mapM_nil, List.forall₂_nil_left_iff]
    exact ⟨fun h => (Except.ok.inj h).symm, fun h => h ▸ rfl⟩
  | cons x xs ih =>
    rw [List.mapM_cons, List.forall₂_cons_left_iff]
    constructor
    · intro h
      obtain ⟨y, hy, h⟩ := except_bind_eq_ok h
      obtain ⟨rest, hrest, h⟩ := except_bind_eq_ok h
      exact ⟨y, rest, hy, ih.1 hrest, (Except.ok.inj h).symm⟩
    · rintro ⟨y, rest, hy, hrest, rfl⟩
      rw [hy, ih.2 hrest]
      rfl

/-- Either all steps of a row succeed, or there is a first one that fails. -/
theorem except_row_cases {ε α β : Type} (f : α → Except ε β) (xs : List α) :
    (∃ ys, List.Forall₂ (fun x y => f x = .ok y) xs ys) ∨ ∃ before x behind e, xs = before ++ x :: behind ∧
      (∀ y ∈ before, ∃ b, f y = .ok b) ∧ f x = .error e := by
  induction xs with
  | nil => exact .inl ⟨[], .nil⟩
  | cons x xs ih =>
    cases hx : f x with
    | error e => exact .inr ⟨[], x, xs, e, rfl, by simp, hx⟩
    | ok y =>
      rcases ih with ⟨ys, hys⟩ | ⟨before, x', behind, e, rfl, hbefore, hx'⟩
      · exact .inl ⟨y :: ys, .cons hx hys⟩
      · exact .inr ⟨x :: before, x', behind, e, rfl, List.forall_mem_cons.2 ⟨⟨y, hx⟩, hbefore⟩, hx'⟩

theorem except_row_ok {ε α β : Type} {f : α → Except ε β} {xs : List α} {ys : List β}
    (h : List.Forall₂ (fun x y => f x = .ok y) xs ys) : ∀ x ∈ xs, ∃ y, f x = .ok y := by
  induction h with
  | nil => simp
  | cons hx hrest ih => exact List.forall_mem_cons.2 ⟨⟨_, hx⟩, ih⟩

theorem except_mapM_ok_iff {ε α β : Type} {f : α → Except ε β} {xs : List α} :
    (∃ ys, xs.mapM f = .ok ys) ↔ ∀ x ∈ xs, ∃ y, f x = .ok y := by
  constructor
  · rintro ⟨ys, hys⟩
    exact except_row_ok (except_mapM_eq_ok_iff.1 hys)
  · intro h
    rcases except_row_cases f xs with ⟨ys, hys⟩ | ⟨before, x, behind, e, rfl, -, hx⟩
    · exact ⟨ys, except_mapM_eq_ok_iff.2 hys⟩
    · obtain ⟨y, hy⟩ := h x (by simp)
      rw [hx] at hy
      cases hy

/-- The first failure in a row of steps is the failure of the whole row. -/
theorem except_mapM_error {ε α β : Type} {f : α → Except ε β} {before : List α} (hbefore : ∀ y ∈ before, ∃ b, f y = .ok b)
    {x : α} {e : ε} (hx : f x = .error e) (behind : List α) : (before ++ x :: behind).mapM f = .error e := by
  induction before with
  | nil =>
    rw [List.nil_append, List.mapM_cons, hx]
    rfl
  | cons y before ih =>
    obtain ⟨⟨b, hb⟩, hbefore⟩ := List.forall_mem_cons.1 hbefore
    rw [List.cons_append, List.mapM_cons, hb, ih hbefore]
    rfl

/-- The only failures are of one sort. -/
def OnlyFails {α : Type} (P : Failure → Prop) (x : Except Failure α) : Prop := ∀ f, x = .error f → P f

namespace OnlyFails

variable {α β : Type} {P : Failure → Prop}

theorem ok (a : α) : OnlyFails P (.ok a) := nofun

theorem error {f : Failure} (hf : P f) : OnlyFails P (.error f : Except Failure α) := by
  rintro _ ⟨⟩
  exact hf

theorem bind {x : Except Failure α} {k : α → Except Failure β} (hx : OnlyFails P x) (hk : ∀ a, OnlyFails P (k a)) :
    OnlyFails P (x >>= k) := by
  intro f h
  rcases except_bind_eq_error h with h | ⟨a, -, h⟩
  · exact hx f h
  · exact hk a f h

theorem discard {x : Except Failure α} (hx : OnlyFails P x) : OnlyFails P (Functor.discard x) :=
  hx.bind fun _ => .ok ()

theorem mapM {γ : Type} {k : γ → Except Failure β} (hk : ∀ a, OnlyFails P (k a)) (xs : List γ) :
    OnlyFails P (xs.mapM k) := by
  induction xs with
  | nil => exact ok []
  | cons x xs ih =>
    rw [List.mapM_cons]
    exact (hk x).bind fun _ => ih.bind fun _ => ok _

theorem ite {p : Prop} [Decidable p] {x y : Except Failure α} (hx : OnlyFails P x) (hy : OnlyFails P y) :
    OnlyFails P (if p then x else y) := by
  split_ifs
  · exact hx
  · exact hy

end OnlyFails

namespace Effect

variable {σ τ α β : Type}

@[simp] theorem runOn_pure (a : α) (s : σ) : (pure a : Effect σ α).runOn s = (.ok a, s) := rfl

@[simp] theorem runOn_throw (f : Failure) (s : σ) : (throw f : Effect σ α).runOn s = (.error f, s) := rfl

@[simp] theorem runOn_ofExcept (r : Except Failure α) (s : σ) : (ofExcept r : Effect σ α).runOn s = (r, s) := rfl

@[simp] theorem runOn_ofStep (f : σ → Except Failure α × σ) (s : σ) : (ofStep f).runOn s = f s := rfl

@[simp] theorem runOn_get (s : σ) : (get : Effect σ σ).runOn s = (.ok s, s) := rfl

@[simp] theorem runOn_modify (f : σ → σ) (s : σ) : (modify f : Effect σ Unit).runOn s = (.ok (), f s) := rfl

@[simp] theorem runOn_getThe (s : σ) : (getThe σ : Effect σ σ).runOn s = (.ok s, s) := rfl

@[simp] theorem runOn_modifyThe (f : σ → σ) (s : σ) : (modifyThe σ f : Effect σ Unit).runOn s = (.ok (), f s) := rfl

@[simp] theorem runOn_outcome (e : Effect σ α) (s : σ) :
    e.outcome.runOn s = (.ok (e.runOn s).1, (e.runOn s).2) := rfl

theorem runOn_bind (e : Effect σ α) (k : α → Effect σ β) (s : σ) :
    (e >>= k).runOn s = match e.runOn s with
      | (.ok a, t) => (k a).runOn t
      | (.error f, t) => (.error f, t) := by
  unfold runOn
  simp only [bind, ExceptT.bind, ExceptT.mk, ExceptT.bindCont, StateT.bind]
  rcases e s with ⟨f | a, t⟩ <;> rfl

theorem runOn_bind_ok {e : Effect σ α} {k : α → Effect σ β} {s t : σ} {a : α} (h : e.runOn s = (.ok a, t)) :
    (e >>= k).runOn s = (k a).runOn t := by
  rw [runOn_bind, h]

theorem runOn_bind_error {e : Effect σ α} {k : α → Effect σ β} {s t : σ} {f : Failure}
    (h : e.runOn s = (.error f, t)) : (e >>= k).runOn s = (.error f, t) := by
  rw [runOn_bind, h]

theorem runOn_map (f : α → β) (e : Effect σ α) (s : σ) :
    (f <$> e).runOn s = ((e.runOn s).1.map f, (e.runOn s).2) := by
  unfold runOn
  simp only [Functor.map, ExceptT.map, ExceptT.mk, StateT.bind, bind]
  rcases e s with ⟨f | a, t⟩ <;> rfl

theorem runOn_discard (e : Effect σ α) (s : σ) :
    (discard e).runOn s = ((e.runOn s).1.map fun _ => (), (e.runOn s).2) := runOn_map (fun _ => ()) e s

theorem runOn_bind_pure (e : Effect σ α) (f : α → β) (s : σ) :
    (e >>= fun a => pure (f a)).runOn s = ((e.runOn s).1.map f, (e.runOn s).2) := by
  rw [runOn_bind]
  rcases e.runOn s with ⟨_ | _, _⟩ <;> rfl

/-- An effect never leaves a relation. -/
def Keeps (R : σ → σ → Prop) (e : Effect σ α) : Prop := ∀ s, R s (e.runOn s).2

section Keeps

variable {R : σ → σ → Prop}

theorem Keeps.of_runOn {e : Effect σ α} (h : Keeps R e) {s t : σ} {r : Except Failure α}
    (hr : e.runOn s = (r, t)) : R s t := by
  have := h s
  rwa [hr] at this

variable [Std.Refl R]

theorem keeps_pure (a : α) : Keeps R (pure a : Effect σ α) := fun s => refl s

theorem keeps_throw (f : Failure) : Keeps R (throw f : Effect σ α) := fun s => refl s

theorem keeps_ofExcept (r : Except Failure α) : Keeps R (ofExcept r : Effect σ α) := fun s => refl s

theorem keeps_get : Keeps R (get : Effect σ σ) := fun s => refl s

end Keeps

theorem Keeps.bind {R : σ → σ → Prop} [IsTrans σ R] {e : Effect σ α} {k : α → Effect σ β} (he : Keeps R e)
    (hk : ∀ a, Keeps R (k a)) : Keeps R (e >>= k) := by
  intro s
  rw [runOn_bind]
  rcases hr : e.runOn s with ⟨f | a, t⟩
  · exact he.of_runOn hr
  · exact IsTrans.trans _ _ _ (he.of_runOn hr) (hk a t)

theorem Keeps.map {R : σ → σ → Prop} {e : Effect σ α} (f : α → β) (he : Keeps R e) : Keeps R (f <$> e) := by
  intro s
  rw [runOn_map]
  exact he s

theorem Keeps.outcome {R : σ → σ → Prop} {e : Effect σ α} (he : Keeps R e) : Keeps R e.outcome := he

/-- A view of the states that an effect cannot tell from the whole: on the view of a state it does the same, and
what it reaches is the view of what it would have reached. -/
def Respects (view : σ → σ) (e : Effect σ α) : Prop :=
  ∀ s, e.runOn (view s) = ((e.runOn s).1, view (e.runOn s).2)

section Respects

variable {view : σ → σ}

theorem respects_pure (a : α) : Respects view (pure a : Effect σ α) := fun _ => rfl

theorem respects_throw (f : Failure) : Respects view (throw f : Effect σ α) := fun _ => rfl

theorem respects_ofExcept (r : Except Failure α) : Respects view (ofExcept r : Effect σ α) := fun _ => rfl

/-- What reads of a state only what the view keeps respects the view. -/
theorem respects_get_bind {k : σ → Effect σ β} (hread : ∀ s, k (view s) = k s) (hk : ∀ s, Respects view (k s)) :
    Respects view (get >>= k) := by
  intro s
  rw [runOn_bind_ok (runOn_get (view s)), runOn_bind_ok (runOn_get s), hread]
  exact hk s s

theorem Respects.bind {e : Effect σ α} {k : α → Effect σ β} (he : Respects view e)
    (hk : ∀ a, Respects view (k a)) : Respects view (e >>= k) := by
  intro s
  rw [runOn_bind, runOn_bind, he s]
  rcases e.runOn s with ⟨f | a, t⟩
  · rfl
  · exact hk a t

theorem Respects.map {e : Effect σ α} (f : α → β) (he : Respects view e) : Respects view (f <$> e) := by
  intro s
  rw [runOn_map, runOn_map, he s]

theorem Respects.outcome {e : Effect σ α} (he : Respects view e) : Respects view e.outcome := by
  intro s
  rw [runOn_outcome, runOn_outcome, he s]

end Respects

end Effect

end DocumentStore
