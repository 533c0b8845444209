import DocumentStore.Proofs.Document
import DocumentStore.Proofs.Quantity.Rounding

/-! What reading by path comes to. The steps of a path lead to one value of a document or to none, and what is read is
settled by that value, by whether it is null, and by whether it is of a kind that is asked for. -/

namespace DocumentStore.Json

open Decimal.Binary (RoundedTo beyond)

/-! ### Where a path leads -/

/-- The steps lead from one value to another: an index goes into a list that is longer, and a name into an object that has
it, to the first of its fields of that name. -/
inductive Leads : Json → List Path.Step → Json → Prop
  | here {v : Json} : Leads v [] v
  | item {xs : List Json} {n : Nat} {steps : List Path.Step} {x : Json} (hn : n < xs.length)
    (hrest : Leads xs[n] steps x) : Leads (.arr xs) (.index n :: steps) x
  | member {before behind : List (Text × Json)} {name : Text} {y x : Json} {steps : List Path.Step}
    (hfirst : ∀ f ∈ before, f.1 ≠ name) (hrest : Leads y steps x) :
    Leads (.obj (before ++ (name, y) :: behind)) (.name name :: steps) x

/-- An object with one field leads on by its name. -/
theorem leads_only {name : Text} {y x : Json} {steps : List Path.Step} (h : Leads y steps x) :
    Leads (.obj [(name, y)]) (.name name :: steps) x := by
  have hnone : ∀ f ∈ ([] : List (Text × Json)), f.1 ≠ name := nofun
  exact .member hnone h

theorem leads_iff {v x : Json} {steps : List Path.Step} : Leads v steps x ↔ v.follow? steps = some x := by
  constructor
  · intro h
    induction h with
    | here => rfl
    | @item xs n steps x hn hrest ih =>
      have hchild : child? (.arr xs) (.index n) = some xs[n] := List.getElem?_eq_getElem hn
      unfold follow? at ih ⊢
      rw [List.foldlM_cons, hchild]
      exact ih
    | @member before behind name y x steps hfirst hrest ih =>
      have hchild : child? (.obj (before ++ (name, y) :: behind)) (.name name) = some y :=
        List.lookup_eq_some_iff.2 ⟨before, behind, rfl, fun f hf => bne_iff_ne.2 (hfirst f hf).symm⟩
      unfold follow? at ih ⊢
      rw [List.foldlM_cons, hchild]
      exact ih
  · intro h
    induction steps generalizing v with
    | nil =>
      cases h
      exact .here
    | cons s steps ih =>
      unfold follow? at h ih
      rw [List.foldlM_cons, Option.bind_eq_bind, Option.bind_eq_some_iff] at h
      obtain ⟨y, hy, hrest⟩ := h
      unfold child? at hy
      split at hy
      · obtain ⟨hn, rfl⟩ := List.getElem?_eq_some_iff.1 hy
        exact .item hn (ih hrest)
      · obtain ⟨before, behind, rfl, hfirst⟩ := List.lookup_eq_some_iff.1 hy
        exact .member (fun f hf => (bne_iff_ne.1 (hfirst f hf)).symm) (ih hrest)
      · cases hy

theorem Leads.append {v y x : Json} {steps more : List Path.Step} (h : Leads v steps y) (hmore : Leads y more x) :
    Leads v (steps ++ more) x := by
  rw [leads_iff, follow?_append, leads_iff.1 h]
  exact leads_iff.1 hmore

theorem leads_nowhere {v : Json} {steps : List Path.Step} : (∀ x, ¬Leads v steps x) ↔ v.follow? steps = none := by
  simp only [leads_iff, Option.eq_none_iff_forall_ne_some]

/-! ### What is asked for -/

/-- What is got where a value is found: the value, if it is of a kind that is asked for, or the nearest binary64 number, if
it is a whole number and nothing but a binary64 number is asked for. -/
inductive Got : Expectation → Json → Json → Prop
  | any {x : Json} : Got .any x x
  | one {k : Kind} {x : Json} (h : x.kind = k) : Got (.one k) x x
  | oneOf {ks : List Kind} {x : Json} (h : x.kind ∈ ks) : Got (.oneOf ks) x x
  | rounded {i : Int} {y : Float} (h : RoundedTo i y) : Got (.one .float) (.int i) (.float y)

/-- The value is no whole number beyond the range of the binary64 ones. -/
def InRange (x : Json) : Prop := ∀ i, x = .int i → i.natAbs < beyond

section convert

variable {e : Expectation} {x y : Json}

/-- Where nothing is rounded, a value is got as it is or not at all. -/
theorem got_iff (h : e = .one .float → ∀ i, x ≠ .int i) : Got e x y ↔ y = x ∧ e.admits x = true := by
  constructor
  · intro hgot
    cases hgot with
    | any => exact ⟨rfl, rfl⟩
    | one hk => exact ⟨rfl, decide_eq_true hk⟩
    | oneOf hk => exact ⟨rfl, List.contains_iff_mem.2 hk⟩
    | rounded => exact absurd rfl (h rfl _)
  · rintro ⟨rfl, hadmits⟩
    cases e with
    | any => exact .any
    | one k => exact .one (of_decide_eq_true hadmits)
    | oneOf ks => exact .oneOf (List.contains_iff_mem.1 hadmits)

theorem convert_of_not_rounded (path : Text) (h : e = .one .float → ∀ i, x ≠ .int i) :
    convert path e x = if e.admits x then .ok x else .error (.read (.kindMismatch path e x.kind)) := by
  unfold convert
  split
  · exact absurd rfl (h rfl _)
  · rfl

/-- A value in range is got, or is of a kind that is not asked for. -/
theorem convert_cases (path : Text) (hx : e = .one .float → x.InRange) :
    (∃ y, convert path e x = .ok y ∧ Got e x y) ∨
      (convert path e x = .error (.read (.kindMismatch path e x.kind)) ∧ ∀ y, ¬Got e x y) := by
  by_cases h : e = .one .float → ∀ i, x ≠ .int i
  · rw [convert_of_not_rounded path h]
    cases hadmits : e.admits x with
    | true => exact .inl ⟨x, rfl, (got_iff h).2 ⟨rfl, hadmits⟩⟩
    | false => exact .inr ⟨rfl, fun y hgot => by rw [((got_iff h).1 hgot).2] at hadmits; cases hadmits⟩
  · push Not at h
    obtain ⟨rfl, i, rfl⟩ := h
    rcases Quantity.finiteFloat?_cases i with ⟨-, y, hy, hrounded⟩ | ⟨hbeyond, -⟩
    · exact .inl ⟨.float y, by simp only [convert, hy], .rounded hrounded⟩
    · exact absurd (hx rfl i rfl) (not_lt.2 hbeyond)

/-- A value in range comes back just if it is got. -/
theorem convert_ok_iff (path : Text) (hx : e = .one .float → x.InRange) :
    (∃ y, convert path e x = .ok y) ↔ ∃ y, Got e x y := by
  rcases convert_cases path hx with ⟨y, hy, hgot⟩ | ⟨herror, hnone⟩
  · exact ⟨fun _ => ⟨y, hgot⟩, fun _ => ⟨y, hy⟩⟩
  · rw [herror]
    constructor
    · rintro ⟨y, ⟨⟩⟩
    · rintro ⟨y, hgot⟩
      exact absurd hgot (hnone y)

theorem convert_any (path : Text) (x : Json) : convert path .any x = .ok x := rfl

theorem convert_not_pathNotFound (path : Text) (e : Expectation) (x : Json) :
    convert path e x ≠ .error (.read (.pathNotFound path)) := by
  unfold convert
  split
  · split <;> simp
  · split_ifs <;> simp

theorem got_bool_iff {b : Bool} :
    (∃ y, Got e (.bool b) y) ↔ e = .any ∨ e = .one .bool ∨ ∃ ks, e = .oneOf ks ∧ .bool ∈ ks := by
  have hgot (y : Json) : Got e (.bool b) y ↔ y = .bool b ∧ e.admits (.bool b) = true := got_iff fun _ _ h => by cases h
  simp only [hgot, exists_eq_left]
  cases e <;> simp [Expectation.admits, kind, eq_comm]

theorem got_int_iff {i : Int} (hi : i.natAbs < beyond) :
    (∃ y, Got e (.int i) y) ↔ e = .any ∨ e = .one .int ∨ e = .one .float ∨ ∃ ks, e = .oneOf ks ∧ .int ∈ ks := by
  by_cases he : e = .one .float
  · subst he
    rcases Quantity.finiteFloat?_cases i with ⟨-, y, -, hrounded⟩ | ⟨hbeyond, -⟩
    · exact ⟨fun _ => .inr (.inr (.inl rfl)), fun _ => ⟨.float y, .rounded hrounded⟩⟩
    · exact absurd hi (not_lt.2 hbeyond)
  · simp only [got_iff (fun h => absurd h he), exists_eq_left]
    cases e <;> simp_all [Expectation.admits, kind, eq_comm]

end convert

/-! ### The ways of reading -/

section reading

variable {path : Text} {steps : List Path.Step} {v x : Json}

theorem read_eq (hsteps : stepsOf path = .ok steps) (v : Json) (e : Expectation) : v.read path e =
    match v.follow? steps with
    | some x => convert path e x
    | none => .error (.read (.pathNotFound path)) := by
  unfold read
  rw [resolve_eq hsteps]
  cases v.follow? steps <;> rfl

theorem Leads.read (h : Leads v steps x) (hsteps : stepsOf path = .ok steps) (e : Expectation) :
    v.read path e = convert path e x := by
  rw [read_eq hsteps, leads_iff.1 h]

theorem read_pathNotFound_iff (hsteps : stepsOf path = .ok steps) (v : Json) (e : Expectation) :
    v.read path e = .error (.read (.pathNotFound path)) ↔ ∀ x, ¬Leads v steps x := by
  rw [leads_nowhere, read_eq hsteps]
  cases v.follow? steps with
  | none => simp
  | some x => simpa using convert_not_pathNotFound path e x

theorem readOptional_of_nothing (hsteps : stepsOf path = .ok steps) (h : ∀ x, Leads v steps x → x = .null)
    (default : Json) (e : Expectation) : v.readOptional path default e = .ok default := by
  rw [readOptional_eq hsteps]
  cases hfollow : v.follow? steps with
  | none => rfl
  | some x =>
    obtain rfl := h x (leads_iff.2 hfollow)
    rfl

theorem Leads.readOptional (h : Leads v steps x) (hx : x ≠ .null) (hsteps : stepsOf path = .ok steps) (default : Json)
    (e : Expectation) : v.readOptional path default e = v.read path e := by
  rw [h.read hsteps, readOptional_eq hsteps, leads_iff.1 h]
  cases x with
  | null => exact absurd rfl hx
  | _ => rfl

/-- The default is given for no value and for null, and whatever else is there is read. -/
theorem readOptional_default_iff (hsteps : stepsOf path = .ok steps) (v : Json) (e : Expectation) :
    ((∀ default, v.readOptional path default e = .ok default) ↔ ∀ x, Leads v steps x → x = .null) ∧
      ∀ x, Leads v steps x → x ≠ .null → ∀ default, v.readOptional path default e = v.read path e := by
  refine ⟨⟨fun hdefault x h => ?_, fun hnothing default => readOptional_of_nothing hsteps hnothing default e⟩,
    fun x h hx default => h.readOptional hx hsteps default e⟩
  -- what is read does not depend on the default, and cannot be two of them
  by_contra hx
  have htrue := (h.readOptional hx hsteps (.bool true) e).symm.trans (hdefault (.bool true))
  have hfalse := (h.readOptional hx hsteps (.bool false) e).symm.trans (hdefault (.bool false))
  rw [htrue] at hfalse
  cases hfalse

theorem has_iff (hsteps : stepsOf path = .ok steps) (v : Json) :
    ∃ b, v.has path = .ok b ∧ (b = true ↔ ∃ x, v.read path .any = .ok x ∧ x ≠ .null) := by
  rw [has_eq hsteps, read_eq hsteps]
  cases v.follow? steps with
  | none => exact ⟨false, rfl, by simp⟩
  | some x => cases x <;> exact ⟨_, rfl, by simp [convert_any]⟩

theorem length_iff (hsteps : stepsOf path = .ok steps) (v : Json) (n : Nat) : v.length path = .ok n ↔
    (∃ xs, Leads v steps (.arr xs) ∧ n = xs.length) ∨ ∃ fs, Leads v steps (.obj fs) ∧ n = fs.length := by
  simp only [leads_iff]
  unfold length
  rw [read_eq hsteps]
  cases v.follow? steps with
  | none => simp
  | some x => cases x <;> simp [convert, Expectation.admits, kind, childCount, eq_comm]

/-- Reading by a path is settled by the value that its steps lead to. If there is none, and just then, the path is not
found; a value is got or is of a kind that is not asked for, as its kind alone decides, where a truth value is no number
and a whole number is rounded if it has to be. An optional read gives the default just if there is no value or null; a
path is there if something else than null can be read; and a length is the number of children of a list or an object. -/
theorem read_settled (hsteps : stepsOf path = .ok steps) (v : Json) :
    (∀ e, v.read path e = .error (.read (.pathNotFound path)) ↔ ∀ x, ¬Leads v steps x) ∧
    (∀ x e, Leads v steps x → (e = .one .float → x.InRange) →
      (∃ y, v.read path e = .ok y ∧ Got e x y) ∨
        (v.read path e = .error (.read (.kindMismatch path e x.kind)) ∧ ∀ y, ¬Got e x y)) ∧
    (∀ b e, Leads v steps (.bool b) → ((∃ y, v.read path e = .ok y) ↔
      e = .any ∨ e = .one .bool ∨ ∃ ks, e = .oneOf ks ∧ .bool ∈ ks)) ∧
    (∀ i e, Leads v steps (.int i) → i.natAbs < beyond → ((∃ y, v.read path e = .ok y) ↔
      e = .any ∨ e = .one .int ∨ e = .one .float ∨ ∃ ks, e = .oneOf ks ∧ .int ∈ ks)) ∧
    (∀ e, ((∀ default, v.readOptional path default e = .ok default) ↔ ∀ x, Leads v steps x → x = .null) ∧
      ∀ x, Leads v steps x → x ≠ .null → ∀ default, v.readOptional path default e = v.read path e) ∧
    (∃ b, v.has path = .ok b ∧ (b = true ↔ ∃ x, v.read path .any = .ok x ∧ x ≠ .null)) ∧
    (∀ n, v.length path = .ok n ↔
      (∃ xs, Leads v steps (.arr xs) ∧ n = xs.length) ∨ ∃ fs, Leads v steps (.obj fs) ∧ n = fs.length) := by
  refine ⟨read_pathNotFound_iff hsteps v, fun x e h hx => ?_, fun b e h => ?_, fun i e h hi => ?_,
    readOptional_default_iff hsteps v, has_iff hsteps v, length_iff hsteps v⟩
  · rw [h.read hsteps]
    exact convert_cases path hx
  · rw [h.read hsteps, convert_ok_iff path (fun _ i hi => by cases hi)]
    exact got_bool_iff
  · rw [h.read hsteps, convert_ok_iff path (fun _ j hj => by cases hj; exact hi)]
    exact got_int_iff hi

/-- An answer with a whole number among its hits. -/
def answered : Json := .obj [("timed_out", .bool false), ("hits", .arr [.null, .int 3])]

/-- The whole number is read as the binary64 number next to it where only one of these will do, and not where a text would
do as well; it can be read, and has no children. -/
theorem read_settled_answered : stepsOf "$.hits[1]" = .ok [.name "hits", .index 1] ∧
    Leads answered [.name "hits", .index 1] (.int 3) ∧
    (∃ y, answered.read "$.hits[1]" (.one .float) = .ok (.float y) ∧ RoundedTo 3 y) ∧
    answered.read "$.hits[1]" (.oneOf [.float, .str]) =
      .error (.read (.kindMismatch "$.hits[1]" (.oneOf [.float, .str]) .int)) ∧
    answered.has "$.hits[1]" = .ok true ∧ ∀ n, answered.length "$.hits[1]" ≠ .ok n := by
  have hparse : Path.parse "$.hits[1]" = .ok [.name "hits", .index 1] := by decide +kernel
  have hsteps : stepsOf "$.hits[1]" = .ok [.name "hits", .index 1] := by
    rw [stepsOf, hparse]
    rfl
  have hleads : Leads answered [.name "hits", .index 1] (.int 3) := leads_iff.2 rfl
  obtain ⟨-, hread, -, -, -, ⟨b, hb, hhas⟩, hlength⟩ := read_settled hsteps answered
  have hrange : InRange (.int 3) := by
    rintro i ⟨⟩
    decide +kernel
  refine ⟨hsteps, hleads, ?_, ?_, ?_, ?_⟩
  · rcases hread _ (.one .float) hleads fun _ => hrange with ⟨y, hy, hgot⟩ | ⟨-, hnone⟩
    · cases hgot with
      | one hkind => cases hkind
      | rounded hrounded => exact ⟨_, hy, hrounded⟩
    · obtain ⟨y, hy⟩ := (got_int_iff (e := .one .float) (hrange 3 rfl)).2 (.inr (.inr (.inl rfl)))
      exact absurd hy (hnone y)
  · rcases hread _ (.oneOf [.float, .str]) hleads nofun with ⟨y, -, hgot⟩ | ⟨herror, -⟩
    · cases hgot with
      | oneOf hkind => exact absurd hkind (by decide)
    · exact herror
  · have hany : answered.read "$.hits[1]" .any = .ok (.int 3) := hleads.read hsteps .any
    rw [hb, hhas.2 ⟨_, hany, nofun⟩]
  · intro n hn
    rcases (hlength n).1 hn with ⟨xs, hxs, -⟩ | ⟨fs, hfs, -⟩
    · cases leads_iff.1 hxs
    · cases leads_iff.1 hfs

end reading

end DocumentStore.Json
