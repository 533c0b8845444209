import DocumentStore.Node.Config
import DocumentStore.Proofs.Effect
import DocumentStore.Proofs.Json.Spelling
import DocumentStore.Proofs.Text.Base64
import Mathlib

/-! The header by which a node is told who asks. User name and password come first, then a key, then what the address of
the node itself says. What a header bears is said by what its base 64 text is read as, not by how it is written. -/

namespace DocumentStore.Node

/-- The header bears user name and password. -/
def IsBasic (user password : String) (header : Text) : Prop :=
  ∃ code : String, header = .ofString ("Basic " ++ code) ∧
    Text.base64Decode? code.toList = some (user ++ ":" ++ password).toUTF8.toList

/-- The header bears a key, as it is or with its parts joined. -/
def ApiKey.IsBorne (key : ApiKey) (header : Text) : Prop :=
  match key with
  | .whole v => header = "ApiKey " ++ v.shown
  | .parts vs => ∃ (texts : List Text) (joined code : String), vs = texts.map Json.str ∧
      Text.joined ":" texts = .ofString joined ∧ header = .ofString ("ApiKey " ++ code) ∧
      Text.base64Decode? code.toList = some joined.toUTF8.toList

/-- The header of a node whose address has its own user, or none. User name and password are shown if both of them
count. -/
inductive Credentials.Shown (counts : Json → Bool) (c : Credentials) (own : Option (String × String)) :
    Option Text → Prop
  | user {user password : String} {header : Text} (both : (counts c.username && counts c.password) = true)
      (hasUser : c.username = .str user) (hasPassword : c.password = .str password)
      (basic : IsBasic user password header) : Shown counts c own (some header)
  | key {header : Text} (passed : (counts c.username && counts c.password) = false)
      (hasKey : c.apiKey.toJson.truthy = true) (borne : c.apiKey.IsBorne header) : Shown counts c own (some header)
  | address {user password : String} {header : Text} (passed : (counts c.username && counts c.password) = false)
      (noKey : c.apiKey.toJson.truthy = false) (hasOwn : own = some (user, password))
      (basic : IsBasic user password header) : Shown counts c own (some header)
  | nobody (passed : (counts c.username && counts c.password) = false) (noKey : c.apiKey.toJson.truthy = false)
      (noOwn : own = none) : Shown counts c own none

/-- The values of all headers of one name, in whatever case it is written. -/
def Config.valuesOf (n : Config) (name : String) : List Text :=
  (n.headers.filter fun h => h.1.toList.map Char.toLower = name.toList).map (·.2)

/-- A node is the one that an element of a list of nodes names, read in some way, and shows the credentials. -/
structure Shows (read : AddressReader) (counts : Json → Bool) (c : Credentials) (v : Json) (n : Config) : Prop where
  named : ∃ t : Text, v = .str t ∧ n.endpoint = t.toString
  addressed : read n.endpoint = .ok n.address
  authorized : ∃ header : Option Text, n.valuesOf "authorization" = header.toList ∧ c.Shown counts n.address.user header

/-- A key of which a header can be made: it can be spelled out, or it has parts that have bytes when they are joined. -/
def ApiKey.Legible : ApiKey → Prop
  | .whole v => v.truthy = true → v.isSpellable = true
  | .parts vs => ∃ (texts : List Text) (joined : String), vs = texts.map Json.str ∧ Text.joined ":" texts = .ofString joined

/-- Credentials of which a header can be made. -/
def Credentials.Legible (c : Credentials) : Prop :=
  if c.username.truthy && c.password.truthy then
    ∃ user password : String, c.username = .str user ∧ c.password = .str password
  else c.apiKey.Legible

theorem isBasic_basicAuthorization (user password : String) :
    IsBasic user password (basicAuthorization user password) :=
  ⟨_, rfl, Text.base64Decode?_base64Text _⟩

/-- The first character tells the two kinds of headers apart. -/
theorem ApiKey.IsBorne.not_basic {key : ApiKey} {header : Text} {user password : String} (h : key.IsBorne header) :
    ¬IsBasic user password header := by
  rintro ⟨code, rfl, -⟩
  have hkey : ∃ rest : Text, Text.ofString ("Basic " ++ code) = Text.ofString "ApiKey " ++ rest := by
    cases key with
    | whole v => exact ⟨_, h⟩
    | parts vs =>
      obtain ⟨texts, joined, rest, -, -, heq, -⟩ := h
      exact ⟨rest, by rw [heq, Text.ofString_append]⟩
  obtain ⟨rest, heq⟩ := hkey
  rw [Text.ofString_append] at heq
  have hfirst : some (CodePoint.char 'B') = some (CodePoint.char 'A') := congrArg (·.points.head?) heq
  cases hfirst

/-! ### Keys -/

/-- The parts of a key, which have to be texts. -/
theorem texts_of_mapM {vs : List Json} {texts : List Text} :
    vs.mapM (fun | .str t => .ok t | _ => .error (.misuse .wrongKind) : Json → Except Failure Text) = .ok texts ↔
      vs = texts.map Json.str := by
  rw [except_mapM_eq_ok_iff]
  constructor
  · intro hall
    induction hall with
    | nil => rfl
    | @cons v t vs texts hv _ ih =>
      rw [ih]
      cases v <;> cases hv
      rfl
  · rintro rfl
    rw [List.forall₂_map_left_iff, List.forall₂_same]
    intro _ _
    rfl

theorem ApiKey.authorization_whole {v : Json} {header : Option Text} :
    (whole v).authorization = .ok header ↔
      (v.truthy = false ∧ header = none) ∨
        (v.truthy = true ∧ v.isSpellable = true ∧ header = some ("ApiKey " ++ v.shown)) := by
  rw [← Json.spell_eq_ok_iff]
  unfold ApiKey.authorization
  dsimp only
  cases v.truthy with
  | false => simp [pure, Except.pure, eq_comm]
  | true =>
    cases v.spell with
    | error f => simp [bind, Except.bind]
    | ok _ => simp [bind, Except.bind, pure, Except.pure, eq_comm]

theorem ApiKey.authorization_parts {v : Json} {vs : List Json} {header : Option Text} :
    (parts (v :: vs)).authorization = .ok header ↔
      ∃ (texts : List Text) (joined : String), v :: vs = texts.map Json.str ∧ Text.joined ":" texts = .ofString joined ∧
        header = some (.ofString ("ApiKey " ++ Text.base64Text joined)) := by
  constructor
  · intro h
    obtain ⟨texts, htexts, h⟩ := except_bind_eq_ok h
    obtain ⟨joined, hjoined, h⟩ := except_bind_eq_ok h
    cases h
    exact ⟨texts, joined, texts_of_mapM.1 htexts, Text.require_eq_ok_iff.1 hjoined, rfl⟩
  · rintro ⟨texts, joined, htexts, hjoined, rfl⟩
    exact (except_bind_of_ok (texts_of_mapM.2 htexts)).trans (except_bind_of_ok (Text.require_eq_ok_iff.2 hjoined))

theorem ApiKey.shown_of_authorization {key : ApiKey} {header : Option Text} (h : key.authorization = .ok header) :
    (key.toJson.truthy = false ∧ header = none) ∨
      ∃ text, key.toJson.truthy = true ∧ header = some text ∧ key.IsBorne text := by
  cases key with
  | whole v =>
    rcases authorization_whole.1 h with ⟨hv, rfl⟩ | ⟨hv, -, rfl⟩
    · exact .inl ⟨hv, rfl⟩
    · exact .inr ⟨_, hv, rfl, rfl⟩
  | parts vs =>
    cases vs with
    | nil =>
      cases h
      exact .inl ⟨rfl, rfl⟩
    | cons v vs =>
      obtain ⟨texts, joined, htexts, hjoined, rfl⟩ := authorization_parts.1 h
      exact .inr ⟨_, rfl, rfl, texts, joined, _, htexts, hjoined, rfl, Text.base64Decode?_base64Text _⟩

theorem ApiKey.authorization_ok_iff (key : ApiKey) : (∃ header, key.authorization = .ok header) ↔ key.Legible := by
  cases key with
  | whole v =>
    simp only [authorization_whole, Legible]
    cases v.truthy <;> simp
  | parts vs =>
    cases vs with
    | nil => exact iff_of_true ⟨none, rfl⟩ ⟨[], "", rfl, rfl⟩
    | cons v vs =>
      simp only [authorization_parts, Legible]
      constructor
      · rintro ⟨header, texts, joined, htexts, hjoined, -⟩
        exact ⟨texts, joined, htexts, hjoined⟩
      · rintro ⟨texts, joined, htexts, hjoined⟩
        exact ⟨_, texts, joined, htexts, hjoined, rfl⟩

/-! ### The header of a node -/

theorem Credentials.authorization_both {c : Credentials} (both : (c.username.truthy && c.password.truthy) = true)
    {header : Option Text} :
    c.authorization = .ok header ↔ ∃ user password : String, c.username = .str user ∧ c.password = .str password ∧
      header = some (.ofString (basicAuthorization user password)) := by
  unfold Credentials.authorization
  rw [if_pos both]
  constructor
  · intro h
    split at h
    next huser hpassword =>
      obtain ⟨user, hu, h⟩ := except_bind_eq_ok h
      obtain ⟨password, hp, h⟩ := except_bind_eq_ok h
      rw [Text.require_eq_ok_iff] at hu hp
      cases h
      exact ⟨user, password, by rw [huser, hu], by rw [hpassword, hp], rfl⟩
    next => cases h
  · rintro ⟨user, password, huser, hpassword, rfl⟩
    rw [huser, hpassword]
    exact (except_bind_of_ok (Text.require_eq_ok_iff.2 rfl)).trans (except_bind_of_ok (Text.require_eq_ok_iff.2 rfl))

theorem Credentials.authorization_passed {c : Credentials} (passed : (c.username.truthy && c.password.truthy) = false) :
    c.authorization = c.apiKey.authorization := by
  unfold Credentials.authorization
  rw [if_neg (Bool.eq_false_iff.1 passed)]

theorem Credentials.authorization_ok_iff (c : Credentials) : (∃ header, c.authorization = .ok header) ↔ c.Legible := by
  unfold Credentials.Legible
  cases both : c.username.truthy && c.password.truthy with
  | true =>
    simp only [authorization_both both, if_true]
    constructor
    · rintro ⟨header, user, password, huser, hpassword, -⟩
      exact ⟨user, password, huser, hpassword⟩
    · rintro ⟨user, password, huser, hpassword⟩
      exact ⟨_, user, password, huser, hpassword, rfl⟩
  | false =>
    rw [authorization_passed both]
    exact c.apiKey.authorization_ok_iff

theorem Credentials.legible_of_passed {c : Credentials} (passed : (c.username.truthy && c.password.truthy) = false)
    (legible : c.apiKey.Legible) : c.Legible := by
  unfold Legible
  rw [if_neg (Bool.eq_false_iff.1 passed)]
  exact legible

theorem Credentials.shown_of_authorization {c : Credentials} {header : Option Text} (h : c.authorization = .ok header)
    (own : Option (String × String)) :
    c.Shown Json.truthy own (header.or (own.map fun (user, password) => (basicAuthorization user password : Text))) := by
  cases both : c.username.truthy && c.password.truthy with
  | true =>
    obtain ⟨user, password, huser, hpassword, rfl⟩ := (authorization_both both).1 h
    exact .user both huser hpassword (isBasic_basicAuthorization _ _)
  | false =>
    rw [authorization_passed both] at h
    rcases ApiKey.shown_of_authorization h with ⟨noKey, rfl⟩ | ⟨text, hasKey, rfl, borne⟩
    · cases own with
      | none => exact .nobody both noKey rfl
      | some own => exact .address both noKey rfl (isBasic_basicAuthorization _ _)
    · exact .key both hasKey borne

/-- Where the address has no user, values that count for the one but not for the other rule make a difference. -/
theorem Credentials.Shown.unequal {counts counts' : Json → Bool} {c : Credentials} {header : Option Text}
    (h : c.Shown counts none header) (h' : c.Shown counts' none header)
    (both : (counts c.username && counts c.password) = true)
    (passed : (counts' c.username && counts' c.password) = false) : False := by
  cases h with
  | user _ _ _ basic =>
    cases h' with
    | user both' => exact Bool.false_ne_true (passed.symm.trans both')
    | key _ _ borne => exact borne.not_basic basic
    | address _ _ hasOwn => cases hasOwn
  | key passed' => exact Bool.false_ne_true (passed'.symm.trans both)
  | address passed' => exact Bool.false_ne_true (passed'.symm.trans both)
  | nobody passed' => exact Bool.false_ne_true (passed'.symm.trans both)

theorem Credentials.Shown.of_agreed {counts counts' : Json → Bool} {c : Credentials} {own : Option (String × String)}
    {header : Option Text} (h : c.Shown counts own header)
    (agreed : (counts' c.username && counts' c.password) = (counts c.username && counts c.password)) :
    c.Shown counts' own header := by
  cases h with
  | user both hasUser hasPassword basic => exact .user (agreed.trans both) hasUser hasPassword basic
  | key passed hasKey borne => exact .key (agreed.trans passed) hasKey borne
  | address passed noKey hasOwn basic => exact .address (agreed.trans passed) noKey hasOwn basic
  | nobody passed noKey noOwn => exact .nobody (agreed.trans passed) noKey noOwn

theorem Config.valuesOf_authorization (n : Config) : n.valuesOf "authorization" = n.authorization.toList := by
  unfold valuesOf headers
  cases n.authorization <;> simp

section build

variable {connection : Connection} {options : Options} {authorization : Option Text} {endpoint : String}
  {read : AddressReader}

theorem Config.of_build {n : Config} (h : Config.build connection options authorization endpoint read = .ok n) :
    n.endpoint = endpoint ∧ read endpoint = .ok n.address ∧
      n.authorization =
        authorization.or (n.address.user.map fun (user, password) => (basicAuthorization user password : Text)) := by
  unfold Config.build at h
  cases haddress : read endpoint with
  | error p =>
    rw [haddress] at h
    cases h
  | ok address =>
    rw [haddress] at h
    cases h
    exact ⟨rfl, rfl, rfl⟩

theorem Config.build_ok_iff :
    (∃ n, Config.build connection options authorization endpoint read = .ok n) ↔
      ∃ address, read endpoint = .ok address := by
  constructor
  · rintro ⟨n, h⟩
    exact ⟨n.address, (of_build h).2.1⟩
  · rintro ⟨address, haddress⟩
    unfold Config.build
    rw [haddress]
    exact ⟨_, rfl⟩

end build

end DocumentStore.Node
