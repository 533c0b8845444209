import DocumentStore.Client.Basic
import DocumentStore.Proofs.Node.Authorization

/-! Who a client says it is. The settings ask for both or neither of user name and password by whether they are given,
but the header is made of them only if there is something in both. So user name and password take effect on every node
exactly if neither is empty, and an empty one leaves the word to the key and to the addresses. -/

namespace DocumentStore

/-- An element of a list of nodes that names an address, for a way to read addresses. -/
def Cluster.Addressed (read : Node.AddressReader) (v : Json) : Prop :=
  ∃ (t : Text) (address : Node.Address), v = .str t ∧ read t.toString = .ok address

namespace Client

/-- The nodes are the ones that the settings name, in their order, and show the credentials of the settings. -/
def Identified (read : Node.AddressReader) (counts : Json → Bool) (s : Settings) (c : Cluster) : Prop :=
  ∃ elements, Cluster.nodeList s.nodes = .ok elements ∧
    List.Forall₂ (Node.Shows read counts s.credentials) elements c.nodes

/-- A cluster can be made of the settings. -/
structure Usable (read : Node.AddressReader) (s : Settings) : Prop where
  legible : s.credentials.Legible
  connected : ∃ connection, s.usableConnection = .ok connection
  listed : ∃ elements, Cluster.nodeList s.nodes = .ok elements ∧ ∀ v ∈ elements, Cluster.Addressed read v

end Client

/-! ### Clusters -/

namespace Cluster

variable {connection : Node.Connection} {options : Node.Options} {health : Option Node.Health} {world : World}
  {read : Node.AddressReader}

theorem endpointOf_ok_iff {v : Json} {endpoint : String} :
    endpointOf v = .ok endpoint ↔ ∃ t : Text, v = .str t ∧ t.toString = endpoint := by
  cases v with
  | str t => simp [endpointOf]
  | _ => simp [endpointOf]

/-- The node that an element of a list of nodes names. -/
theorem node_ok_iff {authorization : Option Text} {v : Json} {n : Node.Config} :
    (endpointOf v >>= fun endpoint => Node.Config.build connection options authorization endpoint read) = .ok n ↔
      ∃ t : Text, v = .str t ∧ Node.Config.build connection options authorization t.toString read = .ok n := by
  constructor
  · intro h
    obtain ⟨endpoint, hendpoint, hn⟩ := except_bind_eq_ok h
    obtain ⟨t, rfl, rfl⟩ := endpointOf_ok_iff.1 hendpoint
    exact ⟨t, rfl, hn⟩
  · rintro ⟨t, rfl, hn⟩
    exact hn

theorem shows_of_build {elements : List Json} {c : Cluster}
    (h : build elements connection options health world read = .ok c) :
    List.Forall₂ (Node.Shows read Json.truthy options.credentials) elements c.nodes := by
  obtain ⟨authorization, hauthorization, h⟩ := except_bind_eq_ok h
  obtain ⟨nodes, hnodes, h⟩ := except_bind_eq_ok h
  cases Except.ok.inj h
  refine (except_mapM_eq_ok_iff.1 hnodes).imp ?_
  intro v n hv
  obtain ⟨t, rfl, hn⟩ := node_ok_iff.1 hv
  obtain ⟨hendpoint, haddress, hheader⟩ := Node.Config.of_build hn
  refine ⟨⟨t, rfl, hendpoint⟩, ?_, n.authorization, n.valuesOf_authorization, ?_⟩
  · rw [hendpoint]
    exact haddress
  · rw [hheader]
    exact Node.Credentials.shown_of_authorization hauthorization _

theorem node_ok_iff_addressed (connection : Node.Connection) (options : Node.Options) (authorization : Option Text)
    (v : Json) :
    (∃ n, (endpointOf v >>= fun endpoint => Node.Config.build connection options authorization endpoint read) = .ok n) ↔
      Addressed read v := by
  simp only [node_ok_iff]
  constructor
  · rintro ⟨n, t, rfl, hn⟩
    exact ⟨t, n.address, rfl, (Node.Config.of_build hn).2.1⟩
  · rintro ⟨t, address, rfl, haddress⟩
    obtain ⟨n, hn⟩ := Node.Config.build_ok_iff.2 ⟨address, haddress⟩
    exact ⟨n, t, rfl, hn⟩

theorem build_ok_iff (elements : List Json) : (∃ c, build elements connection options health world read = .ok c) ↔
    options.credentials.Legible ∧ ∀ v ∈ elements, Addressed read v := by
  rw [← Node.Credentials.authorization_ok_iff]
  constructor
  · rintro ⟨c, h⟩
    obtain ⟨authorization, hauthorization, h⟩ := except_bind_eq_ok h
    obtain ⟨nodes, hnodes, -⟩ := except_bind_eq_ok h
    refine ⟨⟨authorization, hauthorization⟩, ?_⟩
    intro v hv
    exact (node_ok_iff_addressed connection options authorization v).1 (except_mapM_ok_iff.1 ⟨nodes, hnodes⟩ v hv)
  · rintro ⟨⟨authorization, hauthorization⟩, haddressed⟩
    have hall := fun v hv => (node_ok_iff_addressed connection options authorization v).2 (haddressed v hv)
    obtain ⟨nodes, hnodes⟩ := except_mapM_ok_iff.2 hall
    unfold build
    rw [hauthorization]
    change ∃ c, (elements.mapM _ >>= _) = Except.ok c
    rw [hnodes]
    exact ⟨_, rfl⟩

end Cluster

/-! ### Settings -/

namespace Settings

/-- The credentials among some fields, each null if it is not there. -/
def credentialsAmong (fields : List (Text × Json)) : Node.Credentials where
  username := (Json.lookupField fields "username").getD .null
  password := (Json.lookupField fields "password").getD .null
  apiKey := apiKeyOf ((Json.lookupField fields "api_key").getD .null)

/-- User name and password are kept as they are, and are both there or both not. -/
theorem credentials_of_check {fields : List (Text × Json)} {connection : ConnectionSetting} {s : Settings}
    (h : check fields connection = .ok s) :
    s.credentials = credentialsAmong fields ∧ isNull s.username = isNull s.password := by
  unfold check at h
  extract_lets field nodes rest at h
  split at h
  · cases h
  obtain ⟨_, -, h⟩ := except_bind_eq_ok h
  obtain ⟨_, -, h⟩ := except_bind_eq_ok h
  obtain ⟨_, -, h⟩ := except_bind_eq_ok h
  obtain ⟨_, -, h⟩ := except_bind_eq_ok h
  split at h
  · cases h
  · next hboth =>
    cases Except.ok.inj h
    refine ⟨rfl, ?_⟩
    simpa using hboth

/-- Settings that a client is made of, read from a configuration or from its members. -/
def Accepted (fields : List (Text × Json)) (s : Settings) : Prop := ofFields fields = .ok s ∨ ofMembers fields = .ok s

theorem Accepted.credentials {fields : List (Text × Json)} {s : Settings} (h : Accepted fields s) :
    s.credentials = credentialsAmong fields ∧ isNull s.username = isNull s.password := by
  rcases h with h | h
  · unfold ofFields at h
    split at h
    · cases h
    obtain ⟨connection, -, h⟩ := except_bind_eq_ok h
    exact credentials_of_check h
  · unfold ofMembers at h
    split at h
    · cases h
    exact credentials_of_check h

end Settings

namespace Client

variable {read : Node.AddressReader}

theorem clusterOf_ok_iff (s : Settings) (world : World) :
    (∃ c, clusterOf s world read = .ok c) ↔ Usable read s := by
  constructor
  · rintro ⟨c, h⟩
    obtain ⟨elements, helements, h⟩ := except_bind_eq_ok h
    obtain ⟨connection, hconnection, h⟩ := except_bind_eq_ok h
    obtain ⟨hlegible, haddressed⟩ := (Cluster.build_ok_iff elements).1 ⟨c, h⟩
    exact ⟨hlegible, ⟨connection, hconnection⟩, elements, helements, haddressed⟩
  · rintro ⟨hlegible, ⟨connection, hconnection⟩, elements, helements, haddressed⟩
    unfold clusterOf
    rw [helements, hconnection]
    exact (Cluster.build_ok_iff elements).2 ⟨hlegible, haddressed⟩

theorem identified_of_clusterOf {s : Settings} {world : World} {c : Cluster} (h : clusterOf s world read = .ok c) :
    Identified read Json.truthy s c := by
  obtain ⟨elements, helements, h⟩ := except_bind_eq_ok h
  obtain ⟨connection, -, h⟩ := except_bind_eq_ok h
  exact ⟨elements, helements, Cluster.shows_of_build h⟩

/-- A value that is given, be it empty. -/
def given (v : Json) : Bool := !Settings.isNull v

theorem isNull_iff {v : Json} : Settings.isNull v = true ↔ v = .null := by
  cases v <;> simp [Settings.isNull]

theorem given_iff {v : Json} : given v = true ↔ v ≠ .null := by
  rw [given, Bool.not_eq_true', ← Bool.not_eq_true, isNull_iff]

theorem given_of_truthy {v : Json} (h : v.truthy = true) : given v = true := by
  rw [given_iff]
  rintro rfl
  cases h

/-- To be given is to be not empty, for both of two values that are given together or not at all, just if none is given
or neither is empty. -/
theorem given_eq_truthy_iff {u p : Json} (h : Settings.isNull u = Settings.isNull p) :
    (given u && given p) = (u.truthy && p.truthy) ↔ u = .null ∨ (u.truthy = true ∧ p.truthy = true) := by
  have hgiven : (given u && given p) = given u := by
    unfold given
    rw [← h, Bool.and_self]
  rw [hgiven]
  by_cases hnull : u = .null
  · subst hnull
    simp [given, Settings.isNull, Json.truthy]
  · rw [given_iff.2 hnull, eq_comm, Bool.and_eq_true]
    exact ⟨.inr, fun h => h.resolve_left hnull⟩

/-- The settings with one node. -/
def single (url : String) (s : Settings) : Settings := { s with nodes := .arr [.str url], connection := .checked {} }

theorem usable_single {url : String} {address : Node.Address} (hread : read url = .ok address) {s : Settings}
    (legible : s.credentials.Legible) : Usable read (single url s) where
  legible := legible
  connected := ⟨{}, rfl⟩
  listed := by
    refine ⟨[.str url], rfl, ?_⟩
    rintro v hv
    obtain rfl := List.mem_singleton.1 hv
    exact ⟨url, address, rfl, by rwa [Text.toString_ofString]⟩

/-- Where an empty user name or password is given, a node whose address has no user does not show it. -/
theorem not_identified_single {url : String} {address : Node.Address} (hread : read url = .ok address)
    (hnobody : address.user = none) {s : Settings} {world : World} {c : Cluster}
    (h : clusterOf (single url s) world read = .ok c) (both : (given s.username && given s.password) = true)
    (passed : (s.username.truthy && s.password.truthy) = false) : ¬Identified read given (single url s) c := by
  rintro ⟨elements, helements, hgiven⟩
  cases Except.ok.inj helements
  obtain ⟨elements, helements, htruthy⟩ := identified_of_clusterOf h
  cases Except.ok.inj helements
  obtain ⟨n, rest, hgiven, -, hnodes⟩ := List.forall₂_cons_left_iff.1 hgiven
  rw [hnodes, List.forall₂_cons] at htruthy
  obtain ⟨⟨t, ht, hendpoint⟩, haddress, header, hheader, hshown⟩ := hgiven
  obtain ⟨-, -, header', hheader', hshown'⟩ := htruthy.1
  cases ht
  rw [hendpoint, Text.toString_ofString, hread] at haddress
  obtain rfl : header = header' := by simpa using congrArg List.head? (hheader.symm.trans hheader')
  have hown : n.address.user = none := by rw [← Except.ok.inj haddress, hnobody]
  rw [hown] at hshown hshown'
  exact hshown.unequal hshown' both passed

/-- The settings of a client say who it is, however addresses are read, if there is one that is read as having no user. They
are accepted only with user name and password both given or both not. A cluster can be made of them just if a header can, the
connection can be used and all addresses can be read; each of its nodes then shows user name and password if neither is
empty, else the key if it is not empty, else the user of its own address, if any. That each node shows what was given, be it
empty, holds for all lists of nodes just if no user name was given, or neither it nor the password is empty. -/
theorem credentials_shown {url : String} {address : Node.Address} (hread : read url = .ok address)
    (hnobody : address.user = none) {fields : List (Text × Json)} {s : Settings} (accepted : Settings.Accepted fields s)
    (world : World) :
    (s.credentials = Settings.credentialsAmong fields ∧ (s.username = .null ↔ s.password = .null)) ∧
    ((∃ c, clusterOf s world read = .ok c) ↔ Usable read s) ∧
    (∀ c, clusterOf s world read = .ok c → Identified read Json.truthy s c) ∧
    (s.credentials.apiKey.Legible →
      ((∀ nodes connection c, clusterOf { s with nodes, connection } world read = .ok c →
          Identified read given { s with nodes, connection } c) ↔
        s.username = .null ∨ (s.username.truthy = true ∧ s.password.truthy = true))) := by
  obtain ⟨hcredentials, htogether⟩ := accepted.credentials
  refine ⟨⟨hcredentials, ?_⟩, clusterOf_ok_iff s world, fun c => identified_of_clusterOf, ?_⟩
  · rw [← isNull_iff, ← isNull_iff, htogether]
  · intro legible
    rw [← given_eq_truthy_iff htogether]
    constructor
    · intro hall
      cases passed : s.username.truthy && s.password.truthy with
      | true =>
        obtain ⟨huser, hpassword⟩ := Bool.and_eq_true_iff.1 passed
        rw [given_of_truthy huser, given_of_truthy hpassword]
        rfl
      | false =>
        by_contra both
        have hlegible := Node.Credentials.legible_of_passed (c := s.credentials) passed legible
        obtain ⟨c, h⟩ := (clusterOf_ok_iff (single url s) world).2 (usable_single hread hlegible)
        exact not_identified_single hread hnobody h (Bool.eq_true_of_not_eq_false both) passed (hall _ _ c h)
    · intro agreed nodes connection c h
      obtain ⟨elements, helements, hshows⟩ := identified_of_clusterOf h
      refine ⟨elements, helements, hshows.imp ?_⟩
      rintro v n ⟨hnamed, haddressed, header, hheader, hshown⟩
      exact ⟨hnamed, haddressed, header, hheader, hshown.of_agreed agreed⟩

/-- A world where nothing has happened yet. -/
def quiet : World where
  clock := .int 0
  network := ⟨fun _ _ => .response (.int 200) (.text ""), fun _ _ => none⟩

theorem parse_without_user : Node.Address.parse "http://n1:9200" = .ok ⟨"http", none, "n1", 9200, ""⟩ := by
  decide +kernel

/-- The headers by which the nodes of a client with some fields are told who asks. -/
def headersOf (fields : List (Text × Json)) : Option (List (List Text)) :=
  ((Settings.ofFields fields).bind fun s => (clusterOf s quiet).map fun c =>
    c.nodes.map (·.valuesOf "authorization")).toOption

theorem of_headersOf {fields : List (Text × Json)} {headers : List (List Text)} (h : headersOf fields = some headers) :
    ∃ s c, Settings.Accepted fields s ∧ clusterOf s quiet = .ok c ∧
      c.nodes.map (·.valuesOf "authorization") = headers := by
  unfold headersOf at h
  cases hs : Settings.ofFields fields with
  | error f =>
    rw [hs] at h
    cases h
  | ok s =>
    rw [hs] at h
    cases hc : clusterOf s quiet with
    | error f =>
      simp only [Except.bind, hc] at h
      cases h
    | ok c =>
      simp only [Except.bind, hc] at h
      cases h
      exact ⟨s, c, .inl hs, hc, rfl⟩

/-- User name, password and a key, and two nodes of which one has a user in its address. -/
def signed : List (Text × Json) := [
  ("nodes", .arr [.str "http://u:p@n1:9200", .str "https://n2:9200"]), ("username", .str "admin"),
  ("password", .str "p:ss"), ("api_key", .arr [.str "id", .str "key"])]

/-- User name and password go to both nodes, in spite of the key and of the user in an address. -/
theorem credentials_shown_for_signed : ∃ s c, Settings.Accepted signed s ∧ clusterOf s quiet = .ok c ∧
    c.nodes.map (·.valuesOf "authorization") =
      [[Text.ofString "Basic YWRtaW46cDpzcw=="], [Text.ofString "Basic YWRtaW46cDpzcw=="]] ∧
    Identified Node.Address.parse given s c := by
  have hheaders : headersOf signed =
      some [[Text.ofString "Basic YWRtaW46cDpzcw=="], [Text.ofString "Basic YWRtaW46cDpzcw=="]] := by decide +kernel
  obtain ⟨s, c, accepted, hc, hnodes⟩ := of_headersOf hheaders
  obtain ⟨⟨hcredentials, -⟩, -, -, hrule⟩ := credentials_shown parse_without_user rfl accepted quiet
  have hfields : s.credentials = ⟨.str "admin", .str "p:ss", .parts [.str "id", .str "key"]⟩ := hcredentials
  have legible : s.credentials.apiKey.Legible := by
    rw [hfields]
    exact ⟨["id", "key"], "id:key", rfl, rfl⟩
  have huser : s.username = .str "admin" := congrArg Node.Credentials.username hfields
  have hpassword : s.password = .str "p:ss" := congrArg Node.Credentials.password hfields
  refine ⟨s, c, accepted, hc, hnodes, ?_⟩
  refine (hrule legible).2 (.inr ?_) s.nodes s.connection c hc
  rw [huser, hpassword]
  exact ⟨rfl, rfl⟩

/-- A user name with an empty password, and a node with a user in its address. -/
def unlocked : List (Text × Json) := [
  ("nodes", .arr [.str "http://u:p@n1:9200"]), ("username", .str "admin"), ("password", .str "")]

/-- The empty password is accepted, and the node is told of the user in its address instead. -/
theorem empty_password_not_shown : ∃ s c, Settings.Accepted unlocked s ∧ clusterOf s quiet = .ok c ∧
    c.nodes.map (·.valuesOf "authorization") = [[Text.ofString "Basic dTpw"]] ∧ ¬Identified Node.Address.parse given s c := by
  have hheaders : headersOf unlocked = some [[Text.ofString "Basic dTpw"]] := by decide +kernel
  obtain ⟨s, c, accepted, hc, hnodes⟩ := of_headersOf hheaders
  have hfields : s.credentials = ⟨.str "admin", .str "", .whole .null⟩ := accepted.credentials.1
  refine ⟨s, c, accepted, hc, hnodes, ?_⟩
  rintro ⟨elements, -, hshows⟩
  rw [hfields] at hshows
  obtain ⟨n, rest, hcons, hvalues, -⟩ := List.map_eq_cons_iff.1 hnodes
  rw [hcons] at hshows
  obtain ⟨v, _, ⟨-, -, header, hheader, hshown⟩, -, -⟩ := List.forall₂_cons_right_iff.1 hshows
  obtain rfl : header = some (.ofString "Basic dTpw") := by
    simpa using congrArg List.head? (hheader.symm.trans hvalues)
  cases hshown with
  | user _ hasUser hasPassword basic =>
    have huser := congrArg Text.toString (Json.str.inj hasUser)
    have hpassword := congrArg Text.toString (Json.str.inj hasPassword)
    simp only [Text.toString_ofString] at huser hpassword
    obtain ⟨code, hcode, hbytes⟩ := basic
    have hsplit := congrArg Text.toString hcode
    simp only [Text.toString_ofString] at hsplit
    rw [← (String.append_right_inj "Basic ").1 (show "Basic " ++ "dTpw" = "Basic " ++ code from hsplit), ← huser,
      ← hpassword] at hbytes
    exact absurd hbytes (by decide +kernel)
  | key passed => cases passed
  | address passed => cases passed

end Client

end DocumentStore
