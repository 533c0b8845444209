import DocumentStore.Node.Connection
import DocumentStore.Node.Credentials

/-! The settings of a client, read from fields and checked. Limits are numbers; all else is kept as given. -/

namespace DocumentStore

/-- The connection of the settings: one that was checked, or a value that is none. -/
inductive ConnectionSetting where
  | checked (c : Node.Connection)
  | unchecked (v : Json)

structure Settings where
  nodes : Json
  username : Json
  password : Json
  apiKey : Node.ApiKey
  sslVerification : Json
  caCerts : Json
  bulkSize : Quantity
  flushInterval : Option Quantity
  pipeline : Json
  index : Json
  indexFolder : Json
  addAsInnerObject : Json
  jsonSupport : Json
  xmlSupport : Json
  indexFolders : Json
  bulkMaxRetries : Quantity
  bulkRetryDelay : Quantity
  connection : ConnectionSetting

namespace Settings

def keys : List Text := [
  "nodes", "username", "password", "api_key", "ssl_verification", "ca_certs", "bulk_size", "flush_interval",
  "pipeline", "index", "index_folder", "add_as_inner_object", "json_support", "xml_support", "index_folders",
  "bulk_max_retries", "bulk_retry_delay", "connection"]

def defaultNodes : Json := .arr [.str "http://127.0.0.1:9200"]

/-- A limit, which must not be less than `least`. -/
def limit (key : String) (least : Nat) (v : Json) : Except Failure Quantity := do
  let q ← Quantity.require v
  if q.lt (.int least) then throw (Failure.about (.settings (.below key least q)) q)
  return q

/-- An interval, which must be positive; null is none. -/
def interval (key : String) : Json → Except Failure (Option Quantity)
  | .null => .ok none
  | v => do
    let q ← Quantity.require v
    if q.le (.int 0) then throw (Failure.about (.settings (.notPositive key q)) q)
    return some q

def isNull : Json → Bool
  | .null => true
  | _ => false

/-- The index for folders, which is named after the index for documents unless it has a name of its own. -/
def folderOf (index folder : Json) : Json :=
  if isNull folder && index.truthy then .str (index.shown ++ "_folder") else folder

def apiKeyOf : Json → Node.ApiKey
  | .arr vs => .parts vs
  | v => .whole v

/-- The settings that known fields make, with a connection that was read before. -/
def check (fields : List (Text × Json)) (connection : ConnectionSetting) : Except Failure Settings := do
  let field (key : Text) (default : Json) := (Json.lookupField fields key).getD default
  let nodes := match field "nodes" defaultNodes with
    | .str s => .arr [.str s]
    | v => v
  if !nodes.truthy then throw (.settings .noNodes)
  let bulkSize ← limit "bulk_size" 1 (field "bulk_size" (.int 100))
  let flushInterval ← interval "flush_interval" (field "flush_interval" (.float 5.0))
  let bulkMaxRetries ← limit "bulk_max_retries" 0 (field "bulk_max_retries" (.int 3))
  let bulkRetryDelay ← limit "bulk_retry_delay" 0 (field "bulk_retry_delay" (.float 1.0))
  let username := field "username" .null
  let password := field "password" .null
  if isNull username != isNull password then throw (.settings .halfCredentials)
  let index := field "index" .null
  return {
    nodes, username, password, bulkSize, flushInterval, bulkMaxRetries, bulkRetryDelay, index, connection
    apiKey := apiKeyOf (field "api_key" .null)
    sslVerification := field "ssl_verification" (.bool true)
    caCerts := field "ca_certs" .null
    pipeline := field "pipeline" .null
    indexFolder := folderOf index (field "index_folder" .null)
    addAsInnerObject := field "add_as_inner_object" (.bool false)
    jsonSupport := field "json_support" (.bool false)
    xmlSupport := field "xml_support" (.bool false)
    indexFolders := field "index_folders" (.bool true) }

/-- The connection that a field holds as it is. -/
def connectionAsGiven (fields : List (Text × Json)) : ConnectionSetting :=
  match Json.lookupField fields "connection" with
  | none => .checked {}
  | some v => .unchecked v

/-- The connection that a field describes; only an object describes one. -/
def connectionOf (fields : List (Text × Json)) : Except Failure ConnectionSetting :=
  match Json.lookupField fields "connection" with
  | none => .ok (.checked {})
  | some (.obj fs) =>
    match Node.Connection.ofFields fs with
    | .ok c => .ok (.checked c)
    | .error (.unknownKey k) => .error (.settings (.unknownConnectionKey k))
    | .error (.incomparable k) => .error (.settings (.connectionIncomparable k))
    | .error (.invalid f) => .error (.connection f)
    | .error .untold => .error (.misuse .overlongNumber)
  | some v => .ok (.unchecked v)

def unknownKeys (fields : List (Text × Json)) : List Text :=
  ((fields.map (·.1)).filter (!keys.contains ·)).mergeSort fun a b => a.toString ≤ b.toString

/-- The settings that a configuration describes; unknown fields are refused by name. -/
def ofFields (fields : List (Text × Json)) : Except Failure Settings := do
  if !(unknownKeys fields).isEmpty then throw (.settings (.unknownKeys (unknownKeys fields)))
  check fields (← connectionOf fields)

/-- The settings that a value describes; the members of what is no object are fields without values. -/
def ofJson : Json → Except Failure Settings
  | .obj fields => ofFields fields
  | v => do
    let members ← match v.elements? with
      | some members => pure members
      | none => throw (.misuse .wrongKind)
    let names ← members.mapM fun
      | .str name => .ok name
      | _ => .error (.misuse .wrongKind)
    ofFields (names.eraseDups.map (·, .null))

/-- The settings with the given fields, the connection among them as it is. -/
def ofMembers (fields : List (Text × Json)) : Except Failure Settings := do
  if !(unknownKeys fields).isEmpty then throw (.misuse .wrongKind)
  check fields (connectionAsGiven fields)

def credentials (s : Settings) : Node.Credentials := ⟨s.username, s.password, s.apiKey⟩

/-- The connection to use; a value that counts as nothing stands for the usual one. -/
def usableConnection (s : Settings) : Except Failure Node.Connection :=
  match s.connection with
  | .checked c => .ok c
  | .unchecked v => if v.truthy then .error (.misuse .noMember) else .ok {}

end Settings

end DocumentStore
