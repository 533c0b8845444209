import DocumentStore.Failure
import DocumentStore.Text.Base64

/-! Who asks: the authorization header that user name, password and key make. -/

namespace DocumentStore.Node

/-- A key as it is, or in parts that still have to be joined. -/
inductive ApiKey where
  | whole (v : Json)
  | parts (vs : List Json)

def ApiKey.toJson : ApiKey → Json
  | .whole v => v
  | .parts vs => .arr vs

structure Credentials where
  username : Json := .null
  password : Json := .null
  apiKey : ApiKey := .whole .null

/-- The header of a user name and a password. -/
def basicAuthorization (user password : String) : String := "Basic " ++ Text.base64Text (user ++ ":" ++ password)

/-- The header of a key. A key as it is stays as it is; one in parts is joined and has to have bytes. -/
def ApiKey.authorization : ApiKey → Except Failure (Option Text)
  | .whole v => do
    if !v.truthy then return none
    v.spell
    return some ("ApiKey " ++ v.shown)
  | .parts [] => .ok none
  | .parts vs => do
    let texts ← vs.mapM fun
      | .str t => .ok t
      | _ => .error (.misuse .wrongKind)
    let key ← Text.require (Text.joined ":" texts)
    return some (Text.ofString ("ApiKey " ++ Text.base64Text key))

/-- The header of some credentials; user name and password, if both are there, win over a key. -/
def Credentials.authorization (c : Credentials) : Except Failure (Option Text) :=
  if c.username.truthy && c.password.truthy then
    match c.username, c.password with
    | .str user, .str password => do
      return some (Text.ofString (basicAuthorization (← user.require) (← password.require)))
    | _, _ => .error (.misuse .credentialsNotText)
  else c.apiKey.authorization

end DocumentStore.Node
