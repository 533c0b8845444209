import DocumentStore.Failure
import DocumentStore.Json.Display
import DocumentStore.Json.Printer
import DocumentStore.Text.Percent

/-! What a request carries: its target, made of a path and parameters, and its body. -/

namespace DocumentStore.Cluster

/-- Parameters in the order in which they are given. -/
abbrev Params := List (Json × Json)

/-- A key and a value out of what has two members. -/
def pairOf (v : Json) : Except Failure (Json × Json) :=
  match v.elements? with
  | some [key, value] => .ok (key, value)
  | some members => .error (.misuse (.notPair members.length))
  | none => .error (.misuse .wrongKind)

/-- The parameters that a value lists: the fields of an object, or pairs; a value that counts as nothing lists
none. -/
def paramsOf (v : Json) : Except Failure Params :=
  if !v.truthy then .ok []
  else
    match v with
    | .obj fields => .ok (fields.map fun (key, value) => (.str key, value))
    | v =>
      match v.elements? with
      | some pairs => pairs.mapM pairOf
      | none => .error (.misuse .wrongKind)

/-- The path that a value names; a value that counts as nothing names none. -/
def pathOf (v : Json) : Except Failure (Option Text) :=
  if v.truthy then
    match v with
    | .str t => .ok (some t)
    | _ => .error (.misuse .noMember)
  else .ok none

def isPathChar (c : Char) : Bool := Text.isUnreserved c || c = '/' || c = ',' || c = '*'

/-- The value of a parameter as text; truth values are written in lower case. -/
def paramText : Json → String
  | .bool true => "true"
  | .bool false => "false"
  | v => v.display

def queryChars (params : Params) : List Char :=
  Text.formFields (params.map fun (k, v) => (k.display, paramText v))

/-- The path below a slash, without slashes of its own in front, and the parameters behind a question mark. -/
def targetChars (path : Option String) (params : Params) : List Char :=
  let relative := String.ofList ((path.getD "").toList.dropWhile (· = '/'))
  '/' :: Text.percentEncode isPathChar relative ++ (if params.isEmpty then [] else '?' :: queryChars params)

def target (path : Option String) (params : Params) : String := String.ofList (targetChars path params)

/-- The target of a path that may have surrogates by themselves, which are shown as something else. -/
def targetOf (path : Option Text) (params : Params) : String := target (path.map Text.toString) params

/-- What a request or an answer carries: text, or bytes that may be none. -/
inductive Payload where
  | text (t : Text)
  | bytes (bs : List UInt8)
  deriving DecidableEq, Repr

/-- The bytes that are sent for a payload. -/
def Payload.encoded : Payload → List UInt8
  | .text t => t.utf8
  | .bytes bs => bs

/-- The text of a payload, if it is UTF-8. -/
def Payload.text? : Payload → Option String
  | .text t => t.string?
  | .bytes bs => String.fromUTF8? ⟨bs.toArray⟩

/-- What is to be sent: nothing, a payload as it stands, lines that are written as they are, or a document as compact JSON. -/
inductive Body where
  | none
  | raw (p : Payload)
  | lines (t : Text)
  | document (v : Json)

def Body.ofJson : Json → Body
  | .null => .none
  | .str t => .raw (.text t)
  | v => .document v

def Body.payload : Body → Option Payload
  | .none => Option.none
  | .raw p => some p
  | .lines t => some (.text t)
  | .document v => some (.text v.text)

/-! ### What has no bytes -/

/-- The value of a parameter, if it can be spelled out. -/
def spellValue : Json → Except Failure Unit
  | .bool _ => .ok ()
  | v => v.spell

/-- One part of a form, if it has bytes. -/
def encodePart (v : Json) : Except Failure Unit := do
  v.spell
  discard v.shown.require

/-- The parameters, if all of them have bytes. The values are spelled out before any of them is encoded. -/
def encodeParams (params : Params) : Except Failure Unit := do
  discard (params.mapM fun p => spellValue p.2)
  discard (params.mapM fun p => do
    encodePart p.1
    encodePart p.2)

/-- The path, if it has bytes. -/
def encodePath (path : Option Text) : Except Failure (Option String) := path.mapM Text.require

/-- A text that is sent as it stands has to have bytes; the lines of a batch and a document are written with surrogates of
their own. -/
def Body.encode : Body → Except Failure Unit
  | .raw (.text t) => discard t.require
  | _ => .ok ()

/-- What a request carries, if it can be written: its target and its payload. -/
def encode (path : Option Text) (body : Body) (params : Params) : Except Failure (String × Option Payload) := do
  let path ← encodePath path
  encodeParams params
  body.encode
  return (target path params, body.payload)

end DocumentStore.Cluster
