import DocumentStore.Failure
import DocumentStore.Json.Printer
import DocumentStore.Json.Reader
import DocumentStore.Path

/-! Reading values out of a document by path. What a path does not reach, what is null, and what has another
kind than the one asked for are three different answers. -/

namespace DocumentStore

/-- A document as it arrives: text, bytes, or a value that is neither. -/
inductive Source where
  | text (t : Text)
  | bytes (bs : List UInt8)
  | other (k : Json.Kind)

namespace Document

def parse (s : Source) : Except Failure Json :=
  let result := match s with
    | .text t => Json.parse t
    | .bytes bs => Json.parseBytes bs
    | .other k => .error (.notText k)
  result.mapError fun f => .read (.malformed f)

end Document

namespace Json

/-- The value one step further down: an index goes into a list that is longer, a name into an object that
has it. -/
def child? : Json → Path.Step → Option Json
  | .arr xs, .index n => xs[n]?
  | .obj fs, .name s => lookupField fs s
  | _, _ => none

def follow? (v : Json) (steps : List Path.Step) : Option Json := steps.foldlM child? v

def stepsOf (path : Text) : Except Failure (List Path.Step) :=
  (Path.parse path).mapError fun
    | .noSegment => .misuse (.badPath path)
    | .overlong n => .misuse (.overlongIndex n)

/-- The value at a path. -/
def resolve (v : Json) (path : Text) : Except Failure Json := do
  match v.follow? (← stepsOf path) with
  | some x => .ok x
  | none => .error (.read (.pathNotFound path))

/-- Whether a value is of a kind that is asked for; truth values are of no kind but their own. -/
def Expectation.admits : Expectation → Json → Bool
  | .any, _ => true
  | .one k, v => v.kind = k
  | .oneOf ks, v => ks.contains v.kind

/-- The value as the kind that is asked for. Where only a binary64 number will do, a whole one is rounded. -/
def convert (path : Text) (e : Expectation) (v : Json) : Except Failure Json :=
  match e, v with
  | .one .float, .int i =>
    match Quantity.finiteFloat? i with
    | some x => .ok (.float x)
    | none => .error (.misuse .outOfRange)
  | e, v => if e.admits v then .ok v else .error (.read (.kindMismatch path e v.kind))

/-- The value at a path, of the kind that is asked for. -/
def read (v : Json) (path : Text) (e : Expectation) : Except Failure Json := do
  convert path e (← v.resolve path)

/-- The value at a path, or the default where the path leads nowhere or to null. -/
def readOptional (v : Json) (path : Text) (default : Json) (e : Expectation) : Except Failure Json := do
  match v.follow? (← stepsOf path) with
  | none | some .null => .ok default
  | some x => convert path e x

/-- Whether a path leads to something other than null. -/
def has (v : Json) (path : Text) : Except Failure Bool := do
  match v.follow? (← stepsOf path) with
  | none | some .null => .ok false
  | some _ => .ok true

/-- The compact text of the value at a path. -/
def extract (v : Json) (path : Text) : Except Failure Text := do
  return (← v.resolve path).text

/-- How many children a list or an object has. -/
def childCount : Json → Nat
  | .arr xs => xs.length
  | .obj fs => fs.length
  | _ => 0

/-- The number of children of the list or object at a path. -/
def length (v : Json) (path : Text) : Except Failure Nat := do
  return (← v.read path (.oneOf [.list, .object])).childCount

/-- The text at a path. -/
def readText (v : Json) (path : Text) : Except Failure Text := do
  match ← v.read path (.one .str) with
  | .str t => return t
  | x => .error (.read (.kindMismatch path (.one .str) x.kind))

/-- The whole number at a path. -/
def readInt (v : Json) (path : Text) : Except Failure Int := do
  match ← v.read path (.one .int) with
  | .int i => return i
  | x => .error (.read (.kindMismatch path (.one .int) x.kind))

/-- The truth value at a path. -/
def readBool (v : Json) (path : Text) : Except Failure Bool := do
  match ← v.read path (.one .bool) with
  | .bool b => return b
  | x => .error (.read (.kindMismatch path (.one .bool) x.kind))

end Json

/-- A body of an answer as a document that can be read. -/
def ResponseError.source (r : ResponseError) : Source :=
  match r.body with
  | .str t => .text t
  | v => .other v.kind

/-- A text out of the structured body of an answer; none if the body is no document or has no such text. -/
def ResponseError.detail (r : ResponseError) (path : Text) : Option Text :=
  match Document.parse r.source with
  | .ok v =>
    match v.readOptional path .null .any with
    | .ok (.str t) => some t
    | _ => none
  | .error _ => none

/-- The type that the body of an answer gives for its error. -/
def ResponseError.errorType (r : ResponseError) : Option Text := r.detail "$.error.type"

def ResponseError.errorReason (r : ResponseError) : Option Text := r.detail "$.error.reason"

end DocumentStore
