import DocumentStore.Text.Basic

/-! Documents: JSON values whose objects keep the order of their keys, with whole numbers of any size kept
apart from binary64 ones. -/

namespace DocumentStore

inductive Json where
  | null
  | bool (b : Bool)
  | int (i : Int)
  | float (x : Float)
  | str (t : Text)
  | arr (items : List Json)
  | obj (fields : List (Text × Json))
  deriving Inhabited, BEq

/-- The entries with one more: a key that is there already keeps its place and takes the new value. -/
def putField {κ α : Type} [DecidableEq κ] (k : κ) (v : α) : List (κ × α) → List (κ × α)
  | [] => [(k, v)]
  | (k', v') :: rest => if k' = k then (k, v) :: rest else (k', v') :: putField k v rest

/-- The entries put one after the other. -/
def putFields {κ α : Type} [DecidableEq κ] (fields : List (κ × α)) : List (κ × α) :=
  fields.foldl (fun acc (k, v) => putField k v acc) []

namespace Json

/-- The kinds of value that a reader can ask for. -/
inductive Kind where
  | null | bool | int | float | str | list | object
  deriving DecidableEq, Repr

def Kind.name : Kind → String
  | .null => "NoneType"
  | .bool => "bool"
  | .int => "int"
  | .float => "float"
  | .str => "str"
  | .list => "list"
  | .object => "dict"

def kind : Json → Kind
  | .null => .null
  | .bool _ => .bool
  | .int _ => .int
  | .float _ => .float
  | .str _ => .str
  | .arr _ => .list
  | .obj _ => .object

/-- What a reader asks of a value: nothing, one kind, or one of several kinds. -/
inductive Expectation where
  | any
  | one (k : Kind)
  | oneOf (ks : List Kind)
  deriving DecidableEq, Repr

def Expectation.name : Expectation → String
  | .any => ""
  | .one k => k.name
  | .oneOf ks => " | ".intercalate (ks.map Kind.name)

/-- Whether the value counts as something: not null, false, zero or empty. -/
def truthy : Json → Bool
  | .null => false
  | .bool b => b
  | .int i => i ≠ 0
  | .float x => x != 0.0
  | .str t => !t.isEmpty
  | .arr xs => !xs.isEmpty
  | .obj fs => !fs.isEmpty

/-- The value under a key among the fields of an object. -/
def lookupField (fields : List (Text × Json)) (k : Text) : Option Json := fields.lookup k

/-- The value of a field of an object. -/
def field? (k : Text) : Json → Option Json
  | .obj fs => lookupField fs k
  | _ => none

/-- What the value holds one after the other: items, characters or keys; none if it holds nothing. -/
def elements? : Json → Option (List Json)
  | .arr xs => some xs
  | .str t => some (t.points.map fun p => .str ⟨[p]⟩)
  | .obj fs => some (fs.map fun f => .str f.1)
  | _ => none

/-- Whether the value can be looked up in a set: lists and objects cannot. -/
def isScalar : Json → Bool
  | .arr _ | .obj _ => false
  | _ => true

mutual

/-- Every object in the value has distinct keys. -/
def DistinctKeys : Json → Prop
  | .arr xs => DistinctKeysAll xs
  | .obj fs => (fs.map (·.1)).Nodup ∧ DistinctKeysFields fs
  | _ => True

def DistinctKeysAll : List Json → Prop
  | [] => True
  | x :: xs => DistinctKeys x ∧ DistinctKeysAll xs

def DistinctKeysFields : List (Text × Json) → Prop
  | [] => True
  | (_, x) :: fs => DistinctKeys x ∧ DistinctKeysFields fs

end

mutual

/-- No number in the value is a binary64 one. -/
def IntegersOnly : Json → Prop
  | .float _ => False
  | .arr xs => IntegersOnlyAll xs
  | .obj fs => IntegersOnlyFields fs
  | _ => True

def IntegersOnlyAll : List Json → Prop
  | [] => True
  | x :: xs => IntegersOnly x ∧ IntegersOnlyAll xs

def IntegersOnlyFields : List (Text × Json) → Prop
  | [] => True
  | (_, x) :: fs => IntegersOnly x ∧ IntegersOnlyFields fs

end

end Json

end DocumentStore
