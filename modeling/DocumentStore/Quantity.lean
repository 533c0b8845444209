import DocumentStore.Decimal.Binary
import DocumentStore.Json.Basic

/-! Values that count as numbers: whole ones, kept exact, binary64 ones, and the two truth values as one and
zero. Durations, thresholds and clock readings are quantities. -/

namespace DocumentStore

inductive Quantity where
  | flag (b : Bool)
  | int (i : Int)
  | float (x : Float)
  deriving Inhabited, BEq

namespace Quantity

def ofJson? : Json → Option Quantity
  | .bool b => some (.flag b)
  | .int i => some (.int i)
  | .float x => some (.float x)
  | _ => none

def toJson : Quantity → Json
  | .flag b => .bool b
  | .int i => .int i
  | .float x => .float x

/-- The whole number of a quantity that is not binary64. -/
def toInt? : Quantity → Option Int
  | .flag b => some (if b then 1 else 0)
  | .int i => some i
  | .float _ => none

/-- The nearest binary64 number; a whole number out of range becomes an infinity. -/
def toFloat : Quantity → Float
  | .flag b => if b then 1.0 else 0.0
  | .int i => Decimal.toFloat (i < 0) i.natAbs 0
  | .float x => x

/-- A whole number as a binary64 one, if it is in range. -/
def finiteFloat? (i : Int) : Option Float :=
  let x := Decimal.toFloat (i < 0) i.natAbs 0
  if x.isInf then none else some x

/-- A binary64 number against a whole one, exactly; nothing compares with what is not a number. -/
def compareFloat (x : Float) (i : Int) : Option Ordering :=
  match Decimal.Binary.ofFloat? x with
  | some b => some (b.compareInt i)
  | none => if x.isNaN then none else some (if x < 0.0 then .lt else .gt)

def compare? (a b : Quantity) : Option Ordering :=
  match a.toInt?, b.toInt? with
  | some i, some j => some (compare i j)
  | none, some j => compareFloat a.toFloat j
  | some i, none => (compareFloat b.toFloat i).map Ordering.swap
  | none, none =>
    let (x, y) := (a.toFloat, b.toFloat)
    if x < y then some .lt else if y < x then some .gt else if x == y then some .eq else none

def lt (a b : Quantity) : Bool := a.compare? b = some .lt

def le (a b : Quantity) : Bool := a.compare? b = some .lt || a.compare? b = some .eq

def same (a b : Quantity) : Bool := a.compare? b = some .eq

def isZero (a : Quantity) : Bool := a.same (.int 0)

def isNaN : Quantity → Bool
  | .float x => x.isNaN
  | _ => false

/-- The number as a binary64 one, if it is in range. -/
def inRange? : Quantity → Option Float
  | .float x => some x
  | q => q.toInt?.bind finiteFloat?

/-- Whole numbers are combined exactly, any other two as binary64 numbers; none if a whole number is out of the
range of the binary64 one that it meets. -/
def combine (onInt : Int → Int → Int) (onFloat : Float → Float → Float) (a b : Quantity) : Option Quantity :=
  match a.toInt?, b.toInt? with
  | some i, some j => some (.int (onInt i j))
  | _, _ => do return .float (onFloat (← a.inRange?) (← b.inRange?))

def add? : Quantity → Quantity → Option Quantity := combine (· + ·) (· + ·)

def sub? : Quantity → Quantity → Option Quantity := combine (· - ·) (· - ·)

def mul? : Quantity → Quantity → Option Quantity := combine (· * ·) (· * ·)

def neg : Quantity → Quantity
  | .flag b => .int (if b then -1 else 0)
  | .int i => .int (-i)
  | .float x => .float (-x)

/-- The larger of two, the first of equals. -/
def max (a b : Quantity) : Quantity := if a.lt b then b else a

/-- The smaller of two, the first of equals. -/
def min (a b : Quantity) : Quantity := if b.lt a then b else a

end Quantity

/-- Equality of scalars, in which numbers and truth values compare as quantities; what is not a number is one
value like any other. -/
def Json.sameScalar (a b : Json) : Bool :=
  match Quantity.ofJson? a, Quantity.ofJson? b with
  | some x, some y => x.same y || (x.isNaN && y.isNaN)
  | _, _ =>
    match a, b with
    | .null, .null => true
    | .str s, .str t => s = t
    | _, _ => false

/-- A list without the scalars that are there already. -/
def distinctScalars (xs : List Json) : List Json :=
  xs.foldl (fun acc x => if acc.any (·.sameScalar x) then acc else acc ++ [x]) []

end DocumentStore
