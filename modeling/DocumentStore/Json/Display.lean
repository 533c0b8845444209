import DocumentStore.Decimal.Shortest
import DocumentStore.Json.Basic
import DocumentStore.Quantity
import DocumentStore.Text.Digit
import DocumentStore.Text.Quoted

/-! The text of a value inside a message, a path or a parameter: a text stands for itself, anything else is
spelled out, and texts within lists and objects are quoted. -/

namespace DocumentStore.Json

mutual

/-- The value as it stands within another one. -/
def spelled : Json → String
  | .null => "None"
  | .bool b => if b then "True" else "False"
  | .int i => toString i
  | .float x => Decimal.plainLayout.render x
  | .str t => t.quoted
  | .arr xs => "[" ++ spelledItems xs ++ "]"
  | .obj fs => "\x7b" ++ spelledFields fs ++ "\x7d"

def spelledItems : List Json → String
  | [] => ""
  | [x] => spelled x
  | x :: xs => spelled x ++ ", " ++ spelledItems xs

def spelledFields : List (Text × Json) → String
  | [] => ""
  | [(k, x)] => k.quoted ++ ": " ++ spelled x
  | (k, x) :: fs => k.quoted ++ ": " ++ spelled x ++ ", " ++ spelledFields fs

end

/-- The text that stands for the value. -/
def shown : Json → Text
  | .str t => t
  | v => v.spelled

def display : Json → String
  | .str t => t.toString
  | v => v.spelled

mutual

/-- Whether every whole number in the value has few enough digits to be spelled out. -/
def isSpellable : Json → Bool
  | .int i => Text.fits Text.longestNumeral i.natAbs
  | .arr xs => areSpellable xs
  | .obj fs => haveSpellable fs
  | _ => true

def areSpellable : List Json → Bool
  | [] => true
  | x :: xs => isSpellable x && areSpellable xs

def haveSpellable : List (Text × Json) → Bool
  | [] => true
  | (_, x) :: fs => isSpellable x && haveSpellable fs

end

end DocumentStore.Json

namespace DocumentStore

def Quantity.display (q : Quantity) : String := q.toJson.display

def Quantity.isSpellable (q : Quantity) : Bool := q.toJson.isSpellable

end DocumentStore
