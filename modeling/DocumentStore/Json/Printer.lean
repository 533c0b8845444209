import DocumentStore.Decimal.Shortest
import DocumentStore.Json.Basic
import DocumentStore.Text.Encoding

/-! The compact text of a document: no blanks, the members in order, and escapes only for the quotation mark,
the backslash and the control characters, so that a document is always one line. -/

namespace DocumentStore.Json

def escapeChar (c : Char) : List Char :=
  if c = '\x22' then ['\\', '\x22']
  else if c = '\\' then ['\\', '\\']
  else if c = '\n' then ['\\', 'n']
  else if c = '\r' then ['\\', 'r']
  else if c = '\t' then ['\\', 't']
  else if c = '\x08' then ['\\', 'b']
  else if c = '\x0c' then ['\\', 'f']
  else if c.toNat < 0x20 then ['\\', 'u', '0', '0', Text.hexDigit (c.toNat / 16), Text.hexDigit (c.toNat % 16)]
  else [c]

def escapePoint : CodePoint → List CodePoint
  | .char c => (escapeChar c).map .char
  | p => [p]

def printText (t : Text) : List CodePoint := .char '\x22' :: t.points.flatMap escapePoint ++ [.char '\x22']

def printInt (i : Int) : List Char :=
  if i < 0 then '-' :: Nat.toDigits 10 i.natAbs else Nat.toDigits 10 i.natAbs

mutual

def print : Json → List CodePoint
  | .null => (Text.ofString "null").points
  | .bool true => (Text.ofString "true").points
  | .bool false => (Text.ofString "false").points
  | .int i => (Text.ofChars (printInt i)).points
  | .float x => (Text.ofString (Decimal.documentLayout.render x)).points
  | .str t => printText t
  | .arr xs => .char '[' :: printItems xs ++ [.char ']']
  | .obj fs => .char '\x7b' :: printFields fs ++ [.char '\x7d']

def printItems : List Json → List CodePoint
  | [] => []
  | [x] => print x
  | x :: xs => print x ++ .char ',' :: printItems xs

def printFields : List (Text × Json) → List CodePoint
  | [] => []
  | [(k, x)] => printText k ++ .char ':' :: print x
  | (k, x) :: fs => printText k ++ .char ':' :: print x ++ .char ',' :: printFields fs

end

/-- The compact text of a document. -/
def text (v : Json) : Text := ⟨v.print⟩

/-- The key that a scalar becomes in the text of an object. -/
def keyText? : Json → Option Text
  | .str t => some t
  | .arr _ | .obj _ => none
  | v => some v.text

end DocumentStore.Json
