import DocumentStore.Json.Basic
import DocumentStore.Text.Digit
import DocumentStore.Text.Encoding

/-! Why something is not a JSON document, and the message that says so. -/

namespace DocumentStore.Json

/-- What is wrong at a place in the text. -/
inductive Problem where
  | byteOrderMark
  | expectedValue
  | expectedKey
  | expectedColon
  | expectedComma
  | extraData
  | unterminatedText
  | controlCharacter
  | unknownEscape
  | unicodeEscape
  deriving DecidableEq, Repr

def Problem.text : Problem → String
  | .byteOrderMark => "Unexpected UTF-8 BOM (decode using utf-8-sig)"
  | .expectedValue => "Expecting value"
  | .expectedKey => "Expecting property name enclosed in double quotes"
  | .expectedColon => "Expecting ':' delimiter"
  | .expectedComma => "Expecting ',' delimiter"
  | .extraData => "Extra data"
  | .unterminatedText => "Unterminated string starting at"
  | .controlCharacter => "Invalid control character at"
  | .unknownEscape => "Invalid \\escape"
  | .unicodeEscape => "Invalid \\uXXXX escape"

/-- A fault as the reader finds it: a problem at an offset, or a numeral that is too long to read. -/
inductive Refusal where
  | problem (p : Problem) (offset : Nat)
  | overlong (digits : Nat)
  deriving DecidableEq, Repr

inductive Fault where
  | place (p : Problem) (line column offset : Nat)
  | overlong (digits : Nat)
  | undecodable (f : Text.DecodeFault)
  | notText (k : Kind)
  deriving DecidableEq, Repr

/-- The line and column of an offset, both counted from one. -/
def position (text : List CodePoint) (offset : Nat) : Nat × Nat :=
  let before := text.take offset
  (before.count (.char '\n') + 1, (before.reverse.takeWhile (· ≠ .char '\n')).length + 1)

def Refusal.toFault (text : List CodePoint) : Refusal → Fault
  | .problem p offset => .place p (position text offset).1 (position text offset).2 offset
  | .overlong digits => .overlong digits

def Fault.message : Fault → String
  | .place p line column offset =>
    p.text ++ ": line " ++ toString line ++ " column " ++ toString column ++ " (char " ++ toString offset ++ ")"
  | .overlong digits => Text.overlongNumeral digits
  | .undecodable f => f.message
  | .notText k => "the JSON object must be str, bytes or bytearray, not " ++ k.name

end DocumentStore.Json
