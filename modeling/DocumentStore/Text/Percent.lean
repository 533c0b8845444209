/-! Percent-encoding of the UTF-8 bytes of a text, for a path and for a form, and reading both back. -/

namespace DocumentStore.Text

/-- Letters, digits and the four marks that no encoding touches. -/
def isUnreserved (c : Char) : Bool := c.isAlphanum || c = '_' || c = '.' || c = '-' || c = '~'

def upperHexDigit (n : Nat) : Char := if n < 10 then Char.ofNat (48 + n) else Char.ofNat (55 + n)

def escapeByte (b : UInt8) : List Char := ['%', upperHexDigit (b.toNat / 16), upperHexDigit (b.toNat % 16)]

/-- A byte as itself where its character is kept, else as an escape. -/
def percentByte (keep : Char → Bool) (b : UInt8) : List Char :=
  if b < 128 && keep (Char.ofNat b.toNat) then [Char.ofNat b.toNat] else escapeByte b

/-- The text with every byte escaped but those of the characters that are kept. -/
def percentEncode (keep : Char → Bool) (s : String) : List Char :=
  s.toUTF8.toList.flatMap (percentByte keep)

/-- A component of a form: a space becomes `+`, and only the unreserved characters are kept. -/
def formEncode (s : String) : List Char :=
  s.toUTF8.toList.flatMap fun b => if b = 32 then ['+'] else percentByte isUnreserved b

/-- The fields of a form, in order, as `key=value` joined by `&`. -/
def formFields (fields : List (String × String)) : List Char :=
  ['&'].intercalate (fields.map fun (k, v) => formEncode k ++ '=' :: formEncode v)

def hexValue? (c : Char) : Option Nat :=
  if '0' ≤ c ∧ c ≤ '9' then some (c.toNat - 48)
  else if 'A' ≤ c ∧ c ≤ 'F' then some (c.toNat - 55)
  else if 'a' ≤ c ∧ c ≤ 'f' then some (c.toNat - 87)
  else none

/-- The bytes of a percent-encoded ASCII text; a `%` that no two hexadecimal digits follow stands for itself. -/
def percentBytes : List Char → List UInt8
  | '%' :: a :: b :: rest =>
    match hexValue? a, hexValue? b with
    | some x, some y => UInt8.ofNat (16 * x + y) :: percentBytes rest
    | _, _ => 37 :: percentBytes (a :: b :: rest)
  | c :: rest => UInt8.ofNat c.toNat :: percentBytes rest
  | [] => []
termination_by cs => cs.length

/-- The text that a percent-encoded ASCII text stands for, if its bytes are UTF-8. -/
def percentDecode? (cs : List Char) : Option String :=
  String.fromUTF8? ⟨(percentBytes cs).toArray⟩

/-- The text that a component of a form stands for. -/
def formDecode? (cs : List Char) : Option String :=
  percentDecode? (cs.map fun c => if c = '+' then ' ' else c)

end DocumentStore.Text
