import DocumentStore.Text.Encoding
import DocumentStore.Text.Percent

/-! Escapes in addresses: which of them stay, and the text that they stand for. -/

namespace DocumentStore.Node.Address

def isHexDigit (c : Char) : Bool := (Text.hexValue? c).isSome

/-- The text with its escapes in capitals, and how many escapes it has. -/
def capitalEscapes : List Char → List Char × Nat
  | '%' :: a :: b :: rest =>
    if isHexDigit a && isHexDigit b then
      let (cs, n) := capitalEscapes rest
      ('%' :: a.toUpper :: b.toUpper :: cs, n + 1)
    else
      let (cs, n) := capitalEscapes (a :: b :: rest)
      ('%' :: cs, n)
  | c :: rest =>
    let (cs, n) := capitalEscapes rest
    (c :: cs, n)
  | [] => ([], 0)
termination_by cs => cs.length

/-- The text with what is not allowed escaped. Where every percent sign belongs to an escape already, they are
all left alone. -/
def escapeInvalid (allowed : Char → Bool) (cs : List Char) : List Char :=
  let (cs, escapes) := capitalEscapes cs
  let escaped := escapes = cs.count '%'
  Text.percentEncode (fun c => allowed c || (escaped && c = '%')) (String.ofList cs)

/-- The text that a percent-encoded one stands for; runs of ASCII are decoded each by itself. -/
def unescape (cs : List Char) : List Char :=
  match cs with
  | [] => []
  | c :: rest =>
    if c.toNat < 128 then
      Text.decodeLossy .utf8 (Text.percentBytes (c :: rest.takeWhile (·.toNat < 128))) ++
        unescape (rest.dropWhile (·.toNat < 128))
    else c :: unescape rest
termination_by cs.length
decreasing_by
  · have := (List.dropWhile_suffix (l := rest) (fun c : Char => decide (c.toNat < 128))).length_le
    simp only [List.length_cons]; omega
  · simp only [List.length_cons]; omega

/-- The text without escapes for unreserved characters, and with all other escapes in capitals. -/
def plainEscapes : List Char → List Char
  | '%' :: a :: b :: rest =>
    match Text.hexValue? a, Text.hexValue? b with
    | some x, some y =>
      let c := Char.ofNat (16 * x + y)
      (if Text.isUnreserved c then [c] else ['%', a.toUpper, b.toUpper]) ++ plainEscapes rest
    | _, _ => '%' :: plainEscapes (a :: b :: rest)
  | c :: rest => c :: plainEscapes rest
  | [] => []
termination_by cs => cs.length

/-- Whether a control character is escaped in a text. -/
def escapesControl : List Char → Bool
  | '%' :: a :: b :: rest =>
    a = '0' || a = '1' || (a = '7' && (b = 'f' || b = 'F')) || escapesControl (a :: b :: rest)
  | _ :: rest => escapesControl rest
  | [] => false
termination_by cs => cs.length

end DocumentStore.Node.Address
