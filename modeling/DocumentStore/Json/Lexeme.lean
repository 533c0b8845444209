import DocumentStore.Decimal.Binary
import DocumentStore.Json.Fault
import DocumentStore.Text.Percent

/-! The lexemes of a JSON text, each with the offset where it starts. Cutting never fails: what is no lexeme
becomes a malformed one, and it is for the reader of the document to say what should have stood there. -/

namespace DocumentStore.Json

inductive Lexeme where
  | beginList
  | endList
  | beginObject
  | endObject
  | comma
  | colon
  | text (t : Text)
  | scalar (v : Json)
  | badText (p : Problem) (offset : Nat)
  | overlong (digits : Nat)
  | unknown

structure Placed where
  offset : Nat
  lexeme : Lexeme

/-- The blanks between lexemes. -/
def isSpace (p : CodePoint) : Bool :=
  p = .char ' ' || p = .char '\t' || p = .char '\n' || p = .char '\r'

def isDigit (p : CodePoint) : Bool := p.shown.isDigit

/-- The value of a hexadecimal digit. -/
def hexValue? : CodePoint → Option Nat
  | .char c => Text.hexValue? c
  | .surrogate _ => none

/-- The number of four hexadecimal digits, with at least one code point behind them. -/
def hexQuad? : List CodePoint → Option Nat
  | a :: b :: c :: d :: _ :: _ => do
    let digits ← [a, b, c, d].mapM hexValue?
    return digits.foldl (fun n x => 16 * n + x) 0
  | _ => none

/-- The character of a one-letter escape. -/
def shortEscape? : Char → Option Char
  | '\x22' => some '\x22'
  | '\\' => some '\\'
  | '/' => some '/'
  | 'b' => some '\x08'
  | 'f' => some '\x0c'
  | 'n' => some '\n'
  | 'r' => some '\r'
  | 't' => some '\t'
  | _ => none

/-- The code point of the escape behind a backslash at `offset - 1`, and how many code points write it: two
escapes can write one together. The text began at `start`. -/
def escape (start offset : Nat) : List CodePoint → Except Refusal (CodePoint × Nat)
  | [] => .error (.problem .unterminatedText start)
  | .char 'u' :: more =>
    match hexQuad? more with
    | none => .error (.problem .unicodeEscape offset)
    | some high =>
      match more.drop 4 with
      | .char '\\' :: .char 'u' :: low =>
        if Text.isHighSurrogate high && !(low.drop 4).isEmpty then
          match hexQuad? low with
          | none => .error (.problem .unicodeEscape (offset + 6))
          | some second =>
            if Text.isLowSurrogate second then .ok (.ofNat (Text.joinSurrogates high second), 11)
            else .ok (.ofNat high, 5)
        else .ok (.ofNat high, 5)
      | _ => .ok (.ofNat high, 5)
  | p :: _ =>
    match shortEscape? p.shown with
    | some c => .ok (.char c, 1)
    | none => .error (.problem .unknownEscape (offset - 1))

/-- The code points of a text up to its closing mark, and how many write them, the mark included. -/
def textBody (start offset : Nat) : List CodePoint → Except Refusal (List CodePoint × Nat)
  | [] => .error (.problem .unterminatedText start)
  | .char '\x22' :: _ => .ok ([], 1)
  | .char '\\' :: rest =>
    match escape start (offset + 1) rest with
    | .error r => .error r
    | .ok (p, n) => (textBody start (offset + 1 + n) (rest.drop n)).map fun (ps, k) => (p :: ps, k + n + 1)
  | p :: rest =>
    if p.toNat < 0x20 then .error (.problem .controlCharacter offset)
    else (textBody start (offset + 1) rest).map fun (ps, k) => (p :: ps, k + 1)
termination_by ps => ps.length
decreasing_by all_goals simp only [List.length_drop, List.length_cons]; omega

/-- A numeral cut into its parts. -/
structure Numeral where
  negative : Bool
  whole : List Char
  fraction : List Char
  power : Option (Bool × List Char)

/-- The digits at the front of a text. -/
def digitsOf (ps : List CodePoint) : List Char := (ps.takeWhile isDigit).map CodePoint.shown

/-- The sign that may stand before the digits of a power of ten. -/
def powerSign : List CodePoint → Bool × Nat
  | .char '-' :: _ => (true, 1)
  | .char '+' :: _ => (false, 1)
  | _ => (false, 0)

def startsWith (c : Char) (ps : List CodePoint) : Bool := ps.head? = some (.char c)

/-- The longest numeral at the front of a text, and how many code points write it. -/
def numeral? (ps : List CodePoint) : Option (Numeral × Nat) :=
  let negative := startsWith '-' ps
  let sign := if negative then 1 else 0
  let body := ps.drop sign
  let whole := if startsWith '0' body then ['0'] else digitsOf body
  let afterWhole := body.drop whole.length
  let fraction := if startsWith '.' afterWhole then digitsOf (afterWhole.drop 1) else []
  let point := if fraction.isEmpty then 0 else fraction.length + 1
  let afterFraction := afterWhole.drop point
  let (less, powerMark) := powerSign (afterFraction.drop 1)
  let digits := digitsOf (afterFraction.drop (1 + powerMark))
  let hasPower := (startsWith 'e' afterFraction || startsWith 'E' afterFraction) && !digits.isEmpty
  if whole.isEmpty then none
  else if hasPower then
    some (⟨negative, whole, fraction, some (less, digits)⟩,
      sign + whole.length + point + 1 + powerMark + digits.length)
  else some (⟨negative, whole, fraction, none⟩, sign + whole.length + point)

/-- A numeral without fraction and power is a whole number, any other a binary64 one. A whole number has no more digits
than are allowed. -/
def Numeral.lexeme (limit : Nat) (n : Numeral) : Lexeme :=
  if n.fraction.isEmpty && n.power.isNone then
    if limit < n.whole.length then .overlong n.whole.length
    else
      let i : Int := Text.ofDigits n.whole
      .scalar (.int (if n.negative then -i else i))
  else
    let power : Int := match n.power with
      | some (true, ds) => -(Text.ofDigits ds : Int)
      | some (false, ds) => Text.ofDigits ds
      | none => 0
    .scalar (.float
      (Decimal.toFloat n.negative (Text.ofDigits (n.whole ++ n.fraction)) (power - n.fraction.length)))

/-- The words that stand for values. -/
def wordValues : List (Text × Json) := [
  ("null", .null), ("true", .bool true), ("false", .bool false), ("NaN", .float (0.0 / 0.0)),
  ("Infinity", .float (1.0 / 0.0)), ("-Infinity", .float (-1.0 / 0.0))]

/-- The lexeme at the front of a text, and how many code points past the first belong to it. -/
def lexemeAt (limit offset : Nat) (p : CodePoint) (ps : List CodePoint) : Lexeme × Nat :=
  if p = .char '[' then (.beginList, 0)
  else if p = .char ']' then (.endList, 0)
  else if p = .char '\x7b' then (.beginObject, 0)
  else if p = .char '\x7d' then (.endObject, 0)
  else if p = .char ',' then (.comma, 0)
  else if p = .char ':' then (.colon, 0)
  else if p = .char '\x22' then
    match textBody offset (offset + 1) ps with
    | .ok (body, n) => (.text ⟨body⟩, n)
    | .error (.problem p place) => (.badText p place, 0)
    | .error (.overlong n) => (.overlong n, 0)
  else
    match numeral? (p :: ps) with
    | some (n, k) => (n.lexeme limit, k - 1)
    | none =>
      match wordValues.find? fun w => w.1.points.isPrefixOf (p :: ps) with
      | some (w, v) => (.scalar v, w.points.length - 1)
      | none => (.unknown, 0)

/-- The lexemes of a text that stands at an offset, with a limit to the digits of a whole number. -/
def lexemes (limit offset : Nat) : List CodePoint → List Placed
  | [] => []
  | p :: ps =>
    if isSpace p then lexemes limit (offset + 1) ps
    else
      let (l, more) := lexemeAt limit offset p ps
      ⟨offset, l⟩ :: lexemes limit (offset + 1 + more) (ps.drop more)
termination_by ps => ps.length
decreasing_by all_goals simp only [List.length_drop, List.length_cons]; omega

end DocumentStore.Json
