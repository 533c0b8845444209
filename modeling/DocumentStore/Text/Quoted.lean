import DocumentStore.Text.Encoding
import DocumentStore.Text.Printable

/-! A text in quotation marks, as messages show it: on one line, with escapes for what has no printed form. -/

namespace DocumentStore.Text

/-- The last `n` hexadecimal digits of a number. -/
def hexDigits : (n : Nat) → Nat → List Char
  | 0, _ => []
  | n + 1, v => hexDigits n (v / 16) ++ [hexDigit (v % 16)]

/-- A number behind a backslash, with as many digits as its size asks for. -/
def numbered (n : Nat) : List Char :=
  if n < 0x100 then '\\' :: 'x' :: hexDigits 2 n
  else if n < 0x10000 then '\\' :: 'u' :: hexDigits 4 n
  else '\\' :: 'U' :: hexDigits 8 n

def quotedChar (mark c : Char) : List Char :=
  if c = mark ∨ c = '\\' then ['\\', c]
  else if c = '\t' then ['\\', 't']
  else if c = '\n' then ['\\', 'n']
  else if c = '\r' then ['\\', 'r']
  else if isPrintable c then [c]
  else numbered c.toNat

def quotedPoint (mark : Char) : CodePoint → List Char
  | .char c => quotedChar mark c
  | .surrogate n => numbered (CodePoint.surrogate n).toNat

/-- Single marks, unless the text has a single mark and no double one. -/
def quoted (t : Text) : String :=
  let mark :=
    if t.points.contains (.char '\x27') && !t.points.contains (.char '\x22') then '\x22' else '\x27'
  String.ofList (mark :: t.points.flatMap (quotedPoint mark) ++ [mark])

end DocumentStore.Text
