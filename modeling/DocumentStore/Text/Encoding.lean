import DocumentStore.Text.Basic

/-! Reading bytes as text. A reader takes one code point at a time off the front of the bytes and says, where
it cannot, what is wrong and how many bytes are to blame; strict and lossy decoding both fold it. -/

namespace DocumentStore.Text

inductive Encoding where
  | utf8
  | utf16 (bigEndian : Bool)
  | utf32 (bigEndian : Bool)
  deriving DecidableEq, Repr

def Encoding.label : Encoding → String
  | .utf8 => "utf-8"
  | .utf16 big => if big then "utf-16-be" else "utf-16-le"
  | .utf32 big => if big then "utf-32-be" else "utf-32-le"

inductive Flaw where
  | invalidStart
  | invalidContinuation
  | unexpectedEnd
  | truncated
  | outOfRange
  deriving DecidableEq, Repr

def Flaw.reason : Flaw → String
  | .invalidStart => "invalid start byte"
  | .invalidContinuation => "invalid continuation byte"
  | .unexpectedEnd => "unexpected end of data"
  | .truncated => "truncated data"
  | .outOfRange => "code point not in range(0x110000)"

/-- What the front of the bytes holds, and how many bytes past the first belong to it. -/
inductive Front where
  | point (p : CodePoint) (more : Nat)
  | flaw (f : Flaw) (more : Nat)

/-- The continuation bytes of a character: the first of them lies between `lo` and `hi`. -/
def continuation : (need lo hi code taken : Nat) → List UInt8 → Front
  | 0, _, _, code, taken, _ => .point (.ofNat code) taken
  | _ + 1, _, _, _, taken, [] => .flaw .unexpectedEnd taken
  | n + 1, lo, hi, code, taken, b :: bs =>
    if lo ≤ b.toNat ∧ b.toNat ≤ hi then continuation n 0x80 0xBF (code * 64 + b.toNat % 64) (taken + 1) bs
    else .flaw .invalidContinuation taken

def frontUtf8 (first : UInt8) (bs : List UInt8) : Front :=
  let b := first.toNat
  if b < 0x80 then .point (.ofNat b) 0
  else if b < 0xC2 then .flaw .invalidStart 0
  else if b < 0xE0 then continuation 1 0x80 0xBF (b % 32) 0 bs
  else if b < 0xF0 then
    continuation 2 (if b = 0xE0 then 0xA0 else 0x80) (if b = 0xED then 0x9F else 0xBF) (b % 16) 0 bs
  else if b < 0xF5 then
    continuation 3 (if b = 0xF0 then 0x90 else 0x80) (if b = 0xF4 then 0x8F else 0xBF) (b % 8) 0 bs
  else .flaw .invalidStart 0

/-- The number that some bytes write in base 256. -/
def word (big : Bool) (bs : List UInt8) : Nat :=
  (if big then bs else bs.reverse).foldl (fun n b => n * 256 + b.toNat) 0

def isHighSurrogate (n : Nat) : Bool := 0xD800 ≤ n && n ≤ 0xDBFF

def isLowSurrogate (n : Nat) : Bool := 0xDC00 ≤ n && n ≤ 0xDFFF

/-- The code point that a surrogate pair stands for. -/
def joinSurrogates (high low : Nat) : Nat := 0x10000 + (high - 0xD800) * 0x400 + (low - 0xDC00)

def frontUtf16 (big : Bool) (a : UInt8) : List UInt8 → Front
  | [] => .flaw .truncated 0
  | b :: rest =>
    let unit := word big [a, b]
    match rest with
    | c :: d :: _ =>
      let second := word big [c, d]
      if isHighSurrogate unit && isLowSurrogate second then .point (.ofNat (joinSurrogates unit second)) 3
      else .point (.ofNat unit) 1
    | _ => .point (.ofNat unit) 1

def frontUtf32 (big : Bool) (a : UInt8) : List UInt8 → Front
  | b :: c :: d :: _ =>
    let unit := word big [a, b, c, d]
    if unit < 0x110000 then .point (.ofNat unit) 3 else .flaw .outOfRange 3
  | rest => .flaw .truncated rest.length

def Encoding.front : Encoding → UInt8 → List UInt8 → Front
  | .utf8 => frontUtf8
  | .utf16 big => frontUtf16 big
  | .utf32 big => frontUtf32 big

/-- Bytes that are no text in an encoding: the flaw, the first byte to blame, and where they stand. -/
structure DecodeFault where
  encoding : Encoding
  flaw : Flaw
  byte : UInt8
  start : Nat
  count : Nat
  deriving DecidableEq, Repr

def hexDigit (n : Nat) : Char := if n < 10 then Char.ofNat (48 + n) else Char.ofNat (87 + n)

def hexByte (b : UInt8) : List Char := [hexDigit (b.toNat / 16), hexDigit (b.toNat % 16)]

def DecodeFault.message (f : DecodeFault) : String :=
  let what :=
    if f.count = 1 then "byte 0x" ++ String.ofList (hexByte f.byte) ++ " in position " ++ toString f.start
    else "bytes in position " ++ toString f.start ++ "-" ++ toString (f.start + f.count - 1)
  "'" ++ f.encoding.label ++ "' codec can't decode " ++ what ++ ": " ++ f.flaw.reason

/-- The surrogate that three bytes write in the manner of UTF-8, in which no character is written so. -/
def surrogate? (b : UInt8) : List UInt8 → Option CodePoint
  | c :: d :: _ =>
    if b = 0xED && 0xA0 ≤ c && c ≤ 0xBF && 0x80 ≤ d && d ≤ 0xBF then
      some (.ofNat (0xD000 + c.toNat % 64 * 64 + d.toNat % 64))
    else none
  | _ => none

/-- What the front of the bytes holds, where surrogates are let through in every encoding. -/
def Encoding.frontWithSurrogates (e : Encoding) (b : UInt8) (bs : List UInt8) : Front :=
  match if e = .utf8 then surrogate? b bs else none with
  | some p => .point p 2
  | none => e.front b bs

/-- The code points of some bytes that stand at `start`, or the first fault in them. -/
def decodeFrom (e : Encoding) (start : Nat) : List UInt8 → Except DecodeFault (List CodePoint)
  | [] => .ok []
  | b :: bs =>
    match e.frontWithSurrogates b bs with
    | .point p more => (decodeFrom e (start + more + 1) (bs.drop more)).map (p :: ·)
    | .flaw f more => .error ⟨e, f, b, start, more + 1⟩
termination_by bs => bs.length
decreasing_by simp only [List.length_drop, List.length_cons]; omega

/-- The text of some bytes, each fault in them read as one replacement character. -/
def decodeLossy (e : Encoding) : List UInt8 → List Char
  | [] => []
  | b :: bs =>
    match e.front b bs with
    | .point p more => p.shown :: decodeLossy e (bs.drop more)
    | .flaw _ more => '\uFFFD' :: decodeLossy e (bs.drop more)
termination_by bs => bs.length
decreasing_by all_goals simp only [List.length_drop, List.length_cons]; omega

/-- The encoding of a JSON document, told from its byte order mark or from the zeros among its first
bytes, with the number of bytes that the mark takes. -/
def detectEncoding : List UInt8 → Encoding × Nat
  | 0x00 :: 0x00 :: 0xFE :: 0xFF :: _ => (.utf32 true, 4)
  | 0xFF :: 0xFE :: 0x00 :: 0x00 :: _ => (.utf32 false, 4)
  | 0xFE :: 0xFF :: _ => (.utf16 true, 2)
  | 0xFF :: 0xFE :: _ => (.utf16 false, 2)
  | 0xEF :: 0xBB :: 0xBF :: _ => (.utf8, 3)
  | a :: b :: c :: d :: _ =>
    if a = 0 then (if b = 0 then .utf32 true else .utf16 true, 0)
    else if b = 0 then (if c = 0 ∧ d = 0 then .utf32 false else .utf16 false, 0)
    else (.utf8, 0)
  | [a, b] => (if a = 0 then .utf16 true else if b = 0 then .utf16 false else .utf8, 0)
  | _ => (.utf8, 0)

/-- The text of a JSON document given as bytes. A fault in UTF-8 is counted from behind the mark. -/
def decodeDocument (bs : List UInt8) : Except DecodeFault (List CodePoint) :=
  let (e, mark) := detectEncoding bs
  decodeFrom e (if e = .utf8 then 0 else mark) (bs.drop mark)

end DocumentStore.Text
