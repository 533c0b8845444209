import DocumentStore.Text.Basic

/-! Decimal digits of every script, and the number that a run of them writes. -/

namespace DocumentStore.Text

/-- The zeros of the scripts that have decimal digits; the digits one to nine follow each of them. -/
def digitZeros : List Nat := [
    0x30, 0x660, 0x6f0, 0x7c0, 0x966, 0x9e6, 0xa66, 0xae6, 0xb66, 0xbe6, 0xc66, 0xce6, 0xd66,
    0xde6, 0xe50, 0xed0, 0xf20, 0x1040, 0x1090, 0x17e0, 0x1810, 0x1946, 0x19d0, 0x1a80, 0x1a90,
    0x1b50, 0x1bb0, 0x1c40, 0x1c50, 0xa620, 0xa8d0, 0xa900, 0xa9d0, 0xa9f0, 0xaa50, 0xabf0,
    0xff10, 0x104a0, 0x10d30, 0x11066, 0x110f0, 0x11136, 0x111d0, 0x112f0, 0x11450, 0x114d0,
    0x11650, 0x116c0, 0x11730, 0x118e0, 0x11950, 0x11c50, 0x11d50, 0x11da0, 0x16a60, 0x16ac0,
    0x16b50, 0x1d7ce, 0x1d7d8, 0x1d7e2, 0x1d7ec, 0x1d7f6, 0x1e140, 0x1e2f0, 0x1e950, 0x1fbf0
  ]

/-- The value of a decimal digit of any script. -/
def digitValue? (c : Char) : Option Nat :=
  (digitZeros.find? fun z => z ≤ c.toNat && c.toNat < z + 10).map (c.toNat - ·)

def isDigit (p : CodePoint) : Bool := (digitValue? p.shown).isSome

/-- The number whose decimal digits are given, the most significant first. -/
def ofDigits (cs : List Char) : Nat :=
  cs.foldl (fun n c => 10 * n + (digitValue? c).getD 0) 0

/-- The longest numeral that is read as a number, and the longest that a whole number is written as. -/
def longestNumeral : Nat := 4300

/-- Whether a number has at most so many digits. -/
def fits : (digits n : Nat) → Bool
  | 0, n => n = 0
  | digits + 1, n => n = 0 || fits digits (n / 10)

/-- What a complaint about too many digits begins and ends with. -/
def digitLimit (count : String) : String :=
  "Exceeds the limit (" ++ toString longestNumeral ++ " digits) for integer string conversion" ++ count ++
    "; use sys.set_int_max_str_digits() to increase the limit"

/-- The complaint about a numeral that has too many digits to be read. -/
def overlongNumeral (digits : Nat) : String := digitLimit (": value has " ++ toString digits ++ " digits")

/-- The complaint about a whole number that has too many digits to be written. -/
def unwritableNumber : String := digitLimit ""

end DocumentStore.Text
