/-! Binary64 numbers taken apart: a finite one is `± m · 2^q` with whole `m` and `q`, which makes exact
comparison with whole numbers and exact choice of digits a matter of natural numbers. -/

namespace DocumentStore.Decimal

/-- A finite binary64 number: its sign, mantissa and binary exponent. -/
structure Binary where
  negative : Bool
  mantissa : Nat
  exponent : Int
  deriving DecidableEq, Repr

/-- The parts of a finite number; none for an infinity or for what is not a number. -/
def Binary.ofFloat? (x : Float) : Option Binary :=
  let bits := x.toBits.toNat
  let negative := bits / Nat.pow 2 63 % 2 = 1
  let biased : Nat := bits / Nat.pow 2 52 % Nat.pow 2 11
  let fraction := bits % Nat.pow 2 52
  if biased = 2047 then none
  else if biased = 0 then some ⟨negative, fraction, -1074⟩
  else some ⟨negative, Nat.pow 2 52 + fraction, (biased : Int) - 1075⟩

/-- How the number compares with a whole number, exactly. -/
def Binary.compareInt (b : Binary) (i : Int) : Ordering :=
  let m : Int := if b.negative then -b.mantissa else b.mantissa
  if 0 ≤ b.exponent then compare (m * Int.pow 2 b.exponent.toNat) i else compare m (i * Int.pow 2 (-b.exponent).toNat)

/-- The binary64 number nearest to `± digits · 10^exponent`; beyond the range it is an infinity or zero. -/
def toFloat (negative : Bool) (digits : Nat) (exponent : Int) : Float :=
  let size := exponent + (Nat.toDigits 10 digits).length
  let x : Float :=
    if digits = 0 ∨ size < -400 then 0.0
    else if size > 400 then 1.0 / 0.0
    else if exponent < 0 then Float.ofScientific digits true (-exponent).toNat
    else Float.ofScientific digits false exponent.toNat
  if negative then -x else x

end DocumentStore.Decimal
