import DocumentStore.Decimal.Binary

/-! The shortest decimal that reads back as a given binary64 number, and its written form. For one, two, …
seventeen digits the two decimals of that length around the number are tried; the first length that has a
decimal in the interval of reals rounding to the number wins, and of two such decimals the nearer one. -/

namespace DocumentStore.Decimal

/-- `digits · 10^exponent`, with no zero at the end of the digits. -/
structure Significant where
  digits : Nat
  exponent : Int
  deriving DecidableEq, Repr

/-- The reals `num / den` between `low` and `high` that round to a number, all over one denominator. -/
structure Interval where
  low : Nat
  value : Nat
  high : Nat
  den : Nat
  closed : Bool

/-- The interval of a positive number: half way to either neighbour, the ends included iff the mantissa is
even. Below a power of two the neighbours are twice as dense. -/
def Binary.interval (b : Binary) : Interval :=
  let m := b.mantissa
  let gap := if m = Nat.pow 2 52 ∧ b.exponent > -1074 then 1 else 2
  let q := b.exponent - 2
  if 0 ≤ q then
    let s := Nat.pow 2 q.toNat
    ⟨(4 * m - gap) * s, 4 * m * s, (4 * m + 2) * s, 1, m % 2 = 0⟩
  else ⟨4 * m - gap, 4 * m, 4 * m + 2, Nat.pow 2 (-q).toNat, m % 2 = 0⟩

/-- Whether `d · num / den'`, given as a fraction, lies in the interval. -/
def Interval.contains (i : Interval) (num den : Nat) : Bool :=
  if i.closed then i.low * den ≤ num * i.den && num * i.den ≤ i.high * den
  else i.low * den < num * i.den && num * i.den < i.high * den

/-- The exponent `k` with `10^(k-1) ≤ value < 10^k`. -/
def Interval.magnitude (i : Interval) : Int :=
  if i.den ≤ i.value then (Nat.toDigits 10 (i.value / i.den)).length
  else 1 - (Nat.toDigits 10 ((i.den - 1) / i.value)).length

/-- The decimal with `n` digits that the interval contains, the nearer of two, the even one of a tie. -/
def Interval.digits? (i : Interval) (n : Nat) : Option Significant :=
  let e := i.magnitude - n
  let (scale, unit) := if 0 ≤ e then (1, Nat.pow 10 e.toNat) else (Nat.pow 10 (-e).toNat, 1)
  let below := i.value * scale / (i.den * unit)
  let fits d := i.contains (d * unit) scale
  let twice := 2 * (i.value * scale - below * (i.den * unit))
  let nearer := if twice < i.den * unit ∨ (twice = i.den * unit ∧ below % 2 = 0) then below else below + 1
  if fits nearer then some ⟨nearer, e⟩
  else if fits below then some ⟨below, e⟩
  else if fits (below + 1) then some ⟨below + 1, e⟩
  else none

/-- Drops the zeros at the end of the digits; a number has fewer of them than `fuel`. -/
def Significant.trim (s : Significant) : Nat → Significant
  | 0 => s
  | fuel + 1 => if s.digits % 10 = 0 then Significant.trim ⟨s.digits / 10, s.exponent + 1⟩ fuel else s

def Binary.shortest (b : Binary) : Significant :=
  if b.mantissa = 0 then ⟨0, 0⟩
  else
    let i := b.interval
    match (List.range 17).findSome? fun n => i.digits? (n + 1) with
    | some s => s.trim 20
    | none => ⟨b.mantissa, 0⟩

/-- How decimals are laid out: the powers of ten written without an exponent, and the spellings of what has
no digits. -/
structure Layout where
  firstPositional : Int
  endPositional : Int
  exponentDigits : Nat
  infinity : String
  notANumber : String

/-- Numbers from a ten-thousandth up to ten quadrillion are written in full, with a digit on both sides of
the point. -/
def plainLayout : Layout := ⟨-4, 16, 2, "inf", "nan"⟩

/-- The layout of numbers in a document, which differs in its names for what is not finite. -/
def documentLayout : Layout := { plainLayout with infinity := "Infinity", notANumber := "NaN" }

def Layout.unsigned (l : Layout) (s : Significant) : String :=
  let ds := Nat.toDigits 10 s.digits
  let x := s.exponent + ds.length - 1
  if s.digits = 0 then "0.0"
  else if l.firstPositional ≤ x ∧ x < l.endPositional then
    if 0 ≤ s.exponent then String.ofList (ds ++ List.replicate s.exponent.toNat '0') ++ ".0"
    else if 0 ≤ x then
      String.ofList (ds.take (x.toNat + 1)) ++ "." ++ String.ofList (ds.drop (x.toNat + 1))
    else "0." ++ String.ofList (List.replicate (-x - 1).toNat '0' ++ ds)
  else
    let point := if ds.length = 1 then "" else "." ++ String.ofList (ds.drop 1)
    let power := Nat.toDigits 10 x.natAbs
    String.ofList (ds.take 1) ++ point ++ "e" ++ (if x < 0 then "-" else "+") ++
      String.ofList (List.replicate (l.exponentDigits - power.length) '0' ++ power)

def Layout.render (l : Layout) (x : Float) : String :=
  match Binary.ofFloat? x with
  | some b => (if b.negative then "-" else "") ++ l.unsigned b.shortest
  | none => if x.isNaN then l.notANumber else if x < 0 then "-" ++ l.infinity else l.infinity

end DocumentStore.Decimal
