import DocumentStore.Failure

/-! Powers of quantities. Whole numbers have whole powers, all others are powers of binary64 numbers; a negative
number has no power between whole ones among the reals. -/

namespace DocumentStore

/-- What a power comes to; one that is not real may be beyond the range all the same. -/
inductive Power where
  | real (q : Quantity)
  | notReal
  | outOfRange

/-- The power `i ^ n`; those of numbers of size at most one are found without multiplying. -/
def powInt (i : Int) (n : Nat) : Int :=
  if 1 < i.natAbs then Int.pow i n
  else if n = 0 then 1
  else if n % 2 = 0 then i * i else i

def powFloat (x y : Float) : Power :=
  if !x.isFinite || !y.isFinite then .real (.float (Float.pow x y))
  else if (Float.pow x.abs y).isInf then .outOfRange
  else if x < 0.0 && y != y.floor then .notReal
  else .real (.float (Float.pow x y))

namespace Quantity

/-- The power `a ^ k` for `0 ≤ k`. -/
def pow (a k : Quantity) : Power :=
  match a.toInt?, k.toInt? with
  | some i, some n => .real (.int (powInt i n.toNat))
  | _, _ =>
    match a.inRange?, k.inRange? with
    | some x, some y => powFloat x y
    | _, _ => .outOfRange

end Quantity

end DocumentStore
