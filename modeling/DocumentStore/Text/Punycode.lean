/-! Text beyond ASCII in ASCII letters and digits: the ASCII characters come first, and what is to be put between
them follows as numbers, in the order of the characters. Each number says how many places to pass by. -/

namespace DocumentStore.Text.Punycode

/-- The letter or digit of a value below 36. -/
def digit (n : Nat) : Char := if n < 26 then Char.ofNat (97 + n) else Char.ofNat (22 + n)

/-- The least value of a digit that another one follows; it rises with the place. -/
def threshold (bias place : Nat) : Nat := max 1 (min 26 (place - bias))

theorem threshold_pos (bias place : Nat) : 0 < threshold bias place := by
  simp only [threshold]; omega

/-- The digits of a number, the least first; places count in steps of 36. -/
def digits (bias place n : Nat) : List Char :=
  let least := threshold bias place
  if n < least then [digit n]
  else digit (least + (n - least) % (36 - least)) :: digits bias (place + 36) ((n - least) / (36 - least))
termination_by n
decreasing_by
  have := threshold_pos bias place
  have := Nat.div_le_self (n - threshold bias place) (36 - threshold bias place)
  omega

/-- Divides a number until it is small, and counts the divisions in steps of 36. -/
def shrink (n steps : Nat) : Nat × Nat :=
  if 455 < n then shrink (n / 35) (steps + 36) else (n, steps)
termination_by n
decreasing_by exact Nat.div_lt_self (by omega) (by omega)

/-- The bias for the next number after `n`, with which `count` characters are placed. -/
def adapt (n count : Nat) (first : Bool) : Nat :=
  let scaled := if first then n / 700 else n / 2
  let (rest, steps) := shrink (scaled + scaled / count) 0
  steps + 36 * rest / (rest + 38)

/-- How far a text is written: how many of its characters are placed, and how many places were passed by since. -/
structure Progress where
  placed : Nat
  passed : Nat := 0
  bias : Nat := 72
  first : Bool := true
  written : List Char := []

/-- Goes over one character, placing it if it is the one with the given number. -/
def Progress.visit (number : Nat) (p : Progress) (c : Char) : Progress :=
  if c.toNat < number then { p with passed := p.passed + 1 }
  else if c.toNat = number then {
    placed := p.placed + 1
    bias := adapt p.passed (p.placed + 1) p.first
    first := false
    written := p.written ++ digits p.bias 36 p.passed }
  else p

/-- Places the characters with the given numbers, in ascending order from `least` on. -/
def placeAll (cs : List Char) : (least : Nat) → List Nat → Progress → Progress
  | _, [], p => p
  | least, number :: rest, p =>
    let p := { p with passed := p.passed + (number - least) * (p.placed + 1) }
    let p := cs.foldl (Progress.visit number) p
    placeAll cs (number + 1) rest { p with passed := p.passed + 1 }

def isBasic (c : Char) : Bool := c.toNat < 128

/-- The ASCII text for some characters. -/
def encode (cs : List Char) : List Char :=
  let basic := cs.filter isBasic
  let numbers := (((cs.filter (!isBasic ·)).map Char.toNat).mergeSort fun a b => a ≤ b).eraseDups
  basic ++ (if basic.isEmpty then [] else ['-']) ++ (placeAll cs 128 numbers { placed := basic.length }).written

end DocumentStore.Text.Punycode
