import DocumentStore.Text.Basic

/-! Blank characters of the whole Unicode range, and trimming them off both ends of a text. -/

namespace DocumentStore.Text

/-- The ranges of characters that count as blank: the ASCII controls from tab to carriage return, the
four information separators, the space, and the spaces and line breaks of the other planes. -/
def blankRanges : List (Nat × Nat) := [
    (0x9, 0xd), (0x1c, 0x20), (0x85, 0x85), (0xa0, 0xa0), (0x1680, 0x1680), (0x2000, 0x200a),
    (0x2028, 0x2029), (0x202f, 0x202f), (0x205f, 0x205f), (0x3000, 0x3000)
  ]

def isBlank (p : CodePoint) : Bool :=
  blankRanges.any fun (lo, hi) => lo ≤ p.toNat && p.toNat ≤ hi

/-- The code points without the blanks at either end. -/
def trimBlank (ps : List CodePoint) : List CodePoint :=
  ((ps.dropWhile isBlank).reverse.dropWhile isBlank).reverse

end DocumentStore.Text
