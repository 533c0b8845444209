import DocumentStore.Domain.Character
import DocumentStore.Domain.Composition
import DocumentStore.Domain.Permitted
import DocumentStore.Text.LowerCase
import DocumentStore.Text.Punycode

/-! Labels of domain names beyond ASCII: which texts are labels, and the ASCII form of one. -/

namespace DocumentStore.Domain

def zeroWidthNonJoiner : Char := '\u200c'

def zeroWidthJoiner : Char := '\u200d'

/-- The class of the marks that take a consonant's vowel away. -/
def viramaClass : Nat := 9

def followsVirama (before : List Char) : Bool := (before.head?.map markClass).getD 0 = viramaClass

/-- Whether the nearest letter on one side joins towards the place. -/
def joinsAcross (joins : Char → Bool) (side : List Char) : Bool :=
  ((side.dropWhile isSeenThrough).head?.map joins).getD false

def arabicDigits : Array (Nat × Nat) := #[(0x660, 0x669)]

def extendedArabicDigits : Array (Nat × Nat) := #[(0x6f0, 0x6f9)]

/-- Whether a character may stand where it does: it is permitted everywhere, or what is around it permits it. What
stands before it is given nearest first. -/
def fits (before : List Char) (c : Char) (after : List Char) : Bool :=
  let others := before ++ after
  if isPermitted c then true
  else if c = zeroWidthNonJoiner then
    followsVirama before || (joinsAcross joinsNext before && joinsAcross joinsPrevious after)
  else if c = zeroWidthJoiner then followsVirama before
  else if c = '\u00b7' then before.head? = some 'l' && after.head? = some 'l'
  else if c = '\u0375' then (after.head?.map isGreek).getD false
  else if c = '\u05f3' || c = '\u05f4' then (before.head?.map isHebrew).getD false
  else if c = '\u30fb' then others.any isJapanese
  else if Text.inRanges arabicDigits c then !others.any (Text.inRanges extendedArabicDigits)
  else if Text.inRanges extendedArabicDigits c then !others.any (Text.inRanges arabicDigits)
  else false

def allFit (before : List Char) : List Char → Bool
  | [] => true
  | c :: after => fits before c after && allFit (c :: before) after

/-- Hyphens stand neither at an end nor third and fourth. -/
def hasPlainHyphens (label : List Char) : Bool :=
  label.head? ≠ some '-' && label.getLast? ≠ some '-' && (label.drop 2).take 2 ≠ ['-', '-']

def isLabel (label : List Char) : Bool :=
  !label.isEmpty && isComposed label && hasPlainHyphens label && !(label.head?.map isAttached).getD false &&
    allFit [] label && hasOneDirection label

/-- What the ASCII form of a label begins with. -/
def asciiMark : List Char := ['x', 'n', '-', '-']

/-- The most characters that a label can have. -/
def longestLabel : Nat := 63

/-- The ASCII form of a label in lower case, if it is one. -/
def ascii? (cs : List Char) : Option (List Char) :=
  let label := Text.lowerCase cs
  let form := if label.all Text.Punycode.isBasic then label else asciiMark ++ Text.Punycode.encode label
  if isLabel label && form.length ≤ longestLabel then some form else none

end DocumentStore.Domain
