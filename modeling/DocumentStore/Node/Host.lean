import DocumentStore.Domain.Label
import DocumentStore.Node.Escape

/-! The host in an address of a node: a name, a version 4 address, or a version 6 address between brackets. -/

namespace DocumentStore.Node.Address

/-- The characters of a host that is a name: neither delimiters nor blanks nor controls. -/
def isNameChar (c : Char) : Bool := !"[]%:/?#".toList.contains c && 0x20 < c.toNat && c.toNat ≠ 0x7f

def isName : List Char → Bool
  | '%' :: a :: b :: rest => isHexDigit a && isHexDigit b && isName rest
  | c :: rest => isNameChar c && isName rest
  | [] => true

/-- A number of a version 4 address, in base ten or sixteen. -/
def isVersion4Part : List Char → Bool
  | '0' :: 'x' :: digits | '0' :: 'X' :: digits => digits.all isHexDigit
  | digits => !digits.isEmpty && digits.all Char.isDigit

/-- One number to four of them. -/
def isVersion4 (cs : List Char) : Bool :=
  let parts := cs.splitOn '.'
  parts.length ≤ 4 && parts.all isVersion4Part

/-- The text in lower case, but for its escapes. -/
def lowerUnescaped : List Char → List Char
  | '%' :: a :: b :: rest => '%' :: a :: b :: lowerUnescaped rest
  | c :: rest => c.toLower :: lowerUnescaped rest
  | [] => []

/-- The normal form of a label of a name, which is ASCII. -/
def normalLabel? (label : List Char) : Option (List Char) :=
  if label.all Text.Punycode.isBasic then some (lowerUnescaped label) else Domain.ascii? label

/-- The normal form of a host that is no version 6 address. -/
def normalName? (cs : List Char) : Option (List Char) :=
  let name := plainEscapes cs
  if isVersion4 name then some name
  else (['.'].intercalate ·) <$> (name.splitOn '.').mapM normalLabel?

/-- The host that a name stands for; only normal schemes have a normal form of it. -/
def named? (normal : Bool) (cs : List Char) : Option (List Char) :=
  if !isName cs || escapesControl cs then none
  else if normal then normalName? cs else some cs

/-- Four groups of one to three digits. -/
def isDottedQuad (cs : List Char) : Bool :=
  let groups := cs.splitOn '.'
  groups.length = 4 && groups.all fun g => !g.isEmpty && g.length ≤ 3 && g.all Char.isDigit

def isHexGroup (cs : List Char) : Bool := !cs.isEmpty && cs.length ≤ 4 && cs.all isHexDigit

/-- How many sixteen-bit groups a part of a version 6 address writes; the last may be a dotted quad. -/
def groupCount? (dotted : Bool) (cs : List Char) : Option Nat :=
  if cs.isEmpty then some 0
  else
    let groups := cs.splitOn ':'
    let last := groups.getLast?.getD []
    if groups.all isHexGroup then some groups.length
    else if dotted && groups.dropLast.all isHexGroup && isDottedQuad last then some (groups.length + 1)
    else none

/-- The parts of a text around the first pair of colons. -/
def cutColons : List Char → Option (List Char × List Char)
  | ':' :: ':' :: rest => some ([], rest)
  | c :: rest => (cutColons rest).map fun (l, r) => (c :: l, r)
  | [] => none

/-- Eight groups, or fewer around a pair of colons. -/
def isVersion6 (cs : List Char) : Bool :=
  match cutColons cs with
  | none => groupCount? true cs = some 8
  | some (l, r) =>
    match groupCount? false l, groupCount? true r with
    | some m, some n => m + n ≤ 7
    | _, _ => false

def isZone : List Char → Bool
  | '%' :: a :: b :: rest => isHexDigit a && isHexDigit b && isZone rest
  | c :: rest => Text.isUnreserved c && isZone rest
  | [] => true

/-- The zone of a version 6 address, without the percent sign that leads it, itself escaped or not. -/
def zone? (cs : List Char) : Option (List Char) :=
  let zone := match cs with
    | '%' :: '2' :: '5' :: c :: rest => c :: rest
    | '%' :: rest => rest
    | _ => []
  if !zone.isEmpty && isZone zone && !escapesControl zone then some zone else none

/-- The parts of a text before and behind the first character that ends the first. -/
def cut (ends : Char → Bool) (cs : List Char) : List Char × List Char :=
  (cs.takeWhile (!ends ·), cs.dropWhile (!ends ·))

/-- The host between brackets: a version 6 address, and perhaps a zone. -/
def bracketed? (normal : Bool) (cs : List Char) : Option (List Char) :=
  let (address, rest) := cut (· = '%') cs
  if !isVersion6 address then none
  else if rest.isEmpty then some (if normal then address.map Char.toLower else address)
  else
    (zone? rest).map fun z =>
      if normal then address.map Char.toLower ++ '%' :: escapeInvalid Text.isUnreserved z else cs

end DocumentStore.Node.Address
