/-! Texts as runs of code points. What escapes or bytes write may hold surrogates that belong to no pair; a text
without any is a string. -/

namespace DocumentStore

/-- A code point: a character, or one of the surrogates by itself. -/
inductive CodePoint where
  | char (c : Char)
  | surrogate (n : Fin 0x800)
  deriving DecidableEq, Repr

namespace CodePoint

def ofNat (n : Nat) : CodePoint :=
  if h : 0xD800 ≤ n ∧ n < 0xE000 then .surrogate ⟨n - 0xD800, by omega⟩ else .char (Char.ofNat n)

def toNat : CodePoint → Nat
  | .char c => c.toNat
  | .surrogate n => 0xD800 + n

/-- The character that stands for the code point where only characters can stand. -/
def shown : CodePoint → Char
  | .char c => c
  | .surrogate _ => '\uFFFD'

def char? : CodePoint → Option Char
  | .char c => some c
  | .surrogate _ => none

/-- The bytes of the code point; a surrogate is written like any other number of its size. -/
def utf8 : CodePoint → List UInt8
  | .char c => String.utf8EncodeChar c
  | .surrogate n => [0xED, UInt8.ofNat (0xA0 + n / 64), UInt8.ofNat (0x80 + n % 64)]

end CodePoint

structure Text where
  points : List CodePoint
  deriving DecidableEq, Repr, Inhabited

namespace Text

def ofChars (cs : List Char) : Text := ⟨cs.map .char⟩

def ofString (s : String) : Text := ofChars s.toList

instance : Coe String Text := ⟨ofString⟩

instance : Append Text := ⟨fun s t => ⟨s.points ++ t.points⟩⟩

/-- The string of a text that has no surrogates by themselves. -/
def string? (t : Text) : Option String := (t.points.mapM CodePoint.char?).map String.ofList

/-- The text as a string, with the replacement character for each surrogate by itself. -/
protected def toString (t : Text) : String := String.ofList (t.points.map CodePoint.shown)

/-- The texts one after the other, with a text between them. -/
def joined (between : Text) (ts : List Text) : Text := ⟨between.points.intercalate (ts.map points)⟩

def isEmpty (t : Text) : Bool := t.points.isEmpty

def utf8 (t : Text) : List UInt8 := t.points.flatMap CodePoint.utf8

theorem string?_ofString (s : String) : (ofString s).string? = some s := by
  have h : ∀ cs : List Char, (cs.map CodePoint.char).mapM CodePoint.char? = some cs := by
    intro cs
    induction cs with
    | nil => rfl
    | cons c cs ih => simp [CodePoint.char?, ih]
  simp [string?, ofString, ofChars, h]

/-- Only the text of a string is that string. -/
theorem string?_eq_some_iff {t : Text} {s : String} : t.string? = some s ↔ t = ofString s := by
  refine ⟨fun h => ?_, fun h => h ▸ string?_ofString s⟩
  have hchars : ∀ (ps : List CodePoint) (cs : List Char), ps.mapM CodePoint.char? = some cs → ps = cs.map .char := by
    intro ps
    induction ps with
    | nil =>
      rintro cs ⟨⟩
      rfl
    | cons p ps ih =>
      intro cs h
      rw [List.mapM_cons] at h
      obtain ⟨c, hc, h⟩ := Option.bind_eq_some_iff.1 h
      obtain ⟨rest, hrest, h⟩ := Option.bind_eq_some_iff.1 h
      cases h
      cases p <;> cases hc
      rw [ih rest hrest]
      rfl
  obtain ⟨cs, hcs, rfl⟩ := Option.map_eq_some_iff.1 h
  obtain ⟨ps⟩ := t
  rw [ofString, ofChars, String.toList_ofList, hchars ps cs hcs]

theorem toString_ofString (s : String) : (ofString s).toString = s := by
  have h : CodePoint.shown ∘ CodePoint.char = id := rfl
  simp [Text.toString, ofString, ofChars, h]

theorem points_append (s t : Text) : (s ++ t).points = s.points ++ t.points := rfl

theorem ofString_append (s t : String) : ofString (s ++ t) = ofString s ++ ofString t := by
  unfold ofString ofChars
  rw [String.toList_append, List.map_append]
  rfl

end Text

end DocumentStore
