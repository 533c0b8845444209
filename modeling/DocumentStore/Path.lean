import DocumentStore.Text.Blank
import DocumentStore.Text.Digit

/-! Path expressions, which name a place in a document: an optional `$`, then names and indices. A segment is
`[0]`, `['name']`, `["name"]` or a bare name with an optional dot before it. -/

namespace DocumentStore.Path

inductive Step where
  | index (n : Nat)
  | name (s : Text)
  deriving DecidableEq, Repr

/-- Why a text is no path: a place where no segment starts, or an index with too many digits. -/
inductive Flaw where
  | noSegment
  | overlong (digits : Nat)
  deriving DecidableEq, Repr

/-- The code points of a bare name. -/
def isBare (p : CodePoint) : Bool := p ≠ .char '.' && p ≠ .char '[' && p ≠ .char ']'

/-- The index behind an opening bracket, and how many code points write it, the closing bracket included. -/
def indexSegment (ps : List CodePoint) : Except Flaw (Step × Nat) :=
  let digits := (ps.takeWhile Text.isDigit).map CodePoint.shown
  if digits.isEmpty || (ps.drop digits.length).head? ≠ some (.char ']') then .error .noSegment
  else if Text.longestNumeral < digits.length then .error (.overlong digits.length)
  else .ok (.index (Text.ofDigits digits), digits.length + 1)

/-- The quoted name behind an opening bracket and mark, up to the next such mark. -/
def quotedSegment (mark : CodePoint) (ps : List CodePoint) : Except Flaw (Step × Nat) :=
  let name := ps.takeWhile (· ≠ mark)
  if (ps.drop name.length).take 2 = [mark, .char ']'] then .ok (.name ⟨name⟩, name.length + 3)
  else .error .noSegment

def bareSegment (ps : List CodePoint) : Except Flaw (Step × Nat) :=
  let name := ps.takeWhile isBare
  if name.isEmpty then .error .noSegment else .ok (.name ⟨name⟩, name.length)

/-- The segment at the front of a text, and how many code points past the first write it. -/
def segment (p : CodePoint) (ps : List CodePoint) : Except Flaw (Step × Nat) :=
  if p = .char '[' then
    match ps with
    | .char '\x27' :: rest => quotedSegment (.char '\x27') rest
    | .char '\x22' :: rest => quotedSegment (.char '\x22') rest
    | _ => indexSegment ps
  else if p = .char '.' then bareSegment ps
  else (bareSegment (p :: ps)).map fun (s, n) => (s, n - 1)

def segments : List CodePoint → Except Flaw (List Step)
  | [] => .ok []
  | p :: ps =>
    match segment p ps with
    | .error f => .error f
    | .ok (s, more) => (segments (ps.drop more)).map (s :: ·)
termination_by ps => ps.length
decreasing_by simp only [List.length_drop, List.length_cons]; omega

/-- The segments of a path without the blanks around it and the `$` before it. -/
def body (path : Text) : List CodePoint :=
  match Text.trimBlank path.points with
  | .char '$' :: rest => rest
  | ps => ps

def parse (path : Text) : Except Flaw (List Step) := segments (body path)

/-- A step in brackets; a name with a single quotation mark in it stands between double ones. -/
def Step.render : Step → List CodePoint
  | .index n => .char '[' :: (Nat.toDigits 10 n).map .char ++ [.char ']']
  | .name s =>
    let mark := if s.points.contains (.char '\x27') then '\x22' else '\x27'
    .char '[' :: .char mark :: s.points ++ [.char mark, .char ']']

def render (steps : List Step) : Text := ⟨.char '$' :: steps.flatMap Step.render⟩

end DocumentStore.Path
