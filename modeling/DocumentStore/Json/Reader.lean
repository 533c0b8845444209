import DocumentStore.Json.Lexeme

/-! Reading a JSON document off its lexemes, one step each: a mode says what may come next, and a stack holds
the lists and objects that are still open. -/

namespace DocumentStore.Json

/-- A list or object that is still open; the items of a list are the latest first. -/
inductive Frame where
  | list (items : List Json)
  | object (fields : List (Text × Json)) (key : Text)

inductive Mode where
  | value
  | firstItem
  | firstKey
  | key (fields : List (Text × Json))
  | colon (fields : List (Text × Json)) (key : Text)
  | after (v : Json)

/-- A value where one may stand: a complete one, or the opening of a list or object. -/
def stepValue (stack : List Frame) (l : Placed) : Except Refusal (Mode × List Frame) :=
  match l.lexeme with
  | .scalar v => .ok (.after v, stack)
  | .text t => .ok (.after (.str t), stack)
  | .beginList => .ok (.firstItem, stack)
  | .beginObject => .ok (.firstKey, stack)
  | .badText p place => .error (.problem p place)
  | .overlong n => .error (.overlong n)
  | _ => .error (.problem .expectedValue l.offset)

def stepKey (fields : List (Text × Json)) (stack : List Frame) (l : Placed) :
    Except Refusal (Mode × List Frame) :=
  match l.lexeme with
  | .text t => .ok (.colon fields t, stack)
  | .badText p place => .error (.problem p place)
  | _ => .error (.problem .expectedKey l.offset)

/-- What may follow a complete value: the next member or the end of the innermost open list or object. -/
def stepAfter (v : Json) (stack : List Frame) (l : Placed) : Except Refusal (Mode × List Frame) :=
  match stack, l.lexeme with
  | [], _ => .error (.problem .extraData l.offset)
  | .list items :: rest, .comma => .ok (.value, .list (v :: items) :: rest)
  | .list items :: rest, .endList => .ok (.after (.arr (v :: items).reverse), rest)
  | .object fields k :: rest, .comma => .ok (.key (putField k v fields), rest)
  | .object fields k :: rest, .endObject => .ok (.after (.obj (putField k v fields)), rest)
  | _, _ => .error (.problem .expectedComma l.offset)

def step : Mode → List Frame → Placed → Except Refusal (Mode × List Frame)
  | .value, stack, l => stepValue stack l
  | .firstItem, stack, l =>
    match l.lexeme with
    | .endList => .ok (.after (.arr []), stack)
    | _ => stepValue (.list [] :: stack) l
  | .firstKey, stack, l =>
    match l.lexeme with
    | .endObject => .ok (.after (.obj []), stack)
    | _ => stepKey [] stack l
  | .key fields, stack, l => stepKey fields stack l
  | .colon fields k, stack, l =>
    match l.lexeme with
    | .colon => .ok (.value, .object fields k :: stack)
    | _ => .error (.problem .expectedColon l.offset)
  | .after v, stack, l => stepAfter v stack l

/-- What the end of the text leaves: the document, if it is complete. -/
def finish (offset : Nat) : Mode → List Frame → Except Refusal Json
  | .after v, [] => .ok v
  | .after _, _ => .error (.problem .expectedComma offset)
  | .value, _ | .firstItem, _ => .error (.problem .expectedValue offset)
  | .firstKey, _ | .key _, _ => .error (.problem .expectedKey offset)
  | .colon _ _, _ => .error (.problem .expectedColon offset)

def readLexemes (offset : Nat) : Mode → List Frame → List Placed → Except Refusal Json
  | m, stack, [] => finish offset m stack
  | m, stack, l :: ls =>
    match step m stack l with
    | .error r => .error r
    | .ok (m, stack) => readLexemes offset m stack ls

/-- The document that some code points write, with a limit to the digits of a whole number. -/
def readPoints (limit : Nat) (ps : List CodePoint) : Except Fault Json :=
  (readLexemes ps.length .value [] (lexemes limit 0 ps)).mapError (·.toFault ps)

/-- The document that a text writes; a byte order mark at its front is not part of one. -/
def parse (t : Text) : Except Fault Json :=
  if startsWith '\uFEFF' t.points then .error ((Refusal.problem .byteOrderMark 0).toFault t.points)
  else readPoints Text.longestNumeral t.points

/-- The document that some bytes write, in whatever encoding they show. -/
def parseBytes (bs : List UInt8) : Except Fault Json :=
  match Text.decodeDocument bs with
  | .error f => .error (.undecodable f)
  | .ok ps => readPoints Text.longestNumeral ps

end DocumentStore.Json
