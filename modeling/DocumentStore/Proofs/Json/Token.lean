import DocumentStore.Json.Printer
import DocumentStore.Json.Reader
import Mathlib.Tactic

/-! What is written for a mark, a text, a word or a whole number is one lexeme again. A number ends where something stands
that could not belong to it. -/

namespace DocumentStore.Json

variable {limit offset : Nat}

theorem lexemes_cons {p : CodePoint} {ps : List CodePoint} (h : isSpace p = false) :
    lexemes limit offset (p :: ps) = ⟨offset, (lexemeAt limit offset p ps).1⟩ ::
      lexemes limit (offset + 1 + (lexemeAt limit offset p ps).2) (ps.drop (lexemeAt limit offset p ps).2) := by
  rw [lexemes]
  simp [h]

theorem lexemes_newline (ps : List CodePoint) :
    lexemes limit offset (.char '\n' :: ps) = lexemes limit (offset + 1) ps := by
  rw [lexemes, if_pos (by decide)]

@[simp] theorem lexemes_nil : lexemes limit offset [] = [] := by rw [lexemes]

/-! ### Marks -/

/-- The marks that hold a document together. -/
def mark? : Char → Option Lexeme
  | '[' => some .beginList
  | ']' => some .endList
  | '\x7b' => some .beginObject
  | '\x7d' => some .endObject
  | ',' => some .comma
  | ':' => some .colon
  | _ => none

theorem lexemes_mark {c : Char} {l : Lexeme} (h : mark? c = some l) (rest : List CodePoint) :
    lexemes limit offset (.char c :: rest) = ⟨offset, l⟩ :: lexemes limit (offset + 1) rest := by
  unfold mark? at h
  split at h <;> cases h <;> rw [lexemes_cons (by decide)] <;> simp [lexemeAt]

/-! ### Texts -/

theorem hexValue?_hexDigit : ∀ d < 16, Text.hexValue? (Text.hexDigit d) = some d := by decide

theorem hexQuad?_control {n : Nat} (hn : n < 0x20) (p : CodePoint) (rest : List CodePoint) :
    hexQuad? (.char '0' :: .char '0' :: .char (Text.hexDigit (n / 16)) :: .char (Text.hexDigit (n % 16)) :: p :: rest) =
      some n := by
  have hzero : Text.hexValue? '0' = some 0 := by decide
  simp [hexQuad?, hexValue?, hzero, hexValue?_hexDigit (n / 16) (by omega), hexValue?_hexDigit (n % 16) (by omega)]
  omega

/-- The escape of a control character by its number is read as this character. -/
theorem escape_control {c : Char} (hc : c.toNat < 0x20) (start : Nat) (p : CodePoint) (rest : List CodePoint) :
    escape start offset (.char 'u' :: .char '0' :: .char '0' :: .char (Text.hexDigit (c.toNat / 16)) ::
      .char (Text.hexDigit (c.toNat % 16)) :: p :: rest) = .ok (.char c, 5) := by
  have hpoint : CodePoint.ofNat c.toNat = .char c := by
    rw [CodePoint.ofNat, dif_neg (by omega), Char.ofNat_toNat]
  have hhigh : Text.isHighSurrogate c.toNat = false := by
    simp [Text.isHighSurrogate]
    omega
  simp only [escape, hexQuad?_control hc, hhigh, Bool.false_and, hpoint]
  split <;> simp

theorem escape_short {e c : Char} (he : shortEscape? e = some c) (hu : e ≠ 'u') (start : Nat) (rest : List CodePoint) :
    escape start offset (.char e :: rest) = .ok (.char c, 1) := by
  have hpoint : CodePoint.char e ≠ .char 'u' := by simpa using hu
  rw [escape.eq_def]
  split
  · simp_all
  · simp_all
  · rename_i heq
    obtain ⟨rfl, rfl⟩ := List.cons.inj heq
    rw [CodePoint.shown, he]

theorem textBody_escape {start : Nat} {es : List CodePoint} {p : CodePoint} {rest : List CodePoint}
    (he : escape start (offset + 1) (es ++ rest) = .ok (p, es.length)) :
    textBody start offset (.char '\\' :: es ++ rest) =
      (textBody start (offset + (es.length + 1)) rest).map fun (ps, k) => (p :: ps, k + (es.length + 1)) := by
  rw [List.cons_append, textBody, he]
  simp [Nat.add_comm, Nat.add_left_comm, Nat.add_assoc]

theorem textBody_plain {start : Nat} {p : CodePoint} (hquote : p ≠ .char '\x22') (hback : p ≠ .char '\\')
    (hcontrol : ¬p.toNat < 0x20) (rest : List CodePoint) :
    textBody start offset (p :: rest) =
      (textBody start (offset + 1) rest).map fun (ps, k) => (p :: ps, k + 1) := by
  rw [textBody.eq_def]
  split <;> simp_all

theorem textBody_escapePoint (start : Nat) (p : CodePoint) {rest : List CodePoint} (hrest : rest ≠ []) :
    textBody start offset (escapePoint p ++ rest) =
      (textBody start (offset + (escapePoint p).length) rest).map fun (ps, k) =>
        (p :: ps, k + (escapePoint p).length) := by
  cases p with
  | surrogate n => exact textBody_plain (by simp) (by simp) (by simp [CodePoint.toNat]; omega) _
  | char c =>
    unfold escapePoint escapeChar
    simp only
    split_ifs with h1 h2 h3 h4 h5 h6 h7 hcontrol
    -- a character as it stands, one written by its number, and the seven that have a letter
    on_goal 9 =>
      exact textBody_plain (by simpa using h1) (by simpa using h2) (by simpa [CodePoint.toNat] using hcontrol) _
    on_goal 8 =>
      obtain ⟨q, rest, rfl⟩ := List.exists_cons_of_ne_nil hrest
      exact textBody_escape (escape_control hcontrol _ _ _)
    all_goals
      subst c
      exact textBody_escape (escape_short rfl (by decide) _ _)

/-- The body of a text is read up to the mark that closes it, and every escape in it as what it was written for. -/
theorem textBody_escaped (start offset : Nat) (ps rest : List CodePoint) :
    textBody start offset (ps.flatMap escapePoint ++ .char '\x22' :: rest) =
      .ok (ps, (ps.flatMap escapePoint).length + 1) := by
  induction ps generalizing offset with
  | nil => simp [textBody]
  | cons p ps ih =>
    rw [List.flatMap_cons, List.append_assoc, textBody_escapePoint start p (by simp), ih]
    simp [Except.map]
    omega

theorem lexemes_printText (t : Text) (rest : List CodePoint) :
    lexemes limit offset (printText t ++ rest) =
      ⟨offset, .text t⟩ :: lexemes limit (offset + (printText t).length) rest := by
  have hbody := textBody_escaped offset (offset + 1) t.points rest
  unfold printText
  generalize t.points.flatMap escapePoint = written at hbody
  rw [List.cons_append, List.cons_append, List.append_assoc, List.singleton_append, lexemes_cons (by decide)]
  simp [lexemeAt, hbody, Nat.add_comm, Nat.add_left_comm]

/-! ### Numbers -/

/-- What may stand behind a number. -/
def Delimited (rest : List CodePoint) : Prop :=
  ∀ p ∈ rest.head?, isDigit p = false ∧ p ≠ .char '.' ∧ p ≠ .char 'e' ∧ p ≠ .char 'E'

theorem toDigits_isDigit (n : Nat) : ∀ c ∈ Nat.toDigits 10 n, c.isDigit := fun _ hc =>
  Nat.isDigit_of_mem_toDigits (by decide) (by decide) hc

theorem toDigits_cons (n : Nat) : ∃ c cs, Nat.toDigits 10 n = c :: cs ∧ c.isDigit := by
  obtain ⟨c, cs, hcs⟩ := List.exists_cons_of_ne_nil (Nat.toDigits_ne_nil (n := n) (b := 10))
  exact ⟨c, cs, hcs, toDigits_isDigit n c (by simp [hcs])⟩

theorem toDigits_head_zero {n : Nat} {ds : List Char} (h : Nat.toDigits 10 n = '0' :: ds) : n = 0 := by
  induction n using Nat.strongRecOn generalizing ds with
  | ind n ih =>
    by_cases hsmall : n < 10
    · rw [Nat.toDigits_of_lt_base hsmall] at h
      exact Nat.digitChar_eq_zero.mp (List.cons.inj h).1
    · rw [Nat.toDigits_of_base_le (by decide) (by omega)] at h
      obtain ⟨c, cs, hcs, -⟩ := toDigits_cons (n / 10)
      rw [hcs, List.cons_append] at h
      have hzero := ih (n / 10) (by omega) (hcs.trans (congrArg (· :: cs) (List.cons.inj h).1))
      omega

theorem digitValue?_ascii {c : Char} (h : c.isDigit) : Text.digitValue? c = some (c.toNat - 48) := by
  have hrange : 0x30 ≤ c.toNat ∧ c.toNat < 0x30 + 10 := by
    have hval : 0x30 ≤ c.val.toNat ∧ c.val.toNat ≤ 0x39 := by
      simpa [Char.isDigit, UInt32.le_iff_toNat_le] using h
    exact ⟨hval.1, Nat.lt_succ_of_le hval.2⟩
  simp [Text.digitValue?, Text.digitZeros, hrange]

theorem ofDigits_toDigits (n : Nat) : Text.ofDigits (Nat.toDigits 10 n) = n := by
  have hdigits : ∀ c ∈ Nat.toDigits 10 n, Text.digitValue? c = some (c.toNat - 48) := fun c hc =>
    digitValue?_ascii (toDigits_isDigit n c hc)
  calc Text.ofDigits (Nat.toDigits 10 n)
      = Nat.ofDigitChars 10 (Nat.toDigits 10 n) 0 := by
        rw [Text.ofDigits, Nat.ofDigitChars_eq_foldl]
        refine List.foldl_ext _ _ _ fun a c hc => ?_
        rw [hdigits c hc]
        rfl
    _ = n := Nat.ofDigitChars_ten_toDigits

theorem Delimited.startsWith {rest : List CodePoint} (h : Delimited rest) :
    startsWith '.' rest = false ∧ startsWith 'e' rest = false ∧ startsWith 'E' rest = false := by
  cases rest with
  | nil => decide
  | cons p rest =>
    obtain ⟨-, hpoint, he, hE⟩ := h p rfl
    simp [Json.startsWith, hpoint, he, hE]

theorem digitsOf_toDigits (n : Nat) {rest : List CodePoint} (hrest : Delimited rest) :
    digitsOf ((Nat.toDigits 10 n).map .char ++ rest) = Nat.toDigits 10 n := by
  have hstop : rest.takeWhile isDigit = [] := by
    cases rest with
    | nil => rfl
    | cons p rest => simp [(hrest p rfl).1]
  have hall : ∀ p ∈ (Nat.toDigits 10 n).map CodePoint.char, isDigit p := by
    simpa [isDigit, CodePoint.shown] using toDigits_isDigit n
  rw [digitsOf, List.takeWhile_append_of_pos hall, hstop, List.append_nil, List.map_map]
  exact List.map_id _

/-- A zero is read by itself, and that is how zero is written. -/
theorem whole_toDigits (n : Nat) {rest : List CodePoint} (hrest : Delimited rest) :
    (if startsWith '0' ((Nat.toDigits 10 n).map .char ++ rest) then ['0']
      else digitsOf ((Nat.toDigits 10 n).map .char ++ rest)) = Nat.toDigits 10 n := by
  split_ifs with hzero
  · obtain ⟨c, cs, hcs, -⟩ := toDigits_cons n
    have hc : c = '0' := by simpa [startsWith, hcs] using hzero
    rw [toDigits_head_zero (hcs.trans (congrArg (· :: cs) hc))]
    rfl
  · exact digitsOf_toDigits n hrest

theorem toDigits_startsWith_minus (n : Nat) (rest : List CodePoint) :
    startsWith '-' ((Nat.toDigits 10 n).map .char ++ rest) = false := by
  obtain ⟨c, cs, hcs, hdigit⟩ := toDigits_cons n
  have hc : c ≠ '-' := by
    rintro rfl
    exact absurd hdigit (by decide)
  simpa [startsWith, hcs] using hc

theorem numeral?_toDigits {ps : List CodePoint} {negative : Bool} (hsign : startsWith '-' ps = negative) {n : Nat}
    {rest : List CodePoint} (hps : ps.drop (if negative then 1 else 0) = (Nat.toDigits 10 n).map .char ++ rest)
    (hrest : Delimited rest) :
    numeral? ps = some (⟨negative, Nat.toDigits 10 n, [], none⟩,
      (if negative then 1 else 0) + (Nat.toDigits 10 n).length) := by
  obtain ⟨hpoint, he, hE⟩ := hrest.startsWith
  have hafter : ((Nat.toDigits 10 n).map CodePoint.char ++ rest).drop (Nat.toDigits 10 n).length = rest := by simp
  have hwhole := whole_toDigits n hrest
  rw [← hps] at hafter hwhole
  simp only [numeral?, hsign, hwhole, hafter, hpoint]
  simp [Nat.toDigits_ne_nil, he, hE]

theorem numeral?_printInt (i : Int) {rest : List CodePoint} (hrest : Delimited rest) :
    numeral? ((printInt i).map .char ++ rest) =
      some (⟨decide (i < 0), Nat.toDigits 10 i.natAbs, [], none⟩, (printInt i).length) := by
  unfold printInt
  split_ifs with hneg
  · rw [numeral?_toDigits rfl rfl hrest, decide_eq_true hneg]
    simp [startsWith, Nat.add_comm]
  · rw [numeral?_toDigits (toDigits_startsWith_minus i.natAbs rest) rfl hrest, decide_eq_false hneg]
    simp

/-- The value that a written number has as a lexeme, unless it is longer than allowed. -/
theorem lexeme_printInt (i : Int) (hlimit : (Nat.toDigits 10 i.natAbs).length ≤ limit) :
    Numeral.lexeme limit ⟨decide (i < 0), Nat.toDigits 10 i.natAbs, [], none⟩ = .scalar (.int i) := by
  have hvalue : (if i < 0 then -(i.natAbs : Int) else i.natAbs) = i := by omega
  simpa [Numeral.lexeme, Nat.not_lt.mpr hlimit, ofDigits_toDigits] using hvalue

theorem toDigits_length_le (i : Int) : (Nat.toDigits 10 i.natAbs).length ≤ (printInt i).length := by
  unfold printInt
  split_ifs
  · exact Nat.le_succ _
  · exact Nat.le_refl _

theorem lexemeAt_numeral {p : CodePoint} {ps : List CodePoint} {n : Numeral} {k : Nat}
    (hp : p = .char '-' ∨ isDigit p) (h : numeral? (p :: ps) = some (n, k)) :
    lexemeAt limit offset p ps = (n.lexeme limit, k - 1) := by
  have hother (c : Char) (hc : c ≠ '-' ∧ c.isDigit = false) : p ≠ .char c := by
    rintro rfl
    rcases hp with hp | hp
    · exact hc.1 (CodePoint.char.inj hp)
    · simp [isDigit, CodePoint.shown, hc.2] at hp
  simp [lexemeAt, h, hother]

theorem printInt_head (i : Int) :
    ∃ p ps, (printInt i).map CodePoint.char = p :: ps ∧ (p = .char '-' ∨ isDigit p) := by
  unfold printInt
  split_ifs
  · exact ⟨_, _, rfl, .inl rfl⟩
  · obtain ⟨c, cs, hcs, hdigit⟩ := toDigits_cons i.natAbs
    exact ⟨.char c, cs.map .char, by rw [hcs]; rfl, .inr hdigit⟩

theorem lexemes_printInt (i : Int) (hlimit : (Nat.toDigits 10 i.natAbs).length ≤ limit) {rest : List CodePoint}
    (hrest : Delimited rest) :
    lexemes limit offset ((printInt i).map .char ++ rest) =
      ⟨offset, .scalar (.int i)⟩ :: lexemes limit (offset + (printInt i).length) rest := by
  have hnumeral := numeral?_printInt i hrest
  obtain ⟨p, ps, hps, hp⟩ := printInt_head i
  have hlength : (printInt i).length = ps.length + 1 := by simpa using congrArg List.length hps
  have hspace : isSpace p = false := by
    rcases hp with rfl | hp
    · decide
    · rw [Bool.eq_false_iff]
      intro hspace
      simp only [isSpace, Bool.or_eq_true, decide_eq_true_eq] at hspace
      rcases hspace with ((rfl | rfl) | rfl) | rfl <;> exact absurd hp (by decide)
  rw [hps, List.cons_append] at hnumeral ⊢
  rw [lexemes_cons hspace, lexemeAt_numeral hp hnumeral, lexeme_printInt i hlimit, hlength]
  simp [Nat.add_comm, Nat.add_left_comm]

/-! ### Words -/

theorem lexemes_word {v : Json} (h : v = .null ∨ ∃ b, v = .bool b) (rest : List CodePoint) :
    lexemes limit offset (v.print ++ rest) = ⟨offset, .scalar v⟩ :: lexemes limit (offset + v.print.length) rest := by
  have hword : ∃ p ps, v.print = p :: ps ∧ isSpace p = false ∧
      lexemeAt limit offset p (ps ++ rest) = (.scalar v, ps.length) := by
    rcases h with rfl | ⟨_ | _, rfl⟩ <;> exact ⟨_, _, rfl, by decide, rfl⟩
  obtain ⟨p, ps, hps, hspace, hlexeme⟩ := hword
  rw [hps, List.cons_append, lexemes_cons hspace, hlexeme]
  simp [Nat.add_comm, Nat.add_left_comm]

end DocumentStore.Json
