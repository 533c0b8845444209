import DocumentStore.Text.Percent
import Mathlib

/-! Percent-encoding read back. Every byte is written as itself or as an escape, and is one byte again; what is written
is unreserved characters, escapes and the characters that are kept, so a separator that is not kept is in none of it. -/

namespace DocumentStore.Text

/-! ### The bytes of a text -/

theorem toList_byteArray (bs : ByteArray) : bs.toList = bs.data.toList := by
  have hloop (i : Nat) (acc : List UInt8) :
      ByteArray.toList.loop bs i acc = acc.reverse ++ bs.data.toList.drop i := by
    fun_induction ByteArray.toList.loop bs i acc with
    | case1 i acc h ih =>
      have hlt : i < bs.data.toList.length := h
      have hget : bs.get! i = bs.data.toList[i] := getElem!_pos bs.data i h
      rw [ih, hget, List.drop_eq_getElem_cons hlt, List.reverse_cons, List.append_assoc, List.singleton_append]
    | case2 i acc h =>
      have hle : bs.data.toList.length ≤ i := Nat.le_of_not_lt h
      rw [List.drop_of_length_le hle, List.append_nil]
  exact hloop 0 []

theorem toUTF8_toList (s : String) : s.toUTF8.toList = s.toList.flatMap String.utf8EncodeChar := by
  rw [toList_byteArray, String.toUTF8_eq_toByteArray]
  conv_lhs => rw [← String.ofList_toList (s := s)]
  rw [String.toByteArray_ofList, List.utf8Encode, List.toList_data_toByteArray]

theorem fromUTF8?_toUTF8 (s : String) : String.fromUTF8? ⟨s.toUTF8.toList.toArray⟩ = some s := by
  rw [toList_byteArray, Array.toArray_toList]
  exact dif_pos s.isValidUTF8

theorem utf8EncodeChar_ascii {c : Char} (hc : c.toNat < 128) : String.utf8EncodeChar c = [UInt8.ofNat c.toNat] :=
  if_pos (Nat.le_of_lt_succ hc)

/-- The byte of an ASCII character belongs to no other character. -/
theorem byte_mem_utf8EncodeChar_iff {c d : Char} (hc : c.toNat < 128) :
    UInt8.ofNat c.toNat ∈ String.utf8EncodeChar d ↔ d = c := by
  have hbyte (m : Nat) : UInt8.ofNat c.toNat = UInt8.ofNat m ↔ m % 256 = c.toNat := by
    rw [← UInt8.toNat_inj, UInt8.toNat_ofNat', UInt8.toNat_ofNat', Nat.mod_eq_of_lt (by omega), eq_comm]
  have hchar : d = c ↔ d.val.toNat = c.toNat := by
    rw [Char.ext_iff, ← UInt32.toNat_inj]
    rfl
  rw [hchar]
  unfold String.utf8EncodeChar
  simp only
  split_ifs <;> simp only [List.mem_cons, List.not_mem_nil, hbyte, or_false] <;> omega

theorem isUnreserved_ascii {c : Char} (h : isUnreserved c = true) : c.toNat < 128 := by
  by_contra hc
  have hlarge : ¬c.toNat ≤ 127 := by omega
  have hmark (d : Char) (hd : d.toNat ≤ 127) : c ≠ d := by
    rintro rfl
    exact hlarge hd
  have halpha : c.isAlphanum = false := by
    simp only [Char.isAlphanum, Char.isAlpha, Char.isUpper, Char.isLower, Char.isDigit, Bool.or_eq_false_iff,
      Bool.and_eq_false_iff, decide_eq_false_iff_not, ge_iff_le, UInt32.le_iff_toNat_le]
    have hval : c.val.toNat = c.toNat := rfl
    simp [hval]
    omega
  simp [isUnreserved, halpha, hmark '_' (by decide), hmark '.' (by decide), hmark '-' (by decide),
    hmark '~' (by decide)] at h

/-- What is to hold of all unreserved characters can be checked one by one. -/
theorem of_isUnreserved {P : Char → Prop} (h : ∀ n < 128, isUnreserved (Char.ofNat n) = true → P (Char.ofNat n))
    {c : Char} (hc : isUnreserved c = true) : P c := by
  have hall := h c.toNat (isUnreserved_ascii hc)
  rw [Char.ofNat_toNat] at hall
  exact hall hc

/-! ### One byte -/

theorem hexValue?_upperHexDigit : ∀ d < 16, hexValue? (upperHexDigit d) = some d := by decide

theorem isUnreserved_upperHexDigit : ∀ d < 16, isUnreserved (upperHexDigit d) = true := by decide

theorem percentBytes_escapeByte (b : UInt8) (rest : List Char) :
    percentBytes (escapeByte b ++ rest) = b :: percentBytes rest := by
  have hb := b.toNat_lt
  have hhigh := hexValue?_upperHexDigit (b.toNat / 16) (by omega)
  have hlow := hexValue?_upperHexDigit (b.toNat % 16) (by omega)
  have hsum : UInt8.ofNat (16 * (b.toNat / 16) + b.toNat % 16) = b := by
    rw [Nat.div_add_mod]
    exact UInt8.ofNat_toNat
  simp only [escapeByte, List.cons_append, List.nil_append]
  rw [percentBytes]
  simp only [hhigh, hlow, hsum]

theorem percentBytes_plain {c : Char} (hc : c ≠ '%') (rest : List Char) :
    percentBytes (c :: rest) = UInt8.ofNat c.toNat :: percentBytes rest := by
  rw [percentBytes]
  exact fun _ _ _ h => absurd h hc

theorem toNat_ofNat : ∀ n < 128, (Char.ofNat n).toNat = n := by decide

section keep

variable {keep : Char → Bool}

/-- A byte is written as itself only where its character is kept. -/
theorem percentByte_cases (keep : Char → Bool) (b : UInt8) :
    (∃ c : Char, c.toNat < 128 ∧ keep c = true ∧ b = UInt8.ofNat c.toNat ∧ percentByte keep b = [c]) ∨
      percentByte keep b = escapeByte b := by
  unfold percentByte
  split_ifs with h
  · obtain ⟨hlt, hkept⟩ := Bool.and_eq_true_iff.1 h
    have hb : b.toNat < 128 := by simpa [UInt8.lt_iff_toNat_lt] using hlt
    refine .inl ⟨Char.ofNat b.toNat, ?_, hkept, ?_, rfl⟩
    · rwa [toNat_ofNat _ hb]
    · rw [toNat_ofNat _ hb, UInt8.ofNat_toNat]
  · exact .inr rfl

/-- What is written for a byte is the escape sign, an unreserved character, or a character that is kept as it is. -/
theorem mem_percentByte {b : UInt8} {c : Char} (h : c ∈ percentByte keep b) :
    c = '%' ∨ isUnreserved c = true ∨ (keep c = true ∧ c.toNat < 128 ∧ b = UInt8.ofNat c.toNat) := by
  rcases percentByte_cases keep b with ⟨d, hd, hkept, hb, heq⟩ | heq
  · rw [heq, List.mem_singleton] at h
    subst h
    exact .inr (.inr ⟨hkept, hd, hb⟩)
  · have hb := b.toNat_lt
    rw [heq] at h
    simp only [escapeByte, List.mem_cons, List.not_mem_nil, or_false] at h
    rcases h with rfl | rfl | rfl
    · exact .inl rfl
    · exact .inr (.inl (isUnreserved_upperHexDigit _ (by omega)))
    · exact .inr (.inl (isUnreserved_upperHexDigit _ (by omega)))

theorem mem_percentEncode {s : String} {c : Char} (h : c ∈ percentEncode keep s) :
    c = '%' ∨ isUnreserved c = true ∨ (keep c = true ∧ c.toNat < 128 ∧ c ∈ s.toList) := by
  obtain ⟨b, hb, hc⟩ := List.mem_flatMap.1 h
  rcases mem_percentByte hc with rfl | hfree | ⟨hkept, hascii, rfl⟩
  · exact .inl rfl
  · exact .inr (.inl hfree)
  · rw [toUTF8_toList, List.mem_flatMap] at hb
    obtain ⟨d, hd, hbyte⟩ := hb
    obtain rfl := (byte_mem_utf8EncodeChar_iff hascii).1 hbyte
    exact .inr (.inr ⟨hkept, hascii, hd⟩)

/-- What is written for one character. -/
def percentChar (keep : Char → Bool) (c : Char) : List Char := (String.utf8EncodeChar c).flatMap (percentByte keep)

theorem percentEncode_eq (keep : Char → Bool) (s : String) :
    percentEncode keep s = s.toList.flatMap (percentChar keep) := by
  unfold percentEncode percentChar
  rw [toUTF8_toList, List.flatMap_assoc]

/-- A character that is kept is written as it is. -/
theorem percentChar_kept {c : Char} (hascii : c.toNat < 128) (hkept : keep c = true) : percentChar keep c = [c] := by
  have hbyte : (UInt8.ofNat c.toNat).toNat = c.toNat := by
    rw [UInt8.toNat_ofNat']
    omega
  have hlt : UInt8.ofNat c.toNat < 128 := UInt8.lt_iff_toNat_lt.2 (by rwa [hbyte])
  rw [percentChar, utf8EncodeChar_ascii hascii, List.flatMap_singleton, percentByte, hbyte, Char.ofNat_toNat, hkept,
    decide_eq_true hlt]
  rfl

variable (hkeep : keep '%' = false)

include hkeep

theorem percentBytes_percentByte (b : UInt8) (rest : List Char) :
    percentBytes (percentByte keep b ++ rest) = b :: percentBytes rest := by
  rcases percentByte_cases keep b with ⟨c, hascii, hkept, hb, heq⟩ | heq
  · have hsign : c ≠ '%' := by
      rintro rfl
      rw [hkeep] at hkept
      cases hkept
    rw [heq, List.singleton_append, percentBytes_plain hsign, hb]
  · rw [heq, percentBytes_escapeByte]

theorem percentBytes_flatMap (bs : List UInt8) : percentBytes (bs.flatMap (percentByte keep)) = bs := by
  induction bs with
  | nil => rw [List.flatMap_nil, percentBytes]
  | cons b bs ih => rw [List.flatMap_cons, percentBytes_percentByte hkeep, ih]

/-- A text that is encoded is decoded to what it was, whatever characters are kept besides the escape sign. -/
theorem percentDecode?_percentEncode (s : String) : percentDecode? (percentEncode keep s) = some s := by
  unfold percentDecode? percentEncode
  rw [percentBytes_flatMap hkeep]
  exact fromUTF8?_toUTF8 s

end keep

/-! ### Parts -/

theorem splitOn_append {α : Type} [DecidableEq α] {sep : α} {xs : List α} (hxs : sep ∉ xs) (ys : List α) :
    (xs ++ ys).splitOn sep = (ys.splitOn sep).modifyHead (xs ++ ·) := by
  induction xs with
  | nil =>
    simp only [List.nil_append]
    cases ys.splitOn sep <;> rfl
  | cons x xs ih =>
    rw [List.mem_cons, not_or] at hxs
    have hx : (x == sep) = false := beq_false_of_ne (Ne.symm hxs.1)
    rw [List.cons_append, List.splitOn_cons_eq_if_modifyHead, hx, ih hxs.2]
    simp [Function.comp_def]

/-- Where a separator is written as itself and is in nothing else that is written, the parts of what is written are the
parts of what it was written for. -/
theorem splitOn_flatMap {α : Type} [DecidableEq α] {sep : α} {write : α → List α} (hsep : write sep = [sep])
    (hfree : ∀ x, x ≠ sep → sep ∉ write x) (xs : List α) :
    (xs.flatMap write).splitOn sep = (xs.splitOn sep).map (·.flatMap write) := by
  induction xs with
  | nil => rfl
  | cons x xs ih =>
    rw [List.flatMap_cons, List.splitOn_cons_eq_if_modifyHead]
    by_cases hx : x = sep
    · subst hx
      rw [hsep, List.singleton_append, List.splitOn_cons_eq_if_modifyHead, ih]
      simp
    · rw [splitOn_append (hfree x hx), ih, beq_false_of_ne hx]
      obtain ⟨part, parts, hparts⟩ := List.exists_cons_of_ne_nil (List.splitOn_ne_nil sep xs)
      simp [hparts]

/-- The parts of an encoded text are its parts, each encoded. -/
theorem splitOn_percentEncode {keep : Char → Bool} {sep : Char} (hascii : sep.toNat < 128) (hkept : keep sep = true)
    (hsign : sep ≠ '%') (hreserved : isUnreserved sep = false) (s : String) :
    (percentEncode keep s).splitOn sep = ((s.toList.splitOn sep).map String.ofList).map (percentEncode keep) := by
  have hfree (c : Char) (hc : c ≠ sep) : sep ∉ percentChar keep c := by
    intro hmem
    have hencoded : sep ∈ percentEncode keep (String.ofList [c]) := by simpa [percentEncode_eq] using hmem
    rcases mem_percentEncode hencoded with h | h | ⟨-, -, h⟩
    · exact hsign h
    · rw [hreserved] at h
      cases h
    · rw [String.toList_ofList, List.mem_singleton] at h
      exact hc h.symm
  rw [percentEncode_eq, splitOn_flatMap (percentChar_kept hascii hkept) hfree, List.map_map]
  refine List.map_congr_left fun part _ => ?_
  rw [Function.comp_apply, percentEncode_eq, String.toList_ofList]

theorem mapM_map_some {α β : Type} {write : α → β} {read : β → Option α} (h : ∀ a, read (write a) = some a)
    (as : List α) : (as.map write).mapM read = some as := by
  induction as with
  | nil => rfl
  | cons a as ih => rw [List.map_cons, List.mapM_cons, h, ih]; rfl

/-! ### Forms -/

/-- With its spaces back a component of a form is a text that is encoded with its spaces kept. -/
theorem map_formEncode (s : String) :
    (formEncode s).map (fun c => if c = '+' then ' ' else c) =
      percentEncode (fun c => isUnreserved c || c = ' ') s := by
  have hbyte : ∀ n < 256, (if UInt8.ofNat n = 32 then ['+'] else percentByte isUnreserved (UInt8.ofNat n)).map
      (fun c => if c = '+' then ' ' else c) =
        percentByte (fun c => isUnreserved c || c = ' ') (UInt8.ofNat n) := by decide +kernel
  unfold formEncode percentEncode
  rw [List.map_flatMap]
  refine List.flatMap_congr fun b _ => ?_
  simpa using hbyte b.toNat b.toNat_lt

theorem formDecode?_formEncode (s : String) : formDecode? (formEncode s) = some s := by
  unfold formDecode?
  rw [map_formEncode, percentDecode?_percentEncode (by decide)]

theorem mem_formEncode {s : String} {c : Char} (h : c ∈ formEncode s) :
    c = '+' ∨ c = '%' ∨ isUnreserved c = true := by
  obtain ⟨b, -, hc⟩ := List.mem_flatMap.1 h
  split_ifs at hc
  · exact .inl (List.mem_singleton.1 hc)
  · rcases mem_percentByte hc with hsign | hfree | ⟨hfree, -⟩
    · exact .inr (.inl hsign)
    · exact .inr (.inr hfree)
    · exact .inr (.inr hfree)

/-- No mark is part of a component, but for the sign of a space and that of an escape. -/
theorem notMem_formEncode {c : Char} (hplus : c ≠ '+') (hsign : c ≠ '%') (hreserved : isUnreserved c = false)
    (s : String) : c ∉ formEncode s := by
  intro h
  rcases mem_formEncode h with h | h | h
  · exact hplus h
  · exact hsign h
  · rw [hreserved] at h
    cases h

/-- The field that a part of a form stands for, cut at its first `=`. -/
def readField? (cs : List Char) : Option (String × String) := do
  return (← formDecode? (cs.takeWhile (· ≠ '=')), ← formDecode? ((cs.dropWhile (· ≠ '=')).drop 1))

/-- The fields that a form stands for, in their order. -/
def readForm? (cs : List Char) : Option (List (String × String)) := (cs.splitOn '&').mapM readField?

/-- A field as it is written. -/
def fieldChars (field : String × String) : List Char := formEncode field.1 ++ '=' :: formEncode field.2

theorem readField?_fieldChars (field : String × String) : readField? (fieldChars field) = some field := by
  have hkey : ∀ c ∈ formEncode field.1, decide (c ≠ '=') = true := by
    intro c hc
    have hfree := notMem_formEncode (c := '=') (by decide) (by decide) (by decide) field.1
    exact decide_eq_true fun he => hfree (he ▸ hc)
  unfold readField? fieldChars
  rw [List.takeWhile_append_of_pos hkey, List.dropWhile_append_of_pos hkey]
  simp [formDecode?_formEncode]

theorem ampersand_notMem_fieldChars (field : String × String) : '&' ∉ fieldChars field := by
  have hfree := notMem_formEncode (c := '&') (by decide) (by decide) (by decide)
  simp [fieldChars, hfree]

/-- A form that has fields is read as these fields. -/
theorem readForm?_formFields {fields : List (String × String)} (hne : fields ≠ []) :
    readForm? (formFields fields) = some fields := by
  have hparts : (formFields fields).splitOn '&' = fields.map fieldChars := by
    refine List.splitOn_intercalate '&' ?_ (by simpa using hne)
    rw [List.forall_mem_map]
    exact fun field _ => ampersand_notMem_fieldChars field
  rw [readForm?, hparts]
  exact mapM_map_some readField?_fieldChars fields

/-- All that a form is made of. -/
theorem mem_formFields {fields : List (String × String)} {c : Char} (h : c ∈ formFields fields) :
    c = '&' ∨ c = '=' ∨ c = '+' ∨ c = '%' ∨ isUnreserved c = true := by
  have hfield (field : String × String) (hc : c ∈ fieldChars field) :
      c = '=' ∨ c = '+' ∨ c = '%' ∨ isUnreserved c = true := by
    rcases List.mem_append.1 hc with hkey | hrest
    · exact .inr (mem_formEncode hkey)
    · exact (List.mem_cons.1 hrest).imp_right mem_formEncode
  change c ∈ ['&'].intercalate (fields.map fieldChars) at h
  induction fields with
  | nil => cases h
  | cons field fields ih =>
    cases fields with
    | nil => exact .inr (hfield field (by simpa using h))
    | cons next fields =>
      simp only [List.map_cons, List.intercalate_cons_cons, List.append_assoc, List.mem_append,
        List.mem_singleton] at h
      rcases h with hfirst | hamp | hrest
      · exact .inr (hfield field hfirst)
      · exact .inl hamp
      · exact ih hrest

end DocumentStore.Text
