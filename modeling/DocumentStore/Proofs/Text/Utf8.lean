import DocumentStore.Text.Encoding
import Mathlib.Tactic

/-! Texts as bytes. A line break is a byte of its own and no part of any other code point, and what was encoded is decoded
to what it was, surrogates by themselves included. -/

namespace DocumentStore

theorem CodePoint.char_eq_newline_iff (c : Char) : CodePoint.char c = .char '\n' ↔ c.val.toNat = 10 := by
  rw [CodePoint.char.injEq, Char.ext_iff, ← UInt32.toNat_inj]
  rfl

theorem CodePoint.newline_mem_utf8_iff (p : CodePoint) : 10 ∈ p.utf8 ↔ p = .char '\n' := by
  have hbyte (m : Nat) : (10 : UInt8) = UInt8.ofNat m ↔ m % 256 = 10 := by
    rw [← UInt8.toNat_inj, UInt8.toNat_ofNat']
    exact eq_comm
  cases p with
  | surrogate n =>
    simp only [CodePoint.utf8, List.mem_cons, List.not_mem_nil, hbyte]
    have := n.isLt
    simp
    omega
  | char c =>
    rw [CodePoint.char_eq_newline_iff]
    unfold CodePoint.utf8 String.utf8EncodeChar
    simp only
    split_ifs <;> simp only [List.mem_cons, List.not_mem_nil, hbyte, or_false] <;> omega

theorem Text.newline_mem_utf8_iff (t : Text) : 10 ∈ t.utf8 ↔ .char '\n' ∈ t.points := by
  simp [Text.utf8, CodePoint.newline_mem_utf8_iff]

theorem CodePoint.ofNat_char (c : Char) : CodePoint.ofNat c.val.toNat = .char c := by
  have hvalid : ¬(0xD800 ≤ c.val.toNat ∧ c.val.toNat < 0xE000) := by
    have := c.valid
    simp only [UInt32.isValidChar, Nat.isValidChar] at this
    omega
  rw [CodePoint.ofNat, dif_neg hvalid]
  exact congrArg _ (Char.ofNat_toNat c)

theorem CodePoint.ofNat_surrogate (n : Fin 0x800) : CodePoint.ofNat (0xD800 + n) = .surrogate n := by
  have := n.isLt
  rw [CodePoint.ofNat, dif_pos (by omega)]
  simp

namespace Text

theorem toNat_byte {m : Nat} (hm : m < 256) : (UInt8.ofNat m).toNat = m := UInt8.toNat_ofNat_of_lt' hm

theorem continuation_succ {n lo hi code taken : Nat} {m : Nat} {bs : List UInt8} (hm : m < 256) (hlo : lo ≤ m)
    (hhi : m ≤ hi) :
    continuation (n + 1) lo hi code taken (UInt8.ofNat m :: bs) =
      continuation n 0x80 0xBF (code * 64 + m % 64) (taken + 1) bs := by
  rw [continuation, toNat_byte hm, if_pos ⟨hlo, hhi⟩]

theorem surrogate?_of_lead {m : Nat} (hm : m < 256) (hlead : m ≠ 0xED) (bs : List UInt8) :
    surrogate? (UInt8.ofNat m) bs = none := by
  have hne : UInt8.ofNat m ≠ 0xED := fun h => hlead (by rw [← toNat_byte hm, h]; rfl)
  unfold surrogate?
  split
  · simp [hne]
  · rfl

theorem surrogate?_of_second {k : Nat} (hk : k < 0xA0) (b : UInt8) (bs : List UInt8) :
    surrogate? b (UInt8.ofNat k :: bs) = none := by
  have hlow : ¬(0xA0 : UInt8) ≤ UInt8.ofNat k := by
    rw [UInt8.le_iff_toNat_le, toNat_byte (by omega)]
    exact Nat.not_le.mpr hk
  cases bs with
  | nil => rfl
  | cons c bs => simp [surrogate?, hlow]

theorem surrogate?_surrogate (n : Fin 0x800) (bs : List UInt8) :
    surrogate? 0xED (UInt8.ofNat (0xA0 + n / 64) :: UInt8.ofNat (0x80 + n % 64) :: bs) = some (.surrogate n) := by
  have hn := n.isLt
  have hsecond := toNat_byte (show 0xA0 + n.val / 64 < 256 by omega)
  have hthird := toNat_byte (show 0x80 + n.val % 64 < 256 by omega)
  have hrange : (0xED : UInt8) = 0xED ∧ 0xA0 ≤ UInt8.ofNat (0xA0 + n / 64) ∧ UInt8.ofNat (0xA0 + n / 64) ≤ 0xBF ∧
      0x80 ≤ UInt8.ofNat (0x80 + n % 64) ∧ UInt8.ofNat (0x80 + n % 64) ≤ 0xBF := by
    simp only [UInt8.le_iff_toNat_le, hsecond, hthird]
    simp
    omega
  rw [surrogate?, if_pos (by simpa [and_assoc] using hrange), hsecond, hthird, ← CodePoint.ofNat_surrogate n]
  congr 2
  omega

theorem frontWithSurrogates_utf8 {b : UInt8} {bs : List UInt8} (h : surrogate? b bs = none) :
    Encoding.utf8.frontWithSurrogates b bs = frontUtf8 b bs := by
  simp [Encoding.frontWithSurrogates, h, Encoding.front]

theorem frontWithSurrogates_char (c : Char) (rest : List UInt8) :
    ∃ b more, (CodePoint.char c).utf8 = b :: more ∧
      Encoding.utf8.frontWithSurrogates b (more ++ rest) = .point (.char c) more.length := by
  have hvalid := c.valid
  simp only [UInt32.isValidChar, Nat.isValidChar] at hvalid
  simp only [CodePoint.utf8, String.utf8EncodeChar, ← CodePoint.ofNat_char c]
  generalize c.val.toNat = n at *
  -- one case for each number of bytes
  split_ifs with h1 h2 h3 <;> refine ⟨_, _, rfl, ?_⟩
  · rw [frontWithSurrogates_utf8 (surrogate?_of_lead (by omega) (by omega) _)]
    simp only [frontUtf8, toNat_byte (show n < 256 by omega), List.length_nil]
    rw [if_pos (by omega)]
  · rw [frontWithSurrogates_utf8 (surrogate?_of_lead (by omega) (by omega) _)]
    simp only [frontUtf8, toNat_byte (show n / 64 % 32 + 192 < 256 by omega), List.cons_append]
    rw [if_neg (by omega), if_neg (by omega), if_pos (by omega), continuation_succ (by omega) (by omega) (by omega)]
    simp only [continuation, List.length_cons, List.length_nil]
    congr 2
    omega
  · have hnone : surrogate? (UInt8.ofNat (n / 4096 % 16 + 224)) (UInt8.ofNat (n / 64 % 64 + 128) ::
        UInt8.ofNat (n % 64 + 128) :: rest) = none := by
      by_cases hlead : n / 4096 % 16 + 224 = 0xED
      · exact surrogate?_of_second (by omega) _ _
      · exact surrogate?_of_lead (by omega) hlead _
    simp only [List.cons_append, List.nil_append]
    rw [frontWithSurrogates_utf8 hnone]
    simp only [frontUtf8, toNat_byte (show n / 4096 % 16 + 224 < 256 by omega)]
    rw [if_neg (by omega), if_neg (by omega), if_neg (by omega), if_pos (by omega),
      continuation_succ (by omega) (by split <;> omega) (by split <;> omega),
      continuation_succ (by omega) (by omega) (by omega)]
    simp only [continuation, List.length_cons, List.length_nil]
    congr 2
    omega
  · rw [frontWithSurrogates_utf8 (surrogate?_of_lead (by omega) (by omega) _)]
    simp only [frontUtf8, toNat_byte (show n / 262144 % 8 + 240 < 256 by omega), List.cons_append]
    rw [if_neg (by omega), if_neg (by omega), if_neg (by omega), if_neg (by omega), if_pos (by omega),
      continuation_succ (by omega) (by split <;> omega) (by split <;> omega),
      continuation_succ (by omega) (by omega) (by omega), continuation_succ (by omega) (by omega) (by omega)]
    simp only [continuation, List.length_cons, List.length_nil]
    congr 2
    omega

/-- The reader takes back one code point, with all of its bytes and no more. -/
theorem frontWithSurrogates_point (p : CodePoint) (rest : List UInt8) :
    ∃ b more, p.utf8 = b :: more ∧
      Encoding.utf8.frontWithSurrogates b (more ++ rest) = .point p more.length := by
  cases p with
  | char c => exact frontWithSurrogates_char c rest
  | surrogate n =>
    refine ⟨_, _, rfl, ?_⟩
    simp only [List.cons_append, List.nil_append]
    rw [Encoding.frontWithSurrogates, if_pos rfl, surrogate?_surrogate]
    rfl

theorem decodeFrom_utf8 (start : Nat) (t : Text) : decodeFrom .utf8 start t.utf8 = .ok t.points := by
  obtain ⟨ps⟩ := t
  unfold utf8
  simp only
  induction ps generalizing start with
  | nil => simp [decodeFrom]
  | cons p ps ih =>
    obtain ⟨b, more, hp, hfront⟩ := frontWithSurrogates_point p (ps.flatMap CodePoint.utf8)
    rw [List.flatMap_cons, hp, List.cons_append, decodeFrom, hfront]
    simp [ih, Except.map]

end Text
end DocumentStore
