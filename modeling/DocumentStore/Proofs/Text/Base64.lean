import DocumentStore.Text.Base64
import Mathlib

/-! Base 64 read back. The characters of six-bit values are told apart from each other and from what fills up the last
group, so a text of characters gives the bytes that it was written for. -/

namespace DocumentStore.Text

theorem base64Value?_base64Char : ∀ n < 64, base64Value? (base64Char n) = some n := by decide

theorem base64Char_ne_fill : ∀ n < 64, base64Char n ≠ '=' := by decide

theorem byte_ofNat {n : Nat} {b : UInt8} (h : n = b.toNat) : UInt8.ofNat n = b := by
  rw [h]
  exact UInt8.ofNat_toNat

theorem base64Decode?_base64 (bs : List UInt8) : base64Decode? (base64 bs) = some bs := by
  -- one case for each length of a group, which also decides by which rule the group is read
  induction bs using base64.induct with
  | case1 => rfl
  | case2 a =>
    have ha := a.toNat_lt
    rw [base64, base64Decode?, base64Value?_base64Char _ (by omega), base64Value?_base64Char _ (by omega)]
    simp only [Option.bind_eq_bind, Option.bind_some, Option.pure_def, Option.some.injEq, List.cons.injEq, and_true]
    exact byte_ofNat (by omega)
  | case3 a b =>
    have ha := a.toNat_lt
    have hb := b.toNat_lt
    rw [base64, base64Decode?, base64Value?_base64Char _ (by omega), base64Value?_base64Char _ (by omega),
      base64Value?_base64Char _ (by omega)]
    · simp only [Option.bind_eq_bind, Option.bind_some, Option.pure_def, Option.some.injEq, List.cons.injEq, and_true]
      exact ⟨byte_ofNat (by omega), byte_ofNat (by omega)⟩
    · exact base64Char_ne_fill _ (by omega)
  | case4 a b c rest ih =>
    have ha := a.toNat_lt
    have hb := b.toNat_lt
    have hc := c.toNat_lt
    have hlast : base64Char (c.toNat % 64) ≠ '=' := base64Char_ne_fill _ (by omega)
    rw [base64, base64Decode?, base64Value?_base64Char _ (by omega), base64Value?_base64Char _ (by omega),
      base64Value?_base64Char _ (by omega), base64Value?_base64Char _ (by omega), ih]
    · simp only [Option.bind_eq_bind, Option.bind_some, Option.pure_def, Option.some.injEq, List.cons.injEq, and_true]
      exact ⟨byte_ofNat (by omega), byte_ofNat (by omega), byte_ofNat (by omega)⟩
    · intro _ hfill
      exact absurd hfill hlast
    · intro hfill
      exact absurd hfill hlast

theorem base64Decode?_base64Text (s : String) : base64Decode? (base64Text s).toList = some s.toUTF8.toList := by
  rw [base64Text, String.toList_ofList]
  exact base64Decode?_base64 _

end DocumentStore.Text
