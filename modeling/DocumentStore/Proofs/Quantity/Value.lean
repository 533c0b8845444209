import DocumentStore.Proofs.Quantity
import Mathlib

/-! The numbers that quantities stand for. A finite binary64 number is a fraction, and quantities of any two sorts
compare as the numbers that they stand for. -/

namespace DocumentStore

theorem compare_congr {α β : Type} [LinearOrder α] [LinearOrder β] {a b : α} {x y : β} (hlt : a < b ↔ x < y)
    (hgt : b < a ↔ y < x) : compare a b = compare x y := by
  rcases lt_trichotomy a b with h | h | h
  · rw [compare_lt_iff_lt.2 h, compare_lt_iff_lt.2 (hlt.1 h)]
  · have hxy : x = y := by
      have hnlt := hlt.not.1 h.not_lt
      have hngt := hgt.not.1 h.not_gt
      exact le_antisymm (not_lt.1 hngt) (not_lt.1 hnlt)
    rw [compare_eq_iff_eq.2 h, compare_eq_iff_eq.2 hxy]
  · rw [compare_gt_iff_gt.2 h, compare_gt_iff_gt.2 (hgt.1 h)]

namespace Decimal.Binary

open Float.Model (UnpackedFloat Format)
open Float.Model.UnpackedFloat (Sign unpackExponent unpackMantissa unpackSign)

/-- The number that mantissa and exponent make up. -/
def magnitude (b : Binary) : ℚ := b.mantissa * 2 ^ b.exponent

/-- The number that the parts make up. -/
def value (b : Binary) : ℚ := if b.negative then -b.magnitude else b.magnitude

/-- The parts as they are taken off a number: the mantissa is as large as can be, unless the exponent is as small as can
be. -/
structure Normal (b : Binary) : Prop where
  mantissa : b.mantissa < 2 ^ 53
  exponent : -1074 ≤ b.exponent
  leading : b.exponent = -1074 ∨ 2 ^ 52 ≤ b.mantissa

/-- The parts with the sign of a zero told apart. -/
def unpacked (b : Binary) : UnpackedFloat :=
  let sign := if b.negative then .negative else .positive
  if h : 0 < b.mantissa then .finite sign b.mantissa b.exponent h else .zero sign

theorem compareInt_value (b : Binary) (i : Int) : b.compareInt i = compare b.value (i : ℚ) := by
  have hvalue : b.value = ((if b.negative then -b.mantissa else b.mantissa : Int) : ℚ) * 2 ^ b.exponent := by
    unfold value magnitude
    split_ifs <;> simp
  rw [hvalue]
  unfold compareInt
  simp only
  generalize (if b.negative then -b.mantissa else b.mantissa : Int) = m
  have hpow (j : Int) (k : Nat) : ((j * Int.pow 2 k : Int) : ℚ) = j * 2 ^ k := by
    have h : Int.pow 2 k = 2 ^ k := rfl
    rw [h, Int.cast_mul, Int.cast_pow, Int.cast_ofNat]
  split_ifs with he
  · obtain ⟨k, hk⟩ := Int.eq_ofNat_of_zero_le he
    have hcast : (m : ℚ) * 2 ^ b.exponent = ((m * Int.pow 2 k : Int) : ℚ) := by rw [hk, zpow_natCast, hpow]
    rw [hcast, hk]
    exact compare_congr Int.cast_lt.symm Int.cast_lt.symm
  · obtain ⟨k, hk⟩ := Int.eq_ofNat_of_zero_le (show 0 ≤ -b.exponent by omega)
    have hpos : (0 : ℚ) < 2 ^ k := by positivity
    have hcast : (m : ℚ) * 2 ^ b.exponent = m / 2 ^ k := by
      rw [show b.exponent = -(k : Int) by omega, zpow_neg, zpow_natCast]
      rfl
    rw [hcast, hk]
    refine compare_congr ?_ ?_
    · rw [div_lt_iff₀ hpos, ← hpow, Int.cast_lt, Int.toNat_natCast]
    · rw [lt_div_iff₀ hpos, ← hpow, Int.cast_lt, Int.toNat_natCast]

/-! ### Numbers taken apart -/

theorem magnitude_pos {b : Binary} (h : 0 < b.mantissa) : 0 < b.magnitude := by
  have hcast : (0 : ℚ) < b.mantissa := by exact_mod_cast h
  unfold magnitude
  positivity

/-- A larger exponent outweighs whatever the mantissas are. -/
theorem magnitude_lt {a b : Binary} (ha : a.Normal) (hb : b.Normal) (h : a.exponent < b.exponent) :
    a.magnitude < b.magnitude := by
  have hleading : 2 ^ 52 ≤ b.mantissa := hb.leading.resolve_left (by have := ha.exponent; omega)
  have hma : (a.mantissa : ℚ) < 2 ^ 53 := by exact_mod_cast ha.mantissa
  have hmb : (2 ^ 52 : ℚ) ≤ b.mantissa := by exact_mod_cast hleading
  unfold magnitude
  calc (a.mantissa : ℚ) * 2 ^ a.exponent < 2 ^ 53 * 2 ^ a.exponent := by gcongr
    _ = 2 ^ 52 * 2 ^ (a.exponent + 1) := by rw [zpow_add_one₀ two_ne_zero]; ring
    _ ≤ b.mantissa * 2 ^ b.exponent := by
      gcongr
      · norm_num
      · omega

theorem compare_magnitude {a b : Binary} (ha : a.Normal) (hb : b.Normal) :
    (compare a.exponent b.exponent).then (compare a.mantissa b.mantissa) = compare a.magnitude b.magnitude := by
  rcases lt_trichotomy a.exponent b.exponent with h | h | h
  · rw [compare_lt_iff_lt.2 h, compare_lt_iff_lt.2 (magnitude_lt ha hb h)]
    rfl
  · have hpos : (0 : ℚ) < 2 ^ b.exponent := by positivity
    rw [compare_eq_iff_eq.2 h]
    unfold magnitude
    rw [h]
    refine compare_congr ?_ ?_
    · rw [mul_lt_mul_iff_left₀ hpos, Nat.cast_lt]
    · rw [mul_lt_mul_iff_left₀ hpos, Nat.cast_lt]
  · rw [compare_gt_iff_gt.2 h, compare_gt_iff_gt.2 (magnitude_lt hb ha h)]
    rfl

theorem unpacked_compare {a b : Binary} (ha : a.Normal) (hb : b.Normal) :
    a.unpacked.compare b.unpacked = some (compare a.value b.value) := by
  have hmagnitude := compare_magnitude ha hb
  have hzero {c : Binary} (hc : ¬0 < c.mantissa) : c.magnitude = 0 := by
    rw [magnitude, Nat.eq_zero_of_not_pos hc, Nat.cast_zero, zero_mul]
  have hneg : compare (-a.magnitude) (-b.magnitude) = (compare a.magnitude b.magnitude).swap := by
    rw [← Std.OrientedCmp.eq_swap]
    exact compare_congr neg_lt_neg_iff neg_lt_neg_iff
  unfold unpacked value
  by_cases hma : 0 < a.mantissa <;> by_cases hmb : 0 < b.mantissa
  · have hpa := magnitude_pos hma
    have hpb := magnitude_pos hmb
    rw [dif_pos hma, dif_pos hmb]
    cases a.negative <;> cases b.negative
    · exact congrArg some hmagnitude
    · exact congrArg some (compare_gt_iff_gt.2 (by simp; linarith)).symm
    · exact congrArg some (compare_lt_iff_lt.2 (by simp; linarith)).symm
    · exact congrArg some ((congrArg Ordering.swap hmagnitude).trans hneg.symm)
  · have hpa := magnitude_pos hma
    rw [dif_pos hma, dif_neg hmb, hzero hmb, neg_zero, ite_self]
    cases a.negative
    · exact congrArg some (compare_gt_iff_gt.2 (by simpa using hpa)).symm
    · exact congrArg some (compare_lt_iff_lt.2 (by simpa using hpa)).symm
  · have hpb := magnitude_pos hmb
    rw [dif_neg hma, dif_pos hmb, hzero hma, neg_zero, ite_self]
    cases b.negative
    · exact congrArg some (compare_lt_iff_lt.2 (by simpa using hpb)).symm
    · exact congrArg some (compare_gt_iff_gt.2 (by simpa using hpb)).symm
  · rw [dif_neg hma, dif_neg hmb, hzero hma, hzero hmb, neg_zero, ite_self, ite_self]
    exact congrArg some (compare_eq_iff_eq.2 rfl).symm

/-! ### The bits of a number -/

section bits

variable (bits : BitVec Format.binary64.numBits)

theorem unpackExponent_toNat : (unpackExponent bits).toNat = bits.toNat / Nat.pow 2 52 % Nat.pow 2 11 := by
  unfold unpackExponent
  simp [BitVec.extractLsb_toNat, Nat.shiftRight_eq_div_pow]

theorem unpackMantissa_toNat : (unpackMantissa bits).toNat = bits.toNat % Nat.pow 2 52 := by
  unfold unpackMantissa
  simp [BitVec.extractLsb_toNat, Nat.shiftRight_eq_div_pow]

theorem unpackSign_toNat : (unpackSign bits).toNat = bits.toNat / Nat.pow 2 63 % 2 := by
  unfold unpackSign
  simp [BitVec.extractLsb_toNat, Nat.shiftRight_eq_div_pow]

theorem ofBitVec_unpackSign : Sign.ofBitVec (unpackSign bits) =
    if decide (bits.toNat / Nat.pow 2 63 % 2 = 1) then .negative else .positive := by
  have hsign := unpackSign_toNat bits
  unfold Sign.ofBitVec
  simp only [BitVec.toNat_eq, BitVec.toNat_ofNat, hsign, decide_eq_true_eq]
  have hbit : bits.toNat / Nat.pow 2 63 % 2 = 0 ∨ bits.toNat / Nat.pow 2 63 % 2 = 1 := by omega
  rcases hbit with h | h <;> simp [h]

theorem leading_append : (1#1 ++ unpackMantissa bits).toNat = Nat.pow 2 52 + bits.toNat % Nat.pow 2 52 := by
  rw [BitVec.toNat_append, ← Nat.shiftLeft_add_eq_or_of_lt (unpackMantissa bits).isLt, unpackMantissa_toNat]
  rfl

/-- The bits of a finite number are unpacked into its parts. -/
theorem unpack_of_ofFloat? {x : Float} {b : Binary} (h : ofFloat? x = some b) :
    x.toModel.unpack = b.unpacked ∧ b.Normal := by
  have hmantissa := unpackMantissa_toNat x.toModel.toBits.toBitVec
  have hexponent := unpackExponent_toNat x.toModel.toBits.toBitVec
  have hsign := ofBitVec_unpackSign x.toModel.toBits.toBitVec
  have hleading := leading_append x.toModel.toBits.toBitVec
  have hbits : x.toModel.toBits.toBitVec.toNat = x.toBits.toNat := rfl
  rw [hbits] at hmantissa hexponent hsign hleading
  have hlarge : x.toBits.toNat / Nat.pow 2 52 % Nat.pow 2 11 < 2048 := Nat.mod_lt _ (by decide)
  have hsmall : x.toBits.toNat % Nat.pow 2 52 < 2 ^ 52 := Nat.mod_lt _ (by decide)
  unfold ofFloat? at h
  simp only at h
  unfold Float.Model.unpack UnpackedFloat.unpack
  simp only [BitVec.toNat_eq, hmantissa, hexponent, hsign, hleading]
  generalize decide (x.toBits.toNat / Nat.pow 2 63 % 2 = 1) = negative at h ⊢
  generalize x.toBits.toNat / Nat.pow 2 52 % Nat.pow 2 11 = exponent at h hlarge ⊢
  have hspecials : (-1#11).toNat = 2047 := rfl
  have hzero : (0#11).toNat = 0 ∧ (0#52).toNat = 0 := ⟨rfl, rfl⟩
  have hbias : ((Format.binary64.exponentBias : Nat) : Int) + (52 : Nat) = 1075 := rfl
  simp only [hspecials, hzero, hbias]
  split_ifs at h with hspecial hsubnormal
  · cases h
    refine ⟨?_, ⟨hsmall.trans (by norm_num), le_refl _, .inl rfl⟩⟩
    rw [if_neg hspecial, if_pos hsubnormal, unpacked]
    simp only [hsubnormal]
    by_cases hm : x.toBits.toNat % Nat.pow 2 52 = 0
    · rw [dif_pos hm, dif_neg (by omega)]
    · rw [dif_neg hm, dif_pos (Nat.pos_of_ne_zero hm)]
      rfl
  · cases h
    have hnormal : Nat.pow 2 52 + x.toBits.toNat % Nat.pow 2 52 < 2 ^ 53 :=
      (Nat.add_lt_add_left hsmall _).trans_eq (by norm_num)
    refine ⟨?_, ⟨hnormal, by simp only; omega, .inr (Nat.le_add_right _ _)⟩⟩
    rw [if_neg hspecial, if_neg hsubnormal, unpacked, dif_pos (Nat.add_pos_left (by decide) _)]

end bits

/-! ### Comparison -/

section compare

variable {x y : Float} {b c : Binary}

theorem model_compare (hb : ofFloat? x = some b) (hc : ofFloat? y = some c) :
    x.toModel.unpack.compare y.toModel.unpack = some (compare b.value c.value) := by
  obtain ⟨hx, hnormal⟩ := unpack_of_ofFloat? hb
  obtain ⟨hy, hnormal'⟩ := unpack_of_ofFloat? hc
  rw [hx, hy]
  exact unpacked_compare hnormal hnormal'

theorem float_lt_iff (hb : ofFloat? x = some b) (hc : ofFloat? y = some c) : x < y ↔ b.value < c.value := by
  have hlt : x < y ↔ (x.toModel.unpack.compare y.toModel.unpack == some Ordering.lt) = true := by
    change decide (Float.Model.lt x.toModel y.toModel = true) = true ↔ _
    rw [decide_eq_true_eq]
    rfl
  rw [hlt, model_compare hb hc, beq_iff_eq, Option.some_inj, compare_lt_iff_lt]

theorem float_beq_iff (hb : ofFloat? x = some b) (hc : ofFloat? y = some c) : (x == y) = true ↔ b.value = c.value := by
  have heq : (x == y) = (x.toModel.unpack.compare y.toModel.unpack == some Ordering.eq) := rfl
  rw [heq, model_compare hb hc, beq_iff_eq, Option.some_inj, compare_eq_iff_eq]

end compare

end Decimal.Binary

namespace Quantity

open Decimal (Binary)

/-- The number that a quantity stands for, if it stands for one. -/
def value? : Quantity → Option ℚ
  | .flag b => some (if b then 1 else 0)
  | .int i => some i
  | .float x => (Binary.ofFloat? x).map Binary.value

theorem value?_whole {q : Quantity} {i : Int} (h : q.toInt? = some i) : q.value? = some (i : ℚ) := by
  cases q with
  | flag b =>
    cases b <;> cases h <;> rfl
  | int j =>
    cases h
    rfl
  | float x => cases h

theorem value?_binary {q : Quantity} {x : ℚ} (hq : q.toInt? = none) (h : q.value? = some x) :
    ∃ b, Binary.ofFloat? q.toFloat = some b ∧ b.value = x := by
  cases q with
  | flag b => cases hq
  | int j => cases hq
  | float f => exact Option.map_eq_some_iff.1 h

/-- Quantities compare as the numbers that they stand for. -/
theorem compare?_value {a b : Quantity} {x y : ℚ} (ha : a.value? = some x) (hb : b.value? = some y) :
    a.compare? b = some (compare x y) := by
  have hfloat {q : Quantity} {z : ℚ} (hq : q.toInt? = none) (hz : q.value? = some z) (i : Int) :
      compareFloat q.toFloat i = some (compare z (i : ℚ)) := by
    obtain ⟨c, hc, rfl⟩ := value?_binary hq hz
    unfold compareFloat
    rw [hc]
    exact congrArg some (c.compareInt_value i)
  unfold compare?
  cases hi : a.toInt? with
  | some i =>
    obtain rfl : (i : ℚ) = x := Option.some.inj ((value?_whole hi).symm.trans ha)
    cases hj : b.toInt? with
    | some j =>
      obtain rfl : (j : ℚ) = y := Option.some.inj ((value?_whole hj).symm.trans hb)
      exact congrArg some (compare_congr Int.cast_lt.symm Int.cast_lt.symm)
    | none =>
      simp only
      rw [hfloat hj hb]
      exact congrArg some Std.OrientedCmp.eq_swap.symm
  | none =>
    cases hj : b.toInt? with
    | some j =>
      obtain rfl : (j : ℚ) = y := Option.some.inj ((value?_whole hj).symm.trans hb)
      exact hfloat hi ha j
    | none =>
      obtain ⟨c, hc, rfl⟩ := value?_binary hi ha
      obtain ⟨d, hd, rfl⟩ := value?_binary hj hb
      simp only [Binary.float_lt_iff hc hd, Binary.float_lt_iff hd hc, Binary.float_beq_iff hc hd]
      rcases lt_trichotomy c.value d.value with h | h | h
      · rw [if_pos h, compare_lt_iff_lt.2 h]
      · rw [if_neg h.not_lt, if_neg h.not_gt, if_pos h, compare_eq_iff_eq.2 h]
      · rw [if_neg (not_lt_of_gt h), if_pos h, compare_gt_iff_gt.2 h]

/-- The quantity stands for a number. -/
def Finite (q : Quantity) : Prop := ∃ x, q.value? = some x

/-- The number that a quantity stands for; zero if it stands for none. -/
def number (q : Quantity) : ℚ := q.value?.getD 0

theorem Finite.value? {q : Quantity} (h : q.Finite) : q.value? = some q.number := by
  obtain ⟨x, hx⟩ := h
  rw [number, hx, Option.getD_some]

theorem value?_eq_some_iff {q : Quantity} {x : ℚ} : q.value? = some x ↔ q.Finite ∧ q.number = x := by
  constructor
  · intro h
    exact ⟨⟨x, h⟩, by rw [number, h, Option.getD_some]⟩
  · rintro ⟨hfinite, rfl⟩
    exact hfinite.value?

theorem Finite.isNaN {q : Quantity} (h : q.Finite) : q.isNaN = false := by
  cases q with
  | float x =>
    obtain ⟨_, hx⟩ := h
    obtain ⟨b, hb, -⟩ := Option.map_eq_some_iff.1 hx
    have hmodel : x.isNaN = x.toModel.unpack.isNaN := rfl
    rw [Quantity.isNaN, hmodel, (Binary.unpack_of_ofFloat? hb).1, Binary.unpacked]
    split_ifs <;> rfl
  | _ => rfl

instance (q : Quantity) : Decidable q.Finite := decidable_of_iff _ Option.isSome_iff_exists

section order

variable {a b : Quantity}

theorem le_number (ha : a.Finite) (hb : b.Finite) : a.le b = decide (a.number ≤ b.number) := by
  unfold le
  rw [compare?_value ha.value? hb.value?]
  simp [compare_lt_iff_lt, le_iff_lt_or_eq]

theorem lt_number (ha : a.Finite) (hb : b.Finite) : a.lt b = decide (a.number < b.number) := by
  unfold lt
  rw [compare?_value ha.value? hb.value?]
  simp [compare_lt_iff_lt]

theorem max_number (ha : a.Finite) (hb : b.Finite) :
    (a.max b).Finite ∧ (a.max b).number = Max.max a.number b.number := by
  unfold Quantity.max
  rw [lt_number ha hb]
  split_ifs with h
  · exact ⟨hb, (max_eq_right (of_decide_eq_true h).le).symm⟩
  · exact ⟨ha, (max_eq_left (not_lt.1 (by simpa using h))).symm⟩

end order

/-- An operation on two quantities that stand for numbers is computed, and stands for what the operation on the numbers
comes to. -/
structure Computes (operation : Quantity → Quantity → Option Quantity) (exact : ℚ → ℚ → ℚ) (a b c : Quantity) :
    Prop where
  left : a.Finite
  right : b.Finite
  computed : operation a b = some c
  finite : c.Finite
  number : c.number = exact a.number b.number

theorem computes_iff {operation : Quantity → Quantity → Option Quantity} {exact : ℚ → ℚ → ℚ} {a b c : Quantity} :
    Computes operation exact a b c ↔
      a.Finite ∧ b.Finite ∧ operation a b = some c ∧ c.value? = some (exact a.number b.number) := by
  rw [value?_eq_some_iff]
  constructor
  · intro h
    exact ⟨h.left, h.right, h.computed, h.finite, h.number⟩
  · rintro ⟨hleft, hright, hcomputed, hfinite, hnumber⟩
    exact ⟨hleft, hright, hcomputed, hfinite, hnumber⟩

/-- The sum of two quantities is exact. -/
abbrev AddsTo : Quantity → Quantity → Quantity → Prop := Computes add? HAdd.hAdd

/-- The difference of two quantities is exact. -/
abbrev SubtractsTo : Quantity → Quantity → Quantity → Prop := Computes sub? HSub.hSub

end Quantity

end DocumentStore
