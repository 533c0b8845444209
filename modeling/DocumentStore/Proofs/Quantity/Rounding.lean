import DocumentStore.Proofs.Quantity.Value

/-! Whole numbers as binary64 ones. One that is in range becomes the nearest binary64 number, and of two as near the one
with the even mantissa; the others become an infinity. A number is taken to a mantissa of 53 bits by dropping the others,
and those that are dropped tell only on which side of the half they are. -/

namespace DocumentStore

namespace Decimal.Binary

open Float.Model (UnpackedFloat Format totalExponent)
open Float.Model.UnpackedFloat

/-! ### Bits that are dropped -/

/-- The nearest whole number, and of two the even one. -/
structure RoundsTo (q : ℚ) (r : Nat) : Prop where
  near : |r - q| ≤ 1 / 2
  even : |r - q| = 1 / 2 → r % 2 = 0

theorem RoundsTo.le {q : ℚ} {r : Nat} (h : RoundsTo q r) (z : ℤ) :
    |(r : ℚ) - q| ≤ |z - q| ∧ ((z : ℚ) ≠ r → |z - q| = |(r : ℚ) - q| → r % 2 = 0) := by
  by_cases hz : z = r
  · subst hz
    exact ⟨by simp, fun hne => absurd (by simp) hne⟩
  · have hapart : (1 : ℚ) ≤ |(z : ℚ) - r| := by
      have : (1 : ℤ) ≤ |z - r| := Int.one_le_abs (sub_ne_zero.2 hz)
      exact_mod_cast this
    have hfar : 1 / 2 ≤ |(z : ℚ) - q| := by
      have htriangle := abs_sub_le (z : ℚ) q r
      have hnear := h.near
      rw [abs_sub_comm] at hnear
      linarith
    exact ⟨h.near.trans hfar, fun _ htie => h.even (le_antisymm h.near (htie ▸ hfar))⟩

/-- After a shift it is known whether the bits that were dropped are zero, and on which side of the half they are. -/
theorem shiftRight_exact (m k : Nat) : ExtendedMantissa.ofMantissaAndAccuracy m .exact >>> k =
    ⟨m / 2 ^ k, decide (2 ^ k ≤ 2 * (m % 2 ^ k)), decide (m % 2 ^ k ≠ 0 ∧ 2 * (m % 2 ^ k) ≠ 2 ^ k)⟩ := by
  change k.repeat ExtendedMantissa.shiftRightOne _ = _
  induction k with
  | zero => simp [Nat.repeat, ExtendedMantissa.ofMantissaAndAccuracy, Nat.mod_one]
  | succ k ih =>
    have hrest : m % 2 ^ k < 2 ^ k := Nat.mod_lt _ (by positivity)
    have hbit : m / 2 ^ k % 2 = 0 ∨ m / 2 ^ k % 2 = 1 := by omega
    rw [Nat.repeat, ih, ExtendedMantissa.shiftRightOne, Nat.mod_pow_succ, Nat.pow_succ, ← Nat.div_div_eq_div_mul]
    generalize m % 2 ^ k = rest at hrest ⊢
    generalize m / 2 ^ k % 2 = bit at hbit ⊢
    generalize 2 ^ k = unit at hrest ⊢
    congr 1
    · rw [Bool.eq_iff_iff]
      rcases hbit with rfl | rfl <;> simp <;> omega
    · rw [Bool.eq_iff_iff]
      rcases hbit with rfl | rfl <;> simp <;> omega

theorem roundsTo_down (whole : Nat) {part : ℚ} (hpart : 0 ≤ part) (hhalf : part < 1 / 2) :
    RoundsTo (whole + part) whole := by
  have hdistance : |(whole : ℚ) - (whole + part)| = part := by rw [sub_add_cancel_left, abs_neg, abs_of_nonneg hpart]
  exact ⟨hdistance.trans_le hhalf.le, fun htie => absurd (hdistance.symm.trans htie) hhalf.ne⟩

theorem roundsTo_up (whole : Nat) {part : ℚ} (hhalf : 1 / 2 < part) (hpart : part < 1) :
    RoundsTo (whole + part) (whole + 1 : Nat) := by
  have hdistance : |((whole + 1 : Nat) : ℚ) - (whole + part)| = 1 - part := by
    rw [Nat.cast_add_one, add_sub_add_left_eq_sub, abs_of_nonneg (by linarith)]
  constructor
  · rw [hdistance]
    linarith
  · rw [hdistance]
    intro htie
    linarith

theorem roundsTo_even (whole : Nat) : RoundsTo (whole + 1 / 2) (whole + whole % 2 : Nat) := by
  refine ⟨?_, fun _ => by omega⟩
  rw [Nat.cast_add, add_sub_add_left_eq_sub]
  rcases Nat.mod_two_eq_zero_or_one whole with h | h <;> rw [h] <;> norm_num [abs_le]

theorem roundsTo_shiftRight (m k : Nat) :
    RoundsTo (m / 2 ^ k) (ExtendedMantissa.ofMantissaAndAccuracy m .exact >>> k).roundedMantissa := by
  have hunit : (0 : ℚ) < 2 ^ k := by positivity
  have hsplit : (m : ℚ) / 2 ^ k = (m / 2 ^ k : Nat) + (m % 2 ^ k : Nat) / 2 ^ k := by
    have hm : (m : ℚ) = 2 ^ k * (m / 2 ^ k : Nat) + (m % 2 ^ k : Nat) := by
      exact_mod_cast (Nat.div_add_mod m (2 ^ k)).symm
    field_simp
    linarith
  have hpart : ((m % 2 ^ k : Nat) : ℚ) / 2 ^ k < 1 := by
    rw [div_lt_one hunit]
    exact_mod_cast Nat.mod_lt m (by positivity)
  rw [shiftRight_exact, hsplit]
  unfold ExtendedMantissa.roundedMantissa
  generalize m / 2 ^ k = whole
  generalize m % 2 ^ k = rest at hpart ⊢
  rcases Nat.eq_zero_or_pos rest with rfl | hsome
  · simpa [ExtendedMantissa.accuracy, Accuracy.roundToNearestEven] using roundsTo_down whole le_rfl one_half_pos
  have hne : rest ≠ 0 := hsome.ne'
  rcases lt_trichotomy (2 * rest) (2 ^ k) with hless | heq | hmore
  · have hhalf : (rest : ℚ) / 2 ^ k < 1 / 2 := by
      have : (2 * rest : ℚ) < 2 ^ k := by exact_mod_cast hless
      rw [div_lt_iff₀ hunit]
      linarith
    simpa [ExtendedMantissa.accuracy, Accuracy.roundToNearestEven, hless.not_ge, hne, hless.ne] using
      roundsTo_down whole (by positivity) hhalf
  · have hhalf : (rest : ℚ) / 2 ^ k = 1 / 2 := by
      have : (2 * rest : ℚ) = 2 ^ k := by exact_mod_cast heq
      rw [div_eq_iff hunit.ne']
      linarith
    rw [hhalf]
    simpa [ExtendedMantissa.accuracy, Accuracy.roundToNearestEven, heq] using roundsTo_even whole
  · have hhalf : 1 / 2 < (rest : ℚ) / 2 ^ k := by
      have : (2 ^ k : ℚ) < 2 * rest := by exact_mod_cast hmore
      rw [lt_div_iff₀ hunit]
      linarith
    simpa [ExtendedMantissa.accuracy, Accuracy.roundToNearestEven, hmore.le, hne, hmore.ne'] using
      roundsTo_up whole hhalf hpart

/-! ### The nearest number -/

/-- Of all numbers with normal parts none is nearer to `q`, and of two as near it is the one with the even mantissa. -/
structure Nearest (q : ℚ) (b : Binary) : Prop where
  near (c : Binary) (hc : c.Normal) : |b.value - q| ≤ |c.value - q|
  even (c : Binary) (hc : c.Normal) (hne : c.value ≠ b.value) (htie : |c.value - q| = |b.value - q|) : b.mantissa % 2 = 0

theorem magnitude_nonneg (b : Binary) : 0 ≤ b.magnitude := by
  unfold magnitude
  positivity

/-- What is rounded to the multiples of a power of two that it exceeds so much is rounded to the numbers with normal
parts. -/
theorem nearest_of_rounds {q : ℚ} {t : ℤ} {r : Nat} (hlow : 2 ^ 52 * 2 ^ t ≤ q) (hr : RoundsTo (q / 2 ^ t) r)
    {c : Binary} (hc : c.Normal) : |(r : ℚ) * 2 ^ t - q| ≤ |c.value - q| ∧
      (c.value ≠ r * 2 ^ t → |c.value - q| = |(r : ℚ) * 2 ^ t - q| → r % 2 = 0) := by
  have hunit : (0 : ℚ) < 2 ^ t := by positivity
  have hdistance (z : ℚ) : |z * 2 ^ t - q| = |z - q / 2 ^ t| * 2 ^ t := by
    rw [← abs_of_pos hunit, ← abs_mul, abs_of_pos hunit, sub_mul, div_mul_cancel₀ _ hunit.ne']
  rcases lt_or_ge c.exponent t with hless | hmore
  · -- so small a number lies below the power of two that `q` exceeds
    have hbelow : c.value < 2 ^ 52 * 2 ^ t := by
      have hvalue : c.value ≤ c.magnitude := by
        have := c.magnitude_nonneg
        unfold value
        split_ifs <;> linarith
      have hmantissa : (c.mantissa : ℚ) < 2 ^ 53 := by exact_mod_cast hc.mantissa
      calc c.value ≤ c.mantissa * 2 ^ c.exponent := hvalue
        _ < 2 ^ 53 * 2 ^ c.exponent := by gcongr
        _ = 2 ^ 52 * 2 ^ (c.exponent + 1) := by rw [zpow_add_one₀ two_ne_zero]; ring
        _ ≤ 2 ^ 52 * 2 ^ t := by
          gcongr
          · norm_num
          · omega
    have hbest := (hr.le ((2 ^ 52 : ℕ) : ℤ)).1
    have hnearer : |((2 ^ 52 : ℕ) : ℚ) * 2 ^ t - q| < |c.value - q| := by
      push_cast
      rw [abs_of_nonpos (by linarith), abs_of_nonpos (by linarith)]
      linarith
    have hrounded : |(r : ℚ) * 2 ^ t - q| ≤ |((2 ^ 52 : ℕ) : ℚ) * 2 ^ t - q| := by
      rw [hdistance, hdistance]
      exact mul_le_mul_of_nonneg_right hbest hunit.le
    exact ⟨(hrounded.trans_lt hnearer).le, fun _ htie => absurd htie (hrounded.trans_lt hnearer).ne'⟩
  · obtain ⟨k, hk⟩ := Int.eq_ofNat_of_zero_le (sub_nonneg.2 hmore)
    obtain ⟨z, hz⟩ : ∃ z : ℤ, c.value = z * 2 ^ t := by
      refine ⟨(if c.negative then -(c.mantissa : ℤ) else c.mantissa) * 2 ^ k, ?_⟩
      unfold value magnitude
      rw [show c.exponent = k + t by omega, zpow_add₀ two_ne_zero, zpow_natCast]
      split_ifs <;> push_cast <;> ring
    obtain ⟨hbest, heven⟩ := hr.le z
    rw [hz, hdistance, hdistance]
    refine ⟨mul_le_mul_of_nonneg_right hbest hunit.le, fun hne htie => heven ?_ ?_⟩
    · rintro heq
      exact hne (by rw [heq])
    · exact mul_right_cancel₀ hunit.ne' htie

/-! ### Rounding in the machine's format -/

theorem targetExponent_eq (m : Nat) (e : ℤ) :
    Format.binary64.targetExponent (totalExponent m e) = max (m.log2 + e - 52) (-1074) := by
  have hbits : (Format.binary64.mantissaBits : ℤ) = 53 ∧ Format.binary64.minExponent = -1074 := ⟨rfl, rfl⟩
  rw [Format.targetExponent, totalExponent, hbits.1, hbits.2]
  omega

theorem shiftToTargetExponent_eq {m k : Nat} {e : ℤ} (hlog : m.log2 = 52 + k) (hexp : -1074 ≤ e + k) :
    shiftToTargetExponent Format.binary64 m e .exact =
      (ExtendedMantissa.ofMantissaAndAccuracy m .exact >>> k, e + k) := by
  have hshift : (max ((m.log2 : ℤ) + e - 52) (-1074) - e).toNat = k := by omega
  rw [shiftToTargetExponent, targetExponent_eq, shiftToExponent, hshift]

section rounded

variable {m k : Nat} (hlog : m.log2 = 52 + k)

include hlog

theorem log2_bounds : (2 ^ 52 : ℚ) ≤ m / 2 ^ k ∧ (m : ℚ) / 2 ^ k < 2 ^ 53 := by
  have hunit : (0 : ℚ) < 2 ^ k := by positivity
  have hm : m ≠ 0 := by
    rintro rfl
    simp at hlog
    omega
  have hleast : 2 ^ 52 * 2 ^ k ≤ m := by
    rw [← Nat.pow_add, ← hlog]
    exact Nat.log2_self_le hm
  have hmost : m < 2 ^ 53 * 2 ^ k := by
    have := Nat.lt_log2_self (n := m)
    rwa [hlog, show 52 + k + 1 = 53 + k by omega, Nat.pow_add] at this
  rw [le_div_iff₀ hunit, div_lt_iff₀ hunit]
  exact ⟨by exact_mod_cast hleast, by exact_mod_cast hmost⟩

theorem rounded_bounds {r : Nat} (hr : RoundsTo (m / 2 ^ k) r) : 2 ^ 52 ≤ r ∧ r ≤ 2 ^ 53 := by
  obtain ⟨hleast, hmost⟩ := log2_bounds hlog
  obtain ⟨hnear, hnear'⟩ := abs_le.1 hr.near
  have hlow : ((2 ^ 52 : ℕ) : ℚ) < (r + 1 : ℕ) := by
    push_cast
    linarith
  have hhigh : (r : ℚ) < (2 ^ 53 + 1 : ℕ) := by
    push_cast
    linarith
  exact ⟨Nat.lt_succ_iff.1 (Nat.cast_lt.1 hlow), Nat.lt_succ_iff.1 (Nat.cast_lt.1 hhigh)⟩

theorem nearest_of_rounded {e : ℤ} {r : Nat} {b : Binary} (hr : RoundsTo (m / 2 ^ k) r)
    (hvalue : b.value = r * 2 ^ (e + k)) (heven : r % 2 = 0 → b.mantissa % 2 = 0) : Nearest (m * 2 ^ e) b := by
  have hquotient : (m : ℚ) * 2 ^ e / 2 ^ (e + k) = m / 2 ^ k := by
    rw [zpow_add₀ two_ne_zero, zpow_natCast]
    field_simp
  have hlow : (2 : ℚ) ^ 52 * 2 ^ (e + k) ≤ m * 2 ^ e := by
    rw [← le_div_iff₀ (by positivity), hquotient]
    exact (log2_bounds hlog).1
  rw [← hquotient] at hr
  constructor
  · intro c hc
    rw [hvalue]
    exact (nearest_of_rounds hlow hr hc).1
  · intro c hc
    rw [hvalue]
    exact fun hne htie => heven ((nearest_of_rounds hlow hr hc).2 hne htie)

end rounded

/-- A number that is not too small and has bits enough is rounded to the nearest one. -/
theorem roundWithAccuracy_nearest {m : Nat} {e : ℤ} (hlog : 52 ≤ m.log2) (hexp : 52 - 1074 ≤ e + m.log2) :
    ∃ b : Binary, b.negative = false ∧ b.Normal ∧ 2 ^ 52 ≤ b.mantissa ∧ Nearest (m * 2 ^ e) b ∧
      roundWithAccuracy Format.binary64 .positive m e .exact = b.unpacked := by
  obtain ⟨k, hk⟩ := Nat.exists_eq_add_of_le hlog
  have hmin : -1074 ≤ e + k := by omega
  have hr := roundsTo_shiftRight m k
  rw [roundWithAccuracy, shiftToTargetExponent_eq hk hmin]
  simp only
  generalize (ExtendedMantissa.ofMantissaAndAccuracy m .exact >>> k).roundedMantissa = r at hr ⊢
  obtain ⟨hleast, hmost⟩ := rounded_bounds hk hr
  rcases hmost.lt_or_eq with hless | rfl
  · have hrlog : r.log2 = 52 + 0 := (Nat.log2_eq_iff (by omega)).2 ⟨hleast, hless⟩
    refine ⟨⟨false, r, e + k⟩, rfl, ⟨hless, hmin, .inr hleast⟩, hleast, nearest_of_rounded hk hr rfl id, ?_⟩
    rw [shiftToTargetExponent_eq hrlog (by simpa using hmin), shiftRight_exact]
    simp only [pow_zero, Nat.div_one, Nat.cast_zero, add_zero, unpacked]
    rw [dif_neg (by omega), dif_pos (by omega)]
    rfl
  · -- the mantissa has got one bit too many, and the last of them is zero
    have hvalue : (⟨false, 2 ^ 52, e + k + 1⟩ : Binary).value = (2 ^ 53 : ℕ) * 2 ^ (e + k) := by
      rw [value, magnitude, zpow_add_one₀ two_ne_zero]
      push_cast
      ring
    refine ⟨⟨false, 2 ^ 52, e + k + 1⟩, rfl, ⟨by norm_num, by simp only; omega, .inr le_rfl⟩, le_rfl,
      nearest_of_rounded hk hr hvalue fun _ => by norm_num, ?_⟩
    rw [shiftToTargetExponent_eq (k := 1) Nat.log2_two_pow (by push_cast; omega), shiftRight_exact]
    simp only [unpacked]
    rw [dif_neg (by norm_num), dif_pos (by norm_num)]
    rfl

/-! ### Numbers in the machine's format -/

theorem log2_of_normal {b : Binary} (hb : b.Normal) (hleading : 2 ^ 52 ≤ b.mantissa) : b.mantissa.log2 = 52 :=
  (Nat.log2_eq_iff (by omega)).2 ⟨hleading, hb.mantissa⟩

/-- The number whose parts these are. -/
def packed (b : Binary) : Float := .ofModel (.pack b.unpacked)

theorem unpackSign_packComponents {format : Format} (sign : Sign) (exponent : BitVec format.exponentBits)
    (mantissa : BitVec format.mantissaBitsWithoutImplicit) :
    unpackSign (packComponents format sign exponent mantissa) = sign.toBitVec := by
  ext i hi
  obtain rfl : i = 0 := by omega
  simp [unpackSign, packComponents, BitVec.getLsbD_append, BitVec.getElem_append]

/-- The parts of a number in range can be taken off it again. -/
theorem ofFloat?_packed {b : Binary} (hb : b.Normal) (hleading : 2 ^ 52 ≤ b.mantissa) (hrange : b.exponent ≤ 971) :
    ofFloat? b.packed = some b := by
  have hmin := hb.exponent
  have hmantissa := hb.mantissa
  obtain ⟨biased, hbiased⟩ := Int.eq_ofNat_of_zero_le (show 0 ≤ b.exponent + 1075 by omega)
  have hbits : b.packed.toBits.toNat = (packComponents Format.binary64 (if b.negative then .negative else .positive)
      (BitVec.ofNat 11 biased) (BitVec.ofNat 52 b.mantissa)).toNat := by
    have hsum : (b.exponent + Format.binary64.exponentBias + Format.binary64.mantissaBitsWithoutImplicit).toNat =
        biased := by
      have hbias : (Format.binary64.exponentBias : ℤ) = 1023 := rfl
      rw [hbias]
      norm_num
      omega
    have hpack : b.packed.toBits.toNat = (UnpackedFloat.pack Format.binary64 b.unpacked).toNat := rfl
    rw [hpack, unpacked, dif_pos (by omega), UnpackedFloat.pack]
    simp only [hsum, log2_of_normal hb hleading]
    rw [if_neg (by norm_num; omega), if_pos (show 52 + 1 = Format.binary64.mantissaBits from rfl)]
  unfold ofFloat?
  simp only
  rw [hbits, ← unpackExponent_toNat, ← unpackMantissa_toNat, ← unpackSign_toNat, unpackExponent_packComponents,
    unpackMantissa_packComponents, unpackSign_packComponents, BitVec.toNat_ofNat, BitVec.toNat_ofNat]
  rw [Nat.mod_eq_of_lt (show biased < 2 ^ 11 by omega), if_neg (by omega), if_neg (by omega)]
  have hfraction : Nat.pow 2 52 + b.mantissa % 2 ^ 52 = b.mantissa := by
    have hpow : Nat.pow 2 52 = 2 ^ 52 := rfl
    rw [hpow]
    omega
  have hsign : decide ((if b.negative then Sign.negative else Sign.positive).toBitVec.toNat = 1) = b.negative := by
    cases b.negative <;> rfl
  rw [hfraction, hsign, show (biased : ℤ) - 1075 = b.exponent by omega]

/-- A number beyond the range is an infinity. -/
theorem packed_infinity {b : Binary} (hleading : 2 ^ 52 ≤ b.mantissa) (hrange : 972 ≤ b.exponent) :
    b.packed = .ofModel (.pack (.infinity (if b.negative then .negative else .positive))) := by
  have hpack : UnpackedFloat.pack Format.binary64 b.unpacked =
      UnpackedFloat.pack Format.binary64 (.infinity (if b.negative then .negative else .positive)) := by
    have hbias : (Format.binary64.exponentBias : ℤ) = 1023 := rfl
    rw [unpacked, dif_pos (by omega), UnpackedFloat.pack, UnpackedFloat.pack]
    simp only [hbias]
    rw [if_pos (by norm_num; omega)]
  unfold packed Float.Model.pack
  simp only [hpack]

theorem unpack_packed {b : Binary} (hb : b.Normal) (hleading : 2 ^ 52 ≤ b.mantissa) (hrange : b.exponent ≤ 971) :
    b.packed.toModel.unpack = b.unpacked := (unpack_of_ofFloat? (ofFloat?_packed hb hleading hrange)).1

/-! ### Whole numbers -/

/-- A number that has normal parts is nearest to itself. -/
theorem Nearest.exact {q : ℚ} {b c : Binary} (h : Nearest q b) (hc : c.Normal) (hvalue : c.value = q) : b.value = q := by
  have hnear := h.near c hc
  rw [hvalue, sub_self, abs_zero] at hnear
  exact sub_eq_zero.1 (abs_nonpos_iff.1 hnear)

theorem log2_mul_two_pow {n : Nat} (hn : n ≠ 0) (k : Nat) : (n * 2 ^ k).log2 = n.log2 + k := by
  rw [Nat.log2_eq_iff (by positivity), Nat.pow_add, Nat.add_right_comm, Nat.pow_add]
  exact ⟨Nat.mul_le_mul_right _ (Nat.log2_self_le hn), Nat.mul_lt_mul_of_pos_right Nat.lt_log2_self (by positivity)⟩

/-- A whole number of at most 53 bits is a binary64 number. -/
theorem toFloat_exact {n : Nat} (hn : 0 < n) (hsmall : n < 2 ^ 53) :
    ∃ b : Binary, b.negative = false ∧ b.Normal ∧ 2 ^ 52 ≤ b.mantissa ∧ b.value = n ∧ n.toUInt64.toFloat = b.packed := by
  have hlog : n.log2 ≤ 52 := by
    have := (Nat.log2_lt hn.ne').2 hsmall
    omega
  obtain ⟨k, hk⟩ := Nat.exists_eq_add_of_le hlog
  have hmantissa : (n * 2 ^ k).log2 = 52 := by rw [log2_mul_two_pow hn.ne', ← hk]
  have hrange := (Nat.log2_eq_iff (by positivity)).1 hmantissa
  have hvalue : ((n * 2 ^ k : Nat) : ℚ) * 2 ^ (-k : ℤ) = n := by
    rw [zpow_neg, zpow_natCast]
    push_cast
    field_simp
  obtain ⟨b, hpositive, hb, hleading, hnearest, hround⟩ :=
    roundWithAccuracy_nearest (m := n * 2 ^ k) (e := -k) hmantissa.ge (by omega)
  rw [hvalue] at hnearest
  refine ⟨b, hpositive, hb, hleading, ?_, ?_⟩
  · exact hnearest.exact (c := ⟨false, n * 2 ^ k, -k⟩) ⟨hrange.2, by simp only; omega, .inr hrange.1⟩ hvalue
  · have hword : n.toUInt64.toNat = n := Nat.mod_eq_of_lt (hsmall.trans (by norm_num))
    have hcompare : compare (n : ℤ) 0 = .gt := compare_gt_iff_gt.2 (by exact_mod_cast hn)
    have hshift : (0 - max ((n.log2 : ℤ) + 0 - 52) (-1074)).toNat = k := by omega
    have hofNat : UnpackedFloat.ofUInt64 Format.binary64 n.toUInt64 = b.unpacked := by
      rw [UnpackedFloat.ofUInt64, hword, UnpackedFloat.ofNat, UnpackedFloat.ofInt, UnpackedFloat.normalize, hcompare]
      simp only [Int.toNat_natCast, UnpackedFloat.round, targetExponent_eq, decreaseExponent]
      rw [hshift, Nat.shiftLeft_eq, zero_sub, hround]
    unfold UInt64.toFloat Float.Model.ofUInt64 packed
    rw [hofNat]

theorem exponent_le_of_value_lt {b : Binary} (hpositive : b.negative = false) (hleading : 2 ^ 52 ≤ b.mantissa) {j : ℤ}
    (h : b.value < 2 ^ (52 + j)) : b.exponent < j := by
  have hmantissa : (2 ^ (52 : ℤ) : ℚ) ≤ b.mantissa := by exact_mod_cast hleading
  have hvalue : (2 : ℚ) ^ (52 + b.exponent) ≤ b.value := by
    rw [value, hpositive, magnitude, zpow_add₀ two_ne_zero]
    exact mul_le_mul_of_nonneg_right hmantissa (by positivity)
  have := (zpow_lt_zpow_iff_right₀ one_lt_two).1 (hvalue.trans_lt h)
  omega

/-- A whole number is written with bits enough, and rounded. -/
theorem ofScientific_whole {n : Nat} (hn : 0 < n) : ∃ (m : Nat) (e : ℤ), 52 ≤ m.log2 ∧ (m : ℚ) * 2 ^ e = n ∧
    Float.ofScientific n false 0 = .ofModel (.pack (roundWithAccuracy Format.binary64 .positive m e .exact)) := by
  unfold Float.ofScientific
  by_cases hsmall : n < 2 ^ 53
  · obtain ⟨b, hpositive, hb, hleading, hvalue, hfloat⟩ := toFloat_exact hn hsmall
    have hrange : b.exponent < 1 := by
      refine exponent_le_of_value_lt hpositive hleading ?_
      rw [hvalue]
      exact_mod_cast hsmall
    have hone : (getElem Float.exactlyRepresentablePowersOfTen 0 (by decide)).toModel.unpack =
        .finite .positive (2 ^ 52) (-52) (by norm_num) := rfl
    have hunpacked : b.unpacked = .finite .positive b.mantissa b.exponent (by omega) := by
      rw [unpacked, dif_pos (by omega), hpositive]
      rfl
    refine ⟨b.mantissa * 2 ^ 52, b.exponent + -52, ?_, ?_, ?_⟩
    · rw [log2_mul_two_pow (by omega)]
      omega
    · rw [← hvalue, value, hpositive, magnitude, zpow_add₀ two_ne_zero, zpow_neg]
      push_cast
      field_simp
    · rw [dif_pos ⟨hsmall, by norm_num⟩]
      simp only [Bool.false_eq_true, if_false]
      change Float.ofModel (Float.Model.mul _ _) = _
      rw [Float.Model.mul, hone, hfloat, unpack_packed hb hleading (by omega), hunpacked]
      rfl
  · refine ⟨n <<< 53 * 10 ^ 0, -53 + 0, ?_, ?_, ?_⟩
    · rw [Nat.shiftLeft_eq, pow_zero, mul_one, log2_mul_two_pow hn.ne']
      omega
    · rw [Nat.shiftLeft_eq, add_zero, zpow_neg]
      push_cast
      field_simp
    · rw [dif_neg (fun h => hsmall h.1)]
      simp only [Bool.false_eq_true, if_false]
      unfold Float.Model.ofScientific UnpackedFloat.ofScientific
      rw [dif_neg hn.ne', if_neg (by norm_num), if_neg (by norm_num), if_pos (by norm_num)]
      rfl

theorem ofScientific_nearest {n : Nat} (hn : 0 < n) : ∃ b : Binary, b.negative = false ∧ b.Normal ∧
    2 ^ 52 ≤ b.mantissa ∧ Nearest n b ∧ Float.ofScientific n false 0 = b.packed := by
  obtain ⟨m, e, hlog, hvalue, hfloat⟩ := ofScientific_whole hn
  have hexp : 0 < e + m.log2 + 1 := by
    have hmost : (m : ℚ) < 2 ^ ((m.log2 + 1 : ℕ) : ℤ) := by
      rw [zpow_natCast]
      exact_mod_cast Nat.lt_log2_self
    have hone : (1 : ℚ) ≤ n := by exact_mod_cast hn
    have hbelow : (2 : ℚ) ^ (0 : ℤ) < 2 ^ (((m.log2 + 1 : ℕ) : ℤ) + e) := by
      calc (2 : ℚ) ^ (0 : ℤ) ≤ m * 2 ^ e := by rwa [zpow_zero, hvalue]
        _ < 2 ^ ((m.log2 + 1 : ℕ) : ℤ) * 2 ^ e := by gcongr
        _ = _ := (zpow_add₀ two_ne_zero ..).symm
    have := (zpow_lt_zpow_iff_right₀ one_lt_two).1 hbelow
    push_cast at this
    omega
  obtain ⟨b, hpositive, hb, hleading, hnearest, hround⟩ := roundWithAccuracy_nearest (e := e) hlog (by omega)
  rw [hvalue] at hnearest
  exact ⟨b, hpositive, hb, hleading, hnearest, by rw [hfloat, hround]; rfl⟩

/-! ### The range -/

/-- The first whole number beyond the range: it is halfway between the largest binary64 number and the power of two that
would come next, and would be rounded to that. -/
def beyond : Nat := 2 ^ 1024 - 2 ^ 970

/-- The largest binary64 number. -/
def largest : Binary := ⟨false, 2 ^ 53 - 1, 971⟩

/-- What would come next. -/
def next : Binary := ⟨false, 2 ^ 52, 972⟩

theorem largest_normal : largest.Normal := ⟨by decide, by decide, .inr (by decide)⟩

theorem next_normal : next.Normal := ⟨by decide, by decide, .inr (by decide)⟩

/-- The bounds of the range, counted in halves of the last place. -/
theorem bounds_scaled : ∃ unit : ℚ, 0 < unit ∧ largest.value = (2 ^ 54 - 2) * unit ∧ next.value = 2 ^ 54 * unit ∧
    (beyond : ℚ) = (2 ^ 54 - 1) * unit := by
  have hbeyond (k : Nat) : ((2 ^ (54 + k) - 2 ^ k : ℕ) : ℚ) = (2 ^ 54 - 1) * 2 ^ k := by
    rw [Nat.cast_sub (Nat.pow_le_pow_right two_pos (by omega)), Nat.pow_add]
    push_cast
    ring
  have hvalue (m k : Nat) : (⟨false, m, k⟩ : Binary).value = m * 2 ^ k := by
    rw [value, magnitude, zpow_natCast]
    rfl
  refine ⟨2 ^ 970, pow_pos two_pos _, (hvalue (2 ^ 53 - 1) (970 + 1)).trans ?_, (hvalue (2 ^ 52) (970 + 2)).trans ?_,
    ?_⟩
  · rw [pow_add _ 970 1]
    generalize (2 : ℚ) ^ 970 = unit
    push_cast
    ring
  · rw [pow_add _ 970 2]
    generalize (2 : ℚ) ^ 970 = unit
    push_cast
    ring
  · rw [beyond, show 1024 = 54 + 970 from rfl]
    exact hbeyond 970

section range

variable {b : Binary} (hpositive : b.negative = false)

include hpositive

theorem value_of_positive : b.value = b.mantissa * 2 ^ b.exponent := by
  rw [value, hpositive, magnitude]
  rfl

theorem value_le_largest (hb : b.Normal) (hrange : b.exponent ≤ 971) : b.value ≤ largest.value := by
  have hmantissa : (b.mantissa : ℚ) ≤ largest.mantissa := Nat.cast_le.2 (Nat.le_sub_one_of_lt hb.mantissa)
  rw [value_of_positive hpositive, value_of_positive (b := largest) rfl]
  exact mul_le_mul hmantissa (zpow_le_zpow_right₀ one_le_two hrange) (zpow_nonneg zero_le_two _) (Nat.cast_nonneg _)

theorem mantissa_of_value_eq_largest (hb : b.Normal) (hrange : b.exponent ≤ 971) (h : b.value = largest.value) :
    b.mantissa = largest.mantissa := by
  refine le_antisymm (Nat.le_sub_one_of_lt hb.mantissa) (Nat.cast_le (α := ℚ).1 ?_)
  rw [value_of_positive hpositive, value_of_positive (b := largest) rfl] at h
  have hscale : (2 : ℚ) ^ b.exponent ≤ 2 ^ largest.exponent := zpow_le_zpow_right₀ one_le_two hrange
  refine le_of_mul_le_mul_right ?_ (zpow_pos two_pos largest.exponent)
  rw [← h]
  exact mul_le_mul_of_nonneg_left hscale (Nat.cast_nonneg _)

theorem next_le_value (hleading : 2 ^ 52 ≤ b.mantissa) (hrange : 972 ≤ b.exponent) : next.value ≤ b.value := by
  have hmantissa : (next.mantissa : ℚ) ≤ b.mantissa := Nat.cast_le.2 hleading
  rw [value_of_positive hpositive, value_of_positive (b := next) rfl]
  exact mul_le_mul hmantissa (zpow_le_zpow_right₀ one_le_two hrange) (zpow_nonneg zero_le_two _) (Nat.cast_nonneg _)

/-- The nearest number is in range just if the whole number is. -/
theorem Nearest.range_iff {n : Nat} (h : Nearest n b) (hb : b.Normal) (hleading : 2 ^ 52 ≤ b.mantissa) :
    b.exponent ≤ 971 ↔ n < beyond := by
  obtain ⟨unit, hunit, hlargest, hnext, hbeyond⟩ := bounds_scaled
  rw [← Nat.cast_lt (α := ℚ), hbeyond]
  constructor
  · intro hrange
    have hvalue := value_le_largest hpositive hb hrange
    have hnear := h.near next next_normal
    by_contra hn
    rw [not_lt] at hn
    rw [abs_of_nonpos (by linarith)] at hnear
    rcases le_or_gt next.value n with hover | hunder
    · rw [abs_of_nonpos (by linarith)] at hnear
      linarith
    · -- halfway between the two the even mantissa is not that of the largest number
      rw [abs_of_nonneg (by linarith)] at hnear
      have hequal : b.value = largest.value := by linarith
      have htie : |next.value - n| = |b.value - n| := by
        rw [abs_of_nonneg (by linarith), abs_of_nonpos (by linarith)]
        linarith
      have heven := h.even next next_normal (by rw [hequal]; linarith) htie
      rw [mantissa_of_value_eq_largest hpositive hb hrange hequal] at heven
      exact absurd heven (by decide)
  · intro hn
    by_contra hrange
    have hvalue := next_le_value hpositive hleading (by omega)
    have hnear := h.near largest largest_normal
    rw [abs_of_nonneg (by linarith)] at hnear
    rcases le_total largest.value n with hover | hunder
    · rw [abs_of_nonpos (by linarith)] at hnear
      linarith
    · rw [abs_of_nonneg (by linarith)] at hnear
      linarith

end range

/-! ### Signs -/

/-- The number with the other sign. -/
def opposite (b : Binary) : Binary := { b with negative := !b.negative }

theorem Normal.opposite {b : Binary} (hb : b.Normal) : b.opposite.Normal := ⟨hb.mantissa, hb.exponent, hb.leading⟩

theorem opposite_value (b : Binary) : b.opposite.value = -b.value := by
  unfold value opposite magnitude
  cases b.negative <;> simp

theorem opposite_opposite (b : Binary) : b.opposite.opposite = b := by
  simp [opposite]

theorem Nearest.opposite {q : ℚ} {b : Binary} (h : Nearest q b) : Nearest (-q) b.opposite := by
  have hdistance (c : Binary) : |c.value - -q| = |c.opposite.value - q| := by
    rw [opposite_value, ← abs_neg]
    ring_nf
  constructor
  · intro c hc
    rw [hdistance, hdistance, opposite_opposite]
    exact h.near _ hc.opposite
  · intro c hc hne htie
    rw [hdistance, hdistance, opposite_opposite] at htie
    refine h.even _ hc.opposite (fun heq => hne ?_) htie
    rw [opposite_value, ← heq, opposite_value, neg_neg]

theorem neg_packed {b : Binary} (hb : b.Normal) (hleading : 2 ^ 52 ≤ b.mantissa) (hrange : b.exponent ≤ 971) :
    -b.packed = b.opposite.packed := by
  have hneg : b.unpacked.neg = b.opposite.unpacked := by
    unfold unpacked opposite
    have hsome : 0 < b.mantissa := by omega
    rw [dif_pos hsome, dif_pos hsome]
    cases b.negative <;> rfl
  have hmodel : -b.packed = .ofModel (.pack b.packed.toModel.unpack.neg) := rfl
  rw [hmodel, unpack_packed hb hleading hrange, hneg]
  rfl

/-- The binary64 number has the sign of `q` and is nearest to it, and of two as near it is the one with the even
mantissa. -/
def RoundedTo (q : ℚ) (x : Float) : Prop :=
  ∃ b, ofFloat? x = some b ∧ b.negative = decide (q < 0) ∧ ∀ y c, ofFloat? y = some c → |b.value - q| ≤ |c.value - q| ∧
    (c.value ≠ b.value → |c.value - q| = |b.value - q| → b.mantissa % 2 = 0)

theorem isInf_of_ofFloat? {x : Float} {b : Binary} (hx : ofFloat? x = some b) : x.isInf = false := by
  have hmodel : x.isInf = x.toModel.unpack.isInf := rfl
  rw [hmodel, (unpack_of_ofFloat? hx).1, unpacked]
  split_ifs <;> rfl

theorem Nearest.roundedTo {q : ℚ} {b : Binary} (h : Nearest q b) {x : Float} (hx : ofFloat? x = some b)
    (hsign : b.negative = decide (q < 0)) : RoundedTo q x :=
  ⟨b, hx, hsign, fun _ c hc => ⟨h.near c (unpack_of_ofFloat? hc).2, h.even c (unpack_of_ofFloat? hc).2⟩⟩

end Decimal.Binary

namespace Quantity

open Decimal Decimal.Binary

theorem toFloat_of_short {n : Nat} (hn : 0 < n) (hsize : (Nat.toDigits 10 n).length ≤ 400) (negative : Bool) :
    Decimal.toFloat negative n 0 =
      if negative then -Float.ofScientific n false 0 else Float.ofScientific n false 0 := by
  have hlow : ¬(n = 0 ∨ 0 + ((Nat.toDigits 10 n).length : ℤ) < -400) := by omega
  have hhigh : ¬0 + ((Nat.toDigits 10 n).length : ℤ) > 400 := by omega
  simp only [Decimal.toFloat, if_neg hlow, if_neg hhigh, lt_irrefl, if_false, Int.toNat_zero]

theorem toFloat_of_long {n : Nat} (hn : 0 < n) (hsize : 400 < (Nat.toDigits 10 n).length) (negative : Bool) :
    (Decimal.toFloat negative n 0).isInf = true := by
  have hlow : ¬(n = 0 ∨ 0 + ((Nat.toDigits 10 n).length : ℤ) < -400) := by omega
  have hhigh : 0 + ((Nat.toDigits 10 n).length : ℤ) > 400 := by omega
  simp only [Decimal.toFloat, if_neg hlow, if_pos hhigh]
  cases negative <;> decide

/-- The number that a whole number that is not zero becomes, in range or not. -/
theorem toFloat_cases {n : Nat} (hn : 0 < n) (negative : Bool) :
    (n < beyond ∧ ∃ b, ofFloat? (Decimal.toFloat negative n 0) = some b ∧
      b.negative = negative ∧ Nearest (if negative then -n else n) b) ∨
    (beyond ≤ n ∧ (Decimal.toFloat negative n 0).isInf = true) := by
  rcases le_or_gt (Nat.toDigits 10 n).length 400 with hsize | hsize
  · obtain ⟨b, hpositive, hb, hleading, hnearest, hfloat⟩ := ofScientific_nearest hn
    have hrange := hnearest.range_iff hpositive hb hleading
    rw [toFloat_of_short hn hsize, hfloat]
    rcases le_or_gt b.exponent 971 with hin | hout
    · refine .inl ⟨hrange.1 hin, ?_⟩
      cases negative with
      | false => exact ⟨b, ofFloat?_packed hb hleading hin, hpositive, hnearest⟩
      | true =>
        simp only [if_true]
        rw [neg_packed hb hleading hin]
        exact ⟨b.opposite, ofFloat?_packed hb.opposite hleading hin, congrArg not hpositive, hnearest.opposite⟩
    · refine .inr ⟨not_lt.1 fun hlow => absurd (hrange.2 hlow) (not_le.2 hout), ?_⟩
      rw [packed_infinity hleading hout, hpositive]
      cases negative <;> decide
  · have hlarge : beyond ≤ 10 ^ 400 := by decide +kernel
    have hten : 10 ^ 400 ≤ n := not_lt.1 fun hlow => absurd ((Nat.length_toDigits_le_iff (by omega) (by omega)).2 hlow)
      (not_le.2 hsize)
    exact .inr ⟨hlarge.trans hten, toFloat_of_long hn hsize negative⟩

/-- Zero is itself. -/
theorem finiteFloat?_zero : finiteFloat? 0 = some 0.0 ∧ RoundedTo 0 0.0 := by
  refine ⟨by decide, ⟨false, 0, -1074⟩, by decide, by simp, fun y c _ => ?_⟩
  have hzero : (⟨false, 0, -1074⟩ : Decimal.Binary).value = 0 := by simp [value, magnitude]
  rw [hzero, sub_zero, abs_zero]
  exact ⟨abs_nonneg _, fun _ _ => rfl⟩

/-- A whole number in range becomes the nearest binary64 number, and one beyond it becomes none. -/
theorem finiteFloat?_cases (i : ℤ) :
    (i.natAbs < beyond ∧ ∃ x, finiteFloat? i = some x ∧ RoundedTo i x) ∨ (beyond ≤ i.natAbs ∧ finiteFloat? i = none) := by
  rcases Nat.eq_zero_or_pos i.natAbs with hzero | hsome
  · obtain rfl := Int.natAbs_eq_zero.1 hzero
    exact .inl ⟨by decide +kernel, 0.0, by simpa using finiteFloat?_zero⟩
  have hvalue : (if decide (i < 0) then -(i.natAbs : ℚ) else i.natAbs) = i := by
    rw [Nat.cast_natAbs]
    by_cases hi : i < 0
    · rw [if_pos (decide_eq_true hi), abs_of_neg hi]
      push_cast
      ring
    · rw [if_neg (by simpa using hi), abs_of_nonneg (not_lt.1 hi)]
  unfold finiteFloat?
  rcases toFloat_cases hsome (decide (i < 0)) with ⟨hrange, b, hb, hsign, hnearest⟩ | ⟨hrange, hinfinite⟩
  · rw [hvalue] at hnearest
    refine .inl ⟨hrange, _, ?_, hnearest.roundedTo hb (by simp [hsign])⟩
    simp only [isInf_of_ofFloat? hb, Bool.false_eq_true, if_false]
  · exact .inr ⟨hrange, by simp only [hinfinite, if_true]⟩

end Quantity

end DocumentStore
