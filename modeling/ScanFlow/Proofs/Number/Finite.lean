import ScanFlow.Number.Decimal

/-!
Results that stay in the finite range.

A number below `2 ^ k` units is rounded to one with an exponent of at most `k - 51`, which is
finite up to `k = 2097`. Whole numbers of 64 bits are far below, and division by a power of ten
goes further down.
-/

namespace ScanFlow.Binary64

theorem isFinite_of_exponent_le {x : Binary64} (h : x.exponent.val ≤ 2046) :
    x.isFinite = true := by
  unfold isFinite
  rw [bne_iff_ne]
  omega

theorem pack_exponent_le (negative : Bool) {shift : Nat} (q : Nat) (h : shift ≤ 2044) :
    (pack negative shift q).exponent.val ≤ shift + 2 := by
  have hexponent : (if q < 2 ^ 52 then 0 else if q < 2 ^ 53 then shift + 1 else shift + 2) ≤
      shift + 2 := by
    split
    · omega
    · split <;> omega
  simp only [pack, dif_pos (Nat.lt_of_le_of_lt hexponent (show shift + 2 < 2047 by omega))]
  exact hexponent

theorem round_exponent_le (negative : Bool) {num den k : Nat} (hleast : 53 ≤ k)
    (hmost : k ≤ 2097) (h : num / den < 2 ^ k) :
    (round negative num den).exponent.val ≤ k - 51 := by
  have hlog : Nat.log2 (num / den) < k := by
    by_cases hzero : num / den = 0
    · rw [hzero, Nat.log2_zero]
      omega
    · exact (Nat.log2_lt hzero).mpr h
  have hshift : Nat.log2 (num / den) - fractionBits ≤ k - 53 := by
    simp only [fractionBits]
    omega
  have hpack := pack_exponent_le negative
    (roundQuotient num (den * 2 ^ (Nat.log2 (num / den) - fractionBits)))
    (Nat.le_trans hshift (by omega))
  exact Nat.le_trans hpack (by omega)

theorem le_pack_exponent (negative : Bool) {shift q e : Nat} (hq : 2 ^ 52 ≤ q)
    (hshift : e ≤ shift + 1) (he : e ≤ 2047) : e ≤ (pack negative shift q).exponent.val := by
  have hexponent : e ≤ (if q < 2 ^ 52 then 0 else if q < 2 ^ 53 then shift + 1 else shift + 2) := by
    rw [if_neg (by omega)]
    split <;> omega
  by_cases hfinite :
      (if q < 2 ^ 52 then 0 else if q < 2 ^ 53 then shift + 1 else shift + 2) < 2047
  · simp only [pack, dif_pos hfinite]
    exact hexponent
  · simp only [pack, dif_neg hfinite]
    exact he

theorem le_roundQuotient (num den : Nat) : num / den ≤ roundQuotient num den := by
  unfold roundQuotient
  dsimp only
  split
  · omega
  · split <;> omega

/-- What is not below `2 ^ (e + 51)` units is rounded to a number with an exponent of at least `e`,
infinities included. -/
theorem le_round_exponent (negative : Bool) {num den e : Nat} (he : e ≤ 2047) (hpositive : 0 < e)
    (h : 2 ^ (e + 51) ≤ num / den) : e ≤ (round negative num den).exponent.val := by
  have hne : num / den ≠ 0 := by
    have htwo := Nat.two_pow_pos (e + 51)
    omega
  have hlog : e + 51 ≤ Nat.log2 (num / den) := (Nat.le_log2 hne).mpr h
  have hself : 2 ^ Nat.log2 (num / den) ≤ num / den := Nat.log2_self_le hne
  refine le_pack_exponent negative ?_ (by simp only [fractionBits]; omega) he
  refine Nat.le_trans ?_ (le_roundQuotient _ _)
  rw [← Nat.div_div_eq_div_mul, Nat.le_div_iff_mul_le (Nat.two_pow_pos _), ← Nat.pow_add]
  refine Nat.le_trans (Nat.pow_le_pow_right (by decide) ?_) hself
  simp only [fractionBits]
  omega

theorem magnitude_lt (x : Binary64) : x.magnitude < 2 ^ (x.exponent.val + 52) := by
  have hfraction := x.fraction.isLt
  unfold magnitude fractionBits
  split
  · rename_i hzero
    rw [hzero]
    exact hfraction
  · rename_i hpositive
    have hexponent : x.exponent.val + 52 = 53 + (x.exponent.val - 1) := by omega
    rw [hexponent, Nat.pow_add]
    exact Nat.mul_lt_mul_of_pos_right (by omega) (Nat.two_pow_pos _)

theorem le_magnitude {x : Binary64} (h : 0 < x.exponent.val) :
    2 ^ (x.exponent.val + 51) ≤ x.magnitude := by
  have hexponent : x.exponent.val + 51 = 52 + (x.exponent.val - 1) := by omega
  unfold magnitude fractionBits
  rw [if_neg (by omega), hexponent, Nat.pow_add]
  exact Nat.mul_le_mul_right _ (Nat.le_add_right _ _)

/-! ### Whole numbers -/

/-- A whole number of 64 bits has an exponent far inside the range. -/
theorem ofRatio_exponent_le (negative : Bool) {n : Nat} (h : n ≤ 2 ^ 64) :
    (ofRatio negative n 1).exponent.val ≤ 1088 := by
  unfold ofRatio
  refine round_exponent_le negative (k := 1139) (by decide) (by decide) ?_
  rw [Nat.div_one]
  calc n * 2 ^ scale ≤ 2 ^ 64 * 2 ^ scale := Nat.mul_le_mul_right _ h
    _ = 2 ^ (64 + scale) := (Nat.pow_add 2 64 scale).symm
    _ < 2 ^ 1139 := Nat.pow_lt_pow_right (by decide) (by decide)

theorem ofInt_isFinite {i : Int} (h : i.natAbs ≤ 2 ^ 64) : (ofInt i).isFinite = true :=
  isFinite_of_exponent_le (Nat.le_trans (ofRatio_exponent_le _ h) (by decide))

theorem signed_exponent (x : Binary64) (negative : Bool) :
    (⟨negative, x.exponent, x.fraction⟩ : Binary64).exponent = x.exponent := rfl

/-- A whole number is finite with either sign. -/
theorem signed_isFinite (negative : Bool) {n : Nat} (h : n ≤ 2 ^ 64) :
    (⟨negative, (ofNat n).exponent, (ofNat n).fraction⟩ : Binary64).isFinite = true := by
  apply isFinite_of_exponent_le
  rw [signed_exponent]
  exact Nat.le_trans (ofRatio_exponent_le false h) (by decide)

/-! ### Decimal parts -/

theorem le_powerOfTen {n : Nat} (h : 0 < n) : 2 ^ (scale + 1) ≤ (powerOfTen n).magnitude := by
  have hexponent : 1024 ≤ (powerOfTen n).exponent.val := by
    unfold powerOfTen ofNat ofRatio
    refine le_round_exponent false (by decide) (by decide) ?_
    have hscale : 1024 + 51 = 1 + scale := rfl
    have hten : 2 ^ 1 ≤ 10 ^ n :=
      Nat.le_trans (by decide : 2 ^ 1 ≤ 10 ^ 1) (Nat.pow_le_pow_right (by decide) h)
    rw [Nat.div_one, hscale, Nat.pow_add]
    exact Nat.mul_le_mul_right _ hten
  refine Nat.le_trans (Nat.pow_le_pow_right (by decide) ?_) (le_magnitude (by omega))
  simp only [scale]
  omega

/-- A power of ten does not raise the exponent of what it divides. -/
theorem quotient_powerOfTen_exponent_le {x : Binary64} {n : Nat}
    (hx : x.exponent.val ≤ 1088) (hn : 0 < n) :
    (x.quotient (powerOfTen n)).exponent.val ≤ 1088 := by
  unfold quotient
  refine round_exponent_le _ (k := 1139) (by decide) (by decide) ?_
  apply Nat.div_lt_of_lt_mul
  calc x.magnitude * 2 ^ scale < 2 ^ (x.exponent.val + 52) * 2 ^ scale :=
        Nat.mul_lt_mul_of_pos_right x.magnitude_lt (Nat.two_pow_pos _)
    _ = 2 ^ (x.exponent.val + 52 + scale) := (Nat.pow_add _ _ _).symm
    _ ≤ 2 ^ (scale + 1 + 1139) := Nat.pow_le_pow_right (by decide) (by omega)
    _ = 2 ^ (scale + 1) * 2 ^ 1139 := Nat.pow_add _ _ _
    _ ≤ (powerOfTen n).magnitude * 2 ^ 1139 := Nat.mul_le_mul_right _ (le_powerOfTen hn)

theorem scaleDown_exponent_le {x : Binary64} {n : Nat} (hx : x.exponent.val ≤ 1088)
    (hn : 0 < n) : (x.scaleDown n).exponent.val ≤ 1088 := by
  fun_induction scaleDown x n with
  | case1 => exact hx
  | case2 x n => exact quotient_powerOfTen_exponent_le hx hn
  | case3 x n _ _ ih => exact ih (quotient_powerOfTen_exponent_le hx (by decide)) (by omega)

/-- Numbers in decimal parts have a value only in the finite range. -/
theorem ofParts_isFinite {negative : Bool} {significand : Nat} {exponent : Int} {x : Binary64}
    (hsignificand : significand ≤ 2 ^ 64)
    (h : ofParts negative significand exponent = some x) : x.isFinite = true := by
  have hstart : (⟨negative, (ofNat significand).exponent, (ofNat significand).fraction⟩ :
      Binary64).exponent.val ≤ 1088 := by
    rw [signed_exponent]
    exact ofRatio_exponent_le false hsignificand
  unfold ofParts at h
  dsimp only at h
  split at h
  · split at h
    · split at h
      · rename_i hfinite
        rw [← Option.some.inj h]
        exact hfinite
      · cases h
    · split at h
      · rw [← Option.some.inj h]
        exact isFinite_of_exponent_le (by omega)
      · cases h
  · have hlow := scaleDown_exponent_le hstart (show 0 < (-exponent).toNat by omega)
    rw [← Option.some.inj h]
    exact isFinite_of_exponent_le (by omega)

end ScanFlow.Binary64
