import HostMonitor.Proofs.Binary64.Signs

/-!
# Quotients in order

A quotient is rounded as if all its bits were known: the bits that are shifted out leave behind
whether they were half a unit, and whether they were more. So of two numbers that are divided by a
third the smaller one has the smaller quotient, or the same.
-/

namespace HostMonitor.Binary64

open Float.Model Float.Model.UnpackedFloat

variable {x y z : Float} {u v w : UnpackedFloat} {a b m n num den k : Nat} {e f : Int}

/-! ## Residual bits -/

/-- The first bit after the significand of `num / den`, and whether any bit after it is set. -/
structure IsQuotient (em : ExtendedMantissa) (num den : Nat) : Prop where
  mantissa : em.mantissa = num / den
  roundBit : em.roundBit = true ↔ den ≤ 2 * (num % den)
  stickyBit : em.stickyBit = true ↔ 2 * (num % den) ≠ 0 ∧ 2 * (num % den) ≠ den

namespace IsQuotient

variable {em : ExtendedMantissa}

theorem ofMantissaAndAccuracy (pos : 0 < den) :
    IsQuotient (.ofMantissaAndAccuracy (num / den) (accuracyOfFraction (num % den) den))
      num den := by
  unfold accuracyOfFraction
  by_cases exact : num % den = 0
  · rw [if_pos exact]
    constructor <;> simp [ExtendedMantissa.ofMantissaAndAccuracy, exact]
    omega
  · rw [if_neg exact]
    rcases lt_trichotomy (2 * (num % den)) den with less | half | more
    · rw [compare_lt_iff_lt.mpr less]
      constructor <;> simp [ExtendedMantissa.ofMantissaAndAccuracy] <;> omega
    · rw [compare_eq_iff_eq.mpr half]
      constructor <;> simp [ExtendedMantissa.ofMantissaAndAccuracy] <;> omega
    · rw [compare_gt_iff_gt.mpr more]
      constructor <;> simp [ExtendedMantissa.ofMantissaAndAccuracy] <;> omega

/-- Shifting a bit out is dividing by twice as much. -/
theorem shiftRightOne (h : IsQuotient em num den) (pos : 0 < den) :
    IsQuotient em.shiftRightOne num (den * 2) := by
  obtain ⟨mantissa, roundBit, stickyBit⟩ := h
  have small : num % den < den := Nat.mod_lt num pos
  have remainder : num % (den * 2) = num % den + den * (num / den % 2) := Nat.mod_mul
  constructor
  · rw [← Nat.div_div_eq_div_mul, ← mantissa]
    rfl
  · rw [remainder, ← mantissa]
    change (em.mantissa % 2 != 0) = true ↔ _
    rcases Nat.mod_two_eq_zero_or_one em.mantissa with even | odd
    · simp [even]
      omega
    · simp [odd]
      omega
  · rw [remainder, ← mantissa]
    change (em.roundBit || em.stickyBit) = true ↔ _
    rw [Bool.or_eq_true, roundBit, stickyBit]
    rcases Nat.mod_two_eq_zero_or_one em.mantissa with even | odd
    · simp only [even]
      omega
    · simp only [odd]
      omega

theorem shiftRight (h : IsQuotient em num den) (pos : 0 < den) (k : Nat) :
    IsQuotient (em >>> k) num (den * 2 ^ k) := by
  induction k with
  | zero => rwa [Nat.pow_zero, Nat.mul_one]
  | succ k ih =>
    rw [Nat.pow_succ, ← Nat.mul_assoc]
    exact ih.shiftRightOne (Nat.mul_pos pos (Nat.two_pow_pos k))

theorem roundedMantissa (h : IsQuotient em num den) :
    em.roundedMantissa = roundedQuotient num den := by
  obtain ⟨m, round, sticky⟩ := em
  obtain ⟨rfl, roundBit, stickyBit⟩ := h
  unfold roundedQuotient
  cases round <;> cases sticky <;>
    simp [ExtendedMantissa.roundedMantissa, ExtendedMantissa.accuracy,
      Accuracy.roundToNearestEven] at * <;> grind

end IsQuotient

/-- A quotient is rounded once, whatever has been shifted out before. -/
theorem shifted_quotient (pos : 0 < den) (k : Nat) :
    shifted (num / den) k (accuracyOfFraction (num % den) den) =
      roundedQuotient num (den * 2 ^ k) :=
  ((IsQuotient.ofMantissaAndAccuracy pos).shiftRight pos k).roundedMantissa

theorem roundedQuotient_mul_mul (num den : Nat) {c : Nat} (pos : 0 < c) :
    roundedQuotient (num * c) (den * c) = roundedQuotient num den := by
  have more : den * c < 2 * (num % den * c) ↔ den < 2 * (num % den) := by
    rw [← Nat.mul_assoc, Nat.mul_lt_mul_right pos]
  have half : 2 * (num % den * c) = den * c ↔ 2 * (num % den) = den := by
    rw [← Nat.mul_assoc, Nat.mul_left_inj pos.ne']
  simp [roundedQuotient, Nat.mul_div_mul_right _ _ pos, Nat.mul_mod_mul_right, more, half]

/-! ## Division -/

/-- A carry out of a significand leaves zeros behind. -/
theorem div_mul_of_isNormal {r j : Nat} (ceil : r ≤ 2 ^ 53) (hj : j ≤ 1)
    (hx : IsNormal x (r / 2 ^ j) e) : r / 2 ^ j * 2 ^ j = r := by
  have floor := hx.le_significand
  obtain rfl | rfl : j = 0 ∨ j = 1 := by omega
  · simp
  · omega

/-- Quotients by one number, rounded to 53 bits and counted in the same units. -/
theorem shifted_mul_le_shifted_mul {i d : Nat} (pos : 0 < den) (h : a ≤ b * 2 ^ d)
    (low : 2 ^ (52 + k) ≤ a / den) (high : a / den < 2 ^ (53 + k))
    (low' : 2 ^ (52 + i) ≤ b / den) (high' : b / den < 2 ^ (53 + i)) :
    shifted (a / den) k (accuracyOfFraction (a % den) den) * 2 ^ k ≤
      shifted (b / den) i (accuracyOfFraction (b % den) den) * 2 ^ (i + d) := by
  have ceil := (shifted_bounds low high (accuracyOfFraction (a % den) den)).2
  have floor := (shifted_bounds low' high' (accuracyOfFraction (b % den) den)).1
  have fits : k ≤ i + d := by
    have bits : 2 ^ (52 + k) < 2 ^ (53 + i + d) := calc
      2 ^ (52 + k) ≤ a / den := low
      _ ≤ b * 2 ^ d / den := Nat.div_le_div_right h
      _ < 2 ^ (53 + i + d) := by
        rw [Nat.div_lt_iff_lt_mul pos] at high' ⊢
        rw [Nat.pow_add, Nat.mul_right_comm]
        exact Nat.mul_lt_mul_of_pos_right high' (Nat.two_pow_pos d)
    have := (Nat.pow_lt_pow_iff_right (by decide)).mp bits
    omega
  rcases fits.eq_or_lt with rfl | less
  · -- Both are rounded to the same unit.
    refine Nat.mul_le_mul_right _ ?_
    rw [shifted_quotient pos, shifted_quotient pos, Nat.pow_add, ← Nat.mul_assoc,
      ← roundedQuotient_mul_mul b _ (Nat.two_pow_pos d)]
    exact roundedQuotient_le_roundedQuotient h
  · -- The smaller one has not even as many bits.
    calc
      _ ≤ 2 ^ 53 * 2 ^ k := Nat.mul_le_mul_right _ ceil
      _ = 2 ^ 52 * 2 ^ (k + 1) := by ring
      _ ≤ 2 ^ 52 * 2 ^ (i + d) := Nat.mul_le_mul_left _ (Nat.pow_le_pow_right (by decide) less)
      _ ≤ _ := Nat.mul_le_mul_right _ floor

theorem rounded_le_rounded {d : Nat} (pos : 0 < den) (h : a ≤ b * 2 ^ d) (long : 2 ^ 52 ≤ a / den)
    (short : a / den < 2 ^ (53 + 1)) (long' : 2 ^ 52 ≤ b / den) (short' : b / den < 2 ^ (53 + 1))
    (bottom : -1074 ≤ e) (top : e + d ≤ 969) :
    rounded (a / den) e (accuracyOfFraction (a % den) den) ≤
      rounded (b / den) (e + d) (accuracyOfFraction (b % den) den) := by
  obtain ⟨k, hk, low, high⟩ := exists_bits long short
  obtain ⟨i, hi, low', high'⟩ := exists_bits long' short'
  have units := shifted_mul_le_shifted_mul pos h low high low' high'
  have ceil := (shifted_bounds low' high' (accuracyOfFraction (b % den) den)).2
  obtain ⟨j, -, normal⟩ := exists_isNormal_rounded_of_bits (e := e)
    (a := accuracyOfFraction (a % den) den) low high (by omega) (by omega)
  obtain ⟨l, hl, normal'⟩ := exists_isNormal_rounded_of_bits (e := e + d)
    (a := accuracyOfFraction (b % den) den) low' high' (by omega) (by omega)
  have whole := div_mul_of_isNormal ceil hl normal'
  rw [add_assoc, ← Nat.cast_add] at normal
  rw [add_assoc, add_assoc, ← Nat.cast_add, ← Nat.cast_add] at normal'
  refine normal.le_of_mul_le normal' ?_
  calc
    _ = shifted (a / den) k (accuracyOfFraction (a % den) den) / 2 ^ j * 2 ^ j * 2 ^ k := by ring
    _ ≤ shifted (a / den) k (accuracyOfFraction (a % den) den) * 2 ^ k :=
      Nat.mul_le_mul_right _ (Nat.div_mul_le_self ..)
    _ ≤ shifted (b / den) i (accuracyOfFraction (b % den) den) * 2 ^ (i + d) := units
    _ = shifted (b / den) i (accuracyOfFraction (b % den) den) / 2 ^ l * 2 ^ l * 2 ^ (i + d) := by
      rw [whole]
    _ = _ := by ring

/-- Dividing by one number keeps the order. -/
theorem IsNormal.div_le_div {g : Int} (hx : IsNormal x m e) (hy : IsNormal y n f)
    (hz : IsNormal z den g) (bottom : -1021 ≤ e - g) (top : f - g ≤ 1000) (h : x ≤ y) :
    x / z ≤ y / z := by
  obtain ⟨d, rfl, share⟩ := hx.exists_le_mul hy h
  have exponent : e + d - g - 53 = e - g - 53 + d := by ring
  rw [hx.div_eq hz bottom, hy.div_eq hz (by omega), exponent]
  refine rounded_le_rounded hz.significand_pos ?_ (hx.le_quotient hz) (hx.quotient_lt hz)
    (hy.le_quotient hz) (hy.quotient_lt hz) (by omega) (by omega)
  calc
    m * 2 ^ 53 ≤ n * 2 ^ d * 2 ^ 53 := Nat.mul_le_mul_right _ share
    _ = n * 2 ^ 53 * 2 ^ d := by ring

/-! ## Counters -/

theorem ofNat_div_le_ofNat_div (hz : IsNormal z den e) (bottom : -900 ≤ e) (top : e ≤ 900)
    (h : a ≤ b) (small : b < 2 ^ 64) : ofNat a / z ≤ ofNat b / z := by
  rcases a.eq_zero_or_pos with rfl | pos
  · have none : ofNat 0 / z = 0 := zero_div_of_pos hz.pos
    obtain ⟨unsigned, bounded⟩ := isUnsigned_ofNat small
    rw [none]
    exact (unsigned.div hz.isPositive (.inl bounded)).zero_le
  · obtain ⟨m, f, ha, low, high⟩ := exists_isNormal_ofNat pos (by omega)
    obtain ⟨n, g, hb, low', high'⟩ := exists_isNormal_ofNat (pos.trans_le h) small
    exact ha.div_le_div hb hz (by omega) (by omega) (ofNat_le_ofNat pos h small)

end HostMonitor.Binary64
