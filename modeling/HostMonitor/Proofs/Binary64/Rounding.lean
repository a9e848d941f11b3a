import HostMonitor.Proofs.Binary64.Normal

/-!
# Rounded quotients and products

A result is rounded to one of the two normal numbers around it, so it does not get past a normal
number that the exact result does not get past. A number divided by a larger one is at most one, and
a number times a share is at most itself.
-/

namespace HostMonitor.Binary64

open Float.Model Float.Model.UnpackedFloat

variable {x y : Float} {m n k : Nat} {e f : Int}

/-! ## Significands -/

/-- The least significand that is not below one with residual bits. -/
def ceiling (em : ExtendedMantissa) : Nat :=
  if em.roundBit || em.stickyBit then em.mantissa + 1 else em.mantissa

theorem mantissa_le_roundedMantissa (em : ExtendedMantissa) : em.mantissa ≤ em.roundedMantissa := by
  obtain ⟨m, round, sticky⟩ := em
  cases round <;> cases sticky <;>
    simp [ExtendedMantissa.roundedMantissa, ExtendedMantissa.accuracy, Accuracy.roundToNearestEven]

theorem roundedMantissa_le_ceiling (em : ExtendedMantissa) : em.roundedMantissa ≤ ceiling em := by
  obtain ⟨m, round, sticky⟩ := em
  cases round <;> cases sticky <;>
    simp [ceiling, ExtendedMantissa.roundedMantissa, ExtendedMantissa.accuracy,
      Accuracy.roundToNearestEven]
  omega

theorem ceiling_shiftRightOne_le {em : ExtendedMantissa} (h : ceiling em ≤ 2 * n) :
    ceiling em.shiftRightOne ≤ n := by
  obtain ⟨m, round, sticky⟩ := em
  rcases Nat.mod_two_eq_zero_or_one m with even | odd <;> cases round <;> cases sticky <;>
    simp_all [ceiling, ExtendedMantissa.shiftRightOne] <;> omega

theorem mantissa_shiftRight (em : ExtendedMantissa) (k : Nat) :
    (em >>> k).mantissa = em.mantissa / 2 ^ k := by
  induction k with
  | zero => exact (Nat.div_one _).symm
  | succ k ih =>
    change (em >>> k).mantissa / 2 = _
    rw [ih, Nat.div_div_eq_div_mul, Nat.pow_succ]

theorem ceiling_shiftRight_le {em : ExtendedMantissa} (h : ceiling em ≤ n * 2 ^ k) :
    ceiling (em >>> k) ≤ n := by
  induction k generalizing n with
  | zero => exact h.trans_eq (Nat.mul_one n)
  | succ k ih =>
    have halved : ceiling (em >>> k) ≤ 2 * n := ih (h.trans_eq (by ring))
    exact ceiling_shiftRightOne_le halved

theorem mantissa_ofMantissaAndAccuracy (m : Nat) (a : Accuracy) :
    (ExtendedMantissa.ofMantissaAndAccuracy m a).mantissa = m := by
  unfold ExtendedMantissa.ofMantissaAndAccuracy
  split <;> rfl

theorem ceiling_ofMantissaAndAccuracy_le (m : Nat) (a : Accuracy) :
    ceiling (.ofMantissaAndAccuracy m a) ≤ m + 1 := by
  unfold ceiling
  rw [mantissa_ofMantissaAndAccuracy]
  split <;> omega

theorem le_ceiling_ofMantissaAndAccuracy (m : Nat) (a : Accuracy) :
    m ≤ ceiling (.ofMantissaAndAccuracy m a) := by
  unfold ceiling
  rw [mantissa_ofMantissaAndAccuracy]
  split <;> omega

/-- The significand `m`, shifted by `k` bits and rounded. -/
def shifted (m k : Nat) (a : Accuracy) : Nat :=
  (ExtendedMantissa.ofMantissaAndAccuracy m a >>> k).roundedMantissa

theorem shifted_le {a : Accuracy} (h : ceiling (.ofMantissaAndAccuracy m a) ≤ n * 2 ^ k) :
    shifted m k a ≤ n :=
  (roundedMantissa_le_ceiling _).trans (ceiling_shiftRight_le h)

theorem shifted_bounds (low : 2 ^ (52 + k) ≤ m) (high : m < 2 ^ (53 + k)) (a : Accuracy) :
    2 ^ 52 ≤ shifted m k a ∧ shifted m k a ≤ 2 ^ 53 := by
  rw [Nat.pow_add] at low high
  constructor
  · have floor : 2 ^ 52 ≤ m / 2 ^ k := (Nat.le_div_iff_mul_le (Nat.two_pow_pos k)).mpr low
    rw [← mantissa_ofMantissaAndAccuracy m a, ← mantissa_shiftRight] at floor
    exact floor.trans (mantissa_le_roundedMantissa _)
  · exact shifted_le ((ceiling_ofMantissaAndAccuracy_le m a).trans high)

/-! ## Rounding -/

theorem shiftToTargetExponent_eq (low : 2 ^ (52 + k) ≤ m) (high : m < 2 ^ (53 + k))
    (bottom : -1074 ≤ e + k) (a : Accuracy) :
    shiftToTargetExponent .binary64 m e a =
      (ExtendedMantissa.ofMantissaAndAccuracy m a >>> k, e + k) := by
  have pos : m ≠ 0 := (Nat.lt_of_lt_of_le (Nat.two_pow_pos _) low).ne'
  have size : m.log2 = 52 + k := by
    rw [Nat.log2_eq_iff pos]
    exact ⟨low, high.trans_eq (by ring)⟩
  have target : Format.binary64.targetExponent (totalExponent m e) = e + k := by
    unfold Format.targetExponent totalExponent
    change max (_ - ((53 : Nat) : Int)) (-1074) = _
    omega
  have shift : (e + k - e).toNat = k := by omega
  unfold shiftToTargetExponent shiftToExponent
  rw [target]
  simp only [shift]

theorem finite_congr {s : Sign} {m n : Nat} {e : Int} (same : m = n) (pos : 0 < m) (pos' : 0 < n) :
    UnpackedFloat.finite s m e pos = .finite s n e pos' := by
  subst same
  rfl

/-- The significand is rounded once. What a carry adds to it is a zero, which is shifted out. -/
theorem roundWithAccuracy_eq {j : Nat} {a : Accuracy} (low : 2 ^ (52 + k) ≤ m)
    (high : m < 2 ^ (53 + k)) (bottom : -1074 ≤ e + k) (low' : 2 ^ (52 + j) ≤ shifted m k a)
    (high' : shifted m k a < 2 ^ (53 + j)) (s : Sign) (pos : 0 < shifted m k a / 2 ^ j) :
    roundWithAccuracy .binary64 s m e a = .finite s (shifted m k a / 2 ^ j) (e + k + j) pos := by
  have once := shiftToTargetExponent_eq low high bottom a
  have again := shiftToTargetExponent_eq (e := e + k) low' high' (by omega) .exact
  unfold shifted at again pos ⊢
  have value (x : Nat) : (ExtendedMantissa.ofMantissaAndAccuracy x .exact >>> j).mantissa =
      x / 2 ^ j := by
    rw [mantissa_shiftRight, mantissa_ofMantissaAndAccuracy]
  unfold roundWithAccuracy
  rw [once]
  dsimp only
  rw [again]
  exact (dif_neg ((value _).trans_ne pos.ne')).trans (finite_congr (value _) _ pos)

/-- The number nearest to a positive `m * 2 ^ e`, where `a` says what is left out of `m`. -/
def rounded (m : Nat) (e : Int) (a : Accuracy) : Float :=
  .ofModel (.pack (roundWithAccuracy .binary64 .positive m e a))

theorem exists_isNormal_rounded_of_bits {a : Accuracy} (low : 2 ^ (52 + k) ≤ m)
    (high : m < 2 ^ (53 + k)) (bottom : -1074 ≤ e + k) (top : e + k ≤ 970) :
    ∃ j : Nat, j ≤ 1 ∧ IsNormal (rounded m e a) (shifted m k a / 2 ^ j) (e + k + j) := by
  obtain ⟨floor, ceil⟩ := shifted_bounds low high a
  have carried : ∃ j ≤ 1, 2 ^ (52 + j) ≤ shifted m k a ∧ shifted m k a < 2 ^ (53 + j) := by
    rcases ceil.lt_or_eq with small | carry
    · exact ⟨0, by decide, floor, small⟩
    · exact ⟨1, by decide, by omega, by omega⟩
  obtain ⟨j, hj, low', high'⟩ := carried
  have pair : IsNormalPair (shifted m k a / 2 ^ j) (e + k + j) := by
    rw [Nat.pow_add] at low' high'
    exact ⟨(Nat.le_div_iff_mul_le (Nat.two_pow_pos j)).mpr low',
      (Nat.div_lt_iff_lt_mul (Nat.two_pow_pos j)).mpr high', by omega, by omega⟩
  have normal := isNormal_pack pair
  rw [← roundWithAccuracy_eq low high bottom low' high' .positive] at normal
  exact ⟨j, hj, normal⟩

theorem exists_bits (long : 2 ^ 52 ≤ m) {b : Nat} (short : m < 2 ^ (53 + b)) :
    ∃ k ≤ b, 2 ^ (52 + k) ≤ m ∧ m < 2 ^ (53 + k) := by
  have pos : m ≠ 0 := by omega
  obtain ⟨k, size⟩ := Nat.exists_eq_add_of_le ((Nat.le_log2 pos).mpr long)
  have bound := (Nat.log2_lt pos).mpr short
  obtain ⟨low, high⟩ := (Nat.log2_eq_iff pos).mp size
  exact ⟨k, by omega, low, high.trans_eq (by ring)⟩

/-- A significand of at least 53 bits is rounded to one of 53 bits. -/
theorem exists_isNormal_rounded {b : Nat} (long : 2 ^ 52 ≤ m) (short : m < 2 ^ (53 + b))
    (bottom : -1074 ≤ e) (top : e + b ≤ 970) (a : Accuracy) :
    ∃ p g, IsNormal (rounded m e a) p g ∧ e ≤ g ∧ g ≤ e + b + 1 := by
  obtain ⟨k, hk, low, high⟩ := exists_bits long short
  obtain ⟨j, hj, normal⟩ := exists_isNormal_rounded_of_bits (e := e) (a := a) low high (by omega)
    (by omega)
  exact ⟨_, _, normal, by omega, by omega⟩

/-- A number is not rounded past a normal number that it does not exceed. -/
theorem rounded_le {b : Nat} {a : Accuracy} (long : 2 ^ 52 ≤ m) (bottom : -1074 ≤ e)
    (top : e + b ≤ 970) (hy : IsNormal y n (e + b))
    (h : ceiling (.ofMantissaAndAccuracy m a) ≤ n * 2 ^ b) : rounded m e a ≤ y := by
  have short : m < 2 ^ (53 + b) := calc
    m ≤ n * 2 ^ b := (le_ceiling_ofMantissaAndAccuracy m a).trans h
    _ < 2 ^ 53 * 2 ^ b := Nat.mul_lt_mul_of_pos_right hy.significand_lt (Nat.two_pow_pos b)
    _ = 2 ^ (53 + b) := (Nat.pow_add ..).symm
  obtain ⟨k, hk, low, high⟩ := exists_bits long short
  obtain ⟨i, rfl⟩ := Nat.exists_eq_add_of_le hk
  obtain ⟨j, -, normal⟩ := exists_isNormal_rounded_of_bits (e := e) (a := a) low high (by omega)
    (by omega)
  have above : IsNormal y n (e + k + i) := by
    rw [add_assoc]
    exact_mod_cast hy
  refine normal.le_of_mul_le above ?_
  calc
    shifted m k a / 2 ^ j * 2 ^ j ≤ shifted m k a := Nat.div_mul_le_self ..
    _ ≤ n * 2 ^ i := shifted_le (h.trans_eq (by ring))

/-! ## Quotients -/

theorem isNormal_one : IsNormal 1 (2 ^ 52) (-52) :=
  ⟨⟨by decide, by decide, by decide, by decide⟩, rfl⟩

theorem ceiling_quotient_le {a : Nat} (h : a ≤ k * n) :
    ceiling (.ofMantissaAndAccuracy (a / n) (accuracyOfFraction (a % n) n)) ≤ k := by
  have floor : a / n ≤ k := Nat.div_le_of_le_mul (h.trans_eq (Nat.mul_comm k n))
  unfold accuracyOfFraction
  by_cases exact : a % n = 0
  · rw [if_pos exact]
    exact floor
  · have inexact : a / n ≠ k := by
      rintro rfl
      have := Nat.div_add_mod' a n
      omega
    rw [if_neg exact]
    refine (ceiling_ofMantissaAndAccuracy_le _ _).trans ?_
    omega

theorem divCore_eq (hm : IsNormalPair m e) (hn : IsNormalPair n f) (bottom : -1021 ≤ e - f) :
    divCore .binary64 m e n f =
      (m * 2 ^ 53 / n, e - f - 53, accuracyOfFraction (m * 2 ^ 53 % n) n) := by
  have target : min (e - f)
      (Format.binary64.targetExponent (totalExponent m e - totalExponent n f)) = e - f - 53 := by
    unfold Format.targetExponent totalExponent
    rw [hm.log2_significand, hn.log2_significand]
    change min (e - f) (max (_ - ((53 : Nat) : Int)) (-1074)) = _
    omega
  have shift : (e - f - (e - f - 53)).toNat = 53 := by omega
  unfold divCore
  simp only [target, shift, Nat.shiftLeft_eq]

theorem IsNormal.div_eq (hx : IsNormal x m e) (hy : IsNormal y n f) (bottom : -1021 ≤ e - f) :
    x / y = rounded (m * 2 ^ 53 / n) (e - f - 53) (accuracyOfFraction (m * 2 ^ 53 % n) n) := by
  change Float.ofModel (.pack (UnpackedFloat.div .binary64 x.toModel.unpack y.toModel.unpack)) = _
  rw [hx.unpack_eq, hy.unpack_eq]
  unfold UnpackedFloat.div
  dsimp only
  rw [divCore_eq hx.toIsNormalPair hy.toIsNormalPair bottom]
  rfl

theorem IsNormal.le_quotient (hx : IsNormal x m e) (hy : IsNormal y n f) :
    2 ^ 52 ≤ m * 2 ^ 53 / n := by
  have := hx.le_significand
  have := hy.significand_lt
  exact (Nat.le_div_iff_mul_le hy.significand_pos).mpr (by omega)

theorem IsNormal.quotient_lt (hx : IsNormal x m e) (hy : IsNormal y n f) :
    m * 2 ^ 53 / n < 2 ^ (53 + 1) := by
  have := hx.significand_lt
  have := hy.le_significand
  exact (Nat.div_lt_iff_lt_mul hy.significand_pos).mpr (by omega)

theorem IsNormal.exists_div (hx : IsNormal x m e) (hy : IsNormal y n f) (bottom : -1021 ≤ e - f)
    (top : e - f ≤ 1000) : ∃ p g, IsNormal (x / y) p g ∧ e - f - 53 ≤ g ∧ g ≤ e - f - 51 := by
  rw [hx.div_eq hy bottom]
  obtain ⟨p, g, normal, above, below⟩ := exists_isNormal_rounded (e := e - f - 53)
    (hx.le_quotient hy) (hx.quotient_lt hy) (by omega) (by omega)
    (accuracyOfFraction (m * 2 ^ 53 % n) n)
  exact ⟨p, g, normal, above, by omega⟩

theorem IsNormal.div_le_one (hx : IsNormal x m e) (hy : IsNormal y n f) (bottom : -1021 ≤ e - f)
    (h : x ≤ y) : x / y ≤ 1 := by
  obtain ⟨d, rfl, share⟩ := hx.exists_le_mul hy h
  rw [hx.div_eq hy bottom]
  have one : IsNormal 1 (2 ^ 52) (e - (e + d) - 53 + (d + 1 : Nat)) := by
    convert isNormal_one using 1
    omega
  refine rounded_le (hx.le_quotient hy) (by omega) (by omega) one (ceiling_quotient_le ?_)
  calc
    m * 2 ^ 53 ≤ n * 2 ^ d * 2 ^ 53 := Nat.mul_le_mul_right _ share
    _ = 2 ^ 52 * 2 ^ (d + 1) * n := by ring

/-! ## Products -/

theorem IsNormal.mul_eq (hx : IsNormal x m e) (hy : IsNormal y n f) :
    x * y = rounded (m * n) (e + f) .exact := by
  change Float.ofModel (.pack (UnpackedFloat.mul .binary64 x.toModel.unpack y.toModel.unpack)) = _
  rw [hx.unpack_eq, hy.unpack_eq]
  rfl

theorem IsNormal.le_product (hx : IsNormal x m e) (hy : IsNormal y n f) : 2 ^ 52 ≤ m * n :=
  hx.le_significand.trans (Nat.le_mul_of_pos_right m hy.significand_pos)

theorem IsNormal.product_lt (hx : IsNormal x m e) (hy : IsNormal y n f) :
    m * n < 2 ^ (53 + 53) := by
  rw [Nat.pow_add]
  exact Nat.mul_lt_mul'' hx.significand_lt hy.significand_lt

theorem IsNormal.exists_mul (hx : IsNormal x m e) (hy : IsNormal y n f) (bottom : -1074 ≤ e + f)
    (top : e + f ≤ 917) : ∃ p g, IsNormal (x * y) p g := by
  rw [hx.mul_eq hy]
  obtain ⟨p, g, normal, -, -⟩ := exists_isNormal_rounded (hx.le_product hy) (hx.product_lt hy)
    bottom (by omega) .exact
  exact ⟨p, g, normal⟩

theorem IsNormal.mul_le (hx : IsNormal x m e) (hy : IsNormal y n f) (bottom : -1074 ≤ e + f)
    (top : f ≤ 970) (h : x ≤ 1) : x * y ≤ y := by
  obtain ⟨d, split, share⟩ := hx.exists_le_mul isNormal_one h
  have above : IsNormal y n (e + f + (52 + d : Nat)) := by
    convert hy using 1
    omega
  rw [hx.mul_eq hy]
  refine rounded_le (hx.le_product hy) bottom (by omega) above ?_
  calc
    m * n ≤ 2 ^ 52 * 2 ^ d * n := Nat.mul_le_mul_right n share
    _ = n * 2 ^ (52 + d) := by ring

/-! ## Shares -/

theorem lt_iff_unpack : x < y ↔ x.toModel.unpack.lt y.toModel.unpack = true :=
  decide_eq_true_iff

theorem IsNormal.pos (hx : IsNormal x m e) : 0 < x := by
  rw [lt_iff_unpack, hx.unpack_eq]
  rfl

/-- Zero divided by any positive number, be it infinite, is zero. -/
theorem zero_div_of_pos (h : 0 < x) : 0 / x = 0 := by
  have positive : UnpackedFloat.lt (.zero .positive) x.toModel.unpack = true := lt_iff_unpack.mp h
  change Float.ofModel (.pack (UnpackedFloat.div .binary64 (.zero .positive) x.toModel.unpack)) = 0
  generalize x.toModel.unpack = u at positive ⊢
  cases u with
  | notANumber => cases positive
  | zero s => cases s <;> cases positive
  | infinity s =>
    cases s with
    | negative => cases positive
    | positive => rfl
  | finite s m e pos =>
    cases s with
    | negative => cases positive
    | positive => rfl

theorem IsNormal.zero_mul (hx : IsNormal x m e) : 0 * x = 0 := by
  change Float.ofModel (.pack (UnpackedFloat.mul .binary64 (.zero .positive) x.toModel.unpack)) = 0
  rw [hx.unpack_eq]
  rfl

/-- The share that one counter has in another, of a number of moderate size. -/
theorem share_bounds {a b : Nat} (hx : IsNormal x m e) (bottom : -900 ≤ e) (top : e ≤ 900)
    (pos : 0 < b) (small_a : a < 2 ^ 64) (small_b : b < 2 ^ 64) :
    0 ≤ ofNat a / ofNat b * x ∧ (a ≤ b → ofNat a / ofNat b * x ≤ x) := by
  obtain ⟨n, f, hb, low_f, high_f⟩ := exists_isNormal_ofNat pos small_b
  rcases a.eq_zero_or_pos with rfl | some_a
  · have none : ofNat 0 / ofNat b * x = 0 := by
      change 0 / ofNat b * x = 0
      rw [zero_div_of_pos hb.pos, hx.zero_mul]
    rw [none]
    exact ⟨by decide +kernel, fun _ => hx.zero_le⟩
  · obtain ⟨k, g, ha, low_g, high_g⟩ := exists_isNormal_ofNat some_a small_a
    obtain ⟨p, i, quotient, low_i, high_i⟩ := ha.exists_div hb (by omega) (by omega)
    obtain ⟨q, j, product⟩ := quotient.exists_mul hx (by omega) (by omega)
    refine ⟨product.zero_le, fun le => quotient.mul_le hx (by omega) (by omega) ?_⟩
    exact ha.div_le_one hb (by omega) (ofNat_le_ofNat some_a le small_b)

end HostMonitor.Binary64
