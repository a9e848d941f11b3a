import HostMonitor.Binary64.Arithmetic
import Mathlib.Tactic.Ring

/-!
# Normal numbers

A positive normal number is `m * 2 ^ e` with a significand `m` of 53 bits. It keeps both parts when
it is packed, and numbers are compared by exponent first and by significand then. Counters are
rounded to normal numbers in their own order.
-/

namespace HostMonitor.Binary64

open Float.Model Float.Model.UnpackedFloat

variable {x y : Float} {m n : Nat} {e f : Int}

/-- The significands and exponents of normal numbers. -/
structure IsNormalPair (m : Nat) (e : Int) : Prop where
  le_significand : 2 ^ 52 ≤ m
  significand_lt : m < 2 ^ 53
  le_exponent : -1074 ≤ e
  exponent_le : e ≤ 971

theorem IsNormalPair.significand_pos (h : IsNormalPair m e) : 0 < m :=
  Nat.lt_of_lt_of_le (by decide) h.le_significand

theorem IsNormalPair.log2_significand (h : IsNormalPair m e) : m.log2 = 52 :=
  (Nat.log2_eq_iff h.significand_pos.ne').mpr ⟨h.le_significand, h.significand_lt⟩

/-- `x` is the positive normal number `m * 2 ^ e`. -/
structure IsNormal (x : Float) (m : Nat) (e : Int) : Prop extends IsNormalPair m e where
  unpack_eq : x.toModel.unpack = .finite .positive m e toIsNormalPair.significand_pos

/-! ## Packing -/

theorem toNat_one_append (v : BitVec 52) : (1#1 ++ v).toNat = 2 ^ 52 + v.toNat := by
  rw [BitVec.toNat_append, ← Nat.shiftLeft_add_eq_or_of_lt v.isLt]
  rfl

/-- An exponent field that is neither the one of subnormal numbers nor the one of infinities makes a
normal number. -/
theorem unpack_of_fields {v : BitVec Format.binary64.numBits} (positive : unpackSign v = 0#1)
    (exponent : (unpackExponent v).toNat = (e + 1075).toNat)
    (fraction : (unpackMantissa v).toNat + 2 ^ 52 = m) (h : IsNormalPair m e) :
    unpack Format.binary64 v = .finite .positive m e h.significand_pos := by
  have low := h.le_exponent
  have high := h.exponent_le
  have finite : unpackExponent v ≠ -1#_ := by
    intro all
    rw [all] at exponent
    change 2047 = _ at exponent
    omega
  have normal : unpackExponent v ≠ 0#_ := by
    intro none
    rw [none] at exponent
    change 0 = _ at exponent
    omega
  have unbiased : ((unpackExponent v).toNat : Int) -
      (Format.binary64.exponentBias + (52 : Nat)) = e := by
    change _ - (1023 + 52) = e
    omega
  have whole : (1#1 ++ unpackMantissa v).toNat = m := by
    rw [toNat_one_append, ← fraction, Nat.add_comm]
  unfold UnpackedFloat.unpack
  subst whole unbiased
  dsimp only
  rw [if_neg finite, if_neg normal, positive]
  rfl

theorem unpackSign_eq {format : Format} (v : BitVec format.numBits) :
    unpackSign v =
      let position := format.mantissaBitsWithoutImplicit + format.exponentBits
      (v.extractLsb position position).cast (by omega) :=
  rfl

theorem unpackSign_packComponents (format : Format) (s : Sign)
    (exponent : BitVec format.exponentBits)
    (fraction : BitVec format.mantissaBitsWithoutImplicit) :
    unpackSign (packComponents format s exponent fraction) = s.toBitVec := by
  refine BitVec.eq_of_getLsbD_eq fun i hi => ?_
  have first : i = 0 := by omega
  subst first
  simp [unpackSign_eq, packComponents, BitVec.getLsbD_append, BitVec.getElem_append]

theorem isNormal_pack (h : IsNormalPair m e) :
    IsNormal (.ofModel (.pack (.finite .positive m e h.significand_pos))) m e := by
  refine ⟨h, ?_⟩
  have low := h.le_exponent
  have high := h.exponent_le
  have fits : ¬2 ^ 11 ≤ (e + 1075).toNat + 1 := by omega
  have fields : UnpackedFloat.pack Format.binary64 (.finite .positive m e h.significand_pos) =
      packComponents .binary64 .positive (.ofNat 11 (e + 1075).toNat) (.ofNat 52 m) := by
    have biased : e + Format.binary64.exponentBias + (52 : Nat) = e + 1075 := by
      change e + 1023 + 52 = _
      omega
    unfold UnpackedFloat.pack
    simp only [biased, h.log2_significand]
    rw [if_neg fits]
    rfl
  change unpack _ (UnpackedFloat.pack _ (.finite .positive m e h.significand_pos)) = _
  rw [fields]
  refine unpack_of_fields ?_ ?_ ?_ h
  · exact unpackSign_packComponents _ _ _ _
  · rw [unpackExponent_packComponents]
    exact Nat.mod_eq_of_lt (by omega)
  · rw [unpackMantissa_packComponents]
    change m % 2 ^ 52 + 2 ^ 52 = m
    have := h.le_significand
    have := h.significand_lt
    omega

/-! ## Bits -/

theorem isNormal_ofBits {bits : Nat} (low : fractionUnits ≤ bits) (high : bits < infinityBits) :
    IsNormal (ofBits false bits) (bits % fractionUnits + fractionUnits)
      ((bits / fractionUnits : Nat) - 1075) := by
  change 2 ^ 52 ≤ bits at low
  change bits < 2047 * 2 ^ 52 at high
  have pair : IsNormalPair (bits % 2 ^ 52 + 2 ^ 52) ((bits / 2 ^ 52 : Nat) - 1075) :=
    ⟨by omega, by omega, by omega, by omega⟩
  have word : (UInt64.ofNat (0 + bits)).toBitVec.toNat = bits := by
    rw [Nat.zero_add]
    exact Nat.mod_eq_of_lt (by omega)
  have unpacked := unpack_of_fields (v := (UInt64.ofNat (0 + bits)).toBitVec) ?sign ?exponent
    ?fraction pair
  case sign =>
    apply BitVec.eq_of_toNat_eq
    simp only [unpackSign_eq, BitVec.toNat_cast, BitVec.extractLsb_toNat, word,
      Nat.shiftRight_eq_div_pow]
    change _ = 0
    omega
  case exponent =>
    simp only [unpackExponent, BitVec.toNat_cast, BitVec.extractLsb_toNat, word,
      Nat.shiftRight_eq_div_pow]
    omega
  case fraction =>
    simp only [unpackMantissa, BitVec.toNat_cast, BitVec.extractLsb_toNat, word,
      Nat.shiftRight_eq_div_pow]
    omega
  have packed := isNormal_pack pair
  rw [← unpacked] at packed
  exact packed

/-! ## Order -/

theorem le_iff_unpack : x ≤ y ↔ x.toModel.unpack.le y.toModel.unpack = true :=
  decide_eq_true_iff

theorem IsNormal.le_iff (hx : IsNormal x m e) (hy : IsNormal y n f) :
    x ≤ y ↔ e < f ∨ e = f ∧ m ≤ n := by
  rw [le_iff_unpack, hx.unpack_eq, hy.unpack_eq]
  change ((compare e f).then (compare m n)).isLE = true ↔ _
  rcases lt_trichotomy e f with less | same | more
  · simp [compare_lt_iff_lt.mpr less, less]
  · simp [same, Nat.isLE_compare]
  · simp [compare_gt_iff_gt.mpr more, more.le, more.ne']

/-- The smaller number in units of the larger one's exponent. -/
theorem IsNormal.exists_le_mul (hx : IsNormal x m e) (hy : IsNormal y n f) (h : x ≤ y) :
    ∃ d : Nat, f = e + d ∧ m ≤ n * 2 ^ d := by
  rcases (hx.le_iff hy).mp h with less | ⟨same, le⟩
  · obtain ⟨d, rfl⟩ : ∃ d : Nat, f = e + (d + 1 : Nat) := ⟨(f - e).toNat - 1, by omega⟩
    have doubled : m ≤ n * 2 := by
      have := hx.significand_lt
      have := hy.le_significand
      omega
    refine ⟨d + 1, rfl, doubled.trans (Nat.mul_le_mul_left n ?_)⟩
    rw [Nat.pow_succ']
    exact Nat.le_mul_of_pos_right 2 (Nat.two_pow_pos d)
  · exact ⟨0, by omega, by simpa using le⟩

/-- Numbers in units of one exponent. -/
theorem IsNormal.le_of_mul_le {i j : Nat} (hx : IsNormal x m (e + i)) (hy : IsNormal y n (e + j))
    (h : m * 2 ^ i ≤ n * 2 ^ j) : x ≤ y := by
  rw [hx.le_iff hy]
  rcases Nat.lt_trichotomy i j with less | rfl | more
  · exact .inl (by omega)
  · exact .inr ⟨rfl, Nat.le_of_mul_le_mul_right h (Nat.two_pow_pos i)⟩
  · -- The significand of `x` has as many bits, so `x` is larger.
    obtain ⟨d, rfl⟩ := Nat.exists_eq_add_of_lt more
    have larger : n * 2 ^ j < m * 2 ^ (j + d + 1) := calc
      n * 2 ^ j < 2 ^ 53 * 2 ^ j :=
        Nat.mul_lt_mul_of_pos_right hy.significand_lt (Nat.two_pow_pos j)
      _ = 2 ^ 52 * 2 ^ (j + 1) := by ring
      _ ≤ m * 2 ^ (j + d + 1) :=
        Nat.mul_le_mul hx.le_significand (Nat.pow_le_pow_right (by decide) (by omega))
    omega

theorem IsNormal.zero_le (hx : IsNormal x m e) : 0 ≤ x := by
  rw [le_iff_unpack, hx.unpack_eq]
  rfl

/-! ## Counters -/

theorem roundedQuotient_le_roundedQuotient {a b den : Nat} (h : a ≤ b) :
    roundedQuotient a den ≤ roundedQuotient b den := by
  have quotients : a / den ≤ b / den := Nat.div_le_div_right h
  unfold roundedQuotient
  by_cases same : a / den = b / den
  · have := Nat.div_add_mod a den
    have := Nat.div_add_mod b den
    rw [same] at *
    have remainders : a % den ≤ b % den := by omega
    grind
  · dsimp only
    split <;> split <;> omega

/-- A quotient by a power of two has 53 bits before it is rounded. -/
theorem roundedQuotient_bounds {num k : Nat} (pos : num ≠ 0) (size : num.log2 = 52 + k) :
    2 ^ 52 ≤ roundedQuotient num (1 <<< k) ∧ roundedQuotient num (1 <<< k) ≤ 2 ^ 53 := by
  obtain ⟨low, high⟩ := (Nat.log2_eq_iff pos).mp size
  have floor : 2 ^ 52 ≤ num / 1 <<< k := by
    rw [Nat.one_shiftLeft, Nat.le_div_iff_mul_le (Nat.two_pow_pos k), ← Nat.pow_add]
    exact low
  have ceiling : num / 1 <<< k < 2 ^ 53 := by
    rw [Nat.one_shiftLeft, Nat.div_lt_iff_lt_mul (Nat.two_pow_pos k), ← Nat.pow_add]
    exact Nat.lt_of_lt_of_eq high (by ring)
  unfold roundedQuotient
  dsimp only
  split <;> omega

theorem log2_shiftLeft (pos : n ≠ 0) (k : Nat) : (n <<< k).log2 = n.log2 + k := by
  induction k with
  | zero => rfl
  | succ k ih =>
    have scaled : 0 < n <<< k := Nat.shiftLeft_pos_iff.mpr (Nat.pos_of_ne_zero pos)
    rw [Nat.shiftLeft_succ, Nat.log2_two_mul scaled.ne', ih, Nat.add_assoc]

/-- The bits of the number nearest to `n`. -/
def counterBits (n : Nat) : Nat :=
  (n.log2 + 1022) * fractionUnits + roundedQuotient (n <<< 1074) (1 <<< (n.log2 + 1022))

theorem counterBits_bounds (pos : 0 < n) :
    (n.log2 + 1023) * fractionUnits ≤ counterBits n ∧
      counterBits n ≤ (n.log2 + 1024) * fractionUnits := by
  have size : (n <<< 1074).log2 = 52 + (n.log2 + 1022) := by
    rw [log2_shiftLeft pos.ne']
    omega
  have rounded := roundedQuotient_bounds (Nat.shiftLeft_pos_iff.mpr pos).ne' size
  have units : fractionUnits = 2 ^ 52 := rfl
  unfold counterBits
  rw [units]
  constructor <;> omega

theorem counterBits_le_counterBits (pos : 0 < m) (h : m ≤ n) : counterBits m ≤ counterBits n := by
  have sizes : m.log2 ≤ n.log2 :=
    (Nat.le_log2 (by omega)).mpr ((Nat.log2_self_le pos.ne').trans h)
  rcases sizes.eq_or_lt with same | more
  · have scaled : m <<< 1074 ≤ n <<< 1074 := by
      simpa only [Nat.shiftLeft_eq] using Nat.mul_le_mul_right _ h
    unfold counterBits
    rw [same]
    exact Nat.add_le_add_left (roundedQuotient_le_roundedQuotient scaled) _
  · calc
      counterBits m ≤ (m.log2 + 1024) * fractionUnits := (counterBits_bounds pos).2
      _ ≤ (n.log2 + 1023) * fractionUnits := Nat.mul_le_mul_right _ (by omega)
      _ ≤ counterBits n := (counterBits_bounds (by omega)).1

/-- The exponents of the first and of the last counter that is not zero. -/
theorem counterBits_mem (pos : 0 < n) (small : n < 2 ^ 64) :
    1023 * fractionUnits ≤ counterBits n ∧ counterBits n ≤ 1087 * fractionUnits := by
  have size : n.log2 < 64 := (Nat.log2_lt pos.ne').mpr small
  obtain ⟨low, high⟩ := counterBits_bounds pos
  exact ⟨(Nat.mul_le_mul_right _ (by omega)).trans low,
    high.trans (Nat.mul_le_mul_right _ (by omega))⟩

theorem ofNat_eq_ofBits (pos : 0 < n) (small : n < 2 ^ 64) :
    ofNat n = ofBits false (counterBits n) := by
  have exponent : (n <<< 1074 / 1).log2 - 52 = n.log2 + 1022 := by
    rw [Nat.div_one, log2_shiftLeft pos.ne']
    omega
  have finite : counterBits n ≤ infinityBits :=
    (counterBits_mem pos small).2.trans (Nat.mul_le_mul_right _ (by decide))
  unfold ofNat ofRatio
  simp only [exponent]
  rw [if_neg pos.ne']
  exact congrArg (ofBits false) (min_eq_left finite)

theorem isNormal_ofNat (pos : 0 < n) (small : n < 2 ^ 64) :
    IsNormal (ofNat n) (counterBits n % fractionUnits + fractionUnits)
      ((counterBits n / fractionUnits : Nat) - 1075) := by
  have bits := counterBits_mem pos small
  have units : fractionUnits = 2 ^ 52 := rfl
  have infinite : infinityBits = 2047 * fractionUnits := rfl
  rw [ofNat_eq_ofBits pos small]
  exact isNormal_ofBits (by omega) (by omega)

theorem exists_isNormal_ofNat (pos : 0 < n) (small : n < 2 ^ 64) :
    ∃ m e, IsNormal (ofNat n) m e ∧ -52 ≤ e ∧ e ≤ 12 := by
  have bits := counterBits_mem pos small
  have units : fractionUnits = 2 ^ 52 := rfl
  rw [units] at bits
  refine ⟨_, _, isNormal_ofNat pos small, ?_, ?_⟩
  all_goals
    rw [units]
    omega

theorem ofNat_le_ofNat (pos : 0 < m) (h : m ≤ n) (small : n < 2 ^ 64) : ofNat m ≤ ofNat n := by
  have bits := counterBits_le_counterBits pos h
  have units : fractionUnits = 2 ^ 52 := rfl
  rw [(isNormal_ofNat pos (by omega)).le_iff (isNormal_ofNat (by omega) small), units]
  omega

end HostMonitor.Binary64
