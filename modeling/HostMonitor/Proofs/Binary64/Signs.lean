import HostMonitor.Proofs.Binary64.Rounding

/-!
# Numbers that are not negative

Rounding may turn a positive quotient into zero or into infinity, but never into a negative number
or into something that is no number. So quotients and products of numbers that are not negative are
not negative either, as long as they mean anything.
-/

namespace HostMonitor.Binary64

open Float.Model Float.Model.UnpackedFloat

variable {x y z : Float} {u v w : UnpackedFloat} {m : Nat} {e : Int}

/-- A positive number, which may be infinite. -/
inductive IsPositive : UnpackedFloat → Prop where
  | finite (m : Nat) (e : Int) (pos : 0 < m) : IsPositive (.finite .positive m e pos)
  | infinity : IsPositive (.infinity .positive)

/-- Zero or a positive number, where zero has no sign. -/
inductive IsUnsigned : UnpackedFloat → Prop where
  | zero : IsUnsigned (.zero .positive)
  | positive {u : UnpackedFloat} (h : IsPositive u) : IsUnsigned u

/-- A number that is not infinite. -/
def IsBounded (u : UnpackedFloat) : Prop :=
  ∀ s, u ≠ .infinity s

/-! ## Packing -/

theorem unpackSign_pack (h : IsUnsigned u) :
    unpackSign (UnpackedFloat.pack Format.binary64 u) = Sign.positive.toBitVec := by
  cases h with
  | zero => exact unpackSign_packComponents ..
  | positive h =>
    cases h with
    | infinity => exact unpackSign_packComponents ..
    | finite m e pos =>
      unfold UnpackedFloat.pack
      dsimp only
      split
      · exact unpackSign_packComponents ..
      split <;> exact unpackSign_packComponents ..

/-- A finite number is not packed with the exponent of those that are no numbers. -/
theorem unpackMantissa_pack (h : IsUnsigned u)
    (top : unpackExponent (UnpackedFloat.pack Format.binary64 u) = -1#_) :
    unpackMantissa (UnpackedFloat.pack Format.binary64 u) = 0#_ := by
  cases h with
  | zero => exact unpackMantissa_packComponents
  | positive h =>
    cases h with
    | infinity => exact unpackMantissa_packComponents
    | finite m e pos =>
      unfold UnpackedFloat.pack at top ⊢
      dsimp only at top ⊢
      split at top
      · next large =>
        rw [if_pos large]
        exact unpackMantissa_packComponents
      · next small =>
        change ¬2 ^ 11 ≤ _ + 1 at small
        split at top
        · rw [unpackExponent_packComponents] at top
          have field := congrArg BitVec.toNat top
          change _ % 2 ^ 11 = 2047 at field
          omega
        · rw [unpackExponent_packComponents] at top
          exact absurd top (by decide)

theorem isUnsigned_unpack {v : BitVec Format.binary64.numBits}
    (positive : unpackSign v = Sign.positive.toBitVec)
    (number : unpackExponent v = -1#_ → unpackMantissa v = 0#_) :
    IsUnsigned (unpack Format.binary64 v) := by
  unfold UnpackedFloat.unpack
  dsimp only
  rw [positive]
  by_cases top : unpackExponent v = -1#_
  · rw [if_pos top, if_pos (number top)]
    exact .positive .infinity
  rw [if_neg top]
  by_cases low : unpackExponent v = 0#_
  · rw [if_pos low]
    by_cases none : unpackMantissa v = 0#_
    · rw [dif_pos none]
      exact .zero
    · rw [dif_neg none]
      exact .positive (.finite ..)
  · rw [if_neg low]
    exact .positive (.finite ..)

theorem isUnsigned_pack (h : IsUnsigned u) :
    IsUnsigned (Float.ofModel (.pack u)).toModel.unpack :=
  isUnsigned_unpack (unpackSign_pack h) (unpackMantissa_pack h)

theorem isUnsigned_roundWithAccuracy (m : Nat) (e : Int) (a : Accuracy) :
    IsUnsigned (roundWithAccuracy .binary64 .positive m e a) := by
  have either (n : Nat) (f : Int) (pos : n ≠ 0 → 0 < n) :
      IsUnsigned (if none : n = 0 then .zero .positive else .finite .positive n f (pos none)) := by
    by_cases none : n = 0
    · rw [dif_pos none]
      exact .zero
    · rw [dif_neg none]
      exact .positive (.finite ..)
  exact either _ _ _

/-! ## Order -/

theorem IsUnsigned.zero_le (h : IsUnsigned x.toModel.unpack) : 0 ≤ x := by
  rw [le_iff_unpack]
  change UnpackedFloat.le (.zero .positive) _ = true
  generalize x.toModel.unpack = u at h ⊢
  cases h with
  | zero => rfl
  | positive h => cases h <;> rfl

theorem isPositive_of_lt (hu : IsUnsigned u) (h : u.lt v = true) : IsPositive v := by
  cases v with
  | notANumber => rcases hu with _ | (_ | _) <;> cases h
  | zero s => rcases hu with _ | (_ | _) <;> cases h
  | infinity s =>
    cases s with
    | negative => rcases hu with _ | (_ | _) <;> cases h
    | positive => exact .infinity
  | finite s m e pos =>
    cases s with
    | negative => rcases hu with _ | (_ | _) <;> cases h
    | positive => exact .finite ..

theorem isPositive_of_pos (h : 0 < x) : IsPositive x.toModel.unpack :=
  isPositive_of_lt .zero (lt_iff_unpack.mp h)

/-- Numbers are compared by exponent first and by significand then. -/
theorem then_lt_of_isLE_of_lt {f g : Int} {n k : Nat}
    (le : ((compare e f).then (compare m n)).isLE = true)
    (lt : (compare f g).then (compare n k) = .lt) : (compare e g).then (compare m k) = .lt :=
  @Std.TransCmp.lt_of_isLE_of_lt _ (compareLex (compareOn Prod.fst) (compareOn Prod.snd)) _
    (e, m) (f, n) (g, k) le lt

theorem lt_of_le_of_lt_of_isUnsigned (hu : IsUnsigned u) (hv : IsUnsigned v) (le : u.le v = true)
    (lt : v.lt w = true) : u.lt w = true := by
  have hw := isPositive_of_lt hv lt
  cases hu with
  | zero => cases hw <;> rfl
  | positive hu =>
    cases hv with
    | zero => cases hu <;> cases le
    | positive hv =>
      cases hu with
      | infinity =>
        cases hv with
        | finite n f pos => cases le
        | infinity => cases hw <;> cases lt
      | finite m e pos =>
        cases hw with
        | infinity => rfl
        | finite k g pos'' =>
          cases hv with
          | infinity => cases lt
          | finite n f pos' =>
            have below : (compare f g).then (compare n k) = .lt :=
              Option.some.inj (beq_iff_eq.mp lt)
            exact beq_iff_eq.mpr (congrArg some (then_lt_of_isLE_of_lt le below))

theorem IsUnsigned.lt_of_le_of_lt (hx : IsUnsigned x.toModel.unpack)
    (hy : IsUnsigned y.toModel.unpack) (le : x ≤ y) (lt : y < z) : x < z :=
  lt_iff_unpack.mpr
    (lt_of_le_of_lt_of_isUnsigned hx hy (le_iff_unpack.mp le) (lt_iff_unpack.mp lt))

theorem IsNormal.isPositive (hx : IsNormal x m e) : IsPositive x.toModel.unpack :=
  hx.unpack_eq ▸ .finite ..

theorem IsNormal.isBounded (hx : IsNormal x m e) : IsBounded x.toModel.unpack := by
  rw [hx.unpack_eq]
  exact fun s => nofun

/-! ## Quotients and products -/

theorem isUnsigned_div (hu : IsUnsigned u) (hv : IsPositive v)
    (bounded : IsBounded u ∨ IsBounded v) :
    IsUnsigned (UnpackedFloat.div .binary64 u v) := by
  cases hu with
  | zero => cases hv <;> exact .zero
  | positive hu =>
    cases hu with
    | finite m e pos =>
      cases hv with
      | finite n f pos' => exact isUnsigned_roundWithAccuracy ..
      | infinity => exact .zero
    | infinity =>
      cases hv with
      | finite n f pos' => exact .positive .infinity
      | infinity => exact absurd rfl (bounded.elim (· .positive) (· .positive))

theorem isUnsigned_mul (hu : IsUnsigned u) (hv : IsPositive v) (bounded : IsBounded v) :
    IsUnsigned (UnpackedFloat.mul .binary64 u v) := by
  cases hv with
  | infinity => exact absurd rfl (bounded .positive)
  | finite n f pos' =>
    cases hu with
    | zero => exact .zero
    | positive hu =>
      cases hu with
      | finite m e pos => exact isUnsigned_roundWithAccuracy ..
      | infinity => exact .positive .infinity

theorem IsUnsigned.div (hx : IsUnsigned x.toModel.unpack) (hy : IsPositive y.toModel.unpack)
    (bounded : IsBounded x.toModel.unpack ∨ IsBounded y.toModel.unpack) :
    IsUnsigned (x / y).toModel.unpack :=
  isUnsigned_pack (isUnsigned_div hx hy bounded)

theorem IsUnsigned.mul (hx : IsUnsigned x.toModel.unpack) (hy : IsNormal y m e) :
    IsUnsigned (x * y).toModel.unpack :=
  isUnsigned_pack (isUnsigned_mul hx hy.isPositive hy.isBounded)

/-! ## Counters -/

theorem isUnsigned_ofNat {n : Nat} (small : n < 2 ^ 64) :
    IsUnsigned (ofNat n).toModel.unpack ∧ IsBounded (ofNat n).toModel.unpack := by
  rcases n.eq_zero_or_pos with rfl | pos
  · exact ⟨.zero, fun s => nofun⟩
  · obtain ⟨m, e, normal, -, -⟩ := exists_isNormal_ofNat pos small
    exact ⟨.positive normal.isPositive, normal.isBounded⟩

end HostMonitor.Binary64
