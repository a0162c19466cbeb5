import Mathlib
import Wordsmith.Block.Basic

/-!
# Blocks without weights

An item without a weight weighs 1, and a block of such items can be entered if it has any. Weights
are numbers with 53 bits, and adding 1 to a large one may change nothing at all; but a sum that is at
least 1 stays so, and therefore is more than nothing.

Main result: `Block.totalWeight_pos`.
-/

namespace Wordsmith

open Float.Model Float.Model.UnpackedFloat

/-! ## Numbers that are at least 1 -/

/-- The number is at least 1: infinite, or with a full mantissa whose first bit counts 1 or more. -/
inductive IsLarge : UnpackedFloat → Prop
  | infinite : IsLarge (.infinity .positive)
  | finite {m : Nat} {e : Int} {h : 0 < m} (hlow : 2 ^ 52 ≤ m) (hhigh : m < 2 ^ 53) (he : -52 ≤ e) :
    IsLarge (.finite .positive m e h)

theorem log2_eq {m : Nat} (hlow : 2 ^ 52 ≤ m) (hhigh : m < 2 ^ 53) : m.log2 = 52 :=
  Nat.log2_eq_iff (by omega) |>.2 ⟨hlow, hhigh⟩

/-! ## Rounding -/

theorem mantissa_shiftRight (m : ExtendedMantissa) (k : Nat) :
    (m >>> k).mantissa = m.mantissa / 2 ^ k := by
  induction k with
  | zero => simp [HShiftRight.hShiftRight, Nat.repeat]
  | succ k ih =>
    have hstep : (m >>> (k + 1)).mantissa = (m >>> k).mantissa / 2 := rfl
    rw [hstep, ih, Nat.div_div_eq_div_mul, Nat.pow_succ]

theorem roundedMantissa_bounds (m : ExtendedMantissa) :
    m.mantissa ≤ m.roundedMantissa ∧ m.roundedMantissa ≤ m.mantissa + 1 := by
  obtain ⟨m, r, s⟩ := m
  cases r <;> cases s <;>
    simp [ExtendedMantissa.roundedMantissa, ExtendedMantissa.accuracy, Accuracy.roundToNearestEven]
  omega

/-- A mantissa that is long enough is shortened to 53 bits. -/
theorem exists_shift {m : Nat} {e : Int} (hm : 2 ^ 52 ≤ m) (he : -52 ≤ e) :
    ∃ (x : ExtendedMantissa) (k : Nat), shiftToTargetExponent .binary64 m e .exact = (x, e + k) ∧
      2 ^ 52 ≤ x.mantissa ∧ x.mantissa < 2 ^ 53 := by
  have hne : m ≠ 0 := by omega
  have hlog : 52 ≤ m.log2 := (Nat.le_log2 hne).2 hm
  have htarget : Format.binary64.targetExponent (totalExponent m e) - e = (m.log2 - 52 : Nat) := by
    simp only [Format.targetExponent, totalExponent, Format.mantissaBits, Format.minExponent]
    norm_num
    omega
  refine ⟨ExtendedMantissa.ofMantissaAndAccuracy m .exact >>> (m.log2 - 52), m.log2 - 52, ?_, ?_⟩
  · simp only [shiftToTargetExponent, shiftToExponent, htarget, Int.toNat_natCast]
  · have hpow : 0 < 2 ^ (m.log2 - 52) := Nat.two_pow_pos _
    rw [mantissa_shiftRight]
    refine ⟨(Nat.le_div_iff_mul_le hpow).2 ?_, (Nat.div_lt_iff_lt_mul hpow).2 ?_⟩
    · rw [← Nat.pow_add, Nat.add_sub_cancel' hlog]
      exact Nat.log2_self_le hne
    · have hexponent : 53 + (m.log2 - 52) = m.log2 + 1 := by omega
      rw [← Nat.pow_add, hexponent]
      exact Nat.lt_log2_self

/-- A number of at least 1 is rounded to one. -/
theorem isLarge_round {m : Nat} {e : Int} (hm : 2 ^ 52 ≤ m) (he : -52 ≤ e) :
    IsLarge (round .binary64 .positive m e) := by
  have hne : m ≠ 0 := by omega
  have hlog : 52 ≤ m.log2 := (Nat.le_log2 hne).2 hm
  have hkeep : decreaseExponent m e (Format.binary64.targetExponent (totalExponent m e)) = (m, e) := by
    have hnone : (e - Format.binary64.targetExponent (totalExponent m e)).toNat = 0 := by
      simp only [Format.targetExponent, totalExponent, Format.mantissaBits, Format.minExponent]
      norm_num
      omega
    simp [decreaseExponent, hnone]
  obtain ⟨x, k, hshift, hlow, -⟩ := exists_shift hm he
  have hrounded := Nat.le_trans hlow (roundedMantissa_bounds x).1
  -- Where rounding makes the mantissa longer, it is shortened again.
  obtain ⟨y, l, hshift', hlow', hhigh'⟩ := exists_shift hrounded (e := e + k) (by omega)
  have hpos : y.mantissa ≠ 0 := by omega
  simp only [UnpackedFloat.round, hkeep, roundWithAccuracy, hshift, hshift', hpos, dite_false]
  exact .finite hlow' hhigh' (by omega)

/-- One more than a number of at least 1 is one. -/
theorem isLarge_add {u : UnpackedFloat} (h : IsLarge u) (hpos : 0 < 2 ^ 52) :
    IsLarge (add .binary64 u (.finite .positive (2 ^ 52) (-52) hpos)) := by
  cases h with
  | infinite => exact .infinite
  | @finite m e h hlow hhigh he =>
    have hmin : min e (-52) = -52 := by omega
    have hle : 2 ^ 52 ≤ m <<< (e - -52).toNat + 2 ^ 52 := Nat.le_add_left _ _
    have hround := isLarge_round hle (Int.le_refl (-52))
    have hsum : add .binary64 (.finite .positive m e h) (.finite .positive (2 ^ 52) (-52) hpos) =
        round .binary64 .positive (m <<< (e - -52).toNat + 2 ^ 52) (-52) := by
      have hcompare : compare ((m <<< (e - -52).toNat + 2 ^ 52 : Nat) : Int) 0 = .gt :=
        Int.compare_eq_gt.2 (by omega)
      simp only [UnpackedFloat.add, hmin, decreaseExponent, Sign.apply, UnpackedFloat.normalize]
      have hnone : 2 ^ 52 <<< (-52 - -52 : Int).toNat = 2 ^ 52 := rfl
      rw [hnone, ← Int.natCast_add, hcompare]
      rfl
    rw [hsum]
    exact hround

/-! ## Numbers with 64 bits -/

/-- What is at least 1 is so with its bits packed. -/
theorem isLarge_unpack {u : UnpackedFloat} (h : IsLarge u) :
    IsLarge (unpack .binary64 (pack .binary64 u)) := by
  cases h with
  | infinite =>
    have hsame : unpack .binary64 (pack .binary64 (.infinity .positive)) = .infinity .positive := rfl
    rw [hsame]
    exact .infinite
  | @finite m e h hlow hhigh he =>
    simp only [UnpackedFloat.pack]
    split
    · have hsame : unpack .binary64 (packedInfinity .binary64 .positive) = .infinity .positive := rfl
      rw [hsame]
      exact .infinite
    · next hexponent =>
      rw [if_pos (by rw [log2_eq hlow hhigh]; rfl)]
      simp only [UnpackedFloat.unpack, unpackMantissa_packComponents, unpackExponent_packComponents,
        unpackSign_packComponents]
      have hbias : (Format.binary64.exponentBias : Int) = 1023 := rfl
      rw [hbias] at hexponent ⊢
      generalize hk : (e + 1023 + (52 : Nat)).toNat = k at hexponent ⊢
      have hkeep : (BitVec.ofNat 11 k).toNat = k := by
        rw [BitVec.toNat_ofNat, Nat.mod_eq_of_lt (by omega)]
      have hall : BitVec.ofNat 11 k ≠ -1#11 := fun heq => by
        have hmost := congrArg BitVec.toNat heq
        rw [hkeep] at hmost
        have : (-1#11).toNat = 2047 := rfl
        omega
      have hnone : BitVec.ofNat 11 k ≠ 0#11 := fun heq => by
        have hleast := congrArg BitVec.toNat heq
        rw [hkeep] at hleast
        have : (0#11).toNat = 0 := rfl
        omega
      have hmantissa : (1#1 ++ BitVec.ofNat 52 m).toNat = 2 ^ 52 + m % 2 ^ 52 := by
        rw [BitVec.toNat_append, BitVec.toNat_ofNat, ← Nat.shiftLeft_add_eq_or_of_lt (by omega)]
        rfl
      rw [if_neg hall, if_neg hnone]
      exact .finite (by omega) (by omega) (by omega)

theorem not_le_zero {x : Float} (h : IsLarge x.toModel.unpack) : ¬ x ≤ 0 := by
  intro hle
  have hzero : (0 : Float).toModel.unpack = .zero .positive := rfl
  have hle : x.toModel.unpack.le (0 : Float).toModel.unpack = true := of_decide_eq_true hle
  rw [hzero] at hle
  generalize x.toModel.unpack = u at h hle
  cases h <;> simp [UnpackedFloat.le, UnpackedFloat.compare] at hle

/-- The sum of weights that are 1 is more than nothing, if there are any. -/
theorem isLarge_sum {weights : List Float} (hones : ∀ w ∈ weights, w = 1) {x : Float}
    (h : IsLarge x.toModel.unpack) : IsLarge (weights.foldl (· + ·) x).toModel.unpack := by
  induction weights generalizing x with
  | nil => exact h
  | cons w weights ih =>
    obtain ⟨rfl, hrest⟩ := List.forall_mem_cons.1 hones
    exact ih hrest (isLarge_unpack (isLarge_add h (by decide)))

/-- A block of items that weigh 1 has some weight, if it has items. -/
theorem Block.totalWeight_pos {b : Block} (hones : ∀ w ∈ b.weights, w = 1) (hne : b.size ≠ 0) :
    ¬ b.totalWeight ≤ 0 := by
  rw [← b.length_weights] at hne
  rw [totalWeight]
  cases hweights : b.weights with
  | nil => simp [hweights] at hne
  | cons w weights =>
    rw [hweights] at hones
    obtain ⟨rfl, hrest⟩ := List.forall_mem_cons.1 hones
    have hone : IsLarge ((0 : Float) + 1).toModel.unpack := by
      have hunpack : ((0 : Float) + 1).toModel.unpack =
          .finite .positive (2 ^ 52) (-52) (by decide) := rfl
      rw [hunpack]
      exact .finite (by decide) (by decide) (by decide)
    exact not_le_zero (isLarge_sum hrest hone)

end Wordsmith
