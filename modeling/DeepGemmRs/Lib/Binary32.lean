import Mathlib.Algebra.Order.Field.Basic
import Mathlib.Algebra.Order.Field.Power
import Mathlib.Data.Rat.Cast.Order
import Mathlib.Tactic.FieldSimp
import Mathlib.Tactic.Linarith
import Mathlib.Tactic.NormNum
import Mathlib.Tactic.Positivity

/-!
# IEEE 754 binary32 words

* `sign`, `exponent`, `fraction` : the fields of a word;
* `Normal`, `value` : the normal numbers and what they stand for;
* `IsPowerOfTwo` : a positive normal power of two; `isPowerOfTwo_iff`, by the fields.
-/

namespace Binary32

/-- The sign bit. -/
def sign (w : BitVec 32) : BitVec 1 := w.extractLsb' 31 1

/-- The biased exponent. -/
def exponent (w : BitVec 32) : BitVec 8 := w.extractLsb' 23 8

/-- The fraction, without the leading bit. -/
def fraction (w : BitVec 32) : BitVec 23 := w.extractLsb' 0 23

/-- Neither zero, subnormal, infinite nor a NaN. -/
def Normal (w : BitVec 32) : Prop := exponent w ≠ 0 ∧ exponent w ≠ 255

instance (w : BitVec 32) : Decidable (Normal w) := inferInstanceAs (Decidable (_ ∧ _))

/-- The value of a normal word. -/
def value (w : BitVec 32) : ℚ :=
  (-1) ^ (sign w).toNat * (1 + (fraction w).toNat / 2 ^ 23) * 2 ^ ((exponent w).toNat - 127 : ℤ)

/-- A normal word whose value is a power of two, hence positive. -/
def IsPowerOfTwo (w : BitVec 32) : Prop := Normal w ∧ ∃ z : ℤ, value w = 2 ^ z

/-- A power of two between one and two is one. -/
theorem eq_one_of_zpow {x : ℚ} {z : ℤ} (h1 : 1 ≤ x) (h2 : x < 2) (h : x = 2 ^ z) : x = 1 := by
  have hz0 : 0 ≤ z := by
    by_contra hz
    have : (2 : ℚ) ^ z < 1 := zpow_lt_one_of_neg₀ (by norm_num) (not_le.mp hz)
    linarith
  have hz1 : z < 1 := by
    by_contra hz
    have : (2 : ℚ) ^ (1 : ℤ) ≤ 2 ^ z := zpow_le_zpow_right₀ (by norm_num) (not_lt.mp hz)
    rw [zpow_one] at this
    linarith
  rw [h, show z = 0 by omega, zpow_zero]

theorem isPowerOfTwo_iff {w : BitVec 32} : IsPowerOfTwo w ↔ Normal w ∧ sign w = 0 ∧ fraction w = 0 := by
  refine and_congr_right fun _ => ⟨?_, ?_⟩
  · rintro ⟨z, hz⟩
    have hpow : (0 : ℚ) < 2 ^ ((exponent w).toNat - 127 : ℤ) := zpow_pos (by norm_num) _
    have hf0 : (0 : ℚ) ≤ (fraction w).toNat / 2 ^ 23 := by positivity
    have hf1 : ((fraction w).toNat : ℚ) / 2 ^ 23 < 1 := by
      rw [div_lt_one (by positivity)]
      exact_mod_cast (fraction w).isLt
    have hsign : sign w = 0 := by
      by_contra hs
      have hone : (sign w).toNat = 1 := by
        have := (sign w).isLt
        have hne : (sign w).toNat ≠ 0 := fun h => hs (BitVec.eq_of_toNat_eq h)
        omega
      have hneg : value w ≤ 0 := by
        rw [value, hone, pow_one]
        nlinarith
      rw [hz] at hneg
      exact absurd (zpow_pos (by norm_num : (0 : ℚ) < 2) z) (not_lt.mpr hneg)
    refine ⟨hsign, ?_⟩
    have hsig : 1 + ((fraction w).toNat : ℚ) / 2 ^ 23 = 2 ^ (z - ((exponent w).toNat - 127 : ℤ)) := by
      rw [zpow_sub₀ (by norm_num), ← hz, value, hsign]
      field_simp
      simp
    have hone := eq_one_of_zpow (by linarith) (by linarith) hsig
    have hzero : ((fraction w).toNat : ℚ) = 0 := by
      have hdiv : ((fraction w).toNat : ℚ) / 2 ^ 23 = 0 := by linarith
      rcases div_eq_zero_iff.mp hdiv with h | h
      · exact h
      · norm_num at h
    exact BitVec.eq_of_toNat_eq (by exact_mod_cast hzero)
  · rintro ⟨hs, hf⟩
    refine ⟨(exponent w).toNat - 127, ?_⟩
    rw [value, hs, hf]
    simp

/-! ## Bits -/

/-- The bits of the fields. -/
theorem getLsbD_fields (w : BitVec 32) :
    (∀ i, (fraction w).getLsbD i = (decide (i < 23) && w.getLsbD i)) ∧
      (∀ i, (exponent w).getLsbD i = (decide (i < 8) && w.getLsbD (23 + i))) ∧
      ∀ i, (sign w).getLsbD i = (decide (i < 1) && w.getLsbD (31 + i)) := by
  refine ⟨fun i => ?_, fun i => ?_, fun i => ?_⟩
  · rw [fraction, BitVec.getLsbD_extractLsb', Nat.zero_add]
  · rw [exponent, BitVec.getLsbD_extractLsb']
  · rw [sign, BitVec.getLsbD_extractLsb']

/-- Without a sign a word holds its exponent above its fraction. -/
theorem ushiftRight_eq {w : BitVec 32} (hs : sign w = 0) : w >>> 23 = (exponent w).setWidth 32 := by
  obtain ⟨-, he, hsign⟩ := getLsbD_fields w
  have h31 := hsign 0
  rw [hs] at h31
  refine BitVec.eq_of_getLsbD_eq fun i hi => ?_
  rw [BitVec.getLsbD_ushiftRight, BitVec.getLsbD_setWidth, he]
  by_cases h8 : i < 8
  · simp [h8, hi]
  · by_cases h : i = 8
    · subst h
      simpa using h31.symm
    · rw [BitVec.getLsbD_of_ge w (23 + i) (by omega)]
      simp [h8]

/-- Without a fraction either, it is its exponent. -/
theorem eq_shift {w : BitVec 32} (hs : sign w = 0) (hf : fraction w = 0) : w = (exponent w).setWidth 32 <<< 23 := by
  obtain ⟨hfraction, -, -⟩ := getLsbD_fields w
  rw [← ushiftRight_eq hs]
  refine BitVec.eq_of_getLsbD_eq fun i hi => ?_
  rw [BitVec.getLsbD_shiftLeft, BitVec.getLsbD_ushiftRight]
  by_cases h : i < 23
  · have hbit := hfraction i
    rw [hf] at hbit
    simpa [h] using hbit.symm
  · simp [h, hi, show 23 + (i - 23) = i by omega]

end Binary32
