import Mathlib.Algebra.Order.Floor.Div
import Mathlib.Algebra.Order.Ring.Int
import Mathlib.Data.Int.ConditionallyCompleteOrder
import Mathlib.GroupTheory.GroupAction.Ring
import Mathlib.Tactic.Linarith

/-!
# Rounding up over the integers

* the instance of Mathlib's ceiling division `b ⌈/⌉ a` at `ℤ`;
* `alignUp v a` : the least multiple of `a` that is at least `v`.

Programs compute both by truncating division: `ceilDiv_eq_ediv` and `alignUp_eq_of_emod`,
`alignUp_eq_ediv_mul` are the usual formulas.
-/

namespace Rounding

instance instCeilDivInt : CeilDiv ℤ ℤ where
  ceilDiv b a := if 0 < a then -(-b / a) else 0
  ceilDiv_gc a ha b c := by
    simp only [if_pos ha, smul_eq_mul]
    have h := Int.le_ediv_iff_mul_le (a := -c) (b := -b) ha
    constructor
    · intro hle
      have := h.mp (by omega)
      linarith [Int.neg_mul c a, Int.mul_comm c a]
    · intro hle
      have := h.mpr (by linarith [Int.neg_mul c a, Int.mul_comm c a])
      omega
  ceilDiv_nonpos a ha b := if_neg (by omega)
  zero_ceilDiv a := by simp

variable {a b v q : ℤ}

theorem ceilDiv_le_iff (ha : 0 < a) : b ⌈/⌉ a ≤ q ↔ b ≤ a * q := by
  rw [← smul_eq_mul]
  exact ceilDiv_le_iff_le_smul ha

theorem le_mul_ceilDiv (ha : 0 < a) : b ≤ a * (b ⌈/⌉ a) := (ceilDiv_le_iff ha).mp le_rfl

theorem le_ceilDiv_mul (ha : 0 < a) : b ≤ b ⌈/⌉ a * a := by
  rw [Int.mul_comm]
  exact le_mul_ceilDiv ha

theorem mul_ceilDiv_lt (ha : 0 < a) : a * (b ⌈/⌉ a) < b + a := by
  by_contra h
  have : b ⌈/⌉ a ≤ b ⌈/⌉ a - 1 := (ceilDiv_le_iff ha).mpr (by linarith [Int.mul_sub a (b ⌈/⌉ a) 1])
  omega

theorem ceilDiv_eq_iff (ha : 0 < a) : b ⌈/⌉ a = q ↔ b ≤ a * q ∧ a * q < b + a := by
  constructor
  · rintro rfl
    exact ⟨le_mul_ceilDiv ha, mul_ceilDiv_lt ha⟩
  · rintro ⟨h1, h2⟩
    refine le_antisymm ((ceilDiv_le_iff ha).mpr h1) ?_
    by_contra h
    have h3 : a * (b ⌈/⌉ a) ≤ a * (q - 1) := Int.mul_le_mul_of_nonneg_left (by omega) ha.le
    linarith [le_mul_ceilDiv (b := b) ha, Int.mul_sub a q 1]

/-- The formula programs use. -/
theorem ceilDiv_eq_ediv (ha : 0 < a) (b : ℤ) : b ⌈/⌉ a = (b + a - 1) / a := by
  have h := Int.emod_add_mul_ediv (b + a - 1) a
  have h0 := Int.emod_nonneg (b + a - 1) ha.ne'
  have h1 := Int.emod_lt_of_pos (b + a - 1) ha
  exact (ceilDiv_eq_iff ha).mpr ⟨by linarith, by linarith⟩

/-- The natural quotient is the integer one. -/
theorem natCast_ceilDiv {m : ℕ} (hm : 0 < m) (n : ℕ) : ((n ⌈/⌉ m : ℕ) : ℤ) = (n : ℤ) ⌈/⌉ (m : ℤ) := by
  rw [Nat.ceilDiv_eq_add_pred_div, ceilDiv_eq_ediv (by omega)]
  push_cast [show 1 ≤ n + m by omega]
  rfl

theorem ceilDiv_pos (ha : 0 < a) (hb : 0 < b) : 0 < b ⌈/⌉ a := by
  by_contra h
  have := (ceilDiv_le_iff ha).mp (not_lt.mp h)
  linarith [Int.mul_zero a]

theorem ceilDiv_nonneg (ha : 0 < a) (hb : 0 ≤ b) : 0 ≤ b ⌈/⌉ a := by
  rcases hb.lt_or_eq with h | rfl
  · exact (ceilDiv_pos ha h).le
  · rw [ceilDiv_eq_ediv ha]
    exact Int.ediv_nonneg (by omega) ha.le

theorem ceilDiv_le_self (ha : 0 < a) (hb : 0 ≤ b) : b ⌈/⌉ a ≤ b :=
  (ceilDiv_le_iff ha).mpr (by nlinarith)

theorem ceilDiv_anti {c : ℤ} (ha : 0 < a) (hac : a ≤ c) (hb : 0 ≤ b) : b ⌈/⌉ c ≤ b ⌈/⌉ a := by
  rw [ceilDiv_le_iff (by omega)]
  exact (le_mul_ceilDiv ha).trans (Int.mul_le_mul_of_nonneg_right hac (ceilDiv_nonneg ha hb))

/-- Two roundings are one, to the product. -/
theorem ceilDiv_ceilDiv (ha : 0 < a) (hb : 0 < b) (v : ℤ) : (v ⌈/⌉ a) ⌈/⌉ b = v ⌈/⌉ (a * b) := by
  apply le_antisymm
  · rw [ceilDiv_le_iff hb, ceilDiv_le_iff ha, ← Int.mul_assoc]
    exact le_mul_ceilDiv (Int.mul_pos ha hb)
  · rw [ceilDiv_le_iff (Int.mul_pos ha hb), Int.mul_assoc, ← ceilDiv_le_iff ha, ← ceilDiv_le_iff hb]

/-- The least multiple of `a` that is at least `v`. -/
def alignUp (v a : ℤ) : ℤ := a * (v ⌈/⌉ a)

theorem dvd_alignUp (v a : ℤ) : a ∣ alignUp v a := Int.dvd_mul_right a _

theorem le_alignUp (ha : 0 < a) : v ≤ alignUp v a := le_mul_ceilDiv ha

theorem alignUp_lt (ha : 0 < a) : alignUp v a < v + a := mul_ceilDiv_lt ha

theorem alignUp_le_iff (ha : 0 < a) (hq : a ∣ q) : alignUp v a ≤ q ↔ v ≤ q := by
  obtain ⟨c, rfl⟩ := hq
  rw [alignUp, mul_le_mul_iff_right₀ ha]
  exact ceilDiv_le_iff ha

theorem alignUp_eq_of_dvd (ha : 0 < a) (h : a ∣ v) : alignUp v a = v :=
  le_antisymm ((alignUp_le_iff ha h).mpr le_rfl) (le_alignUp ha)

theorem alignUp_eq_self_iff (ha : 0 < a) : alignUp v a = v ↔ a ∣ v := by
  constructor
  · intro h
    rw [← h]
    exact dvd_alignUp v a
  · exact alignUp_eq_of_dvd ha

/-- The formula by the remainder: nothing to add, or what is missing to the next multiple. -/
theorem alignUp_eq_of_emod (ha : 0 < a) (v : ℤ) :
    alignUp v a = if v % a = 0 then v else v + (a - v % a) := by
  split
  · next h => exact alignUp_eq_of_dvd ha (Int.dvd_of_emod_eq_zero h)
  · next h =>
    have h0 := Int.emod_nonneg v ha.ne'
    have h1 := Int.emod_lt_of_pos v ha
    have h2 := Int.emod_add_mul_ediv v a
    have h3 : v ⌈/⌉ a = v / a + 1 := (ceilDiv_eq_iff ha).mpr ⟨by linarith [Int.mul_add a (v / a) 1], by
      have : 0 < v % a := by omega
      linarith [Int.mul_add a (v / a) 1]⟩
    rw [alignUp, h3]
    linarith [Int.mul_add a (v / a) 1]

/-- The formula by two divisions. -/
theorem alignUp_eq_ediv_mul (ha : 0 < a) (v : ℤ) : alignUp v a = (v + a - 1) / a * a := by
  rw [alignUp, ceilDiv_eq_ediv ha, Int.mul_comm]

/-- A block of `a` that starts at a multiple of `a` below `v` ends within the aligned length. -/
theorem block_le_alignUp (ha : 0 < a) {c : ℤ} (hc : a ∣ c) (hcv : c < v) :
    c + a ≤ alignUp v a := by
  obtain ⟨i, rfl⟩ := hc
  have h : i < v ⌈/⌉ a := by
    by_contra h
    have := (ceilDiv_le_iff ha).mp (not_lt.mp h)
    omega
  have h2 : a * (i + 1) ≤ a * (v ⌈/⌉ a) := Int.mul_le_mul_of_nonneg_left (by omega) ha.le
  rw [alignUp]
  linarith [Int.mul_add a i 1]

end Rounding
