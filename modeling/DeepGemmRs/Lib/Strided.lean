import Mathlib.Algebra.Order.Ring.Int
import Mathlib.Data.Int.ConditionallyCompleteOrder
import Mathlib.Data.Set.Function
import Mathlib.Tactic.Linarith

/-!
# Strided views of a buffer

A two-dimensional view addresses element `(i, j)` at `i * rowStride + j * colStride` of its
buffer. `View.Sound v count` says that a buffer of `count` elements holds the view and that no two
of its elements share a place.

* `View.Sound.rowMajor` : a row-major view with padded rows;
* `View.Sound.transpose` : and so its transpose, which is how a column-major view is made.
-/

namespace Strided

/-- A two-dimensional view: its extents and its strides, in elements. -/
structure View where
  rows : ℤ
  cols : ℤ
  rowStride : ℤ
  colStride : ℤ

namespace View

/-- The indices of the view. -/
def Index (v : View) : Set (ℤ × ℤ) := Set.Ico 0 v.rows ×ˢ Set.Ico 0 v.cols

/-- The place of an element in the buffer. -/
def offset (v : View) (p : ℤ × ℤ) : ℤ := p.1 * v.rowStride + p.2 * v.colStride

/-- The view with its two axes exchanged. -/
def transpose (v : View) : View := ⟨v.cols, v.rows, v.colStride, v.rowStride⟩

/-- The view lies in a buffer of `count` elements, with distinct elements in distinct places. -/
structure Sound (v : View) (count : ℤ) : Prop where
  inBounds : Set.MapsTo v.offset v.Index (Set.Ico 0 count)
  aliasFree : Set.InjOn v.offset v.Index

theorem mem_index {v : View} {p : ℤ × ℤ} :
    p ∈ v.Index ↔ (0 ≤ p.1 ∧ p.1 < v.rows) ∧ 0 ≤ p.2 ∧ p.2 < v.cols := Iff.rfl

theorem offset_transpose (v : View) (p : ℤ × ℤ) : v.transpose.offset p = v.offset p.swap :=
  Int.add_comm _ _

theorem swap_mem_index {v : View} {p : ℤ × ℤ} (h : p ∈ v.transpose.Index) : p.swap ∈ v.Index :=
  ⟨h.2, h.1⟩

theorem Sound.transpose {v : View} {count : ℤ} (h : v.Sound count) : v.transpose.Sound count where
  inBounds p hp := by
    rw [offset_transpose]
    exact h.inBounds (swap_mem_index hp)
  aliasFree p hp q hq hpq := by
    rw [offset_transpose, offset_transpose] at hpq
    exact Prod.swap_injective (h.aliasFree (swap_mem_index hp) (swap_mem_index hq) hpq)

/-- Rows padded to `stride`: the place determines the row by division and the column by remainder. -/
theorem Sound.rowMajor {rows cols allocRows stride : ℤ} (hrows : rows ≤ allocRows)
    (hcols : cols ≤ stride) : (View.mk rows cols stride 1).Sound (allocRows * stride) where
  inBounds p hp := by
    obtain ⟨⟨h1, h2⟩, h3, h4⟩ := mem_index.mp hp
    simp only at h2 h4
    have h5 : (p.1 + 1) * stride ≤ allocRows * stride :=
      Int.mul_le_mul_of_nonneg_right (by omega) (by omega)
    have h6 : 0 ≤ p.1 * stride := Int.mul_nonneg h1 (by omega)
    simp only [offset, Set.mem_Ico, Int.mul_one]
    rw [Int.add_mul, Int.one_mul] at h5
    omega
  aliasFree p hp q hq hpq := by
    obtain ⟨-, h1, h2⟩ := mem_index.mp hp
    obtain ⟨-, h3, h4⟩ := mem_index.mp hq
    simp only [offset, Int.mul_one] at h2 h4 hpq
    have hs : 0 < stride := by omega
    have hdiv : ∀ i j : ℤ, 0 ≤ j → j < stride → (i * stride + j) / stride = i := by
      intro i j h0 hlt
      rw [Int.add_comm, Int.add_mul_ediv_right _ _ hs.ne', Int.ediv_eq_zero_of_lt h0 hlt, Int.zero_add]
    have hi : p.1 = q.1 := by
      rw [← hdiv p.1 p.2 h1 (by omega), ← hdiv q.1 q.2 h3 (by omega), hpq]
    rw [hi] at hpq
    exact Prod.ext hi (by omega)

/-- Columns padded to `stride`. -/
theorem Sound.colMajor {rows cols allocCols stride : ℤ} (hcols : cols ≤ allocCols)
    (hrows : rows ≤ stride) : (View.mk rows cols 1 stride).Sound (allocCols * stride) :=
  (Sound.rowMajor hcols hrows).transpose

end View

end Strided
