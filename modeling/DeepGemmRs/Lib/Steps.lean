import DeepGemmRs.Lib.Rounding
import Mathlib.Algebra.BigOperators.Group.List.Basic
import Mathlib.Algebra.Group.Pointwise.Set.Basic
import Mathlib.Data.Set.Lattice
import Mathlib.Tactic.Ring

/-!
# Steps

The places that an array reaches, as a sum of sets: one arithmetic progression for each axis, and an interval for
the element. In a sum the order of the axes does not matter, and axes that follow each other are merged.

* `steps n s` : the first `n` multiples of `s`;
* `steps_add_Ico` : intervals one after the other are an interval;
* `mem_sum_steps` : the coordinates of a place;
* `pages_union`, `pages_inter` : the two parts of pages;
* `units` : a set completed to whole units; `units_rows` : rows that are padded to the next unit;
* `units_rows_eq_iff` : there is nothing to complete exactly when the rows are whole units.
-/

namespace Steps

open Set Rounding
open scoped Pointwise

/-- The first `n` multiples of `s`. -/
def steps (n s : ℤ) : Set ℤ := (fun i => i * s) '' Ico 0 n

variable {n s x base size : ℤ}

theorem mem_steps : x ∈ steps n s ↔ ∃ i, (0 ≤ i ∧ i < n) ∧ i * s = x := Iff.rfl

theorem steps_one (s : ℤ) : steps 1 s = 0 := by
  ext x
  rw [mem_steps, mem_zero]
  constructor
  · rintro ⟨i, ⟨h0, h1⟩, rfl⟩
    rw [show i = 0 by omega, Int.zero_mul]
  · intro hx
    exact ⟨0, ⟨le_rfl, by decide⟩, by rw [hx, Int.zero_mul]⟩

theorem mem_shift {S : Set ℤ} : x ∈ {base} + S ↔ x - base ∈ S := by
  rw [singleton_add, mem_image]
  constructor
  · rintro ⟨y, hy, rfl⟩
    rwa [add_sub_cancel_left]
  · intro hx
    exact ⟨_, hx, by ring⟩

theorem shift_Ico (base n : ℤ) : {base} + Ico 0 n = Ico base (base + n) := by
  ext x
  rw [mem_shift, mem_Ico, mem_Ico]
  omega

theorem mem_steps_add {S : Set ℤ} : x ∈ steps n s + S ↔ ∃ i, (0 ≤ i ∧ i < n) ∧ x - i * s ∈ S := by
  rw [mem_add]
  constructor
  · rintro ⟨_, ⟨i, hi, rfl⟩, y, hy, rfl⟩
    exact ⟨i, hi, by rwa [add_sub_cancel_left]⟩
  · rintro ⟨i, hi, hy⟩
    exact ⟨i * s, ⟨i, hi, rfl⟩, _, hy, by ring⟩

/-- Where the rows do not overlap, the row of a place is its quotient. -/
theorem mem_steps_add_of_lt {S : Set ℤ} (hS : S ⊆ Ico 0 s) :
    x ∈ steps n s + S ↔ (0 ≤ x / s ∧ x / s < n) ∧ x % s ∈ S := by
  rw [mem_steps_add]
  constructor
  · rintro ⟨i, hi, hx⟩
    obtain ⟨h0, h1⟩ := hS hx
    have hs : 0 < s := h0.trans_lt h1
    have hquotient : x / s = i := by
      rw [show x = x - i * s + i * s by ring, Int.add_mul_ediv_right _ _ hs.ne', Int.ediv_eq_zero_of_lt h0 h1, Int.zero_add]
    have hrest : x % s = x - i * s := by rw [Int.emod_def, hquotient, Int.mul_comm]
    rw [hquotient, hrest]
    exact ⟨hi, hx⟩
  · rintro ⟨hi, hx⟩
    refine ⟨x / s, hi, ?_⟩
    rwa [show x - x / s * s = x % s by rw [Int.emod_def, Int.mul_comm]]

/-- Intervals one after the other are an interval. -/
theorem steps_add_Ico (hs : 0 < s) : steps n s + Ico 0 s = Ico 0 (n * s) := by
  ext x
  rw [mem_steps_add_of_lt Subset.rfl, mem_Ico, mem_Ico, Int.le_ediv_iff_mul_le hs, Int.ediv_lt_iff_lt_mul hs, Int.zero_mul]
  exact and_iff_left ⟨Int.emod_nonneg x hs.ne', Int.emod_lt_of_pos x hs⟩

/-- A place of several axes has a coordinate on each. -/
theorem mem_sum_steps {c : ℤ} {ns ss : List ℤ} (hlen : ns.length = ss.length) :
    x ∈ (List.zipWith (fun n s => steps n (c * s)) ns ss).sum ↔
      ∃ coord, List.Forall₂ (fun i n => 0 ≤ i ∧ i < n) coord ns ∧ c * (List.zipWith (· * ·) coord ss).sum = x := by
  induction ns generalizing ss x with
  | nil =>
    simp only [List.zipWith_nil_left, List.sum_nil, mem_zero, List.forall₂_nil_right_iff, exists_eq_left, mul_zero]
    exact eq_comm
  | cons n ns ih =>
    cases ss with
    | nil => cases hlen
    | cons s ss =>
      simp only [List.zipWith_cons_cons, List.sum_cons, mem_steps_add, ih (Nat.succ.inj hlen),
        List.forall₂_cons_right_iff]
      constructor
      · rintro ⟨i, hi, coord, hcoord, hx⟩
        refine ⟨i :: coord, ⟨i, coord, hi, hcoord, rfl⟩, ?_⟩
        rw [List.zipWith_cons_cons, List.sum_cons, mul_add, hx]
        ring
      · rintro ⟨_, ⟨i, coord, hi, hcoord, rfl⟩, hx⟩
        refine ⟨i, hi, coord, hcoord, ?_⟩
        rw [← hx, List.zipWith_cons_cons, List.sum_cons]
        ring

/-! ## Pages -/

section

variable {d w : ℤ}

theorem pages_union (hd : 0 ≤ d) (hw : 0 ≤ w) :
    steps n (d + w) + Ico 0 d ∪ (steps n (d + w) + Ico d (d + w)) = steps n (d + w) + Ico 0 (d + w) := by
  rw [← add_union, Ico_union_Ico_eq_Ico hd (by omega)]

theorem pages_inter (hd : 0 ≤ d) (hw : 0 ≤ w) :
    ({base} + (steps n (d + w) + Ico 0 d)) ∩ ({base} + (steps n (d + w) + Ico d (d + w))) = ∅ := by
  rw [eq_empty_iff_forall_notMem]
  rintro x ⟨hx, hx'⟩
  rw [mem_shift, mem_steps_add_of_lt (Ico_subset_Ico_right (by omega))] at hx
  rw [mem_shift, mem_steps_add_of_lt (Ico_subset_Ico_left hd)] at hx'
  have hlt := hx.2.2
  have hle := hx'.2.1
  omega

end

/-! ## Units -/

/-- The units, counted from `base`, that hold a place of the set. -/
def units (size base : ℤ) (S : Set ℤ) : Set ℤ := {x | ∃ y ∈ S, (x - base) / size = (y - base) / size}

section

variable {cols : ℤ}

/-- A padded row is a whole number of units. -/
theorem exists_units (hsize : 0 < size) (hn : 0 < n) :
    ∃ m, 0 < m ∧ alignUp n size = m * size ∧ n ≤ m * size ∧ m * size < n + size := by
  obtain ⟨m, hm⟩ := dvd_alignUp n size
  have hle : n ≤ alignUp n size := le_alignUp hsize
  have hlt : alignUp n size < n + size := alignUp_lt hsize
  rw [Int.mul_comm] at hm
  rw [hm] at hle hlt
  exact ⟨m, pos_of_mul_pos_left (hn.trans_le hle) hsize.le, hm, hle, hlt⟩

/-- The units of padded rows fill an interval. -/
theorem units_rows (hsize : 0 < size) (hn : 0 < n) :
    units size base ({base} + (steps cols (alignUp n size) + Ico 0 n)) = Ico base (base + cols * alignUp n size) := by
  obtain ⟨m, hm0, hm, hle, hlt⟩ := exists_units hsize hn
  rw [hm, ← shift_Ico, ← steps_add_Ico (Int.mul_pos hm0 hsize)]
  ext x
  -- the unit of a place is that of its row and of the place in the row
  have hunit : ∀ i v : ℤ, (i * (m * size) + v) / size = i * m + v / size := by
    intro i v
    rw [show i * (m * size) + v = v + i * m * size by ring, Int.add_mul_ediv_right _ _ hsize.ne', Int.add_comm]
  have hplace : ∀ i, x - base = i * (m * size) + (x - base - i * (m * size)) := fun i => by ring
  simp only [units, mem_ofPred_eq, mem_shift, mem_steps_add, mem_Ico]
  constructor
  · rintro ⟨y, ⟨i, hi, hv0, hv1⟩, hxy⟩
    rw [hplace i, show y - base = i * (m * size) + (y - base - i * (m * size)) by ring, hunit, hunit] at hxy
    have hquotient : (x - base - i * (m * size)) / size = (y - base - i * (m * size)) / size := by omega
    have h0 : 0 ≤ (y - base - i * (m * size)) / size := Int.ediv_nonneg hv0 hsize.le
    have h1 : (y - base - i * (m * size)) / size < m := (Int.ediv_lt_iff_lt_mul hsize).mpr (hv1.trans_le hle)
    rw [← hquotient] at h0 h1
    exact ⟨i, hi, by rwa [Int.le_ediv_iff_mul_le hsize, Int.zero_mul] at h0, (Int.ediv_lt_iff_lt_mul hsize).mp h1⟩
  · rintro ⟨i, hi, hr0, hr1⟩
    have hq0 : 0 ≤ (x - base - i * (m * size)) / size := Int.ediv_nonneg hr0 hsize.le
    have hq1 : (x - base - i * (m * size)) / size ≤ m - 1 :=
      Int.le_sub_one_of_lt ((Int.ediv_lt_iff_lt_mul hsize).mpr hr1)
    have hstart := Int.mul_le_mul_of_nonneg_right hq1 hsize.le
    rw [Int.sub_mul, Int.one_mul] at hstart
    -- the place where the unit starts is one of the row, whose last unit has been started
    refine ⟨base + (i * (m * size) + (x - base - i * (m * size)) / size * size), ⟨i, hi, ?_⟩, ?_⟩
    · rw [show base + (i * (m * size) + (x - base - i * (m * size)) / size * size) - base - i * (m * size) =
        (x - base - i * (m * size)) / size * size by ring]
      exact ⟨Int.mul_nonneg hq0 hsize.le, by omega⟩
    · rw [hplace i, add_sub_cancel_left, hunit, hunit, Int.mul_ediv_cancel _ hsize.ne']
      rw [add_sub_cancel_left]

/-- There is nothing to complete exactly when the rows are whole units. -/
theorem units_rows_eq_iff (hsize : 0 < size) (hn : 0 < n) (hcols : 0 < cols) :
    units size base ({base} + (steps cols (alignUp n size) + Ico 0 n)) =
      {base} + (steps cols (alignUp n size) + Ico 0 n) ↔ size ∣ n := by
  constructor
  · intro h
    obtain ⟨m, hm0, hm, hle, hlt⟩ := exists_units hsize hn
    -- the last place of the padding of the first row
    have hlast : base + (m * size - 1) ∈ Ico base (base + cols * alignUp n size) := by
      rw [hm]
      have hfirst : 1 * (m * size) ≤ cols * (m * size) := Int.mul_le_mul_of_nonneg_right hcols (by omega)
      rw [mem_Ico]
      omega
    rw [← units_rows hsize hn, h, mem_shift, add_sub_cancel_left, mem_steps_add] at hlast
    obtain ⟨i, ⟨hi0, -⟩, hr0, hr1⟩ := hlast
    rw [hm] at hr0 hr1
    have hi : i = 0 := by
      by_contra hne
      have hrow : 1 * (m * size) ≤ i * (m * size) := Int.mul_le_mul_of_nonneg_right (by omega) (by omega)
      omega
    rw [hi, Int.zero_mul] at hr1
    exact ⟨m, by rw [Int.mul_comm]; omega⟩
  · intro hdvd
    rw [units_rows hsize hn, alignUp_eq_of_dvd hsize hdvd, steps_add_Ico hn, shift_Ico]

end

end Steps
