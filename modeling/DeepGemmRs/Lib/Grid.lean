import DeepGemmRs.Lib.Rounding
import Mathlib.Data.Set.Prod

/-!
# Grids of threads

A grid of `blocks` blocks of `blockDim` threads works on a matrix, one cell a thread: the threads are
numbered block by block, the cells row by row, and the last block may have threads to spare.

* `threads`, `number` : the threads of a grid and their numbers;
* `existsUnique_number` : each number up to the size of the grid is that of one thread;
* `existsUnique_cell` : a grid with enough blocks has one thread for each cell.
-/

namespace Grid

open Rounding

/-- The threads of a grid, by block and by place in the block. -/
def threads (blocks blockDim : ℤ) : Set (ℤ × ℤ) := Set.Ico 0 blocks ×ˢ Set.Ico 0 blockDim

/-- The number of a thread, or of a cell in rows of that width. -/
def number (width : ℤ) (t : ℤ × ℤ) : ℤ := t.1 * width + t.2

/-- The cell with a number. -/
def cell (width x : ℤ) : ℤ × ℤ := (x / width, x % width)

variable {blocks blockDim rows cols width x : ℤ} {t : ℤ × ℤ}

theorem mem_threads : t ∈ threads blocks blockDim ↔ (0 ≤ t.1 ∧ t.1 < blocks) ∧ 0 ≤ t.2 ∧ t.2 < blockDim := Iff.rfl

theorem cell_number (h : t ∈ threads blocks width) : cell width (number width t) = t := by
  obtain ⟨-, h0, h1⟩ := mem_threads.mp h
  obtain ⟨hq, hr⟩ := (Int.ediv_emod_unique (h0.trans_lt h1)).mpr ⟨show t.2 + width * t.1 = number width t by
    rw [number, Int.mul_comm, Int.add_comm], h0, h1⟩
  exact Prod.ext hq hr

theorem number_cell (width x : ℤ) : number width (cell width x) = x := Int.ediv_mul_add_emod x width

theorem number_mem (h : t ∈ threads blocks blockDim) :
    0 ≤ number blockDim t ∧ number blockDim t < blocks * blockDim := by
  obtain ⟨⟨hb0, hb1⟩, h0, h1⟩ := mem_threads.mp h
  have hnext : (t.1 + 1) * blockDim ≤ blocks * blockDim := Int.mul_le_mul_of_nonneg_right hb1 (h0.trans h1.le)
  have hstart : 0 ≤ t.1 * blockDim := Int.mul_nonneg hb0 (h0.trans h1.le)
  rw [Int.add_mul, Int.one_mul] at hnext
  unfold number
  omega

theorem cell_mem (hw : 0 < width) (h0 : 0 ≤ x) (h1 : x < rows * width) : cell width x ∈ threads rows width :=
  mem_threads.mpr ⟨⟨Int.ediv_nonneg h0 hw.le, Int.ediv_lt_of_lt_mul hw h1⟩, Int.emod_nonneg x hw.ne',
    Int.emod_lt_of_pos x hw⟩

theorem existsUnique_number (hd : 0 < blockDim) (h0 : 0 ≤ x) (h1 : x < blocks * blockDim) :
    ∃! t, t ∈ threads blocks blockDim ∧ number blockDim t = x := by
  refine ⟨cell blockDim x, ⟨cell_mem hd h0 h1, number_cell blockDim x⟩, ?_⟩
  rintro t ⟨ht, rfl⟩
  exact (cell_number ht).symm

/-- **One thread works on each cell.** -/
theorem existsUnique_cell (hd : 0 < blockDim) {c : ℤ × ℤ} (hc : c ∈ threads rows cols) :
    ∃! t, t ∈ threads ((rows * cols) ⌈/⌉ blockDim) blockDim ∧ number blockDim t < rows * cols ∧
      cell cols (number blockDim t) = c := by
  obtain ⟨h0, h1⟩ := number_mem hc
  obtain ⟨t, ⟨ht, hnumber⟩, hunique⟩ := existsUnique_number hd h0 (h1.trans_le (le_ceilDiv_mul hd))
  refine ⟨t, ⟨ht, hnumber ▸ h1, by rw [hnumber, cell_number hc]⟩, ?_⟩
  rintro s ⟨hs, -, hcell⟩
  exact hunique s ⟨hs, by rw [← hcell, number_cell]⟩

end Grid
