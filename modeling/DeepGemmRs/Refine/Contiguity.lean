import DeepGemmRs.Refine.Tensors

/-!
# Contiguity on both sides

`TensorSpec::is_contiguous` builds the row-major strides and compares; the native
`require_contiguous` compares while it multiplies. On a tensor whose element count is an `i64` value
they accept the same strides, and these number the elements `0, 1, …` in row-major order.

* `TensorSpec.offset` : the place of an element in its buffer;
* `TensorSpec.Enumerates` : each place below the element count is taken once, in lexicographic order
  of the indices;
* `RowMajor.enumerates` : row-major strides do that;
* `isContiguous_iff_requireContiguous` : **the two checks agree, and so do the offsets**.
-/

namespace DeepGemmRs

open Checked MachineInt

namespace TensorSpec

variable {rank : Nat} {spec : TensorSpec rank}

/-- The place of an element, in elements from the start of the tensor. -/
def offset (spec : TensorSpec rank) (i : MixedRadix.Index spec.shape) : Int :=
  ∑ j, (i j).val * (spec.strides j).val

/-- The offsets run through `[0, elementCount)`, each once, the last axis fastest. -/
structure Enumerates (spec : TensorSpec rank) : Prop where
  bijOn : Set.BijOn spec.offset Set.univ (Set.Ico 0 (spec.elementCount : Int))
  rowMajor : StrictMono fun i : Lex (MixedRadix.Index spec.shape) => spec.offset (ofLex i)

theorem elementCount_eq_count (spec : TensorSpec rank) : spec.elementCount = MixedRadix.count spec.shape 0 :=
  (MixedRadix.count_zero spec.shape).symm

/-- With row-major strides the offset is the number of the multi-index. -/
theorem RowMajor.offset_eq (h : spec.RowMajor) (i : MixedRadix.Index spec.shape) :
    spec.offset i = (MixedRadix.place i : Nat) := by
  unfold offset MixedRadix.place
  push_cast
  apply Finset.sum_congr rfl
  intro j _
  rw [h j]
  rfl

theorem RowMajor.enumerates (h : spec.RowMajor) : spec.Enumerates where
  bijOn := by
    rw [elementCount_eq_count]
    refine ⟨fun i _ => ?_, fun a _ b _ hab => ?_, fun n hn => ?_⟩
    · rw [h.offset_eq, Set.mem_Ico]
      exact ⟨Int.natCast_nonneg _, Int.ofNat_lt.mpr (MixedRadix.place_lt i)⟩
    · rw [h.offset_eq, h.offset_eq] at hab
      exact MixedRadix.place_injective (Int.natCast_inj.mp hab)
    · obtain ⟨m, rfl⟩ := Int.eq_ofNat_of_zero_le hn.1
      obtain ⟨i, hi⟩ := MixedRadix.exists_place_eq (Int.ofNat_lt.mp hn.2)
      exact ⟨i, Set.mem_univ i, by rw [h.offset_eq, hi]⟩
  rowMajor := by
    intro a b hab
    show spec.offset (ofLex a) < spec.offset (ofLex b)
    rw [h.offset_eq, h.offset_eq]
    exact Int.ofNat_lt.mpr (MixedRadix.place_strictMono hab)

/-! ## The two checks -/

section

variable (hpos : ∀ i, 0 < spec.shape i) (hcount : (spec.elementCount : Int) ≤ i64.hi)

include hpos hcount in
/-- No product of the loops is larger than the element count. -/
theorem counts_le (n : Nat) : (tailCount spec.shape n : Int) ≤ i64.hi := by
  rw [elementCount_eq_count] at hcount
  exact le_trans (Int.ofNat_le.mpr (MixedRadix.count_le_count_zero hpos n)) hcount

include hpos hcount in
theorem extents_le (i : Fin rank) : (spec.shape i : Int) ≤ i64.hi := by
  refine le_trans (Int.ofNat_le.mpr ?_) hcount
  exact Finset.single_le_prod' (fun j _ => hpos j) (Finset.mem_univ i)

include hpos hcount in
/-- `contiguous` stays within `isize`, so `is_contiguous` answers. -/
theorem isContiguous_answers : ∃ b, spec.isContiguous = .ok b := by
  have hcounts := counts_le hpos hcount
  let expected : TensorSpec rank :=
    ⟨spec.dtype, spec.shape, fun i => ⟨tailCount spec.shape (i.val + 1),
      le_trans (by decide) (Int.natCast_nonneg _), hcounts _⟩⟩
  have hexpected : contiguous spec.dtype spec.shape = .ok expected :=
    (contiguous_eq_ok (extents_le hpos hcount)).mpr ⟨fun n _ => hcounts n, rfl, rfl, fun _ => rfl⟩
  exact ⟨decide (spec = expected), bind_eq_ok.mpr ⟨expected, hexpected, rfl⟩⟩

include hpos hcount in
theorem isContiguous_iff_rowMajor {b : Bool} (h : spec.isContiguous = .ok b) : b = true ↔ spec.RowMajor := by
  have htrue : spec.isContiguous = .ok true ↔ _ := isContiguous_eq_true (extents_le hpos hcount)
  rw [h, Except.ok.injEq] at htrue
  rw [htrue]
  exact and_iff_right fun n _ => counts_le hpos hcount n

end

end TensorSpec

namespace Refine

open TensorSpec

/-- **On a tensor without empty axes whose element count is an `i64` value, `is_contiguous` answers,
the tensor converts, the native check accepts its image at an address that is not null exactly where
the answer is `true`, and then the offsets enumerate the buffer in row-major order.** -/
theorem isContiguous_iff_requireContiguous (rank : Fin 5) (spec : TensorSpec rank) (data : Ptr) (name : String)
    (hpos : ∀ i, 0 < spec.shape i) (hcount : (spec.elementCount : Int) ≤ i64.hi) :
    ∃ b t, spec.isContiguous = .ok b ∧ spec.toRawTensor data = .ok t ∧
      (Raw.requireContiguous t rank name = .ok () ↔ data ≠ 0 ∧ b = true) ∧
      (b = true → spec.Enumerates) := by
  obtain ⟨b, hb⟩ := isContiguous_answers hpos hcount
  obtain ⟨t, ht⟩ := toRawTensor_succeeds rank.is_le (extents_le hpos hcount) data
  have himage := toRawTensor_image rank.is_le ht
  have hrow := isContiguous_iff_rowMajor hpos hcount hb
  refine ⟨b, t, hb, ht, ?_, fun h => (hrow.mp h).enumerates⟩
  rw [Raw.requireContiguous_eq_ok rank himage, hrow]
  exact ⟨fun h => ⟨h.1, h.2.2.1⟩, fun h => ⟨h.1, hpos, h.2, fun n _ => counts_le hpos hcount n⟩⟩

/-- A row-major matrix of two rows and three columns. -/
def matrix23 : TensorSpec 2 where
  dtype := .f32
  shape := ![2, 3]
  strides := ![3, 1]

theorem isContiguous_iff_requireContiguous_matrix23 :
    ∃ t, matrix23.toRawTensor 4096 = .ok t ∧ Raw.requireContiguous t 2 "q" = .ok () ∧
      matrix23.Enumerates := by
  obtain ⟨b, t, hb, ht, hiff, hall⟩ :=
    isContiguous_iff_requireContiguous 2 matrix23 4096 "q" (by decide) (by decide)
  have htrue : matrix23.isContiguous = .ok true := by decide
  obtain rfl : true = b := Except.ok.inj (htrue.symm.trans hb)
  exact ⟨t, ht, hiff.mpr ⟨by decide, rfl⟩, hall rfl⟩

end Refine

end DeepGemmRs
