import DeepGemmRs.Crate.Mqa
import DeepGemmRs.Raw.MqaChecked

/-!
# One tensor on both sides

The checks of the crate and of the native code on a tensor and on its raw image.

* `TensorSpec.Fits`, `TensorArg.Fits` : extents that are `int` values, an element count that is an
  `i64` value, and no null pointer;
* `raw_requireContiguous_iff`, `raw_requireI32Vector_iff`, `raw_weights_iff`, `raw_scale_iff` : what
  the native checks demand of the tensor that was converted;
* `archSupport_sm90`, `archSupport_sm100` : the head counts and dimensions agree.
-/

namespace DeepGemmRs

open Checked MachineInt

/-- Every extent is an `int`, and the element count an `i64`. -/
structure TensorSpec.Fits {rank : Nat} (spec : TensorSpec rank) : Prop where
  extents (i : Fin rank) : (spec.shape i : Int) ≤ i32.hi
  count : (spec.elementCount : Int) ≤ i64.hi

/-- A tensor that fits, at a pointer that is not null. -/
structure TensorArg.Fits {rank : Nat} (arg : TensorArg rank) : Prop where
  data : arg.data ≠ 0
  spec : arg.spec.Fits

namespace TensorSpec.Fits

variable {rank : Nat} {spec : TensorSpec rank}

theorem extents_i64 (h : spec.Fits) (i : Fin rank) : (spec.shape i : Int) ≤ i64.hi :=
  (h.extents i).trans (by decide)

/-- Up to three axes, the counts behind the first one fit as well. -/
theorem counts (h : spec.Fits) (hr : rank ≤ 3) : ∀ n < rank, (tailCount spec.shape n : Int) ≤ i64.hi := by
  intro n hn
  rcases Nat.eq_zero_or_pos n with rfl | hpos
  · rw [tailCount_zero]
    exact h.count
  have hbound : ∀ i, spec.shape i ≤ 2147483647 := fun i => by
    have := h.extents i
    simp only [i32] at this
    omega
  have hle := tailCount_le_pow hbound (rank - n) n (by omega)
  have hpow : 2147483647 ^ (rank - n) ≤ 2147483647 ^ 2 := Nat.pow_le_pow_right (by decide) (by omega)
  simp only [i64]
  have : 2147483647 ^ 2 ≤ 9223372036854775807 := by decide
  omega

theorem requireContiguous_iff (h : spec.Fits) (hr : rank ≤ 3) {name : String} {u : Unit} :
    spec.requireContiguous name = .ok u ↔ spec.RowMajor := by
  rw [requireContiguous_eq_ok h.extents_i64]
  exact and_iff_right (h.counts hr)

end TensorSpec.Fits

namespace Refine

open Crate TensorSpec

/-! ## The crate's checks -/

/-- A contiguous scale tensor of the given dtype and shape. -/
structure Scale {rank : Nat} (spec : TensorSpec rank) (dtype : DType) (shape : Fin rank → Nat) : Prop where
  rowMajor : spec.RowMajor
  dtype : spec.dtype = dtype
  shape : spec.shape = shape

theorem requireQScale_iff {rank : Nat} {qScale : Option (TensorSpec rank)} {shape : Fin rank → Nat}
    (hf : ∀ s ∈ qScale, s.Fits) (hr : rank ≤ 3) {u : Unit} :
    requireQScale qScale shape = .ok u ↔ ∀ s ∈ qScale, Scale s .packedUe8M0 shape := by
  cases qScale with
  | none => simp [requireQScale]
  | some s =>
    simp only [requireQScale, bind_eq_ok, (hf s rfl).requireContiguous_iff hr, requireDtype_eq_ok,
      requireShape_eq_ok, exists_const, Option.mem_some_iff, forall_eq']
    exact ⟨fun h => ⟨h.1, h.2.1, h.2.2⟩, fun h => ⟨h.rowMajor, h.dtype, h.shape⟩⟩

/-- A contiguous matrix of `i32`. -/
structure I32Matrix (tensor : TensorSpec 2) (rows cols : Nat) : Prop where
  rowMajor : tensor.RowMajor
  dtype : tensor.dtype = .i32
  rows : tensor.shape 0 = rows
  cols : tensor.shape 1 = cols

theorem require2DI32_iff {tensor : TensorSpec 2} (h : tensor.Fits) {rows cols : Nat} {name : String} {u : Unit} :
    require2DI32 tensor ![rows, cols] name = .ok u ↔ I32Matrix tensor rows cols := by
  simp only [require2DI32, bind_eq_ok, h.requireContiguous_iff (by decide), requireDtype_eq_ok,
    requireShape_eq_ok, exists_const, eq_vec_two]
  exact ⟨fun hh => ⟨hh.1, hh.2.1, hh.2.2.1, hh.2.2.2⟩, fun hh => ⟨hh.rowMajor, hh.dtype, hh.rows, hh.cols⟩⟩

theorem requireIndices_iff {indices : Option (TensorSpec 1)} (hf : ∀ t ∈ indices, t.Fits) {arch : Arch}
    {batchSize nextN : Nat} {u : Unit} :
    requireIndices indices arch batchSize nextN = .ok u ↔
      ∀ t ∈ indices, (arch = .sm100 ∧ nextN = 1) ∧ I32Vector t batchSize := by
  cases indices with
  | none => simp [requireIndices]
  | some t =>
    simp only [requireIndices, bind_eq_ok, throwIf_eq_ok, requireI32Vector_eq_ok (hf t rfl).extents_i64,
      exists_const, not_or, not_not, Option.mem_some_iff, forall_eq']

/-! ## Conversion -/

theorem optionalTensorArg_image {rank : Nat} (hr : rank ≤ 4) {arg : Option (TensorArg rank)} {t : RawTensor}
    (h : optionalTensorArg arg = .ok t) : ∀ a ∈ arg, a.Image t := by
  rintro a rfl
  exact TensorArg.toRaw_image hr h

theorem toRaw_succeeds_of_fits {rank : Nat} (hr : rank ≤ 4) {arg : TensorArg rank} (h : arg.Fits) :
    ∃ t, arg.toRaw = .ok t := toRawTensor_succeeds hr h.spec.extents_i64 arg.data

theorem optionalTensorArg_succeeds {rank : Nat} (hr : rank ≤ 4) {arg : Option (TensorArg rank)}
    (h : ∀ a ∈ arg, a.Fits) : ∃ t, optionalTensorArg arg = .ok t := by
  cases arg with
  | none => exact ⟨_, rfl⟩
  | some a => exact toRaw_succeeds_of_fits hr (h a rfl)

/-! ## The native checks -/

/-- On a converted tensor that fits, the native check adds that no axis is empty. -/
theorem raw_requireContiguous_iff (rank : Fin 5) (hr : rank.val ≤ 3) {arg : TensorArg rank} {t : RawTensor}
    (h : arg.Fits) (ht : arg.Image t) {name : String} {u : Unit} :
    Raw.requireContiguous t rank name = .ok u ↔ (∀ i, 0 < arg.spec.shape i) ∧ arg.spec.RowMajor := by
  rw [Raw.requireContiguous_eq_ok rank ht]
  exact ⟨fun hh => ⟨hh.2.1, hh.2.2.1⟩, fun hh => ⟨h.data, hh.1, hh.2, h.spec.counts hr⟩⟩

section

variable {rank : Nat} {arg : TensorArg rank} {t : RawTensor}

theorem rank_of_image (hi : arg.Image t) (h : arg.Fits) : t.rank = rank ∧ t.data ≠ 0 :=
  ⟨hi.rankEq, hi.data ▸ h.data⟩

theorem dtype_iff_of_image (hi : arg.Image t) (d : DType) : t.dtype = d.toSys ↔ arg.spec.dtype = d := by
  rw [hi.dtype, DType.toSys_inj]

end

theorem raw_requireI32Vector_iff {arg : TensorArg 1} {t : RawTensor} (hi : arg.Image t) (h : arg.Fits)
    {len : Nat} {name : String} {u : Unit} :
    Raw.requireContiguous1DI32 t len name = .ok u ↔ I32Vector arg.spec len := by
  have hshape := hi.shape 0 0 rfl
  have hstride := hi.stride 0 0 rfl
  rw [Raw.requireContiguous1DI32_eq_ok, and_iff_right (rank_of_image hi h), hshape, hstride]
  rw [show (DTypeCode.i32 : DTypeCode) = DType.i32.toSys from rfl, dtype_iff_of_image hi]
  exact ⟨fun hh => ⟨hh.2.2, hh.1, by omega⟩, fun hh => ⟨hh.dtype, by rw [hh.shape], hh.stride⟩⟩

theorem raw_requireContiguous2DI32_iff (name : String) {arg : TensorArg 2} {t : RawTensor} (hi : arg.Image t)
    (h : arg.Fits) {u : Unit} :
    Raw.requireContiguous2DI32 t name = .ok u ↔
      arg.spec.dtype = .i32 ∧ (∀ i, 0 < arg.spec.shape i) ∧ arg.spec.RowMajor := by
  have h0 := hi.shape 0 0 rfl
  have h1 := hi.shape 1 1 rfl
  have hs0 := hi.stride 0 0 rfl
  have hs1 := hi.stride 1 1 rfl
  rw [Raw.requireContiguous2DI32_eq_ok, and_iff_right (rank_of_image hi h), h0, h1, hs0, hs1, rowMajor_two,
    Fin.forall_fin_two, Int.natCast_pos, Int.natCast_pos, and_assoc]
  rw [show (DTypeCode.i32 : DTypeCode) = DType.i32.toSys from rfl, dtype_iff_of_image hi]

theorem raw_requireIndices_iff {arg : Option (TensorArg 1)} {t : RawTensor} (hi : ∀ a ∈ arg, a.Image t)
    (h : ∀ a ∈ arg, a.Fits) {len : Nat} {u : Unit} :
    Raw.requireIndices arg.isSome t len = .ok u ↔ ∀ a ∈ arg, I32Vector a.spec len := by
  rw [Raw.requireIndices_eq_ok]
  cases arg with
  | none => simp
  | some a =>
    rw [Option.isSome_some, raw_requireI32Vector_iff (hi a rfl) (h a rfl)]
    simp

theorem raw_weights_iff {arg : TensorArg 2} {t : RawTensor} (hi : arg.Image t) (h : arg.Fits)
    {rows heads : Nat} :
    Raw.WeightsChecked t rows heads ↔
      (arg.spec.shape 0 = rows ∧ arg.spec.shape 1 = heads ∧ (arg.spec.strides 1).val = 1) ∧
        (arg.spec.dtype = .f32 ∨ arg.spec.dtype = .bf16) := by
  have h0 := hi.shape 0 0 rfl
  have h1 := hi.shape 1 1 rfl
  have hs := hi.stride 1 1 rfl
  have hf := dtype_iff_of_image hi .f32
  have hb := dtype_iff_of_image hi .bf16
  refine ⟨fun hw => ⟨⟨?_, ?_, ?_⟩, hw.dtype.imp hf.mp hb.mp⟩, fun ⟨⟨hr, hh, hst⟩, hd⟩ => ?_⟩
  · have := hw.rows
    omega
  · have := hw.heads
    omega
  · rw [← hs]
    exact hw.stride
  · exact ⟨(rank_of_image hi h).1, (rank_of_image hi h).2, by omega, by omega, by rw [hs]; exact hst,
      hd.imp hf.mpr hb.mpr⟩

/-- A scale tensor on the native side: contiguity, dtype and shape, the axes not empty. -/
theorem raw_scale_iff (rank : Fin 5) (hr : rank.val ≤ 3) (name : String) {arg : TensorArg rank} {t : RawTensor}
    (hi : arg.Image t) (h : arg.Fits) (d : DType) (shape : Fin rank → Nat) (hpos : ∀ i, 0 < shape i)
    {u : Unit} :
    (Raw.requireContiguous t rank name = .ok u ∧ t.dtype = d.toSys ∧
        ∀ i : Fin rank, (t.shape (i.castLE rank.is_le)).val = shape i) ↔ Scale arg.spec d shape := by
  have hshape : (∀ i : Fin rank, (t.shape (i.castLE rank.is_le)).val = shape i) ↔ arg.spec.shape = shape := by
    rw [funext_iff]
    refine forall_congr' fun i => ?_
    rw [hi.shape i _ rfl]
    exact Int.natCast_inj
  rw [raw_requireContiguous_iff rank hr h hi, dtype_iff_of_image hi, hshape]
  exact ⟨fun hh => ⟨hh.1.2, hh.2.1, hh.2.2⟩, fun hh => ⟨⟨fun i => hh.shape ▸ hpos i, hh.rowMajor⟩, hh.dtype,
    hh.shape⟩⟩

theorem archSupport_sm90 {isFp4 : Bool} {numHeads headDim : Nat} :
    ArchSupport .sm90 isFp4 numHeads headDim ↔ isFp4 = false ∧ Raw.Sm90Shape numHeads headDim := by
  unfold ArchSupport Raw.Sm90Shape
  norm_cast

theorem archSupport_sm100 {isFp4 : Bool} {numHeads headDim : Nat} :
    ArchSupport .sm100 isFp4 numHeads headDim ↔ Raw.Sm100Shape isFp4 numHeads headDim := by
  unfold ArchSupport Raw.Sm100Shape
  norm_cast

end Refine

end DeepGemmRs
