import DeepGemmRs.CApi.Sound
import DeepGemmRs.Crate.Gemm
import DeepGemmRs.Raw.GemmChecked
import DeepGemmRs.Refine.Tensors

/-!
# The crate and the native code accept the same GEMM launches

* `ContiguousMatrix`, `MnMajorScale` : the two kinds of tensor a GEMM takes;
* `ScaleParams` : the parameters a scale layout is asked for with; `fp8GemmScaleLayout_eq_ok`;
* `GemmContract` : what a launch of `fp8_gemm_nt` must satisfy, read off neither side;
* `gemmAccepted_iff_contract` : the crate's checks and the layout helpers accept exactly the contract;
* `gemmDispatch_of_contract`, `contract_of_gemmDispatch` : so do the native checks, on the converted
  parameters;
* `gemm_accepted_iff_dispatch` : hence both sides agree.
-/

namespace DeepGemmRs

open Checked MachineInt Rounding

namespace Refine

open Crate TensorSpec

/-! ## The contract -/

/-- A row-major matrix. -/
structure ContiguousMatrix (spec : TensorSpec 2) (dtype : DType) (rows cols : Int) : Prop where
  rowMajor : spec.RowMajor
  dtypeEq : spec.dtype = dtype
  rows : (spec.shape 0 : Int) = rows
  cols : (spec.shape 1 : Int) = cols

/-- The dtypes of a transformed scale. -/
def IsScale (dtype : DType) : Prop := dtype = .f32 ∨ dtype = .packedUe8M0

/-- The values of `k` that share an element of a transformed scale: a packed element holds four. -/
def scaleDivisor (granK : Nat) (dtype : DType) : Int := granK * if dtype = .f32 then 1 else 4

/-- A transformed scale: columns of `mn` elements, padded to 16 bytes, one after the other. -/
structure MnMajorScale (spec : TensorSpec 2) (mn k granK : Nat) (dtype : DType) : Prop where
  dtypeEq : spec.dtype = dtype
  rows : spec.shape 0 = mn
  cols : (spec.shape 1 : Int) = (k : Int) ⌈/⌉ scaleDivisor granK dtype
  rowStride : (spec.strides 0).val = 1
  colStride : (spec.strides 1).val = alignUp mn 4

/-- The scales of a GEMM, by architecture. -/
def ScalesContract (spec : Fp8GemmNtSpec) (m n k : Nat) : Arch → Prop
  | .sm90 => MnMajorScale spec.aScale m k 128 .f32 ∧
      ContiguousMatrix spec.bScale .f32 ((n : Int) ⌈/⌉ (128 : Int)) ((k : Int) ⌈/⌉ (128 : Int))
  | .sm100 => MnMajorScale spec.aScale m k 128 .packedUe8M0 ∧ MnMajorScale spec.bScale n k 128 .packedUe8M0

/-- What `fp8_gemm_nt` demands of the operands and of the output. -/
structure GemmMatrices (spec : Fp8GemmNtSpec) (m n k : Nat) : Prop where
  posM : 0 < m
  posN : 0 < n
  posK : 0 < k
  a : ContiguousMatrix spec.a .fp8E4M3 m k
  b : ContiguousMatrix spec.b .fp8E4M3 n k
  d : ContiguousMatrix spec.d .bf16 m n
  blocks : n % 8 = 0

/-- What `fp8_gemm_nt` demands of its arguments. -/
structure GemmContract (spec : Fp8GemmNtSpec) (arch : Arch) (m n k : Nat) : Prop
    extends GemmMatrices spec m n k where
  scales : ScalesContract spec m n k arch

/-- `m`, `n` and `k` are values of `int`. -/
structure GemmFits (m n k : Nat) : Prop where
  m : (m : Int) ≤ i32.hi
  n : (n : Int) ≤ i32.hi
  k : (k : Int) ≤ i32.hi

/-! ## Contiguity -/

/-- On extents that are values of `int` the crate's check is the contract. -/
theorem requireContiguous_matrix {spec : TensorSpec 2} (h : ∀ i, (spec.shape i : Int) ≤ i32.hi) (name : String)
    {u : Unit} : spec.requireContiguous name = .ok u ↔ spec.RowMajor := by
  refine Fits.requireContiguous_iff ⟨h, ?_⟩ (by decide)
  have h0 := h 0
  have h1 := h 1
  simp only [i32] at h0 h1
  have hmul := Nat.mul_le_mul (show spec.shape 0 ≤ 2147483647 by omega) (show spec.shape 1 ≤ 2147483647 by omega)
  simp only [elementCount, Fin.prod_univ_two, i64]
  omega

theorem ContiguousMatrix.extents {spec : TensorSpec 2} {dtype : DType} {rows cols : Int}
    (h : ContiguousMatrix spec dtype rows cols) (hr : rows ≤ i32.hi) (hc : cols ≤ i32.hi) :
    ∀ i, (spec.shape i : Int) ≤ i32.hi := by
  have h0 := h.rows
  have h1 := h.cols
  exact Fin.forall_fin_two.mpr ⟨by omega, by omega⟩

theorem MnMajorScale.extents {spec : TensorSpec 2} {mn k granK : Nat} {dtype : DType}
    (h : MnMajorScale spec mn k granK dtype) (hg : 0 < granK) (hm : (mn : Int) ≤ i32.hi) (hk : (k : Int) ≤ i32.hi) :
    ∀ i, (spec.shape i : Int) ≤ i32.hi := by
  have hd : 0 < scaleDivisor granK dtype := by unfold scaleDivisor; split <;> omega
  have h0 := h.rows
  have h1 := h.cols
  have hle : (k : Int) ⌈/⌉ scaleDivisor granK dtype ≤ k := ceilDiv_le_self hd (Int.natCast_nonneg k)
  exact Fin.forall_fin_two.mpr ⟨by omega, by omega⟩

/-! ## The crate's side -/

theorem ceilDiv_eq_ok {value divisor q : Nat} (hv : (value : Int) ≤ i32.hi)
    (hd : 0 < divisor ∧ (divisor : Int) ≤ i32.hi) :
    Crate.ceilDiv value divisor = .ok q ↔ (q : Int) = (value : Int) ⌈/⌉ (divisor : Int) := by
  obtain ⟨hpos, hdle⟩ := hd
  simp only [i32] at hv hdle
  have hq : (((value + (divisor - 1)) / divisor : Nat) : Int) = (value : Int) ⌈/⌉ (divisor : Int) := by
    rw [ceilDiv_eq_ediv (by omega)]
    push_cast [show 1 ≤ divisor by omega]
    rw [Int.add_sub_assoc]
  rw [Crate.ceilDiv, if_neg (by omega), if_pos (has_u64.mpr ⟨by omega, by omega⟩), Except.ok.injEq, ← hq]
  omega

/-- A layout of the scale helper. -/
structure ScaleLayout (layout : TensorLayout2D) (mn k granK : Nat) (dtype : DType) : Prop where
  spec : MnMajorScale layout.logicalSpec mn k granK dtype
  allocationRows : layout.allocationShape 0 = layout.logicalShape 1
  allocationCols : (layout.allocationShape 1 : Int) = alignUp mn 4

theorem requireScaleDtype_eq_ok {dtype : DType} {u : Unit} : requireScaleDtype dtype = .ok u ↔ IsScale dtype := by
  cases dtype <;> simp [requireScaleDtype, IsScale]

/-- The parameters the crate hands to the scale helper. -/
structure ScaleParams (p : CApi.Fp8GemmScaleLayoutParams) (mn k granK : Nat) (dtype : DType) : Prop where
  isScale : IsScale dtype
  mn : p.mn.val = mn
  k : p.k.val = k
  granK : p.granK.val = granK
  dtype : p.scaleDtype = dtype.toSys

namespace ScaleParams

variable {p : CApi.Fp8GemmScaleLayoutParams} {mn k granK : Nat} {dtype : DType}

theorem divisor (h : ScaleParams p mn k granK dtype) : p.divisor = scaleDivisor granK dtype := by
  unfold CApi.Fp8GemmScaleLayoutParams.divisor CApi.Fp8GemmScaleLayoutParams.packedFactor scaleDivisor
  rw [h.granK, h.dtype]
  rcases h.isScale with rfl | rfl <;> rfl

theorem alignedMn (h : ScaleParams p mn k granK dtype) : p.alignedMn = alignUp mn 4 := by
  unfold CApi.Fp8GemmScaleLayoutParams.alignedMn
  rw [h.mn, h.dtype]
  rcases h.isScale with rfl | rfl <;> rfl

theorem cols (h : ScaleParams p mn k granK dtype) : p.cols = (k : Int) ⌈/⌉ scaleDivisor granK dtype := by
  unfold CApi.Fp8GemmScaleLayoutParams.cols
  rw [h.k, h.divisor]

theorem isScaleCode (h : ScaleParams p mn k granK dtype) :
    p.scaleDtype = DTypeCode.f32 ∨ p.scaleDtype = DTypeCode.packedUe8M0 := by
  rw [h.dtype]
  rcases h.isScale with rfl | rfl
  · exact .inl rfl
  · exact .inr rfl

end ScaleParams

/-- A call of the scale helper, by the parameters it is made with. -/
theorem fp8GemmScaleLayout_eq_ok {mn k granK : Nat} {dtype : DType} {layout : TensorLayout2D} :
    fp8GemmScaleLayout mn k granK dtype = .ok layout ↔
      ∃ p, ScaleParams p mn k granK dtype ∧ callLayout (CApi.fp8GemmScaleLayout (some p)) = .ok layout := by
  simp only [fp8GemmScaleLayout, bind_eq_ok, requireScaleDtype_eq_ok, usizeToI64_eq_ok, exists_const]
  constructor
  · rintro ⟨hd, mn', hmn, k', hk, granK', hg, hcall⟩
    exact ⟨⟨mn', k', granK', dtype.toSys⟩, ⟨hd, hmn, hk, hg, rfl⟩, hcall⟩
  · rintro ⟨p, hp, hcall⟩
    refine ⟨hp.isScale, p.mn, hp.mn, p.k, hp.k, p.granK, hp.granK, ?_⟩
    rw [← hp.dtype]
    exact hcall

/-- A layout that comes back is the contract's. -/
theorem ScaleParams.layout {p : CApi.Fp8GemmScaleLayoutParams} {mn k granK : Nat} {dtype : DType}
    (h : ScaleParams p mn k granK dtype) {layout : TensorLayout2D}
    (hcall : callLayout (CApi.fp8GemmScaleLayout (some p)) = .ok layout) : ScaleLayout layout mn k granK dtype := by
  obtain ⟨-, himg⟩ := callLayout_ok (CApi.fp8GemmScaleLayout_settles p) hcall
  have hrows : (layout.logicalShape 0 : Int) = p.mn := himg.logicalShape 0
  have hcols : (layout.logicalShape 1 : Int) = p.cols := himg.logicalShape 1
  have hacols : (layout.allocationShape 0 : Int) = p.cols := himg.allocationShape 0
  have hdtype : layout.dtype.toSys = p.scaleDtype := himg.dtype
  rw [h.mn] at hrows
  refine ⟨⟨DType.toSys_injective (hdtype.trans h.dtype), ?_, hcols.trans h.cols, himg.strides 0, ?_⟩, ?_, ?_⟩
  · show layout.logicalShape 0 = mn
    omega
  · show (layout.strides 1).val = _
    rw [himg.strides 1, ← h.alignedMn]
    rfl
  · omega
  · rw [← h.alignedMn]
    exact himg.allocationShape 1

/-- Parameters the helper admits give a layout. -/
theorem ScaleParams.succeeds {p : CApi.Fp8GemmScaleLayoutParams} {mn k granK : Nat} {dtype : DType}
    (h : ScaleParams p mn k granK dtype) (hadmits : p.Admits) (hno : ¬ p.Overflows) :
    ∃ layout, callLayout (CApi.fp8GemmScaleLayout (some p)) = .ok layout := by
  have hd0 : 0 < p.divisor := by
    have hg := hadmits.granK
    unfold CApi.Fp8GemmScaleLayoutParams.divisor CApi.Fp8GemmScaleLayoutParams.packedFactor
    split <;> omega
  have hcols0 : 0 ≤ p.cols := ceilDiv_nonneg hd0 hadmits.k.le
  have hal : (mn : Int) ≤ p.alignedMn := h.alignedMn ▸ le_alignUp (by decide)
  have hal0 : 0 ≤ p.alignedMn := le_trans (Int.natCast_nonneg mn) hal
  obtain ⟨layout, hl⟩ := logitsLayoutFromSys_succeeds p.layout h.dtype
    (Fin.forall_fin_two.mpr ⟨hadmits.mn.le, hcols0⟩) (Fin.forall_fin_two.mpr ⟨hcols0, hal0⟩)
    (Fin.forall_fin_two.mpr ⟨show i64.Has 1 by decide, show i64.Has p.alignedMn from
      ⟨le_trans (by decide) hal0, hadmits.alignedMn⟩⟩)
    (show u64.Has (p.cols * p.alignedMn) from ⟨Int.mul_nonneg hcols0 hal0, hadmits.count⟩)
  exact ⟨layout, callLayout_succeeds (CApi.fp8GemmScaleLayout_settles p) hno hadmits hl⟩

/-- The crate's scale layout is the contract's. -/
theorem fp8GemmScaleLayout_succeeds {mn k granK : Nat} {dtype : DType} (hd : IsScale dtype)
    (hmn : 0 < mn ∧ (mn : Int) ≤ i32.hi) (hk : 0 < k ∧ (k : Int) ≤ i32.hi)
    (hg : 0 < granK ∧ (granK : Int) ≤ i32.hi) :
    ∃ layout, fp8GemmScaleLayout mn k granK dtype = .ok layout ∧ ScaleLayout layout mn k granK dtype := by
  obtain ⟨hmn0, hmn⟩ := hmn
  obtain ⟨hk0, hk⟩ := hk
  obtain ⟨hg0, hg⟩ := hg
  simp only [i32] at hmn hk hg
  let p : CApi.Fp8GemmScaleLayoutParams :=
    ⟨⟨mn, has_i64.mpr ⟨by omega, by omega⟩⟩, ⟨k, has_i64.mpr ⟨by omega, by omega⟩⟩,
      ⟨granK, has_i64.mpr ⟨by omega, by omega⟩⟩, dtype.toSys⟩
  have hp : ScaleParams p mn k granK dtype := ⟨hd, rfl, rfl, rfl, rfl⟩
  have hkval : p.k.val = k := rfl
  have hmnval : p.mn.val = mn := rfl
  have hgval : p.granK.val = granK := rfl
  have hd0 : 0 < p.divisor ∧ p.divisor ≤ granK * 4 := by
    rw [hp.divisor, scaleDivisor]
    split <;> omega
  have hcols0 : 0 ≤ p.cols := ceilDiv_nonneg hd0.1 (Int.natCast_nonneg k)
  have hcolsle : p.cols ≤ k := ceilDiv_le_self hd0.1 (Int.natCast_nonneg k)
  have hal : p.alignedMn < mn + 4 := hp.alignedMn ▸ alignUp_lt (by decide)
  have hal0 : (mn : Int) ≤ p.alignedMn := hp.alignedMn ▸ le_alignUp (by decide)
  have hcount : p.cols * p.alignedMn ≤ 2147483647 * 2147483651 :=
    Int.mul_le_mul (by omega) (by omega) (by omega) (by decide)
  have hadmits : p.Admits := by
    refine ⟨⟨by omega, by omega, by omega, hp.isScaleCode, ?_⟩, ?_, ?_, ?_⟩
    · simp only [i64]; omega
    · simp only [i64]; omega
    · simp only [i64]; omega
    · simp only [u64]; omega
  have hno : ¬ p.Overflows := by
    rintro ⟨-, h⟩
    simp only [i64] at h
    omega
  obtain ⟨layout, hcall⟩ := hp.succeeds hadmits hno
  exact ⟨layout, fp8GemmScaleLayout_eq_ok.mpr ⟨p, hp, hcall⟩, hp.layout hcall⟩

theorem ScaleLayout.spec_iff {layout : TensorLayout2D} {mn k granK : Nat} {dtype : DType}
    (h : ScaleLayout layout mn k granK dtype) {spec : TensorSpec 2} :
    spec = layout.logicalSpec ↔ MnMajorScale spec mn k granK dtype := by
  constructor
  · rintro rfl
    exact h.spec
  · intro hs
    have h0 := hs.cols.trans h.spec.cols.symm
    refine TensorSpec.ext (hs.dtypeEq.trans h.spec.dtypeEq.symm) (funext (Fin.forall_fin_two.mpr ?_))
      (funext (Fin.forall_fin_two.mpr ?_))
    · exact ⟨hs.rows.trans h.spec.rows.symm, by omega⟩
    · exact ⟨Subtype.ext (hs.rowStride.trans h.spec.rowStride.symm),
        Subtype.ext (hs.colStride.trans h.spec.colStride.symm)⟩

section

variable {spec : Fp8GemmNtSpec} {arch : Arch} {m n k : Nat}

/-- The crate's checks of the scales are the contract. -/
theorem requireScales_eq_ok (hf : GemmFits m n k) (hm : 0 < m) (hn : 0 < n) (hk : 0 < k) {u : Unit} :
    requireScales spec m n k arch = .ok u ↔ ScalesContract spec m n k arch := by
  cases arch with
  | sm90 =>
    obtain ⟨layout, hl, hlayout⟩ := fp8GemmScaleLayout_succeeds (.inl rfl) ⟨hm, hf.m⟩ ⟨hk, hf.k⟩
      (show 0 < 128 ∧ ((128 : Nat) : Int) ≤ i32.hi by decide)
    have h128 : 0 < 128 ∧ ((128 : Nat) : Int) ≤ i32.hi := by decide
    have hrows : (n : Int) ⌈/⌉ (128 : Int) ≤ n := ceilDiv_le_self (by decide) (Int.natCast_nonneg n)
    have hcols : (k : Int) ⌈/⌉ (128 : Int) ≤ k := ceilDiv_le_self (by decide) (Int.natCast_nonneg k)
    have hrows' := hrows.trans hf.n
    have hcols' := hcols.trans hf.k
    simp only [requireScales, ScalesContract, bind_eq_ok, hl, Except.ok.injEq, exists_eq_left',
      requireSpec_eq_ok, hlayout.spec_iff, requireDtype_eq_ok, requireShape_eq_ok, exists_const, eq_vec_two,
      ceilDiv_eq_ok hf.n h128, ceilDiv_eq_ok hf.k h128]
    refine and_congr_right fun _ => ⟨?_, fun h => ?_⟩
    · rintro ⟨_, hc, hd, rows, hr, cols, hcol, hs0, hs1⟩
      have h0 : (spec.bScale.shape 0 : Int) = (n : Int) ⌈/⌉ (128 : Int) := by rw [hs0]; exact hr
      have h1 : (spec.bScale.shape 1 : Int) = (k : Int) ⌈/⌉ (128 : Int) := by rw [hs1]; exact hcol
      have hext : ∀ i, (spec.bScale.shape i : Int) ≤ i32.hi :=
        Fin.forall_fin_two.mpr ⟨h0 ▸ hrows', h1 ▸ hcols'⟩
      exact ⟨(requireContiguous_matrix hext _).mp hc, hd, h0, h1⟩
    · exact ⟨(), (requireContiguous_matrix (h.extents hrows' hcols') _).mpr h.rowMajor, h.dtypeEq, _, h.rows, _,
        h.cols, rfl, rfl⟩
  | sm100 =>
    obtain ⟨aLayout, ha, haLayout⟩ := fp8GemmScaleLayout_succeeds (.inr rfl) ⟨hm, hf.m⟩ ⟨hk, hf.k⟩
      (show 0 < 128 ∧ ((128 : Nat) : Int) ≤ i32.hi by decide)
    obtain ⟨bLayout, hb, hbLayout⟩ := fp8GemmScaleLayout_succeeds (.inr rfl) ⟨hn, hf.n⟩ ⟨hk, hf.k⟩
      (show 0 < 128 ∧ ((128 : Nat) : Int) ≤ i32.hi by decide)
    simp only [requireScales, ScalesContract, bind_eq_ok, ha, hb, Except.ok.injEq, exists_eq_left',
      requireSpec_eq_ok, haLayout.spec_iff, hbLayout.spec_iff, exists_const]

/-- The crate's checks are the contract. -/
theorem validateFp8GemmNtSpec_eq_ok (hf : GemmFits (spec.a.shape 0) (spec.b.shape 0) (spec.a.shape 1))
    {dims : Crate.GemmDims} :
    validateFp8GemmNtSpec spec arch = .ok dims ↔
      GemmContract spec arch (spec.a.shape 0) (spec.b.shape 0) (spec.a.shape 1) ∧
        dims = ⟨spec.a.shape 0, spec.b.shape 0⟩ := by
  have haext : ∀ i, (spec.a.shape i : Int) ≤ i32.hi := Fin.forall_fin_two.mpr ⟨hf.m, hf.k⟩
  simp only [validateFp8GemmNtSpec, bind_eq_ok, requireContiguous_matrix haext, requireDtype_eq_ok,
    requirePositive_eq_ok, throwIf_eq_ok, not_not, requireShape_eq_ok, eq_vec_two, exists_const, Except.ok.injEq]
  refine ⟨?_, ?_⟩
  · rintro ⟨ha, _, hb, _, hd, had, hbd, hdd, hm, hn, hk, hbk, ⟨hd0, hd1⟩, h8, _, hs, rfl⟩
    have hbext : ∀ i, (spec.b.shape i : Int) ≤ i32.hi := Fin.forall_fin_two.mpr ⟨hf.n, hbk ▸ hf.k⟩
    have hdext : ∀ i, (spec.d.shape i : Int) ≤ i32.hi := Fin.forall_fin_two.mpr ⟨hd0 ▸ hf.m, hd1 ▸ hf.n⟩
    refine ⟨⟨⟨hm, hn, hk, ⟨ha, had, rfl, rfl⟩, ⟨?_, hbd, rfl, ?_⟩, ⟨?_, hdd, ?_, ?_⟩, h8⟩,
      (requireScales_eq_ok hf hm hn hk).mp hs⟩, rfl⟩
    · exact (requireContiguous_matrix hbext _).mp hb
    · rw [hbk]
    · exact (requireContiguous_matrix hdext _).mp hd
    · rw [hd0]
    · rw [hd1]
  · rintro ⟨h, rfl⟩
    refine ⟨h.a.rowMajor, (), ?_, (), ?_, h.a.dtypeEq, h.b.dtypeEq, h.d.dtypeEq, h.posM, h.posN, h.posK, ?_,
      ⟨?_, ?_⟩, h.blocks, (), (requireScales_eq_ok hf h.posM h.posN h.posK).mpr h.scales, rfl⟩
    · exact (requireContiguous_matrix (h.b.extents hf.n hf.k) _).mpr h.b.rowMajor
    · exact (requireContiguous_matrix (h.d.extents hf.m hf.n) _).mpr h.d.rowMajor
    · exact Int.natCast_inj.mp h.b.cols
    · exact Int.natCast_inj.mp h.d.rows
    · exact Int.natCast_inj.mp h.d.cols

/-- The output layout of a GEMM is row-major. -/
theorem fp8GemmNtOutputLayout_succeeds (hf : GemmFits (spec.a.shape 0) (spec.b.shape 0) (spec.a.shape 1))
    (h : GemmContract spec arch (spec.a.shape 0) (spec.b.shape 0) (spec.a.shape 1)) :
    ∃ layout, fp8GemmNtOutputLayout spec arch = .ok layout ∧ spec.d = layout.logicalSpec ∧
      layout.allocationShape = layout.logicalShape := by
  have hm := hf.m
  have hn := hf.n
  simp only [i32] at hm hn
  let p : CApi.Fp8GemmNtOutputLayoutParams :=
    ⟨⟨spec.a.shape 0, has_i64.mpr ⟨by omega, by omega⟩⟩, ⟨spec.b.shape 0, has_i64.mpr ⟨by omega, by omega⟩⟩,
      spec.d.dtype.toSys⟩
  have hcount0 : 0 ≤ p.m.val * p.n.val := Int.mul_nonneg (Int.natCast_nonneg _) (Int.natCast_nonneg _)
  have hcount : p.m.val * p.n.val ≤ 2147483647 * 2147483647 :=
    Int.mul_le_mul hm hn (Int.natCast_nonneg _) (by decide)
  have hadmits : p.Admits := by
    refine ⟨Int.natCast_pos.mpr h.posM, Int.natCast_pos.mpr h.posN, congrArg DType.toSys h.d.dtypeEq, ?_⟩
    exact hcount.trans (by decide)
  obtain ⟨layout, hl⟩ := logitsLayoutFromSys_succeeds p.layout (d := spec.d.dtype) rfl
    (Fin.forall_fin_two.mpr ⟨Int.natCast_nonneg _, Int.natCast_nonneg _⟩)
    (Fin.forall_fin_two.mpr ⟨Int.natCast_nonneg _, Int.natCast_nonneg _⟩)
    (Fin.forall_fin_two.mpr ⟨p.n.2, show i64.Has 1 by decide⟩)
    (show u64.Has (p.m.val * p.n.val) from ⟨hcount0, hcount.trans (by decide)⟩)
  have hcall := callLayout_succeeds (CApi.fp8GemmNtOutputLayout_settles p) id hadmits hl
  obtain ⟨-, himg⟩ := callLayout_ok (CApi.fp8GemmNtOutputLayout_settles p) hcall
  have hrows : (layout.logicalShape 0 : Int) = spec.a.shape 0 := himg.logicalShape 0
  have hcols : (layout.logicalShape 1 : Int) = spec.b.shape 0 := himg.logicalShape 1
  have harows : (layout.allocationShape 0 : Int) = spec.a.shape 0 := himg.allocationShape 0
  have hacols : (layout.allocationShape 1 : Int) = spec.b.shape 0 := himg.allocationShape 1
  obtain ⟨hs0, hs1⟩ := rowMajor_two.mp h.d.rowMajor
  have hd0 := h.d.rows
  have hd1 := h.d.cols
  refine ⟨layout, ?_, ?_, funext (Fin.forall_fin_two.mpr ⟨by omega, by omega⟩)⟩
  · simp only [fp8GemmNtOutputLayout, bind_eq_ok, usizeToI64_eq_ok]
    exact ⟨_, (validateFp8GemmNtSpec_eq_ok hf).mpr ⟨h, rfl⟩, p.m, rfl, p.n, rfl, hcall⟩
  · refine TensorSpec.ext (DType.toSys_injective himg.dtype.symm) (funext (Fin.forall_fin_two.mpr ?_))
      (funext (Fin.forall_fin_two.mpr ⟨Subtype.ext ?_, Subtype.ext ?_⟩))
    · exact ⟨show spec.d.shape 0 = layout.logicalShape 0 by omega,
        show spec.d.shape 1 = layout.logicalShape 1 by omega⟩
    · rw [hs0, hd1]
      exact (himg.strides 0).symm
    · rw [hs1]
      exact (himg.strides 1).symm

/-- **The crate accepts the contract.** -/
theorem gemmAccepted_iff_contract {params : Fp8GemmNtLaunch}
    (hf : GemmFits (params.a.spec.shape 0) (params.b.spec.shape 0) (params.a.spec.shape 1)) :
    params.Accepted arch ↔
      GemmContract params.spec arch (params.a.spec.shape 0) (params.b.spec.shape 0) (params.a.spec.shape 1) := by
  constructor
  · rintro ⟨layout, hl, -⟩
    obtain ⟨dims, hd, -⟩ := bind_eq_ok.mp hl
    exact ((@validateFp8GemmNtSpec_eq_ok params.spec arch hf dims).mp hd).1
  · intro h
    obtain ⟨layout, hl, hspec, -⟩ := @fp8GemmNtOutputLayout_succeeds params.spec arch hf h
    exact ⟨layout, hl, hspec⟩

end

/-! ## The native side -/

/-- `raw` is the converted launch. -/
structure GemmImage (params : Fp8GemmNtLaunch) (raw : Raw.Gemm.Fp8GemmNtParams) : Prop where
  a : params.a.Image raw.a
  aScale : params.aScale.Image raw.aScale
  b : params.b.Image raw.b
  bScale : params.bScale.Image raw.bScale
  d : params.d.Image raw.d

/-- No pointer is null. -/
structure GemmPointers (params : Fp8GemmNtLaunch) : Prop where
  a : params.a.data ≠ 0
  aScale : params.aScale.data ≠ 0
  b : params.b.data ≠ 0
  bScale : params.bScale.data ≠ 0
  d : params.d.data ≠ 0

theorem gemmToRaw_image {params : Fp8GemmNtLaunch} {raw : Raw.Gemm.Fp8GemmNtParams}
    (h : params.toRaw = .ok raw) : GemmImage params raw := by
  simp only [Fp8GemmNtLaunch.toRaw, bind_eq_ok, Except.ok.injEq] at h
  obtain ⟨a, ha, aScale, has, b, hb, bScale, hbs, d, hd, rfl⟩ := h
  have hr : 2 ≤ 4 := by decide
  exact ⟨TensorArg.toRaw_image hr ha, TensorArg.toRaw_image hr has, TensorArg.toRaw_image hr hb,
    TensorArg.toRaw_image hr hbs, TensorArg.toRaw_image hr hd⟩

section

variable {arg : TensorArg 2} {t : RawTensor} {name : String} {u : Unit}

theorem raw_requireContiguous2D_iff (hi : arg.Image t) (hp : arg.data ≠ 0) (dtype : DType) :
    Raw.Gemm.requireContiguous2D t dtype.toSys name = .ok u ↔
      arg.spec.dtype = dtype ∧ (0 < arg.spec.shape 0 ∧ 0 < arg.spec.shape 1) ∧ arg.spec.RowMajor := by
  have h0 := hi.shape 0 0 rfl
  have h1 := hi.shape 1 1 rfl
  have hs0 := hi.stride 0 0 rfl
  have hs1 := hi.stride 1 1 rfl
  rw [Raw.Gemm.requireContiguous2D_eq_ok, and_iff_right ⟨hi.rankEq, hi.data ▸ hp⟩, dtype_iff_of_image hi, h0, h1,
    hs0, hs1, rowMajor_two, Int.natCast_pos, Int.natCast_pos]

theorem raw_requireMnMajorScale_iff (hi : arg.Image t) (hp : arg.data ≠ 0) {dtype : DType} (hd : IsScale dtype)
    {mn k granK : Nat} (hmn : (mn : Int) ≤ i32.hi) (hk : (k : Int) ≤ i32.hi)
    (hg : 0 < granK ∧ (granK : Int) ≤ i32.hi) :
    Raw.Gemm.requireMnMajorScale t mn k granK dtype.toSys name = .ok u ↔
      MnMajorScale arg.spec mn k granK dtype := by
  have h0 := hi.shape 0 0 rfl
  have h1 := hi.shape 1 1 rfl
  have hs0 := hi.stride 0 0 rfl
  have hs1 := hi.stride 1 1 rfl
  have hscale : Raw.Gemm.IsScale dtype.toSys := by
    rcases hd with rfl | rfl
    · exact .inl rfl
    · exact .inr rfl
  have hdivisor : Raw.Gemm.scaleDivisor granK dtype.toSys = scaleDivisor granK dtype := by
    rcases hd with rfl | rfl <;> rfl
  rw [Raw.Gemm.requireMnMajorScale_eq_ok ⟨Int.natCast_nonneg mn, hmn⟩ ⟨Int.natCast_nonneg k, hk⟩
    ⟨Int.natCast_pos.mpr hg.1, hg.2⟩ hscale, and_iff_right ⟨hi.rankEq, hi.data ▸ hp⟩, dtype_iff_of_image hi, h0,
    h1, hs0, hs1, hdivisor, Int.natCast_inj]
  exact ⟨fun h => ⟨h.1, h.2.1, h.2.2.1, h.2.2.2.1, h.2.2.2.2⟩,
    fun h => ⟨h.dtypeEq, h.rows, h.cols, h.rowStride, h.colStride⟩⟩

end

section

variable {params : Fp8GemmNtLaunch} {raw : Raw.Gemm.Fp8GemmNtParams} {m n k : Nat}

/-- The native checks of the matrices are the contract. -/
theorem validateCommonGemmNt_eq_ok (hi : GemmImage params raw) (hp : GemmPointers params)
    {dims : Raw.Gemm.GemmDims} :
    Raw.Gemm.validateCommonGemmNt raw = .ok dims ↔
      GemmMatrices params.spec (params.a.spec.shape 0) (params.b.spec.shape 0) (params.a.spec.shape 1) ∧
        dims = ⟨params.a.spec.shape 0, params.b.spec.shape 0, params.a.spec.shape 1⟩ := by
  have ham := hi.a.shape 0 0 rfl
  have hak := hi.a.shape 1 1 rfl
  have hbn := hi.b.shape 0 0 rfl
  have hbk := hi.b.shape 1 1 rfl
  have hdm := hi.d.shape 0 0 rfl
  have hdn := hi.d.shape 1 1 rfl
  have ha : ∀ u, Raw.Gemm.requireContiguous2D raw.a DTypeCode.fp8E4M3 "a" = .ok u ↔ _ := fun u =>
    raw_requireContiguous2D_iff hi.a hp.a .fp8E4M3
  have hb : ∀ u, Raw.Gemm.requireContiguous2D raw.b DTypeCode.fp8E4M3 "b" = .ok u ↔ _ := fun u =>
    raw_requireContiguous2D_iff hi.b hp.b .fp8E4M3
  have hd : ∀ u, Raw.Gemm.requireContiguous2D raw.d DTypeCode.bf16 "d" = .ok u ↔ _ := fun u =>
    raw_requireContiguous2D_iff hi.d hp.d .bf16
  simp only [Raw.Gemm.validateCommonGemmNt, bind_eq_ok, throwIf_eq_ok, not_not, exists_const, ha, hb, hd,
    Raw.Gemm.requireShape2D_eq_ok, ham, hak, hbn, hbk, hdm, hdn, Except.ok.injEq]
  refine ⟨?_, ?_⟩
  · rintro ⟨⟨had, ⟨hm, hk⟩, ha⟩, ⟨hbd, ⟨hn, -⟩, hb⟩, ⟨hdd, -, hd⟩, hbk', hd', h8, rfl⟩
    exact ⟨⟨hm, hn, hk, ⟨ha, had, rfl, rfl⟩, ⟨hb, hbd, rfl, hbk'⟩, ⟨hd, hdd, hd'.1, hd'.2⟩, by omega⟩, rfl⟩
  · rintro ⟨h, rfl⟩
    have hblocks := h.blocks
    have hbcols : (params.b.spec.shape 1 : Int) = params.a.spec.shape 1 := h.b.cols
    have hdrows : (params.d.spec.shape 0 : Int) = params.a.spec.shape 0 := h.d.rows
    have hdcols : (params.d.spec.shape 1 : Int) = params.b.spec.shape 0 := h.d.cols
    have hm := h.posM
    have hn := h.posN
    have hk := h.posK
    exact ⟨⟨h.a.dtypeEq, ⟨hm, hk⟩, h.a.rowMajor⟩, ⟨h.b.dtypeEq, ⟨hn, by omega⟩, h.b.rowMajor⟩,
      ⟨h.d.dtypeEq, ⟨by omega, by omega⟩, h.d.rowMajor⟩, hbcols, ⟨hdrows, hdcols⟩, by omega, rfl⟩

/-- The checks of the scales on SM90 are the contract: a configuration has blocks of 128 along `k`. -/
theorem checkSm90Scales_eq_ok (hi : GemmImage params raw) (hp : GemmPointers params) (hf : GemmFits m n k)
    (hn : 0 < n) (hk : 0 < k) {config : Raw.Gemm.GemmConfig} (hc : config.layout.blockK = 128) {u : Unit} :
    Raw.Gemm.checkSm90Scales raw ⟨m, n, k⟩ config = .ok u ↔ ScalesContract params.spec m n k .sm90 := by
  have hmn := hf.n
  have hkle := hf.k
  simp only [i32] at hmn hkle
  have h0 := hi.bScale.shape 0 0 rfl
  have h1 := hi.bScale.shape 1 1 rfl
  have hrows : Raw.Gemm.ceilDivI64 n 128 = .ok ((n : Int) ⌈/⌉ (128 : Int)) :=
    Raw.Gemm.ceilDivI64_eq (Int.natCast_nonneg n) (by decide) (by simp only [i64]; omega)
  have hcols : Raw.Gemm.ceilDivI64 k 128 = .ok ((k : Int) ⌈/⌉ (128 : Int)) :=
    Raw.Gemm.ceilDivI64_eq (Int.natCast_nonneg k) (by decide) (by simp only [i64]; omega)
  have hrows0 : 0 < (n : Int) ⌈/⌉ (128 : Int) := ceilDiv_pos (by decide) (Int.natCast_pos.mpr hn)
  have hcols0 : 0 < (k : Int) ⌈/⌉ (128 : Int) := ceilDiv_pos (by decide) (Int.natCast_pos.mpr hk)
  have ha : ∀ u, Raw.Gemm.requireMnMajorScale raw.aScale m k 128 DTypeCode.f32 "a_scale" = .ok u ↔ _ := fun u =>
    raw_requireMnMajorScale_iff hi.aScale hp.aScale (.inl rfl) hf.m hf.k (by decide)
  have hb : ∀ u, Raw.Gemm.requireContiguous2D raw.bScale DTypeCode.f32 "b_scale" = .ok u ↔ _ := fun u =>
    raw_requireContiguous2D_iff hi.bScale hp.bScale .f32
  simp only [Raw.Gemm.checkSm90Scales, ScalesContract, hc, bind_eq_ok, ha, hb, hrows, hcols, Except.ok.injEq,
    exists_eq_left', exists_const, Raw.Gemm.requireShape2D_eq_ok, h0, h1]
  refine and_congr_right fun _ => ⟨?_, fun h => ?_⟩
  · rintro ⟨⟨hd, -, hrm⟩, hs0, hs1⟩
    exact ⟨hrm, hd, hs0, hs1⟩
  · have hs0 : (params.bScale.spec.shape 0 : Int) = _ := h.rows
    have hs1 : (params.bScale.spec.shape 1 : Int) = _ := h.cols
    exact ⟨⟨h.dtypeEq, ⟨by omega, by omega⟩, h.rowMajor⟩, hs0, hs1⟩

theorem checkSm100Scales_eq_ok (hi : GemmImage params raw) (hp : GemmPointers params) (hf : GemmFits m n k)
    {u : Unit} : Raw.Gemm.checkSm100Scales raw ⟨m, n, k⟩ = .ok u ↔ ScalesContract params.spec m n k .sm100 := by
  have ha : ∀ u, Raw.Gemm.requireMnMajorScale raw.aScale m k 128 DTypeCode.packedUe8M0 "a_scale" = .ok u ↔ _ :=
    fun u => raw_requireMnMajorScale_iff hi.aScale hp.aScale (.inr rfl) hf.m hf.k (by decide)
  have hb : ∀ u, Raw.Gemm.requireMnMajorScale raw.bScale n k 128 DTypeCode.packedUe8M0 "b_scale" = .ok u ↔ _ :=
    fun u => raw_requireMnMajorScale_iff hi.bScale hp.bScale (.inr rfl) hf.n hf.k (by decide)
  simp only [Raw.Gemm.checkSm100Scales, ScalesContract, bind_eq_ok, ha, hb, exists_const]
  rfl

/-- The choice of a configuration, by architecture. -/
def bestConfig : Arch → Int → Int → Int → Int → Native Raw.Gemm.GemmConfig
  | .sm90 => Raw.Gemm.sm90BestConfig
  | .sm100 => Raw.Gemm.sm100BestConfig

/-- The dispatch of an architecture. -/
def gemmDispatch : Arch → Raw.Gemm.GemmDims → Int → Raw.Gemm.GemmConfig → Raw.Gemm.GemmDispatch
  | .sm90 => .sm90
  | .sm100 => .sm100

theorem asI32_natCast {x : Nat} (h : (x : Int) ≤ i32.hi) (name : String) : Raw.asI32 x name = .ok x :=
  Raw.asI32_eq_ok.mpr ⟨⟨Int.natCast_nonneg x, h⟩, rfl⟩

/-- On the contract the native code takes the branch of its architecture. -/
theorem gemmDispatch_of_contract (hi : GemmImage params raw) (hp : GemmPointers params)
    (hf : GemmFits (params.a.spec.shape 0) (params.b.spec.shape 0) (params.a.spec.shape 1)) {runtime : Runtime}
    {device : DeviceInfo} {arch : Arch} {numSms : Int} (hinfo : runtime.currentDeviceInfo = .ok device)
    (hdev : device.major = arch.major) (hsms : runtime.effectiveNumSms = .ok numSms)
    {config : Raw.Gemm.GemmConfig}
    (hconfig : bestConfig arch (params.a.spec.shape 0) (params.b.spec.shape 0) (params.a.spec.shape 1) numSms =
      .ok config)
    (h : GemmContract params.spec arch (params.a.spec.shape 0) (params.b.spec.shape 0) (params.a.spec.shape 1)) :
    Raw.Gemm.dispatchFp8GemmNt runtime raw =
      .ok (gemmDispatch arch ⟨params.a.spec.shape 0, params.b.spec.shape 0, params.a.spec.shape 1⟩ numSms
        config) := by
  have hvalidate := (validateCommonGemmNt_eq_ok hi hp).mpr ⟨h.toGemmMatrices, rfl⟩
  unfold Raw.Gemm.dispatchFp8GemmNt
  rw [hvalidate, ok_bind, asI32_natCast hf.m, ok_bind, asI32_natCast hf.n, ok_bind, asI32_natCast hf.k, ok_bind,
    hsms, ok_bind, hinfo, ok_bind, hdev]
  cases arch with
  | sm90 =>
    have hblock := (Raw.Gemm.sm90BestConfig_layout hconfig).1.blockK
    have hscales := (checkSm90Scales_eq_ok hi hp hf h.posN h.posK hblock (u := PUnit.unit)).mpr h.scales
    rw [if_pos (by rfl)]
    exact bind_eq_ok.mpr ⟨config, hconfig, bind_eq_ok.mpr ⟨(), hscales, rfl⟩⟩
  | sm100 =>
    have hscales := (checkSm100Scales_eq_ok hi hp hf (u := PUnit.unit)).mpr h.scales
    rw [if_neg (by decide), if_pos (by rfl)]
    exact bind_eq_ok.mpr ⟨config, hconfig, bind_eq_ok.mpr ⟨(), hscales, rfl⟩⟩

/-- What the native code does not refuse satisfies the contract. -/
theorem contract_of_gemmDispatch (hi : GemmImage params raw) (hp : GemmPointers params)
    (hf : GemmFits (params.a.spec.shape 0) (params.b.spec.shape 0) (params.a.spec.shape 1)) {runtime : Runtime}
    {device : DeviceInfo} {arch : Arch} (hinfo : runtime.currentDeviceInfo = .ok device)
    (hdev : device.major = arch.major) {d : Raw.Gemm.GemmDispatch}
    (h : Raw.Gemm.dispatchFp8GemmNt runtime raw = .ok d) :
    GemmContract params.spec arch (params.a.spec.shape 0) (params.b.spec.shape 0) (params.a.spec.shape 1) := by
  simp only [Raw.Gemm.dispatchFp8GemmNt, bind_eq_ok, validateCommonGemmNt_eq_ok hi hp] at h
  obtain ⟨_, ⟨hmat, rfl⟩, h⟩ := h
  simp only [asI32_natCast hf.m, asI32_natCast hf.n, asI32_natCast hf.k, hinfo, hdev, Except.ok.injEq,
    exists_eq_left'] at h
  obtain ⟨numSms, -, h⟩ := h
  refine ⟨hmat, ?_⟩
  cases arch with
  | sm90 =>
    rw [if_pos (by rfl)] at h
    obtain ⟨config, hconfig, h⟩ := bind_eq_ok.mp h
    obtain ⟨_, hscales, -⟩ := bind_eq_ok.mp h
    have hblock := (Raw.Gemm.sm90BestConfig_layout hconfig).1.blockK
    exact (checkSm90Scales_eq_ok hi hp hf hmat.posN hmat.posK hblock).mp hscales
  | sm100 =>
    rw [if_neg (by decide), if_pos (by rfl)] at h
    obtain ⟨config, -, h⟩ := bind_eq_ok.mp h
    obtain ⟨_, hscales, -⟩ := bind_eq_ok.mp h
    exact (checkSm100Scales_eq_ok hi hp hf).mp hscales

end

/-! ## Both sides -/

/-- The contract leaves the conversion nothing to refuse. -/
theorem gemmToRaw_succeeds {params : Fp8GemmNtLaunch} {arch : Arch}
    (hf : GemmFits (params.a.spec.shape 0) (params.b.spec.shape 0) (params.a.spec.shape 1))
    (h : GemmContract params.spec arch (params.a.spec.shape 0) (params.b.spec.shape 0) (params.a.spec.shape 1)) :
    ∃ raw, params.toRaw = .ok raw := by
  have hr : 2 ≤ 4 := by decide
  have fits : ∀ (arg : TensorArg 2), (∀ i, (arg.spec.shape i : Int) ≤ i32.hi) → ∃ t, arg.toRaw = .ok t :=
    fun arg harg => toRawTensor_succeeds hr (fun i => (harg i).trans (by decide)) arg.data
  have hscales : (∀ i, (params.aScale.spec.shape i : Int) ≤ i32.hi) ∧
      ∀ i, (params.bScale.spec.shape i : Int) ≤ i32.hi := by
    have hrows : ((params.b.spec.shape 0 : Nat) : Int) ⌈/⌉ (128 : Int) ≤ params.b.spec.shape 0 :=
      ceilDiv_le_self (by decide) (Int.natCast_nonneg _)
    have hcols : ((params.a.spec.shape 1 : Nat) : Int) ⌈/⌉ (128 : Int) ≤ params.a.spec.shape 1 :=
      ceilDiv_le_self (by decide) (Int.natCast_nonneg _)
    cases arch with
    | sm90 =>
      exact ⟨h.scales.1.extents (by decide) hf.m hf.k, h.scales.2.extents (hrows.trans hf.n) (hcols.trans hf.k)⟩
    | sm100 =>
      exact ⟨h.scales.1.extents (by decide) hf.m hf.k, h.scales.2.extents (by decide) hf.n hf.k⟩
  obtain ⟨a, ha⟩ := fits params.a (h.a.extents hf.m hf.k)
  obtain ⟨aScale, has⟩ := fits params.aScale hscales.1
  obtain ⟨b, hb⟩ := fits params.b (h.b.extents hf.n hf.k)
  obtain ⟨bScale, hbs⟩ := fits params.bScale hscales.2
  obtain ⟨d, hd⟩ := fits params.d (h.d.extents hf.m hf.n)
  refine ⟨⟨a, aScale, b, bScale, d, params.stream⟩, ?_⟩
  simp only [Fp8GemmNtLaunch.toRaw, bind_eq_ok]
  exact ⟨a, ha, aScale, has, b, hb, bScale, hbs, d, hd, rfl⟩

/-- **The crate accepts a GEMM launch exactly when the native code does.** -/
theorem gemm_accepted_iff_dispatch {params : Fp8GemmNtLaunch} {runtime : Runtime} {device : DeviceInfo}
    {arch : Arch} {numSms : Int} (hp : GemmPointers params)
    (hf : GemmFits (params.a.spec.shape 0) (params.b.spec.shape 0) (params.a.spec.shape 1))
    (hinfo : runtime.currentDeviceInfo = .ok device) (hdev : device.major = arch.major)
    (hsms : runtime.effectiveNumSms = .ok numSms)
    (hconfig : ∃ config, bestConfig arch (params.a.spec.shape 0) (params.b.spec.shape 0) (params.a.spec.shape 1)
      numSms = .ok config) :
    params.Accepted arch ↔
      ∃ raw, params.toRaw = .ok raw ∧ ∃ d, Raw.Gemm.dispatchFp8GemmNt runtime raw = .ok d := by
  obtain ⟨config, hconfig⟩ := hconfig
  rw [gemmAccepted_iff_contract hf]
  constructor
  · intro h
    obtain ⟨raw, hraw⟩ := gemmToRaw_succeeds hf h
    exact ⟨raw, hraw, _, gemmDispatch_of_contract (gemmToRaw_image hraw) hp hf hinfo hdev hsms hconfig h⟩
  · rintro ⟨raw, hraw, d, h⟩
    exact contract_of_gemmDispatch (gemmToRaw_image hraw) hp hf hinfo hdev h

/-- One row of 129 elements against eight. -/
def smallGemm : Fp8GemmNtLaunch where
  a := ⟨1, .fp8E4M3, ![1, 129], ![129, I64.one]⟩
  aScale := ⟨1, .packedUe8M0, ![1, 1], ![I64.one, 4]⟩
  b := ⟨1, .fp8E4M3, ![8, 129], ![129, I64.one]⟩
  bScale := ⟨1, .packedUe8M0, ![8, 1], ![I64.one, 8]⟩
  d := ⟨1, .bf16, ![1, 8], ![8, I64.one]⟩
  stream := 0

/-- A B200. -/
def blackwell : Runtime := ⟨.ok ⟨0, 10, 0, 148⟩, 0, false⟩

example : smallGemm.check .sm100 = .ok () := by decide +kernel

theorem smallGemm_accepted_iff :
    smallGemm.Accepted .sm100 ↔
      ∃ raw, smallGemm.toRaw = .ok raw ∧ ∃ d, Raw.Gemm.dispatchFp8GemmNt blackwell raw = .ok d :=
  gemm_accepted_iff_dispatch ⟨by decide, by decide, by decide, by decide, by decide⟩
    ⟨by decide, by decide, by decide⟩ rfl rfl rfl ⟨_, rfl⟩

end Refine

end DeepGemmRs
