import DeepGemmRs.Raw.GemmChecked

/-!
# Accepted scale transforms

* `Admitted` : what the checks of `launch_fp8_gemm_transform_scale` leave of a request;
* `BroadcastLaunch`, `TransposeLaunch` : the launches that such a request leads to;
* `castFrom`, `covered` : what the kernel is to be told, and what the grid is to cover;
* `argsExact_iff` : the arguments are the values they are cast from, except on the plain paths from
  `2^32` rows on.
-/

namespace DeepGemmRs.Raw.Gemm

open Checked MachineInt Rounding

/-- The number of scales along `k`. -/
def scaleCols (params : Fp8GemmScaleTransformParams) : Int := params.k.val ⌈/⌉ params.granK.val

/-- What the checks of a scale transform leave of a request. -/
structure Admitted (params : Fp8GemmScaleTransformParams) : Prop where
  posMn : 0 < params.mn.val
  posK : 0 < params.k.val
  granMn : 0 < params.granMn.val ∧ params.granMn.val ≤ i32.hi
  granK : 0 < params.granK.val ∧ params.granK.val ≤ i32.hi
  rows : (params.scale.shape 0).val = params.mn.val ⌈/⌉ params.granMn.val
  cols : (params.scale.shape 1).val = scaleCols params
  isScale : IsScale params.transformed.dtype
  transformedRows : (params.transformed.shape 0).val = params.mn
  transformedCols : (params.transformed.shape 1).val =
    params.k.val ⌈/⌉ scaleDivisor params.granK params.transformed.dtype
  rowStride : (params.transformed.stride 0).val = 1
  colStride : (params.transformed.stride 1).val = alignUp params.mn 4
  blocks : scaleCols params ≤ 512

variable {params : Fp8GemmScaleTransformParams} {sfK : Int} {launch : Launch}

theorem Admitted.posCols (h : Admitted params) : 0 < scaleCols params := ceilDiv_pos h.granK.1 h.posK

theorem requireMnMajorScale_ok {tensor : RawTensor} {mn k granK : Int} {dtype : DTypeCode} {name : String} {u : Unit}
    (hg : 0 < granK ∧ granK ≤ i32.hi) (hd : IsScale dtype)
    (h : requireMnMajorScale tensor mn k granK dtype name = .ok u) :
    (tensor.shape 0).val = mn ∧ (tensor.shape 1).val = k ⌈/⌉ scaleDivisor granK dtype ∧
      (tensor.stride 0).val = 1 ∧ (tensor.stride 1).val = alignUp mn 4 := by
  simp only [requireMnMajorScale, bind_eq_ok, requireTensorRank_eq_ok, requireDtype_eq_ok,
    scaleKDivisor_eq hg.1 hg.2, Except.ok.injEq, exists_eq_left', throwIf_eq_ok, exists_const, not_or, not_not] at h
  obtain ⟨-, -, cols, hcols, aligned, haligned, hrows, hc, hs0, hs1⟩ := h
  obtain ⟨-, -, rfl⟩ := ceilDivI64_ok hcols
  obtain rfl := getTmaAlignedSize_scale_ok hd haligned
  exact ⟨hrows, hc, hs0, hs1⟩

theorem admitted_of_check (h : checkTransformScale params = .ok sfK) : Admitted params ∧ sfK = scaleCols params := by
  simp only [checkTransformScale, bind_eq_ok, requireContiguous2D_eq_ok, throwIf_eq_ok, exists_const, not_or, not_le,
    not_lt, requireShape2D_eq_ok, not_and_or, not_not, Except.ok.injEq] at h
  obtain ⟨-, ⟨hmn, hk, hgm0, hgm1, hgk0, hgk1⟩, cols, hcols, rows, hrows, ⟨hs0, hs1⟩, hd, u, htransformed,
    ⟨-, hle⟩, rfl⟩ := h
  obtain ⟨-, -, rfl⟩ := ceilDivI64_ok hcols
  obtain ⟨-, -, rfl⟩ := ceilDivI64_ok hrows
  obtain ⟨ht0, ht1, hst0, hst1⟩ := requireMnMajorScale_ok ⟨hgk0, hgk1⟩ hd htransformed
  exact ⟨⟨hmn, hk, ⟨hgm0, hgm1⟩, ⟨hgk0, hgk1⟩, hs0, hs1, hd, ht0, ht1, hst0, hst1, hle⟩, rfl⟩

/-! ## Launches -/

/-- The columns of a transformed scale. -/
def transformedCols (params : Fp8GemmScaleTransformParams) : Int :=
  if params.transformed.dtype = DTypeCode.f32 then scaleCols params else scaleCols params ⌈/⌉ (4 : Int)

/-- The arguments of a broadcast kernel, as integers. -/
def broadcastArgs (params : Fp8GemmScaleTransformParams) : List Int :=
  if params.transformed.dtype = DTypeCode.f32 then
    [params.mn, scaleCols params, params.granMn, alignUp params.mn 4]
  else [params.mn, scaleCols params, transformedCols params, params.granMn, alignUp params.mn 4]

/-- The launch of a broadcast kernel. -/
structure BroadcastLaunch (params : Fp8GemmScaleTransformParams) (launch : Launch) : Prop where
  kernel : launch.kernel = if params.transformed.dtype = DTypeCode.f32 then "broadcast_transpose_fp32"
    else "broadcast_transpose_and_pack_fp32_into_ue8m0"
  args : launch.args = .ptr params.scale.data :: .ptr params.transformed.data ::
    (broadcastArgs params).map KernelArg.u32
  gridDimX : launch.config.gridDimX = (params.mn.val * transformedCols params) ⌈/⌉ (256 : Int)
  gridDimY : launch.config.gridDimY = 1
  blockDimX : launch.config.blockDimX = 256
  gridFits : launch.config.gridDimX ≤ i32.hi
  alignedFits : alignUp params.mn 4 ≤ i32.hi

theorem Admitted.cast_granMn (h : Admitted params) : u32.cast params.granMn = params.granMn := by
  have h1 := h.granMn
  simp only [i32] at h1
  exact IntType.cast_of_has (has_u32.mpr ⟨by omega, by omega⟩)

theorem Admitted.cast_scaleCols (h : Admitted params) : u32.cast (scaleCols params) = scaleCols params := by
  have h0 := h.posCols
  have h1 := h.blocks
  exact IntType.cast_of_has (has_u32.mpr ⟨by omega, by omega⟩)

theorem cast_alignUp {mn : Int} (h0 : 0 < mn) (h : alignUp mn 4 ≤ i32.hi) :
    u32.cast (alignUp mn 4) = alignUp mn 4 ∧ u32.cast mn = mn := by
  have hle : mn ≤ alignUp mn 4 := le_alignUp (by decide)
  simp only [i32] at h
  exact ⟨IntType.cast_of_has (has_u32.mpr ⟨by omega, by omega⟩), IntType.cast_of_has (has_u32.mpr ⟨by omega, by omega⟩)⟩

theorem cast_grid {x grid : Int} {name : String} (h : asI32 x name = .ok grid) :
    u32.cast grid = x ∧ u32.cast grid ≤ i32.hi := by
  obtain ⟨hx, rfl⟩ := asI32_eq_ok.mp h
  rw [IntType.cast_of_has (Extent.u32 hx)]
  exact ⟨rfl, hx.2⟩

theorem launchBroadcast_ok (ha : Admitted params) (h : launchBroadcast params (scaleCols params) = .ok launch) :
    BroadcastLaunch params launch := by
  simp only [launchBroadcast, bind_eq_ok, throwIf_eq_ok, exists_const] at h
  obtain ⟨_, -, -, aligned, haligned, h⟩ := h
  obtain ⟨rfl, hfits⟩ := tmaAlignedMn_ok ha.isScale haligned
  obtain ⟨hcast, hmn⟩ := cast_alignUp ha.posMn hfits
  rw [hcast, hmn, ha.cast_granMn, ha.cast_scaleCols] at h
  by_cases hd : params.transformed.dtype = DTypeCode.f32
  · simp only [if_pos hd, bind_eq_ok, IntType.mul_eq_ok] at h
    obtain ⟨_, ⟨-, rfl⟩, _, hblocks, grid, hgrid, h⟩ := h
    obtain ⟨-, -, rfl⟩ := ceilDivI64_ok hblocks
    obtain ⟨hx, hle⟩ := cast_grid hgrid
    obtain ⟨hkernel, hargs, hgx, hgy, hbx⟩ := launchKernel_ok h
    refine ⟨by rw [hkernel, if_pos hd], ?_, ?_, hgy, hbx, hgx ▸ hle, hfits⟩
    · rw [hargs, broadcastArgs, if_pos hd]
      rfl
    · rw [hgx, hx, transformedCols, if_pos hd]
  · simp only [if_neg hd, bind_eq_ok, IntType.mul_eq_ok] at h
    obtain ⟨_, hpacked, _, ⟨-, rfl⟩, _, hblocks, grid, hgrid, h⟩ := h
    obtain ⟨-, -, rfl⟩ := ceilDivI64_ok hpacked
    obtain ⟨-, -, rfl⟩ := ceilDivI64_ok hblocks
    obtain ⟨hx, hle⟩ := cast_grid hgrid
    obtain ⟨hkernel, hargs, hgx, hgy, hbx⟩ := launchKernel_ok h
    have hpos : 0 < scaleCols params ⌈/⌉ (4 : Int) := ceilDiv_pos (by decide) ha.posCols
    have hself : scaleCols params ⌈/⌉ (4 : Int) ≤ scaleCols params := ceilDiv_le_self (by decide) ha.posCols.le
    have hblocks := ha.blocks
    refine ⟨by rw [hkernel, if_neg hd], ?_, ?_, hgy, hbx, hgx ▸ hle, hfits⟩
    · rw [hargs, broadcastArgs, transformedCols, if_neg hd, if_neg hd,
        IntType.cast_of_has (T := u32) (has_u32.mpr ⟨by omega, by omega⟩)]
      rfl
    · rw [hgx, hx, transformedCols, if_neg hd]

/-- The rows of a block of the plain kernels. -/
def blockMn (params : Fp8GemmScaleTransformParams) : Int :=
  if params.transformed.dtype = DTypeCode.f32 then 64 else 48

/-- The launch of a plain kernel: its grid is exact, its number of rows is cut to 32 bits. -/
structure TransposeLaunch (params : Fp8GemmScaleTransformParams) (launch : Launch) : Prop where
  u32Args : launch.u32Args = if params.transformed.dtype = DTypeCode.f32 then [u32.cast params.mn]
    else [u32.cast params.mn, 0]
  gridDimX : launch.config.gridDimX = params.mn.val ⌈/⌉ blockMn params

theorem launchTranspose_ok {pdl : Bool} (hd : params.transformed.dtype = DTypeCode.f32)
    (h : launchTranspose params sfK pdl = .ok launch) : TransposeLaunch params launch := by
  simp only [launchTranspose, bind_eq_ok] at h
  obtain ⟨_, -, _, -, _, -, _, -, _, -, _, -, _, hblocks, grid, hgrid, h⟩ := h
  obtain ⟨-, -, rfl⟩ := ceilDivI64_ok hblocks
  obtain ⟨-, hargs, hgx, -, -⟩ := launchKernel_ok h
  refine ⟨?_, ?_⟩
  · rw [Launch.u32Args, hargs, if_pos hd]
    rfl
  · rw [hgx, (cast_grid hgrid).1, blockMn, if_pos hd]

theorem launchTransposeAndPack_ok {pdl : Bool} (hd : params.transformed.dtype ≠ DTypeCode.f32)
    (h : launchTransposeAndPack params sfK pdl = .ok launch) : TransposeLaunch params launch := by
  simp only [launchTransposeAndPack, bind_eq_ok] at h
  obtain ⟨_, -, _, -, _, -, _, -, _, hblocks, grid, hgrid, h⟩ := h
  obtain ⟨-, -, rfl⟩ := ceilDivI64_ok hblocks
  obtain ⟨-, hargs, hgx, -, -⟩ := launchKernel_ok h
  refine ⟨?_, ?_⟩
  · rw [Launch.u32Args, hargs, if_neg hd]
    rfl
  · rw [hgx, (cast_grid hgrid).1, blockMn, if_neg hd]

/-- An accepted request is admitted, and takes a broadcast path or a plain one. -/
theorem launchFp8GemmTransformScale_ok {runtime : Runtime} (h : launchFp8GemmTransformScale runtime params = .ok launch) :
    Admitted params ∧ (params.granMn.val ≠ 1 → BroadcastLaunch params launch) ∧
      (params.granMn.val = 1 → TransposeLaunch params launch) := by
  obtain ⟨sfK, hcheck, h⟩ := bind_eq_ok.mp h
  obtain ⟨ha, rfl⟩ := admitted_of_check hcheck
  refine ⟨ha, fun hg => ?_, fun hg => ?_⟩
  · rw [if_pos hg] at h
    exact launchBroadcast_ok ha h
  · rw [if_neg (not_not.mpr hg)] at h
    by_cases hd : params.transformed.dtype = DTypeCode.f32
    · rw [if_pos hd] at h
      exact launchTranspose_ok hd h
    · rw [if_neg hd] at h
      exact launchTransposeAndPack_ok hd h

/-! ## Exact arguments -/

/-- The values that the `uint32_t` arguments of each path are cast from. -/
def castFrom (params : Fp8GemmScaleTransformParams) : List Int :=
  if params.granMn.val ≠ 1 then broadcastArgs params
  else if params.transformed.dtype = DTypeCode.f32 then [params.mn] else [params.mn, 0]

/-- What the grid is to cover: the elements of the output, or the rows. -/
def covered (params : Fp8GemmScaleTransformParams) : Int :=
  if params.granMn.val ≠ 1 then params.mn * transformedCols params else params.mn

/-- What one block covers. -/
def perBlock (params : Fp8GemmScaleTransformParams) : Int :=
  if params.granMn.val ≠ 1 then 256 else blockMn params

theorem filterMap_u32 (l : List Int) :
    (l.map KernelArg.u32).filterMap KernelArg.asU32 = l := by
  induction l with
  | nil => rfl
  | cons x l ih => exact congrArg (x :: ·) ih

theorem blockMn_pos : 0 < blockMn params := by
  unfold blockMn
  split <;> decide

/-- **The kernels of a scale transform are told what was checked, on a grid that covers it, unless a plain
path cuts the number of rows to 32 bits.** -/
theorem argsExact_iff {runtime : Runtime} (h : launchFp8GemmTransformScale runtime params = .ok launch) :
    (launch.u32Args = castFrom params ∧ covered params ≤ launch.config.gridDimX * perBlock params) ↔
      params.granMn.val ≠ 1 ∨ params.mn.val ≤ u32.hi := by
  obtain ⟨ha, hbroadcast, htranspose⟩ := launchFp8GemmTransformScale_ok h
  unfold castFrom covered perBlock
  by_cases hg : params.granMn.val ≠ 1
  · have hl := hbroadcast hg
    simp only [if_pos hg]
    refine iff_of_true ⟨?_, ?_⟩ (.inl hg)
    · rw [Launch.u32Args, hl.args]
      exact filterMap_u32 _
    · rw [hl.gridDimX]
      exact le_ceilDiv_mul (by decide)
  · have hl := htranspose (not_not.mp hg)
    have hcover : params.mn.val ≤ params.mn.val ⌈/⌉ blockMn params * blockMn params :=
      le_ceilDiv_mul blockMn_pos
    have hcast : u32.cast params.mn = params.mn ↔ params.mn.val ≤ u32.hi := by
      rw [IntType.cast_eq_self_iff (by decide), has_u32]
      have := ha.posMn
      simp only [u32]
      omega
    simp only [if_neg hg, hl.u32Args, hl.gridDimX, hcover, and_true]
    split
    · simp [hcast, hg]
    · simp [hcast, hg]

/-- A device of compute capability 10, without an override. -/
def b200 : Runtime := ⟨.ok ⟨0, 10, 0, 148⟩, 0, false⟩

/-- A column of scales, one for each of `mn` rows. -/
def scaleColumn (mn : I64) : Fp8GemmScaleTransformParams where
  scale := ⟨256, DTypeCode.f32, 2, ![mn, I64.one, I64.zero, I64.zero], ![I64.one, I64.one, I64.zero, I64.zero]⟩
  transformed := ⟨512, DTypeCode.f32, 2, ![mn, I64.one, I64.zero, I64.zero], ![I64.one, mn, I64.zero, I64.zero]⟩
  mn
  k := I64.one
  granMn := I64.one
  granK := I64.one
  stream := 0

/-- `2^32` rows, the number that is cut to zero. -/
def tallColumn : Fp8GemmScaleTransformParams := scaleColumn 4294967296

/-- The greatest number of rows whose column is aligned and that is not cut. -/
def tallestColumn : Fp8GemmScaleTransformParams := scaleColumn 4294967292

theorem tallColumn_truncated :
    ∃ launch, launchFp8GemmTransformScale b200 tallColumn = .ok launch ∧
      ¬(launch.u32Args = castFrom tallColumn ∧
        covered tallColumn ≤ launch.config.gridDimX * perBlock tallColumn) :=
  ⟨_, rfl, by decide⟩

theorem tallestColumn_exact :
    ∃ launch, launchFp8GemmTransformScale b200 tallestColumn = .ok launch ∧
      (launch.u32Args = castFrom tallestColumn ∧
        covered tallestColumn ≤ launch.config.gridDimX * perBlock tallestColumn) := by
  obtain ⟨launch, h⟩ : ∃ launch, launchFp8GemmTransformScale b200 tallestColumn = .ok launch := ⟨_, rfl⟩
  exact ⟨launch, h, (argsExact_iff h).mpr (.inr (by decide))⟩

end DeepGemmRs.Raw.Gemm
