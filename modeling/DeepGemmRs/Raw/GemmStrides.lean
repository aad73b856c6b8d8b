import DeepGemmRs.Raw.GemmTotal
import DeepGemmRs.Raw.Transform

/-!
# The strides of a GEMM's tensor maps

The driver encodes a tensor map only if each of its byte strides in global memory is a multiple of 16.

* `makeTma2dDesc_gmemStrides` : the one stride of a two-dimensional map is its row in bytes;
* `GemmRows` : the rows of the tensors that pass the checks of a GEMM, `dispatch_rows`;
* `launch_gmemStrides` : the strides of the maps of a launch, in the order of its arguments;
* `gemmMaps_aligned_iff` : **the maps of a launch can be encoded where `k` is a multiple of 16, and
  only there**: the rows of the output and of the scales are checked or rounded up, those of the two
  operands are `k` bytes, whatever `k` is.
-/

namespace DeepGemmRs.Raw

open Checked MachineInt Rounding

/-- The tensor maps that were made for a launch. -/
def Launch.tensorMaps (launch : Launch) : List TensorMap := launch.args.filterMap KernelArg.asTensorMap

/-- What `cuTensorMapEncodeTiled` requires of the strides. -/
def TensorMap.StridesAligned (map : TensorMap) : Prop := ∀ stride ∈ map.gmemStrides, 16 ∣ stride

instance (map : TensorMap) : Decidable map.StridesAligned := inferInstanceAs (Decidable (∀ _ ∈ _, _))

/-- The stride of a two-dimensional map, in bytes. -/
theorem makeTma2dDesc_gmemStrides {data : Ptr} {dtype : DTypeCode}
    {gmemInnerDim gmemOuterDim smemInnerDim smemOuterDim stride swizzleMode : Int} {options : TmaOptions}
    {map : TensorMap} (hs : Extent stride)
    (h : makeTma2dDesc .machine data dtype gmemInnerDim gmemOuterDim smemInnerDim smemOuterDim stride swizzleMode
      options = .ok map) :
    map.gmemStrides = [stride * dtypeElementSize dtype] := by
  obtain ⟨elemSize, helem, h⟩ := bind_eq_ok.mp h
  have hexact : tmaElemSize .exact data dtype = .ok elemSize := tmaElemSize_same.symm.trans helem
  have hbounds := tmaElemSize_ok hexact
  have hsize : dtypeElementSize dtype = elemSize := by
    simp only [tmaElemSize, bind_eq_ok, Arith.exact_cast, Except.ok.injEq] at hexact
    obtain ⟨_, -, _, -, hsize⟩ := hexact
    exact hsize
  have hstride : strideBytes .machine stride elemSize = .ok (stride * elemSize) :=
    (strideBytes_same hs hbounds).trans rfl
  simp only [bind_eq_ok, hstride, Except.ok.injEq, exists_eq_left'] at h
  obtain ⟨_, -, _, -, _, -, _, -, _, -, _, -, _, -, _, -, rfl⟩ := h
  rw [hsize]

namespace Gemm

/-! ## Rows -/

/-- What the checks of a GEMM tell of the rows that its maps step by. -/
structure GemmRows (params : Fp8GemmNtParams) (dims : GemmDims) : Prop where
  k : dims.k = (params.a.shape 1).val
  a : params.a.dtype = DTypeCode.fp8E4M3 ∧ (params.a.stride 0).val = dims.k
  b : params.b.dtype = DTypeCode.fp8E4M3 ∧ (params.b.stride 0).val = dims.k
  d : params.d.dtype = DTypeCode.bf16 ∧ (params.d.stride 0).val = dims.n ∧ dims.n % 8 = 0
  aScale : IsScale params.aScale.dtype

theorem requireMnMajorScale_dtype {tensor : RawTensor} {mn k granK : Int} {dtype : DTypeCode} {name : String}
    {u : Unit} (h : requireMnMajorScale tensor mn k granK dtype name = .ok u) : tensor.dtype = dtype := by
  simp only [requireMnMajorScale, bind_eq_ok, requireDtype_eq_ok] at h
  obtain ⟨_, -, _, hdtype, -⟩ := h
  exact hdtype

theorem validateCommonGemmNt_rows {params : Fp8GemmNtParams} {dims : GemmDims}
    (h : validateCommonGemmNt params = .ok dims) (hscale : IsScale params.aScale.dtype) : GemmRows params dims := by
  simp only [validateCommonGemmNt, bind_eq_ok, requireContiguous2D_eq_ok, throwIf_eq_ok, requireShape2D_eq_ok,
    exists_const, not_not, Except.ok.injEq] at h
  obtain ⟨⟨-, hda, -, hsa, -⟩, ⟨-, hdb, -, hsb, -⟩, ⟨-, hdd, -, hsd, -⟩, hk, ⟨-, hn⟩, hmul, rfl⟩ := h
  exact ⟨rfl, ⟨hda, hsa⟩, ⟨hdb, hsb.trans hk⟩, ⟨hdd, hsd.trans hn, hmul⟩, hscale⟩

/-- The dimensions of a dispatch. -/
def GemmDispatch.dims : GemmDispatch → GemmDims
  | sm90 dims _ _ => dims
  | sm100 dims _ _ => dims

/-- Every dispatch has checked the rows; on SM100 the second scale as well. -/
theorem dispatch_rows {runtime : Runtime} {params : Fp8GemmNtParams} {d : GemmDispatch}
    (h : dispatchFp8GemmNt runtime params = .ok d) :
    GemmRows params d.dims ∧ ∀ dims numSms config, d = .sm100 dims numSms config → IsScale params.bScale.dtype := by
  simp only [dispatchFp8GemmNt, bind_eq_ok, asI32_eq_ok] at h
  obtain ⟨dims, hdims, _, ⟨-, rfl⟩, _, ⟨-, rfl⟩, _, ⟨-, rfl⟩, numSms, -, device, -, h⟩ := h
  split at h
  · simp only [checkSm90Scales, bind_eq_ok, Except.ok.injEq] at h
    obtain ⟨config, -, _, ⟨_, hscale, -⟩, rfl⟩ := h
    refine ⟨validateCommonGemmNt_rows hdims (.inl (requireMnMajorScale_dtype hscale)), ?_⟩
    intro dims numSms config e
    cases e
  · split at h
    · simp only [checkSm100Scales, bind_eq_ok, Except.ok.injEq] at h
      obtain ⟨config, -, _, ⟨_, hscale, hscaleB⟩, rfl⟩ := h
      refine ⟨validateCommonGemmNt_rows hdims (.inr (requireMnMajorScale_dtype hscale)), ?_⟩
      intro _ _ _ _
      exact .inr (requireMnMajorScale_dtype hscaleB)
    · cases h

/-! ## The maps of a launch -/

section

variable {params : Fp8GemmNtParams} {dims : GemmDims} {config : GemmConfig} {map : TensorMap}

theorem operandMap_gmemStrides {operand : RawTensor} {rows loadBlock swizzleMode : Int} {name : String}
    (hd : operand.dtype = DTypeCode.fp8E4M3)
    (h : operandMap operand rows dims config loadBlock swizzleMode name = .ok map) :
    map.gmemStrides = [(operand.stride 0).val] := by
  obtain ⟨stride, hstride, h⟩ := bind_eq_ok.mp h
  have hextent := Extent.of_asI32 hstride
  obtain ⟨-, rfl⟩ := asI32_eq_ok.mp hstride
  rw [makeTma2dDesc_gmemStrides hextent h, hd, show dtypeElementSize DTypeCode.fp8E4M3 = 1 from rfl, Int.mul_one]

theorem outputMap_gmemStrides (hd : params.d.dtype = DTypeCode.bf16)
    (h : outputMap params dims config = .ok map) : map.gmemStrides = [(params.d.stride 0).val * 2] := by
  obtain ⟨stride, hstride, h⟩ := bind_eq_ok.mp h
  have hextent := Extent.of_asI32 hstride
  obtain ⟨-, rfl⟩ := asI32_eq_ok.mp hstride
  rw [makeTma2dDesc_gmemStrides hextent h, hd]
  rfl

theorem scaleMap_gmemStrides {scale : RawTensor} {mn k divisor block : Int}
    {alignedName colsName strideName : String} (hd : IsScale scale.dtype)
    (h : scaleMap scale mn k divisor block alignedName colsName strideName = .ok map) :
    map.gmemStrides = [alignUp mn 4 * 4] := by
  simp only [scaleMap, bind_eq_ok] at h
  obtain ⟨_, -, _, -, _, -, stride, hstride, h⟩ := h
  have hextent : Extent stride := by
    simp only [tmaAlignedMn, bind_eq_ok] at hstride
    obtain ⟨_, -, _, -, hstride⟩ := hstride
    exact Extent.of_asI32 hstride
  rw [makeTma2dDesc_gmemStrides hextent h, hd.size, (tmaAlignedMn_ok hd hstride).1]

/-- The strides of a launch: the operands step by `k` bytes, the output by `2 n`, a scale by its
rounded rows. -/
theorem launch_gmemStrides {runtime : Runtime} {launch : Launch} (h : launchFp8GemmNt runtime params = .ok launch) :
    ∃ m n k, k = (params.a.shape 1).val ∧ n % 8 = 0 ∧
      (launch.tensorMaps.map TensorMap.gmemStrides = [[k], [k], [n * 2], [alignUp m 4 * 4]] ∨
        launch.tensorMaps.map TensorMap.gmemStrides =
          [[k], [k], [alignUp m 4 * 4], [alignUp n 4 * 4], [n * 2]]) := by
  obtain ⟨d, hd, h⟩ := bind_eq_ok.mp h
  obtain ⟨hrows, hscaleB⟩ := dispatch_rows hd
  refine ⟨d.dims.m, d.dims.n, d.dims.k, hrows.k, hrows.d.2.2, ?_⟩
  cases d with
  | sm90 dims numSms config =>
    simp only [launchGemmNt, launchSm90Fp8GemmNt, bind_eq_ok] at h
    obtain ⟨mapA, ha, mapB, hb, mapD, hd, mapSfa, hsfa, h⟩ := h
    rw [Launch.tensorMaps, (launchKernel_ok h).2.1]
    left
    simp only [List.filterMap_cons, List.filterMap_nil, KernelArg.asTensorMap, List.map_cons, List.map_nil,
      operandMap_gmemStrides hrows.a.1 ha, operandMap_gmemStrides hrows.b.1 hb, outputMap_gmemStrides hrows.d.1 hd,
      scaleMap_gmemStrides hrows.aScale hsfa, hrows.a.2, hrows.b.2, hrows.d.2.1]
    rfl
  | sm100 dims numSms config =>
    simp only [launchGemmNt, launchSm100Fp8GemmNt, bind_eq_ok] at h
    obtain ⟨mapA, ha, mapB, hb, mapSfa, hsfa, mapSfb, hsfb, mapCd, hcd, h⟩ := h
    rw [Launch.tensorMaps, (launchKernel_ok h).2.1]
    right
    simp only [List.filterMap_cons, List.filterMap_nil, KernelArg.asTensorMap, List.map_cons, List.map_nil,
      operandMap_gmemStrides hrows.a.1 ha, operandMap_gmemStrides hrows.b.1 hb, outputMap_gmemStrides hrows.d.1 hcd,
      scaleMap_gmemStrides hrows.aScale hsfa, scaleMap_gmemStrides (hscaleB _ _ _ rfl) hsfb, hrows.a.2, hrows.b.2,
      hrows.d.2.1]
    rfl

theorem stridesAligned_iff {maps : List TensorMap} :
    (∀ map ∈ maps, map.StridesAligned) ↔ ∀ strides ∈ maps.map TensorMap.gmemStrides, ∀ s ∈ strides, 16 ∣ s := by
  simp only [List.forall_mem_map, TensorMap.StridesAligned]

theorem alignedRow (mn : Int) : 16 ∣ alignUp mn 4 * 4 := by
  rw [alignUp_eq_ediv_mul (by decide)]
  omega

/-- **The tensor maps of an accepted GEMM have strides that the driver takes exactly where the rows of
the operands, `k` bytes long, are a multiple of 16.** -/
theorem gemmMaps_aligned_iff {runtime : Runtime} {params : Fp8GemmNtParams} {launch : Launch}
    (h : launchFp8GemmNt runtime params = .ok launch) :
    (∀ map ∈ launch.tensorMaps, map.StridesAligned) ↔ 16 ∣ (params.a.shape 1).val := by
  obtain ⟨m, n, k, hk, hn, hstrides⟩ := launch_gmemStrides h
  have hout : 16 ∣ n * 2 := by omega
  rw [stridesAligned_iff, ← hk]
  rcases hstrides with hstrides | hstrides
  · rw [hstrides]
    simp [alignedRow, hout]
  · rw [hstrides]
    simp [alignedRow, hout]

end

/-! ## A GEMM of 64 rows and 8 columns -/

/-- A row-major matrix. -/
def rowMatrix (dtype : DTypeCode) (rows cols : I64) : RawTensor where
  data := 4096
  dtype := dtype
  rank := 2
  shape := ![rows, cols, I64.zero, I64.zero]
  stride := ![cols, I64.one, I64.zero, I64.zero]

/-- The packed scales of `mn` rows and a single block. -/
def packedScale (mn : I64) : RawTensor where
  data := 4096
  dtype := DTypeCode.packedUe8M0
  rank := 2
  shape := ![mn, I64.one, I64.zero, I64.zero]
  stride := ![I64.one, mn, I64.zero, I64.zero]

def gemm64By8 (k : I64) : Fp8GemmNtParams where
  a := rowMatrix DTypeCode.fp8E4M3 64 k
  aScale := packedScale 64
  b := rowMatrix DTypeCode.fp8E4M3 8 k
  bScale := packedScale 8
  d := rowMatrix DTypeCode.bf16 64 8
  stream := 0

/-- Past the checks, the heuristics and the launch go through. -/
theorem gemm64By8_launches {k : I64} (hk : 1 ≤ k.val ∧ k.val ≤ 512)
    (hcommon : validateCommonGemmNt (gemm64By8 k) = .ok ⟨64, 8, k⟩)
    (hscales : checkSm100Scales (gemm64By8 k) ⟨64, 8, k⟩ = .ok ()) :
    ∃ launch, launchFp8GemmNt b200 (gemm64By8 k) = .ok launch := by
  have hextent : Extent k.val := ⟨by omega, by simp only [MachineInt.i32]; omega⟩
  have hblocks : k.val ⌈/⌉ (128 : Int) ≤ 512 := (ceilDiv_le_iff (by decide)).mpr (by omega)
  have hsizes : GemmSizes 64 8 k 148 := ⟨by decide, by decide, ⟨hk.1, hblocks⟩, by decide, by decide⟩
  obtain ⟨config, hconfig, hstorage⟩ := sm100BestConfig_total hsizes
  have hdata : (4096 : Ptr) ≠ 0 := by decide
  have hlaunchable : Launchable (gemm64By8 k) := {
    a := ⟨hdata, .inl rfl, hextent⟩
    b := ⟨hdata, .inl rfl, hextent⟩
    d := ⟨hdata, .inr (.inl rfl), show Extent 8 by decide⟩
    aScale := ⟨hdata, .inr rfl⟩
    bScale := ⟨hdata, .inr rfl⟩ }
  obtain ⟨launch, hlaunch, -⟩ := launchSm100Fp8GemmNt_total hlaunchable hsizes hstorage b200.pdlEnabled
  have hdispatch : dispatchFp8GemmNt b200 (gemm64By8 k) = .ok (.sm100 ⟨64, 8, k⟩ 148 config) := by
    unfold dispatchFp8GemmNt
    simp only [bind_eq_ok, asI32_eq_ok]
    refine ⟨⟨64, 8, k⟩, hcommon, 64, ⟨show Extent 64 by decide, rfl⟩, 8, ⟨show Extent 8 by decide, rfl⟩, k,
      ⟨hextent, rfl⟩, 148, rfl, ⟨0, 10, 0, ⟨148, by decide⟩⟩, rfl, ?_⟩
    rw [if_neg (by decide), if_pos rfl]
    exact bind_eq_ok.mpr ⟨config, hconfig, bind_eq_ok.mpr ⟨(), hscales, rfl⟩⟩
  exact ⟨launch, bind_eq_ok.mpr ⟨_, hdispatch, hlaunch⟩⟩

/-- With `k = 8` the maps of the operands step by 8 bytes: every native check passes, and the driver
refuses the maps. -/
theorem gemm64By8_misaligned :
    ∃ launch, launchFp8GemmNt b200 (gemm64By8 ⟨8, by decide⟩) = .ok launch ∧
      ∃ map ∈ launch.tensorMaps, ¬ map.StridesAligned := by
  obtain ⟨launch, h⟩ := gemm64By8_launches (k := ⟨8, by decide⟩) (by decide) rfl rfl
  obtain ⟨m, n, k, hk, -, hstrides⟩ := launch_gmemStrides h
  have hmem : [(8 : Int)] ∈ launch.tensorMaps.map TensorMap.gmemStrides := by
    rw [show (8 : Int) = k from hk.symm]
    rcases hstrides with hstrides | hstrides <;> simp [hstrides]
  obtain ⟨map, hmap, hstride⟩ := List.mem_map.mp hmem
  refine ⟨launch, h, map, hmap, fun haligned => ?_⟩
  have h16 : (16 : Int) ∣ 8 := haligned 8 (by rw [hstride]; exact List.mem_singleton_self _)
  exact absurd h16 (by decide)

theorem gemm64By8_aligned :
    ∃ launch, launchFp8GemmNt b200 (gemm64By8 ⟨16, by decide⟩) = .ok launch ∧
      ∀ map ∈ launch.tensorMaps, map.StridesAligned := by
  obtain ⟨launch, h⟩ := gemm64By8_launches (k := ⟨16, by decide⟩) (by decide) rfl rfl
  exact ⟨launch, h, (gemmMaps_aligned_iff h).mpr (by decide)⟩

end Gemm

end DeepGemmRs.Raw
