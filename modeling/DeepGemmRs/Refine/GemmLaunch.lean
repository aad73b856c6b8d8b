import DeepGemmRs.Crate.Runtime
import DeepGemmRs.Raw.GemmTotal
import DeepGemmRs.Refine.Gemm

/-!
# What the crate accepts reaches a kernel

* `TransformContract` : what a launch of `fp8_gemm_transform_scale` must satisfy;
* `validateFp8GemmScaleTransformSpec_eq_ok`, `checkTransformScale_eq_ok` : the crate and the native
  code both demand it, the native code with at most 512 blocks along `k`;
* `fp8GemmTransformScale_launches`, `fp8GemmNt_launches` : on the contract, and on sizes that the
  heuristics cover, a kernel is launched.
-/

namespace DeepGemmRs.Refine

open Checked MachineInt Rounding Crate TensorSpec

/-! ## The contract of a scale transform -/

/-- What `fp8_gemm_transform_scale` demands of its arguments. -/
structure TransformContract (spec : Fp8GemmScaleTransformSpec) : Prop where
  posMn : 0 < spec.mn
  posK : 0 < spec.k
  posGranMn : 0 < spec.granMn
  posGranK : 0 < spec.granK
  scale : ContiguousMatrix spec.scale .f32 ((spec.mn : Int) ⌈/⌉ (spec.granMn : Int))
    ((spec.k : Int) ⌈/⌉ (spec.granK : Int))
  isScale : IsScale spec.transformed.dtype
  transformed : MnMajorScale spec.transformed spec.mn spec.k spec.granK spec.transformed.dtype

/-- The sizes of a scale transform are values of `int`. -/
structure TransformFits (spec : Fp8GemmScaleTransformSpec) : Prop where
  mn : (spec.mn : Int) ≤ i32.hi
  k : (spec.k : Int) ≤ i32.hi
  granMn : (spec.granMn : Int) ≤ i32.hi
  granK : (spec.granK : Int) ≤ i32.hi

theorem isScale_of_layout {mn k granK : Nat} {dtype : DType} {layout : TensorLayout2D}
    (h : fp8GemmScaleLayout mn k granK dtype = .ok layout) : IsScale dtype := by
  obtain ⟨_, hd, -⟩ := bind_eq_ok.mp h
  exact requireScaleDtype_eq_ok.mp hd

section

variable {spec : Fp8GemmScaleTransformSpec}

theorem TransformContract.scaleExtents (hf : TransformFits spec) (h : TransformContract spec) :
    ∀ i, (spec.scale.shape i : Int) ≤ i32.hi := by
  have hrows : (spec.mn : Int) ⌈/⌉ (spec.granMn : Int) ≤ spec.mn :=
    ceilDiv_le_self (Int.natCast_pos.mpr h.posGranMn) (Int.natCast_nonneg _)
  have hcols : (spec.k : Int) ⌈/⌉ (spec.granK : Int) ≤ spec.k :=
    ceilDiv_le_self (Int.natCast_pos.mpr h.posGranK) (Int.natCast_nonneg _)
  exact h.scale.extents (hrows.trans hf.mn) (hcols.trans hf.k)

/-- The crate's checks of a scale transform are the contract. -/
theorem validateFp8GemmScaleTransformSpec_eq_ok (hf : TransformFits spec)
    (hext : ∀ i, (spec.scale.shape i : Int) ≤ i32.hi) {u : Unit} :
    validateFp8GemmScaleTransformSpec spec = .ok u ↔ TransformContract spec := by
  simp only [validateFp8GemmScaleTransformSpec, bind_eq_ok, requirePositive_eq_ok, requireContiguous_matrix hext,
    requireDtype_eq_ok, requireShape_eq_ok, requireSpec_eq_ok, exists_const, eq_vec_two]
  constructor
  · rintro ⟨hmn, hk, hgm, hgk, hc, hd, rows, hrows, cols, hcols, ⟨h0, h1⟩, layout, hl, hspec⟩
    have hscale := isScale_of_layout hl
    rw [ceilDiv_eq_ok hf.mn ⟨hgm, hf.granMn⟩] at hrows
    rw [ceilDiv_eq_ok hf.k ⟨hgk, hf.granK⟩] at hcols
    obtain ⟨layout', hl', hlayout⟩ := fp8GemmScaleLayout_succeeds hscale ⟨hmn, hf.mn⟩ ⟨hk, hf.k⟩ ⟨hgk, hf.granK⟩
    obtain rfl : layout' = layout := Except.ok.inj (hl'.symm.trans hl)
    refine ⟨hmn, hk, hgm, hgk, ⟨hc, hd, ?_, ?_⟩, hscale, hlayout.spec_iff.mp hspec⟩
    · rw [h0]
      exact hrows
    · rw [h1]
      exact hcols
  · intro h
    obtain ⟨layout, hl, hlayout⟩ := fp8GemmScaleLayout_succeeds h.isScale ⟨h.posMn, hf.mn⟩ ⟨h.posK, hf.k⟩
      ⟨h.posGranK, hf.granK⟩
    refine ⟨h.posMn, h.posK, h.posGranMn, h.posGranK, h.scale.rowMajor, h.scale.dtypeEq, _,
      (ceilDiv_eq_ok hf.mn ⟨h.posGranMn, hf.granMn⟩).mpr h.scale.rows, _,
      (ceilDiv_eq_ok hf.k ⟨h.posGranK, hf.granK⟩).mpr h.scale.cols, ⟨rfl, rfl⟩, layout, hl, ?_⟩
    exact hlayout.spec_iff.mpr h.transformed

end

/-! ## The native checks of a scale transform -/

/-- `raw` is the converted launch. -/
structure TransformImage (params : Fp8GemmScaleTransformLaunch) (raw : Raw.Gemm.Fp8GemmScaleTransformParams) :
    Prop where
  scale : params.scale.Image raw.scale
  transformed : params.transformed.Image raw.transformed
  mn : raw.mn.val = params.mn
  k : raw.k.val = params.k
  granMn : raw.granMn.val = params.granMn
  granK : raw.granK.val = params.granK

/-- No pointer is null. -/
structure TransformPointers (params : Fp8GemmScaleTransformLaunch) : Prop where
  scale : params.scale.data ≠ 0
  transformed : params.transformed.data ≠ 0

section

variable {params : Fp8GemmScaleTransformLaunch} {raw : Raw.Gemm.Fp8GemmScaleTransformParams}

theorem transformToRaw_image (h : params.toRaw = .ok raw) : TransformImage params raw := by
  simp only [Fp8GemmScaleTransformLaunch.toRaw, bind_eq_ok, usizeToI64_eq_ok, Except.ok.injEq] at h
  obtain ⟨scale, hs, transformed, ht, mn, hmn, k, hk, granMn, hgm, granK, hgk, rfl⟩ := h
  have hr : 2 ≤ 4 := by decide
  exact ⟨TensorArg.toRaw_image hr hs, TensorArg.toRaw_image hr ht, hmn, hk, hgm, hgk⟩

/-- The contract leaves the conversion nothing to refuse. -/
theorem transformToRaw_succeeds (hf : TransformFits params.spec) (h : TransformContract params.spec) :
    ∃ raw, params.toRaw = .ok raw := by
  have hr : 2 ≤ 4 := by decide
  have hscale := h.scaleExtents hf
  have htransformed := h.transformed.extents h.posGranK hf.mn hf.k
  obtain ⟨scale, hs⟩ := toRawTensor_succeeds hr (fun i => (hscale i).trans (by decide)) params.scale.data
  obtain ⟨transformed, ht⟩ := toRawTensor_succeeds hr (fun i => (htransformed i).trans (by decide))
    params.transformed.data
  have hi64 : ∀ {x : Nat}, (x : Int) ≤ i32.hi → i64.Has x := fun hx =>
    ⟨Int.le_trans (by decide) (Int.natCast_nonneg _), hx.trans (by decide)⟩
  simp only [Fp8GemmScaleTransformLaunch.toRaw, bind_eq_ok, usizeToI64_eq_ok]
  exact ⟨_, scale, hs, transformed, ht, ⟨_, hi64 hf.mn⟩, rfl, ⟨_, hi64 hf.k⟩, rfl, ⟨_, hi64 hf.granMn⟩, rfl,
    ⟨_, hi64 hf.granK⟩, rfl, rfl⟩

/-- The native code demands the contract, and at most 512 blocks along `k`. -/
theorem checkTransformScale_eq_ok (hi : TransformImage params raw) (hp : TransformPointers params)
    (hf : TransformFits params.spec) {sfK : Int} :
    Raw.Gemm.checkTransformScale raw = .ok sfK ↔
      TransformContract params.spec ∧ (params.k : Int) ⌈/⌉ (params.granK : Int) ≤ 512 ∧
        sfK = (params.k : Int) ⌈/⌉ (params.granK : Int) := by
  have hscale : ∀ u, Raw.Gemm.requireContiguous2D raw.scale DTypeCode.f32 "scale" = .ok u ↔ _ := fun u =>
    raw_requireContiguous2D_iff hi.scale hp.scale .f32
  have h0 := hi.scale.shape 0 0 rfl
  have h1 := hi.scale.shape 1 1 rfl
  have hmn : (params.mn : Int) ≤ 2147483647 := hf.mn
  have hk : (params.k : Int) ≤ 2147483647 := hf.k
  have hgm : (params.granMn : Int) ≤ 2147483647 := hf.granMn
  have hgk : (params.granK : Int) ≤ 2147483647 := hf.granK
  have hdtype : raw.transformed.dtype = params.transformed.spec.dtype.toSys := hi.transformed.dtype
  have hisScale : ¬ (raw.transformed.dtype ≠ DTypeCode.f32 ∧ raw.transformed.dtype ≠ DTypeCode.packedUe8M0) ↔
      IsScale params.transformed.spec.dtype := by
    rw [not_and_or, not_not, not_not]
    exact or_congr (dtype_iff_of_image hi.transformed .f32) (dtype_iff_of_image hi.transformed .packedUe8M0)
  simp only [Raw.Gemm.checkTransformScale, bind_eq_ok, hscale, throwIf_eq_ok, exists_const, hi.mn, hi.k, hi.granMn,
    hi.granK, Raw.Gemm.requireShape2D_eq_ok, h0, h1, not_or, not_le, not_lt, hisScale, Except.ok.injEq]
  constructor
  · rintro ⟨⟨hd, -, hrm⟩, ⟨hmn0, hk0, hgm0, -, hgk0, -⟩, sfK', hsfK, rows, hrows, ⟨hs0, hs1⟩, hscaled, _, htr,
      ⟨-, hsf1⟩, rfl⟩
    rw [Raw.Gemm.ceilDivI64_eq (Int.natCast_nonneg _) hgk0 (by simp only [i64]; omega), Except.ok.injEq] at hsfK
    rw [Raw.Gemm.ceilDivI64_eq (Int.natCast_nonneg _) hgm0 (by simp only [i64]; omega), Except.ok.injEq] at hrows
    rw [hdtype, raw_requireMnMajorScale_iff hi.transformed hp.transformed hscaled hmn hk
      ⟨Int.natCast_pos.mp hgk0, hgk⟩] at htr
    exact ⟨⟨Int.natCast_pos.mp hmn0, Int.natCast_pos.mp hk0, Int.natCast_pos.mp hgm0, Int.natCast_pos.mp hgk0,
      ⟨hrm, hd, hs0.trans hrows.symm, hs1.trans hsfK.symm⟩, hscaled, htr⟩, hsfK ▸ hsf1, hsfK.symm⟩
  · rintro ⟨h, hle, rfl⟩
    have hmn0 : 0 < (params.mn : Int) := Int.natCast_pos.mpr h.posMn
    have hk0 : 0 < (params.k : Int) := Int.natCast_pos.mpr h.posK
    have hgm0 : 0 < (params.granMn : Int) := Int.natCast_pos.mpr h.posGranMn
    have hgk0 : 0 < (params.granK : Int) := Int.natCast_pos.mpr h.posGranK
    have hrows := h.scale.rows
    have hcols := h.scale.cols
    have hrows0 : 0 < (params.mn : Int) ⌈/⌉ (params.granMn : Int) := ceilDiv_pos hgm0 hmn0
    have hcols0 : 0 < (params.k : Int) ⌈/⌉ (params.granK : Int) := ceilDiv_pos hgk0 hk0
    refine ⟨⟨h.scale.dtypeEq, ⟨?_, ?_⟩, h.scale.rowMajor⟩, ⟨hmn0, hk0, hgm0, hgm, hgk0, hgk⟩, _,
      Raw.Gemm.ceilDivI64_eq hk0.le hgk0 (by simp only [i64]; omega), _,
      Raw.Gemm.ceilDivI64_eq hmn0.le hgm0 (by simp only [i64]; omega), ⟨hrows, hcols⟩, h.isScale, (), ?_, ⟨hcols0, hle⟩, rfl⟩
    · exact Int.natCast_pos.mp (hrows ▸ hrows0)
    · exact Int.natCast_pos.mp (hcols ▸ hcols0)
    · rw [hdtype]
      exact (raw_requireMnMajorScale_iff hi.transformed hp.transformed h.isScale hmn hk ⟨h.posGranK, hgk⟩).mpr
        h.transformed

/-! ## Launches -/

/-- The kernel of a scale transform. -/
def transformKernel (granMn : Nat) (dtype : DType) : String :=
  if granMn ≠ 1 then "broadcast_transpose_and_pack_fp32_into_ue8m0"
  else if dtype = .f32 then "transpose_fp32"
  else "transpose_and_pack_fp32_into_ue8m0"

/-- **Every scale transform of at most 512 blocks along `k` is launched.** -/
theorem fp8GemmTransformScale_launches (hp : TransformPointers params) (hf : TransformFits params.spec)
    (hmn : (params.mn : Int) ≤ i32.hi - 3) (hk : (params.k : Int) ⌈/⌉ (params.granK : Int) ≤ 512)
    (hbroadcast : params.granMn = 1 ∨ params.transformed.spec.dtype = .packedUe8M0)
    (h : TransformContract params.spec) (runtime : Runtime) :
    ∃ launch, Crate.fp8GemmTransformScale runtime params = .ok launch ∧
      launch.kernel = transformKernel params.granMn params.transformed.spec.dtype := by
  obtain ⟨raw, hraw⟩ := transformToRaw_succeeds hf h
  have hi := transformToRaw_image hraw
  have hchecked := (checkTransformScale_eq_ok hi hp hf).mpr ⟨h, hk, rfl⟩
  have hsfK : 1 ≤ (params.k : Int) ⌈/⌉ (params.granK : Int) ∧ (params.k : Int) ⌈/⌉ (params.granK : Int) ≤ 512 :=
    ⟨ceilDiv_pos (Int.natCast_pos.mpr h.posGranK) (Int.natCast_pos.mpr h.posK), hk⟩
  have hmnrange : 0 ≤ raw.mn.val ∧ raw.mn.val ≤ i32.hi - 3 := by
    rw [hi.mn]
    exact ⟨Int.natCast_nonneg _, hmn⟩
  have hextent : Raw.Extent raw.mn.val := ⟨hmnrange.1, hmnrange.2.trans (by decide)⟩
  have hone : raw.granMn.val ≠ 1 ↔ params.granMn ≠ 1 := by
    rw [hi.granMn]
    omega
  have hdtype : raw.transformed.dtype = DTypeCode.f32 ↔ params.transformed.spec.dtype = .f32 :=
    dtype_iff_of_image hi.transformed .f32
  have hlaunch : ∃ launch, Raw.Gemm.launchFp8GemmTransformScale runtime raw = .ok launch ∧
      launch.kernel = transformKernel params.granMn params.transformed.spec.dtype := by
    unfold Raw.Gemm.launchFp8GemmTransformScale transformKernel
    rw [hchecked, ok_bind]
    by_cases hgran : params.granMn ≠ 1
    · have hpacked : params.transformed.spec.dtype = .packedUe8M0 := hbroadcast.resolve_left hgran
      rw [if_pos (hone.mpr hgran), if_pos hgran]
      exact Raw.Gemm.launchBroadcast_total hmnrange hsfK (hi.transformed.dtype.trans (congrArg DType.toSys hpacked))
    · rw [if_neg (mt hone.mp hgran), if_neg hgran]
      by_cases hd : params.transformed.spec.dtype = .f32
      · rw [if_pos (hdtype.mpr hd), if_pos hd]
        exact Raw.Gemm.launchTranspose_total hextent hsfK _
      · rw [if_neg (mt hdtype.mp hd), if_neg hd]
        exact Raw.Gemm.launchTransposeAndPack_total hextent hsfK _
  obtain ⟨launch, hlaunch, hkernel⟩ := hlaunch
  refine ⟨launch, ?_, hkernel⟩
  have hvalidate := (validateFp8GemmScaleTransformSpec_eq_ok hf (h.scaleExtents hf) (u := ())).mpr h
  simp only [Crate.fp8GemmTransformScale, bind_eq_ok, checkNative_eq_ok]
  exact ⟨(), hvalidate, raw, hraw, hlaunch⟩

end

section

variable {params : Fp8GemmNtLaunch} {raw : Raw.Gemm.Fp8GemmNtParams} {arch : Arch} {m n k : Nat} {numSms : Int}

theorem gemmFits_of_sizes (hs : Raw.Gemm.GemmSizes m n k numSms) : GemmFits m n k :=
  ⟨hs.extentM.2, hs.extentN.2, hs.extentK.2⟩

/-- The dtypes and strides of a contract are those that a launch reads. -/
theorem launchable_of_contract (hi : GemmImage params raw) (hp : GemmPointers params)
    (hf : GemmFits m n k) (h : GemmContract params.spec arch m n k) : Raw.Gemm.Launchable raw := by
  have hda := hi.a.data
  have hdb := hi.b.data
  have hdd := hi.d.data
  have hdas := hi.aScale.data
  have hdbs := hi.bScale.data
  have rows : ∀ {arg : TensorArg 2} {t : RawTensor} {dtype : DType} {r c : Int}, arg.Image t →
      ContiguousMatrix arg.spec dtype r c → 0 ≤ c ∧ c ≤ i32.hi → Raw.Extent (t.stride 0) := by
    intro arg t dtype r c himg hmat hc
    have hstride : (t.stride 0).val = c := by
      rw [himg.stride 0 0 rfl, (rowMajor_two.mp hmat.rowMajor).1]
      exact hmat.cols
    exact ⟨hstride ▸ hc.1, hstride ▸ hc.2⟩
  have hscales : Raw.Gemm.IsScale raw.aScale.dtype ∧ Raw.Gemm.IsScale raw.bScale.dtype := by
    rw [hi.aScale.dtype, hi.bScale.dtype]
    cases arch with
    | sm90 =>
      exact ⟨.inl (congrArg DType.toSys h.scales.1.dtypeEq), .inl (congrArg DType.toSys h.scales.2.dtypeEq)⟩
    | sm100 =>
      exact ⟨.inr (congrArg DType.toSys h.scales.1.dtypeEq), .inr (congrArg DType.toSys h.scales.2.dtypeEq)⟩
  exact {
    a := ⟨hda ▸ hp.a, .inl (hi.a.dtype.trans (congrArg DType.toSys h.a.dtypeEq)),
      rows hi.a h.a ⟨Int.natCast_nonneg k, hf.k⟩⟩
    b := ⟨hdb ▸ hp.b, .inl (hi.b.dtype.trans (congrArg DType.toSys h.b.dtypeEq)),
      rows hi.b h.b ⟨Int.natCast_nonneg k, hf.k⟩⟩
    d := ⟨hdd ▸ hp.d, .inr (.inl (hi.d.dtype.trans (congrArg DType.toSys h.d.dtypeEq))),
      rows hi.d h.d ⟨Int.natCast_nonneg n, hf.n⟩⟩
    aScale := ⟨hdas ▸ hp.aScale, hscales.1⟩
    bScale := ⟨hdbs ▸ hp.bScale, hscales.2⟩ }

/-- The kernel of a GEMM. -/
def gemmKernel : Arch → String
  | .sm90 => "sm90_fp8_gemm_1d2d"
  | .sm100 => "sm100_fp8_gemm_1d1d"

/-- The heuristics find a configuration for every GEMM of the supported sizes. -/
theorem bestConfig_total (arch : Arch) (hs : Raw.Gemm.GemmSizes m n k numSms) :
    ∃ config, bestConfig arch m n k numSms = .ok config ∧ Raw.Gemm.StorageOf config.storage := by
  cases arch with
  | sm90 => exact Raw.Gemm.sm90BestConfig_total hs
  | sm100 => exact Raw.Gemm.sm100BestConfig_total hs

/-- **Every GEMM of the supported sizes is launched.** -/
theorem fp8GemmNt_launches {runtime : Runtime} {device : DeviceInfo} (hp : GemmPointers params)
    (hinfo : runtime.currentDeviceInfo = .ok device) (hdev : device.major = arch.major)
    (hsms : runtime.effectiveNumSms = .ok numSms) (hm : params.a.spec.shape 0 = m) (hn : params.b.spec.shape 0 = n)
    (hk : params.a.spec.shape 1 = k) (hs : Raw.Gemm.GemmSizes m n k numSms)
    (h : GemmContract params.spec arch m n k) :
    ∃ launch, Crate.fp8GemmNt runtime params = .ok launch ∧ launch.kernel = gemmKernel arch := by
  subst hm hn hk
  have hf := gemmFits_of_sizes hs
  obtain ⟨raw, hraw⟩ := gemmToRaw_succeeds hf h
  have hi := gemmToRaw_image hraw
  obtain ⟨config, hconfig, hstorage⟩ := bestConfig_total arch hs
  have hdispatch := gemmDispatch_of_contract hi hp hf hinfo hdev hsms hconfig h
  have hl := launchable_of_contract hi hp hf h
  have hlaunch : ∃ launch, Raw.Gemm.launchFp8GemmNt runtime raw = .ok launch ∧ launch.kernel = gemmKernel arch := by
    unfold Raw.Gemm.launchFp8GemmNt
    rw [hdispatch, ok_bind]
    cases arch with
    | sm90 =>
      exact Raw.Gemm.launchSm90Fp8GemmNt_total hl hs hstorage (Raw.Gemm.sm90BestConfig_layout hconfig).1.blockK _
    | sm100 => exact Raw.Gemm.launchSm100Fp8GemmNt_total hl hs hstorage _
  obtain ⟨launch, hlaunch, hkernel⟩ := hlaunch
  have harch : Crate.currentArch runtime = .ok arch := by
    simp only [Crate.currentArch, Crate.deviceInfo, bind_eq_ok, checkNative_eq_ok]
    exact ⟨device, hinfo, DeviceInfo.arch_eq_ok.mpr hdev⟩
  have hcheck := Fp8GemmNtLaunch.check_eq_ok (u := ()).mpr ((gemmAccepted_iff_contract hf).mpr h)
  refine ⟨launch, ?_, hkernel⟩
  simp only [Crate.fp8GemmNt, bind_eq_ok, checkNative_eq_ok]
  exact ⟨arch, harch, (), hcheck, raw, hraw, hlaunch⟩

end

end DeepGemmRs.Refine
