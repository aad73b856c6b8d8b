import DeepGemmRs.Crate.Paged
import DeepGemmRs.Raw.Limits
import DeepGemmRs.Raw.MqaTotal
import DeepGemmRs.Refine.Paged

/-!
# What the crate accepts of a paged call reaches a kernel

* `metadataLayout_succeeds`, `pagedLayout_succeeds` : on the contracts the layout calls come back;
* `schedulerKernel`, `pagedKernel` : the kernels of an architecture;
* `pagedMqaLogitsMetadata_launches`, `fp8Fp4PagedMqaLogits_launches` : what is accepted and outside the gaps is
  launched, the logits on as many blocks as the schedule has parts.
-/

namespace DeepGemmRs.Refine

open Checked MachineInt Rounding Crate TensorSpec

/-! ## Layouts -/

theorem metadataLayout_succeeds {spec : PagedMqaLogitsMetadataSpec} {arch : Arch} (hlens : spec.contextLens.Fits)
    (hindices : ∀ t ∈ spec.indices, t.Fits) (hsms : (spec.numSms : Int) ≤ i32.hi) (h : MetadataContract spec arch) :
    ∃ layout, pagedMqaLogitsMetadataLayout spec arch = .ok layout ∧
      I32Matrix layout.logicalSpec (spec.numSms + 1) 2 ∧ layout.allocationShape = ![spec.numSms + 1, 2] := by
  have hpos := h.numSms
  simp only [i32] at hsms
  have hvalid : validatePagedMetadataSpec spec arch = .ok () := by
    simp only [validatePagedMetadataSpec, bind_eq_ok, requireDtype_eq_ok, validateBlockKv_eq_ok,
      requirePositive_eq_ok, requireIndices_iff hindices, exists_const]
    exact ⟨(), (hlens.requireContiguous_iff (by decide)).mpr h.contextLens, h.contextLensDtype, h.blockKv, hpos, h.indices⟩
  let p : CApi.PagedMqaLogitsMetadataLayoutParams := ⟨⟨spec.numSms, has_i64.mpr ⟨by omega, by omega⟩⟩⟩
  have hn : p.numSms.val = spec.numSms := rfl
  have hadmits : p.Admits := by
    unfold CApi.PagedMqaLogitsMetadataLayoutParams.Admits
    simp only [i64, hn]
    omega
  obtain ⟨layout, hl⟩ := logitsLayoutFromSys_succeeds p.layout (d := .i32) rfl
    (Fin.forall_fin_two.mpr ⟨show (0 : Int) ≤ p.numSms + 1 by omega, show (0 : Int) ≤ 2 by decide⟩)
    (Fin.forall_fin_two.mpr ⟨show (0 : Int) ≤ p.numSms + 1 by omega, show (0 : Int) ≤ 2 by decide⟩)
    (Fin.forall_fin_two.mpr ⟨show i64.Has 2 by decide, show i64.Has 1 by decide⟩)
    (show u64.Has ((p.numSms + 1) * 2) from has_u64.mpr ⟨by omega, by omega⟩)
  have hcall := callLayout_succeeds (CApi.pagedMqaLogitsMetadataLayout_settles p) id hadmits hl
  have hlayout : pagedMqaLogitsMetadataLayout spec arch = .ok layout := by
    simp only [pagedMqaLogitsMetadataLayout, bind_eq_ok, usizeToI64_eq_ok]
    exact ⟨(), hvalid, p.numSms, hn, hcall⟩
  obtain ⟨-, himg⟩ := callLayout_ok (CApi.pagedMqaLogitsMetadataLayout_settles p) hcall
  have h0 : (layout.allocationShape 0 : Int) = p.numSms + 1 := himg.allocationShape 0
  have h1 : (layout.allocationShape 1 : Int) = 2 := himg.allocationShape 1
  exact ⟨layout, hlayout, (schedule_of_metadataLayout hlayout).2, eq_vec_two.mpr ⟨by omega, by omega⟩⟩

/-- The tensors of a paged call fit. -/
structure PagedSpecFits (spec : PagedMqaLogitsSpec) : Prop where
  q : spec.q.Fits
  qScale : ∀ s ∈ spec.qScale, s.Fits
  fusedKvCache : spec.fusedKvCache.Fits
  contextLens : spec.contextLens.Fits
  scheduleMeta : spec.scheduleMeta.Fits
  indices : ∀ t ∈ spec.indices, t.Fits
  maxContextLen : (spec.maxContextLen : Int) ≤ i32.hi
  numSms : (spec.numSms : Int) ≤ i32.hi

theorem requireFusedKvCache_succeeds {cache : TensorSpec 4} (hf : cache.Fits) {tokenBytes : Nat}
    (h : FusedCache cache tokenBytes) : requireFusedKvCache cache tokenBytes = .ok () := by
  have hbytes := hf.extents 3
  have hblock := hf.extents 1
  have hfused := h.fusedBytes
  have hpage : (cache.shape 1 : Int) * cache.shape 3 ≤ i32.hi * i32.hi :=
    Int.mul_le_mul hblock hbytes (Int.natCast_nonneg _) (by decide)
  have hnonneg : 0 ≤ (cache.shape 1 : Int) * cache.shape 3 :=
    Int.mul_nonneg (Int.natCast_nonneg _) (Int.natCast_nonneg _)
  simp only [i32] at hbytes hpage
  simp only [requireFusedKvCache, bind_eq_ok, requireDtype_eq_ok, usizeAdd_eq_ok, requireShape_eq_ok,
    eq_vec_three, usizeMul_eq_ok, throwIf_eq_ok, not_or, not_not, exists_const]
  refine ⟨h.dtype, _, ⟨has_u64.mpr ⟨by omega, by omega⟩, rfl⟩, ⟨rfl, h.single, hfused⟩, _,
    ⟨has_u64.mpr ⟨by push_cast; omega, by push_cast; omega⟩, rfl⟩, ?_, ?_, ?_, h.byteStride⟩
  · rw [IntType.cast_of_has (has_i64.mpr ⟨by push_cast; omega, by push_cast; omega⟩), h.pageStride, hfused]
  · rw [IntType.cast_of_has (has_i64.mpr ⟨by omega, by omega⟩), h.tokenStride.1, hfused]
  · rw [IntType.cast_of_has (has_i64.mpr ⟨by omega, by omega⟩), h.tokenStride.2, hfused]

theorem validatePagedMqaLogitsSpec_succeeds {spec : PagedMqaLogitsSpec} {arch : Arch} (hf : PagedSpecFits spec)
    (hrows : i64.Has (spec.q.shape 0 * spec.q.shape 1 : Nat)) (h : PagedContract spec arch) :
    validatePagedMqaLogitsSpec spec arch = .ok ⟨spec.q.shape 0, spec.q.shape 1⟩ := by
  have hsms := hf.numSms
  have hwidth := hf.q.extents 3
  have hphysical : 0 < spec.q.shape 3 := by
    rcases h.support.headDim with e | e | e <;> split at e <;> omega
  simp only [i32] at hsms hwidth
  rw [has_i64] at hrows
  have hbytes : (if spec.qScale.isSome = true then
        (if spec.qScale.isSome = true then spec.q.shape 3 * 2 else spec.q.shape 3) / 2
      else if spec.qScale.isSome = true then spec.q.shape 3 * 2 else spec.q.shape 3) = spec.q.shape 3 := by
    split <;> simp
  simp only [validatePagedMqaLogitsSpec, bind_eq_ok, throwIf_eq_ok, requireLogitsDtype_eq_ok,
    requirePositive_eq_ok, logicalHeadDim_eq_ok, requireContiguous_eq_ok hf.q.extents_i64, requireDtype_eq_ok,
    requireQScale_iff hf.qScale (by decide), usizeMul_eq_ok, usizeAdd_eq_ok, requireWeights_eq_ok,
    require2DI32_iff hf.contextLens, require2DI32_iff hf.scheduleMeta, requireIndices_iff hf.indices,
    validateBlockKv_eq_ok, requireArchSupport_eq_ok, exists_const, not_or, not_not, Bool.not_eq_true]
  refine ⟨h.logitsDtype, h.maxContextLen, h.numSms, h.cleanLogits, _, ⟨hphysical, fun _ => ?_, rfl⟩, ⟨h.qCounts, h.q⟩,
    h.qDtype, h.qScale, (), ?_, _, ⟨has_u64.mpr ⟨by omega, by omega⟩, rfl⟩, ⟨h.weights, h.weightsDtype⟩, h.contextLens,
    h.blockTable, h.blockTableDtype, _, ⟨has_u64.mpr ⟨by omega, by omega⟩, rfl⟩, h.scheduleMeta, h.indices, h.blockKv,
    h.support, ?_, trivial⟩
  · exact has_u64.mpr ⟨by omega, by omega⟩
  · rw [hbytes]
    exact requireFusedKvCache_succeeds hf.fusedKvCache h.fusedKvCache
  · rintro ⟨he, h1, h2⟩
    exact (h.nextN he).elim h1 h2

/-- The padding of a row is less than three pages. -/
theorem pagedStride_bounds {dtype : DTypeCode} (hd : CApi.IsLogits dtype) (len : Int) :
    len ≤ CApi.pagedStride len dtype ∧ CApi.pagedStride len dtype < len + 768 := by
  have hsplit0 : len ≤ alignUp len 256 := le_alignUp (by decide)
  have hsplit1 : alignUp len 256 < len + 256 := alignUp_lt (by decide)
  have hrow0 := le_alignUp (v := alignUp len 256) (CApi.rowAlignment_pos hd)
  have hrow1 := alignUp_lt (v := alignUp len 256) (CApi.rowAlignment_pos hd)
  have halign : CApi.rowAlignment dtype ≤ 512 := by rcases hd with rfl | rfl <;> decide
  unfold CApi.pagedStride
  omega

theorem isLogits_toSys {dtype : DType} (h : dtype = .f32 ∨ dtype = .bf16) : CApi.IsLogits dtype.toSys :=
  h.imp (congrArg DType.toSys) (congrArg DType.toSys)

/-- The layout of the logits, with as many rows as there are tokens. -/
structure PagedLayout (spec : PagedMqaLogitsSpec) (layout : TensorLayout2D) : Prop where
  dtype : layout.dtype = spec.logitsDtype
  logicalShape : layout.logicalShape = ![spec.q.shape 0 * spec.q.shape 1, spec.maxContextLen]
  allocationRows : layout.allocationShape 0 = spec.q.shape 0 * spec.q.shape 1
  allocationCols : (layout.allocationShape 1 : Int) = CApi.pagedStride spec.maxContextLen spec.logitsDtype.toSys
  rowStride : (layout.strides 0).val = CApi.pagedStride spec.maxContextLen spec.logitsDtype.toSys
  colStride : (layout.strides 1).val = 1

theorem pagedLayout_succeeds {spec : PagedMqaLogitsSpec} {arch : Arch} (hf : PagedSpecFits spec)
    (hbatch : 0 < spec.q.shape 0) (hnext : 0 < spec.q.shape 1)
    (hrows : (spec.q.shape 0 * spec.q.shape 1 : Nat) ≤ i32.hi) (h : PagedContract spec arch) :
    ∃ layout, pagedMqaLogitsLayout spec arch = .ok layout ∧ PagedLayout spec layout := by
  have hvalid := validatePagedMqaLogitsSpec_succeeds hf (has_i64.mpr ⟨by omega, hrows.trans (by decide)⟩) h
  have hlen := hf.maxContextLen
  have hlen0 := h.maxContextLen
  obtain ⟨hstride0, hstride1⟩ := pagedStride_bounds (isLogits_toSys h.logitsDtype) spec.maxContextLen
  simp only [i32] at hrows hlen
  let p : CApi.PagedMqaLogitsLayoutParams := ⟨⟨spec.q.shape 0, (has_i64.mpr ⟨by omega, (hf.q.extents_i64 0)⟩)⟩,
    ⟨spec.q.shape 1, (has_i64.mpr ⟨by omega, (hf.q.extents_i64 1)⟩)⟩,
    ⟨spec.maxContextLen, (has_i64.mpr ⟨by omega, by omega⟩)⟩, spec.logitsDtype.toSys⟩
  have hprows : p.rows = (spec.q.shape 0 * spec.q.shape 1 : Nat) := (Int.natCast_mul _ _).symm
  have hpstride : p.rowStride = CApi.pagedStride spec.maxContextLen spec.logitsDtype.toSys := rfl
  have hcount : p.rows * p.rowStride ≤ 2147483647 * 2147484415 :=
    Int.mul_le_mul (by omega) (by omega) (by omega) (by decide)
  have hcount0 : 0 ≤ p.rows * p.rowStride := Int.mul_nonneg (by omega) (by omega)
  have hadmits : p.Admits := by
    refine ⟨Int.natCast_pos.mpr hbatch, Int.natCast_pos.mpr hnext, Int.natCast_pos.mpr hlen0,
      isLogits_toSys h.logitsDtype, ?_, ?_, hcount.trans (by decide)⟩
    · simp only [i64]
      omega
    · simp only [i64]
      omega
  obtain ⟨layout, hl⟩ := logitsLayoutFromSys_succeeds p.layout (d := spec.logitsDtype) rfl
    (Fin.forall_fin_two.mpr ⟨show 0 ≤ p.rows by omega, Int.natCast_nonneg _⟩)
    (Fin.forall_fin_two.mpr ⟨show 0 ≤ p.rows by omega, show 0 ≤ p.rowStride by omega⟩)
    (Fin.forall_fin_two.mpr ⟨show i64.Has p.rowStride from has_i64.mpr ⟨by omega, by omega⟩,
      show i64.Has 1 by decide⟩) (show u64.Has (p.rows * p.rowStride) from ⟨hcount0, hcount.trans (by decide)⟩)
  have hcall := callLayout_succeeds (CApi.pagedMqaLogitsLayout_settles p) id hadmits hl
  obtain ⟨-, himg⟩ := callLayout_ok (CApi.pagedMqaLogitsLayout_settles p) hcall
  have hlogical0 : (layout.logicalShape 0 : Int) = p.rows := himg.logicalShape 0
  have hlogical1 : (layout.logicalShape 1 : Int) = spec.maxContextLen := himg.logicalShape 1
  have hallocation : (layout.allocationShape 0 : Int) = p.rows := himg.allocationShape 0
  refine ⟨layout, ?_, DType.toSys_injective himg.dtype, eq_vec_two.mpr ⟨by omega, by omega⟩, by omega,
    himg.allocationShape 1, himg.strides 0, himg.strides 1⟩
  simp only [pagedMqaLogitsLayout, bind_eq_ok, usizeToI64_eq_ok]
  exact ⟨_, hvalid, p.batchSize, rfl, p.nextN, rfl, p.maxContextLen, rfl, hcall⟩

/-! ## Launches -/

section

variable {runtime : Runtime} {device : DeviceInfo} {arch : Arch}

theorem currentArch_eq_ok (hinfo : runtime.currentDeviceInfo = .ok device) (hdev : device.major = arch.major) :
    Crate.currentArch runtime = .ok arch := by
  simp only [Crate.currentArch, Crate.deviceInfo, bind_eq_ok, checkNative_eq_ok]
  exact ⟨device, hinfo, DeviceInfo.arch_eq_ok.mpr hdev⟩

/-- The kernel of a schedule. -/
def schedulerKernel : Arch → String
  | .sm90 => "sm90_paged_mqa_logits_metadata"
  | .sm100 => "sm100_paged_mqa_logits_metadata"

/-- The kernel of paged logits. -/
def pagedKernel : Arch → String
  | .sm90 => "sm90_fp8_paged_mqa_logits"
  | .sm100 => "sm100_paged_mqa_logits"

/-- The shared memory of the scheduler and, on SM100, the number of tokens are values of `int`. -/
def SchedulerFits (batchSize nextN : Nat) : Arch → Prop
  | .sm90 => 4 * alignUp (batchSize : Int) 32 ≤ i32.hi
  | .sm100 => (batchSize * nextN : Nat) ≤ i32.hi ∧ 8 * (batchSize : Int) ≤ i32.hi

/-- **An accepted schedule outside the gap is launched.** -/
theorem pagedMqaLogitsMetadata_launches {params : PagedMqaLogitsMetadataLaunch}
    (hinfo : runtime.currentDeviceInfo = .ok device) (hdev : device.major = arch.major)
    (hf : MetadataLaunchFits params device) (haccepted : params.Accepted arch) (hgap : ¬ MetadataGap params)
    (hs : SchedulerFits (params.contextLens.spec.shape 0) (params.contextLens.spec.shape 1) arch) :
    ∃ launch, Crate.pagedMqaLogitsMetadata runtime params = .ok launch ∧ launch.kernel = schedulerKernel arch := by
  obtain ⟨layout, hl, hspec⟩ := haccepted
  obtain ⟨hvalid, hschedule⟩ := schedule_of_metadataLayout hl
  have hc := metadata_contract hf hvalid
  have hblock : params.blockKv = 64 ∨ params.blockKv = 32 ∧ arch = .sm100 := hc.blockKv
  obtain ⟨raw, hraw⟩ := metadata_toRaw_succeeds hf (by omega)
  have hi := metadata_toRaw_image hraw
  obtain ⟨dispatch, hdispatch⟩ := (dispatchMetadata_iff hdev hf hc (hspec ▸ hschedule) hi).mpr hgap
  have h0 := hi.contextLens.shape 0 0 rfl
  have h1 := hi.contextLens.shape 1 1 rfl
  have hreaches : raw.Reaches device := by
    unfold Raw.PagedMqaLogitsMetadataParams.Reaches
    rw [h0, h1, hdev]
    cases arch with
    | sm90 => exact hs
    | sm100 => exact ⟨(Int.natCast_mul _ _).symm.le.trans hs.1, hs.2⟩
  obtain ⟨launch, hlaunch⟩ := (Raw.launchPagedMqaLogitsMetadata_succeeds_iff hdispatch runtime.pdlEnabled).mpr hreaches
  refine ⟨launch, ?_, ?_⟩
  · simp only [Crate.pagedMqaLogitsMetadata, Raw.launchPagedMetadata, bind_eq_ok, checkNative_eq_ok]
    exact ⟨arch, currentArch_eq_ok hinfo hdev, (), PagedMqaLogitsMetadataLaunch.check_eq_ok.mpr ⟨layout, hl, hspec⟩, raw, hraw,
      device, hinfo, dispatch, hdispatch, hlaunch⟩
  · have hv := Raw.metadataValid hdispatch
    rcases hv.dispatch with ⟨h9, rfl⟩ | ⟨h10, rfl⟩
    · obtain rfl : arch = .sm90 := by
        cases arch
        · rfl
        · exact absurd (hdev.symm.trans h9) (by decide)
      exact (Raw.launchSm90Metadata_resources hv.batchSize hlaunch).2.1
    · obtain rfl : arch = .sm100 := by
        cases arch
        · exact absurd (hdev.symm.trans h10) (by decide)
        · rfl
      exact (Raw.launchSm100Metadata_resources hlaunch).2.1

/-- **Accepted logits outside the gap are launched**, on as many blocks as the schedule has parts. -/
theorem fp8Fp4PagedMqaLogits_launches {params : PagedMqaLogitsLaunch}
    (hinfo : runtime.currentDeviceInfo = .ok device) (hdev : device.major = arch.major)
    (hf : PagedLaunchFits params device) (haccepted : params.Accepted arch) (hgap : ¬ PagedGap params)
    (hs : (params.q.spec.shape 0 * params.q.spec.shape 1 * params.q.spec.shape 2 : Nat) ≤ i32.hi) :
    ∃ launch, Crate.fp8Fp4PagedMqaLogits runtime params = .ok launch ∧ launch.kernel = pagedKernel arch ∧
      launch.config.gridDimX = params.numSms := by
  obtain ⟨layout, hl, hspec⟩ := haccepted
  obtain ⟨hc, ho⟩ := output_of_pagedLayout hf hl
  obtain ⟨raw, hraw⟩ := paged_toRaw_succeeds hf
  have hi := paged_toRaw_image hraw
  obtain ⟨dispatch, hdispatch⟩ := (dispatchPaged_iff hdev hf hc (hspec ▸ ho) hi).mpr hgap
  have hreaches : raw.Reaches := by
    refine ⟨?_, ?_⟩
    · unfold Raw.PagedMqaLogitsParams.OuterFits
      rw [hi.rows, hi.q.shape 2 2 rfl]
      exact (Int.natCast_mul _ _).symm.le.trans hs
    · have hstride := hf.weights.strides 0
      rw [← hi.weights.stride 0 0 rfl] at hstride
      exact hstride
  obtain ⟨launch, hlaunch⟩ := (Raw.launchPagedMqaLogits_succeeds_iff hdispatch runtime.pdlEnabled).mpr hreaches
  have hv := Raw.pagedValid hdispatch
  obtain ⟨hk, hselect⟩ := Raw.dispatchPagedMqaLogits_eq_ok.mp hdispatch
  refine ⟨launch, ?_, ?_, ?_⟩
  · simp only [Crate.fp8Fp4PagedMqaLogits, Raw.launchFp8Fp4PagedMqaLogits, bind_eq_ok, checkNative_eq_ok]
    exact ⟨arch, currentArch_eq_ok hinfo hdev, (), PagedMqaLogitsLaunch.check_eq_ok.mpr ⟨layout, hl, hspec⟩, raw, hraw, device,
      hinfo, dispatch, hdispatch, hlaunch⟩
  · rcases Raw.selectPagedMqa_eq_ok.mp hselect with ⟨h9, -, -, -, -, -, -, rfl⟩ | ⟨h10, -, -, -, -, rfl⟩
    · obtain rfl : arch = .sm90 := by
        cases arch
        · rfl
        · exact absurd (hdev.symm.trans h9) (by decide)
      exact (Raw.launchSm90Fp8PagedMqaLogits_resources hlaunch).1
    · obtain rfl : arch = .sm100 := by
        cases arch
        · exact absurd (hdev.symm.trans h10) (by decide)
        · rfl
      exact (Raw.launchSm100PagedMqaLogits_resources hlaunch).1
  · have hsms : dispatch.numSms = raw.numSms := by
      rcases hv.dispatch with ⟨rfl, -⟩ | rfl
      · rfl
      · rfl
    have hgrid := Raw.launchPagedMqaLogits_grid raw dispatch launch hlaunch
    rw [hsms] at hgrid
    rw [Raw.gridDimX_of_numSms ⟨hk.numSms.1, hk.numSmsInt⟩ hgrid]
    exact hi.numSms

end

end DeepGemmRs.Refine
