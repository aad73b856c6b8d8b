import DeepGemmRs.Raw.MqaTotal
import DeepGemmRs.Refine.Mqa
import DeepGemmRs.Refine.PagedLaunch

/-!
# The launch of MQA logits

* `MqaLayout`, `mqaLayout_succeeds` : on the contract the layout call comes back, with rows of whole blocks;
* `mqaKernels` : the kernels of a call, in order;
* `fp8Fp4MqaLogits_reaches` : a call that launches is accepted, and its products are values of `int`;
* `fp8Fp4MqaLogits_launches` : **an accepted call whose products are values of `int` launches**.
-/

namespace DeepGemmRs.Refine

open Checked MachineInt Rounding TensorSpec Crate

/-! ## The layout -/

/-- The padding of a row is less than three splits. -/
theorem logitsStride_bounds {dtype : DTypeCode} (hd : CApi.IsLogits dtype) (len maxLen : Int) :
    (if maxLen = 0 then len else maxLen) ≤ CApi.logitsStride len maxLen dtype ∧
      CApi.logitsStride len maxLen dtype < (if maxLen = 0 then len else maxLen) + 768 := by
  have hpos := CApi.rowAlignment_pos hd
  have halign : CApi.rowAlignment dtype ≤ 512 := by rcases hd with rfl | rfl <;> decide
  unfold CApi.logitsStride
  split
  · have h0 := le_alignUp (v := len + 256) hpos
    have h1 := alignUp_lt (v := len + 256) hpos
    omega
  · exact pagedStride_bounds hd maxLen

theorem dvd_logitsStride {dtype : DTypeCode} (hd : CApi.IsLogits dtype) (len maxLen : Int) :
    256 ∣ CApi.logitsStride len maxLen dtype := by
  unfold CApi.logitsStride
  split
  · exact (CApi.dvd_rowAlignment hd).trans (dvd_alignUp _ _)
  · exact (CApi.dvd_rowAlignment hd).trans (dvd_alignUp _ _)

/-- The columns of the logits. -/
def mqaCols (spec : MqaLogitsSpec) : Nat := if spec.maxSeqlenK = 0 then spec.kv.shape 0 else spec.maxSeqlenK

/-- The layout of the logits, with rows for whole blocks of tokens. -/
structure MqaLayout (spec : MqaLogitsSpec) (layout : TensorLayout2D) : Prop where
  dtype : layout.dtype = spec.logitsDtype
  logicalShape : layout.logicalShape = ![spec.q.shape 0, mqaCols spec]
  colStride : (layout.strides 1).val = 1
  rowStride : (layout.strides 0).val = layout.allocationShape 1
  allocationRows : (layout.allocationShape 0 : Int) = alignUp (spec.q.shape 0) (128 / spec.q.shape 1)
  allocationCols : mqaCols spec ≤ layout.allocationShape 1 ∧ layout.allocationShape 1 < mqaCols spec + 768
  splits : 256 ∣ layout.allocationShape 1

theorem mqaLayout_of_image {spec : MqaLogitsSpec} {p : CApi.MqaLogitsLayoutParams} {layout : TensorLayout2D}
    (hp : LayoutParamsOf spec p) (ha : p.Admits) (himg : LayoutImage p.layout layout) : MqaLayout spec layout := by
  obtain ⟨hdtype, hout⟩ := output_of_layoutImage hp ha himg
  have hcols : (if p.maxSeqlenK.val = 0 then p.seqLenKv.val else p.maxSeqlenK.val) = (mqaCols spec : Int) := by
    rw [hp.seqLenKv, hp.maxSeqlenK, mqaCols]
    split <;> split <;> omega
  have hstride : (layout.allocationShape 1 : Int) = p.rowStride := himg.allocationShape 1
  obtain ⟨h0, h1⟩ := logitsStride_bounds ha.dtype p.seqLenKv p.maxSeqlenK
  rw [hcols] at h0 h1
  have hdvd : 256 ∣ p.rowStride := dvd_logitsStride ha.dtype p.seqLenKv p.maxSeqlenK
  have hrow : p.rowStride = CApi.logitsStride p.seqLenKv p.maxSeqlenK p.logitsDtype := rfl
  refine ⟨hdtype, eq_vec_two.mpr ⟨hout.rows, hout.cols⟩, hout.colStride, ?_, ?_, ⟨by omega, by omega⟩, ?_⟩
  · exact (himg.strides 0).trans hstride.symm
  · have hrows : (layout.allocationShape 0 : Int) = alignUp p.seqLen p.blockQ := himg.allocationShape 0
    rw [hrows, CApi.MqaLogitsLayoutParams.blockQ, hp.seqLen, hp.numHeads]
  · rw [← hstride] at hdvd
    exact Int.natCast_dvd_natCast.mp hdvd

theorem mqaLayout_succeeds {spec : MqaLogitsSpec} {arch : Arch} (hf : MqaFits spec) (hc : MqaContract spec arch)
    (h0 : 0 < spec.q.shape 0) (h1 : 0 < spec.kv.shape 0) :
    ∃ layout, mqaLogitsLayout spec arch = .ok layout ∧ MqaLayout spec layout := by
  obtain ⟨layout, hlayout⟩ := mqaLogitsLayout_succeeds hf hc h0 h1
  obtain ⟨p, hp, ha, himg⟩ := mqaLogitsLayout_image hlayout
  exact ⟨layout, hlayout, mqaLayout_of_image hp ha himg⟩

/-! ## The launch -/

/-- The kernel of MQA logits. -/
def mqaKernel : Arch → String
  | .sm90 => "sm90_fp8_mqa_logits"
  | .sm100 => "sm100_mqa_logits"

/-- The kernels of a call. -/
def mqaKernels (arch : Arch) (cleanLogits : Bool) : List String :=
  mqaKernel arch :: if cleanLogits then ["smxx_clean_logits"] else []

/-- The rows of the map of `q`, the padded scales and the rows of the weights are values of `int`. -/
structure MqaReaches (params : MqaLogitsLaunch) : Prop where
  rows : (params.q.spec.shape 0 * params.q.spec.shape 1 : Nat) ≤ i32.hi
  scales : alignUp (params.kv.spec.shape 0 : Int) 4 ≤ i32.hi
  weights : Raw.Extent (params.weights.spec.strides 0)

section

variable {runtime : Runtime} {device : DeviceInfo} {arch : Arch} {params : MqaLogitsLaunch} {raw : Raw.MqaLogitsParams}

theorem MqaImage.reaches_iff (hi : MqaImage params raw) : raw.Reaches ↔ MqaReaches params := by
  unfold Raw.MqaLogitsParams.Reaches Raw.MqaLogitsParams.OuterFits
  rw [hi.q.shape 0 0 rfl, hi.q.shape 1 1 rfl, hi.kv.shape 0 0 rfl, hi.weights.stride 0 0 rfl, ← Int.natCast_mul]
  exact ⟨fun ⟨h0, h1, h2⟩ => ⟨h0, h1, h2⟩, fun h => ⟨h.rows, h.scales, h.weights⟩⟩

/-- **A call that launches** is accepted, whatever its extents, and reaches the driver. -/
theorem fp8Fp4MqaLogits_reaches {launches : List Raw.Launch} (hinfo : runtime.currentDeviceInfo = .ok device)
    (hdev : device.major = arch.major) (h : Crate.fp8Fp4MqaLogits runtime params = .ok launches) :
    params.Accepted arch ∧ MqaReaches params := by
  simp only [Crate.fp8Fp4MqaLogits, currentArch_eq_ok hinfo hdev, ok_bind, Raw.launchFp8Fp4MqaLogits, bind_eq_ok,
    checkNative_eq_ok] at h
  obtain ⟨_, hcheck, raw, hraw, device', -, dispatch, hdispatch, numSms, -, hlaunches⟩ := h
  refine ⟨MqaLogitsLaunch.check_eq_ok.mp hcheck, (toRaw_image hraw).reaches_iff.mp ?_⟩
  exact (Raw.launchMqaLogits_succeeds_iff hdispatch numSms runtime.pdlEnabled).mp ⟨launches, hlaunches⟩

/-- Compressed logits are not cleaned. -/
theorem not_cleaned_of_accepted (h : params.Accepted arch) : ¬ (params.cleanLogits = true ∧ 0 < params.maxSeqlenK) := by
  obtain ⟨layout, hlayout, -⟩ := h
  simp only [mqaLogitsLayout, validateMqaLogitsSpec, bind_eq_ok, throwIf_eq_ok] at hlayout
  obtain ⟨_, ⟨_, -, _, hclean, -⟩, -⟩ := hlayout
  exact hclean

theorem mainLaunch_mqaKernel (hdev : device.major = arch.major) {dispatch : Raw.MqaDispatch} {numSms : Int} {pdl : Bool}
    {launch : Raw.Launch} (hd : Raw.dispatchMqaLogits device raw = .ok dispatch)
    (h : Raw.mainLaunch raw numSms pdl dispatch = .ok launch) : launch.kernel = mqaKernel arch := by
  obtain ⟨-, hselect⟩ := Raw.dispatchMqaLogits_eq_ok.mp hd
  rcases Raw.selectMqa_eq_ok.mp hselect with ⟨h9, -, -, -, -, rfl⟩ | ⟨h10, -, -, rfl⟩
  · obtain rfl : arch = .sm90 := by
      cases arch
      · rfl
      · exact absurd (hdev.symm.trans h9) (by decide)
    obtain ⟨hkernel, -⟩ := Raw.launchSm90Fp8MqaLogits_resources h
    exact hkernel
  · obtain rfl : arch = .sm100 := by
      cases arch
      · exact absurd (hdev.symm.trans h10) (by decide)
      · rfl
    obtain ⟨hkernel, -⟩ := Raw.launchSm100MqaLogits_resources h
    exact hkernel

/-- The launch that cleans comes second, when it is asked for. -/
theorem launchCleanIfAsked_kernels {args : Raw.MqaArgs} {numSms : Int} {pdl : Bool} {first : Raw.Launch}
    {launches : List Raw.Launch} (h : Raw.launchCleanIfAsked .machine raw args numSms pdl first = .ok launches) :
    launches.map (·.kernel) = first.kernel :: if raw.cleanLogits then ["smxx_clean_logits"] else [] := by
  unfold Raw.launchCleanIfAsked at h
  by_cases hasked : raw.cleanLogits = true
  · rw [if_pos hasked] at h ⊢
    obtain ⟨clean, hclean, hlaunches⟩ := bind_eq_ok.mp h
    obtain rfl := Except.ok.inj hlaunches
    rw [List.map_cons, List.map_singleton, (Raw.launchCleanLogits_resources hclean).1]
  · rw [if_neg hasked] at h ⊢
    obtain rfl := Except.ok.inj h
    rfl

/-- **An accepted call whose products are values of `int` launches its kernels**, each with a block for every SM. -/
theorem fp8Fp4MqaLogits_launches {numSms : Int} (hinfo : runtime.currentDeviceInfo = .ok device)
    (hdev : device.major = arch.major) (hsms : runtime.effectiveNumSms = .ok numSms)
    (hf : MqaLaunchFits params) (haccepted : params.Accepted arch) (hreaches : MqaReaches params) :
    ∃ launches, Crate.fp8Fp4MqaLogits runtime params = .ok launches ∧
      launches.map (·.kernel) = mqaKernels arch params.cleanLogits ∧
      ∀ launch ∈ launches, launch.config.gridDimX = u32.cast numSms := by
  obtain ⟨raw, hraw⟩ := toRaw_succeeds hf
  have hi := toRaw_image hraw
  obtain ⟨dispatch, hdispatch⟩ :=
    (dispatch_iff_contract hdev hi hf).mpr ((accepted_iff_contract hf.spec).mp haccepted)
  obtain ⟨launches, hlaunches⟩ :=
    (Raw.launchMqaLogits_succeeds_iff hdispatch numSms runtime.pdlEnabled).mpr (hi.reaches_iff.mpr hreaches)
  have hnative : Raw.launchFp8Fp4MqaLogits runtime raw = .ok launches := by
    simp only [Raw.launchFp8Fp4MqaLogits, hinfo, hsms, ok_bind, hdispatch]
    exact hlaunches
  refine ⟨launches, ?_, ?_, Raw.launchMqaLogits_grid raw dispatch launches hlaunches⟩
  · simp only [Crate.fp8Fp4MqaLogits, bind_eq_ok, checkNative_eq_ok]
    exact ⟨arch, currentArch_eq_ok hinfo hdev, (), MqaLogitsLaunch.check_eq_ok.mpr haccepted, raw, hraw, hnative⟩
  · obtain ⟨device', dispatch', _, first, hinfo', hdispatch', -, hfirst, hclean⟩ :=
      Raw.launchFp8Fp4MqaLogits_eq_ok.mp hnative
    obtain rfl : device = device' := Except.ok.inj (hinfo.symm.trans hinfo')
    rw [launchCleanIfAsked_kernels hclean, mainLaunch_mqaKernel hdev hdispatch' hfirst, hi.cleanLogits]
    rfl

end

end DeepGemmRs.Refine
