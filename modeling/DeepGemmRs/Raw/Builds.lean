import DeepGemmRs.Raw.Enqueue
import DeepGemmRs.Raw.Resources
import DeepGemmRs.Raw.Transform

/-!
# The kernels that a request builds

Each launcher asks `build_kernel` for a kernel by its text, and launches what it is given.

* `MqaDispatch.text` … `Gemm.GemmDispatch.text` : the text that goes with a launch;
* `Request.builds` : the launches of a request with their texts, `launches_eq_ok`;
* `builds_kept` : a text is accepted and writable, names the kernel, and goes with the resources of the launch;
* `resources_of_text` : **launches of one kernel, found by its name and text, take the same resources, whatever
  requests and settings they come from, the SM100 scheduler apart**.
-/

namespace DeepGemmRs.Raw

open Checked MachineInt Rounding Streamed CApi

/-! ## Texts -/

/-- The text of the MQA kernel. -/
def MqaDispatch.text (params : MqaLogitsParams) (numSms : Int) : MqaDispatch → KernelText
  | .sm90 args =>
    .sm90MqaLogits args.numHeads args.headDim (params.maxSeqlenK.val > 0) args.blockQ args.blockKv 3 3 numSms 128 512
      params.logits.dtype
  | .sm100 isFp4 args =>
    .sm100MqaLogits isFp4 args.numHeads args.headDim (params.maxSeqlenK.val > 0) args.blockQ args.blockKv 3
      (if isFp4 then 10 else 5) numSms 128 256 params.logits.dtype params.weights.dtype

/-- The text of the kernel that cleans the logits. -/
def cleanText (params : MqaLogitsParams) : KernelText := .cleanLogits 1 8192 8 params.logits.dtype

/-- The text of a scheduler. -/
def MetadataDispatch.text : MetadataDispatch → Native KernelText
  | .sm90 batchSize _ numSms isVarlen => do
    let alignedBatchSize ← alignI64OrThrow .machine batchSize 32 "batch_size"
    let alignedBatchSize ← asI32 alignedBatchSize "aligned_batch_size"
    .ok (.sm90Metadata alignedBatchSize 256 numSms isVarlen)
  | .sm100 _ nextN numSms isVarlen => .ok (.sm100Metadata nextN true isVarlen 256 numSms)

/-- The text of the paged MQA kernel. -/
def PagedMqaDispatch.text (params : PagedMqaLogitsParams) : PagedMqaDispatch → KernelText
  | .sm90 args =>
    .sm90PagedMqaLogits args.nextN args.numHeads args.headDim args.blockKv true false 3 3 256 128 (256 / 64 * 128)
      params.logits.dtype
  | .sm100 isFp4 args =>
    .sm100PagedMqaLogits isFp4 args.nextN args.numHeads args.headDim args.blockKv true params.hasIndices 3
      (if isFp4 then 10 else 5) 256 16 128 256 params.logits.dtype params.weights.dtype

namespace Gemm

/-- The text of the kernel of a scale transform. -/
def transformText (params : Fp8GemmScaleTransformParams) : Native KernelText := do
  let sfK ← checkTransformScale params
  if params.granMn.val ≠ 1 then
    if params.transformed.dtype = DTypeCode.f32 then .ok .broadcast else .ok .broadcastAndPack
  else do
    let sfKArg ← asI32 sfK "sf_k"
    if params.transformed.dtype = DTypeCode.f32 then .ok (.transpose 512 64 sfKArg)
    else .ok (.transposeAndPack 512 48 sfKArg)

/-- The text of a GEMM. -/
def GemmDispatch.text : GemmDispatch → KernelText
  | .sm90 dims numSms config => .sm90Gemm dims.n dims.k config numSms
  | .sm100 dims numSms config => .sm100Gemm dims.n dims.k 128 128 config numSms

end Gemm

/-! ## Builds -/

/-- A launch, and the text of its kernel. -/
structure Build where
  text : KernelText
  launch : Launch

/-- The launches of a request when nothing outside throws, with their texts. -/
def Request.builds (runtime : Runtime) : Request → Native (List Build)
  | .mqaLogits params => do
    let params ← deref "MQA logits" params
    let device ← runtime.currentDeviceInfo
    let dispatch ← dispatchMqaLogits device params
    let numSms ← runtime.effectiveNumSms
    let first ← mainLaunch params numSms runtime.pdlEnabled dispatch
    let launches ← launchCleanIfAsked .machine params dispatch.args numSms runtime.pdlEnabled first
    .ok (List.zipWith Build.mk [dispatch.text params numSms, cleanText params] launches)
  | .pagedMetadata params => do
    let params ← deref "paged metadata" params
    let device ← runtime.currentDeviceInfo
    let dispatch ← dispatchPagedMqaLogitsMetadata device params
    let launch ← launchPagedMqaLogitsMetadata .machine params runtime.pdlEnabled dispatch
    let text ← dispatch.text
    .ok [⟨text, launch⟩]
  | .pagedMqaLogits params => do
    let params ← deref "paged MQA logits" params
    let device ← runtime.currentDeviceInfo
    let dispatch ← dispatchPagedMqaLogits device params
    let launch ← launchPagedMqaLogits .machine params runtime.pdlEnabled dispatch
    .ok [⟨dispatch.text params, launch⟩]
  | .transformScale params => do
    let params ← deref "FP8 GEMM scale transform" params
    let launch ← Gemm.launchFp8GemmTransformScale runtime params
    let text ← Gemm.transformText params
    .ok [⟨text, launch⟩]
  | .gemmNt params => do
    let params ← deref "FP8 GEMM" params
    let dispatch ← Gemm.dispatchFp8GemmNt runtime params
    let launch ← Gemm.launchGemmNt params runtime.pdlEnabled dispatch
    .ok [⟨dispatch.text, launch⟩]

/-- What a build keeps: its text is one that the checks leave and can be written, it names the kernel that is
launched, and the launch takes the resources of the text. -/
structure Build.Kept (build : Build) : Prop where
  accepted : build.text.Accepted
  written : ∃ code, build.text.code = .ok code
  kernel : build.launch.kernel = build.text.name
  takes : build.text.Takes build.launch.resources

theorem kernelDtypeName_logits {dtype : DTypeCode} (h : IsLogits dtype) : ∃ name, kernelDtypeName dtype = .ok name := by
  rcases h with rfl | rfl
  · exact ⟨_, rfl⟩
  · exact ⟨_, rfl⟩

theorem written_of_dtype {dtype : DTypeCode} (h : IsLogits dtype) (code : KernelDtype → Code) :
    ∃ s, (kernelDtypeName dtype >>= fun name => .ok (code name)) = .ok s := by
  obtain ⟨name, hname⟩ := kernelDtypeName_logits h
  exact ⟨code name, by rw [hname]; rfl⟩

/-- Every accepted text can be written. -/
theorem KernelText.Accepted.written {kernel : KernelText} (h : kernel.Accepted) : ∃ code, kernel.code = .ok code := by
  cases kernel with
  | sm90MqaLogits | sm90PagedMqaLogits => exact written_of_dtype h.2.2.2.2 _
  | sm100MqaLogits | sm100PagedMqaLogits => exact written_of_dtype h.2.1 _
  | cleanLogits => exact written_of_dtype h.2.2 _
  | sm90Metadata | sm100Metadata | sm90Gemm | sm100Gemm | transpose | transposeAndPack | broadcast |
    broadcastAndPack => exact ⟨_, rfl⟩

theorem Build.Kept.of {build : Build} (accepted : build.text.Accepted) (kernel : build.launch.kernel = build.text.name)
    (takes : build.text.Takes build.launch.resources) : build.Kept := ⟨accepted, accepted.written, kernel, takes⟩

/-! ## Launchers -/

section

variable {device : DeviceInfo} {numSms : Int} {pdl : Bool} {launch : Launch}

theorem launchSm90Fp8MqaLogits_resources {params : MqaLogitsParams} {args : MqaArgs}
    (h : launchSm90Fp8MqaLogits .machine params args numSms pdl = .ok launch) :
    launch.kernel = "sm90_fp8_mqa_logits" ∧ ∃ smemSize,
      sm90MqaSmemSize .machine args.numHeads args.headDim args.blockQ args.blockKv params.q.dtype params.weights.dtype
        params.kv.dtype params.kvScale.dtype = .ok smemSize ∧
      launch.resources = .of (128 + 512) smemSize 1 := by
  simp only [launchSm90Fp8MqaLogits, bind_eq_ok, Arith.machine_add, IntType.add_eq_ok] at h
  obtain ⟨_, -, _, -, _, -, _, -, _, -, _, -, _, -, _, -, _, -, smemSize, hsize, _, -, _, -, _, -, _, -, _, ⟨-, rfl⟩, h⟩ := h
  obtain ⟨hkernel, hresources⟩ := launchKernel_resources h rfl
  exact ⟨hkernel, smemSize, hsize, hresources⟩

theorem launchSm100MqaLogits_resources {params : MqaLogitsParams} {isFp4 : Bool} {args : MqaArgs}
    (h : launchSm100MqaLogits .machine params isFp4 args numSms pdl = .ok launch) :
    launch.kernel = "sm100_mqa_logits" ∧
      launch.resources = .of (128 + 256) 232448 1 := by
  simp only [launchSm100MqaLogits, bind_eq_ok, Arith.machine_add, IntType.add_eq_ok] at h
  obtain ⟨_, -, _, -, _, -, _, -, _, -, _, -, _, ⟨-, rfl⟩, h⟩ := h
  exact launchKernel_resources h rfl

theorem launchCleanLogits_resources {params : MqaLogitsParams} {args : MqaArgs}
    (h : launchCleanLogits .machine params args numSms pdl = .ok launch) :
    launch.kernel = "smxx_clean_logits" ∧
      launch.resources = .of (8 * 32) (8192 * 4) 1 := by
  simp only [launchCleanLogits, bind_eq_ok, Arith.machine_mul, IntType.mul_eq_ok] at h
  obtain ⟨_, -, _, -, _, -, _, ⟨-, rfl⟩, _, ⟨-, rfl⟩, h⟩ := h
  exact launchKernel_resources h rfl

/-- The MQA kernel of an accepted request. -/
theorem mainLaunch_kept {params : MqaLogitsParams} {dispatch : MqaDispatch}
    (hdispatch : dispatchMqaLogits device params = .ok dispatch)
    (h : mainLaunch params numSms pdl dispatch = .ok launch) : Build.Kept ⟨dispatch.text params numSms, launch⟩ := by
  obtain ⟨hc, hs⟩ := dispatchMqaLogits_eq_ok.mp hdispatch
  have hlogits := (requireLogitsOutput_eq_ok.mp hc.logits).2.1
  have hv := mqaValid hdispatch
  cases dispatch with
  | sm90 args =>
    rcases hv.dispatch with ⟨heq, hq, hw, hkv, hkvs⟩ | heq
    · cases heq
      rcases selectMqa_eq_ok.mp hs with ⟨-, -, -, hshape, -⟩ | ⟨-, -, -, heq⟩
      · obtain ⟨hkernel, smemSize, hsize, hresources⟩ := launchSm90Fp8MqaLogits_resources h
        rw [hq, hw, hkv, hkvs] at hsize
        exact .of ⟨hshape, rfl, rfl, ⟨rfl, rfl⟩, hlogits⟩ hkernel ⟨smemSize, hsize, hresources⟩
      · cases heq
    · cases heq
  | sm100 isFp4 args =>
    obtain ⟨hkernel, hresources⟩ := launchSm100MqaLogits_resources h
    exact .of ⟨⟨rfl, rfl⟩, hlogits, hc.weights.dtype⟩ hkernel hresources

theorem launchCleanLogits_kept {params : MqaLogitsParams} {dispatch : MqaDispatch}
    (hdispatch : dispatchMqaLogits device params = .ok dispatch)
    (h : launchCleanLogits .machine params dispatch.args numSms pdl = .ok launch) :
    Build.Kept ⟨cleanText params, launch⟩ := by
  obtain ⟨hc, -⟩ := dispatchMqaLogits_eq_ok.mp hdispatch
  obtain ⟨hkernel, hresources⟩ := launchCleanLogits_resources h
  exact .of ⟨rfl, rfl, (requireLogitsOutput_eq_ok.mp hc.logits).2.1⟩ hkernel hresources

theorem launchSm90Metadata_resources {params : PagedMqaLogitsMetadataParams} {batchSize nextN : Int}
    (hb : Extent batchSize) (h : launchSm90Metadata .machine params batchSize nextN false pdl = .ok launch) :
    (Extent (alignUp batchSize 32) ∧ i32.Has (alignUp batchSize 32 * 4)) ∧
      launch.kernel = "sm90_paged_mqa_logits_metadata" ∧ launch.resources = .of 32 (alignUp batchSize 32 * 4) 1 := by
  simp only [launchSm90Metadata, numSmemInts, alignI64OrThrow_machine 32 _ hb (by decide) (by decide), bind_eq_ok,
    Except.ok.injEq, exists_eq_left', Bool.false_eq_true, if_false, Arith.machine_mul, IntType.mul_eq_ok] at h
  obtain ⟨_, haligned, _, -, _, -, _, ⟨hbytes, rfl⟩, h⟩ := h
  obtain ⟨hfit, rfl⟩ := asI32_eq_ok.mp haligned
  exact ⟨⟨hfit, hbytes⟩, launchKernel_resources h rfl⟩

theorem launchSm100Metadata_resources {params : PagedMqaLogitsMetadataParams} {batchSize nextN : Int}
    (h : launchSm100Metadata .machine params batchSize nextN pdl = .ok launch) :
    i32.Has (2 * batchSize * 4) ∧ launch.kernel = "sm100_paged_mqa_logits_metadata" ∧
      launch.resources = .of 256 (2 * batchSize * 4) 1 := by
  simp only [launchSm100Metadata, bind_eq_ok, Arith.machine_mul, IntType.mul_eq_ok] at h
  obtain ⟨_, -, _, -, _, -, _, ⟨-, rfl⟩, _, ⟨hbytes, rfl⟩, h⟩ := h
  exact ⟨hbytes, launchKernel_resources h rfl⟩

/-- The scheduler of an accepted request. -/
theorem launchPagedMqaLogitsMetadata_kept {params : PagedMqaLogitsMetadataParams} {dispatch : MetadataDispatch}
    {text : KernelText} (hdispatch : dispatchPagedMqaLogitsMetadata device params = .ok dispatch)
    (htext : dispatch.text = .ok text) (h : launchPagedMqaLogitsMetadata .machine params pdl dispatch = .ok launch) :
    Build.Kept ⟨text, launch⟩ := by
  have hv := metadataValid hdispatch
  rcases hv.dispatch with ⟨-, rfl⟩ | ⟨-, rfl⟩
  · obtain ⟨⟨hfit, -⟩, hkernel, hresources⟩ := launchSm90Metadata_resources hv.batchSize h
    simp only [MetadataDispatch.text, alignI64OrThrow_machine 32 _ hv.batchSize (by decide) (by decide), ok_bind,
      asI32_eq_ok.mpr ⟨hfit, rfl⟩] at htext
    cases htext
    exact .of hfit.1 hkernel hresources
  · cases htext
    obtain ⟨-, hkernel, hresources⟩ := launchSm100Metadata_resources h
    exact .of trivial hkernel ⟨_, hresources⟩

theorem launchSm90Fp8PagedMqaLogits_resources {params : PagedMqaLogitsParams} {args : PagedMqaArgs}
    (h : launchSm90Fp8PagedMqaLogits .machine params args pdl = .ok launch) :
    launch.kernel = "sm90_fp8_paged_mqa_logits" ∧ ∃ smemSize,
      sm90PagedSmemSize .machine args.nextN args.numHeads args.headDim args.blockKv params.q.dtype
        params.weights.dtype = .ok smemSize ∧
      launch.resources = .of (128 + 512) smemSize 1 := by
  simp only [launchSm90Fp8PagedMqaLogits, bind_eq_ok, Arith.machine_add, IntType.add_eq_ok] at h
  obtain ⟨_, -, _, -, _, -, _, -, _, -, _, -, _, -, _, -, _, -, _, -, _, -, _, -, _, -, smemSize, hsize, _, -, _, -, _, -, _,
    ⟨-, rfl⟩, h⟩ := h
  obtain ⟨hkernel, hresources⟩ := launchKernel_resources h rfl
  exact ⟨hkernel, smemSize, hsize, hresources⟩

theorem launchSm100PagedMqaLogits_resources {params : PagedMqaLogitsParams} {isFp4 : Bool} {args : PagedMqaArgs}
    (h : launchSm100PagedMqaLogits .machine params isFp4 args pdl = .ok launch) :
    launch.kernel = "sm100_paged_mqa_logits" ∧ launch.resources = .of (128 + 256) 232448 1 := by
  simp only [launchSm100PagedMqaLogits, bind_eq_ok, Arith.machine_add, IntType.add_eq_ok] at h
  obtain ⟨_, -, _, -, _, -, _, -, _, -, _, -, _, -, _, -, _, -, _, -, _, -, _, -, _, -, _, ⟨-, rfl⟩, h⟩ := h
  exact launchKernel_resources h rfl

/-- The paged MQA kernel of an accepted request. -/
theorem launchPagedMqaLogits_kept {params : PagedMqaLogitsParams} {dispatch : PagedMqaDispatch}
    (hdispatch : dispatchPagedMqaLogits device params = .ok dispatch)
    (h : launchPagedMqaLogits .machine params pdl dispatch = .ok launch) : Build.Kept ⟨dispatch.text params, launch⟩ := by
  obtain ⟨hc, hs⟩ := dispatchPagedMqaLogits_eq_ok.mp hdispatch
  have hlogits := (requireLogitsOutput_eq_ok.mp hc.logits).2.1
  cases dispatch with
  | sm90 args =>
    rcases (pagedValid hdispatch).dispatch with ⟨heq, hn, hq, hw⟩ | heq
    · cases heq
      rcases selectPagedMqa_eq_ok.mp hs with ⟨-, -, -, -, hpage, -, hshape, -⟩ | ⟨-, -, -, -, -, heq⟩
      · obtain ⟨hkernel, smemSize, hsize, hresources⟩ := launchSm90Fp8PagedMqaLogits_resources h
        rw [hq, hw] at hsize
        exact .of ⟨hn, hshape, hpage, ⟨rfl, rfl⟩, hlogits⟩ hkernel ⟨smemSize, hsize, hresources⟩
      · cases heq
    · cases heq
  | sm100 isFp4 args =>
    obtain ⟨hkernel, hresources⟩ := launchSm100PagedMqaLogits_resources h
    exact .of ⟨⟨rfl, rfl⟩, hlogits, hc.weights.dtype⟩ hkernel hresources

namespace Gemm

theorem launchBroadcast_resources {params : Fp8GemmScaleTransformParams} {sfK : Int}
    (h : launchBroadcast params sfK = .ok launch) :
    launch.kernel = (if params.transformed.dtype = DTypeCode.f32 then KernelText.broadcast else .broadcastAndPack).name ∧
      launch.resources = .of 256 0 1 := by
  simp only [launchBroadcast, bind_eq_ok] at h
  obtain ⟨_, -, _, -, _, -, h⟩ := h
  by_cases hd : params.transformed.dtype = DTypeCode.f32
  · simp only [if_pos hd, bind_eq_ok] at h ⊢
    obtain ⟨_, -, _, -, _, -, h⟩ := h
    exact launchKernel_resources h rfl
  · simp only [if_neg hd, bind_eq_ok] at h ⊢
    obtain ⟨_, -, _, -, _, -, _, -, h⟩ := h
    exact launchKernel_resources h rfl

theorem launchTranspose_resources {params : Fp8GemmScaleTransformParams} {sfK : Int} (hk : 1 ≤ sfK ∧ sfK ≤ 512)
    (h : launchTranspose params sfK pdl = .ok launch) :
    launch.kernel = "transpose_fp32" ∧ launch.resources = .of 512 (64 * (sfK + (1 - sfK % 2)) * 4) 1 := by
  have hrem : (i64.rem sfK 2 : Native Int) = .ok (sfK % 2) :=
    IntType.rem_of_nonneg (by omega) (has_i64.mpr ⟨by omega, by omega⟩) (by decide) (by decide)
  simp only [launchTranspose, hrem, ok_bind, bind_eq_ok, IntType.add_eq_ok, IntType.mul_eq_ok] at h
  obtain ⟨_, ⟨-, rfl⟩, _, hpadded, _, ⟨-, rfl⟩, _, ⟨-, rfl⟩, _, -, _, -, _, -, h⟩ := h
  obtain ⟨-, rfl⟩ := asI32_eq_ok.mp hpadded
  exact launchKernel_resources h rfl

theorem launchTransposeAndPack_resources {params : Fp8GemmScaleTransformParams} {sfK : Int}
    (h : launchTransposeAndPack params sfK pdl = .ok launch) :
    launch.kernel = "transpose_and_pack_fp32_into_ue8m0" ∧ launch.resources = .of 512 (48 * sfK * 4) 1 := by
  simp only [launchTransposeAndPack, bind_eq_ok, IntType.mul_eq_ok] at h
  obtain ⟨_, hwords, _, ⟨-, rfl⟩, _, ⟨-, rfl⟩, _, -, _, -, _, -, h⟩ := h
  obtain ⟨-, rfl⟩ := asI32_eq_ok.mp hwords
  exact launchKernel_resources h rfl

/-- The kernel of an accepted scale transform. -/
theorem launchFp8GemmTransformScale_kept {runtime : Runtime} {params : Fp8GemmScaleTransformParams} {text : KernelText}
    (htext : transformText params = .ok text) (h : launchFp8GemmTransformScale runtime params = .ok launch) :
    Build.Kept ⟨text, launch⟩ := by
  obtain ⟨sfK, hcheck, h⟩ := bind_eq_ok.mp h
  rw [transformText, hcheck, ok_bind] at htext
  obtain ⟨hadmitted, rfl⟩ := admitted_of_check hcheck
  have hk : 1 ≤ scaleCols params ∧ scaleCols params ≤ 512 := ⟨hadmitted.posCols, hadmitted.blocks⟩
  by_cases hgran : params.granMn.val ≠ 1
  · rw [if_pos hgran] at h htext
    obtain ⟨hkernel, hresources⟩ := launchBroadcast_resources h
    by_cases hd : params.transformed.dtype = DTypeCode.f32
    · rw [if_pos hd] at hkernel htext
      cases htext
      exact .of trivial hkernel hresources
    · rw [if_neg hd] at hkernel htext
      cases htext
      exact .of trivial hkernel hresources
  · rw [if_neg hgran] at h htext
    obtain ⟨sfKArg, harg, htext⟩ := bind_eq_ok.mp htext
    obtain ⟨-, rfl⟩ := asI32_eq_ok.mp harg
    by_cases hd : params.transformed.dtype = DTypeCode.f32
    · rw [if_pos hd] at h htext
      cases htext
      obtain ⟨hkernel, hresources⟩ := launchTranspose_resources hk h
      exact .of ⟨rfl, rfl, hk⟩ hkernel hresources
    · rw [if_neg hd] at h htext
      cases htext
      obtain ⟨hkernel, hresources⟩ := launchTransposeAndPack_resources h
      exact .of ⟨rfl, rfl, hk⟩ hkernel hresources

theorem transformText_not_scheduler {params : Fp8GemmScaleTransformParams} {text : KernelText}
    (h : transformText params = .ok text) : ¬ text.family.IsScheduler := by
  obtain ⟨sfK, -, h⟩ := bind_eq_ok.mp h
  split_ifs at h
  · cases h
    simp [KernelFamily.IsScheduler, KernelText.family]
  · cases h
    simp [KernelFamily.IsScheduler, KernelText.family]
  · obtain ⟨_, -, h⟩ := bind_eq_ok.mp h
    cases h
    simp [KernelFamily.IsScheduler, KernelText.family]
  · obtain ⟨_, -, h⟩ := bind_eq_ok.mp h
    cases h
    simp [KernelFamily.IsScheduler, KernelText.family]

theorem launchSm90Fp8GemmNt_resources {params : Fp8GemmNtParams} {dims : GemmDims} {config : GemmConfig}
    (h : launchSm90Fp8GemmNt params dims numSms config pdl = .ok launch) :
    launch.kernel = "sm90_fp8_gemm_1d2d" ∧
      launch.resources = .of config.launch.numThreads config.pipeline.smemSize config.layout.clusterSize := by
  simp only [launchSm90Fp8GemmNt, bind_eq_ok] at h
  obtain ⟨_, -, _, -, _, -, _, -, h⟩ := h
  exact launchKernel_resources h rfl

theorem launchSm100Fp8GemmNt_resources {params : Fp8GemmNtParams} {dims : GemmDims} {config : GemmConfig}
    (h : launchSm100Fp8GemmNt params dims numSms config pdl = .ok launch) :
    launch.kernel = "sm100_fp8_gemm_1d1d" ∧
      launch.resources = .of config.launch.numThreads config.pipeline.smemSize config.layout.clusterSize := by
  simp only [launchSm100Fp8GemmNt, bind_eq_ok] at h
  obtain ⟨_, -, _, -, _, -, _, -, _, -, h⟩ := h
  exact launchKernel_resources h rfl

/-- The configuration of a dispatch is one that the heuristics put together. -/
theorem dispatchFp8GemmNt_config {runtime : Runtime} {params : Fp8GemmNtParams} {dispatch : GemmDispatch}
    (h : dispatchFp8GemmNt runtime params = .ok dispatch) : dispatch.text.Accepted := by
  simp only [dispatchFp8GemmNt, bind_eq_ok] at h
  obtain ⟨dims, -, m, -, n, -, k, -, numSms, -, device, -, h⟩ := h
  split at h
  · simp only [bind_eq_ok, Except.ok.injEq] at h
    obtain ⟨config, hconfig, _, -, rfl⟩ := h
    exact sm90Config_of_best hconfig
  · split at h
    · simp only [bind_eq_ok, Except.ok.injEq] at h
      obtain ⟨config, hconfig, _, -, rfl⟩ := h
      exact sm100Config_of_best hconfig
    · cases h

/-- The kernel of an accepted GEMM. -/
theorem launchGemmNt_kept {runtime : Runtime} {params : Fp8GemmNtParams} {dispatch : GemmDispatch}
    (hdispatch : dispatchFp8GemmNt runtime params = .ok dispatch) (h : launchGemmNt params pdl dispatch = .ok launch) :
    Build.Kept ⟨dispatch.text, launch⟩ := by
  have haccepted := dispatchFp8GemmNt_config hdispatch
  cases dispatch with
  | sm90 dims numSms config =>
    obtain ⟨hkernel, hresources⟩ := launchSm90Fp8GemmNt_resources h
    exact .of haccepted hkernel hresources
  | sm100 dims numSms config =>
    obtain ⟨hkernel, hresources⟩ := launchSm100Fp8GemmNt_resources h
    exact .of haccepted hkernel hresources

end Gemm

end

/-! ## Requests -/

section

variable {runtime : Runtime} {request : Request} {builds : List Build}

/-- Every build of a request keeps what a build keeps. -/
theorem builds_kept (h : request.builds runtime = .ok builds) : ∀ build ∈ builds, build.Kept := by
  cases request with
  | mqaLogits params =>
    simp only [Request.builds, bind_eq_ok, Except.ok.injEq] at h
    obtain ⟨params, -, device, -, dispatch, hdispatch, numSms, -, first, hfirst, launches, hclean, rfl⟩ := h
    have hfirst := mainLaunch_kept hdispatch hfirst
    unfold launchCleanIfAsked at hclean
    split at hclean
    · obtain ⟨clean, hmade, hclean⟩ := bind_eq_ok.mp hclean
      cases hclean
      have hmade := launchCleanLogits_kept hdispatch hmade
      simpa using ⟨hfirst, hmade⟩
    · cases hclean
      simpa using hfirst
  | pagedMetadata params =>
    simp only [Request.builds, bind_eq_ok, Except.ok.injEq] at h
    obtain ⟨params, -, device, -, dispatch, hdispatch, launch, hlaunch, text, htext, rfl⟩ := h
    simpa using launchPagedMqaLogitsMetadata_kept hdispatch htext hlaunch
  | pagedMqaLogits params =>
    simp only [Request.builds, bind_eq_ok, Except.ok.injEq] at h
    obtain ⟨params, -, device, -, dispatch, hdispatch, launch, hlaunch, rfl⟩ := h
    simpa using launchPagedMqaLogits_kept hdispatch hlaunch
  | transformScale params =>
    simp only [Request.builds, bind_eq_ok, Except.ok.injEq] at h
    obtain ⟨params, -, launch, hlaunch, text, htext, rfl⟩ := h
    simpa using Gemm.launchFp8GemmTransformScale_kept htext hlaunch
  | gemmNt params =>
    simp only [Request.builds, bind_eq_ok, Except.ok.injEq] at h
    obtain ⟨params, -, dispatch, hdispatch, launch, hlaunch, rfl⟩ := h
    simpa using Gemm.launchGemmNt_kept hdispatch hlaunch

/-- A scheduler that is launched has a text. -/
theorem metadataText_of_launch {device : DeviceInfo} {params : PagedMqaLogitsMetadataParams} {dispatch : MetadataDispatch}
    {pdl : Bool} {launch : Launch} (hdispatch : dispatchPagedMqaLogitsMetadata device params = .ok dispatch)
    (h : launchPagedMqaLogitsMetadata .machine params pdl dispatch = .ok launch) : Succeeds dispatch.text := by
  have hv := metadataValid hdispatch
  rcases hv.dispatch with ⟨-, rfl⟩ | ⟨-, rfl⟩
  · obtain ⟨⟨hfit, -⟩, -⟩ := launchSm90Metadata_resources hv.batchSize h
    refine ⟨.sm90Metadata (alignUp (params.contextLens.shape 0) 32) 256 params.numSms false, ?_⟩
    simp only [MetadataDispatch.text, alignI64OrThrow_machine 32 _ hv.batchSize (by decide) (by decide), ok_bind,
      asI32_eq_ok.mpr ⟨hfit, rfl⟩]
  · exact ⟨_, rfl⟩

/-- A scale transform that is launched has a text. -/
theorem transformText_of_launch {params : Gemm.Fp8GemmScaleTransformParams} {launch : Launch}
    (h : Gemm.launchFp8GemmTransformScale runtime params = .ok launch) : Succeeds (Gemm.transformText params) := by
  obtain ⟨sfK, hcheck, -⟩ := bind_eq_ok.mp h
  obtain ⟨hadmitted, rfl⟩ := Gemm.admitted_of_check hcheck
  have hpos := hadmitted.posCols
  have hblocks := hadmitted.blocks
  have harg : asI32 (Gemm.scaleCols params) "sf_k" = .ok (Gemm.scaleCols params) :=
    asI32_eq_ok.mpr ⟨⟨hpos.le, hblocks.trans (by decide)⟩, rfl⟩
  unfold Gemm.transformText
  rw [hcheck, ok_bind, harg, ok_bind]
  split_ifs
  · exact ⟨_, rfl⟩
  · exact ⟨_, rfl⟩
  · exact ⟨_, rfl⟩
  · exact ⟨_, rfl⟩

theorem launches_of_clean {params : MqaLogitsParams} {args : MqaArgs} {numSms : Int} {pdl : Bool} {first : Launch}
    {launches : List Launch} (texts : KernelText × KernelText)
    (h : launchCleanIfAsked .machine params args numSms pdl first = .ok launches) :
    (List.zipWith Build.mk [texts.1, texts.2] launches).map Build.launch = launches := by
  unfold launchCleanIfAsked at h
  split at h
  · obtain ⟨clean, -, h⟩ := bind_eq_ok.mp h
    cases h
    rfl
  · cases h
    rfl

/-- The builds of a request are its launches, each with a text. -/
theorem launches_eq_ok {launches : List Launch} : request.launches runtime = .ok launches ↔
    ∃ builds, request.builds runtime = .ok builds ∧ builds.map Build.launch = launches := by
  cases request with
  | mqaLogits params =>
    simp only [Request.launches, Request.builds, launchFp8Fp4MqaLogits_eq_ok, bind_eq_ok, Except.ok.injEq]
    constructor
    · rintro ⟨params, hparams, device, dispatch, numSms, first, hdevice, hdispatch, hsms, hfirst, hclean⟩
      exact ⟨_, ⟨params, hparams, device, hdevice, dispatch, hdispatch, numSms, hsms, first, hfirst, launches, hclean, rfl⟩,
        launches_of_clean (_, _) hclean⟩
    · rintro ⟨_, ⟨params, hparams, device, hdevice, dispatch, hdispatch, numSms, hsms, first, hfirst, launches', hclean, rfl⟩,
        rfl⟩
      rw [launches_of_clean (_, _) hclean]
      exact ⟨params, hparams, device, dispatch, numSms, first, hdevice, hdispatch, hsms, hfirst, hclean⟩
  | pagedMetadata params =>
    simp only [Request.launches, Request.builds, bind_eq_ok, Except.ok.injEq]
    constructor
    · rintro ⟨params, hparams, device, hdevice, dispatch, hdispatch, launch, hlaunch, rfl⟩
      obtain ⟨text, htext⟩ := metadataText_of_launch hdispatch hlaunch
      exact ⟨_, ⟨params, hparams, device, hdevice, dispatch, hdispatch, launch, hlaunch, text, htext, rfl⟩, rfl⟩
    · rintro ⟨_, ⟨params, hparams, device, hdevice, dispatch, hdispatch, launch, hlaunch, text, -, rfl⟩, rfl⟩
      exact ⟨params, hparams, device, hdevice, dispatch, hdispatch, launch, hlaunch, rfl⟩
  | pagedMqaLogits params =>
    simp only [Request.launches, Request.builds, bind_eq_ok, Except.ok.injEq]
    constructor
    · rintro ⟨params, hparams, device, hdevice, dispatch, hdispatch, launch, hlaunch, rfl⟩
      exact ⟨_, ⟨params, hparams, device, hdevice, dispatch, hdispatch, launch, hlaunch, rfl⟩, rfl⟩
    · rintro ⟨_, ⟨params, hparams, device, hdevice, dispatch, hdispatch, launch, hlaunch, rfl⟩, rfl⟩
      exact ⟨params, hparams, device, hdevice, dispatch, hdispatch, launch, hlaunch, rfl⟩
  | transformScale params =>
    simp only [Request.launches, Request.builds, bind_eq_ok, Except.ok.injEq]
    constructor
    · rintro ⟨params, hparams, launch, hlaunch, rfl⟩
      obtain ⟨text, htext⟩ := transformText_of_launch hlaunch
      exact ⟨_, ⟨params, hparams, launch, hlaunch, text, htext, rfl⟩, rfl⟩
    · rintro ⟨_, ⟨params, hparams, launch, hlaunch, text, -, rfl⟩, rfl⟩
      exact ⟨params, hparams, launch, hlaunch, rfl⟩
  | gemmNt params =>
    simp only [Request.launches, Request.builds, Gemm.launchFp8GemmNt, bind_eq_ok, Except.ok.injEq]
    constructor
    · rintro ⟨params, hparams, launch, ⟨dispatch, hdispatch, hlaunch⟩, rfl⟩
      exact ⟨_, ⟨params, hparams, dispatch, hdispatch, launch, hlaunch, rfl⟩, rfl⟩
    · rintro ⟨_, ⟨params, hparams, dispatch, hdispatch, launch, hlaunch, rfl⟩, rfl⟩
      exact ⟨params, hparams, launch, ⟨dispatch, hdispatch, hlaunch⟩, rfl⟩

/-- Only a metadata request builds a scheduler. -/
theorem builds_scheduler {build : Build} (h : request.builds runtime = .ok builds) (hb : build ∈ builds)
    (hfamily : build.text.family.IsScheduler) : ∃ params, request = .pagedMetadata (some params) := by
  cases request with
  | pagedMetadata params =>
    cases params with
    | none => cases h
    | some params => exact ⟨params, rfl⟩
  | mqaLogits params =>
    simp only [Request.builds, bind_eq_ok, Except.ok.injEq] at h
    obtain ⟨params, -, device, -, dispatch, -, numSms, -, first, -, launches, hclean, rfl⟩ := h
    have hmain : ¬ (dispatch.text params numSms).family.IsScheduler := by cases dispatch <;> simp [KernelFamily.IsScheduler,
      MqaDispatch.text, KernelText.family]
    have hcleanText : ¬ (cleanText params).family.IsScheduler := by simp [KernelFamily.IsScheduler, cleanText,
      KernelText.family]
    unfold launchCleanIfAsked at hclean
    split at hclean
    · obtain ⟨clean, -, hclean⟩ := bind_eq_ok.mp hclean
      cases hclean
      simp only [List.zipWith, List.mem_cons, List.not_mem_nil, or_false] at hb
      rcases hb with rfl | rfl
      · exact absurd hfamily hmain
      · exact absurd hfamily hcleanText
    · cases hclean
      simp only [List.zipWith, List.mem_cons, List.not_mem_nil, or_false] at hb
      subst hb
      exact absurd hfamily hmain
  | pagedMqaLogits params =>
    simp only [Request.builds, bind_eq_ok, Except.ok.injEq] at h
    obtain ⟨params, -, device, -, dispatch, -, launch, -, rfl⟩ := h
    obtain rfl := List.mem_singleton.mp hb
    cases dispatch <;> simp [KernelFamily.IsScheduler, PagedMqaDispatch.text, KernelText.family] at hfamily
  | transformScale params =>
    simp only [Request.builds, bind_eq_ok, Except.ok.injEq] at h
    obtain ⟨params, -, launch, -, text, htext, rfl⟩ := h
    obtain rfl := List.mem_singleton.mp hb
    exact absurd hfamily (Gemm.transformText_not_scheduler htext)
  | gemmNt params =>
    simp only [Request.builds, bind_eq_ok, Except.ok.injEq] at h
    obtain ⟨params, -, dispatch, -, launch, -, rfl⟩ := h
    obtain rfl := List.mem_singleton.mp hb
    cases dispatch <;> simp [KernelFamily.IsScheduler, Gemm.GemmDispatch.text, KernelText.family] at hfamily

/-- The SM100 scheduler takes eight bytes for each sequence of the batch. -/
theorem builds_sm100Metadata {build : Build} (h : request.builds runtime = .ok builds) (hb : build ∈ builds)
    (hfamily : build.text.family = .sm100Metadata) : ∃ params, request = .pagedMetadata (some params) ∧
      0 < (params.contextLens.shape 0).val ∧
      build.launch.resources = .of 256 (2 * (params.contextLens.shape 0).val * 4) 1 := by
  obtain ⟨params, rfl⟩ := builds_scheduler h hb (.inr hfamily)
  refine ⟨params, rfl, ?_⟩
  simp only [Request.builds, bind_eq_ok, Except.ok.injEq] at h
  obtain ⟨_, hparams, device, -, dispatch, hdispatch, launch, hlaunch, text, htext, rfl⟩ := h
  cases hparams
  obtain rfl := List.mem_singleton.mp hb
  obtain ⟨hc, -⟩ := dispatchPagedMqaLogitsMetadata_eq_ok.mp hdispatch
  obtain ⟨-, -, hbatch, -⟩ := requireContiguous2DI32_eq_ok.mp hc.contextLens
  refine ⟨hbatch, ?_⟩
  rcases (metadataValid hdispatch).dispatch with ⟨-, rfl⟩ | ⟨-, rfl⟩
  · simp only [MetadataDispatch.text, bind_eq_ok, Except.ok.injEq] at htext
    obtain ⟨_, -, _, -, rfl⟩ := htext
    cases hfamily
  · exact (launchSm100Metadata_resources hlaunch).2.2

/-- What the name and the text of a kernel tell of its launch. -/
theorem Build.Kept.text_eq {build build' : Build} (h : build.Kept) (h' : build'.Kept)
    (hkernel : build.launch.kernel = build'.launch.kernel) {s t : Code} (hs : build.text.code = .ok s)
    (ht : build'.text.code = .ok t) (hrender : printer.render s = printer.render t) :
    build.text = build'.text ∧
      (build.text.family ≠ .sm100Metadata → build.launch.resources = build'.launch.resources) := by
  have hname : build.text.name = build'.text.name := h.kernel.symm.trans (hkernel.trans h'.kernel)
  obtain rfl := KernelText.code_eq_of_render hname hs ht hrender
  have htext : build.text = build'.text :=
    KernelText.eq_of_code h.accepted h'.accepted (KernelFamily.name_inj hname) hs ht
  exact ⟨htext, h.takes.unique (htext ▸ h'.takes)⟩

/-- **Launches of one kernel take the same resources**, whatever requests and settings they come from: the name
and the text tell all that the text was written with, and with it the threads, the shared memory and the cluster.
Only the shared memory of the SM100 scheduler follows a batch that its text leaves out. -/
theorem resources_of_text {runtime' : Runtime} {request' : Request} {builds' : List Build} {build build' : Build}
    {s t : Code} (h : request.builds runtime = .ok builds) (h' : request'.builds runtime' = .ok builds')
    (hb : build ∈ builds) (hb' : build' ∈ builds') (hkernel : build.launch.kernel = build'.launch.kernel)
    (hs : build.text.code = .ok s) (ht : build'.text.code = .ok t) (hrender : printer.render s = printer.render t) :
    build.text = build'.text ∧
      (build.text.family ≠ .sm100Metadata → build.launch.resources = build'.launch.resources) ∧
      (build.text.family = .sm100Metadata → ∃ params, request = .pagedMetadata (some params) ∧
        0 < (params.contextLens.shape 0).val ∧ build.launch.resources = .of 256 (2 * (params.contextLens.shape 0).val * 4) 1) := by
  obtain ⟨htext, hresources⟩ := (builds_kept h build hb).text_eq (builds_kept h' build' hb') hkernel hs ht hrender
  exact ⟨htext, hresources, builds_sm100Metadata h hb⟩

end

/-- A token with and without dependent launches. -/
theorem oneToken_resources : ∃ build build', Request.builds ⟨.ok h100, 0, false⟩ (.mqaLogits (some oneToken)) = .ok [build] ∧
    Request.builds ⟨.ok h100, 0, true⟩ (.mqaLogits (some oneToken)) = .ok [build'] ∧
    build.launch ≠ build'.launch ∧ build.launch.resources = build'.launch.resources := by
  obtain ⟨build, h, hs⟩ : ∃ build, Request.builds ⟨.ok h100, 0, false⟩ (.mqaLogits (some oneToken)) = .ok [build] ∧
      build.launch.config.enablePdl = false ∧ build.text = MqaDispatch.text oneToken 132 (.sm90 oneToken.args) ∧
      build.launch.kernel = "sm90_fp8_mqa_logits" := ⟨_, rfl, rfl, rfl, rfl⟩
  obtain ⟨build', h', hs'⟩ : ∃ build, Request.builds ⟨.ok h100, 0, true⟩ (.mqaLogits (some oneToken)) = .ok [build] ∧
      build.launch.config.enablePdl = true ∧ build.text = MqaDispatch.text oneToken 132 (.sm90 oneToken.args) ∧
      build.launch.kernel = "sm90_fp8_mqa_logits" := ⟨_, rfl, rfl, rfl, rfl⟩
  obtain ⟨hpdl, htext, hkernel⟩ := hs
  obtain ⟨hpdl', htext', hkernel'⟩ := hs'
  obtain ⟨code, hcode⟩ := (builds_kept h build (List.mem_singleton.mpr rfl)).written
  have hcode' : build'.text.code = .ok code := by rw [htext', ← htext, hcode]
  obtain ⟨-, hsame, -⟩ := resources_of_text h h' (List.mem_singleton.mpr rfl) (List.mem_singleton.mpr rfl)
    (hkernel.trans hkernel'.symm) hcode hcode' rfl
  refine ⟨build, build', h, h', ?_, hsame (by rw [htext]; decide)⟩
  intro heq
  rw [heq, hpdl'] at hpdl
  cases hpdl

end DeepGemmRs.Raw
