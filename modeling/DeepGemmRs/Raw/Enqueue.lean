import DeepGemmRs.Crate.Runtime
import DeepGemmRs.Lib.Logged
import DeepGemmRs.Raw.MqaExact

/-!
# What a call has enqueued

The launch entry points of `deepgemm_c_api.cc` with the calls they make outside the library, each of which may
throw, and the kernels enqueued so far as a log.

* `Call`, `Outside` : the calls, and what becomes of each;
* `perform` : a launch, from its tensor maps to `cuLaunchKernelEx`;
* `Request`, `call` : the five entry points behind `ffi_call`;
* `body_logs` : when nothing outside throws, a call enqueues the launches of the request;
* `enqueues_only_on_success_iff` : **a call that fails has enqueued nothing, unless it cleans the logits after
  the launch of the MQA kernel**.
-/

namespace DeepGemmRs.Raw

open Checked MachineInt Stateful Stateful.Prog

/-- The calls outside the library. -/
inductive Call where
  | currentDeviceInfo
  | encodeTiled (map : TensorMap)
  /-- `build_kernel`, whose failures are those of the disk, `nvcc` and the driver. -/
  | buildKernel (name : String)
  | setAttribute (kernel : String) (maxDynamicSharedSize : Int)
  | launchKernelEx (launch : Launch)
deriving DecidableEq

/-- The world outside: a call changes it, and returns or throws. -/
abbrev Outside (W : Type) : Type := Call → Prog Stop W Unit

/-- The calls of a launcher: the tensor maps, in the order of the arguments and each once, the kernel, the
attribute when there is shared memory, and the launch. -/
def Launch.calls (launch : Launch) : List Call :=
  (launch.args.filterMap KernelArg.asTensorMap).dedup.map .encodeTiled ++ .buildKernel launch.kernel ::
    (launch.config.maxDynamicSharedSize.map (.setAttribute launch.kernel)).toList ++ [.launchKernelEx launch]

section
variable {W : Type} (outside : Outside W)

/-- A part of a call. -/
abbrev Enqueue (W : Type) : Type → Type := Logged Stop W Launch

/-- `current_device_info`. -/
def queryDevice (runtime : Runtime) : Enqueue W DeviceInfo := do
  beside (outside .currentDeviceInfo)
  lift runtime.currentDeviceInfo

/-- `effective_num_sms`. -/
def queryNumSms (runtime : Runtime) : Enqueue W Int :=
  if runtime.numSmsOverride.val > 0 then pure runtime.numSmsOverride.val
  else do
    let info ← queryDevice outside runtime
    pure info.numSms.val

/-- A launcher. Its own computations, which see nothing of its calls, come first. -/
def perform (launch : Native Launch) : Enqueue W Unit := do
  let launch ← lift launch
  launch.calls.forM fun call => beside (outside call)
  emit launch

/-! ## The entry points -/

/-- The MQA kernel of a request. -/
def mainLaunch (params : MqaLogitsParams) (numSms : Int) (pdl : Bool) : MqaDispatch → Native Launch
  | .sm90 args => launchSm90Fp8MqaLogits .machine params args numSms pdl
  | .sm100 isFp4 args => launchSm100MqaLogits .machine params isFp4 args numSms pdl

def MqaDispatch.args : MqaDispatch → MqaArgs
  | .sm90 args | .sm100 _ args => args

/-- `launch_fp8_fp4_mqa_logits`. -/
def enqueueFp8Fp4MqaLogits (runtime : Runtime) (params : MqaLogitsParams) : Enqueue W Unit := do
  let device ← queryDevice outside runtime
  let dispatch ← lift (dispatchMqaLogits device params)
  let numSms ← queryNumSms outside runtime
  perform outside (mainLaunch params numSms runtime.pdlEnabled dispatch)
  if params.cleanLogits then
    perform outside (launchCleanLogits .machine params dispatch.args numSms runtime.pdlEnabled)
  else pure ()

/-- What the checks before the query of the device leave. -/
structure MetadataArgs where
  batchSize : Int
  nextN : Int
  numSms : Int
  blockKv : Int

def checkMetadata (params : PagedMqaLogitsMetadataParams) : Native MetadataArgs := do
  requireContiguous2DI32 params.contextLens "context_lens"
  throwIf (params.numSms.val ≤ 0) (.invalid "num_sms must be positive")
  requireScheduleMeta params.scheduleMeta params.numSms
  requireIndices params.hasIndices params.indices (params.contextLens.shape 0)
  let batchSize ← asI32 (params.contextLens.shape 0) "batch_size"
  let nextN ← asI32 (params.contextLens.shape 1) "next_n"
  let numSms ← asI32 params.numSms "num_sms"
  let blockKv ← asI32 params.blockKv "block_kv"
  .ok { batchSize, nextN, numSms, blockKv }

/-- The checks that the device takes part in. -/
def dispatchMetadata (device : DeviceInfo) (params : PagedMqaLogitsMetadataParams) (args : MetadataArgs) :
    Native MetadataDispatch := do
  throwIf (args.numSms > device.numSms.val) (.invalid "num_sms exceeds current device SM count")
  selectMetadata device params.hasIndices args.batchSize args.nextN args.numSms args.blockKv

/-- `launch_paged_mqa_logits_metadata`. -/
def enqueuePagedMqaLogitsMetadata (runtime : Runtime) (params : PagedMqaLogitsMetadataParams) : Enqueue W Unit := do
  let args ← lift (checkMetadata params)
  let device ← queryDevice outside runtime
  let dispatch ← lift (dispatchMetadata device params args)
  perform outside (launchPagedMqaLogitsMetadata .machine params runtime.pdlEnabled dispatch)

/-- `launch_fp8_fp4_paged_mqa_logits`. -/
def enqueueFp8Fp4PagedMqaLogits (runtime : Runtime) (params : PagedMqaLogitsParams) : Enqueue W Unit := do
  let device ← queryDevice outside runtime
  let dispatch ← lift (dispatchPagedMqaLogits device params)
  perform outside (launchPagedMqaLogits .machine params runtime.pdlEnabled dispatch)

/-- `launch_fp8_gemm_transform_scale`. -/
def enqueueFp8GemmTransformScale (runtime : Runtime) (params : Gemm.Fp8GemmScaleTransformParams) : Enqueue W Unit :=
  perform outside (Gemm.launchFp8GemmTransformScale runtime params)

/-- The dimensions of a product, as `int`. -/
def gemmDims (params : Gemm.Fp8GemmNtParams) : Native Gemm.GemmDims := do
  let dims ← Gemm.validateCommonGemmNt params
  let m ← asI32 dims.m "m"
  let n ← asI32 dims.n "n"
  let k ← asI32 dims.k "k"
  .ok { m, n, k }

def selectGemmNt (device : DeviceInfo) (params : Gemm.Fp8GemmNtParams) (dims : Gemm.GemmDims) (numSms : Int) :
    Native Gemm.GemmDispatch :=
  if device.major = 9 then do
    let config ← Gemm.sm90BestConfig dims.m dims.n dims.k numSms
    Gemm.checkSm90Scales params dims config
    .ok (.sm90 dims numSms config)
  else if device.major = 10 then do
    let config ← Gemm.sm100BestConfig dims.m dims.n dims.k numSms
    Gemm.checkSm100Scales params dims
    .ok (.sm100 dims numSms config)
  else .error (.unsupported
    s!"FP8 GEMM supports SM90 or SM100, got compute capability {device.major}.{device.minor}")

/-- `launch_fp8_gemm_nt`. -/
def enqueueFp8GemmNt (runtime : Runtime) (params : Gemm.Fp8GemmNtParams) : Enqueue W Unit := do
  let dims ← lift (gemmDims params)
  let numSms ← queryNumSms outside runtime
  let device ← queryDevice outside runtime
  let dispatch ← lift (selectGemmNt device params dims numSms)
  perform outside (Gemm.launchGemmNt params runtime.pdlEnabled dispatch)

end

/-- What the C ABI is asked to launch; the pointer to the parameters may be null. -/
inductive Request where
  | mqaLogits (params : Option MqaLogitsParams)
  | pagedMetadata (params : Option PagedMqaLogitsMetadataParams)
  | pagedMqaLogits (params : Option PagedMqaLogitsParams)
  | transformScale (params : Option Gemm.Fp8GemmScaleTransformParams)
  | gemmNt (params : Option Gemm.Fp8GemmNtParams)

/-- `*params`, or the refusal of a null pointer. -/
def deref {P : Type} (name : String) : Option P → Native P
  | some params => .ok params
  | none => .error (.invalid s!"{name} params must not be null")

section
variable {W : Type} (outside : Outside W) (runtime : Runtime)

/-- The body of an entry point. -/
def Request.body : Request → Enqueue W Unit
  | .mqaLogits params => do
    enqueueFp8Fp4MqaLogits outside runtime (← lift (deref "MQA logits" params))
  | .pagedMetadata params => do
    enqueuePagedMqaLogitsMetadata outside runtime (← lift (deref "paged metadata" params))
  | .pagedMqaLogits params => do
    enqueueFp8Fp4PagedMqaLogits outside runtime (← lift (deref "paged MQA logits" params))
  | .transformScale params => do
    enqueueFp8GemmTransformScale outside runtime (← lift (deref "FP8 GEMM scale transform" params))
  | .gemmNt params => do
    enqueueFp8GemmNt outside runtime (← lift (deref "FP8 GEMM" params))

/-- The status `ffi_call` returns; undefined behaviour has none. -/
def ffiStatus : Except Stop Unit → Option Status
  | .ok () => some .success
  | .error (.status status _) => some status
  | .error _ => none

/-- A call of an entry point: its status, the world it leaves, and what is enqueued. -/
def call (request : Request) (s : W × List Launch) : Option Status × (W × List Launch) :=
  let (result, t) := request.body outside runtime s
  (ffiStatus result, t)

end

/-- The launches of a request when nothing outside throws. -/
def Request.launches (runtime : Runtime) : Request → Native (List Launch)
  | .mqaLogits params => do
    launchFp8Fp4MqaLogits runtime (← deref "MQA logits" params)
  | .pagedMetadata params => do
    let params ← deref "paged metadata" params
    let device ← runtime.currentDeviceInfo
    let dispatch ← dispatchPagedMqaLogitsMetadata device params
    let launch ← launchPagedMqaLogitsMetadata .machine params runtime.pdlEnabled dispatch
    .ok [launch]
  | .pagedMqaLogits params => do
    let params ← deref "paged MQA logits" params
    let device ← runtime.currentDeviceInfo
    let dispatch ← dispatchPagedMqaLogits device params
    let launch ← launchPagedMqaLogits .machine params runtime.pdlEnabled dispatch
    .ok [launch]
  | .transformScale params => do
    let launch ← Gemm.launchFp8GemmTransformScale runtime (← deref "FP8 GEMM scale transform" params)
    .ok [launch]
  | .gemmNt params => do
    let launch ← Gemm.launchFp8GemmNt runtime (← deref "FP8 GEMM" params)
    .ok [launch]

theorem dispatchPagedMqaLogitsMetadata_eq (device : DeviceInfo) (params : PagedMqaLogitsMetadataParams) :
    dispatchPagedMqaLogitsMetadata device params = checkMetadata params >>= dispatchMetadata device params := by
  simp only [dispatchPagedMqaLogitsMetadata, checkMetadata, bind_assoc]
  rfl

theorem dispatchFp8GemmNt_eq (runtime : Runtime) (params : Gemm.Fp8GemmNtParams) :
    Gemm.dispatchFp8GemmNt runtime params = (do
      let dims ← gemmDims params
      let numSms ← runtime.effectiveNumSms
      let device ← runtime.currentDeviceInfo
      selectGemmNt device params dims numSms) := by
  simp only [Gemm.dispatchFp8GemmNt, gemmDims, bind_assoc]
  rfl

/-! ## Nothing outside throws -/

section
variable {W : Type} {outside : Outside W} {runtime : Runtime}

/-- A world that does what it is asked. -/
def Obliging (outside : Outside W) (calls : Set Call) : Prop := ∀ call ∈ calls, ∀ w, (outside call w).1 = .ok ()

theorem queryDevice_logs {device : DeviceInfo} (ho : (Obliging outside) {.currentDeviceInfo})
    (h : runtime.currentDeviceInfo = .ok device) : Logs (queryDevice outside runtime) device [] :=
  (Logs.beside (ho _ rfl)).bind (Logs.lift h)

theorem queryNumSms_logs {numSms : Int} (ho : Obliging outside {.currentDeviceInfo})
    (h : runtime.effectiveNumSms = .ok numSms) : Logs (queryNumSms outside runtime) numSms [] := by
  unfold Runtime.effectiveNumSms at h
  unfold queryNumSms
  split at h
  · next hpos =>
    rw [if_pos hpos]
    cases h
    exact Logs.pure _
  · next hpos =>
    rw [if_neg hpos]
    obtain ⟨device, hdevice, h⟩ := bind_eq_ok.mp h
    cases h
    exact (queryDevice_logs ho hdevice).bind (Logs.pure _)

theorem perform_logs {launch : Launch} {made : Native Launch} (ho : Obliging outside {call | call ∈ launch.calls})
    (h : made = .ok launch) : Logs (perform outside made) () [launch] := by
  refine (Logs.lift h).bind ((Logs.forM _ fun call hcall => ?_).bind (Logs.emit launch))
  exact Logs.beside (ho call hcall)

theorem launchCleanLogits_succeeds (params : MqaLogitsParams) (args : MqaArgs) (numSms : Int) (pdl : Bool) :
    ∃ clean, launchCleanLogits .machine params args numSms pdl = .ok clean ∧ clean.kernel = "smxx_clean_logits" :=
  ⟨_, rfl, rfl⟩

/-- The MQA launches, one after the other. -/
theorem launchFp8Fp4MqaLogits_eq_ok {params : MqaLogitsParams} {launches : List Launch} :
    launchFp8Fp4MqaLogits runtime params = .ok launches ↔ ∃ device dispatch numSms first,
      runtime.currentDeviceInfo = .ok device ∧ dispatchMqaLogits device params = .ok dispatch ∧
      runtime.effectiveNumSms = .ok numSms ∧
      mainLaunch params numSms runtime.pdlEnabled dispatch = .ok first ∧
      launchCleanIfAsked .machine params dispatch.args numSms runtime.pdlEnabled first = .ok launches := by
  simp only [launchFp8Fp4MqaLogits, bind_eq_ok, ← exists_and_left]
  refine exists_congr fun device => exists_congr fun dispatch => exists_congr fun numSms => ?_
  cases dispatch with
  | sm90 args => simp only [launchMqaLogits, mainLaunch, MqaDispatch.args, bind_eq_ok, ← exists_and_left]
  | sm100 isFp4 args => simp only [launchMqaLogits, mainLaunch, MqaDispatch.args, bind_eq_ok, ← exists_and_left]

theorem enqueueFp8Fp4MqaLogits_logs {params : MqaLogitsParams} {launches : List Launch}
    (ho : Obliging outside Set.univ) (h : launchFp8Fp4MqaLogits runtime params = .ok launches) :
    Logs (enqueueFp8Fp4MqaLogits outside runtime params) () launches := by
  obtain ⟨device, dispatch, numSms, first, hdevice, hdispatch, hsms, hfirst, h⟩ := launchFp8Fp4MqaLogits_eq_ok.mp h
  have hall : ∀ calls, Obliging outside calls := fun _ call _ => ho call trivial
  refine (queryDevice_logs (hall _) hdevice).bind ((Logs.lift hdispatch).bind ((queryNumSms_logs (hall _) hsms).bind ?_))
  unfold launchCleanIfAsked at h
  split at h
  · next hclean =>
    obtain ⟨clean, hmade, h⟩ := bind_eq_ok.mp h
    cases h
    rw [if_pos hclean]
    exact (perform_logs (hall _) hfirst).bind (perform_logs (hall _) hmade)
  · next hclean =>
    cases h
    rw [if_neg hclean]
    exact (perform_logs (hall _) hfirst).bind (Logs.pure ())

/-- **When nothing outside throws, a call enqueues the launches of its request.** -/
theorem body_logs {request : Request} {launches : List Launch} (ho : Obliging outside Set.univ)
    (h : request.launches runtime = .ok launches) : Logs (request.body outside runtime) () launches := by
  have hall : ∀ calls, Obliging outside calls := fun _ call _ => ho call trivial
  cases request with
  | mqaLogits params =>
    obtain ⟨params, hparams, h⟩ := bind_eq_ok.mp h
    exact (Logs.lift hparams).bind (enqueueFp8Fp4MqaLogits_logs ho h)
  | pagedMetadata params =>
    simp only [Request.launches, bind_eq_ok, dispatchPagedMqaLogitsMetadata_eq] at h
    obtain ⟨params, hparams, device, hdevice, dispatch, ⟨args, hargs, hdispatch⟩, launch, hlaunch, h⟩ := h
    cases h
    exact (Logs.lift hparams).bind ((Logs.lift hargs).bind ((queryDevice_logs (hall _) hdevice).bind
      ((Logs.lift hdispatch).bind (perform_logs (hall _) hlaunch))))
  | pagedMqaLogits params =>
    simp only [Request.launches, bind_eq_ok] at h
    obtain ⟨params, hparams, device, hdevice, dispatch, hdispatch, launch, hlaunch, h⟩ := h
    cases h
    exact (Logs.lift hparams).bind ((queryDevice_logs (hall _) hdevice).bind
      ((Logs.lift hdispatch).bind (perform_logs (hall _) hlaunch)))
  | transformScale params =>
    simp only [Request.launches, bind_eq_ok] at h
    obtain ⟨params, hparams, launch, hlaunch, h⟩ := h
    cases h
    exact (Logs.lift hparams).bind (perform_logs (hall _) hlaunch)
  | gemmNt params =>
    simp only [Request.launches, Gemm.launchFp8GemmNt, bind_eq_ok, dispatchFp8GemmNt_eq] at h
    obtain ⟨params, hparams, launch, ⟨dispatch, ⟨dims, hdims, numSms, hsms, device, hdevice, hdispatch⟩, hlaunch⟩, h⟩ := h
    cases h
    exact (Logs.lift hparams).bind ((Logs.lift hdims).bind ((queryNumSms_logs (hall _) hsms).bind
      ((queryDevice_logs (hall _) hdevice).bind ((Logs.lift hdispatch).bind (perform_logs (hall _) hlaunch)))))

/-! ## Something outside throws -/

theorem queryDevice_silent : Silent (queryDevice outside runtime) :=
  (Silent.beside _).bind fun _ => Silent.lift _

theorem queryNumSms_silent : Silent (queryNumSms outside runtime) := by
  unfold queryNumSms
  split
  · exact Silent.pure _
  · exact queryDevice_silent.bind fun _ => Silent.pure _

/-- A launcher enqueues its kernel when nothing can fail any more. -/
theorem perform_stopsSilent (made : Native Launch) : StopsSilent (perform outside made) := by
  refine (Silent.lift _).thenStops fun launch => Silent.thenStops ?_ fun _ => StopsSilent.emit launch
  exact Silent.forM _ fun call => Silent.beside _

theorem returns_queryDevice {device : DeviceInfo} {s t : W × List Launch}
    (h : Returns (queryDevice outside runtime) s device t) : runtime.currentDeviceInfo = .ok device := by
  obtain ⟨_, u, -, h⟩ := returns_bind.mp h
  exact (returns_lift.mp h).1

theorem returns_queryNumSms {numSms : Int} {s t : W × List Launch}
    (h : Returns (queryNumSms outside runtime) s numSms t) : runtime.effectiveNumSms = .ok numSms := by
  unfold queryNumSms at h
  unfold Runtime.effectiveNumSms
  split at h
  · next hpos =>
    rw [if_pos hpos, (returns_pure.mp h).1]
  · next hpos =>
    obtain ⟨device, u, hdevice, h⟩ := returns_bind.mp h
    rw [if_neg hpos, returns_queryDevice hdevice, ← (returns_pure.mp h).1]
    rfl

/-- The calls that clean the logits after the launch of the MQA kernel. -/
def Request.CleansAfterLaunch (runtime : Runtime) : Request → Prop
  | .mqaLogits (some params) =>
    params.cleanLogits = true ∧ ∃ launches, launchFp8Fp4MqaLogits runtime params = .ok launches
  | _ => False

theorem cleansAfterLaunch_iff {request : Request} : request.CleansAfterLaunch runtime ↔
    ∃ params, request = .mqaLogits (some params) ∧ params.cleanLogits = true ∧
      ∃ launches, launchFp8Fp4MqaLogits runtime params = .ok launches := by
  constructor
  · intro h
    cases request with
    | mqaLogits params =>
      cases params with
      | none => exact h.elim
      | some params => exact ⟨params, rfl, h⟩
    | pagedMetadata _ | pagedMqaLogits _ | transformScale _ | gemmNt _ => exact h.elim
  · rintro ⟨params, rfl, h⟩
    exact h

/-- An MQA call that stops with a kernel enqueued was to clean the logits. -/
theorem enqueueFp8Fp4MqaLogits_stops {params : MqaLogitsParams} {s t : W × List Launch} {e : Stop}
    (h : enqueueFp8Fp4MqaLogits outside runtime params s = (.error e, t)) :
    t.2 = s.2 ∨ Request.CleansAfterLaunch runtime (.mqaLogits (some params)) := by
  rcases stops_bind h with hstop | ⟨device, s₁, hquery, h⟩
  · exact .inl (queryDevice_silent.stopsSilent _ _ _ hstop)
  have h₁ := queryDevice_silent.of_returns hquery
  rcases stops_bind h with hstop | ⟨dispatch, s₂, hlift, h⟩
  · exact .inl (((Silent.lift _).stopsSilent _ _ _ hstop).trans h₁)
  obtain ⟨hdispatch, rfl⟩ := returns_lift.mp hlift
  rcases stops_bind h with hstop | ⟨numSms, s₃, hsms, h⟩
  · exact .inl ((queryNumSms_silent.stopsSilent _ _ _ hstop).trans h₁)
  have h₃ := (queryNumSms_silent.of_returns hsms).trans h₁
  rcases stops_bind h with hstop | ⟨_, s₄, hperform, h⟩
  · exact .inl ((perform_stopsSilent _ _ _ _ hstop).trans h₃)
  split at h
  · next hclean =>
    -- the MQA kernel is enqueued
    obtain ⟨first, _, hfirst, -⟩ := returns_bind.mp hperform
    obtain ⟨clean, hmade, -⟩ := launchCleanLogits_succeeds params dispatch.args numSms runtime.pdlEnabled
    refine .inr ⟨hclean, [first, clean], launchFp8Fp4MqaLogits_eq_ok.mpr ⟨device, dispatch, numSms, first,
      returns_queryDevice hquery, hdispatch, returns_queryNumSms hsms, (returns_lift.mp hfirst).1, ?_⟩⟩
    rw [launchCleanIfAsked, if_pos hclean, hmade]
    rfl
  · cases h

theorem body_stops {request : Request} {s t : W × List Launch} {e : Stop}
    (h : request.body outside runtime s = (.error e, t)) : t.2 = s.2 ∨ request.CleansAfterLaunch runtime := by
  cases request with
  | mqaLogits params =>
    cases params with
    | none =>
      cases h
      exact .inl rfl
    | some params => exact enqueueFp8Fp4MqaLogits_stops h
  | pagedMetadata params =>
    refine .inl ((Silent.lift _).thenStops (fun _ => ?_) _ _ _ h)
    exact (Silent.lift _).thenStops fun _ => queryDevice_silent.thenStops fun _ => (Silent.lift _).thenStops fun _ =>
      perform_stopsSilent _
  | pagedMqaLogits params =>
    refine .inl ((Silent.lift _).thenStops (fun _ => ?_) _ _ _ h)
    exact queryDevice_silent.thenStops fun _ => (Silent.lift _).thenStops fun _ => perform_stopsSilent _
  | transformScale params =>
    exact .inl ((Silent.lift _).thenStops (fun _ => perform_stopsSilent _) _ _ _ h)
  | gemmNt params =>
    refine .inl ((Silent.lift _).thenStops (fun _ => ?_) _ _ _ h)
    exact (Silent.lift _).thenStops fun _ => queryNumSms_silent.thenStops fun _ => queryDevice_silent.thenStops fun _ =>
      (Silent.lift _).thenStops fun _ => perform_stopsSilent _

end

/-! ## The second kernel -/

/-- A world that builds every kernel but the one that cleans the logits. -/
def cleanFails : Outside Unit := fun call =>
  if call = .buildKernel "smxx_clean_logits" then lift (.error (.status .internalError "NVCC compilation failed: "))
  else pure ()

theorem cleanFails_obliging {launch : Launch} (h : launch.kernel ≠ "smxx_clean_logits") :
    Obliging cleanFails {call | call ∈ launch.calls} := by
  intro call hcall w
  have hne : call ≠ .buildKernel "smxx_clean_logits" := by
    rintro rfl
    simp [Launch.calls, h.symm] at hcall
  rw [cleanFails, if_neg hne]
  rfl

theorem perform_cleanFails {launch : Launch} {made : Native Launch} (h : launch.kernel = "smxx_clean_logits")
    (hmade : made = .ok launch) :
    LogsStop (perform cleanFails made) (.status .internalError "NVCC compilation failed: ") [] := by
  refine (Logs.lift hmade).bind_stop (LogsStop.bind ?_)
  unfold Launch.calls
  rw [List.append_assoc, List.cons_append, h]
  refine LogsStop.forM _ _ _ (fun call hcall => ?_) (LogsStop.beside fun _ => ?_)
  · obtain ⟨map, -, rfl⟩ := List.mem_map.mp hcall
    exact Logs.beside fun _ => rfl
  · rw [cleanFails, if_pos rfl]
    rfl

theorem launchKernel_kernel {kernel : String} {stream : Ptr} {launchArgs : LaunchArgs} {args : List KernelArg} :
    Ensures (fun launch => launch.kernel = kernel) (launchKernel .machine kernel stream launchArgs args) :=
  fun _ h => (launchKernel_ok h).1

/-- The MQA kernels do not clean. -/
theorem mainLaunch_kernel {params : MqaLogitsParams} {numSms : Int} {pdl : Bool} {dispatch : MqaDispatch} :
    Ensures (fun launch => launch.kernel ≠ "smxx_clean_logits") (mainLaunch params numSms pdl dispatch) := by
  intro launch h
  cases dispatch with
  | sm90 args =>
    have hkernel : launch.kernel = "sm90_fp8_mqa_logits" := by
      revert launch
      show Ensures _ (launchSm90Fp8MqaLogits .machine params args numSms pdl)
      unfold launchSm90Fp8MqaLogits
      iterate 15 refine Ensures.bind fun _ => ?_
      apply launchKernel_kernel
    rw [hkernel]
    decide
  | sm100 isFp4 args =>
    have hkernel : launch.kernel = "sm100_mqa_logits" := by
      revert launch
      show Ensures _ (launchSm100MqaLogits .machine params isFp4 args numSms pdl)
      unfold launchSm100MqaLogits
      iterate 7 refine Ensures.bind fun _ => ?_
      apply launchKernel_kernel
    rw [hkernel]
    decide

/-- The MQA kernel is enqueued when the other turns out not to build. -/
theorem enqueueFp8Fp4MqaLogits_cleanFails {runtime : Runtime} {params : MqaLogitsParams} {launches : List Launch}
    (hclean : params.cleanLogits = true) (h : launchFp8Fp4MqaLogits runtime params = .ok launches) :
    ∃ first, LogsStop (enqueueFp8Fp4MqaLogits cleanFails runtime params)
      (.status .internalError "NVCC compilation failed: ") [first] := by
  obtain ⟨device, dispatch, numSms, first, hdevice, hdispatch, hsms, hfirst, -⟩ := launchFp8Fp4MqaLogits_eq_ok.mp h
  have hquery : Obliging cleanFails {.currentDeviceInfo} := by
    rintro call rfl w
    rfl
  obtain ⟨clean, hmade, hkernel⟩ := launchCleanLogits_succeeds params dispatch.args numSms runtime.pdlEnabled
  refine ⟨first, (queryDevice_logs hquery hdevice).bind_stop ((Logs.lift hdispatch).bind_stop
    ((queryNumSms_logs hquery hsms).bind_stop ?_))⟩
  rw [if_pos hclean]
  exact (perform_logs (cleanFails_obliging (mainLaunch_kernel _ hfirst)) hfirst).bind_stop
    (perform_cleanFails hkernel hmade)

/-- **A call that fails has enqueued nothing, wherever it fails, unless it is an MQA call that cleans the
logits after the launch.** -/
theorem enqueues_only_on_success_iff (runtime : Runtime) (request : Request) :
    (∀ (W : Type) (outside : Outside W) (s : W × List Launch),
      (call outside runtime request s).1 ≠ some .success → (call outside runtime request s).2.2 = s.2) ↔
    ¬ request.CleansAfterLaunch runtime := by
  constructor
  · intro h hcleans
    obtain ⟨params, rfl, hclean, launches, hlaunches⟩ := cleansAfterLaunch_iff.mp hcleans
    obtain ⟨first, hfirst⟩ := enqueueFp8Fp4MqaLogits_cleanFails hclean hlaunches
    obtain ⟨t, ht⟩ := hfirst ((), [])
    have hcall : call cleanFails runtime (.mqaLogits (some params)) ((), []) = (some .internalError, t, [first]) := by
      show (ffiStatus (enqueueFp8Fp4MqaLogits cleanFails runtime params ((), [])).1,
        (enqueueFp8Fp4MqaLogits cleanFails runtime params ((), [])).2) = _
      rw [ht]
      rfl
    have hqueue := h Unit cleanFails ((), [])
    rw [hcall] at hqueue
    have hempty : [first] = [] := hqueue fun heq => by cases heq
    cases hempty
  · intro hcleans W outside s hstatus
    unfold call at hstatus ⊢
    rcases hbody : request.body outside runtime s with ⟨e | u, t⟩
    · exact (body_stops hbody).resolve_right hcleans
    · rw [hbody] at hstatus
      exact absurd rfl hstatus

/-- One token on an H100, its logits to be cleaned. -/
def cleanedToken : MqaLogitsParams := { oneToken with cleanLogits := true }

theorem cleanedToken_enqueued :
    ¬ ∀ (request : Request) (runtime : Runtime) (W : Type) (outside : Outside W) (s : W × List Launch),
      (call outside runtime request s).1 ≠ some .success → (call outside runtime request s).2.2 = s.2 := by
  intro h
  have hqueue := h (.mqaLogits (some cleanedToken)) ⟨.ok h100, ⟨0, by decide⟩, false⟩ Unit cleanFails ((), [])
  have hstatus : (call cleanFails ⟨.ok h100, ⟨0, by decide⟩, false⟩ (.mqaLogits (some cleanedToken)) ((), [])).1 =
      some .internalError := rfl
  rw [hstatus] at hqueue
  exact List.cons_ne_nil _ _ (hqueue (by decide))

end DeepGemmRs.Raw
