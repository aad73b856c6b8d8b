import DeepGemmRs.Candle.Mqa
import DeepGemmRs.Crate.Paged

/-!
# Paged MQA logits of candle tensors

`candle-deepgemm/src/mqa.rs`, the paged MQA. A call returns its result with the kernel it enqueues.

* `PagedMqaLogitsPlan`, `pagedMqaLogitsPlan` : the schedule of a batch;
* `PagedTensors`, `PagedMqaLogitsConfig` : the arguments of the logits;
* `pagedMqaLogitsSpec`, `pagedMqaLogitsLaunch` : the checks, the logits view and the launch that fills it;
* `fp8Fp4PagedMqaLogits` : the function.
-/

namespace DeepGemmRs.Candle

open Checked MachineInt

/-- Caller-owned scheduler metadata. -/
structure PagedMqaLogitsPlan where
  scheduleMeta : Tensor
  blockKv : Nat
  numSms : Nat

structure PagedMqaLogitsConfig where
  maxContextLen : Nat
  cleanLogits : Bool
  logitsDtype : CandleDType

/-- `PagedMqaLogitsConfig::new`. -/
def PagedMqaLogitsConfig.new (maxContextLen : Nat) : PagedMqaLogitsConfig where
  maxContextLen
  cleanLogits := false
  logitsDtype := .f32

structure PagedTensors where
  q : Tensor
  qScale : Option Tensor
  fusedKvCache : Tensor
  weights : Tensor
  contextLens : Tensor
  blockTable : Tensor
  indices : Option Tensor

/-- The device check of an argument, when there is one. -/
def ensureSameDeviceIfAny (reference : Tensor) (t : Option Tensor) (name : String) : Result Unit :=
  match t with
  | some t => ensureSameDevice reference t name
  | none => .ok ()

/-- The checks of `indices`, when there are any. -/
def ensureIndices (indices : Option Tensor) : Result Unit :=
  match indices with
  | some indices => do
    ensureRank indices 1 "indices"
    ensureDtype indices .i32 "indices"
  | none => .ok ()

/-- The spec of `indices`, when there are any. -/
def indicesSpec : Option Tensor → Result (Option (TensorSpec 1))
  | some indices => do
    let spec ← tensorSpec 1 indices .i32 "indices"
    .ok (some spec)
  | none => .ok none

/-- The argument of the launch for `indices`: there is one when there are both a pointer and a spec. -/
def indicesArg (indices : Option Tensor) (spec : Option (TensorSpec 1)) : Result (Option (TensorArg 1)) :=
  match indices with
  | some indices => do
    let data ← tensorPtrByDtype indices .i32 "indices"
    .ok (spec.map fun spec => ⟨data, spec⟩)
  | none => .ok none

/-! ## The plan -/

def pagedMetadataSpec (runtime : Runtime) (contextLens : Tensor) (indices : Option Tensor) (blockKv : Nat) :
    Result Crate.PagedMqaLogitsMetadataSpec := do
  ensureRank contextLens 2 "context_lens"
  ensureDtype contextLens .i32 "context_lens"
  ensureIndices indices
  let numSms ← ofRust (Crate.numSms runtime)
  throwIf (numSms < 0) (invalidArg "num_sms overflow")
  let contextLens ← tensorSpec 2 contextLens .i32 "context_lens"
  let indices ← indicesSpec indices
  .ok { contextLens, indices, blockKv, numSms := numSms.toNat }

def pagedMqaLogitsPlan (api : Api) (runtime : Runtime) (contextLens : Tensor) (indices : Option Tensor)
    (blockKv : Nat) : Result (PagedMqaLogitsPlan × Raw.Launch) := do
  ensureSameDeviceIfAny contextLens indices "indices"
  let spec ← pagedMetadataSpec runtime contextLens indices blockKv
  let (stream, deviceId) ← streamAndDeviceId contextLens
  let info ← ensureCurrentDevice runtime deviceId "context_lens"
  let arch ← ofRust info.arch
  let layout ← ofRust (Crate.pagedMqaLogitsMetadataLayout spec arch)
  let scheduleMeta ← ofCandle (api.zeros (layout.allocationShape 0) (layout.allocationShape 1) .i32
    contextLens.device)
  let contextPtr ← tensorPtrByDtype contextLens .i32 "context_lens"
  let indices ← indicesArg indices spec.indices
  let schedulePtr ← tensorPtrByDtype scheduleMeta .i32 "schedule_meta"
  let launch ← ofRust (Crate.pagedMqaLogitsMetadata runtime {
    contextLens := ⟨contextPtr, spec.contextLens⟩
    indices
    scheduleMeta := ⟨schedulePtr, layout.logicalSpec⟩
    blockKv
    numSms := spec.numSms
    stream })
  .ok (⟨scheduleMeta, blockKv, spec.numSms⟩, launch)

/-! ## The logits -/

def validatePagedDevices (input : PagedTensors) (scheduleMeta : Tensor) : Result Unit := do
  ensureSameDevice input.q input.fusedKvCache "fused_kv_cache"
  ensureSameDevice input.q input.weights "weights"
  ensureSameDevice input.q input.contextLens "context_lens"
  ensureSameDevice input.q input.blockTable "block_table"
  ensureSameDevice input.q scheduleMeta "schedule_meta"
  ensureSameDeviceIfAny input.q input.qScale "q_scale"
  ensureSameDeviceIfAny input.q input.indices "indices"

/-- `block_kv` of the cache has to be that of the plan. -/
def checkPlan (input : PagedTensors) (plan : PagedMqaLogitsPlan) : Result Unit :=
  match input.fusedKvCache.dims[1]? with
  | some blockKv => throwIf (plan.blockKv ≠ blockKv)
      (invalidArg s!"plan block_kv {plan.blockKv} does not match fused_kv_cache block_kv {blockKv}")
  | none => .error (invalidArg "fused_kv_cache must have rank 4")

def pagedMqaLogitsSpec (input : PagedTensors) (scheduleMeta : Tensor) (config : PagedMqaLogitsConfig)
    (numSms : Nat) : Result Crate.PagedMqaLogitsSpec := do
  let isFp4 := input.qScale.isSome
  ensureRank input.q 4 "q"
  ensureRank input.fusedKvCache 4 "fused_kv_cache"
  ensureRank input.weights 2 "weights"
  ensureRank input.contextLens 2 "context_lens"
  ensureRank input.blockTable 2 "block_table"
  ensureRank scheduleMeta 2 "schedule_meta"
  ensureDtype input.q (storageDtype isFp4) "q"
  ensureQScale input.qScale 3
  ensureDtype input.fusedKvCache .u8 "fused_kv_cache"
  ensureDtype input.contextLens .i32 "context_lens"
  ensureDtype input.blockTable .i32 "block_table"
  ensureDtype scheduleMeta .i32 "schedule_meta"
  ensureIndices input.indices
  let q ← tensorSpec 4 input.q (Crate.elementDtype isFp4) "q"
  let qScale ← qScaleSpec 3 input.qScale
  let fusedKvCache ← tensorSpec 4 input.fusedKvCache .u8 "fused_kv_cache"
  let weightsDtype ← candleToDeepgemmDtype input.weights.dtype "weights"
  let weights ← tensorSpec 2 input.weights weightsDtype "weights"
  let contextLens ← tensorSpec 2 input.contextLens .i32 "context_lens"
  let blockTable ← tensorSpec 2 input.blockTable .i32 "block_table"
  let scheduleMeta ← tensorSpec 2 scheduleMeta .i32 "schedule_meta"
  let indices ← indicesSpec input.indices
  let logitsDtype ← candleToLogitsDtype config.logitsDtype
  .ok {
    q, qScale, fusedKvCache, weights, contextLens, blockTable, scheduleMeta, indices
    maxContextLen := config.maxContextLen, cleanLogits := config.cleanLogits, logitsDtype, numSms }

/-- `fp8_fp4_paged_mqa_logits` up to the launch: the logits it will return, and the launch. -/
def pagedMqaLogitsLaunch (api : Api) (runtime : Runtime) (input : PagedTensors) (plan : PagedMqaLogitsPlan)
    (config : PagedMqaLogitsConfig) : Result (Tensor × TensorLayout2D × Crate.PagedMqaLogitsLaunch) := do
  validatePagedDevices input plan.scheduleMeta
  checkPlan input plan
  let spec ← pagedMqaLogitsSpec input plan.scheduleMeta config plan.numSms
  let (stream, deviceId) ← streamAndDeviceId input.q
  let info ← ensureCurrentDevice runtime deviceId "q"
  let arch ← ofRust info.arch
  let layout ← ofRust (Crate.pagedMqaLogitsLayout spec arch)
  let allocation ← ofCandle (api.zeros (layout.allocationShape 0) (layout.allocationShape 1) config.logitsDtype
    input.q.device)
  let logits ← ofCandle (api.narrow allocation 1 0 (layout.logicalShape 1))
  let q ← tensorPtrByDtype input.q (storageDtype input.qScale.isSome) "q"
  let qScale ← qScaleArg input.qScale spec.qScale
  let fusedKvCache ← tensorPtrByDtype input.fusedKvCache .u8 "fused_kv_cache"
  let weights ← tensorPtrByDtype input.weights input.weights.dtype "weights"
  let contextLens ← tensorPtrByDtype input.contextLens .i32 "context_lens"
  let blockTable ← tensorPtrByDtype input.blockTable .i32 "block_table"
  let scheduleMeta ← tensorPtrByDtype plan.scheduleMeta .i32 "schedule_meta"
  let indices ← indicesArg input.indices spec.indices
  let data ← tensorPtrByDtype logits config.logitsDtype "logits"
  .ok (logits, layout, {
    q := ⟨q, spec.q⟩
    qScale
    fusedKvCache := ⟨fusedKvCache, spec.fusedKvCache⟩
    weights := ⟨weights, spec.weights⟩
    contextLens := ⟨contextLens, spec.contextLens⟩
    blockTable := ⟨blockTable, spec.blockTable⟩
    scheduleMeta := ⟨scheduleMeta, spec.scheduleMeta⟩
    indices
    logits := ⟨data, layout.logicalSpec⟩
    maxContextLen := config.maxContextLen
    cleanLogits := config.cleanLogits
    stream
    numSms := plan.numSms })

def fp8Fp4PagedMqaLogits (api : Api) (runtime : Runtime) (input : PagedTensors) (plan : PagedMqaLogitsPlan)
    (config : PagedMqaLogitsConfig) : Result (Tensor × Raw.Launch) := do
  let (logits, _, params) ← pagedMqaLogitsLaunch api runtime input plan config
  let launch ← ofRust (Crate.fp8Fp4PagedMqaLogits runtime params)
  .ok (logits, launch)

end DeepGemmRs.Candle
