import DeepGemmRs.Candle.Tensor
import DeepGemmRs.Refine.Mqa

/-!
# MQA logits of candle tensors

`candle-deepgemm/src/mqa.rs`, the contiguous MQA.

* `MqaTensors`, `MqaLogitsConfig` : the arguments;
* `mqaLogitsSpec` : the checks and the spec of the arguments;
* `mqaLogitsLaunch` : the logits view and the launch that fills it;
* `fp8Fp4MqaLogits` : the function;
* `logits_view_iff` : the view it returns has the shape and strides of the layout it launched with
  exactly when no row was padded.
-/

namespace DeepGemmRs.Candle

open Checked MachineInt Rounding

structure MqaLogitsConfig where
  cleanLogits : Bool
  maxSeqlenK : Nat
  logitsDtype : CandleDType

structure MqaTensors where
  q : Tensor
  qScale : Option Tensor
  kv : Tensor
  kvScale : Tensor
  weights : Tensor
  cuSeqLenKStart : Tensor
  cuSeqLenKEnd : Tensor

def validateCommonDevices (input : MqaTensors) : Result Unit := do
  ensureSameDevice input.q input.kv "kv"
  ensureSameDevice input.q input.kvScale "kv_scale"
  ensureSameDevice input.q input.weights "weights"
  ensureSameDevice input.q input.cuSeqLenKStart "cu_seq_len_k_start"
  ensureSameDevice input.q input.cuSeqLenKEnd "cu_seq_len_k_end"
  match input.qScale with
  | some qScale => ensureSameDevice input.q qScale "q_scale"
  | none => .ok ()

def candleToLogitsDtype : CandleDType → Result DType
  | .f32 => .ok .f32
  | .bf16 => .ok .bf16
  | dtype => .error (invalidArg s!"logits_dtype must be F32 or BF16, got {dtype.debug}")

def candleToDeepgemmDtype (dtype : CandleDType) (name : String) : Result DType :=
  match dtype with
  | .f32 => .ok .f32
  | .bf16 => .ok .bf16
  | .i32 => .ok .i32
  | .u8 => .ok .u8
  | .f8E4M3 => .ok .fp8E4M3
  | dtype => .error (invalidArg s!"{name} has unsupported dtype {dtype.debug}")

/-- The candle dtype of `q` and `kv`. -/
def storageDtype (isFp4 : Bool) : CandleDType := if isFp4 then .u8 else .f8E4M3

/-- The candle dtype of `kv_scale`. -/
def scaleDtype (isFp4 : Bool) : CandleDType := if isFp4 then .i32 else .f32

/-- The checks of `q_scale`, when there is one. -/
def ensureQScale (qScale : Option Tensor) (rank : Nat) : Result Unit :=
  match qScale with
  | some qScale => do
    ensureRank qScale rank "q_scale"
    ensureDtype qScale .i32 "q_scale"
  | none => .ok ()

/-- The spec of `q_scale`, when there is one. -/
def qScaleSpec (rank : Nat) : Option Tensor → Result (Option (TensorSpec rank))
  | some qScale => do
    let spec ← tensorSpec rank qScale .packedUe8M0 "q_scale"
    .ok (some spec)
  | none => .ok none

def mqaLogitsSpec (input : MqaTensors) (config : MqaLogitsConfig) : Result Crate.MqaLogitsSpec := do
  let isFp4 := input.qScale.isSome
  ensureRank input.q 3 "q"
  ensureRank input.kv 2 "kv"
  ensureRank input.kvScale 1 "kv_scale"
  ensureRank input.weights 2 "weights"
  ensureRank input.cuSeqLenKStart 1 "cu_seq_len_k_start"
  ensureRank input.cuSeqLenKEnd 1 "cu_seq_len_k_end"
  ensureDtype input.q (storageDtype isFp4) "q"
  ensureDtype input.kv (storageDtype isFp4) "kv"
  ensureDtype input.kvScale (scaleDtype isFp4) "kv_scale"
  ensureQScale input.qScale 2
  ensureDtype input.cuSeqLenKStart .i32 "cu_seq_len_k_start"
  ensureDtype input.cuSeqLenKEnd .i32 "cu_seq_len_k_end"
  let q ← tensorSpec 3 input.q (Crate.elementDtype isFp4) "q"
  let qScale ← qScaleSpec 2 input.qScale
  let kv ← tensorSpec 2 input.kv (Crate.elementDtype isFp4) "kv"
  let kvScale ← tensorSpec 1 input.kvScale (if isFp4 then .packedUe8M0 else .f32) "kv_scale"
  let weightsDtype ← candleToDeepgemmDtype input.weights.dtype "weights"
  let weights ← tensorSpec 2 input.weights weightsDtype "weights"
  let cuSeqLenKStart ← tensorSpec 1 input.cuSeqLenKStart .i32 "cu_seq_len_k_start"
  let cuSeqLenKEnd ← tensorSpec 1 input.cuSeqLenKEnd .i32 "cu_seq_len_k_end"
  let logitsDtype ← candleToLogitsDtype config.logitsDtype
  .ok {
    q, qScale, kv, kvScale, weights, cuSeqLenKStart, cuSeqLenKEnd
    cleanLogits := config.cleanLogits, maxSeqlenK := config.maxSeqlenK, logitsDtype }

/-- The argument of the launch for `q_scale`: there is one when there are both a pointer and a spec. -/
def qScaleArg {rank : Nat} (qScale : Option Tensor) (spec : Option (TensorSpec rank)) :
    Result (Option (TensorArg rank)) :=
  match qScale with
  | some qScale => do
    let data ← tensorPtrByDtype qScale .i32 "q_scale"
    .ok (spec.map fun spec => ⟨data, spec⟩)
  | none => .ok none

/-- `fp8_fp4_mqa_logits` up to the launch: the logits it will return, and the launch. -/
def mqaLogitsLaunch (api : Api) (runtime : Runtime) (input : MqaTensors) (config : MqaLogitsConfig) :
    Result (Tensor × TensorLayout2D × Crate.MqaLogitsLaunch) := do
  validateCommonDevices input
  let isFp4 := input.qScale.isSome
  let spec ← mqaLogitsSpec input config
  let (stream, deviceId) ← streamAndDeviceId input.q
  let info ← ensureCurrentDevice runtime deviceId "q"
  let arch ← ofRust info.arch
  let layout ← ofRust (Crate.mqaLogitsLayout spec arch)
  let allocation ← ofCandle (api.zeros (layout.allocationShape 0) (layout.allocationShape 1) config.logitsDtype
    input.q.device)
  let logits ← ofCandle (api.narrow allocation 1 0 (layout.logicalShape 1))
  let q ← tensorPtrByDtype input.q (storageDtype isFp4) "q"
  let qScale ← qScaleArg input.qScale spec.qScale
  let kv ← tensorPtrByDtype input.kv (storageDtype isFp4) "kv"
  let kvScale ← tensorPtrByDtype input.kvScale (scaleDtype isFp4) "kv_scale"
  let weights ← tensorPtrByDtype input.weights input.weights.dtype "weights"
  let start ← tensorPtrByDtype input.cuSeqLenKStart .i32 "cu_seq_len_k_start"
  let stop ← tensorPtrByDtype input.cuSeqLenKEnd .i32 "cu_seq_len_k_end"
  let data ← tensorPtrByDtype logits config.logitsDtype "logits"
  .ok (logits, layout, {
    q := ⟨q, spec.q⟩
    qScale
    kv := ⟨kv, spec.kv⟩
    kvScale := ⟨kvScale, spec.kvScale⟩
    weights := ⟨weights, spec.weights⟩
    cuSeqLenKStart := ⟨start, spec.cuSeqLenKStart⟩
    cuSeqLenKEnd := ⟨stop, spec.cuSeqLenKEnd⟩
    logits := ⟨data, layout.logicalSpec⟩
    cleanLogits := config.cleanLogits
    maxSeqlenK := config.maxSeqlenK
    stream })

def fp8Fp4MqaLogits (api : Api) (runtime : Runtime) (input : MqaTensors) (config : MqaLogitsConfig) :
    Result Tensor := do
  let (logits, _, launch) ← mqaLogitsLaunch api runtime input config
  let _ ← ofRust (Crate.fp8Fp4MqaLogits runtime launch)
  .ok logits

/-! ## The view it returns -/

variable {api : Api} {runtime : Runtime} {input : MqaTensors} {config : MqaLogitsConfig} {t : Tensor}

def MqaTensors.seqLen (input : MqaTensors) : Nat := input.q.dims.getD 0 0

def MqaTensors.numHeads (input : MqaTensors) : Nat := input.q.dims.getD 1 0

def MqaTensors.seqLenKv (input : MqaTensors) : Nat := input.kv.dims.getD 0 0

/-- The columns the caller asked for. -/
def logitsCols (input : MqaTensors) (config : MqaLogitsConfig) : Nat :=
  if config.maxSeqlenK = 0 then input.seqLenKv else config.maxSeqlenK

/-- The shape and strides of `layout.logical_spec()`. -/
structure IsLogicalView (layout : TensorLayout2D) (t : Tensor) : Prop where
  dims : t.dims = [layout.logicalSpec.shape 0, layout.logicalSpec.shape 1]
  stride : t.stride.map Int.ofNat = [(layout.logicalSpec.strides 0).val, (layout.logicalSpec.strides 1).val]

/-- The spec has the extents of the tensors. -/
structure SpecOfTensors (input : MqaTensors) (config : MqaLogitsConfig) (spec : Crate.MqaLogitsSpec) : Prop where
  seqLen : spec.q.shape 0 = input.seqLen
  numHeads : spec.q.shape 1 = input.numHeads
  seqLenKv : spec.kv.shape 0 = input.seqLenKv
  maxSeqlenK : spec.maxSeqlenK = config.maxSeqlenK

theorem SpecOf.shape {dtype : DType} {rank : Nat} {spec : TensorSpec rank} (h : SpecOf t dtype spec)
    (i : Fin rank) : spec.shape i = t.dims.getD i 0 := by
  have hi : i.val < t.axes.length := h.rankEq.symm ▸ i.isLt
  simp [Tensor.dims, List.getD_eq_getElem?_getD, hi, (h.axes i hi).1]

theorem mqaLogitsSpec_extents {spec : Crate.MqaLogitsSpec} (h : mqaLogitsSpec input config = .ok spec) :
    SpecOfTensors input config spec := by
  simp only [mqaLogitsSpec, bind_eq_ok, tensorSpec_eq_ok, Except.ok.injEq] at h
  obtain ⟨_, -, _, -, _, -, _, -, _, -, _, -, _, -, _, -, _, -, _, -, _, -, _, -, q, hq, _, -, kv, hkv, _, -, _, -,
    _, -, _, -, _, -, _, -, rfl⟩ := h
  exact ⟨hq.shape 0, hq.shape 1, hkv.shape 0, rfl⟩

/-- The rows of the view are those of the allocation, its columns those of the layout. -/
theorem mqaLogitsLaunch_view {layout : TensorLayout2D} {launch : Crate.MqaLogitsLaunch}
    (h : mqaLogitsLaunch api runtime input config = .ok (t, layout, launch)) :
    t.axes = [⟨layout.allocationShape 0, layout.allocationShape 1⟩, ⟨layout.logicalShape 1, 1⟩] ∧
      ∃ spec arch, SpecOfTensors input config spec ∧ Crate.mqaLogitsLayout spec arch = .ok layout := by
  simp only [mqaLogitsLaunch, bind_eq_ok, ofRust_eq_ok, ofCandle_eq_ok, Except.ok.injEq, Prod.mk.injEq] at h
  obtain ⟨_, -, spec, hspec, _, -, info, -, arch, -, layout', hlayout, alloc, hzeros, logits, hnarrow, _, -, _, -,
    _, -, _, -, _, -, _, -, _, -, _, -, rfl, rfl, -⟩ := h
  refine ⟨?_, spec, arch, mqaLogitsSpec_extents hspec, hlayout⟩
  rw [api.narrow_layout _ _ _ _ hnarrow, (api.zeros_layout _ _ _ _ _ hzeros).1]
  rfl

/-- **The view returned is the logical one exactly when no row was padded.** -/
theorem logits_view_iff (h : fp8Fp4MqaLogits api runtime input config = .ok t) :
    ∃ layout launch, mqaLogitsLaunch api runtime input config = .ok (t, layout, launch) ∧
      (t.dims = [input.seqLen, logitsCols input config] ∧ IsLogicalView layout t ↔
        128 / input.numHeads ∣ input.seqLen) := by
  simp only [fp8Fp4MqaLogits, bind_eq_ok, Except.ok.injEq] at h
  obtain ⟨⟨logits, layout, launch⟩, hlaunch, _, -, rfl⟩ := h
  refine ⟨layout, launch, hlaunch, ?_⟩
  obtain ⟨haxes, spec, arch, hspec, hlayout⟩ := mqaLogitsLaunch_view hlaunch
  obtain ⟨p, hp, ha, himg⟩ := Refine.mqaLogitsLayout_image hlayout
  have hout := (Refine.output_of_layoutImage hp ha himg).2
  have hrows : (layout.allocationShape 0 : Int) = alignUp p.seqLen p.blockQ := himg.allocationShape 0
  have hcols : (layout.allocationShape 1 : Int) = (layout.strides 0).val :=
    (himg.allocationShape 1).trans (himg.strides 0).symm
  have hone : (layout.strides 1).val = 1 := hout.colStride
  have hseq : layout.logicalShape 0 = input.seqLen := hout.rows.trans hspec.seqLen
  have hlen : layout.logicalShape 1 = logitsCols input config := by
    rw [logitsCols, ← hspec.maxSeqlenK, ← hspec.seqLenKv]
    exact hout.cols
  have hblock : p.blockQ = (128 / input.numHeads : Nat) := by
    rw [CApi.MqaLogitsLayoutParams.blockQ, hp.numHeads, hspec.numHeads]
    rfl
  -- the rows are the aligned ones, so they are the logical ones when there was nothing to align
  have hview : layout.allocationShape 0 = input.seqLen ↔ 128 / input.numHeads ∣ input.seqLen := by
    rw [← Int.natCast_inj, hrows, hp.seqLen, hspec.seqLen,
      alignUp_eq_self_iff (CApi.MqaLogitsLayoutParams.blockQ_pos ha.numHeads ha.divides), hblock, Int.natCast_dvd_natCast]
  rw [← hview]
  refine ⟨?_, fun hrow => ⟨?_, ?_, ?_⟩⟩
  · rintro ⟨hd, -⟩
    simp only [Tensor.dims, haxes, List.map_cons, List.cons.injEq] at hd
    exact hd.1
  · simp [Tensor.dims, haxes, hrow, hlen]
  · simp [Tensor.dims, haxes, hrow, TensorLayout2D.logicalSpec, hseq]
  · simp [Tensor.stride, haxes, TensorLayout2D.logicalSpec, hcols, hone]

/-! ## Two runs on an H100 -/

/-- A contiguous tensor on the first device, with memory. -/
def onDevice (dims : List Nat) (dtype : CandleDType) : Tensor where
  dtype
  axes := rowMajorAxes dims
  startOffset := 0
  device := .cuda 0 0 0
  storage := 4096

/-- Tokens of 32 heads over two positions. -/
def hopperTensors (seqLen : Nat) : MqaTensors where
  q := onDevice [seqLen, 32, 32] .f8E4M3
  qScale := none
  kv := onDevice [2, 32] .f8E4M3
  kvScale := onDevice [2] .f32
  weights := onDevice [seqLen, 32] .f32
  cuSeqLenKStart := onDevice [seqLen] .i32
  cuSeqLenKEnd := onDevice [seqLen] .i32

def hopper : Runtime := ⟨.ok h100, 0, false⟩

def fullLogits : MqaLogitsConfig := ⟨true, 0, .f32⟩

/-- Four tokens fill a block of rows. -/
theorem fourTokens_view : ∃ t layout launch,
    mqaLogitsLaunch (.memoryAt 8192) hopper (hopperTensors 4) fullLogits = .ok (t, layout, launch) ∧
      (t.dims = [4, 2] ∧ IsLogicalView layout t ↔ 128 / 32 ∣ 4) :=
  have h : fp8Fp4MqaLogits (.memoryAt 8192) hopper (hopperTensors 4) fullLogits =
      .ok ⟨.f32, [⟨4, 512⟩, ⟨2, 1⟩], 0, .cuda 0 0 0, 8192⟩ := by decide +kernel
  ⟨_, logits_view_iff h⟩

/-- One token gets the four rows of its block. -/
theorem oneToken_view_padded : ∃ t layout launch,
    fp8Fp4MqaLogits (.memoryAt 8192) hopper (hopperTensors 1) fullLogits = .ok t ∧
      mqaLogitsLaunch (.memoryAt 8192) hopper (hopperTensors 1) fullLogits = .ok (t, layout, launch) ∧
      t.dims = [4, 2] ∧ layout.logicalSpec.shape 0 = 1 ∧ ¬ IsLogicalView layout t :=
  ⟨_, _, _, rfl, rfl, rfl, rfl, fun h => absurd h.dims (by decide)⟩

end DeepGemmRs.Candle
