import DeepGemmRs.Abi.Device
import DeepGemmRs.Lib.Arith
import DeepGemmRs.Raw.Checks

/-!
# The native MQA entry points

`deepgemm_raw_mqa.cc`, from the entry point to the call of an architecture's launch function.

* `MqaLogitsParams`, `PagedMqaLogitsMetadataParams`, `PagedMqaLogitsParams` : what the C ABI passes;
* `mqaLogitsStride`, `pagedLogitsStride`, `requireLogitsOutput` : the logits the launchers expect;
* `dispatchMqaLogits`, `dispatchPagedMqaLogitsMetadata`, `dispatchPagedMqaLogits` :
  `launch_fp8_fp4_mqa_logits`, `launch_paged_mqa_logits_metadata` and
  `launch_fp8_fp4_paged_mqa_logits` up to the launch function they choose, with its arguments.
-/

namespace DeepGemmRs.Raw

open Checked MachineInt

/-- `deepgemm_mqa_logits_params_t`. -/
structure MqaLogitsParams where
  q : RawTensor
  hasQScale : Bool
  qScale : RawTensor
  kv : RawTensor
  kvScale : RawTensor
  weights : RawTensor
  cuSeqLenKStart : RawTensor
  cuSeqLenKEnd : RawTensor
  logits : RawTensor
  cleanLogits : Bool
  maxSeqlenK : I64
  stream : Ptr

/-- `deepgemm_paged_mqa_logits_metadata_params_t`. -/
structure PagedMqaLogitsMetadataParams where
  contextLens : RawTensor
  hasIndices : Bool
  indices : RawTensor
  scheduleMeta : RawTensor
  blockKv : I64
  numSms : I64
  stream : Ptr

/-- `deepgemm_paged_mqa_logits_params_t`. -/
structure PagedMqaLogitsParams where
  q : RawTensor
  hasQScale : Bool
  qScale : RawTensor
  fusedKvCache : RawTensor
  weights : RawTensor
  contextLens : RawTensor
  blockTable : RawTensor
  scheduleMeta : RawTensor
  hasIndices : Bool
  indices : RawTensor
  logits : RawTensor
  maxContextLen : I64
  numSms : I64
  cleanLogits : Bool
  stream : Ptr

/-! ## Checks and strides -/

def alignI64OrThrow (A : Arith Stop) (value alignment : Int) (name : String) : Native Int := do
  throwIf (value < 0 ∨ alignment ≤ 0) (.invalid s!"{name} cannot be aligned")
  let remainder ← A.rem i64 value alignment
  if remainder = 0 then .ok value else do
    let delta ← A.sub i64 alignment remainder
    A.add i64 value delta

def alignI64 (A : Arith Stop) (value alignment : Int) : Native Int := alignI64OrThrow A value alignment "value"

def mqaLogitsStride (seqLenKv maxSeqlenK blockKv : Int) (dtype : DTypeCode) : Native Int := do
  let elemSize := dtypeElementSize dtype
  throwIf (elemSize ≤ 0) (.invalid "invalid logits dtype")
  let strideAlignment ← i64.div 1024 elemSize
  if maxSeqlenK = 0 then do
    let padded ← i64.add seqLenKv blockKv
    alignI64 .machine padded strideAlignment
  else do
    let aligned ← alignI64 .machine maxSeqlenK blockKv
    alignI64 .machine aligned strideAlignment

def pagedLogitsStride (maxContextLen : Int) (dtype : DTypeCode) : Native Int := do
  let elemSize := dtypeElementSize dtype
  throwIf (elemSize ≤ 0) (.invalid "invalid logits dtype")
  let splitKv : Int := 256
  let strideAlignment ← i64.div 1024 elemSize
  let aligned ← alignI64 .machine maxContextLen splitKv
  alignI64 .machine aligned strideAlignment

/-- Two FP4 values share a byte of `q`. -/
def logicalHeadDim (isFp4 : Bool) (physicalHeadDim : Int) : Native Int :=
  if isFp4 then i64.mul physicalHeadDim 2 else .ok physicalHeadDim

/-- The bytes of `head_dim` values of `kv`. -/
def packedHeadDim (isFp4 : Bool) (headDim : Int) : Native Int :=
  if isFp4 then i64.div headDim 2 else .ok headDim

def requireContiguous2DI32 (tensor : RawTensor) (name : String) : Native Unit := do
  requireTensorRank tensor 2 name
  requireDtype tensor.dtype DTypeCode.i32 name
  throwIf ((tensor.shape 0).val ≤ 0 ∨ (tensor.shape 1).val ≤ 0 ∨
      (tensor.stride 0).val ≠ tensor.shape 1 ∨ (tensor.stride 1).val ≠ 1)
    (.invalid s!"{name} must be contiguous i32 [rows, cols]")

def requireContiguous1DI32 (tensor : RawTensor) (expectedLen : Int) (name : String) : Native Unit := do
  requireTensorRank tensor 1 name
  requireDtype tensor.dtype DTypeCode.i32 name
  throwIf ((tensor.shape 0).val ≠ expectedLen ∨ (tensor.stride 0).val ≠ 1)
    (.invalid s!"{name} must be contiguous i32 [{expectedLen}]")

def requireI32Vector (tensor : RawTensor) (expectedLen : Int) (name : String) : Native Unit :=
  requireContiguous1DI32 tensor expectedLen name

def requireLogitsDtype (dtype : DTypeCode) : Native Unit :=
  throwIf (dtype ≠ DTypeCode.f32 ∧ dtype ≠ DTypeCode.bf16) (.invalid "logits dtype must be f32 or bf16")

def requireLogitsOutput (logits : RawTensor) (rows cols stride : Int) (name : String) : Native Unit := do
  requireTensorRank logits 2 name
  requireLogitsDtype logits.dtype
  throwIf ((logits.shape 0).val ≠ rows ∨ (logits.shape 1).val ≠ cols ∨
      (logits.stride 0).val ≠ stride ∨ (logits.stride 1).val ≠ 1)
    (.invalid s!"{name} must have shape [{rows}, {cols}] and strides [{stride}, 1]")

def requireScheduleMeta (tensor : RawTensor) (numSms : Int) : Native Unit := do
  requireTensorRank tensor 2 "schedule_meta"
  requireDtype tensor.dtype DTypeCode.i32 "schedule_meta"
  let rows ← i64.add numSms 1
  throwIf ((tensor.shape 0).val ≠ rows ∨ (tensor.shape 1).val ≠ 2 ∨
      (tensor.stride 0).val ≠ 2 ∨ (tensor.stride 1).val ≠ 1)
    (.invalid s!"schedule_meta must be contiguous i32 [{rows}, 2]")

/-- The varlen indices, when there are any. -/
def requireIndices (isVarlen : Bool) (indices : RawTensor) (batchSize : Int) : Native Unit :=
  if isVarlen then requireContiguous1DI32 indices batchSize "indices" else .ok ()

/-- The checks of both SM90 launches that close the entry point. -/
def requireSm90Shape (numHeads headDim : Int) (kernel : String) : Native Unit :=
  throwIf ((numHeads ≠ 32 ∧ numHeads ≠ 64) ∨ (headDim ≠ 32 ∧ headDim ≠ 64 ∧ headDim ≠ 128))
    (.invalid s!"unsupported SM90 {kernel} shape")

/-- The checks of both SM100 launches that close the entry point. -/
def requireSm100Shape (isFp4 : Bool) (numHeads headDim : Int) (kernel : String) : Native Unit := do
  throwIf (numHeads ≠ 8 ∧ numHeads ≠ 16 ∧ numHeads ≠ 32 ∧ numHeads ≠ 64)
    (.invalid s!"SM100 {kernel} require 8, 16, 32, or 64 heads")
  if isFp4 then
    throwIf (headDim ≠ 64 ∧ headDim ≠ 128) (.invalid s!"SM100 FP4 {kernel} require head_dim 64 or 128")
  else
    throwIf (headDim ≠ 32 ∧ headDim ≠ 64 ∧ headDim ≠ 128)
      (.invalid s!"SM100 FP8 {kernel} require head_dim 32, 64, or 128")

/-! ## `launch_fp8_fp4_mqa_logits` -/

/-- The arguments of `launch_sm90_fp8_mqa_logits` and `launch_sm100_mqa_logits`, the number of SMs
apart. -/
structure MqaArgs where
  seqLen : Int
  seqLenKv : Int
  numHeads : Int
  headDim : Int
  blockQ : Int
  blockKv : Int
  strideLogits : Int

inductive MqaDispatch where
  | sm90 (args : MqaArgs)
  | sm100 (isFp4 : Bool) (args : MqaArgs)

/-- The dtypes of an element format, and the FP4 scales of `q`. -/
def requireMqaFormat (params : MqaLogitsParams) (seqLen64 numHeads64 : Int) : Native Unit :=
  if params.hasQScale then do
    requireDtype params.q.dtype DTypeCode.packedFp4E2M1 "q"
    requireDtype params.kv.dtype DTypeCode.packedFp4E2M1 "kv"
    requireContiguous params.qScale 2 "q_scale"
    requireDtype params.qScale.dtype DTypeCode.packedUe8M0 "q_scale"
    throwIf ((params.qScale.shape 0).val ≠ seqLen64 ∨ (params.qScale.shape 1).val ≠ numHeads64)
      (.invalid "q_scale shape must be [seq_len, num_heads]")
    requireDtype params.kvScale.dtype DTypeCode.packedUe8M0 "kv_scale"
  else do
    requireDtype params.q.dtype DTypeCode.fp8E4M3 "q"
    requireDtype params.kv.dtype DTypeCode.fp8E4M3 "kv"
    requireDtype params.kvScale.dtype DTypeCode.f32 "kv_scale"

/-- The dispatch on the architecture, which repeats its own conditions. -/
def selectMqa (device : DeviceInfo) (params : MqaLogitsParams) (args : MqaArgs) : Native MqaDispatch :=
  let isFp4 := params.hasQScale
  if device.major = 9 then do
    throwIf isFp4 (.unsupported "FP4 MQA logits require SM100")
    throwIf (params.weights.dtype ≠ DTypeCode.f32) (.invalid "SM90 MQA logits require f32 weights")
    requireSm90Shape args.numHeads args.headDim "MQA logits"
    .ok (.sm90 args)
  else if device.major = 10 then do
    throwIf (params.weights.dtype = DTypeCode.bf16 ∧ params.logits.dtype ≠ DTypeCode.bf16)
      (.invalid "bf16 weights require bf16 logits")
    requireSm100Shape isFp4 args.numHeads args.headDim "MQA logits"
    .ok (.sm100 isFp4 args)
  else
    .error (.unsupported
      s!"MQA logits supports SM90 or SM100, got compute capability {device.major}.{device.minor}")

def dispatchMqaLogits (device : DeviceInfo) (params : MqaLogitsParams) : Native MqaDispatch := do
  let isFp4 := params.hasQScale
  requireContiguous params.q 3 "q"
  requireContiguous params.kv 2 "kv"
  let seqLen64 := (params.q.shape 0).val
  let numHeads64 := (params.q.shape 1).val
  let physicalHeadDim64 := (params.q.shape 2).val
  let headDim64 ← logicalHeadDim isFp4 physicalHeadDim64
  let seqLenKv64 := (params.kv.shape 0).val
  let kvHeadDim ← packedHeadDim isFp4 headDim64
  throwIf ((params.kv.shape 1).val ≠ kvHeadDim) (.invalid "kv head dimension does not match q")
  requireMqaFormat params seqLen64 numHeads64
  requireContiguous params.kvScale 1 "kv_scale"
  throwIf ((params.kvScale.shape 0).val ≠ seqLenKv64) (.invalid "kv_scale shape must be [seq_len_kv]")
  requireTensorRank params.weights 2 "weights"
  requireShapePositive params.weights.shape 2 "weights"
  throwIf ((params.weights.shape 0).val ≠ seqLen64 ∨ (params.weights.shape 1).val ≠ numHeads64 ∨
      (params.weights.stride 1).val ≠ 1)
    (.invalid "weights must be [seq_len, num_heads] with stride(1) == 1")
  throwIf (params.weights.dtype ≠ DTypeCode.f32 ∧ params.weights.dtype ≠ DTypeCode.bf16)
    (.invalid "weights dtype must be f32 or bf16")
  requireI32Vector params.cuSeqLenKStart seqLen64 "cu_seq_len_k_start"
  requireI32Vector params.cuSeqLenKEnd seqLen64 "cu_seq_len_k_end"
  requireLogitsDtype params.logits.dtype
  throwIf (params.cleanLogits ∧ params.maxSeqlenK.val > 0)
    (.invalid "clean_logits is not supported with compressed logits")
  let seqLen ← asI32 seqLen64 "seq_len"
  let seqLenKv ← asI32 seqLenKv64 "seq_len_kv"
  let numHeads ← asI32 numHeads64 "num_heads"
  let headDim ← asI32 headDim64 "head_dim"
  let maxSeqlenK ← asI32 params.maxSeqlenK "max_seqlen_k"
  let blockQh : Int := 128
  let blockKv : Int := 256
  let remainder ← i32.rem blockQh numHeads
  throwIf (remainder ≠ 0) (.invalid "num_heads must divide 128")
  let blockQ ← i32.div blockQh numHeads
  let strideLogits ← mqaLogitsStride seqLenKv maxSeqlenK blockKv params.logits.dtype
  let logitsCols := if maxSeqlenK = 0 then seqLenKv64 else params.maxSeqlenK
  requireLogitsOutput params.logits seqLen64 logitsCols strideLogits "logits"
  selectMqa device params { seqLen, seqLenKv, numHeads, headDim, blockQ, blockKv, strideLogits }

/-! ## `launch_paged_mqa_logits_metadata` -/

inductive MetadataDispatch where
  | sm90 (batchSize nextN numSms : Int) (isVarlen : Bool)
  | sm100 (batchSize nextN numSms : Int) (isVarlen : Bool)

/-- The dispatch on the architecture, which repeats its own conditions. -/
def selectMetadata (device : DeviceInfo) (isVarlen : Bool) (batchSize nextN numSms blockKv : Int) :
    Native MetadataDispatch :=
  if device.major = 9 then do
    throwIf isVarlen (.unsupported "SM90 paged metadata does not support varlen indices")
    throwIf (blockKv ≠ 64) (.invalid "SM90 paged metadata requires block_kv == 64")
    .ok (.sm90 batchSize nextN numSms false)
  else if device.major = 10 then do
    throwIf (blockKv ≠ 32 ∧ blockKv ≠ 64) (.invalid "SM100 paged metadata requires block_kv == 32 or 64")
    throwIf (isVarlen ∧ nextN ≠ 1) (.invalid "SM100 varlen paged metadata requires next_n == 1")
    .ok (.sm100 batchSize nextN numSms isVarlen)
  else
    .error (.unsupported
      s!"paged MQA metadata supports SM90 or SM100, got compute capability {device.major}.{device.minor}")

def dispatchPagedMqaLogitsMetadata (device : DeviceInfo) (params : PagedMqaLogitsMetadataParams) :
    Native MetadataDispatch := do
  requireContiguous2DI32 params.contextLens "context_lens"
  let batchSize64 := (params.contextLens.shape 0).val
  let nextN64 := (params.contextLens.shape 1).val
  let numSms64 := params.numSms.val
  throwIf (numSms64 ≤ 0) (.invalid "num_sms must be positive")
  requireScheduleMeta params.scheduleMeta numSms64
  let isVarlen := params.hasIndices
  requireIndices isVarlen params.indices batchSize64
  let batchSize ← asI32 batchSize64 "batch_size"
  let nextN ← asI32 nextN64 "next_n"
  let numSms ← asI32 numSms64 "num_sms"
  let blockKv ← asI32 params.blockKv "block_kv"
  throwIf (numSms > device.numSms.val) (.invalid "num_sms exceeds current device SM count")
  selectMetadata device isVarlen batchSize nextN numSms blockKv

/-! ## `launch_fp8_fp4_paged_mqa_logits` -/

/-- The arguments of `launch_sm90_fp8_paged_mqa_logits` and `launch_sm100_paged_mqa_logits`. -/
structure PagedMqaArgs where
  batchSize : Int
  nextN : Int
  numHeads : Int
  headDim : Int
  numKvBlocks : Int
  blockKv : Int
  strideLogits : Int
  blockTableStride : Int
  numSms : Int

inductive PagedMqaDispatch where
  | sm90 (args : PagedMqaArgs)
  | sm100 (isFp4 : Bool) (args : PagedMqaArgs)

/-- The dtypes of an element format, and the FP4 scales of `q`. -/
def requirePagedFormat (params : PagedMqaLogitsParams) (batchSize64 nextN64 numHeads64 : Int) :
    Native Unit :=
  if params.hasQScale then do
    requireDtype params.q.dtype DTypeCode.packedFp4E2M1 "q"
    requireContiguous params.qScale 3 "q_scale"
    requireDtype params.qScale.dtype DTypeCode.packedUe8M0 "q_scale"
    throwIf ((params.qScale.shape 0).val ≠ batchSize64 ∨ (params.qScale.shape 1).val ≠ nextN64 ∨
        (params.qScale.shape 2).val ≠ numHeads64)
      (.invalid "q_scale shape must be [batch_size, next_n, num_heads]")
  else requireDtype params.q.dtype DTypeCode.fp8E4M3 "q"

/-- The fused cache: pages of `block_kv` tokens, each with its data and its scale. -/
def requireFusedKvCache (tensor : RawTensor) (kvBytesPerToken : Int) : Native Unit := do
  requireTensorRank tensor 4 "fused_kv_cache"
  requireDtype tensor.dtype DTypeCode.u8 "fused_kv_cache"
  requireShapePositive tensor.shape 4 "fused_kv_cache"
  let blockKv64 := (tensor.shape 1).val
  let fusedBytesPerToken ← i64.add kvBytesPerToken 4
  throwIf ((tensor.shape 2).val ≠ 1 ∨ (tensor.shape 3).val ≠ fusedBytesPerToken)
    (.invalid "fused_kv_cache shape must be [num_kv_blocks, block_kv, 1, packed_head_dim + 4]")
  let blockBytes ← i64.mul blockKv64 fusedBytesPerToken
  throwIf ((tensor.stride 0).val ≠ blockBytes ∨ (tensor.stride 1).val ≠ fusedBytesPerToken ∨
      (tensor.stride 2).val ≠ fusedBytesPerToken ∨ (tensor.stride 3).val ≠ 1)
    (.invalid "fused_kv_cache must be contiguous [num_kv_blocks, block_kv, 1, fused_bytes]")
  let misaligned ← i64.rem (tensor.stride 0) 4
  throwIf (misaligned ≠ 0) (.invalid "fused_kv_cache block stride must be 4-byte aligned")

/-- The dispatch on the architecture, which repeats its own conditions. -/
def selectPagedMqa (device : DeviceInfo) (params : PagedMqaLogitsParams) (args : PagedMqaArgs) :
    Native PagedMqaDispatch :=
  let isFp4 := params.hasQScale
  let isVarlen := params.hasIndices
  if device.major = 9 then do
    throwIf isFp4 (.unsupported "FP4 paged MQA logits require SM100")
    throwIf isVarlen (.unsupported "SM90 paged MQA logits do not support varlen indices")
    throwIf (params.weights.dtype ≠ DTypeCode.f32) (.invalid "SM90 paged MQA logits require f32 weights")
    throwIf (args.blockKv ≠ 64) (.invalid "SM90 paged MQA logits require block_kv == 64")
    throwIf (args.nextN ≠ 1 ∧ args.nextN ≠ 2) (.invalid "SM90 paged MQA logits require next_n == 1 or 2")
    requireSm90Shape args.numHeads args.headDim "paged MQA logits"
    .ok (.sm90 args)
  else if device.major = 10 then do
    throwIf (params.weights.dtype = DTypeCode.bf16 ∧ params.logits.dtype ≠ DTypeCode.bf16)
      (.invalid "bf16 weights require bf16 logits")
    throwIf (isVarlen ∧ args.nextN ≠ 1) (.invalid "SM100 varlen paged MQA logits require next_n == 1")
    throwIf (args.blockKv ≠ 32 ∧ args.blockKv ≠ 64)
      (.invalid "SM100 paged MQA logits require block_kv == 32 or 64")
    requireSm100Shape isFp4 args.numHeads args.headDim "paged MQA logits"
    .ok (.sm100 isFp4 args)
  else
    .error (.unsupported
      s!"paged MQA logits supports SM90 or SM100, got compute capability {device.major}.{device.minor}")

def dispatchPagedMqaLogits (device : DeviceInfo) (params : PagedMqaLogitsParams) :
    Native PagedMqaDispatch := do
  let isFp4 := params.hasQScale
  requireContiguous params.q 4 "q"
  let batchSize64 := (params.q.shape 0).val
  let nextN64 := (params.q.shape 1).val
  let numHeads64 := (params.q.shape 2).val
  let physicalHeadDim64 := (params.q.shape 3).val
  let headDim64 ← logicalHeadDim isFp4 physicalHeadDim64
  requirePagedFormat params batchSize64 nextN64 numHeads64
  let kvBytesPerToken ← packedHeadDim isFp4 headDim64
  requireFusedKvCache params.fusedKvCache kvBytesPerToken
  let numKvBlocks64 := (params.fusedKvCache.shape 0).val
  let blockKv64 := (params.fusedKvCache.shape 1).val
  requireTensorRank params.weights 2 "weights"
  requireShapePositive params.weights.shape 2 "weights"
  let rows64 ← i64.mul batchSize64 nextN64
  throwIf ((params.weights.shape 0).val ≠ rows64 ∨ (params.weights.shape 1).val ≠ numHeads64 ∨
      (params.weights.stride 1).val ≠ 1)
    (.invalid "weights must be [batch_size * next_n, num_heads] with stride(1) == 1")
  throwIf (¬ isFp4 ∧ (params.weights.stride 0).val ≠ numHeads64)
    (.invalid "FP8 paged MQA weights must be contiguous")
  throwIf (params.weights.dtype ≠ DTypeCode.f32 ∧ params.weights.dtype ≠ DTypeCode.bf16)
    (.invalid "weights dtype must be f32 or bf16")
  requireContiguous2DI32 params.contextLens "context_lens"
  throwIf ((params.contextLens.shape 0).val ≠ batchSize64 ∨ (params.contextLens.shape 1).val ≠ nextN64)
    (.invalid "context_lens shape must be [batch_size, next_n]")
  requireTensorRank params.blockTable 2 "block_table"
  requireDtype params.blockTable.dtype DTypeCode.i32 "block_table"
  requireShapePositive params.blockTable.shape 2 "block_table"
  throwIf ((params.blockTable.shape 0).val ≠ batchSize64 ∨ (params.blockTable.stride 1).val ≠ 1)
    (.invalid "block_table must be [batch_size, max_block_len] with stride(1) == 1")
  let numSms64 := params.numSms.val
  throwIf (numSms64 ≤ 0 ∨ numSms64 > device.numSms.val)
    (.invalid "num_sms must be positive and no larger than the device SM count")
  requireContiguous2DI32 params.scheduleMeta "schedule_meta"
  let metaRows ← i64.add numSms64 1
  throwIf ((params.scheduleMeta.shape 0).val ≠ metaRows ∨ (params.scheduleMeta.shape 1).val ≠ 2)
    (.invalid "schedule_meta shape must be [num_sms + 1, 2]")
  let isVarlen := params.hasIndices
  requireIndices isVarlen params.indices batchSize64
  requireLogitsDtype params.logits.dtype
  throwIf (params.maxContextLen.val ≤ 0) (.invalid "max_context_len must be positive")
  throwIf params.cleanLogits
    (.invalid "clean_logits is not supported for 2D paged context lengths yet")
  let batchSize ← asI32 batchSize64 "batch_size"
  let nextN ← asI32 nextN64 "next_n"
  let numHeads ← asI32 numHeads64 "num_heads"
  let headDim ← asI32 headDim64 "head_dim"
  let numKvBlocks ← asI32 numKvBlocks64 "num_kv_blocks"
  let blockKv ← asI32 blockKv64 "block_kv"
  let _maxContextLen ← asI32 params.maxContextLen "max_context_len"
  let numSms ← asI32 numSms64 "num_sms"
  let blockTableStride ← asI32 (params.blockTable.stride 0) "block_table stride(0)"
  let strideLogits ← pagedLogitsStride params.maxContextLen params.logits.dtype
  let rows ← i64.mul batchSize64 nextN64
  requireLogitsOutput params.logits rows params.maxContextLen strideLogits "logits"
  let remainder ← i32.rem 128 numHeads
  throwIf (remainder ≠ 0) (.invalid "num_heads must divide 128")
  selectPagedMqa device params {
    batchSize, nextN, numHeads, headDim, numKvBlocks, blockKv, strideLogits, blockTableStride, numSms }

end DeepGemmRs.Raw
