import DeepGemmRs.Raw.Launch
import DeepGemmRs.Raw.Mqa

/-!
# The launch functions of the MQA kernels

`deepgemm_raw_mqa.cc`, from the architecture's launch function to the driver: the tensor maps, the
shared memory, the grid and the kernel's arguments. The text of the kernels is in `KernelText`.

* `launchSm90Fp8MqaLogits`, `launchSm100MqaLogits`, `launchCleanLogits`, and `launchMqaLogits`, what
  follows the dispatch;
* `launchSm90Metadata`, `launchSm100Metadata`, and `launchPagedMqaLogitsMetadata`;
* `launchSm90Fp8PagedMqaLogits`, `launchSm100PagedMqaLogits`, and `launchPagedMqaLogits`.
-/

namespace DeepGemmRs.Raw

open Checked MachineInt

variable (A : Arith Stop)

/-! ## `launch_fp8_fp4_mqa_logits` -/

def launchCleanLogits (params : MqaLogitsParams) (args : MqaArgs) (numSms : Int) (pdl : Bool) :
    Native Launch := do
  let seqLenArg ← A.cast u32 args.seqLen
  let seqLenKvArg ← A.cast u32 args.seqLenKv
  let strideLogitsArg ← A.cast u64 args.strideLogits
  let numThreads ← A.mul i32 8 32
  let smemSize ← A.mul i32 8192 4
  launchKernel A "smxx_clean_logits" params.stream { gridX := numSms, numThreads, smemSize, enablePdl := pdl }
    [.u32 seqLenArg, .u32 seqLenKvArg, .u64 strideLogitsArg, .ptr params.cuSeqLenKStart.data,
      .ptr params.cuSeqLenKEnd.data, .ptr params.logits.data]

/-- `smem_size` of `launch_sm90_fp8_mqa_logits`. -/
def sm90MqaSmemSize (numHeads headDim blockQ blockKv : Int)
    (qDtype weightsDtype kvDtype kvScaleDtype : DTypeCode) : Native Int := do
  let numQStages : Int := 3
  let numKvStages : Int := 3
  let numMathThreads : Int := 512
  let tile ← A.mul i32 blockQ numHeads
  let smemQ ← A.mul i32 tile headDim
  let qSize ← A.cast i32 (dtypeElementSize qDtype)
  let smemQSizePerStage ← A.mul i32 smemQ qSize
  let weightSize ← A.cast i32 (dtypeElementSize weightsDtype)
  let smemWeightSizePerStage ← A.mul i32 tile weightSize
  let smemKv ← A.mul i32 blockKv headDim
  let kvSize ← A.cast i32 (dtypeElementSize kvDtype)
  let smemKvSizePerStage ← A.mul i32 smemKv kvSize
  let kvScaleSize ← A.cast i32 (dtypeElementSize kvScaleDtype)
  let kvScaleSizePerStage ← A.mul i32 blockKv kvScaleSize
  let qStages ← A.mul i32 numQStages smemQSizePerStage
  let kvStages ← A.mul i32 numKvStages smemKvSizePerStage
  let smemSize ← A.add i32 qStages kvStages
  let weightStages ← A.mul i32 numQStages smemWeightSizePerStage
  let smemSize ← A.add i32 smemSize weightStages
  let kvScaleStages ← A.mul i32 numKvStages kvScaleSizePerStage
  let smemSize ← A.add i32 smemSize kvScaleStages
  let mathGroups ← A.div i32 numMathThreads 128
  let barriers ← A.add i32 (numQStages * 2 + numKvStages * 2) (mathGroups * 2)
  let barrierBytes ← A.mul i32 barriers 8
  let smemSize ← A.add i32 smemSize barrierBytes
  A.add i32 smemSize 4

def launchSm90Fp8MqaLogits (params : MqaLogitsParams) (args : MqaArgs) (numSms : Int) (pdl : Bool) :
    Native Launch := do
  let outerDim ← A.mul i32 args.seqLen args.numHeads
  let tile ← A.mul i32 args.blockQ args.numHeads
  let tensorMapQ ← makeTma2dDesc A params.q.data params.q.dtype args.headDim outerDim args.headDim tile
    args.headDim args.headDim {}
  let tensorMapKv ← makeTma2dDesc A params.kv.data params.kv.dtype args.headDim args.seqLenKv args.headDim
    args.blockKv args.headDim args.headDim {}
  let aligned ← getTmaAlignedSize A args.seqLenKv (dtypeElementSize params.kvScale.dtype)
  let aligned ← asI32 aligned "kv_scale aligned size"
  let tensorMapKvScales ← makeTma2dDesc A params.kvScale.data params.kvScale.dtype aligned 1 args.blockKv 1 0 0 {}
  let weightsStride ← asI32 (params.weights.stride 0) "weights stride"
  let tensorMapWeights ← makeTma2dDesc A params.weights.data params.weights.dtype args.numHeads args.seqLen
    args.numHeads args.blockQ weightsStride 0 {}
  let smemSize ← sm90MqaSmemSize A args.numHeads args.headDim args.blockQ args.blockKv params.q.dtype
    params.weights.dtype params.kv.dtype params.kvScale.dtype
  let seqLenArg ← A.cast u32 args.seqLen
  let seqLenKvArg ← A.cast u32 args.seqLenKv
  let maxSeqlenKArg ← A.cast u32 params.maxSeqlenK
  let strideLogitsArg ← A.cast u32 args.strideLogits
  let numThreads ← A.add i32 128 512
  launchKernel A "sm90_fp8_mqa_logits" params.stream { gridX := numSms, numThreads, smemSize, enablePdl := pdl }
    [.u32 seqLenArg, .u32 seqLenKvArg, .u32 maxSeqlenKArg, .u32 strideLogitsArg, .ptr params.cuSeqLenKStart.data,
      .ptr params.cuSeqLenKEnd.data, .ptr params.logits.data, .tensorMap tensorMapQ, .tensorMap tensorMapKv,
      .tensorMap tensorMapKvScales, .tensorMap tensorMapWeights]

/-- The maps of `q`, its scales, `kv` and its scales. -/
structure Sm100Maps where
  q : TensorMap
  sfQ : TensorMap
  kv : TensorMap
  sfKv : TensorMap

/-- The map of the scales of `kv`, the same for both element formats. -/
def sm100KvScaleMap (params : MqaLogitsParams) (args : MqaArgs) : Native TensorMap := do
  let aligned ← getTmaAlignedSize A args.seqLenKv (dtypeElementSize params.kvScale.dtype)
  let aligned ← asI32 aligned "kv_scale aligned size"
  makeTma2dDesc A params.kvScale.data params.kvScale.dtype aligned 1 args.blockKv 1 0 0 {}

def sm100MqaMaps (params : MqaLogitsParams) (isFp4 : Bool) (args : MqaArgs) : Native Sm100Maps :=
  if isFp4 then do
    let outerDim ← A.mul i32 args.seqLen args.numHeads
    let tile ← A.mul i32 args.blockQ args.numHeads
    let stride ← asI32 (params.q.stride 1) "q stride(1)"
    let swizzle ← A.div i32 args.headDim 2
    let q ← makeTma2dDesc A params.q.data params.q.dtype args.headDim outerDim args.headDim tile stride swizzle
      { fp4UnpackedSmem := false }
    let stride ← asI32 (params.qScale.stride 0) "q_scale stride(0)"
    let sfQ ← makeTma2dDesc A params.qScale.data params.qScale.dtype args.numHeads args.seqLen args.numHeads
      args.blockQ stride 0 {}
    let stride ← asI32 (params.kv.stride 0) "kv stride(0)"
    let kv ← makeTma2dDesc A params.kv.data params.kv.dtype args.headDim args.seqLenKv args.headDim args.blockKv
      stride swizzle { fp4UnpackedSmem := false }
    let sfKv ← sm100KvScaleMap A params args
    .ok { q, sfQ, kv, sfKv }
  else do
    let outerDim ← A.mul i32 args.seqLen args.numHeads
    let tile ← A.mul i32 args.blockQ args.numHeads
    let stride ← asI32 (params.q.stride 1) "q stride(1)"
    let q ← makeTma2dDesc A params.q.data params.q.dtype args.headDim outerDim args.headDim tile stride
      args.headDim {}
    let stride ← asI32 (params.kv.stride 0) "kv stride(0)"
    let kv ← makeTma2dDesc A params.kv.data params.kv.dtype args.headDim args.seqLenKv args.headDim args.blockKv
      stride args.headDim {}
    let sfKv ← sm100KvScaleMap A params args
    .ok { q, sfQ := sfKv, kv, sfKv }

def launchSm100MqaLogits (params : MqaLogitsParams) (isFp4 : Bool) (args : MqaArgs) (numSms : Int) (pdl : Bool) :
    Native Launch := do
  let maps ← sm100MqaMaps A params isFp4 args
  let weightsStride ← asI32 (params.weights.stride 0) "weights stride"
  let tensorMapWeights ← makeTma2dDesc A params.weights.data params.weights.dtype args.numHeads args.seqLen
    args.numHeads args.blockQ weightsStride 0 {}
  let seqLenArg ← A.cast u32 args.seqLen
  let seqLenKvArg ← A.cast u32 args.seqLenKv
  let strideLogitsArg ← A.cast u32 args.strideLogits
  let numThreads ← A.add i32 128 256
  launchKernel A "sm100_mqa_logits" params.stream
    { gridX := numSms, numThreads, smemSize := 232448, enablePdl := pdl }
    [.u32 seqLenArg, .u32 seqLenKvArg, .u32 strideLogitsArg, .ptr params.cuSeqLenKStart.data,
      .ptr params.cuSeqLenKEnd.data, .ptr params.logits.data, .tensorMap maps.q, .tensorMap maps.sfQ,
      .tensorMap maps.kv, .tensorMap maps.sfKv, .tensorMap tensorMapWeights]

/-- The kernel that clears the logits no sequence reaches, when asked for. -/
def launchCleanIfAsked (params : MqaLogitsParams) (args : MqaArgs) (numSms : Int) (pdl : Bool) (first : Launch) :
    Native (List Launch) :=
  if params.cleanLogits then do
    let clean ← launchCleanLogits A params args numSms pdl
    .ok [first, clean]
  else .ok [first]

/-- The launches that follow the dispatch. -/
def launchMqaLogits (params : MqaLogitsParams) (numSms : Int) (pdl : Bool) : MqaDispatch → Native (List Launch)
  | .sm90 args => do
    let first ← launchSm90Fp8MqaLogits A params args numSms pdl
    launchCleanIfAsked A params args numSms pdl first
  | .sm100 isFp4 args => do
    let first ← launchSm100MqaLogits A params isFp4 args numSms pdl
    launchCleanIfAsked A params args numSms pdl first

/-! ## `launch_paged_mqa_logits_metadata` -/

/-- The shared memory of the SM90 scheduler, in words. -/
def numSmemInts (isVarlen : Bool) (alignedBatchSize : Int) : Native Int :=
  if isVarlen then do
    let words ← A.mul i32 3 alignedBatchSize
    A.add i32 words 1
  else .ok alignedBatchSize

def launchSm90Metadata (params : PagedMqaLogitsMetadataParams) (batchSize nextN : Int) (isVarlen : Bool)
    (pdl : Bool) : Native Launch := do
  let alignedBatchSize ← alignI64OrThrow A batchSize 32 "batch_size"
  let alignedBatchSize ← asI32 alignedBatchSize "aligned_batch_size"
  let words ← numSmemInts A isVarlen alignedBatchSize
  let batchSizeArg ← A.cast u32 batchSize
  let nextNArg ← A.cast u32 nextN
  let smemSize ← A.mul i32 words 4
  launchKernel A "sm90_paged_mqa_logits_metadata" params.stream { numThreads := 32, smemSize, enablePdl := pdl }
    [.u32 batchSizeArg, .u32 nextNArg, .bool true, .ptr params.contextLens.data, .ptr params.indices.data,
      .ptr params.scheduleMeta.data]

def launchSm100Metadata (params : PagedMqaLogitsMetadataParams) (batchSize nextN : Int) (pdl : Bool) :
    Native Launch := do
  let numRequests ← A.cast u32 batchSize
  let tokens ← A.mul i32 batchSize nextN
  let numQTokensTotal ← A.cast u32 tokens
  let words ← A.mul i32 2 batchSize
  let smemSize ← A.mul i32 words 4
  launchKernel A "sm100_paged_mqa_logits_metadata" params.stream
    { numThreads := 256, smemSize, enablePdl := pdl }
    [.u32 numRequests, .u32 numQTokensTotal, .ptr params.contextLens.data, .ptr params.indices.data,
      .ptr params.scheduleMeta.data]

/-- The launch that follows the dispatch. -/
def launchPagedMqaLogitsMetadata (params : PagedMqaLogitsMetadataParams) (pdl : Bool) :
    MetadataDispatch → Native Launch
  | .sm90 batchSize nextN _ isVarlen => launchSm90Metadata A params batchSize nextN isVarlen pdl
  | .sm100 batchSize nextN _ _ => launchSm100Metadata A params batchSize nextN pdl

/-! ## `launch_fp8_fp4_paged_mqa_logits` -/

/-- `smem_size` of `launch_sm90_fp8_paged_mqa_logits`. -/
def sm90PagedSmemSize (nextN numHeads headDim blockKv : Int) (qDtype weightsDtype : DTypeCode) :
    Native Int := do
  let numQStages : Int := 3
  let numKvStages : Int := 3
  let numMathWarpGroups ← A.div i32 256 64
  let swizzleAlignment ← A.mul i32 headDim 8
  let rows ← A.mul i32 nextN numHeads
  let smemQ ← A.mul i32 rows headDim
  let qSize ← A.cast i32 (dtypeElementSize qDtype)
  let smemQSizePerStage ← A.mul i32 smemQ qSize
  let weightSize ← A.cast i32 (dtypeElementSize weightsDtype)
  let smemWeight ← A.mul i32 rows weightSize
  let smemWeight ← alignI64 A smemWeight swizzleAlignment
  let alignedSmemWeightSizePerStage ← asI32 smemWeight "aligned SM90 paged weights smem size"
  let qStage ← A.add i32 smemQSizePerStage alignedSmemWeightSizePerStage
  let qStages ← A.mul i32 numQStages qStage
  let qBarriers ← alignI64 A (numQStages * 8 * 2) swizzleAlignment
  let qBarriers ← asI32 qBarriers "SM90 paged q barrier smem size"
  let smemQPipeSize ← A.add i32 qStages qBarriers
  let smemKv ← A.mul i32 blockKv headDim
  let kvSize ← A.cast i32 (dtypeElementSize DTypeCode.fp8E4M3)
  let smemKvSizePerStage ← A.mul i32 smemKv kvSize
  let smemKvScale ← A.mul i32 blockKv 4
  let smemKvScale ← alignI64 A smemKvScale swizzleAlignment
  let alignedSmemKvScaleSizePerStage ← asI32 smemKvScale "aligned SM90 paged kv scale smem size"
  let kvStage ← A.add i32 smemKvSizePerStage alignedSmemKvScaleSizePerStage
  let kvStages ← A.mul i32 numKvStages kvStage
  let kvBarriers ← alignI64 A (numKvStages * 8 * 2) swizzleAlignment
  let kvBarriers ← asI32 kvBarriers "SM90 paged kv barrier smem size"
  let smemKvPipeSize ← A.add i32 kvStages kvBarriers
  let smemUmmaBarriers ← A.mul i32 (numMathWarpGroups * 2) 8
  let kvPipes ← A.mul i32 numMathWarpGroups smemKvPipeSize
  let smemSize ← A.add i32 smemQPipeSize kvPipes
  let smemSize ← A.add i32 smemSize smemUmmaBarriers
  A.add i32 smemSize 4

def launchSm90Fp8PagedMqaLogits (params : PagedMqaLogitsParams) (args : PagedMqaArgs) (pdl : Bool) :
    Native Launch := do
  let nextNAtom := if args.nextN ≥ 2 then 2 else 1
  let kvCacheStrideBytes ← asI32 (params.fusedKvCache.stride 0) "fused_kv_cache stride(0)"
  let pageBytes ← A.mul i32 args.blockKv args.headDim
  let kvScaleData := params.fusedKvCache.data + pageBytes.toNat
  let tokens ← A.mul i32 args.batchSize args.nextN
  let outerDim ← A.mul i32 tokens args.numHeads
  let tile ← A.mul i32 nextNAtom args.numHeads
  let qStride ← asI32 (params.q.stride 2) "q stride(2)"
  let tensorMapQ ← makeTma2dDesc A params.q.data params.q.dtype args.headDim outerDim args.headDim tile qStride
    args.headDim {}
  let tensorMapKv ← makeTma3dDesc A params.fusedKvCache.data DTypeCode.fp8E4M3 args.headDim args.blockKv
    args.numKvBlocks args.headDim args.blockKv 1 args.headDim kvCacheStrideBytes args.headDim {}
  let scaleStride ← A.div i32 kvCacheStrideBytes 4
  let tensorMapKvScales ← makeTma2dDesc A kvScaleData DTypeCode.f32 args.blockKv args.numKvBlocks args.blockKv 1
    scaleStride 0 {}
  let tokens ← A.mul i32 args.batchSize args.nextN
  let weightsStride ← asI32 (params.weights.stride 0) "weights stride(0)"
  let tensorMapWeights ← makeTma2dDesc A params.weights.data params.weights.dtype args.numHeads tokens
    args.numHeads nextNAtom weightsStride 0 {}
  let smemSize ← sm90PagedSmemSize A args.nextN args.numHeads args.headDim args.blockKv params.q.dtype
    params.weights.dtype
  let batchSizeArg ← A.cast u32 args.batchSize
  let strideLogitsArg ← A.cast u32 args.strideLogits
  let blockTableStrideArg ← A.cast u32 args.blockTableStride
  let numThreads ← A.add i32 128 512
  launchKernel A "sm90_fp8_paged_mqa_logits" params.stream
    { gridX := args.numSms, numThreads, smemSize, enablePdl := pdl }
    [.u32 batchSizeArg, .u32 strideLogitsArg, .u32 blockTableStrideArg, .ptr params.contextLens.data,
      .ptr params.logits.data, .ptr params.blockTable.data, .ptr 0, .ptr params.scheduleMeta.data,
      .tensorMap tensorMapQ, .tensorMap tensorMapKv, .tensorMap tensorMapKvScales, .tensorMap tensorMapWeights]

/-- The bytes of a token in the fused cache, its scale apart. -/
def kvBytesPerToken (isFp4 : Bool) (headDim : Int) : Native Int :=
  if isFp4 then A.div i32 headDim 2 else .ok headDim

/-- The maps of `q`, of its FP4 scales when there are any, and of the cache. -/
structure Sm100PagedMaps where
  q : TensorMap
  sfQ : Option TensorMap
  kv : TensorMap

def sm100PagedMaps (params : PagedMqaLogitsParams) (isFp4 : Bool) (args : PagedMqaArgs)
    (blockQ numQTokensTotal kvBytes kvCacheStrideBytes : Int) : Native Sm100PagedMaps :=
  if isFp4 then do
    let outerDim ← A.mul i32 numQTokensTotal args.numHeads
    let tile ← A.mul i32 blockQ args.numHeads
    let stride ← asI32 (params.q.stride 2) "q stride(2)"
    let swizzle ← A.div i32 args.headDim 2
    let q ← makeTma2dDesc A params.q.data params.q.dtype args.headDim outerDim args.headDim tile stride swizzle
      { fp4UnpackedSmem := false }
    let stride ← asI32 (params.qScale.stride 1) "q_scale stride(1)"
    let sfQ ← makeTma2dDesc A params.qScale.data params.qScale.dtype args.numHeads numQTokensTotal args.numHeads
      blockQ stride 0 {}
    let kv ← makeTma3dDesc A params.fusedKvCache.data DTypeCode.packedFp4E2M1 args.headDim args.blockKv
      args.numKvBlocks args.headDim args.blockKv 1 kvBytes kvCacheStrideBytes swizzle { fp4UnpackedSmem := false }
    .ok { q, sfQ := some sfQ, kv }
  else do
    let outerDim ← A.mul i32 numQTokensTotal args.numHeads
    let tile ← A.mul i32 blockQ args.numHeads
    let stride ← asI32 (params.q.stride 2) "q stride(2)"
    let q ← makeTma2dDesc A params.q.data params.q.dtype args.headDim outerDim args.headDim tile stride
      args.headDim {}
    let kv ← makeTma3dDesc A params.fusedKvCache.data DTypeCode.fp8E4M3 args.headDim args.blockKv
      args.numKvBlocks args.headDim args.blockKv 1 kvBytes kvCacheStrideBytes args.headDim {}
    .ok { q, sfQ := none, kv }

def launchSm100PagedMqaLogits (params : PagedMqaLogitsParams) (isFp4 : Bool) (args : PagedMqaArgs) (pdl : Bool) :
    Native Launch := do
  let blockQ ← A.div i32 128 args.numHeads
  let numQTokensTotal ← A.mul i32 args.batchSize args.nextN
  let kvBytes ← kvBytesPerToken A isFp4 args.headDim
  let kvCacheStrideBytes ← asI32 (params.fusedKvCache.stride 0) "fused_kv_cache stride(0)"
  let pageBytes ← A.mul i32 args.blockKv kvBytes
  let kvScaleData := params.fusedKvCache.data + pageBytes.toNat
  let kvScaleDtype := if isFp4 then DTypeCode.packedUe8M0 else DTypeCode.f32
  let maps ← sm100PagedMaps A params isFp4 args blockQ numQTokensTotal kvBytes kvCacheStrideBytes
  let scaleStride ← A.div i32 kvCacheStrideBytes 4
  let sfKv ← makeTma2dDesc A kvScaleData kvScaleDtype args.blockKv args.numKvBlocks args.blockKv 1 scaleStride 0 {}
  let weightsStride ← asI32 (params.weights.stride 0) "weights stride(0)"
  let tensorMapWeights ← makeTma2dDesc A params.weights.data params.weights.dtype args.numHeads numQTokensTotal
    args.numHeads blockQ weightsStride 0 {}
  let numQTokensTotalArg ← A.cast u32 numQTokensTotal
  let strideLogitsArg ← A.cast u32 args.strideLogits
  let blockTableStrideArg ← A.cast u32 args.blockTableStride
  let numThreads ← A.add i32 128 256
  launchKernel A "sm100_paged_mqa_logits" params.stream
    { gridX := args.numSms, numThreads, smemSize := 232448, enablePdl := pdl }
    [.u32 numQTokensTotalArg, .u32 strideLogitsArg, .u32 blockTableStrideArg, .ptr params.contextLens.data,
      .ptr params.logits.data, .ptr params.blockTable.data,
      .ptr (if params.hasIndices then params.indices.data else 0), .ptr params.scheduleMeta.data,
      .tensorMap maps.q, .tensorMap (maps.sfQ.getD sfKv), .tensorMap maps.kv, .tensorMap sfKv,
      .tensorMap tensorMapWeights]

/-- The launch that follows the dispatch. -/
def launchPagedMqaLogits (params : PagedMqaLogitsParams) (pdl : Bool) : PagedMqaDispatch → Native Launch
  | .sm90 args => launchSm90Fp8PagedMqaLogits A params args pdl
  | .sm100 isFp4 args => launchSm100PagedMqaLogits A params isFp4 args pdl

end DeepGemmRs.Raw
