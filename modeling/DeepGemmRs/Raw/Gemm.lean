import DeepGemmRs.Abi.Device
import DeepGemmRs.Raw.GemmConfig
import DeepGemmRs.Raw.Launch

/-!
# The native GEMM entry points

`deepgemm_raw_gemm.cc`, the entry points; the text of the kernels is in `KernelText`.

* `Fp8GemmScaleTransformParams`, `Fp8GemmNtParams` : what the C ABI passes;
* `requireContiguous2D`, `requireShape2D`, `requireMnMajorScale` : the checks of a tensor;
* `checkTransformScale` and `launchFp8GemmTransformScale` : the checks of a scale transform, and its
  launch;
* `dispatchFp8GemmNt` : `launch_fp8_gemm_nt` with the checks and the choice of a configuration, up to
  the first tensor map; `launchFp8GemmNt` : all of it.
-/

namespace DeepGemmRs.Raw.Gemm

open Checked MachineInt

/-- `deepgemm_fp8_gemm_scale_transform_params_t`. -/
structure Fp8GemmScaleTransformParams where
  scale : RawTensor
  transformed : RawTensor
  mn : I64
  k : I64
  granMn : I64
  granK : I64
  stream : Ptr

/-- `deepgemm_fp8_gemm_nt_params_t`. -/
structure Fp8GemmNtParams where
  a : RawTensor
  aScale : RawTensor
  b : RawTensor
  bScale : RawTensor
  d : RawTensor
  stream : Ptr

/-! ## Checks of a tensor -/

def dtypeSizeChecked (dtype : DTypeCode) (name : String) : Native Int := do
  throwIf (dtypeElementSize dtype ≤ 0 ∨ dtypeElementSize dtype > i32.hi) (.invalid s!"{name} dtype is invalid")
  .ok (i32.cast (dtypeElementSize dtype))

def tmaAlignedMn (mn : Int) (dtype : DTypeCode) (name : String) : Native Int := do
  let size ← dtypeSizeChecked dtype name
  let aligned ← getTmaAlignedSize .machine mn size
  asI32 aligned name

def scaleKDivisor (granK : Int) (dtype : DTypeCode) : Native Int := do
  let factor : Int := if dtype = DTypeCode.f32 then 1 else 4
  let limit ← i64.div i64.hi factor
  throwIf (granK ≤ 0 ∨ granK > limit) (.invalid "scale gran_k overflowed")
  i64.mul granK factor

def requirePositive2DShape (shape : Fin 4 → I64) (name : String) : Native Unit :=
  throwIf ((shape 0).val ≤ 0 ∨ (shape 1).val ≤ 0) (.invalid s!"{name} dimensions must be positive")

/-- `require_contiguous_2d` and `require_contiguous_2d_mut`. -/
def requireContiguous2D (tensor : RawTensor) (dtype : DTypeCode) (name : String) : Native Unit := do
  requireTensorRank tensor 2 name
  requireDtype tensor.dtype dtype name
  requirePositive2DShape tensor.shape name
  throwIf ((tensor.stride 0).val ≠ tensor.shape 1 ∨ (tensor.stride 1).val ≠ 1)
    (.invalid s!"{name} must be row-major contiguous")

/-- `require_shape_2d` and `require_shape_2d_mut`. -/
def requireShape2D (tensor : RawTensor) (rows cols : Int) (name : String) : Native Unit :=
  throwIf ((tensor.shape 0).val ≠ rows ∨ (tensor.shape 1).val ≠ cols)
    (.invalid s!"{name} shape must be [{rows}, {cols}]")

/-- `require_mn_major_scale` and `require_mn_major_scale_out`. -/
def requireMnMajorScale (tensor : RawTensor) (mn k granK : Int) (dtype : DTypeCode) (name : String) :
    Native Unit := do
  requireTensorRank tensor 2 name
  requireDtype tensor.dtype dtype name
  let divisor ← scaleKDivisor granK dtype
  let scaleCols ← ceilDivI64 k divisor
  let alignedMn ← getTmaAlignedSize .machine mn (dtypeElementSize dtype)
  throwIf ((tensor.shape 0).val ≠ mn ∨ (tensor.shape 1).val ≠ scaleCols ∨ (tensor.stride 0).val ≠ 1 ∨
      (tensor.stride 1).val ≠ alignedMn)
    (.invalid s!"{name} must have shape [{mn}, {scaleCols}] and strides [1, {alignedMn}]")

/-! ## `launch_fp8_gemm_transform_scale` -/

/-- The checks before the choice of a kernel; they return `sf_k`. -/
def checkTransformScale (params : Fp8GemmScaleTransformParams) : Native Int := do
  requireContiguous2D params.scale DTypeCode.f32 "scale"
  throwIf (params.mn.val ≤ 0 ∨ params.k.val ≤ 0 ∨ params.granMn.val ≤ 0 ∨ params.granMn.val > i32.hi ∨
      params.granK.val ≤ 0 ∨ params.granK.val > i32.hi)
    (.invalid "mn, k, gran_mn, and gran_k must be positive")
  let sfK ← ceilDivI64 params.k params.granK
  let rows ← ceilDivI64 params.mn params.granMn
  requireShape2D params.scale rows sfK "scale"
  throwIf (params.transformed.dtype ≠ DTypeCode.f32 ∧ params.transformed.dtype ≠ DTypeCode.packedUe8M0)
    (.invalid "transformed dtype must be f32 or packed UE8M0")
  requireMnMajorScale params.transformed params.mn params.k params.granK params.transformed.dtype "transformed"
  throwIf (sfK ≤ 0 ∨ sfK > 512) (.invalid "scale K blocks must be between 1 and 512")
  .ok sfK

/-- One row of scales for `gran_mn` rows. -/
def launchBroadcast (params : Fp8GemmScaleTransformParams) (sfK : Int) : Native Launch := do
  let limit ← i64.div i64.hi sfK
  throwIf (params.mn.val > limit) (.invalid "broadcast scale element count overflowed")
  let alignedMn ← tmaAlignedMn params.mn params.transformed.dtype "transformed"
  let mnArg := u32.cast params.mn
  let sfKArg := u32.cast sfK
  let granMnArg := u32.cast params.granMn
  let alignedMnArg := u32.cast alignedMn
  if params.transformed.dtype = DTypeCode.f32 then do
    let count ← i64.mul params.mn sfK
    let blocks ← ceilDivI64 count 256
    let gridX ← asI32 blocks "broadcast grid x"
    launchKernel .machine "broadcast_transpose_fp32" params.stream { gridX, numThreads := 256 }
      [.ptr params.scale.data, .ptr params.transformed.data, .u32 mnArg, .u32 sfKArg, .u32 granMnArg,
        .u32 alignedMnArg]
  else do
    let packedSfK ← ceilDivI64 sfK 4
    let count ← i64.mul params.mn packedSfK
    let blocks ← ceilDivI64 count 256
    let gridX ← asI32 blocks "broadcast pack grid x"
    launchKernel .machine "broadcast_transpose_and_pack_fp32_into_ue8m0" params.stream
      { gridX, numThreads := 256 }
      [.ptr params.scale.data, .ptr params.transformed.data, .u32 mnArg, .u32 sfKArg, .u32 (u32.cast packedSfK),
        .u32 granMnArg, .u32 alignedMnArg]

def launchTranspose (params : Fp8GemmScaleTransformParams) (sfK : Int) (pdl : Bool) : Native Launch := do
  let remainder ← i64.rem sfK 2
  let padded ← i64.add sfK (1 - remainder)
  let padded ← asI32 padded "transpose padded sf_k"
  let words ← i32.mul 64 padded
  let smemSize ← i32.mul words 4
  let _ ← asI32 sfK "sf_k"
  let blocks ← ceilDivI64 params.mn 64
  let gridX ← asI32 blocks "transpose grid x"
  launchKernel .machine "transpose_fp32" params.stream
    { gridX, gridY := 1, numThreads := 512, smemSize, enablePdl := pdl }
    [.ptr params.scale.data, .ptr params.transformed.data, .u32 (u32.cast params.mn)]

def launchTransposeAndPack (params : Fp8GemmScaleTransformParams) (sfK : Int) (pdl : Bool) : Native Launch := do
  let words ← asI32 sfK "pack sf_k"
  let words ← i32.mul 48 words
  let smemSize ← i32.mul words 4
  let _ ← asI32 sfK "sf_k"
  let blocks ← ceilDivI64 params.mn 48
  let gridX ← asI32 blocks "pack grid x"
  launchKernel .machine "transpose_and_pack_fp32_into_ue8m0" params.stream
    { gridX, gridY := 1, numThreads := 512, smemSize, enablePdl := pdl }
    [.ptr params.scale.data, .ptr params.transformed.data, .u32 (u32.cast params.mn), .ptr 0, .u32 0]

def launchFp8GemmTransformScale (runtime : Runtime) (params : Fp8GemmScaleTransformParams) : Native Launch := do
  let sfK ← checkTransformScale params
  if params.granMn.val ≠ 1 then launchBroadcast params sfK
  else if params.transformed.dtype = DTypeCode.f32 then launchTranspose params sfK runtime.pdlEnabled
  else launchTransposeAndPack params sfK runtime.pdlEnabled

/-! ## `launch_fp8_gemm_nt` -/

/-- `m`, `n` and `k`. -/
structure GemmDims where
  m : Int
  n : Int
  k : Int

def validateCommonGemmNt (params : Fp8GemmNtParams) : Native GemmDims := do
  requireContiguous2D params.a DTypeCode.fp8E4M3 "a"
  requireContiguous2D params.b DTypeCode.fp8E4M3 "b"
  requireContiguous2D params.d DTypeCode.bf16 "d"
  let m := (params.a.shape 0).val
  let k := (params.a.shape 1).val
  let n := (params.b.shape 0).val
  throwIf ((params.b.shape 1).val ≠ k) (.invalid "b shape must be [n, k] with the same k as a")
  requireShape2D params.d m n "d"
  throwIf (n % 8 ≠ 0) (.invalid "n must be a multiple of 8")
  .ok { m, n, k }

/-- The checks of the scales in `launch_sm90_fp8_gemm_nt`. -/
def checkSm90Scales (params : Fp8GemmNtParams) (dims : GemmDims) (config : GemmConfig) : Native Unit := do
  requireMnMajorScale params.aScale dims.m dims.k config.layout.blockK DTypeCode.f32 "a_scale"
  requireContiguous2D params.bScale DTypeCode.f32 "b_scale"
  let rows ← ceilDivI64 dims.n config.layout.blockK
  let cols ← ceilDivI64 dims.k config.layout.blockK
  requireShape2D params.bScale rows cols "b_scale"

/-- The checks of the scales in `launch_sm100_fp8_gemm_nt`. -/
def checkSm100Scales (params : Fp8GemmNtParams) (dims : GemmDims) : Native Unit := do
  requireMnMajorScale params.aScale dims.m dims.k 128 DTypeCode.packedUe8M0 "a_scale"
  requireMnMajorScale params.bScale dims.n dims.k 128 DTypeCode.packedUe8M0 "b_scale"

/-- The launch function chosen, with its arguments and its configuration. -/
inductive GemmDispatch where
  | sm90 (dims : GemmDims) (numSms : Int) (config : GemmConfig)
  | sm100 (dims : GemmDims) (numSms : Int) (config : GemmConfig)

def dispatchFp8GemmNt (runtime : Runtime) (params : Fp8GemmNtParams) : Native GemmDispatch := do
  let dims ← validateCommonGemmNt params
  let m ← asI32 dims.m "m"
  let n ← asI32 dims.n "n"
  let k ← asI32 dims.k "k"
  let numSms ← runtime.effectiveNumSms
  let device ← runtime.currentDeviceInfo
  if device.major = 9 then do
    let config ← sm90BestConfig m n k numSms
    checkSm90Scales params ⟨m, n, k⟩ config
    .ok (.sm90 ⟨m, n, k⟩ numSms config)
  else if device.major = 10 then do
    let config ← sm100BestConfig m n k numSms
    checkSm100Scales params ⟨m, n, k⟩
    .ok (.sm100 ⟨m, n, k⟩ numSms config)
  else .error (.unsupported
    s!"FP8 GEMM supports SM90 or SM100, got compute capability {device.major}.{device.minor}")

/-- The map of an operand, rows of `k` elements. -/
def operandMap (operand : RawTensor) (rows : Int) (dims : GemmDims) (config : GemmConfig)
    (loadBlock swizzleMode : Int) (name : String) : Native TensorMap := do
  let stride ← asI32 (operand.stride 0) name
  makeTma2dDesc .machine operand.data operand.dtype dims.k rows config.layout.blockK loadBlock stride
    swizzleMode {}

/-- The map of the output. -/
def outputMap (params : Fp8GemmNtParams) (dims : GemmDims) (config : GemmConfig) : Native TensorMap := do
  let stride ← asI32 (params.d.stride 0) "d stride(0)"
  makeTma2dDesc .machine params.d.data params.d.dtype dims.n dims.m config.storage.storeBlockN
    config.storage.storeBlockM stride config.storage.swizzleCdMode {}

/-- The map of a transformed scale, rows of `mn` elements. -/
def scaleMap (scale : RawTensor) (mn k divisor block : Int) (alignedName colsName strideName : String) :
    Native TensorMap := do
  let alignedMn ← tmaAlignedMn mn scale.dtype alignedName
  let blocks ← ceilDivI64 k divisor
  let cols ← asI32 blocks colsName
  let stride ← tmaAlignedMn mn scale.dtype strideName
  makeTma2dDesc .machine scale.data scale.dtype alignedMn cols block 1 stride 0 {}

def gemmLaunchArgs (numSms : Int) (config : GemmConfig) (pdl : Bool) : LaunchArgs where
  gridX := numSms
  numThreads := config.launch.numThreads
  smemSize := config.pipeline.smemSize
  clusterDim := config.layout.clusterSize
  enablePdl := pdl

/-- `launch_sm90_fp8_gemm_nt` after its checks. -/
def launchSm90Fp8GemmNt (params : Fp8GemmNtParams) (dims : GemmDims) (numSms : Int) (config : GemmConfig)
    (pdl : Bool) : Native Launch := do
  let tensorMapA ← operandMap params.a dims.m dims config config.storage.loadBlockM config.storage.swizzleAMode
    "a stride(0)"
  let tensorMapB ← operandMap params.b dims.n dims config config.storage.loadBlockN config.storage.swizzleBMode
    "b stride(0)"
  let tensorMapD ← outputMap params dims config
  let tensorMapSfa ← scaleMap params.aScale dims.m dims.k config.layout.blockK config.layout.blockM
    "a_scale aligned m" "a_scale k blocks" "a_scale stride"
  launchKernel .machine "sm90_fp8_gemm_1d2d" params.stream (gemmLaunchArgs numSms config pdl)
    [.ptr params.bScale.data, .ptr 0, .u32 (u32.cast dims.m), .u32 (u32.cast dims.n), .u32 (u32.cast dims.k),
      .tensorMap tensorMapA, .tensorMap tensorMapB, .tensorMap tensorMapD, .tensorMap tensorMapSfa]

/-- `launch_sm100_fp8_gemm_nt` after its checks. -/
def launchSm100Fp8GemmNt (params : Fp8GemmNtParams) (dims : GemmDims) (numSms : Int) (config : GemmConfig)
    (pdl : Bool) : Native Launch := do
  let tensorMapA ← operandMap params.a dims.m dims config config.storage.loadBlockM config.storage.swizzleAMode
    "a stride(0)"
  let tensorMapB ← operandMap params.b dims.n dims config config.storage.loadBlockN config.storage.swizzleBMode
    "b stride(0)"
  let tensorMapSfa ← scaleMap params.aScale dims.m dims.k (128 * 4) config.layout.blockM "a_scale aligned m"
    "a_scale packed k blocks" "a_scale stride"
  let tensorMapSfb ← scaleMap params.bScale dims.n dims.k (128 * 4) config.layout.blockN "b_scale aligned n"
    "b_scale packed k blocks" "b_scale stride"
  let tensorMapCd ← outputMap params dims config
  launchKernel .machine "sm100_fp8_gemm_1d1d" params.stream (gemmLaunchArgs numSms config pdl)
    [.ptr 0, .u32 (u32.cast dims.m), .u32 (u32.cast dims.n), .u32 (u32.cast dims.k), .tensorMap tensorMapA,
      .tensorMap tensorMapB, .tensorMap tensorMapSfa, .tensorMap tensorMapSfb, .tensorMap tensorMapCd]

/-- The launch that follows the dispatch. -/
def launchGemmNt (params : Fp8GemmNtParams) (pdl : Bool) : GemmDispatch → Native Launch
  | .sm90 dims numSms config => launchSm90Fp8GemmNt params dims numSms config pdl
  | .sm100 dims numSms config => launchSm100Fp8GemmNt params dims numSms config pdl

def launchFp8GemmNt (runtime : Runtime) (params : Fp8GemmNtParams) : Native Launch := do
  let dispatch ← dispatchFp8GemmNt runtime params
  launchGemmNt params runtime.pdlEnabled dispatch

end DeepGemmRs.Raw.Gemm
