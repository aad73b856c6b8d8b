import DeepGemmRs.Candle.Tensor

/-!
# FP8 GEMM of candle tensors

`candle-deepgemm/src/gemm.rs`. A call returns its result with the kernels it enqueues.

* `allocateTransformedScale`, `transformScale`, `prepareFp8GemmScale` : a raw scale in the layout of
  the architecture;
* `fp8GemmNtPreparedScales` : the GEMM on scales in that layout;
* `fp8GemmNt` : both.
-/

namespace DeepGemmRs.Candle

open Checked MachineInt

def ceilDiv (value divisor : Nat) : Result Nat :=
  if divisor = 0 then .error (invalidArg "divisor must be positive")
  else if u64.Has (value + (divisor - 1) : Nat) then .ok ((value + (divisor - 1)) / divisor)
  else .error (invalidArg "ceil_div overflowed")

def candleDtypeForDeepgemm : DType → CandleDType
  | .fp8E4M3 => .f8E4M3
  | .packedUe8M0 | .i32 => .i32
  | .f32 => .f32
  | .bf16 => .bf16
  | .packedFp4E2M1 | .u8 => .u8

def requireRawScale (spec : TensorSpec 2) (expectedShape : Fin 2 → Nat) (name : String) : Result Unit := do
  let contiguous ← ofRust spec.isContiguous
  throwIf (¬ contiguous) (invalidArg s!"{name} must be row-major contiguous")
  throwIf (spec.dtype ≠ .f32) (invalidArg s!"{name} must have dtype F32")
  throwIf (spec.shape ≠ expectedShape) (invalidArg
    s!"{name} shape must be {TensorSpec.debugArray toString expectedShape}, got {TensorSpec.debugArray toString spec.shape}")

def validateDevices (a aScale b bScale : Tensor) : Result Unit := do
  ensureSameDevice a aScale "a_scale"
  ensureSameDevice a b "b"
  ensureSameDevice a bScale "b_scale"

/-! ## Scales -/

def allocateTransformedScale (api : Api) (layout : TensorLayout2D) (device : Device) : Result Tensor := do
  let allocation ← ofCandle (api.zeros (layout.allocationShape 0) (layout.allocationShape 1)
    (candleDtypeForDeepgemm layout.dtype) device)
  let transposed ← ofCandle (api.transpose allocation)
  ofCandle (api.narrow transposed 0 0 (layout.logicalShape 0))

def transformScale (api : Api) (runtime : Runtime) (scale : Tensor) (scaleSpec : TensorSpec 2)
    (transformedLayout : TensorLayout2D) (mn k granMn granK : Nat) (stream : Ptr) :
    Result (Tensor × Raw.Launch) := do
  let transformed ← allocateTransformedScale api transformedLayout scale.device
  let scalePtr ← tensorPtrByDtype scale .f32 "scale"
  let transformedPtr ← tensorPtrByDtype transformed (candleDtypeForDeepgemm transformedLayout.dtype) "transformed"
  let launch ← ofRust (Crate.fp8GemmTransformScale runtime {
    scale := ⟨scalePtr, scaleSpec⟩
    transformed := ⟨transformedPtr, transformedLayout.logicalSpec⟩
    mn, k, granMn, granK, stream })
  .ok (transformed, launch)

def prepareFp8GemmScale (api : Api) (runtime : Runtime) (scale : Tensor) (mn k granMn granK : Nat)
    (transformedDtype : DType) : Result (Tensor × Raw.Launch) := do
  ensureRank scale 2 "scale"
  ensureDtype scale .f32 "scale"
  let scaleSpec ← tensorSpec 2 scale .f32 "scale"
  let rows ← ceilDiv mn granMn
  let cols ← ceilDiv k granK
  requireRawScale scaleSpec ![rows, cols] "scale"
  let (stream, deviceId) ← streamAndDeviceId scale
  let _ ← ensureCurrentDevice runtime deviceId "scale"
  let transformedLayout ← ofRust (Crate.fp8GemmScaleLayout mn k granK transformedDtype)
  transformScale api runtime scale scaleSpec transformedLayout mn k granMn granK stream

/-! ## GEMM -/

/-- The dtype of a transformed scale. -/
def gemmScaleDtype : Arch → DType
  | .sm90 => .f32
  | .sm100 => .packedUe8M0

/-- The spec of the output. -/
def outputSpec (m n : Nat) : Result (TensorSpec 2) :=
  if h : i64.Has n then .ok { dtype := .bf16, shape := ![m, n], strides := ![⟨n, h⟩, I64.one] }
  else .error (invalidArg "d stride overflow")

def fp8GemmNtPreparedScales (api : Api) (runtime : Runtime) (a aScale b bScale : Tensor) :
    Result (Tensor × Raw.Launch) := do
  validateDevices a aScale b bScale
  ensureRank a 2 "a"
  ensureRank aScale 2 "a_scale"
  ensureRank b 2 "b"
  ensureRank bScale 2 "b_scale"
  ensureDtype a .f8E4M3 "a"
  ensureDtype b .f8E4M3 "b"
  let (stream, deviceId) ← streamAndDeviceId a
  let info ← ensureCurrentDevice runtime deviceId "a"
  let arch ← ofRust info.arch
  let scaleDtype := gemmScaleDtype arch
  ensureDtype aScale (candleDtypeForDeepgemm scaleDtype) "a_scale"
  ensureDtype bScale (candleDtypeForDeepgemm scaleDtype) "b_scale"
  let aSpec ← tensorSpec 2 a .fp8E4M3 "a"
  let aScaleSpec ← tensorSpec 2 aScale scaleDtype "a_scale"
  let bSpec ← tensorSpec 2 b .fp8E4M3 "b"
  let bScaleSpec ← tensorSpec 2 bScale scaleDtype "b_scale"
  throwIf (bSpec.shape 1 ≠ aSpec.shape 1) (invalidArg "b shape must be [n, k] with the same k as a")
  let dSpec ← outputSpec (aSpec.shape 0) (bSpec.shape 0)
  let dLayout ← ofRust (Crate.fp8GemmNtOutputLayout
    { a := aSpec, aScale := aScaleSpec, b := bSpec, bScale := bScaleSpec, d := dSpec } arch)
  let d ← ofCandle (api.zeros (dLayout.allocationShape 0) (dLayout.allocationShape 1) .bf16 a.device)
  let aPtr ← tensorPtrByDtype a .f8E4M3 "a"
  let aScalePtr ← tensorPtrByDtype aScale (candleDtypeForDeepgemm scaleDtype) "a_scale"
  let bPtr ← tensorPtrByDtype b .f8E4M3 "b"
  let bScalePtr ← tensorPtrByDtype bScale (candleDtypeForDeepgemm scaleDtype) "b_scale"
  let dPtr ← tensorPtrByDtype d .bf16 "d"
  let launch ← ofRust (Crate.fp8GemmNt runtime {
    a := ⟨aPtr, aSpec⟩
    aScale := ⟨aScalePtr, aScaleSpec⟩
    b := ⟨bPtr, bSpec⟩
    bScale := ⟨bScalePtr, bScaleSpec⟩
    d := ⟨dPtr, dLayout.logicalSpec⟩
    stream })
  .ok (d, launch)

/-- `gran_mn` by the shape of a raw `b_scale` on SM100. -/
def granMnOf (shape : Fin 2 → Nat) (n scaleCols : Nat) : Result Nat :=
  if shape = ![n, scaleCols] then .ok 1
  else do
    let blocks ← ceilDiv n 128
    if shape = ![blocks, scaleCols] then .ok 128
    else .error (invalidArg
      s!"SM100 b_scale shape must be [{n}, {scaleCols}] or [{blocks}, {scaleCols}], got {TensorSpec.debugArray toString shape}")

/-- The `b_scale` of the GEMM: on SM90 the raw one, on SM100 a transformed one. -/
def prepareBScale (api : Api) (runtime : Runtime) (bScale : Tensor) (n k : Nat) :
    Arch → Result (Tensor × List Raw.Launch)
  | .sm90 => do
    let rows ← ceilDiv n 128
    let cols ← ceilDiv k 128
    let bScaleSpec ← tensorSpec 2 bScale .f32 "b_scale"
    requireRawScale bScaleSpec ![rows, cols] "b_scale"
    .ok (bScale, [])
  | .sm100 => do
    let bScaleRawSpec ← tensorSpec 2 bScale .f32 "b_scale"
    let scaleCols ← ceilDiv k 128
    let granMn ← granMnOf bScaleRawSpec.shape n scaleCols
    let (transformed, launch) ← prepareFp8GemmScale api runtime bScale n k granMn 128 .packedUe8M0
    .ok (transformed, [launch])

def fp8GemmNt (api : Api) (runtime : Runtime) (a aScale b bScale : Tensor) :
    Result (Tensor × List Raw.Launch) := do
  validateDevices a aScale b bScale
  ensureRank a 2 "a"
  ensureRank aScale 2 "a_scale"
  ensureRank b 2 "b"
  ensureRank bScale 2 "b_scale"
  ensureDtype a .f8E4M3 "a"
  ensureDtype aScale .f32 "a_scale"
  ensureDtype b .f8E4M3 "b"
  ensureDtype bScale .f32 "b_scale"
  let m := a.dims.getD 0 0
  let k := a.dims.getD 1 0
  let n := b.dims.getD 0 0
  throwIf (b.dims.getD 1 0 ≠ k) (invalidArg "b shape must be [n, k] with the same k as a")
  let (_, deviceId) ← streamAndDeviceId a
  let info ← ensureCurrentDevice runtime deviceId "a"
  let arch ← ofRust info.arch
  let aScaleRawSpec ← tensorSpec 2 aScale .f32 "a_scale"
  let cols ← ceilDiv k 128
  requireRawScale aScaleRawSpec ![m, cols] "a_scale"
  let (aScaleTransformed, aLaunch) ← prepareFp8GemmScale api runtime aScale m k 1 128 (gemmScaleDtype arch)
  let (bScaleTensor, bLaunches) ← prepareBScale api runtime bScale n k arch
  let (d, launch) ← fp8GemmNtPreparedScales api runtime a aScaleTransformed b bScaleTensor
  .ok (d, aLaunch :: bLaunches ++ [launch])

end DeepGemmRs.Candle
