import DeepGemmRs.Abi.Tensor

/-!
# The layout helpers of the C ABI

* `Call` : an exported function, over the thread's last error and what `out` points at;
* `checkedMulU64`, `alignI64`, `ceilDivI64` : the guarded arithmetic; `none` is a returned `false`;
* `fill2DLayout`, `fill2DLayoutExplicit` : the two ways to fill a layout;
* `mqaLogitsLayout`, `pagedMqaLogitsLayout`, `pagedMqaLogitsMetadataLayout`,
  `fp8GemmNtOutputLayout`, `fp8GemmScaleLayout` : the five helpers.

A parameter struct holds `I64` fields, so every value the ABI can pass is one of the model.
-/

namespace DeepGemmRs.CApi

open MachineInt

/-- The last error of the calling thread and the target of `out`, `none` when `out` is null. -/
@[ext] structure CallState where
  lastError : String
  out : Option RawLayout2D

abbrev Call : Type := CallState → Native (Status × CallState)

def clearError : Call := fun s => .ok (.success, { s with lastError := "" })

def setError (status : Status) (message : String) : Call := fun s =>
  .ok (status, { s with lastError := message })

/-! ## Guarded arithmetic -/

def checkedMulU64 (left right : Int) : Native (Option Int) := do
  let tooLarge ← if left ≠ 0 then do
      let limit ← u64.div u64.hi left
      .ok (decide (right > limit))
    else .ok false
  if tooLarge then .ok none else do
    let product ← u64.mul left right
    .ok (some product)

def alignI64 (value alignment : Int) : Native (Option Int) :=
  if value < 0 ∨ alignment ≤ 0 then .ok none else do
    let remainder ← i64.rem value alignment
    if remainder = 0 then .ok (some value) else do
      let delta ← i64.sub alignment remainder
      let limit ← i64.sub i64.hi delta
      if value > limit then .ok none else do
        let sum ← i64.add value delta
        .ok (some sum)

def ceilDivI64 (value divisor : Int) : Native (Option Int) :=
  if value < 0 ∨ divisor ≤ 0 then .ok none else do
    let room ← i64.sub i64.hi divisor
    let limit ← i64.add room 1
    if value > limit then .ok none else do
      -- the guard bounds `value + divisor - 1`, the sum is formed first
      let sum ← i64.add value divisor
      let less ← i64.sub sum 1
      let quotient ← i64.div less divisor
      .ok (some quotient)

/-! ## Filling a layout -/

def fill2DLayout (dtype : DTypeCode) (logicalRows logicalCols allocationRows allocationCols : Int) :
    Call := fun s =>
  match s.out with
  | none => setError .invalidArgument "layout output must not be null" s
  | some _ =>
    if logicalRows < 0 ∨ logicalCols < 0 ∨ allocationRows < logicalRows ∨ allocationCols < logicalCols then
      setError .invalidArgument "invalid 2D layout dimensions" s
    else do
      let product ← checkedMulU64 (u64.cast allocationRows) (u64.cast allocationCols)
      match product with
      | none => setError .invalidArgument "layout element count overflowed" s
      | some elementCount =>
        clearError { s with
          out := some {
            dtype
            logicalShape := ![logicalRows, logicalCols]
            allocationShape := ![allocationRows, allocationCols]
            stride := ![allocationCols, 1]
            elementCount } }

def fill2DLayoutExplicit (dtype : DTypeCode) (logicalRows logicalCols allocationRows allocationCols
    strideRows strideCols : Int) : Call := fun s =>
  match s.out with
  | none => setError .invalidArgument "layout output must not be null" s
  | some _ =>
    if logicalRows < 0 ∨ logicalCols < 0 ∨ allocationRows < 0 ∨ allocationCols < 0 ∨ strideRows < 0 ∨
        strideCols < 0 then
      setError .invalidArgument "invalid 2D layout dimensions" s
    else do
      let product ← checkedMulU64 (u64.cast allocationRows) (u64.cast allocationCols)
      match product with
      | none => setError .invalidArgument "layout element count overflowed" s
      | some elementCount =>
        clearError { s with
          out := some {
            dtype
            logicalShape := ![logicalRows, logicalCols]
            allocationShape := ![allocationRows, allocationCols]
            stride := ![strideRows, strideCols]
            elementCount } }

/-- The status and `*elem_size`. -/
def validateLogitsDtype (dtype : DTypeCode) : CallState → Native ((Status × Int) × CallState) := fun s =>
  let elemSize := dtype.storageSize
  if dtype ≠ DTypeCode.f32 ∧ dtype ≠ DTypeCode.bf16 then do
    let (status, s) ← setError .invalidArgument "logits dtype must be f32 or bf16" s
    .ok ((status, elemSize), s)
  else .ok ((.success, elemSize), s)

/-! ## The helpers -/

/-- `deepgemm_mqa_logits_layout_params_t`. -/
structure MqaLogitsLayoutParams where
  seqLen : I64
  seqLenKv : I64
  numHeads : I64
  maxSeqlenK : I64
  logitsDtype : DTypeCode

/-- `deepgemm_mqa_logits_layout`. -/
def mqaLogitsLayout (params : Option MqaLogitsLayoutParams) : Call := fun s =>
  match params with
  | none => setError .invalidArgument "layout params must not be null" s
  | some params =>
    if params.seqLen.val ≤ 0 ∨ params.seqLenKv.val ≤ 0 ∨ params.numHeads.val ≤ 0 then
      setError .invalidArgument "seq_len, seq_len_kv, and num_heads must be positive" s
    else if params.maxSeqlenK.val < 0 then
      setError .invalidArgument "max_seqlen_k must be non-negative" s
    else do
      let remainder ← i64.rem 128 params.numHeads
      if remainder ≠ 0 then setError .invalidArgument "num_heads must divide 128" s else do
      let ((dtypeStatus, elemSize), s) ← validateLogitsDtype params.logitsDtype s
      if dtypeStatus ≠ .success then .ok (dtypeStatus, s) else do
      let blockKv : Int := 256
      let blockQ ← i64.div 128 params.numHeads
      match ← alignI64 params.seqLen blockQ with
      | none => setError .invalidArgument "aligned seq_len overflowed" s
      | some alignedSeqLen =>
        let strideAlignment ← i64.div 1024 elemSize
        if params.maxSeqlenK.val = 0 then do
          -- not guarded, unlike every other sum here
          let padded ← i64.add params.seqLenKv blockKv
          match ← alignI64 padded strideAlignment with
          | none => setError .invalidArgument "full logits stride overflowed" s
          | some strideCols =>
            fill2DLayout params.logitsDtype params.seqLen params.seqLenKv alignedSeqLen strideCols s
        else do
          match ← alignI64 params.maxSeqlenK blockKv with
          | none => setError .invalidArgument "compressed logits stride overflowed" s
          | some alignedMaxSeqlenK =>
            match ← alignI64 alignedMaxSeqlenK strideAlignment with
            | none => setError .invalidArgument "compressed logits stride overflowed" s
            | some strideCols =>
              fill2DLayout params.logitsDtype params.seqLen params.maxSeqlenK alignedSeqLen strideCols s

/-- `deepgemm_paged_mqa_logits_layout_params_t`. -/
structure PagedMqaLogitsLayoutParams where
  batchSize : I64
  nextN : I64
  maxContextLen : I64
  logitsDtype : DTypeCode

/-- `deepgemm_paged_mqa_logits_layout`. -/
def pagedMqaLogitsLayout (params : Option PagedMqaLogitsLayoutParams) : Call := fun s =>
  match params with
  | none => setError .invalidArgument "layout params must not be null" s
  | some params =>
    if params.batchSize.val ≤ 0 ∨ params.nextN.val ≤ 0 ∨ params.maxContextLen.val ≤ 0 then
      setError .invalidArgument "batch_size, next_n, and max_context_len must be positive" s
    else do
      let ((dtypeStatus, elemSize), s) ← validateLogitsDtype params.logitsDtype s
      if dtypeStatus ≠ .success then .ok (dtypeStatus, s) else do
      let splitKv : Int := 256
      let strideAlignment ← i64.div 1024 elemSize
      match ← alignI64 params.maxContextLen splitKv with
      | none => setError .invalidArgument "paged logits stride overflowed" s
      | some splitAligned =>
        match ← alignI64 splitAligned strideAlignment with
        | none => setError .invalidArgument "paged logits stride overflowed" s
        | some strideCols =>
          match ← checkedMulU64 (u64.cast params.batchSize) (u64.cast params.nextN) with
          | none => setError .invalidArgument "paged logits row count overflowed" s
          | some rows =>
            if rows > u64.cast i64.hi then
              setError .invalidArgument "paged logits row count overflowed" s
            else
              fill2DLayout params.logitsDtype (i64.cast rows) params.maxContextLen (i64.cast rows)
                strideCols s

/-- `deepgemm_paged_mqa_logits_metadata_layout_params_t`. -/
structure PagedMqaLogitsMetadataLayoutParams where
  numSms : I64

/-- `deepgemm_paged_mqa_logits_metadata_layout`. -/
def pagedMqaLogitsMetadataLayout (params : Option PagedMqaLogitsMetadataLayoutParams) : Call := fun s =>
  match params with
  | none => setError .invalidArgument "metadata layout params must not be null" s
  | some params =>
    if params.numSms.val ≤ 0 then setError .invalidArgument "num_sms must be positive" s
    else if params.numSms.val = i64.hi then
      setError .invalidArgument "num_sms overflowed metadata rows" s
    else do
      let rows ← i64.add params.numSms 1
      fill2DLayout DTypeCode.i32 rows 2 rows 2 s

/-- `deepgemm_fp8_gemm_nt_output_layout_params_t`. -/
structure Fp8GemmNtOutputLayoutParams where
  m : I64
  n : I64
  outputDtype : DTypeCode

/-- `deepgemm_fp8_gemm_nt_output_layout`. -/
def fp8GemmNtOutputLayout (params : Option Fp8GemmNtOutputLayoutParams) : Call := fun s =>
  match params with
  | none => setError .invalidArgument "GEMM output layout params must not be null" s
  | some params =>
    if params.m.val ≤ 0 ∨ params.n.val ≤ 0 then
      setError .invalidArgument "m and n must be positive" s
    else if params.outputDtype ≠ DTypeCode.bf16 then
      setError .invalidArgument "FP8 GEMM output dtype must be bf16" s
    else fill2DLayout params.outputDtype params.m params.n params.m params.n s

/-- `deepgemm_fp8_gemm_scale_layout_params_t`. -/
structure Fp8GemmScaleLayoutParams where
  mn : I64
  k : I64
  granK : I64
  scaleDtype : DTypeCode

/-- `deepgemm_fp8_gemm_scale_layout`. -/
def fp8GemmScaleLayout (params : Option Fp8GemmScaleLayoutParams) : Call := fun s =>
  match params with
  | none => setError .invalidArgument "GEMM scale layout params must not be null" s
  | some params =>
    if params.mn.val ≤ 0 ∨ params.k.val ≤ 0 ∨ params.granK.val ≤ 0 then
      setError .invalidArgument "mn, k, and gran_k must be positive" s
    else if params.scaleDtype ≠ DTypeCode.f32 ∧ params.scaleDtype ≠ DTypeCode.packedUe8M0 then
      setError .invalidArgument "scale dtype must be f32 or packed UE8M0" s
    else do
      let elemSize := params.scaleDtype.storageSize
      let badSize ← if elemSize ≤ 0 then .ok true else do
        let remainder ← i64.rem 16 elemSize
        .ok (decide (remainder ≠ 0))
      if badSize then setError .invalidArgument "scale dtype has invalid element size" s else do
      let packedFactor : Int := if params.scaleDtype = DTypeCode.f32 then 1 else 4
      let limit ← i64.div i64.hi packedFactor
      if params.granK.val > limit then setError .invalidArgument "scale K dimension overflowed" s else do
      let divisor ← i64.mul params.granK packedFactor
      match ← ceilDivI64 params.k divisor with
      | none => setError .invalidArgument "scale K dimension overflowed" s
      | some scaleCols =>
        let alignment ← i64.div 16 elemSize
        match ← alignI64 params.mn alignment with
        | none => setError .invalidArgument "scale MN alignment overflowed" s
        | some alignedMn =>
          fill2DLayoutExplicit params.scaleDtype params.mn scaleCols scaleCols alignedMn 1 alignedMn s

end DeepGemmRs.CApi
