import DeepGemmRs.Crate.Checks
import DeepGemmRs.Raw.Mqa

/-!
# The crate's MQA wrapper

`deepgemm/src/mqa.rs`.

* `MqaLogitsLaunch`, `PagedMqaLogitsMetadataLaunch`, `PagedMqaLogitsLaunch` and their specs;
* `validateMqaLogitsSpec`, `validatePagedMetadataSpec`, `validatePagedMqaLogitsSpec`;
* `mqaLogitsLayout`, `pagedMqaLogitsMetadataLayout`, `pagedMqaLogitsLayout`;
* `toRaw` of each launch : the struct it hands to the C ABI;
* `Accepted` of each launch : the checks made before that.
-/

namespace DeepGemmRs.Crate

open Checked MachineInt TensorSpec

structure MqaLogitsSpec where
  q : TensorSpec 3
  qScale : Option (TensorSpec 2)
  kv : TensorSpec 2
  kvScale : TensorSpec 1
  weights : TensorSpec 2
  cuSeqLenKStart : TensorSpec 1
  cuSeqLenKEnd : TensorSpec 1
  cleanLogits : Bool
  maxSeqlenK : Nat
  logitsDtype : DType

structure PagedMqaLogitsMetadataSpec where
  contextLens : TensorSpec 2
  indices : Option (TensorSpec 1)
  blockKv : Nat
  numSms : Nat

structure PagedMqaLogitsSpec where
  q : TensorSpec 4
  qScale : Option (TensorSpec 3)
  fusedKvCache : TensorSpec 4
  weights : TensorSpec 2
  contextLens : TensorSpec 2
  blockTable : TensorSpec 2
  scheduleMeta : TensorSpec 2
  indices : Option (TensorSpec 1)
  maxContextLen : Nat
  cleanLogits : Bool
  logitsDtype : DType
  numSms : Nat

/-! ## Checks -/

def requireLogitsDtype : DType → Rust Unit
  | .f32 | .bf16 => .ok ()
  | _ => .error (.invalid "logits dtype must be f32 or bf16")

def requireWeights (weights : TensorSpec 2) (rows heads : Nat) (arch : Arch) (logitsDtype : DType) :
    Rust Unit := do
  throwIf (weights.shape ≠ ![rows, heads] ∨ (weights.strides 1).val ≠ 1)
    (.invalid s!"weights must be [{rows}, {heads}] with stride(1) == 1")
  match weights.dtype with
  | .f32 => .ok ()
  | .bf16 =>
    throwIf (¬ (arch = .sm100 ∧ logitsDtype = .bf16))
      (.unsupported "bf16 weights require SM100 and bf16 logits")
  | _ => .error (.invalid "weights dtype must be f32 or bf16")

def requireI32Vector (tensor : TensorSpec 1) (len : Nat) (name : String) : Rust Unit := do
  requireContiguous tensor name
  requireDtype tensor DType.i32 name
  requireShape tensor.shape ![len] name

def require2DI32 (tensor : TensorSpec 2) (shape : Fin 2 → Nat) (name : String) : Rust Unit := do
  requireContiguous tensor name
  requireDtype tensor DType.i32 name
  requireShape tensor.shape shape name

def logicalHeadDim (physical : Nat) (isFp4 : Bool) : Rust Nat := do
  requirePositive physical "head_dim"
  if isFp4 then usizeMul physical 2 else .ok physical

def physicalHeadDim (logical : Nat) (isFp4 : Bool) : Nat := if isFp4 then logical / 2 else logical

def validateBlockKv (arch : Arch) (blockKv : Nat) : Rust Unit :=
  match arch with
  | .sm90 => throwIf (blockKv ≠ 64) (.invalid "SM90 paged MQA requires block_kv == 64")
  | .sm100 =>
    throwIf (¬ (blockKv = 32 ∨ blockKv = 64)) (.invalid "SM100 paged MQA requires block_kv == 32 or 64")

def requireArchSupport (arch : Arch) (isFp4 : Bool) (numHeads headDim : Nat) : Rust Unit := do
  throwIf (isFp4 ∧ arch ≠ .sm100) (.unsupported "FP4 MQA logits require SM100")
  match arch with
  | .sm90 => do
    throwIf (numHeads ≠ 32 ∧ numHeads ≠ 64) (.invalid "SM90 MQA requires 32 or 64 heads")
    throwIf (¬ (headDim = 32 ∨ headDim = 64 ∨ headDim = 128))
      (.invalid "SM90 FP8 MQA requires head_dim 32, 64, or 128")
  | .sm100 => do
    throwIf (¬ (numHeads = 8 ∨ numHeads = 16 ∨ numHeads = 32 ∨ numHeads = 64))
      (.invalid "SM100 MQA requires 8, 16, 32, or 64 heads")
    if isFp4 then
      throwIf (¬ (headDim = 64 ∨ headDim = 128)) (.invalid "SM100 FP4 MQA requires head_dim 64 or 128")
    else
      throwIf (¬ (headDim = 32 ∨ headDim = 64 ∨ headDim = 128))
        (.invalid "SM100 FP8 MQA requires head_dim 32, 64, or 128")

/-- The dtype of the elements of `q` and `kv`. -/
def elementDtype (isFp4 : Bool) : DType := if isFp4 then .packedFp4E2M1 else .fp8E4M3

/-- The checks of `q_scale`, when there is one. -/
def requireQScale {rank : Nat} (qScale : Option (TensorSpec rank)) (shape : Fin rank → Nat) : Rust Unit :=
  match qScale with
  | some qScale => do
    requireContiguous qScale "q_scale"
    requireDtype qScale .packedUe8M0 "q_scale"
    requireShape qScale.shape shape "q_scale"
  | none => .ok ()

/-- The checks of `indices`, when there are any. -/
def requireIndices (indices : Option (TensorSpec 1)) (arch : Arch) (batchSize nextN : Nat) : Rust Unit :=
  match indices with
  | some indices => do
    throwIf (arch ≠ .sm100 ∨ nextN ≠ 1)
      (.unsupported "varlen paged MQA indices require SM100 and next_n == 1")
    requireI32Vector indices batchSize "indices"
  | none => .ok ()

/-! ## What the checks demand -/

@[simp] theorem requireLogitsDtype_eq_ok {dtype : DType} {u : Unit} :
    requireLogitsDtype dtype = .ok u ↔ dtype = .f32 ∨ dtype = .bf16 := by
  cases dtype <;> simp [requireLogitsDtype]

/-- The dtypes of the weights, by architecture and logits. -/
def WeightsDtype (dtype : DType) (arch : Arch) (logitsDtype : DType) : Prop :=
  dtype = .f32 ∨ dtype = .bf16 ∧ arch = .sm100 ∧ logitsDtype = .bf16

@[simp] theorem requireWeights_eq_ok {weights : TensorSpec 2} {rows heads : Nat} {arch : Arch}
    {logitsDtype : DType} {u : Unit} :
    requireWeights weights rows heads arch logitsDtype = .ok u ↔
      (weights.shape 0 = rows ∧ weights.shape 1 = heads ∧ (weights.strides 1).val = 1) ∧
        WeightsDtype weights.dtype arch logitsDtype := by
  have hshape : ¬ (weights.shape ≠ ![rows, heads] ∨ (weights.strides 1).val ≠ 1) ↔
      weights.shape 0 = rows ∧ weights.shape 1 = heads ∧ (weights.strides 1).val = 1 := by
    rw [not_or, not_not, not_not, eq_vec_two, and_assoc]
  simp only [requireWeights, bind_eq_ok, throwIf_eq_ok, exists_const, hshape]
  refine and_congr_right fun _ => ?_
  cases weights.dtype <;> simp [WeightsDtype]

/-- The heads and head dimensions an architecture supports. -/
def ArchSupport (arch : Arch) (isFp4 : Bool) (numHeads headDim : Nat) : Prop :=
  match arch with
  | .sm90 => isFp4 = false ∧ (numHeads = 32 ∨ numHeads = 64) ∧ (headDim = 32 ∨ headDim = 64 ∨ headDim = 128)
  | .sm100 =>
    (numHeads = 8 ∨ numHeads = 16 ∨ numHeads = 32 ∨ numHeads = 64) ∧
      (headDim = 64 ∨ headDim = 128 ∨ headDim = 32 ∧ isFp4 = false)

@[simp] theorem requireArchSupport_eq_ok {arch : Arch} {isFp4 : Bool} {numHeads headDim : Nat} {u : Unit} :
    requireArchSupport arch isFp4 numHeads headDim = .ok u ↔ ArchSupport arch isFp4 numHeads headDim := by
  unfold requireArchSupport ArchSupport
  cases arch <;> cases isFp4 <;> simp <;> omega

theorem ArchSupport.numHeads {arch : Arch} {isFp4 : Bool} {numHeads headDim : Nat}
    (h : ArchSupport arch isFp4 numHeads headDim) :
    numHeads = 8 ∨ numHeads = 16 ∨ numHeads = 32 ∨ numHeads = 64 := by
  cases arch
  · have := h.2.1; omega
  · exact h.1

theorem ArchSupport.headDim {arch : Arch} {isFp4 : Bool} {numHeads headDim : Nat}
    (h : ArchSupport arch isFp4 numHeads headDim) : headDim = 32 ∨ headDim = 64 ∨ headDim = 128 := by
  cases arch
  · exact h.2.2
  · have := h.2; omega

@[simp] theorem logicalHeadDim_eq_ok {physical headDim : Nat} {isFp4 : Bool} :
    logicalHeadDim physical isFp4 = .ok headDim ↔
      0 < physical ∧ (isFp4 = true → u64.Has (physical * 2 : Nat)) ∧
        headDim = if isFp4 then physical * 2 else physical := by
  cases isFp4 <;> simp [logicalHeadDim, @eq_comm _ headDim]

theorem physicalHeadDim_logical {physical : Nat} {isFp4 : Bool} :
    physicalHeadDim (if isFp4 then physical * 2 else physical) isFp4 = physical := by
  cases isFp4 <;> simp [physicalHeadDim]

@[simp] theorem validateBlockKv_eq_ok {arch : Arch} {blockKv : Nat} {u : Unit} :
    validateBlockKv arch blockKv = .ok u ↔ blockKv = 64 ∨ blockKv = 32 ∧ arch = .sm100 := by
  cases arch <;> simp [validateBlockKv]
  omega

/-- A vector of `len` contiguous `i32`. -/
structure I32Vector (tensor : TensorSpec 1) (len : Nat) : Prop where
  stride : (tensor.strides 0).val = 1
  dtype : tensor.dtype = .i32
  shape : tensor.shape 0 = len

theorem requireI32Vector_eq_ok {tensor : TensorSpec 1} {len : Nat} {name : String} {u : Unit}
    (hs : ∀ i, (tensor.shape i : Int) ≤ i64.hi) :
    requireI32Vector tensor len name = .ok u ↔ I32Vector tensor len := by
  simp only [requireI32Vector, bind_eq_ok, requireContiguous_eq_ok hs, requireDtype_eq_ok,
    requireShape_eq_ok, exists_const, rowMajor_one, eq_vec_one]
  refine ⟨fun h => ⟨h.1.2, h.2.1, h.2.2⟩, fun h => ⟨⟨fun n hn => ?_, h.stride⟩, h.dtype, h.shape⟩⟩
  rw [show n = 0 by omega, tailCount_zero]
  simpa using hs 0

/-! ## `fp8_fp4_mqa_logits` -/

structure MqaDims where
  seqLen : Nat
  seqLenKv : Nat
  numHeads : Nat

def validateMqaLogitsSpec (spec : MqaLogitsSpec) (arch : Arch) : Rust MqaDims := do
  requireLogitsDtype spec.logitsDtype
  let isFp4 := spec.qScale.isSome
  throwIf (spec.cleanLogits ∧ spec.maxSeqlenK > 0)
    (.invalid "clean_logits is not supported with compressed logits")
  let seqLen := spec.q.shape 0
  let numHeads := spec.q.shape 1
  let headDim ← logicalHeadDim (spec.q.shape 2) isFp4
  let seqLenKv := spec.kv.shape 0
  throwIf (spec.kv.shape 1 ≠ physicalHeadDim headDim isFp4) (.invalid "kv head dimension does not match q")
  requireContiguous spec.q "q"
  requireContiguous spec.kv "kv"
  requireDtype spec.q (elementDtype isFp4) "q"
  requireDtype spec.kv (elementDtype isFp4) "kv"
  requireQScale spec.qScale ![seqLen, numHeads]
  requireDtype spec.kvScale (if isFp4 then .packedUe8M0 else .f32) "kv_scale"
  requireContiguous spec.kvScale "kv_scale"
  requireShape spec.kvScale.shape ![seqLenKv] "kv_scale"
  requireWeights spec.weights seqLen numHeads arch spec.logitsDtype
  requireI32Vector spec.cuSeqLenKStart seqLen "cu_seq_len_k_start"
  requireI32Vector spec.cuSeqLenKEnd seqLen "cu_seq_len_k_end"
  requireArchSupport arch isFp4 numHeads headDim
  .ok { seqLen, seqLenKv, numHeads }

def mqaLogitsLayout (spec : MqaLogitsSpec) (arch : Arch) : Rust TensorLayout2D := do
  let dims ← validateMqaLogitsSpec spec arch
  let seqLen ← usizeToI64 dims.seqLen "seq_len"
  let seqLenKv ← usizeToI64 dims.seqLenKv "seq_len_kv"
  let numHeads ← usizeToI64 dims.numHeads "num_heads"
  let maxSeqlenK ← usizeToI64 spec.maxSeqlenK "max_seqlen_k"
  let logitsDtype := spec.logitsDtype.toSys
  callLayout (CApi.mqaLogitsLayout (some { seqLen, seqLenKv, numHeads, maxSeqlenK, logitsDtype }))

/-! ## `paged_mqa_logits_metadata` -/

def validatePagedMetadataSpec (spec : PagedMqaLogitsMetadataSpec) (arch : Arch) : Rust Unit := do
  requireContiguous spec.contextLens "context_lens"
  requireDtype spec.contextLens DType.i32 "context_lens"
  let batchSize := spec.contextLens.shape 0
  let nextN := spec.contextLens.shape 1
  validateBlockKv arch spec.blockKv
  requirePositive spec.numSms "num_sms"
  requireIndices spec.indices arch batchSize nextN

def pagedMqaLogitsMetadataLayout (spec : PagedMqaLogitsMetadataSpec) (arch : Arch) :
    Rust TensorLayout2D := do
  validatePagedMetadataSpec spec arch
  let numSms ← usizeToI64 spec.numSms "num_sms"
  callLayout (CApi.pagedMqaLogitsMetadataLayout (some { numSms }))

/-! ## `fp8_fp4_paged_mqa_logits` -/

structure PagedDims where
  batchSize : Nat
  nextN : Nat

/-- The fused cache: its tail shape and its strides. -/
def requireFusedKvCache (fusedKvCache : TensorSpec 4) (tokenBytes : Nat) : Rust Unit := do
  let blockKv := fusedKvCache.shape 1
  requireDtype fusedKvCache DType.u8 "fused_kv_cache"
  let fusedBytes ← usizeAdd tokenBytes 4
  requireShape ![fusedKvCache.shape 1, fusedKvCache.shape 2, fusedKvCache.shape 3]
    ![blockKv, 1, fusedBytes] "fused_kv_cache tail shape"
  let fusedBytes := fusedKvCache.shape 3
  let blockBytes ← usizeMul blockKv fusedBytes
  throwIf ((fusedKvCache.strides 0).val ≠ i64.cast blockBytes ∨
      (fusedKvCache.strides 1).val ≠ i64.cast fusedBytes ∨
      (fusedKvCache.strides 2).val ≠ i64.cast fusedBytes ∨ (fusedKvCache.strides 3).val ≠ 1)
    (.invalid "fused_kv_cache must be contiguous [num_kv_blocks, block_kv, 1, fused_bytes]")

def validatePagedMqaLogitsSpec (spec : PagedMqaLogitsSpec) (arch : Arch) : Rust PagedDims := do
  requireLogitsDtype spec.logitsDtype
  requirePositive spec.maxContextLen "max_context_len"
  requirePositive spec.numSms "num_sms"
  throwIf spec.cleanLogits (.invalid "clean_logits is not supported for 2D paged context lengths yet")
  let isFp4 := spec.qScale.isSome
  let batchSize := spec.q.shape 0
  let nextN := spec.q.shape 1
  let numHeads := spec.q.shape 2
  let headDim ← logicalHeadDim (spec.q.shape 3) isFp4
  let blockKv := spec.fusedKvCache.shape 1
  requireContiguous spec.q "q"
  requireDtype spec.q (elementDtype isFp4) "q"
  requireQScale spec.qScale ![batchSize, nextN, numHeads]
  requireFusedKvCache spec.fusedKvCache (if isFp4 then headDim / 2 else headDim)
  let rows ← usizeMul batchSize nextN
  requireWeights spec.weights rows numHeads arch spec.logitsDtype
  require2DI32 spec.contextLens ![batchSize, nextN] "context_lens"
  throwIf (spec.blockTable.shape 0 ≠ batchSize ∨ (spec.blockTable.strides 1).val ≠ 1)
    (.invalid "block_table must be [batch_size, max_block_len] with stride(1) == 1")
  requireDtype spec.blockTable DType.i32 "block_table"
  let metaRows ← usizeAdd spec.numSms 1
  require2DI32 spec.scheduleMeta ![metaRows, 2] "schedule_meta"
  requireIndices spec.indices arch batchSize nextN
  validateBlockKv arch blockKv
  requireArchSupport arch isFp4 numHeads headDim
  throwIf (arch = .sm90 ∧ nextN ≠ 1 ∧ nextN ≠ 2) (.invalid "SM90 paged MQA requires next_n == 1 or 2")
  .ok { batchSize, nextN }

def pagedMqaLogitsLayout (spec : PagedMqaLogitsSpec) (arch : Arch) : Rust TensorLayout2D := do
  let dims ← validatePagedMqaLogitsSpec spec arch
  let batchSize ← usizeToI64 dims.batchSize "batch_size"
  let nextN ← usizeToI64 dims.nextN "next_n"
  let maxContextLen ← usizeToI64 spec.maxContextLen "max_context_len"
  let logitsDtype := spec.logitsDtype.toSys
  callLayout (CApi.pagedMqaLogitsLayout (some { batchSize, nextN, maxContextLen, logitsDtype }))

/-! ## Launches -/

structure MqaLogitsLaunch where
  q : TensorArg 3
  qScale : Option (TensorArg 2)
  kv : TensorArg 2
  kvScale : TensorArg 1
  weights : TensorArg 2
  cuSeqLenKStart : TensorArg 1
  cuSeqLenKEnd : TensorArg 1
  logits : TensorArg 2
  cleanLogits : Bool
  maxSeqlenK : Nat
  stream : Ptr

namespace MqaLogitsLaunch

def spec (params : MqaLogitsLaunch) : MqaLogitsSpec where
  q := params.q.spec
  qScale := params.qScale.map (·.spec)
  kv := params.kv.spec
  kvScale := params.kvScale.spec
  weights := params.weights.spec
  cuSeqLenKStart := params.cuSeqLenKStart.spec
  cuSeqLenKEnd := params.cuSeqLenKEnd.spec
  cleanLogits := params.cleanLogits
  maxSeqlenK := params.maxSeqlenK
  logitsDtype := params.logits.spec.dtype

def toRaw (params : MqaLogitsLaunch) : Rust Raw.MqaLogitsParams := do
  let q ← params.q.toRaw
  let qScale ← optionalTensorArg params.qScale
  let kv ← params.kv.toRaw
  let kvScale ← params.kvScale.toRaw
  let weights ← params.weights.toRaw
  let cuSeqLenKStart ← params.cuSeqLenKStart.toRaw
  let cuSeqLenKEnd ← params.cuSeqLenKEnd.toRaw
  let logits ← params.logits.toRaw
  let maxSeqlenK ← usizeToI64 params.maxSeqlenK "max_seqlen_k"
  .ok {
    q, hasQScale := params.qScale.isSome, qScale, kv, kvScale, weights, cuSeqLenKStart, cuSeqLenKEnd
    logits, cleanLogits := params.cleanLogits, maxSeqlenK, stream := params.stream }

/-- What `fp8_fp4_mqa_logits` checks before it converts its arguments. -/
def check (params : MqaLogitsLaunch) (arch : Arch) : Rust Unit := do
  let layout ← mqaLogitsLayout params.spec arch
  requireSpec params.logits.spec layout.logicalSpec "logits"

/-- The layout is `Ok` and the output spec is its logical spec. -/
def Accepted (params : MqaLogitsLaunch) (arch : Arch) : Prop :=
  ∃ layout, mqaLogitsLayout params.spec arch = .ok layout ∧ params.logits.spec = layout.logicalSpec

theorem check_eq_ok {params : MqaLogitsLaunch} {arch : Arch} {u : Unit} :
    params.check arch = .ok u ↔ params.Accepted arch := by
  simp [check, Accepted]

end MqaLogitsLaunch

structure PagedMqaLogitsMetadataLaunch where
  contextLens : TensorArg 2
  indices : Option (TensorArg 1)
  scheduleMeta : TensorArg 2
  blockKv : Nat
  numSms : Nat
  stream : Ptr

namespace PagedMqaLogitsMetadataLaunch

def spec (params : PagedMqaLogitsMetadataLaunch) : PagedMqaLogitsMetadataSpec where
  contextLens := params.contextLens.spec
  indices := params.indices.map (·.spec)
  blockKv := params.blockKv
  numSms := params.numSms

def toRaw (params : PagedMqaLogitsMetadataLaunch) : Rust Raw.PagedMqaLogitsMetadataParams := do
  let contextLens ← params.contextLens.toRaw
  let indices ← optionalTensorArg params.indices
  let scheduleMeta ← params.scheduleMeta.toRaw
  let blockKv ← usizeToI64 params.blockKv "block_kv"
  let numSms ← usizeToI64 params.numSms "num_sms"
  .ok {
    contextLens, hasIndices := params.indices.isSome, indices, scheduleMeta, blockKv, numSms
    stream := params.stream }

/-- What `paged_mqa_logits_metadata` checks before it converts its arguments. -/
def check (params : PagedMqaLogitsMetadataLaunch) (arch : Arch) : Rust Unit := do
  let layout ← pagedMqaLogitsMetadataLayout params.spec arch
  requireSpec params.scheduleMeta.spec layout.logicalSpec "schedule_meta"

/-- The layout is `Ok` and the output spec is its logical spec. -/
def Accepted (params : PagedMqaLogitsMetadataLaunch) (arch : Arch) : Prop :=
  ∃ layout, pagedMqaLogitsMetadataLayout params.spec arch = .ok layout ∧
    params.scheduleMeta.spec = layout.logicalSpec

theorem check_eq_ok {params : PagedMqaLogitsMetadataLaunch} {arch : Arch} {u : Unit} :
    params.check arch = .ok u ↔ params.Accepted arch := by
  simp [check, Accepted]

end PagedMqaLogitsMetadataLaunch

structure PagedMqaLogitsLaunch where
  q : TensorArg 4
  qScale : Option (TensorArg 3)
  fusedKvCache : TensorArg 4
  weights : TensorArg 2
  contextLens : TensorArg 2
  blockTable : TensorArg 2
  scheduleMeta : TensorArg 2
  indices : Option (TensorArg 1)
  logits : TensorArg 2
  maxContextLen : Nat
  cleanLogits : Bool
  stream : Ptr
  numSms : Nat

namespace PagedMqaLogitsLaunch

def spec (params : PagedMqaLogitsLaunch) : PagedMqaLogitsSpec where
  q := params.q.spec
  qScale := params.qScale.map (·.spec)
  fusedKvCache := params.fusedKvCache.spec
  weights := params.weights.spec
  contextLens := params.contextLens.spec
  blockTable := params.blockTable.spec
  scheduleMeta := params.scheduleMeta.spec
  indices := params.indices.map (·.spec)
  maxContextLen := params.maxContextLen
  cleanLogits := params.cleanLogits
  logitsDtype := params.logits.spec.dtype
  numSms := params.numSms

def toRaw (params : PagedMqaLogitsLaunch) : Rust Raw.PagedMqaLogitsParams := do
  let q ← params.q.toRaw
  let qScale ← optionalTensorArg params.qScale
  let fusedKvCache ← params.fusedKvCache.toRaw
  let weights ← params.weights.toRaw
  let contextLens ← params.contextLens.toRaw
  let blockTable ← params.blockTable.toRaw
  let scheduleMeta ← params.scheduleMeta.toRaw
  let indices ← optionalTensorArg params.indices
  let logits ← params.logits.toRaw
  let maxContextLen ← usizeToI64 params.maxContextLen "max_context_len"
  let numSms ← usizeToI64 params.numSms "num_sms"
  .ok {
    q, hasQScale := params.qScale.isSome, qScale, fusedKvCache, weights, contextLens, blockTable
    scheduleMeta, hasIndices := params.indices.isSome, indices, logits, maxContextLen, numSms
    cleanLogits := params.cleanLogits, stream := params.stream }

/-- What `fp8_fp4_paged_mqa_logits` checks before it converts its arguments. -/
def check (params : PagedMqaLogitsLaunch) (arch : Arch) : Rust Unit := do
  let layout ← pagedMqaLogitsLayout params.spec arch
  requireSpec params.logits.spec layout.logicalSpec "logits"

/-- The layout is `Ok` and the output spec is its logical spec. -/
def Accepted (params : PagedMqaLogitsLaunch) (arch : Arch) : Prop :=
  ∃ layout, pagedMqaLogitsLayout params.spec arch = .ok layout ∧ params.logits.spec = layout.logicalSpec

theorem check_eq_ok {params : PagedMqaLogitsLaunch} {arch : Arch} {u : Unit} :
    params.check arch = .ok u ↔ params.Accepted arch := by
  simp [check, Accepted]

end PagedMqaLogitsLaunch

end DeepGemmRs.Crate
