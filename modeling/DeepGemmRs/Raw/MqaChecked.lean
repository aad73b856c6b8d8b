import DeepGemmRs.CApi.Exact
import DeepGemmRs.Raw.Mqa

/-!
# What the native MQA entry points accept

* `mqaLogitsStride_eq`, `pagedLogitsStride_eq` : the strides are those of the layout helpers;
* `selectMqa_eq_ok`, `selectPagedMqa_eq_ok` : the conditions of each architecture;
* `MqaChecked`, `MetadataChecked`, `PagedMqaChecked` : the checks of each entry point, and
  `dispatchMqaLogits_eq_ok`, `dispatchPagedMqaLogitsMetadata_eq_ok`,
  `dispatchPagedMqaLogits_eq_ok` : a launch function is reached when they hold.
-/

namespace DeepGemmRs.Raw

open Checked MachineInt Rounding CApi

/-! ## Strides -/

theorem alignI64OrThrow_eq {value alignment : Int} {name : String} (hv : i64.Has value)
    (ha : i64.Has alignment) (h0 : 0 ≤ value) (hpos : 0 < alignment)
    (hfit : alignUp value alignment ≤ i64.hi) :
    alignI64OrThrow .machine value alignment name = .ok (alignUp value alignment) := by
  have hlo := Int.emod_nonneg value hpos.ne'
  have hlt := Int.emod_lt_of_pos value hpos
  have h1 := has_i64.mp hv
  have h2 := has_i64.mp ha
  unfold alignI64OrThrow
  simp only [Arith.machine_rem, Arith.machine_sub, Arith.machine_add]
  rw [throwIf_neg (by omega), ok_bind, IntType.rem_of_nonneg h0 hv (by decide) hpos, ok_bind]
  rw [alignUp_eq_of_emod hpos] at hfit ⊢
  by_cases hz : value % alignment = 0
  · rw [if_pos hz, if_pos hz]
  rw [if_neg hz] at hfit
  rw [if_neg hz, if_neg hz, IntType.sub_of_has (has_i64.mpr (by omega)), ok_bind]
  exact IntType.add_of_has (has_i64.mpr ⟨by omega, hfit⟩)

theorem rowAlignment_le {dtype : DTypeCode} (h : IsLogits dtype) : rowAlignment dtype ≤ 512 := by
  rcases h with rfl | rfl <;> decide

theorem dtypeElementSize_pos {dtype : DTypeCode} (h : IsLogits dtype) : 0 < dtypeElementSize dtype := by
  rcases h with rfl | rfl <;> decide

/-- An `int` is aligned without overflow. -/
theorem alignI64_eq_of_int {value alignment : Int} (h0 : 0 ≤ value) (hv : value ≤ 4294967296)
    (hpos : 0 < alignment) (ha : alignment ≤ 512) :
    alignI64 .machine value alignment = .ok (alignUp value alignment) := by
  have hlt : alignUp value alignment < value + alignment := alignUp_lt hpos
  exact alignI64OrThrow_eq (has_i64.mpr (by omega)) (has_i64.mpr (by omega)) h0 hpos
    (by simp only [i64]; omega)

theorem mqaLogitsStride_eq {seqLenKv maxSeqlenK : Int} {dtype : DTypeCode} (hd : IsLogits dtype)
    (h0 : 0 ≤ seqLenKv) (hkv : seqLenKv ≤ i32.hi) (h1 : 0 ≤ maxSeqlenK) (hk : maxSeqlenK ≤ i32.hi) :
    mqaLogitsStride seqLenKv maxSeqlenK 256 dtype = .ok (logitsStride seqLenKv maxSeqlenK dtype) := by
  have hapos := rowAlignment_pos hd
  have hale := rowAlignment_le hd
  have hdiv : (i64.div 1024 (dtypeElementSize dtype) : Native Int) = .ok (rowAlignment dtype) :=
    div_storageSize hd
  simp only [i32] at hkv hk
  unfold mqaLogitsStride logitsStride
  simp only [throwIf_neg (not_le.mpr (dtypeElementSize_pos hd)), ok_bind, hdiv]
  by_cases hz : maxSeqlenK = 0
  · rw [if_pos hz, if_pos hz, IntType.add_of_has (has_i64.mpr (by omega)), ok_bind]
    exact alignI64_eq_of_int (by omega) (by omega) hapos hale
  · have hlt : alignUp maxSeqlenK 256 < maxSeqlenK + 256 := alignUp_lt (by decide)
    have hle : maxSeqlenK ≤ alignUp maxSeqlenK 256 := le_alignUp (by decide)
    rw [if_neg hz, if_neg hz, alignI64_eq_of_int h1 (by omega) (by decide) (by decide), ok_bind]
    exact alignI64_eq_of_int (by omega) (by omega) hapos hale

theorem pagedLogitsStride_eq {maxContextLen : Int} {dtype : DTypeCode} (hd : IsLogits dtype)
    (h0 : 0 ≤ maxContextLen) (hk : maxContextLen ≤ i32.hi) :
    pagedLogitsStride maxContextLen dtype = .ok (pagedStride maxContextLen dtype) := by
  have hdiv : (i64.div 1024 (dtypeElementSize dtype) : Native Int) = .ok (rowAlignment dtype) :=
    div_storageSize hd
  have hlt : alignUp maxContextLen 256 < maxContextLen + 256 := alignUp_lt (by decide)
  have hle : maxContextLen ≤ alignUp maxContextLen 256 := le_alignUp (by decide)
  simp only [i32] at hk
  unfold pagedLogitsStride
  simp only [throwIf_neg (not_le.mpr (dtypeElementSize_pos hd)), ok_bind, hdiv]
  rw [alignI64_eq_of_int h0 (by omega) (by decide) (by decide), ok_bind]
  exact alignI64_eq_of_int (by omega) (by omega) (rowAlignment_pos hd) (rowAlignment_le hd)

/-! ## Single checks -/

variable {device : DeviceInfo} {u : Unit}

theorem requireLogitsDtype_eq_ok {dtype : DTypeCode} :
    requireLogitsDtype dtype = .ok u ↔ IsLogits dtype := by
  rw [requireLogitsDtype, throwIf_eq_ok, IsLogits]
  tauto

theorem requireContiguous2DI32_eq_ok {t : RawTensor} {name : String} :
    requireContiguous2DI32 t name = .ok u ↔
      (t.rank = 2 ∧ t.data ≠ 0) ∧ t.dtype = DTypeCode.i32 ∧ 0 < (t.shape 0).val ∧ 0 < (t.shape 1).val ∧
        (t.stride 0).val = t.shape 1 ∧ (t.stride 1).val = 1 := by
  simp only [requireContiguous2DI32, bind_eq_ok, requireTensorRank_eq_ok, requireDtype_eq_ok,
    throwIf_eq_ok, exists_const, not_or, not_le, not_not]

theorem requireContiguous1DI32_eq_ok {t : RawTensor} {len : Int} {name : String} :
    requireContiguous1DI32 t len name = .ok u ↔
      (t.rank = 1 ∧ t.data ≠ 0) ∧ t.dtype = DTypeCode.i32 ∧ (t.shape 0).val = len ∧
        (t.stride 0).val = 1 := by
  simp only [requireContiguous1DI32, bind_eq_ok, requireTensorRank_eq_ok, requireDtype_eq_ok,
    throwIf_eq_ok, exists_const, not_or, not_not]

theorem requireLogitsOutput_eq_ok {t : RawTensor} {rows cols stride : Int} {name : String} :
    requireLogitsOutput t rows cols stride name = .ok u ↔
      (t.rank = 2 ∧ t.data ≠ 0) ∧ IsLogits t.dtype ∧ (t.shape 0).val = rows ∧ (t.shape 1).val = cols ∧
        (t.stride 0).val = stride ∧ (t.stride 1).val = 1 := by
  simp only [requireLogitsOutput, bind_eq_ok, requireTensorRank_eq_ok, requireLogitsDtype_eq_ok,
    throwIf_eq_ok, exists_const, not_or, not_not]

theorem requireScheduleMeta_eq_ok {t : RawTensor} {numSms : Int} :
    requireScheduleMeta t numSms = .ok u ↔
      (t.rank = 2 ∧ t.data ≠ 0) ∧ t.dtype = DTypeCode.i32 ∧ i64.Has (numSms + 1) ∧
        (t.shape 0).val = numSms + 1 ∧ (t.shape 1).val = 2 ∧ (t.stride 0).val = 2 ∧
        (t.stride 1).val = 1 := by
  simp only [requireScheduleMeta, bind_eq_ok, requireTensorRank_eq_ok, requireDtype_eq_ok, throwIf_eq_ok,
    IntType.add_eq_ok, exists_const, not_or, not_not]
  refine and_congr_right fun _ => and_congr_right fun _ => ⟨?_, fun h => ⟨_, ⟨h.1, rfl⟩, h.2⟩⟩
  rintro ⟨_, ⟨h1, rfl⟩, h2⟩
  exact ⟨h1, h2⟩

theorem requireIndices_eq_ok {isVarlen : Bool} {t : RawTensor} {batchSize : Int} :
    requireIndices isVarlen t batchSize = .ok u ↔
      (isVarlen = true → requireContiguous1DI32 t batchSize "indices" = .ok ()) := by
  cases isVarlen <;> simp [requireIndices]

/-- The fused cache in full: no empty axis, the token size, contiguous strides, whole words. -/
theorem requireFusedKvCache_eq_ok {t : RawTensor} {bytes : Int} (h0 : 0 ≤ bytes) :
    requireFusedKvCache t bytes = .ok u ↔
      (t.rank = 4 ∧ t.data ≠ 0) ∧ t.dtype = DTypeCode.u8 ∧ (∀ i, 0 < (t.shape i).val) ∧
      i64.Has (bytes + 4) ∧ ((t.shape 2).val = 1 ∧ (t.shape 3).val = bytes + 4) ∧
      i64.Has (t.shape 1 * (bytes + 4)) ∧
      ((t.stride 0).val = t.shape 1 * (bytes + 4) ∧ (t.stride 1).val = bytes + 4 ∧
        (t.stride 2).val = bytes + 4 ∧ (t.stride 3).val = 1) ∧
      (t.stride 0).val % 4 = 0 := by
  simp only [requireFusedKvCache, bind_eq_ok, requireTensorRank_eq_ok, requireDtype_eq_ok,
    requireShapePositive_eq_ok, throwIf_eq_ok, IntType.add_eq_ok, IntType.mul_eq_ok, exists_const, not_or,
    not_not]
  have hrem : ∀ hpos : ∀ i, 0 < (t.shape i).val, (t.stride 0).val = t.shape 1 * (bytes + 4) →
      (i64.rem (t.stride 0) 4 : Native Int) = .ok ((t.stride 0).val % 4) := by
    intro hpos hs
    have h1 := hpos 1
    have hnonneg : 0 ≤ (t.shape 1).val * (bytes + 4) := Int.mul_nonneg h1.le (by omega)
    exact IntType.rem_of_nonneg (by omega) (t.stride 0).2 (by decide) (by decide)
  refine ⟨?_, ?_⟩
  · rintro ⟨hr, hd, hpos, _, ⟨h1, rfl⟩, hshape, _, ⟨h2, rfl⟩, hst, _, hm, rfl⟩
    have hp : ∀ i, 0 < (t.shape i).val := hpos
    rw [hrem hp hst.1] at hm
    exact ⟨hr, hd, hp, h1, hshape, h2, hst, Except.ok.inj hm⟩
  · rintro ⟨hr, hd, hpos, h1, hshape, h2, hst, hm⟩
    exact ⟨hr, hd, fun i => hpos i, _, ⟨h1, rfl⟩, hshape, _, ⟨h2, rfl⟩, hst, _, hrem hpos hst.1, hm⟩

/-- The logical head dimension of a tensor with `physical` elements a row. -/
def headDimOf (isFp4 : Bool) (physical : Int) : Int := if isFp4 then physical * 2 else physical

theorem logicalHeadDim_eq_ok {isFp4 : Bool} {physical r : Int} (hp : i64.Has physical) :
    logicalHeadDim isFp4 physical = .ok r ↔
      i64.Has (headDimOf isFp4 physical) ∧ headDimOf isFp4 physical = r := by
  cases isFp4
  · simp [logicalHeadDim, headDimOf, hp]
  · simp [logicalHeadDim, headDimOf]

theorem packedHeadDim_eq_ok {isFp4 : Bool} {physical r : Int} (h0 : 0 ≤ physical)
    (hh : i64.Has (headDimOf isFp4 physical)) :
    packedHeadDim isFp4 (headDimOf isFp4 physical) = .ok r ↔ physical = r := by
  cases isFp4
  · simp [packedHeadDim, headDimOf]
  · have he : headDimOf true physical = physical * 2 := rfl
    rw [he] at hh ⊢
    rw [packedHeadDim, if_pos rfl, IntType.div_of_nonneg (by omega) hh (by decide) (by decide),
      Int.mul_ediv_cancel physical (by decide), Except.ok.injEq]

/-- The head counts and head dimensions an architecture supports. -/
def Sm90Shape (numHeads headDim : Int) : Prop :=
  (numHeads = 32 ∨ numHeads = 64) ∧ (headDim = 32 ∨ headDim = 64 ∨ headDim = 128)

def Sm100Shape (isFp4 : Bool) (numHeads headDim : Int) : Prop :=
  (numHeads = 8 ∨ numHeads = 16 ∨ numHeads = 32 ∨ numHeads = 64) ∧
    (headDim = 64 ∨ headDim = 128 ∨ headDim = 32 ∧ isFp4 = false)

theorem requireSm90Shape_eq_ok {numHeads headDim : Int} {kernel : String} :
    requireSm90Shape numHeads headDim kernel = .ok u ↔ Sm90Shape numHeads headDim := by
  rw [requireSm90Shape, throwIf_eq_ok, Sm90Shape]
  omega

theorem requireSm100Shape_eq_ok {isFp4 : Bool} {numHeads headDim : Int} {kernel : String} :
    requireSm100Shape isFp4 numHeads headDim kernel = .ok u ↔ Sm100Shape isFp4 numHeads headDim := by
  unfold requireSm100Shape Sm100Shape
  cases isFp4 <;> simp <;> omega

/-! ## `launch_fp8_fp4_mqa_logits` -/

/-- The arguments an entry point that runs to its end computes. -/
def MqaLogitsParams.args (params : MqaLogitsParams) : MqaArgs where
  seqLen := params.q.shape 0
  seqLenKv := params.kv.shape 0
  numHeads := params.q.shape 1
  headDim := headDimOf params.hasQScale (params.q.shape 2)
  blockQ := 128 / params.q.shape 1
  blockKv := 256
  strideLogits := logitsStride (params.kv.shape 0) params.maxSeqlenK params.logits.dtype

def MqaLogitsParams.logitsCols (params : MqaLogitsParams) : Int :=
  if params.maxSeqlenK.val = 0 then params.kv.shape 0 else params.maxSeqlenK

/-- A matrix of weights: one row a token, contiguous over the heads. -/
structure WeightsChecked (weights : RawTensor) (rows heads : Int) : Prop where
  rank : weights.rank = 2
  data : weights.data ≠ 0
  rows : (weights.shape 0).val = rows
  heads : (weights.shape 1).val = heads
  stride : (weights.stride 1).val = 1
  dtype : weights.dtype = DTypeCode.f32 ∨ weights.dtype = DTypeCode.bf16

structure MqaChecked (params : MqaLogitsParams) : Prop where
  q : requireContiguous params.q 3 "q" = .ok ()
  kv : requireContiguous params.kv 2 "kv" = .ok ()
  kvWidth : (params.kv.shape 1).val = params.q.shape 2
  format : requireMqaFormat params (params.q.shape 0) (params.q.shape 1) = .ok ()
  kvScale : requireContiguous params.kvScale 1 "kv_scale" = .ok ()
  kvScaleLen : (params.kvScale.shape 0).val = params.kv.shape 0
  weights : WeightsChecked params.weights (params.q.shape 0) (params.q.shape 1)
  cuSeqLenKStart : requireI32Vector params.cuSeqLenKStart (params.q.shape 0) "cu_seq_len_k_start" = .ok ()
  cuSeqLenKEnd : requireI32Vector params.cuSeqLenKEnd (params.q.shape 0) "cu_seq_len_k_end" = .ok ()
  cleanLogits : ¬ (params.cleanLogits = true ∧ 0 < params.maxSeqlenK.val)
  seqLen : params.args.seqLen ≤ i32.hi
  seqLenKv : params.args.seqLenKv ≤ i32.hi
  numHeads : params.args.numHeads ≤ i32.hi
  headDim : params.args.headDim ≤ i32.hi
  maxSeqlenK : 0 ≤ params.maxSeqlenK.val ∧ params.maxSeqlenK.val ≤ i32.hi
  divides : 128 % params.args.numHeads = 0
  logits : requireLogitsOutput params.logits (params.q.shape 0) params.logitsCols params.args.strideLogits
    "logits" = .ok ()

theorem shape_pos_of_requireContiguous {t : RawTensor} {rank : Fin 5} {name : String}
    (h : requireContiguous t rank name = .ok u) (i : Fin 4) (hi : i.val < rank.val) :
    0 < (t.shape i).val := by
  simp only [requireContiguous, bind_eq_ok, requireShapePositive_eq_ok, exists_const] at h
  obtain ⟨_, -, hpos, -⟩ := h
  exact hpos ⟨i.val, hi⟩

theorem selectMqa_eq_ok {params : MqaLogitsParams} {args : MqaArgs} {d : MqaDispatch} :
    selectMqa device params args = .ok d ↔
      (device.major = 9 ∧ params.hasQScale = false ∧ params.weights.dtype = DTypeCode.f32 ∧
        Sm90Shape args.numHeads args.headDim ∧ d = .sm90 args) ∨
      (device.major = 10 ∧
        ¬ (params.weights.dtype = DTypeCode.bf16 ∧ params.logits.dtype ≠ DTypeCode.bf16) ∧
        Sm100Shape params.hasQScale args.numHeads args.headDim ∧ d = .sm100 params.hasQScale args) := by
  unfold selectMqa
  by_cases h9 : device.major = 9
  · simp [h9, requireSm90Shape_eq_ok, @eq_comm _ d]
  by_cases h10 : device.major = 10
  · simp only [h10, Int.reduceEq, if_false, if_true, bind_eq_ok, throwIf_eq_ok, requireSm100Shape_eq_ok,
      exists_const, Except.ok.injEq, @eq_comm _ d, false_and, false_or, true_and]
  · simp [h9, h10]

theorem dispatchMqaLogits_eq_ok {params : MqaLogitsParams} {d : MqaDispatch} :
    dispatchMqaLogits device params = .ok d ↔
      MqaChecked params ∧ selectMqa device params params.args = .ok d := by
  have hphys : i64.Has (params.q.shape 2).val := (params.q.shape 2).2
  simp only [dispatchMqaLogits, bind_eq_ok, throwIf_eq_ok, asI32_eq_ok, exists_const,
    requireTensorRank_eq_ok, requireShapePositive_eq_ok, logicalHeadDim_eq_ok hphys, not_not, not_or]
  refine ⟨?_, ?_⟩
  · intro h
    simp only [and_assoc, exists_and_left, exists_eq_left'] at h
    obtain ⟨_, hq, _, hkv, hhas, _, hpacked, hwidth, _, hformat, _, hscale, hscaleLen, hwrank, hwdata, -,
      hw0, hw1, hws, hwd, _, hstart, _, hend, _, hld, hclean, h⟩ := h
    obtain ⟨-, hseq, hseqKv0, hseqKv, -, hheads, -, hdim, hmax0, hmax, _, hrem, h0, _, hdiv, _, hstride, _,
      hlogits, hselect⟩ := h
    have hpos0 : 0 < (params.q.shape 0).val := shape_pos_of_requireContiguous hq 0 (by decide)
    have hpos1 : 0 < (params.q.shape 1).val := shape_pos_of_requireContiguous hq 1 (by decide)
    have hpos2 : 0 < (params.q.shape 2).val := shape_pos_of_requireContiguous hq 2 (by decide)
    have hld := requireLogitsDtype_eq_ok.mp hld
    rw [packedHeadDim_eq_ok hpos2.le hhas] at hpacked
    rw [IntType.rem_of_nonneg (by decide) (by decide) (by decide) hpos1] at hrem
    rw [IntType.div_of_nonneg (by decide) (by decide) (by decide) hpos1] at hdiv
    rw [mqaLogitsStride_eq hld hseqKv0 hseqKv hmax0 hmax] at hstride
    cases hdiv
    cases hstride
    subst h0
    refine ⟨⟨hq, hkv, hwidth.trans hpacked.symm, hformat, hscale, hscaleLen,
      ⟨hwrank, hwdata, hw0, hw1, hws, by tauto⟩, hstart, hend, hclean, hseq, hseqKv, hheads, hdim,
      ⟨hmax0, hmax⟩, Except.ok.inj hrem, hlogits⟩, hselect⟩
  · rintro ⟨h, hselect⟩
    have hpos0 : 0 < (params.q.shape 0).val := shape_pos_of_requireContiguous h.q 0 (by decide)
    have hpos1 : 0 < (params.q.shape 1).val := shape_pos_of_requireContiguous h.q 1 (by decide)
    have hpos2 : 0 < (params.q.shape 2).val := shape_pos_of_requireContiguous h.q 2 (by decide)
    have hposKv : 0 < (params.kv.shape 0).val := shape_pos_of_requireContiguous h.kv 0 (by decide)
    have hld := (requireLogitsOutput_eq_ok.mp h.logits).2.1
    have hdimpos : 0 ≤ headDimOf params.hasQScale (params.q.shape 2) := by
      unfold headDimOf; split <;> omega
    have hhas : i64.Has (headDimOf params.hasQScale (params.q.shape 2)) :=
      has_i64.mpr ⟨by omega, h.headDim.trans (by decide)⟩
    have hwpos : ∀ i : Fin (2 : Fin 5), 0 < (params.weights.shape (i.castLE (2 : Fin 5).is_le)).val :=
      Fin.forall_fin_two.mpr ⟨h.weights.rows ▸ hpos0, h.weights.heads ▸ hpos1⟩
    exact ⟨_, h.q, _, h.kv, _, ⟨hhas, rfl⟩, _, (packedHeadDim_eq_ok hpos2.le hhas).mpr rfl, h.kvWidth, _,
      h.format, _, h.kvScale, h.kvScaleLen, ⟨h.weights.rank, h.weights.data⟩, hwpos,
      ⟨h.weights.rows, h.weights.heads, h.weights.stride⟩,
      fun hn => h.weights.dtype.elim hn.1 hn.2, _, h.cuSeqLenKStart, _, h.cuSeqLenKEnd, (),
      requireLogitsDtype_eq_ok.mpr hld, h.cleanLogits, _, ⟨⟨hpos0.le, h.seqLen⟩, rfl⟩, _,
      ⟨⟨hposKv.le, h.seqLenKv⟩, rfl⟩, _, ⟨⟨hpos1.le, h.numHeads⟩, rfl⟩, _, ⟨⟨hdimpos, h.headDim⟩, rfl⟩, _,
      ⟨h.maxSeqlenK, rfl⟩, _, (IntType.rem_of_nonneg (by decide) (by decide) (by decide) hpos1),
      h.divides, _, (IntType.div_of_nonneg (by decide) (by decide) (by decide) hpos1), _,
      mqaLogitsStride_eq hld hposKv.le h.seqLenKv h.maxSeqlenK.1 h.maxSeqlenK.2, _, h.logits, hselect⟩

/-! ## `launch_paged_mqa_logits_metadata` -/

structure MetadataChecked (device : DeviceInfo) (params : PagedMqaLogitsMetadataParams) : Prop where
  contextLens : requireContiguous2DI32 params.contextLens "context_lens" = .ok ()
  numSmsPos : 0 < params.numSms.val
  scheduleMeta : requireScheduleMeta params.scheduleMeta params.numSms = .ok ()
  indices : requireIndices params.hasIndices params.indices (params.contextLens.shape 0) = .ok ()
  batchSize : (params.contextLens.shape 0).val ≤ i32.hi
  nextN : (params.contextLens.shape 1).val ≤ i32.hi
  numSms : params.numSms.val ≤ i32.hi
  blockKv : 0 ≤ params.blockKv.val ∧ params.blockKv.val ≤ i32.hi
  deviceSms : params.numSms.val ≤ device.numSms.val

theorem selectMetadata_eq_ok {isVarlen : Bool} {batchSize nextN numSms blockKv : Int}
    {d : MetadataDispatch} :
    selectMetadata device isVarlen batchSize nextN numSms blockKv = .ok d ↔
      (device.major = 9 ∧ isVarlen = false ∧ blockKv = 64 ∧ d = .sm90 batchSize nextN numSms false) ∨
      (device.major = 10 ∧ (blockKv = 32 ∨ blockKv = 64) ∧ (isVarlen = true → nextN = 1) ∧
        d = .sm100 batchSize nextN numSms isVarlen) := by
  unfold selectMetadata
  by_cases h9 : device.major = 9
  · simp [h9, @eq_comm _ d]
  by_cases h10 : device.major = 10
  · simp only [h10, Int.reduceEq, if_false, if_true, bind_eq_ok, throwIf_eq_ok, exists_const,
      Except.ok.injEq, @eq_comm _ d, false_and, false_or, true_and]
    refine and_congr (by omega) (and_congr ?_ Iff.rfl)
    rw [not_and, not_not]
  · simp [h9, h10]

theorem dispatchPagedMqaLogitsMetadata_eq_ok {params : PagedMqaLogitsMetadataParams} {d : MetadataDispatch} :
    dispatchPagedMqaLogitsMetadata device params = .ok d ↔
      MetadataChecked device params ∧
        selectMetadata device params.hasIndices (params.contextLens.shape 0) (params.contextLens.shape 1)
          params.numSms params.blockKv = .ok d := by
  simp only [dispatchPagedMqaLogitsMetadata, bind_eq_ok, throwIf_eq_ok, asI32_eq_ok, exists_const, not_le,
    gt_iff_lt, not_lt]
  constructor
  · rintro ⟨_, hlens, hsms, _, hmeta, _, hindices, _, ⟨hb, rfl⟩, _, ⟨hn, rfl⟩, _, ⟨hs, rfl⟩, _, ⟨hk, rfl⟩,
      hdev, hselect⟩
    exact ⟨⟨hlens, hsms, hmeta, hindices, hb.2, hn.2, hs.2, hk, hdev⟩, hselect⟩
  · rintro ⟨h, hselect⟩
    obtain ⟨-, -, hpos0, hpos1, -⟩ := requireContiguous2DI32_eq_ok.mp h.contextLens
    exact ⟨_, h.contextLens, h.numSmsPos, _, h.scheduleMeta, _, h.indices, _, ⟨⟨hpos0.le, h.batchSize⟩, rfl⟩,
      _, ⟨⟨hpos1.le, h.nextN⟩, rfl⟩, _, ⟨⟨h.numSmsPos.le, h.numSms⟩, rfl⟩, _, ⟨h.blockKv, rfl⟩, h.deviceSms,
      hselect⟩

/-! ## `launch_fp8_fp4_paged_mqa_logits` -/

/-- The arguments an entry point that runs to its end computes. -/
def PagedMqaLogitsParams.args (params : PagedMqaLogitsParams) : PagedMqaArgs where
  batchSize := params.q.shape 0
  nextN := params.q.shape 1
  numHeads := params.q.shape 2
  headDim := headDimOf params.hasQScale (params.q.shape 3)
  numKvBlocks := params.fusedKvCache.shape 0
  blockKv := params.fusedKvCache.shape 1
  strideLogits := pagedStride params.maxContextLen params.logits.dtype
  blockTableStride := params.blockTable.stride 0
  numSms := params.numSms

structure PagedMqaChecked (device : DeviceInfo) (params : PagedMqaLogitsParams) : Prop where
  q : requireContiguous params.q 4 "q" = .ok ()
  format : requirePagedFormat params (params.q.shape 0) (params.q.shape 1) (params.q.shape 2) = .ok ()
  fusedKvCache : requireFusedKvCache params.fusedKvCache (params.q.shape 3) = .ok ()
  rows : i64.Has (params.q.shape 0 * params.q.shape 1)
  weights : WeightsChecked params.weights (params.q.shape 0 * params.q.shape 1) (params.q.shape 2)
  weightsRow : params.hasQScale = false → (params.weights.stride 0).val = params.q.shape 2
  contextLens : requireContiguous2DI32 params.contextLens "context_lens" = .ok ()
  contextLensShape : (params.contextLens.shape 0).val = params.q.shape 0 ∧
    (params.contextLens.shape 1).val = params.q.shape 1
  blockTable : requireTensorRank params.blockTable 2 "block_table" = .ok ()
  blockTableDtype : params.blockTable.dtype = DTypeCode.i32
  blockTableShape : (params.blockTable.shape 0).val = params.q.shape 0 ∧ 0 < (params.blockTable.shape 1).val ∧
    (params.blockTable.stride 1).val = 1
  numSms : 0 < params.numSms.val ∧ params.numSms.val ≤ device.numSms.val
  scheduleMeta : requireContiguous2DI32 params.scheduleMeta "schedule_meta" = .ok ()
  scheduleMetaShape : (params.scheduleMeta.shape 0).val = params.numSms + 1 ∧
    (params.scheduleMeta.shape 1).val = 2
  indices : requireIndices params.hasIndices params.indices (params.q.shape 0) = .ok ()
  maxContextLen : 0 < params.maxContextLen.val ∧ params.maxContextLen.val ≤ i32.hi
  cleanLogits : params.cleanLogits = false
  batchSizeInt : params.args.batchSize ≤ i32.hi
  nextNInt : params.args.nextN ≤ i32.hi
  numHeadsInt : params.args.numHeads ≤ i32.hi
  headDimInt : params.args.headDim ≤ i32.hi
  numKvBlocksInt : params.args.numKvBlocks ≤ i32.hi
  blockKvInt : params.args.blockKv ≤ i32.hi
  numSmsInt : params.args.numSms ≤ i32.hi
  blockTableStrideInt : 0 ≤ params.args.blockTableStride ∧ params.args.blockTableStride ≤ i32.hi
  logits : requireLogitsOutput params.logits (params.q.shape 0 * params.q.shape 1) params.maxContextLen
    params.args.strideLogits "logits" = .ok ()
  divides : 128 % params.args.numHeads = 0

theorem shape_pos_of_requireFusedKvCache {t : RawTensor} {bytes : Int}
    (h : requireFusedKvCache t bytes = .ok u) (i : Fin 4) : 0 < (t.shape i).val := by
  simp only [requireFusedKvCache, bind_eq_ok, requireShapePositive_eq_ok, exists_const] at h
  obtain ⟨_, -, _, -, hpos, -⟩ := h
  exact hpos i

theorem selectPagedMqa_eq_ok {params : PagedMqaLogitsParams} {args : PagedMqaArgs} {d : PagedMqaDispatch} :
    selectPagedMqa device params args = .ok d ↔
      (device.major = 9 ∧ params.hasQScale = false ∧ params.hasIndices = false ∧
        params.weights.dtype = DTypeCode.f32 ∧ args.blockKv = 64 ∧ (args.nextN = 1 ∨ args.nextN = 2) ∧
        Sm90Shape args.numHeads args.headDim ∧ d = .sm90 args) ∨
      (device.major = 10 ∧
        ¬ (params.weights.dtype = DTypeCode.bf16 ∧ params.logits.dtype ≠ DTypeCode.bf16) ∧
        (params.hasIndices = true → args.nextN = 1) ∧ (args.blockKv = 32 ∨ args.blockKv = 64) ∧
        Sm100Shape params.hasQScale args.numHeads args.headDim ∧ d = .sm100 params.hasQScale args) := by
  unfold selectPagedMqa
  by_cases h9 : device.major = 9
  · simp only [h9, if_true, Int.reduceEq, bind_eq_ok, throwIf_eq_ok, requireSm90Shape_eq_ok, exists_const,
      Except.ok.injEq, @eq_comm _ d, false_and, or_false, true_and, not_not, Bool.not_eq_true]
    refine and_congr_right fun _ => and_congr_right fun _ => and_congr_right fun _ =>
      and_congr_right fun _ => and_congr (by omega) Iff.rfl
  by_cases h10 : device.major = 10
  · simp only [h10, Int.reduceEq, if_false, if_true, bind_eq_ok, throwIf_eq_ok, requireSm100Shape_eq_ok,
      exists_const, Except.ok.injEq, @eq_comm _ d, false_and, false_or, true_and]
    refine and_congr_right fun _ => and_congr ?_ (and_congr (by omega) Iff.rfl)
    rw [not_and, not_not]
  · simp [h9, h10]

theorem dispatchPagedMqaLogits_eq_ok {params : PagedMqaLogitsParams} {d : PagedMqaDispatch} :
    dispatchPagedMqaLogits device params = .ok d ↔
      PagedMqaChecked device params ∧ selectPagedMqa device params params.args = .ok d := by
  have hphys : i64.Has (params.q.shape 3).val := (params.q.shape 3).2
  simp only [dispatchPagedMqaLogits, bind_eq_ok, throwIf_eq_ok, asI32_eq_ok, exists_const,
    requireTensorRank_eq_ok, requireDtype_eq_ok, requireShapePositive_eq_ok, logicalHeadDim_eq_ok hphys,
    IntType.mul_eq_ok, IntType.add_eq_ok, not_not, not_or, not_le, gt_iff_lt, not_lt]
  refine ⟨?_, ?_⟩
  · intro h
    simp only [and_assoc, exists_and_left, exists_eq_left'] at h
    obtain ⟨_, hq, hhas, _, hformat, _, hpacked, _, hfused, hwrank, hwdata, -, hrows, hw0, hw1, hws, hwrow,
      hwd, _, hlens, hl0, hl1, h⟩ := h
    obtain ⟨hbt0, hbt1, hbtd, hbtpos, hb0, hbs, hs0, hs1, _, hmeta, -, hm0, hm1, _, hindices, _, hld, hmax0,
      hclean, -, hbi, -, hni, -, hhi, -, hdi, h⟩ := h
    obtain ⟨-, hkvi, -, hbki, -, hmi, -, hsi, hbti0, hbti, _, hstride, -, _, hlogits, _, hrem, h0, hselect⟩ := h
    have hpos2 : 0 < (params.q.shape 2).val := shape_pos_of_requireContiguous hq 2 (by decide)
    have hpos3 : 0 < (params.q.shape 3).val := shape_pos_of_requireContiguous hq 3 (by decide)
    have hld := requireLogitsDtype_eq_ok.mp hld
    rw [packedHeadDim_eq_ok hpos3.le hhas] at hpacked
    cases hpacked
    rw [IntType.rem_of_nonneg (by decide) (by decide) (by decide) hpos2] at hrem
    rw [pagedLogitsStride_eq hld hmax0.le hmi] at hstride
    cases hstride
    subst h0
    exact ⟨⟨hq, hformat, hfused, hrows, ⟨hwrank, hwdata, hw0, hw1, hws, by tauto⟩,
      fun hf => by_contra fun hn => hwrow ⟨by rw [hf]; decide, hn⟩, hlens, ⟨hl0, hl1⟩,
      requireTensorRank_eq_ok.mpr ⟨hbt0, hbt1⟩, hbtd, ⟨hb0, hbtpos ⟨1, by decide⟩, hbs⟩, ⟨hs0, hs1⟩, hmeta,
      ⟨hm0, hm1⟩, hindices, ⟨hmax0, hmi⟩, Bool.not_eq_true _ ▸ hclean, hbi, hni, hhi, hdi, hkvi, hbki, hsi,
      ⟨hbti0, hbti⟩, hlogits, Except.ok.inj hrem⟩, hselect⟩
  · rintro ⟨h, hselect⟩
    have hpos0 : 0 < (params.q.shape 0).val := shape_pos_of_requireContiguous h.q 0 (by decide)
    have hpos1 : 0 < (params.q.shape 1).val := shape_pos_of_requireContiguous h.q 1 (by decide)
    have hpos2 : 0 < (params.q.shape 2).val := shape_pos_of_requireContiguous h.q 2 (by decide)
    have hpos3 : 0 < (params.q.shape 3).val := shape_pos_of_requireContiguous h.q 3 (by decide)
    have hkv0 := shape_pos_of_requireFusedKvCache h.fusedKvCache 0
    have hkv1 := shape_pos_of_requireFusedKvCache h.fusedKvCache 1
    have hld := (requireLogitsOutput_eq_ok.mp h.logits).2.1
    have hdimpos : 0 ≤ headDimOf params.hasQScale (params.q.shape 3) := by
      unfold headDimOf; split <;> omega
    have hhas : i64.Has (headDimOf params.hasQScale (params.q.shape 3)) :=
      has_i64.mpr ⟨by omega, h.headDimInt.trans (by decide)⟩
    have hrowspos : 0 < (params.q.shape 0).val * (params.q.shape 1).val := Int.mul_pos hpos0 hpos1
    have hwpos : ∀ i : Fin (2 : Fin 5), 0 < (params.weights.shape (i.castLE (2 : Fin 5).is_le)).val :=
      Fin.forall_fin_two.mpr ⟨h.weights.rows ▸ hrowspos, h.weights.heads ▸ hpos2⟩
    have hbtpos : ∀ i : Fin (2 : Fin 5), 0 < (params.blockTable.shape (i.castLE (2 : Fin 5).is_le)).val :=
      Fin.forall_fin_two.mpr ⟨h.blockTableShape.1 ▸ hpos0, h.blockTableShape.2.1⟩
    have hsms := h.numSmsInt
    have hmeta : i64.Has (params.numSms.val + 1) := h.scheduleMetaShape.1 ▸ (params.scheduleMeta.shape 0).2
    exact ⟨_, h.q, _, ⟨hhas, rfl⟩, _, h.format, _, (packedHeadDim_eq_ok hpos3.le hhas).mpr rfl, _,
      h.fusedKvCache, ⟨h.weights.rank, h.weights.data⟩, hwpos, _, ⟨h.rows, rfl⟩,
      ⟨h.weights.rows, h.weights.heads, h.weights.stride⟩,
      fun hn => hn.2 (h.weightsRow (Bool.eq_false_iff.mpr hn.1)),
      fun hn => h.weights.dtype.elim hn.1 hn.2, _, h.contextLens, h.contextLensShape,
      requireTensorRank_eq_ok.mp h.blockTable, h.blockTableDtype, hbtpos,
      ⟨h.blockTableShape.1, h.blockTableShape.2.2⟩, h.numSms, _, h.scheduleMeta, _, ⟨hmeta, rfl⟩,
      h.scheduleMetaShape, _, h.indices, (), requireLogitsDtype_eq_ok.mpr hld, h.maxContextLen.1,
      by rw [h.cleanLogits]; decide, _, ⟨⟨hpos0.le, h.batchSizeInt⟩, rfl⟩, _, ⟨⟨hpos1.le, h.nextNInt⟩, rfl⟩,
      _, ⟨⟨hpos2.le, h.numHeadsInt⟩, rfl⟩, _, ⟨⟨hdimpos, h.headDimInt⟩, rfl⟩, _,
      ⟨⟨hkv0.le, h.numKvBlocksInt⟩, rfl⟩, _, ⟨⟨hkv1.le, h.blockKvInt⟩, rfl⟩, _,
      ⟨⟨h.maxContextLen.1.le, h.maxContextLen.2⟩, rfl⟩, _, ⟨⟨h.numSms.1.le, h.numSmsInt⟩, rfl⟩, _,
      ⟨h.blockTableStrideInt, rfl⟩, _, pagedLogitsStride_eq hld h.maxContextLen.1.le h.maxContextLen.2, _,
      ⟨h.rows, rfl⟩, _, h.logits, _, IntType.rem_of_nonneg (by decide) (by decide) (by decide) hpos2,
      h.divides, hselect⟩

end DeepGemmRs.Raw
