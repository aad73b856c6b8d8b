import DeepGemmRs.Raw.GemmTotal
import DeepGemmRs.Raw.MqaExact

/-!
# Which MQA launches reach the driver

After validation a launch may still stop: a product leaves `int`, or `as_i32` refuses a stride.

* `makeTma2dDesc_runs`, `makeTma3dDesc_runs` : the map of a known dtype and swizzle is made;
* `MqaLogitsParams.Reaches`, `PagedMqaLogitsMetadataParams.Reaches`, `PagedMqaLogitsParams.Reaches` : what the
  launch has to find beyond what validation asked for;
* `launches_succeed_iff` : **a validated request is launched exactly then**.
-/

namespace DeepGemmRs.Raw

open Checked MachineInt Rounding

/-! ## Tensor maps -/

/-- The dtypes that a map encodes, FP4 values as they are stored. -/
def IsMapDtype (dtype : DTypeCode) (fp4UnpackedSmem : Bool) : Prop :=
  dtype = DTypeCode.fp8E4M3 ∨ dtype = DTypeCode.bf16 ∨ dtype = DTypeCode.f32 ∨ dtype = DTypeCode.packedUe8M0 ∨
    dtype = DTypeCode.packedFp4E2M1 ∧ fp4UnpackedSmem = false

section

variable {data : Ptr} {dtype : DTypeCode} {unpacked : Bool} {swizzleMode : Int}

/-- The box of a map. -/
theorem tmaBox_runs (hdata : data ≠ 0) (hd : IsMapDtype dtype unpacked)
    (hs : swizzleMode = 0 ∨ Gemm.IsSwizzle swizzleMode) (gmemInnerDim smemInnerDim : Int) :
    ∃ elemSize row inner, tmaElemSize .machine data dtype = .ok elemSize ∧
      swizzledInnerDim .machine elemSize smemInnerDim swizzleMode = .ok row ∧
      fp4InnerDim .machine dtype gmemInnerDim row swizzleMode unpacked = .ok inner := by
  have h0 : 0 ≤ swizzleMode ∧ swizzleMode ≤ 128 := by
    unfold Gemm.IsSwizzle at hs
    omega
  have helem : ∃ elemSize, tmaElemSize .machine data dtype = .ok elemSize ∧ 0 < elemSize := by
    unfold tmaElemSize
    rw [throwIf_neg hdata]
    rcases hd with rfl | rfl | rfl | rfl | ⟨rfl, -⟩ <;> exact ⟨_, rfl, by decide⟩
  obtain ⟨elemSize, helem, hpos⟩ := helem
  have hrow : ∃ row, swizzledInnerDim .machine elemSize smemInnerDim swizzleMode = .ok row := by
    unfold swizzledInnerDim
    split
    · exact ⟨_, IntType.div_of_nonneg h0.1 (has_i32.mpr ⟨by omega, by omega⟩) (by decide) hpos⟩
    · exact ⟨_, rfl⟩
  obtain ⟨row, hrow⟩ := hrow
  have hinner : ∃ inner, fp4InnerDim .machine dtype gmemInnerDim row swizzleMode unpacked = .ok inner := by
    unfold fp4InnerDim
    split
    · next hfp4 =>
      have hpacked : unpacked = false := by
        rcases hd with rfl | rfl | rfl | rfl | ⟨-, h⟩
        · exact absurd hfp4 (by decide)
        · exact absurd hfp4 (by decide)
        · exact absurd hfp4 (by decide)
        · exact absurd hfp4 (by decide)
        · exact h
      rw [hpacked, throwIf_neg (by simp), ok_bind]
      split
      · exact ⟨_, IntType.mul_of_has (has_i32.mpr ⟨by omega, by omega⟩)⟩
      · exact ⟨_, rfl⟩
    · exact ⟨_, rfl⟩
  obtain ⟨inner, hinner⟩ := hinner
  exact ⟨elemSize, row, inner, helem, hrow, hinner⟩

/-- The encoding of its elements. -/
theorem tmaEncoding_runs (hd : IsMapDtype dtype unpacked) (hs : swizzleMode = 0 ∨ Gemm.IsSwizzle swizzleMode) :
    ∃ dataType swizzle, tensorMapDtype dtype false unpacked = .ok dataType ∧
      tensorMapSwizzle swizzleMode 0 = .ok swizzle := by
  have hdtype : ∃ dataType, tensorMapDtype dtype false unpacked = .ok dataType := by
    rcases hd with rfl | rfl | rfl | rfl | ⟨rfl, rfl⟩ <;> exact ⟨_, rfl⟩
  have hmode : ∃ swizzle, tensorMapSwizzle swizzleMode 0 = .ok swizzle := by
    rcases hs with rfl | rfl | rfl | rfl | rfl <;> exact ⟨_, rfl⟩
  obtain ⟨dataType, hdtype⟩ := hdtype
  obtain ⟨swizzle, hmode⟩ := hmode
  exact ⟨dataType, swizzle, hdtype, hmode⟩

theorem makeTma2dDesc_runs (hdata : data ≠ 0) (hd : IsMapDtype dtype unpacked)
    (hs : swizzleMode = 0 ∨ Gemm.IsSwizzle swizzleMode)
    (gmemInnerDim gmemOuterDim smemInnerDim smemOuterDim gmemOuterStride : Int) :
    Succeeds (makeTma2dDesc .machine data dtype gmemInnerDim gmemOuterDim smemInnerDim smemOuterDim gmemOuterStride
      swizzleMode { fp4UnpackedSmem := unpacked }) := by
  obtain ⟨elemSize, row, inner, helem, hrow, hinner⟩ := tmaBox_runs hdata hd hs gmemInnerDim smemInnerDim
  obtain ⟨dataType, swizzle, hdtype, hmode⟩ := tmaEncoding_runs hd hs
  unfold makeTma2dDesc
  rw [helem, ok_bind, hrow, ok_bind, hinner, ok_bind, hdtype, hmode]
  exact ⟨_, rfl⟩

theorem makeTma3dDesc_runs (hdata : data ≠ 0) (hd : IsMapDtype dtype unpacked)
    (hs : swizzleMode = 0 ∨ Gemm.IsSwizzle swizzleMode)
    (gmemInnerDim gmemOuterDim gmemBatchDim smemInnerDim smemOuterDim smemBatchDim gmemOuterStride
      gmemBatchStride : Int) :
    Succeeds (makeTma3dDesc .machine data dtype gmemInnerDim gmemOuterDim gmemBatchDim smemInnerDim smemOuterDim
      smemBatchDim gmemOuterStride gmemBatchStride swizzleMode { fp4UnpackedSmem := unpacked }) := by
  obtain ⟨elemSize, row, inner, helem, hrow, hinner⟩ := tmaBox_runs hdata hd hs gmemInnerDim smemInnerDim
  obtain ⟨dataType, swizzle, hdtype, hmode⟩ := tmaEncoding_runs hd hs
  unfold makeTma3dDesc
  rw [helem, ok_bind, hrow, ok_bind, hinner, ok_bind, hdtype, hmode]
  exact ⟨_, rfl⟩

end

theorem succeeds_launchKernel (kernel : String) (stream : Ptr) (launchArgs : LaunchArgs) (args : List KernelArg) :
    Succeeds (launchKernel .machine kernel stream launchArgs args) := by
  obtain ⟨launch, hlaunch, -⟩ := Gemm.launchKernel_total kernel stream launchArgs args
  exact ⟨launch, hlaunch⟩

/-- The rows of a head dimension, as a map swizzles them. -/
theorem isSwizzle_of_dim {headDim : Int} (h : headDim = 32 ∨ headDim = 64 ∨ headDim = 128) :
    headDim = 0 ∨ Gemm.IsSwizzle headDim := by
  unfold Gemm.IsSwizzle
  omega

theorem isSwizzle_half {headDim : Int} (h : headDim = 32 ∨ headDim = 64 ∨ headDim = 128) :
    ∃ half, (i32.div headDim 2 : Native Int) = .ok half ∧ (half = 0 ∨ Gemm.IsSwizzle half) := by
  rcases h with rfl | rfl | rfl
  · exact ⟨16, rfl, by unfold Gemm.IsSwizzle; decide⟩
  · exact ⟨32, rfl, by unfold Gemm.IsSwizzle; decide⟩
  · exact ⟨64, rfl, by unfold Gemm.IsSwizzle; decide⟩

/-! ## Contiguous tensors -/

section

variable {t : RawTensor} {u : Unit} {name : String}

theorem data_of_requireContiguous {rank : Fin 5} (h : requireContiguous t rank name = .ok u) : t.data ≠ 0 := by
  simp only [requireContiguous, bind_eq_ok, requireTensorRank_eq_ok] at h
  obtain ⟨_, ⟨-, hdata⟩, -⟩ := h
  exact hdata

/-- The last two strides of a contiguous tensor. -/
theorem strides_of_requireContiguousLoop (index : Nat) (hi : index + 2 ≤ 4)
    (h : requireContiguousLoop t name (index + 2) hi 1 = .ok u) :
    (t.stride ⟨index + 1, hi⟩).val = 1 ∧ (t.stride ⟨index, Nat.lt_of_succ_lt hi⟩).val = t.shape ⟨index + 1, hi⟩ := by
  simp only [requireContiguousLoop, bind_eq_ok, throwIf_eq_ok, not_not, exists_const, IntType.mul_eq_ok, Int.one_mul] at h
  obtain ⟨hlast, _, ⟨-, rfl⟩, hrow, -⟩ := h
  exact ⟨hlast, hrow⟩

theorem loop_of_requireContiguous {rank : Fin 5} (h : requireContiguous t rank name = .ok u) :
    requireContiguousLoop t name rank rank.is_le 1 = .ok u := by
  simp only [requireContiguous, bind_eq_ok] at h
  obtain ⟨_, -, _, -, h⟩ := h
  exact h

end

/-! ## `launch_fp8_fp4_mqa_logits` -/

section

variable {params : MqaLogitsParams} {args : MqaArgs}

/-- The scales of `kv`, a word each, have to fill whole 16-byte units. -/
theorem kvScale_aligned (h : args.InRange) {dtype : DTypeCode} (hsize : dtypeElementSize dtype = 4) :
    getTmaAlignedSize .machine args.seqLenKv (dtypeElementSize dtype) = .ok (alignUp args.seqLenKv 4) := by
  rw [hsize]
  exact (getTmaAlignedSize_eq h.seqLenKv.1 (h.seqLenKv.2.trans (by decide)) (by decide) (by decide)).1

/-- What the maps are made of. -/
structure MqaMappable (params : MqaLogitsParams) (isFp4 : Bool) : Prop where
  q : params.q.data ≠ 0 ∧ IsMapDtype params.q.dtype (!isFp4)
  qStride : Extent (params.q.stride 1)
  qScale : isFp4 = true → params.qScale.data ≠ 0 ∧ params.qScale.dtype = DTypeCode.packedUe8M0 ∧
    Extent (params.qScale.stride 0)
  kv : params.kv.data ≠ 0 ∧ IsMapDtype params.kv.dtype (!isFp4)
  kvStride : Extent (params.kv.stride 0)
  kvScale : params.kvScale.data ≠ 0 ∧ (params.kvScale.dtype = DTypeCode.f32 ∨ params.kvScale.dtype = DTypeCode.packedUe8M0)
  weights : params.weights.data ≠ 0 ∧ IsMapDtype params.weights.dtype true

namespace MqaMappable

variable {isFp4 : Bool}

theorem kvScaleSize (h : MqaMappable params isFp4) : dtypeElementSize params.kvScale.dtype = 4 := by
  rcases h.kvScale.2 with e | e <;> rw [e] <;> rfl

theorem kvScaleDtype (h : MqaMappable params isFp4) : IsMapDtype params.kvScale.dtype true := by
  rcases h.kvScale.2 with e | e
  · exact .inr (.inr (.inl e))
  · exact .inr (.inr (.inr (.inl e)))

end MqaMappable

theorem launchSm90Fp8MqaLogits_succeeds_iff (h : args.InRange) (hm : MqaMappable params false)
    (hq : params.q.dtype = DTypeCode.fp8E4M3) (hw : params.weights.dtype = DTypeCode.f32)
    (hkv : params.kv.dtype = DTypeCode.fp8E4M3) (hkvs : params.kvScale.dtype = DTypeCode.f32) (numSms : Int) (pdl : Bool) :
    Succeeds (launchSm90Fp8MqaLogits .machine params args numSms pdl) ↔
      i32.Has (args.seqLen * args.numHeads) ∧ Extent (alignUp args.seqLenKv 4) ∧ Extent (params.weights.stride 0) := by
  have hdim := isSwizzle_of_dim h.headDim
  obtain ⟨smemSize, hsize, -, -⟩ := sm90MqaSmemSize_eq h
  unfold launchSm90Fp8MqaLogits
  simp only [Arith.machine_mul, Arith.machine_cast, ok_bind, kvScale_aligned h hm.kvScaleSize]
  refine succeeds_guard (fun _ => IntType.mul_eq_ok) fun _ => ?_
  refine succeeds_then ⟨_, IntType.mul_of_has h.tile.i32⟩ fun _ => ?_
  refine succeeds_then (makeTma2dDesc_runs hm.q.1 hm.q.2 hdim ..) fun _ => ?_
  refine succeeds_then (makeTma2dDesc_runs hm.kv.1 hm.kv.2 hdim ..) fun _ => ?_
  refine succeeds_guard (fun _ => asI32_eq_ok) fun _ => ?_
  refine succeeds_then (makeTma2dDesc_runs hm.kvScale.1 hm.kvScaleDtype (.inl rfl) ..) fun _ => ?_
  rw [← and_true (Extent _)]
  refine succeeds_guard (fun _ => asI32_eq_ok) fun _ => ?_
  refine succeeds_then (makeTma2dDesc_runs hm.weights.1 hm.weights.2 (.inl rfl) ..) fun _ => ?_
  rw [hq, hw, hkv, hkvs]
  refine succeeds_then ⟨smemSize, hsize⟩ fun _ => ?_
  refine succeeds_then ⟨128 + 512, rfl⟩ fun _ => ?_
  exact iff_true_intro (succeeds_launchKernel ..)

/-- The map of the scales of `kv`. -/
theorem sm100KvScaleMap_succeeds_iff {isFp4 : Bool} (h : args.InRange) (hm : MqaMappable params isFp4) :
    Succeeds (sm100KvScaleMap .machine params args) ↔ Extent (alignUp args.seqLenKv 4) := by
  unfold sm100KvScaleMap
  rw [kvScale_aligned h hm.kvScaleSize, ok_bind, ← and_true (Extent _)]
  refine succeeds_guard (fun _ => asI32_eq_ok) fun _ => ?_
  exact iff_true_intro (makeTma2dDesc_runs hm.kvScale.1 hm.kvScaleDtype (.inl rfl) ..)

theorem sm100MqaMaps_succeeds_iff {isFp4 : Bool} (h : args.InRange) (hm : MqaMappable params isFp4) :
    Succeeds (sm100MqaMaps .machine params isFp4 args) ↔
      i32.Has (args.seqLen * args.numHeads) ∧ Extent (alignUp args.seqLenKv 4) := by
  have hdim := isSwizzle_of_dim h.headDim
  obtain ⟨half, hhalf, hswizzle⟩ := isSwizzle_half h.headDim
  have hqs : ∀ name, asI32 (params.q.stride 1) name = .ok (params.q.stride 1).val := fun name =>
    asI32_eq_ok.mpr ⟨hm.qStride, rfl⟩
  have hkvs : ∀ name, asI32 (params.kv.stride 0) name = .ok (params.kv.stride 0).val := fun name =>
    asI32_eq_ok.mpr ⟨hm.kvStride, rfl⟩
  unfold sm100MqaMaps
  simp only [Arith.machine_mul, Arith.machine_div, hqs, hkvs, hhalf, ok_bind]
  cases isFp4 with
  | true =>
    obtain ⟨hdata, hdtype, hstride⟩ := hm.qScale rfl
    simp only [if_true]
    refine succeeds_guard (fun _ => IntType.mul_eq_ok) fun _ => ?_
    refine succeeds_then ⟨_, IntType.mul_of_has h.tile.i32⟩ fun _ => ?_
    refine succeeds_then (makeTma2dDesc_runs hm.q.1 hm.q.2 hswizzle ..) fun _ => ?_
    refine succeeds_then ⟨_, asI32_eq_ok.mpr ⟨hstride, rfl⟩⟩ fun _ => ?_
    refine succeeds_then (makeTma2dDesc_runs hdata (.inr (.inr (.inr (.inl hdtype)))) (.inl rfl) ..) fun _ => ?_
    refine succeeds_then (makeTma2dDesc_runs hm.kv.1 hm.kv.2 hswizzle ..) fun _ => ?_
    rw [← and_true (Extent _)]
    exact succeeds_and (sm100KvScaleMap_succeeds_iff h hm) fun _ => iff_true_intro ⟨_, rfl⟩
  | false =>
    simp only [Bool.false_eq_true, if_false]
    refine succeeds_guard (fun _ => IntType.mul_eq_ok) fun _ => ?_
    refine succeeds_then ⟨_, IntType.mul_of_has h.tile.i32⟩ fun _ => ?_
    refine succeeds_then (makeTma2dDesc_runs hm.q.1 hm.q.2 hdim ..) fun _ => ?_
    refine succeeds_then (makeTma2dDesc_runs hm.kv.1 hm.kv.2 hdim ..) fun _ => ?_
    rw [← and_true (Extent _)]
    exact succeeds_and (sm100KvScaleMap_succeeds_iff h hm) fun _ => iff_true_intro ⟨_, rfl⟩

theorem launchSm100MqaLogits_succeeds_iff {isFp4 : Bool} (h : args.InRange) (hm : MqaMappable params isFp4)
    (numSms : Int) (pdl : Bool) : Succeeds (launchSm100MqaLogits .machine params isFp4 args numSms pdl) ↔
      i32.Has (args.seqLen * args.numHeads) ∧ Extent (alignUp args.seqLenKv 4) ∧ Extent (params.weights.stride 0) := by
  unfold launchSm100MqaLogits
  simp only [Arith.machine_cast, ok_bind]
  rw [← and_assoc]
  refine succeeds_and (sm100MqaMaps_succeeds_iff h hm) fun maps => ?_
  rw [← and_true (Extent _)]
  refine succeeds_guard (fun _ => asI32_eq_ok) fun _ => ?_
  refine succeeds_then (makeTma2dDesc_runs hm.weights.1 hm.weights.2 (.inl rfl) ..) fun _ => ?_
  refine succeeds_then ⟨128 + 256, rfl⟩ fun _ => ?_
  exact iff_true_intro (succeeds_launchKernel ..)

theorem succeeds_launchCleanIfAsked (params : MqaLogitsParams) (args : MqaArgs) (numSms : Int) (pdl : Bool)
    (first : Launch) : Succeeds (launchCleanIfAsked .machine params args numSms pdl first) := by
  unfold launchCleanIfAsked
  split <;> exact ⟨_, rfl⟩

/-- The weights, of either dtype. -/
theorem WeightsChecked.mappable {weights : RawTensor} {rows heads : Int} (h : WeightsChecked weights rows heads) :
    weights.data ≠ 0 ∧ IsMapDtype weights.dtype true := by
  refine ⟨h.data, ?_⟩
  rcases h.dtype with e | e
  · exact .inr (.inr (.inl e))
  · exact .inr (.inl e)

/-- Validation leaves what the maps are made of. -/
theorem mqaMappable {device : DeviceInfo} {d : MqaDispatch} (h : dispatchMqaLogits device params = .ok d) :
    MqaMappable params params.hasQScale := by
  obtain ⟨hc, -⟩ := dispatchMqaLogits_eq_ok.mp h
  have hr := (mqaValid h).inRange
  have hq := strides_of_requireContiguousLoop 1 (by decide) (loop_of_requireContiguous hc.q)
  have hkv := strides_of_requireContiguousLoop 0 (by decide) (loop_of_requireContiguous hc.kv)
  have hwidth : 0 < (params.q.shape 2).val := shape_pos_of_requireContiguous hc.q 2 (by decide)
  have hphysical : Extent (params.q.shape 2) := by
    have hdim : headDimOf params.hasQScale (params.q.shape 2) ≤ i32.hi := hc.headDim
    refine ⟨hwidth.le, le_trans ?_ hdim⟩
    unfold headDimOf
    split <;> omega
  have hqStride : Extent (params.q.stride 1) := by
    rw [show (params.q.stride 1).val = params.q.shape 2 from hq.2]
    exact hphysical
  have hkvStride : Extent (params.kv.stride 0) := by
    rw [show (params.kv.stride 0).val = params.kv.shape 1 from hkv.2, hc.kvWidth]
    exact hphysical
  have hformat := hc.format
  unfold requireMqaFormat at hformat
  cases hfp4 : params.hasQScale with
  | true =>
    simp only [hfp4, if_true, bind_eq_ok, requireDtype_eq_ok, throwIf_eq_ok, exists_const, not_or, not_not] at hformat
    obtain ⟨hqd, hkvd, _, hqScale, hqsd, ⟨-, hheads⟩, hkvsd⟩ := hformat
    have hscale := strides_of_requireContiguousLoop 0 (by decide) (loop_of_requireContiguous hqScale)
    refine ⟨⟨data_of_requireContiguous hc.q, .inr (.inr (.inr (.inr ⟨hqd, rfl⟩)))⟩, hqStride, fun _ => ?_,
      ⟨data_of_requireContiguous hc.kv, .inr (.inr (.inr (.inr ⟨hkvd, rfl⟩)))⟩, hkvStride,
      ⟨data_of_requireContiguous hc.kvScale, .inr hkvsd⟩, hc.weights.mappable⟩
    refine ⟨data_of_requireContiguous hqScale, hqsd, ?_⟩
    rw [show (params.qScale.stride 0).val = params.qScale.shape 1 from hscale.2, hheads]
    exact hr.heads
  | false =>
    simp only [hfp4, Bool.false_eq_true, if_false, bind_eq_ok, requireDtype_eq_ok, exists_const] at hformat
    obtain ⟨hqd, hkvd, hkvsd⟩ := hformat
    exact ⟨⟨data_of_requireContiguous hc.q, .inl hqd⟩, hqStride, fun hfp4 => (Bool.false_ne_true hfp4).elim,
      ⟨data_of_requireContiguous hc.kv, .inl hkvd⟩, hkvStride, ⟨data_of_requireContiguous hc.kvScale, .inl hkvsd⟩,
      hc.weights.mappable⟩

/-- The outer dimension of the map of `q` is an `int`, so is the padded number of scales, and the rows of the
weights go forward by an `int`. -/
def MqaLogitsParams.Reaches (params : MqaLogitsParams) : Prop :=
  params.OuterFits ∧ alignUp (params.kv.shape 0) 4 ≤ i32.hi ∧ Extent (params.weights.stride 0)

theorem launchMqaLogits_succeeds_iff {device : DeviceInfo} {d : MqaDispatch}
    (h : dispatchMqaLogits device params = .ok d) (numSms : Int) (pdl : Bool) :
    Succeeds (launchMqaLogits .machine params numSms pdl d) ↔ params.Reaches := by
  have hv := mqaValid h
  have hm := mqaMappable h
  have hr := hv.inRange
  have houter : i32.Has (params.args.seqLen * params.args.numHeads) ↔ params.OuterFits :=
    ⟨fun hh => hh.2, fun hh => Extent.i32 ⟨Int.mul_nonneg hr.seqLen.1 hr.heads.1, hh⟩⟩
  have haligned : Extent (alignUp params.args.seqLenKv 4) ↔ alignUp (params.kv.shape 0) 4 ≤ i32.hi :=
    ⟨fun hh => hh.2, fun hh => ⟨hr.seqLenKv.1.trans (le_alignUp (by decide)), hh⟩⟩
  have hreaches : i32.Has (params.args.seqLen * params.args.numHeads) ∧ Extent (alignUp params.args.seqLenKv 4) ∧
      Extent (params.weights.stride 0) ↔ params.Reaches := by rw [houter, haligned, MqaLogitsParams.Reaches]
  rw [← hreaches, ← and_true (_ ∧ _)]
  rcases hv.dispatch with ⟨rfl, hq, hw, hkv, hkvs⟩ | rfl
  · have hfp8 : params.hasQScale = false := by
      obtain ⟨-, hs⟩ := dispatchMqaLogits_eq_ok.mp h
      rcases selectMqa_eq_ok.mp hs with ⟨-, hfp8, -⟩ | ⟨-, -, -, heq⟩
      · exact hfp8
      · cases heq
    rw [hfp8] at hm
    exact succeeds_and (launchSm90Fp8MqaLogits_succeeds_iff hr hm hq hw hkv hkvs numSms pdl) fun first =>
      iff_true_intro (succeeds_launchCleanIfAsked ..)
  · exact succeeds_and (launchSm100MqaLogits_succeeds_iff hr hm numSms pdl) fun first =>
      iff_true_intro (succeeds_launchCleanIfAsked ..)

end

/-! ## `launch_paged_mqa_logits_metadata` -/

/-- The shared memory of the scheduler is an `int`, on SM100 with the number of tokens. -/
def PagedMqaLogitsMetadataParams.Reaches (device : DeviceInfo) (params : PagedMqaLogitsMetadataParams) : Prop :=
  if device.major = 9 then 4 * alignUp (params.contextLens.shape 0) 32 ≤ i32.hi
  else (params.contextLens.shape 0).val * (params.contextLens.shape 1).val ≤ i32.hi ∧
    8 * (params.contextLens.shape 0).val ≤ i32.hi

theorem launchPagedMqaLogitsMetadata_succeeds_iff {device : DeviceInfo} {params : PagedMqaLogitsMetadataParams}
    {d : MetadataDispatch} (h : dispatchPagedMqaLogitsMetadata device params = .ok d) (pdl : Bool) :
    Succeeds (launchPagedMqaLogitsMetadata .machine params pdl d) ↔ params.Reaches device := by
  have hv := metadataValid h
  have hb := hv.batchSize
  have hle : (params.contextLens.shape 0).val ≤ alignUp (params.contextLens.shape 0) 32 := le_alignUp (by decide)
  have hb0 := hb.1
  have hhi : i32.hi = 2147483647 := rfl
  unfold PagedMqaLogitsMetadataParams.Reaches
  rcases hv.dispatch with ⟨h9, rfl⟩ | ⟨h10, rfl⟩
  · rw [if_pos h9]
    simp only [launchPagedMqaLogitsMetadata, launchSm90Metadata,
      alignI64OrThrow_machine 32 _ hb (by decide) (by decide), numSmemInts, Bool.false_eq_true, if_false,
      Arith.machine_cast, Arith.machine_mul, ok_bind]
    have hreaches : Extent (alignUp (params.contextLens.shape 0) 32) ∧
        i32.Has (alignUp (params.contextLens.shape 0) 32 * 4) ∧ True ↔
        4 * alignUp (params.contextLens.shape 0) 32 ≤ i32.hi := by
      simp only [Extent, has_i32, hhi, and_true]
      omega
    rw [← hreaches]
    refine succeeds_guard (fun _ => asI32_eq_ok) fun _ => ?_
    refine succeeds_guard (fun _ => IntType.mul_eq_ok) fun _ => ?_
    exact iff_true_intro (succeeds_launchKernel ..)
  · have hn0 := hv.nextN.1
    have htokens : 0 ≤ (params.contextLens.shape 0).val * (params.contextLens.shape 1).val := Int.mul_nonneg hb0 hn0
    rw [if_neg (by omega)]
    simp only [launchPagedMqaLogitsMetadata, launchSm100Metadata, Arith.machine_cast, Arith.machine_mul, ok_bind]
    have hreaches : i32.Has ((params.contextLens.shape 0).val * (params.contextLens.shape 1).val) ∧
        i32.Has (2 * (params.contextLens.shape 0).val) ∧ i32.Has (2 * (params.contextLens.shape 0).val * 4) ∧ True ↔
        (params.contextLens.shape 0).val * (params.contextLens.shape 1).val ≤ i32.hi ∧
          8 * (params.contextLens.shape 0).val ≤ i32.hi := by
      simp only [has_i32, hhi, and_true]
      omega
    rw [← hreaches]
    refine succeeds_guard (fun _ => IntType.mul_eq_ok) fun _ => ?_
    refine succeeds_guard (fun _ => IntType.mul_eq_ok) fun _ => ?_
    refine succeeds_guard (fun _ => IntType.mul_eq_ok) fun _ => ?_
    exact iff_true_intro (succeeds_launchKernel ..)

/-! ## `launch_fp8_fp4_paged_mqa_logits` -/

section

variable {params : PagedMqaLogitsParams} {args : PagedMqaArgs}

/-- What the maps of a paged launch are made of. -/
structure PagedMappable (params : PagedMqaLogitsParams) (isFp4 : Bool) : Prop where
  q : params.q.data ≠ 0 ∧ IsMapDtype params.q.dtype (!isFp4)
  qStride : Extent (params.q.stride 2)
  qScale : isFp4 = true → params.qScale.data ≠ 0 ∧ params.qScale.dtype = DTypeCode.packedUe8M0 ∧
    Extent (params.qScale.stride 1)
  cache : params.fusedKvCache.data ≠ 0
  pageStride : Extent (params.fusedKvCache.stride 0)
  weights : params.weights.data ≠ 0 ∧ IsMapDtype params.weights.dtype true

namespace PagedMappable

variable {isFp4 : Bool}

theorem stride (h : PagedMappable params isFp4) (name : String) :
    asI32 (params.fusedKvCache.stride 0) name = .ok (params.fusedKvCache.stride 0).val :=
  asI32_eq_ok.mpr ⟨h.pageStride, rfl⟩

/-- The scales are behind the data of the first page. -/
theorem scaleData (h : PagedMappable params isFp4) (bytes : Nat) : params.fusedKvCache.data + bytes ≠ 0 := by
  have hcache : params.fusedKvCache.data ≠ 0 := h.cache
  unfold Ptr at *
  omega

theorem scaleStride (h : PagedMappable params isFp4) :
    Succeeds (i32.div (params.fusedKvCache.stride 0).val 4 : Native Int) :=
  ⟨_, IntType.div_of_nonneg h.pageStride.1 h.pageStride.i32 (by decide) (by decide)⟩

end PagedMappable

theorem launchSm90Fp8PagedMqaLogits_succeeds_iff (h : args.InRange) (hm : PagedMappable params false)
    (hn : args.nextN = 1 ∨ args.nextN = 2) (hq : params.q.dtype = DTypeCode.fp8E4M3)
    (hw : params.weights.dtype = DTypeCode.f32) (pdl : Bool) :
    Succeeds (launchSm90Fp8PagedMqaLogits .machine params args pdl) ↔
      i32.Has (args.batchSize * args.nextN) ∧ i32.Has (args.batchSize * args.nextN * args.numHeads) ∧
        Extent (params.weights.stride 0) := by
  have hdim := isSwizzle_of_dim h.headDim
  have hpage : i32.Has (args.blockKv * args.headDim) := by
    rcases h.blockKv with e | e <;> rcases h.headDim with f | f | f <;> rw [e, f] <;> decide
  have htile : i32.Has ((if args.nextN ≥ 2 then 2 else 1) * args.numHeads) := by
    rcases h.numHeads with e | e | e | e <;> rw [e] <;> split <;> decide
  obtain ⟨smemSize, hsize, -, -⟩ := sm90PagedSmemSize_eq h hn
  unfold launchSm90Fp8PagedMqaLogits
  simp only [Arith.machine_mul, Arith.machine_div, Arith.machine_cast, ok_bind, hm.stride]
  refine succeeds_then ⟨_, IntType.mul_of_has hpage⟩ fun pageBytes => ?_
  refine succeeds_guard (fun _ => IntType.mul_eq_ok) fun htokens => ?_
  refine succeeds_guard (fun _ => IntType.mul_eq_ok) fun _ => ?_
  refine succeeds_then ⟨_, IntType.mul_of_has htile⟩ fun _ => ?_
  refine succeeds_then ⟨_, asI32_eq_ok.mpr ⟨hm.qStride, rfl⟩⟩ fun _ => ?_
  refine succeeds_then (makeTma2dDesc_runs hm.q.1 hm.q.2 hdim ..) fun _ => ?_
  refine succeeds_then (makeTma3dDesc_runs hm.cache (.inl rfl) hdim ..) fun _ => ?_
  refine succeeds_then hm.scaleStride fun _ => ?_
  refine succeeds_then (makeTma2dDesc_runs (hm.scaleData _) (.inr (.inr (.inl rfl))) (.inl rfl) ..) fun _ => ?_
  refine succeeds_then ⟨_, IntType.mul_of_has htokens⟩ fun _ => ?_
  rw [← and_true (Extent _)]
  refine succeeds_guard (fun _ => asI32_eq_ok) fun _ => ?_
  refine succeeds_then (makeTma2dDesc_runs hm.weights.1 hm.weights.2 (.inl rfl) ..) fun _ => ?_
  rw [hq, hw]
  refine succeeds_then ⟨smemSize, hsize⟩ fun _ => ?_
  refine succeeds_then ⟨128 + 512, rfl⟩ fun _ => ?_
  exact iff_true_intro (succeeds_launchKernel ..)

theorem sm100PagedMaps_succeeds_iff {isFp4 : Bool} (h : args.InRange) (hm : PagedMappable params isFp4)
    {blockQ : Int} (htile : Extent (blockQ * args.numHeads)) (tokens kvBytes stride : Int) :
    Succeeds (sm100PagedMaps .machine params isFp4 args blockQ tokens kvBytes stride) ↔
      i32.Has (tokens * args.numHeads) := by
  have hdim := isSwizzle_of_dim h.headDim
  obtain ⟨half, hhalf, hswizzle⟩ := isSwizzle_half h.headDim
  have hqs : ∀ name, asI32 (params.q.stride 2) name = .ok (params.q.stride 2).val := fun name =>
    asI32_eq_ok.mpr ⟨hm.qStride, rfl⟩
  unfold sm100PagedMaps
  simp only [Arith.machine_mul, Arith.machine_div, hqs, hhalf, ok_bind]
  rw [← and_true (i32.Has _)]
  cases isFp4 with
  | true =>
    obtain ⟨hdata, hdtype, hstride⟩ := hm.qScale rfl
    simp only [if_true]
    refine succeeds_guard (fun _ => IntType.mul_eq_ok) fun _ => ?_
    refine succeeds_then ⟨_, IntType.mul_of_has htile.i32⟩ fun _ => ?_
    refine succeeds_then (makeTma2dDesc_runs hm.q.1 hm.q.2 hswizzle ..) fun _ => ?_
    refine succeeds_then ⟨_, asI32_eq_ok.mpr ⟨hstride, rfl⟩⟩ fun _ => ?_
    refine succeeds_then (makeTma2dDesc_runs hdata (.inr (.inr (.inr (.inl hdtype)))) (.inl rfl) ..) fun _ => ?_
    refine succeeds_then (makeTma3dDesc_runs hm.cache (.inr (.inr (.inr (.inr ⟨rfl, rfl⟩)))) hswizzle ..) fun _ => ?_
    exact iff_true_intro ⟨_, rfl⟩
  | false =>
    simp only [Bool.false_eq_true, if_false]
    refine succeeds_guard (fun _ => IntType.mul_eq_ok) fun _ => ?_
    refine succeeds_then ⟨_, IntType.mul_of_has htile.i32⟩ fun _ => ?_
    refine succeeds_then (makeTma2dDesc_runs hm.q.1 hm.q.2 hdim ..) fun _ => ?_
    refine succeeds_then (makeTma3dDesc_runs hm.cache (.inl rfl) hdim ..) fun _ => ?_
    exact iff_true_intro ⟨_, rfl⟩

theorem launchSm100PagedMqaLogits_succeeds_iff {isFp4 : Bool} (h : args.InRange) (hm : PagedMappable params isFp4)
    (pdl : Bool) : Succeeds (launchSm100PagedMqaLogits .machine params isFp4 args pdl) ↔
      i32.Has (args.batchSize * args.nextN) ∧ i32.Has (args.batchSize * args.nextN * args.numHeads) ∧
        Extent (params.weights.stride 0) := by
  obtain ⟨blockQ, kvBytes, hrows, -, -, htile, hbytes, -, -, hpage⟩ := sm100Paged_prefix h isFp4
  have hscale : ∀ kvScaleDtype, kvScaleDtype = (if isFp4 then DTypeCode.packedUe8M0 else DTypeCode.f32) →
      IsMapDtype kvScaleDtype true := by
    intro kvScaleDtype he
    rw [he]
    cases isFp4 with
    | true => exact .inr (.inr (.inr (.inl rfl)))
    | false => exact .inr (.inr (.inl rfl))
  unfold launchSm100PagedMqaLogits
  simp only [Arith.machine_mul, Arith.machine_div, Arith.machine_cast, ok_bind, hm.stride, hrows, hbytes]
  refine succeeds_guard (fun _ => IntType.mul_eq_ok) fun _ => ?_
  refine succeeds_then ⟨_, IntType.mul_of_has hpage⟩ fun _ => ?_
  refine succeeds_and (sm100PagedMaps_succeeds_iff h hm htile ..) fun maps => ?_
  refine succeeds_then hm.scaleStride fun _ => ?_
  refine succeeds_then (makeTma2dDesc_runs (hm.scaleData _) (hscale _ rfl) (.inl rfl) ..) fun _ => ?_
  rw [← and_true (Extent _)]
  refine succeeds_guard (fun _ => asI32_eq_ok) fun _ => ?_
  refine succeeds_then (makeTma2dDesc_runs hm.weights.1 hm.weights.2 (.inl rfl) ..) fun _ => ?_
  refine succeeds_then ⟨128 + 256, rfl⟩ fun _ => ?_
  exact iff_true_intro (succeeds_launchKernel ..)

/-- Validation leaves what the maps are made of. -/
theorem pagedMappable {device : DeviceInfo} {d : PagedMqaDispatch} (h : dispatchPagedMqaLogits device params = .ok d) :
    PagedMappable params params.hasQScale := by
  obtain ⟨hc, -⟩ := dispatchPagedMqaLogits_eq_ok.mp h
  have hv := pagedValid h
  have hq := strides_of_requireContiguousLoop 2 (by decide) (loop_of_requireContiguous hc.q)
  have hwidth : 0 < (params.q.shape 3).val := shape_pos_of_requireContiguous hc.q 3 (by decide)
  have hphysical : Extent (params.q.stride 2) := by
    have hdim : headDimOf params.hasQScale (params.q.shape 3) ≤ i32.hi := hc.headDimInt
    rw [show (params.q.stride 2).val = params.q.shape 3 from hq.2]
    refine ⟨hwidth.le, le_trans ?_ hdim⟩
    unfold headDimOf
    split <;> omega
  have hcache : params.fusedKvCache.data ≠ 0 := ((requireFusedKvCache_eq_ok hwidth.le).mp hc.fusedKvCache).1.2
  have hformat := hc.format
  unfold requirePagedFormat at hformat
  cases hfp4 : params.hasQScale with
  | true =>
    simp only [hfp4, if_true, bind_eq_ok, requireDtype_eq_ok, throwIf_eq_ok, exists_const, not_or, not_not] at hformat
    obtain ⟨hqd, _, hqScale, hqsd, -, -, hheads⟩ := hformat
    have hscale := strides_of_requireContiguousLoop 1 (by decide) (loop_of_requireContiguous hqScale)
    refine ⟨⟨data_of_requireContiguous hc.q, .inr (.inr (.inr (.inr ⟨hqd, rfl⟩)))⟩, hphysical, fun _ => ?_, hcache,
      hv.pageStride, hc.weights.mappable⟩
    refine ⟨data_of_requireContiguous hqScale, hqsd, ?_⟩
    rw [show (params.qScale.stride 1).val = params.qScale.shape 2 from hscale.2, hheads]
    exact hv.inRange.heads
  | false =>
    simp only [hfp4, Bool.false_eq_true, if_false, requireDtype_eq_ok] at hformat
    exact ⟨⟨data_of_requireContiguous hc.q, .inl hformat⟩, hphysical, fun hfp4 => (Bool.false_ne_true hfp4).elim, hcache,
      hv.pageStride, hc.weights.mappable⟩

/-- The outer dimension of the map of `q` is an `int`, and the rows of the weights go forward by one. -/
def PagedMqaLogitsParams.Reaches (params : PagedMqaLogitsParams) : Prop :=
  params.OuterFits ∧ Extent (params.weights.stride 0)

theorem launchPagedMqaLogits_succeeds_iff {device : DeviceInfo} {d : PagedMqaDispatch}
    (h : dispatchPagedMqaLogits device params = .ok d) (pdl : Bool) :
    Succeeds (launchPagedMqaLogits .machine params pdl d) ↔ params.Reaches := by
  have hv := pagedValid h
  have hm := pagedMappable h
  have hr := hv.inRange
  have hreaches : i32.Has (params.args.batchSize * params.args.nextN) ∧
      i32.Has (params.args.batchSize * params.args.nextN * params.args.numHeads) ∧ Extent (params.weights.stride 0) ↔
      params.Reaches := by
    constructor
    · rintro ⟨-, houter, hweights⟩
      exact ⟨houter.2, hweights⟩
    · rintro ⟨houter, hweights⟩
      obtain ⟨htokens, hrows⟩ := hr.tokens houter
      exact ⟨htokens.i32, hrows.i32, hweights⟩
  rw [← hreaches]
  rcases hv.dispatch with ⟨rfl, hn, hq, hw⟩ | rfl
  · have hfp8 : params.hasQScale = false := by
      obtain ⟨-, hs⟩ := dispatchPagedMqaLogits_eq_ok.mp h
      rcases selectPagedMqa_eq_ok.mp hs with ⟨-, hfp8, -⟩ | ⟨-, -, -, -, -, heq⟩
      · exact hfp8
      · cases heq
    rw [hfp8] at hm
    exact launchSm90Fp8PagedMqaLogits_succeeds_iff hr hm hn hq hw pdl
  · exact launchSm100PagedMqaLogits_succeeds_iff hr hm pdl

end

/-! ## The three entry points -/

/-- **A validated request is launched exactly when its products are values of `int`**, the padded scales of `kv`
are one as well, and the rows of the weights, which FP4 and contiguous MQA leave free, go forward by an `int`. -/
theorem launches_succeed_iff (device : DeviceInfo) (pdl : Bool) :
    (∀ params d numSms, dispatchMqaLogits device params = .ok d →
      (Succeeds (launchMqaLogits .machine params numSms pdl d) ↔ params.Reaches)) ∧
    (∀ params d, dispatchPagedMqaLogitsMetadata device params = .ok d →
      (Succeeds (launchPagedMqaLogitsMetadata .machine params pdl d) ↔ params.Reaches device)) ∧
    ∀ params d, dispatchPagedMqaLogits device params = .ok d →
      (Succeeds (launchPagedMqaLogits .machine params pdl d) ↔ params.Reaches) := by
  refine ⟨?_, ?_, ?_⟩
  · intro params d numSms h
    exact launchMqaLogits_succeeds_iff h numSms pdl
  · intro params d h
    exact launchPagedMqaLogitsMetadata_succeeds_iff h pdl
  · intro params d h
    exact launchPagedMqaLogits_succeeds_iff h pdl

/-- One token is launched, and so is its page; two GiB of context lengths are not. -/
theorem smallLaunches_succeed : Succeeds (launchMqaLogits .machine oneToken 132 false (.sm90 oneToken.args)) ∧
    ¬ Succeeds (launchPagedMqaLogitsMetadata .machine hugeBatch false (.sm90 536870912 1 132 false)) ∧
    Succeeds (launchPagedMqaLogits .machine onePage false (.sm90 onePage.args)) := by
  refine ⟨?_, ?_, ?_⟩
  · have hfits : oneToken.OuterFits := show (1 : Int) * 32 ≤ i32.hi by decide
    exact ((launches_succeed_iff h100 false).1 oneToken _ 132 rfl).mpr ⟨hfits, by decide, by decide⟩
  · have hdispatch : dispatchPagedMqaLogitsMetadata h100 hugeBatch = .ok (.sm90 536870912 1 132 false) := rfl
    rw [(launches_succeed_iff h100 false).2.1 hugeBatch _ hdispatch]
    exact show ¬ 4 * alignUp 536870912 32 ≤ i32.hi by decide
  · have hfits : onePage.OuterFits := show (1 : Int) * 1 * 32 ≤ i32.hi by decide
    exact ((launches_succeed_iff h100 false).2.2 onePage _ rfl).mpr ⟨hfits, by decide⟩

end DeepGemmRs.Raw
