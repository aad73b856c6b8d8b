import DeepGemmRs.Raw.MqaChecked
import DeepGemmRs.Raw.MqaLaunch

/-!
# The 32-bit arithmetic of the MQA launches

* `MqaArgs.InRange`, `PagedMqaArgs.InRange` : the ranges validation leaves;
* `launchMqaLogits_same`, `launchPagedMqaLogits_same` : the launches are exact when their products are
  values of `int`;
* `launchPagedMqaLogitsMetadata_exact_iff` : the scheduler;
* `launches_exact_iff` : and only then.
-/

namespace DeepGemmRs.Raw

open Checked MachineInt Rounding CApi

theorem logitsStride_range {seqLenKv maxSeqlenK : Int} {dtype : DTypeCode} (hd : IsLogits dtype)
    (h0 : 0 ≤ seqLenKv) (hkv : seqLenKv ≤ i32.hi) (h1 : 0 ≤ maxSeqlenK) (hk : maxSeqlenK ≤ i32.hi) :
    0 ≤ logitsStride seqLenKv maxSeqlenK dtype ∧ logitsStride seqLenKv maxSeqlenK dtype ≤ u32.hi := by
  have hapos := rowAlignment_pos hd
  have hale := rowAlignment_le hd
  simp only [i32] at hkv hk
  simp only [u32]
  unfold logitsStride
  split
  · have h2 := alignUp_lt (v := seqLenKv + 256) hapos
    have h3 := le_alignUp (v := seqLenKv + 256) hapos
    omega
  · have h2 := alignUp_lt (v := alignUp maxSeqlenK 256) hapos
    have h3 := le_alignUp (v := alignUp maxSeqlenK 256) hapos
    have h4 := alignUp_lt (a := 256) (v := maxSeqlenK) (by decide)
    have h5 := le_alignUp (a := 256) (v := maxSeqlenK) (by decide)
    omega

theorem pagedStride_range {maxContextLen : Int} {dtype : DTypeCode} (hd : IsLogits dtype)
    (h0 : 0 ≤ maxContextLen) (hk : maxContextLen ≤ i32.hi) :
    0 ≤ pagedStride maxContextLen dtype ∧ pagedStride maxContextLen dtype ≤ u32.hi := by
  have hapos := rowAlignment_pos hd
  have hale := rowAlignment_le hd
  have h2 := alignUp_lt (v := alignUp maxContextLen 256) hapos
  have h3 := le_alignUp (v := alignUp maxContextLen 256) hapos
  have h4 := alignUp_lt (a := 256) (v := maxContextLen) (by decide)
  have h5 := le_alignUp (a := 256) (v := maxContextLen) (by decide)
  simp only [i32] at hk
  simp only [u32]
  unfold pagedStride
  omega

/-! ## `launch_fp8_fp4_mqa_logits` -/

/-- The ranges of the arguments after validation. -/
structure MqaArgs.InRange (args : MqaArgs) : Prop where
  seqLen : Extent args.seqLen
  seqLenKv : Extent args.seqLenKv
  numHeads : args.numHeads = 8 ∨ args.numHeads = 16 ∨ args.numHeads = 32 ∨ args.numHeads = 64
  headDim : args.headDim = 32 ∨ args.headDim = 64 ∨ args.headDim = 128
  blockQ : args.blockQ = 128 / args.numHeads
  blockKv : args.blockKv = 256
  strideLogits : 0 ≤ args.strideLogits ∧ args.strideLogits ≤ u32.hi

namespace MqaArgs.InRange

variable {args : MqaArgs}

theorem heads (h : args.InRange) : Extent args.numHeads := by
  rcases h.numHeads with e | e | e | e <;> rw [e] <;> decide

theorem dim (h : args.InRange) : 0 ≤ args.headDim ∧ args.headDim ≤ 128 := by
  rcases h.headDim with e | e | e <;> rw [e] <;> decide

theorem dimExtent (h : args.InRange) : Extent args.headDim := ⟨h.dim.1, h.dim.2.trans (by decide)⟩

theorem rows (h : args.InRange) : Extent args.blockQ := by
  rw [h.blockQ]
  rcases h.numHeads with e | e | e | e <;> rw [e] <;> decide

theorem cols (h : args.InRange) : Extent args.blockKv := by
  rw [h.blockKv]
  decide

theorem tile (h : args.InRange) : Extent (args.blockQ * args.numHeads) := by
  rw [h.blockQ]
  rcases h.numHeads with e | e | e | e <;> rw [e] <;> decide

end MqaArgs.InRange

theorem sm90MqaSmemSize_eq {args : MqaArgs} (h : args.InRange) :
    ∃ n, sm90MqaSmemSize .machine args.numHeads args.headDim args.blockQ args.blockKv 1 4 1 4 = .ok n ∧
      sm90MqaSmemSize .exact args.numHeads args.headDim args.blockQ args.blockKv 1 4 1 4 = .ok n ∧ Extent n := by
  rw [h.blockQ, h.blockKv]
  rcases h.numHeads with e | e | e | e <;> rcases h.headDim with f | f | f <;> rw [e, f] <;>
    exact ⟨_, rfl, rfl, by decide⟩

variable {params : MqaLogitsParams} {args : MqaArgs} {numSms : Int} {pdl : Bool}

theorem launchCleanLogits_same (h : args.InRange) (hs : Extent numSms) :
    Same fun A => launchCleanLogits A params args numSms pdl := by
  refine Same.bind (Same.cast h.seqLen.u32) fun _ _ => Same.bind (Same.cast h.seqLenKv.u32) fun _ _ => ?_
  refine Same.bind (Same.cast ⟨h.strideLogits.1, h.strideLogits.2.trans (by decide)⟩) fun _ _ => ?_
  refine Same.bind (Same.mul (by decide)) fun _ ht => Same.bind (Same.mul (by decide)) fun _ hm => ?_
  cases ht
  cases hm
  exact launchKernel_same hs Extent.one (show Extent (8 * 32) by decide) (show Extent (8192 * 4) by decide)
    Extent.one

/-- The map of the scales of `kv`. -/
theorem kvScaleMap_same (h : args.InRange) : Same fun A => sm100KvScaleMap A params args := by
  refine Same.bind (getTmaAlignedSize_same h.seqLenKv) fun _ _ => Same.bind (Same.const _) fun _ ha => ?_
  exact makeTma2dDesc_same (Extent.of_asI32 ha) (by decide) h.cols (by decide) (by decide) (by decide)

theorem launchSm90Fp8MqaLogits_same (h : args.InRange) (hk : Extent params.maxSeqlenK) (hs : Extent numSms)
    (hq : params.q.dtype = DTypeCode.fp8E4M3) (hw : params.weights.dtype = DTypeCode.f32)
    (hkv : params.kv.dtype = DTypeCode.fp8E4M3) (hkvs : params.kvScale.dtype = DTypeCode.f32)
    (hprod : args.seqLen * args.numHeads ≤ i32.hi) :
    Same fun A => launchSm90Fp8MqaLogits A params args numSms pdl := by
  have houter : Extent (args.seqLen * args.numHeads) := ⟨Int.mul_nonneg h.seqLen.1 h.heads.1, hprod⟩
  refine Same.bind (Same.mul houter.i32) fun _ e => ?_
  cases e
  refine Same.bind (Same.mul h.tile.i32) fun _ e => ?_
  cases e
  refine Same.bind (makeTma2dDesc_same h.dimExtent houter h.dimExtent h.tile h.dimExtent h.dim) fun _ _ => ?_
  refine Same.bind (makeTma2dDesc_same h.dimExtent h.seqLenKv h.dimExtent h.cols h.dimExtent h.dim) fun _ _ => ?_
  refine Same.bind (getTmaAlignedSize_same h.seqLenKv) fun _ _ => Same.bind (Same.const _) fun _ ha => ?_
  have ha := Extent.of_asI32 ha
  refine Same.bind (makeTma2dDesc_same ha (by decide) h.cols (by decide) (by decide) (by decide)) fun _ _ => ?_
  refine Same.bind (Same.const _) fun _ hws => ?_
  have hws := Extent.of_asI32 hws
  refine Same.bind (makeTma2dDesc_same h.heads h.seqLen h.heads h.rows hws (by decide)) fun _ _ => ?_
  rw [hq, hw, hkv, hkvs]
  obtain ⟨n, hm, he, hn⟩ := sm90MqaSmemSize_eq h
  refine Same.bind (hm.trans he.symm) fun n' e => ?_
  cases he.symm.trans e
  refine Same.bind (Same.cast h.seqLen.u32) fun _ _ => Same.bind (Same.cast h.seqLenKv.u32) fun _ _ => ?_
  refine Same.bind (Same.cast hk.u32) fun _ _ => Same.bind (Same.cast h.strideLogits) fun _ _ => ?_
  refine Same.bind (Same.add (by decide)) fun _ ht => ?_
  cases ht
  exact launchKernel_same hs Extent.one (show Extent (128 + 512) by decide) hn Extent.one

theorem sm100MqaMaps_same (h : args.InRange) (isFp4 : Bool) (hprod : args.seqLen * args.numHeads ≤ i32.hi) :
    Same fun A => sm100MqaMaps A params isFp4 args := by
  have houter : Extent (args.seqLen * args.numHeads) := ⟨Int.mul_nonneg h.seqLen.1 h.heads.1, hprod⟩
  refine Same.ite (fun _ => ?_) fun _ => ?_
  · refine Same.bind (Same.mul houter.i32) fun _ e => ?_
    cases e
    refine Same.bind (Same.mul h.tile.i32) fun _ e => Same.bind (Same.const _) fun _ hq => ?_
    cases e
    have hq := Extent.of_asI32 hq
    have hhalf : (args.headDim).tdiv 2 = 16 ∨ (args.headDim).tdiv 2 = 32 ∨ (args.headDim).tdiv 2 = 64 := by
      rcases h.headDim with e | e | e <;> rw [e] <;> decide
    have hswizzle : 0 ≤ (args.headDim).tdiv 2 ∧ (args.headDim).tdiv 2 ≤ 128 := by omega
    refine Same.bind (Same.div (has_i32.mpr ⟨by omega, by omega⟩)) fun _ e => ?_
    rw [Arith.exact_div (by decide)] at e
    cases e
    refine Same.bind (makeTma2dDesc_same h.dimExtent houter h.dimExtent h.tile hq hswizzle) fun _ _ => ?_
    refine Same.bind (Same.const _) fun _ hs => ?_
    have hs := Extent.of_asI32 hs
    refine Same.bind (makeTma2dDesc_same h.heads h.seqLen h.heads h.rows hs (by decide)) fun _ _ => ?_
    refine Same.bind (Same.const _) fun _ hk => ?_
    have hk := Extent.of_asI32 hk
    refine Same.bind (makeTma2dDesc_same h.dimExtent h.seqLenKv h.dimExtent h.cols hk hswizzle) fun _ _ => ?_
    exact Same.bind (kvScaleMap_same h) fun _ _ => Same.const _
  · refine Same.bind (Same.mul houter.i32) fun _ e => ?_
    cases e
    refine Same.bind (Same.mul h.tile.i32) fun _ e => Same.bind (Same.const _) fun _ hq => ?_
    cases e
    have hq := Extent.of_asI32 hq
    refine Same.bind (makeTma2dDesc_same h.dimExtent houter h.dimExtent h.tile hq h.dim) fun _ _ => ?_
    refine Same.bind (Same.const _) fun _ hk => ?_
    have hk := Extent.of_asI32 hk
    refine Same.bind (makeTma2dDesc_same h.dimExtent h.seqLenKv h.dimExtent h.cols hk h.dim) fun _ _ => ?_
    exact Same.bind (kvScaleMap_same h) fun _ _ => Same.const _

theorem launchSm100MqaLogits_same (h : args.InRange) (isFp4 : Bool) (hs : Extent numSms)
    (hprod : args.seqLen * args.numHeads ≤ i32.hi) :
    Same fun A => launchSm100MqaLogits A params isFp4 args numSms pdl := by
  refine Same.bind (sm100MqaMaps_same h isFp4 hprod) fun _ _ => Same.bind (Same.const _) fun _ hws => ?_
  have hws := Extent.of_asI32 hws
  refine Same.bind (makeTma2dDesc_same h.heads h.seqLen h.heads h.rows hws (by decide)) fun _ _ => ?_
  refine Same.bind (Same.cast h.seqLen.u32) fun _ _ => Same.bind (Same.cast h.seqLenKv.u32) fun _ _ => ?_
  refine Same.bind (Same.cast h.strideLogits) fun _ _ => Same.bind (Same.add (by decide)) fun _ ht => ?_
  cases ht
  exact launchKernel_same hs Extent.one (show Extent (128 + 256) by decide) (show Extent 232448 by decide)
    Extent.one

/-- What validation leaves of a launch. -/
structure MqaValid (params : MqaLogitsParams) (d : MqaDispatch) : Prop where
  inRange : params.args.InRange
  maxSeqlenK : Extent params.maxSeqlenK
  dispatch : d = .sm90 params.args ∧ params.q.dtype = DTypeCode.fp8E4M3 ∧ params.weights.dtype = DTypeCode.f32 ∧
      params.kv.dtype = DTypeCode.fp8E4M3 ∧ params.kvScale.dtype = DTypeCode.f32 ∨
    d = .sm100 params.hasQScale params.args

theorem mqaValid {device : DeviceInfo} {d : MqaDispatch} (h : dispatchMqaLogits device params = .ok d) :
    MqaValid params d := by
  obtain ⟨hc, hs⟩ := dispatchMqaLogits_eq_ok.mp h
  have hseq := shape_pos_of_requireContiguous hc.q 0 (by decide)
  have hkv := shape_pos_of_requireContiguous hc.kv 0 (by decide)
  have hld := (requireLogitsOutput_eq_ok.mp hc.logits).2.1
  have hstride := logitsStride_range hld hkv.le hc.seqLenKv hc.maxSeqlenK.1 hc.maxSeqlenK.2
  have hformat := hc.format
  unfold requireMqaFormat at hformat
  rcases selectMqa_eq_ok.mp hs with ⟨-, hfp8, hw, ⟨hn, hd⟩, rfl⟩ | ⟨-, -, ⟨hn, hd⟩, rfl⟩
  · rw [hfp8] at hformat
    simp only [Bool.false_eq_true, if_false, bind_eq_ok, requireDtype_eq_ok, exists_const] at hformat
    exact ⟨⟨⟨hseq.le, hc.seqLen⟩, ⟨hkv.le, hc.seqLenKv⟩, .inr (.inr hn), hd, rfl, rfl, hstride⟩, hc.maxSeqlenK,
      .inl ⟨rfl, hformat.1, hw, hformat.2⟩⟩
  · exact ⟨⟨⟨hseq.le, hc.seqLen⟩, ⟨hkv.le, hc.seqLenKv⟩, hn, by omega, rfl, rfl, hstride⟩, hc.maxSeqlenK,
      .inr rfl⟩

/-- The outer dimension of the map of `q`. -/
def MqaLogitsParams.OuterFits (params : MqaLogitsParams) : Prop :=
  (params.q.shape 0).val * (params.q.shape 1).val ≤ i32.hi

theorem launchMqaLogits_same {d : MqaDispatch} (h : MqaValid params d) (hs : Extent numSms)
    (hfit : params.OuterFits) : Same fun A => launchMqaLogits A params numSms pdl d := by
  have hclean : ∀ first, Same fun A => launchCleanIfAsked A params params.args numSms pdl first := fun first =>
    Same.ite (fun _ => Same.bind (launchCleanLogits_same h.inRange hs) fun _ _ => Same.const _) fun _ =>
      Same.const _
  rcases h.dispatch with ⟨rfl, hq, hw, hkv, hkvs⟩ | rfl
  · exact Same.bind (launchSm90Fp8MqaLogits_same h.inRange h.maxSeqlenK hs hq hw hkv hkvs hfit) fun first _ =>
      hclean first
  · exact Same.bind (launchSm100MqaLogits_same h.inRange _ hs hfit) fun first _ => hclean first

theorem noFault_launchMqaLogits {d : MqaDispatch} : NoFault (launchMqaLogits .exact params numSms pdl d) := by
  cases d <;>
    simp [launchMqaLogits, launchSm90Fp8MqaLogits, sm90MqaSmemSize, launchSm100MqaLogits, sm100MqaMaps,
      sm100KvScaleMap, launchCleanIfAsked, launchCleanLogits]

theorem launchMqaLogits_overflow {d : MqaDispatch} (h : MqaValid params d) (hfit : ¬ params.OuterFits) :
    launchMqaLogits .machine params numSms pdl d = .error MachineFault.overflow := by
  have hmul : (i32.mul params.args.seqLen params.args.numHeads : Native Int) = .error MachineFault.overflow :=
    IntType.mul_of_not_has fun hh => hfit hh.2
  rcases h.dispatch with ⟨rfl, -⟩ | rfl
  · simp only [launchMqaLogits, launchSm90Fp8MqaLogits, Arith.machine_mul, hmul, error_bind]
  · simp only [launchMqaLogits, launchSm100MqaLogits, sm100MqaMaps, Arith.machine_mul, hmul, error_bind, ite_self]

/-! ## `launch_paged_mqa_logits_metadata` -/

theorem alignI64OrThrow_exact {value : Int} (alignment : Int) (name : String) (h0 : 0 ≤ value) (hpos : 0 < alignment) :
    alignI64OrThrow .exact value alignment name = .ok (alignUp value alignment) := by
  have hrem : (Arith.exact.rem i64 value alignment : Native Int) = .ok (value % alignment) := by
    rw [Arith.rem, if_neg hpos.ne', Int.tmod_eq_emod_of_nonneg h0]
    rfl
  unfold alignI64OrThrow
  rw [throwIf_neg (by omega), ok_bind, hrem, ok_bind, alignUp_eq_of_emod hpos]
  by_cases hz : value % alignment = 0
  · rw [if_pos hz, if_pos hz]
  · rw [if_neg hz, if_neg hz]
    rfl

theorem alignI64OrThrow_machine {value : Int} (alignment : Int) (name : String) (hv : Extent value)
    (hpos : 0 < alignment) (ha : alignment ≤ 4096) :
    alignI64OrThrow .machine value alignment name = .ok (alignUp value alignment) := by
  have hlt : alignUp value alignment < value + alignment := alignUp_lt hpos
  have hle := hv.2
  simp only [i32] at hle
  have h0 := hv.1
  exact alignI64OrThrow_eq (has_i64.mpr ⟨by omega, by omega⟩) (has_i64.mpr ⟨by omega, by omega⟩) h0 hpos
    (by simp only [i64]; omega)

/-- What validation leaves of a metadata launch. -/
structure MetadataValid (device : DeviceInfo) (params : PagedMqaLogitsMetadataParams) (d : MetadataDispatch) :
    Prop where
  batchSize : Extent (params.contextLens.shape 0)
  nextN : Extent (params.contextLens.shape 1)
  dispatch : device.major = 9 ∧ d = .sm90 (params.contextLens.shape 0) (params.contextLens.shape 1) params.numSms false ∨
    device.major = 10 ∧ d = .sm100 (params.contextLens.shape 0) (params.contextLens.shape 1) params.numSms
      params.hasIndices

theorem metadataValid {device : DeviceInfo} {params : PagedMqaLogitsMetadataParams} {d : MetadataDispatch}
    (h : dispatchPagedMqaLogitsMetadata device params = .ok d) : MetadataValid device params d := by
  obtain ⟨hc, hs⟩ := dispatchPagedMqaLogitsMetadata_eq_ok.mp h
  obtain ⟨-, -, hb, hn, -⟩ := requireContiguous2DI32_eq_ok.mp hc.contextLens
  refine ⟨⟨hb.le, hc.batchSize⟩, ⟨hn.le, hc.nextN⟩, ?_⟩
  rcases selectMetadata_eq_ok.mp hs with ⟨h9, -, -, rfl⟩ | ⟨h10, -, -, rfl⟩
  · exact .inl ⟨h9, rfl⟩
  · exact .inr ⟨h10, rfl⟩

/-- The shared memory of the scheduler, and on SM100 the number of tokens; on SM90 `as_i32` refuses
the largest batches before. -/
def PagedMqaLogitsMetadataParams.SchedulerFits (device : DeviceInfo) (params : PagedMqaLogitsMetadataParams) :
    Prop :=
  if device.major = 9 then
    4 * alignUp (params.contextLens.shape 0) 32 ≤ i32.hi ∨ i32.hi < alignUp (params.contextLens.shape 0) 32
  else
    (params.contextLens.shape 0).val * (params.contextLens.shape 1).val ≤ i32.hi ∧
      8 * (params.contextLens.shape 0).val ≤ i32.hi

section

variable {params : PagedMqaLogitsMetadataParams} {batchSize nextN : Int}

theorem launchSm90Metadata_exact_iff (hb : Extent batchSize) (hn : Extent nextN) :
    (ExactRun fun A => launchSm90Metadata A params batchSize nextN false pdl) ↔
      4 * alignUp batchSize 32 ≤ i32.hi ∨ i32.hi < alignUp batchSize 32 := by
  have hm := alignI64OrThrow_machine 32 "batch_size" hb (by decide) (by decide)
  have he := alignI64OrThrow_exact 32 "batch_size" hb.1 (by decide)
  have hle : batchSize ≤ alignUp batchSize 32 := le_alignUp (by decide)
  have hquiet : NoFault (launchSm90Metadata .exact params batchSize nextN false pdl) := by
    simp [launchSm90Metadata, numSmemInts, alignI64OrThrow]
  have hb0 := hb.1
  by_cases hthrow : i32.hi < alignUp batchSize 32
  · refine iff_of_true ((exactRun_iff hquiet).mpr ?_) (.inr hthrow)
    refine Same.bind (hm.trans he.symm) fun _ ha => Same.bind (Same.const _) fun _ hi => ?_
    cases he.symm.trans ha
    exact absurd (Extent.of_asI32 hi).2 (by rw [← (asI32_eq_ok.mp hi).2]; omega)
  have hi : asI32 (alignUp batchSize 32) "aligned_batch_size" = .ok (alignUp batchSize 32) :=
    asI32_eq_ok.mpr ⟨⟨by omega, not_lt.mp hthrow⟩, rfl⟩
  rw [or_iff_left hthrow]
  refine ⟨fun hs => by_contra fun hover => ?_, fun hfit => ?_⟩
  · refine not_exactRun_of_overflow ?_ hs
    have hmul : (i32.mul (alignUp batchSize 32) 4 : Native Int) = .error MachineFault.overflow :=
      IntType.mul_of_not_has fun hh => hover (by have := hh.2; omega)
    simp only [launchSm90Metadata, hm, hi, ok_bind, numSmemInts, Bool.false_eq_true, if_false, Arith.machine_cast,
      Arith.machine_mul, hmul, error_bind]
  · refine (exactRun_iff hquiet).mpr ?_
    refine Same.bind (hm.trans he.symm) fun _ ha => ?_
    cases he.symm.trans ha
    refine Same.bind (Same.const _) fun _ ha => ?_
    cases hi.symm.trans ha
    refine Same.bind (Same.ite (fun h => by cases h) fun _ => Same.const _) fun _ hw => ?_
    cases hw
    refine Same.bind (Same.cast hb.u32) fun _ _ => Same.bind (Same.cast hn.u32) fun _ _ => ?_
    have hsmem : Extent (alignUp batchSize 32 * 4) := ⟨by omega, by omega⟩
    refine Same.bind (Same.mul hsmem.i32) fun _ e => ?_
    cases e
    exact launchKernel_same Extent.one Extent.one (show Extent 32 by decide) hsmem Extent.one

theorem launchSm100Metadata_exact_iff (hb : Extent batchSize) (hn : Extent nextN) :
    (ExactRun fun A => launchSm100Metadata A params batchSize nextN pdl) ↔
      batchSize * nextN ≤ i32.hi ∧ 8 * batchSize ≤ i32.hi := by
  have hb0 := hb.1
  refine ⟨fun hs => by_contra fun hover => ?_, fun ⟨htokens, hwords⟩ => ?_⟩
  · refine not_exactRun_of_overflow ?_ hs
    simp only [launchSm100Metadata, Arith.machine_cast, Arith.machine_mul, ok_bind]
    by_cases htokens : i32.Has (batchSize * nextN)
    · rw [IntType.mul_of_has htokens, ok_bind]
      have hwords : ¬ 8 * batchSize ≤ i32.hi := fun hh => hover ⟨htokens.2, hh⟩
      by_cases htwo : i32.Has (2 * batchSize)
      · have hfour : ¬ i32.Has (2 * batchSize * 4) := fun hh => hwords (by have := hh.2; omega)
        rw [IntType.mul_of_has htwo, ok_bind, IntType.mul_of_not_has hfour, error_bind]
      · rw [IntType.mul_of_not_has htwo, error_bind]
    · rw [IntType.mul_of_not_has htokens, error_bind]
  · have htokens : Extent (batchSize * nextN) := ⟨Int.mul_nonneg hb.1 hn.1, htokens⟩
    have htwo : Extent (2 * batchSize) := ⟨by omega, by omega⟩
    have hsmem : Extent (2 * batchSize * 4) := ⟨by omega, by omega⟩
    refine (exactRun_iff (by simp [launchSm100Metadata])).mpr ?_
    refine Same.bind (Same.cast hb.u32) fun _ _ => Same.bind (Same.mul htokens.i32) fun _ e => ?_
    cases e
    refine Same.bind (Same.cast htokens.u32) fun _ _ => Same.bind (Same.mul htwo.i32) fun _ e => ?_
    cases e
    refine Same.bind (Same.mul hsmem.i32) fun _ e => ?_
    cases e
    exact launchKernel_same Extent.one Extent.one (show Extent 256 by decide) hsmem Extent.one

theorem launchPagedMqaLogitsMetadata_exact_iff {device : DeviceInfo} {d : MetadataDispatch}
    (h : MetadataValid device params d) :
    (ExactRun fun A => launchPagedMqaLogitsMetadata A params pdl d) ↔ params.SchedulerFits device := by
  unfold PagedMqaLogitsMetadataParams.SchedulerFits
  rcases h.dispatch with ⟨h9, rfl⟩ | ⟨h10, rfl⟩
  · rw [if_pos h9]
    exact launchSm90Metadata_exact_iff h.batchSize h.nextN
  · rw [if_neg (by omega)]
    exact launchSm100Metadata_exact_iff h.batchSize h.nextN

end

/-! ## `launch_fp8_fp4_paged_mqa_logits` -/

/-- The ranges of the arguments after validation. -/
structure PagedMqaArgs.InRange (args : PagedMqaArgs) : Prop where
  batchSize : Extent args.batchSize
  nextN : Extent args.nextN
  numHeads : args.numHeads = 8 ∨ args.numHeads = 16 ∨ args.numHeads = 32 ∨ args.numHeads = 64
  headDim : args.headDim = 32 ∨ args.headDim = 64 ∨ args.headDim = 128
  numKvBlocks : Extent args.numKvBlocks
  blockKv : args.blockKv = 32 ∨ args.blockKv = 64
  strideLogits : 0 ≤ args.strideLogits ∧ args.strideLogits ≤ u32.hi
  blockTableStride : Extent args.blockTableStride
  numSms : Extent args.numSms

namespace PagedMqaArgs.InRange

variable {args : PagedMqaArgs}

theorem heads (h : args.InRange) : Extent args.numHeads := by
  rcases h.numHeads with e | e | e | e <;> rw [e] <;> decide

theorem dim (h : args.InRange) : 0 ≤ args.headDim ∧ args.headDim ≤ 128 := by
  rcases h.headDim with e | e | e <;> rw [e] <;> decide

theorem dimExtent (h : args.InRange) : Extent args.headDim := ⟨h.dim.1, h.dim.2.trans (by decide)⟩

theorem page (h : args.InRange) : Extent args.blockKv := by
  rcases h.blockKv with e | e <;> rw [e] <;> decide

/-- With all products of the batch, the next tokens and the heads, the number of tokens fits. -/
theorem tokens (h : args.InRange) (hprod : args.batchSize * args.nextN * args.numHeads ≤ i32.hi) :
    Extent (args.batchSize * args.nextN) ∧ Extent (args.batchSize * args.nextN * args.numHeads) := by
  have h0 : 0 ≤ args.batchSize * args.nextN := Int.mul_nonneg h.batchSize.1 h.nextN.1
  have hle : args.batchSize * args.nextN ≤ args.batchSize * args.nextN * args.numHeads :=
    le_mul_of_one_le_right h0 (by have := h.numHeads; omega)
  exact ⟨⟨h0, hle.trans hprod⟩, ⟨h0.trans hle, hprod⟩⟩

end PagedMqaArgs.InRange

theorem sm90PagedSmemSize_eq {args : PagedMqaArgs} (h : args.InRange) (hn : args.nextN = 1 ∨ args.nextN = 2) :
    ∃ n, sm90PagedSmemSize .machine args.nextN args.numHeads args.headDim args.blockKv 1 4 = .ok n ∧
      sm90PagedSmemSize .exact args.nextN args.numHeads args.headDim args.blockKv 1 4 = .ok n ∧ Extent n := by
  rcases hn with e | e <;> rcases h.numHeads with f | f | f | f <;> rcases h.headDim with g | g | g <;>
    rcases h.blockKv with k | k <;> rw [e, f, g, k] <;> exact ⟨_, rfl, rfl, by decide⟩

section

variable {params : PagedMqaLogitsParams} {args : PagedMqaArgs}

/-- The page stride, in bytes and in scales. -/
theorem scaleStride_same {stride : Int} (h : Extent stride) :
    (Same (ε := Stop) fun A => A.div i32 stride 4) ∧
      ∀ r, (Arith.exact.div i32 stride 4 : Native Int) = .ok r → Extent r := by
  have hq : stride.tdiv 4 = stride / 4 := Int.tdiv_eq_ediv_of_nonneg h.1
  have h0 := h.1
  have h1 := h.2
  refine ⟨Same.div ?_, fun r hr => ?_⟩
  · rw [hq]
    exact Extent.i32 ⟨by omega, by omega⟩
  · rw [Arith.exact_div (by decide), hq] at hr
    cases hr
    exact ⟨by omega, by omega⟩

theorem launchSm90Fp8PagedMqaLogits_same (h : args.InRange) (hn : args.nextN = 1 ∨ args.nextN = 2)
    (hq : params.q.dtype = DTypeCode.fp8E4M3) (hw : params.weights.dtype = DTypeCode.f32)
    (hprod : args.batchSize * args.nextN * args.numHeads ≤ i32.hi) :
    Same fun A => launchSm90Fp8PagedMqaLogits A params args pdl := by
  obtain ⟨htokens, houter⟩ := h.tokens hprod
  have hpage : i32.Has (args.blockKv * args.headDim) := by
    rcases h.blockKv with e | e <;> rcases h.headDim with f | f | f <;> rw [e, f] <;> decide
  have hatom : Extent (if args.nextN ≥ 2 then 2 else 1) := by
    split <;> decide
  have htile : Extent ((if args.nextN ≥ 2 then 2 else 1) * args.numHeads) := by
    rcases h.numHeads with e | e | e | e <;> rw [e] <;> split <;> decide
  refine Same.bind (Same.const _) fun _ hs => ?_
  have hs := Extent.of_asI32 hs
  refine Same.bind (Same.mul hpage) fun _ e => ?_
  cases e
  refine Same.bind (Same.mul htokens.i32) fun _ e => ?_
  cases e
  refine Same.bind (Same.mul houter.i32) fun _ e => Same.bind (Same.mul htile.i32) fun _ e' => ?_
  cases e
  cases e'
  refine Same.bind (Same.const _) fun _ hqs => ?_
  have hqs := Extent.of_asI32 hqs
  refine Same.bind (makeTma2dDesc_same h.dimExtent houter h.dimExtent htile hqs h.dim) fun _ _ => ?_
  refine Same.bind (makeTma3dDesc_same h.dimExtent h.page h.numKvBlocks h.dimExtent h.page Extent.one h.dimExtent
    hs h.dim) fun _ _ => ?_
  obtain ⟨hdiv, hquot⟩ := scaleStride_same hs
  refine Same.bind hdiv fun _ e => ?_
  have hquot := hquot _ e
  refine Same.bind (makeTma2dDesc_same h.page h.numKvBlocks h.page Extent.one hquot (by decide)) fun _ _ => ?_
  refine Same.bind (Same.mul htokens.i32) fun _ e => Same.bind (Same.const _) fun _ hws => ?_
  cases e
  have hws := Extent.of_asI32 hws
  refine Same.bind (makeTma2dDesc_same h.heads htokens h.heads hatom hws (by decide)) fun _ _ => ?_
  rw [hq, hw]
  obtain ⟨n, hm, he, hsmem⟩ := sm90PagedSmemSize_eq h hn
  refine Same.bind (hm.trans he.symm) fun n' e => ?_
  cases he.symm.trans e
  refine Same.bind (Same.cast h.batchSize.u32) fun _ _ => Same.bind (Same.cast h.strideLogits) fun _ _ => ?_
  refine Same.bind (Same.cast h.blockTableStride.u32) fun _ _ => Same.bind (Same.add (by decide)) fun _ ht => ?_
  cases ht
  exact launchKernel_same h.numSms Extent.one (show Extent (128 + 512) by decide) hsmem Extent.one

theorem sm100PagedMaps_same (h : args.InRange) (isFp4 : Bool) {blockQ tokens kvBytes stride : Int}
    (hrows : Extent blockQ) (htile : Extent (blockQ * args.numHeads)) (htokens : Extent tokens)
    (houter : Extent (tokens * args.numHeads)) (hbytes : Extent kvBytes) (hs : Extent stride) :
    Same fun A => sm100PagedMaps A params isFp4 args blockQ tokens kvBytes stride := by
  refine Same.ite (fun _ => ?_) fun _ => ?_
  · refine Same.bind (Same.mul houter.i32) fun _ e => Same.bind (Same.mul htile.i32) fun _ e' => ?_
    cases e
    cases e'
    refine Same.bind (Same.const _) fun _ hq => ?_
    have hq := Extent.of_asI32 hq
    have hhalf : (args.headDim).tdiv 2 = 16 ∨ (args.headDim).tdiv 2 = 32 ∨ (args.headDim).tdiv 2 = 64 := by
      rcases h.headDim with e | e | e <;> rw [e] <;> decide
    have hswizzle : 0 ≤ (args.headDim).tdiv 2 ∧ (args.headDim).tdiv 2 ≤ 128 := by omega
    refine Same.bind (Same.div (has_i32.mpr ⟨by omega, by omega⟩)) fun _ e => ?_
    rw [Arith.exact_div (by decide)] at e
    cases e
    refine Same.bind (makeTma2dDesc_same h.dimExtent houter h.dimExtent htile hq hswizzle) fun _ _ => ?_
    refine Same.bind (Same.const _) fun _ hqs => ?_
    have hqs := Extent.of_asI32 hqs
    refine Same.bind (makeTma2dDesc_same h.heads htokens h.heads hrows hqs (by decide)) fun _ _ => ?_
    exact Same.bind (makeTma3dDesc_same h.dimExtent h.page h.numKvBlocks h.dimExtent h.page Extent.one hbytes hs
      hswizzle) fun _ _ => Same.const _
  · refine Same.bind (Same.mul houter.i32) fun _ e => Same.bind (Same.mul htile.i32) fun _ e' => ?_
    cases e
    cases e'
    refine Same.bind (Same.const _) fun _ hq => ?_
    have hq := Extent.of_asI32 hq
    refine Same.bind (makeTma2dDesc_same h.dimExtent houter h.dimExtent htile hq h.dim) fun _ _ => ?_
    exact Same.bind (makeTma3dDesc_same h.dimExtent h.page h.numKvBlocks h.dimExtent h.page Extent.one hbytes hs
      h.dim) fun _ _ => Same.const _

/-- The first steps of the SM100 launch: the rows of a tile and the bytes of a token and of a page. -/
theorem sm100Paged_prefix (h : args.InRange) (isFp4 : Bool) :
    ∃ blockQ kvBytes, (i32.div 128 args.numHeads : Native Int) = .ok blockQ ∧
      (Arith.exact.div i32 128 args.numHeads : Native Int) = .ok blockQ ∧ Extent blockQ ∧
      Extent (blockQ * args.numHeads) ∧ kvBytesPerToken .machine isFp4 args.headDim = .ok kvBytes ∧
      kvBytesPerToken .exact isFp4 args.headDim = .ok kvBytes ∧ Extent kvBytes ∧
      i32.Has (args.blockKv * kvBytes) := by
  rcases h.numHeads with e | e | e | e <;> rcases h.headDim with f | f | f <;>
    rcases h.blockKv with g | g <;> cases isFp4 <;> rw [e, f, g] <;>
    exact ⟨_, _, rfl, rfl, by decide, by decide, rfl, rfl, by decide, by decide⟩

theorem launchSm100PagedMqaLogits_same (h : args.InRange) (isFp4 : Bool)
    (hprod : args.batchSize * args.nextN * args.numHeads ≤ i32.hi) :
    Same fun A => launchSm100PagedMqaLogits A params isFp4 args pdl := by
  obtain ⟨htokens, houter⟩ := h.tokens hprod
  obtain ⟨blockQ, kvBytes, hqm, hqe, hrows, htile, hbm, hbe, hbytes, hpage⟩ := sm100Paged_prefix h isFp4
  refine Same.bind (hqm.trans hqe.symm) fun _ e => Same.bind (Same.mul htokens.i32) fun _ e' => ?_
  cases hqe.symm.trans e
  cases e'
  refine Same.bind (hbm.trans hbe.symm) fun _ e => ?_
  cases hbe.symm.trans e
  refine Same.bind (Same.const _) fun _ hs => ?_
  have hs := Extent.of_asI32 hs
  refine Same.bind (Same.mul hpage) fun _ e => ?_
  cases e
  refine Same.bind (sm100PagedMaps_same h isFp4 hrows htile htokens houter hbytes hs) fun _ _ => ?_
  obtain ⟨hdiv, hquot⟩ := scaleStride_same hs
  refine Same.bind hdiv fun _ e => ?_
  have hquot := hquot _ e
  refine Same.bind (makeTma2dDesc_same h.page h.numKvBlocks h.page Extent.one hquot (by decide)) fun _ _ => ?_
  refine Same.bind (Same.const _) fun _ hws => ?_
  have hws := Extent.of_asI32 hws
  refine Same.bind (makeTma2dDesc_same h.heads htokens h.heads hrows hws (by decide)) fun _ _ => ?_
  refine Same.bind (Same.cast htokens.u32) fun _ _ => Same.bind (Same.cast h.strideLogits) fun _ _ => ?_
  refine Same.bind (Same.cast h.blockTableStride.u32) fun _ _ => Same.bind (Same.add (by decide)) fun _ ht => ?_
  cases ht
  exact launchKernel_same h.numSms Extent.one (show Extent (128 + 256) by decide) (show Extent 232448 by decide)
    Extent.one

/-- What validation leaves of a paged launch. -/
structure PagedValid (params : PagedMqaLogitsParams) (d : PagedMqaDispatch) : Prop where
  inRange : params.args.InRange
  pageStride : Extent (params.fusedKvCache.stride 0)
  dispatch : d = .sm90 params.args ∧ (params.args.nextN = 1 ∨ params.args.nextN = 2) ∧
      params.q.dtype = DTypeCode.fp8E4M3 ∧ params.weights.dtype = DTypeCode.f32 ∨
    d = .sm100 params.hasQScale params.args

theorem pagedValid {device : DeviceInfo} {d : PagedMqaDispatch} (h : dispatchPagedMqaLogits device params = .ok d) :
    PagedValid params d := by
  obtain ⟨hc, hs⟩ := dispatchPagedMqaLogits_eq_ok.mp h
  have hb := shape_pos_of_requireContiguous hc.q 0 (by decide)
  have hn := shape_pos_of_requireContiguous hc.q 1 (by decide)
  have hphys := shape_pos_of_requireContiguous hc.q 3 (by decide)
  have hblocks := shape_pos_of_requireFusedKvCache hc.fusedKvCache 0
  have hstride := pagedStride_range (requireLogitsOutput_eq_ok.mp hc.logits).2.1 hc.maxContextLen.1.le
    hc.maxContextLen.2
  have hrange : (params.args.numHeads = 8 ∨ params.args.numHeads = 16 ∨ params.args.numHeads = 32 ∨
      params.args.numHeads = 64) → (params.args.headDim = 32 ∨ params.args.headDim = 64 ∨ params.args.headDim = 128) →
      (params.args.blockKv = 32 ∨ params.args.blockKv = 64) →
      params.args.InRange ∧ Extent (params.fusedKvCache.stride 0) := fun hheads hdim hblock => by
    refine ⟨⟨⟨hb.le, hc.batchSizeInt⟩, ⟨hn.le, hc.nextNInt⟩, hheads, hdim, ⟨hblocks.le, hc.numKvBlocksInt⟩, hblock,
      hstride, hc.blockTableStrideInt, ⟨hc.numSms.1.le, hc.numSmsInt⟩⟩, ?_⟩
    obtain ⟨-, -, -, -, -, -, ⟨hpage, -⟩, -⟩ := (requireFusedKvCache_eq_ok hphys.le).mp hc.fusedKvCache
    have hle : (params.q.shape 3).val ≤ 128 := by
      have hdim' : headDimOf params.hasQScale (params.q.shape 3) = 32 ∨
        headDimOf params.hasQScale (params.q.shape 3) = 64 ∨ headDimOf params.hasQScale (params.q.shape 3) = 128 := hdim
      unfold headDimOf at hdim'
      split at hdim' <;> omega
    have hblock' : (params.fusedKvCache.shape 1).val = 32 ∨ (params.fusedKvCache.shape 1).val = 64 := hblock
    rw [hpage]
    rcases hblock' with e | e <;> rw [e] <;> exact ⟨by omega, by simp only [i32]; omega⟩
  rcases selectPagedMqa_eq_ok.mp hs with ⟨-, hfp8, -, hw, hk, hn, ⟨hheads, hdim⟩, rfl⟩ |
    ⟨-, -, -, hk, ⟨hheads, hdim⟩, rfl⟩
  · obtain ⟨hr, hp⟩ := hrange (.inr (.inr hheads)) hdim (.inr hk)
    have hformat := hc.format
    unfold requirePagedFormat at hformat
    rw [hfp8] at hformat
    simp only [Bool.false_eq_true, if_false, requireDtype_eq_ok] at hformat
    exact ⟨hr, hp, .inl ⟨rfl, hn, hformat, hw⟩⟩
  · obtain ⟨hr, hp⟩ := hrange hheads (by omega) hk
    exact ⟨hr, hp, .inr rfl⟩

/-- The outer dimension of the map of `q`. -/
def PagedMqaLogitsParams.OuterFits (params : PagedMqaLogitsParams) : Prop :=
  (params.q.shape 0).val * (params.q.shape 1).val * (params.q.shape 2).val ≤ i32.hi

theorem noFault_launchPagedMqaLogits {d : PagedMqaDispatch} : NoFault (launchPagedMqaLogits .exact params pdl d) := by
  cases d <;>
    simp [launchPagedMqaLogits, launchSm90Fp8PagedMqaLogits, sm90PagedSmemSize, alignI64, alignI64OrThrow,
      launchSm100PagedMqaLogits, sm100PagedMaps, kvBytesPerToken]

theorem launchPagedMqaLogits_overflow {d : PagedMqaDispatch} (h : PagedValid params d) (hfit : ¬ params.OuterFits) :
    launchPagedMqaLogits .machine params pdl d = .error MachineFault.overflow := by
  have hr := h.inRange
  have houter : ¬ i32.Has (params.args.batchSize * params.args.nextN * params.args.numHeads) := fun hh => hfit hh.2
  have hstride : ∀ name, asI32 (params.fusedKvCache.stride 0) name = .ok (params.fusedKvCache.stride 0).val :=
    fun name => asI32_eq_ok.mpr ⟨h.pageStride, rfl⟩
  rcases h.dispatch with ⟨rfl, -⟩ | rfl
  · have hpage : i32.Has (params.args.blockKv * params.args.headDim) := by
      rcases hr.blockKv with e | e <;> rcases hr.headDim with f | f | f <;> rw [e, f] <;> decide
    simp only [launchPagedMqaLogits, launchSm90Fp8PagedMqaLogits, hstride, Arith.machine_mul, ok_bind,
      IntType.mul_of_has hpage]
    by_cases htokens : i32.Has (params.args.batchSize * params.args.nextN)
    · rw [IntType.mul_of_has htokens, ok_bind, IntType.mul_of_not_has houter, error_bind]
    · rw [IntType.mul_of_not_has htokens, error_bind]
  · obtain ⟨blockQ, kvBytes, hqm, -, -, -, hbm, -, -, hpage⟩ := sm100Paged_prefix hr params.hasQScale
    simp only [launchPagedMqaLogits, launchSm100PagedMqaLogits, hstride, Arith.machine_mul, Arith.machine_div, hqm,
      hbm, ok_bind, IntType.mul_of_has hpage]
    by_cases htokens : i32.Has (params.args.batchSize * params.args.nextN)
    · simp only [IntType.mul_of_has htokens, ok_bind, sm100PagedMaps, Arith.machine_mul,
        IntType.mul_of_not_has houter, error_bind, ite_self]
    · rw [IntType.mul_of_not_has htokens, error_bind]

theorem launchPagedMqaLogits_same {d : PagedMqaDispatch} (h : PagedValid params d) (hfit : params.OuterFits) :
    Same fun A => launchPagedMqaLogits A params pdl d := by
  rcases h.dispatch with ⟨rfl, hn, hq, hw⟩ | rfl
  · exact launchSm90Fp8PagedMqaLogits_same h.inRange hn hq hw hfit
  · exact launchSm100PagedMqaLogits_same h.inRange _ hfit

end

/-! ## The three entry points -/

/-- **A validated launch is computed exactly when its products are values of `int`, and only then.** -/
theorem launches_exact_iff (device : DeviceInfo) (pdl : Bool) :
    (∀ params d numSms, Extent numSms → dispatchMqaLogits device params = .ok d →
      ((ExactRun fun A => launchMqaLogits A params numSms pdl d) ↔ params.OuterFits)) ∧
    (∀ params d, dispatchPagedMqaLogitsMetadata device params = .ok d →
      ((ExactRun fun A => launchPagedMqaLogitsMetadata A params pdl d) ↔ params.SchedulerFits device)) ∧
    ∀ params d, dispatchPagedMqaLogits device params = .ok d →
      ((ExactRun fun A => launchPagedMqaLogits A params pdl d) ↔ params.OuterFits) := by
  refine ⟨fun params d numSms hs h => ?_, fun params d h => ?_, fun params d h => ?_⟩
  · have hv := mqaValid h
    refine ⟨fun he => by_contra fun hn => ?_, fun hfit => ?_⟩
    · exact not_exactRun_of_overflow (launchMqaLogits_overflow hv hn) he
    · exact (exactRun_iff noFault_launchMqaLogits).mpr (launchMqaLogits_same hv hs hfit)
  · exact launchPagedMqaLogitsMetadata_exact_iff (metadataValid h)
  · have hv := pagedValid h
    refine ⟨fun he => by_contra fun hn => ?_, fun hfit => ?_⟩
    · exact not_exactRun_of_overflow (launchPagedMqaLogits_overflow hv hn) he
    · exact (exactRun_iff noFault_launchPagedMqaLogits).mpr (launchPagedMqaLogits_same hv hfit)

/-- The schedule of `batchSize` sequences on an H100. -/
def metadataOf (batchSize : I64) : PagedMqaLogitsMetadataParams where
  contextLens := ⟨1, DTypeCode.i32, 2, ![batchSize, I64.one, I64.zero, I64.zero], ![I64.one, I64.one, I64.zero, I64.zero]⟩
  hasIndices := false
  indices := emptyTensor
  scheduleMeta := ⟨1, DTypeCode.i32, 2, ![133, 2, I64.zero, I64.zero],
    ![2, I64.one, I64.zero, I64.zero]⟩
  blockKv := 64
  numSms := 132
  stream := 0

/-- 2 GiB of context lengths. -/
def hugeBatch : PagedMqaLogitsMetadataParams := metadataOf 536870912

theorem hugeBatch_overflows :
    dispatchPagedMqaLogitsMetadata h100 hugeBatch = .ok (.sm90 536870912 1 132 false) ∧
      launchPagedMqaLogitsMetadata .machine hugeBatch false (.sm90 536870912 1 132 false) = .error .overflow ∧
      ¬ ExactRun fun A => launchPagedMqaLogitsMetadata A hugeBatch false (.sm90 536870912 1 132 false) :=
  ⟨rfl, rfl, not_exactRun_of_overflow rfl⟩

/-- One token of 32 heads over two positions. -/
def oneToken : MqaLogitsParams where
  q := ⟨1, DTypeCode.fp8E4M3, 3, ![I64.one, 32, 32, I64.zero],
    ![1024, 32, I64.one, I64.zero]⟩
  hasQScale := false
  qScale := emptyTensor
  kv := ⟨1, DTypeCode.fp8E4M3, 2, ![2, 32, I64.zero, I64.zero],
    ![32, I64.one, I64.zero, I64.zero]⟩
  kvScale := ⟨1, DTypeCode.f32, 1, ![2, I64.zero, I64.zero, I64.zero],
    ![I64.one, I64.zero, I64.zero, I64.zero]⟩
  weights := ⟨1, DTypeCode.f32, 2, ![I64.one, 32, I64.zero, I64.zero],
    ![32, I64.one, I64.zero, I64.zero]⟩
  cuSeqLenKStart := ⟨1, DTypeCode.i32, 1, ![I64.one, I64.zero, I64.zero, I64.zero],
    ![I64.one, I64.zero, I64.zero, I64.zero]⟩
  cuSeqLenKEnd := ⟨1, DTypeCode.i32, 1, ![I64.one, I64.zero, I64.zero, I64.zero],
    ![I64.one, I64.zero, I64.zero, I64.zero]⟩
  logits := ⟨1, DTypeCode.f32, 2, ![I64.one, 2, I64.zero, I64.zero],
    ![512, I64.one, I64.zero, I64.zero]⟩
  cleanLogits := false
  maxSeqlenK := I64.zero
  stream := 0

/-- One token of 32 heads over one page. -/
def onePage : PagedMqaLogitsParams where
  q := ⟨1, DTypeCode.fp8E4M3, 4, ![I64.one, I64.one, 32, 32],
    ![1024, 1024, 32, I64.one]⟩
  hasQScale := false
  qScale := emptyTensor
  fusedKvCache := ⟨1, DTypeCode.u8, 4, ![I64.one, 64, I64.one, 36],
    ![2304, 36, 36, I64.one]⟩
  weights := ⟨1, DTypeCode.f32, 2, ![I64.one, 32, I64.zero, I64.zero],
    ![32, I64.one, I64.zero, I64.zero]⟩
  contextLens := ⟨1, DTypeCode.i32, 2, ![I64.one, I64.one, I64.zero, I64.zero],
    ![I64.one, I64.one, I64.zero, I64.zero]⟩
  blockTable := ⟨1, DTypeCode.i32, 2, ![I64.one, I64.one, I64.zero, I64.zero],
    ![I64.one, I64.one, I64.zero, I64.zero]⟩
  scheduleMeta := ⟨1, DTypeCode.i32, 2, ![133, 2, I64.zero, I64.zero],
    ![2, I64.one, I64.zero, I64.zero]⟩
  hasIndices := false
  indices := emptyTensor
  logits := ⟨1, DTypeCode.f32, 2, ![I64.one, 64, I64.zero, I64.zero],
    ![256, I64.one, I64.zero, I64.zero]⟩
  maxContextLen := 64
  numSms := 132
  cleanLogits := false
  stream := 0

theorem smallLaunches_exact_iff :
    ((ExactRun fun A => launchMqaLogits A oneToken 132 false (.sm90 oneToken.args)) ↔ oneToken.OuterFits) ∧
      ((ExactRun fun A => launchPagedMqaLogitsMetadata A (metadataOf I64.one) false (.sm90 1 1 132 false)) ↔
        (metadataOf I64.one).SchedulerFits h100) ∧
      ((ExactRun fun A => launchPagedMqaLogits A onePage false (.sm90 onePage.args)) ↔ onePage.OuterFits) :=
  ⟨(launches_exact_iff h100 false).1 oneToken _ 132 (by decide) rfl,
    (launches_exact_iff h100 false).2.1 (metadataOf I64.one) _ rfl,
    (launches_exact_iff h100 false).2.2 onePage _ rfl⟩

end DeepGemmRs.Raw
