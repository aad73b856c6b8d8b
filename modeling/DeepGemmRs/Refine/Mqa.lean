import DeepGemmRs.CApi.Sound
import DeepGemmRs.Refine.Tensors

/-!
# The crate and the native code accept the same MQA launches

* `MqaContract` : what a launch of `fp8_fp4_mqa_logits` must satisfy, read off neither side;
* `accepted_iff_contract` : the crate's checks and the layout helper accept exactly the contract;
* `contract_of_checked`, `checked_of_contract` : what the native checks accept, on the converted parameters;
* `dispatch_iff_contract` : it is the contract;
* `accepted_iff_dispatch` : hence both sides agree.
-/

namespace DeepGemmRs

open Checked MachineInt

namespace Refine

open Crate TensorSpec

/-! ## The contract -/

/-- What `fp8_fp4_mqa_logits` demands of its inputs. -/
structure MqaContract (spec : MqaLogitsSpec) (arch : Arch) : Prop where
  logitsDtype : spec.logitsDtype = .f32 ∨ spec.logitsDtype = .bf16
  cleanLogits : ¬ (spec.cleanLogits = true ∧ 0 < spec.maxSeqlenK)
  kvWidth : spec.kv.shape 1 = spec.q.shape 2
  q : spec.q.RowMajor
  kv : spec.kv.RowMajor
  qDtype : spec.q.dtype = elementDtype spec.qScale.isSome
  kvDtype : spec.kv.dtype = elementDtype spec.qScale.isSome
  qScale : ∀ s ∈ spec.qScale, Scale s .packedUe8M0 ![spec.q.shape 0, spec.q.shape 1]
  kvScale : Scale spec.kvScale (if spec.qScale.isSome then .packedUe8M0 else .f32) ![spec.kv.shape 0]
  weights : spec.weights.shape 0 = spec.q.shape 0 ∧ spec.weights.shape 1 = spec.q.shape 1 ∧
    (spec.weights.strides 1).val = 1
  weightsDtype : WeightsDtype spec.weights.dtype arch spec.logitsDtype
  cuSeqLenKStart : I32Vector spec.cuSeqLenKStart (spec.q.shape 0)
  cuSeqLenKEnd : I32Vector spec.cuSeqLenKEnd (spec.q.shape 0)
  support : ArchSupport arch spec.qScale.isSome (spec.q.shape 1)
    (if spec.qScale.isSome then spec.q.shape 2 * 2 else spec.q.shape 2)

/-- What it demands of the logits: the logical shape, not empty, and rows of the padded length. -/
structure MqaOutput (spec : MqaLogitsSpec) (logits : TensorSpec 2) : Prop where
  seqLen : 0 < spec.q.shape 0
  seqLenKv : 0 < spec.kv.shape 0
  rows : logits.shape 0 = spec.q.shape 0
  cols : logits.shape 1 = if spec.maxSeqlenK = 0 then spec.kv.shape 0 else spec.maxSeqlenK
  rowStride : (logits.strides 0).val =
    CApi.logitsStride (spec.kv.shape 0) spec.maxSeqlenK spec.logitsDtype.toSys
  colStride : (logits.strides 1).val = 1

/-- The tensors and sizes of a spec fit. -/
structure MqaFits (spec : MqaLogitsSpec) : Prop where
  q : spec.q.Fits
  qScale : ∀ s ∈ spec.qScale, s.Fits
  kv : spec.kv.Fits
  kvScale : spec.kvScale.Fits
  weights : spec.weights.Fits
  cuSeqLenKStart : spec.cuSeqLenKStart.Fits
  cuSeqLenKEnd : spec.cuSeqLenKEnd.Fits
  maxSeqlenK : (spec.maxSeqlenK : Int) ≤ i32.hi

/-- The crate's checks are the contract. -/
theorem validateMqaLogitsSpec_eq_ok {spec : MqaLogitsSpec} {arch : Arch} (hf : MqaFits spec)
    {dims : MqaDims} :
    validateMqaLogitsSpec spec arch = .ok dims ↔
      MqaContract spec arch ∧ dims = ⟨spec.q.shape 0, spec.kv.shape 0, spec.q.shape 1⟩ := by
  have hphys := hf.q.extents 2
  simp only [i32] at hphys
  simp only [validateMqaLogitsSpec, bind_eq_ok, throwIf_eq_ok, requireLogitsDtype_eq_ok,
    logicalHeadDim_eq_ok, hf.q.requireContiguous_iff le_rfl, hf.kv.requireContiguous_iff (by decide),
    hf.kvScale.requireContiguous_iff (by decide), requireDtype_eq_ok, requireShape_eq_ok,
    requireQScale_iff hf.qScale (by decide), requireWeights_eq_ok,
    requireI32Vector_eq_ok hf.cuSeqLenKStart.extents_i64, requireI32Vector_eq_ok hf.cuSeqLenKEnd.extents_i64,
    requireArchSupport_eq_ok, exists_const, Except.ok.injEq]
  refine ⟨?_, ?_⟩
  · rintro ⟨hld, hclean, _, ⟨-, -, rfl⟩, hw, hq, hkv, hqd, hkvd, hqs, hksd, hks, hksl, ⟨hwt, hwd⟩, hs, he,
      ha, rfl⟩
    rw [physicalHeadDim_logical, not_not] at hw
    exact ⟨⟨hld, hclean, hw, hq, hkv, hqd, hkvd, hqs, ⟨hks, hksd, hksl⟩, hwt, hwd, hs, he, ha⟩, rfl⟩
  · rintro ⟨h, rfl⟩
    have hpos : 0 < spec.q.shape 2 := by
      rcases h.support.headDim with hd | hd | hd <;> split at hd <;> omega
    refine ⟨h.logitsDtype, h.cleanLogits, _, ⟨hpos, fun _ => has_u64.mpr (by omega), rfl⟩, ?_, h.q, h.kv,
      h.qDtype, h.kvDtype, h.qScale, h.kvScale.dtype, h.kvScale.rowMajor, h.kvScale.shape,
      ⟨h.weights, h.weightsDtype⟩, h.cuSeqLenKStart, h.cuSeqLenKEnd, h.support, rfl⟩
    rw [physicalHeadDim_logical, not_not]
    exact h.kvWidth

/-- The parameters of the layout helper for a spec. -/
structure LayoutParamsOf (spec : MqaLogitsSpec) (p : CApi.MqaLogitsLayoutParams) : Prop where
  seqLen : p.seqLen.val = spec.q.shape 0
  seqLenKv : p.seqLenKv.val = spec.kv.shape 0
  numHeads : p.numHeads.val = spec.q.shape 1
  maxSeqlenK : p.maxSeqlenK.val = spec.maxSeqlenK
  logitsDtype : p.logitsDtype = spec.logitsDtype.toSys

theorem mqaLogitsLayout_eq_ok {spec : MqaLogitsSpec} {arch : Arch} (hf : MqaFits spec)
    {layout : TensorLayout2D} :
    mqaLogitsLayout spec arch = .ok layout ↔ MqaContract spec arch ∧
      ∃ p, LayoutParamsOf spec p ∧ callLayout (CApi.mqaLogitsLayout (some p)) = .ok layout := by
  simp only [mqaLogitsLayout, bind_eq_ok, usizeToI64_eq_ok, validateMqaLogitsSpec_eq_ok hf]
  refine ⟨?_, ?_⟩
  · rintro ⟨_, ⟨hc, rfl⟩, seqLen, h1, seqLenKv, h2, numHeads, h3, maxSeqlenK, h4, hcall⟩
    exact ⟨hc, ⟨seqLen, seqLenKv, numHeads, maxSeqlenK, spec.logitsDtype.toSys⟩, ⟨h1, h2, h3, h4, rfl⟩, hcall⟩
  · rintro ⟨hc, ⟨seqLen, seqLenKv, numHeads, maxSeqlenK, logitsDtype⟩, ⟨h1, h2, h3, h4, rfl⟩, hcall⟩
    exact ⟨_, ⟨hc, rfl⟩, seqLen, h1, seqLenKv, h2, numHeads, h3, maxSeqlenK, h4, hcall⟩

theorem validateMqaLogitsSpec_dims {spec : MqaLogitsSpec} {arch : Arch} {dims : MqaDims}
    (h : validateMqaLogitsSpec spec arch = .ok dims) :
    dims = ⟨spec.q.shape 0, spec.kv.shape 0, spec.q.shape 1⟩ := by
  simp only [validateMqaLogitsSpec, bind_eq_ok, Except.ok.injEq] at h
  obtain ⟨_, -, _, -, _, -, _, -, _, -, _, -, _, -, _, -, _, -, _, -, _, -, _, -, _, -, _, -, _, -, _, -, rfl⟩ := h
  rfl

/-- A layout that comes back is the formula, at parameters the helper admits. -/
theorem mqaLogitsLayout_image {spec : MqaLogitsSpec} {arch : Arch} {layout : TensorLayout2D}
    (h : mqaLogitsLayout spec arch = .ok layout) :
    ∃ p, LayoutParamsOf spec p ∧ p.Admits ∧ LayoutImage p.layout layout := by
  simp only [mqaLogitsLayout, bind_eq_ok, usizeToI64_eq_ok] at h
  obtain ⟨dims, hd, seqLen, h1, seqLenKv, h2, numHeads, h3, maxSeqlenK, h4, hcall⟩ := h
  obtain rfl := validateMqaLogitsSpec_dims hd
  exact ⟨_, ⟨h1, h2, h3, h4, rfl⟩, callLayout_ok (CApi.mqaLogitsLayout_settles _) hcall⟩

/-- The layout that comes back has the output's shape and strides. -/
theorem output_of_layoutImage {spec : MqaLogitsSpec} {p : CApi.MqaLogitsLayoutParams}
    (hp : LayoutParamsOf spec p) {layout : TensorLayout2D} (ha : p.Admits)
    (himg : LayoutImage p.layout layout) :
    layout.dtype = spec.logitsDtype ∧ MqaOutput spec layout.logicalSpec := by
  have hd : layout.dtype.toSys = spec.logitsDtype.toSys := himg.dtype.trans hp.logitsDtype
  have hrows : (layout.logicalShape 0 : Int) = p.seqLen := himg.logicalShape 0
  have hcols : (layout.logicalShape 1 : Int) = p.cols := himg.logicalShape 1
  have hstride : (layout.strides 0).val = p.rowStride := himg.strides 0
  have hseq := hp.seqLen
  have hkv := hp.seqLenKv
  have hk := hp.maxSeqlenK
  refine ⟨DType.toSys_injective hd, ?_, ?_, ?_, ?_, ?_, himg.strides 1⟩
  · have := ha.seqLen
    omega
  · have := ha.seqLenKv
    omega
  · show layout.logicalShape 0 = _
    omega
  · show layout.logicalShape 1 = _
    by_cases h0 : p.maxSeqlenK.val = 0
    · rw [p.cols_full h0] at hcols
      rw [if_pos (by omega)]
      omega
    · rw [p.cols_compressed h0] at hcols
      rw [if_neg (by omega)]
      omega
  · show (layout.strides 0).val = _
    rw [hstride, CApi.MqaLogitsLayoutParams.rowStride, hkv, hk, hp.logitsDtype]

/-- The contract leaves the helper nothing to refuse. -/
theorem admits_of_contract {spec : MqaLogitsSpec} {arch : Arch} (hf : MqaFits spec)
    (hc : MqaContract spec arch) (h0 : 0 < spec.q.shape 0) (h1 : 0 < spec.kv.shape 0)
    {p : CApi.MqaLogitsLayoutParams} (hp : LayoutParamsOf spec p) : ¬ p.Overflows ∧ p.Admits := by
  have hseq := hf.q.extents 0
  have hkv := hf.kv.extents 0
  have hk := hf.maxSeqlenK
  rw [← hp.seqLen] at hseq
  rw [← hp.seqLenKv] at hkv
  rw [← hp.maxSeqlenK] at hk
  simp only [i32] at hseq hkv hk
  have hseq0 : 0 < p.seqLen.val := by rw [hp.seqLen]; omega
  have hkv0 : 0 < p.seqLenKv.val := by rw [hp.seqLenKv]; omega
  have hk0 : 0 ≤ p.maxSeqlenK.val := by rw [hp.maxSeqlenK]; omega
  have hdtype : CApi.IsLogits p.logitsDtype := by
    rw [hp.logitsDtype]
    exact hc.logitsDtype.imp (fun h => by rw [h]; rfl) (fun h => by rw [h]; rfl)
  have hheads : p.numHeads.val = 8 ∨ p.numHeads.val = 16 ∨ p.numHeads.val = 32 ∨ p.numHeads.val = 64 := by
    have := hc.support.numHeads
    rw [hp.numHeads]
    omega
  have hdivides : 128 % p.numHeads.val = 0 := by
    rcases hheads with h | h | h | h <;> rw [h] <;> rfl
  have hbq : p.blockQ ≤ 16 := by
    unfold CApi.MqaLogitsLayoutParams.blockQ
    rcases hheads with h | h | h | h <;> rw [h] <;> decide
  have hbpos : 0 < p.blockQ := CApi.MqaLogitsLayoutParams.blockQ_pos (by omega) hdivides
  have hrows : p.rows < p.seqLen + p.blockQ := Rounding.alignUp_lt hbpos
  have hrows0 : p.seqLen.val ≤ p.rows := Rounding.le_alignUp hbpos
  have hapos := CApi.rowAlignment_pos hdtype
  have hale := Raw.rowAlignment_le hdtype
  have hstride : 0 < p.rowStride ∧ p.rowStride ≤ 2147485000 := by
    by_cases hz : p.maxSeqlenK.val = 0
    · rw [p.rowStride_full hz]
      have h2 := Rounding.alignUp_lt (v := p.seqLenKv + 256) hapos
      have h3 := Rounding.le_alignUp (v := p.seqLenKv + 256) hapos
      omega
    · rw [p.rowStride_compressed hz]
      have h2 := Rounding.alignUp_lt (v := Rounding.alignUp p.maxSeqlenK 256) hapos
      have h3 := Rounding.le_alignUp (v := Rounding.alignUp p.maxSeqlenK 256) hapos
      have h4 := Rounding.alignUp_lt (a := 256) (v := p.maxSeqlenK.val) (by decide)
      have h5 := Rounding.le_alignUp (a := 256) (v := p.maxSeqlenK.val) (by decide)
      omega
  have hcount : p.rows * p.rowStride ≤ 2147483663 * 2147485000 :=
    Int.mul_le_mul (by omega) hstride.2 hstride.1.le (by decide)
  have hchecked : p.Checked :=
    ⟨hseq0, hkv0, by omega, hk0, hdivides, hdtype, by simp only [i64]; omega⟩
  refine ⟨fun ho => ?_, hchecked, by simp only [i64]; omega, by simp only [u64]; omega⟩
  have := ho.2.2
  simp only [i64] at this
  omega

theorem exists_layoutParams {spec : MqaLogitsSpec} (hf : MqaFits spec) : ∃ p, LayoutParamsOf spec p := by
  have fits : ∀ n : Nat, (n : Int) ≤ i32.hi → ∃ x : I64, x.val = n := fun n hn =>
    ⟨⟨n, has_i64.mpr ⟨by omega, hn.trans (by decide)⟩⟩, rfl⟩
  obtain ⟨seqLen, h1⟩ := fits _ (hf.q.extents 0)
  obtain ⟨seqLenKv, h2⟩ := fits _ (hf.kv.extents 0)
  obtain ⟨numHeads, h3⟩ := fits _ (hf.q.extents 1)
  obtain ⟨maxSeqlenK, h4⟩ := fits _ hf.maxSeqlenK
  exact ⟨⟨seqLen, seqLenKv, numHeads, maxSeqlenK, _⟩, h1, h2, h3, h4, rfl⟩

/-- On the contract the layout call comes back. -/
theorem mqaLogitsLayout_succeeds {spec : MqaLogitsSpec} {arch : Arch} (hf : MqaFits spec)
    (hc : MqaContract spec arch) (h0 : 0 < spec.q.shape 0) (h1 : 0 < spec.kv.shape 0) :
    ∃ layout, mqaLogitsLayout spec arch = .ok layout := by
  obtain ⟨p, hp⟩ := exists_layoutParams hf
  obtain ⟨hno, ha⟩ := admits_of_contract hf hc h0 h1 hp
  have hrows : p.seqLen ≤ p.rows := ha.seqLen_le
  have hcols : p.cols ≤ p.rowStride := ha.cols_le
  have hcols0 : 0 ≤ p.cols := by
    have := ha.seqLenKv
    have := ha.maxSeqlenK
    unfold CApi.MqaLogitsLayoutParams.cols
    split <;> omega
  have hseq := ha.seqLen
  have hstride : i64.Has p.rowStride := has_i64.mpr ⟨by omega, ha.stride⟩
  have hcount : 0 ≤ p.rows * p.rowStride := Int.mul_nonneg (by omega) (by omega)
  obtain ⟨layout, hl⟩ := logitsLayoutFromSys_succeeds p.layout hp.logitsDtype
    (Fin.forall_fin_two.mpr ⟨hseq.le, hcols0⟩)
    (Fin.forall_fin_two.mpr ⟨show 0 ≤ p.rows by omega, show 0 ≤ p.rowStride by omega⟩)
    (Fin.forall_fin_two.mpr ⟨hstride, show i64.Has 1 by decide⟩) ⟨hcount, ha.count⟩
  exact ⟨layout, (mqaLogitsLayout_eq_ok hf).mpr
    ⟨hc, p, hp, callLayout_succeeds (CApi.mqaLogitsLayout_settles p) hno ha hl⟩⟩

theorem MqaOutput.unique {spec : MqaLogitsSpec} {a b : TensorSpec 2} (ha : MqaOutput spec a)
    (hb : MqaOutput spec b) (hd : a.dtype = b.dtype) : a = b := by
  refine TensorSpec.ext hd (funext (Fin.forall_fin_two.mpr ?_)) (funext (Fin.forall_fin_two.mpr ?_))
  · exact ⟨ha.rows.trans hb.rows.symm, ha.cols.trans hb.cols.symm⟩
  · exact ⟨Subtype.ext (ha.rowStride.trans hb.rowStride.symm),
      Subtype.ext (ha.colStride.trans hb.colStride.symm)⟩

/-- A layout that comes back describes the output the contract demands. -/
theorem output_of_mqaLogitsLayout {spec : MqaLogitsSpec} {arch : Arch} (hf : MqaFits spec)
    {layout : TensorLayout2D} (h : mqaLogitsLayout spec arch = .ok layout) :
    MqaContract spec arch ∧ layout.dtype = spec.logitsDtype ∧ MqaOutput spec layout.logicalSpec := by
  obtain ⟨hc, p, hp, hcall⟩ := (mqaLogitsLayout_eq_ok hf).mp h
  obtain ⟨ha, himg⟩ := callLayout_ok (CApi.mqaLogitsLayout_settles p) hcall
  exact ⟨hc, output_of_layoutImage hp ha himg⟩

/-- **The crate accepts the contract.** -/
theorem accepted_iff_contract {params : MqaLogitsLaunch} {arch : Arch} (hf : MqaFits params.spec) :
    params.Accepted arch ↔ MqaContract params.spec arch ∧ MqaOutput params.spec params.logits.spec := by
  unfold MqaLogitsLaunch.Accepted
  refine ⟨?_, fun ⟨hc, ho⟩ => ?_⟩
  · rintro ⟨layout, hl, hs⟩
    obtain ⟨hc, -, ho⟩ := output_of_mqaLogitsLayout hf hl
    rw [hs]
    exact ⟨hc, ho⟩
  · obtain ⟨layout, hl⟩ := mqaLogitsLayout_succeeds hf hc ho.seqLen ho.seqLenKv
    obtain ⟨-, hd, ho'⟩ := output_of_mqaLogitsLayout hf hl
    exact ⟨layout, hl, ho.unique ho' hd.symm⟩

/-! ## The native side -/

/-- `raw` is the converted launch. -/
structure MqaImage (params : MqaLogitsLaunch) (raw : Raw.MqaLogitsParams) : Prop where
  q : params.q.Image raw.q
  hasQScale : raw.hasQScale = params.qScale.isSome
  qScale : ∀ arg ∈ params.qScale, arg.Image raw.qScale
  kv : params.kv.Image raw.kv
  kvScale : params.kvScale.Image raw.kvScale
  weights : params.weights.Image raw.weights
  cuSeqLenKStart : params.cuSeqLenKStart.Image raw.cuSeqLenKStart
  cuSeqLenKEnd : params.cuSeqLenKEnd.Image raw.cuSeqLenKEnd
  logits : params.logits.Image raw.logits
  cleanLogits : raw.cleanLogits = params.cleanLogits
  maxSeqlenK : raw.maxSeqlenK.val = params.maxSeqlenK

theorem toRaw_image {params : MqaLogitsLaunch} {raw : Raw.MqaLogitsParams} (h : params.toRaw = .ok raw) :
    MqaImage params raw := by
  simp only [MqaLogitsLaunch.toRaw, bind_eq_ok, usizeToI64_eq_ok, Except.ok.injEq] at h
  obtain ⟨_, h1, _, h2, _, h3, _, h4, _, h5, _, h6, _, h7, _, h8, _, h9, rfl⟩ := h
  exact ⟨TensorArg.toRaw_image (by decide) h1, rfl, optionalTensorArg_image (by decide) h2,
    TensorArg.toRaw_image (by decide) h3, TensorArg.toRaw_image (by decide) h4,
    TensorArg.toRaw_image (by decide) h5, TensorArg.toRaw_image (by decide) h6,
    TensorArg.toRaw_image (by decide) h7, TensorArg.toRaw_image (by decide) h8, rfl, h9⟩

/-- The launch fits: its tensors, and no pointer is null. -/
structure MqaLaunchFits (params : MqaLogitsLaunch) : Prop where
  q : params.q.Fits
  qScale : ∀ arg ∈ params.qScale, arg.Fits
  kv : params.kv.Fits
  kvScale : params.kvScale.Fits
  weights : params.weights.Fits
  cuSeqLenKStart : params.cuSeqLenKStart.Fits
  cuSeqLenKEnd : params.cuSeqLenKEnd.Fits
  logits : params.logits.Fits
  maxSeqlenK : (params.maxSeqlenK : Int) ≤ i32.hi

theorem MqaLaunchFits.spec {params : MqaLogitsLaunch} (h : MqaLaunchFits params) : MqaFits params.spec where
  q := h.q.spec
  qScale s hs := by
    obtain ⟨arg, ha, rfl⟩ := Option.mem_map.mp hs
    exact (h.qScale arg ha).spec
  kv := h.kv.spec
  kvScale := h.kvScale.spec
  weights := h.weights.spec
  cuSeqLenKStart := h.cuSeqLenKStart.spec
  cuSeqLenKEnd := h.cuSeqLenKEnd.spec
  maxSeqlenK := h.maxSeqlenK

theorem toRaw_succeeds {params : MqaLogitsLaunch} (h : MqaLaunchFits params) :
    ∃ raw, params.toRaw = .ok raw := by
  obtain ⟨_, h1⟩ := toRaw_succeeds_of_fits (by decide) h.q
  obtain ⟨_, h2⟩ := optionalTensorArg_succeeds (by decide) h.qScale
  obtain ⟨_, h3⟩ := toRaw_succeeds_of_fits (by decide) h.kv
  obtain ⟨_, h4⟩ := toRaw_succeeds_of_fits (by decide) h.kvScale
  obtain ⟨_, h5⟩ := toRaw_succeeds_of_fits (by decide) h.weights
  obtain ⟨_, h6⟩ := toRaw_succeeds_of_fits (by decide) h.cuSeqLenKStart
  obtain ⟨_, h7⟩ := toRaw_succeeds_of_fits (by decide) h.cuSeqLenKEnd
  obtain ⟨_, h8⟩ := toRaw_succeeds_of_fits (by decide) h.logits
  have h9 : i64.Has (params.maxSeqlenK : Int) := has_i64.mpr ⟨by omega, h.maxSeqlenK.trans (by decide)⟩
  simp only [MqaLogitsLaunch.toRaw, bind_eq_ok, usizeToI64_eq_ok, Except.ok.injEq]
  exact ⟨_, _, h1, _, h2, _, h3, _, h4, _, h5, _, h6, _, h7, _, h8, ⟨_, h9⟩, rfl, rfl⟩

theorem requireMqaFormat_iff {params : MqaLogitsLaunch} {raw : Raw.MqaLogitsParams}
    (hi : MqaImage params raw) (h : MqaLaunchFits params) (h0 : 0 < params.q.spec.shape 0)
    (h1 : 0 < params.q.spec.shape 1) {u : Unit} :
    Raw.requireMqaFormat raw (params.q.spec.shape 0) (params.q.spec.shape 1) = .ok u ↔
      params.q.spec.dtype = elementDtype params.qScale.isSome ∧
      params.kv.spec.dtype = elementDtype params.qScale.isSome ∧
      (∀ arg ∈ params.qScale, Scale arg.spec .packedUe8M0 ![params.q.spec.shape 0, params.q.spec.shape 1]) ∧
      params.kvScale.spec.dtype = if params.qScale.isSome then .packedUe8M0 else .f32 := by
  unfold Raw.requireMqaFormat
  rw [hi.hasQScale]
  cases hq : params.qScale with
  | none =>
    have hd1 := dtype_iff_of_image hi.q .fp8E4M3
    have hd2 := dtype_iff_of_image hi.kv .fp8E4M3
    have hd3 := dtype_iff_of_image hi.kvScale .f32
    simp only [DType.toSys] at hd1 hd2 hd3
    simp [elementDtype, hd1, hd2, hd3]
  | some arg =>
    have hd1 := dtype_iff_of_image hi.q .packedFp4E2M1
    have hd2 := dtype_iff_of_image hi.kv .packedFp4E2M1
    have hd3 := dtype_iff_of_image hi.kvScale .packedUe8M0
    have hs := raw_scale_iff 2 (by decide) "q_scale" (hi.qScale arg hq) (h.qScale arg hq) .packedUe8M0
      ![params.q.spec.shape 0, params.q.spec.shape 1] (Fin.forall_fin_two.mpr ⟨h0, h1⟩) (u := u)
    have hall : (∀ i : Fin (2 : Fin 5), (raw.qScale.shape (i.castLE (2 : Fin 5).is_le)).val =
        ((![params.q.spec.shape 0, params.q.spec.shape 1] : Fin 2 → Nat) i : Nat)) ↔
        (raw.qScale.shape 0).val = params.q.spec.shape 0 ∧
          (raw.qScale.shape 1).val = params.q.spec.shape 1 := Fin.forall_fin_two
    rw [hall] at hs
    simp only [DType.toSys] at hd1 hd2 hd3 hs
    simp only [Option.isSome_some, if_true, elementDtype, bind_eq_ok, Raw.requireDtype_eq_ok, throwIf_eq_ok,
      not_or, not_not, exists_const, hd1, hd2, hd3, Option.mem_some_iff, forall_eq', ← hs]
    refine and_congr_right fun _ => and_congr_right fun _ => ?_
    constructor
    · rintro ⟨a, ha, hb, hc, hd⟩
      exact ⟨⟨ha, hb, hc⟩, hd⟩
    · rintro ⟨⟨ha, hb, hc⟩, hd⟩
      exact ⟨u, ha, hb, hc, hd⟩

/-- The architecture's own conditions are the crate's. -/
theorem selects_iff {device : DeviceInfo} {arch : Arch} (hdev : device.major = arch.major)
    {params : MqaLogitsLaunch} {raw : Raw.MqaLogitsParams} (hi : MqaImage params raw) {numHeads headDim : Nat}
    (args : Raw.MqaArgs) (hh : args.numHeads = numHeads) (hd : args.headDim = headDim) :
    ((params.weights.spec.dtype = .f32 ∨ params.weights.spec.dtype = .bf16) ∧
        ∃ d, Raw.selectMqa device raw args = .ok d) ↔
      WeightsDtype params.weights.spec.dtype arch params.logits.spec.dtype ∧
        ArchSupport arch params.qScale.isSome numHeads headDim := by
  have hwf := dtype_iff_of_image hi.weights .f32
  have hwb := dtype_iff_of_image hi.weights .bf16
  have hlb := dtype_iff_of_image hi.logits .bf16
  simp only [DType.toSys] at hwf hwb hlb
  simp only [Raw.selectMqa_eq_ok, hdev, hi.hasQScale, ne_eq, hwf, hwb, hlb, hh, hd, WeightsDtype]
  cases arch with
  | sm90 =>
    simp only [Arch.major, Int.reduceEq, false_and, or_false, true_and, reduceCtorEq, and_false,
      archSupport_sm90]
    constructor
    · rintro ⟨-, _, hs, hw, hshape, -⟩
      exact ⟨hw, hs, hshape⟩
    · rintro ⟨hw, hs, hshape⟩
      exact ⟨.inl hw, _, hs, hw, hshape, rfl⟩
  | sm100 =>
    simp only [Arch.major, Int.reduceEq, false_and, false_or, true_and, archSupport_sm100]
    constructor
    · rintro ⟨hw, _, hn, hshape, -⟩
      exact ⟨hw.imp_right fun hb => ⟨hb, by_contra fun hl => hn ⟨hb, hl⟩⟩, hshape⟩
    · rintro ⟨hw, hshape⟩
      refine ⟨hw.imp_right And.left, _, ?_, hshape, rfl⟩
      rintro ⟨hb, hl⟩
      rcases hw with hf | ⟨-, hl'⟩
      · rw [hf] at hb
        cases hb
      · exact hl hl'

section

variable {device : DeviceInfo} {arch : Arch} {params : MqaLogitsLaunch} {raw : Raw.MqaLogitsParams}

theorem MqaImage.headDim (hi : MqaImage params raw) :
    Raw.headDimOf raw.hasQScale (raw.q.shape 2) =
      ((if params.qScale.isSome then params.q.spec.shape 2 * 2 else params.q.spec.shape 2 : Nat) : Int) := by
  unfold Raw.headDimOf
  rw [hi.hasQScale, hi.q.shape 2 2 rfl]
  split <;> simp

theorem MqaImage.strideLogits (hi : MqaImage params raw) :
    raw.args.strideLogits =
      CApi.logitsStride (params.kv.spec.shape 0) params.maxSeqlenK params.logits.spec.dtype.toSys := by
  rw [Raw.MqaLogitsParams.args, hi.kv.shape 0 0 rfl, hi.maxSeqlenK, hi.logits.dtype]

theorem MqaImage.logitsCols (hi : MqaImage params raw) :
    raw.logitsCols =
      ((if params.maxSeqlenK = 0 then params.kv.spec.shape 0 else params.maxSeqlenK : Nat) : Int) := by
  have hmax := hi.maxSeqlenK
  unfold Raw.MqaLogitsParams.logitsCols
  split
  · rw [if_pos (by omega), hi.kv.shape 0 0 rfl]
  · rw [if_neg (by omega), hmax]

/-- The native check of the logits is the output the contract demands. -/
theorem requireLogits_iff (hi : MqaImage params raw) (h : MqaLaunchFits params)
    (h0 : 0 < params.q.spec.shape 0) (h1 : 0 < params.kv.spec.shape 0) :
    Raw.requireLogitsOutput raw.logits (raw.q.shape 0) raw.logitsCols raw.args.strideLogits "logits" = .ok () ↔
      CApi.IsLogits params.logits.spec.dtype.toSys ∧ MqaOutput params.spec params.logits.spec := by
  rw [Raw.requireLogitsOutput_eq_ok, and_iff_right (rank_of_image hi.logits h.logits), hi.logits.dtype,
    hi.logits.shape 0 0 rfl, hi.logits.shape 1 1 rfl, hi.logits.stride 0 0 rfl, hi.logits.stride 1 1 rfl,
    hi.q.shape 0 0 rfl, hi.logitsCols, hi.strideLogits]
  refine and_congr_right fun _ => ?_
  constructor
  · rintro ⟨hrows, hcols, hstride, hone⟩
    exact ⟨h0, h1, Int.natCast_inj.mp hrows, Int.natCast_inj.mp hcols, hstride, hone⟩
  · intro ho
    exact ⟨congrArg Nat.cast ho.rows, congrArg Nat.cast ho.cols, ho.rowStride, ho.colStride⟩

/-- No axis of `q` and `kv` is empty where the contract and the output are met. -/
theorem MqaContract.axes_pos {spec : MqaLogitsSpec} {logits : TensorSpec 2} (hc : MqaContract spec arch)
    (ho : MqaOutput spec logits) : (∀ i, 0 < spec.q.shape i) ∧ ∀ i, 0 < spec.kv.shape i := by
  have hheads : 0 < spec.q.shape 1 := by
    rcases hc.support.numHeads with e | e | e | e <;> omega
  have hdim : 0 < spec.q.shape 2 := by
    rcases hc.support.headDim with e | e | e <;> split at e <;> omega
  constructor
  · exact Fin.forall_fin_succ.mpr ⟨ho.seqLen, Fin.forall_fin_two.mpr ⟨hheads, hdim⟩⟩
  · exact Fin.forall_fin_two.mpr ⟨ho.seqLenKv, hc.kvWidth ▸ hdim⟩

/-- What the native checks accept meets the contract. -/
theorem contract_of_checked (hdev : device.major = arch.major) (hi : MqaImage params raw) (h : MqaLaunchFits params)
    (hc : Raw.MqaChecked raw) (hd : ∃ d, Raw.selectMqa device raw raw.args = .ok d) :
    MqaContract params.spec arch ∧ MqaOutput params.spec params.logits.spec := by
  have hsome : params.spec.qScale.isSome = params.qScale.isSome := Option.isSome_map
  have hq0 := hi.q.shape 0 0 rfl
  have hq1 := hi.q.shape 1 1 rfl
  have hq2 := hi.q.shape 2 2 rfl
  have hk0 := hi.kv.shape 0 0 rfl
  have hk1 := hi.kv.shape 1 1 rfl
  have hks0 := hi.kvScale.shape 0 0 rfl
  obtain ⟨hqpos, hq⟩ := (raw_requireContiguous_iff 3 (by decide) h.q hi.q).mp hc.q
  obtain ⟨hkvpos, hkv⟩ := (raw_requireContiguous_iff 2 (by decide) h.kv hi.kv).mp hc.kv
  obtain ⟨-, hks⟩ := (raw_requireContiguous_iff 1 (by decide) h.kvScale hi.kvScale).mp hc.kvScale
  obtain ⟨hld, ho⟩ := (requireLogits_iff hi h (hqpos (0 : Fin 3)) (hkvpos (0 : Fin 2))).mp hc.logits
  have hw := hc.weights
  have hformat := hc.format
  have hstart := hc.cuSeqLenKStart
  have hend := hc.cuSeqLenKEnd
  rw [hq0, hq1] at hw hformat
  rw [hq0] at hstart hend
  obtain ⟨hwt, hwd⟩ := (raw_weights_iff hi.weights h.weights).mp hw
  obtain ⟨hqd, hkd, hqs, hksd⟩ :=
    (requireMqaFormat_iff hi h (hqpos (0 : Fin 3)) (hqpos (1 : Fin 3))).mp hformat
  obtain ⟨hwdtype, hsupport⟩ := (selects_iff hdev hi raw.args hq1 hi.headDim).mp ⟨hwd, hd⟩
  have hwidth := hc.kvWidth
  have hlen := hc.kvScaleLen
  have hclean := hc.cleanLogits
  rw [hi.cleanLogits, hi.maxSeqlenK, Int.natCast_pos] at hclean
  rw [← hsome] at hqd hkd hksd hsupport
  refine ⟨⟨?_, hclean, ?_, hq, hkv, hqd, hkd, ?_, ⟨hks, hksd, eq_vec_one.mpr ?_⟩, hwt, hwdtype,
    (raw_requireI32Vector_iff hi.cuSeqLenKStart h.cuSeqLenKStart).mp hstart,
    (raw_requireI32Vector_iff hi.cuSeqLenKEnd h.cuSeqLenKEnd).mp hend, hsupport⟩, ho⟩
  · exact hld.imp DType.toSys_injective DType.toSys_injective
  · show params.kv.spec.shape 1 = params.q.spec.shape 2
    omega
  · intro s hs
    obtain ⟨arg, ha, rfl⟩ := Option.mem_map.mp hs
    exact hqs arg ha
  · show params.kvScale.spec.shape 0 = params.kv.spec.shape 0
    omega

/-- The native checks accept what meets the contract. -/
theorem checked_of_contract (hdev : device.major = arch.major) (hi : MqaImage params raw) (h : MqaLaunchFits params)
    (hc : MqaContract params.spec arch) (ho : MqaOutput params.spec params.logits.spec) :
    Raw.MqaChecked raw ∧ ∃ d, Raw.selectMqa device raw raw.args = .ok d := by
  have hsome : params.spec.qScale.isSome = params.qScale.isSome := Option.isSome_map
  have hq0 := hi.q.shape 0 0 rfl
  have hq1 := hi.q.shape 1 1 rfl
  have hq2 := hi.q.shape 2 2 rfl
  have hk0 := hi.kv.shape 0 0 rfl
  have hk1 := hi.kv.shape 1 1 rfl
  have hks0 := hi.kvScale.shape 0 0 rfl
  have hsupport : ArchSupport arch params.qScale.isSome (params.q.spec.shape 1)
      (if params.qScale.isSome then params.q.spec.shape 2 * 2 else params.q.spec.shape 2) := by
    rw [← hsome]
    exact hc.support
  obtain ⟨hwd, hd⟩ := (selects_iff hdev hi raw.args hq1 hi.headDim).mpr ⟨hc.weightsDtype, hsupport⟩
  obtain ⟨hqpos, hkvpos⟩ : (∀ i, 0 < params.q.spec.shape i) ∧ ∀ i, 0 < params.kv.spec.shape i := hc.axes_pos ho
  have hheads := hsupport.numHeads
  have hheadDim := hsupport.headDim
  have hwidth : params.kv.spec.shape 1 = params.q.spec.shape 2 := hc.kvWidth
  have hkslen : params.kvScale.spec.shape 0 = params.kv.spec.shape 0 := eq_vec_one.mp hc.kvScale.shape
  have hkspos : ∀ i, 0 < params.kvScale.spec.shape i := Fin.forall_fin_one.mpr (hkslen ▸ hkvpos 0)
  have hqd := hc.qDtype
  have hkd := hc.kvDtype
  have hksd := hc.kvScale.dtype
  rw [hsome] at hqd hkd hksd
  have hqs : ∀ arg ∈ params.qScale,
      Scale arg.spec .packedUe8M0 ![params.q.spec.shape 0, params.q.spec.shape 1] :=
    fun arg ha => hc.qScale _ (Option.mem_map.mpr ⟨arg, ha, rfl⟩)
  have hk := hi.maxSeqlenK
  have hkle := h.maxSeqlenK
  have hld : CApi.IsLogits params.logits.spec.dtype.toSys :=
    hc.logitsDtype.imp (congrArg DType.toSys) (congrArg DType.toSys)
  have hseq := h.q.spec.extents 0
  have hseqKv := h.kv.spec.extents 0
  have hint := h.q.spec.extents 1
  refine ⟨⟨(raw_requireContiguous_iff 3 (by decide) h.q hi.q).mpr ⟨hqpos, hc.q⟩,
    (raw_requireContiguous_iff 2 (by decide) h.kv hi.kv).mpr ⟨hkvpos, hc.kv⟩, by omega, ?_,
    (raw_requireContiguous_iff 1 (by decide) h.kvScale hi.kvScale).mpr ⟨hkspos, hc.kvScale.rowMajor⟩,
    by omega, ?_, ?_, ?_, ?_, hq0.le.trans hseq, hk0.le.trans hseqKv, hq1.le.trans hint, ?_, by omega, ?_,
    (requireLogits_iff hi h (hqpos 0) (hkvpos 0)).mpr ⟨hld, ho⟩⟩, hd⟩
  · rw [hq0, hq1]
    exact (requireMqaFormat_iff hi h (hqpos 0) (hqpos 1)).mpr ⟨hqd, hkd, hqs, hksd⟩
  · rw [hq0, hq1]
    exact (raw_weights_iff hi.weights h.weights).mpr ⟨hc.weights, hwd⟩
  · rw [hq0]
    exact (raw_requireI32Vector_iff hi.cuSeqLenKStart h.cuSeqLenKStart).mpr hc.cuSeqLenKStart
  · rw [hq0]
    exact (raw_requireI32Vector_iff hi.cuSeqLenKEnd h.cuSeqLenKEnd).mpr hc.cuSeqLenKEnd
  · rw [hi.cleanLogits, hk, Int.natCast_pos]
    exact hc.cleanLogits
  · show Raw.headDimOf raw.hasQScale (raw.q.shape 2) ≤ i32.hi
    rw [hi.headDim]
    simp only [i32]
    omega
  · show 128 % (raw.q.shape 1).val = 0
    rw [hq1]
    rcases hheads with e | e | e | e <;> rw [e] <;> rfl

/-- **The native code accepts the contract.** -/
theorem dispatch_iff_contract (hdev : device.major = arch.major) (hi : MqaImage params raw)
    (h : MqaLaunchFits params) :
    (∃ d, Raw.dispatchMqaLogits device raw = .ok d) ↔
      MqaContract params.spec arch ∧ MqaOutput params.spec params.logits.spec := by
  simp only [Raw.dispatchMqaLogits_eq_ok, exists_and_left]
  constructor
  · rintro ⟨hc, hd⟩
    exact contract_of_checked hdev hi h hc hd
  · rintro ⟨hc, ho⟩
    exact checked_of_contract hdev hi h hc ho

end

/-- The layout the crate computes has the row stride and the logits the native code demands. -/
theorem layout_is_demanded {params : MqaLogitsLaunch} {arch : Arch} (h : MqaLaunchFits params)
    {layout : TensorLayout2D} (hl : mqaLogitsLayout params.spec arch = .ok layout) :
    Raw.mqaLogitsStride (params.kv.spec.shape 0) params.maxSeqlenK 256 params.logits.spec.dtype.toSys =
        .ok (layout.strides 0) ∧
      ∀ (logits : TensorArg 2) (t : RawTensor), logits.Image t → logits.Fits →
        (Raw.requireLogitsOutput t (params.q.spec.shape 0)
            ((if params.maxSeqlenK = 0 then params.kv.spec.shape 0 else params.maxSeqlenK : Nat) : Int)
            (layout.strides 0) "logits" = .ok () ∧ logits.spec.dtype = params.logits.spec.dtype ↔
          logits.spec = layout.logicalSpec) := by
  obtain ⟨hc, hd, ho⟩ := output_of_mqaLogitsLayout h.spec hl
  have hld : CApi.IsLogits params.logits.spec.dtype.toSys :=
    hc.logitsDtype.imp (congrArg DType.toSys) (congrArg DType.toSys)
  have hstride : (layout.strides 0).val =
      CApi.logitsStride (params.kv.spec.shape 0) params.maxSeqlenK params.logits.spec.dtype.toSys := ho.rowStride
  refine ⟨?_, fun logits t hi hf => ?_⟩
  · rw [hstride]
    exact Raw.mqaLogitsStride_eq hld (by omega) (h.kv.spec.extents 0) (by omega) h.maxSeqlenK
  have h0 := hi.shape 0 0 rfl
  have h1 := hi.shape 1 1 rfl
  have hs0 := hi.stride 0 0 rfl
  have hs1 := hi.stride 1 1 rfl
  rw [Raw.requireLogitsOutput_eq_ok, and_iff_right (rank_of_image hi hf), h0, h1, hs0, hs1, hi.dtype]
  refine ⟨fun ⟨⟨_, hr, hcol, hst, hst1⟩, hdt⟩ => ?_, fun he => ?_⟩
  · have ho' : MqaOutput params.spec logits.spec :=
      ⟨ho.seqLen, ho.seqLenKv, Int.natCast_inj.mp hr, Int.natCast_inj.mp hcol, hst.trans hstride, hst1⟩
    exact ho'.unique ho (hdt.trans hd.symm)
  · have hdt : logits.spec.dtype = params.logits.spec.dtype := by rw [he]; exact hd
    rw [hdt, he]
    exact ⟨⟨hld, congrArg Nat.cast ho.rows, congrArg Nat.cast ho.cols, rfl, ho.colStride⟩, rfl⟩

/-- **Both sides accept the same launches**, and the layout is the one the native code demands. -/
theorem accepted_iff_dispatch {params : MqaLogitsLaunch} {arch : Arch} {device : DeviceInfo}
    (hdev : device.major = arch.major) (h : MqaLaunchFits params) :
    ∃ raw, params.toRaw = .ok raw ∧
      (params.Accepted arch ↔ ∃ d, Raw.dispatchMqaLogits device raw = .ok d) ∧
      ∀ layout, mqaLogitsLayout params.spec arch = .ok layout →
        Raw.mqaLogitsStride (params.kv.spec.shape 0) params.maxSeqlenK 256 params.logits.spec.dtype.toSys =
            .ok (layout.strides 0) ∧
          ∀ (logits : TensorArg 2) (t : RawTensor), logits.Image t → logits.Fits →
            (Raw.requireLogitsOutput t (params.q.spec.shape 0)
                ((if params.maxSeqlenK = 0 then params.kv.spec.shape 0 else params.maxSeqlenK : Nat) : Int)
                (layout.strides 0) "logits" = .ok () ∧ logits.spec.dtype = params.logits.spec.dtype ↔
              logits.spec = layout.logicalSpec) := by
  obtain ⟨raw, hraw⟩ := toRaw_succeeds h
  refine ⟨raw, hraw, ?_, fun layout hl => layout_is_demanded h hl⟩
  rw [accepted_iff_contract h.spec, dispatch_iff_contract hdev (toRaw_image hraw) h]

/-- One token of 32 heads over two positions. -/
def smallLaunch : MqaLogitsLaunch where
  q := ⟨1, .fp8E4M3, ![1, 32, 32], ![1024, 32, I64.one]⟩
  qScale := none
  kv := ⟨1, .fp8E4M3, ![2, 32], ![32, I64.one]⟩
  kvScale := ⟨1, .f32, ![2], ![I64.one]⟩
  weights := ⟨1, .f32, ![1, 32], ![32, I64.one]⟩
  cuSeqLenKStart := ⟨1, .i32, ![1], ![I64.one]⟩
  cuSeqLenKEnd := ⟨1, .i32, ![1], ![I64.one]⟩
  logits := ⟨1, .f32, ![1, 2], ![512, I64.one]⟩
  cleanLogits := false
  maxSeqlenK := 0
  stream := 0

theorem smallLaunch_fits : MqaLaunchFits smallLaunch where
  q := ⟨by decide, by decide, by decide⟩
  qScale _ h := by cases h
  kv := ⟨by decide, by decide, by decide⟩
  kvScale := ⟨by decide, by decide, by decide⟩
  weights := ⟨by decide, by decide, by decide⟩
  cuSeqLenKStart := ⟨by decide, by decide, by decide⟩
  cuSeqLenKEnd := ⟨by decide, by decide, by decide⟩
  logits := ⟨by decide, by decide, by decide⟩
  maxSeqlenK := by decide

example : smallLaunch.check .sm90 = .ok () := by decide +kernel

theorem smallLaunch_accepted_iff :
    ∃ raw, smallLaunch.toRaw = .ok raw ∧
      (smallLaunch.Accepted .sm90 ↔ ∃ d, Raw.dispatchMqaLogits ⟨0, 9, 0, ⟨132, by decide⟩⟩ raw = .ok d) ∧
      ∀ layout, mqaLogitsLayout smallLaunch.spec .sm90 = .ok layout →
        Raw.mqaLogitsStride 2 0 256 4 = .ok (layout.strides 0) ∧
          ∀ (logits : TensorArg 2) (t : RawTensor), logits.Image t → logits.Fits →
            (Raw.requireLogitsOutput t 1 2 (layout.strides 0) "logits" = .ok () ∧ logits.spec.dtype = .f32 ↔
              logits.spec = layout.logicalSpec) :=
  accepted_iff_dispatch rfl smallLaunch_fits

end Refine

end DeepGemmRs
