import DeepGemmRs.CApi.Sound
import DeepGemmRs.Refine.Tensors

/-!
# Where the paged launches of the crate are refused

* `PagedContract`, `MetadataContract` : what the crate's checks demand of the two paged launches;
* `PagedGap`, `MetadataGap` : what the native code demands beyond that;
* `dispatchPaged_iff`, `dispatchMetadata_iff` : it demands nothing else;
* `paged_reaches_launch_iff` : a launch the crate accepts reaches the native launch function unless
  it is in the gap.
-/

namespace DeepGemmRs

open Checked MachineInt

/-- A tensor that fits, with strides that are `int` values. -/
structure TensorArg.FitsInt {rank : Nat} (arg : TensorArg rank) : Prop extends TensorArg.Fits arg where
  strides (i : Fin rank) : 0 ≤ (arg.spec.strides i).val ∧ (arg.spec.strides i).val ≤ i32.hi

namespace Refine

open Crate TensorSpec

/-! ## `paged_mqa_logits_metadata` -/

/-- What the crate demands of a metadata launch. -/
structure MetadataContract (spec : PagedMqaLogitsMetadataSpec) (arch : Arch) : Prop where
  contextLens : spec.contextLens.RowMajor
  contextLensDtype : spec.contextLens.dtype = .i32
  blockKv : spec.blockKv = 64 ∨ spec.blockKv = 32 ∧ arch = .sm100
  numSms : 0 < spec.numSms
  indices : ∀ t ∈ spec.indices, (arch = .sm100 ∧ spec.contextLens.shape 1 = 1) ∧
    I32Vector t (spec.contextLens.shape 0)

/-- The sizes of a metadata launch fit. -/
structure MetadataLaunchFits (params : PagedMqaLogitsMetadataLaunch) (device : DeviceInfo) : Prop where
  contextLens : params.contextLens.FitsInt
  indices : ∀ arg ∈ params.indices, arg.FitsInt
  scheduleMeta : params.scheduleMeta.FitsInt
  numSms : (params.numSms : Int) ≤ device.numSms.val

theorem metadata_contract {params : PagedMqaLogitsMetadataLaunch} {device : DeviceInfo} {arch : Arch}
    (h : MetadataLaunchFits params device) {u : Unit}
    (hok : validatePagedMetadataSpec params.spec arch = .ok u) : MetadataContract params.spec arch := by
  have hlens := h.contextLens.spec
  have hindices : ∀ t ∈ params.spec.indices, t.Fits := by
    intro t ht
    obtain ⟨arg, ha, rfl⟩ := Option.mem_map.mp ht
    exact (h.indices arg ha).spec
  simp only [validatePagedMetadataSpec, bind_eq_ok, requireDtype_eq_ok, validateBlockKv_eq_ok,
    requirePositive_eq_ok, requireIndices_iff hindices, exists_const] at hok
  obtain ⟨_, hc, hd, hb, hn, hi⟩ := hok
  exact ⟨(hlens.requireContiguous_iff (by decide)).mp hc, hd, hb, hn, hi⟩

/-- The schedule the crate accepts: `num_sms + 1` pairs. -/
theorem schedule_of_metadataLayout {spec : PagedMqaLogitsMetadataSpec} {arch : Arch} {layout : TensorLayout2D}
    (h : pagedMqaLogitsMetadataLayout spec arch = .ok layout) :
    validatePagedMetadataSpec spec arch = .ok () ∧ I32Matrix layout.logicalSpec (spec.numSms + 1) 2 := by
  simp only [pagedMqaLogitsMetadataLayout, bind_eq_ok, usizeToI64_eq_ok] at h
  obtain ⟨_, hv, numSms, hn, hcall⟩ := h
  obtain ⟨ha, himg⟩ := callLayout_ok (CApi.pagedMqaLogitsMetadataLayout_settles ⟨numSms⟩) hcall
  have h0 : (layout.logicalShape 0 : Int) = numSms + 1 := himg.logicalShape 0
  have h1 : (layout.logicalShape 1 : Int) = 2 := himg.logicalShape 1
  have hs0 : (layout.strides 0).val = 2 := himg.strides 0
  have hs1 : (layout.strides 1).val = 1 := himg.strides 1
  have hrow : layout.logicalSpec.RowMajor := rowMajor_two.mpr ⟨hs0.trans h1.symm, hs1⟩
  have hd : layout.dtype.toSys = DType.i32.toSys := himg.dtype
  refine ⟨hv, hrow, DType.toSys_injective hd, ?_, ?_⟩
  · show layout.logicalShape 0 = _
    omega
  · show layout.logicalShape 1 = _
    omega

/-- `raw` is the converted launch. -/
structure MetadataImage (params : PagedMqaLogitsMetadataLaunch) (raw : Raw.PagedMqaLogitsMetadataParams) :
    Prop where
  contextLens : params.contextLens.Image raw.contextLens
  hasIndices : raw.hasIndices = params.indices.isSome
  indices : ∀ arg ∈ params.indices, arg.Image raw.indices
  scheduleMeta : params.scheduleMeta.Image raw.scheduleMeta
  blockKv : raw.blockKv.val = params.blockKv
  numSms : raw.numSms.val = params.numSms

theorem metadata_toRaw_image {params : PagedMqaLogitsMetadataLaunch} {raw : Raw.PagedMqaLogitsMetadataParams}
    (h : params.toRaw = .ok raw) : MetadataImage params raw := by
  simp only [PagedMqaLogitsMetadataLaunch.toRaw, bind_eq_ok, usizeToI64_eq_ok, Except.ok.injEq] at h
  obtain ⟨_, h1, _, h2, _, h3, _, h4, _, h5, rfl⟩ := h
  exact ⟨TensorArg.toRaw_image (by decide) h1, rfl, optionalTensorArg_image (by decide) h2,
    TensorArg.toRaw_image (by decide) h3, h4, h5⟩

theorem metadata_toRaw_succeeds {params : PagedMqaLogitsMetadataLaunch} {device : DeviceInfo}
    (h : MetadataLaunchFits params device) (hb : params.blockKv ≤ 64) : ∃ raw, params.toRaw = .ok raw := by
  obtain ⟨_, h1⟩ := toRaw_succeeds_of_fits (by decide) h.contextLens.toFits
  obtain ⟨_, h2⟩ := optionalTensorArg_succeeds (by decide) fun a ha => (h.indices a ha).toFits
  obtain ⟨_, h3⟩ := toRaw_succeeds_of_fits (by decide) h.scheduleMeta.toFits
  have hsms := (device.numSms.2).2
  have hle := h.numSms
  simp only [i32] at hsms
  have h4 : i64.Has (params.blockKv : Int) := has_i64.mpr ⟨by omega, by omega⟩
  have h5 : i64.Has (params.numSms : Int) := has_i64.mpr ⟨by omega, by omega⟩
  simp only [PagedMqaLogitsMetadataLaunch.toRaw, bind_eq_ok, usizeToI64_eq_ok, Except.ok.injEq]
  exact ⟨_, _, h1, _, h2, _, h3, ⟨_, h4⟩, rfl, ⟨_, h5⟩, rfl, rfl⟩

/-- What the crate accepts and the native code refuses: no sequences, or none of their tokens. -/
def MetadataGap (params : PagedMqaLogitsMetadataLaunch) : Prop :=
  params.contextLens.spec.shape 0 = 0 ∨ params.contextLens.spec.shape 1 = 0

section

variable {params : PagedMqaLogitsMetadataLaunch} {device : DeviceInfo} {arch : Arch}
  {raw : Raw.PagedMqaLogitsMetadataParams}

theorem requireScheduleMeta_of_matrix (h : MetadataLaunchFits params device)
    (hs : I32Matrix params.scheduleMeta.spec (params.numSms + 1) 2) (hi : MetadataImage params raw) :
    Raw.requireScheduleMeta raw.scheduleMeta raw.numSms = .ok () := by
  have hm0 := hi.scheduleMeta.shape 0 0 rfl
  have hm1 := hi.scheduleMeta.shape 1 1 rfl
  have hsms := hi.numSms
  have hle := h.numSms
  have hdevhi := device.numSms.2.2
  obtain ⟨hr0, hr1⟩ := rowMajor_two.mp hs.rowMajor
  have hrows := hs.rows
  have hcols := hs.cols
  simp only [i32] at hdevhi
  refine Raw.requireScheduleMeta_eq_ok.mpr ⟨rank_of_image hi.scheduleMeta h.scheduleMeta.toFits, ?_,
    has_i64.mpr ⟨by omega, by omega⟩, by omega, by omega, ?_, ?_⟩
  · exact (dtype_iff_of_image hi.scheduleMeta .i32).mpr hs.dtype
  · rw [hi.scheduleMeta.stride 0 0 rfl, hr0]
    omega
  · rw [hi.scheduleMeta.stride 1 1 rfl, hr1]

/-- The architecture's own conditions hold of what the crate accepts. -/
theorem selectMetadata_of_contract (hdev : device.major = arch.major) (hc : MetadataContract params.spec arch)
    (hi : MetadataImage params raw) :
    ∃ d, Raw.selectMetadata device raw.hasIndices (raw.contextLens.shape 0) (raw.contextLens.shape 1) raw.numSms
      raw.blockKv = .ok d := by
  have hn := hi.contextLens.shape 1 1 rfl
  have hblock := hi.blockKv
  have hkv : params.blockKv = 64 ∨ params.blockKv = 32 ∧ arch = .sm100 := hc.blockKv
  have hvarlen : raw.hasIndices = true → arch = .sm100 ∧ params.contextLens.spec.shape 1 = 1 := by
    rw [hi.hasIndices, Option.isSome_iff_exists]
    rintro ⟨a, ha⟩
    exact (hc.indices _ (Option.mem_map.mpr ⟨a, ha, rfl⟩)).1
  simp only [Raw.selectMetadata_eq_ok, hdev]
  cases arch with
  | sm90 =>
    refine ⟨_, .inl ⟨rfl, Bool.eq_false_iff.mpr fun hv => ?_, ?_, rfl⟩⟩
    · cases (hvarlen hv).1
    · rcases hkv with e | ⟨-, e⟩
      · omega
      · cases e
  | sm100 =>
    refine ⟨_, .inr ⟨rfl, by omega, fun hv => ?_, rfl⟩⟩
    rw [hn, (hvarlen hv).2]
    rfl

theorem dispatchMetadata_iff (hdev : device.major = arch.major) (h : MetadataLaunchFits params device)
    (hc : MetadataContract params.spec arch)
    (hs : I32Matrix params.scheduleMeta.spec (params.numSms + 1) 2) (hi : MetadataImage params raw) :
    (∃ d, Raw.dispatchPagedMqaLogitsMetadata device raw = .ok d) ↔ ¬ MetadataGap params := by
  have hb := hi.contextLens.shape 0 0 rfl
  have hn := hi.contextLens.shape 1 1 rfl
  have hsms := hi.numSms
  have hblock := hi.blockKv
  have hlens := raw_requireContiguous2DI32_iff "context_lens" hi.contextLens h.contextLens.toFits (u := ())
  simp only [Raw.dispatchPagedMqaLogitsMetadata_eq_ok, exists_and_left]
  constructor
  · rintro ⟨hk, -⟩ hgap
    obtain ⟨-, hpos, -⟩ := hlens.mp hk.contextLens
    exact hgap.elim (hpos 0).ne' (hpos 1).ne'
  intro hgap
  obtain ⟨hb0, hn0⟩ := not_or.mp hgap
  have hle := h.numSms
  have hdevhi := device.numSms.2.2
  have hbhi := h.contextLens.spec.extents 0
  have hnhi := h.contextLens.spec.extents 1
  have hpos : 0 < params.numSms := hc.numSms
  have hkv : params.blockKv = 64 ∨ params.blockKv = 32 ∧ arch = .sm100 := hc.blockKv
  have hindices : Raw.requireIndices raw.hasIndices raw.indices (raw.contextLens.shape 0) = .ok () := by
    rw [hi.hasIndices, hb]
    refine (raw_requireIndices_iff hi.indices fun a ha => (h.indices a ha).toFits).mpr fun a ha => ?_
    exact (hc.indices _ (Option.mem_map.mpr ⟨a, ha, rfl⟩)).2
  refine ⟨⟨hlens.mpr ⟨hc.contextLensDtype, ?_, hc.contextLens⟩, by omega, requireScheduleMeta_of_matrix h hs hi,
    hindices, hb.le.trans hbhi, hn.le.trans hnhi, by omega, ?_, by omega⟩, selectMetadata_of_contract hdev hc hi⟩
  · exact Fin.forall_fin_two.mpr ⟨Nat.pos_of_ne_zero hb0, Nat.pos_of_ne_zero hn0⟩
  · simp only [i32]
    omega

end

/-! ## `fp8_fp4_paged_mqa_logits`, the crate's side -/

/-- Pages of tokens, each token its elements and a scale of four bytes. -/
structure FusedCache (cache : TensorSpec 4) (tokenBytes : Nat) : Prop where
  dtype : cache.dtype = .u8
  single : cache.shape 2 = 1
  fusedBytes : cache.shape 3 = tokenBytes + 4
  pageStride : (cache.strides 0).val = (cache.shape 1 * (tokenBytes + 4) : Nat)
  tokenStride : (cache.strides 1).val = (tokenBytes + 4 : Nat) ∧ (cache.strides 2).val = (tokenBytes + 4 : Nat)
  byteStride : (cache.strides 3).val = 1

theorem requireFusedKvCache_iff {cache : TensorSpec 4} (hf : cache.Fits) {tokenBytes : Nat} {u : Unit}
    (h : requireFusedKvCache cache tokenBytes = .ok u) : FusedCache cache tokenBytes := by
  simp only [requireFusedKvCache, bind_eq_ok, requireDtype_eq_ok, usizeAdd_eq_ok, requireShape_eq_ok,
    eq_vec_three, usizeMul_eq_ok, throwIf_eq_ok, not_or, not_not, exists_const] at h
  obtain ⟨hd, _, ⟨-, rfl⟩, ⟨-, h2, h3⟩, _, ⟨-, rfl⟩, hs0, hs1, hs2, hs3⟩ := h
  have h2 : cache.shape 2 = 1 := h2
  have h3 : cache.shape 3 = tokenBytes + 4 := h3
  have hblock := hf.extents 1
  have hbytes := hf.extents 3
  have hpage : ((cache.shape 1 : Int) * cache.shape 3) ≤ i32.hi * i32.hi :=
    Int.mul_le_mul hblock hbytes (Int.natCast_nonneg _) (by decide)
  have hnonneg : 0 ≤ (cache.shape 1 : Int) * cache.shape 3 :=
    Int.mul_nonneg (Int.natCast_nonneg _) (Int.natCast_nonneg _)
  simp only [i32] at hbytes hpage
  rw [IntType.cast_of_has (has_i64.mpr ⟨by push_cast; omega, by push_cast; omega⟩), h3] at hs0
  rw [IntType.cast_of_has (has_i64.mpr ⟨by omega, by omega⟩), h3] at hs1 hs2
  exact ⟨hd, h2, h3, hs0, ⟨hs1, hs2⟩, hs3⟩

/-- What the crate demands of a paged launch. -/
structure PagedContract (spec : PagedMqaLogitsSpec) (arch : Arch) : Prop where
  logitsDtype : spec.logitsDtype = .f32 ∨ spec.logitsDtype = .bf16
  maxContextLen : 0 < spec.maxContextLen
  numSms : 0 < spec.numSms
  cleanLogits : spec.cleanLogits = false
  q : spec.q.RowMajor
  qCounts : ∀ n < 4, (tailCount spec.q.shape n : Int) ≤ i64.hi
  qDtype : spec.q.dtype = elementDtype spec.qScale.isSome
  qScale : ∀ s ∈ spec.qScale, Scale s .packedUe8M0 ![spec.q.shape 0, spec.q.shape 1, spec.q.shape 2]
  fusedKvCache : FusedCache spec.fusedKvCache (spec.q.shape 3)
  weights : spec.weights.shape 0 = spec.q.shape 0 * spec.q.shape 1 ∧ spec.weights.shape 1 = spec.q.shape 2 ∧
    (spec.weights.strides 1).val = 1
  weightsDtype : WeightsDtype spec.weights.dtype arch spec.logitsDtype
  contextLens : I32Matrix spec.contextLens (spec.q.shape 0) (spec.q.shape 1)
  blockTable : spec.blockTable.shape 0 = spec.q.shape 0 ∧ (spec.blockTable.strides 1).val = 1
  blockTableDtype : spec.blockTable.dtype = .i32
  scheduleMeta : I32Matrix spec.scheduleMeta (spec.numSms + 1) 2
  indices : ∀ t ∈ spec.indices, (arch = .sm100 ∧ spec.q.shape 1 = 1) ∧ I32Vector t (spec.q.shape 0)
  blockKv : spec.fusedKvCache.shape 1 = 64 ∨ spec.fusedKvCache.shape 1 = 32 ∧ arch = .sm100
  support : ArchSupport arch spec.qScale.isSome (spec.q.shape 2)
    (if spec.qScale.isSome then spec.q.shape 3 * 2 else spec.q.shape 3)
  nextN : arch = .sm90 → spec.q.shape 1 = 1 ∨ spec.q.shape 1 = 2

/-- What it demands of the logits: a row for each token, of the padded length. -/
structure PagedOutput (spec : PagedMqaLogitsSpec) (logits : TensorSpec 2) : Prop where
  batchSize : 0 < spec.q.shape 0
  nextN : 0 < spec.q.shape 1
  rowsFit : i64.Has (spec.q.shape 0 * spec.q.shape 1 : Nat)
  rows : logits.shape 0 = spec.q.shape 0 * spec.q.shape 1
  cols : logits.shape 1 = spec.maxContextLen
  rowStride : (logits.strides 0).val = CApi.pagedStride spec.maxContextLen spec.logitsDtype.toSys
  colStride : (logits.strides 1).val = 1

/-- The sizes and strides of a paged launch fit, and its SMs are the device's. -/
structure PagedLaunchFits (params : PagedMqaLogitsLaunch) (device : DeviceInfo) : Prop where
  q : params.q.FitsInt
  qScale : ∀ arg ∈ params.qScale, arg.FitsInt
  fusedKvCache : params.fusedKvCache.FitsInt
  weights : params.weights.FitsInt
  contextLens : params.contextLens.FitsInt
  blockTable : params.blockTable.FitsInt
  scheduleMeta : params.scheduleMeta.FitsInt
  indices : ∀ arg ∈ params.indices, arg.FitsInt
  logits : params.logits.FitsInt
  maxContextLen : (params.maxContextLen : Int) ≤ i32.hi
  numSms : (params.numSms : Int) ≤ device.numSms.val

theorem paged_contract {params : PagedMqaLogitsLaunch} {device : DeviceInfo} {arch : Arch}
    (h : PagedLaunchFits params device) {dims : PagedDims}
    (hok : validatePagedMqaLogitsSpec params.spec arch = .ok dims) :
    PagedContract params.spec arch ∧ dims = ⟨params.q.spec.shape 0, params.q.spec.shape 1⟩ := by
  have hindices : ∀ t ∈ params.spec.indices, t.Fits := by
    intro t ht
    obtain ⟨arg, ha, rfl⟩ := Option.mem_map.mp ht
    exact (h.indices arg ha).spec
  have hqs : ∀ s ∈ params.spec.qScale, s.Fits := by
    intro s hs
    obtain ⟨arg, ha, rfl⟩ := Option.mem_map.mp hs
    exact (h.qScale arg ha).spec
  have hq : params.spec.q.Fits := h.q.spec
  have hlens : params.spec.contextLens.Fits := h.contextLens.spec
  have hmeta : params.spec.scheduleMeta.Fits := h.scheduleMeta.spec
  simp only [validatePagedMqaLogitsSpec, bind_eq_ok, throwIf_eq_ok, requireLogitsDtype_eq_ok,
    requirePositive_eq_ok, logicalHeadDim_eq_ok, requireContiguous_eq_ok hq.extents_i64, requireDtype_eq_ok,
    requireQScale_iff hqs (by decide), usizeMul_eq_ok, usizeAdd_eq_ok, requireWeights_eq_ok,
    require2DI32_iff hlens, require2DI32_iff hmeta, requireIndices_iff hindices, validateBlockKv_eq_ok,
    requireArchSupport_eq_ok, exists_const, Except.ok.injEq, not_or, not_not, Bool.not_eq_true] at hok
  obtain ⟨hld, hctx, hsms, hclean, _, ⟨-, -, rfl⟩, ⟨hcounts, hrow⟩, hqd, hscale, _, hcache, hok⟩ := hok
  obtain ⟨_, ⟨-, rfl⟩, ⟨hw, hwd⟩, hcl, hbt, hbtd, _, ⟨-, rfl⟩, hsm, hi, hkv, hsup, hnext, rfl⟩ := hok
  have hbytes : (if params.spec.qScale.isSome = true then
        (if params.spec.qScale.isSome = true then params.spec.q.shape 3 * 2 else params.spec.q.shape 3) / 2
      else if params.spec.qScale.isSome = true then params.spec.q.shape 3 * 2 else params.spec.q.shape 3) =
      params.spec.q.shape 3 := by
    split <;> simp
  rw [hbytes] at hcache
  refine ⟨⟨hld, hctx, hsms, hclean, hrow, hcounts, hqd, hscale,
    requireFusedKvCache_iff h.fusedKvCache.spec hcache, hw, hwd, hcl, hbt, hbtd, hsm, hi, hkv, hsup, ?_⟩, rfl⟩
  intro he
  by_contra hn
  exact hnext ⟨he, not_or.mp hn⟩

/-- The logits the crate accepts. -/
theorem output_of_pagedLayout {params : PagedMqaLogitsLaunch} {device : DeviceInfo} {arch : Arch}
    (h : PagedLaunchFits params device) {layout : TensorLayout2D}
    (hl : pagedMqaLogitsLayout params.spec arch = .ok layout) :
    PagedContract params.spec arch ∧ PagedOutput params.spec layout.logicalSpec := by
  simp only [pagedMqaLogitsLayout, bind_eq_ok, usizeToI64_eq_ok] at hl
  obtain ⟨dims, hv, batchSize, hb, nextN, hn, maxContextLen, hm, hcall⟩ := hl
  obtain ⟨hc, rfl⟩ := paged_contract h hv
  obtain ⟨ha, himg⟩ := callLayout_ok (CApi.pagedMqaLogitsLayout_settles _) hcall
  have hbn : batchSize.val * nextN.val = (params.q.spec.shape 0 * params.q.spec.shape 1 : Nat) := by
    rw [hb, hn]
    push_cast
    rfl
  have hrows : (layout.logicalShape 0 : Int) = batchSize.val * nextN.val := himg.logicalShape 0
  have hcols : (layout.logicalShape 1 : Int) = maxContextLen := himg.logicalShape 1
  have hfit : batchSize.val * nextN.val ≤ i64.hi := ha.rows
  have hbatch : 0 < batchSize.val := ha.batchSize
  have hnext : 0 < nextN.val := ha.nextN
  refine ⟨hc, ?_, ?_, ?_, ?_, ?_, ?_, himg.strides 1⟩
  · show 0 < params.q.spec.shape 0
    have hb : batchSize.val = (params.q.spec.shape 0 : Nat) := hb
    omega
  · show 0 < params.q.spec.shape 1
    have hn : nextN.val = (params.q.spec.shape 1 : Nat) := hn
    omega
  · rw [hbn] at hfit
    exact has_i64.mpr ⟨by omega, hfit⟩
  · exact Int.natCast_inj.mp (hrows.trans hbn)
  · exact Int.natCast_inj.mp (hcols.trans hm)
  · rw [← hm]
    exact himg.strides 0

/-! ## The native side -/

/-- `raw` is the converted launch. -/
structure PagedImage (params : PagedMqaLogitsLaunch) (raw : Raw.PagedMqaLogitsParams) : Prop where
  q : params.q.Image raw.q
  hasQScale : raw.hasQScale = params.qScale.isSome
  qScale : ∀ arg ∈ params.qScale, arg.Image raw.qScale
  fusedKvCache : params.fusedKvCache.Image raw.fusedKvCache
  weights : params.weights.Image raw.weights
  contextLens : params.contextLens.Image raw.contextLens
  blockTable : params.blockTable.Image raw.blockTable
  scheduleMeta : params.scheduleMeta.Image raw.scheduleMeta
  hasIndices : raw.hasIndices = params.indices.isSome
  indices : ∀ arg ∈ params.indices, arg.Image raw.indices
  logits : params.logits.Image raw.logits
  maxContextLen : raw.maxContextLen.val = params.maxContextLen
  numSms : raw.numSms.val = params.numSms
  cleanLogits : raw.cleanLogits = params.cleanLogits

theorem paged_toRaw_image {params : PagedMqaLogitsLaunch} {raw : Raw.PagedMqaLogitsParams}
    (h : params.toRaw = .ok raw) : PagedImage params raw := by
  simp only [PagedMqaLogitsLaunch.toRaw, bind_eq_ok, usizeToI64_eq_ok, Except.ok.injEq] at h
  obtain ⟨_, h1, _, h2, _, h3, _, h4, _, h5, _, h6, _, h7, _, h8, _, h9, _, h10, _, h11, rfl⟩ := h
  exact ⟨TensorArg.toRaw_image (by decide) h1, rfl, optionalTensorArg_image (by decide) h2,
    TensorArg.toRaw_image (by decide) h3, TensorArg.toRaw_image (by decide) h4,
    TensorArg.toRaw_image (by decide) h5, TensorArg.toRaw_image (by decide) h6,
    TensorArg.toRaw_image (by decide) h7, rfl, optionalTensorArg_image (by decide) h8,
    TensorArg.toRaw_image (by decide) h9, h10, h11, rfl⟩

theorem paged_toRaw_succeeds {params : PagedMqaLogitsLaunch} {device : DeviceInfo}
    (h : PagedLaunchFits params device) : ∃ raw, params.toRaw = .ok raw := by
  obtain ⟨_, h1⟩ := toRaw_succeeds_of_fits (by decide) h.q.toFits
  obtain ⟨_, h2⟩ := optionalTensorArg_succeeds (by decide) fun a ha => (h.qScale a ha).toFits
  obtain ⟨_, h3⟩ := toRaw_succeeds_of_fits (by decide) h.fusedKvCache.toFits
  obtain ⟨_, h4⟩ := toRaw_succeeds_of_fits (by decide) h.weights.toFits
  obtain ⟨_, h5⟩ := toRaw_succeeds_of_fits (by decide) h.contextLens.toFits
  obtain ⟨_, h6⟩ := toRaw_succeeds_of_fits (by decide) h.blockTable.toFits
  obtain ⟨_, h7⟩ := toRaw_succeeds_of_fits (by decide) h.scheduleMeta.toFits
  obtain ⟨_, h8⟩ := optionalTensorArg_succeeds (by decide) fun a ha => (h.indices a ha).toFits
  obtain ⟨_, h9⟩ := toRaw_succeeds_of_fits (by decide) h.logits.toFits
  have hsms := (device.numSms.2).2
  have hle := h.numSms
  have h10 : i64.Has (params.maxContextLen : Int) := has_i64.mpr ⟨by omega, h.maxContextLen.trans (by decide)⟩
  have h11 : i64.Has (params.numSms : Int) := has_i64.mpr ⟨by omega, (hle.trans hsms).trans (by decide)⟩
  simp only [PagedMqaLogitsLaunch.toRaw, bind_eq_ok, usizeToI64_eq_ok, Except.ok.injEq]
  exact ⟨_, _, h1, _, h2, _, h3, _, h4, _, h5, _, h6, _, h7, _, h8, _, h9, ⟨_, h10⟩, rfl, ⟨_, h11⟩, rfl, rfl⟩

/-- What the crate accepts and the native code refuses: a cache without pages, an empty block table,
or FP8 weights with padded rows. -/
def PagedGap (params : PagedMqaLogitsLaunch) : Prop :=
  params.fusedKvCache.spec.shape 0 = 0 ∨ params.blockTable.spec.shape 1 = 0 ∨
    params.qScale = none ∧ (params.weights.spec.strides 0).val ≠ params.q.spec.shape 2

theorem requirePagedFormat_of_contract {params : PagedMqaLogitsLaunch} {device : DeviceInfo} {arch : Arch}
    (h : PagedLaunchFits params device) (hc : PagedContract params.spec arch)
    {raw : Raw.PagedMqaLogitsParams} (hi : PagedImage params raw) (hpos : ∀ i, 0 < params.q.spec.shape i) :
    Raw.requirePagedFormat raw (params.q.spec.shape 0) (params.q.spec.shape 1) (params.q.spec.shape 2) =
      .ok () := by
  have hsome : params.spec.qScale.isSome = params.qScale.isSome := Option.isSome_map
  have hqd : params.q.spec.dtype = elementDtype params.qScale.isSome := hsome ▸ hc.qDtype
  unfold Raw.requirePagedFormat
  rw [hi.hasQScale]
  cases hq : params.qScale with
  | none =>
    rw [hq] at hqd
    simp only [Option.isSome_none, Bool.false_eq_true, if_false, Raw.requireDtype_eq_ok]
    exact (dtype_iff_of_image hi.q .fp8E4M3).mpr hqd
  | some arg =>
    rw [hq] at hqd
    have hscale := hc.qScale _ (Option.mem_map.mpr ⟨arg, hq, rfl⟩)
    obtain ⟨hcont, hd, hshape⟩ := (raw_scale_iff 3 (by decide) "q_scale" (hi.qScale arg hq) (h.qScale arg hq).toFits _ _
      (Fin.forall_fin_succ.mpr ⟨hpos 0, Fin.forall_fin_two.mpr ⟨hpos 1, hpos 2⟩⟩)
      (u := ())).mpr hscale
    simp only [Option.isSome_some, if_true, bind_eq_ok, Raw.requireDtype_eq_ok, throwIf_eq_ok, not_or, not_not,
      exists_const]
    exact ⟨(dtype_iff_of_image hi.q .packedFp4E2M1).mpr hqd, (), hcont, hd, hshape (0 : Fin 3),
      hshape (1 : Fin 3), hshape (2 : Fin 3)⟩

theorem requireFusedKvCache_of_contract {params : PagedMqaLogitsLaunch} {device : DeviceInfo} {arch : Arch}
    (h : PagedLaunchFits params device) (hc : PagedContract params.spec arch)
    {raw : Raw.PagedMqaLogitsParams} (hi : PagedImage params raw)
    (hpages : params.fusedKvCache.spec.shape 0 ≠ 0) :
    Raw.requireFusedKvCache raw.fusedKvCache (params.q.spec.shape 3) = .ok () := by
  have hcache : FusedCache params.fusedKvCache.spec (params.q.spec.shape 3) := hc.fusedKvCache
  have hkv : params.fusedKvCache.spec.shape 1 = 64 ∨ params.fusedKvCache.spec.shape 1 = 32 ∧ arch = .sm100 :=
    hc.blockKv
  have hs0 := hi.fusedKvCache.shape 0 0 rfl
  have hs1 := hi.fusedKvCache.shape 1 1 rfl
  have hs2 := hi.fusedKvCache.shape 2 2 rfl
  have hs3 := hi.fusedKvCache.shape 3 3 rfl
  have ht0 := hi.fusedKvCache.stride 0 0 rfl
  have ht1 := hi.fusedKvCache.stride 1 1 rfl
  have ht2 := hi.fusedKvCache.stride 2 2 rfl
  have ht3 := hi.fusedKvCache.stride 3 3 rfl
  have hsingle := hcache.single
  have hbytes := hcache.fusedBytes
  have hpage := hcache.pageStride
  have hext := h.fusedKvCache.spec.extents 3
  simp only [i32] at hext
  have hblock : (params.fusedKvCache.spec.shape 1 : Int) = 64 ∨ (params.fusedKvCache.spec.shape 1 : Int) = 32 := by
    omega
  rw [Raw.requireFusedKvCache_eq_ok (Int.natCast_nonneg _)]
  refine ⟨rank_of_image hi.fusedKvCache h.fusedKvCache.toFits,
    (dtype_iff_of_image hi.fusedKvCache .u8).mpr hcache.dtype, ?_, has_i64.mpr ⟨by omega, by omega⟩,
    ⟨by omega, by omega⟩, has_i64.mpr ?_, ⟨?_, ?_, ?_, ?_⟩, ?_⟩
  · exact Fin.forall_fin_succ.mpr ⟨by omega, Fin.forall_fin_succ.mpr ⟨by simp; omega,
      Fin.forall_fin_two.mpr ⟨by simp; omega, by simp; omega⟩⟩⟩
  · rw [hs1]
    rcases hblock with e | e <;> rw [e] <;> omega
  · rw [ht0, hpage, hs1]
    push_cast
    rfl
  · rw [ht1, hcache.tokenStride.1]
    push_cast
    rfl
  · rw [ht2, hcache.tokenStride.2]
    push_cast
    rfl
  · rw [ht3, hcache.byteStride]
  · rw [ht0, hpage]
    push_cast
    rcases hblock with e | e <;> rw [e] <;> omega

theorem PagedImage.headDim {params : PagedMqaLogitsLaunch} {raw : Raw.PagedMqaLogitsParams}
    (hi : PagedImage params raw) :
    raw.args.headDim =
      ((if params.qScale.isSome then params.q.spec.shape 3 * 2 else params.q.spec.shape 3 : Nat) : Int) := by
  have hq3 := hi.q.shape 3 3 rfl
  unfold Raw.PagedMqaLogitsParams.args Raw.headDimOf
  rw [hi.hasQScale]
  simp only
  split <;> push_cast [hq3] <;> rfl

/-- The architecture's own conditions hold of what the crate accepts. -/
theorem selectPaged_of_contract {params : PagedMqaLogitsLaunch} {device : DeviceInfo} {arch : Arch}
    (hdev : device.major = arch.major) (hc : PagedContract params.spec arch) {raw : Raw.PagedMqaLogitsParams}
    (hi : PagedImage params raw) : ∃ d, Raw.selectPagedMqa device raw raw.args = .ok d := by
  have hsome : params.spec.qScale.isSome = params.qScale.isSome := Option.isSome_map
  have hwf := dtype_iff_of_image hi.weights .f32
  have hwb := dtype_iff_of_image hi.weights .bf16
  have hlb := dtype_iff_of_image hi.logits .bf16
  have hkv : params.fusedKvCache.spec.shape 1 = 64 ∨ params.fusedKvCache.spec.shape 1 = 32 ∧ arch = .sm100 :=
    hc.blockKv
  have hnext : arch = .sm90 → params.q.spec.shape 1 = 1 ∨ params.q.spec.shape 1 = 2 := hc.nextN
  have hsup := hc.support
  have hwd : WeightsDtype params.weights.spec.dtype arch params.logits.spec.dtype := hc.weightsDtype
  have hvarlen : raw.hasIndices = true → arch = .sm100 ∧ params.q.spec.shape 1 = 1 := by
    rw [hi.hasIndices, Option.isSome_iff_exists]
    rintro ⟨a, ha⟩
    exact (hc.indices _ (Option.mem_map.mpr ⟨a, ha, rfl⟩)).1
  have hblock : raw.args.blockKv = params.fusedKvCache.spec.shape 1 := hi.fusedKvCache.shape 1 1 rfl
  have hn : raw.args.nextN = params.q.spec.shape 1 := hi.q.shape 1 1 rfl
  have hheads : raw.args.numHeads = params.q.spec.shape 2 := hi.q.shape 2 2 rfl
  simp only [DType.toSys] at hwf hwb hlb
  simp only [hsome] at hsup
  simp only [Raw.selectPagedMqa_eq_ok, hdev, hi.hasQScale, hblock, hn, hheads, hi.headDim, hwf, hwb, ne_eq, hlb]
  cases arch with
  | sm90 =>
    obtain ⟨hfp4, hshape⟩ := archSupport_sm90.mp hsup
    refine ⟨_, .inl ⟨rfl, hfp4, Bool.eq_false_iff.mpr fun hv => ?_, ?_, ?_, ?_, hshape, rfl⟩⟩
    · cases (hvarlen hv).1
    · rcases hwd with e | ⟨-, e, -⟩
      · exact e
      · cases e
    · rcases hkv with e | ⟨-, e⟩
      · omega
      · cases e
    · have := hnext rfl
      omega
  | sm100 =>
    refine ⟨_, .inr ⟨rfl, ?_, fun hv => ?_, by omega, archSupport_sm100.mp hsup, rfl⟩⟩
    · rintro ⟨hb, hl⟩
      rcases hwd with e | ⟨-, -, e⟩
      · rw [e] at hb
        cases hb
      · exact hl e
    · rw [(hvarlen hv).2]
      rfl

/-- No axis of `q` is empty. -/
theorem PagedContract.axes_pos {spec : PagedMqaLogitsSpec} {arch : Arch} (hc : PagedContract spec arch)
    {logits : TensorSpec 2} (ho : PagedOutput spec logits) : ∀ i, 0 < spec.q.shape i := by
  have hheads := hc.support.numHeads
  have hdim := hc.support.headDim
  have h3 : 0 < spec.q.shape 3 := by
    rcases hdim with e | e | e <;> split at e <;> omega
  exact Fin.forall_fin_succ.mpr ⟨ho.batchSize, Fin.forall_fin_succ.mpr ⟨ho.nextN,
    Fin.forall_fin_two.mpr ⟨show 0 < spec.q.shape 2 by omega, h3⟩⟩⟩

section

variable {params : PagedMqaLogitsLaunch} {device : DeviceInfo} {arch : Arch} {raw : Raw.PagedMqaLogitsParams}

theorem PagedImage.rows (hi : PagedImage params raw) :
    (raw.q.shape 0).val * (raw.q.shape 1).val = (params.q.spec.shape 0 * params.q.spec.shape 1 : Nat) := by
  rw [hi.q.shape 0 0 rfl, hi.q.shape 1 1 rfl]
  push_cast
  rfl

theorem headDim_le_of_contract (hc : PagedContract params.spec arch) (hi : PagedImage params raw) :
    raw.args.headDim ≤ i32.hi := by
  have hsome : params.spec.qScale.isSome = params.qScale.isSome := Option.isSome_map
  have hd := hc.support.headDim
  rw [hsome] at hd
  have hle : (if params.qScale.isSome then params.q.spec.shape 3 * 2 else params.q.spec.shape 3) ≤ 128 := by
    rcases hd with e | e | e <;> exact e.le.trans (by decide)
  rw [hi.headDim]
  simp only [i32]
  omega

/-- A matrix of `i32` that is not empty passes the native check. -/
theorem requireContiguous2DI32_of_matrix {arg : TensorArg 2} {t : RawTensor} {rows cols : Nat} {name : String}
    (hi : arg.Image t) (hf : arg.Fits) (hm : I32Matrix arg.spec rows cols) (hrows : 0 < rows) (hcols : 0 < cols) :
    Raw.requireContiguous2DI32 t name = .ok () := by
  have hpos : ∀ i, 0 < arg.spec.shape i := by
    rw [Fin.forall_fin_two, hm.rows, hm.cols]
    exact ⟨hrows, hcols⟩
  exact (raw_requireContiguous2DI32_iff _ hi hf).mpr ⟨hm.dtype, hpos, hm.rowMajor⟩

theorem requirePagedLogits_of_contract (h : PagedLaunchFits params device) (hc : PagedContract params.spec arch)
    (ho : PagedOutput params.spec params.logits.spec) (hi : PagedImage params raw) :
    Raw.requireLogitsOutput raw.logits (raw.q.shape 0 * raw.q.shape 1) raw.maxContextLen raw.args.strideLogits
      "logits" = .ok () := by
  have hld : CApi.IsLogits raw.logits.dtype := by
    rw [hi.logits.dtype]
    exact hc.logitsDtype.imp (congrArg DType.toSys) (congrArg DType.toSys)
  rw [hi.rows]
  refine Raw.requireLogitsOutput_eq_ok.mpr ⟨rank_of_image hi.logits h.logits.toFits, hld, ?_, ?_, ?_, ?_⟩
  · rw [hi.logits.shape 0 0 rfl]
    exact congrArg Nat.cast ho.rows
  · rw [hi.logits.shape 1 1 rfl, hi.maxContextLen]
    exact congrArg Nat.cast ho.cols
  · rw [hi.logits.stride 0 0 rfl, Raw.PagedMqaLogitsParams.args, hi.maxContextLen, hi.logits.dtype]
    exact ho.rowStride
  · rw [hi.logits.stride 1 1 rfl]
    exact ho.colStride

/-- What the native checks accept is not in the gap. -/
theorem not_gap_of_checked (hi : PagedImage params raw) (hk : Raw.PagedMqaChecked device raw) :
    ¬ PagedGap params := by
  rintro (he | he | ⟨he, hne⟩)
  · have hpages := Raw.shape_pos_of_requireFusedKvCache hk.fusedKvCache 0
    rw [hi.fusedKvCache.shape 0 0 rfl] at hpages
    omega
  · have hblocks := hk.blockTableShape.2.1
    rw [hi.blockTable.shape 1 1 rfl] at hblocks
    omega
  · apply hne
    have hrow := hk.weightsRow (by rw [hi.hasQScale, he]; rfl)
    rw [hi.weights.stride 0 0 rfl, hi.q.shape 2 2 rfl] at hrow
    exact hrow

/-- The native checks accept what the crate accepts outside the gap. -/
theorem checked_of_pagedContract (h : PagedLaunchFits params device) (hc : PagedContract params.spec arch)
    (ho : PagedOutput params.spec params.logits.spec) (hi : PagedImage params raw) (hgap : ¬ PagedGap params) :
    Raw.PagedMqaChecked device raw := by
  have hq0 := hi.q.shape 0 0 rfl
  have hq1 := hi.q.shape 1 1 rfl
  have hq2 := hi.q.shape 2 2 rfl
  have hq3 := hi.q.shape 3 3 rfl
  obtain ⟨hpages, hothers⟩ := not_or.mp hgap
  obtain ⟨hblocks, hrow⟩ := not_or.mp hothers
  have hpos : ∀ i, 0 < params.q.spec.shape i := hc.axes_pos ho
  have hheads : params.q.spec.shape 2 = 8 ∨ params.q.spec.shape 2 = 16 ∨ params.q.spec.shape 2 = 32 ∨
      params.q.spec.shape 2 = 64 := hc.support.numHeads
  have hwd : params.weights.spec.dtype = .f32 ∨ params.weights.spec.dtype = .bf16 :=
    hc.weightsDtype.imp_right And.left
  have hcl : I32Matrix params.contextLens.spec (params.q.spec.shape 0) (params.q.spec.shape 1) := hc.contextLens
  have hsm : I32Matrix params.scheduleMeta.spec (params.numSms + 1) 2 := hc.scheduleMeta
  have hbt : params.blockTable.spec.shape 0 = params.q.spec.shape 0 := hc.blockTable.1
  have hb0 := hi.blockTable.shape 0 0 rfl
  have hb1 := hi.blockTable.shape 1 1 rfl
  have hsms := hi.numSms
  have hctx := hi.maxContextLen
  have hsmsle := h.numSms
  have hsmspos : 0 < params.numSms := hc.numSms
  have hctxpos : 0 < params.maxContextLen := hc.maxContextLen
  constructor
  case q => exact (Raw.requireContiguous_eq_ok 4 hi.q).mpr ⟨h.q.data, hpos, hc.q, hc.qCounts⟩
  case format =>
    rw [hq0, hq1, hq2]
    exact requirePagedFormat_of_contract h hc hi hpos
  case fusedKvCache =>
    rw [hq3]
    exact requireFusedKvCache_of_contract h hc hi hpages
  case rows =>
    rw [hi.rows]
    exact ho.rowsFit
  case weights =>
    rw [hi.rows, hq2]
    exact (raw_weights_iff hi.weights h.weights.toFits).mpr ⟨hc.weights, hwd⟩
  case weightsRow =>
    intro hf
    rw [hi.weights.stride 0 0 rfl, hq2]
    rw [hi.hasQScale, Option.isSome_eq_false_iff, Option.isNone_iff_eq_none] at hf
    exact by_contra fun hne => hrow ⟨hf, hne⟩
  case contextLens =>
    exact requireContiguous2DI32_of_matrix hi.contextLens h.contextLens.toFits hcl (hpos 0) (hpos 1)
  case contextLensShape =>
    rw [hi.contextLens.shape 0 0 rfl, hi.contextLens.shape 1 1 rfl, hcl.rows, hcl.cols]
    exact ⟨hq0.symm, hq1.symm⟩
  case blockTable => exact Raw.requireTensorRank_eq_ok.mpr (rank_of_image hi.blockTable h.blockTable.toFits)
  case blockTableDtype => exact (dtype_iff_of_image hi.blockTable .i32).mpr hc.blockTableDtype
  case blockTableShape =>
    rw [hi.blockTable.stride 1 1 rfl]
    exact ⟨by omega, by omega, hc.blockTable.2⟩
  case numSms => omega
  case scheduleMeta =>
    exact requireContiguous2DI32_of_matrix hi.scheduleMeta h.scheduleMeta.toFits hsm (by omega) (by decide)
  case scheduleMetaShape =>
    rw [hi.scheduleMeta.shape 0 0 rfl, hi.scheduleMeta.shape 1 1 rfl, hsm.rows, hsm.cols, hsms]
    exact ⟨by push_cast; rfl, rfl⟩
  case indices =>
    rw [hi.hasIndices, hq0]
    refine (raw_requireIndices_iff hi.indices fun a ha => (h.indices a ha).toFits).mpr fun a ha => ?_
    exact (hc.indices _ (Option.mem_map.mpr ⟨a, ha, rfl⟩)).2
  case maxContextLen => exact ⟨by omega, hctx.le.trans h.maxContextLen⟩
  case cleanLogits =>
    rw [hi.cleanLogits]
    exact hc.cleanLogits
  case batchSizeInt => exact hq0.le.trans (h.q.spec.extents 0)
  case nextNInt => exact hq1.le.trans (h.q.spec.extents 1)
  case numHeadsInt => exact hq2.le.trans (h.q.spec.extents 2)
  case headDimInt => exact headDim_le_of_contract hc hi
  case numKvBlocksInt => exact (hi.fusedKvCache.shape 0 0 rfl).le.trans (h.fusedKvCache.spec.extents 0)
  case blockKvInt => exact (hi.fusedKvCache.shape 1 1 rfl).le.trans (h.fusedKvCache.spec.extents 1)
  case numSmsInt => exact (hsms.le.trans hsmsle).trans device.numSms.2.2
  case blockTableStrideInt =>
    show 0 ≤ (raw.blockTable.stride 0).val ∧ (raw.blockTable.stride 0).val ≤ i32.hi
    rw [hi.blockTable.stride 0 0 rfl]
    exact h.blockTable.strides 0
  case logits => exact requirePagedLogits_of_contract h hc ho hi
  case divides =>
    show 128 % (raw.q.shape 2).val = 0
    rw [hq2]
    rcases hheads with e | e | e | e <;> rw [e] <;> rfl

theorem dispatchPaged_iff (hdev : device.major = arch.major) (h : PagedLaunchFits params device)
    (hc : PagedContract params.spec arch) (ho : PagedOutput params.spec params.logits.spec)
    (hi : PagedImage params raw) :
    (∃ d, Raw.dispatchPagedMqaLogits device raw = .ok d) ↔ ¬ PagedGap params := by
  simp only [Raw.dispatchPagedMqaLogits_eq_ok, exists_and_left]
  constructor
  · rintro ⟨hk, -⟩
    exact not_gap_of_checked hi hk
  · intro hgap
    exact ⟨checked_of_pagedContract h hc ho hi hgap, selectPaged_of_contract hdev hc hi⟩

end

/-! ## Both launches -/

/-- **A launch the crate accepts reaches the native launch function unless it is in the gap.** -/
theorem paged_reaches_launch_iff {device : DeviceInfo} {arch : Arch} (hdev : device.major = arch.major) :
    (∀ params : PagedMqaLogitsLaunch, PagedLaunchFits params device → params.Accepted arch →
      ∃ raw, params.toRaw = .ok raw ∧
        ((∃ d, Raw.dispatchPagedMqaLogits device raw = .ok d) ↔ ¬ PagedGap params)) ∧
    ∀ params : PagedMqaLogitsMetadataLaunch, MetadataLaunchFits params device → params.Accepted arch →
      ∃ raw, params.toRaw = .ok raw ∧
        ((∃ d, Raw.dispatchPagedMqaLogitsMetadata device raw = .ok d) ↔ ¬ MetadataGap params) := by
  refine ⟨fun params h ⟨layout, hl, hs⟩ => ?_, fun params h ⟨layout, hl, hs⟩ => ?_⟩
  · obtain ⟨raw, hraw⟩ := paged_toRaw_succeeds h
    obtain ⟨hc, ho⟩ := output_of_pagedLayout h hl
    rw [← hs] at ho
    exact ⟨raw, hraw, dispatchPaged_iff hdev h hc ho (paged_toRaw_image hraw)⟩
  · obtain ⟨hv, hsched⟩ := schedule_of_metadataLayout hl
    rw [← hs] at hsched
    have hc := metadata_contract h hv
    have hblock : params.blockKv = 64 ∨ params.blockKv = 32 ∧ arch = .sm100 := hc.blockKv
    obtain ⟨raw, hraw⟩ := metadata_toRaw_succeeds h (by omega)
    exact ⟨raw, hraw, dispatchMetadata_iff hdev h hc hsched (metadata_toRaw_image hraw)⟩

/-- One sequence of one token over one page, the rows of the weights 40 elements apart. -/
def paddedWeights : PagedMqaLogitsLaunch where
  q := ⟨1, .fp8E4M3, ![1, 1, 32, 32], ![1024, 1024, 32, I64.one]⟩
  qScale := none
  fusedKvCache := ⟨1, .u8, ![1, 64, 1, 36], ![2304, 36, 36, I64.one]⟩
  weights := ⟨1, .f32, ![1, 32], ![40, I64.one]⟩
  contextLens := ⟨1, .i32, ![1, 1], ![I64.one, I64.one]⟩
  blockTable := ⟨1, .i32, ![1, 1], ![I64.one, I64.one]⟩
  scheduleMeta := ⟨1, .i32, ![133, 2], ![2, I64.one]⟩
  indices := none
  logits := ⟨1, .f32, ![1, 64], ![256, I64.one]⟩
  maxContextLen := 64
  cleanLogits := false
  stream := 0
  numSms := 132

theorem paddedWeights_fits : PagedLaunchFits paddedWeights h100 where
  q := ⟨⟨by decide, by decide, by decide⟩, by decide⟩
  qScale _ h := by cases h
  fusedKvCache := ⟨⟨by decide, by decide, by decide⟩, by decide⟩
  weights := ⟨⟨by decide, by decide, by decide⟩, by decide⟩
  contextLens := ⟨⟨by decide, by decide, by decide⟩, by decide⟩
  blockTable := ⟨⟨by decide, by decide, by decide⟩, by decide⟩
  scheduleMeta := ⟨⟨by decide, by decide, by decide⟩, by decide⟩
  indices _ h := by cases h
  logits := ⟨⟨by decide, by decide, by decide⟩, by decide⟩
  maxContextLen := by decide
  numSms := by decide

theorem paddedWeights_accepted : paddedWeights.Accepted .sm90 := by
  rw [← PagedMqaLogitsLaunch.check_eq_ok (u := ())]
  decide +kernel

/-- The crate accepts the padded weights, the native code does not. -/
theorem paddedWeights_refused :
    PagedLaunchFits paddedWeights h100 ∧ paddedWeights.Accepted .sm90 ∧
      ∀ raw, paddedWeights.toRaw = .ok raw → ¬ ∃ d, Raw.dispatchPagedMqaLogits h100 raw = .ok d := by
  refine ⟨paddedWeights_fits, paddedWeights_accepted, fun raw hraw => ?_⟩
  obtain ⟨layout, hl, hs⟩ := paddedWeights_accepted
  obtain ⟨hc, ho⟩ := output_of_pagedLayout paddedWeights_fits hl
  rw [← hs] at ho
  rw [dispatchPaged_iff rfl paddedWeights_fits hc ho (paged_toRaw_image hraw), not_not]
  exact .inr (.inr ⟨rfl, by decide⟩)

/-- The schedule of one token. -/
def oneSequence : PagedMqaLogitsMetadataLaunch where
  contextLens := ⟨1, .i32, ![1, 1], ![I64.one, I64.one]⟩
  indices := none
  scheduleMeta := ⟨1, .i32, ![133, 2], ![2, I64.one]⟩
  blockKv := 64
  numSms := 132
  stream := 0

theorem oneSequence_fits : MetadataLaunchFits oneSequence h100 where
  contextLens := ⟨⟨by decide, by decide, by decide⟩, by decide⟩
  indices _ h := by cases h
  scheduleMeta := ⟨⟨by decide, by decide, by decide⟩, by decide⟩
  numSms := by decide

theorem oneSequence_accepted : oneSequence.Accepted .sm90 := by
  rw [← PagedMqaLogitsMetadataLaunch.check_eq_ok (u := ())]
  decide +kernel

theorem paddedWeights_reaches_launch_iff :
    (∃ raw, paddedWeights.toRaw = .ok raw ∧
      ((∃ d, Raw.dispatchPagedMqaLogits h100 raw = .ok d) ↔ ¬ PagedGap paddedWeights)) ∧
    ∃ raw, oneSequence.toRaw = .ok raw ∧
      ((∃ d, Raw.dispatchPagedMqaLogitsMetadata h100 raw = .ok d) ↔ ¬ MetadataGap oneSequence) :=
  have h := @paged_reaches_launch_iff h100 .sm90 rfl
  ⟨h.1 paddedWeights paddedWeights_fits paddedWeights_accepted, h.2 oneSequence oneSequence_fits oneSequence_accepted⟩

end Refine

end DeepGemmRs
