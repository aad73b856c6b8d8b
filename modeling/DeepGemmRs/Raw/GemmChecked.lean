import DeepGemmRs.Raw.Gemm

/-!
# What the native GEMM checks demand

* `ceilDivI64_eq`, `alignI64_eq` and their siblings : the guarded arithmetic on values that fit;
* `requireContiguous2D_eq_ok`, `requireMnMajorScale_eq_ok` : the checks of a tensor;
* `mem_sm90Layouts`, `mem_sm100Layouts` : the blocks and clusters of the candidates;
* `sm90BestConfig_layout` : a configuration is that of a candidate.
-/

namespace DeepGemmRs.Raw.Gemm

open Checked MachineInt Rounding

variable {value divisor alignment mn k granK : Int} {name : String} {u : Unit}

/-! ## Guarded arithmetic -/

theorem ceilDivI64_eq (h0 : 0 ≤ value) (hd : 0 < divisor) (hfit : value + divisor ≤ i64.hi) :
    ceilDivI64 value divisor = .ok (value ⌈/⌉ divisor) := by
  simp only [i64] at hfit
  have hq : (value + (divisor - 1)) / divisor = value ⌈/⌉ divisor := by
    rw [ceilDiv_eq_ediv hd, Int.add_sub_assoc]
  unfold ceilDivI64
  rw [throwIf_neg (by omega), ok_bind, IntType.sub_of_has (has_i64.mpr ⟨by omega, by omega⟩), ok_bind,
    IntType.sub_of_has (has_i64.mpr (by simp only [i64]; omega)), ok_bind,
    throwIf_neg (by simp only [i64]; omega), ok_bind,
    IntType.add_of_has (has_i64.mpr ⟨by omega, by omega⟩), ok_bind,
    IntType.div_of_nonneg (by omega) (has_i64.mpr ⟨by omega, by omega⟩) (by decide) hd, hq]

theorem ceilDivI64_ok {q : Int} (h : ceilDivI64 value divisor = .ok q) :
    0 ≤ value ∧ 0 < divisor ∧ q = value ⌈/⌉ divisor := by
  simp only [ceilDivI64, bind_eq_ok, throwIf_eq_ok, exists_const, IntType.sub_eq_ok, IntType.add_eq_ok, not_or,
    not_lt, not_le] at h
  obtain ⟨⟨h0, hd⟩, _, ⟨-, rfl⟩, _, ⟨-, rfl⟩, -, _, ⟨hsum, rfl⟩, h⟩ := h
  rw [IntType.div_of_nonneg (by omega) hsum (by decide) hd, Except.ok.injEq] at h
  refine ⟨h0, hd, ?_⟩
  rw [← h, ceilDiv_eq_ediv hd, Int.add_sub_assoc]

theorem alignI64_eq (h0 : 0 ≤ value) (ha : 0 < alignment) (hfit : value + alignment ≤ i64.hi) :
    alignI64 value alignment = .ok (alignUp value alignment) := by
  simp only [i64] at hfit
  have hr0 := Int.emod_nonneg value ha.ne'
  have hr1 := Int.emod_lt_of_pos value ha
  rw [alignUp_eq_of_emod ha]
  unfold alignI64
  rw [throwIf_neg (by omega), ok_bind,
    IntType.rem_of_nonneg h0 (has_i64.mpr ⟨by omega, by omega⟩) (by decide) ha, ok_bind]
  by_cases hrem : value % alignment = 0
  · rw [if_pos hrem, if_pos hrem]
  · rw [if_neg hrem, if_neg hrem, IntType.sub_of_has (has_i64.mpr ⟨by omega, by omega⟩), ok_bind,
      IntType.sub_of_has (has_i64.mpr (by simp only [i64]; omega)), ok_bind,
      throwIf_neg (by simp only [i64]; omega), ok_bind,
      IntType.add_of_has (has_i64.mpr ⟨by omega, by omega⟩)]

theorem ceilDivInt_eq (h : Extent value) (hd : 0 < divisor) (hfit : divisor ≤ i32.hi) :
    ceilDivInt value divisor = .ok (value ⌈/⌉ divisor) := by
  have hle := h.2
  simp only [MachineInt.i32] at hle hfit
  have hq : Extent (value ⌈/⌉ divisor) :=
    ⟨ceilDiv_nonneg hd h.1, (ceilDiv_le_self hd h.1).trans h.2⟩
  unfold ceilDivInt
  rw [ceilDivI64_eq h.1 hd (by simp only [i64]; omega), ok_bind, asI32_eq_ok]
  exact ⟨hq, rfl⟩

theorem ceilDivInt_ok {q : Int} (h : ceilDivInt value divisor = .ok q) :
    0 ≤ value ∧ 0 < divisor ∧ q = value ⌈/⌉ divisor := by
  obtain ⟨_, hq, h⟩ := bind_eq_ok.mp h
  obtain ⟨-, rfl⟩ := asI32_eq_ok.mp h
  exact ceilDivI64_ok hq

theorem alignInt_eq (h0 : 0 ≤ value) (ha : 0 < alignment) (hfit : value + alignment ≤ i32.hi) :
    alignInt value alignment = .ok (alignUp value alignment) := by
  have h1 : value ≤ alignUp value alignment := le_alignUp ha
  have h2 : alignUp value alignment < value + alignment := alignUp_lt ha
  simp only [MachineInt.i32] at hfit
  unfold alignInt
  rw [alignI64_eq h0 ha (by simp only [i64]; omega), ok_bind, asI32_eq_ok]
  exact ⟨⟨by omega, by simp only [MachineInt.i32]; omega⟩, rfl⟩

/-- The values of `k` that share an element of a transformed scale. -/
def scaleDivisor (granK : Int) (dtype : DTypeCode) : Int := granK * if dtype = DTypeCode.f32 then 1 else 4

/-- The dtypes of a transformed scale; both take four bytes. -/
def IsScale (dtype : DTypeCode) : Prop := dtype = DTypeCode.f32 ∨ dtype = DTypeCode.packedUe8M0

theorem IsScale.size {dtype : DTypeCode} (h : IsScale dtype) : dtypeElementSize dtype = 4 := by
  rcases h with rfl | rfl <;> rfl

theorem scaleDivisor_bounds (h0 : 0 < granK) (dtype : DTypeCode) :
    granK ≤ scaleDivisor granK dtype ∧ scaleDivisor granK dtype ≤ granK * 4 := by
  unfold scaleDivisor
  split <;> omega

theorem scaleKDivisor_eq {dtype : DTypeCode} (h0 : 0 < granK) (hfit : granK ≤ i32.hi) :
    scaleKDivisor granK dtype = .ok (scaleDivisor granK dtype) := by
  obtain ⟨-, hle⟩ := scaleDivisor_bounds h0 dtype
  simp only [MachineInt.i32] at hfit
  have hpos : 0 < scaleDivisor granK dtype := by unfold scaleDivisor; split <;> omega
  unfold scaleDivisor at hle hpos
  unfold scaleKDivisor scaleDivisor
  split at hle <;> rename_i hd <;> simp only [hd, if_true, if_false]
  · rw [show (i64.div i64.hi 1 : Native Int) = .ok 9223372036854775807 from rfl, ok_bind,
      throwIf_neg (by omega), ok_bind, IntType.mul_of_has (has_i64.mpr ⟨by omega, by omega⟩)]
  · rw [show (i64.div i64.hi 4 : Native Int) = .ok 2305843009213693951 from rfl, ok_bind,
      throwIf_neg (by omega), ok_bind, IntType.mul_of_has (has_i64.mpr ⟨by omega, by omega⟩)]

/-! ## Checks of a tensor -/

theorem requireContiguous2D_eq_ok {tensor : RawTensor} {dtype : DTypeCode} :
    requireContiguous2D tensor dtype name = .ok u ↔
      (tensor.rank = 2 ∧ tensor.data ≠ 0) ∧ tensor.dtype = dtype ∧
        (0 < (tensor.shape 0).val ∧ 0 < (tensor.shape 1).val) ∧
        (tensor.stride 0).val = tensor.shape 1 ∧ (tensor.stride 1).val = 1 := by
  simp only [requireContiguous2D, requirePositive2DShape, bind_eq_ok, requireTensorRank_eq_ok,
    requireDtype_eq_ok, throwIf_eq_ok, exists_const, not_or, not_le, not_not]

@[simp] theorem requireShape2D_eq_ok {tensor : RawTensor} {rows cols : Int} :
    requireShape2D tensor rows cols name = .ok u ↔
      (tensor.shape 0).val = rows ∧ (tensor.shape 1).val = cols := by
  simp only [requireShape2D, throwIf_eq_ok, not_or, not_not]

theorem getTmaAlignedSize_scale {dtype : DTypeCode} (h : Extent mn) (hd : IsScale dtype) :
    getTmaAlignedSize .machine mn (dtypeElementSize dtype) = .ok (alignUp mn 4) := by
  rw [hd.size, (getTmaAlignedSize_eq h.1 (h.2.trans (by decide)) (by decide) (by decide)).1]
  rfl

theorem getTmaAlignedSize_scale_ok {dtype : DTypeCode} (hd : IsScale dtype) {aligned : Int}
    (h : getTmaAlignedSize .machine mn (dtypeElementSize dtype) = .ok aligned) : aligned = alignUp mn 4 := by
  rw [hd.size] at h
  simp only [getTmaAlignedSize, bind_eq_ok, throwIf_eq_ok, exists_const, not_or, not_lt, Arith.machine_div,
    Arith.machine_add, Arith.machine_sub, Arith.machine_mul] at h
  obtain ⟨⟨h0, -⟩, alignment, halign, h⟩ := h
  obtain rfl : 4 = alignment := Except.ok.inj halign
  simp only [IntType.add_eq_ok, IntType.sub_eq_ok, IntType.mul_eq_ok] at h
  obtain ⟨_, ⟨-, rfl⟩, _, ⟨hsum, rfl⟩, _, hq, -, rfl⟩ := h
  rw [IntType.div_of_nonneg (by omega) hsum (by decide) (by decide), Except.ok.injEq] at hq
  rw [← hq, alignUp_eq_ediv_mul (by decide)]

theorem tmaAlignedMn_ok {dtype : DTypeCode} (hd : IsScale dtype) {aligned : Int}
    (h : tmaAlignedMn mn dtype name = .ok aligned) : aligned = alignUp mn 4 ∧ aligned ≤ i32.hi := by
  have hsize : dtypeSizeChecked dtype name = .ok (dtypeElementSize dtype) := by
    rcases hd with rfl | rfl <;> rfl
  rw [tmaAlignedMn, hsize, ok_bind, bind_eq_ok] at h
  obtain ⟨_, hget, h⟩ := h
  obtain ⟨hle, rfl⟩ := asI32_eq_ok.mp h
  exact ⟨getTmaAlignedSize_scale_ok hd hget, hle.2⟩

theorem requireMnMajorScale_eq_ok {tensor : RawTensor} {dtype : DTypeCode} (hmn : Extent mn) (hk : Extent k)
    (hg : 0 < granK ∧ granK ≤ i32.hi) (hd : IsScale dtype) :
    requireMnMajorScale tensor mn k granK dtype name = .ok u ↔
      (tensor.rank = 2 ∧ tensor.data ≠ 0) ∧ tensor.dtype = dtype ∧
        (tensor.shape 0).val = mn ∧ (tensor.shape 1).val = k ⌈/⌉ scaleDivisor granK dtype ∧
        (tensor.stride 0).val = 1 ∧ (tensor.stride 1).val = alignUp mn 4 := by
  obtain ⟨hlo, hle⟩ := scaleDivisor_bounds hg.1 dtype
  have hk1 := hk.2
  have hg1 := hg.2
  simp only [MachineInt.i32] at hk1 hg1
  have hcols := ceilDivI64_eq hk.1 (show 0 < scaleDivisor granK dtype by omega)
    (show _ ≤ i64.hi by simp only [i64]; omega)
  simp only [requireMnMajorScale, bind_eq_ok, requireTensorRank_eq_ok, requireDtype_eq_ok,
    scaleKDivisor_eq hg.1 hg.2, getTmaAlignedSize_scale hmn hd, hcols, Except.ok.injEq, exists_eq_left',
    throwIf_eq_ok, exists_const, not_or, not_not]

/-! ## Candidates -/

/-- The blocks and the cluster of a layout the heuristics consider. -/
structure Candidate (numSms : Int) (layout : GemmLayout) : Prop where
  blockM : 16 ≤ layout.blockM ∧ layout.blockM ≤ 256
  blockN : 16 ∣ layout.blockN ∧ 16 ≤ layout.blockN ∧ layout.blockN ≤ 256
  blockK : layout.blockK = 128
  clusterM : layout.clusterM = 1 ∨ layout.clusterM = 2
  clusterN : layout.clusterN = 1 ∨ layout.clusterN = 2
  clusterSize : layout.clusterSize = 1 ∨ layout.clusterSize = 2
  waves : numSms % layout.clusterSize = 0

theorem mem_multiples {step last : Nat} {x : Int} :
    x ∈ multiples step last ↔ ∃ i < last / step, x = step * (i + 1 : Nat) := by
  simp only [multiples, List.mem_map, List.mem_range, @eq_comm _ x]

theorem multiples_bounds {step last : Nat} {x : Int} (h : x ∈ multiples step last) :
    (step : Int) ∣ x ∧ (step : Int) ≤ x ∧ x ≤ last := by
  obtain ⟨i, hi, rfl⟩ := mem_multiples.mp h
  have hle : step * (i + 1) ≤ step * (last / step) := Nat.mul_le_mul_left step hi
  have hlast : step * (last / step) ≤ last := Nat.mul_div_le last step
  have hone : step * 1 ≤ step * (i + 1) := Nat.mul_le_mul_left step (by omega)
  refine ⟨Int.dvd_mul_right _ _, ?_, ?_⟩
  · exact_mod_cast (Nat.mul_one step ▸ hone)
  · exact_mod_cast hle.trans hlast

theorem mem_clusters {c : Int × Int} (h : c ∈ clusters) (hsize : c.1 * c.2 ≤ 2) :
    (c.1 = 1 ∨ c.1 = 2) ∧ (c.2 = 1 ∨ c.2 = 2) ∧ (c.1 * c.2 = 1 ∨ c.1 * c.2 = 2) := by
  simp only [clusters, List.mem_cons, List.not_mem_nil, or_false] at h
  rcases h with rfl | rfl | rfl | rfl
  · decide
  · decide
  · decide
  · exact absurd hsize (by decide)

theorem mem_sm90Layouts {m numSms : Int} {layout : GemmLayout} (h : layout ∈ sm90Layouts m numSms) :
    Candidate numSms layout := by
  simp only [sm90Layouts, sm90Clusters, List.mem_flatMap, List.mem_map, List.mem_filter,
    decide_eq_true_eq] at h
  obtain ⟨c, ⟨hc, hsize, hwaves⟩, blockM, hm, blockN, hn, rfl⟩ := h
  obtain ⟨hcm, hcn, hcluster⟩ := mem_clusters hc hsize
  obtain ⟨hdvd, hlo, hhi⟩ := multiples_bounds hn
  have hm : blockM = 64 ∨ blockM = 128 ∨ blockM = 16 ∨ blockM = 32 ∨ blockM = 256 := by
    simp only [sm90BlockMCandidates, List.mem_append, List.mem_cons, List.not_mem_nil, or_false] at hm
    split_ifs at hm <;> simp at hm <;> omega
  refine ⟨?_, ⟨hdvd, hlo, hhi.trans (by decide)⟩, rfl, hcm, hcn, hcluster, hwaves⟩
  show 16 ≤ blockM ∧ blockM ≤ 256
  omega

theorem mem_sm100Layouts {m k numSms : Int} {layout : GemmLayout} (h : layout ∈ sm100Layouts m k numSms) :
    Candidate numSms layout := by
  simp only [sm100Layouts, sm100Clusters, List.mem_flatMap, List.mem_map, List.mem_filter,
    decide_eq_true_eq] at h
  obtain ⟨swapAb, -, c, ⟨hc, -, hsize, -, hwaves⟩, blockM, hm, blockN, hn, rfl⟩ := h
  obtain ⟨hcm, hcn, hcluster⟩ := mem_clusters hc hsize
  have hm : 16 ≤ blockM ∧ blockM ≤ 256 := by
    unfold sm100BlockMCandidates at hm
    split_ifs at hm
    · exact (multiples_bounds hm).2
    all_goals simp at hm; omega
  have hn : 16 ∣ blockN ∧ 16 ≤ blockN ∧ blockN ≤ 256 := by
    unfold sm100BlockNCandidates at hn
    split at hn
    · simp at hn; omega
    · rcases List.mem_append.mp hn with hn | hn
      · simp at hn; omega
      · obtain ⟨hdvd, hlo, hhi⟩ := multiples_bounds hn
        refine ⟨Int.dvd_trans (by decide) hdvd, by omega, ?_⟩
        split at hhi <;> omega
  exact ⟨hm, hn, rfl, hcm, hcn, hcluster, hwaves⟩

theorem sm90LayoutInfo_layout {m n k numSms : Int} {layout : GemmLayout} {info : LayoutInfo}
    (h : sm90LayoutInfo m n k numSms layout = .ok info) : info.layout = layout := by
  simp only [sm90LayoutInfo, bind_eq_ok, Except.ok.injEq] at h
  obtain ⟨_, -, _, -, _, -, _, -, _, -, _, -, _, -, rfl⟩ := h
  rfl

theorem sm100LayoutInfo_layout {m n numSms : Int} {layout : GemmLayout} {info : LayoutInfo}
    (h : sm100LayoutInfo m n numSms layout = .ok info) : info.layout = layout := by
  simp only [sm100LayoutInfo, bind_eq_ok, Except.ok.injEq] at h
  obtain ⟨_, -, _, -, _, -, _, -, _, -, _, -, rfl⟩ := h
  rfl

/-- The configuration is that of a candidate that was kept. -/
theorem sm90BestConfig_layout {m n k numSms : Int} {config : GemmConfig}
    (h : sm90BestConfig m n k numSms = .ok config) :
    Candidate numSms config.layout ∧ sm90Keeps k config.layout = .ok true := by
  obtain ⟨candidates, hkeep, h⟩ := bind_eq_ok.mp h
  cases candidates with
  | nil => cases h
  | cons first rest =>
    simp only [bind_eq_ok, Except.ok.injEq] at h
    obtain ⟨info, hbest, _, -, _, -, rfl⟩ := h
    obtain ⟨layout, hmem, hinfo⟩ := Search.best_measured hbest
    obtain rfl := sm90LayoutInfo_layout hinfo
    obtain ⟨hlayout, hkept⟩ := (Search.mem_keep hkeep _).mp hmem
    exact ⟨mem_sm90Layouts hlayout, hkept⟩

end DeepGemmRs.Raw.Gemm
