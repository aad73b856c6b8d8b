import DeepGemmRs.Raw.Sm90Choice
import Mathlib.Data.List.Lex
import Mathlib.Order.RelClasses

/-!
# The choice of a layout on SM100

* `Sm100Order`, `Sm100Kept` : what the enumeration and the filter tell of a candidate;
* `Sm100Legal` : what is asked of a configuration, `sm100_legal` : **there are candidates for all
  sizes, and every configuration found is legal**;
* `sm100Key` : the measures that `sm100_layout_is_better` compares, in their order,
  `sm100LayoutIsBetter_iff` : it compares them lexicographically;
* `Preferred` : no measure is worse than the ones before it excuse;
* `sm100_choice` : **the comparison is a strict weak order, and the first candidate that no other
  betters is the one selected.**
-/

namespace DeepGemmRs.Raw.Gemm

open Checked MachineInt Rounding

section

variable {m n k numSms : Int} {layout : GemmLayout} {config : GemmConfig}

/-! ## Candidates -/

/-- What the order of the operands means for the blocks. -/
structure Sm100Order (layout : GemmLayout) : Prop where
  blockM : 16 ∣ layout.blockM
  swapped : layout.swapAb = true → layout.blockN = 128 ∧ layout.clusterM = 1
  straight : layout.swapAb = false → layout.clusterN = 1

theorem sm100Layouts_order (h : layout ∈ sm100Layouts m k numSms) : Sm100Order layout := by
  simp only [sm100Layouts, sm100Clusters, List.mem_flatMap, List.mem_map, List.mem_filter,
    decide_eq_true_eq] at h
  obtain ⟨swapAb, -, c, ⟨hc, hswap, hsize, hstraight, -⟩, blockM, hm, blockN, hn, rfl⟩ := h
  obtain ⟨hcm, hcn, -⟩ := mem_clusters hc hsize
  refine ⟨?_, fun (hs : swapAb = true) => ?_, fun (hs : swapAb = false) => ?_⟩
  · show 16 ∣ blockM
    unfold sm100BlockMCandidates at hm
    split_ifs at hm
    · exact (multiples_bounds hm).1
    all_goals simp at hm; omega
  · have hn : blockN = 128 := by simpa [sm100BlockNCandidates, hs] using hn
    have hone : ¬ c.1 > 1 := fun hc => hswap ⟨hs, hc⟩
    exact ⟨hn, show c.1 = 1 by omega⟩
  · have hone : ¬ c.2 > 1 := fun hc => hstraight ⟨by rw [hs]; decide, hc⟩
    show c.2 = 1
    omega

/-- `umma_n`, the columns of an accumulator. -/
def ummaN (layout : GemmLayout) : Int := if layout.swapAb then layout.blockM else layout.blockN

/-- The columns of the scale factors in the tensor memory. -/
def sfCols (layout : GemmLayout) : Int := alignUp layout.blockM 128 / 32 + alignUp layout.blockN 128 / 32

/-- What the filter of the candidates asks of the blocks. -/
structure Sm100Kept (m n : Int) (layout : GemmLayout) : Prop where
  loadM : layout.blockM.tdiv layout.clusterN % 8 = 0
  loadN : layout.blockN.tdiv layout.clusterM % 8 = 0
  blocksM : layout.clusterM ∣ m ⌈/⌉ layout.blockM
  blocksN : layout.clusterN ∣ n ⌈/⌉ layout.blockN
  tensorMemory : 2 * ummaN layout + sfCols layout ≤ 512

theorem sm100Fits_tensorMemory (hc : Candidate numSms layout) (h : sm100Fits layout = .ok true) :
    2 * ummaN layout + sfCols layout ≤ 512 := by
  unfold sm100Fits at h
  split at h
  · cases h
  obtain ⟨hbm0, -⟩ := hc.blockM
  obtain ⟨-, hbn0, -⟩ := hc.blockN
  have hm : layout.blockM ≤ alignUp layout.blockM 128 := le_alignUp (by decide)
  have hn : layout.blockN ≤ alignUp layout.blockN 128 := le_alignUp (by decide)
  have hcols : (alignUp layout.blockM 128).tdiv 32 + (alignUp layout.blockN 128).tdiv 32 = sfCols layout := by
    unfold sfCols
    rw [Int.tdiv_eq_ediv_of_nonneg (by omega), Int.tdiv_eq_ediv_of_nonneg (by omega)]
  rw [sm100SfAlignedBlocks_total hc, ok_bind] at h
  dsimp only at h
  rw [hcols] at h
  change (if 2 * ummaN layout + sfCols layout > 512 then _ else _) = _ at h
  by_contra hfull
  rw [if_pos (not_le.mp hfull)] at h
  cases h

theorem kept_of_sm100Keeps (hc : Candidate numSms layout) (h : sm100Keeps m n layout = .ok true) :
    Sm100Kept m n layout := by
  unfold sm100Keeps at h
  split at h
  · cases h
  next hloadM =>
  obtain ⟨blocksM, hblocksM, h⟩ := bind_eq_ok.mp h
  obtain ⟨-, -, rfl⟩ := ceilDivInt_ok hblocksM
  split at h
  · cases h
  next hdvdM =>
  split at h
  · cases h
  next hloadN =>
  obtain ⟨blocksN, hblocksN, h⟩ := bind_eq_ok.mp h
  obtain ⟨-, -, rfl⟩ := ceilDivInt_ok hblocksN
  split at h
  · cases h
  next hdvdN =>
  exact ⟨not_not.mp hloadM, not_not.mp hloadN, Int.dvd_of_emod_eq_zero (not_not.mp hdvdM),
    Int.dvd_of_emod_eq_zero (not_not.mp hdvdN), sm100Fits_tensorMemory hc h⟩

/-- There is a candidate whatever the sizes are. -/
theorem sm100LayoutCandidates_total (hm : Extent m) (hn : Extent n) (k numSms : Int) :
    ∃ candidates, sm100LayoutCandidates m n k numSms = .ok candidates ∧ candidates ≠ [] := by
  obtain ⟨candidates, hkeep⟩ : Succeeds (sm100LayoutCandidates m n k numSms) :=
    Search.keep_succeeds fun _ hl => sm100Keeps_total hm hn (mem_sm100Layouts hl)
  refine ⟨candidates, hkeep, ?_⟩
  apply List.ne_nil_of_mem
  exact (Search.mem_keep hkeep (sm100Small m)).mpr ⟨sm100Small_mem m k numSms, sm100Small_kept hm hn⟩

/-! ## Configurations -/

/-- The shared memory of one stage. -/
def sm100PerStage (layout : GemmLayout) (storage : StorageConfig) : Int :=
  storage.loadBlockM * 128 + storage.loadBlockN * 128 + alignUp layout.blockM 128 * 4 +
    alignUp layout.blockN 128 * 4

/-- A configuration within the limits of the device, whose clusters divide the work evenly. -/
structure Sm100Legal (m n numSms : Int) (config : GemmConfig) : Prop where
  filled : Filled (sm100PerStage config.layout config.storage) 32 config.pipeline
  stages : 1 ≤ config.pipeline.numStages
  tensorMemory : 2 * ummaN config.layout + sfCols config.layout ≤ 512
  sms : config.layout.clusterSize ∣ numSms
  blocksM : config.layout.clusterM ∣ m ⌈/⌉ config.layout.blockM
  blocksN : config.layout.clusterN ∣ n ⌈/⌉ config.layout.blockN
  loadM : config.storage.loadBlockM * config.layout.clusterN = config.layout.blockM ∧ 8 ∣ config.storage.loadBlockM
  loadN : config.storage.loadBlockN * config.layout.clusterM = config.layout.blockN ∧ 8 ∣ config.storage.loadBlockN
  swapped : config.layout.swapAb = true → config.layout.blockN = 128 ∧ config.layout.clusterM = 1
  straight : config.layout.swapAb = false → config.layout.clusterN = 1

/-- A block of sixteens is split evenly by a cluster of one or two. -/
theorem tdiv_cluster_mul {block cluster : Int} (hblock : 16 ∣ block) (hc : cluster = 1 ∨ cluster = 2) :
    block.tdiv cluster * cluster = block := by
  apply Int.tdiv_mul_cancel
  rcases hc with rfl | rfl
  · exact Int.one_dvd block
  · exact Int.dvd_trans (by decide) hblock

theorem sm100StorageConfig_load {storage : StorageConfig} (h : sm100StorageConfig layout = .ok storage) :
    storage.loadBlockM = layout.blockM.tdiv layout.clusterN ∧ storage.loadBlockN = layout.blockN.tdiv layout.clusterM ∧
      storage.storeBlockM = (if layout.swapAb then 16 else min 128 layout.blockM) ∧
      storage.storeBlockN = layout.blockN := by
  simp only [sm100StorageConfig, bind_eq_ok, Except.ok.injEq] at h
  obtain ⟨_, -, _, -, _, -, rfl⟩ := h
  exact ⟨rfl, rfl, rfl, rfl⟩

theorem tdiv_cluster_bounds {block cluster : Int} (h : 0 ≤ block ∧ block ≤ 256) (hc : cluster = 1 ∨ cluster = 2) :
    0 ≤ block.tdiv cluster ∧ block.tdiv cluster ≤ 256 := by
  rw [Int.tdiv_eq_ediv_of_nonneg h.1]
  rcases hc with rfl | rfl
  · exact ⟨by omega, by omega⟩
  · exact ⟨by omega, by omega⟩

/-- The shared memory beside the stages: the output tile, the barriers and a pointer. -/
def sm100SmemExtra (layout : GemmLayout) (storage : StorageConfig) : Int :=
  (if layout.swapAb then storage.storeBlockM * storage.storeBlockN * 2 * 2
    else storage.storeBlockM * storage.swizzleCdMode * 2) + (32 * 8 * 3 + 2 * 8 * 2 + 8) + 4

theorem sm100SmemExtra_le (hc : Candidate numSms layout) (ho : Sm100Order layout) {storage : StorageConfig}
    (hs : sm100StorageConfig layout = .ok storage) : sm100SmemExtra layout storage ≤ 33580 := by
  obtain ⟨other, hs', hof⟩ := sm100StorageConfig_total hc
  obtain rfl : storage = other := Except.ok.inj (hs.symm.trans hs')
  obtain ⟨-, -, hstoreM, hstoreN⟩ := sm100StorageConfig_load hs
  unfold sm100SmemExtra
  rw [hstoreM, hstoreN]
  by_cases hswap : layout.swapAb = true
  · rw [if_pos hswap, if_pos hswap, (ho.swapped hswap).1]
    decide
  · rw [if_neg hswap, if_neg hswap]
    obtain ⟨hbm0, -⟩ := hc.blockM
    have hmin : min 128 layout.blockM ≤ 128 := min_le_left _ _
    have hmode : storage.swizzleCdMode = 128 ∨ storage.swizzleCdMode = 64 ∨ storage.swizzleCdMode = 32 ∨
        storage.swizzleCdMode = 16 := hof.swizzleCd
    rcases hmode with hmode | hmode | hmode | hmode <;> rw [hmode] <;> omega

/-- Beside its stages the pipeline takes little: at least one stage always fits. -/
theorem sm100_filled (hc : Candidate numSms layout) (ho : Sm100Order layout) {storage : StorageConfig}
    (hs : sm100StorageConfig layout = .ok storage) {pipeline : PipelineConfig}
    (hp : sm100PipelineConfig layout storage = .ok pipeline) :
    Filled (sm100PerStage layout storage) 32 pipeline ∧ 1 ≤ pipeline.numStages := by
  obtain ⟨hbm0, hbm1⟩ := hc.blockM
  obtain ⟨-, hbn0, hbn1⟩ := hc.blockN
  obtain ⟨hloadM, hloadN, -⟩ := sm100StorageConfig_load hs
  have hextra := sm100SmemExtra_le hc ho hs
  have hloadM' := tdiv_cluster_bounds ⟨by omega, hbm1⟩ hc.clusterN
  have hloadN' := tdiv_cluster_bounds ⟨by omega, hbn1⟩ hc.clusterM
  rw [← hloadM] at hloadM'
  rw [← hloadN] at hloadN'
  have hsfa : alignUp layout.blockM 128 ≤ 256 := (alignUp_le_iff (by decide) (by decide)).mpr hbm1
  have hsfb : alignUp layout.blockN 128 ≤ 256 := (alignUp_le_iff (by decide) (by decide)).mpr hbn1
  have hsfa0 : layout.blockM ≤ alignUp layout.blockM 128 := le_alignUp (by decide)
  have hsfb0 : layout.blockN ≤ alignUp layout.blockN 128 := le_alignUp (by decide)
  have hper : 0 < sm100PerStage layout storage ∧ sm100PerStage layout storage ≤ 67584 := by
    unfold sm100PerStage
    omega
  rw [sm100PipelineConfig, sm100SfAlignedBlocks_total hc, ok_bind, Except.ok.injEq] at hp
  have hnum : pipeline.numStages =
      min ((kSmemCapacity - sm100SmemExtra layout storage).tdiv (sm100PerStage layout storage)) 32 := by
    rw [← hp, hc.blockK]
    rfl
  have hsize : pipeline.smemSize =
      sm100SmemExtra layout storage + pipeline.numStages * sm100PerStage layout storage := by
    rw [← hp, hc.blockK]
    rfl
  have hone : 1 ≤ pipeline.numStages := by
    have hroom : 67584 ≤ kSmemCapacity - sm100SmemExtra layout storage := by
      unfold kSmemCapacity
      omega
    rw [hnum, Int.tdiv_eq_ediv_of_nonneg (by omega), le_min_iff]
    refine ⟨?_, by decide⟩
    rw [Int.le_ediv_iff_mul_le hper.1, Int.one_mul]
    omega
  exact ⟨filled_of_stages hper.1 hnum hsize hone, hone⟩

/-- A configuration is that of the best of some candidates. -/
theorem sm100BestConfig_ok (h : sm100BestConfig m n k numSms = .ok config) :
    ∃ first rest info, sm100LayoutCandidates m n k numSms = .ok (first :: rest) ∧
      Search.best (sm100LayoutInfo m n numSms) sm100LayoutIsBetter first rest = .ok info ∧
      config.layout = info.layout ∧ sm100StorageConfig config.layout = .ok config.storage ∧
      sm100PipelineConfig config.layout config.storage = .ok config.pipeline := by
  obtain ⟨candidates, hkeep, h⟩ := bind_eq_ok.mp h
  cases candidates with
  | nil => cases h
  | cons first rest =>
    simp only [bind_eq_ok, Except.ok.injEq] at h
    obtain ⟨info, hbest, storage, hstorage, pipeline, hpipeline, rfl⟩ := h
    exact ⟨first, rest, info, hkeep, hbest, rfl, hstorage, hpipeline⟩

theorem sm100Legal_of_best (h : sm100BestConfig m n k numSms = .ok config) : Sm100Legal m n numSms config := by
  obtain ⟨first, rest, info, hkeep, hbest, hlayoutEq, hstorage, hpipeline⟩ := sm100BestConfig_ok h
  obtain ⟨layout, hmem, hinfo⟩ := Search.best_measured hbest
  obtain rfl := hlayoutEq.trans (sm100LayoutInfo_layout hinfo)
  obtain ⟨hlayout, hkept⟩ := (Search.mem_keep hkeep _).mp hmem
  have hc := mem_sm100Layouts hlayout
  have ho := sm100Layouts_order hlayout
  have hk := kept_of_sm100Keeps hc hkept
  obtain ⟨hfilled, hstages⟩ := sm100_filled hc ho hstorage hpipeline
  obtain ⟨hloadM, hloadN, -⟩ := sm100StorageConfig_load hstorage
  refine {
    filled := hfilled, stages := hstages, tensorMemory := hk.tensorMemory
    sms := Int.dvd_of_emod_eq_zero hc.waves, blocksM := hk.blocksM, blocksN := hk.blocksN
    loadM := ⟨?_, ?_⟩, loadN := ⟨?_, ?_⟩, swapped := ho.swapped, straight := ho.straight }
  · exact hloadM ▸ tdiv_cluster_mul ho.blockM hc.clusterN
  · exact hloadM ▸ Int.dvd_of_emod_eq_zero hk.loadM
  · exact hloadN ▸ tdiv_cluster_mul hc.blockN.1 hc.clusterM
  · exact hloadN ▸ Int.dvd_of_emod_eq_zero hk.loadN

/-- **For all sizes there are candidates, and every configuration found is legal.** -/
theorem sm100_legal (hm : Extent m) (hn : Extent n) (k numSms : Int) :
    (∃ candidates, sm100LayoutCandidates m n k numSms = .ok candidates ∧ candidates ≠ []) ∧
      ∀ config, sm100BestConfig m n k numSms = .ok config → Sm100Legal m n numSms config :=
  ⟨sm100LayoutCandidates_total hm hn k numSms, fun _ h => sm100Legal_of_best h⟩

end

theorem sm100_legal_4096 :
    (∃ candidates, sm100LayoutCandidates 4096 4096 7168 148 = .ok candidates ∧ candidates ≠ []) ∧
      ∃ config, sm100BestConfig 4096 4096 7168 148 = .ok config ∧ Sm100Legal 4096 4096 148 config := by
  have hsizes : GemmSizes 4096 4096 7168 148 := ⟨by decide, by decide, by decide, by decide, by decide⟩
  obtain ⟨config, h, -⟩ := sm100BestConfig_total hsizes
  have hlegal := sm100_legal (m := 4096) (n := 4096) (by decide) (by decide) 7168 148
  exact ⟨hlegal.1, config, h, hlegal.2 config h⟩

/-! ## The comparison -/

/-- The measures that are compared, the first ones first; less is better. -/
def sm100Key (info : LayoutInfo) : List Int :=
  [if info.numWaves = 1 then 0 else 1, -info.layout.clusterSize, info.numWaves, -info.lastWaveUtil,
    info.layout.blockM + info.layout.blockN, info.layout.blockM * info.layout.blockN]

/-- Where both have a wave, or as many as the other, the comparison is that of the keys. -/
theorem sm100LayoutIsBetter_iff {a b : LayoutInfo}
    (h : (1 ≤ a.numWaves ∧ 1 ≤ b.numWaves) ∨ a.numWaves = b.numWaves) :
    sm100LayoutIsBetter a b = true ↔ sm100Key a < sm100Key b := by
  unfold sm100LayoutIsBetter sm100Key
  generalize a.layout.blockM * a.layout.blockN = areaA
  generalize b.layout.blockM * b.layout.blockN = areaB
  generalize a.layout.blockM + a.layout.blockN = extentA
  generalize b.layout.blockM + b.layout.blockN = extentB
  simp only [List.cons_lt_cons_iff, List.not_lt_nil, and_false, or_false]
  -- one goal for each rule of the comparison, whether either has a single wave
  split_ifs <;> simp only [decide_eq_true_eq, true_and] <;> omega

/-- Where both have a wave, the comparison is the strict weak order of the keys. -/
theorem sm100LayoutIsBetter_strictWeakOrder :
    IsStrictWeakOrder {info : LayoutInfo // 1 ≤ info.numWaves} (fun a b => sm100LayoutIsBetter a b = true) := by
  have hkeys : (fun a b : {info : LayoutInfo // 1 ≤ info.numWaves} => sm100LayoutIsBetter a b = true) =
      Function.onFun (· < ·) fun a => sm100Key a.val := by
    funext a b
    exact propext (sm100LayoutIsBetter_iff (.inl ⟨a.property, b.property⟩))
  have hlists : IsStrictWeakOrder (List Int) (· < ·) := isStrictWeakOrder_of_isOrderConnected
  rw [hkeys]
  infer_instance

/-- No measure of `chosen` is worse than that of `other`, wherever the measures before it are alike. -/
structure Preferred (chosen other : LayoutInfo) : Prop where
  oneWave : other.numWaves = 1 → chosen.numWaves = 1
  cluster : (chosen.numWaves = 1 ↔ other.numWaves = 1) → other.layout.clusterSize ≤ chosen.layout.clusterSize
  waves : (chosen.numWaves = 1 ↔ other.numWaves = 1) → chosen.layout.clusterSize = other.layout.clusterSize →
    chosen.numWaves ≤ other.numWaves
  lastWave : chosen.layout.clusterSize = other.layout.clusterSize → chosen.numWaves = other.numWaves →
    other.lastWaveUtil ≤ chosen.lastWaveUtil
  extent : chosen.layout.clusterSize = other.layout.clusterSize → chosen.numWaves = other.numWaves →
    chosen.lastWaveUtil = other.lastWaveUtil →
    chosen.layout.blockM + chosen.layout.blockN ≤ other.layout.blockM + other.layout.blockN
  area : chosen.layout.clusterSize = other.layout.clusterSize → chosen.numWaves = other.numWaves →
    chosen.lastWaveUtil = other.lastWaveUtil →
    chosen.layout.blockM + chosen.layout.blockN = other.layout.blockM + other.layout.blockN →
    chosen.layout.blockM * chosen.layout.blockN ≤ other.layout.blockM * other.layout.blockN

theorem preferred_of_key_le {chosen other : LayoutInfo} (h : sm100Key chosen ≤ sm100Key other) :
    Preferred chosen other := by
  rw [← not_lt] at h
  simp only [sm100Key, List.cons_lt_cons_iff, List.not_lt_nil, and_false, or_false, not_or, not_and, not_lt] at h
  obtain ⟨hone, h⟩ := h
  have hone' : other.numWaves = 1 → chosen.numWaves = 1 := by
    intro hother
    by_contra hchosen
    rw [if_pos hother, if_neg hchosen] at hone
    exact absurd hone (by decide)
  have h : (chosen.numWaves = 1 ↔ other.numWaves = 1) → _ := fun hsame => h (by simp only [hsame])
  refine ⟨hone', fun hsame => ?_, fun hsame hc => ?_, fun hc hw => ?_, fun hc hw hu => ?_, fun hc hw hu he => ?_⟩
  · have := (h hsame).1
    omega
  · exact ((h hsame).2 (by rw [hc])).1
  · have := (((h (by rw [hw])).2 (by rw [hc])).2 hw.symm).1
    omega
  · exact ((((h (by rw [hw])).2 (by rw [hc])).2 hw.symm).2 (by rw [hu])).1
  · exact ((((h (by rw [hw])).2 (by rw [hc])).2 hw.symm).2 (by rw [hu])).2 he.symm

/-! ## The layout selected -/

section

variable {m n k numSms : Int} {layout : GemmLayout}

/-- Any work at all takes a wave. -/
theorem sm100LayoutInfo_waves {info : LayoutInfo} (h : sm100LayoutInfo m n numSms layout = .ok info) :
    if 1 ≤ m ∧ 1 ≤ n then 1 ≤ info.numWaves else info.numWaves = 0 := by
  simp only [sm100LayoutInfo, bind_eq_ok, Except.ok.injEq] at h
  obtain ⟨_, hblocksM, _, hblocksN, _, hblocks, _, hwaves, _, hint, _, -, rfl⟩ := h
  obtain ⟨hm, hbm, rfl⟩ := ceilDivInt_ok hblocksM
  obtain ⟨hn, hbn, rfl⟩ := ceilDivInt_ok hblocksN
  obtain ⟨-, rfl⟩ := IntType.mul_eq_ok.mp hblocks
  obtain ⟨-, hsms, rfl⟩ := ceilDivI64_ok hwaves
  obtain ⟨-, rfl⟩ := asI32_eq_ok.mp hint
  split
  · next hpos =>
    have hblocksM0 : 0 < m ⌈/⌉ layout.blockM := ceilDiv_pos hbm (by omega)
    have hblocksN0 : 0 < n ⌈/⌉ layout.blockN := ceilDiv_pos hbn (by omega)
    exact ceilDiv_pos hsms (Int.mul_pos hblocksM0 hblocksN0)
  · next hzero =>
    have hblocks : (m ⌈/⌉ layout.blockM) * (n ⌈/⌉ layout.blockN) = 0 := by
      have hmn : m = 0 ∨ n = 0 := by omega
      rcases hmn with rfl | rfl
      · rw [zero_ceilDiv, Int.zero_mul]
      · rw [zero_ceilDiv, Int.mul_zero]
    show _ ⌈/⌉ numSms = 0
    rw [hblocks, zero_ceilDiv]

/-- On the candidates of one GEMM the comparison is that of the keys. -/
theorem sm100LayoutIsBetter_iff_of_waves {a b : LayoutInfo}
    (ha : if 1 ≤ m ∧ 1 ≤ n then 1 ≤ a.numWaves else a.numWaves = 0)
    (hb : if 1 ≤ m ∧ 1 ≤ n then 1 ≤ b.numWaves else b.numWaves = 0) :
    sm100LayoutIsBetter a b = true ↔ sm100Key a < sm100Key b := by
  apply sm100LayoutIsBetter_iff
  split at ha
  · next hpos =>
    rw [if_pos hpos] at hb
    exact .inl ⟨ha, hb⟩
  · next hzero =>
    rw [if_neg hzero] at hb
    exact .inr (ha.trans hb.symm)

/-- The search finds the first of the candidates with the least key. -/
theorem sm100BestConfig_firstLeast {config : GemmConfig} (h : sm100BestConfig m n k numSms = .ok config) :
    ∃ candidates info, sm100LayoutCandidates m n k numSms = .ok candidates ∧ info.layout = config.layout ∧
      Search.FirstLeast (sm100LayoutInfo m n numSms) sm100Key candidates info := by
  obtain ⟨first, rest, info, hkeep, hbest, hlayout, -, -⟩ := sm100BestConfig_ok h
  refine ⟨first :: rest, info, hkeep, hlayout.symm, ?_⟩
  apply Search.best_firstLeast
    (fun info => if 1 ≤ m ∧ 1 ≤ n then 1 ≤ info.numWaves else info.numWaves = 0) ?_ ?_ hbest
  · intro c _ i hi
    exact sm100LayoutInfo_waves hi
  · intro i j hi hj
    exact sm100LayoutIsBetter_iff_of_waves hi hj

end

/-- **The comparison is a strict weak order on the candidates, and the one selected is the first that
no other betters: all before it are bettered, and none after it is preferred.** -/
theorem sm100_choice :
    IsStrictWeakOrder {info : LayoutInfo // 1 ≤ info.numWaves} (fun a b => sm100LayoutIsBetter a b = true) ∧
      ∀ m n k numSms config, sm100BestConfig m n k numSms = .ok config →
        ∃ before after info, sm100LayoutCandidates m n k numSms = .ok (before ++ config.layout :: after) ∧
          sm100LayoutInfo m n numSms config.layout = .ok info ∧
          (∀ c ∈ before, ∃ other, sm100LayoutInfo m n numSms c = .ok other ∧
            sm100LayoutIsBetter info other = true) ∧
          ∀ c ∈ before ++ config.layout :: after, ∃ other, sm100LayoutInfo m n numSms c = .ok other ∧
            (1 ≤ m → 1 ≤ n → 1 ≤ other.numWaves) ∧ ¬ sm100LayoutIsBetter other info = true ∧
            Preferred info other := by
  refine ⟨sm100LayoutIsBetter_strictWeakOrder, ?_⟩
  intro m n k numSms config h
  obtain ⟨candidates, info, hkeep, hlayout, hfirst⟩ := sm100BestConfig_firstLeast h
  have hleast := hfirst.least
  obtain ⟨before, a, after, rfl, ha, hbefore, -⟩ := hfirst
  obtain rfl : a = config.layout := (sm100LayoutInfo_layout ha).symm.trans hlayout
  have hwaves := sm100LayoutInfo_waves ha
  refine ⟨before, after, info, hkeep, ha, fun c hc => ?_, fun c hc => ?_⟩
  · obtain ⟨other, hother, hlt⟩ := hbefore c hc
    exact ⟨other, hother, (sm100LayoutIsBetter_iff_of_waves hwaves (sm100LayoutInfo_waves hother)).mpr hlt⟩
  · obtain ⟨other, hother, hle⟩ := hleast c hc
    have hwaves' := sm100LayoutInfo_waves hother
    refine ⟨other, hother, fun hm hn => ?_, ?_, preferred_of_key_le hle⟩
    · rwa [if_pos ⟨hm, hn⟩] at hwaves'
    · rw [sm100LayoutIsBetter_iff_of_waves hwaves' hwaves, not_lt]
      exact hle

theorem sm100_choice_4096 :
    ∃ config, sm100BestConfig 4096 4096 7168 148 = .ok config ∧ ∃ before after info,
      sm100LayoutCandidates 4096 4096 7168 148 = .ok (before ++ config.layout :: after) ∧
        sm100LayoutInfo 4096 4096 148 config.layout = .ok info ∧ 1 ≤ info.numWaves := by
  have hsizes : GemmSizes 4096 4096 7168 148 := ⟨by decide, by decide, by decide, by decide, by decide⟩
  obtain ⟨config, h, -⟩ := sm100BestConfig_total hsizes
  obtain ⟨before, after, info, hkeep, hinfo, -, hall⟩ := sm100_choice.2 4096 4096 7168 148 config h
  obtain ⟨other, hother, hwaves, -⟩ := hall config.layout (List.mem_append_right _ List.mem_cons_self)
  obtain rfl := Except.ok.inj (hinfo.symm.trans hother)
  exact ⟨config, h, before, after, info, hkeep, hinfo, hwaves (by decide) (by decide)⟩

end DeepGemmRs.Raw.Gemm
