import DeepGemmRs.Raw.GemmChecked

/-!
# Every GEMM of the supported sizes is launched

* `GemmSizes` : the sizes the heuristics are total on;
* `sm90BestConfig_total`, `sm100BestConfig_total` : a candidate is kept, and none of them stops the
  search;
* `launchSm90Fp8GemmNt_total`, `launchSm100Fp8GemmNt_total` : with a configuration, nothing stops the launch.
-/

namespace DeepGemmRs.Raw.Gemm

open Checked MachineInt Rounding

/-- The sizes of a GEMM, the number of blocks it may have, and the SMs that work on it. -/
structure GemmSizes (m n k numSms : Int) : Prop where
  sizeM : 1 ≤ m ∧ m ≤ i32.hi - 3
  sizeN : 1 ≤ n ∧ n ≤ i32.hi - 3
  sizeK : 1 ≤ k ∧ k ⌈/⌉ (128 : Int) ≤ 512
  blocks : (m ⌈/⌉ (16 : Int)) * (n ⌈/⌉ (16 : Int)) ≤ 2 ^ 30
  sms : 1 ≤ numSms ∧ numSms ≤ 2 ^ 16

namespace GemmSizes

variable {m n k numSms : Int}

theorem extentM (h : GemmSizes m n k numSms) : Extent m :=
  ⟨by have := h.sizeM.1; omega, h.sizeM.2.trans (by decide)⟩

theorem extentN (h : GemmSizes m n k numSms) : Extent n :=
  ⟨by have := h.sizeN.1; omega, h.sizeN.2.trans (by decide)⟩

theorem k_le (h : GemmSizes m n k numSms) : k ≤ 65536 := (ceilDiv_le_iff (by decide)).mp h.sizeK.2

theorem extentK (h : GemmSizes m n k numSms) : Extent k :=
  ⟨by have := h.sizeK.1; omega, h.k_le.trans (by decide)⟩

end GemmSizes

/-! ## Storage -/

/-- The swizzles a tensor map knows. -/
def IsSwizzle (mode : Int) : Prop := mode = 128 ∨ mode = 64 ∨ mode = 32 ∨ mode = 16

theorem getSwizzleMode_of_dvd {block : Int} (h : 16 ∣ block) :
    ∃ mode, getSwizzleMode block 2 = .ok mode ∧ IsSwizzle mode := by
  unfold getSwizzleMode
  split
  · next mode hfind =>
    refine ⟨mode, rfl, ?_⟩
    have hmem := List.mem_of_find?_eq_some hfind
    simpa [IsSwizzle] using hmem
  · next hfind =>
    have h32 := List.find?_eq_none.mp hfind 32 (by decide)
    simp only [decide_eq_true_eq] at h32
    omega

/-- What both architectures make of a layout's blocks. -/
structure StorageOf (storage : StorageConfig) : Prop where
  swizzleA : storage.swizzleAMode = 128
  swizzleB : storage.swizzleBMode = 128
  swizzleCd : IsSwizzle storage.swizzleCdMode

section

variable {numSms : Int} {layout : GemmLayout}

theorem sm90StorageConfig_total (hc : Candidate numSms layout) :
    ∃ storage, sm90StorageConfig layout = .ok storage ∧ StorageOf storage ∧
      storage.loadBlockM = layout.blockM ∧ storage.loadBlockN = layout.blockN := by
  obtain ⟨mode, hmode, hswizzle⟩ := getSwizzleMode_of_dvd hc.blockN.1
  have h128 : getSwizzleMode layout.blockK 1 = .ok 128 := by rw [hc.blockK]; rfl
  refine ⟨⟨layout.blockM, layout.blockN, layout.blockM, layout.blockN, 128, 128, mode⟩, ?_, ⟨rfl, rfl, hswizzle⟩,
    rfl, rfl⟩
  rw [sm90StorageConfig, h128, ok_bind, ok_bind, hmode, ok_bind]

theorem sm100StorageConfig_total (hc : Candidate numSms layout) :
    ∃ storage, sm100StorageConfig layout = .ok storage ∧ StorageOf storage := by
  obtain ⟨mode, hmode, hswizzle⟩ := getSwizzleMode_of_dvd hc.blockN.1
  have h128 : getSwizzleMode layout.blockK 1 = .ok 128 := by rw [hc.blockK]; rfl
  refine ⟨⟨layout.blockM.tdiv layout.clusterN, layout.blockN.tdiv layout.clusterM,
    if layout.swapAb then 16 else min 128 layout.blockM, layout.blockN, 128, 128, mode⟩, ?_, ⟨rfl, rfl, hswizzle⟩⟩
  rw [sm100StorageConfig, h128, ok_bind, ok_bind, hmode, ok_bind]

/-! ## Pipelines -/

theorem blocks_bounds (hc : Candidate numSms layout) :
    0 ≤ layout.blockM * layout.blockN ∧ layout.blockM * layout.blockN ≤ 256 * 256 := by
  have hm := hc.blockM
  have hn := hc.blockN.2
  exact ⟨Int.mul_nonneg (by omega) (by omega), Int.mul_le_mul hm.2 hn.2 (by omega) (by decide)⟩

/-- The shared memory of one stage on SM90. -/
def sm90PerStage (layout : GemmLayout) : Int :=
  layout.blockM * 128 + layout.blockN * 128 + alignUp (layout.blockM * 4) 128

/-- The stages that fit beside `extra` bytes. -/
def sm90Stages (layout : GemmLayout) (extra : Int) : Int := min ((232448 - extra) / sm90PerStage layout) 16

theorem sm90PipelineConfig_total (hc : Candidate numSms layout) {k : Int} (hk : Extent k)
    (hblocks : k ⌈/⌉ (128 : Int) ≤ 512) {storage : StorageConfig} (hm : storage.loadBlockM = layout.blockM)
    (hn : storage.loadBlockN = layout.blockN) :
    ∃ extra smemSize, extra ≤ alignUp (layout.blockM * layout.blockN * 2) 1024 + 4352 ∧
      sm90PipelineConfig k layout storage = .ok ⟨smemSize, sm90Stages layout extra⟩ ∧ Extent smemSize := by
  obtain ⟨hbm0, hbm1⟩ := hc.blockM
  obtain ⟨-, hbn0, hbn1⟩ := hc.blockN
  obtain ⟨hp0, hp1⟩ := blocks_bounds hc
  have hk0 : 0 ≤ k ⌈/⌉ (128 : Int) := ceilDiv_nonneg (by decide) hk.1
  generalize huse : (if 128 % layout.blockN = 0 then (1 : Int) else 2) = use
  have huse' : use = 1 ∨ use = 2 := by split at huse <;> omega
  have hsfb : 0 ≤ k ⌈/⌉ (128 : Int) * 4 * use ∧ k ⌈/⌉ (128 : Int) * 4 * use ≤ 4096 := by
    rcases huse' with rfl | rfl <;> omega
  have hsfbup : alignUp (k ⌈/⌉ (128 : Int) * 4 * use) 8 ≤ 4096 :=
    (alignUp_le_iff (by decide) (by decide)).mpr hsfb.2
  have hsfblo : k ⌈/⌉ (128 : Int) * 4 * use ≤ alignUp (k ⌈/⌉ (128 : Int) * 4 * use) 8 := le_alignUp (by decide)
  have hcdup : alignUp (layout.blockM * layout.blockN * 2) 1024 ≤ 131072 :=
    (alignUp_le_iff (by decide) (by decide)).mpr (by omega)
  have hcdlo : layout.blockM * layout.blockN * 2 ≤ alignUp (layout.blockM * layout.blockN * 2) 1024 :=
    le_alignUp (by decide)
  have hsfaup : alignUp (layout.blockM * 4) 128 ≤ 1024 := (alignUp_le_iff (by decide) (by decide)).mpr (by omega)
  have hsfalo : layout.blockM * 4 ≤ alignUp (layout.blockM * 4) 128 := le_alignUp (by decide)
  have hper : 0 < sm90PerStage layout := by unfold sm90PerStage; omega
  have hcd := alignInt_eq (show 0 ≤ layout.blockM * layout.blockN * 2 by omega) (show (0 : Int) < 1024 by decide)
    (by simp only [MachineInt.i32]; omega)
  have hsfa := alignInt_eq (show 0 ≤ layout.blockM * 4 by omega) (show (0 : Int) < 128 by decide)
    (by simp only [MachineInt.i32]; omega)
  have hkb := ceilDivInt_eq hk (show (0 : Int) < 128 by decide) (by decide)
  have hextra := alignInt_eq hsfb.1 (show (0 : Int) < 8 by decide) (by simp only [MachineInt.i32]; omega)
  let extra := alignUp (layout.blockM * layout.blockN * 2) 1024 + 256 + alignUp (k ⌈/⌉ (128 : Int) * 4 * use) 8
  have hextra0 : 0 ≤ extra ∧ extra ≤ 135424 := by
    constructor <;> omega
  have hq0 : 0 ≤ (232448 - extra) / sm90PerStage layout := Int.ediv_nonneg (by omega) hper.le
  have hq := Int.ediv_mul_le (232448 - extra) hper.ne'
  have hstages0 : 0 ≤ sm90Stages layout extra := by unfold sm90Stages; omega
  have hstages : sm90Stages layout extra * sm90PerStage layout ≤ 232448 - extra :=
    (Int.mul_le_mul_of_nonneg_right (min_le_left _ _) hper.le).trans hq
  have hstagespos : 0 ≤ sm90Stages layout extra * sm90PerStage layout := Int.mul_nonneg hstages0 hper.le
  refine ⟨extra, extra + sm90Stages layout extra * sm90PerStage layout, by omega, ?_, ⟨by omega, by
    simp only [MachineInt.i32]; omega⟩⟩
  have h1 : (i32.mul (k ⌈/⌉ (128 : Int)) 4 : Native Int) = _ :=
    IntType.mul_of_has (has_i32.mpr ⟨by omega, by omega⟩)
  have h2 : (i32.mul (k ⌈/⌉ (128 : Int) * 4) use : Native Int) = _ :=
    IntType.mul_of_has (has_i32.mpr ⟨by omega, by omega⟩)
  have h3 : (i32.add (alignUp (layout.blockM * layout.blockN * 2) 1024 + 256)
      (alignUp (k ⌈/⌉ (128 : Int) * 4 * use) 8) : Native Int) = .ok extra :=
    IntType.add_of_has (has_i32.mpr ⟨by omega, by omega⟩)
  have h4 : (i32.sub 232448 extra : Native Int) = _ := IntType.sub_of_has (has_i32.mpr ⟨by omega, by omega⟩)
  have h5 : (i32.mul (sm90Stages layout extra) (sm90PerStage layout) : Native Int) = _ :=
    IntType.mul_of_has (has_i32.mpr ⟨by omega, by omega⟩)
  have h6 : (i32.add extra (sm90Stages layout extra * sm90PerStage layout) : Native Int) = _ :=
    IntType.add_of_has (has_i32.mpr ⟨by omega, by omega⟩)
  have hdiv : min ((232448 - extra).tdiv (sm90PerStage layout)) 16 = sm90Stages layout extra := by
    rw [Int.tdiv_eq_ediv_of_nonneg (by omega), sm90Stages]
  have hpereq : layout.blockM * 128 + layout.blockN * 128 + alignUp (layout.blockM * 4) 128 = sm90PerStage layout :=
    rfl
  simp only [sm90PipelineConfig, hcd, ok_bind, hm, hn, hsfa, hc.blockK, huse, hkb, h1, h2, hextra, h3, kSmemCapacity, h4,
    hpereq, hdiv, h5, h6, Int.reduceMul]

/-! ## Waves -/

variable {m n k : Int}

/-- The blocks of a candidate and their waves are values of their types. -/
theorem waves_total (h : GemmSizes m n k numSms) (hc : Candidate numSms layout) (name : String) :
    ∃ blocksM blocksN waves lastBlocks, ceilDivInt m layout.blockM = .ok blocksM ∧
      ceilDivInt n layout.blockN = .ok blocksN ∧ i64.mul blocksM blocksN = (.ok (blocksM * blocksN) : Native Int) ∧
      ceilDivI64 (blocksM * blocksN) numSms = .ok waves ∧ asI32 waves name = .ok waves ∧
      i64.rem (blocksM * blocksN) numSms = (.ok lastBlocks : Native Int) ∧
      i32.mul waves numSms = (.ok (waves * numSms) : Native Int) := by
  obtain ⟨hbm0, hbm1⟩ := hc.blockM
  obtain ⟨-, hbn0, hbn1⟩ := hc.blockN
  obtain ⟨hs0, hs1⟩ := h.sms
  have hblocks := h.blocks
  have hm0 := h.extentM.1
  have hn0 := h.extentN.1
  have hqm0 : 0 ≤ m ⌈/⌉ layout.blockM := ceilDiv_nonneg (by omega) hm0
  have hqn0 : 0 ≤ n ⌈/⌉ layout.blockN := ceilDiv_nonneg (by omega) hn0
  -- no block is narrower than 16, so there are at most as many as the sizes allow
  have hnb : (m ⌈/⌉ layout.blockM) * (n ⌈/⌉ layout.blockN) ≤ 2 ^ 30 :=
    (Int.mul_le_mul (ceilDiv_anti (by decide) hbm0 hm0) (ceilDiv_anti (by decide) hbn0 hn0) hqn0
      (ceilDiv_nonneg (by decide) hm0)).trans hblocks
  have hnb0 : 0 ≤ (m ⌈/⌉ layout.blockM) * (n ⌈/⌉ layout.blockN) := Int.mul_nonneg hqm0 hqn0
  generalize hblocksM : m ⌈/⌉ layout.blockM = blocksM at hnb hnb0
  generalize hblocksN : n ⌈/⌉ layout.blockN = blocksN at hnb hnb0
  have hw0 : 0 ≤ (blocksM * blocksN) ⌈/⌉ numSms := ceilDiv_nonneg (by omega) hnb0
  have hw1 : (blocksM * blocksN) ⌈/⌉ numSms ≤ blocksM * blocksN := ceilDiv_le_self (by omega) hnb0
  have hslots : numSms * ((blocksM * blocksN) ⌈/⌉ numSms) < blocksM * blocksN + numSms := mul_ceilDiv_lt (by omega)
  have hslots0 : 0 ≤ (blocksM * blocksN) ⌈/⌉ numSms * numSms := Int.mul_nonneg hw0 (by omega)
  rw [Int.mul_comm] at hslots
  refine ⟨blocksM, blocksN, (blocksM * blocksN) ⌈/⌉ numSms, blocksM * blocksN % numSms, ?_, ?_, ?_, ?_, ?_, ?_, ?_⟩
  · rw [← hblocksM]
    exact ceilDivInt_eq h.extentM (by omega) (by simp only [MachineInt.i32]; omega)
  · rw [← hblocksN]
    exact ceilDivInt_eq h.extentN (by omega) (by simp only [MachineInt.i32]; omega)
  · exact IntType.mul_of_has (has_i64.mpr ⟨by omega, by omega⟩)
  · exact ceilDivI64_eq hnb0 (by omega) (by simp only [i64]; omega)
  · exact asI32_eq_ok.mpr ⟨⟨hw0, by simp only [MachineInt.i32]; omega⟩, rfl⟩
  · exact IntType.rem_of_nonneg hnb0 (has_i64.mpr ⟨by omega, by omega⟩) (by decide) (by omega)
  · exact IntType.mul_of_has (has_i32.mpr ⟨by omega, by omega⟩)

theorem sm90LayoutInfo_total (h : GemmSizes m n k numSms) (hc : Candidate numSms layout) :
    Succeeds (sm90LayoutInfo m n k numSms layout) := by
  obtain ⟨blocksM, blocksN, waves, lastBlocks, h1, h2, h3, h4, h5, h6, h7⟩ := waves_total h hc "SM90 waves"
  unfold sm90LayoutInfo
  rw [h1, ok_bind, h2, ok_bind, h3, ok_bind, h4, ok_bind, h5, ok_bind, h6, ok_bind, h7]
  exact ⟨_, rfl⟩

theorem sm100LayoutInfo_total (h : GemmSizes m n k numSms) (hc : Candidate numSms layout) :
    Succeeds (sm100LayoutInfo m n numSms layout) := by
  obtain ⟨blocksM, blocksN, waves, lastBlocks, h1, h2, h3, h4, h5, h6, -⟩ := waves_total h hc "SM100 waves"
  unfold sm100LayoutInfo
  rw [h1, ok_bind, h2, ok_bind, h3, ok_bind, h4, ok_bind, h5, ok_bind, h6]
  exact ⟨_, rfl⟩

/-! ## Candidates -/

theorem sm90Keeps_total (h : GemmSizes m n k numSms) (hc : Candidate numSms layout) :
    Succeeds (sm90Keeps k layout) := by
  obtain ⟨storage, hstorage, -, hm, hn⟩ := sm90StorageConfig_total hc
  obtain ⟨_, _, -, hpipeline, -⟩ := sm90PipelineConfig_total hc h.extentK h.sizeK.2 hm hn
  unfold sm90Keeps
  rw [hstorage, ok_bind, hpipeline, ok_bind]
  split_ifs <;> exact ⟨_, rfl⟩

/-- The candidate that is always kept. -/
def sm90Small : GemmLayout := ⟨false, 64, 16, kBlockK, 1, 1⟩

theorem sm90Small_mem (m numSms : Int) : sm90Small ∈ sm90Layouts m numSms := by
  simp only [sm90Layouts, List.mem_flatMap, List.mem_map]
  refine ⟨(1, 1), ?_, 64, ?_, 16, by decide, rfl⟩
  · simp [sm90Clusters, clusters]
  · simp [sm90BlockMCandidates]

theorem sm90Small_kept (h : GemmSizes m n k numSms) : sm90Keeps k sm90Small = .ok true := by
  have hc := mem_sm90Layouts (sm90Small_mem m numSms)
  obtain ⟨storage, hstorage, hof, hm, hn⟩ := sm90StorageConfig_total hc
  obtain ⟨extra, _, hextra, hpipeline, -⟩ := sm90PipelineConfig_total hc h.extentK h.sizeK.2 hm hn
  have hper : sm90PerStage sm90Small = 10496 := by decide
  have hcd : alignUp (sm90Small.blockM * sm90Small.blockN * 2) 1024 = 2048 := by decide
  have hstages : sm90Stages sm90Small extra = 16 := by
    rw [sm90Stages, hper]
    omega
  unfold sm90Keeps
  rw [hstorage, ok_bind, hpipeline, ok_bind, hof.swizzleA, hof.swizzleB, hstages]
  rfl

theorem sm100SfAlignedBlocks_total (hc : Candidate numSms layout) :
    sm100SfAlignedBlocks layout.blockM layout.blockN = .ok (alignUp layout.blockM 128, alignUp layout.blockN 128) := by
  obtain ⟨hbm0, hbm1⟩ := hc.blockM
  obtain ⟨-, hbn0, hbn1⟩ := hc.blockN
  rw [sm100SfAlignedBlocks, alignInt_eq (by omega) (by decide) (by simp only [MachineInt.i32]; omega), ok_bind,
    alignInt_eq (by omega) (by decide) (by simp only [MachineInt.i32]; omega), ok_bind]

theorem sm100Fits_total (hc : Candidate numSms layout) : Succeeds (sm100Fits layout) := by
  obtain ⟨storage, hstorage, -⟩ := sm100StorageConfig_total hc
  unfold sm100Fits
  rw [sm100SfAlignedBlocks_total hc, ok_bind, hstorage]
  dsimp only [ok_bind]
  split_ifs <;> exact ⟨_, rfl⟩

theorem sm100Keeps_total (hm : Extent m) (hn : Extent n) (hc : Candidate numSms layout) :
    Succeeds (sm100Keeps m n layout) := by
  obtain ⟨hbm0, hbm1⟩ := hc.blockM
  obtain ⟨-, hbn0, hbn1⟩ := hc.blockN
  unfold sm100Keeps
  rw [ceilDivInt_eq hm (by omega) (by simp only [MachineInt.i32]; omega), ok_bind,
    ceilDivInt_eq hn (by omega) (by simp only [MachineInt.i32]; omega), ok_bind]
  split_ifs
  · exact ⟨_, rfl⟩
  · exact ⟨_, rfl⟩
  · exact ⟨_, rfl⟩
  · exact ⟨_, rfl⟩
  · exact sm100Fits_total hc

/-- The candidate that is always kept. -/
def sm100Small (m : Int) : GemmLayout :=
  ⟨false, if m ≤ 32 then 32 else if m ≤ 64 then 64 else 128, 16, kBlockK, 1, 1⟩

theorem sm100Small_mem (m k numSms : Int) : sm100Small m ∈ sm100Layouts m k numSms := by
  simp only [sm100Layouts, List.mem_flatMap, List.mem_map]
  refine ⟨false, by decide, (1, 1), ?_, (sm100Small m).blockM, ?_, 16, ?_, rfl⟩
  · simp [sm100Clusters, clusters]
  · unfold sm100BlockMCandidates sm100Small
    split_ifs <;> simp_all
  · simp [sm100BlockNCandidates]

theorem sm100Small_kept (hm : Extent m) (hn : Extent n) : sm100Keeps m n (sm100Small m) = .ok true := by
  have hc := mem_sm100Layouts (sm100Small_mem m 1 1)
  obtain ⟨storage, hstorage, hof⟩ := sm100StorageConfig_total hc
  have hblock : (sm100Small m).blockM = 32 ∨ (sm100Small m).blockM = 64 ∨ (sm100Small m).blockM = 128 := by
    unfold sm100Small
    split_ifs <;> simp
  have hblockM : (sm100Small m).blockM.tdiv 1 % 8 = 0 := by rcases hblock with hb | hb | hb <;> rw [hb] <;> rfl
  have haligned : alignUp (sm100Small m).blockM 128 = 128 := by
    rcases hblock with hb | hb | hb <;> rw [hb] <;> decide
  have hfits : sm100Fits (sm100Small m) = .ok true := by
    unfold sm100Fits
    rw [sm100SfAlignedBlocks_total hc, ok_bind, hstorage, ok_bind, hof.swizzleA, hof.swizzleB, haligned]
    rfl
  unfold sm100Keeps
  rw [ceilDivInt_eq hm (by omega) (by simp only [MachineInt.i32]; omega), ok_bind,
    show (sm100Small m).blockN = 16 from rfl, ceilDivInt_eq hn (by decide) (by decide), ok_bind, hfits, show (sm100Small m).clusterN = 1 from rfl,
    show (sm100Small m).clusterM = 1 from rfl, if_neg (not_not.mpr hblockM), if_neg (by omega),
    if_neg (show ¬ (16 : Int).tdiv 1 % 8 ≠ 0 from not_not.mpr rfl), if_neg (by omega)]

theorem sm100PipelineConfig_total (hc : Candidate numSms layout) (storage : StorageConfig) :
    Succeeds (sm100PipelineConfig layout storage) := by
  unfold sm100PipelineConfig
  rw [sm100SfAlignedBlocks_total hc]
  exact ⟨_, rfl⟩

end

theorem sm90LayoutCandidates_total {m n k numSms : Int} (h : GemmSizes m n k numSms) :
    ∃ candidates, sm90LayoutCandidates m n k numSms = .ok candidates ∧ sm90Small ∈ candidates ∧
      ∀ layout ∈ candidates, Candidate numSms layout := by
  obtain ⟨candidates, hkeep⟩ : Succeeds (sm90LayoutCandidates m n k numSms) :=
    Search.keep_succeeds fun _ hl => sm90Keeps_total h (mem_sm90Layouts hl)
  refine ⟨candidates, hkeep, (Search.mem_keep hkeep _).mpr ⟨sm90Small_mem m numSms, sm90Small_kept h⟩, ?_⟩
  intro layout hl
  exact mem_sm90Layouts ((Search.mem_keep hkeep layout).mp hl).1

/-- Some configuration is found. -/
theorem sm90BestConfig_total {m n k numSms : Int} (h : GemmSizes m n k numSms) :
    ∃ config, sm90BestConfig m n k numSms = .ok config ∧ StorageOf config.storage := by
  obtain ⟨candidates, hkeep, hmem, hcandidate⟩ := sm90LayoutCandidates_total h
  unfold sm90BestConfig
  rw [hkeep, ok_bind]
  cases candidates with
  | nil => cases hmem
  | cons first rest =>
    obtain ⟨info, hbest⟩ : Succeeds (Search.best (sm90LayoutInfo m n k numSms)
        (fun info best => info.numCycles < best.numCycles) first rest) :=
      Search.best_succeeds fun layout hl => sm90LayoutInfo_total h (hcandidate layout hl)
    obtain ⟨layout, hl, hinfo⟩ := Search.best_measured hbest
    obtain rfl := sm90LayoutInfo_layout hinfo
    obtain ⟨storage, hstorage, hof, hm, hn⟩ := sm90StorageConfig_total (hcandidate _ hl)
    obtain ⟨_, _, -, hpipeline, -⟩ := sm90PipelineConfig_total (hcandidate _ hl) h.extentK h.sizeK.2 hm hn
    simp only [bind_eq_ok, Except.ok.injEq]
    exact ⟨_, ⟨info, hbest, storage, hstorage, _, hpipeline, rfl⟩, hof⟩

theorem sm100BestConfig_total {m n k numSms : Int} (h : GemmSizes m n k numSms) :
    ∃ config, sm100BestConfig m n k numSms = .ok config ∧ StorageOf config.storage := by
  obtain ⟨candidates, hkeep⟩ : Succeeds (sm100LayoutCandidates m n k numSms) :=
    Search.keep_succeeds fun _ hl => sm100Keeps_total h.extentM h.extentN (mem_sm100Layouts hl)
  have hmem : sm100Small m ∈ candidates :=
    (Search.mem_keep hkeep _).mpr ⟨sm100Small_mem m k numSms, sm100Small_kept h.extentM h.extentN⟩
  have hcandidate : ∀ layout ∈ candidates, Candidate numSms layout := fun layout hl =>
    mem_sm100Layouts ((Search.mem_keep hkeep layout).mp hl).1
  unfold sm100BestConfig
  rw [hkeep, ok_bind]
  cases candidates with
  | nil => cases hmem
  | cons first rest =>
    obtain ⟨info, hbest⟩ : Succeeds (Search.best (sm100LayoutInfo m n numSms) sm100LayoutIsBetter first rest) :=
      Search.best_succeeds fun layout hl => sm100LayoutInfo_total h (hcandidate layout hl)
    obtain ⟨layout, hl, hinfo⟩ := Search.best_measured hbest
    obtain rfl := sm100LayoutInfo_layout hinfo
    obtain ⟨storage, hstorage, hof⟩ := sm100StorageConfig_total (hcandidate _ hl)
    obtain ⟨pipeline, hpipeline⟩ := sm100PipelineConfig_total (hcandidate _ hl) storage
    simp only [bind_eq_ok, Except.ok.injEq]
    exact ⟨_, ⟨info, hbest, storage, hstorage, pipeline, hpipeline, rfl⟩, hof⟩

/-! ## Tensor maps -/

/-- The dtypes of the tensors of a GEMM. -/
def IsGemmDtype (dtype : DTypeCode) : Prop :=
  dtype = DTypeCode.fp8E4M3 ∨ dtype = DTypeCode.bf16 ∨ dtype = DTypeCode.f32 ∨ dtype = DTypeCode.packedUe8M0

theorem makeTma2dDesc_total {data : Ptr} (hdata : data ≠ 0) {dtype : DTypeCode} (hd : IsGemmDtype dtype)
    {swizzleMode : Int} (hs : swizzleMode = 0 ∨ IsSwizzle swizzleMode)
    (gmemInnerDim gmemOuterDim smemInnerDim smemOuterDim gmemOuterStride : Int) :
    Succeeds (makeTma2dDesc .machine data dtype gmemInnerDim gmemOuterDim smemInnerDim smemOuterDim
      gmemOuterStride swizzleMode {}) := by
  have helem : ∃ elemSize, tmaElemSize .machine data dtype = .ok elemSize ∧ 0 < elemSize ∧ elemSize ≤ 4 := by
    unfold tmaElemSize
    rw [throwIf_neg hdata]
    rcases hd with rfl | rfl | rfl | rfl <;> exact ⟨_, rfl, by decide, by decide⟩
  obtain ⟨elemSize, helem, hpos, hle⟩ := helem
  have hswizzle : ∃ inner, swizzledInnerDim .machine elemSize smemInnerDim swizzleMode = .ok inner := by
    unfold swizzledInnerDim
    split
    · have h0 : 0 ≤ swizzleMode ∧ swizzleMode ≤ 128 := by unfold IsSwizzle at hs; omega
      exact ⟨_, IntType.div_of_nonneg h0.1 (has_i32.mpr ⟨by omega, by omega⟩) (by decide) hpos⟩
    · exact ⟨_, rfl⟩
  obtain ⟨inner, hinner⟩ := hswizzle
  have hfp4 : fp4InnerDim .machine dtype gmemInnerDim inner swizzleMode true = .ok inner :=
    if_neg (by rcases hd with rfl | rfl | rfl | rfl <;> decide)
  have hdtype : ∃ dataType, tensorMapDtype dtype false true = .ok dataType := by
    rcases hd with rfl | rfl | rfl | rfl <;> exact ⟨_, rfl⟩
  obtain ⟨dataType, hdtype⟩ := hdtype
  have hmode : ∃ swizzle, tensorMapSwizzle swizzleMode 0 = .ok swizzle := by
    rcases hs with rfl | rfl | rfl | rfl | rfl <;> exact ⟨_, rfl⟩
  obtain ⟨swizzle, hmode⟩ := hmode
  unfold makeTma2dDesc
  rw [helem, ok_bind, hinner, ok_bind, hfp4, ok_bind, hdtype, hmode]
  exact ⟨_, rfl⟩

theorem launchKernel_total (kernel : String) (stream : Ptr) (launchArgs : LaunchArgs) (args : List KernelArg) :
    ∃ launch, launchKernel .machine kernel stream launchArgs args = .ok launch ∧ launch.kernel = kernel := by
  unfold launchKernel makeLaunchConfig clusterAttribute
  split <;> exact ⟨_, rfl, rfl⟩

/-! ## Launches -/

section

variable {mn k : Int}

theorem tmaAlignedMn_total {dtype : DTypeCode} (hd : IsScale dtype) (h : 0 ≤ mn ∧ mn ≤ i32.hi - 3) (name : String) :
    tmaAlignedMn mn dtype name = .ok (alignUp mn 4) := by
  have hle : alignUp mn 4 ≤ i32.hi - 3 := (alignUp_le_iff (by decide) (by decide)).mpr h.2
  have hge : mn ≤ alignUp mn 4 := le_alignUp (by decide)
  have hsize : dtypeSizeChecked dtype name = .ok (dtypeElementSize dtype) := by
    rcases hd with rfl | rfl <;> rfl
  unfold tmaAlignedMn
  rw [hsize, ok_bind, getTmaAlignedSize_scale ⟨h.1, h.2.trans (by decide)⟩ hd, ok_bind, asI32_eq_ok]
  exact ⟨⟨h.1.trans hge, hle.trans (by decide)⟩, rfl⟩

theorem scaleMap_total {scale : RawTensor} (hdata : scale.data ≠ 0) (hd : IsScale scale.dtype)
    (h : 0 ≤ mn ∧ mn ≤ i32.hi - 3) (hk : Extent k) {divisor : Int} (hdiv : 0 < divisor ∧ divisor ≤ i32.hi)
    (block : Int) (alignedName colsName strideName : String) :
    Succeeds (scaleMap scale mn k divisor block alignedName colsName strideName) := by
  have hk1 := hk.2
  have hdiv1 := hdiv.2
  simp only [MachineInt.i32] at hk1 hdiv1
  have hblocks := ceilDivI64_eq hk.1 hdiv.1 (by simp only [i64]; omega)
  have hcols : asI32 (k ⌈/⌉ divisor) colsName = .ok (k ⌈/⌉ divisor) :=
    asI32_eq_ok.mpr ⟨⟨ceilDiv_nonneg hdiv.1 hk.1, (ceilDiv_le_self hdiv.1 hk.1).trans hk.2⟩, rfl⟩
  have hgemm : IsGemmDtype scale.dtype := by
    rcases hd with h | h
    · exact .inr (.inr (.inl h))
    · exact .inr (.inr (.inr h))
  unfold scaleMap
  rw [tmaAlignedMn_total hd h, ok_bind, hblocks, ok_bind, hcols, ok_bind, tmaAlignedMn_total hd h, ok_bind]
  exact makeTma2dDesc_total hdata hgemm (.inl rfl) _ _ _ _ _

theorem operandMap_total {operand : RawTensor} (hdata : operand.data ≠ 0) (hd : IsGemmDtype operand.dtype)
    (hstride : Extent (operand.stride 0)) {swizzleMode : Int} (hs : IsSwizzle swizzleMode) (rows : Int)
    (dims : GemmDims) (config : GemmConfig) (loadBlock : Int) (name : String) :
    Succeeds (operandMap operand rows dims config loadBlock swizzleMode name) := by
  have h : asI32 (operand.stride 0) name = .ok (operand.stride 0).val := asI32_eq_ok.mpr ⟨hstride, rfl⟩
  unfold operandMap
  rw [h, ok_bind]
  exact makeTma2dDesc_total hdata hd (.inr hs) _ _ _ _ _

/-- What the launch reads of the converted tensors, past its checks. -/
structure Launchable (params : Fp8GemmNtParams) : Prop where
  a : params.a.data ≠ 0 ∧ IsGemmDtype params.a.dtype ∧ Extent (params.a.stride 0)
  b : params.b.data ≠ 0 ∧ IsGemmDtype params.b.dtype ∧ Extent (params.b.stride 0)
  d : params.d.data ≠ 0 ∧ IsGemmDtype params.d.dtype ∧ Extent (params.d.stride 0)
  aScale : params.aScale.data ≠ 0 ∧ IsScale params.aScale.dtype
  bScale : params.bScale.data ≠ 0 ∧ IsScale params.bScale.dtype

variable {params : Fp8GemmNtParams} {m n numSms : Int} {config : GemmConfig}

theorem outputMap_total (h : Launchable params) (hc : StorageOf config.storage) (dims : GemmDims) :
    Succeeds (outputMap params dims config) := by
  have hstride : asI32 (params.d.stride 0) "d stride(0)" = .ok (params.d.stride 0).val :=
    asI32_eq_ok.mpr ⟨h.d.2.2, rfl⟩
  unfold outputMap
  rw [hstride, ok_bind]
  exact makeTma2dDesc_total h.d.1 h.d.2.1 (.inr hc.swizzleCd) _ _ _ _ _

theorem launchSm90Fp8GemmNt_total (h : Launchable params) (hs : GemmSizes m n k numSms)
    (hc : StorageOf config.storage) (hblock : config.layout.blockK = 128) (pdl : Bool) :
    ∃ launch, launchSm90Fp8GemmNt params ⟨m, n, k⟩ numSms config pdl = .ok launch ∧
      launch.kernel = "sm90_fp8_gemm_1d2d" := by
  have hsa : IsSwizzle config.storage.swizzleAMode := .inl hc.swizzleA
  have hsb : IsSwizzle config.storage.swizzleBMode := .inl hc.swizzleB
  obtain ⟨mapA, ha⟩ := operandMap_total h.a.1 h.a.2.1 h.a.2.2 hsa m ⟨m, n, k⟩ config config.storage.loadBlockM
    "a stride(0)"
  obtain ⟨mapB, hb⟩ := operandMap_total h.b.1 h.b.2.1 h.b.2.2 hsb n ⟨m, n, k⟩ config config.storage.loadBlockN
    "b stride(0)"
  obtain ⟨mapD, hd⟩ := outputMap_total h hc ⟨m, n, k⟩
  obtain ⟨mapSfa, hsfa⟩ := scaleMap_total h.aScale.1 h.aScale.2 ⟨hs.extentM.1, hs.sizeM.2⟩ hs.extentK
    (show 0 < config.layout.blockK ∧ config.layout.blockK ≤ i32.hi by rw [hblock]; decide) config.layout.blockM
    "a_scale aligned m" "a_scale k blocks" "a_scale stride"
  unfold launchSm90Fp8GemmNt
  rw [ha, ok_bind, hb, ok_bind, hd, ok_bind, hsfa, ok_bind]
  exact launchKernel_total _ _ _ _

theorem launchSm100Fp8GemmNt_total (h : Launchable params) (hs : GemmSizes m n k numSms)
    (hc : StorageOf config.storage) (pdl : Bool) :
    ∃ launch, launchSm100Fp8GemmNt params ⟨m, n, k⟩ numSms config pdl = .ok launch ∧
      launch.kernel = "sm100_fp8_gemm_1d1d" := by
  have hsa : IsSwizzle config.storage.swizzleAMode := .inl hc.swizzleA
  have hsb : IsSwizzle config.storage.swizzleBMode := .inl hc.swizzleB
  obtain ⟨mapA, ha⟩ := operandMap_total h.a.1 h.a.2.1 h.a.2.2 hsa m ⟨m, n, k⟩ config config.storage.loadBlockM
    "a stride(0)"
  obtain ⟨mapB, hb⟩ := operandMap_total h.b.1 h.b.2.1 h.b.2.2 hsb n ⟨m, n, k⟩ config config.storage.loadBlockN
    "b stride(0)"
  obtain ⟨mapSfa, hsfa⟩ := scaleMap_total h.aScale.1 h.aScale.2 ⟨hs.extentM.1, hs.sizeM.2⟩ hs.extentK
    (show (0 : Int) < 128 * 4 ∧ (128 * 4 : Int) ≤ i32.hi by decide) config.layout.blockM "a_scale aligned m"
    "a_scale packed k blocks" "a_scale stride"
  obtain ⟨mapSfb, hsfb⟩ := scaleMap_total h.bScale.1 h.bScale.2 ⟨hs.extentN.1, hs.sizeN.2⟩ hs.extentK
    (show (0 : Int) < 128 * 4 ∧ (128 * 4 : Int) ≤ i32.hi by decide) config.layout.blockN "b_scale aligned n"
    "b_scale packed k blocks" "b_scale stride"
  obtain ⟨mapCd, hd⟩ := outputMap_total h hc ⟨m, n, k⟩
  unfold launchSm100Fp8GemmNt
  rw [ha, ok_bind, hb, ok_bind, hsfa, ok_bind, hsfb, ok_bind, hd, ok_bind]
  exact launchKernel_total _ _ _ _

end

/-! ## Scale transforms -/

section

variable {params : Fp8GemmScaleTransformParams} {sfK : Int}

theorem launchTranspose_total (hmn : Extent params.mn) (hk : 1 ≤ sfK ∧ sfK ≤ 512) (pdl : Bool) :
    ∃ launch, launchTranspose params sfK pdl = .ok launch ∧ launch.kernel = "transpose_fp32" := by
  obtain ⟨hk0, hk1⟩ := hk
  have hmn0 := hmn.1
  have hmn1 := hmn.2
  simp only [MachineInt.i32] at hmn1
  have hr0 := Int.emod_nonneg sfK (show (2 : Int) ≠ 0 by decide)
  have hr1 := Int.emod_lt_of_pos sfK (show (0 : Int) < 2 by decide)
  have hrem : (i64.rem sfK 2 : Native Int) = .ok (sfK % 2) :=
    IntType.rem_of_nonneg (by omega) (has_i64.mpr ⟨by omega, by omega⟩) (by decide) (by decide)
  have hpad : (i64.add sfK (1 - sfK % 2) : Native Int) = .ok (sfK + (1 - sfK % 2)) :=
    IntType.add_of_has (has_i64.mpr ⟨by omega, by omega⟩)
  have hint : ∀ {x : Int} (name : String), 0 ≤ x → x ≤ 2147483647 → asI32 x name = .ok x := fun name h0 h1 =>
    asI32_eq_ok.mpr ⟨⟨h0, h1⟩, rfl⟩
  have hwords : (i32.mul 64 (sfK + (1 - sfK % 2)) : Native Int) = _ :=
    IntType.mul_of_has (has_i32.mpr ⟨by omega, by omega⟩)
  have hbytes : (i32.mul (64 * (sfK + (1 - sfK % 2))) 4 : Native Int) = _ :=
    IntType.mul_of_has (has_i32.mpr ⟨by omega, by omega⟩)
  have hblocks := ceilDivI64_eq hmn0 (show (0 : Int) < 64 by decide) (by simp only [i64]; omega)
  have hgrid0 : 0 ≤ params.mn.val ⌈/⌉ (64 : Int) := ceilDiv_nonneg (by decide) hmn0
  have hgrid1 : params.mn.val ⌈/⌉ (64 : Int) ≤ params.mn.val := ceilDiv_le_self (by decide) hmn0
  unfold launchTranspose
  rw [hrem, ok_bind, hpad, ok_bind, hint _ (by omega) (by omega), ok_bind, hwords, ok_bind, hbytes, ok_bind,
    hint _ (by omega) (by omega), ok_bind, hblocks, ok_bind, hint _ (by omega) (by omega), ok_bind]
  exact launchKernel_total _ _ _ _

theorem launchTransposeAndPack_total (hmn : Extent params.mn) (hk : 1 ≤ sfK ∧ sfK ≤ 512) (pdl : Bool) :
    ∃ launch, launchTransposeAndPack params sfK pdl = .ok launch ∧
      launch.kernel = "transpose_and_pack_fp32_into_ue8m0" := by
  obtain ⟨hk0, hk1⟩ := hk
  have hmn0 := hmn.1
  have hmn1 := hmn.2
  simp only [MachineInt.i32] at hmn1
  have hint : ∀ {x : Int} (name : String), 0 ≤ x → x ≤ 2147483647 → asI32 x name = .ok x := fun name h0 h1 =>
    asI32_eq_ok.mpr ⟨⟨h0, h1⟩, rfl⟩
  have hwords : (i32.mul 48 sfK : Native Int) = _ := IntType.mul_of_has (has_i32.mpr ⟨by omega, by omega⟩)
  have hbytes : (i32.mul (48 * sfK) 4 : Native Int) = _ := IntType.mul_of_has (has_i32.mpr ⟨by omega, by omega⟩)
  have hblocks := ceilDivI64_eq hmn0 (show (0 : Int) < 48 by decide) (by simp only [i64]; omega)
  have hgrid0 : 0 ≤ params.mn.val ⌈/⌉ (48 : Int) := ceilDiv_nonneg (by decide) hmn0
  have hgrid1 : params.mn.val ⌈/⌉ (48 : Int) ≤ params.mn.val := ceilDiv_le_self (by decide) hmn0
  unfold launchTransposeAndPack
  rw [hint _ (by omega) (by omega), ok_bind, hwords, ok_bind, hbytes, ok_bind, hint _ (by omega) (by omega), ok_bind,
    hblocks, ok_bind, hint _ (by omega) (by omega), ok_bind]
  exact launchKernel_total _ _ _ _

/-- Packed, a scale of at most 512 blocks has few enough elements for one grid. -/
theorem launchBroadcast_total (hmn : 0 ≤ params.mn.val ∧ params.mn.val ≤ i32.hi - 3) (hk : 1 ≤ sfK ∧ sfK ≤ 512)
    (hd : params.transformed.dtype = DTypeCode.packedUe8M0) :
    ∃ launch, launchBroadcast params sfK = .ok launch ∧
      launch.kernel = "broadcast_transpose_and_pack_fp32_into_ue8m0" := by
  obtain ⟨hk0, hk1⟩ := hk
  obtain ⟨hmn0, hmn1⟩ := hmn
  have haligned := tmaAlignedMn_total (show IsScale params.transformed.dtype from .inr hd) ⟨hmn0, hmn1⟩ "transformed"
  simp only [MachineInt.i32] at hmn1
  have hlimit : (i64.div i64.hi sfK : Native Int) = .ok (i64.hi / sfK) :=
    IntType.div_of_nonneg (by decide) (by decide) (by decide) (by omega)
  have hle : params.mn.val ≤ i64.hi / sfK := by
    rw [Int.le_ediv_iff_mul_le (by omega)]
    have := Int.mul_le_mul hmn1 hk1 (by omega) (by decide)
    simp only [i64]
    omega
  have hpacked := ceilDivI64_eq (show 0 ≤ sfK by omega) (show (0 : Int) < 4 by decide) (by simp only [i64]; omega)
  have hp0 : 0 ≤ sfK ⌈/⌉ (4 : Int) := ceilDiv_nonneg (by decide) (by omega)
  have hp1 : sfK ⌈/⌉ (4 : Int) ≤ 128 := (ceilDiv_le_iff (by decide)).mpr (by omega)
  have hcount0 : 0 ≤ params.mn.val * (sfK ⌈/⌉ (4 : Int)) := Int.mul_nonneg hmn0 hp0
  have hcount1 := Int.mul_le_mul hmn1 hp1 hp0 (by decide)
  have hcount : (i64.mul params.mn (sfK ⌈/⌉ (4 : Int)) : Native Int) = _ :=
    IntType.mul_of_has (has_i64.mpr ⟨by omega, by omega⟩)
  have hblocks := ceilDivI64_eq hcount0 (show (0 : Int) < 256 by decide) (by simp only [i64]; omega)
  have hgrid0 : 0 ≤ (params.mn.val * (sfK ⌈/⌉ (4 : Int))) ⌈/⌉ (256 : Int) := ceilDiv_nonneg (by decide) hcount0
  have hgrid1 : (params.mn.val * (sfK ⌈/⌉ (4 : Int))) ⌈/⌉ (256 : Int) ≤ 2147483647 :=
    (ceilDiv_le_iff (by decide)).mpr (by omega)
  have hgrid : asI32 ((params.mn.val * (sfK ⌈/⌉ (4 : Int))) ⌈/⌉ (256 : Int)) "broadcast pack grid x" = .ok _ :=
    asI32_eq_ok.mpr ⟨⟨hgrid0, hgrid1⟩, rfl⟩
  unfold launchBroadcast
  rw [hlimit, ok_bind, throwIf_neg (by omega), ok_bind, haligned, ok_bind, if_neg (by rw [hd]; decide), hpacked,
    ok_bind, hcount, ok_bind, hblocks, ok_bind, hgrid, ok_bind]
  exact launchKernel_total _ _ _ _

end

end DeepGemmRs.Raw.Gemm
