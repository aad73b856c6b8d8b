import DeepGemmRs.Raw.GemmTotal
import Mathlib.Algebra.Order.Ring.Unbundled.Rat
import Mathlib.Order.WithBot

/-!
# The choice of a layout on SM90

The cost of a layout over the rationals with `+∞`, and what the search makes of it.

* `sm90Cycles` : `num_cycles` in any numbers, `sm90NumCycles_eq` : with `double`s it is that of the
  heuristics, `sm90ExactCycles` : with rationals;
* `sm90ExactBestConfig` : `sm90_best_config` with the exact cost;
* `Filled` : as many stages as the shared memory holds, `filled_of_stages`;
* `Sm90Legal`, `Sm90Optimal` : what is asked of a configuration; `sm90ExactLayoutInfo_numWaves` : its waves;
* `sm90ExactBestConfig_legal_optimal` : **every configuration found is both.**
-/

namespace DeepGemmRs.Raw.Gemm

open Checked MachineInt Rounding

/-! ## Costs -/

/-- `num_cycles` before the penalty, in the numbers of `κ`; the bandwidths of the caches are those of
one SM and the limit of the L2 cache. -/
def sm90Cycles {κ : Type} [Mul κ] [Div κ] [LT κ] [DecidableLT κ] (ofInt : Int → κ) (l2PerSm l2Cap l1PerSm : κ)
    (k numSms numBlocks slots : Int) (layout : GemmLayout) : κ :=
  let l2Limit := l2PerSm * ofInt numSms
  let l2BandwidthPerCycle := if l2Cap < l2Limit then l2Cap else l2Limit
  let l1BandwidthPerCycle := l1PerSm * ofInt numSms
  let wgmmaM : Int := 64
  let elemSizeAb : Int := 1
  let elemSizeCd : Int := 2
  let numBytesL2Ab :=
    k * (layout.blockM.tdiv layout.clusterN + layout.blockN.tdiv layout.clusterM) * elemSizeAb
  let numBytesL1Ab := k * (layout.blockM + layout.blockN) * elemSizeAb
  let numBytesL1Tc :=
    k * (max wgmmaM layout.blockM + layout.blockN) * elemSizeAb + layout.blockM * layout.blockN * elemSizeCd
  let numBytesL1L2Cd := layout.blockM * layout.blockN * elemSizeCd
  let numL2Cycles := ofInt (numBytesL2Ab + numBytesL1L2Cd) * ofInt numBlocks / l2BandwidthPerCycle
  let numL1Cycles :=
    ofInt (numBytesL1Ab + numBytesL1Tc + numBytesL1L2Cd) * ofInt numBlocks / l1BandwidthPerCycle
  let waveEfficiency := ofInt numBlocks / ofInt slots
  (if numL1Cycles < numL2Cycles then numL2Cycles else numL1Cycles) / waveEfficiency

/-- The heuristics compute it with `double`s. -/
theorem sm90NumCycles_eq (k numSms numBlocks numWaves slots : Int) (layout : GemmLayout) :
    sm90NumCycles k numSms numBlocks numWaves slots layout =
      if layout.clusterSize > 1 ∧ numWaves ≤ 1 then 1.0 / 0.0
      else sm90Cycles Float.ofInt 64.0 (8e6 / 1.3e3) 128.0 k numSms numBlocks slots layout := rfl

/-- `num_cycles`, over the rationals with `+∞`. -/
def sm90ExactCycles (k numSms numBlocks numWaves slots : Int) (layout : GemmLayout) : WithTop ℚ :=
  if layout.clusterSize > 1 ∧ numWaves ≤ 1 then ⊤
  else (sm90Cycles (fun x : Int => (x : ℚ)) 64 (8000000 / 1300) 128 k numSms numBlocks slots layout : ℚ)

/-- `LayoutInfo` with the exact cost. -/
structure ExactLayoutInfo where
  numWaves : Int
  lastWaveUtil : Int
  numCycles : WithTop ℚ
  layout : GemmLayout

/-- `sm90_layout_info`. -/
def sm90ExactLayoutInfo (m n k numSms : Int) (layout : GemmLayout) : Native ExactLayoutInfo := do
  let blocksM ← ceilDivInt m layout.blockM
  let blocksN ← ceilDivInt n layout.blockN
  let numBlocks ← i64.mul blocksM blocksN
  let waves ← ceilDivI64 numBlocks numSms
  let numWaves ← asI32 waves "SM90 waves"
  let lastBlocks ← i64.rem numBlocks numSms
  let numLastBlocks := i32.cast lastBlocks
  let lastWaveUtil := if numLastBlocks = 0 then numSms else numLastBlocks
  let slots ← i32.mul numWaves numSms
  .ok { numWaves, lastWaveUtil, numCycles := sm90ExactCycles k numSms numBlocks numWaves slots layout, layout }

/-- `sm90_best_config`. -/
def sm90ExactBestConfig (m n k numSms : Int) : Native GemmConfig := do
  match ← sm90LayoutCandidates m n k numSms with
  | [] => .error (.invalid "no SM90 FP8 GEMM heuristic candidates")
  | first :: rest =>
    let info ← Search.best (sm90ExactLayoutInfo m n k numSms) (fun info best => info.numCycles < best.numCycles)
      first rest
    let storage ← sm90StorageConfig info.layout
    let pipeline ← sm90PipelineConfig k info.layout storage
    .ok { layout := info.layout, storage, pipeline, launch := sm90LaunchConfig info.layout }

section

variable {m n k numSms : Int} {layout : GemmLayout}

/-- Apart from the cost, the information is that of the heuristics. -/
theorem sm90ExactLayoutInfo_of_info {info : LayoutInfo} (h : sm90LayoutInfo m n k numSms layout = .ok info) :
    ∃ exact, sm90ExactLayoutInfo m n k numSms layout = .ok exact ∧ exact.numWaves = info.numWaves ∧
      exact.lastWaveUtil = info.lastWaveUtil ∧ exact.layout = info.layout := by
  simp only [sm90LayoutInfo, bind_eq_ok, Except.ok.injEq] at h
  obtain ⟨blocksM, hm, blocksN, hn, numBlocks, hb, waves, hw, numWaves, hw32, lastBlocks, hl, slots, hs, rfl⟩ := h
  refine ⟨⟨numWaves, if i32.cast lastBlocks = 0 then numSms else i32.cast lastBlocks,
    sm90ExactCycles k numSms numBlocks numWaves slots layout, layout⟩, ?_, rfl, rfl, rfl⟩
  simp only [sm90ExactLayoutInfo, bind_eq_ok]
  exact ⟨_, hm, _, hn, _, hb, _, hw, _, hw32, _, hl, _, hs, rfl⟩

/-- The penalty falls on clusters of a single wave only. -/
theorem sm90ExactLayoutInfo_ok {info : ExactLayoutInfo} (h : sm90ExactLayoutInfo m n k numSms layout = .ok info) :
    info.layout = layout ∧ (info.numCycles = ⊤ ↔ layout.clusterSize > 1 ∧ info.numWaves ≤ 1) := by
  simp only [sm90ExactLayoutInfo, bind_eq_ok, Except.ok.injEq] at h
  obtain ⟨_, -, _, -, _, -, _, -, _, -, _, -, _, -, rfl⟩ := h
  refine ⟨rfl, ?_⟩
  show sm90ExactCycles _ _ _ _ _ _ = ⊤ ↔ _
  unfold sm90ExactCycles
  split
  · next hc => exact iff_of_true rfl hc
  · next hc => exact iff_of_false (WithTop.coe_ne_top) hc

/-- The waves are what the blocks of the output make, a block on each SM at a time. -/
theorem sm90ExactLayoutInfo_numWaves {info : ExactLayoutInfo} (h : sm90ExactLayoutInfo m n k numSms layout = .ok info) :
    0 < numSms ∧ info.numWaves = ((m ⌈/⌉ layout.blockM) * (n ⌈/⌉ layout.blockN)) ⌈/⌉ numSms := by
  simp only [sm90ExactLayoutInfo, bind_eq_ok, Except.ok.injEq] at h
  obtain ⟨blocksM, hm, blocksN, hn, numBlocks, hb, waves, hw, numWaves, hw32, _, -, _, -, rfl⟩ := h
  obtain ⟨-, -, rfl⟩ := ceilDivInt_ok hm
  obtain ⟨-, -, rfl⟩ := ceilDivInt_ok hn
  obtain ⟨-, rfl⟩ := IntType.mul_eq_ok.mp hb
  obtain ⟨-, hsms, rfl⟩ := ceilDivI64_ok hw
  obtain ⟨-, rfl⟩ := asI32_eq_ok.mp hw32
  exact ⟨hsms, rfl⟩

end

/-! ## Stages -/

/-- The shared memory holds the stages, at most `maxStages` of them, and not one more. -/
structure Filled (perStage maxStages : Int) (pipeline : PipelineConfig) : Prop where
  smem : pipeline.smemSize ≤ kSmemCapacity
  stages : pipeline.numStages ≤ maxStages
  maximal : pipeline.numStages = maxStages ∨ kSmemCapacity < pipeline.smemSize + perStage

/-- The division of the room that is left, which truncates towards zero, fills the memory wherever it
leaves a stage at all. -/
theorem filled_of_stages {extra perStage maxStages : Int} {pipeline : PipelineConfig} (hper : 0 < perStage)
    (hstages : pipeline.numStages = min ((kSmemCapacity - extra).tdiv perStage) maxStages)
    (hsize : pipeline.smemSize = extra + pipeline.numStages * perStage) (hone : 1 ≤ pipeline.numStages) :
    Filled perStage maxStages pipeline := by
  have hroom : 0 ≤ kSmemCapacity - extra := by
    by_contra hneg
    have hover : 0 ≤ (extra - kSmemCapacity).tdiv perStage := Int.tdiv_nonneg (by omega) hper.le
    rw [show kSmemCapacity - extra = -(extra - kSmemCapacity) by omega, Int.neg_tdiv] at hstages
    omega
  rw [Int.tdiv_eq_ediv_of_nonneg hroom] at hstages
  have hle := Int.ediv_mul_le (kSmemCapacity - extra) hper.ne'
  have hlt := Int.lt_ediv_add_one_mul_self (kSmemCapacity - extra) hper
  rw [Int.add_mul, Int.one_mul] at hlt
  have hmul : pipeline.numStages * perStage ≤ (kSmemCapacity - extra) / perStage * perStage :=
    Int.mul_le_mul_of_nonneg_right (by omega) hper.le
  refine ⟨by omega, by omega, ?_⟩
  by_cases hmax : pipeline.numStages = maxStages
  · exact .inl hmax
  · rw [show pipeline.numStages = (kSmemCapacity - extra) / perStage by omega] at hsize
    exact .inr (by omega)

section

variable {m n k numSms : Int} {layout : GemmLayout}

theorem sm90PerStage_pos (hc : Candidate numSms layout) : 0 < sm90PerStage layout := by
  obtain ⟨hbm0, hbm1⟩ := hc.blockM
  obtain ⟨-, hbn0, hbn1⟩ := hc.blockN
  have hsfa : layout.blockM * 4 ≤ alignUp (layout.blockM * 4) 128 := le_alignUp (by decide)
  unfold sm90PerStage
  omega

/-- The stages of a pipeline on SM90, and the shared memory they take beside the rest. -/
theorem sm90PipelineConfig_stages (hc : Candidate numSms layout) {storage : StorageConfig}
    (hm : storage.loadBlockM = layout.blockM) (hn : storage.loadBlockN = layout.blockN) {pipeline : PipelineConfig}
    (h : sm90PipelineConfig k layout storage = .ok pipeline) :
    ∃ extra, pipeline.numStages = min ((kSmemCapacity - extra).tdiv (sm90PerStage layout)) 16 ∧
      pipeline.smemSize = extra + pipeline.numStages * sm90PerStage layout := by
  obtain ⟨hbm0, hbm1⟩ := hc.blockM
  have hsfa := alignInt_eq (show 0 ≤ layout.blockM * 4 by omega) (show (0 : Int) < 128 by decide)
    (by simp only [MachineInt.i32]; omega)
  simp only [sm90PipelineConfig, bind_eq_ok, hsfa, hm, hn, hc.blockK, Except.ok.injEq, exists_eq_left',
    IntType.mul_eq_ok, IntType.add_eq_ok, IntType.sub_eq_ok] at h
  obtain ⟨_, -, _, -, _, ⟨-, rfl⟩, _, ⟨-, rfl⟩, _, -, extra, ⟨-, rfl⟩, _, ⟨-, rfl⟩, _, ⟨-, rfl⟩, _, ⟨-, rfl⟩, rfl⟩ := h
  exact ⟨_, rfl, rfl⟩

/-- What the filter of the candidates asks of their stages. -/
structure StagesKept (layout : GemmLayout) (pipeline : PipelineConfig) : Prop where
  three : 3 ≤ pipeline.numStages
  four : layout.blockM * layout.blockN < 128 * 192 → 4 ≤ pipeline.numStages

/-- A candidate that is kept has the stages the filter asks for. -/
theorem stages_of_sm90Keeps (h : sm90Keeps k layout = .ok true) {storage : StorageConfig}
    (hs : sm90StorageConfig layout = .ok storage) {pipeline : PipelineConfig}
    (hp : sm90PipelineConfig k layout storage = .ok pipeline) : StagesKept layout pipeline := by
  unfold sm90Keeps at h
  split at h
  · cases h
  split at h
  · cases h
  rw [hs, ok_bind] at h
  split at h
  · cases h
  rw [hp, ok_bind, Except.ok.injEq, decide_eq_true_eq, not_or, not_and, not_lt, not_lt] at h
  exact ⟨h.1, h.2⟩

/-- The filter does not look at the cluster. -/
theorem sm90Keeps_single (k : Int) (layout : GemmLayout) :
    sm90Keeps k { layout with clusterM := 1, clusterN := 1 } = sm90Keeps k layout := rfl

/-- Every block that is considered is considered without a cluster. -/
theorem sm90Layouts_single (h : layout ∈ sm90Layouts m numSms) :
    { layout with clusterM := 1, clusterN := 1 } ∈ sm90Layouts m numSms := by
  simp only [sm90Layouts, List.mem_flatMap, List.mem_map] at h ⊢
  obtain ⟨c, -, blockM, hm, blockN, hn, rfl⟩ := h
  refine ⟨(1, 1), ?_, blockM, hm, blockN, hn, rfl⟩
  simp [sm90Clusters, clusters]

/-! ## Configurations -/

/-- A configuration within the limits of the device. -/
structure Sm90Legal (numSms : Int) (config : GemmConfig) : Prop where
  filled : Filled (sm90PerStage config.layout) 16 config.pipeline
  stages : StagesKept config.layout config.pipeline
  cluster : config.layout.clusterSize = 1 ∨ config.layout.clusterSize = 2
  sms : config.layout.clusterSize ∣ numSms

/-- The cheapest of the candidates; a cluster is chosen for two waves at least. -/
structure Sm90Optimal (m n k numSms : Int) (layout : GemmLayout) : Prop where
  cheapest : ∃ candidates info, sm90LayoutCandidates m n k numSms = .ok candidates ∧ layout ∈ candidates ∧
    sm90ExactLayoutInfo m n k numSms layout = .ok info ∧
    ∀ c ∈ candidates, ∃ other, sm90ExactLayoutInfo m n k numSms c = .ok other ∧ info.numCycles ≤ other.numCycles
  waves : layout.clusterSize = 2 → ∀ info, sm90ExactLayoutInfo m n k numSms layout = .ok info → 2 ≤ info.numWaves

/-- A cluster is chosen only where the blocks of the output outnumber the SMs. -/
theorem Sm90Optimal.blocks (h : Sm90Optimal m n k numSms layout) (hsize : layout.clusterSize = 2) :
    numSms < (m ⌈/⌉ layout.blockM) * (n ⌈/⌉ layout.blockN) := by
  obtain ⟨_, info, -, -, hinfo, -⟩ := h.cheapest
  obtain ⟨hsms, hwaves⟩ := sm90ExactLayoutInfo_numWaves hinfo
  have htwo := h.waves hsize info hinfo
  by_contra hfew
  have hone : info.numWaves ≤ 1 := by
    rw [hwaves, ceilDiv_le_iff hsms]
    omega
  omega

/-- A layout that is cheapest of all cannot be one with a penalty: without its cluster it is a
candidate as well, and has none. -/
theorem sm90_waves_of_cheapest {candidates : List GemmLayout} {info : ExactLayoutInfo}
    (hkeep : sm90LayoutCandidates m n k numSms = .ok candidates) (hmem : layout ∈ candidates)
    (hinfo : sm90ExactLayoutInfo m n k numSms layout = .ok info)
    (hle : ∀ c ∈ candidates, ∃ other, sm90ExactLayoutInfo m n k numSms c = .ok other ∧
      info.numCycles ≤ other.numCycles) (hsize : layout.clusterSize = 2) : 2 ≤ info.numWaves := by
  obtain ⟨hlayout, hkept⟩ := (Search.mem_keep hkeep layout).mp hmem
  have hsingle := (Search.mem_keep hkeep _).mpr ⟨sm90Layouts_single hlayout, (sm90Keeps_single k layout).trans hkept⟩
  obtain ⟨other, hother, hcost⟩ := hle _ hsingle
  have hfinite : other.numCycles ≠ ⊤ := by
    intro htop
    obtain ⟨hone, -⟩ := (sm90ExactLayoutInfo_ok hother).2.mp htop
    exact absurd (show (1 : Int) * 1 > 1 from hone) (by decide)
  by_contra hwaves
  have htop := (sm90ExactLayoutInfo_ok hinfo).2.mpr ⟨by omega, by omega⟩
  rw [htop] at hcost
  exact hfinite (top_le_iff.mp hcost)

/-- **A configuration that is found stays within the shared memory, with as many stages as fit and no
fewer than the filter asks for, divides the SMs into its clusters, has a cluster only for two waves or
more, and no candidate is cheaper.** -/
theorem sm90ExactBestConfig_legal_optimal {config : GemmConfig}
    (h : sm90ExactBestConfig m n k numSms = .ok config) :
    Sm90Legal numSms config ∧ Sm90Optimal m n k numSms config.layout := by
  obtain ⟨candidates, hkeep, h⟩ := bind_eq_ok.mp h
  cases candidates with
  | nil => cases h
  | cons first rest =>
    simp only [bind_eq_ok, Except.ok.injEq] at h
    obtain ⟨info, hbest, storage, hstorage, pipeline, hpipeline, rfl⟩ := h
    have hleast : Search.FirstLeast (sm90ExactLayoutInfo m n k numSms) ExactLayoutInfo.numCycles (first :: rest) info :=
      Search.best_firstLeast (fun _ => True) (fun _ _ _ _ => trivial) (fun i j _ _ => decide_eq_true_iff) hbest
    obtain ⟨layout, hmem, hinfo⟩ := Search.best_measured hbest
    obtain rfl := (sm90ExactLayoutInfo_ok hinfo).1
    obtain ⟨hlayout, hkept⟩ := (Search.mem_keep hkeep _).mp hmem
    have hc := mem_sm90Layouts hlayout
    have hload : storage.loadBlockM = info.layout.blockM ∧ storage.loadBlockN = info.layout.blockN := by
      obtain ⟨_, hs, -, hm, hn⟩ := sm90StorageConfig_total hc
      obtain rfl := Except.ok.inj (hs.symm.trans hstorage)
      exact ⟨hm, hn⟩
    have hstages := stages_of_sm90Keeps hkept hstorage hpipeline
    obtain ⟨extra, hnum, hsize⟩ := sm90PipelineConfig_stages hc hload.1 hload.2 hpipeline
    refine ⟨⟨?_, hstages, hc.clusterSize, Int.dvd_of_emod_eq_zero hc.waves⟩, ⟨?_, ?_⟩⟩
    · exact filled_of_stages (sm90PerStage_pos hc) hnum hsize (le_trans (by decide) hstages.three)
    · exact ⟨first :: rest, info, hkeep, hmem, hinfo, hleast.least⟩
    · intro hsize other hother
      obtain rfl := Except.ok.inj (hinfo.symm.trans hother)
      exact sm90_waves_of_cheapest hkeep hmem hinfo hleast.least hsize

/-- Some configuration is found. -/
theorem sm90ExactBestConfig_total (h : GemmSizes m n k numSms) : Succeeds (sm90ExactBestConfig m n k numSms) := by
  obtain ⟨candidates, hkeep, hmem, hcandidate⟩ := sm90LayoutCandidates_total h
  unfold sm90ExactBestConfig
  rw [hkeep, ok_bind]
  cases candidates with
  | nil => cases hmem
  | cons first rest =>
    have hmeasured : ∀ layout ∈ first :: rest, Succeeds (sm90ExactLayoutInfo m n k numSms layout) := by
      intro layout hl
      obtain ⟨info, hinfo⟩ := sm90LayoutInfo_total h (hcandidate layout hl)
      obtain ⟨exact, hexact, -⟩ := sm90ExactLayoutInfo_of_info hinfo
      exact ⟨exact, hexact⟩
    have hchosen : Succeeds (Search.best (sm90ExactLayoutInfo m n k numSms)
        (fun info best => info.numCycles < best.numCycles) first rest) := Search.best_succeeds hmeasured
    obtain ⟨info, hbest⟩ := hchosen
    obtain ⟨layout, hl, hinfo⟩ := Search.best_measured hbest
    obtain rfl := (sm90ExactLayoutInfo_ok hinfo).1
    obtain ⟨storage, hstorage, -, hm, hn⟩ := sm90StorageConfig_total (hcandidate _ hl)
    obtain ⟨_, _, -, hpipeline, -⟩ := sm90PipelineConfig_total (hcandidate _ hl) h.extentK h.sizeK.2 hm hn
    exact ⟨_, bind_eq_ok.mpr ⟨info, hbest, bind_eq_ok.mpr ⟨storage, hstorage, bind_eq_ok.mpr ⟨_, hpipeline, rfl⟩⟩⟩⟩

end

theorem sm90ExactBestConfig_legal_optimal_4096 :
    ∃ config, sm90ExactBestConfig 4096 4096 7168 132 = .ok config ∧ Sm90Legal 132 config ∧
      Sm90Optimal 4096 4096 7168 132 config.layout := by
  have hsizes : GemmSizes 4096 4096 7168 132 := ⟨by decide, by decide, by decide, by decide, by decide⟩
  obtain ⟨config, h⟩ := sm90ExactBestConfig_total hsizes
  exact ⟨config, h, sm90ExactBestConfig_legal_optimal h⟩

end DeepGemmRs.Raw.Gemm
