import DeepGemmRs.Raw.Builds
import DeepGemmRs.Raw.NumSms

/-!
# Launches within the limits of the device

* `Launch.Fits` : a grid of one row, blocks of at most 1024 threads, shared memory that is there and is opted
  into, clusters that divide the grid;
* `KernelText.Takes.within` : the resources of an accepted text, the schedulers apart;
* `schedulerCapacity` : the largest batch whose scheduler has the shared memory it asks for;
* `launches_fit_iff` : **the launches of an accepted request fit, unless it schedules a larger batch**.
-/

namespace DeepGemmRs.Raw

open Checked MachineInt Rounding CApi

/-- The driver takes the launch: `kSmemCapacity` is the shared memory of a block on both architectures. -/
structure Launch.Fits (launch : Launch) : Prop where
  gridDimX : 1 ≤ launch.config.gridDimX ∧ launch.config.gridDimX ≤ i32.hi
  gridDimY : launch.config.gridDimY = 1
  blockDimX : 1 ≤ launch.config.blockDimX ∧ launch.config.blockDimX ≤ 1024
  sharedMem : 0 ≤ launch.config.sharedMemBytes ∧ launch.config.sharedMemBytes ≤ Gemm.kSmemCapacity
  optIn : launch.config.maxDynamicSharedSize.getD 0 = launch.config.sharedMemBytes
  cluster : ∀ clusterDim, launch.config.clusterDim = some clusterDim → clusterDim = 2 ∧ 2 ∣ launch.config.gridDimX

/-- The part of it that does not depend on the length of the grid. -/
structure Resources.Within (r : Resources) : Prop where
  gridDimY : r.gridDimY = 1
  blockDimX : 1 ≤ r.blockDimX ∧ r.blockDimX ≤ 1024
  sharedMem : 0 ≤ r.sharedMemBytes ∧ r.sharedMemBytes ≤ Gemm.kSmemCapacity
  optIn : r.maxDynamicSharedSize.getD 0 = r.sharedMemBytes

theorem Resources.within_of {numThreads smemSize clusterDim : Int} (ht : 1 ≤ numThreads ∧ numThreads ≤ 1024)
    (hs : 0 ≤ smemSize ∧ smemSize ≤ Gemm.kSmemCapacity) : (Resources.of numThreads smemSize clusterDim).Within := by
  have hcap : smemSize ≤ 232448 := hs.2
  have hthreads : u32.cast numThreads = numThreads := IntType.cast_of_has (has_u32.mpr ⟨by omega, by omega⟩)
  have hbytes : u32.cast smemSize = smemSize := IntType.cast_of_has (has_u32.mpr ⟨by omega, by omega⟩)
  refine ⟨rfl, ?_, ?_, ?_⟩
  · show 1 ≤ u32.cast numThreads ∧ u32.cast numThreads ≤ 1024
    rwa [hthreads]
  · show 0 ≤ u32.cast smemSize ∧ u32.cast smemSize ≤ Gemm.kSmemCapacity
    rwa [hbytes]
  · show (if smemSize > 0 then some smemSize else none).getD 0 = u32.cast smemSize
    rw [hbytes]
    split
    · rfl
    · show 0 = smemSize
      omega

/-! ## Shared memory -/

theorem sm90MqaSmemSize_le {numHeads headDim smemSize : Int} (hshape : Sm90Shape numHeads headDim)
    (h : sm90MqaSmemSize .machine numHeads headDim (128 / numHeads) 256 DTypeCode.fp8E4M3 DTypeCode.f32
      DTypeCode.fp8E4M3 DTypeCode.f32 = .ok smemSize) : 0 ≤ smemSize ∧ smemSize ≤ Gemm.kSmemCapacity := by
  obtain ⟨hheads, hdim⟩ := hshape
  rcases hheads with rfl | rfl <;> rcases hdim with rfl | rfl | rfl <;> cases h <;> decide

theorem sm90PagedSmemSize_le {nextN numHeads headDim smemSize : Int} (hn : nextN = 1 ∨ nextN = 2)
    (hshape : Sm90Shape numHeads headDim)
    (h : sm90PagedSmemSize .machine nextN numHeads headDim 64 DTypeCode.fp8E4M3 DTypeCode.f32 = .ok smemSize) :
    0 ≤ smemSize ∧ smemSize ≤ Gemm.kSmemCapacity := by
  obtain ⟨hheads, hdim⟩ := hshape
  rcases hn with rfl | rfl <;> rcases hheads with rfl | rfl <;> rcases hdim with rfl | rfl | rfl <;> cases h <;> decide

namespace Gemm

variable {k numSms : Int} {config : GemmConfig}

theorem alignInt_nonneg {value alignment aligned : Int} (h : alignInt value alignment = .ok aligned) : 0 ≤ aligned := by
  obtain ⟨_, -, h⟩ := bind_eq_ok.mp h
  obtain ⟨hfit, rfl⟩ := asI32_eq_ok.mp h
  exact hfit.1

/-- A pipeline on SM90 takes memory for its stages at least. -/
theorem sm90Pipeline_stages_le {layout : GemmLayout} (hc : Candidate numSms layout) {storage : StorageConfig}
    (hm : storage.loadBlockM = layout.blockM) (hn : storage.loadBlockN = layout.blockN) {pipeline : PipelineConfig}
    (h : sm90PipelineConfig k layout storage = .ok pipeline) :
    pipeline.numStages * sm90PerStage layout ≤ pipeline.smemSize := by
  obtain ⟨hbm0, hbm1⟩ := hc.blockM
  have hsfa := alignInt_eq (show 0 ≤ layout.blockM * 4 by omega) (show (0 : Int) < 128 by decide)
    (by simp only [MachineInt.i32]; omega)
  simp only [sm90PipelineConfig, bind_eq_ok, hsfa, hm, hn, hc.blockK, Except.ok.injEq, exists_eq_left',
    IntType.mul_eq_ok, IntType.add_eq_ok, IntType.sub_eq_ok] at h
  obtain ⟨smemCd, hcd, _, -, _, ⟨-, rfl⟩, _, ⟨-, rfl⟩, smemSfb, hsfb, extra, ⟨-, rfl⟩, _, ⟨-, rfl⟩, _, ⟨-, rfl⟩, _,
    ⟨-, rfl⟩, rfl⟩ := h
  have hcd0 := alignInt_nonneg hcd
  have hsfb0 := alignInt_nonneg hsfb
  apply le_add_of_nonneg_left
  omega

theorem Sm90Config.within (h : Sm90Config k numSms config) :
    (1 ≤ config.launch.numThreads ∧ config.launch.numThreads ≤ 1024) ∧
      0 ≤ config.pipeline.smemSize ∧ config.pipeline.smemSize ≤ kSmemCapacity := by
  have hload : config.storage.loadBlockM = config.layout.blockM ∧ config.storage.loadBlockN = config.layout.blockN := by
    obtain ⟨storage, hs, -, hm, hn⟩ := sm90StorageConfig_total h.candidate
    obtain rfl := Except.ok.inj (hs.symm.trans h.storage)
    exact ⟨hm, hn⟩
  have hstages := (stages_of_sm90Keeps h.kept h.storage h.pipeline).three
  have hper := sm90PerStage_pos h.candidate
  obtain ⟨extra, hnum, hsize⟩ := sm90PipelineConfig_stages h.candidate hload.1 hload.2 h.pipeline
  have hfilled := filled_of_stages hper hnum hsize (le_trans (by decide) hstages)
  have hnonneg : 0 ≤ config.pipeline.numStages * sm90PerStage config.layout := Int.mul_nonneg (by omega) hper.le
  refine ⟨?_, hnonneg.trans (sm90Pipeline_stages_le h.candidate hload.1 hload.2 h.pipeline), hfilled.smem⟩
  rw [h.launch, sm90LaunchConfig]
  dsimp only
  split
  · decide
  · decide

/-- A pipeline on SM100 takes memory for its stages at least. -/
theorem sm100Pipeline_stages_le {layout : GemmLayout} (hc : Candidate numSms layout) {storage : StorageConfig}
    (hs : sm100StorageConfig layout = .ok storage) {pipeline : PipelineConfig}
    (hp : sm100PipelineConfig layout storage = .ok pipeline) :
    pipeline.numStages * sm100PerStage layout storage ≤ pipeline.smemSize := by
  obtain ⟨other, hs', hof⟩ := sm100StorageConfig_total hc
  obtain rfl : storage = other := Except.ok.inj (hs.symm.trans hs')
  obtain ⟨-, -, hstoreM, hstoreN⟩ := sm100StorageConfig_load hs
  have hmode : storage.swizzleCdMode = 128 ∨ storage.swizzleCdMode = 64 ∨ storage.swizzleCdMode = 32 ∨
      storage.swizzleCdMode = 16 := hof.swizzleCd
  obtain ⟨hbm0, hbm1⟩ := hc.blockM
  obtain ⟨-, hbn0, hbn1⟩ := hc.blockN
  have hextra : 0 ≤ sm100SmemExtra layout storage := by
    unfold sm100SmemExtra
    rw [hstoreM, hstoreN]
    split
    · omega
    · have hmin : 0 ≤ min 128 layout.blockM := le_min (by decide) (by omega)
      rcases hmode with hmode | hmode | hmode | hmode <;> rw [hmode] <;> omega
  rw [sm100PipelineConfig, sm100SfAlignedBlocks_total hc, ok_bind, Except.ok.injEq] at hp
  have hsize : pipeline.smemSize =
      sm100SmemExtra layout storage + pipeline.numStages * sm100PerStage layout storage := by
    rw [← hp, hc.blockK]
    rfl
  rw [hsize]
  exact le_add_of_nonneg_left hextra

theorem Sm100Config.within (h : Sm100Config numSms config) :
    (1 ≤ config.launch.numThreads ∧ config.launch.numThreads ≤ 1024) ∧
      0 ≤ config.pipeline.smemSize ∧ config.pipeline.smemSize ≤ kSmemCapacity := by
  obtain ⟨hfilled, hstages⟩ := sm100_filled h.candidate h.order h.storage h.pipeline
  obtain ⟨hloadM, hloadN, -⟩ := sm100StorageConfig_load h.storage
  obtain ⟨hbm0, hbm1⟩ := h.candidate.blockM
  obtain ⟨-, hbn0, hbn1⟩ := h.candidate.blockN
  have hloadM' := (tdiv_cluster_bounds ⟨by omega, hbm1⟩ h.candidate.clusterN).1
  have hloadN' := (tdiv_cluster_bounds ⟨by omega, hbn1⟩ h.candidate.clusterM).1
  rw [← hloadM] at hloadM'
  rw [← hloadN] at hloadN'
  have hsfa : config.layout.blockM ≤ alignUp config.layout.blockM 128 := le_alignUp (by decide)
  have hsfb : config.layout.blockN ≤ alignUp config.layout.blockN 128 := le_alignUp (by decide)
  have hper : 0 ≤ sm100PerStage config.layout config.storage := by
    unfold sm100PerStage
    omega
  have hnonneg : 0 ≤ config.pipeline.numStages * sm100PerStage config.layout config.storage :=
    Int.mul_nonneg (by omega) hper
  refine ⟨by rw [h.launch]; decide, ?_, hfilled.smem⟩
  exact hnonneg.trans (sm100Pipeline_stages_le h.candidate h.storage h.pipeline)

end Gemm

/-- What a block of an accepted text takes is there, the schedulers apart. -/
theorem KernelText.Takes.within {kernel : KernelText} {r : Resources} (ha : kernel.Accepted) (h : kernel.Takes r)
    (hfamily : ¬ kernel.family.IsScheduler) : r.Within := by
  cases kernel with
  | sm90MqaLogits =>
    obtain ⟨hshape, rfl, rfl, ⟨rfl, rfl⟩, -⟩ := ha
    obtain ⟨smemSize, hsize, rfl⟩ := h
    exact Resources.within_of (by decide) (sm90MqaSmemSize_le hshape hsize)
  | sm90PagedMqaLogits =>
    obtain ⟨hn, hshape, rfl, ⟨rfl, rfl⟩, -⟩ := ha
    obtain ⟨smemSize, hsize, rfl⟩ := h
    exact Resources.within_of (by decide) (sm90PagedSmemSize_le hn hshape hsize)
  | sm100MqaLogits | sm100PagedMqaLogits =>
    obtain ⟨⟨rfl, rfl⟩, -⟩ := ha
    subst h
    exact Resources.within_of (by decide) (by decide)
  | cleanLogits =>
    obtain ⟨rfl, rfl, -⟩ := ha
    subst h
    exact Resources.within_of (by decide) (by decide)
  | sm90Metadata => exact absurd (.inl rfl) hfamily
  | sm100Metadata => exact absurd (.inr rfl) hfamily
  | sm90Gemm | sm100Gemm =>
    subst h
    exact Resources.within_of ha.within.1 ha.within.2
  | transpose _ _ sfK =>
    obtain ⟨rfl, rfl, hk0, hk1⟩ := ha
    subst h
    have hr0 := Int.emod_nonneg sfK (show (2 : Int) ≠ 0 by decide)
    exact Resources.within_of (by decide) ⟨by omega, by unfold Gemm.kSmemCapacity; omega⟩
  | transposeAndPack _ _ sfK =>
    obtain ⟨rfl, rfl, hk0, hk1⟩ := ha
    subst h
    exact Resources.within_of (by decide) ⟨by omega, by unfold Gemm.kSmemCapacity; omega⟩
  | broadcast | broadcastAndPack =>
    subst h
    exact Resources.within_of (by decide) (by decide)

/-! ## Clusters and grids -/

/-- A GEMM for that many SMs. -/
def KernelText.IsGemmOn (numSms : Int) : KernelText → Prop
  | sm90Gemm _ _ _ sms | sm100Gemm _ _ _ _ _ sms => sms = numSms
  | _ => False

theorem cluster_of_size {clusterSize numSms numThreads smemSize : Int} (h : clusterSize = 1 ∨ clusterSize = 2)
    (hwaves : numSms % clusterSize = 0) {clusterDim : Int}
    (hr : (Resources.of numThreads smemSize clusterSize).clusterDim = some clusterDim) : clusterDim = 2 ∧ 2 ∣ numSms := by
  rcases h with rfl | rfl
  · cases hr
  · cases hr
    exact ⟨rfl, Int.dvd_of_emod_eq_zero hwaves⟩

/-- Only a GEMM has clusters, of two blocks, and its SMs are divided into them. -/
theorem KernelText.Takes.cluster {kernel : KernelText} {r : Resources} (ha : kernel.Accepted) (h : kernel.Takes r)
    {clusterDim : Int} (hr : r.clusterDim = some clusterDim) :
    clusterDim = 2 ∧ ∃ numSms, kernel.IsGemmOn numSms ∧ 2 ∣ numSms := by
  cases kernel with
  | sm90Gemm _ _ config numSms | sm100Gemm _ _ _ _ config numSms =>
    subst h
    obtain ⟨hdim, hdvd⟩ := cluster_of_size ha.candidate.clusterSize ha.candidate.waves hr
    exact ⟨hdim, numSms, rfl, hdvd⟩
  | sm90MqaLogits | sm90PagedMqaLogits =>
    obtain ⟨_, -, rfl⟩ := h
    cases hr
  | sm100Metadata =>
    obtain ⟨_, rfl⟩ := h
    cases hr
  | sm100MqaLogits | sm100PagedMqaLogits | cleanLogits | sm90Metadata | transpose | transposeAndPack | broadcast |
    broadcastAndPack =>
    subst h
    cases hr

/-- The grid has a block, no more than the driver counts, and for a GEMM one for each SM. -/
structure Build.Gridded (build : Build) : Prop where
  gridDimX : 1 ≤ build.launch.config.gridDimX ∧ build.launch.config.gridDimX ≤ i32.hi
  gemm : ∀ numSms, build.text.IsGemmOn numSms → build.launch.config.gridDimX = numSms

theorem Build.Kept.fits_iff {build : Build} (h : build.Kept) (hgrid : build.Gridded) :
    build.launch.Fits ↔ build.launch.resources.Within := by
  constructor
  · intro hfits
    exact ⟨hfits.gridDimY, hfits.blockDimX, hfits.sharedMem, hfits.optIn⟩
  · intro hwithin
    refine ⟨hgrid.gridDimX, hwithin.gridDimY, hwithin.blockDimX, hwithin.sharedMem, hwithin.optIn, ?_⟩
    intro clusterDim hcluster
    obtain ⟨hdim, numSms, hgemm, hdvd⟩ := h.takes.cluster h.accepted hcluster
    exact ⟨hdim, hgrid.gemm numSms hgemm ▸ hdvd⟩

/-- The current device has SMs. -/
def HasSms (runtime : Runtime) : Prop :=
  ∀ device, runtime.currentDeviceInfo = .ok device → 0 < device.numSms.val

section

variable {runtime : Runtime} {request : Request} {builds : List Build}

/-- A number of SMs is the length of a grid. -/
theorem gridDimX_of_numSms {numSms : Int} (h : 0 < numSms ∧ numSms ≤ i32.hi) {launch : Launch} (hgrid : HasGrid numSms launch) :
    launch.config.gridDimX = numSms := by
  obtain ⟨h0, h1⟩ := h
  simp only [i32] at h1
  rw [hgrid, IntType.cast_of_has (has_u32.mpr ⟨by omega, by omega⟩)]

theorem effectiveNumSms_pos (hsms : HasSms runtime) {numSms : Int} (h : runtime.effectiveNumSms = .ok numSms) :
    0 < numSms ∧ numSms ≤ i32.hi := by
  unfold Runtime.effectiveNumSms at h
  split at h
  · next hpos =>
    cases h
    exact ⟨hpos, runtime.numSmsOverride.2.2⟩
  · obtain ⟨device, hdevice, h⟩ := bind_eq_ok.mp h
    cases h
    exact ⟨hsms device hdevice, device.numSms.2.2⟩

theorem gridded_of_numSms {numSms : Int} (h : 0 < numSms ∧ numSms ≤ i32.hi) {text : KernelText} {launch : Launch}
    (hgrid : HasGrid numSms launch) (htext : ∀ sms, text.IsGemmOn sms → numSms = sms) : Build.Gridded ⟨text, launch⟩ := by
  have hgrid := gridDimX_of_numSms h hgrid
  refine ⟨?_, fun sms hgemm => hgrid.trans (htext sms hgemm)⟩
  show 1 ≤ launch.config.gridDimX ∧ launch.config.gridDimX ≤ i32.hi
  rw [hgrid]
  exact ⟨h.1, h.2⟩

theorem metadata_gridDimX {params : PagedMqaLogitsMetadataParams} {dispatch : MetadataDispatch} {pdl : Bool}
    {launch : Launch} (h : launchPagedMqaLogitsMetadata .machine params pdl dispatch = .ok launch) :
    launch.config.gridDimX = 1 := by
  cases dispatch with
  | sm90 batchSize nextN numSms isVarlen =>
    revert launch
    show Ensures _ (launchSm90Metadata .machine params batchSize nextN isVarlen pdl)
    unfold launchSm90Metadata
    iterate 6 refine Ensures.bind fun _ => ?_
    exact fun launch h => (launchKernel_ok h).2.2.1
  | sm100 batchSize nextN numSms isVarlen =>
    revert launch
    show Ensures _ (launchSm100Metadata .machine params batchSize nextN pdl)
    unfold launchSm100Metadata
    iterate 5 refine Ensures.bind fun _ => ?_
    exact fun launch h => (launchKernel_ok h).2.2.1

theorem metadataText_not_gemm {dispatch : MetadataDispatch} {text : KernelText} (h : dispatch.text = .ok text)
    (numSms : Int) : ¬ text.IsGemmOn numSms := by
  cases dispatch with
  | sm90 =>
    simp only [MetadataDispatch.text, bind_eq_ok, Except.ok.injEq] at h
    obtain ⟨_, -, _, -, rfl⟩ := h
    exact id
  | sm100 =>
    cases h
    exact id

theorem mainLaunch_grid {numSms : Int} {pdl : Bool} (params : MqaLogitsParams) (dispatch : MqaDispatch) :
    Ensures (HasGrid numSms) (mainLaunch params numSms pdl dispatch) := by
  cases dispatch with
  | sm90 args => exact launchSm90Fp8MqaLogits_grid params args
  | sm100 isFp4 args => exact launchSm100MqaLogits_grid params isFp4 args

namespace Gemm

/-- The grid of a scale transform covers some rows, and was checked to fit. -/
theorem transformScale_gridDimX {params : Fp8GemmScaleTransformParams} {launch : Launch}
    (h : launchFp8GemmTransformScale runtime params = .ok launch) :
    1 ≤ launch.config.gridDimX ∧ launch.config.gridDimX ≤ i32.hi := by
  obtain ⟨ha, hbroadcast, htranspose⟩ := launchFp8GemmTransformScale_ok h
  by_cases hg : params.granMn.val ≠ 1
  · have hl := hbroadcast hg
    refine ⟨?_, hl.gridFits⟩
    rw [hl.gridDimX]
    refine ceilDiv_pos (by decide) (Int.mul_pos ha.posMn ?_)
    unfold transformedCols
    split
    · exact ha.posCols
    · exact ceilDiv_pos (by decide) ha.posCols
  · have hl := htranspose (not_not.mp hg)
    constructor
    · rw [hl.gridDimX]
      exact ceilDiv_pos blockMn_pos ha.posMn
    · obtain ⟨sfK, -, h⟩ := bind_eq_ok.mp h
      rw [if_neg hg] at h
      split at h
      · simp only [launchTranspose, bind_eq_ok] at h
        obtain ⟨_, -, _, -, _, -, _, -, _, -, _, -, _, -, grid, hgrid, h⟩ := h
        exact (launchKernel_ok h).2.2.1 ▸ (cast_grid hgrid).2
      · simp only [launchTransposeAndPack, bind_eq_ok] at h
        obtain ⟨_, -, _, -, _, -, _, -, _, -, grid, hgrid, h⟩ := h
        exact (launchKernel_ok h).2.2.1 ▸ (cast_grid hgrid).2

theorem transformText_not_gemm {params : Fp8GemmScaleTransformParams} {text : KernelText}
    (h : transformText params = .ok text) (numSms : Int) : ¬ text.IsGemmOn numSms := by
  obtain ⟨sfK, -, h⟩ := bind_eq_ok.mp h
  split_ifs at h
  · cases h
    exact id
  · cases h
    exact id
  · obtain ⟨_, -, h⟩ := bind_eq_ok.mp h
    cases h
    exact id
  · obtain ⟨_, -, h⟩ := bind_eq_ok.mp h
    cases h
    exact id

end Gemm

/-- The grids of a request. -/
theorem builds_gridded (hsms : HasSms runtime) (h : request.builds runtime = .ok builds) :
    ∀ build ∈ builds, build.Gridded := by
  cases request with
  | mqaLogits params =>
    simp only [Request.builds, bind_eq_ok, Except.ok.injEq] at h
    obtain ⟨params, -, device, -, dispatch, hdispatch, numSms, heffective, first, hfirst, launches, hclean, rfl⟩ := h
    have hpos := effectiveNumSms_pos hsms heffective
    have hmain : Build.Gridded ⟨dispatch.text params numSms, first⟩ :=
      gridded_of_numSms hpos (mainLaunch_grid params dispatch first hfirst) fun sms hgemm => by
        cases dispatch <;> exact hgemm.elim
    unfold launchCleanIfAsked at hclean
    split at hclean
    · obtain ⟨clean, hmade, hclean⟩ := bind_eq_ok.mp hclean
      cases hclean
      have hclean : Build.Gridded ⟨cleanText params, clean⟩ :=
        gridded_of_numSms hpos (launchCleanLogits_grid params dispatch.args clean hmade) fun _ hgemm => hgemm.elim
      simpa using ⟨hmain, hclean⟩
    · cases hclean
      simpa using hmain
  | pagedMetadata params =>
    simp only [Request.builds, bind_eq_ok, Except.ok.injEq] at h
    obtain ⟨params, -, device, -, dispatch, -, launch, hlaunch, text, htext, rfl⟩ := h
    have hgrid := metadata_gridDimX hlaunch
    have hbuild : Build.Gridded ⟨text, launch⟩ :=
      ⟨⟨hgrid.ge, hgrid.le.trans (by decide)⟩, fun sms hgemm => (metadataText_not_gemm htext sms hgemm).elim⟩
    simpa using hbuild
  | pagedMqaLogits params =>
    simp only [Request.builds, bind_eq_ok, Except.ok.injEq] at h
    obtain ⟨params, -, device, -, dispatch, hdispatch, launch, hlaunch, rfl⟩ := h
    have hc := (dispatchPagedMqaLogits_eq_ok.mp hdispatch).1
    have hargs : dispatch.numSms = params.numSms := by
      rcases (pagedValid hdispatch).dispatch with ⟨rfl, -⟩ | rfl <;> rfl
    have hgrid := launchPagedMqaLogits_grid params dispatch launch hlaunch
    rw [hargs] at hgrid
    have hbuild : Build.Gridded ⟨dispatch.text params, launch⟩ :=
      gridded_of_numSms ⟨hc.numSms.1, hc.numSmsInt⟩ hgrid fun sms hgemm => by
        cases dispatch <;> exact hgemm.elim
    simpa using hbuild
  | transformScale params =>
    simp only [Request.builds, bind_eq_ok, Except.ok.injEq] at h
    obtain ⟨params, -, launch, hlaunch, text, htext, rfl⟩ := h
    have hbuild : Build.Gridded ⟨text, launch⟩ :=
      ⟨Gemm.transformScale_gridDimX hlaunch, fun sms hgemm => (Gemm.transformText_not_gemm htext sms hgemm).elim⟩
    simpa using hbuild
  | gemmNt params =>
    simp only [Request.builds, bind_eq_ok, Except.ok.injEq] at h
    obtain ⟨params, -, dispatch, hdispatch, launch, hlaunch, rfl⟩ := h
    have hpos := effectiveNumSms_pos hsms (dispatchFp8GemmNt_numSms dispatch hdispatch)
    have hbuild : Build.Gridded ⟨dispatch.text, launch⟩ :=
      gridded_of_numSms hpos (launchGemmNt_grid params dispatch launch hlaunch) fun sms hgemm => by
        cases dispatch <;> exact hgemm
    simpa using hbuild

/-! ## Limits -/

/-- The largest batch whose scheduler finds its shared memory. -/
def schedulerCapacity (device : DeviceInfo) : Int := if device.major = 9 then 58112 else 29056

theorem within_iff {numThreads smemSize : Int} (ht : 1 ≤ numThreads ∧ numThreads ≤ 1024) (hs : 0 ≤ smemSize ∧ i32.Has smemSize) :
    (Resources.of numThreads smemSize 1).Within ↔ smemSize ≤ Gemm.kSmemCapacity := by
  constructor
  · intro h
    have hle : u32.cast smemSize ≤ Gemm.kSmemCapacity := h.sharedMem.2
    have h1 := has_i32.mp hs.2
    rwa [IntType.cast_of_has (has_u32.mpr ⟨hs.1, by omega⟩)] at hle
  · intro h
    exact Resources.within_of ht ⟨hs.1, h⟩

/-- The scheduler of a batch fits as long as there is memory for the batch. -/
theorem scheduler_within_iff {device : DeviceInfo} {params : PagedMqaLogitsMetadataParams} {dispatch : MetadataDispatch}
    {pdl : Bool} {launch : Launch} (hdispatch : dispatchPagedMqaLogitsMetadata device params = .ok dispatch)
    (h : launchPagedMqaLogitsMetadata .machine params pdl dispatch = .ok launch) :
    launch.resources.Within ↔ (params.contextLens.shape 0).val ≤ schedulerCapacity device := by
  have hv := metadataValid hdispatch
  have hb := hv.batchSize.1
  unfold schedulerCapacity
  rcases hv.dispatch with ⟨h9, rfl⟩ | ⟨h10, rfl⟩
  · obtain ⟨⟨hfit, hbytes⟩, -, hresources⟩ := launchSm90Metadata_resources hv.batchSize h
    have halign : alignUp (params.contextLens.shape 0).val 32 ≤ 58112 ↔ (params.contextLens.shape 0).val ≤ 58112 :=
      alignUp_le_iff (by decide) (by decide)
    have h0 := hfit.1
    rw [hresources, within_iff (by decide) ⟨by omega, hbytes⟩, if_pos h9, ← halign]
    unfold Gemm.kSmemCapacity
    omega
  · obtain ⟨hbytes, -, hresources⟩ := launchSm100Metadata_resources h
    rw [hresources, within_iff (by decide) ⟨by omega, hbytes⟩, if_neg (by omega)]
    unfold Gemm.kSmemCapacity
    omega

/-- **The launches of an accepted request are within the limits of the device, unless it schedules a batch that
is too large for the shared memory.** -/
theorem launches_fit_iff {launches : List Launch} (hsms : HasSms runtime) (h : request.launches runtime = .ok launches) :
    (∀ launch ∈ launches, launch.Fits) ↔ ∀ params device, request = .pagedMetadata (some params) →
      runtime.currentDeviceInfo = .ok device → (params.contextLens.shape 0).val ≤ schedulerCapacity device := by
  obtain ⟨builds, hbuilds, rfl⟩ := launches_eq_ok.mp h
  have hfits : ∀ build ∈ builds, build.launch.Fits ↔ build.launch.resources.Within := fun build hb =>
    (builds_kept hbuilds build hb).fits_iff (builds_gridded hsms hbuilds build hb)
  simp only [List.mem_map, forall_exists_index, and_imp, forall_apply_eq_imp_iff₂]
  by_cases hmetadata : ∃ params, request = .pagedMetadata (some params)
  · obtain ⟨params, rfl⟩ := hmetadata
    simp only [Request.builds, bind_eq_ok, Except.ok.injEq] at hbuilds
    obtain ⟨_, hparams, device, hdevice, dispatch, hdispatch, launch, hlaunch, text, -, rfl⟩ := hbuilds
    cases hparams
    have hwithin := scheduler_within_iff hdispatch hlaunch
    simp only [List.mem_singleton, forall_eq] at hfits ⊢
    rw [hfits, hwithin]
    constructor
    · rintro hle _ device' ⟨⟩ hdevice'
      obtain rfl := Except.ok.inj (hdevice.symm.trans hdevice')
      exact hle
    · intro hall
      exact hall params device rfl hdevice
  · refine iff_of_true (fun build hb => ?_) fun params device hrequest => absurd ⟨params, hrequest⟩ hmetadata
    have hkept := builds_kept hbuilds build hb
    exact (hfits build hb).mpr (hkept.takes.within hkept.accepted fun hfamily =>
      hmetadata (builds_scheduler hbuilds hb hfamily))

end

/-- The largest batch that an H100 schedules, and the next one, which is accepted as well. -/
theorem metadata_fits_58112 :
    (∃ launches, Request.launches ⟨.ok h100, 0, false⟩ (.pagedMetadata (some (metadataOf 58112))) = .ok launches ∧
      ∀ launch ∈ launches, launch.Fits) ∧
    ∃ launches, Request.launches ⟨.ok h100, 0, false⟩ (.pagedMetadata (some (metadataOf 58113))) = .ok launches ∧
      ¬ ∀ launch ∈ launches, launch.Fits := by
  have hsms : HasSms ⟨.ok h100, 0, false⟩ := by
    intro device hdevice
    cases hdevice
    decide
  obtain ⟨launches, h⟩ : ∃ launches,
      Request.launches ⟨.ok h100, 0, false⟩ (.pagedMetadata (some (metadataOf 58112))) = .ok launches := ⟨_, rfl⟩
  obtain ⟨launches', h'⟩ : ∃ launches,
      Request.launches ⟨.ok h100, 0, false⟩ (.pagedMetadata (some (metadataOf 58113))) = .ok launches := ⟨_, rfl⟩
  refine ⟨⟨launches, h, (launches_fit_iff hsms h).mpr ?_⟩, launches', h', fun hfits => ?_⟩
  · rintro params device ⟨⟩ ⟨⟩
    decide
  · exact absurd ((launches_fit_iff hsms h').mp hfits _ h100 rfl rfl) (by decide)

end DeepGemmRs.Raw
