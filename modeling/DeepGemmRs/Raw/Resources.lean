import DeepGemmRs.Raw.KernelText
import DeepGemmRs.Raw.MqaExact
import DeepGemmRs.Raw.Sm100Choice

/-!
# What a kernel is launched with

A kernel is found again by its name and its text; its threads, its shared memory and its cluster are handed to
the driver beside it.

* `Resources`, `Launch.resources` : what a block of a launch takes;
* `KernelText.Accepted` : the texts that the checks of the entry points leave;
* `KernelText.eq_of_code` : **an accepted text has one request of `build_kernel` behind it**;
* `KernelText.Takes` : the resources that go with a text, `Takes.unique`.
-/

namespace DeepGemmRs.Raw

open Checked MachineInt Streamed CApi

/-! ## Resources -/

/-- What a block takes of a multiprocessor, and how the blocks are arranged beside the length of the grid. -/
structure Resources where
  gridDimY : Int
  blockDimX : Int
  sharedMemBytes : Int
  maxDynamicSharedSize : Option Int
  clusterDim : Option Int
deriving DecidableEq

def Launch.resources (launch : Launch) : Resources where
  gridDimY := launch.config.gridDimY
  blockDimX := launch.config.blockDimX
  sharedMemBytes := launch.config.sharedMemBytes
  maxDynamicSharedSize := launch.config.maxDynamicSharedSize
  clusterDim := launch.config.clusterDim

/-- What `make_launch_config` asks for on a grid of one row. -/
def Resources.of (numThreads smemSize clusterDim : Int) : Resources where
  gridDimY := 1
  blockDimX := u32.cast numThreads
  sharedMemBytes := u32.cast smemSize
  maxDynamicSharedSize := if smemSize > 0 then some smemSize else none
  clusterDim := if clusterDim > 1 then some (u32.cast clusterDim) else none

theorem launchKernel_resources {launch : Launch} {kernel : String} {stream : Ptr} {launchArgs : LaunchArgs}
    {args : List KernelArg} (h : launchKernel .machine kernel stream launchArgs args = .ok launch)
    (hrow : launchArgs.gridY = 1) : launch.kernel = kernel ∧
      launch.resources = .of launchArgs.numThreads launchArgs.smemSize launchArgs.clusterDim := by
  simp only [launchKernel, makeLaunchConfig, bind_eq_ok, Arith.machine_cast, Except.ok.injEq, exists_eq_left'] at h
  obtain ⟨_, ⟨cluster, hcluster, rfl⟩, rfl⟩ := h
  refine ⟨rfl, ?_⟩
  have hcluster : cluster = if launchArgs.clusterDim > 1 then some (u32.cast launchArgs.clusterDim) else none := by
    unfold clusterAttribute at hcluster
    split at hcluster
    · next hdim =>
      cases hcluster
      rw [if_pos hdim]
    · next hdim =>
      cases hcluster
      rw [if_neg hdim]
  rw [Launch.resources, Resources.of, ← hcluster, hrow]
  rfl

/-! ## Accepted texts -/

namespace Gemm

/-- A configuration that `sm90_best_config` puts together. -/
structure Sm90Config (k numSms : Int) (config : GemmConfig) : Prop where
  candidate : Candidate numSms config.layout
  swapAb : config.layout.swapAb = false
  storage : sm90StorageConfig config.layout = .ok config.storage
  pipeline : sm90PipelineConfig k config.layout config.storage = .ok config.pipeline
  launch : config.launch = sm90LaunchConfig config.layout
  kept : sm90Keeps k config.layout = .ok true

/-- A configuration that `sm100_best_config` puts together. -/
structure Sm100Config (numSms : Int) (config : GemmConfig) : Prop where
  candidate : Candidate numSms config.layout
  order : Sm100Order config.layout
  storage : sm100StorageConfig config.layout = .ok config.storage
  pipeline : sm100PipelineConfig config.layout config.storage = .ok config.pipeline
  launch : config.launch = sm100LaunchConfig

variable {m n k numSms : Int} {config : GemmConfig}

theorem sm90Layouts_swapAb {layout : GemmLayout} (h : layout ∈ sm90Layouts m numSms) : layout.swapAb = false := by
  simp only [sm90Layouts, List.mem_flatMap, List.mem_map] at h
  obtain ⟨c, -, blockM, -, blockN, -, rfl⟩ := h
  rfl

theorem sm90Config_of_best (h : sm90BestConfig m n k numSms = .ok config) : Sm90Config k numSms config := by
  obtain ⟨candidates, hkeep, h⟩ := bind_eq_ok.mp h
  cases candidates with
  | nil => cases h
  | cons first rest =>
    simp only [bind_eq_ok, Except.ok.injEq] at h
    obtain ⟨info, hbest, storage, hstorage, pipeline, hpipeline, rfl⟩ := h
    obtain ⟨layout, hmem, hinfo⟩ := Search.best_measured hbest
    obtain rfl := sm90LayoutInfo_layout hinfo
    obtain ⟨hlayout, hkept⟩ := (Search.mem_keep hkeep _).mp hmem
    exact ⟨mem_sm90Layouts hlayout, sm90Layouts_swapAb hlayout, hstorage, hpipeline, rfl, hkept⟩

theorem sm100Config_of_best (h : sm100BestConfig m n k numSms = .ok config) : Sm100Config numSms config := by
  obtain ⟨candidates, hkeep, h⟩ := bind_eq_ok.mp h
  cases candidates with
  | nil => cases h
  | cons first rest =>
    simp only [bind_eq_ok, Except.ok.injEq] at h
    obtain ⟨info, hbest, storage, hstorage, pipeline, hpipeline, rfl⟩ := h
    obtain ⟨layout, hmem, hinfo⟩ := Search.best_measured hbest
    obtain rfl := sm100LayoutInfo_layout hinfo
    obtain ⟨hlayout, -⟩ := (Search.mem_keep hkeep _).mp hmem
    exact ⟨mem_sm100Layouts hlayout, sm100Layouts_order hlayout, hstorage, hpipeline, rfl⟩

/-- The blocks and the cluster as they stand in a text tell the layout. -/
theorem layout_eq_of_text {layout layout' : GemmLayout} {numSms numSms' : Int} (h : Candidate numSms layout)
    (h' : Candidate numSms' layout') (hswap : layout.swapAb = layout'.swapAb) (hm : layout.blockM = layout'.blockM)
    (hn : layout.blockN = layout'.blockN) (hk : layout.blockK = layout'.blockK)
    (hsize : layout.clusterSize = layout'.clusterSize) (hmulticast : layout.clusterN > 1 ↔ layout'.clusterN > 1) :
    layout = layout' := by
  have hclusterN : layout.clusterN = layout'.clusterN := by
    have h1 := h.clusterN
    have h2 := h'.clusterN
    omega
  have hclusterM : layout.clusterM = layout'.clusterM := by
    unfold GemmLayout.clusterSize at hsize
    rw [hclusterN] at hsize
    apply Int.eq_of_mul_eq_mul_right _ hsize
    have h2 := h'.clusterN
    omega
  cases layout
  cases layout'
  cases hswap
  cases hm
  cases hn
  cases hk
  cases hclusterN
  cases hclusterM
  rfl

/-- On SM90 the sizes and the layout tell the configuration. -/
theorem Sm90Config.ext {config config' : GemmConfig} {numSms numSms' : Int} (h : Sm90Config k numSms config)
    (h' : Sm90Config k numSms' config') (hlayout : config.layout = config'.layout) : config = config' := by
  have hs := h'.storage
  have hp := h'.pipeline
  have hl := h'.launch
  rw [← hlayout] at hs hp hl
  obtain hs := Except.ok.inj (h.storage.symm.trans hs)
  rw [← hs] at hp
  obtain hp := Except.ok.inj (h.pipeline.symm.trans hp)
  obtain hl := h.launch.trans hl.symm
  cases config
  cases config'
  cases hlayout
  cases hs
  cases hp
  cases hl
  rfl

/-- On SM100 the layout tells the configuration. -/
theorem Sm100Config.ext {config config' : GemmConfig} {numSms numSms' : Int} (h : Sm100Config numSms config)
    (h' : Sm100Config numSms' config') (hlayout : config.layout = config'.layout) : config = config' := by
  have hs := h'.storage
  have hp := h'.pipeline
  rw [← hlayout] at hs hp
  obtain hs := Except.ok.inj (h.storage.symm.trans hs)
  rw [← hs] at hp
  obtain hp := Except.ok.inj (h.pipeline.symm.trans hp)
  obtain hl := h.launch.trans h'.launch.symm
  cases config
  cases config'
  cases hlayout
  cases hs
  cases hp
  cases hl
  rfl

end Gemm

/-- What the checks and the constants of the entry points leave of a text. -/
def KernelText.Accepted : KernelText → Prop
  | sm90MqaLogits numHeads headDim _ blockQ blockKv _ _ _ numSpecializedThreads numMathThreads logitsDtype =>
    Sm90Shape numHeads headDim ∧ blockQ = 128 / numHeads ∧ blockKv = 256 ∧
      (numSpecializedThreads = 128 ∧ numMathThreads = 512) ∧ IsLogits logitsDtype
  | sm100MqaLogits _ _ _ _ _ _ _ _ _ numSpecializedThreads numMathThreads logitsDtype weightsDtype =>
    (numSpecializedThreads = 128 ∧ numMathThreads = 256) ∧ IsLogits logitsDtype ∧ IsLogits weightsDtype
  | cleanLogits _ blockKv numWarps logitsDtype => blockKv = 8192 ∧ numWarps = 8 ∧ IsLogits logitsDtype
  | sm90Metadata alignedBatchSize _ _ _ => 0 ≤ alignedBatchSize
  | sm100Metadata .. => True
  | sm90PagedMqaLogits nextN numHeads headDim blockKv _ _ _ _ _ numSpecializedThreads numMathThreads logitsDtype =>
    (nextN = 1 ∨ nextN = 2) ∧ Sm90Shape numHeads headDim ∧ blockKv = 64 ∧
      (numSpecializedThreads = 128 ∧ numMathThreads = 512) ∧ IsLogits logitsDtype
  | sm100PagedMqaLogits _ _ _ _ _ _ _ _ _ _ _ numSpecializedThreads numMathThreads logitsDtype weightsDtype =>
    (numSpecializedThreads = 128 ∧ numMathThreads = 256) ∧ IsLogits logitsDtype ∧ IsLogits weightsDtype
  | sm90Gemm _ k config numSms => Gemm.Sm90Config k numSms config
  | sm100Gemm _ _ _ _ config numSms => Gemm.Sm100Config numSms config
  | transpose numThreads blockMn sfK => numThreads = 512 ∧ blockMn = 64 ∧ 1 ≤ sfK ∧ sfK ≤ 512
  | transposeAndPack numThreads blockMn sfK => numThreads = 512 ∧ blockMn = 48 ∧ 1 ≤ sfK ∧ sfK ≤ 512
  | broadcast | broadcastAndPack => True

theorem kernelDtypeName_inj {dtype dtype' : DTypeCode} {name : KernelDtype} (h : kernelDtypeName dtype = .ok name)
    (h' : kernelDtypeName dtype' = .ok name) : dtype = dtype' := by
  unfold kernelDtypeName at h h'
  split_ifs at h <;> cases h <;> split_ifs at h' <;> cases h' <;> simp only [*]

theorem weightsName_inj {dtype dtype' : DTypeCode} (h : IsLogits dtype) (h' : IsLogits dtype')
    (hname : weightsName dtype = weightsName dtype') : dtype = dtype' := by
  rcases h with rfl | rfl <;> rcases h' with rfl | rfl
  · rfl
  · exact absurd hname (by decide)
  · exact absurd hname (by decide)
  · rfl

/-- The template arguments in the middle of two texts. -/
theorem arguments_inj {header kernel : String} {arguments arguments' : Code}
    (h : instantiation header kernel arguments = instantiation header kernel arguments') : arguments = arguments' :=
  List.append_cancel_left (List.append_cancel_right h)

namespace KernelText

variable {a b kernel : KernelText} {s : Code}

open Gemm in
/-- **An accepted text is written with one set of arguments only**: the template arguments tell them, the
configuration of a GEMM with all that is not streamed among them. -/
theorem eq_of_code (ha : a.Accepted) (hb : b.Accepted) (hfamily : a.family = b.family) (hcode : a.code = .ok s)
    (hcode' : b.code = .ok s) : a = b := by
  cases a with
  | sm90MqaLogits | cleanLogits | sm90PagedMqaLogits =>
    cases b <;> cases hfamily
    obtain ⟨name, hname, hcode⟩ := bind_eq_ok.mp hcode
    obtain ⟨name', hname', hcode'⟩ := bind_eq_ok.mp hcode'
    cases hcode
    have hargs := arguments_inj (Except.ok.inj hcode')
    simp only [List.cons.injEq, Code.int, Code.bool, Code.dtypeName, Piece.val.injEq, Value.int.injEq, Value.bool.injEq,
      Value.dtype.injEq, true_and, and_true] at hargs
    obtain rfl : name' = name := by tauto
    have hdtype := kernelDtypeName_inj hname hname'
    simp only [hargs, hdtype]
  | sm100MqaLogits | sm100PagedMqaLogits =>
    cases b <;> cases hfamily
    obtain ⟨name, hname, hcode⟩ := bind_eq_ok.mp hcode
    obtain ⟨name', hname', hcode'⟩ := bind_eq_ok.mp hcode'
    cases hcode
    have hargs := arguments_inj (Except.ok.inj hcode')
    simp only [List.cons.injEq, Code.int, Code.bool, Code.dtypeName, Piece.val.injEq, Value.int.injEq, Value.bool.injEq,
      Value.dtype.injEq, true_and, and_true] at hargs
    obtain rfl : name' = name := by tauto
    have hdtype := kernelDtypeName_inj hname hname'
    have hweights := weightsName_inj ha.2.2 hb.2.2 (by simp only [hargs])
    simp only [hargs, hdtype, hweights]
  | sm90Metadata | sm100Metadata | transpose | transposeAndPack =>
    cases b <;> cases hfamily
    cases hcode
    have hargs := arguments_inj (Except.ok.inj hcode')
    simp only [List.cons.injEq, Code.int, Code.bool, Piece.val.injEq, Value.int.injEq, Value.bool.injEq, true_and,
      and_true] at hargs
    simp only [hargs]
  | sm90Gemm n k config numSms =>
    cases b <;> cases hfamily
    next n' k' config' numSms' =>
    cases hcode
    have hargs := arguments_inj (Except.ok.inj hcode')
    simp only [List.cons.injEq, Code.int, Code.bool, Piece.val.injEq, Value.int.injEq, Value.bool.injEq, true_and,
      and_true, decide_eq_decide] at hargs
    obtain ⟨rfl, rfl, hm, hn, hk, -, -, -, -, -, -, hsize, hmulticast, rfl⟩ := hargs
    have hlayout := layout_eq_of_text hb.candidate ha.candidate (hb.swapAb.trans ha.swapAb.symm) hm hn hk hsize hmulticast
    rw [hb.ext ha hlayout]
  | sm100Gemm n k granKA granKB config numSms =>
    cases b <;> cases hfamily
    next n' k' granKA' granKB' config' numSms' =>
    cases hcode
    have hargs := arguments_inj (Except.ok.inj hcode')
    simp only [List.cons.injEq, Code.int, Code.bool, Piece.val.injEq, Value.int.injEq, Value.bool.injEq, true_and,
      and_true, decide_eq_decide] at hargs
    obtain ⟨rfl, rfl, -, rfl, rfl, hm, hn, hk, -, -, -, -, -, -, hsize, hmulticast, rfl, hswap⟩ := hargs
    have hlayout := layout_eq_of_text hb.candidate ha.candidate hswap hm hn hk hsize hmulticast
    rw [hb.ext ha hlayout]
  | broadcast | broadcastAndPack =>
    cases b <;> cases hfamily
    rfl

end KernelText

/-! ## The resources of a text -/

/-- The resources that go with a text; those of the SM100 scheduler grow with a batch that the text leaves out. -/
def KernelText.Takes (r : Resources) : KernelText → Prop
  | sm90MqaLogits numHeads headDim _ blockQ blockKv _ _ _ numSpecializedThreads numMathThreads _ =>
    ∃ smemSize, sm90MqaSmemSize .machine numHeads headDim blockQ blockKv DTypeCode.fp8E4M3 DTypeCode.f32
        DTypeCode.fp8E4M3 DTypeCode.f32 = .ok smemSize ∧
      r = .of (numSpecializedThreads + numMathThreads) smemSize 1
  | sm100MqaLogits _ _ _ _ _ _ _ _ _ numSpecializedThreads numMathThreads _ _ =>
    r = .of (numSpecializedThreads + numMathThreads) 232448 1
  | cleanLogits _ blockKv numWarps _ =>
    r = .of (numWarps * 32) (blockKv * 4) 1
  | sm90Metadata alignedBatchSize _ _ _ =>
    r = .of 32 (alignedBatchSize * 4) 1
  | sm100Metadata .. => ∃ batchSize, r = .of 256 (2 * batchSize * 4) 1
  | sm90PagedMqaLogits nextN numHeads headDim blockKv _ _ _ _ _ numSpecializedThreads numMathThreads _ =>
    ∃ smemSize, sm90PagedSmemSize .machine nextN numHeads headDim blockKv DTypeCode.fp8E4M3 DTypeCode.f32 = .ok smemSize ∧
      r = .of (numSpecializedThreads + numMathThreads) smemSize 1
  | sm100PagedMqaLogits _ _ _ _ _ _ _ _ _ _ _ numSpecializedThreads numMathThreads _ _ =>
    r = .of (numSpecializedThreads + numMathThreads) 232448 1
  | sm90Gemm _ _ config _ | sm100Gemm _ _ _ _ config _ =>
    r = .of config.launch.numThreads config.pipeline.smemSize config.layout.clusterSize
  | transpose numThreads blockMn sfK =>
    r = .of numThreads (blockMn * (sfK + (1 - sfK % 2)) * 4) 1
  | transposeAndPack numThreads blockMn sfK => r = .of numThreads (blockMn * sfK * 4) 1
  | broadcast | broadcastAndPack => r = .of 256 0 1

theorem KernelText.Takes.unique {kernel : KernelText} {r r' : Resources} (h : kernel.Takes r) (h' : kernel.Takes r')
    (hfamily : kernel.family ≠ .sm100Metadata) : r = r' := by
  cases kernel with
  | sm100Metadata => exact absurd rfl hfamily
  | sm90MqaLogits | sm90PagedMqaLogits =>
    obtain ⟨smemSize, hsize, rfl⟩ := h
    obtain ⟨smemSize', hsize', rfl⟩ := h'
    obtain rfl := Except.ok.inj (hsize.symm.trans hsize')
    rfl
  | sm100MqaLogits | cleanLogits | sm90Metadata | sm100PagedMqaLogits | sm90Gemm | sm100Gemm | transpose |
    transposeAndPack | broadcast | broadcastAndPack => exact h.trans h'.symm

end DeepGemmRs.Raw
