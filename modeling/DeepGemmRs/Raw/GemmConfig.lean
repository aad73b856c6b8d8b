import DeepGemmRs.Lib.Rounding
import DeepGemmRs.Lib.Search
import DeepGemmRs.Raw.Checks

/-!
# The GEMM heuristics

`deepgemm_raw_gemm.cc`, from its guarded arithmetic to `sm90_best_config` and `sm100_best_config`.

* `GemmLayout`, `StorageConfig`, `PipelineConfig`, `LaunchConfig`, `GemmConfig`, `LayoutInfo`;
* `sm90Layouts`, `sm100Layouts` : the loop nests, `sm90Keeps`, `sm100Keeps` : the tests inside them;
* `sm90BestConfig`, `sm100BestConfig` : the configuration of the best candidate.

A block is at most 256 wide, so what is computed from blocks alone is computed over the integers;
what depends on the sizes of the GEMM or on the number of SMs is computed at its type. A `double` is
a `Float`.
-/

namespace DeepGemmRs.Raw.Gemm

open Checked MachineInt

def kBlockK : Int := 128

def kSmemCapacity : Int := 232448

structure GemmLayout where
  swapAb : Bool
  blockM : Int
  blockN : Int
  blockK : Int
  clusterM : Int
  clusterN : Int
deriving DecidableEq, Repr

def GemmLayout.clusterSize (layout : GemmLayout) : Int := layout.clusterM * layout.clusterN

structure StorageConfig where
  loadBlockM : Int
  loadBlockN : Int
  storeBlockM : Int
  storeBlockN : Int
  swizzleAMode : Int
  swizzleBMode : Int
  swizzleCdMode : Int
deriving DecidableEq, Repr

structure PipelineConfig where
  smemSize : Int
  numStages : Int
deriving DecidableEq, Repr

structure LaunchConfig where
  numThreads : Int
  numTmaThreads : Int
  numMathThreads : Int
  numNonEpilogueThreads : Int := 0
  numEpilogueThreads : Int := 0
deriving DecidableEq, Repr

structure GemmConfig where
  layout : GemmLayout
  storage : StorageConfig
  pipeline : PipelineConfig
  launch : LaunchConfig
deriving DecidableEq, Repr

structure LayoutInfo where
  numWaves : Int
  lastWaveUtil : Int
  numCycles : Float
  layout : GemmLayout

/-! ## Guarded arithmetic -/

def ceilDivI64 (value divisor : Int) : Native Int := do
  throwIf (value < 0 ∨ divisor ≤ 0) (.invalid "invalid ceil_div input")
  let addend ← i64.sub divisor 1
  let limit ← i64.sub i64.hi addend
  throwIf (value > limit) (.invalid "ceil_div input overflowed")
  let sum ← i64.add value addend
  i64.div sum divisor

def alignI64 (value alignment : Int) : Native Int := do
  throwIf (value < 0 ∨ alignment ≤ 0) (.invalid "invalid alignment input")
  let remainder ← i64.rem value alignment
  if remainder = 0 then .ok value else do
    let delta ← i64.sub alignment remainder
    let limit ← i64.sub i64.hi delta
    throwIf (value > limit) (.invalid "alignment input overflowed")
    i64.add value delta

def ceilDivInt (value divisor : Int) : Native Int := do
  let quotient ← ceilDivI64 value divisor
  asI32 quotient "ceil_div"

def alignInt (value alignment : Int) : Native Int := do
  let aligned ← alignI64 value alignment
  asI32 aligned "alignment"

def getSwizzleMode (blockSize elemSize : Int) : Native Int :=
  match [128, 64, 32, 16].find? fun mode => blockSize * elemSize % mode = 0 with
  | some mode => .ok mode
  | none => .error (.invalid "unsupported swizzle configuration")

/-! ## SM90 -/

def sm90StorageConfig (layout : GemmLayout) : Native StorageConfig := do
  let swizzleAMode ← getSwizzleMode layout.blockK 1
  let swizzleBMode ← getSwizzleMode layout.blockK 1
  let swizzleCdMode ← getSwizzleMode layout.blockN 2
  .ok {
    loadBlockM := layout.blockM, loadBlockN := layout.blockN
    storeBlockM := layout.blockM, storeBlockN := layout.blockN
    swizzleAMode, swizzleBMode, swizzleCdMode }

def sm90PipelineConfig (k : Int) (layout : GemmLayout) (storage : StorageConfig) : Native PipelineConfig := do
  let kNumMaxStages : Int := 16
  let smemCd ← alignInt (layout.blockM * layout.blockN * 2) 1024
  let smemBarriers := kNumMaxStages * 8 * 2
  let smemAPerStage := storage.loadBlockM * layout.blockK
  let smemBPerStage := storage.loadBlockN * layout.blockK
  let smemSfaPerStage ← alignInt (layout.blockM * 4) 128
  let useUniformSfb : Int := if layout.blockK % layout.blockN = 0 then 1 else 2
  let kBlocks ← ceilDivInt k layout.blockK
  let sfbBytes ← i32.mul kBlocks 4
  let sfbBytes ← i32.mul sfbBytes useUniformSfb
  let smemExtraSfb ← alignInt sfbBytes 8
  let smemExtra ← i32.add (smemCd + smemBarriers) smemExtraSfb
  let smemPerStage := smemAPerStage + smemBPerStage + smemSfaPerStage
  let room ← i32.sub kSmemCapacity smemExtra
  let numStages := min (room.tdiv smemPerStage) kNumMaxStages
  let stages ← i32.mul numStages smemPerStage
  let smemSize ← i32.add smemExtra stages
  .ok { smemSize, numStages }

def sm90LaunchConfig (layout : GemmLayout) : LaunchConfig :=
  let numMathThreads := if layout.blockM ≤ 64 then 128 else 256
  { numThreads := 128 + numMathThreads, numTmaThreads := 128, numMathThreads }

/-- `num_cycles`, for `slots` blocks in the waves. -/
def sm90NumCycles (k numSms numBlocks numWaves slots : Int) (layout : GemmLayout) : Float :=
  let l2Limit : Float := 64.0 * Float.ofInt numSms
  let l2Cap : Float := 8e6 / 1.3e3
  let l2BandwidthPerCycle := if l2Cap < l2Limit then l2Cap else l2Limit
  let l1BandwidthPerCycle : Float := 128.0 * Float.ofInt numSms
  let wgmmaM : Int := 64
  let elemSizeAb : Int := 1
  let elemSizeCd : Int := 2
  let numBytesL2Ab :=
    k * (layout.blockM.tdiv layout.clusterN + layout.blockN.tdiv layout.clusterM) * elemSizeAb
  let numBytesL1Ab := k * (layout.blockM + layout.blockN) * elemSizeAb
  let numBytesL1Tc :=
    k * (max wgmmaM layout.blockM + layout.blockN) * elemSizeAb + layout.blockM * layout.blockN * elemSizeCd
  let numBytesL1L2Cd := layout.blockM * layout.blockN * elemSizeCd
  let numL2Cycles := Float.ofInt (numBytesL2Ab + numBytesL1L2Cd) * Float.ofInt numBlocks / l2BandwidthPerCycle
  let numL1Cycles :=
    Float.ofInt (numBytesL1Ab + numBytesL1Tc + numBytesL1L2Cd) * Float.ofInt numBlocks / l1BandwidthPerCycle
  let waveEfficiency := Float.ofInt numBlocks / Float.ofInt slots
  let numCycles := (if numL1Cycles < numL2Cycles then numL2Cycles else numL1Cycles) / waveEfficiency
  if layout.clusterSize > 1 ∧ numWaves ≤ 1 then 1.0 / 0.0 else numCycles

def sm90LayoutInfo (m n k numSms : Int) (layout : GemmLayout) : Native LayoutInfo := do
  let blocksM ← ceilDivInt m layout.blockM
  let blocksN ← ceilDivInt n layout.blockN
  let numBlocks ← i64.mul blocksM blocksN
  let waves ← ceilDivI64 numBlocks numSms
  let numWaves ← asI32 waves "SM90 waves"
  let lastBlocks ← i64.rem numBlocks numSms
  let numLastBlocks := i32.cast lastBlocks
  let lastWaveUtil := if numLastBlocks = 0 then numSms else numLastBlocks
  let slots ← i32.mul numWaves numSms
  .ok { numWaves, lastWaveUtil, numCycles := sm90NumCycles k numSms numBlocks numWaves slots layout, layout }

/-- `step`, `2 * step`, and so on to `last`. -/
def multiples (step last : Nat) : List Int := (List.range (last / step)).map fun i => step * (i + 1 : Nat)

/-- `cluster_m` and `cluster_n`, one loop inside the other. -/
def clusters : List (Int × Int) := [(1, 1), (1, 2), (2, 1), (2, 2)]

def sm90BlockMCandidates (m : Int) : List Int :=
  [64, 128] ++ (if m ≤ 16 then [16] else []) ++ (if m ≤ 32 then [32] else []) ++ [256]

def sm90Clusters (numSms : Int) : List (Int × Int) :=
  clusters.filter fun c => c.1 * c.2 ≤ 2 ∧ numSms % (c.1 * c.2) = 0

/-- The layouts the inner loop comes to. -/
def sm90Layouts (m numSms : Int) : List GemmLayout :=
  (sm90Clusters numSms).flatMap fun c =>
    (sm90BlockMCandidates m).flatMap fun blockM =>
      (multiples 16 192).map fun blockN => ⟨false, blockM, blockN, kBlockK, c.1, c.2⟩

/-- The body of the inner loop. -/
def sm90Keeps (k : Int) (layout : GemmLayout) : Native Bool :=
  if layout.blockN > kBlockK ∧ layout.blockN % (layout.blockN - kBlockK) ≠ 0 ∧
      kBlockK % (layout.blockN - kBlockK) ≠ 0 then .ok false
  else if layout.blockM > 128 ∧ layout.blockN > 128 then .ok false
  else do
    let storage ← sm90StorageConfig layout
    if storage.swizzleAMode % 64 ≠ 0 ∨ storage.swizzleBMode % 64 ≠ 0 then .ok false
    else do
      let pipeline ← sm90PipelineConfig k layout storage
      .ok (¬ (pipeline.numStages < 3 ∨
        layout.blockM * layout.blockN < 128 * 192 ∧ pipeline.numStages < 4))

def sm90LayoutCandidates (m _n k numSms : Int) : Native (List GemmLayout) :=
  Search.keep (sm90Keeps k) (sm90Layouts m numSms)

def sm90BestConfig (m n k numSms : Int) : Native GemmConfig := do
  match ← sm90LayoutCandidates m n k numSms with
  | [] => .error (.invalid "no SM90 FP8 GEMM heuristic candidates")
  | first :: rest =>
    let info ← Search.best (sm90LayoutInfo m n k numSms) (fun info best => info.numCycles < best.numCycles)
      first rest
    let storage ← sm90StorageConfig info.layout
    let pipeline ← sm90PipelineConfig k info.layout storage
    .ok { layout := info.layout, storage, pipeline, launch := sm90LaunchConfig info.layout }

/-! ## SM100 -/

def sm100SfAlignedBlocks (blockM blockN : Int) : Native (Int × Int) := do
  let sfBlockM ← alignInt blockM 128
  let sfBlockN ← alignInt blockN 128
  .ok (sfBlockM, sfBlockN)

def sm100StorageConfig (layout : GemmLayout) : Native StorageConfig := do
  let storeBlockN := layout.blockN
  let swizzleAMode ← getSwizzleMode layout.blockK 1
  let swizzleBMode ← getSwizzleMode layout.blockK 1
  let swizzleCdMode ← getSwizzleMode storeBlockN 2
  .ok {
    loadBlockM := layout.blockM.tdiv layout.clusterN, loadBlockN := layout.blockN.tdiv layout.clusterM
    storeBlockM := if layout.swapAb then 16 else min 128 layout.blockM, storeBlockN
    swizzleAMode, swizzleBMode, swizzleCdMode }

def sm100PipelineConfig (layout : GemmLayout) (storage : StorageConfig) : Native PipelineConfig := do
  let kNumMaxStages : Int := 32
  let smemCd :=
    if layout.swapAb then storage.storeBlockM * storage.storeBlockN * 2 * 2
    else storage.storeBlockM * storage.swizzleCdMode * 2
  let smemBarriers := kNumMaxStages * 8 * 3 + 2 * 8 * 2 + 8
  let smemTmemPtr : Int := 4
  let smemAPerStage := storage.loadBlockM * layout.blockK
  let smemBPerStage := storage.loadBlockN * layout.blockK
  let (sfBlockM, sfBlockN) ← sm100SfAlignedBlocks layout.blockM layout.blockN
  let smemSfaPerStage := sfBlockM * 4
  let smemSfbPerStage := sfBlockN * 4
  let smemExtra := smemCd + smemBarriers + smemTmemPtr
  let smemPerStage := smemAPerStage + smemBPerStage + smemSfaPerStage + smemSfbPerStage
  let numStages := min ((kSmemCapacity - smemExtra).tdiv smemPerStage) kNumMaxStages
  .ok { smemSize := smemExtra + numStages * smemPerStage, numStages }

def sm100LaunchConfig : LaunchConfig where
  numThreads := 256
  numTmaThreads := 32
  numMathThreads := 128
  numNonEpilogueThreads := 128
  numEpilogueThreads := 128

def sm100LayoutInfo (m n numSms : Int) (layout : GemmLayout) : Native LayoutInfo := do
  let blocksM ← ceilDivInt m layout.blockM
  let blocksN ← ceilDivInt n layout.blockN
  let numBlocks ← i64.mul blocksM blocksN
  let waves ← ceilDivI64 numBlocks numSms
  let numWaves ← asI32 waves "SM100 waves"
  let lastBlocks ← i64.rem numBlocks numSms
  let numLastBlocks := i32.cast lastBlocks
  .ok { numWaves, lastWaveUtil := if numLastBlocks = 0 then numSms else numLastBlocks, numCycles := 0.0, layout }

def sm100LayoutIsBetter (a b : LayoutInfo) : Bool :=
  if (a.numWaves = 1 ∨ b.numWaves = 1) ∧ a.numWaves ≠ b.numWaves then a.numWaves < b.numWaves
  else if a.layout.clusterSize ≠ b.layout.clusterSize then a.layout.clusterSize > b.layout.clusterSize
  else if a.numWaves ≠ b.numWaves then a.numWaves < b.numWaves
  else if a.lastWaveUtil ≠ b.lastWaveUtil then a.lastWaveUtil > b.lastWaveUtil
  else
    let aExtent := a.layout.blockM + a.layout.blockN
    let bExtent := b.layout.blockM + b.layout.blockN
    if aExtent ≠ bExtent then aExtent < bExtent
    else a.layout.blockM * a.layout.blockN < b.layout.blockM * b.layout.blockN

def sm100BlockMCandidates (swapAb : Bool) (m : Int) : List Int :=
  if swapAb then multiples 16 256 else if m ≤ 32 then [32] else if m ≤ 64 then [64] else [128]

def sm100BlockNCandidates (swapAb : Bool) (k : Int) : List Int :=
  if swapAb then [128] else [16] ++ multiples 32 (if k ≤ 256 then 128 else 256)

def sm100Clusters (swapAb : Bool) (numSms : Int) : List (Int × Int) :=
  clusters.filter fun c => ¬ (swapAb ∧ c.1 > 1) ∧ c.1 * c.2 ≤ 2 ∧ ¬ (¬ swapAb ∧ c.2 > 1) ∧
    numSms % (c.1 * c.2) = 0

/-- The layouts the inner loop comes to. -/
def sm100Layouts (m k numSms : Int) : List GemmLayout :=
  [false, true].flatMap fun swapAb =>
    (sm100Clusters swapAb numSms).flatMap fun c =>
      (sm100BlockMCandidates swapAb m).flatMap fun blockM =>
        (sm100BlockNCandidates swapAb k).map fun blockN => ⟨swapAb, blockM, blockN, kBlockK, c.1, c.2⟩

/-- The body of the inner loop, after the tests on the numbers of blocks. -/
def sm100Fits (layout : GemmLayout) : Native Bool :=
  if layout.swapAb ∧ layout.blockN ≠ 128 then .ok false
  else do
    let (sfBlockM, sfBlockN) ← sm100SfAlignedBlocks layout.blockM layout.blockN
    let tmemSfCols := sfBlockM.tdiv 32 + sfBlockN.tdiv 32
    let ummaN := if layout.swapAb then layout.blockM else layout.blockN
    if 2 * ummaN + tmemSfCols > 512 then .ok false
    else do
      let storage ← sm100StorageConfig layout
      .ok (¬ (storage.swizzleAMode ≠ 128 ∨ storage.swizzleBMode ≠ 128))

/-- The body of the inner loop. -/
def sm100Keeps (m n : Int) (layout : GemmLayout) : Native Bool :=
  if layout.blockM.tdiv layout.clusterN % 8 ≠ 0 then .ok false
  else do
    let blocksM ← ceilDivInt m layout.blockM
    if blocksM % layout.clusterM ≠ 0 then .ok false
    else if layout.blockN.tdiv layout.clusterM % 8 ≠ 0 then .ok false
    else do
      let blocksN ← ceilDivInt n layout.blockN
      if blocksN % layout.clusterN ≠ 0 then .ok false else sm100Fits layout

def sm100LayoutCandidates (m n k numSms : Int) : Native (List GemmLayout) :=
  Search.keep (sm100Keeps m n) (sm100Layouts m k numSms)

def sm100BestConfig (m n k numSms : Int) : Native GemmConfig := do
  match ← sm100LayoutCandidates m n k numSms with
  | [] => .error (.invalid "no SM100 FP8 GEMM heuristic candidates")
  | first :: rest =>
    let info ← Search.best (sm100LayoutInfo m n numSms) sm100LayoutIsBetter first rest
    let storage ← sm100StorageConfig info.layout
    let pipeline ← sm100PipelineConfig info.layout storage
    .ok { layout := info.layout, storage, pipeline, launch := sm100LaunchConfig }

end DeepGemmRs.Raw.Gemm
