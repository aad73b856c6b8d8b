import DeepGemmRs.Lib.Arith
import DeepGemmRs.Lib.Rounding
import DeepGemmRs.Raw.Checks

/-!
# Tensor maps and launches

`deepgemm_raw_runtime.cc`, what the launchers hand to the CUDA driver. Every integer operation is
taken from an `Arith`; the driver's own calls are not modelled, they succeed.

* `getTmaAlignedSize`, `makeTma2dDesc`, `makeTma3dDesc` : tensor maps;
* `LaunchArgs`, `makeLaunchConfig`, `launchKernel` : launches;
* `makeTma2dDesc_same` and its siblings : on extents that are values of `int` they are computed
  exactly.
-/

namespace DeepGemmRs.Raw

open Checked MachineInt Rounding

/-- `CUtensorMapDataType`, those in use. -/
inductive TensorMapDataType where
  | tfloat32
  | int32
  | float32
  | bfloat16
  | uint8
  | u4Align16B
  | u4Align8B
deriving DecidableEq, Repr

/-- `CUtensorMapSwizzle`. -/
inductive TensorMapSwizzle where
  | none
  | swizzle32B
  | swizzle64B
  | swizzle128B
  | swizzle128BAtom32B
deriving DecidableEq, Repr

def tensorMapDtype (dtype : DTypeCode) (allowTf32 fp4UnpackedSmem : Bool) : Native TensorMapDataType :=
  if allowTf32 ∧ dtype = DTypeCode.f32 then .ok .tfloat32
  else if dtype = DTypeCode.i32 ∨ dtype = DTypeCode.packedUe8M0 then .ok .int32
  else if dtype = DTypeCode.f32 then .ok .float32
  else if dtype = DTypeCode.bf16 then .ok .bfloat16
  else if dtype = DTypeCode.fp8E4M3 ∨ dtype = DTypeCode.u8 then .ok .uint8
  else if dtype = DTypeCode.packedFp4E2M1 then
    if fp4UnpackedSmem then .ok .u4Align16B else .ok .u4Align8B
  else .error (.invalid "unsupported tensor map dtype")

def tensorMapSwizzle (mode base : Int) : Native TensorMapSwizzle :=
  if base ≠ 0 then
    if base = 32 ∧ mode = 128 then .ok .swizzle128BAtom32B
    else .error (.invalid "unsupported tensor map swizzle base")
  else if mode = 0 ∨ mode = 16 then .ok .none
  else if mode = 32 then .ok .swizzle32B
  else if mode = 64 then .ok .swizzle64B
  else if mode = 128 then .ok .swizzle128B
  else .error (.invalid "unsupported tensor map swizzle mode")

def getTmaAlignedSize (A : Arith Stop) (value elementSize : Int) : Native Int := do
  throwIf (value < 0 ∨ elementSize ≤ 0 ∨ 16 % elementSize ≠ 0) (.invalid "invalid TMA alignment input")
  let alignment ← A.div i64 16 elementSize
  let sum ← A.add i64 value alignment
  let sum ← A.sub i64 sum 1
  let quotient ← A.div i64 sum alignment
  A.mul i64 quotient alignment

/-- The parameters of the descriptors that have defaults. -/
structure TmaOptions where
  swizzleBase : Int := 0
  allowTf32 : Bool := false
  fp4UnpackedSmem : Bool := true

/-- The arguments of `cuTensorMapEncodeTiled`. -/
structure TensorMap where
  dataType : TensorMapDataType
  data : Ptr
  gmemDims : List Int
  gmemStrides : List Int
  smemDims : List Int
  swizzle : TensorMapSwizzle
deriving DecidableEq

/-- `elem_size`, after the checks both descriptors begin with. -/
def tmaElemSize (A : Arith Stop) (data : Ptr) (dtype : DTypeCode) : Native Int := do
  throwIf (data = 0) (.invalid "tensor map data must not be null")
  throwIf (dtypeElementSize dtype ≤ 0 ∨ dtypeElementSize dtype > i32.hi)
    (.invalid "invalid tensor map element size")
  A.cast i32 (dtypeElementSize dtype)

/-- The row of a swizzled box. -/
def swizzledInnerDim (A : Arith Stop) (elemSize smemInnerDim swizzleMode : Int) : Native Int :=
  if swizzleMode ≠ 0 then A.div i32 swizzleMode elemSize else .ok smemInnerDim

/-- The row of a box of FP4 values, two to the byte when they stay packed. -/
def fp4InnerDim (A : Arith Stop) (dtype : DTypeCode) (gmemInnerDim smemInnerDim swizzleMode : Int)
    (fp4UnpackedSmem : Bool) : Native Int :=
  if dtype = DTypeCode.packedFp4E2M1 then do
    throwIf (fp4UnpackedSmem ∧ gmemInnerDim % 128 ≠ 0)
      (.invalid "FP4 unpacked TMA inner dimension must be a multiple of 128")
    if ¬ fp4UnpackedSmem ∧ swizzleMode ≠ 0 then A.mul i32 swizzleMode 2 else .ok smemInnerDim
  else .ok smemInnerDim

/-- `static_cast<cuuint64_t>(stride) * static_cast<cuuint64_t>(elem_size)`. -/
def strideBytes (A : Arith Stop) (stride elemSize : Int) : Native Int := do
  let stride ← A.cast u64 stride
  let elemSize ← A.cast u64 elemSize
  A.cast u64 (stride * elemSize)

def makeTma2dDesc (A : Arith Stop) (data : Ptr) (dtype : DTypeCode)
    (gmemInnerDim gmemOuterDim smemInnerDim smemOuterDim gmemOuterStride swizzleMode : Int)
    (options : TmaOptions) : Native TensorMap := do
  let elemSize ← tmaElemSize A data dtype
  let smemInnerDim ← swizzledInnerDim A elemSize smemInnerDim swizzleMode
  let smemInnerDim ← fp4InnerDim A dtype gmemInnerDim smemInnerDim swizzleMode options.fp4UnpackedSmem
  let gmemInner ← A.cast u64 gmemInnerDim
  let gmemOuter ← A.cast u64 gmemOuterDim
  let smemInner ← A.cast u32 smemInnerDim
  let smemOuter ← A.cast u32 smemOuterDim
  let outerStride ← strideBytes A gmemOuterStride elemSize
  let dataType ← tensorMapDtype dtype options.allowTf32 options.fp4UnpackedSmem
  let swizzle ← tensorMapSwizzle swizzleMode options.swizzleBase
  .ok {
    dataType, data, gmemDims := [gmemInner, gmemOuter], gmemStrides := [outerStride]
    smemDims := [smemInner, smemOuter], swizzle }

def makeTma3dDesc (A : Arith Stop) (data : Ptr) (dtype : DTypeCode)
    (gmemInnerDim gmemOuterDim gmemBatchDim smemInnerDim smemOuterDim smemBatchDim gmemOuterStride
      gmemBatchStride swizzleMode : Int) (options : TmaOptions) : Native TensorMap := do
  let elemSize ← tmaElemSize A data dtype
  let smemInnerDim ← swizzledInnerDim A elemSize smemInnerDim swizzleMode
  let smemInnerDim ← fp4InnerDim A dtype gmemInnerDim smemInnerDim swizzleMode options.fp4UnpackedSmem
  let gmemInner ← A.cast u64 gmemInnerDim
  let gmemOuter ← A.cast u64 gmemOuterDim
  let gmemBatch ← A.cast u64 gmemBatchDim
  let smemInner ← A.cast u32 smemInnerDim
  let smemOuter ← A.cast u32 smemOuterDim
  let smemBatch ← A.cast u32 smemBatchDim
  let outerStride ← strideBytes A gmemOuterStride elemSize
  let batchStride ← strideBytes A gmemBatchStride elemSize
  let dataType ← tensorMapDtype dtype options.allowTf32 options.fp4UnpackedSmem
  let swizzle ← tensorMapSwizzle swizzleMode options.swizzleBase
  .ok {
    dataType, data, gmemDims := [gmemInner, gmemOuter, gmemBatch], gmemStrides := [outerStride, batchStride]
    smemDims := [smemInner, smemOuter, smemBatch], swizzle }

/-! ## Launches -/

structure LaunchArgs where
  gridX : Int := 1
  gridY : Int := 1
  numThreads : Int := 1
  smemSize : Int := 0
  clusterDim : Int := 1
  enablePdl : Bool := false

/-- `CUlaunchConfig`, and the shared memory the kernel is allowed before. -/
structure LaunchConfig where
  maxDynamicSharedSize : Option Int
  gridDimX : Int
  gridDimY : Int
  blockDimX : Int
  sharedMemBytes : Int
  clusterDim : Option Int
  enablePdl : Bool
deriving DecidableEq

inductive KernelArg where
  | u32 (value : Int)
  | u64 (value : Int)
  | bool (value : Bool)
  | ptr (value : Ptr)
  | tensorMap (value : TensorMap)
deriving DecidableEq

/-- The value of a `uint32_t` argument. -/
def KernelArg.asU32 : KernelArg → Option Int
  | u32 value => some value
  | _ => none

def KernelArg.asTensorMap : KernelArg → Option TensorMap
  | .tensorMap map => some map
  | _ => none

structure Launch where
  kernel : String
  stream : Ptr
  config : LaunchConfig
  args : List KernelArg
deriving DecidableEq

/-- The `uint32_t` arguments. -/
def Launch.u32Args (launch : Launch) : List Int := launch.args.filterMap KernelArg.asU32

/-- The cluster attribute, when there is one. -/
def clusterAttribute (A : Arith Stop) (clusterDim : Int) : Native (Option Int) :=
  if clusterDim > 1 then do
    let clusterDim ← A.cast u32 clusterDim
    .ok (some clusterDim)
  else .ok none

def makeLaunchConfig (A : Arith Stop) (launchArgs : LaunchArgs) : Native LaunchConfig := do
  let gridDimX ← A.cast u32 launchArgs.gridX
  let gridDimY ← A.cast u32 launchArgs.gridY
  let blockDimX ← A.cast u32 launchArgs.numThreads
  let sharedMemBytes ← A.cast u32 launchArgs.smemSize
  let clusterDim ← clusterAttribute A launchArgs.clusterDim
  .ok {
    maxDynamicSharedSize := if launchArgs.smemSize > 0 then some launchArgs.smemSize else none
    gridDimX, gridDimY, blockDimX, sharedMemBytes, clusterDim, enablePdl := launchArgs.enablePdl }

def launchKernel (A : Arith Stop) (kernel : String) (stream : Ptr) (launchArgs : LaunchArgs)
    (args : List KernelArg) : Native Launch := do
  let config ← makeLaunchConfig A launchArgs
  .ok { kernel, stream, config, args }

/-- A launch has the kernel, the arguments and the grid it was asked for. -/
theorem launchKernel_ok {launch : Launch} {kernel : String} {stream : Ptr} {launchArgs : LaunchArgs} {args : List KernelArg}
    (h : launchKernel .machine kernel stream launchArgs args = .ok launch) :
    launch.kernel = kernel ∧ launch.args = args ∧ launch.config.gridDimX = u32.cast launchArgs.gridX ∧
      launch.config.gridDimY = u32.cast launchArgs.gridY ∧
      launch.config.blockDimX = u32.cast launchArgs.numThreads := by
  simp only [launchKernel, makeLaunchConfig, bind_eq_ok, Arith.machine_cast, Except.ok.injEq, exists_eq_left'] at h
  obtain ⟨_, ⟨_, -, rfl⟩, rfl⟩ := h
  exact ⟨rfl, rfl, rfl, rfl, rfl⟩

/-! ## Exactness -/

/-- A value of `int` that is not negative. -/
def Extent (x : Int) : Prop := 0 ≤ x ∧ x ≤ i32.hi

instance (x : Int) : Decidable (Extent x) := inferInstanceAs (Decidable (_ ∧ _))

namespace Extent

variable {x y : Int}

theorem i32 (h : Extent x) : i32.Has x := ⟨le_trans (by decide) h.1, h.2⟩

theorem u32 (h : Extent x) : u32.Has x := ⟨h.1, h.2.trans (by decide)⟩

theorem u64 (h : Extent x) : u64.Has x := ⟨h.1, h.2.trans (by decide)⟩

theorem one : Extent 1 := by decide

theorem of_asI32 {value : Int} {name : String} (h : asI32 value name = .ok x) : Extent x := by
  obtain ⟨hv, rfl⟩ := asI32_eq_ok.mp h
  exact hv

end Extent

theorem dtypeElementSize_le (dtype : DTypeCode) : dtypeElementSize dtype ≤ 4 := by
  unfold dtypeElementSize DTypeCode.storageSize
  split_ifs <;> decide

/-- The next multiple of 16 bytes, computed without overflow below `INT64_MAX - 15`. -/
theorem getTmaAlignedSize_eq {value elementSize : Int} (h0 : 0 ≤ value) (hv : value ≤ i64.hi - 16)
    (hpos : 0 < elementSize) (hdvd : 16 % elementSize = 0) :
    getTmaAlignedSize .machine value elementSize = .ok (alignUp value (16 / elementSize)) ∧
      getTmaAlignedSize .exact value elementSize = .ok (alignUp value (16 / elementSize)) := by
  have hle : 16 / elementSize ≤ 16 := Int.ediv_le_self _ (by decide)
  have halign : 0 < 16 / elementSize :=
    Int.ediv_pos_of_pos_of_dvd (by decide) hpos.le (Int.dvd_of_emod_eq_zero hdvd)
  have hq := Int.ediv_mul_le (value + 16 / elementSize - 1) halign.ne'
  have hq0 : 0 ≤ (value + 16 / elementSize - 1) / (16 / elementSize) :=
    Int.ediv_nonneg (by omega) halign.le
  have hmul : 0 ≤ (value + 16 / elementSize - 1) / (16 / elementSize) * (16 / elementSize) :=
    Int.mul_nonneg hq0 halign.le
  have hself : (value + 16 / elementSize - 1) / (16 / elementSize) ≤ value + 16 / elementSize - 1 :=
    Int.ediv_le_self _ (by omega)
  have htdiv : (16 : Int).tdiv elementSize = 16 / elementSize := Int.tdiv_eq_ediv_of_nonneg (by decide)
  have htdiv' : (value + 16 / elementSize - 1).tdiv (16 / elementSize) =
      (value + 16 / elementSize - 1) / (16 / elementSize) := Int.tdiv_eq_ediv_of_nonneg (by omega)
  simp only [i64] at hv
  rw [alignUp_eq_ediv_mul halign]
  unfold getTmaAlignedSize
  simp only [throwIf_neg (show ¬ (value < 0 ∨ elementSize ≤ 0 ∨ 16 % elementSize ≠ 0) by omega), ok_bind,
    Arith.machine_div, Arith.machine_add, Arith.machine_sub, Arith.machine_mul, Arith.exact_div hpos.ne',
    Arith.exact_add, Arith.exact_sub, Arith.exact_mul, Arith.exact_div halign.ne', htdiv, htdiv']
  refine ⟨?_, trivial⟩
  rw [IntType.div_of_nonneg (by decide) (by decide) (by decide) hpos, ok_bind,
    IntType.add_of_has (has_i64.mpr ⟨by omega, by omega⟩), ok_bind,
    IntType.sub_of_has (has_i64.mpr ⟨by omega, by omega⟩), ok_bind,
    IntType.div_of_nonneg (by omega) (has_i64.mpr ⟨by omega, by omega⟩) (by decide) halign, ok_bind]
  exact IntType.mul_of_has (has_i64.mpr ⟨by omega, by omega⟩)

theorem getTmaAlignedSize_same {value : Int} {dtype : DTypeCode} (hv : Extent value) :
    Same fun A => getTmaAlignedSize A value (dtypeElementSize dtype) := by
  have hfit : value ≤ i64.hi - 16 := hv.2.trans (by decide)
  by_cases h : dtypeElementSize dtype ≤ 0 ∨ 16 % dtypeElementSize dtype ≠ 0
  · refine Same.bind (Same.const _) fun _ hg => ?_
    rw [throwIf_eq_ok] at hg
    exact absurd (.inr h) hg
  · obtain ⟨hpos, hdvd⟩ := not_or.mp h
    obtain ⟨hm, he⟩ := getTmaAlignedSize_eq hv.1 hfit (not_le.mp hpos) (not_not.mp hdvd)
    exact hm.trans he.symm

/-! ### Tensor maps -/

theorem tmaElemSize_same {data : Ptr} {dtype : DTypeCode} : Same fun A => tmaElemSize A data dtype := by
  refine Same.bind (Same.const _) fun _ _ => Same.bind (Same.const _) fun _ h => Same.cast ?_
  simp only [throwIf_eq_ok, not_or, not_le, not_lt] at h
  exact Extent.i32 ⟨h.1.le, h.2⟩

theorem tmaElemSize_ok {data : Ptr} {dtype : DTypeCode} {elemSize : Int}
    (h : tmaElemSize .exact data dtype = .ok elemSize) : 1 ≤ elemSize ∧ elemSize ≤ 4 := by
  simp only [tmaElemSize, bind_eq_ok, throwIf_eq_ok, exists_const, not_or, not_le, Arith.exact_cast,
    Except.ok.injEq] at h
  obtain ⟨-, ⟨hpos, -⟩, rfl⟩ := h
  exact ⟨hpos, dtypeElementSize_le dtype⟩

variable {elemSize swizzleMode smemInnerDim gmemInnerDim stride : Int}

theorem swizzledInnerDim_ok {inner : Int} (he : 1 ≤ elemSize) (hs : 0 ≤ swizzleMode ∧ swizzleMode ≤ 128)
    (hi : Extent smemInnerDim) (h : swizzledInnerDim .exact elemSize smemInnerDim swizzleMode = .ok inner) :
    Extent inner := by
  unfold swizzledInnerDim at h
  split at h
  · rw [Arith.exact_div (by omega), Int.tdiv_eq_ediv_of_nonneg hs.1] at h
    cases h
    have h1 : swizzleMode / elemSize ≤ swizzleMode := Int.ediv_le_self _ hs.1
    exact ⟨Int.ediv_nonneg hs.1 (by omega), by simp only [MachineInt.i32]; omega⟩
  · cases h
    exact hi

theorem swizzledInnerDim_same (hs : 0 ≤ swizzleMode ∧ swizzleMode ≤ 128) (he : 1 ≤ elemSize) :
    Same fun A => swizzledInnerDim A elemSize smemInnerDim swizzleMode := by
  refine Same.ite (fun _ => Same.div ?_) fun _ => Same.const _
  rw [Int.tdiv_eq_ediv_of_nonneg hs.1]
  have h1 : swizzleMode / elemSize ≤ swizzleMode := Int.ediv_le_self _ hs.1
  have h0 : 0 ≤ swizzleMode / elemSize := Int.ediv_nonneg hs.1 (by omega)
  exact has_i32.mpr ⟨by omega, by omega⟩

theorem fp4InnerDim_ok {dtype : DTypeCode} {unpacked : Bool} {inner : Int}
    (hs : 0 ≤ swizzleMode ∧ swizzleMode ≤ 128) (hi : Extent smemInnerDim)
    (h : fp4InnerDim .exact dtype gmemInnerDim smemInnerDim swizzleMode unpacked = .ok inner) :
    Extent inner := by
  unfold fp4InnerDim at h
  split at h
  · obtain ⟨_, -, h⟩ := bind_eq_ok.mp h
    split at h
    · cases h
      exact ⟨by omega, by simp only [MachineInt.i32]; omega⟩
    · cases h
      exact hi
  · cases h
    exact hi

theorem fp4InnerDim_same {dtype : DTypeCode} {unpacked : Bool} (hs : 0 ≤ swizzleMode ∧ swizzleMode ≤ 128) :
    Same fun A => fp4InnerDim A dtype gmemInnerDim smemInnerDim swizzleMode unpacked := by
  refine Same.ite (fun _ => Same.bind (Same.const _) fun _ _ => ?_) fun _ => Same.const _
  exact Same.ite (fun _ => Same.mul (has_i32.mpr ⟨by omega, by omega⟩)) fun _ => Same.const _

theorem strideBytes_same (hs : Extent stride) (he : 1 ≤ elemSize ∧ elemSize ≤ 4) :
    Same fun A => strideBytes A stride elemSize := by
  have hle := hs.2
  simp only [MachineInt.i32] at hle
  refine Same.bind (Same.cast hs.u64) fun _ h => ?_
  cases h
  refine Same.bind (Same.cast (has_u64.mpr ⟨by omega, by omega⟩)) fun _ h => ?_
  cases h
  have hnonneg : 0 ≤ stride * elemSize := Int.mul_nonneg hs.1 (by omega)
  have hbound : stride * elemSize ≤ 2147483647 * 4 := Int.mul_le_mul hle he.2 (by omega) (by decide)
  exact Same.cast (has_u64.mpr ⟨hnonneg, by omega⟩)

/-- A descriptor of `int` extents is exact. -/
theorem makeTma2dDesc_same {data : Ptr} {dtype : DTypeCode} {gmemOuterDim smemOuterDim : Int}
    {options : TmaOptions} (h1 : Extent gmemInnerDim) (h2 : Extent gmemOuterDim) (h3 : Extent smemInnerDim)
    (h4 : Extent smemOuterDim) (h5 : Extent stride) (hs : 0 ≤ swizzleMode ∧ swizzleMode ≤ 128) :
    Same fun A => makeTma2dDesc A data dtype gmemInnerDim gmemOuterDim smemInnerDim smemOuterDim stride
      swizzleMode options := by
  refine Same.bind tmaElemSize_same fun _ he => ?_
  have he := tmaElemSize_ok he
  refine Same.bind (swizzledInnerDim_same hs he.1) fun _ hi => ?_
  have hi := swizzledInnerDim_ok he.1 hs h3 hi
  refine Same.bind (fp4InnerDim_same hs) fun _ hf => ?_
  have hf := fp4InnerDim_ok hs hi hf
  refine Same.bind (Same.cast h1.u64) fun _ _ => Same.bind (Same.cast h2.u64) fun _ _ => ?_
  refine Same.bind (Same.cast hf.u32) fun _ _ => Same.bind (Same.cast h4.u32) fun _ _ => ?_
  exact Same.bind (strideBytes_same h5 he) fun _ _ => Same.const _

theorem makeTma3dDesc_same {data : Ptr} {dtype : DTypeCode}
    {gmemOuterDim gmemBatchDim smemOuterDim smemBatchDim batchStride : Int} {options : TmaOptions}
    (h1 : Extent gmemInnerDim) (h2 : Extent gmemOuterDim) (h3 : Extent gmemBatchDim) (h4 : Extent smemInnerDim)
    (h5 : Extent smemOuterDim) (h6 : Extent smemBatchDim) (h7 : Extent stride) (h8 : Extent batchStride)
    (hs : 0 ≤ swizzleMode ∧ swizzleMode ≤ 128) :
    Same fun A => makeTma3dDesc A data dtype gmemInnerDim gmemOuterDim gmemBatchDim smemInnerDim smemOuterDim
      smemBatchDim stride batchStride swizzleMode options := by
  refine Same.bind tmaElemSize_same fun _ he => ?_
  have he := tmaElemSize_ok he
  refine Same.bind (swizzledInnerDim_same hs he.1) fun _ hi => ?_
  have hi := swizzledInnerDim_ok he.1 hs h4 hi
  refine Same.bind (fp4InnerDim_same hs) fun _ hf => ?_
  have hf := fp4InnerDim_ok hs hi hf
  refine Same.bind (Same.cast h1.u64) fun _ _ => Same.bind (Same.cast h2.u64) fun _ _ => ?_
  refine Same.bind (Same.cast h3.u64) fun _ _ => Same.bind (Same.cast hf.u32) fun _ _ => ?_
  refine Same.bind (Same.cast h5.u32) fun _ _ => Same.bind (Same.cast h6.u32) fun _ _ => ?_
  exact Same.bind (strideBytes_same h7 he) fun _ _ => Same.bind (strideBytes_same h8 he) fun _ _ => Same.const _

/-! ### Launches -/

theorem launchKernel_same {kernel : String} {stream : Ptr} {launchArgs : LaunchArgs} {args : List KernelArg}
    (h1 : Extent launchArgs.gridX) (h2 : Extent launchArgs.gridY) (h3 : Extent launchArgs.numThreads)
    (h4 : Extent launchArgs.smemSize) (h5 : Extent launchArgs.clusterDim) :
    Same fun A => launchKernel A kernel stream launchArgs args := by
  refine Same.bind ?_ fun _ _ => Same.const _
  refine Same.bind (Same.cast h1.u32) fun _ _ => Same.bind (Same.cast h2.u32) fun _ _ => ?_
  refine Same.bind (Same.cast h3.u32) fun _ _ => Same.bind (Same.cast h4.u32) fun _ _ => ?_
  refine Same.bind (Same.ite (fun _ => ?_) fun _ => Same.const _) fun _ _ => Same.const _
  exact Same.bind (Same.cast h5.u32) fun _ _ => Same.const _

/-! ### Over the integers nothing overflows -/

@[simp] theorem noFault_throwStatus {c : Prop} [Decidable c] {status : Status} {message : String} :
    NoFault (throwIf c (Stop.status status message)) := noFault_throwIf fun h => by cases h

@[simp] theorem noFault_status {α : Type} {status : Status} {message : String} :
    NoFault (.error (.status status message) : Native α) := fun h => by cases h

@[simp] theorem noFault_div {T : IntType} {a b : Int} : NoFault (Arith.exact.div T a b : Native Int) := by
  unfold Arith.div
  split
  · intro h
    cases h
  · exact noFault_exact

@[simp] theorem noFault_rem {T : IntType} {a b : Int} : NoFault (Arith.exact.rem T a b : Native Int) := by
  unfold Arith.rem
  split
  · intro h
    cases h
  · exact noFault_ok

@[simp] theorem noFault_asI32 {value : Int} {name : String} : NoFault (asI32 value name) := by
  simp [asI32]

@[simp] theorem noFault_getTmaAlignedSize {value elementSize : Int} :
    NoFault (getTmaAlignedSize .exact value elementSize) := by
  simp [getTmaAlignedSize]

@[simp] theorem noFault_tmaElemSize {data : Ptr} {dtype : DTypeCode} :
    NoFault (tmaElemSize .exact data dtype) := by
  simp [tmaElemSize]

@[simp] theorem noFault_swizzledInnerDim : NoFault (swizzledInnerDim .exact elemSize smemInnerDim swizzleMode) := by
  simp [swizzledInnerDim]

@[simp] theorem noFault_fp4InnerDim {dtype : DTypeCode} {unpacked : Bool} :
    NoFault (fp4InnerDim .exact dtype gmemInnerDim smemInnerDim swizzleMode unpacked) := by
  simp [fp4InnerDim]

@[simp] theorem noFault_strideBytes : NoFault (strideBytes .exact stride elemSize) := by
  simp [strideBytes]

@[simp] theorem noFault_tensorMapDtype {dtype : DTypeCode} {allowTf32 unpacked : Bool} :
    NoFault (tensorMapDtype dtype allowTf32 unpacked) := by
  simp [tensorMapDtype]

@[simp] theorem noFault_tensorMapSwizzle {mode base : Int} : NoFault (tensorMapSwizzle mode base) := by
  simp [tensorMapSwizzle]

@[simp] theorem noFault_makeTma2dDesc {data : Ptr} {dtype : DTypeCode} {gmemOuterDim smemOuterDim : Int}
    {options : TmaOptions} :
    NoFault (makeTma2dDesc .exact data dtype gmemInnerDim gmemOuterDim smemInnerDim smemOuterDim stride
      swizzleMode options) := by
  simp [makeTma2dDesc]

@[simp] theorem noFault_makeTma3dDesc {data : Ptr} {dtype : DTypeCode}
    {gmemOuterDim gmemBatchDim smemOuterDim smemBatchDim batchStride : Int} {options : TmaOptions} :
    NoFault (makeTma3dDesc .exact data dtype gmemInnerDim gmemOuterDim gmemBatchDim smemInnerDim smemOuterDim
      smemBatchDim stride batchStride swizzleMode options) := by
  simp [makeTma3dDesc]

@[simp] theorem noFault_launchKernel {kernel : String} {stream : Ptr} {launchArgs : LaunchArgs}
    {args : List KernelArg} : NoFault (launchKernel .exact kernel stream launchArgs args) := by
  simp [launchKernel, makeLaunchConfig, clusterAttribute]

end DeepGemmRs.Raw
