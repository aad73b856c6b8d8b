import DeepGemmRs.Crate.Checks
import DeepGemmRs.Raw.Gemm

/-!
# The crate's GEMM wrapper

`deepgemm/src/gemm.rs`.

* `Fp8GemmScaleTransformLaunch`, `Fp8GemmNtLaunch` and their specs;
* `validateFp8GemmScaleTransformSpec`, `validateFp8GemmNtSpec`;
* `fp8GemmNtOutputLayout`, `fp8GemmScaleLayout`;
* `toRaw` of each launch : the struct it hands to the C ABI;
* `Fp8GemmNtLaunch.Accepted` : the checks made before the conversion.
-/

namespace DeepGemmRs.Crate

open Checked MachineInt TensorSpec

structure Fp8GemmScaleTransformSpec where
  scale : TensorSpec 2
  transformed : TensorSpec 2
  mn : Nat
  k : Nat
  granMn : Nat
  granK : Nat

structure Fp8GemmNtSpec where
  a : TensorSpec 2
  aScale : TensorSpec 2
  b : TensorSpec 2
  bScale : TensorSpec 2
  d : TensorSpec 2

structure Fp8GemmScaleTransformLaunch where
  scale : TensorArg 2
  transformed : TensorArg 2
  mn : Nat
  k : Nat
  granMn : Nat
  granK : Nat
  stream : Ptr

def Fp8GemmScaleTransformLaunch.spec (params : Fp8GemmScaleTransformLaunch) : Fp8GemmScaleTransformSpec where
  scale := params.scale.spec
  transformed := params.transformed.spec
  mn := params.mn
  k := params.k
  granMn := params.granMn
  granK := params.granK

structure Fp8GemmNtLaunch where
  a : TensorArg 2
  aScale : TensorArg 2
  b : TensorArg 2
  bScale : TensorArg 2
  d : TensorArg 2
  stream : Ptr

def Fp8GemmNtLaunch.spec (params : Fp8GemmNtLaunch) : Fp8GemmNtSpec where
  a := params.a.spec
  aScale := params.aScale.spec
  b := params.b.spec
  bScale := params.bScale.spec
  d := params.d.spec

/-! ## Checks and layouts -/

def ceilDiv (value divisor : Nat) : Rust Nat :=
  if divisor = 0 then .error (.invalid "divisor must be positive")
  else if u64.Has (value + (divisor - 1) : Nat) then .ok ((value + (divisor - 1)) / divisor)
  else .error (.invalid "ceil_div overflowed")

/-- The dtypes a transformed scale may have. -/
def requireScaleDtype : DType → Rust Unit
  | .f32 | .packedUe8M0 => .ok ()
  | _ => .error (.invalid "scale dtype must be f32 or packed UE8M0")

def fp8GemmScaleLayout (mn k granK : Nat) (scaleDtype : DType) : Rust TensorLayout2D := do
  requireScaleDtype scaleDtype
  let mn ← usizeToI64 mn "mn"
  let k ← usizeToI64 k "k"
  let granK ← usizeToI64 granK "gran_k"
  callLayout (CApi.fp8GemmScaleLayout (some { mn, k, granK, scaleDtype := scaleDtype.toSys }))

def validateFp8GemmScaleTransformSpec (spec : Fp8GemmScaleTransformSpec) : Rust Unit := do
  requirePositive spec.mn "mn"
  requirePositive spec.k "k"
  requirePositive spec.granMn "gran_mn"
  requirePositive spec.granK "gran_k"
  requireContiguous spec.scale "scale"
  requireDtype spec.scale .f32 "scale"
  let rows ← ceilDiv spec.mn spec.granMn
  let cols ← ceilDiv spec.k spec.granK
  requireShape spec.scale.shape ![rows, cols] "scale"
  let layout ← fp8GemmScaleLayout spec.mn spec.k spec.granK spec.transformed.dtype
  requireSpec spec.transformed layout.logicalSpec "transformed"

structure GemmDims where
  m : Nat
  n : Nat

/-- The checks of the scales, by architecture. -/
def requireScales (spec : Fp8GemmNtSpec) (m n k : Nat) : Arch → Rust Unit
  | .sm90 => do
    let aLayout ← fp8GemmScaleLayout m k 128 .f32
    requireSpec spec.aScale aLayout.logicalSpec "a_scale"
    requireContiguous spec.bScale "b_scale"
    requireDtype spec.bScale .f32 "b_scale"
    let rows ← ceilDiv n 128
    let cols ← ceilDiv k 128
    requireShape spec.bScale.shape ![rows, cols] "b_scale"
  | .sm100 => do
    let aLayout ← fp8GemmScaleLayout m k 128 .packedUe8M0
    let bLayout ← fp8GemmScaleLayout n k 128 .packedUe8M0
    requireSpec spec.aScale aLayout.logicalSpec "a_scale"
    requireSpec spec.bScale bLayout.logicalSpec "b_scale"

def validateFp8GemmNtSpec (spec : Fp8GemmNtSpec) (arch : Arch) : Rust GemmDims := do
  requireContiguous spec.a "a"
  requireContiguous spec.b "b"
  requireContiguous spec.d "d"
  requireDtype spec.a .fp8E4M3 "a"
  requireDtype spec.b .fp8E4M3 "b"
  requireDtype spec.d .bf16 "d"
  let m := spec.a.shape 0
  let k := spec.a.shape 1
  let n := spec.b.shape 0
  requirePositive m "m"
  requirePositive n "n"
  requirePositive k "k"
  throwIf (spec.b.shape 1 ≠ k) (.invalid "b shape must be [n, k] with the same k as a")
  requireShape spec.d.shape ![m, n] "d"
  throwIf (n % 8 ≠ 0) (.invalid "n must be a multiple of 8")
  requireScales spec m n k arch
  .ok { m, n }

def fp8GemmNtOutputLayout (spec : Fp8GemmNtSpec) (arch : Arch) : Rust TensorLayout2D := do
  let dims ← validateFp8GemmNtSpec spec arch
  let m ← usizeToI64 dims.m "m"
  let n ← usizeToI64 dims.n "n"
  callLayout (CApi.fp8GemmNtOutputLayout (some { m, n, outputDtype := spec.d.dtype.toSys }))

/-! ## Launches -/

def Fp8GemmScaleTransformLaunch.toRaw (params : Fp8GemmScaleTransformLaunch) :
    Rust Raw.Gemm.Fp8GemmScaleTransformParams := do
  let scale ← params.scale.toRaw
  let transformed ← params.transformed.toRaw
  let mn ← usizeToI64 params.mn "mn"
  let k ← usizeToI64 params.k "k"
  let granMn ← usizeToI64 params.granMn "gran_mn"
  let granK ← usizeToI64 params.granK "gran_k"
  .ok { scale, transformed, mn, k, granMn, granK, stream := params.stream }

namespace Fp8GemmNtLaunch

def toRaw (params : Fp8GemmNtLaunch) : Rust Raw.Gemm.Fp8GemmNtParams := do
  let a ← params.a.toRaw
  let aScale ← params.aScale.toRaw
  let b ← params.b.toRaw
  let bScale ← params.bScale.toRaw
  let d ← params.d.toRaw
  .ok { a, aScale, b, bScale, d, stream := params.stream }

/-- What `fp8_gemm_nt` checks before it converts its arguments. -/
def check (params : Fp8GemmNtLaunch) (arch : Arch) : Rust Unit := do
  let layout ← fp8GemmNtOutputLayout params.spec arch
  requireSpec params.d.spec layout.logicalSpec "d"

/-- The layout is `Ok` and the output spec is its logical spec. -/
def Accepted (params : Fp8GemmNtLaunch) (arch : Arch) : Prop :=
  ∃ layout, fp8GemmNtOutputLayout params.spec arch = .ok layout ∧ params.d.spec = layout.logicalSpec

theorem check_eq_ok {params : Fp8GemmNtLaunch} {arch : Arch} {u : Unit} :
    params.check arch = .ok u ↔ params.Accepted arch := by
  simp [check, Accepted]

end Fp8GemmNtLaunch

end DeepGemmRs.Crate
