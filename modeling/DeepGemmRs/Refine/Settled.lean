import DeepGemmRs.Crate.Settled
import DeepGemmRs.Refine.Gemm

/-!
# Where the layout functions of the crate settle

* `settled_fp8GemmScaleLayout` : a scale layout settles but for one sum of the helper;
* `GemmStaysInRange`, `TransformStaysInRange` : what is to fit on the way through the GEMM checks;
* `settled_iff` : **each of the five functions settles exactly when what it forms on its way fits**;
* `hugeContext_not_settled` : a shape with more elements than `isize` counts.
-/

namespace DeepGemmRs

open Checked MachineInt Rounding

namespace Refine

open Crate TensorSpec

theorem settled_requireScaleDtype {dtype : DType} : Settled (requireScaleDtype dtype) := by
  unfold requireScaleDtype
  split
  · exact settled_ok
  · exact settled_ok
  · exact settled_err

theorem settled_ceilDiv {value divisor : Nat} : Settled (Crate.ceilDiv value divisor) := by
  unfold Crate.ceilDiv
  split
  · exact settled_err
  · split
    · exact settled_ok
    · exact settled_err

theorem ceilDiv_ok_iff {value divisor q : Nat} (hd : 0 < divisor) :
    Crate.ceilDiv value divisor = .ok q ↔
      u64.Has (value + (divisor - 1) : Nat) ∧ q = (value + (divisor - 1)) / divisor := by
  unfold Crate.ceilDiv
  rw [if_neg hd.ne']
  split
  · next h =>
    rw [Except.ok.injEq, and_iff_right h]
    exact eq_comm
  · next h => exact iff_of_false nofun fun hn => h hn.1

/-- The helper forms `k + divisor` before it takes `1` away. -/
def ScaleSumOverflows (mn k granK : Nat) (dtype : DType) : Prop :=
  0 < mn ∧ (mn : Int) ≤ i64.hi ∧ 0 < k ∧ 0 < granK ∧ IsScale dtype ∧ k + scaleDivisor granK dtype = i64.hi + 1

theorem ScaleParams.overflows_iff {p : CApi.Fp8GemmScaleLayoutParams} {mn k granK : Nat} {dtype : DType}
    (h : ScaleParams p mn k granK dtype) : p.Overflows ↔ ScaleSumOverflows mn k granK dtype := by
  have hmn := h.mn
  have hk := h.k
  have hg := h.granK
  have hhi := p.mn.2.2
  constructor
  · rintro ⟨hchecked, hsum⟩
    rw [hk, h.divisor] at hsum
    have hmn0 := hchecked.mn
    have hk0 := hchecked.k
    have hg0 := hchecked.granK
    exact ⟨by omega, by omega, by omega, by omega, h.isScale, hsum⟩
  · rintro ⟨hmn0, -, hk0, hg0, -, hsum⟩
    rw [← hk, ← h.divisor] at hsum
    exact ⟨⟨by omega, by omega, by omega, h.isScaleCode, by omega⟩, hsum⟩

/-- A scale layout settles but where the sum is the first integer above `int64_t`. -/
theorem settled_fp8GemmScaleLayout {mn k granK : Nat} {dtype : DType} :
    Settled (fp8GemmScaleLayout mn k granK dtype) ↔ ¬ ScaleSumOverflows mn k granK dtype := by
  unfold fp8GemmScaleLayout
  simp only [settled_bind, settled_requireScaleDtype, settled_usizeToI64, requireScaleDtype_eq_ok, usizeToI64_eq_ok,
    settled_callLayout (CApi.fp8GemmScaleLayout_settles _), true_and]
  constructor
  · rintro h ⟨hmn0, hmn, hk0, hg0, hd, hsum⟩
    have hdivisor : (granK : Int) ≤ scaleDivisor granK dtype := by
      unfold scaleDivisor
      split <;> omega
    simp only [i64] at hmn hsum
    let p : CApi.Fp8GemmScaleLayoutParams :=
      ⟨⟨mn, has_i64.mpr ⟨by omega, by omega⟩⟩, ⟨k, has_i64.mpr ⟨by omega, by omega⟩⟩,
        ⟨granK, has_i64.mpr ⟨by omega, by omega⟩⟩, dtype.toSys⟩
    have hp : ScaleParams p mn k granK dtype := ⟨hd, rfl, rfl, rfl, rfl⟩
    exact h () hd p.mn rfl p.k rfl p.granK rfl (hp.overflows_iff.mpr ⟨hmn0, hmn, hk0, hg0, hd, hsum⟩)
  · intro h _ hd mn' hmn k' hk granK' hg hoverflows
    have hp : ScaleParams ⟨mn', k', granK', dtype.toSys⟩ mn k granK dtype := ⟨hd, hmn, hk, hg, rfl⟩
    exact h (hp.overflows_iff.mp hoverflows)

/-! ## `fp8_gemm_transform_scale` -/

/-- What is to fit on the way through the checks of a scale transform. -/
def TransformStaysInRange (spec : Fp8GemmScaleTransformSpec) : Prop :=
  Checkpoints [
    (0 < spec.mn ∧ 0 < spec.k ∧ 0 < spec.granMn ∧ 0 < spec.granK, StridesFit spec.scale.shape),
    (spec.scale.Packed ∧ spec.scale.dtype = .f32 ∧
        u64.Has (spec.mn + (spec.granMn - 1) : Nat) ∧ u64.Has (spec.k + (spec.granK - 1) : Nat) ∧
        spec.scale.shape =
          ![(spec.mn + (spec.granMn - 1)) / spec.granMn, (spec.k + (spec.granK - 1)) / spec.granK],
      ¬ ScaleSumOverflows spec.mn spec.k spec.granK spec.transformed.dtype)]

theorem settled_validateFp8GemmScaleTransformSpec {spec : Fp8GemmScaleTransformSpec} :
    Settled (validateFp8GemmScaleTransformSpec spec) ↔ TransformStaysInRange spec := by
  unfold validateFp8GemmScaleTransformSpec TransformStaysInRange
  simp only [Checkpoints, and_imp, and_true]
  apply settled_guard_iff settled_requirePositive requirePositive_eq_ok
  intro _
  apply settled_guard_iff settled_requirePositive requirePositive_eq_ok
  intro _
  apply settled_guard_iff settled_requirePositive requirePositive_eq_ok
  intro hgranMn
  apply settled_guard_iff settled_requirePositive requirePositive_eq_ok
  intro hgranK
  apply settled_check_iff settled_requireContiguous requireContiguous_ok_iff
  intro _ _
  apply settled_guard_iff settled_requireDtype requireDtype_eq_ok
  intro _
  simp only [settled_bind, settled_ceilDiv, settled_requireShape, requireShape_eq_ok, settled_requireSpec,
    settled_fp8GemmScaleLayout, ceilDiv_ok_iff hgranMn, ceilDiv_ok_iff hgranK, true_and, implies_true, and_true]
  constructor
  · intro h hrows hcols hshape
    exact h _ ⟨hrows, rfl⟩ _ ⟨hcols, rfl⟩ () hshape
  · rintro h rows ⟨hrows, rfl⟩ cols ⟨hcols, rfl⟩ _ hshape
    exact h hrows hcols hshape

/-! ## `fp8_gemm_nt` -/

/-- What is to fit on the way through `fp8_gemm_nt_output_layout`. -/
def GemmStaysInRange (spec : Fp8GemmNtSpec) (arch : Arch) : Prop :=
  let m := spec.a.shape 0
  let k := spec.a.shape 1
  let n := spec.b.shape 0
  Checkpoints [
    (True, StridesFit spec.a.shape),
    (spec.a.Packed, StridesFit spec.b.shape),
    (spec.b.Packed, StridesFit spec.d.shape),
    (spec.d.Packed ∧ spec.a.dtype = .fp8E4M3 ∧ spec.b.dtype = .fp8E4M3 ∧ spec.d.dtype = .bf16 ∧
        0 < m ∧ 0 < n ∧ 0 < k ∧ spec.b.shape 1 = k ∧ spec.d.shape = ![m, n] ∧ n % 8 = 0 ∧
        arch = .sm90 ∧ (m : Int) ≤ i64.hi ∧ (k : Int) ≤ i64.hi ∧ MnMajorScale spec.aScale m k 128 .f32,
      StridesFit spec.bScale.shape)]

/-- The extents that `int64_t` has are far enough from its end for the scale helper. -/
structure Roomy (m k : Nat) : Prop where
  posM : 0 < m
  posK : 0 < k
  roomM : (m : Int) ≤ i64.hi → (m : Int) * 8 ≤ i64.hi + 1
  roomK : (k : Int) ≤ i64.hi → (k : Int) * 8 ≤ i64.hi + 1
  product : (m : Int) ≤ i64.hi → (k : Int) ≤ i64.hi → (k : Int) * m ≤ i64.hi

/-- A `usize` that is a multiple of `8` is one as an `isize`, and not `0`. -/
theorem eight_le_cast {n : Nat} (hn : u64.Has (n : Nat)) (hpos : 0 < n) (h8 : n % 8 = 0) :
    8 ≤ i64.cast n ∨ i64.cast n ≤ -8 := by
  have hhi := hn.2
  simp only [u64] at hhi
  simp only [IntType.cast, i64, Int.reduceNeg, Int.reduceSub, Int.reduceAdd]
  omega

/-- A factor of a product that fits, the other factor being at least `8`. -/
theorem times_eight_le {n : Nat} {x : Int} (hn : 8 ≤ i64.cast n ∨ i64.cast n ≤ -8) (hx : 0 < x)
    (h : i64.Has (x * i64.cast n)) : x * 8 ≤ i64.hi + 1 := by
  have hlo : -9223372036854775808 ≤ x * i64.cast n := h.1
  have hhi : x * i64.cast n ≤ 9223372036854775807 := h.2
  show x * 8 ≤ 9223372036854775807 + 1
  rcases hn with hn | hn
  · have hmul := Int.mul_le_mul_of_nonneg_left hn hx.le
    omega
  · have hmul := Int.mul_le_mul_of_nonneg_left hn hx.le
    omega

theorem roomy_of_stridesFit {spec : Fp8GemmNtSpec} (hn : u64.Has (spec.b.shape 0 : Nat))
    (ha : StridesFit spec.a.shape) (hb : StridesFit spec.b.shape) (hd : StridesFit spec.d.shape)
    (hm0 : 0 < spec.a.shape 0) (hn0 : 0 < spec.b.shape 0) (hk0 : 0 < spec.a.shape 1)
    (hbk : spec.b.shape 1 = spec.a.shape 1) (hshape : spec.d.shape = ![spec.a.shape 0, spec.b.shape 0])
    (h8 : spec.b.shape 0 % 8 = 0) : Roomy (spec.a.shape 0) (spec.a.shape 1) := by
  have hcast := eight_le_cast hn hn0 h8
  obtain ⟨hd0, hd1⟩ := eq_vec_two.mp hshape
  rw [stridesFit_two] at ha hb hd
  rw [hbk] at hb
  rw [hd0, hd1] at hd
  have hkeep : ∀ n : Nat, (n : Int) ≤ i64.hi → i64.cast n = n :=
    fun n h => IntType.cast_of_has ⟨le_trans (by decide) (Int.natCast_nonneg n), h⟩
  refine ⟨hm0, hk0, fun hm => ?_, fun hk => ?_, fun hm hk => ?_⟩
  · rw [hkeep _ hm, Int.mul_comm] at hd
    exact times_eight_le hcast (by omega) hd
  · rw [hkeep _ hk] at hb
    exact times_eight_le hcast (by omega) hb
  · rw [hkeep _ hm, hkeep _ hk] at ha
    exact ha.2

section

variable {spec : Fp8GemmNtSpec} {arch : Arch} {m n k : Nat}

/-- So near the end of `int64_t` no `k` of a GEMM is. -/
theorem Roomy.not_overflows (h : Roomy m k) {mn : Nat} {dtype : DType} : ¬ ScaleSumOverflows mn k 128 dtype := by
  rintro ⟨-, -, -, -, -, hsum⟩
  have hdivisor : 1 ≤ scaleDivisor 128 dtype ∧ scaleDivisor 128 dtype ≤ 512 := by
    unfold scaleDivisor
    split <;> omega
  have hroom := h.roomK (by omega)
  simp only [i64] at hsum hroom
  omega

/-- The scale of `a` on SM90 is demanded as far as its extents are `int64_t` values. -/
theorem Roomy.scale_iff (h : Roomy m k) {scale : TensorSpec 2} :
    (∃ layout, fp8GemmScaleLayout m k 128 .f32 = .ok layout ∧ scale = layout.logicalSpec) ↔
      (m : Int) ≤ i64.hi ∧ (k : Int) ≤ i64.hi ∧ MnMajorScale scale m k 128 .f32 := by
  constructor
  · rintro ⟨layout, hl, rfl⟩
    obtain ⟨p, hp, hcall⟩ := fp8GemmScaleLayout_eq_ok.mp hl
    exact ⟨hp.mn ▸ p.mn.2.2, hp.k ▸ p.k.2.2, (hp.layout hcall).spec⟩
  · rintro ⟨hm, hk, hscale⟩
    have hm8 := h.roomM hm
    have hk8 := h.roomK hk
    have hmk := h.product hm hk
    have hm0 := h.posM
    have hk0 := h.posK
    simp only [i64] at hm hk hm8 hk8 hmk
    let p : CApi.Fp8GemmScaleLayoutParams :=
      ⟨⟨m, has_i64.mpr ⟨by omega, by omega⟩⟩, ⟨k, has_i64.mpr ⟨by omega, by omega⟩⟩, ⟨128, by decide⟩,
        DType.f32.toSys⟩
    have hp : ScaleParams p m k 128 .f32 := ⟨.inl rfl, rfl, rfl, rfl, rfl⟩
    have hmnval : p.mn.val = m := rfl
    have hkval : p.k.val = k := rfl
    have hdivisor : p.divisor = 128 := rfl
    have hcols0 : 0 ≤ p.cols := ceilDiv_nonneg (by omega) (Int.natCast_nonneg k)
    have hcols : p.cols ≤ k := ceilDiv_le_self (by omega) (Int.natCast_nonneg k)
    have hal : p.alignedMn < m + 4 := hp.alignedMn ▸ alignUp_lt (by decide)
    have hal0 : (m : Int) ≤ p.alignedMn := hp.alignedMn ▸ le_alignUp (by decide)
    have hcount : p.cols * p.alignedMn ≤ k * (m + 3) := Int.mul_le_mul hcols (by omega) (by omega) (by omega)
    rw [Int.mul_add] at hcount
    have hadmits : p.Admits := by
      refine ⟨⟨by omega, by omega, show (0 : Int) < 128 by decide, hp.isScaleCode, ?_⟩, ?_, ?_, ?_⟩
      · simp only [i64]; omega
      · simp only [i64]; omega
      · simp only [i64]; omega
      · simp only [u64]; omega
    obtain ⟨layout, hcall⟩ := hp.succeeds hadmits fun ho => h.not_overflows (hp.overflows_iff.mp ho)
    exact ⟨layout, fp8GemmScaleLayout_eq_ok.mpr ⟨p, hp, hcall⟩, (hp.layout hcall).spec_iff.mpr hscale⟩

theorem settled_requireScales (h : Roomy m k) :
    Settled (requireScales spec m n k arch) ↔
      (arch = .sm90 → (m : Int) ≤ i64.hi → (k : Int) ≤ i64.hi → MnMajorScale spec.aScale m k 128 .f32 →
        StridesFit spec.bScale.shape) := by
  cases arch with
  | sm90 =>
    simp only [requireScales, settled_bind, settled_fp8GemmScaleLayout, settled_requireSpec, requireSpec_eq_ok,
      settled_requireContiguous, settled_requireDtype, settled_ceilDiv, settled_requireShape, h.not_overflows,
      not_false_eq_true, true_and, implies_true, and_true, forall_const]
    rw [← and_imp, ← and_imp, and_assoc, ← h.scale_iff]
    constructor
    · rintro hall ⟨layout, hl, hspec⟩
      exact hall layout hl hspec
    · intro hall layout hl hspec
      exact hall ⟨layout, hl, hspec⟩
  | sm100 =>
    simp only [requireScales, settled_bind, settled_fp8GemmScaleLayout, settled_requireSpec, h.not_overflows,
      not_false_eq_true, implies_true, and_self, reduceCtorEq, false_implies]

end

theorem settled_validateFp8GemmNtSpec {spec : Fp8GemmNtSpec} {arch : Arch} (hn : u64.Has (spec.b.shape 0 : Nat)) :
    Settled (validateFp8GemmNtSpec spec arch) ↔ GemmStaysInRange spec arch := by
  unfold validateFp8GemmNtSpec GemmStaysInRange
  simp only [Checkpoints, and_imp, and_true, true_implies]
  apply settled_check_iff settled_requireContiguous requireContiguous_ok_iff
  intro ha _
  apply settled_check_iff settled_requireContiguous requireContiguous_ok_iff
  intro hb _
  apply settled_check_iff settled_requireContiguous requireContiguous_ok_iff
  intro hd _
  apply settled_guard_iff settled_requireDtype requireDtype_eq_ok
  intro _
  apply settled_guard_iff settled_requireDtype requireDtype_eq_ok
  intro _
  apply settled_guard_iff settled_requireDtype requireDtype_eq_ok
  intro _
  apply settled_guard_iff settled_requirePositive requirePositive_eq_ok
  intro hm0
  apply settled_guard_iff settled_requirePositive requirePositive_eq_ok
  intro hn0
  apply settled_guard_iff settled_requirePositive requirePositive_eq_ok
  intro hk0
  apply settled_guard_iff settled_throwIf (throwIf_eq_ok.trans not_not)
  intro hbk
  apply settled_guard_iff settled_requireShape requireShape_eq_ok
  intro hshape
  apply settled_guard_iff settled_throwIf (throwIf_eq_ok.trans not_not)
  intro h8
  have hroomy := roomy_of_stridesFit hn ha hb hd hm0 hn0 hk0 hbk hshape h8
  rw [settled_bind, settled_requireScales hroomy]
  exact and_iff_left fun _ _ => settled_ok

theorem settled_fp8GemmNtOutputLayout {spec : Fp8GemmNtSpec} {arch : Arch} (hn : u64.Has (spec.b.shape 0 : Nat)) :
    Settled (fp8GemmNtOutputLayout spec arch) ↔ GemmStaysInRange spec arch := by
  unfold fp8GemmNtOutputLayout
  rw [settled_bind, settled_validateFp8GemmNtSpec hn]
  refine and_iff_left fun _ _ => ?_
  simp only [settled_bind, settled_usizeToI64, settled_callLayout (CApi.fp8GemmNtOutputLayout_settles _),
    not_false_eq_true, implies_true, and_self]

/-! ## The five functions -/

/-- **The five functions return `Ok` or `Err` exactly on the specs where each product and each sum, at the point
where the checks before it have passed, fits its type.** -/
theorem settled_iff (arch : Arch) :
    (∀ spec : MqaLogitsSpec, Settled (mqaLogitsLayout spec arch) ↔ MqaStaysInRange spec) ∧
    (∀ spec : PagedMqaLogitsMetadataSpec,
      Settled (pagedMqaLogitsMetadataLayout spec arch) ↔ StridesFit spec.contextLens.shape) ∧
    (∀ spec : PagedMqaLogitsSpec, Settled (pagedMqaLogitsLayout spec arch) ↔ PagedStaysInRange spec arch) ∧
    (∀ spec : Fp8GemmNtSpec, u64.Has (spec.b.shape 0 : Nat) →
      (Settled (fp8GemmNtOutputLayout spec arch) ↔ GemmStaysInRange spec arch)) ∧
    ∀ spec : Fp8GemmScaleTransformSpec,
      Settled (validateFp8GemmScaleTransformSpec spec) ↔ TransformStaysInRange spec :=
  ⟨fun _ => settled_mqaLogitsLayout, fun _ => settled_pagedMqaLogitsMetadataLayout,
    fun _ => settled_pagedMqaLogitsLayout, fun _ hn => settled_fp8GemmNtOutputLayout hn,
    fun _ => settled_validateFp8GemmScaleTransformSpec⟩

theorem smallGemm_settled_iff :
    Settled (fp8GemmNtOutputLayout smallGemm.spec .sm90) ↔ GemmStaysInRange smallGemm.spec .sm90 :=
  (settled_iff .sm90).2.2.2.1 smallGemm.spec (by decide)

/-- As many context lengths as `isize` does not count. -/
def hugeContext : PagedMqaLogitsMetadataSpec where
  contextLens := ⟨.i32, ![4294967296, 4294967296], ![4294967296, I64.one]⟩
  indices := none
  blockKv := 64
  numSms := 132

theorem hugeContext_not_settled :
    pagedMqaLogitsMetadataLayout hugeContext .sm90 = .error (.panic "contiguous stride overflowed isize") ∧
      ¬ Settled (pagedMqaLogitsMetadataLayout hugeContext .sm90) := by
  have hpanics : pagedMqaLogitsMetadataLayout hugeContext .sm90 =
      .error (.panic "contiguous stride overflowed isize") := rfl
  refine ⟨hpanics, ?_⟩
  rw [hpanics]
  exact not_settled_panic

end Refine

end DeepGemmRs
