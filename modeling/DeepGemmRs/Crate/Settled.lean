import DeepGemmRs.Crate.Mqa

/-!
# Answers of the crate

A function of the crate settles when it returns `Ok` or `Err`: no `expect` fails, no `usize` or `isize`
operation overflows, and no native call is without a result. The checks run in a fixed order, so what has to
fit at one of them has to fit only where the checks before it passed.

* `Settled`, `Checkpoints` : the property, and a list of what is to fit where;
* `settled_guard_iff`, `settled_check_iff` : one check of a sequence, which always settles or settles where
  something fits;
* `settled_contiguous` : `TensorSpec::contiguous` settles exactly when its products stay within `isize`;
* `settled_callLayout` : a layout call settles exactly when the helper does not overflow;
* `settled_mqaLogitsLayout`, `settled_pagedMqaLogitsMetadataLayout`, `settled_pagedMqaLogitsLayout` : **when the
  MQA layouts settle.**
-/

namespace DeepGemmRs

open Checked MachineInt

/-- An `Err`, and no panic. -/
def RustStop.IsErr : RustStop → Prop
  | .err _ => True
  | .panic _ => False
  | .undefined => False

/-- The code returns `Ok` or `Err`. -/
def Settled {α : Type} (x : Rust α) : Prop := StopsIn RustStop.IsErr x

/-- Points on the way of a program: what leads there from the one before, and what is to fit there. -/
def Checkpoints : List (Prop × Prop) → Prop
  | [] => True
  | (reached, fits) :: rest => reached → fits ∧ Checkpoints rest

section

variable {α β : Type}

@[simp] theorem settled_ok {a : α} : Settled (.ok a : Rust α) := stopsIn_ok

@[simp] theorem settled_err {error : Error} : Settled (.error (.err error) : Rust α) := stopsIn_error.mpr trivial

@[simp] theorem not_settled_panic {message : String} : ¬ Settled (.error (.panic message) : Rust α) :=
  fun h => stopsIn_error.mp h

@[simp] theorem not_settled_undefined : ¬ Settled (.error .undefined : Rust α) := fun h => stopsIn_error.mp h

theorem settled_bind {x : Rust α} {f : α → Rust β} :
    Settled (x >>= f) ↔ Settled x ∧ ∀ a, x = .ok a → Settled (f a) := stopsIn_bind

/-- A value that can be had where something fits. -/
theorem settled_bind_value {x : Rust α} {a : α} {f : α → Rust β} {fits : Prop} (hs : Settled x ↔ fits)
    (hok : fits → x = .ok a) : Settled (x >>= f) ↔ fits ∧ Settled (f a) := by
  rw [settled_bind, hs]
  refine and_congr_right fun hfits => ?_
  rw [hok hfits]
  exact ⟨fun h => h a rfl, fun h b hb => Except.ok.inj hb ▸ h⟩

/-- A check that settles is a guard. -/
theorem settled_guard {x : Rust Unit} {f : Unit → Rust β} {passes : Prop} (hs : Settled x)
    (hok : x = .ok () ↔ passes) : Settled (x >>= f) ↔ (passes → Settled (f ())) := by
  rw [settled_bind, ← hok, and_iff_right hs]
  exact ⟨fun h => h (), fun h _ => h⟩

/-- A check that settles where something fits, and passes where more holds. -/
theorem settled_check {x : Rust Unit} {f : Unit → Rust β} {fits passes : Prop} (hs : Settled x ↔ fits)
    (hok : x = .ok () ↔ fits ∧ passes) : Settled (x >>= f) ↔ fits ∧ (passes → Settled (f ())) := by
  rw [settled_bind, hs]
  refine and_congr_right fun hfits => ?_
  have hpasses : x = .ok () ↔ passes := hok.trans (and_iff_right hfits)
  exact ⟨fun h hp => h () (hpasses.mpr hp), fun h _ hx => h (hpasses.mp hx)⟩

theorem settled_guard_iff {x : Rust Unit} {f : Unit → Rust β} {passes rest : Prop} (hs : Settled x)
    (hok : x = .ok () ↔ passes) (h : passes → (Settled (f ()) ↔ rest)) : Settled (x >>= f) ↔ (passes → rest) := by
  rw [settled_guard hs hok]
  exact imp_congr_right h

theorem settled_check_iff {x : Rust Unit} {f : Unit → Rust β} {fits passes rest : Prop} (hs : Settled x ↔ fits)
    (hok : x = .ok () ↔ fits ∧ passes) (h : fits → passes → (Settled (f ()) ↔ rest)) :
    Settled (x >>= f) ↔ fits ∧ (passes → rest) := by
  rw [settled_check hs hok]
  exact and_congr_right fun hfits => imp_congr_right (h hfits)

@[simp] theorem settled_throwIf {c : Prop} [Decidable c] {error : Error} : Settled (throwIf c (.err error)) :=
  stopsIn_throwIf.mpr fun _ => trivial

end

/-! ## Arithmetic -/

theorem settled_usizeMul {a b : Nat} : Settled (usizeMul a b) ↔ u64.Has (a * b : Nat) := by
  unfold usizeMul
  split
  · next h => exact iff_of_true settled_ok h
  · next h => exact iff_of_false not_settled_panic h

theorem settled_usizeAdd {a b : Nat} : Settled (usizeAdd a b) ↔ u64.Has (a + b : Nat) := by
  unfold usizeAdd
  split
  · next h => exact iff_of_true settled_ok h
  · next h => exact iff_of_false not_settled_panic h

theorem settled_usizeMul_bind {α : Type} {a b : Nat} {f : Nat → Rust α} :
    Settled (usizeMul a b >>= f) ↔ u64.Has (a * b : Nat) ∧ Settled (f (a * b)) :=
  settled_bind_value settled_usizeMul fun hfits => if_pos hfits

theorem settled_usizeAdd_bind {α : Type} {a b : Nat} {f : Nat → Rust α} :
    Settled (usizeAdd a b >>= f) ↔ u64.Has (a + b : Nat) ∧ Settled (f (a + b)) :=
  settled_bind_value settled_usizeAdd fun hfits => if_pos hfits

theorem settled_usizeToI64 {value : Nat} {name : String} : Settled (usizeToI64 value name) := by
  unfold usizeToI64
  split
  · exact settled_ok
  · exact settled_err

theorem settled_i64ToUsize {value : Int} {name : String} : Settled (i64ToUsize value name) := by
  unfold i64ToUsize
  split
  · exact settled_ok
  · exact settled_err

theorem settled_i64ToIsize {value : Int} {name : String} : Settled (i64ToIsize value name) := by
  unfold i64ToIsize
  split
  · exact settled_ok
  · exact settled_err

/-! ## Contiguity -/

namespace TensorSpec

variable {rank : Nat}

theorem settled_checkedMul {stride : I64} {size : Int} :
    Settled (checkedMul stride size) ↔ i64.Has (stride * size) := by
  unfold checkedMul
  split
  · next h => exact iff_of_true settled_ok h
  · next h => exact iff_of_false not_settled_panic h

theorem settled_contiguousLoop (shape : Fin rank → Nat) :
    ∀ (index : Nat) (h : index ≤ rank) (strides : Fin rank → I64) (stride : I64),
      stride.val = castCount shape index →
      (Settled (contiguousLoop shape index h strides stride) ↔ ∀ n < index, i64.Has (castCount shape n)) := by
  intro index
  induction index with
  | zero =>
    intro h strides stride _
    exact iff_of_true settled_ok fun n hn => absurd hn (Nat.not_lt_zero n)
  | succ index ih =>
    intro h strides stride hstride
    have hprod : stride.val * i64.cast (shape ⟨index, h⟩) = castCount shape index := by
      rw [hstride, castCount_succ shape (n := index) h]
    rw [contiguousLoop, settled_bind, settled_checkedMul, hprod, Nat.forall_lt_succ_right, and_comm]
    constructor
    · rintro ⟨hrest, hfits⟩
      have hproduct : checkedMul stride (i64.cast (shape ⟨index, h⟩)) = .ok ⟨_, hfits⟩ :=
        checkedMul_eq_ok.mpr hprod.symm
      exact ⟨(ih _ _ _ rfl).mp (hrest _ hproduct), hfits⟩
    · rintro ⟨hall, hfits⟩
      refine ⟨?_, hfits⟩
      intro product hproduct
      rw [checkedMul_eq_ok, hprod] at hproduct
      exact (ih _ _ _ hproduct).mpr hall

/-- `contiguous` fails its `expect` exactly where one of its products leaves `isize`. -/
theorem settled_contiguous {dtype : DType} {shape : Fin rank → Nat} :
    Settled (contiguous dtype shape) ↔ StridesFit shape := by
  unfold contiguous
  rw [settled_bind, settled_contiguousLoop shape rank le_rfl _ I64.one (by rw [castCount_rank]; rfl)]
  exact and_iff_left fun _ _ => settled_ok

theorem settled_requireContiguous {tensor : TensorSpec rank} {name : String} :
    Settled (tensor.requireContiguous name) ↔ StridesFit tensor.shape := by
  unfold requireContiguous isContiguous
  rw [settled_bind, settled_bind, settled_contiguous]
  rw [and_iff_left fun _ _ => settled_throwIf, and_iff_left fun _ _ => settled_ok]

theorem settled_requireDtype {tensor : TensorSpec rank} {expected : DType} {name : String} :
    Settled (tensor.requireDtype expected name) := settled_throwIf

/-- One axis has one product, its extent. -/
theorem stridesFit_one (shape : Fin 1 → Nat) : StridesFit shape := by
  intro n hn
  obtain rfl : n = 0 := by omega
  rw [castCount_succ shape (by omega), castCount_rank, Int.one_mul]
  exact IntType.cast_has (by decide) _

theorem stridesFit_two {shape : Fin 2 → Nat} :
    StridesFit shape ↔ i64.Has (i64.cast (shape 1) * i64.cast (shape 0)) := by
  have hlast : castCount shape 1 = i64.cast (shape 1) := by
    rw [castCount_succ shape (by omega), castCount_rank, Int.one_mul]
    rfl
  have hall : castCount shape 0 = i64.cast (shape 1) * i64.cast (shape 0) := by
    rw [castCount_succ shape (by omega), hlast]
    rfl
  rw [← hall]
  constructor
  · intro h
    exact h 0 (by omega)
  · intro h n hn
    rcases (by omega : n = 0 ∨ n = 1) with rfl | rfl
    · exact h
    · rw [hlast]
      exact IntType.cast_has (by decide) _

end TensorSpec

namespace Crate

open TensorSpec

variable {rank : Nat}

/-! ## Layout calls -/

theorem settled_dtypeFromSys {dtype : DTypeCode} : Settled (dtypeFromSys dtype) := by
  unfold dtypeFromSys
  split
  · exact settled_ok
  · exact settled_err

theorem settled_elementCountFromSys {count : Int} : Settled (elementCountFromSys count) := by
  unfold elementCountFromSys
  split
  · exact settled_ok
  · exact settled_err

theorem settled_logitsLayoutFromSys {raw : RawLayout2D} : Settled (logitsLayoutFromSys raw) := by
  unfold logitsLayoutFromSys
  simp only [settled_bind, settled_dtypeFromSys, settled_i64ToUsize, settled_i64ToIsize,
    settled_elementCountFromSys, settled_ok, implies_true, and_self]

/-- A layout call has no result exactly where the helper overflows. -/
theorem settled_callLayout {overflows admits : Prop} {raw : RawLayout2D} {call : CApi.Call}
    (h : ∀ s, CApi.Settles overflows admits raw s (call s)) : Settled (callLayout call) ↔ ¬ overflows := by
  let s : CApi.CallState := ⟨"", some RawLayout2D.empty⟩
  unfold callLayout
  by_cases ho : overflows
  · rw [(h s).overflow ho]
    exact iff_of_false not_settled_undefined (not_not.mpr ho)
  refine iff_of_true ?_ ho
  by_cases ha : admits
  · rw [(h s).success ho ha (by simp [s])]
    exact settled_logitsLayoutFromSys
  · obtain ⟨message, -, hr⟩ := (h s).refused ho fun hadmits => absurd hadmits ha
    rw [hr]
    exact settled_err

/-! ## Checks -/

theorem settled_requireShape {actual expected : Fin rank → Nat} {name : String} :
    Settled (requireShape actual expected name) := settled_throwIf

theorem settled_requireSpec {actual expected : TensorSpec rank} {name : String} :
    Settled (requireSpec actual expected name) := settled_throwIf

theorem settled_requirePositive {value : Nat} {name : String} : Settled (requirePositive value name) :=
  settled_throwIf

theorem settled_requireLogitsDtype {dtype : DType} : Settled (requireLogitsDtype dtype) := by
  unfold requireLogitsDtype
  split
  · exact settled_ok
  · exact settled_ok
  · exact settled_err

theorem settled_requireWeights {weights : TensorSpec 2} {rows heads : Nat} {arch : Arch} {logitsDtype : DType} :
    Settled (requireWeights weights rows heads arch logitsDtype) := by
  refine settled_bind.mpr ⟨settled_throwIf, fun _ _ => ?_⟩
  split
  · exact settled_ok
  · exact settled_throwIf
  · exact settled_err

theorem settled_requireI32Vector {tensor : TensorSpec 1} {len : Nat} {name : String} :
    Settled (requireI32Vector tensor len name) := by
  unfold requireI32Vector
  simp only [settled_bind, settled_requireContiguous, stridesFit_one, settled_requireDtype, settled_requireShape,
    implies_true, and_self]

theorem settled_require2DI32 {tensor : TensorSpec 2} {shape : Fin 2 → Nat} {name : String} :
    Settled (require2DI32 tensor shape name) ↔ StridesFit tensor.shape := by
  unfold require2DI32
  simp only [settled_bind, settled_requireContiguous, settled_requireDtype, settled_requireShape, implies_true,
    and_self, and_true]

theorem require2DI32_ok_iff {tensor : TensorSpec 2} {shape : Fin 2 → Nat} {name : String} {u : Unit} :
    require2DI32 tensor shape name = .ok u ↔
      StridesFit tensor.shape ∧ tensor.Packed ∧ tensor.dtype = .i32 ∧ tensor.shape = shape := by
  simp only [require2DI32, bind_eq_ok, requireContiguous_ok_iff, requireDtype_eq_ok, requireShape_eq_ok,
    exists_const, and_assoc]

theorem settled_logicalHeadDim {physical : Nat} {isFp4 : Bool} :
    Settled (logicalHeadDim physical isFp4) ↔ (0 < physical → isFp4 = true → u64.Has (physical * 2 : Nat)) := by
  unfold logicalHeadDim
  rw [settled_bind]
  simp only [settled_requirePositive, requirePositive_eq_ok, true_and, forall_const]
  refine forall_congr' fun _ => ?_
  cases isFp4 with
  | true => simp [settled_usizeMul]
  | false => simp

theorem settled_logicalHeadDim_bind {α : Type} {physical : Nat} {isFp4 : Bool} {f : Nat → Rust α} :
    Settled (logicalHeadDim physical isFp4 >>= f) ↔
      (0 < physical → (isFp4 = true → u64.Has (physical * 2 : Nat)) ∧
        Settled (f (if isFp4 then physical * 2 else physical))) := by
  rw [settled_bind, settled_logicalHeadDim]
  constructor
  · intro h hpos
    exact ⟨h.1 hpos, h.2 _ (logicalHeadDim_eq_ok.mpr ⟨hpos, h.1 hpos, rfl⟩)⟩
  · intro h
    refine ⟨fun hpos => (h hpos).1, ?_⟩
    intro headDim hheadDim
    obtain ⟨hpos, -, rfl⟩ := logicalHeadDim_eq_ok.mp hheadDim
    exact (h hpos).2

theorem settled_validateBlockKv {arch : Arch} {blockKv : Nat} : Settled (validateBlockKv arch blockKv) := by
  cases arch with
  | sm90 => exact settled_throwIf
  | sm100 => exact settled_throwIf

theorem settled_requireArchSupport {arch : Arch} {isFp4 : Bool} {numHeads headDim : Nat} :
    Settled (requireArchSupport arch isFp4 numHeads headDim) := by
  refine settled_bind.mpr ⟨settled_throwIf, fun _ _ => ?_⟩
  cases arch with
  | sm90 => exact settled_bind.mpr ⟨settled_throwIf, fun _ _ => settled_throwIf⟩
  | sm100 =>
    refine settled_bind.mpr ⟨settled_throwIf, fun _ _ => ?_⟩
    split
    · exact settled_throwIf
    · exact settled_throwIf

theorem settled_requireQScale {qScale : Option (TensorSpec rank)} {shape : Fin rank → Nat} :
    Settled (requireQScale qScale shape) ↔ ∀ scale ∈ qScale, StridesFit scale.shape := by
  cases qScale with
  | none => simp [requireQScale]
  | some scale =>
    simp [requireQScale, settled_bind, settled_requireContiguous, settled_requireDtype, settled_requireShape]

theorem settled_requireIndices {indices : Option (TensorSpec 1)} {arch : Arch} {batchSize nextN : Nat} :
    Settled (requireIndices indices arch batchSize nextN) := by
  cases indices with
  | none => exact settled_ok
  | some indices => exact settled_bind.mpr ⟨settled_throwIf, fun _ _ => settled_requireI32Vector⟩

theorem requireQScale_ok_iff {qScale : Option (TensorSpec rank)} {shape : Fin rank → Nat} {u : Unit} :
    requireQScale qScale shape = .ok u ↔ (∀ scale ∈ qScale, StridesFit scale.shape) ∧
      ∀ scale ∈ qScale, scale.Packed ∧ scale.dtype = .packedUe8M0 ∧ scale.shape = shape := by
  cases qScale with
  | none => simp [requireQScale]
  | some scale => simp [requireQScale, requireContiguous_ok_iff, and_assoc]

/-! ## `fp8_fp4_mqa_logits` -/

/-- What is to fit on the way through `mqa_logits_layout`. -/
def MqaStaysInRange (spec : MqaLogitsSpec) : Prop :=
  let isFp4 := spec.qScale.isSome
  Checkpoints [
    ((spec.logitsDtype = .f32 ∨ spec.logitsDtype = .bf16) ∧ ¬ (spec.cleanLogits ∧ spec.maxSeqlenK > 0) ∧
        0 < spec.q.shape 2,
      isFp4 = true → u64.Has (spec.q.shape 2 * 2 : Nat)),
    (spec.kv.shape 1 = spec.q.shape 2, StridesFit spec.q.shape),
    (spec.q.Packed, StridesFit spec.kv.shape),
    (spec.kv.Packed ∧ spec.q.dtype = elementDtype isFp4 ∧ spec.kv.dtype = elementDtype isFp4,
      ∀ scale ∈ spec.qScale, StridesFit scale.shape)]

theorem settled_validateMqaLogitsSpec {spec : MqaLogitsSpec} {arch : Arch} :
    Settled (validateMqaLogitsSpec spec arch) ↔ MqaStaysInRange spec := by
  unfold validateMqaLogitsSpec MqaStaysInRange
  simp only [Checkpoints, and_imp, and_true]
  apply settled_guard_iff settled_requireLogitsDtype requireLogitsDtype_eq_ok
  intro _
  apply settled_guard_iff settled_throwIf throwIf_eq_ok
  intro _
  rw [settled_logicalHeadDim_bind]
  refine imp_congr_right fun _ => and_congr_right fun _ => ?_
  rw [settled_guard settled_throwIf throwIf_eq_ok, physicalHeadDim_logical, not_not]
  refine imp_congr_right fun _ => ?_
  apply settled_check_iff settled_requireContiguous requireContiguous_ok_iff
  intro _ _
  apply settled_check_iff settled_requireContiguous requireContiguous_ok_iff
  intro _ _
  apply settled_guard_iff settled_requireDtype requireDtype_eq_ok
  intro _
  apply settled_guard_iff settled_requireDtype requireDtype_eq_ok
  intro _
  rw [settled_bind, settled_requireQScale]
  -- from here on nothing is multiplied: the last contiguous tensors have one axis
  refine and_iff_left fun _ _ => ?_
  simp only [settled_bind, settled_requireDtype, settled_requireContiguous, stridesFit_one, settled_requireShape,
    settled_requireWeights, settled_requireI32Vector, settled_requireArchSupport, settled_ok, implies_true, and_self]

/-- A sequence of `kv`, whose elements fit `isize`, is far from the end of `int64_t`. -/
theorem seqLenKv_of_validate {spec : MqaLogitsSpec} {arch : Arch} {dims : MqaDims}
    (h : validateMqaLogitsSpec spec arch = .ok dims) (hle : (dims.seqLenKv : Int) ≤ i64.hi) :
    (dims.seqLenKv : Int) + 256 ≤ i64.hi := by
  simp only [validateMqaLogitsSpec, bind_eq_ok, throwIf_eq_ok, requireLogitsDtype_eq_ok, logicalHeadDim_eq_ok,
    requireContiguous_ok_iff, requireArchSupport_eq_ok, not_not, Except.ok.injEq] at h
  obtain ⟨_, -, _, -, headDim, ⟨-, -, rfl⟩, _, hkv, _, -, _, ⟨hfit, -⟩, _, -, _, -, _, -, _, -, _, -, _, -, _, -, _, -,
    _, -, _, hsupport, rfl⟩ := h
  rw [physicalHeadDim_logical] at hkv
  have hcols : 16 ≤ spec.kv.shape 1 ∧ spec.kv.shape 1 ≤ 128 := by
    have hdim := hsupport.headDim
    split at hdim <;> omega
  have hproduct := (stridesFit_two.mp hfit).2
  simp only [i64] at hle
  rw [IntType.cast_of_has (has_i64.mpr ⟨by omega, by omega⟩),
    IntType.cast_of_has (has_i64.mpr ⟨by omega, by omega⟩)] at hproduct
  have hmul := Nat.mul_le_mul_right (spec.kv.shape 0) hcols.1
  simp only [i64] at hproduct ⊢
  have hnat : spec.kv.shape 1 * spec.kv.shape 0 ≤ 9223372036854775807 := by exact_mod_cast hproduct
  omega

theorem settled_mqaLogitsLayout {spec : MqaLogitsSpec} {arch : Arch} :
    Settled (mqaLogitsLayout spec arch) ↔ MqaStaysInRange spec := by
  unfold mqaLogitsLayout
  rw [settled_bind, settled_validateMqaLogitsSpec]
  refine and_iff_left fun dims hdims => ?_
  simp only [settled_bind, settled_usizeToI64, usizeToI64_eq_ok, true_and]
  intro seqLen _ seqLenKv hkv numHeads _ maxSeqlenK _
  rw [settled_callLayout (CApi.mqaLogitsLayout_settles _)]
  rintro ⟨-, -, hsum⟩
  have hroom := seqLenKv_of_validate hdims (hkv ▸ seqLenKv.2.2)
  rw [← hkv] at hroom
  exact absurd hsum (not_lt.mpr hroom)

/-! ## `paged_mqa_logits_metadata` -/

theorem settled_pagedMqaLogitsMetadataLayout {spec : PagedMqaLogitsMetadataSpec} {arch : Arch} :
    Settled (pagedMqaLogitsMetadataLayout spec arch) ↔ StridesFit spec.contextLens.shape := by
  unfold pagedMqaLogitsMetadataLayout validatePagedMetadataSpec
  simp only [settled_bind, settled_requireContiguous, settled_requireDtype, settled_validateBlockKv,
    settled_requirePositive, settled_requireIndices, settled_usizeToI64,
    settled_callLayout (CApi.pagedMqaLogitsMetadataLayout_settles _), not_false_eq_true, implies_true, and_true]

/-! ## `fp8_fp4_paged_mqa_logits` -/

/-- What is to fit on the way through `paged_mqa_logits_layout`. -/
def PagedStaysInRange (spec : PagedMqaLogitsSpec) (arch : Arch) : Prop :=
  let isFp4 := spec.qScale.isSome
  let q := spec.q
  let cache := spec.fusedKvCache
  Checkpoints [
    ((spec.logitsDtype = .f32 ∨ spec.logitsDtype = .bf16) ∧ 0 < spec.maxContextLen ∧ 0 < spec.numSms ∧
        ¬ spec.cleanLogits ∧ 0 < q.shape 3,
      (isFp4 = true → u64.Has (q.shape 3 * 2 : Nat)) ∧ StridesFit q.shape),
    (q.Packed ∧ q.dtype = elementDtype isFp4, ∀ scale ∈ spec.qScale, StridesFit scale.shape),
    ((∀ scale ∈ spec.qScale, scale.Packed ∧ scale.dtype = .packedUe8M0 ∧
        scale.shape = ![q.shape 0, q.shape 1, q.shape 2]) ∧ cache.dtype = .u8,
      u64.Has (q.shape 3 + 4 : Nat)),
    (cache.shape 2 = 1 ∧ cache.shape 3 = q.shape 3 + 4, u64.Has (cache.shape 1 * cache.shape 3 : Nat)),
    ((cache.strides 0).val = i64.cast (cache.shape 1 * cache.shape 3 : Nat) ∧
        (cache.strides 1).val = i64.cast (cache.shape 3) ∧ (cache.strides 2).val = i64.cast (cache.shape 3) ∧
        (cache.strides 3).val = 1,
      u64.Has (q.shape 0 * q.shape 1 : Nat)),
    ((spec.weights.shape 0 = q.shape 0 * q.shape 1 ∧ spec.weights.shape 1 = q.shape 2 ∧
        (spec.weights.strides 1).val = 1) ∧ WeightsDtype spec.weights.dtype arch spec.logitsDtype,
      StridesFit spec.contextLens.shape),
    (spec.contextLens.Packed ∧ spec.contextLens.dtype = .i32 ∧ spec.contextLens.shape = ![q.shape 0, q.shape 1] ∧
        spec.blockTable.shape 0 = q.shape 0 ∧ (spec.blockTable.strides 1).val = 1 ∧ spec.blockTable.dtype = .i32,
      u64.Has (spec.numSms + 1 : Nat) ∧ StridesFit spec.scheduleMeta.shape)]

theorem settled_requireFusedKvCache_bind {cache : TensorSpec 4} {tokenBytes : Nat} {β : Type} {f : Unit → Rust β} :
    Settled (requireFusedKvCache cache tokenBytes >>= f) ↔
      (cache.dtype = .u8 → u64.Has (tokenBytes + 4 : Nat) ∧
        (cache.shape 2 = 1 → cache.shape 3 = tokenBytes + 4 → u64.Has (cache.shape 1 * cache.shape 3 : Nat) ∧
          ((cache.strides 0).val = i64.cast (cache.shape 1 * cache.shape 3 : Nat) →
            (cache.strides 1).val = i64.cast (cache.shape 3) → (cache.strides 2).val = i64.cast (cache.shape 3) →
              (cache.strides 3).val = 1 → Settled (f ())))) := by
  unfold requireFusedKvCache
  simp only [bind_assoc]
  apply settled_guard_iff settled_requireDtype requireDtype_eq_ok
  intro _
  rw [settled_usizeAdd_bind]
  refine and_congr_right fun _ => ?_
  rw [settled_guard settled_requireShape requireShape_eq_ok, eq_vec_three]
  simp only [Matrix.cons_val_zero, Matrix.cons_val_one, Matrix.cons_val, true_and, and_imp]
  refine imp_congr_right fun _ => imp_congr_right fun _ => ?_
  rw [settled_usizeMul_bind]
  refine and_congr_right fun _ => ?_
  rw [settled_guard settled_throwIf throwIf_eq_ok]
  simp only [not_or, not_not, and_imp]

theorem settled_validatePagedMqaLogitsSpec {spec : PagedMqaLogitsSpec} {arch : Arch} :
    Settled (validatePagedMqaLogitsSpec spec arch) ↔ PagedStaysInRange spec arch := by
  have hbytes : ∀ bytes : Nat, (if spec.qScale.isSome then (if spec.qScale.isSome then bytes * 2 else bytes) / 2
      else if spec.qScale.isSome then bytes * 2 else bytes) = bytes := by
    intro bytes
    split <;> simp
  unfold validatePagedMqaLogitsSpec PagedStaysInRange
  simp only [Checkpoints, and_imp, and_true]
  apply settled_guard_iff settled_requireLogitsDtype requireLogitsDtype_eq_ok
  intro _
  apply settled_guard_iff settled_requirePositive requirePositive_eq_ok
  intro _
  apply settled_guard_iff settled_requirePositive requirePositive_eq_ok
  intro _
  apply settled_guard_iff settled_throwIf throwIf_eq_ok
  intro _
  rw [settled_logicalHeadDim_bind]
  refine imp_congr_right fun _ => ?_
  rw [and_assoc]
  refine and_congr_right fun _ => ?_
  apply settled_check_iff settled_requireContiguous requireContiguous_ok_iff
  intro _ _
  apply settled_guard_iff settled_requireDtype requireDtype_eq_ok
  intro _
  apply settled_check_iff settled_requireQScale requireQScale_ok_iff
  intro _ _
  rw [hbytes, settled_requireFusedKvCache_bind]
  refine imp_congr_right fun _ => and_congr_right fun _ => imp_congr_right fun _ => imp_congr_right fun _ =>
    and_congr_right fun _ => ?_
  refine imp_congr_right fun _ => imp_congr_right fun _ => imp_congr_right fun _ => imp_congr_right fun _ => ?_
  rw [settled_usizeMul_bind]
  refine and_congr_right fun _ => ?_
  rw [settled_guard settled_requireWeights requireWeights_eq_ok]
  simp only [and_imp]
  refine imp_congr_right fun _ => imp_congr_right fun _ => imp_congr_right fun _ => imp_congr_right fun _ => ?_
  rw [settled_check settled_require2DI32 require2DI32_ok_iff]
  simp only [and_imp]
  refine and_congr_right fun _ => imp_congr_right fun _ => imp_congr_right fun _ => imp_congr_right fun _ => ?_
  rw [settled_guard settled_throwIf throwIf_eq_ok, not_or, not_not, not_not, and_imp]
  refine imp_congr_right fun _ => imp_congr_right fun _ => ?_
  apply settled_guard_iff settled_requireDtype requireDtype_eq_ok
  intro _
  rw [settled_usizeAdd_bind]
  refine and_congr_right fun _ => ?_
  rw [settled_bind, settled_require2DI32]
  -- the schedule is the last tensor with two axes
  refine and_iff_left fun _ _ => ?_
  simp only [settled_bind, settled_requireIndices, settled_validateBlockKv, settled_requireArchSupport,
    settled_throwIf, settled_ok, implies_true, and_self]

theorem settled_pagedMqaLogitsLayout {spec : PagedMqaLogitsSpec} {arch : Arch} :
    Settled (pagedMqaLogitsLayout spec arch) ↔ PagedStaysInRange spec arch := by
  unfold pagedMqaLogitsLayout
  rw [settled_bind, settled_validatePagedMqaLogitsSpec]
  refine and_iff_left fun _ _ => ?_
  simp only [settled_bind, settled_usizeToI64, settled_callLayout (CApi.pagedMqaLogitsLayout_settles _),
    not_false_eq_true, implies_true, and_self]

end Crate

end DeepGemmRs
