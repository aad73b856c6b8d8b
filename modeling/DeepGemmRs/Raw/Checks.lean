import DeepGemmRs.Abi.Tensor

/-!
# Checks of the native launchers

The functions that `deepgemm_raw_mqa.cc` and `deepgemm_raw_gemm.cc` both define, word for word, and
the contiguity check of the former.

* `asI32` : the range check before a cast to `int`;
* `requireTensorRank`, `requireDtype`, `requireShapePositive`, `requireContiguous`;
* `requireContiguous_eq_ok` : what the last one demands of the tensor that was converted.
-/

namespace DeepGemmRs.Raw

open Checked MachineInt

/-- `dtype_element_size`. -/
def dtypeElementSize (dtype : DTypeCode) : Int := dtype.storageSize

def asI32 (value : Int) (name : String) : Native Int := do
  throwIf (value < 0 ∨ value > i32.hi) (.invalid s!"{name} must fit in a positive i32")
  .ok (i32.cast value)

/-- `require_tensor_rank` and `require_tensor_mut_rank`. -/
def requireTensorRank (tensor : RawTensor) (rank : Nat) (name : String) : Native Unit := do
  throwIf (tensor.rank ≠ rank) (.invalid s!"{name} rank must be {rank}, got {tensor.rank}")
  throwIf (tensor.data = 0) (.invalid s!"{name} data must not be null")

def requireDtype (actual expected : DTypeCode) (name : String) : Native Unit :=
  throwIf (actual ≠ expected) (.invalid s!"{name} dtype must be {expected}, got {actual}")

def requireShapePositive (shape : Fin 4 → I64) (rank : Fin 5) (name : String) : Native Unit :=
  forM (List.finRange rank) fun i =>
    throwIf ((shape (i.castLE rank.is_le)).val ≤ 0) (.invalid s!"{name} dimensions must be positive")

/-- The loop of `require_contiguous`: `index` axes are left. -/
def requireContiguousLoop (tensor : RawTensor) (name : String) :
    (index : Nat) → index ≤ 4 → Int → Native Unit
  | 0, _, _ => .ok ()
  | index + 1, h, expectedStride => do
    throwIf ((tensor.stride ⟨index, h⟩).val ≠ expectedStride) (.invalid s!"{name} must be contiguous")
    let expectedStride ← i64.mul expectedStride (tensor.shape ⟨index, h⟩)
    requireContiguousLoop tensor name index (Nat.le_of_succ_le h) expectedStride

def requireContiguous (tensor : RawTensor) (rank : Fin 5) (name : String) : Native Unit := do
  requireTensorRank tensor rank name
  requireShapePositive tensor.shape rank name
  requireContiguousLoop tensor name rank rank.is_le 1

/-! ## What the checks demand -/

@[simp] theorem asI32_eq_ok {value r : Int} {name : String} :
    asI32 value name = .ok r ↔ (0 ≤ value ∧ value ≤ i32.hi) ∧ value = r := by
  simp only [asI32, bind_eq_ok, throwIf_eq_ok, exists_const, Except.ok.injEq, not_or, not_lt]
  refine and_congr_right fun h => ?_
  rw [IntType.cast_of_has ⟨le_trans (by decide) h.1, h.2⟩]

@[simp] theorem requireTensorRank_eq_ok {tensor : RawTensor} {rank : Nat} {name : String} {u : Unit} :
    requireTensorRank tensor rank name = .ok u ↔ tensor.rank = rank ∧ tensor.data ≠ 0 := by
  simp [requireTensorRank]

@[simp] theorem requireDtype_eq_ok {actual expected : DTypeCode} {name : String} {u : Unit} :
    requireDtype actual expected name = .ok u ↔ actual = expected := by
  simp [requireDtype]

@[simp] theorem requireShapePositive_eq_ok {shape : Fin 4 → I64} {rank : Fin 5} {name : String} {u : Unit} :
    requireShapePositive shape rank name = .ok u ↔
      ∀ i : Fin rank, 0 < (shape (i.castLE rank.is_le)).val := by
  simp [requireShapePositive, forM_throwIf_eq_ok]

section

variable {rank : Fin 5} {spec : TensorSpec rank} {data : Ptr} {t : RawTensor}

open TensorSpec

theorem requireContiguousLoop_eq_ok (h : spec.Image data t) (name : String) {u : Unit} :
    ∀ (index : Nat) (hi : index ≤ 4) (hr : index ≤ rank),
      requireContiguousLoop t name index hi (tailCount spec.shape index) = .ok u ↔
        ∀ (n : Nat) (hn : n < index),
          (spec.strides ⟨n, hn.trans_le hr⟩).val = tailCount spec.shape (n + 1) ∧
          (tailCount spec.shape n : Int) ≤ i64.hi := by
  intro index
  induction index with
  | zero =>
    intro hi hr
    simp [requireContiguousLoop]
  | succ index ih =>
    intro hi hr
    have hstride := h.stride ⟨index, hr⟩ ⟨index, hi⟩ rfl
    have hshape := h.shape ⟨index, hr⟩ ⟨index, hi⟩ rfl
    have hprod : (tailCount spec.shape (index + 1) : Int) * spec.shape ⟨index, hr⟩ =
        (tailCount spec.shape index : Nat) := by
      rw [tailCount_succ spec.shape (n := index) hr]
      push_cast
      ring
    have hhas : i64.Has ((tailCount spec.shape index : Nat) : Int) ↔
        (tailCount spec.shape index : Int) ≤ i64.hi :=
      ⟨fun hh => hh.2, fun hh => ⟨le_trans (by decide) (Int.natCast_nonneg _), hh⟩⟩
    simp only [requireContiguousLoop, bind_eq_ok, throwIf_eq_ok, not_not, exists_const, hstride, hshape,
      IntType.mul_eq_ok, hprod, hhas]
    refine ⟨?_, fun hall => ?_⟩
    · rintro ⟨h1, _, ⟨h2, rfl⟩, h3⟩ n hn
      rcases Nat.lt_succ_iff_lt_or_eq.mp hn with hlt | rfl
      · exact (ih _ (Nat.le_of_succ_le hr)).mp h3 n hlt
      · exact ⟨h1, h2⟩
    · obtain ⟨h1, h2⟩ := hall index (Nat.lt_succ_self index)
      exact ⟨h1, _, ⟨h2, rfl⟩, (ih _ (Nat.le_of_succ_le hr)).mpr fun n hn => hall n (Nat.lt_succ_of_lt hn)⟩

/-- On a converted tensor: no null pointer, no empty axis, row-major strides, counts within `i64`. -/
theorem requireContiguous_eq_ok (rank : Fin 5) {spec : TensorSpec rank} (h : spec.Image data t)
    {name : String} {u : Unit} :
    requireContiguous t rank name = .ok u ↔
      data ≠ 0 ∧ (∀ i, 0 < spec.shape i) ∧ spec.RowMajor ∧
        ∀ n < rank.val, (tailCount spec.shape n : Int) ≤ i64.hi := by
  have hloop := requireContiguousLoop_eq_ok h name (u := u) rank rank.is_le le_rfl
  rw [tailCount_rank, Nat.cast_one] at hloop
  have hpos : (∀ i : Fin rank, 0 < (t.shape (i.castLE rank.is_le)).val) ↔ ∀ i, 0 < spec.shape i := by
    refine forall_congr' fun i => ?_
    rw [h.shape i _ rfl]
    exact Int.natCast_pos
  simp only [requireContiguous, bind_eq_ok, requireTensorRank_eq_ok, requireShapePositive_eq_ok, hloop,
    h.rankEq, h.data, hpos, true_and, exists_const]
  refine and_congr_right fun _ => and_congr_right fun _ => ⟨fun hall => ?_, fun hall n hn => ?_⟩
  · exact ⟨fun i => (hall i.val i.isLt).1, fun n hn => (hall n hn).2⟩
  · exact ⟨hall.1 ⟨n, hn⟩, hall.2 n hn⟩

end

end DeepGemmRs.Raw
