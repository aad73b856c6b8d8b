import DeepGemmRs.CApi.Exact

/-!
# Checks and layout calls of the crate

* `requireShape`, `requireSpec`, `requirePositive` : the checks `mqa.rs` and `gemm.rs` share;
* `callLayout`, `logitsLayoutFromSys` : a layout helper as the crate calls it;
* `callLayout_ok` : the layout that comes back, by `CApi.Settles`.
-/

namespace DeepGemmRs

open Checked MachineInt

namespace TensorSpec

variable {rank : Nat}

/-- The derived `Debug` of an array. -/
def debugArray {α : Type} (debug : α → String) (a : Fin rank → α) : String :=
  "[" ++ String.intercalate ", " ((List.finRange rank).map fun i => debug (a i)) ++ "]"

/-- The derived `Debug` of a tensor spec. -/
def debug (spec : TensorSpec rank) : String :=
  s!"TensorSpec \x7b dtype: {spec.dtype.debug}, shape: {debugArray toString spec.shape}, strides: {debugArray (fun x => toString x.val) spec.strides} \x7d"

end TensorSpec

namespace Crate

variable {rank : Nat}

def requireShape (actual expected : Fin rank → Nat) (name : String) : Rust Unit :=
  throwIf (actual ≠ expected) (.invalid
    s!"{name} shape must be {TensorSpec.debugArray toString expected}, got {TensorSpec.debugArray toString actual}")

def requireSpec (actual expected : TensorSpec rank) (name : String) : Rust Unit :=
  throwIf (actual ≠ expected) (.invalid s!"{name} spec must be {expected.debug}, got {actual.debug}")

def requirePositive (value : Nat) (name : String) : Rust Unit :=
  throwIf (value = 0) (.invalid s!"{name} must be positive")

@[simp] theorem requireShape_eq_ok {actual expected : Fin rank → Nat} {name : String} {u : Unit} :
    requireShape actual expected name = .ok u ↔ actual = expected := by
  simp [requireShape]

@[simp] theorem requireSpec_eq_ok {actual expected : TensorSpec rank} {name : String} {u : Unit} :
    requireSpec actual expected name = .ok u ↔ actual = expected := by
  simp [requireSpec]

@[simp] theorem requirePositive_eq_ok {value : Nat} {name : String} {u : Unit} :
    requirePositive value name = .ok u ↔ 0 < value := by
  simp [requirePositive, Nat.pos_iff_ne_zero]

/-! ## Layout calls -/

/-- `u64` to `usize`. -/
def elementCountFromSys (count : Int) : Rust Nat :=
  if u64.Has count then .ok count.toNat
  else .error (.invalid "layout element count does not fit usize")

/-- `DType::from_sys`, or an error. -/
def dtypeFromSys (dtype : DTypeCode) : Rust DType :=
  match DType.fromSys dtype with
  | some dtype => .ok dtype
  | none => .error (.invalid s!"unknown dtype {dtype}")

@[simp] theorem dtypeFromSys_eq_ok {dtype : DTypeCode} {d : DType} :
    dtypeFromSys dtype = .ok d ↔ dtype = d.toSys := by
  unfold dtypeFromSys
  refine ⟨fun h => ?_, ?_⟩
  · split at h
    · next hfrom =>
      cases h
      exact (DType.toSys_of_fromSys hfrom).symm
    · cases h
  · rintro rfl
    simp

/-- `logits_layout_from_sys`. -/
def logitsLayoutFromSys (raw : RawLayout2D) : Rust TensorLayout2D := do
  let dtype ← dtypeFromSys raw.dtype
  let logicalRows ← i64ToUsize (raw.logicalShape 0) "logical rows"
  let logicalCols ← i64ToUsize (raw.logicalShape 1) "logical cols"
  let allocationRows ← i64ToUsize (raw.allocationShape 0) "allocation rows"
  let allocationCols ← i64ToUsize (raw.allocationShape 1) "allocation cols"
  let rowStride ← i64ToIsize (raw.stride 0) "row stride"
  let colStride ← i64ToIsize (raw.stride 1) "col stride"
  let elementCount ← elementCountFromSys raw.elementCount
  .ok {
    dtype
    logicalShape := ![logicalRows, logicalCols]
    allocationShape := ![allocationRows, allocationCols]
    strides := ![rowStride, colStride]
    elementCount }

/-- `call_layout`. -/
def callLayout (call : CApi.Call) : Rust TensorLayout2D := do
  let (status, s) ← checkNative (call ⟨"", some RawLayout2D.empty⟩)
  throwIf (status ≠ .success) (.err (Error.fromRawStatus status s.lastError))
  match s.out with
  | some raw => logitsLayoutFromSys raw
  | none => .error .undefined

/-- `layout` is `raw` with the crate's types. -/
structure LayoutImage (raw : RawLayout2D) (layout : TensorLayout2D) : Prop where
  dtype : layout.dtype.toSys = raw.dtype
  logicalShape (i : Fin 2) : (layout.logicalShape i : Int) = raw.logicalShape i
  allocationShape (i : Fin 2) : (layout.allocationShape i : Int) = raw.allocationShape i
  strides (i : Fin 2) : (layout.strides i).val = raw.stride i
  elementCount : (layout.elementCount : Int) = raw.elementCount

theorem logitsLayoutFromSys_image {raw : RawLayout2D} {layout : TensorLayout2D}
    (h : logitsLayoutFromSys raw = .ok layout) : LayoutImage raw layout := by
  simp only [logitsLayoutFromSys, bind_eq_ok, dtypeFromSys_eq_ok, i64ToUsize_eq_ok,
    i64ToIsize_eq_ok, Except.ok.injEq] at h
  obtain ⟨dtype, hd, r, hr, c, hc, ar, har, ac, hac, s, hs, t, ht, n, hn, rfl⟩ := h
  have hcount : (n : Int) = raw.elementCount := by
    unfold elementCountFromSys at hn
    split at hn
    · next hu => cases hn; exact Int.toNat_of_nonneg hu.1
    · cases hn
  exact ⟨hd.symm, Fin.forall_fin_two.mpr ⟨hr, hc⟩, Fin.forall_fin_two.mpr ⟨har, hac⟩,
    Fin.forall_fin_two.mpr ⟨hs, ht⟩, hcount⟩

theorem logitsLayoutFromSys_succeeds (raw : RawLayout2D) {d : DType} (hd : raw.dtype = d.toSys)
    (hl : ∀ i, 0 ≤ raw.logicalShape i) (ha : ∀ i, 0 ≤ raw.allocationShape i)
    (hs : ∀ i, i64.Has (raw.stride i)) (hn : u64.Has raw.elementCount) :
    ∃ layout, logitsLayoutFromSys raw = .ok layout := by
  simp only [logitsLayoutFromSys, bind_eq_ok, dtypeFromSys_eq_ok, i64ToUsize_eq_ok, i64ToIsize_eq_ok,
    Except.ok.injEq]
  exact ⟨_, d, hd, _, Int.toNat_of_nonneg (hl 0), _, Int.toNat_of_nonneg (hl 1), _,
    Int.toNat_of_nonneg (ha 0), _, Int.toNat_of_nonneg (ha 1), ⟨_, hs 0⟩, rfl, ⟨_, hs 1⟩, rfl, _,
    if_pos hn, rfl⟩

/-- A layout call that comes back is the formula, at parameters the helper admits. -/
theorem callLayout_ok {overflows admits : Prop} {raw : RawLayout2D} {call : CApi.Call}
    (h : ∀ s, CApi.Settles overflows admits raw s (call s)) {layout : TensorLayout2D}
    (hcall : callLayout call = .ok layout) : admits ∧ LayoutImage raw layout := by
  simp only [callLayout, bind_eq_ok, checkNative_eq_ok, throwIf_eq_ok, not_not] at hcall
  obtain ⟨⟨status, s'⟩, hr, _, rfl, hm⟩ := hcall
  obtain ⟨⟨-, ha, -⟩, rfl⟩ := (h _).of_success hr
  exact ⟨ha, logitsLayoutFromSys_image hm⟩

theorem callLayout_succeeds {overflows admits : Prop} {raw : RawLayout2D} {call : CApi.Call}
    (h : ∀ s, CApi.Settles overflows admits raw s (call s)) (ho : ¬ overflows) (ha : admits)
    {layout : TensorLayout2D} (hl : logitsLayoutFromSys raw = .ok layout) :
    callLayout call = .ok layout := by
  have hr := (h ⟨"", some RawLayout2D.empty⟩).success ho ha (by simp)
  simp only [callLayout, bind_eq_ok, checkNative_eq_ok, throwIf_eq_ok, not_not]
  exact ⟨_, hr, (), rfl, hl⟩

end Crate

end DeepGemmRs
