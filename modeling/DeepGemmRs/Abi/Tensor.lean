import DeepGemmRs.Abi.DType
import DeepGemmRs.Abi.Error
import DeepGemmRs.Lib.MixedRadix
import Mathlib.Algebra.BigOperators.Fin
import Mathlib.Algebra.Order.BigOperators.Ring.Finset
import Mathlib.Data.Fintype.Pi
import Mathlib.Tactic.Ring

/-!
# Tensor descriptions

* `TensorSpec rank` : dtype, shape and strides of `deepgemm::TensorSpec<RANK>`;
  `TensorSpec.contiguous`, `TensorSpec.isContiguous`;
* `RawTensor` : `deepgemm_tensor_t` and `deepgemm_tensor_mut_t`, which differ in the constness of
  the pointer only; `TensorSpec.toRawTensor` fills one;
* `RawLayout2D`, `TensorLayout2D` : the layouts of the C ABI and of the crate.

`castCount` is the product `contiguous` forms, its factors converted to `isize`: the loop returns where
the products fit, `StridesFit`, and then returns them; `Packed` says that the strides are these products.
`RowMajor` states contiguity without the loops and the conversions: each stride is the number of elements
of the axes after it; `contiguous_eq_ok` and `requireContiguous_eq_ok` relate the loops to it. `Image`
states what `toRawTensor` fills in, `toRawTensor_image`.
-/

namespace DeepGemmRs

open Checked MachineInt

/-- A device address; `0` is the null pointer. -/
abbrev Ptr : Type := Nat

-- A numeral names an axis of each of these ranks without a proof of its own.
instance (priority := 1100) neZeroTwo : NeZero 2 := ⟨by decide⟩
instance (priority := 1100) neZeroThree : NeZero 3 := ⟨by decide⟩
instance (priority := 1100) neZeroFour : NeZero 4 := ⟨by decide⟩
instance (priority := 1100) neZeroFive : NeZero 5 := ⟨by decide⟩

/-- `TensorSpec<RANK>`. -/
@[ext] structure TensorSpec (rank : Nat) where
  dtype : DType
  shape : Fin rank → Nat
  strides : Fin rank → I64

instance {rank : Nat} : DecidableEq (TensorSpec rank) := fun a b =>
  decidable_of_iff (a.dtype = b.dtype ∧ a.shape = b.shape ∧ a.strides = b.strides) TensorSpec.ext_iff.symm

/-- `deepgemm_tensor_t`. -/
structure RawTensor where
  data : Ptr
  dtype : DTypeCode
  rank : Nat
  shape : Fin 4 → I64
  stride : Fin 4 → I64

/-- `deepgemm_tensor_layout_2d_t`. -/
structure RawLayout2D where
  dtype : DTypeCode
  logicalShape : Fin 2 → Int
  allocationShape : Fin 2 → Int
  stride : Fin 2 → Int
  elementCount : Int

/-- A layout before it is filled. -/
def RawLayout2D.empty : RawLayout2D where
  dtype := DTypeCode.invalid
  logicalShape := fun _ => 0
  allocationShape := fun _ => 0
  stride := fun _ => 0
  elementCount := 0

/-- `TensorLayout2D`. -/
structure TensorLayout2D where
  dtype : DType
  logicalShape : Fin 2 → Nat
  allocationShape : Fin 2 → Nat
  strides : Fin 2 → I64
  elementCount : Nat

/-- `TensorLayout2D::logical_spec`. -/
def TensorLayout2D.logicalSpec (layout : TensorLayout2D) : TensorSpec 2 where
  dtype := layout.dtype
  shape := layout.logicalShape
  strides := layout.strides

/-! ## `usize` arithmetic and conversions -/

/-- `a * b` at `usize`. -/
def usizeMul (a b : Nat) : Rust Nat :=
  if u64.Has (a * b : Nat) then .ok (a * b) else .error MachineFault.overflow

/-- `a + b` at `usize`. -/
def usizeAdd (a b : Nat) : Rust Nat :=
  if u64.Has (a + b : Nat) then .ok (a + b) else .error MachineFault.overflow

@[simp] theorem usizeMul_eq_ok {a b c : Nat} : usizeMul a b = .ok c ↔ u64.Has (a * b : Nat) ∧ a * b = c := by
  unfold usizeMul
  split <;> simp_all

@[simp] theorem usizeAdd_eq_ok {a b c : Nat} : usizeAdd a b = .ok c ↔ u64.Has (a + b : Nat) ∧ a + b = c := by
  unfold usizeAdd
  split <;> simp_all

/-- `usize_to_i64`. -/
def usizeToI64 (value : Nat) (name : String) : Rust I64 :=
  if h : (value : Int) ≤ i64.hi then .ok ⟨value, Int.le_trans (by decide) (Int.natCast_nonneg value), h⟩
  else .error (.invalid s!"{name} value {value} does not fit in i64")

/-- `isize_to_i64`; both types have 64 bits. -/
def isizeToI64 (value : I64) (_name : String) : Rust I64 := .ok value

/-- `i64_to_usize`. -/
def i64ToUsize (value : Int) (name : String) : Rust Nat :=
  if 0 ≤ value then .ok value.toNat
  else .error (.invalid s!"{name} value {value} does not fit in usize")

/-- `i64_to_isize`. -/
def i64ToIsize (value : Int) (name : String) : Rust I64 :=
  if h : i64.Has value then .ok ⟨value, h⟩
  else .error (.invalid s!"{name} value {value} does not fit in isize")

@[simp] theorem usizeToI64_eq_ok {value : Nat} {name : String} {r : I64} :
    usizeToI64 value name = .ok r ↔ r.val = value := by
  unfold usizeToI64
  constructor
  · intro h
    split at h
    · cases h; rfl
    · cases h
  · intro h
    have hr := r.2.2
    rw [dif_pos (by omega)]
    exact congrArg Except.ok (Subtype.ext h.symm)

@[simp] theorem isizeToI64_eq_ok {value r : I64} {name : String} :
    isizeToI64 value name = .ok r ↔ r = value := by
  simp [isizeToI64, eq_comm]

@[simp] theorem i64ToUsize_eq_ok {value : Int} {name : String} {n : Nat} :
    i64ToUsize value name = .ok n ↔ (n : Int) = value := by
  unfold i64ToUsize
  split <;> simp only [Except.ok.injEq, reduceCtorEq, false_iff] <;> omega

@[simp] theorem i64ToIsize_eq_ok {value : Int} {name : String} {x : I64} :
    i64ToIsize value name = .ok x ↔ x.val = value := by
  unfold i64ToIsize
  refine ⟨fun h => ?_, ?_⟩
  · split at h
    · cases h; rfl
    · cases h
  · rintro rfl
    exact dif_pos x.2

/-! ## Contiguity -/

namespace TensorSpec

variable {rank : Nat}

/-- `isize::checked_mul`, expected to succeed. -/
def checkedMul (stride : I64) (size : Int) : Rust I64 :=
  if h : i64.Has (stride * size) then .ok ⟨stride * size, h⟩
  else .error (.panic "contiguous stride overflowed isize")

@[simp] theorem checkedMul_eq_ok {stride r : I64} {size : Int} :
    checkedMul stride size = .ok r ↔ r.val = stride * size := by
  unfold checkedMul
  refine ⟨fun h => ?_, fun h => ?_⟩
  · split at h
    · cases h; rfl
    · cases h
  · rw [dif_pos (h ▸ r.2)]
    exact congrArg Except.ok (Subtype.ext h.symm)

/-- The loop of `TensorSpec::contiguous`: `index` axes are left, `stride` is the stride of the next
one. -/
def contiguousLoop (shape : Fin rank → Nat) :
    (index : Nat) → index ≤ rank → (Fin rank → I64) → I64 → Rust (Fin rank → I64)
  | 0, _, strides, _ => .ok strides
  | index + 1, h, strides, stride => do
    let strides := Function.update strides ⟨index, h⟩ stride
    let product ← checkedMul stride (i64.cast (shape ⟨index, h⟩))
    contiguousLoop shape index (Nat.le_of_succ_le h) strides product

/-- `TensorSpec::contiguous`. -/
def contiguous (dtype : DType) (shape : Fin rank → Nat) : Rust (TensorSpec rank) := do
  let strides ← contiguousLoop shape rank le_rfl (fun _ => I64.zero) I64.one
  .ok { dtype, shape, strides }

/-- `TensorSpec::is_contiguous`. -/
def isContiguous (spec : TensorSpec rank) : Rust Bool := do
  let expected ← contiguous spec.dtype spec.shape
  .ok (decide (spec = expected))

/-- The number of elements of the axes from `n` on. -/
def tailCount (shape : Fin rank → Nat) (n : Nat) : Nat := ∏ i : Fin rank, if n ≤ i.val then shape i else 1

/-- The number of elements. -/
def elementCount (spec : TensorSpec rank) : Nat := ∏ i, spec.shape i

/-- Each stride is the number of elements of the axes after its own. -/
def RowMajor (spec : TensorSpec rank) : Prop :=
  ∀ i, (spec.strides i).val = tailCount spec.shape (i.val + 1)

theorem tailCount_zero (shape : Fin rank → Nat) : tailCount shape 0 = ∏ i, shape i :=
  MixedRadix.count_zero shape

theorem tailCount_rank (shape : Fin rank → Nat) : tailCount shape rank = 1 := MixedRadix.count_rank shape

theorem tailCount_succ (shape : Fin rank → Nat) {n : Nat} (h : n < rank) :
    tailCount shape n = tailCount shape (n + 1) * shape ⟨n, h⟩ := MixedRadix.count_succ shape h

theorem tailCount_le_pow {shape : Fin rank → Nat} {bound : Nat} (h : ∀ i, shape i ≤ bound) :
    ∀ (k n : Nat), n + k = rank → tailCount shape n ≤ bound ^ k := MixedRadix.count_le_pow h

theorem rowMajor_one {spec : TensorSpec 1} : spec.RowMajor ↔ (spec.strides 0).val = 1 := by
  simp [RowMajor, tailCount]

theorem rowMajor_two {spec : TensorSpec 2} :
    spec.RowMajor ↔ (spec.strides 0).val = spec.shape 1 ∧ (spec.strides 1).val = 1 := by
  simp [RowMajor, tailCount, Fin.forall_fin_two]

/-! ## The products of the loop -/

/-- The product of the axes from `n` on, each converted to `isize`. -/
def castCount (shape : Fin rank → Nat) (n : Nat) : Int :=
  ∏ i : Fin rank, if n ≤ i.val then i64.cast (shape i) else 1

/-- The products of `contiguous` stay within `isize`. -/
def StridesFit (shape : Fin rank → Nat) : Prop := ∀ n < rank, i64.Has (castCount shape n)

/-- The strides are those of `contiguous`. -/
def Packed (spec : TensorSpec rank) : Prop := ∀ i, (spec.strides i).val = castCount spec.shape (i.val + 1)

theorem castCount_rank (shape : Fin rank → Nat) : castCount shape rank = 1 := by
  unfold castCount
  exact Finset.prod_eq_one fun i _ => if_neg (by omega)

theorem castCount_succ (shape : Fin rank → Nat) {n : Nat} (h : n < rank) :
    castCount shape n = castCount shape (n + 1) * i64.cast (shape ⟨n, h⟩) := by
  unfold castCount
  rw [MixedRadix.prod_from_succ (fun i => i64.cast (shape i)) h, Int.mul_comm]

/-- The conversions keep extents that are `isize` values. -/
theorem castCount_eq_tailCount {shape : Fin rank → Nat} (hs : ∀ i, (shape i : Int) ≤ i64.hi) (n : Nat) :
    castCount shape n = tailCount shape n := by
  unfold castCount tailCount
  rw [Nat.cast_prod]
  apply Finset.prod_congr rfl
  intro i _
  split
  · exact IntType.cast_of_has ⟨Int.le_trans (by decide) (Int.natCast_nonneg _), hs i⟩
  · rfl

theorem stridesFit_iff {shape : Fin rank → Nat} (hs : ∀ i, (shape i : Int) ≤ i64.hi) :
    StridesFit shape ↔ ∀ n < rank, (tailCount shape n : Int) ≤ i64.hi := by
  unfold StridesFit
  simp only [castCount_eq_tailCount hs]
  exact forall₂_congr fun n _ => ⟨fun h => h.2, fun h => ⟨Int.le_trans (by decide) (Int.natCast_nonneg _), h⟩⟩

theorem packed_iff {spec : TensorSpec rank} (hs : ∀ i, (spec.shape i : Int) ≤ i64.hi) :
    spec.Packed ↔ spec.RowMajor := by
  unfold Packed RowMajor
  simp only [castCount_eq_tailCount hs]

/-- One more axis is filled in. -/
theorem filled_succ {shape : Fin rank → Nat} {index : Nat} (h : index < rank) {strides result : Fin rank → I64}
    {stride : I64} (hstride : stride.val = castCount shape (index + 1)) (i : Fin rank) :
    (if i.val < index then (result i).val = castCount shape (i.val + 1)
      else result i = Function.update strides ⟨index, h⟩ stride i) ↔
    if i.val < index + 1 then (result i).val = castCount shape (i.val + 1) else result i = strides i := by
  by_cases hlt : i.val < index
  · rw [if_pos hlt, if_pos (Nat.lt_succ_of_lt hlt)]
  by_cases he : i.val = index
  · obtain rfl : i = ⟨index, h⟩ := Fin.ext he
    rw [if_neg hlt, if_pos (Nat.lt_succ_self index), Function.update_self, ← hstride]
    exact Subtype.ext_iff
  · rw [if_neg hlt, if_neg (by omega), Function.update_of_ne fun e => he (congrArg Fin.val e)]

theorem contiguousLoop_eq_ok (shape : Fin rank → Nat) :
    ∀ (index : Nat) (h : index ≤ rank) (strides result : Fin rank → I64) (stride : I64),
      stride.val = castCount shape index →
      (contiguousLoop shape index h strides stride = .ok result ↔
        (∀ n < index, i64.Has (castCount shape n)) ∧
          ∀ i : Fin rank, if i.val < index then (result i).val = castCount shape (i.val + 1)
            else result i = strides i) := by
  intro index
  induction index with
  | zero =>
    intro h strides result stride _
    simp only [contiguousLoop, Except.ok.injEq, Nat.not_lt_zero, if_false, false_imp_iff, implies_true,
      true_and]
    exact ⟨fun e i => congrFun e.symm i, fun e => funext fun i => (e i).symm⟩
  | succ index ih =>
    intro h strides result stride hstride
    have hprod : stride.val * i64.cast (shape ⟨index, h⟩) = castCount shape index := by
      rw [hstride, castCount_succ shape (n := index) h]
    simp only [contiguousLoop, bind_eq_ok, checkedMul_eq_ok, hprod, Nat.forall_lt_succ_right, ← filled_succ h hstride]
    constructor
    · rintro ⟨product, hp, hrest⟩
      obtain ⟨hbelow, hfilled⟩ := (ih _ _ _ _ hp).mp hrest
      exact ⟨⟨hbelow, hp ▸ product.2⟩, hfilled⟩
    · rintro ⟨⟨hbelow, hfits⟩, hfilled⟩
      exact ⟨⟨_, hfits⟩, rfl, (ih _ _ _ _ rfl).mpr ⟨hbelow, hfilled⟩⟩

/-- `contiguous` returns the products, unless one of them leaves `isize`. -/
theorem contiguous_ok_iff {dtype : DType} {shape : Fin rank → Nat} {spec : TensorSpec rank} :
    contiguous dtype shape = .ok spec ↔
      StridesFit shape ∧ spec.dtype = dtype ∧ spec.shape = shape ∧ spec.Packed := by
  have hloop := fun result => contiguousLoop_eq_ok shape rank le_rfl (fun _ => I64.zero) result I64.one
    (by rw [castCount_rank]; rfl)
  simp only [contiguous, bind_eq_ok, hloop, Fin.is_lt, if_true, Except.ok.injEq]
  refine ⟨?_, ?_⟩
  · rintro ⟨strides, ⟨h1, h2⟩, rfl⟩
    exact ⟨h1, rfl, rfl, h2⟩
  · rintro ⟨h1, rfl, rfl, h4⟩
    exact ⟨_, ⟨h1, h4⟩, rfl⟩

/-- `is_contiguous` compares with the products, unless one of them leaves `isize`. -/
theorem isContiguous_true_iff {spec : TensorSpec rank} :
    spec.isContiguous = .ok true ↔ StridesFit spec.shape ∧ spec.Packed := by
  simp only [isContiguous, bind_eq_ok, contiguous_ok_iff, Except.ok.injEq, decide_eq_true_eq]
  constructor
  · rintro ⟨_, ⟨h1, -, -, h4⟩, rfl⟩
    exact ⟨h1, h4⟩
  · rintro ⟨h1, h4⟩
    exact ⟨spec, ⟨h1, rfl, rfl, h4⟩, rfl⟩

/-- `contiguous` returns the row-major strides, unless one of its products leaves `isize`. -/
theorem contiguous_eq_ok {dtype : DType} {shape : Fin rank → Nat} (hs : ∀ i, (shape i : Int) ≤ i64.hi)
    {spec : TensorSpec rank} :
    contiguous dtype shape = .ok spec ↔
      (∀ n < rank, (tailCount shape n : Int) ≤ i64.hi) ∧ spec.dtype = dtype ∧ spec.shape = shape ∧
        spec.RowMajor := by
  rw [contiguous_ok_iff, stridesFit_iff hs]
  refine and_congr_right fun _ => and_congr_right fun _ => and_congr_right ?_
  rintro rfl
  exact packed_iff hs

theorem isContiguous_eq_true {spec : TensorSpec rank} (hs : ∀ i, (spec.shape i : Int) ≤ i64.hi) :
    spec.isContiguous = .ok true ↔
      (∀ n < rank, (tailCount spec.shape n : Int) ≤ i64.hi) ∧ spec.RowMajor := by
  rw [isContiguous_true_iff, stridesFit_iff hs, packed_iff hs]

/-! ## The raw tensor -/

/-- The loop body of `to_raw_tensor`: slot `index` of both arrays. -/
def fillSlot (spec : TensorSpec rank) (slots : (Fin 4 → I64) × (Fin 4 → I64)) (index : Fin rank) :
    Rust ((Fin 4 → I64) × (Fin 4 → I64)) := do
  let size ← usizeToI64 (spec.shape index) "shape"
  let step ← isizeToI64 (spec.strides index) "stride"
  if h : index.val < 4 then
    .ok (Function.update slots.1 ⟨index, h⟩ size, Function.update slots.2 ⟨index, h⟩ step)
  else .error (.panic "index out of bounds")

/-- `TensorSpec::to_raw_tensor` and `TensorSpec::to_raw_tensor_mut`. -/
def toRawTensor (spec : TensorSpec rank) (data : Ptr) : Rust RawTensor := do
  let slots ← (List.finRange rank).foldlM spec.fillSlot (fun _ => I64.zero, fun _ => I64.zero)
  .ok { data, dtype := spec.dtype.toSys, rank, shape := slots.1, stride := slots.2 }

/-- `t` is the raw tensor of `spec` at `data`. -/
structure Image (spec : TensorSpec rank) (data : Ptr) (t : RawTensor) : Prop where
  data : t.data = data
  dtype : t.dtype = spec.dtype.toSys
  rankEq : t.rank = rank
  shape (j : Fin rank) (i : Fin 4) (h : i.val = j.val) : (t.shape i).val = spec.shape j
  stride (j : Fin rank) (i : Fin 4) (h : i.val = j.val) : t.stride i = spec.strides j

theorem foldlM_fillSlot (spec : TensorSpec rank) (hr : rank ≤ 4) :
    ∀ (l : List (Fin rank)) (slots result : (Fin 4 → I64) × (Fin 4 → I64)), l.Nodup →
      l.foldlM spec.fillSlot slots = .ok result →
      ∀ i : Fin 4, (∀ j ∈ l, i.val = j.val →
          (result.1 i).val = spec.shape j ∧ result.2 i = spec.strides j) ∧
        ((∀ j ∈ l, i.val ≠ j.val) → result.1 i = slots.1 i ∧ result.2 i = slots.2 i) := by
  intro l
  induction l with
  | nil =>
    intro slots result _ h i
    simp only [List.foldlM_nil, pure_eq_ok] at h
    subst h
    simp
  | cons k l ih =>
    intro slots result hnd h i
    obtain ⟨hk, hnd⟩ := List.nodup_cons.mp hnd
    have hk4 : k.val < 4 := by omega
    simp only [List.foldlM_cons, fillSlot, dif_pos hk4, bind_eq_ok, usizeToI64_eq_ok, isizeToI64_eq_ok,
      Except.ok.injEq] at h
    obtain ⟨_, ⟨size, hsize, _, rfl, rfl⟩, h⟩ := h
    obtain ⟨ih1, ih2⟩ := ih _ result hnd h i
    constructor
    · intro j hj hij
      rcases List.mem_cons.mp hj with rfl | hj
      · have hne : ∀ j' ∈ l, i.val ≠ j'.val := fun j' hj' e =>
          hk (Fin.ext (e.symm.trans hij) ▸ hj')
        obtain ⟨e1, e2⟩ := ih2 hne
        have hi : i = ⟨j.val, hk4⟩ := Fin.ext hij
        rw [e1, e2, hi]
        simp [hsize]
      · exact ih1 j hj hij
    · intro hne
      obtain ⟨e1, e2⟩ := ih2 fun j hj => hne j (List.mem_cons_of_mem _ hj)
      have hi : i ≠ ⟨k.val, hk4⟩ := fun e => hne k List.mem_cons_self (congrArg Fin.val e)
      rw [e1, e2]
      exact ⟨Function.update_of_ne hi _ _, Function.update_of_ne hi _ _⟩

theorem toRawTensor_image {spec : TensorSpec rank} (hr : rank ≤ 4) {data : Ptr} {t : RawTensor}
    (h : spec.toRawTensor data = .ok t) : spec.Image data t := by
  simp only [toRawTensor, bind_eq_ok, Except.ok.injEq] at h
  obtain ⟨slots, h, rfl⟩ := h
  have hs := foldlM_fillSlot spec hr _ _ _ (List.nodup_finRange rank) h
  exact ⟨rfl, rfl, rfl, fun j i hij => ((hs i).1 j (List.mem_finRange j) hij).1,
    fun j i hij => ((hs i).1 j (List.mem_finRange j) hij).2⟩

/-- A tensor whose extents are `i64` values has a raw image. -/
theorem toRawTensor_succeeds {spec : TensorSpec rank} (hr : rank ≤ 4)
    (hs : ∀ i, (spec.shape i : Int) ≤ i64.hi) (data : Ptr) :
    ∃ t, spec.toRawTensor data = .ok t := by
  have hfill : ∀ (l : List (Fin rank)) (slots : (Fin 4 → I64) × (Fin 4 → I64)),
      ∃ result, l.foldlM spec.fillSlot slots = .ok result := by
    intro l
    induction l with
    | nil => exact fun slots => ⟨slots, rfl⟩
    | cons k l ih =>
      intro slots
      have hk4 : k.val < 4 := by omega
      have hsize : i64.Has (spec.shape k) := ⟨Int.le_trans (by decide) (Int.natCast_nonneg _), hs k⟩
      obtain ⟨result, hresult⟩ := ih (Function.update slots.1 ⟨k, hk4⟩ ⟨_, hsize⟩,
        Function.update slots.2 ⟨k, hk4⟩ (spec.strides k))
      refine ⟨result, ?_⟩
      simp only [List.foldlM_cons, fillSlot, dif_pos hk4, bind_eq_ok, usizeToI64_eq_ok,
        isizeToI64_eq_ok, Except.ok.injEq]
      exact ⟨_, ⟨⟨_, hsize⟩, rfl, _, rfl, rfl⟩, hresult⟩
  obtain ⟨slots, h⟩ := hfill (List.finRange rank) (fun _ => I64.zero, fun _ => I64.zero)
  exact ⟨_, bind_eq_ok.mpr ⟨slots, h, rfl⟩⟩

/-! ## Checks -/

/-- `require_dtype`. -/
def requireDtype (tensor : TensorSpec rank) (expected : DType) (name : String) : Rust Unit :=
  throwIf (tensor.dtype ≠ expected)
    (.invalid s!"{name} dtype must be {expected.debug}, got {tensor.dtype.debug}")

/-- `require_contiguous`. -/
def requireContiguous (tensor : TensorSpec rank) (name : String) : Rust Unit := do
  let contiguous ← tensor.isContiguous
  throwIf (¬ contiguous) (.invalid s!"{name} must be contiguous")

@[simp] theorem requireDtype_eq_ok {tensor : TensorSpec rank} {expected : DType} {name : String}
    {u : Unit} : tensor.requireDtype expected name = .ok u ↔ tensor.dtype = expected := by
  simp [requireDtype]

theorem requireContiguous_ok_iff {tensor : TensorSpec rank} {name : String} {u : Unit} :
    tensor.requireContiguous name = .ok u ↔ StridesFit tensor.shape ∧ tensor.Packed := by
  rw [← isContiguous_true_iff]
  simp [requireContiguous]

theorem requireContiguous_eq_ok {tensor : TensorSpec rank} (hs : ∀ i, (tensor.shape i : Int) ≤ i64.hi)
    {name : String} {u : Unit} :
    tensor.requireContiguous name = .ok u ↔
      (∀ n < rank, (tailCount tensor.shape n : Int) ≤ i64.hi) ∧ tensor.RowMajor := by
  rw [requireContiguous_ok_iff, stridesFit_iff hs, packed_iff hs]

end TensorSpec

/-! ## Shapes by their extents -/

theorem eq_vec_one {α : Type} {f : Fin 1 → α} {a : α} : f = ![a] ↔ f 0 = a := by
  simp [funext_iff]

theorem eq_vec_two {α : Type} {f : Fin 2 → α} {a b : α} : f = ![a, b] ↔ f 0 = a ∧ f 1 = b := by
  simp [funext_iff, Fin.forall_fin_two]

theorem eq_vec_three {α : Type} {f : Fin 3 → α} {a b c : α} :
    f = ![a, b, c] ↔ f 0 = a ∧ f 1 = b ∧ f 2 = c := by
  simp [funext_iff, Fin.forall_fin_succ]

/-- `TensorArg<RANK>` and `TensorOut<RANK>`. -/
structure TensorArg (rank : Nat) where
  data : Ptr
  spec : TensorSpec rank

namespace TensorArg

variable {rank : Nat}

/-- `TensorArg::to_raw` and `TensorOut::to_raw`. -/
def toRaw (arg : TensorArg rank) : Rust RawTensor := arg.spec.toRawTensor arg.data

/-- `t` is the raw tensor of `arg`. -/
abbrev Image (arg : TensorArg rank) (t : RawTensor) : Prop := arg.spec.Image arg.data t

theorem toRaw_image (hr : rank ≤ 4) {arg : TensorArg rank} {t : RawTensor} (h : arg.toRaw = .ok t) :
    arg.Image t := TensorSpec.toRawTensor_image hr h

end TensorArg

/-- `empty_tensor`. -/
def emptyTensor : RawTensor where
  data := 0
  dtype := DTypeCode.invalid
  rank := 0
  shape := fun _ => I64.zero
  stride := fun _ => I64.zero

/-- `optional_tensor_arg`. -/
def optionalTensorArg {rank : Nat} : Option (TensorArg rank) → Rust RawTensor
  | some arg => arg.toRaw
  | none => .ok emptyTensor

end DeepGemmRs
