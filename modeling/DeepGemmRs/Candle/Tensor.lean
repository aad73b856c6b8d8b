import DeepGemmRs.Crate.Runtime

/-!
# Candle tensors

What `candle-deepgemm` reads of a tensor and asks of candle: `tensor.rs`, `error.rs` and the helpers
that `mqa.rs` and `gemm.rs` both define.

* `Tensor` : dtype, axes, start offset, device and storage;
* `Api` : the functions of candle that make tensors, with their documented layouts;
* `ensureRank`, `ensureDtype`, `ensureSameDevice`, `streamAndDeviceId`, `tensorPtrByDtype`;
* `tensorSpec` : the description of a tensor that the `deepgemm` crate takes; `tensorSpec_eq_ok`.
-/

namespace DeepGemmRs.Candle

open Checked MachineInt

/-- `candle_deepgemm::Error`. -/
inductive Error where
  | deepGemm (error : DeepGemmRs.Error)
  | candle (message : String)
  | tensor (message : String)
deriving DecidableEq, Repr

/-- How a function of the crate stops short of its end. -/
inductive CandleStop where
  | err (error : Error)
  | panic (message : String)
  | undefined
deriving DecidableEq, Repr

/-- `candle_deepgemm::Result`. -/
abbrev Result : Type → Type := Except CandleStop

/-- `invalid_arg`. -/
abbrev invalidArg (message : String) : CandleStop := .err (.tensor message)

/-- `?` on a result of the `deepgemm` crate. -/
def ofRust {α : Type} : Rust α → Result α
  | .ok a => .ok a
  | .error (.err error) => .error (.err (.deepGemm error))
  | .error (.panic message) => .error (.panic message)
  | .error .undefined => .error .undefined

@[simp] theorem ofRust_eq_ok {α : Type} {x : Rust α} {a : α} : ofRust x = .ok a ↔ x = .ok a := by
  unfold ofRust
  split <;> simp

/-- `?` on a result of candle. -/
def ofCandle {α : Type} : Except String α → Result α
  | .ok a => .ok a
  | .error message => .error (.err (.candle message))

@[simp] theorem ofCandle_eq_ok {α : Type} {x : Except String α} {a : α} :
    ofCandle x = .ok a ↔ x = .ok a := by
  unfold ofCandle
  split <;> simp

/-! ## Tensors -/

/-- `candle::DType`; the dtypes that no code of the crate names are `other`. -/
inductive CandleDType where
  | f32
  | bf16
  | i32
  | u8
  | f8E4M3
  | other (name : String)
deriving DecidableEq, Repr

/-- The derived `Debug`. -/
def CandleDType.debug : CandleDType → String
  | f32 => "F32"
  | bf16 => "BF16"
  | i32 => "I32"
  | u8 => "U8"
  | f8E4M3 => "F8E4M3"
  | other name => name

/-- `candle::Device`; a CUDA device has an identity, an ordinal and a stream. -/
inductive Device where
  | cuda (id ordinal : Nat) (stream : Ptr)
  | other (name : String)
deriving DecidableEq, Repr

/-- `Device::same_device`. -/
def Device.sameDevice : Device → Device → Bool
  | cuda id _ _, cuda id' _ _ => id = id'
  | other name, other name' => name = name'
  | _, _ => false

/-- A dimension and its stride, in elements. -/
structure Axis where
  size : Nat
  stride : Nat
deriving DecidableEq, Repr

/-- `candle::Tensor`, with the address of its storage. -/
structure Tensor where
  dtype : CandleDType
  axes : List Axis
  startOffset : Nat
  device : Device
  storage : Ptr
deriving DecidableEq, Repr

def Tensor.dims (t : Tensor) : List Nat := t.axes.map Axis.size

def Tensor.stride (t : Tensor) : List Nat := t.axes.map Axis.stride

def Tensor.rank (t : Tensor) : Nat := t.axes.length

/-- The functions of candle that make tensors. -/
structure Api where
  zeros : Nat → Nat → CandleDType → Device → Except String Tensor
  narrow : Tensor → Nat → Nat → Nat → Except String Tensor
  transpose : Tensor → Except String Tensor
  /-- `Tensor::zeros` is row-major contiguous. -/
  zeros_layout : ∀ rows cols dtype device t, zeros rows cols dtype device = .ok t →
    t.axes = [⟨rows, cols⟩, ⟨cols, 1⟩] ∧ t.dtype = dtype ∧ t.device = device ∧ t.startOffset = 0
  /-- `narrow(dim, 0, len)` changes the size of one dimension. -/
  narrow_layout : ∀ t dim len t', narrow t dim 0 len = .ok t' →
    t' = { t with axes := t.axes.modify dim fun axis => { axis with size := len } }
  /-- `transpose(0, 1)` of a matrix exchanges its dimensions. -/
  transpose_layout : ∀ t rows cols t', t.axes = [rows, cols] → transpose t = .ok t' →
    t' = { t with axes := [cols, rows] }

/-- The axes of a contiguous tensor. -/
def rowMajorAxes : List Nat → List Axis
  | [] => []
  | n :: ns => ⟨n, ns.prod⟩ :: rowMajorAxes ns

/-- Candle with memory at an address. -/
def Api.memoryAt (storage : Ptr) : Api where
  zeros rows cols dtype device :=
    .ok { dtype, axes := rowMajorAxes [rows, cols], startOffset := 0, device, storage }
  narrow t dim start len :=
    match t.axes[dim]? with
    | some axis =>
      if start + len ≤ axis.size then .ok { t with
        axes := t.axes.modify dim fun axis => { axis with size := len }
        startOffset := t.startOffset + start * axis.stride }
      else .error "narrow invalid args start + len > dim_len"
    | none => .error "narrow dimension out of range"
  transpose t :=
    match t.axes with
    | [rows, cols] => .ok { t with axes := [cols, rows] }
    | _ => .error "transpose expects a matrix"
  zeros_layout rows cols dtype device t h := by
    cases h
    simp [rowMajorAxes]
  narrow_layout t dim len t' h := by
    split at h
    · split at h
      · cases h
        simp
      · cases h
    · cases h
  transpose_layout t rows cols t' ht h := by
    rw [ht] at h
    cases h
    rfl

/-! ## Checks -/

def ensureRank (t : Tensor) (rank : Nat) (name : String) : Result Unit :=
  throwIf (t.rank ≠ rank) (invalidArg s!"{name} must have rank {rank}, got {t.rank}")

def ensureSameDevice (reference t : Tensor) (name : String) : Result Unit :=
  throwIf (¬ reference.device.sameDevice t.device) (invalidArg s!"{name} must be on the same device as q")

def ensureDtype (t : Tensor) (dtype : CandleDType) (name : String) : Result Unit :=
  throwIf (t.dtype ≠ dtype) (invalidArg s!"{name} must have dtype {dtype.debug}, got {t.dtype.debug}")

/-- `stream_and_device_id`. -/
def streamAndDeviceId (t : Tensor) : Result (Ptr × Int) :=
  match t.device with
  | .cuda _ ordinal stream => do
    throwIf ((ordinal : Int) > i32.hi) (invalidArg "device id overflow")
    .ok (stream, ordinal)
  | .other _ => .error (.err (.candle "not a cuda device"))

/-- The check that a tensor is on the device the runtime launches on. -/
def ensureCurrentDevice (runtime : Runtime) (deviceId : Int) (name : String) : Result DeviceInfo := do
  let info ← ofRust (Crate.deviceInfo runtime)
  throwIf (info.device ≠ deviceId)
    (invalidArg s!"{name} is on CUDA device {deviceId}, but DeepGEMM current device is {info.device}")
  .ok info

/-- `tensor_ptr_typed::<T>`, for `T` of this dtype and size. -/
def tensorPtrTyped (t : Tensor) (dtype : CandleDType) (size : Nat) (name : String) : Result Ptr :=
  match t.device with
  | .cuda _ _ _ => do
    throwIf (t.dtype ≠ dtype) (.err (.candle s!"unexpected dtype, expected: {dtype.debug}, got: {t.dtype.debug}"))
    throwIf (¬ u64.Has (t.startOffset * size : Nat)) (invalidArg s!"{name} start_offset overflow")
    throwIf (¬ u64.Has (t.storage + t.startOffset * size : Nat)) (invalidArg s!"{name} pointer overflow")
    .ok (t.storage + t.startOffset * size)
  | .other _ => .error (invalidArg s!"{name} must be a CUDA tensor")

/-- `tensor_ptr_by_dtype`. -/
def tensorPtrByDtype (t : Tensor) (dtype : CandleDType) (name : String) : Result Ptr :=
  match dtype with
  | .bf16 => tensorPtrTyped t .bf16 2 name
  | .f32 => tensorPtrTyped t .f32 4 name
  | .i32 => tensorPtrTyped t .i32 4 name
  | .u8 => tensorPtrTyped t .u8 1 name
  | .f8E4M3 => tensorPtrTyped t .f8E4M3 1 name
  | dtype => .error (invalidArg s!"{name} has unsupported dtype {dtype.debug}")

/-- `tensor_spec`. -/
def tensorSpec (rank : Nat) (t : Tensor) (dtype : DType) (name : String) : Result (TensorSpec rank) :=
  if h : t.rank = rank then
    if hs : ∀ i : Fin rank, i64.Has (t.axes.get (i.cast h.symm)).stride then
      .ok {
        dtype
        shape := fun i => (t.axes.get (i.cast h.symm)).size
        strides := fun i => ⟨(t.axes.get (i.cast h.symm)).stride, hs i⟩ }
    else .error (invalidArg s!"{name} stride overflow")
  else .error (invalidArg s!"{name} must have rank {rank}, got {t.rank}")

/-! ## What the checks tell -/

variable {t : Tensor} {name : String} {u : Unit}

@[simp] theorem ensureRank_eq_ok {rank : Nat} : ensureRank t rank name = .ok u ↔ t.rank = rank := by
  simp [ensureRank]

@[simp] theorem ensureDtype_eq_ok {dtype : CandleDType} : ensureDtype t dtype name = .ok u ↔ t.dtype = dtype := by
  simp [ensureDtype]

@[simp] theorem ensureSameDevice_eq_ok {reference : Tensor} :
    ensureSameDevice reference t name = .ok u ↔ reference.device.sameDevice t.device := by
  simp [ensureSameDevice]

/-- The spec of a matrix: its dtype is given, its extents and strides are the tensor's. -/
structure SpecOf (t : Tensor) (dtype : DType) {rank : Nat} (spec : TensorSpec rank) : Prop where
  rankEq : t.rank = rank
  dtypeEq : spec.dtype = dtype
  axes : ∀ (i : Fin rank) (h : i.val < t.axes.length),
    (t.axes[i.val]).size = spec.shape i ∧ ((t.axes[i.val]).stride : Int) = spec.strides i

theorem tensorSpec_eq_ok {rank : Nat} {dtype : DType} {spec : TensorSpec rank} :
    tensorSpec rank t dtype name = .ok spec ↔ SpecOf t dtype spec := by
  unfold tensorSpec
  refine ⟨fun h => ?_, fun h => ?_⟩
  · split at h
    · next hr =>
      split at h
      · cases h
        exact ⟨hr, rfl, fun i hi => ⟨rfl, rfl⟩⟩
      · cases h
    · cases h
  · have hlt : ∀ i : Fin rank, i.val < t.axes.length := fun i => h.rankEq.symm ▸ i.isLt
    have hs : ∀ i : Fin rank, i64.Has (t.axes.get (i.cast h.rankEq.symm)).stride := fun i =>
      (h.axes i (hlt i)).2 ▸ (spec.strides i).2
    rw [dif_pos h.rankEq, dif_pos hs]
    refine congrArg Except.ok (TensorSpec.ext h.dtypeEq.symm ?_ ?_)
    · funext i
      exact (h.axes i (hlt i)).1
    · funext i
      exact Subtype.ext (h.axes i (hlt i)).2

end DeepGemmRs.Candle
