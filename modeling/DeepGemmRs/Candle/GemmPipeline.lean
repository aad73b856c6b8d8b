import DeepGemmRs.Candle.Gemm
import DeepGemmRs.Refine.GemmLaunch

/-!
# The GEMM pipeline of candle tensors

* `Api.Total`, `Serves` : candle and the device do what they are asked;
* `GpuTensor` : a tensor in the memory of the current device;
* `prepareFp8GemmScale_succeeds` : a raw scale is transformed, into an `ExpectedScale`;
* `fp8GemmNtPreparedScales_succeeds` : on such scales the GEMM is launched;
* `fp8GemmNt_reaches_kernel` : so is the GEMM of tensors of the documented shapes.
-/

namespace DeepGemmRs.Candle

open Checked MachineInt Rounding

/-! ## Candle and the device -/

/-- Candle makes the tensors it is asked for, whatever number of bytes they have. -/
structure Api.Total (api : Api) : Prop where
  zeros : ∀ rows cols dtype id ordinal stream, 0 < rows * cols → i64.Has (rows * cols * 4 : Nat) →
    ∃ t, api.zeros rows cols dtype (.cuda id ordinal stream) = .ok t ∧ t.storage ≠ 0 ∧ u64.Has t.storage
  narrow : ∀ t dim len axis, t.axes[dim]? = some axis → len ≤ axis.size → ∃ t', api.narrow t dim 0 len = .ok t'
  transpose : ∀ t rows cols, t.axes = [rows, cols] → ∃ t', api.transpose t = .ok t'

theorem Api.memoryAt_total {storage : Ptr} (h : storage ≠ 0) (hs : u64.Has storage) :
    (Api.memoryAt storage).Total where
  zeros rows cols dtype id ordinal stream _ _ := ⟨_, rfl, h, hs⟩
  narrow t dim len axis haxis hlen := by
    refine ⟨{ t with
      axes := t.axes.modify dim fun axis => { axis with size := len }
      startOffset := t.startOffset + 0 * axis.stride }, ?_⟩
    simp only [Api.memoryAt, haxis]
    rw [if_pos (by omega)]
  transpose t rows cols ht := ⟨{ t with axes := [cols, rows] }, by simp only [Api.memoryAt, ht]⟩

/-- The runtime serves the device with this ordinal, of this family, on this number of SMs. -/
structure Serves (runtime : Runtime) (ordinal : Nat) (arch : Arch) (numSms : Int) : Prop where
  device : ∃ info, runtime.currentDeviceInfo = .ok info ∧ info.device = ordinal ∧ info.major = arch.major
  ordinal : (ordinal : Int) ≤ i32.hi
  sms : runtime.effectiveNumSms = .ok numSms

/-- The size of the type that `tensor_ptr_by_dtype` reads a dtype as. -/
def CandleDType.elementSize : CandleDType → Option Nat
  | .bf16 => some 2
  | .f32 | .i32 => some 4
  | .u8 | .f8E4M3 => some 1
  | .other _ => none

/-- A tensor on a CUDA device, in memory with 64-bit addresses. -/
structure GpuTensor (t : Tensor) (gpu : Device) (dtype : CandleDType) (axes : List Axis) : Prop where
  onGpu : t.device = gpu
  dtypeEq : t.dtype = dtype
  axesEq : t.axes = axes
  storage : t.storage ≠ 0
  address : ∃ size, dtype.elementSize = some size ∧ u64.Has (t.storage + t.startOffset * size : Nat)

section

variable {t : Tensor} {id ordinal : Nat} {stream : Ptr} {dtype : CandleDType} {axes : List Axis}

theorem GpuTensor.ptr (h : GpuTensor t (.cuda id ordinal stream) dtype axes) (name : String) :
    ∃ data, tensorPtrByDtype t dtype name = .ok data ∧ data ≠ 0 := by
  obtain ⟨size, hsize, haddress⟩ := h.address
  have hs := h.storage
  have hoffset : u64.Has (t.startOffset * size : Nat) := by
    rw [has_u64] at haddress ⊢
    omega
  have htyped : ∀ name, tensorPtrTyped t dtype size name = .ok (t.storage + t.startOffset * size) := by
    intro name
    simp only [tensorPtrTyped, h.onGpu]
    rw [throwIf_neg (not_not.mpr h.dtypeEq), ok_bind, throwIf_neg (not_not.mpr hoffset), ok_bind,
      throwIf_neg (not_not.mpr haddress), ok_bind]
  refine ⟨t.storage + t.startOffset * size, ?_, (Nat.add_pos_left (Nat.pos_of_ne_zero hs) _).ne'⟩
  cases dtype <;> cases hsize <;> exact htyped name

theorem GpuTensor.streamAndDeviceId (h : GpuTensor t (.cuda id ordinal stream) dtype axes)
    (ho : (ordinal : Int) ≤ i32.hi) : streamAndDeviceId t = .ok (stream, (ordinal : Int)) := by
  simp only [Candle.streamAndDeviceId, h.onGpu]
  rw [throwIf_neg (not_lt.mpr ho), ok_bind]

theorem GpuTensor.rank (h : GpuTensor t (.cuda id ordinal stream) dtype axes) : t.rank = axes.length :=
  congrArg List.length h.axesEq

theorem GpuTensor.sameDevice (h : GpuTensor t (.cuda id ordinal stream) dtype axes) {t' : Tensor}
    {dtype' : CandleDType} {axes' : List Axis} (h' : GpuTensor t' (.cuda id ordinal stream) dtype' axes') :
    t.device.sameDevice t'.device := by
  rw [h.onGpu, h'.onGpu]
  simp [Device.sameDevice]

/-- The spec of a matrix. -/
def matrixSpec (dtype : DType) (rows cols : Nat) (rowStride colStride : I64) : TensorSpec 2 where
  dtype
  shape := ![rows, cols]
  strides := ![rowStride, colStride]

theorem GpuTensor.spec {rows cols rowStride colStride : Nat}
    (h : GpuTensor t (.cuda id ordinal stream) dtype [⟨rows, rowStride⟩, ⟨cols, colStride⟩]) (hr : i64.Has rowStride)
    (hc : i64.Has colStride) (d : DType) (name : String) :
    tensorSpec 2 t d name = .ok (matrixSpec d rows cols ⟨rowStride, hr⟩ ⟨colStride, hc⟩) := by
  refine tensorSpec_eq_ok.mpr ⟨h.rank, rfl, ?_⟩
  have h0 : ∀ hi : 0 < t.axes.length, t.axes[0] = ⟨rows, rowStride⟩ := by simp [h.axesEq]
  have h1 : ∀ hi : 1 < t.axes.length, t.axes[1] = ⟨cols, colStride⟩ := by simp [h.axesEq]
  refine Fin.forall_fin_two.mpr ⟨fun hi => ?_, fun hi => ?_⟩
  · exact (h0 hi).symm ▸ ⟨rfl, rfl⟩
  · exact (h1 hi).symm ▸ ⟨rfl, rfl⟩

theorem ensureCurrentDevice_succeeds {runtime : Runtime} {arch : Arch} {numSms : Int}
    (h : Serves runtime ordinal arch numSms) (name : String) :
    ∃ info, ensureCurrentDevice runtime ordinal name = .ok info ∧ info.arch = .ok arch := by
  obtain ⟨info, hinfo, hdevice, hmajor⟩ := h.device
  refine ⟨info, ?_, DeviceInfo.arch_eq_ok.mpr hmajor⟩
  have hrust : Crate.deviceInfo runtime = .ok info := checkNative_eq_ok.mpr hinfo
  simp only [ensureCurrentDevice, hrust, ofRust]
  rw [ok_bind, throwIf_neg (not_not.mpr hdevice), ok_bind]

end

/-! ## Contiguous matrices -/

theorem rowMajorAxes_two (rows cols : Nat) : rowMajorAxes [rows, cols] = [⟨rows, cols⟩, ⟨cols, 1⟩] := by
  simp [rowMajorAxes]

theorem has_i64_of_le {x : Nat} (h : (x : Int) ≤ i32.hi) : i64.Has x :=
  ⟨Int.le_trans (by decide) (Int.natCast_nonneg x), h.trans (by decide)⟩

section

variable {t : Tensor} {id ordinal : Nat} {stream : Ptr} {dtype : CandleDType} {rows cols : Nat}

theorem GpuTensor.matrix (h : GpuTensor t (.cuda id ordinal stream) dtype (rowMajorAxes [rows, cols]))
    (hc : (cols : Int) ≤ i32.hi) (d : DType) :
    ∃ spec, (∀ name, tensorSpec 2 t d name = .ok spec) ∧ Refine.ContiguousMatrix spec d rows cols := by
  rw [rowMajorAxes_two] at h
  refine ⟨_, fun name => h.spec (has_i64_of_le hc) (by decide) d name, ⟨?_, rfl, rfl, rfl⟩⟩
  exact TensorSpec.rowMajor_two.mpr ⟨rfl, rfl⟩

theorem ceilDiv_succeeds {value divisor : Nat} (hv : (value : Int) ≤ i32.hi)
    (hd : 0 < divisor ∧ (divisor : Int) ≤ i32.hi) : ceilDiv value divisor = .ok (value ⌈/⌉ divisor) := by
  obtain ⟨hpos, hdle⟩ := hd
  simp only [i32] at hv hdle
  rw [ceilDiv, if_neg (by omega), if_pos (has_u64.mpr ⟨by omega, by omega⟩), Nat.ceilDiv_eq_add_pred_div,
    Nat.add_sub_assoc hpos]

theorem requireRawScale_succeeds {spec : TensorSpec 2} (h : Refine.ContiguousMatrix spec .f32 rows cols)
    (hr : (rows : Int) ≤ i32.hi) (hc : (cols : Int) ≤ i32.hi) (name : String) :
    requireRawScale spec ![rows, cols] name = .ok () := by
  have hcontiguous := (Refine.requireContiguous_matrix (h.extents hr hc) name (u := ())).mpr h.rowMajor
  simp only [TensorSpec.requireContiguous, bind_eq_ok, throwIf_eq_ok] at hcontiguous
  simp only [requireRawScale, bind_eq_ok, ofRust_eq_ok, throwIf_eq_ok, exists_const, not_not, eq_vec_two]
  obtain ⟨contiguous, hloop, htrue⟩ := hcontiguous
  exact ⟨contiguous, hloop, not_not.mp htrue, h.dtypeEq, Int.natCast_inj.mp h.rows, Int.natCast_inj.mp h.cols⟩

end

/-! ## Scales -/

/-- The description of a transformed scale that the crate and the native code expect. -/
structure ExpectedScale (spec : TensorSpec 2) (mn k granK : Nat) (dtype : DType) : Prop where
  crate : ∃ layout, Crate.fp8GemmScaleLayout mn k granK dtype = .ok layout ∧ spec = layout.logicalSpec
  native : ∀ data, data ≠ 0 → ∃ raw, spec.toRawTensor data = .ok raw ∧
    ∀ name, Raw.Gemm.requireMnMajorScale raw mn k granK dtype.toSys name = .ok ()

/-- The sizes of a scale transform. -/
structure TransformSizes (mn k granMn granK : Nat) : Prop where
  sizeMn : 0 < mn ∧ (mn : Int) ≤ i32.hi - 3
  sizeK : 0 < k ∧ (k : Int) ≤ i32.hi
  sizeGranMn : 0 < granMn ∧ (granMn : Int) ≤ i32.hi
  sizeGranK : 0 < granK ∧ (granK : Int) ≤ i32.hi
  blocks : (k : Int) ⌈/⌉ (granK : Int) ≤ 512

section

variable {mn k granMn granK : Nat} {dtype : DType}

theorem TransformSizes.mn_le (h : TransformSizes mn k granMn granK) : (mn : Int) ≤ i32.hi :=
  h.sizeMn.2.trans (by decide)

theorem expectedScale_of_mnMajor (h : TransformSizes mn k granMn granK) (hd : Refine.IsScale dtype)
    {spec : TensorSpec 2} (hs : Refine.MnMajorScale spec mn k granK dtype) : ExpectedScale spec mn k granK dtype where
  crate := by
    obtain ⟨layout, hl, hlayout⟩ := Refine.fp8GemmScaleLayout_succeeds hd ⟨h.sizeMn.1, h.mn_le⟩ h.sizeK h.sizeGranK
    exact ⟨layout, hl, hlayout.spec_iff.mpr hs⟩
  native data hdata := by
    have hext := hs.extents h.sizeGranK.1 h.mn_le h.sizeK.2
    obtain ⟨raw, hraw⟩ := TensorSpec.toRawTensor_succeeds (show 2 ≤ 4 by decide)
      (fun i => (hext i).trans (by decide)) data
    have himg : (⟨data, spec⟩ : TensorArg 2).Image raw := TensorSpec.toRawTensor_image (by decide) hraw
    exact ⟨raw, hraw, fun name =>
      (Refine.raw_requireMnMajorScale_iff himg hdata hd h.mn_le h.sizeK.2 h.sizeGranK).mpr hs⟩

/-- The transposed and narrowed allocation is the layout's view. -/
theorem allocateTransformedScale_succeeds {api : Api} (hapi : api.Total) {layout : TensorLayout2D}
    (hl : Refine.ScaleLayout layout mn k granK dtype) (hd : Refine.IsScale dtype)
    (h : TransformSizes mn k granMn granK) (id ordinal : Nat) (stream : Ptr) :
    ∃ t spec axes, allocateTransformedScale api layout (.cuda id ordinal stream) = .ok t ∧
      GpuTensor t (.cuda id ordinal stream) (candleDtypeForDeepgemm dtype) axes ∧ axes.length = 2 ∧
      (∀ name, tensorSpec 2 t dtype name = .ok spec) ∧ Refine.MnMajorScale spec mn k granK dtype := by
  obtain ⟨hmn0, hmn1⟩ := h.sizeMn
  simp only [i32] at hmn1
  have hdtype : layout.dtype = dtype := hl.spec.dtypeEq
  have hrows : layout.logicalShape 0 = mn := hl.spec.rows
  have hcols : (layout.logicalShape 1 : Int) = (k : Int) ⌈/⌉ Refine.scaleDivisor granK dtype := hl.spec.cols
  have hgran : (granK : Int) ≤ Refine.scaleDivisor granK dtype := by
    unfold Refine.scaleDivisor
    split <;> omega
  have hgran0 : 0 < (granK : Int) := Int.natCast_pos.mpr h.sizeGranK.1
  have hcols0 : 0 < (k : Int) ⌈/⌉ Refine.scaleDivisor granK dtype :=
    ceilDiv_pos (hgran0.trans_le hgran) (Int.natCast_pos.mpr h.sizeK.1)
  have hcols1 : (k : Int) ⌈/⌉ Refine.scaleDivisor granK dtype ≤ 512 :=
    (ceilDiv_anti hgran0 hgran (Int.natCast_nonneg k)).trans h.blocks
  have hal0 : (mn : Int) ≤ alignUp mn 4 := le_alignUp (by decide)
  have hal1 : alignUp (mn : Int) 4 < mn + 4 := alignUp_lt (by decide)
  have haligned := hl.allocationCols
  have hallocated : layout.allocationShape 0 = layout.logicalShape 1 := hl.allocationRows
  have hcount : layout.allocationShape 0 * layout.allocationShape 1 ≤ 512 * 2147483648 :=
    Nat.mul_le_mul (by omega) (by omega)
  obtain ⟨allocation, hzeros, hstorage, haddress⟩ := hapi.zeros (layout.allocationShape 0)
    (layout.allocationShape 1) (candleDtypeForDeepgemm dtype) id ordinal stream
    (Nat.mul_pos (by omega) (by omega)) (has_i64.mpr ⟨by omega, by omega⟩)
  obtain ⟨haxes, hallocdtype, halloc, hoffset⟩ := api.zeros_layout _ _ _ _ _ hzeros
  obtain ⟨transposed, htranspose⟩ := hapi.transpose _ _ _ haxes
  have htransposed := api.transpose_layout _ _ _ _ haxes htranspose
  obtain ⟨t, hnarrow⟩ := hapi.narrow transposed 0 mn ⟨layout.allocationShape 1, 1⟩ (by rw [htransposed]; rfl)
    (show mn ≤ layout.allocationShape 1 by omega)
  have ht := api.narrow_layout _ _ _ _ hnarrow
  rw [htransposed] at ht
  have hview : t.axes = [⟨mn, 1⟩, ⟨layout.allocationShape 0, layout.allocationShape 1⟩] := by rw [ht]; rfl
  have hgpu : GpuTensor t (.cuda id ordinal stream) (candleDtypeForDeepgemm dtype)
      [⟨mn, 1⟩, ⟨layout.allocationShape 0, layout.allocationShape 1⟩] := by
    refine ⟨by rw [ht]; exact halloc, by rw [ht]; exact hallocdtype, hview, by rw [ht]; exact hstorage, 4, ?_, ?_⟩
    · rcases hd with rfl | rfl <;> rfl
    · rw [ht]
      show u64.Has (allocation.storage + allocation.startOffset * 4 : Nat)
      rw [hoffset]
      exact haddress
  refine ⟨t, _, _, ?_, hgpu, rfl, fun name => hgpu.spec (by decide) (has_i64.mpr ⟨by omega, by omega⟩) dtype name,
    rfl, rfl, ?_, rfl, haligned⟩
  · rw [allocateTransformedScale, hdtype, hzeros, hrows]
    simp only [ofCandle, ok_bind, htranspose, hnarrow]
  · show ((layout.allocationShape 0 : Nat) : Int) = _
    rw [hallocated, hcols]

variable {api : Api} {runtime : Runtime} {id ordinal : Nat} {stream : Ptr} {arch : Arch} {numSms : Int}

/-- **A raw scale is transformed**, into what a GEMM expects. -/
theorem prepareFp8GemmScale_succeeds (hapi : api.Total) (hrun : Serves runtime ordinal arch numSms)
    (hd : Refine.IsScale dtype) (h : TransformSizes mn k granMn granK)
    (hbroadcast : granMn = 1 ∨ dtype = .packedUe8M0) {scale : Tensor}
    (hscale : GpuTensor scale (.cuda id ordinal stream) .f32 (rowMajorAxes [mn ⌈/⌉ granMn, k ⌈/⌉ granK])) :
    ∃ t launch spec axes, prepareFp8GemmScale api runtime scale mn k granMn granK dtype = .ok (t, launch) ∧
      launch.kernel = Refine.transformKernel granMn dtype ∧
      GpuTensor t (.cuda id ordinal stream) (candleDtypeForDeepgemm dtype) axes ∧ axes.length = 2 ∧
      (∀ name, tensorSpec 2 t dtype name = .ok spec) ∧ Refine.MnMajorScale spec mn k granK dtype := by
  have hrows := natCast_ceilDiv h.sizeGranMn.1 mn
  have hcols := natCast_ceilDiv h.sizeGranK.1 k
  have hrows1 : ((mn ⌈/⌉ granMn : Nat) : Int) ≤ i32.hi := by
    rw [hrows]
    exact (ceilDiv_le_self (Int.natCast_pos.mpr h.sizeGranMn.1) (Int.natCast_nonneg _)).trans h.mn_le
  have hcols1 : ((k ⌈/⌉ granK : Nat) : Int) ≤ i32.hi := by
    rw [hcols]
    exact (ceilDiv_le_self (Int.natCast_pos.mpr h.sizeGranK.1) (Int.natCast_nonneg _)).trans h.sizeK.2
  obtain ⟨scaleSpec, hspec, hmatrix⟩ := hscale.matrix hcols1 .f32
  obtain ⟨info, hinfo, -⟩ := ensureCurrentDevice_succeeds hrun "scale"
  obtain ⟨layout, hl, hlayout⟩ := Refine.fp8GemmScaleLayout_succeeds hd ⟨h.sizeMn.1, h.mn_le⟩ h.sizeK h.sizeGranK
  obtain ⟨t, spec, axes, halloc, hgpu, hlen, htspec, hmajor⟩ :=
    allocateTransformedScale_succeeds hapi hlayout hd h id ordinal stream
  obtain ⟨scalePtr, hsp, hsp0⟩ := hscale.ptr "scale"
  obtain ⟨transformedPtr, htp, htp0⟩ := hgpu.ptr "transformed"
  have hdtype : layout.dtype = dtype := hlayout.spec.dtypeEq
  let params : Crate.Fp8GemmScaleTransformLaunch := {
    scale := ⟨scalePtr, scaleSpec⟩, transformed := ⟨transformedPtr, layout.logicalSpec⟩, mn, k, granMn, granK, stream }
  have hcontract : Refine.TransformContract params.spec := {
    posMn := h.sizeMn.1
    posK := h.sizeK.1
    posGranMn := h.sizeGranMn.1
    posGranK := h.sizeGranK.1
    scale := ⟨hmatrix.rowMajor, hmatrix.dtypeEq, hmatrix.rows.trans hrows, hmatrix.cols.trans hcols⟩
    isScale := hlayout.spec.dtypeEq.symm ▸ hd
    transformed := hlayout.spec.dtypeEq.symm ▸ hlayout.spec }
  have hpointers : Refine.TransformPointers params := ⟨hsp0, htp0⟩
  obtain ⟨launch, hlaunch, hkernel⟩ := Refine.fp8GemmTransformScale_launches hpointers
    ⟨h.mn_le, h.sizeK.2, h.sizeGranMn.2, h.sizeGranK.2⟩ h.sizeMn.2 h.blocks
    (hbroadcast.imp_right hlayout.spec.dtypeEq.trans) hcontract runtime
  refine ⟨t, launch, spec, axes, ?_, ?_, hgpu, hlen, htspec, hmajor⟩
  · have htransform : transformScale api runtime scale scaleSpec layout mn k granMn granK stream = .ok (t, launch) := by
      unfold transformScale
      rw [hscale.onGpu, halloc, ok_bind, hsp, ok_bind, hdtype, htp, ok_bind]
      exact bind_eq_ok.mpr ⟨launch, ofRust_eq_ok.mpr hlaunch, rfl⟩
    unfold prepareFp8GemmScale
    simp only [bind_eq_ok, ensureRank_eq_ok, ensureDtype_eq_ok, ofRust_eq_ok, exists_const]
    exact ⟨hscale.rank, hscale.dtypeEq, scaleSpec, hspec _, _, ceilDiv_succeeds h.mn_le h.sizeGranMn, _,
      ceilDiv_succeeds h.sizeK.2 h.sizeGranK, (), requireRawScale_succeeds hmatrix hrows1 hcols1 _, _,
      hscale.streamAndDeviceId hrun.ordinal, info, hinfo, layout, hl, htransform⟩
  · rw [hkernel, show params.transformed.spec.dtype = dtype from hlayout.spec.dtypeEq]

end

/-! ## The GEMM -/

/-- The result of a GEMM of the supported sizes has fewer than `2^63` bytes. -/
theorem has_outputBytes {m n k : Nat} {numSms : Int} (hs : Raw.Gemm.GemmSizes m n k numSms) :
    i64.Has (m * n * 4 : Nat) := by
  have hm : (m : Int) ≤ 16 * ((m : Int) ⌈/⌉ (16 : Int)) := le_mul_ceilDiv (by decide)
  have hn : (n : Int) ≤ 16 * ((n : Int) ⌈/⌉ (16 : Int)) := le_mul_ceilDiv (by decide)
  have hcount : (m : Int) * n ≤ 256 * 2 ^ 30 :=
    calc (m : Int) * n ≤ 16 * ((m : Int) ⌈/⌉ (16 : Int)) * (16 * ((n : Int) ⌈/⌉ (16 : Int))) :=
          Int.mul_le_mul hm hn (Int.natCast_nonneg n) ((Int.natCast_nonneg m).trans hm)
      _ = 256 * (((m : Int) ⌈/⌉ (16 : Int)) * ((n : Int) ⌈/⌉ (16 : Int))) := by ring
      _ ≤ 256 * 2 ^ 30 := Int.mul_le_mul_of_nonneg_left hs.blocks (by decide)
  have hcount0 : 0 ≤ (m : Int) * n := Int.mul_nonneg (Int.natCast_nonneg m) (Int.natCast_nonneg n)
  rw [has_i64]
  push_cast
  omega

section

variable {api : Api} {runtime : Runtime} {id ordinal : Nat} {stream : Ptr} {arch : Arch} {numSms : Int}
  {m n k : Nat} {a aScale b bScale : Tensor} {aScaleAxes bScaleAxes : List Axis}

/-- The allocation for the result is a tensor on the device. -/
theorem Api.Total.zeros_gpuTensor (hapi : api.Total) (id ordinal : Nat) (stream : Ptr) {rows cols : Nat}
    (hcount : 0 < rows * cols) (hbytes : i64.Has (rows * cols * 4 : Nat)) :
    ∃ t, api.zeros rows cols .bf16 (.cuda id ordinal stream) = .ok t ∧
      GpuTensor t (.cuda id ordinal stream) .bf16 (rowMajorAxes [rows, cols]) := by
  obtain ⟨t, hzeros, hstorage, haddress⟩ := hapi.zeros rows cols .bf16 id ordinal stream hcount hbytes
  obtain ⟨haxes, hdtype, hdevice, hoffset⟩ := api.zeros_layout _ _ _ _ _ hzeros
  refine ⟨t, hzeros, hdevice, hdtype, haxes.trans (rowMajorAxes_two rows cols).symm, hstorage, 2, rfl, ?_⟩
  rw [hoffset]
  simpa using haddress

/-- Matrices of the sizes of a GEMM, with scales that fit them, meet its contract. -/
theorem gemmContract_of_matrices {numSms : Int} {spec : Crate.Fp8GemmNtSpec} (hs : Raw.Gemm.GemmSizes m n k numSms)
    (hn8 : n % 8 = 0) (ha : Refine.ContiguousMatrix spec.a .fp8E4M3 m k)
    (hb : Refine.ContiguousMatrix spec.b .fp8E4M3 n k) (hd : Refine.ContiguousMatrix spec.d .bf16 m n)
    (hscales : Refine.ScalesContract spec m n k arch) : Refine.GemmContract spec arch m n k where
  posM := Int.natCast_pos.mp (Int.lt_of_lt_of_le (by decide) hs.sizeM.1)
  posN := Int.natCast_pos.mp (Int.lt_of_lt_of_le (by decide) hs.sizeN.1)
  posK := Int.natCast_pos.mp (Int.lt_of_lt_of_le (by decide) hs.sizeK.1)
  a := ha
  b := hb
  d := hd
  blocks := hn8
  scales := hscales

/-- **On scales in the layout of the architecture the GEMM is launched.** -/
theorem fp8GemmNtPreparedScales_succeeds (hapi : api.Total) (hrun : Serves runtime ordinal arch numSms)
    (hs : Raw.Gemm.GemmSizes m n k numSms) (hn8 : n % 8 = 0)
    (ha : GpuTensor a (.cuda id ordinal stream) .f8E4M3 (rowMajorAxes [m, k]))
    (hb : GpuTensor b (.cuda id ordinal stream) .f8E4M3 (rowMajorAxes [n, k]))
    (has : GpuTensor aScale (.cuda id ordinal stream) (candleDtypeForDeepgemm (gemmScaleDtype arch)) aScaleAxes)
    (hbs : GpuTensor bScale (.cuda id ordinal stream) (candleDtypeForDeepgemm (gemmScaleDtype arch)) bScaleAxes)
    (hasRank : aScaleAxes.length = 2) (hbsRank : bScaleAxes.length = 2) {aScaleSpec bScaleSpec : TensorSpec 2}
    (hasSpec : ∀ name, tensorSpec 2 aScale (gemmScaleDtype arch) name = .ok aScaleSpec)
    (hbsSpec : ∀ name, tensorSpec 2 bScale (gemmScaleDtype arch) name = .ok bScaleSpec)
    (hscales : ∀ a b d, Refine.ScalesContract ⟨a, aScaleSpec, b, bScaleSpec, d⟩ m n k arch) :
    ∃ d launch, fp8GemmNtPreparedScales api runtime a aScale b bScale = .ok (d, launch) ∧
      launch.kernel = Refine.gemmKernel arch ∧
      GpuTensor d (.cuda id ordinal stream) .bf16 (rowMajorAxes [m, n]) := by
  obtain ⟨hm0, hm1⟩ := hs.extentM
  obtain ⟨hn0, hn1⟩ := hs.extentN
  have hf := Refine.gemmFits_of_sizes hs
  obtain ⟨aSpec, haSpec, haMatrix⟩ := ha.matrix hf.k .fp8E4M3
  obtain ⟨bSpec, hbSpec, hbMatrix⟩ := hb.matrix hf.k .fp8E4M3
  obtain ⟨info, hcurrent, harch⟩ := ensureCurrentDevice_succeeds hrun "a"
  obtain ⟨device, hdevice, -, hmajor⟩ := hrun.device
  have haRows : aSpec.shape 0 = m := Int.natCast_inj.mp haMatrix.rows
  have haCols : aSpec.shape 1 = k := Int.natCast_inj.mp haMatrix.cols
  have hbRows : bSpec.shape 0 = n := Int.natCast_inj.mp hbMatrix.rows
  have hbCols : bSpec.shape 1 = k := Int.natCast_inj.mp hbMatrix.cols
  have hn64 : i64.Has (bSpec.shape 0) := hbRows ▸ has_i64_of_le hf.n
  let dSpec := matrixSpec .bf16 (aSpec.shape 0) (bSpec.shape 0) ⟨bSpec.shape 0, hn64⟩ I64.one
  have houtput : outputSpec (aSpec.shape 0) (bSpec.shape 0) = .ok dSpec := dif_pos hn64
  have hdMatrix : Refine.ContiguousMatrix dSpec .bf16 m n :=
    ⟨TensorSpec.rowMajor_two.mpr ⟨rfl, rfl⟩, rfl, haMatrix.rows, hbMatrix.rows⟩
  have hcontract : Refine.GemmContract ⟨aSpec, aScaleSpec, bSpec, bScaleSpec, dSpec⟩ arch m n k :=
    gemmContract_of_matrices hs hn8 haMatrix hbMatrix hdMatrix (hscales aSpec bSpec dSpec)
  have hcontract' : Refine.GemmContract ⟨aSpec, aScaleSpec, bSpec, bScaleSpec, dSpec⟩ arch (aSpec.shape 0)
      (bSpec.shape 0) (aSpec.shape 1) := by rwa [haRows, hbRows, haCols]
  obtain ⟨layout, hlayout, hlogical, hallocation⟩ := Refine.fp8GemmNtOutputLayout_succeeds
    (by rwa [haRows, hbRows, haCols]) hcontract'
  have hdRows : layout.allocationShape 0 = m := by
    rw [hallocation]
    exact (congrArg (fun spec => spec.shape 0) hlogical).symm.trans (Int.natCast_inj.mp hdMatrix.rows)
  have hdCols : layout.allocationShape 1 = n := by
    rw [hallocation]
    exact (congrArg (fun spec => spec.shape 1) hlogical).symm.trans (Int.natCast_inj.mp hdMatrix.cols)
  obtain ⟨d, hzeros, hdGpu⟩ := hapi.zeros_gpuTensor id ordinal stream
    (Nat.mul_pos hcontract.posM hcontract.posN) (has_outputBytes hs)
  obtain ⟨aPtr, haPtr, ha0⟩ := ha.ptr "a"
  obtain ⟨aScalePtr, hasPtr, has0⟩ := has.ptr "a_scale"
  obtain ⟨bPtr, hbPtr, hb0⟩ := hb.ptr "b"
  obtain ⟨bScalePtr, hbsPtr, hbs0⟩ := hbs.ptr "b_scale"
  obtain ⟨dPtr, hdPtr, hd0⟩ := hdGpu.ptr "d"
  have hpointers : Refine.GemmPointers ⟨⟨aPtr, aSpec⟩, ⟨aScalePtr, aScaleSpec⟩, ⟨bPtr, bSpec⟩,
      ⟨bScalePtr, bScaleSpec⟩, ⟨dPtr, layout.logicalSpec⟩, stream⟩ :=
    ⟨ha0, has0, hb0, hbs0, hd0⟩
  obtain ⟨launch, hlaunch, hkernel⟩ := Refine.fp8GemmNt_launches hpointers hdevice hmajor hrun.sms haRows hbRows haCols hs (hlogical ▸ hcontract)
  refine ⟨d, launch, ?_, hkernel, hdGpu⟩
  unfold fp8GemmNtPreparedScales validateDevices
  simp only [bind_eq_ok, ensureSameDevice_eq_ok, ensureRank_eq_ok, ensureDtype_eq_ok, ofRust_eq_ok, ofCandle_eq_ok,
    throwIf_eq_ok, exists_const, not_not]
  refine ⟨⟨ha.sameDevice has, ha.sameDevice hb, ha.sameDevice hbs⟩, ha.rank, has.rank.trans hasRank, hb.rank,
    hbs.rank.trans hbsRank, ha.dtypeEq, hb.dtypeEq, _, ha.streamAndDeviceId hrun.ordinal, info, hcurrent, arch, harch,
    has.dtypeEq, hbs.dtypeEq, aSpec, haSpec _, aScaleSpec, hasSpec _, bSpec, hbSpec _, bScaleSpec, hbsSpec _,
    hbCols.trans haCols.symm, dSpec, houtput, layout, hlayout, d, ?_, aPtr, haPtr, aScalePtr, hasPtr, bPtr, hbPtr,
    bScalePtr, hbsPtr, dPtr, hdPtr, launch, hlaunch, rfl⟩
  rw [hdRows, hdCols, ha.onGpu]
  exact hzeros

end

/-- The rows of a raw `b_scale`: one for a block of 128 rows of `b`, on SM100 possibly one for each row. -/
def BScaleRows (rows n : Nat) : Arch → Prop
  | .sm90 => rows = n ⌈/⌉ 128
  | .sm100 => rows = n ∨ rows = n ⌈/⌉ 128

/-- The transform of a raw scale is admitted, with a view of the layout that the GEMM expects. -/
def Transforms (api : Api) (runtime : Runtime) (scale : Tensor) (mn k granMn : Nat) (dtype : DType) : Prop :=
  ∃ t launch spec, prepareFp8GemmScale api runtime scale mn k granMn 128 dtype = .ok (t, launch) ∧
    launch.kernel = Refine.transformKernel granMn dtype ∧ (∀ name, tensorSpec 2 t dtype name = .ok spec) ∧
    ExpectedScale spec mn k 128 dtype

/-- The kernels of a call: a transform of `a_scale`, on SM100 one of `b_scale`, and the GEMM. -/
def pipelineKernels (granMn : Nat) : Arch → List String
  | .sm90 => [Refine.transformKernel 1 .f32, Refine.gemmKernel .sm90]
  | .sm100 => [Refine.transformKernel 1 .packedUe8M0, Refine.transformKernel granMn .packedUe8M0,
      Refine.gemmKernel .sm100]

section

variable {api : Api} {runtime : Runtime} {id ordinal : Nat} {stream : Ptr} {arch : Arch} {numSms : Int}
  {m n k rows : Nat} {a aScale b bScale : Tensor}

theorem ceilDiv_128_lt (hn : 1 ≤ n) (hn8 : n % 8 = 0) : n ⌈/⌉ 128 < n := by
  rw [Nat.ceilDiv_eq_add_pred_div]
  omega

/-- The shape of a raw `b_scale` determines `gran_mn`. -/
theorem granMn_unique (hn : 1 ≤ n) (hn8 : n % 8 = 0) (hrows : rows = n ∨ rows = n ⌈/⌉ 128) :
    ∃! granMn, (granMn = 1 ∨ granMn = 128) ∧ rows = n ⌈/⌉ granMn := by
  have hlt := ceilDiv_128_lt hn hn8
  have hone : n ⌈/⌉ 1 = n := ceilDiv_one n
  rcases hrows with rfl | rfl
  · refine ⟨1, ⟨.inl rfl, hone.symm⟩, ?_⟩
    rintro granMn ⟨rfl | rfl, h⟩
    · rfl
    · omega
  · refine ⟨128, ⟨.inr rfl, rfl⟩, ?_⟩
    rintro granMn ⟨rfl | rfl, h⟩
    · omega
    · rfl

theorem granMnOf_succeeds {shape : Fin 2 → Nat} {granMn cols : Nat} (hn : 1 ≤ n) (hn8 : n % 8 = 0)
    (hfits : (n : Int) ≤ i32.hi) (hgran : granMn = 1 ∨ granMn = 128) (hshape : shape = ![n ⌈/⌉ granMn, cols]) :
    granMnOf shape n cols = .ok granMn := by
  have hlt := ceilDiv_128_lt hn hn8
  subst hshape
  unfold granMnOf
  rcases hgran with rfl | rfl
  · rw [ceilDiv_one, if_pos rfl]
  · rw [if_neg fun h => hlt.ne (congrFun h 0), ceilDiv_succeeds hfits (by decide), ok_bind, if_pos rfl]

theorem transforms_of_raw (hapi : api.Total) (hrun : Serves runtime ordinal arch numSms) {dtype : DType}
    (hd : Refine.IsScale dtype) {mn granMn : Nat} (h : TransformSizes mn k granMn 128)
    (hbroadcast : granMn = 1 ∨ dtype = .packedUe8M0) {scale : Tensor}
    (hscale : GpuTensor scale (.cuda id ordinal stream) .f32 (rowMajorAxes [mn ⌈/⌉ granMn, k ⌈/⌉ 128])) :
    Transforms api runtime scale mn k granMn dtype := by
  obtain ⟨t, launch, spec, axes, hprepare, hkernel, -, -, hspec, hmajor⟩ :=
    prepareFp8GemmScale_succeeds hapi hrun hd h hbroadcast hscale
  exact ⟨t, launch, spec, hprepare, hkernel, hspec, expectedScale_of_mnMajor h hd hmajor⟩

theorem isScale_gemmScaleDtype (arch : Arch) : Refine.IsScale (gemmScaleDtype arch) := by
  cases arch with
  | sm90 => exact .inl rfl
  | sm100 => exact .inr rfl

theorem transformSizes (hs : Raw.Gemm.GemmSizes m n k numSms) {mn granMn : Nat}
    (hmn : 0 < mn ∧ (mn : Int) ≤ i32.hi - 3) (hgran : granMn = 1 ∨ granMn = 128) :
    TransformSizes mn k granMn 128 where
  sizeMn := hmn
  sizeK := ⟨Int.natCast_pos.mp (Int.lt_of_lt_of_le (by decide) hs.sizeK.1), hs.extentK.2⟩
  sizeGranMn := by rcases hgran with rfl | rfl <;> decide
  sizeGranK := by decide
  blocks := hs.sizeK.2

/-- The `b_scale` of the GEMM: its kernel on SM100, and what the GEMM expects of it. -/
theorem prepareBScale_succeeds (hapi : api.Total) (hrun : Serves runtime ordinal arch numSms)
    (hs : Raw.Gemm.GemmSizes m n k numSms) (hn8 : n % 8 = 0) {granMn : Nat}
    (hgran : granMn = 128 ∨ (arch = .sm100 ∧ granMn = 1))
    (hscale : GpuTensor bScale (.cuda id ordinal stream) .f32 (rowMajorAxes [n ⌈/⌉ granMn, k ⌈/⌉ 128])) :
    ∃ t launches axes spec, prepareBScale api runtime bScale n k arch = .ok (t, launches) ∧
      launches.map Raw.Launch.kernel = (pipelineKernels granMn arch).tail.dropLast ∧
      GpuTensor t (.cuda id ordinal stream) (candleDtypeForDeepgemm (gemmScaleDtype arch)) axes ∧ axes.length = 2 ∧
      (∀ name, tensorSpec 2 t (gemmScaleDtype arch) name = .ok spec) ∧
      (∀ a aScale b d, Refine.MnMajorScale aScale m k 128 (gemmScaleDtype arch) →
        Refine.ScalesContract ⟨a, aScale, b, spec, d⟩ m n k arch) := by
  have hf := Refine.gemmFits_of_sizes hs
  have hn0 : 1 ≤ n := Int.natCast_pos.mp (Int.lt_of_lt_of_le (by decide) hs.sizeN.1)
  have hgran' : granMn = 1 ∨ granMn = 128 := hgran.elim .inr fun h => .inl h.2
  have hsizes := transformSizes hs ⟨hn0, hs.sizeN.2⟩ hgran'
  have hcols := natCast_ceilDiv (show 0 < 128 by decide) k
  have hcols1 : ((k ⌈/⌉ 128 : Nat) : Int) ≤ i32.hi := by
    rw [hcols]
    exact hs.sizeK.2.trans (by decide)
  obtain ⟨raw, hraw, hmatrix⟩ := hscale.matrix hcols1 .f32
  have hkcols := ceilDiv_succeeds hf.k (show 0 < 128 ∧ ((128 : Nat) : Int) ≤ i32.hi by decide)
  cases arch with
  | sm90 =>
    have hrows := natCast_ceilDiv (show 0 < 128 by decide) n
    obtain rfl : granMn = 128 := hgran.resolve_right (by simp)
    refine ⟨bScale, [], _, raw, ?_, rfl, hscale, by rw [rowMajorAxes_two]; rfl, hraw, fun a aScale b d ha =>
      ⟨ha, hmatrix.rowMajor, hmatrix.dtypeEq, hmatrix.rows.trans hrows, hmatrix.cols.trans hcols⟩⟩
    have hrequire := requireRawScale_succeeds hmatrix
      (hrows ▸ (ceilDiv_le_self (by decide) (Int.natCast_nonneg n)).trans hf.n) hcols1 "b_scale"
    simp only [prepareBScale, bind_eq_ok]
    exact ⟨_, ceilDiv_succeeds hf.n (by decide), _, hkcols, raw, hraw _, (), hrequire, trivial⟩
  | sm100 =>
    obtain ⟨t, launch, spec, axes, hprepare, hkernel, hgpu, hlen, hspec, hmajor⟩ :=
      prepareFp8GemmScale_succeeds hapi hrun (.inr rfl) hsizes (.inr rfl) hscale
    have hshape : raw.shape = ![n ⌈/⌉ granMn, k ⌈/⌉ 128] :=
      eq_vec_two.mpr ⟨Int.natCast_inj.mp hmatrix.rows, Int.natCast_inj.mp hmatrix.cols⟩
    refine ⟨t, [launch], axes, spec, ?_, congrArg (fun kernel => [kernel]) hkernel, hgpu, hlen, hspec,
      fun a aScale b d ha => ⟨ha, hmajor⟩⟩
    simp only [prepareBScale, bind_eq_ok]
    exact ⟨raw, hraw _, _, hkcols, _, granMnOf_succeeds hn0 hn8 hf.n hgran' hshape, _, hprepare, rfl⟩

/-- **The GEMM of contiguous tensors of the documented shapes passes every check and is launched.** -/
theorem fp8GemmNt_reaches_kernel (hapi : api.Total) (hrun : Serves runtime ordinal arch numSms)
    (hs : Raw.Gemm.GemmSizes m n k numSms) (hn8 : n % 8 = 0) (hrows : BScaleRows rows n arch)
    (ha : GpuTensor a (.cuda id ordinal stream) .f8E4M3 (rowMajorAxes [m, k]))
    (has : GpuTensor aScale (.cuda id ordinal stream) .f32 (rowMajorAxes [m, k ⌈/⌉ 128]))
    (hb : GpuTensor b (.cuda id ordinal stream) .f8E4M3 (rowMajorAxes [n, k]))
    (hbs : GpuTensor bScale (.cuda id ordinal stream) .f32 (rowMajorAxes [rows, k ⌈/⌉ 128])) :
    Transforms api runtime aScale m k 1 (gemmScaleDtype arch) ∧
    (∃ config, Refine.bestConfig arch m n k numSms = .ok config) ∧
    (∃! granMn, (granMn = 1 ∨ granMn = 128) ∧ rows = n ⌈/⌉ granMn) ∧
    ∀ granMn, (granMn = 1 ∨ granMn = 128) ∧ rows = n ⌈/⌉ granMn →
      (arch = .sm100 → Transforms api runtime bScale n k granMn .packedUe8M0) ∧
      ∃ d launches, fp8GemmNt api runtime a aScale b bScale = .ok (d, launches) ∧
        launches.map Raw.Launch.kernel = pipelineKernels granMn arch ∧
        GpuTensor d (.cuda id ordinal stream) .bf16 (rowMajorAxes [m, n]) := by
  have hf := Refine.gemmFits_of_sizes hs
  have hm0 : 1 ≤ m := Int.natCast_pos.mp (Int.lt_of_lt_of_le (by decide) hs.sizeM.1)
  have hn0 : 1 ≤ n := Int.natCast_pos.mp (Int.lt_of_lt_of_le (by decide) hs.sizeN.1)
  have hrows' : rows = n ∨ rows = n ⌈/⌉ 128 := by
    cases arch with
    | sm90 => exact .inr hrows
    | sm100 => exact hrows
  have hcols := natCast_ceilDiv (show 0 < 128 by decide) k
  have hcols1 : ((k ⌈/⌉ 128 : Nat) : Int) ≤ i32.hi := by
    rw [hcols]
    exact hs.sizeK.2.trans (by decide)
  have hasizes := transformSizes hs ⟨hm0, hs.sizeM.2⟩ (.inl rfl)
  have has' : GpuTensor aScale (.cuda id ordinal stream) .f32 (rowMajorAxes [m ⌈/⌉ 1, k ⌈/⌉ 128]) := by
    rwa [ceilDiv_one]
  obtain ⟨aT, aLaunch, aSpec, aAxes, haPrepare, haKernel, haGpu, haLen, haSpec, haMajor⟩ :=
    prepareFp8GemmScale_succeeds hapi hrun (isScale_gemmScaleDtype arch) hasizes (.inl rfl) has'
  refine ⟨transforms_of_raw hapi hrun (isScale_gemmScaleDtype arch) hasizes (.inl rfl) has',
    (Refine.bestConfig_total arch hs).imp fun _ h => h.1, granMn_unique hn0 hn8 hrows', ?_⟩
  rintro granMn ⟨hgran, hgranRows⟩
  refine ⟨?_, ?_⟩
  · rintro rfl
    exact transforms_of_raw hapi hrun (.inr rfl) (transformSizes hs ⟨hn0, hs.sizeN.2⟩ hgran) (.inr rfl)
      (hgranRows ▸ hbs)
  · have hgranArch : granMn = 128 ∨ (arch = .sm100 ∧ granMn = 1) := by
      cases arch with
      | sm90 => exact .inl ((granMn_unique hn0 hn8 hrows').unique ⟨hgran, hgranRows⟩ ⟨.inr rfl, hrows⟩)
      | sm100 => exact hgran.symm.imp_right fun h => ⟨rfl, h⟩
    obtain ⟨bT, bLaunches, bAxes, bSpec, hbPrepare, hbKernels, hbGpu, hbLen, hbSpec, hcontract⟩ :=
      prepareBScale_succeeds hapi hrun hs hn8 hgranArch (hgranRows ▸ hbs)
    obtain ⟨d, launch, hgemm, hkernel, hd⟩ := fp8GemmNtPreparedScales_succeeds hapi hrun hs hn8 ha hb haGpu hbGpu
      haLen hbLen haSpec hbSpec fun a b d => hcontract a aSpec b d haMajor
    obtain ⟨aRaw, haRaw, haMatrix⟩ := has.matrix hcols1 .f32
    obtain ⟨info, hcurrent, harch⟩ := ensureCurrentDevice_succeeds hrun "a"
    refine ⟨d, aLaunch :: bLaunches ++ [launch], ?_, ?_, hd⟩
    · have haDims : a.dims = [m, k] := by simp [Tensor.dims, ha.axesEq, rowMajorAxes_two]
      have hbDims : b.dims = [n, k] := by simp [Tensor.dims, hb.axesEq, rowMajorAxes_two]
      unfold fp8GemmNt validateDevices
      simp only [bind_eq_ok, ensureSameDevice_eq_ok, ensureRank_eq_ok, ensureDtype_eq_ok, ofRust_eq_ok,
        throwIf_eq_ok, exists_const, not_not, haDims, hbDims, List.getD_cons_zero, List.getD_cons_succ]
      exact ⟨⟨ha.sameDevice has, ha.sameDevice hb, ha.sameDevice hbs⟩, ha.rank, has.rank, hb.rank, hbs.rank,
        ha.dtypeEq, has.dtypeEq, hb.dtypeEq, hbs.dtypeEq, trivial, _, ha.streamAndDeviceId hrun.ordinal, info, hcurrent,
        arch, harch, aRaw, haRaw _, _, ceilDiv_succeeds hf.k (by decide), (),
        requireRawScale_succeeds haMatrix hf.m hcols1 _, _, haPrepare, _, hbPrepare, _, hgemm, rfl⟩
    · rw [List.map_append, List.map_cons, haKernel, hbKernels, List.map_singleton, hkernel]
      cases arch <;> rfl

end

/-- A contiguous tensor at an address, on the first device. -/
def gpuMatrix (dtype : CandleDType) (rows cols : Nat) : Tensor where
  dtype
  axes := rowMajorAxes [rows, cols]
  startOffset := 0
  device := .cuda 7 0 0
  storage := 256

theorem gpuMatrix_gpuTensor {dtype : CandleDType} {size : Nat} (h : dtype.elementSize = some size) (rows cols : Nat) :
    GpuTensor (gpuMatrix dtype rows cols) (.cuda 7 0 0) dtype (rowMajorAxes [rows, cols]) := by
  refine ⟨rfl, rfl, rfl, show 256 ≠ 0 by decide, size, h, ?_⟩
  simp only [gpuMatrix, Nat.zero_mul, Nat.add_zero]
  decide

/-- On SM100, with one scale for each row of `b`. -/
theorem fp8GemmNt_reaches_kernel_sm100 :
    let api := Api.memoryAt 256
    let aScale := gpuMatrix .f32 1 (129 ⌈/⌉ 128)
    let bScale := gpuMatrix .f32 8 (129 ⌈/⌉ 128)
    Transforms api Refine.blackwell aScale 1 129 1 .packedUe8M0 ∧
    (∃ config, Refine.bestConfig .sm100 (1 : Nat) (8 : Nat) (129 : Nat) 148 = .ok config) ∧
    (∃! granMn : Nat, (granMn = 1 ∨ granMn = 128) ∧ 8 = 8 ⌈/⌉ granMn) ∧
    ∀ granMn : Nat, (granMn = 1 ∨ granMn = 128) ∧ 8 = 8 ⌈/⌉ granMn →
      (Arch.sm100 = .sm100 → Transforms api Refine.blackwell bScale 8 129 granMn .packedUe8M0) ∧
      ∃ d launches,
        fp8GemmNt api Refine.blackwell (gpuMatrix .f8E4M3 1 129) aScale (gpuMatrix .f8E4M3 8 129) bScale =
          .ok (d, launches) ∧
        launches.map Raw.Launch.kernel = pipelineKernels granMn .sm100 ∧
        GpuTensor d (.cuda 7 0 0) .bf16 (rowMajorAxes [1, 8]) := by
  have hcandle : (Api.memoryAt 256).Total := Api.memoryAt_total (by decide) (by decide)
  have hserves : Serves Refine.blackwell 0 .sm100 148 := ⟨⟨_, rfl, rfl, rfl⟩, by decide, rfl⟩
  have hsizes : Raw.Gemm.GemmSizes (1 : Nat) (8 : Nat) (129 : Nat) 148 :=
    ⟨by decide, by decide, by decide, by decide, by decide⟩
  have hrows : BScaleRows 8 8 .sm100 := .inl rfl
  have h := fp8GemmNt_reaches_kernel hcandle hserves hsizes rfl hrows (gpuMatrix_gpuTensor rfl 1 129)
    (gpuMatrix_gpuTensor rfl 1 (129 ⌈/⌉ 128)) (gpuMatrix_gpuTensor rfl 8 129) (gpuMatrix_gpuTensor rfl 8 (129 ⌈/⌉ 128))
  exact h

end DeepGemmRs.Candle
