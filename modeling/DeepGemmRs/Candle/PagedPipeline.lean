import DeepGemmRs.Candle.GemmPipeline
import DeepGemmRs.Candle.Paged
import DeepGemmRs.Refine.PagedLaunch

/-!
# The paged pipeline of candle tensors

A plan is made from the context lengths of one batch, and the logits are filled with it.

* `Hosts` : a runtime on the device, with the SMs that a plan was made for;
* `Passed` : a contiguous tensor, with the argument it becomes;
* `PagedShape`, `PagedInput` : the extents of a call, and tensors of these extents;
* `pagedMqaLogitsPlan_succeeds` : a plan is made, and its schedule is launched;
* `pagedMqaLogits_follows_plan` : **the plan serves every later call on the device whose pages have its `block_kv`, and no
  other**.
-/

namespace DeepGemmRs.Candle

open Checked MachineInt Rounding TensorSpec

/-! ## The device -/

/-- The runtime is on the device with this ordinal, of this family, with at least this number of SMs. -/
structure Hosts (runtime : Runtime) (ordinal : Nat) (arch : Arch) (sms : Nat) : Prop where
  device : ∃ info, runtime.currentDeviceInfo = .ok info ∧ info.device = ordinal ∧ info.major = arch.major ∧
    (sms : Int) ≤ info.numSms.val
  ordinal : (ordinal : Int) ≤ i32.hi

theorem Hosts.serves {runtime : Runtime} {ordinal : Nat} {arch : Arch} {sms : Nat}
    (h : Hosts runtime ordinal arch sms) : ∃ numSms, Serves runtime ordinal arch numSms := by
  obtain ⟨info, hinfo, hdevice, hmajor, -⟩ := h.device
  have heffective : ∃ numSms, runtime.effectiveNumSms = .ok numSms := by
    unfold Runtime.effectiveNumSms
    split
    · exact ⟨_, rfl⟩
    · rw [hinfo]
      exact ⟨_, rfl⟩
  obtain ⟨numSms, hsms⟩ := heffective
  exact ⟨numSms, ⟨info, hinfo, hdevice, hmajor⟩, h.ordinal, hsms⟩

/-! ## Contiguous tensors -/

theorem length_rowMajorAxes (ns : List Nat) : (rowMajorAxes ns).length = ns.length := by
  induction ns with
  | nil => rfl
  | cons n ns ih => rw [rowMajorAxes, List.length_cons, List.length_cons, ih]

theorem getElem?_rowMajorAxes (ns : List Nat) (i : Nat) (h : i < ns.length) :
    (rowMajorAxes ns)[i]? = some ⟨ns[i], (ns.drop (i + 1)).prod⟩ := by
  induction ns generalizing i with
  | nil => simp at h
  | cons n ns ih =>
    cases i with
    | zero => rfl
    | succ i => exact ih i (Nat.lt_of_succ_lt_succ h)

section

variable {rank : Nat} {dims : Fin rank → Nat}

theorem tailCount_ofFn (dims : Fin rank → Nat) :
    ∀ k n, n + k = rank → tailCount dims n = ((List.ofFn dims).drop n).prod := by
  intro k
  induction k with
  | zero =>
    intro n hn
    have hlen : (List.ofFn dims).length ≤ n := by rw [List.length_ofFn]; omega
    rw [show n = rank by omega, tailCount_rank, List.drop_of_length_le (by rw [List.length_ofFn]), List.prod_nil]
  | succ k ih =>
    intro n hn
    have hlt : n < (List.ofFn dims).length := by rw [List.length_ofFn]; omega
    rw [tailCount_succ dims (show n < rank by omega), ih (n + 1) (by omega), List.drop_eq_getElem_cons hlt,
      List.prod_cons, List.getElem_ofFn, Nat.mul_comm]

/-- The extents, the strides and the count of a contiguous tensor fit. -/
structure DimsFit (dims : Fin rank → Nat) : Prop where
  extents : ∀ i, (dims i : Int) ≤ i32.hi
  strides : ∀ i : Fin rank, (tailCount dims (i.val + 1) : Int) ≤ i32.hi
  count : (tailCount dims 0 : Int) ≤ i64.hi

theorem dimsFit_matrix {rows cols : Nat} (hr : (rows : Int) ≤ i32.hi) (hc : (cols : Int) ≤ i32.hi) :
    DimsFit ![rows, cols] := by
  have hcount : ((rows * cols : Nat) : Int) ≤ i64.hi := by
    rw [Int.natCast_mul]
    exact (Int.mul_le_mul hr hc (Int.natCast_nonneg _) (by decide)).trans (by decide)
  refine ⟨Fin.forall_fin_two.mpr ⟨hr, hc⟩, Fin.forall_fin_two.mpr ⟨?_, ?_⟩, ?_⟩
  · simpa [tailCount] using hc
  · simp [tailCount]
    decide
  · simpa [tailCount] using hcount

theorem tailCount_four (a b c d : Nat) : tailCount ![a, b, c, d] 0 = a * b * c * d ∧
    tailCount ![a, b, c, d] 1 = b * c * d ∧ tailCount ![a, b, c, d] 2 = c * d ∧ tailCount ![a, b, c, d] 3 = d := by
  simp [tailCount, Fin.prod_univ_four]

theorem dimsFit_four {a b c d : Nat} (ha : (a : Int) ≤ i32.hi) (hb : (b : Int) ≤ i32.hi) (hc : (c : Int) ≤ i32.hi)
    (hd : (d : Int) ≤ i32.hi) (hplane : (b * c * d : Nat) ≤ i32.hi) (hrow : (c * d : Nat) ≤ i32.hi)
    (hcount : (a * b * c * d : Nat) ≤ i64.hi) : DimsFit ![a, b, c, d] := by
  obtain ⟨h0, h1, h2, h3⟩ := tailCount_four a b c d
  refine ⟨Fin.forall_fin_succ.mpr ⟨ha, Fin.forall_fin_succ.mpr ⟨hb, Fin.forall_fin_two.mpr ⟨hc, hd⟩⟩⟩,
    Fin.forall_fin_succ.mpr ⟨?_, Fin.forall_fin_succ.mpr ⟨?_, Fin.forall_fin_two.mpr ⟨?_, ?_⟩⟩⟩, ?_⟩
  · show (tailCount ![a, b, c, d] 1 : Int) ≤ i32.hi
    rwa [h1]
  · show (tailCount ![a, b, c, d] 2 : Int) ≤ i32.hi
    rwa [h2]
  · show (tailCount ![a, b, c, d] 3 : Int) ≤ i32.hi
    rwa [h3]
  · show (tailCount ![a, b, c, d] 4 : Int) ≤ i32.hi
    rw [tailCount_rank]
    decide
  · rwa [h0]

/-- A tensor with few elements, none of its axes empty. -/
theorem dimsFit_of_count (hpos : ∀ i, 0 < dims i) (hcount : (∏ i, dims i : Nat) ≤ i32.hi) : DimsFit dims := by
  have htail : ∀ n, (tailCount dims n : Int) ≤ i32.hi := by
    intro n
    have hle : tailCount dims n ≤ tailCount dims 0 := MixedRadix.count_le_count_zero hpos n
    rw [tailCount_zero] at hle
    exact (Int.ofNat_le.mpr hle).trans hcount
  refine ⟨fun i => ?_, fun i => htail _, (htail 0).trans (by decide)⟩
  have hrest : 0 < tailCount dims (i.val + 1) := by
    unfold tailCount
    apply Finset.prod_pos
    intro j _
    split
    · exact hpos j
    · exact Nat.one_pos
  have hle : dims i ≤ tailCount dims i.val := by
    rw [tailCount_succ dims i.isLt]
    exact Nat.le_mul_of_pos_left _ hrest
  exact (Int.ofNat_le.mpr hle).trans (htail _)

theorem fitsInt_of_contiguous {arg : TensorArg rank} {d : DType} (h : Refine.Scale arg.spec d dims) (hf : DimsFit dims)
    (hdata : arg.data ≠ 0) : arg.FitsInt := by
  have hstride := h.rowMajor
  obtain ⟨hextents, hstrides, hcount⟩ := hf
  rw [← h.shape] at hextents hstrides hcount
  refine ⟨⟨hdata, hextents, ?_⟩, fun i => ?_⟩
  · rwa [TensorSpec.elementCount, ← tailCount_zero]
  · rw [hstride i]
    exact ⟨Int.natCast_nonneg _, hstrides i⟩

/-- A contiguous tensor under a name, with the argument it becomes. -/
structure Passed (t : Tensor) (gpu : Device) (dtype : CandleDType) (d : DType) (dims : Fin rank → Nat) (name : String)
    (arg : TensorArg rank) : Prop where
  onGpu : t.device = gpu
  rankEq : t.rank = rank
  dtypeEq : t.dtype = dtype
  spec : ∀ name, tensorSpec rank t d name = .ok arg.spec
  ptr : tensorPtrByDtype t dtype name = .ok arg.data
  contiguous : Refine.Scale arg.spec d dims
  fits : arg.FitsInt

variable {t : Tensor} {id ordinal : Nat} {stream : Ptr} {dtype : CandleDType}

theorem GpuTensor.passed (dims : Fin rank → Nat)
    (h : GpuTensor t (.cuda id ordinal stream) dtype (rowMajorAxes (List.ofFn dims))) (hf : DimsFit dims) (d : DType) (name : String) :
    ∃ arg, Passed t (.cuda id ordinal stream) dtype d dims name arg := by
  obtain ⟨data, hptr, hdata⟩ := h.ptr name
  have hstride : ∀ i : Fin rank, i64.Has (tailCount dims (i.val + 1)) := fun i => has_i64_of_le (hf.strides i)
  have hrank : t.rank = rank := by rw [h.rank, length_rowMajorAxes, List.length_ofFn]
  have haxis : ∀ (i : Fin rank) (hi : i.val < t.axes.length),
      t.axes[i.val] = ⟨dims i, tailCount dims (i.val + 1)⟩ := by
    intro i hi
    have hlt : i.val < (List.ofFn dims).length := by rw [List.length_ofFn]; exact i.isLt
    rw [List.getElem_eq_iff, h.axesEq, getElem?_rowMajorAxes _ _ hlt, List.getElem_ofFn]
    rw [tailCount_ofFn dims (rank - (i.val + 1)) (i.val + 1) (by omega)]
  let arg : TensorArg rank := ⟨data, ⟨d, dims, fun i => ⟨tailCount dims (i.val + 1), hstride i⟩⟩⟩
  have hcontiguous : Refine.Scale arg.spec d dims := ⟨fun i => rfl, rfl, rfl⟩
  refine ⟨arg, h.onGpu, hrank, h.dtypeEq, fun name => ?_, hptr, hcontiguous,
    fitsInt_of_contiguous hcontiguous hf hdata⟩
  refine tensorSpec_eq_ok.mpr ⟨hrank, rfl, fun i hi => ?_⟩
  rw [haxis i hi]
  exact ⟨rfl, rfl⟩

/-- A tensor that may be missing, with the argument it becomes. -/
def PassedIfAny (t : Option Tensor) (gpu : Device) (dtype : CandleDType) (d : DType) (dims : Fin rank → Nat)
    (name : String) (arg : Option (TensorArg rank)) : Prop :=
  match t, arg with
  | some t, some arg => Passed t gpu dtype d dims name arg
  | none, none => True
  | _, _ => False

theorem passedIfAny {t : Option Tensor} (dims : Fin rank → Nat)
    (h : ∀ x ∈ t, GpuTensor x (.cuda id ordinal stream) dtype (rowMajorAxes (List.ofFn dims))) (hf : DimsFit dims)
    (d : DType) (name : String) : ∃ arg, PassedIfAny t (.cuda id ordinal stream) dtype d dims name arg := by
  cases t with
  | none => exact ⟨none, trivial⟩
  | some t =>
    obtain ⟨arg, harg⟩ := (h t rfl).passed dims hf d name
    exact ⟨some arg, harg⟩

namespace PassedIfAny

variable {t : Option Tensor} {gpu : Device} {d : DType} {name : String} {arg : Option (TensorArg rank)}

theorem isSome (h : PassedIfAny t gpu dtype d dims name arg) : arg.isSome = t.isSome := by
  cases t <;> cases arg <;> first | rfl | exact h.elim

theorem of_mem (h : PassedIfAny t gpu dtype d dims name arg) :
    ∀ a ∈ arg, a.FitsInt ∧ Refine.Scale a.spec d dims := by
  rintro a rfl
  cases t with
  | none => exact h.elim
  | some t => exact ⟨Passed.fits h, Passed.contiguous h⟩

theorem sameDevice (h : PassedIfAny t (.cuda id ordinal stream) dtype d dims name arg) {reference : Tensor}
    (hr : reference.device = .cuda id ordinal stream) (name : String) :
    ensureSameDeviceIfAny reference t name = .ok () := by
  cases t with
  | none => rfl
  | some t =>
    cases arg with
    | none => exact h.elim
    | some arg =>
      refine ensureSameDevice_eq_ok.mpr ?_
      rw [hr, Passed.onGpu h]
      simp [Device.sameDevice]

/-- `q_scale` passes its checks, and becomes the argument. -/
theorem qScale {arg : Option (TensorArg rank)} (h : PassedIfAny t gpu .i32 .packedUe8M0 dims "q_scale" arg) :
    ensureQScale t rank = .ok () ∧ qScaleSpec rank t = .ok (arg.map (·.spec)) ∧
      qScaleArg t (arg.map (·.spec)) = .ok arg := by
  cases t with
  | none =>
    cases arg with
    | none => exact ⟨rfl, rfl, rfl⟩
    | some arg => exact h.elim
  | some t =>
    cases arg with
    | none => exact h.elim
    | some arg =>
      refine ⟨?_, ?_, ?_⟩
      · simp [ensureQScale, Passed.rankEq h, Passed.dtypeEq h]
      · rw [qScaleSpec, Passed.spec h, ok_bind]
        rfl
      · rw [qScaleArg, Passed.ptr h, ok_bind]
        rfl

/-- So do `indices`. -/
theorem indices {dims : Fin 1 → Nat} {arg : Option (TensorArg 1)}
    (h : PassedIfAny t gpu .i32 .i32 dims "indices" arg) :
    ensureIndices t = .ok () ∧ indicesSpec t = .ok (arg.map (·.spec)) ∧
      indicesArg t (arg.map (·.spec)) = .ok arg := by
  cases t with
  | none =>
    cases arg with
    | none => exact ⟨rfl, rfl, rfl⟩
    | some arg => exact h.elim
  | some t =>
    cases arg with
    | none => exact h.elim
    | some arg =>
      refine ⟨?_, ?_, ?_⟩
      · simp [ensureIndices, Passed.rankEq h, Passed.dtypeEq h]
      · rw [indicesSpec, Passed.spec h, ok_bind]
        rfl
      · rw [indicesArg, Passed.ptr h, ok_bind]
        rfl

end PassedIfAny

end

/-! ## Allocations -/

section

variable {api : Api} {id ordinal : Nat} {stream : Ptr} {dtype : CandleDType} {size rows cols : Nat}

theorem Api.Total.zeros_onGpu (hapi : api.Total) (rows cols : Nat) (dtype : CandleDType) (id ordinal : Nat) (stream : Ptr)
    (hsize : dtype.elementSize = some size) (hcount : 0 < rows * cols) (hbytes : i64.Has (rows * cols * 4 : Nat)) :
    ∃ t, api.zeros rows cols dtype (.cuda id ordinal stream) = .ok t ∧
      GpuTensor t (.cuda id ordinal stream) dtype [⟨rows, cols⟩, ⟨cols, 1⟩] := by
  obtain ⟨t, hzeros, hstorage, haddress⟩ := hapi.zeros rows cols dtype id ordinal stream hcount hbytes
  obtain ⟨haxes, hdtype, hdevice, hoffset⟩ := api.zeros_layout _ _ _ _ _ hzeros
  refine ⟨t, hzeros, hdevice, hdtype, haxes, hstorage, size, hsize, ?_⟩
  rw [hoffset]
  simpa using haddress

theorem Api.Total.narrow_onGpu (hapi : api.Total) {t : Tensor}
    (h : GpuTensor t (.cuda id ordinal stream) dtype [⟨rows, cols⟩, ⟨cols, 1⟩]) (len : Nat) (hlen : len ≤ cols) :
    ∃ t', api.narrow t 1 0 len = .ok t' ∧
      GpuTensor t' (.cuda id ordinal stream) dtype [⟨rows, cols⟩, ⟨len, 1⟩] := by
  obtain ⟨t', hnarrow⟩ := hapi.narrow t 1 len ⟨cols, 1⟩ (by rw [h.axesEq]; rfl) hlen
  refine ⟨t', hnarrow, ?_⟩
  rw [api.narrow_layout _ _ _ _ hnarrow]
  refine ⟨h.onGpu, h.dtypeEq, ?_, h.storage, h.address⟩
  rw [h.axesEq]
  rfl

end

/-! ## The plan -/

/-- The extents of a plan, on an architecture that supports them. -/
structure PlanSizes (batchSize nextN blockKv : Nat) (varlen : Bool) (arch : Arch) : Prop where
  posBatchSize : 0 < batchSize
  posNextN : 0 < nextN
  extents : (batchSize : Int) ≤ i32.hi ∧ (nextN : Int) ≤ i32.hi
  scheduler : Refine.SchedulerFits batchSize nextN arch
  blockKv : blockKv = 64 ∨ blockKv = 32 ∧ arch = .sm100
  varlen : varlen = true → arch = .sm100 ∧ nextN = 1

section

variable {api : Api} {runtime : Runtime} {id ordinal : Nat} {stream : Ptr} {arch : Arch}
  {numSms batchSize nextN blockKv : Nat} {contextLens : Tensor} {indices : Option Tensor}

theorem i32Vector_of_contiguous {spec : TensorSpec 1} {len : Nat} (h : Refine.Scale spec .i32 ![len]) :
    Crate.I32Vector spec len :=
  ⟨rowMajor_one.mp h.rowMajor, h.dtype, congrFun h.shape 0⟩

theorem i32Matrix_of_contiguous {spec : TensorSpec 2} {rows cols : Nat} (h : Refine.Scale spec .i32 ![rows, cols]) :
    Refine.I32Matrix spec rows cols := ⟨h.rowMajor, h.dtype, congrFun h.shape 0, congrFun h.shape 1⟩

/-- **A plan is made**: the schedule is a tensor of `num_sms + 1` pairs on the device, and its kernel is launched. -/
theorem pagedMqaLogitsPlan_succeeds (hapi : api.Total) (hhost : Hosts runtime ordinal arch numSms)
    (hsms : runtime.effectiveNumSms = .ok (numSms : Int)) (hpos : 0 < numSms ∧ (numSms : Int) < i32.hi)
    (hs : PlanSizes batchSize nextN blockKv indices.isSome arch)
    (hlens : GpuTensor contextLens (.cuda id ordinal stream) .i32 (rowMajorAxes [batchSize, nextN]))
    (hindices : ∀ t ∈ indices, GpuTensor t (.cuda id ordinal stream) .i32 (rowMajorAxes [batchSize])) :
    ∃ plan launch, pagedMqaLogitsPlan api runtime contextLens indices blockKv = .ok (plan, launch) ∧
      launch.kernel = Refine.schedulerKernel arch ∧ plan.blockKv = blockKv ∧ plan.numSms = numSms ∧
      GpuTensor plan.scheduleMeta (.cuda id ordinal stream) .i32 (rowMajorAxes [numSms + 1, 2]) := by
  obtain ⟨device, hinfo, hdevice, hmajor, hle⟩ := hhost.device
  obtain ⟨_, hserves⟩ := hhost.serves
  obtain ⟨info, hcurrent, harch⟩ := ensureCurrentDevice_succeeds hserves "context_lens"
  obtain ⟨hpos, hlt⟩ := hpos
  simp only [i32] at hlt
  have hvector : DimsFit ![batchSize] := by
    refine dimsFit_of_count (Fin.forall_fin_one.mpr hs.posBatchSize) ?_
    simpa using hs.extents.1
  obtain ⟨lens, hlensArg⟩ := GpuTensor.passed ![batchSize, nextN] hlens
    (dimsFit_matrix hs.extents.1 hs.extents.2) .i32 "context_lens"
  obtain ⟨ix, hixArg⟩ := passedIfAny ![batchSize] hindices hvector .i32 "indices"
  obtain ⟨hensure, hixSpec, hixPtr⟩ := hixArg.indices
  let spec : Crate.PagedMqaLogitsMetadataSpec := ⟨lens.spec, ix.map (·.spec), blockKv, numSms⟩
  have hlensMatrix := i32Matrix_of_contiguous hlensArg.contiguous
  have hcontract : Refine.MetadataContract spec arch := by
    refine ⟨hlensMatrix.rowMajor, hlensMatrix.dtype, hs.blockKv, hpos, ?_⟩
    intro t ht
    obtain ⟨a, ha, rfl⟩ := Option.mem_map.mp ht
    have hvarlen : indices.isSome = true := by rw [← hixArg.isSome, ha]; rfl
    obtain ⟨hsm100, hone⟩ := hs.varlen hvarlen
    refine ⟨⟨hsm100, hlensMatrix.cols.trans hone⟩, ?_⟩
    show Crate.I32Vector a.spec (lens.spec.shape 0)
    rw [hlensMatrix.rows]
    exact i32Vector_of_contiguous (hixArg.of_mem a ha).2
  have hixFits : ∀ t ∈ spec.indices, t.Fits := by
    intro t ht
    obtain ⟨a, ha, rfl⟩ := Option.mem_map.mp ht
    exact (hixArg.of_mem a ha).1.spec
  obtain ⟨layout, hlayout, hschedule, hallocation⟩ := Refine.metadataLayout_succeeds
    (show spec.contextLens.Fits from hlensArg.fits.spec) hixFits (hle.trans device.numSms.2.2) hcontract
  obtain ⟨scheduleMeta, hzeros, hmetaGpu⟩ := hapi.zeros_onGpu (numSms + 1) 2 .i32 id ordinal
    stream rfl (by omega) (has_i64.mpr ⟨by omega, by omega⟩)
  have hmetaGpu' : GpuTensor scheduleMeta (.cuda id ordinal stream) .i32 (rowMajorAxes [numSms + 1, 2]) := by
    rw [rowMajorAxes_two]
    exact hmetaGpu
  obtain ⟨schedulePtr, hschedulePtr, hschedule0⟩ := hmetaGpu'.ptr "schedule_meta"
  let params : Crate.PagedMqaLogitsMetadataLaunch := {
    contextLens := lens, indices := ix, scheduleMeta := ⟨schedulePtr, layout.logicalSpec⟩, blockKv, numSms, stream }
  have hdims : DimsFit ![numSms + 1, 2] := dimsFit_matrix (by simp only [i32]; omega) (by decide)
  have hmetaFits : params.scheduleMeta.FitsInt := fitsInt_of_contiguous
    ⟨hschedule.rowMajor, hschedule.dtype, eq_vec_two.mpr ⟨hschedule.rows, hschedule.cols⟩⟩ hdims hschedule0
  have hfits : Refine.MetadataLaunchFits params device :=
    ⟨hlensArg.fits, fun a ha => (hixArg.of_mem a ha).1, hmetaFits, hle⟩
  have hgap : ¬ Refine.MetadataGap params := by
    rintro (h | h)
    · exact hs.posBatchSize.ne' (hlensMatrix.rows.symm.trans h)
    · exact hs.posNextN.ne' (hlensMatrix.cols.symm.trans h)
  have hscheduler : Refine.SchedulerFits (params.contextLens.spec.shape 0) (params.contextLens.spec.shape 1) arch := by
    rw [show params.contextLens.spec.shape 0 = batchSize from hlensMatrix.rows,
      show params.contextLens.spec.shape 1 = nextN from hlensMatrix.cols]
    exact hs.scheduler
  obtain ⟨launch, hlaunch, hkernel⟩ := Refine.pagedMqaLogitsMetadata_launches hinfo hmajor hfits
    ⟨layout, hlayout, rfl⟩ hgap hscheduler
  refine ⟨⟨scheduleMeta, blockKv, numSms⟩, launch, ?_, hkernel, rfl, rfl, hmetaGpu'⟩
  have hspec : pagedMetadataSpec runtime contextLens indices blockKv = .ok spec := by
    simp only [pagedMetadataSpec, Crate.numSms, bind_eq_ok, ensureRank_eq_ok, ensureDtype_eq_ok, ofRust_eq_ok,
      checkNative_eq_ok, throwIf_eq_ok, exists_const]
    exact ⟨hlensArg.rankEq, hlensArg.dtypeEq, (), hensure, numSms, hsms, by omega, lens.spec, hlensArg.spec _, _, hixSpec,
      rfl⟩
  simp only [pagedMqaLogitsPlan, bind_eq_ok, ofRust_eq_ok, ofCandle_eq_ok]
  refine ⟨(), hixArg.sameDevice hlensArg.onGpu _, spec, hspec, _, hlens.streamAndDeviceId hhost.ordinal, info, hcurrent,
    arch, harch, layout, hlayout, scheduleMeta, ?_, lens.data, hlensArg.ptr, ix, hixPtr, schedulePtr, hschedulePtr, launch,
    hlaunch, rfl⟩
  rw [hallocation, hlensArg.onGpu]
  exact hzeros

end

/-! ## The logits -/

/-- The extents of a call, a row of `q` and of the cache with its number of bytes. -/
structure PagedShape where
  batchSize : Nat
  nextN : Nat
  numHeads : Nat
  rowBytes : Nat
  numKvBlocks : Nat
  blockKv : Nat
  maxBlockLen : Nat

namespace PagedShape

/-- The extents that an architecture supports, with sizes that fit. -/
structure Supported (s : PagedShape) (isFp4 varlen : Bool) (arch : Arch) : Prop where
  posBatchSize : 0 < s.batchSize
  posNextN : 0 < s.nextN
  posNumKvBlocks : 0 < s.numKvBlocks
  posMaxBlockLen : 0 < s.maxBlockLen
  numKvBlocks : (s.numKvBlocks : Int) ≤ i32.hi
  maxBlockLen : (s.maxBlockLen : Int) ≤ i32.hi
  rows : (s.batchSize * s.nextN * s.numHeads : Nat) ≤ i32.hi
  qRow : (s.nextN * s.numHeads * s.rowBytes : Nat) ≤ i32.hi
  support : Crate.ArchSupport arch isFp4 s.numHeads (if isFp4 then s.rowBytes * 2 else s.rowBytes)
  nextN : arch = .sm90 → s.nextN = 1 ∨ s.nextN = 2
  varlen : varlen = true → arch = .sm100 ∧ s.nextN = 1
  blockKv : s.blockKv = 64 ∨ s.blockKv = 32 ∧ arch = .sm100

namespace Supported

variable {s : PagedShape} {isFp4 varlen : Bool} {arch : Arch}

theorem heads (h : s.Supported isFp4 varlen arch) : 8 ≤ s.numHeads ∧ s.numHeads ≤ 64 := by
  have hheads := h.support.numHeads
  omega

theorem bytes (h : s.Supported isFp4 varlen arch) : 0 < s.rowBytes ∧ s.rowBytes ≤ 128 := by
  rcases h.support.headDim with e | e | e <;> split at e <;> omega

theorem tokens (h : s.Supported isFp4 varlen arch) : 8 * (s.batchSize * s.nextN : Nat) ≤ i32.hi := by
  refine le_trans (Int.ofNat_le.mpr ?_) h.rows
  rw [Nat.mul_comm 8]
  exact Nat.mul_le_mul_left _ h.heads.1

theorem extents (h : s.Supported isFp4 varlen arch) : (s.batchSize : Int) ≤ i32.hi ∧ (s.nextN : Int) ≤ i32.hi := by
  have htokens := h.tokens
  have hbatch : s.batchSize ≤ s.batchSize * s.nextN := Nat.le_mul_of_pos_right _ h.posNextN
  have hnext : s.nextN ≤ s.batchSize * s.nextN := Nat.le_mul_of_pos_left _ h.posBatchSize
  omega

theorem q (h : s.Supported isFp4 varlen arch) : DimsFit ![s.batchSize, s.nextN, s.numHeads, s.rowBytes] := by
  obtain ⟨-, hheads⟩ := h.heads
  obtain ⟨-, hbytes⟩ := h.bytes
  have hrows := h.rows
  simp only [i32] at hrows
  have hwidth : s.numHeads * s.rowBytes ≤ 64 * 128 := Nat.mul_le_mul hheads hbytes
  have hcount : s.batchSize * s.nextN * s.numHeads * s.rowBytes ≤ 2147483647 * 128 :=
    Nat.mul_le_mul (by omega) hbytes
  refine dimsFit_four h.extents.1 h.extents.2 ?_ ?_ h.qRow ?_ ?_
  all_goals simp only [i32, i64]; omega

theorem cache (h : s.Supported isFp4 varlen arch) : DimsFit ![s.numKvBlocks, s.blockKv, 1, s.rowBytes + 4] := by
  obtain ⟨-, hbytes⟩ := h.bytes
  have hblock : s.blockKv ≤ 64 := by
    have := h.blockKv
    omega
  have hpages := h.numKvBlocks
  simp only [i32] at hpages
  have hpage : s.blockKv * (s.rowBytes + 4) ≤ 64 * 132 := Nat.mul_le_mul hblock (by omega)
  have hcount : s.numKvBlocks * (s.blockKv * (s.rowBytes + 4)) ≤ 2147483647 * (64 * 132) :=
    Nat.mul_le_mul (by omega) hpage
  rw [← Nat.mul_assoc] at hcount
  refine dimsFit_four h.numKvBlocks ?_ (by decide) ?_ ?_ ?_ ?_
  all_goals simp only [Nat.mul_one, Nat.one_mul, i32, i64]; omega

/-- The scales of `q`, one for each head of a token. -/
theorem qScale (h : s.Supported isFp4 varlen arch) : DimsFit ![s.batchSize, s.nextN, s.numHeads] := by
  have hheads : 0 < s.numHeads := Nat.lt_of_lt_of_le (by decide) h.heads.1
  refine dimsFit_of_count ?_ ?_
  · exact Fin.forall_fin_succ.mpr ⟨h.posBatchSize, Fin.forall_fin_two.mpr ⟨h.posNextN, hheads⟩⟩
  · have hcount : ∏ i, (![s.batchSize, s.nextN, s.numHeads] : Fin 3 → Nat) i = s.batchSize * s.nextN * s.numHeads :=
      Fin.prod_univ_three _
    rw [hcount]
    exact h.rows

theorem weights (h : s.Supported isFp4 varlen arch) : DimsFit ![s.batchSize * s.nextN, s.numHeads] := by
  have htokens := h.tokens
  have hheads := h.heads.2
  simp only [i32] at htokens
  refine dimsFit_matrix ?_ ?_
  all_goals simp only [i32]; omega

end Supported

end PagedShape

/-- Contiguous tensors of these extents, on the device. -/
structure PagedInput (input : PagedTensors) (gpu : Device) (s : PagedShape) : Prop where
  q : GpuTensor input.q gpu (storageDtype input.qScale.isSome)
    (rowMajorAxes [s.batchSize, s.nextN, s.numHeads, s.rowBytes])
  qScale : ∀ t ∈ input.qScale, GpuTensor t gpu .i32 (rowMajorAxes [s.batchSize, s.nextN, s.numHeads])
  fusedKvCache : GpuTensor input.fusedKvCache gpu .u8 (rowMajorAxes [s.numKvBlocks, s.blockKv, 1, s.rowBytes + 4])
  weights : GpuTensor input.weights gpu input.weights.dtype (rowMajorAxes [s.batchSize * s.nextN, s.numHeads])
  contextLens : GpuTensor input.contextLens gpu .i32 (rowMajorAxes [s.batchSize, s.nextN])
  blockTable : GpuTensor input.blockTable gpu .i32 (rowMajorAxes [s.batchSize, s.maxBlockLen])
  indices : ∀ t ∈ input.indices, GpuTensor t gpu .i32 (rowMajorAxes [s.batchSize])

/-- A configuration that is supported, with the dtype of the weights. -/
structure PagedConfig (config : PagedMqaLogitsConfig) (weights : CandleDType) (arch : Arch) : Prop where
  cleanLogits : config.cleanLogits = false
  maxContextLen : 0 < config.maxContextLen ∧ (config.maxContextLen : Int) ≤ i32.hi - 768
  logitsDtype : config.logitsDtype = .f32 ∨ config.logitsDtype = .bf16
  weights : weights = .f32 ∨ weights = .bf16 ∧ arch = .sm100 ∧ config.logitsDtype = .bf16

/-- The arguments of a call. -/
structure PagedArguments where
  q : TensorArg 4
  qScale : Option (TensorArg 3)
  fusedKvCache : TensorArg 4
  weights : TensorArg 2
  contextLens : TensorArg 2
  blockTable : TensorArg 2
  scheduleMeta : TensorArg 2
  indices : Option (TensorArg 1)

/-- The launch with these arguments. -/
def PagedArguments.launch (args : PagedArguments) (config : PagedMqaLogitsConfig) (numSms : Nat) (stream : Ptr)
    (logits : TensorArg 2) : Crate.PagedMqaLogitsLaunch where
  q := args.q
  qScale := args.qScale
  fusedKvCache := args.fusedKvCache
  weights := args.weights
  contextLens := args.contextLens
  blockTable := args.blockTable
  scheduleMeta := args.scheduleMeta
  indices := args.indices
  logits
  maxContextLen := config.maxContextLen
  cleanLogits := config.cleanLogits
  stream
  numSms

/-- The specs of these arguments. -/
def PagedArguments.spec (args : PagedArguments) (config : PagedMqaLogitsConfig) (numSms : Nat) (logitsDtype : DType) :
    Crate.PagedMqaLogitsSpec where
  q := args.q.spec
  qScale := args.qScale.map (·.spec)
  fusedKvCache := args.fusedKvCache.spec
  weights := args.weights.spec
  contextLens := args.contextLens.spec
  blockTable := args.blockTable.spec
  scheduleMeta := args.scheduleMeta.spec
  indices := args.indices.map (·.spec)
  maxContextLen := config.maxContextLen
  cleanLogits := config.cleanLogits
  logitsDtype
  numSms

/-- Each tensor becomes its argument. -/
structure PassedInput (input : PagedTensors) (scheduleMeta : Tensor) (numSms : Nat) (gpu : Device) (s : PagedShape)
    (weightsDtype : DType) (args : PagedArguments) : Prop where
  q : Passed input.q gpu (storageDtype input.qScale.isSome) (Crate.elementDtype input.qScale.isSome)
    ![s.batchSize, s.nextN, s.numHeads, s.rowBytes] "q" args.q
  qScale : PassedIfAny input.qScale gpu .i32 .packedUe8M0 ![s.batchSize, s.nextN, s.numHeads] "q_scale" args.qScale
  fusedKvCache : Passed input.fusedKvCache gpu .u8 .u8 ![s.numKvBlocks, s.blockKv, 1, s.rowBytes + 4] "fused_kv_cache"
    args.fusedKvCache
  weights : Passed input.weights gpu input.weights.dtype weightsDtype ![s.batchSize * s.nextN, s.numHeads] "weights"
    args.weights
  contextLens : Passed input.contextLens gpu .i32 .i32 ![s.batchSize, s.nextN] "context_lens" args.contextLens
  blockTable : Passed input.blockTable gpu .i32 .i32 ![s.batchSize, s.maxBlockLen] "block_table" args.blockTable
  scheduleMeta : Passed scheduleMeta gpu .i32 .i32 ![numSms + 1, 2] "schedule_meta" args.scheduleMeta
  indices : PassedIfAny input.indices gpu .i32 .i32 ![s.batchSize] "indices" args.indices

section

variable {api : Api} {runtime : Runtime} {id ordinal : Nat} {stream : Ptr} {arch : Arch} {input : PagedTensors}
  {scheduleMeta : Tensor} {numSms : Nat} {s : PagedShape} {config : PagedMqaLogitsConfig}

theorem passedInput (h : PagedInput input (.cuda id ordinal stream) s)
    (hs : s.Supported input.qScale.isSome input.indices.isSome arch)
    (hmeta : GpuTensor scheduleMeta (.cuda id ordinal stream) .i32 (rowMajorAxes [numSms + 1, 2]))
    (hsms : (numSms : Int) < i32.hi) (weightsDtype : DType) :
    ∃ args, PassedInput input scheduleMeta numSms (.cuda id ordinal stream) s weightsDtype args := by
  have hvector : DimsFit ![s.batchSize] := by
    refine dimsFit_of_count (Fin.forall_fin_one.mpr hs.posBatchSize) ?_
    simpa using hs.extents.1
  obtain ⟨q, hq⟩ := GpuTensor.passed ![s.batchSize, s.nextN, s.numHeads, s.rowBytes] h.q hs.q
    (Crate.elementDtype input.qScale.isSome) "q"
  obtain ⟨qScale, hqScale⟩ := passedIfAny ![s.batchSize, s.nextN, s.numHeads] h.qScale hs.qScale .packedUe8M0
    "q_scale"
  obtain ⟨cache, hcache⟩ := GpuTensor.passed ![s.numKvBlocks, s.blockKv, 1, s.rowBytes + 4] h.fusedKvCache
    hs.cache .u8 "fused_kv_cache"
  obtain ⟨weights, hweights⟩ := GpuTensor.passed ![s.batchSize * s.nextN, s.numHeads] h.weights hs.weights
    weightsDtype "weights"
  obtain ⟨lens, hlens⟩ := GpuTensor.passed ![s.batchSize, s.nextN] h.contextLens
    (dimsFit_matrix hs.extents.1 hs.extents.2) .i32 "context_lens"
  obtain ⟨table, htable⟩ := GpuTensor.passed ![s.batchSize, s.maxBlockLen] h.blockTable
    (dimsFit_matrix hs.extents.1 hs.maxBlockLen) .i32 "block_table"
  obtain ⟨schedule, hschedule⟩ := GpuTensor.passed ![numSms + 1, 2] hmeta
    (dimsFit_matrix (by simp only [i32] at hsms ⊢; omega) (by decide)) .i32 "schedule_meta"
  obtain ⟨ix, hix⟩ := passedIfAny ![s.batchSize] h.indices hvector .i32 "indices"
  exact ⟨⟨q, qScale, cache, weights, lens, table, schedule, ix⟩, hq, hqScale, hcache, hweights, hlens, htable, hschedule,
    hix⟩

/-- A contiguous cache is a fused one. -/
theorem fusedCache_of_contiguous {cache : TensorSpec 4} {pages blockKv bytes : Nat}
    (h : Refine.Scale cache .u8 ![pages, blockKv, 1, bytes + 4]) : Refine.FusedCache cache bytes := by
  obtain ⟨-, h1, h2, h3⟩ := tailCount_four pages blockKv 1 (bytes + 4)
  have hstride := h.rowMajor
  unfold RowMajor at hstride
  rw [h.shape] at hstride
  have hs0 : (cache.strides 0).val = tailCount ![pages, blockKv, 1, bytes + 4] 1 := hstride 0
  have hs1 : (cache.strides 1).val = tailCount ![pages, blockKv, 1, bytes + 4] 2 := hstride 1
  have hs2 : (cache.strides 2).val = tailCount ![pages, blockKv, 1, bytes + 4] 3 := hstride 2
  have hs3 : (cache.strides 3).val = tailCount ![pages, blockKv, 1, bytes + 4] 4 := hstride 3
  rw [h1, Nat.mul_one] at hs0
  rw [h2, Nat.one_mul] at hs1
  rw [h3] at hs2
  rw [tailCount_rank] at hs3
  have hblock : cache.shape 1 = blockKv := congrFun h.shape 1
  exact ⟨h.dtype, congrFun h.shape 2, congrFun h.shape 3, by rw [hblock]; exact hs0, ⟨hs1, hs2⟩, hs3⟩

theorem PassedInput.contract {args : PagedArguments} {weightsDtype logitsDtype : DType} {gpu : Device}
    (h : PassedInput input scheduleMeta numSms gpu s weightsDtype args)
    (hs : s.Supported input.qScale.isSome input.indices.isSome arch) (hpos : 0 < numSms)
    (hclean : config.cleanLogits = false) (hlen : 0 < config.maxContextLen)
    (hlogits : logitsDtype = .f32 ∨ logitsDtype = .bf16) (hweights : Crate.WeightsDtype weightsDtype arch logitsDtype) :
    Refine.PagedContract (args.spec config numSms logitsDtype) arch := by
  have hsome : (args.qScale.map (·.spec)).isSome = input.qScale.isSome := by rw [Option.isSome_map, h.qScale.isSome]
  have hq : ∀ i, args.q.spec.shape i = ![s.batchSize, s.nextN, s.numHeads, s.rowBytes] i := congrFun h.q.contiguous.shape
  have hcache := h.fusedKvCache.contiguous
  have hblock : args.fusedKvCache.spec.shape 1 = s.blockKv := congrFun hcache.shape 1
  have hbt := h.blockTable.contiguous
  have hw := h.weights.contiguous
  constructor
  case logitsDtype => exact hlogits
  case maxContextLen => exact hlen
  case numSms => exact hpos
  case cleanLogits => exact hclean
  case q => exact h.q.contiguous.rowMajor
  case qCounts =>
    intro n hn
    show (tailCount args.q.spec.shape n : Int) ≤ i64.hi
    rw [h.q.contiguous.shape]
    cases n with
    | zero => exact hs.q.count
    | succ n => exact (hs.q.strides ⟨n, by omega⟩).trans (by decide)
  case qDtype =>
    show args.q.spec.dtype = Crate.elementDtype (args.qScale.map (·.spec)).isSome
    rw [hsome]
    exact h.q.contiguous.dtype
  case qScale =>
    intro t ht
    obtain ⟨a, ha, rfl⟩ := Option.mem_map.mp ht
    show Refine.Scale a.spec .packedUe8M0 ![args.q.spec.shape 0, args.q.spec.shape 1, args.q.spec.shape 2]
    rw [hq 0, hq 1, hq 2]
    exact (h.qScale.of_mem a ha).2
  case fusedKvCache =>
    show Refine.FusedCache args.fusedKvCache.spec (args.q.spec.shape 3)
    rw [hq 3]
    exact fusedCache_of_contiguous hcache
  case weights =>
    show args.weights.spec.shape 0 = args.q.spec.shape 0 * args.q.spec.shape 1 ∧
      args.weights.spec.shape 1 = args.q.spec.shape 2 ∧ (args.weights.spec.strides 1).val = 1
    rw [hq 0, hq 1, hq 2]
    exact ⟨congrFun hw.shape 0, congrFun hw.shape 1, (rowMajor_two.mp hw.rowMajor).2⟩
  case weightsDtype =>
    show Crate.WeightsDtype args.weights.spec.dtype arch logitsDtype
    rw [hw.dtype]
    exact hweights
  case contextLens =>
    show Refine.I32Matrix args.contextLens.spec (args.q.spec.shape 0) (args.q.spec.shape 1)
    rw [hq 0, hq 1]
    exact i32Matrix_of_contiguous h.contextLens.contiguous
  case blockTable =>
    show args.blockTable.spec.shape 0 = args.q.spec.shape 0 ∧ (args.blockTable.spec.strides 1).val = 1
    rw [hq 0]
    exact ⟨congrFun hbt.shape 0, (rowMajor_two.mp hbt.rowMajor).2⟩
  case blockTableDtype => exact hbt.dtype
  case scheduleMeta => exact i32Matrix_of_contiguous h.scheduleMeta.contiguous
  case indices =>
    intro t ht
    obtain ⟨a, ha, rfl⟩ := Option.mem_map.mp ht
    have hvarlen : input.indices.isSome = true := by rw [← h.indices.isSome, ha]; rfl
    show (arch = .sm100 ∧ args.q.spec.shape 1 = 1) ∧ Crate.I32Vector a.spec (args.q.spec.shape 0)
    rw [hq 0, hq 1]
    exact ⟨hs.varlen hvarlen, i32Vector_of_contiguous (h.indices.of_mem a ha).2⟩
  case blockKv =>
    show args.fusedKvCache.spec.shape 1 = 64 ∨ args.fusedKvCache.spec.shape 1 = 32 ∧ arch = .sm100
    rw [hblock]
    exact hs.blockKv
  case support =>
    show Crate.ArchSupport arch (args.qScale.map (·.spec)).isSome (args.q.spec.shape 2)
      (if (args.qScale.map (·.spec)).isSome then args.q.spec.shape 3 * 2 else args.q.spec.shape 3)
    rw [hsome, hq 2, hq 3]
    exact hs.support
  case nextN =>
    show arch = .sm90 → args.q.spec.shape 1 = 1 ∨ args.q.spec.shape 1 = 2
    rw [hq 1]
    exact hs.nextN

/-- The arguments and the view of the logits fit, on a device with the SMs of the plan. -/
theorem PassedInput.launchFits {args : PagedArguments} {weightsDtype : DType} {gpu : Device} {device : DeviceInfo}
    (h : PassedInput input scheduleMeta numSms gpu s weightsDtype args) (hsms : (numSms : Int) ≤ device.numSms.val)
    (hlen : (config.maxContextLen : Int) ≤ i32.hi) {logits : TensorArg 2} (hlogits : logits.FitsInt) :
    Refine.PagedLaunchFits (args.launch config numSms stream logits) device where
  q := h.q.fits
  qScale a ha := (h.qScale.of_mem a ha).1
  fusedKvCache := h.fusedKvCache.fits
  weights := h.weights.fits
  contextLens := h.contextLens.fits
  blockTable := h.blockTable.fits
  scheduleMeta := h.scheduleMeta.fits
  indices a ha := (h.indices.of_mem a ha).1
  logits := hlogits
  maxContextLen := hlen
  numSms := hsms

theorem PassedInput.not_gap {args : PagedArguments} {weightsDtype : DType} {gpu : Device} {isFp4 varlen : Bool}
    (h : PassedInput input scheduleMeta numSms gpu s weightsDtype args) (hs : s.Supported isFp4 varlen arch)
    {logits : TensorArg 2} : ¬ Refine.PagedGap (args.launch config numSms stream logits) := by
  have hw := h.weights.contiguous
  rintro (hpages | hblocks | ⟨-, hrow⟩)
  · exact hs.posNumKvBlocks.ne' ((congrFun h.fusedKvCache.contiguous.shape 0).symm.trans hpages)
  · exact hs.posMaxBlockLen.ne' ((congrFun h.blockTable.contiguous.shape 1).symm.trans hblocks)
  · apply hrow
    show (args.weights.spec.strides 0).val = args.q.spec.shape 2
    rw [(rowMajor_two.mp hw.rowMajor).1, congrFun hw.shape 1, congrFun h.q.contiguous.shape 2]
    rfl

theorem PassedInput.specFits {args : PagedArguments} {weightsDtype logitsDtype : DType} {gpu : Device}
    (h : PassedInput input scheduleMeta numSms gpu s weightsDtype args) (hsms : (numSms : Int) ≤ i32.hi)
    (hlen : (config.maxContextLen : Int) ≤ i32.hi) : Refine.PagedSpecFits (args.spec config numSms logitsDtype) where
  q := h.q.fits.spec
  qScale t ht := by
    obtain ⟨a, ha, rfl⟩ := Option.mem_map.mp ht
    exact (h.qScale.of_mem a ha).1.spec
  fusedKvCache := h.fusedKvCache.fits.spec
  contextLens := h.contextLens.fits.spec
  scheduleMeta := h.scheduleMeta.fits.spec
  indices t ht := by
    obtain ⟨a, ha, rfl⟩ := Option.mem_map.mp ht
    exact (h.indices.of_mem a ha).1.spec
  maxContextLen := hlen
  numSms := hsms

theorem logitsDtype_eq_ok {dtype : CandleDType} (h : dtype = .f32 ∨ dtype = .bf16) :
    ∃ d size, candleToLogitsDtype dtype = .ok d ∧ (d = .f32 ∨ d = .bf16) ∧ (d = .bf16 ↔ dtype = .bf16) ∧
      dtype.elementSize = some size := by
  rcases h with rfl | rfl
  · exact ⟨.f32, 4, rfl, .inl rfl, by simp, rfl⟩
  · exact ⟨.bf16, 2, rfl, .inr rfl, by simp, rfl⟩

theorem weightsDtype_eq_ok {weights logits : CandleDType} {d : DType} (hd : d = .bf16 ↔ logits = .bf16)
    (h : weights = .f32 ∨ weights = .bf16 ∧ arch = .sm100 ∧ logits = .bf16) :
    ∃ wd, candleToDeepgemmDtype weights "weights" = .ok wd ∧ Crate.WeightsDtype wd arch d := by
  rcases h with rfl | ⟨rfl, harch, hlogits⟩
  · exact ⟨.f32, rfl, .inl rfl⟩
  · exact ⟨.bf16, rfl, .inr ⟨rfl, harch, hd.mpr hlogits⟩⟩

/-- The checks of the call pass, with the specs of the arguments. -/
theorem pagedMqaLogitsSpec_succeeds {args : PagedArguments} {weightsDtype logitsDtype : DType} {gpu : Device}
    (h : PassedInput input scheduleMeta numSms gpu s weightsDtype args)
    (hw : candleToDeepgemmDtype input.weights.dtype "weights" = .ok weightsDtype)
    (hl : candleToLogitsDtype config.logitsDtype = .ok logitsDtype) :
    pagedMqaLogitsSpec input scheduleMeta config numSms = .ok (args.spec config numSms logitsDtype) := by
  obtain ⟨hqScale, hqScaleSpec, -⟩ := h.qScale.qScale
  obtain ⟨hindices, hindicesSpec, -⟩ := h.indices.indices
  simp only [pagedMqaLogitsSpec, bind_eq_ok, ensureRank_eq_ok, ensureDtype_eq_ok, exists_const]
  exact ⟨h.q.rankEq, h.fusedKvCache.rankEq, h.weights.rankEq, h.contextLens.rankEq, h.blockTable.rankEq,
    h.scheduleMeta.rankEq, h.q.dtypeEq, (), hqScale, h.fusedKvCache.dtypeEq, h.contextLens.dtypeEq, h.blockTable.dtypeEq,
    h.scheduleMeta.dtypeEq, (), hindices, _, h.q.spec _, _, hqScaleSpec, _, h.fusedKvCache.spec _, _, hw, _,
    h.weights.spec _, _, h.contextLens.spec _, _, h.blockTable.spec _, _, h.scheduleMeta.spec _, _, hindicesSpec, _, hl,
    rfl⟩

theorem Passed.ensureSameDevice {rank : Nat} {t : Tensor} {dtype : CandleDType} {d : DType} {dims : Fin rank → Nat}
    {name : String} {arg : TensorArg rank} {reference : Tensor}
    (h : Passed t (.cuda id ordinal stream) dtype d dims name arg) (hr : reference.device = .cuda id ordinal stream) :
    reference.device.sameDevice t.device := by
  rw [hr, h.onGpu]
  simp [Device.sameDevice]

theorem validatePagedDevices_succeeds {args : PagedArguments} {weightsDtype : DType}
    (h : PassedInput input scheduleMeta numSms (.cuda id ordinal stream) s weightsDtype args) :
    validatePagedDevices input scheduleMeta = .ok () := by
  have hq := h.q.onGpu
  simp only [validatePagedDevices, bind_eq_ok, ensureSameDevice_eq_ok, exists_const]
  exact ⟨h.fusedKvCache.ensureSameDevice hq, h.weights.ensureSameDevice hq, h.contextLens.ensureSameDevice hq,
    h.blockTable.ensureSameDevice hq, h.scheduleMeta.ensureSameDevice hq, (), h.qScale.sameDevice hq _,
    h.indices.sameDevice hq _⟩

theorem checkPlan_eq_ok {plan : PagedMqaLogitsPlan} {gpu : Device} (h : PagedInput input gpu s) {u : Unit} :
    checkPlan input plan = .ok u ↔ s.blockKv = plan.blockKv := by
  have hdim : input.fusedKvCache.dims[1]? = some s.blockKv := by
    rw [Tensor.dims, h.fusedKvCache.axesEq]
    rfl
  rw [checkPlan, hdim, throwIf_eq_ok, not_not]
  exact eq_comm

/-- The logits of a call and their launch: a block for each part of the schedule, and a row for each token, of the
asked length in whole splits of 256 positions. -/
structure Follows (gpu : Device) (arch : Arch) (numSms : Nat) (s : PagedShape) (config : PagedMqaLogitsConfig)
    (logits : Tensor) (launch : Raw.Launch) : Prop where
  kernel : launch.kernel = Refine.pagedKernel arch
  grid : launch.config.gridDimX = numSms
  view : ∃ rowStride, config.maxContextLen ≤ rowStride ∧ 256 ∣ rowStride ∧
    GpuTensor logits gpu config.logitsDtype [⟨s.batchSize * s.nextN, rowStride⟩, ⟨config.maxContextLen, 1⟩]

/-- The logits of a call with a plan of the same `block_kv`. -/
theorem fp8Fp4PagedMqaLogits_succeeds (hapi : api.Total) {plan : PagedMqaLogitsPlan}
    (hhost : Hosts runtime ordinal arch plan.numSms) (hpos : 0 < plan.numSms ∧ (plan.numSms : Int) < i32.hi)
    (hs : s.Supported input.qScale.isSome input.indices.isSome arch) (hblock : s.blockKv = plan.blockKv)
    (hin : PagedInput input (.cuda id ordinal stream) s)
    (hmeta : GpuTensor plan.scheduleMeta (.cuda id ordinal stream) .i32 (rowMajorAxes [plan.numSms + 1, 2]))
    (hconfig : PagedConfig config input.weights.dtype arch) :
    ∃ logits launch, fp8Fp4PagedMqaLogits api runtime input plan config = .ok (logits, launch) ∧
      Follows (.cuda id ordinal stream) arch plan.numSms s config logits launch := by
  obtain ⟨device, hinfo, hdevice, hmajor, hle⟩ := hhost.device
  obtain ⟨_, hserves⟩ := hhost.serves
  obtain ⟨info, hcurrent, harch⟩ := ensureCurrentDevice_succeeds hserves "q"
  obtain ⟨logitsDtype, size, hld, hlogits, hbf16, hsize⟩ := logitsDtype_eq_ok hconfig.logitsDtype
  obtain ⟨weightsDtype, hwd, hweights⟩ := weightsDtype_eq_ok hbf16 hconfig.weights
  obtain ⟨args, hargs⟩ := passedInput hin hs hmeta hpos.2 weightsDtype
  obtain ⟨hlen0, hlen⟩ := hconfig.maxContextLen
  have hlenInt : (config.maxContextLen : Int) ≤ i32.hi := hlen.trans (by decide)
  have hcontract := hargs.contract hs hpos.1 hconfig.cleanLogits hlen0 hlogits hweights
  have hspecFits : Refine.PagedSpecFits (args.spec config plan.numSms logitsDtype) := hargs.specFits hpos.2.le hlenInt
  have hb : (args.spec config plan.numSms logitsDtype).q.shape 0 = s.batchSize := congrFun hargs.q.contiguous.shape 0
  have hn : (args.spec config plan.numSms logitsDtype).q.shape 1 = s.nextN := congrFun hargs.q.contiguous.shape 1
  have hh : args.q.spec.shape 2 = s.numHeads := congrFun hargs.q.contiguous.shape 2
  have htokens := hs.tokens
  have hrows : (s.batchSize * s.nextN : Nat) ≤ i32.hi := by omega
  obtain ⟨layout, hlayout, hview⟩ := Refine.pagedLayout_succeeds hspecFits (hb ▸ hs.posBatchSize) (hn ▸ hs.posNextN)
    (by rw [hb, hn]; exact hrows) hcontract
  obtain ⟨hstride0, hstride1⟩ := Refine.pagedStride_bounds (Refine.isLogits_toSys hlogits) config.maxContextLen
  have hallocRows : layout.allocationShape 0 = s.batchSize * s.nextN := hview.allocationRows.trans (by rw [hb, hn])
  have hallocCols : (layout.allocationShape 1 : Int) = CApi.pagedStride config.maxContextLen logitsDtype.toSys :=
    hview.allocationCols
  have hrowStride : (layout.strides 0).val = CApi.pagedStride config.maxContextLen logitsDtype.toSys := hview.rowStride
  have hlogical : layout.logicalShape = ![s.batchSize * s.nextN, config.maxContextLen] :=
    hview.logicalShape.trans (by rw [hb, hn]; rfl)
  simp only [i32] at htokens hlen hlenInt
  have hbytes : layout.allocationShape 0 * layout.allocationShape 1 ≤ 268435455 * 2147483647 :=
    Nat.mul_le_mul (by omega) (by omega)
  have hposRows : 0 < s.batchSize * s.nextN := Nat.mul_pos hs.posBatchSize hs.posNextN
  obtain ⟨allocation, hzeros, halloc⟩ := hapi.zeros_onGpu (layout.allocationShape 0)
    (layout.allocationShape 1) _ id ordinal stream hsize (Nat.mul_pos (by omega) (by omega))
    (has_i64.mpr ⟨by omega, by omega⟩)
  obtain ⟨logits, hnarrow, hgpu⟩ := hapi.narrow_onGpu halloc config.maxContextLen (by omega)
  obtain ⟨data, hdata, hdata0⟩ := hgpu.ptr "logits"
  have hlogitsFits : (⟨data, layout.logicalSpec⟩ : TensorArg 2).FitsInt := by
    have hshape : layout.logicalSpec.shape = ![s.batchSize * s.nextN, config.maxContextLen] := hlogical
    obtain ⟨hextents, -, hcount⟩ := dimsFit_matrix hrows
      (show (config.maxContextLen : Int) ≤ i32.hi by simp only [i32]; omega)
    have hstrides : ∀ i, 0 ≤ (layout.strides i).val ∧ (layout.strides i).val ≤ i32.hi := by
      refine Fin.forall_fin_two.mpr ⟨?_, ?_⟩
      · rw [hrowStride]
        exact ⟨by omega, by simp only [i32]; omega⟩
      · rw [hview.colStride]
        decide
    refine ⟨⟨hdata0, ?_, ?_⟩, hstrides⟩
    · rw [hshape]
      exact hextents
    · rw [TensorSpec.elementCount, ← tailCount_zero, hshape]
      exact hcount
  have hspec : (args.launch config plan.numSms stream ⟨data, layout.logicalSpec⟩).spec =
      args.spec config plan.numSms logitsDtype := by
    unfold Crate.PagedMqaLogitsLaunch.spec PagedArguments.spec
    rw [show (args.launch config plan.numSms stream ⟨data, layout.logicalSpec⟩).logits.spec.dtype = logitsDtype from
      hview.dtype]
    rfl
  have houter : (args.q.spec.shape 0 * args.q.spec.shape 1 * args.q.spec.shape 2 : Nat) ≤ i32.hi := by
    rw [show args.q.spec.shape 0 = s.batchSize from hb, show args.q.spec.shape 1 = s.nextN from hn, hh]
    exact hs.rows
  obtain ⟨launch, hlaunch, hkernel, hgrid⟩ := Refine.fp8Fp4PagedMqaLogits_launches hinfo hmajor
    (hargs.launchFits hle (by simp only [i32]; omega) hlogitsFits) ⟨layout, hspec ▸ hlayout, rfl⟩ (hargs.not_gap hs) houter
  have hpages : (256 : Int) ∣ layout.allocationShape 1 := by
    rw [hallocCols]
    exact (CApi.dvd_rowAlignment (Refine.isLogits_toSys hlogits)).trans (dvd_alignUp _ _)
  refine ⟨logits, launch, ?_, hkernel, hgrid, layout.allocationShape 1, by omega, Int.natCast_dvd_natCast.mp hpages,
    hallocRows ▸ hgpu⟩
  obtain ⟨-, -, hqScalePtr⟩ := hargs.qScale.qScale
  obtain ⟨-, -, hindicesPtr⟩ := hargs.indices.indices
  have hup : pagedMqaLogitsLaunch api runtime input plan config =
      .ok (logits, layout, args.launch config plan.numSms stream ⟨data, layout.logicalSpec⟩) := by
    simp only [pagedMqaLogitsLaunch, bind_eq_ok, ofRust_eq_ok, ofCandle_eq_ok]
    refine ⟨(), validatePagedDevices_succeeds hargs, (), (checkPlan_eq_ok hin).mpr hblock, _,
      pagedMqaLogitsSpec_succeeds hargs hwd hld, _, hin.q.streamAndDeviceId hhost.ordinal, info, hcurrent, arch, harch,
      layout, hlayout, allocation, ?_, logits, ?_, _, hargs.q.ptr, _, hqScalePtr, _, hargs.fusedKvCache.ptr, _,
      hargs.weights.ptr, _, hargs.contextLens.ptr, _, hargs.blockTable.ptr, _, hargs.scheduleMeta.ptr, _, hindicesPtr,
      data, hdata, rfl⟩
    · rw [hin.q.onGpu]
      exact hzeros
    · rw [hlogical]
      exact hnarrow
  simp only [fp8Fp4PagedMqaLogits, hup, ok_bind, bind_eq_ok, ofRust_eq_ok]
  exact ⟨launch, hlaunch, rfl⟩

theorem blockKv_of_pagedMqaLogits {plan : PagedMqaLogitsPlan} {gpu : Device} {result : Tensor × Raw.Launch}
    (hin : PagedInput input gpu s) (h : fp8Fp4PagedMqaLogits api runtime input plan config = .ok result) :
    s.blockKv = plan.blockKv := by
  simp only [fp8Fp4PagedMqaLogits, pagedMqaLogitsLaunch, bind_eq_ok] at h
  obtain ⟨_, ⟨_, -, _, hcheck, -⟩, -⟩ := h
  exact (checkPlan_eq_ok hin).mp hcheck

end

/-- **A plan is made and serves every later call on the device whose pages have its `block_kv`, and no other**: whatever
the batch of the call, and whatever the runtime is set to by then. -/
theorem pagedMqaLogits_follows_plan {api : Api} {runtime : Runtime} {id ordinal : Nat} {stream : Ptr} {arch : Arch}
    {numSms batchSize nextN blockKv : Nat} {contextLens : Tensor} {indices : Option Tensor} (hapi : api.Total)
    (hhost : Hosts runtime ordinal arch numSms) (hsms : runtime.effectiveNumSms = .ok (numSms : Int))
    (hpos : 0 < numSms ∧ (numSms : Int) < i32.hi) (hs : PlanSizes batchSize nextN blockKv indices.isSome arch)
    (hlens : GpuTensor contextLens (.cuda id ordinal stream) .i32 (rowMajorAxes [batchSize, nextN]))
    (hindices : ∀ t ∈ indices, GpuTensor t (.cuda id ordinal stream) .i32 (rowMajorAxes [batchSize])) :
    ∃ plan launch, pagedMqaLogitsPlan api runtime contextLens indices blockKv = .ok (plan, launch) ∧
      launch.kernel = Refine.schedulerKernel arch ∧
      ∀ later input s config, Hosts later ordinal arch numSms →
        s.Supported input.qScale.isSome input.indices.isSome arch → PagedInput input (.cuda id ordinal stream) s →
        PagedConfig config input.weights.dtype arch →
        ((∃ result, fp8Fp4PagedMqaLogits api later input plan config = .ok result) ↔ s.blockKv = blockKv) ∧
        ∀ logits launch, fp8Fp4PagedMqaLogits api later input plan config = .ok (logits, launch) →
          Follows (.cuda id ordinal stream) arch numSms s config logits launch := by
  obtain ⟨plan, launch, hplan, hkernel, rfl, rfl, hmeta⟩ :=
    pagedMqaLogitsPlan_succeeds hapi hhost hsms hpos hs hlens hindices
  refine ⟨plan, launch, hplan, hkernel, ?_⟩
  intro later input s config hlater hsupported hin hconfig
  have hserved : s.blockKv = plan.blockKv → ∃ logits launch,
      fp8Fp4PagedMqaLogits api later input plan config = .ok (logits, launch) ∧
      Follows (.cuda id ordinal stream) arch plan.numSms s config logits launch := fun hblock =>
    fp8Fp4PagedMqaLogits_succeeds hapi hlater hpos hsupported hblock hin hmeta hconfig
  refine ⟨⟨fun ⟨result, h⟩ => blockKv_of_pagedMqaLogits hin h, fun hblock => ?_⟩, ?_⟩
  · obtain ⟨logits, launch, h, -⟩ := hserved hblock
    exact ⟨_, h⟩
  · intro logits launch h
    obtain ⟨logits', launch', h', hfollows⟩ := hserved (blockKv_of_pagedMqaLogits hin h)
    cases h.symm.trans h'
    exact hfollows

/-! ## A plan for two sequences, used for one -/

theorem onDevice_gpuTensor {dtype : CandleDType} {size : Nat} (h : dtype.elementSize = some size) (dims : List Nat) :
    GpuTensor (onDevice dims dtype) (.cuda 0 0 0) dtype (rowMajorAxes dims) := by
  refine ⟨rfl, rfl, rfl, show 4096 ≠ 0 by decide, size, h, ?_⟩
  simp only [onDevice, Nat.zero_mul, Nat.add_zero]
  decide

/-- One token of 32 heads over one page. -/
def onePageTensors : PagedTensors where
  q := onDevice [1, 1, 32, 32] .f8E4M3
  qScale := none
  fusedKvCache := onDevice [1, 64, 1, 36] .u8
  weights := onDevice [1, 32] .f32
  contextLens := onDevice [1, 1] .i32
  blockTable := onDevice [1, 1] .i32
  indices := none

theorem onePage_follows_plan :
    ∃ plan launch, pagedMqaLogitsPlan (.memoryAt 8192) hopper (onDevice [2, 1] .i32) none 64 = .ok (plan, launch) ∧
      launch.kernel = "sm90_paged_mqa_logits_metadata" ∧
      ∃ logits launch, fp8Fp4PagedMqaLogits (.memoryAt 8192) { hopper with numSmsOverride := 7, pdlEnabled := true }
        onePageTensors plan (.new 300) = .ok (logits, launch) ∧ launch.config.gridDimX = 132 := by
  have hcandle : (Api.memoryAt 8192).Total := Api.memoryAt_total (by decide) (by decide)
  have hhost : ∀ override pdl, Hosts ⟨.ok h100, override, pdl⟩ 0 .sm90 132 := fun override pdl =>
    ⟨⟨h100, rfl, rfl, rfl, le_rfl⟩, by decide⟩
  have hscheduler : Refine.SchedulerFits 2 1 .sm90 := show 4 * alignUp ((2 : Nat) : Int) 32 ≤ i32.hi by decide
  have hsizes : PlanSizes 2 1 64 false .sm90 := ⟨by decide, by decide, by decide, hscheduler, .inl rfl, nofun⟩
  have hindices : ∀ t ∈ (none : Option Tensor), GpuTensor t (.cuda 0 0 0) .i32 (rowMajorAxes [2]) := nofun
  obtain ⟨plan, launch, hplan, hkernel, hserves⟩ := pagedMqaLogits_follows_plan hcandle (hhost 0 false) rfl
    ⟨by decide, by decide⟩ hsizes (onDevice_gpuTensor rfl [2, 1]) hindices
  let s : PagedShape := ⟨1, 1, 32, 32, 1, 64, 1⟩
  have hsupported : s.Supported false false .sm90 := by
    refine ⟨?_, ?_, ?_, ?_, ?_, ?_, ?_, ?_, ⟨rfl, .inl rfl, .inl rfl⟩, fun _ => .inl rfl, nofun, .inl rfl⟩
    all_goals decide
  have hin : PagedInput onePageTensors (.cuda 0 0 0) s := by
    constructor
    case qScale => exact nofun
    case indices => exact nofun
    all_goals exact onDevice_gpuTensor rfl _
  have hconfig : PagedConfig (.new 300) .f32 .sm90 := ⟨rfl, ⟨by decide, by decide⟩, .inl rfl, .inl rfl⟩
  obtain ⟨hiff, hfollows⟩ := hserves ⟨.ok h100, 7, true⟩ onePageTensors s (.new 300) (hhost 7 true) hsupported hin hconfig
  obtain ⟨⟨logits, launch'⟩, h⟩ := hiff.mpr rfl
  exact ⟨plan, launch, hplan, hkernel, logits, launch', h, (hfollows logits launch' h).grid⟩

end DeepGemmRs.Candle
