import DeepGemmRs.Candle.Mqa
import DeepGemmRs.Candle.PagedPipeline
import DeepGemmRs.Refine.MqaLaunch

/-!
# The MQA pipeline of candle tensors

From contiguous tensors to the kernels that fill their logits.

* `MqaShape`, `MqaInput` : the extents of a call, and tensors of these extents;
* `MqaArguments`, `PassedMqa` : the arguments that the tensors become;
* `Scores` : the logits of a call and the kernels that fill them;
* `fp8Fp4MqaLogits_scores` : a call in range is served;
* `fp8Fp4MqaLogits_succeeds_iff` : **no other call is, and each is served with its kernels**.
-/

namespace DeepGemmRs.Candle

open Checked MachineInt Rounding TensorSpec

/-! ## The extents -/

/-- The extents of a call, a row of `q` and of `kv` with its number of bytes. -/
structure MqaShape where
  seqLen : Nat
  numHeads : Nat
  rowBytes : Nat
  seqLenKv : Nat

theorem tailCount_three (a b c : Nat) : tailCount ![a, b, c] 0 = a * b * c ∧ tailCount ![a, b, c] 1 = b * c ∧
    tailCount ![a, b, c] 2 = c := by
  simp [tailCount, Fin.prod_univ_three]

theorem dimsFit_three {a b c : Nat} (ha : (a : Int) ≤ i32.hi) (hb : (b : Int) ≤ i32.hi) (hc : (c : Int) ≤ i32.hi)
    (hrow : (b * c : Nat) ≤ i32.hi) (hcount : (a * b * c : Nat) ≤ i64.hi) : DimsFit ![a, b, c] := by
  obtain ⟨h0, h1, h2⟩ := tailCount_three a b c
  refine ⟨Fin.forall_fin_succ.mpr ⟨ha, Fin.forall_fin_two.mpr ⟨hb, hc⟩⟩,
    Fin.forall_fin_succ.mpr ⟨?_, Fin.forall_fin_two.mpr ⟨?_, ?_⟩⟩, ?_⟩
  · show (tailCount ![a, b, c] 1 : Int) ≤ i32.hi
    rwa [h1]
  · show (tailCount ![a, b, c] 2 : Int) ≤ i32.hi
    rwa [h2]
  · show (tailCount ![a, b, c] 3 : Int) ≤ i32.hi
    rw [tailCount_rank]
    decide
  · rwa [h0]

theorem dimsFit_vector {n : Nat} (hpos : 0 < n) (h : (n : Int) ≤ i32.hi) : DimsFit ![n] := by
  refine dimsFit_of_count (Fin.forall_fin_one.mpr hpos) ?_
  simpa using h

namespace MqaShape

/-- The extents that an architecture supports, with sizes that fit. -/
structure Supported (s : MqaShape) (isFp4 : Bool) (arch : Arch) : Prop where
  seqLen : 0 < s.seqLen ∧ (s.seqLen : Int) ≤ i32.hi
  seqLenKv : 0 < s.seqLenKv ∧ (s.seqLenKv : Int) ≤ i32.hi
  support : Crate.ArchSupport arch isFp4 s.numHeads (if isFp4 then s.rowBytes * 2 else s.rowBytes)

namespace Supported

variable {s : MqaShape} {isFp4 : Bool} {arch : Arch}

theorem heads (h : s.Supported isFp4 arch) : 8 ≤ s.numHeads ∧ s.numHeads ≤ 64 := by
  have hheads := h.support.numHeads
  omega

theorem bytes (h : s.Supported isFp4 arch) : 0 < s.rowBytes ∧ s.rowBytes ≤ 128 := by
  rcases h.support.headDim with e | e | e <;> split at e <;> omega

theorem q (h : s.Supported isFp4 arch) : DimsFit ![s.seqLen, s.numHeads, s.rowBytes] := by
  obtain ⟨-, hheads⟩ := h.heads
  obtain ⟨-, hbytes⟩ := h.bytes
  have hseq := h.seqLen.2
  simp only [i32] at hseq
  have hrow : s.numHeads * s.rowBytes ≤ 64 * 128 := Nat.mul_le_mul hheads hbytes
  have hcount : s.seqLen * (s.numHeads * s.rowBytes) ≤ 2147483647 * (64 * 128) := Nat.mul_le_mul (by omega) hrow
  rw [← Nat.mul_assoc] at hcount
  refine dimsFit_three h.seqLen.2 ?_ ?_ ?_ ?_
  all_goals simp only [i32, i64]; omega

theorem perHead (h : s.Supported isFp4 arch) : DimsFit ![s.seqLen, s.numHeads] :=
  dimsFit_matrix h.seqLen.2 ((Int.ofNat_le.mpr h.heads.2).trans (by decide))

theorem kv (h : s.Supported isFp4 arch) : DimsFit ![s.seqLenKv, s.rowBytes] :=
  dimsFit_matrix h.seqLenKv.2 ((Int.ofNat_le.mpr h.bytes.2).trans (by decide))

end Supported

end MqaShape

/-! ## The arguments -/

/-- Contiguous tensors of these extents, on the device. -/
structure MqaInput (input : MqaTensors) (gpu : Device) (s : MqaShape) : Prop where
  q : GpuTensor input.q gpu (storageDtype input.qScale.isSome) (rowMajorAxes [s.seqLen, s.numHeads, s.rowBytes])
  qScale : ∀ t ∈ input.qScale, GpuTensor t gpu .i32 (rowMajorAxes [s.seqLen, s.numHeads])
  kv : GpuTensor input.kv gpu (storageDtype input.qScale.isSome) (rowMajorAxes [s.seqLenKv, s.rowBytes])
  kvScale : GpuTensor input.kvScale gpu (scaleDtype input.qScale.isSome) (rowMajorAxes [s.seqLenKv])
  weights : GpuTensor input.weights gpu input.weights.dtype (rowMajorAxes [s.seqLen, s.numHeads])
  cuSeqLenKStart : GpuTensor input.cuSeqLenKStart gpu .i32 (rowMajorAxes [s.seqLen])
  cuSeqLenKEnd : GpuTensor input.cuSeqLenKEnd gpu .i32 (rowMajorAxes [s.seqLen])

/-- A configuration that is supported, with the dtype of the weights. -/
structure MqaConfig (config : MqaLogitsConfig) (weights : CandleDType) (arch : Arch) : Prop where
  maxSeqlenK : (config.maxSeqlenK : Int) ≤ i32.hi
  logitsDtype : config.logitsDtype = .f32 ∨ config.logitsDtype = .bf16
  weights : weights = .f32 ∨ weights = .bf16 ∧ arch = .sm100 ∧ config.logitsDtype = .bf16

/-- The arguments of a call. -/
structure MqaArguments where
  q : TensorArg 3
  qScale : Option (TensorArg 2)
  kv : TensorArg 2
  kvScale : TensorArg 1
  weights : TensorArg 2
  cuSeqLenKStart : TensorArg 1
  cuSeqLenKEnd : TensorArg 1

/-- The launch with these arguments. -/
def MqaArguments.launch (args : MqaArguments) (config : MqaLogitsConfig) (stream : Ptr) (logits : TensorArg 2) :
    Crate.MqaLogitsLaunch where
  q := args.q
  qScale := args.qScale
  kv := args.kv
  kvScale := args.kvScale
  weights := args.weights
  cuSeqLenKStart := args.cuSeqLenKStart
  cuSeqLenKEnd := args.cuSeqLenKEnd
  logits
  cleanLogits := config.cleanLogits
  maxSeqlenK := config.maxSeqlenK
  stream

/-- The specs of these arguments. -/
def MqaArguments.spec (args : MqaArguments) (config : MqaLogitsConfig) (logitsDtype : DType) :
    Crate.MqaLogitsSpec where
  q := args.q.spec
  qScale := args.qScale.map (·.spec)
  kv := args.kv.spec
  kvScale := args.kvScale.spec
  weights := args.weights.spec
  cuSeqLenKStart := args.cuSeqLenKStart.spec
  cuSeqLenKEnd := args.cuSeqLenKEnd.spec
  cleanLogits := config.cleanLogits
  maxSeqlenK := config.maxSeqlenK
  logitsDtype

/-- The dtype of the scales of `kv`. -/
def kvScaleDtype (isFp4 : Bool) : DType := if isFp4 then .packedUe8M0 else .f32

/-- Each tensor becomes its argument. -/
structure PassedMqa (input : MqaTensors) (gpu : Device) (s : MqaShape) (weightsDtype : DType) (args : MqaArguments) :
    Prop where
  q : Passed input.q gpu (storageDtype input.qScale.isSome) (Crate.elementDtype input.qScale.isSome)
    ![s.seqLen, s.numHeads, s.rowBytes] "q" args.q
  qScale : PassedIfAny input.qScale gpu .i32 .packedUe8M0 ![s.seqLen, s.numHeads] "q_scale" args.qScale
  kv : Passed input.kv gpu (storageDtype input.qScale.isSome) (Crate.elementDtype input.qScale.isSome)
    ![s.seqLenKv, s.rowBytes] "kv" args.kv
  kvScale : Passed input.kvScale gpu (scaleDtype input.qScale.isSome) (kvScaleDtype input.qScale.isSome) ![s.seqLenKv]
    "kv_scale" args.kvScale
  weights : Passed input.weights gpu input.weights.dtype weightsDtype ![s.seqLen, s.numHeads] "weights" args.weights
  cuSeqLenKStart : Passed input.cuSeqLenKStart gpu .i32 .i32 ![s.seqLen] "cu_seq_len_k_start" args.cuSeqLenKStart
  cuSeqLenKEnd : Passed input.cuSeqLenKEnd gpu .i32 .i32 ![s.seqLen] "cu_seq_len_k_end" args.cuSeqLenKEnd

section

variable {api : Api} {runtime : Runtime} {id ordinal : Nat} {stream : Ptr} {arch : Arch} {numSms : Int}
  {input : MqaTensors} {s : MqaShape} {config : MqaLogitsConfig} {args : MqaArguments} {weightsDtype logitsDtype : DType}

theorem passedMqa (h : MqaInput input (.cuda id ordinal stream) s) (hs : s.Supported input.qScale.isSome arch)
    (weightsDtype : DType) : ∃ args, PassedMqa input (.cuda id ordinal stream) s weightsDtype args := by
  have htokens : DimsFit ![s.seqLen] := dimsFit_vector hs.seqLen.1 hs.seqLen.2
  have hpositions : DimsFit ![s.seqLenKv] := dimsFit_vector hs.seqLenKv.1 hs.seqLenKv.2
  obtain ⟨q, hq⟩ := GpuTensor.passed ![s.seqLen, s.numHeads, s.rowBytes] h.q hs.q
    (Crate.elementDtype input.qScale.isSome) "q"
  obtain ⟨qScale, hqScale⟩ := passedIfAny ![s.seqLen, s.numHeads] h.qScale hs.perHead .packedUe8M0 "q_scale"
  obtain ⟨kv, hkv⟩ := GpuTensor.passed ![s.seqLenKv, s.rowBytes] h.kv hs.kv (Crate.elementDtype input.qScale.isSome) "kv"
  obtain ⟨kvScale, hkvScale⟩ := GpuTensor.passed ![s.seqLenKv] h.kvScale hpositions
    (kvScaleDtype input.qScale.isSome) "kv_scale"
  obtain ⟨weights, hweights⟩ := GpuTensor.passed ![s.seqLen, s.numHeads] h.weights hs.perHead weightsDtype "weights"
  obtain ⟨start, hstart⟩ := GpuTensor.passed ![s.seqLen] h.cuSeqLenKStart htokens .i32 "cu_seq_len_k_start"
  obtain ⟨stop, hstop⟩ := GpuTensor.passed ![s.seqLen] h.cuSeqLenKEnd htokens .i32 "cu_seq_len_k_end"
  exact ⟨⟨q, qScale, kv, kvScale, weights, start, stop⟩, hq, hqScale, hkv, hkvScale, hweights, hstart, hstop⟩

/-- The checks of the call pass, with the specs of the arguments. -/
theorem mqaLogitsSpec_succeeds {gpu : Device} (h : PassedMqa input gpu s weightsDtype args)
    (hw : candleToDeepgemmDtype input.weights.dtype "weights" = .ok weightsDtype)
    (hl : candleToLogitsDtype config.logitsDtype = .ok logitsDtype) :
    mqaLogitsSpec input config = .ok (args.spec config logitsDtype) := by
  obtain ⟨hqScale, hqScaleSpec, -⟩ := h.qScale.qScale
  simp only [mqaLogitsSpec, bind_eq_ok, ensureRank_eq_ok, ensureDtype_eq_ok, exists_const]
  exact ⟨h.q.rankEq, h.kv.rankEq, h.kvScale.rankEq, h.weights.rankEq, h.cuSeqLenKStart.rankEq, h.cuSeqLenKEnd.rankEq,
    h.q.dtypeEq, h.kv.dtypeEq, h.kvScale.dtypeEq, (), hqScale, h.cuSeqLenKStart.dtypeEq, h.cuSeqLenKEnd.dtypeEq, _,
    h.q.spec _, _, hqScaleSpec, _, h.kv.spec _, _, h.kvScale.spec _, _, hw, _, h.weights.spec _, _,
    h.cuSeqLenKStart.spec _, _, h.cuSeqLenKEnd.spec _, _, hl, rfl⟩

theorem validateCommonDevices_succeeds (h : PassedMqa input (.cuda id ordinal stream) s weightsDtype args) :
    validateCommonDevices input = .ok () := by
  have hq := h.q.onGpu
  have hqScale := h.qScale.sameDevice hq "q_scale"
  simp only [validateCommonDevices, bind_eq_ok, ensureSameDevice_eq_ok, exists_const]
  refine ⟨h.kv.ensureSameDevice hq, h.kvScale.ensureSameDevice hq, h.weights.ensureSameDevice hq,
    h.cuSeqLenKStart.ensureSameDevice hq, h.cuSeqLenKEnd.ensureSameDevice hq, ?_⟩
  exact hqScale

theorem PassedMqa.contract {gpu : Device} (h : PassedMqa input gpu s weightsDtype args)
    (hs : s.Supported input.qScale.isSome arch) (hclean : ¬ (config.cleanLogits = true ∧ 0 < config.maxSeqlenK))
    (hlogits : logitsDtype = .f32 ∨ logitsDtype = .bf16) (hweights : Crate.WeightsDtype weightsDtype arch logitsDtype) :
    Refine.MqaContract (args.spec config logitsDtype) arch := by
  have hsome : (args.qScale.map (·.spec)).isSome = input.qScale.isSome := by rw [Option.isSome_map, h.qScale.isSome]
  have hq : ∀ i, args.q.spec.shape i = ![s.seqLen, s.numHeads, s.rowBytes] i := congrFun h.q.contiguous.shape
  have hkv : ∀ i, args.kv.spec.shape i = ![s.seqLenKv, s.rowBytes] i := congrFun h.kv.contiguous.shape
  have hw := h.weights.contiguous
  constructor
  case logitsDtype => exact hlogits
  case cleanLogits => exact hclean
  case kvWidth =>
    show args.kv.spec.shape 1 = args.q.spec.shape 2
    rw [hkv 1, hq 2]
    rfl
  case q => exact h.q.contiguous.rowMajor
  case kv => exact h.kv.contiguous.rowMajor
  case qDtype =>
    show args.q.spec.dtype = Crate.elementDtype (args.qScale.map (·.spec)).isSome
    rw [hsome]
    exact h.q.contiguous.dtype
  case kvDtype =>
    show args.kv.spec.dtype = Crate.elementDtype (args.qScale.map (·.spec)).isSome
    rw [hsome]
    exact h.kv.contiguous.dtype
  case qScale =>
    intro t ht
    obtain ⟨a, ha, rfl⟩ := Option.mem_map.mp ht
    show Refine.Scale a.spec .packedUe8M0 ![args.q.spec.shape 0, args.q.spec.shape 1]
    rw [hq 0, hq 1]
    exact (h.qScale.of_mem a ha).2
  case kvScale =>
    show Refine.Scale args.kvScale.spec (kvScaleDtype (args.qScale.map (·.spec)).isSome) ![args.kv.spec.shape 0]
    rw [hsome, hkv 0]
    exact h.kvScale.contiguous
  case weights =>
    show args.weights.spec.shape 0 = args.q.spec.shape 0 ∧ args.weights.spec.shape 1 = args.q.spec.shape 1 ∧
      (args.weights.spec.strides 1).val = 1
    rw [hq 0, hq 1]
    exact ⟨congrFun hw.shape 0, congrFun hw.shape 1, (rowMajor_two.mp hw.rowMajor).2⟩
  case weightsDtype =>
    show Crate.WeightsDtype args.weights.spec.dtype arch logitsDtype
    rw [hw.dtype]
    exact hweights
  case cuSeqLenKStart =>
    show Crate.I32Vector args.cuSeqLenKStart.spec (args.q.spec.shape 0)
    rw [hq 0]
    exact i32Vector_of_contiguous h.cuSeqLenKStart.contiguous
  case cuSeqLenKEnd =>
    show Crate.I32Vector args.cuSeqLenKEnd.spec (args.q.spec.shape 0)
    rw [hq 0]
    exact i32Vector_of_contiguous h.cuSeqLenKEnd.contiguous
  case support =>
    show Crate.ArchSupport arch (args.qScale.map (·.spec)).isSome (args.q.spec.shape 1)
      (if (args.qScale.map (·.spec)).isSome then args.q.spec.shape 2 * 2 else args.q.spec.shape 2)
    rw [hsome, hq 1, hq 2]
    exact hs.support

/-- The arguments and the view of the logits fit. -/
theorem PassedMqa.launchFits {gpu : Device} (h : PassedMqa input gpu s weightsDtype args)
    (hlen : (config.maxSeqlenK : Int) ≤ i32.hi) {logits : TensorArg 2} (hlogits : logits.Fits) :
    Refine.MqaLaunchFits (args.launch config stream logits) where
  q := h.q.fits.toFits
  qScale a ha := (h.qScale.of_mem a ha).1.toFits
  kv := h.kv.fits.toFits
  kvScale := h.kvScale.fits.toFits
  weights := h.weights.fits.toFits
  cuSeqLenKStart := h.cuSeqLenKStart.fits.toFits
  cuSeqLenKEnd := h.cuSeqLenKEnd.fits.toFits
  logits := hlogits
  maxSeqlenK := hlen

theorem PassedMqa.specFits {gpu : Device} (h : PassedMqa input gpu s weightsDtype args)
    (hlen : (config.maxSeqlenK : Int) ≤ i32.hi) : Refine.MqaFits (args.spec config logitsDtype) where
  q := h.q.fits.spec
  qScale t ht := by
    obtain ⟨a, ha, rfl⟩ := Option.mem_map.mp ht
    exact (h.qScale.of_mem a ha).1.spec
  kv := h.kv.fits.spec
  kvScale := h.kvScale.fits.spec
  weights := h.weights.fits.spec
  cuSeqLenKStart := h.cuSeqLenKStart.fits.spec
  cuSeqLenKEnd := h.cuSeqLenKEnd.fits.spec
  maxSeqlenK := hlen

/-! ## The logits -/

/-- The columns of the logits. -/
def MqaShape.cols (s : MqaShape) (config : MqaLogitsConfig) : Nat :=
  if config.maxSeqlenK = 0 then s.seqLenKv else config.maxSeqlenK

/-- The rows of the map of `q` and the padded scales are values of `int`, and compressed logits are not cleaned. -/
structure MqaInRange (s : MqaShape) (config : MqaLogitsConfig) : Prop where
  rows : (s.seqLen * s.numHeads : Nat) ≤ i32.hi
  scales : (s.seqLenKv : Int) ≤ i32.hi - 3
  cleanLogits : ¬ (config.cleanLogits = true ∧ 0 < config.maxSeqlenK)

/-- The logits of a call and the kernels that fill them: rows for whole blocks of tokens, each of whole splits of 256
positions. -/
structure Scores (gpu : Device) (arch : Arch) (numSms : Int) (s : MqaShape) (config : MqaLogitsConfig) (logits : Tensor)
    (launches : List Raw.Launch) : Prop where
  kernels : launches.map (·.kernel) = Refine.mqaKernels arch config.cleanLogits
  grid : ∀ launch ∈ launches, launch.config.gridDimX = u32.cast numSms
  view : ∃ rows rowStride : Nat, (rows : Int) = alignUp s.seqLen (128 / s.numHeads) ∧ s.cols config ≤ rowStride ∧
    256 ∣ rowStride ∧ GpuTensor logits gpu config.logitsDtype [⟨rows, rowStride⟩, ⟨s.cols config, 1⟩]

theorem alignUp_four_le {n : Nat} : alignUp (n : Int) 4 ≤ i32.hi ↔ (n : Int) ≤ i32.hi - 3 := by
  have h0 := le_alignUp (v := (n : Int)) (show (0 : Int) < 4 by decide)
  have h1 := alignUp_lt (v := (n : Int)) (show (0 : Int) < 4 by decide)
  have hdvd := dvd_alignUp (n : Int) 4
  simp only [i32]
  omega

/-- A block has at most 16 tokens. -/
theorem MqaShape.Supported.rows_lt (h : s.Supported input.qScale.isSome arch) :
    0 < alignUp (s.seqLen : Int) (128 / s.numHeads) ∧ alignUp (s.seqLen : Int) (128 / s.numHeads) < s.seqLen + 16 := by
  have hblock : 0 < (128 : Int) / s.numHeads ∧ (128 : Int) / s.numHeads ≤ 16 := by
    rcases h.support.numHeads with e | e | e | e <;> rw [e] <;> decide
  have hseq := h.seqLen.1
  have h0 := le_alignUp (v := (s.seqLen : Int)) hblock.1
  have h1 := alignUp_lt (v := (s.seqLen : Int)) hblock.1
  omega

/-- **A call in range is served.** -/
theorem fp8Fp4MqaLogits_scores (hapi : api.Total) (hrun : Serves runtime ordinal arch numSms)
    (hs : s.Supported input.qScale.isSome arch) (hin : MqaInput input (.cuda id ordinal stream) s)
    (hconfig : MqaConfig config input.weights.dtype arch) (hrange : MqaInRange s config) :
    ∃ logits layout launch launches, mqaLogitsLaunch api runtime input config = .ok (logits, layout, launch) ∧
      Crate.fp8Fp4MqaLogits runtime launch = .ok launches ∧
      Scores (.cuda id ordinal stream) arch numSms s config logits launches := by
  obtain ⟨device, hinfo, hdevice, hmajor⟩ := hrun.device
  obtain ⟨info, hcurrent, harch⟩ := ensureCurrentDevice_succeeds hrun "q"
  obtain ⟨logitsDtype, size, hld, hlogits, hbf16, hsize⟩ := logitsDtype_eq_ok hconfig.logitsDtype
  obtain ⟨weightsDtype, hwd, hweights⟩ := weightsDtype_eq_ok hbf16 hconfig.weights
  obtain ⟨args, hargs⟩ := passedMqa hin hs weightsDtype
  have hcontract := hargs.contract hs hrange.cleanLogits hlogits hweights
  have hspecFits : Refine.MqaFits (args.spec config logitsDtype) := hargs.specFits hconfig.maxSeqlenK
  have hn : (args.spec config logitsDtype).q.shape 0 = s.seqLen := congrFun hargs.q.contiguous.shape 0
  have hh : (args.spec config logitsDtype).q.shape 1 = s.numHeads := congrFun hargs.q.contiguous.shape 1
  have hkv : (args.spec config logitsDtype).kv.shape 0 = s.seqLenKv := congrFun hargs.kv.contiguous.shape 0
  have hcols : Refine.mqaCols (args.spec config logitsDtype) = s.cols config := by
    unfold Refine.mqaCols MqaShape.cols
    rw [hkv]
    rfl
  obtain ⟨layout, hlayout, hview⟩ :=
    Refine.mqaLayout_succeeds hspecFits hcontract (hn ▸ hs.seqLen.1) (hkv ▸ hs.seqLenKv.1)
  have hlogical : layout.logicalShape = ![s.seqLen, s.cols config] := hview.logicalShape.trans (by rw [hn, hcols])
  have hrows : (layout.allocationShape 0 : Int) = alignUp s.seqLen (128 / s.numHeads) := by
    rw [hview.allocationRows, hn, hh]
  obtain ⟨hcols0, hcols1⟩ := hview.allocationCols
  rw [hcols] at hcols0 hcols1
  obtain ⟨hrows0, hrows1⟩ := hs.rows_lt
  -- the columns are there, and there are few enough of them
  have hcolsPos : 0 < s.cols config ∧ (s.cols config : Int) ≤ i32.hi := by
    unfold MqaShape.cols
    split
    · exact hs.seqLenKv
    · exact ⟨Nat.pos_of_ne_zero ‹_›, hconfig.maxSeqlenK⟩
  have htokens : 8 * s.seqLen ≤ s.seqLen * s.numHeads := by
    rw [Nat.mul_comm 8]
    exact Nat.mul_le_mul_left _ hs.heads.1
  have hint := hrange.rows
  obtain ⟨hcolsPos, hcolsInt⟩ := hcolsPos
  simp only [i32] at hint hcolsInt
  have hbytes : layout.allocationShape 0 * layout.allocationShape 1 ≤ 268435471 * 2147484415 :=
    Nat.mul_le_mul (by omega) (by omega)
  obtain ⟨allocation, hzeros, halloc⟩ := hapi.zeros_onGpu (layout.allocationShape 0) (layout.allocationShape 1) _ id
    ordinal stream hsize (Nat.mul_pos (by omega) (by omega)) (has_i64.mpr ⟨by omega, by omega⟩)
  obtain ⟨logits, hnarrow, hgpu⟩ := hapi.narrow_onGpu halloc (s.cols config) hcols0
  obtain ⟨data, hdata, hdata0⟩ := hgpu.ptr "logits"
  have hlogitsFits : (⟨data, layout.logicalSpec⟩ : TensorArg 2).Fits := by
    have hshape : layout.logicalSpec.shape = ![s.seqLen, s.cols config] := hlogical
    obtain ⟨hextents, -, hcount⟩ := dimsFit_matrix hs.seqLen.2 (show (s.cols config : Int) ≤ i32.hi from hcolsInt)
    refine ⟨hdata0, ?_, ?_⟩
    · rw [hshape]
      exact hextents
    · rw [TensorSpec.elementCount, ← tailCount_zero, hshape]
      exact hcount
  have hspec : (args.launch config stream ⟨data, layout.logicalSpec⟩).spec = args.spec config logitsDtype := by
    unfold Crate.MqaLogitsLaunch.spec MqaArguments.spec
    rw [show (args.launch config stream ⟨data, layout.logicalSpec⟩).logits.spec.dtype = logitsDtype from hview.dtype]
    rfl
  have hreaches : Refine.MqaReaches (args.launch config stream ⟨data, layout.logicalSpec⟩) := by
    refine ⟨?_, ?_, ?_⟩
    · show (args.q.spec.shape 0 * args.q.spec.shape 1 : Nat) ≤ i32.hi
      rw [show args.q.spec.shape 0 = s.seqLen from hn, show args.q.spec.shape 1 = s.numHeads from hh]
      exact hrange.rows
    · show alignUp (args.kv.spec.shape 0 : Int) 4 ≤ i32.hi
      rw [show args.kv.spec.shape 0 = s.seqLenKv from hkv]
      exact alignUp_four_le.mpr hrange.scales
    · exact hargs.weights.fits.strides 0
  obtain ⟨launches, hlaunches, hkernels, hgrid⟩ := Refine.fp8Fp4MqaLogits_launches hinfo hmajor hrun.sms
    (hargs.launchFits hconfig.maxSeqlenK hlogitsFits) ⟨layout, hspec ▸ hlayout, rfl⟩ hreaches
  refine ⟨logits, layout, _, launches, ?_, hlaunches, hkernels, hgrid, layout.allocationShape 0,
    layout.allocationShape 1, hrows, hcols0, hview.splits, hgpu⟩
  obtain ⟨-, -, hqScalePtr⟩ := hargs.qScale.qScale
  simp only [mqaLogitsLaunch, bind_eq_ok, ofRust_eq_ok, ofCandle_eq_ok]
  refine ⟨(), validateCommonDevices_succeeds hargs, _, mqaLogitsSpec_succeeds hargs hwd hld, _,
    hin.q.streamAndDeviceId hrun.ordinal, info, hcurrent, arch, harch, layout, hlayout, allocation, ?_, logits, ?_, _,
    hargs.q.ptr, _, hqScalePtr, _, hargs.kv.ptr, _, hargs.kvScale.ptr, _, hargs.weights.ptr, _,
    hargs.cuSeqLenKStart.ptr, _, hargs.cuSeqLenKEnd.ptr, data, hdata, rfl⟩
  · rw [hin.q.onGpu]
    exact hzeros
  · rw [hlogical]
    exact hnarrow

/-- The launch of a call has its specs and its configuration. -/
theorem mqaLogitsLaunch_specs {logits : Tensor} {layout : TensorLayout2D} {launch : Crate.MqaLogitsLaunch}
    (h : mqaLogitsLaunch api runtime input config = .ok (logits, layout, launch)) :
    ∃ spec, mqaLogitsSpec input config = .ok spec ∧ launch.q.spec = spec.q ∧ launch.kv.spec = spec.kv ∧
      launch.cleanLogits = config.cleanLogits ∧ launch.maxSeqlenK = config.maxSeqlenK := by
  simp only [mqaLogitsLaunch, bind_eq_ok, Except.ok.injEq, Prod.mk.injEq] at h
  obtain ⟨_, -, spec, hspec, _, -, _, -, _, -, _, -, _, -, _, -, _, -, _, -, _, -, _, -, _, -, _, -, _, -, _, -, -, -,
    rfl⟩ := h
  exact ⟨spec, hspec, rfl, rfl, rfl, rfl⟩

/-- **A call that is served is in range.** -/
theorem inRange_of_served {logits : Tensor} (hrun : Serves runtime ordinal arch numSms)
    (hs : s.Supported input.qScale.isSome arch) (hin : MqaInput input (.cuda id ordinal stream) s)
    (hconfig : MqaConfig config input.weights.dtype arch) (h : fp8Fp4MqaLogits api runtime input config = .ok logits) :
    MqaInRange s config := by
  obtain ⟨device, hinfo, -, hmajor⟩ := hrun.device
  obtain ⟨logitsDtype, -, hld, -, hbf16, -⟩ := logitsDtype_eq_ok hconfig.logitsDtype
  obtain ⟨weightsDtype, hwd, -⟩ := weightsDtype_eq_ok hbf16 hconfig.weights
  obtain ⟨args, hargs⟩ := passedMqa hin hs weightsDtype
  simp only [fp8Fp4MqaLogits, bind_eq_ok, ofRust_eq_ok] at h
  obtain ⟨⟨_, _, launch⟩, hlaunch, launches, hlaunches, -⟩ := h
  obtain ⟨spec, hspec, hq, hkv, hclean, hlen⟩ := mqaLogitsLaunch_specs hlaunch
  obtain rfl : args.spec config logitsDtype = spec :=
    Except.ok.inj ((mqaLogitsSpec_succeeds hargs hwd hld).symm.trans hspec)
  obtain ⟨haccepted, hreaches⟩ := Refine.fp8Fp4MqaLogits_reaches hinfo hmajor hlaunches
  have hrows := hreaches.rows
  have hscales := hreaches.scales
  rw [hq, show (args.spec config logitsDtype).q.shape 0 = s.seqLen from congrFun hargs.q.contiguous.shape 0,
    show (args.spec config logitsDtype).q.shape 1 = s.numHeads from congrFun hargs.q.contiguous.shape 1] at hrows
  rw [hkv, show (args.spec config logitsDtype).kv.shape 0 = s.seqLenKv from congrFun hargs.kv.contiguous.shape 0] at hscales
  refine ⟨hrows, alignUp_four_le.mp hscales, ?_⟩
  rw [← hclean, ← hlen]
  exact Refine.not_cleaned_of_accepted haccepted

end

/-- **A call with contiguous tensors is served exactly when it is in range, and then with its kernels**: the logits come
with rows for whole blocks of tokens, each kernel with a block for every SM in effect. -/
theorem fp8Fp4MqaLogits_succeeds_iff {api : Api} {runtime : Runtime} {id ordinal : Nat} {stream : Ptr} {arch : Arch}
    {numSms : Int} {input : MqaTensors} {s : MqaShape} {config : MqaLogitsConfig} (hapi : api.Total)
    (hrun : Serves runtime ordinal arch numSms) (hs : s.Supported input.qScale.isSome arch)
    (hin : MqaInput input (.cuda id ordinal stream) s) (hconfig : MqaConfig config input.weights.dtype arch) :
    ((∃ logits, fp8Fp4MqaLogits api runtime input config = .ok logits) ↔ MqaInRange s config) ∧
      ∀ logits, fp8Fp4MqaLogits api runtime input config = .ok logits → ∃ layout launch launches,
        mqaLogitsLaunch api runtime input config = .ok (logits, layout, launch) ∧
        Crate.fp8Fp4MqaLogits runtime launch = .ok launches ∧
        Scores (.cuda id ordinal stream) arch numSms s config logits launches := by
  have hserved : MqaInRange s config → ∃ logits layout launch launches,
      fp8Fp4MqaLogits api runtime input config = .ok logits ∧
      mqaLogitsLaunch api runtime input config = .ok (logits, layout, launch) ∧
      Crate.fp8Fp4MqaLogits runtime launch = .ok launches ∧
      Scores (.cuda id ordinal stream) arch numSms s config logits launches := by
    intro hrange
    obtain ⟨logits, layout, launch, launches, hlaunch, hlaunches, hscores⟩ :=
      fp8Fp4MqaLogits_scores hapi hrun hs hin hconfig hrange
    refine ⟨logits, layout, launch, launches, ?_, hlaunch, hlaunches, hscores⟩
    simp only [fp8Fp4MqaLogits, hlaunch, ok_bind, hlaunches, ofRust]
  refine ⟨⟨?_, fun hrange => ?_⟩, ?_⟩
  · rintro ⟨logits, h⟩
    exact inRange_of_served hrun hs hin hconfig h
  · obtain ⟨logits, _, _, _, h, -⟩ := hserved hrange
    exact ⟨logits, h⟩
  · intro logits h
    obtain ⟨logits', layout, launch, launches, h', hrest⟩ := hserved (inRange_of_served hrun hs hin hconfig h)
    obtain rfl : logits = logits' := Except.ok.inj (h.symm.trans h')
    exact ⟨layout, launch, launches, hrest⟩

/-! ## Three tokens on an H100 -/

theorem hopperTensors_input {seqLen : Nat} : MqaInput (hopperTensors seqLen) (.cuda 0 0 0) ⟨seqLen, 32, 32, 2⟩ := by
  constructor
  case qScale =>
    intro t ht
    cases ht
  all_goals exact onDevice_gpuTensor rfl _

/-- Their logits are filled and then cleaned; compressed ones are not to be cleaned. -/
theorem threeTokens_served :
    (∃ logits launch launches, fp8Fp4MqaLogits (.memoryAt 8192) hopper (hopperTensors 3) fullLogits = .ok logits ∧
      Crate.fp8Fp4MqaLogits hopper launch = .ok launches ∧
      launches.map (·.kernel) = ["sm90_fp8_mqa_logits", "smxx_clean_logits"]) ∧
    ¬ ∃ logits, fp8Fp4MqaLogits (.memoryAt 8192) hopper (hopperTensors 3) ⟨true, 2, .f32⟩ = .ok logits := by
  have hcandle : (Api.memoryAt 8192).Total := Api.memoryAt_total (by decide) (by decide)
  have hrun : Serves hopper 0 .sm90 132 := ⟨⟨h100, rfl, rfl, rfl⟩, by decide, rfl⟩
  have hsupported : (⟨3, 32, 32, 2⟩ : MqaShape).Supported false .sm90 :=
    ⟨by decide, by decide, rfl, .inl rfl, .inl rfl⟩
  have hconfig : ∀ maxSeqlenK : Nat, (maxSeqlenK : Int) ≤ i32.hi → MqaConfig ⟨true, maxSeqlenK, .f32⟩ .f32 .sm90 :=
    fun maxSeqlenK h => ⟨h, .inl rfl, .inl rfl⟩
  obtain ⟨hiff, hserved⟩ := fp8Fp4MqaLogits_succeeds_iff hcandle hrun hsupported hopperTensors_input
    (hconfig 0 (by decide))
  obtain ⟨hiff', -⟩ := fp8Fp4MqaLogits_succeeds_iff hcandle hrun hsupported hopperTensors_input (hconfig 2 (by decide))
  constructor
  · obtain ⟨logits, h⟩ := hiff.mpr ⟨by decide, by decide, by decide⟩
    obtain ⟨_, launch, launches, -, hlaunches, hscores⟩ := hserved logits h
    exact ⟨logits, launch, launches, h, hlaunches, hscores.kernels⟩
  · intro hcleaned
    exact (hiff'.mp hcleaned).cleanLogits ⟨rfl, by decide⟩

end DeepGemmRs.Candle
