import DeepGemmRs.Lib.Steps
import DeepGemmRs.Raw.Enqueue
import DeepGemmRs.Raw.FusedCache
import DeepGemmRs.Raw.GemmStrides
import DeepGemmRs.Raw.MqaTotal

/-!
# What a launch may touch through its tensor maps

A kernel reads its operands through tensor maps, and writes the output of a GEMM through one. A map reaches the
bits of its coordinates, whatever the coordinates that the kernel asks for.

* `TensorMap.reach` : the bits that a map addresses;
* `elements`, `unitsOf` : the bits of a tensor, and the 16-byte units that hold them;
* `Request.regions` : tensors of a request, in the order of the maps of its launches;
* `maps_reach` : **each map reaches the elements of its tensor and nothing else**; a map of scales reaches whole
  units, which are more than the scales unless their number is a multiple of four.
-/

namespace DeepGemmRs.Raw

open Checked MachineInt Rounding Set Steps
open scoped Pointwise

/-! ## Maps -/

/-- The bits that the coordinates of a map address. -/
def TensorMap.reach (map : TensorMap) : Set Int := {bit | ∃ coord, map.InBounds coord ∧ map.Addresses coord bit}

section

variable {map : TensorMap} {inner : Int} {outer : List Int}

theorem reach_eq (hdims : map.gmemDims = inner :: outer) (hlen : outer.length = map.gmemStrides.length)
    (hbits : 0 < map.dataType.bits) : map.reach = {8 * (map.data : Int)} +
      ((List.zipWith (fun n s => steps n (8 * s)) outer map.gmemStrides).sum + Ico 0 (inner * map.dataType.bits)) := by
  ext bit
  rw [← steps_add_Ico hbits, mem_shift, mem_add]
  simp only [mem_sum_steps hlen, mem_steps_add, mem_Ico, TensorMap.reach, mem_ofPred_eq, TensorMap.InBounds,
    TensorMap.Addresses, hdims, List.forall₂_cons_right_iff]
  have hbit : ∀ x coord, map.bit (x :: coord) =
      8 * map.data + x * map.dataType.bits + 8 * (List.zipWith (· * ·) coord map.gmemStrides).sum := fun _ _ => rfl
  constructor
  · rintro ⟨_, ⟨x, coord, hx, hcoord, rfl⟩, h0, h1⟩
    rw [hbit] at h0 h1
    exact ⟨_, ⟨coord, hcoord, rfl⟩, bit - 8 * map.data - 8 * (List.zipWith (· * ·) coord map.gmemStrides).sum,
      ⟨x, hx, by omega, by omega⟩, by ring⟩
  · rintro ⟨_, ⟨coord, hcoord, rfl⟩, rest, ⟨x, hx, h0, h1⟩, hrest⟩
    refine ⟨x :: coord, ⟨x, coord, hx, hcoord, rfl⟩, ?_⟩
    rw [hbit]
    exact ⟨by omega, by omega⟩

end

/-! ## Descriptors -/

/-- The bits of an element of a map: a byte of packed FP4 holds two. -/
def dtypeBits (dtype : DTypeCode) : Int :=
  if dtype = DTypeCode.packedFp4E2M1 then 4 else 8 * dtypeElementSize dtype

theorem bits_of_dtype {dtype : DTypeCode} {unpacked : Bool} {dataType : TensorMapDataType}
    (h : tensorMapDtype dtype false unpacked = .ok dataType) :
    dataType.bits = dtypeBits dtype ∧ 0 < dtypeBits dtype ∧ 0 < dtypeElementSize dtype := by
  have htf32 : ¬ (false = true ∧ dtype = DTypeCode.f32) := fun ⟨h, _⟩ => Bool.false_ne_true h
  unfold tensorMapDtype at h
  rw [if_neg htf32] at h
  split_ifs at h with hint hf32 hbf16 hbyte hfp4 hunpacked
  · rcases hint with rfl | rfl <;> cases h <;> decide
  · subst hf32
    cases h
    decide
  · subst hbf16
    cases h
    decide
  · rcases hbyte with rfl | rfl <;> cases h <;> decide
  · subst hfp4
    cases h
    decide
  · subst hfp4
    cases h
    decide

section

variable {data : Ptr} {dtype : DTypeCode} {inner outer smemInner smemOuter stride swizzleMode : Int}
  {options : TmaOptions} {map : TensorMap}

/-- A descriptor of extents maps them, without an overflow. -/
theorem makeTma2dDesc_machine_ok (hinner : Extent inner) (houter : Extent outer) (hstride : Extent stride)
    (h : makeTma2dDesc .machine data dtype inner outer smemInner smemOuter stride swizzleMode options = .ok map) :
    tensorMapDtype dtype options.allowTf32 options.fp4UnpackedSmem = .ok map.dataType ∧ map.data = data ∧
      map.gmemDims = [inner, outer] ∧ map.gmemStrides = [stride * dtypeElementSize dtype] := by
  have hstrides := makeTma2dDesc_gmemStrides hstride h
  simp only [makeTma2dDesc, bind_eq_ok, Arith.machine_cast, Except.ok.injEq, exists_eq_left',
    IntType.cast_of_has hinner.u64, IntType.cast_of_has houter.u64] at h
  obtain ⟨_, -, _, -, _, -, _, -, dataType, htype, _, -, rfl⟩ := h
  exact ⟨htype, rfl, rfl, hstrides⟩

/-- What the descriptor functions make of rows of elements. -/
def TensorMap.Describes (map : TensorMap) (data : Ptr) (dtype : DTypeCode) (inner outer stride : Int) : Prop :=
  (∃ unpacked, tensorMapDtype dtype false unpacked = .ok map.dataType) ∧ map.data = data ∧
    map.gmemDims = [inner, outer] ∧ map.gmemStrides = [stride * dtypeElementSize dtype]

theorem describes_of_machine (hinner : Extent inner) (houter : Extent outer) (hstride : Extent stride)
    (htf32 : options.allowTf32 = false)
    (h : makeTma2dDesc .machine data dtype inner outer smemInner smemOuter stride swizzleMode options = .ok map) :
    map.Describes data dtype inner outer stride := by
  obtain ⟨htype, hrest⟩ := makeTma2dDesc_machine_ok hinner houter hstride h
  rw [htf32] at htype
  exact ⟨⟨_, htype⟩, hrest⟩

theorem describes_of_exact (htf32 : options.allowTf32 = false)
    (h : makeTma2dDesc .exact data dtype inner outer smemInner smemOuter stride swizzleMode options = .ok map) :
    map.Describes data dtype inner outer stride := by
  obtain ⟨htype, hrest⟩ := makeTma2dDesc_ok h
  rw [htf32] at htype
  exact ⟨⟨_, htype⟩, hrest⟩

namespace TensorMap.Describes

theorem bits (h : map.Describes data dtype inner outer stride) :
    map.dataType.bits = dtypeBits dtype ∧ 0 < dtypeBits dtype ∧ 0 < dtypeElementSize dtype := by
  obtain ⟨⟨_, htype⟩, -⟩ := h
  exact bits_of_dtype htype

/-- Rows, and the elements of a row one after the other. -/
theorem reach (h : map.Describes data dtype inner outer stride) :
    map.reach = {8 * (data : Int)} +
      (steps outer (8 * (stride * dtypeElementSize dtype)) + Ico 0 (inner * dtypeBits dtype)) := by
  obtain ⟨hbits, hpos, -⟩ := h.bits
  obtain ⟨-, rfl, hdims, hstrides⟩ := h
  rw [reach_eq hdims (by rw [hstrides]; rfl) (hbits ▸ hpos), hstrides, hbits, List.zipWith_cons_cons,
    List.zipWith_nil_left, List.sum_cons, List.sum_nil, add_zero]

end TensorMap.Describes

end

/-! ## Tensors -/

theorem rank_le (rank : Fin 5) : rank.val ≤ 4 := rank.is_le

/-- The bits of the elements, of which every axis takes steps. -/
def elements (t : RawTensor) (rank : Fin 5) : Set Int :=
  {8 * (t.data : Int)} + (∑ i : Fin rank, steps (t.shape (i.castLE (rank_le rank)))
    (8 * dtypeElementSize t.dtype * t.stride (i.castLE (rank_le rank))) + Ico 0 (8 * dtypeElementSize t.dtype))

/-- The 16-byte units that hold the elements, from the first one on: the driver wants its address to be aligned. -/
def unitsOf (t : RawTensor) (rank : Fin 5) : Set Int := units 128 (8 * (t.data : Int)) (elements t rank)

section

variable {t : RawTensor}

/-- The elements of a row one after the other. -/
theorem elements_rows (hunit : (t.stride 1).val = 1) (hsize : 0 < dtypeElementSize t.dtype) :
    elements t 2 = {8 * (t.data : Int)} + (steps (t.shape 0) (8 * ((t.stride 0).val * dtypeElementSize t.dtype)) +
      Ico 0 ((t.shape 1).val * (8 * dtypeElementSize t.dtype))) := by
  have hsum : ∑ i : Fin (2 : Fin 5), steps (t.shape (i.castLE (2 : Fin 5).is_le))
      (8 * dtypeElementSize t.dtype * t.stride (i.castLE (2 : Fin 5).is_le)) =
      steps (t.shape 0) (8 * dtypeElementSize t.dtype * t.stride 0) +
        steps (t.shape 1) (8 * dtypeElementSize t.dtype * t.stride 1) := Fin.sum_univ_two _
  rw [elements, hsum, hunit, Int.mul_one, add_assoc, steps_add_Ico (by omega), Int.mul_assoc, Int.mul_comm (t.stride 0).val]

/-- An axis that is contiguous with those after it. -/
theorem axes_of_loop {name : String} {u : Unit} {c e : Int} (hc : 0 < c) (he : 0 < e) (index : Nat) (hi : index ≤ 4)
    (hpos : ∀ i : Fin index, 0 < (t.shape (i.castLE hi)).val) (h : requireContiguousLoop t name index hi e = .ok u) :
    ∑ i : Fin index, steps (t.shape (i.castLE hi)) (c * t.stride (i.castLE hi)) + Ico 0 (c * e) =
      Ico 0 ((∏ i : Fin index, (t.shape (i.castLE hi)).val) * (c * e)) := by
  induction index generalizing e with
  | zero => rw [Fin.sum_univ_zero, Fin.prod_univ_zero, zero_add, one_mul]
  | succ index ih =>
    simp only [requireContiguousLoop, bind_eq_ok, throwIf_eq_ok, not_not, exists_const, IntType.mul_eq_ok] at h
    obtain ⟨hstride, _, ⟨-, rfl⟩, h⟩ := h
    have hlast : 0 < (t.shape ⟨index, hi⟩).val := hpos (Fin.last index)
    have hrest := ih (Int.mul_pos he hlast) (Nat.le_of_succ_le hi) (fun i => hpos i.castSucc) h
    rw [Fin.sum_univ_castSucc, Fin.prod_univ_castSucc, add_assoc]
    show ∑ i : Fin index, steps (t.shape (i.castLE (Nat.le_of_succ_le hi))) (c * t.stride (i.castLE (Nat.le_of_succ_le hi))) +
      (steps (t.shape ⟨index, hi⟩) (c * (t.stride ⟨index, hi⟩).val) + Ico 0 (c * e)) =
      Ico 0 ((∏ i : Fin index, (t.shape (i.castLE (Nat.le_of_succ_le hi))).val) * (t.shape ⟨index, hi⟩).val * (c * e))
    rw [hstride, steps_add_Ico (Int.mul_pos hc he), Int.mul_comm (t.shape ⟨index, hi⟩).val, Int.mul_assoc c e, hrest]
    ring_nf

/-- The elements of a contiguous tensor are one after the other. -/
theorem elements_contiguous {rank : Fin 5} {name : String} {u : Unit} (h : requireContiguous t rank name = .ok u)
    (hsize : 0 < dtypeElementSize t.dtype) :
    elements t rank = {8 * (t.data : Int)} +
      Ico 0 ((∏ i : Fin rank, (t.shape (i.castLE rank.is_le)).val) * (8 * dtypeElementSize t.dtype)) := by
  have haxes := axes_of_loop (show 0 < 8 * dtypeElementSize t.dtype by omega) one_pos rank rank.is_le
    (fun i => shape_pos_of_requireContiguous h _ i.isLt) (loop_of_requireContiguous h)
  rw [Int.mul_one] at haxes
  rw [elements, haxes]

end

/-! ### Maps of tensors -/

section

variable {t : RawTensor} {map : TensorMap} {inner outer stride : Int}

/-- The map of a contiguous tensor, whatever rows it is cut into. -/
theorem reach_contiguous {rank : Fin 5} {name : String} {u : Unit} (hc : requireContiguous t rank name = .ok u)
    (h : map.Describes t.data t.dtype inner outer stride)
    (hrow : inner * dtypeBits t.dtype = 8 * (stride * dtypeElementSize t.dtype)) (hstride : 0 < stride)
    (hcount : outer * stride = ∏ i : Fin rank, (t.shape (i.castLE rank.is_le)).val) :
    map.reach = elements t rank := by
  obtain ⟨-, -, hsize⟩ := h.bits
  rw [h.reach, hrow, steps_add_Ico (Int.mul_pos (by decide) (Int.mul_pos hstride hsize)),
    elements_contiguous hc hsize, ← hcount]
  ring_nf

/-- The map of a matrix whose rows may be apart. -/
theorem reach_matrix (h : map.Describes t.data t.dtype inner outer stride) (hunit : (t.stride 1).val = 1)
    (hrow : inner * dtypeBits t.dtype = (t.shape 1).val * (8 * dtypeElementSize t.dtype))
    (houter : outer = t.shape 0) (hstride : stride = t.stride 0) : map.reach = elements t 2 := by
  obtain ⟨-, -, hsize⟩ := h.bits
  rw [h.reach, hrow, elements_rows hunit hsize, houter, hstride]

/-! ### Scales -/

variable {rank : Fin 5} {n cols : Int}

/-- The words of a scale are padded as its bits are. -/
theorem alignUp_words (n : Int) : alignUp (n * 32) 128 = 8 * (alignUp n 4 * 4) := by
  rw [alignUp_eq_ediv_mul (by decide), alignUp_eq_ediv_mul (by decide)]
  omega

/-- Columns of `n` words, each padded to whole units. -/
def IsScaleRows (t : RawTensor) (rank : Fin 5) (n cols : Int) : Prop :=
  elements t rank = {8 * (t.data : Int)} + (steps cols (8 * (alignUp n 4 * 4)) + Ico 0 (n * 32))

theorem isScaleRows_vector {name : String} {u : Unit} (hc : requireContiguous t 1 name = .ok u)
    (hsize : dtypeElementSize t.dtype = 4) : IsScaleRows t 1 (t.shape 0) 1 := by
  have hprod : ∏ i : Fin (1 : Fin 5), (t.shape (i.castLE (1 : Fin 5).is_le)).val = t.shape 0 := Fin.prod_univ_one _
  rw [IsScaleRows, elements_contiguous hc (by omega), hprod, hsize, steps_one, zero_add]
  rfl

theorem isScaleRows_matrix (hfirst : (t.stride 0).val = 1) (hsecond : (t.stride 1).val = alignUp (t.shape 0).val 4)
    (hsize : dtypeElementSize t.dtype = 4) : IsScaleRows t 2 (t.shape 0) (t.shape 1) := by
  have hsum : ∑ i : Fin (2 : Fin 5), steps (t.shape (i.castLE (2 : Fin 5).is_le))
      (8 * dtypeElementSize t.dtype * t.stride (i.castLE (2 : Fin 5).is_le)) =
      steps (t.shape 0) (8 * dtypeElementSize t.dtype * t.stride 0) +
        steps (t.shape 1) (8 * dtypeElementSize t.dtype * t.stride 1) := Fin.sum_univ_two _
  rw [IsScaleRows, elements, hsum, hsize, hfirst, hsecond, add_comm (steps (t.shape 0) _), add_assoc,
    show (8 * 4 * 1 : Int) = 32 from rfl, show (8 * 4 : Int) = 32 from rfl, steps_add_Ico (by decide)]
  ring_nf

namespace IsScaleRows

variable (h : IsScaleRows t rank n cols) (hn : 0 < n)
include h hn

theorem unitsOf_eq : unitsOf t rank = {8 * (t.data : Int)} + Ico 0 (cols * (alignUp n 4 * 32)) := by
  rw [unitsOf, h, ← alignUp_words, units_rows (by decide) (by omega), shift_Ico, alignUp_words]
  ring_nf

theorem unitsOf_eq_iff (hcols : 0 < cols) : unitsOf t rank = elements t rank ↔ 4 ∣ n := by
  rw [unitsOf, h, ← alignUp_words, units_rows_eq_iff (by decide) (by omega) hcols]
  omega

/-- The map of a scale, a column to a row. -/
theorem reach_eq (hd : map.Describes t.data t.dtype (alignUp n 4) cols stride)
    (hscale : Gemm.IsScale t.dtype) (hstride : cols = 1 ∨ stride = alignUp n 4) : map.reach = unitsOf t rank := by
  have hbits : dtypeBits t.dtype = 32 := by rcases hscale with e | e <;> rw [e] <;> rfl
  have hpos : 0 < alignUp n 4 := hn.trans_le (le_alignUp (by decide))
  rw [hd.reach, hbits, hscale.size, h.unitsOf_eq hn]
  rcases hstride with rfl | rfl
  · rw [steps_one, zero_add, Int.one_mul]
  · rw [show 8 * (alignUp n 4 * 4) = alignUp n 4 * 32 by ring, steps_add_Ico (by omega)]

end IsScaleRows

end

/-! ## `launch_fp8_fp4_mqa_logits` -/

/-- The tensors of the maps, in the order of the kernel's arguments. -/
def MqaLogitsParams.regions (params : MqaLogitsParams) (major : Int) : List (Set Int) :=
  let q := elements params.q 3
  let kv := elements params.kv 2
  let kvScale := unitsOf params.kvScale 1
  let weights := elements params.weights 2
  if major = 9 then [q, kv, kvScale, weights]
  else [q, if params.hasQScale then elements params.qScale 2 else kvScale, kv, kvScale, weights]

section

variable {params : MqaLogitsParams} {map : TensorMap}

/-- The formats of a checked request. -/
structure MqaFormat (params : MqaLogitsParams) : Prop where
  row : params.args.headDim * dtypeBits params.q.dtype = 8 * ((params.q.shape 2).val * dtypeElementSize params.q.dtype)
  kv : params.kv.dtype = params.q.dtype
  kvScale : Gemm.IsScale params.kvScale.dtype
  qScale : params.hasQScale = true → params.qScale.dtype = DTypeCode.packedUe8M0 ∧
    requireContiguous params.qScale 2 "q_scale" = .ok () ∧
      (params.qScale.shape 0).val = params.args.seqLen ∧ (params.qScale.shape 1).val = params.args.numHeads

theorem headDim_bits {isFp4 : Bool} {physical : Int} {dtype : DTypeCode}
    (h : dtype = if isFp4 then DTypeCode.packedFp4E2M1 else DTypeCode.fp8E4M3) :
    headDimOf isFp4 physical * dtypeBits dtype = 8 * (physical * dtypeElementSize dtype) := by
  subst h
  cases isFp4 with
  | false =>
    show physical * 8 = 8 * (physical * 1)
    ring
  | true =>
    show physical * 2 * 4 = 8 * (physical * 1)
    ring

theorem MqaChecked.mqaFormat (h : MqaChecked params) : MqaFormat params := by
  have hformat := h.format
  unfold requireMqaFormat at hformat
  cases hfp4 : params.hasQScale with
  | false =>
    simp only [hfp4, Bool.false_eq_true, if_false, bind_eq_ok, requireDtype_eq_ok, exists_const] at hformat
    obtain ⟨hq, hkv, hscale⟩ := hformat
    refine ⟨headDim_bits ?_, hkv.trans hq.symm, .inl hscale, fun hfp4' => ?_⟩
    · rw [hfp4]
      exact hq
    · rw [hfp4] at hfp4'
      cases hfp4'
  | true =>
    simp only [hfp4, if_true, bind_eq_ok, requireDtype_eq_ok, throwIf_eq_ok, exists_const, not_or, not_not] at hformat
    obtain ⟨hq, hkv, _, hqScale, hqsd, hshape, hscale⟩ := hformat
    refine ⟨headDim_bits ?_, hkv.trans hq.symm, .inr hscale, fun _ => ⟨hqsd, hqScale, hshape⟩⟩
    rw [hfp4]
    exact hq

/-- The map of the queries, rows of heads. -/
theorem MqaChecked.q_reach (h : MqaChecked params)
    (hd : map.Describes params.q.data params.q.dtype params.args.headDim (params.args.seqLen * params.args.numHeads)
      (params.q.shape 2)) : map.reach = elements params.q 3 := by
  refine reach_contiguous h.q hd h.mqaFormat.row (shape_pos_of_requireContiguous h.q 2 (by decide)) ?_
  have hprod : ∏ i : Fin (3 : Fin 5), (params.q.shape (i.castLE (3 : Fin 5).is_le)).val =
      params.q.shape 0 * params.q.shape 1 * params.q.shape 2 := Fin.prod_univ_three _
  rw [hprod]
  rfl

theorem MqaChecked.kv_reach (h : MqaChecked params)
    (hd : map.Describes params.kv.data params.kv.dtype params.args.headDim params.args.seqLenKv (params.kv.stride 0)) :
    map.reach = elements params.kv 2 := by
  have hkv := strides_of_requireContiguousLoop 0 (by decide) (loop_of_requireContiguous h.kv)
  refine reach_matrix hd hkv.1 ?_ rfl rfl
  rw [h.mqaFormat.kv, h.mqaFormat.row, h.kvWidth]
  ring

theorem MqaChecked.kvScale_rows (h : MqaChecked params) : IsScaleRows params.kvScale 1 params.args.seqLenKv 1 := by
  have hrows := isScaleRows_vector h.kvScale h.mqaFormat.kvScale.size
  rwa [h.kvScaleLen] at hrows

theorem MqaChecked.seqLenKv_pos (h : MqaChecked params) : 0 < params.args.seqLenKv :=
  shape_pos_of_requireContiguous h.kv 0 (by decide)

theorem WeightsChecked.reach {weights : RawTensor} {rows heads : Int} (h : WeightsChecked weights rows heads)
    (hd : map.Describes weights.data weights.dtype heads rows (weights.stride 0)) : map.reach = elements weights 2 := by
  refine reach_matrix hd h.stride ?_ h.rows.symm rfl
  rw [h.heads]
  rcases h.dtype with e | e <;> rw [e] <;> rfl

section

variable {device : DeviceInfo} {d : MqaDispatch} {launch : Launch} {numSms : Int} {pdl : Bool}

theorem kvScale_reach {aligned64 aligned : Int} {name : String} (hd : dispatchMqaLogits device params = .ok d)
    (haligned64 : getTmaAlignedSize .machine params.args.seqLenKv (dtypeElementSize params.kvScale.dtype) = .ok aligned64)
    (haligned : asI32 aligned64 name = .ok aligned)
    (h : makeTma2dDesc .machine params.kvScale.data params.kvScale.dtype aligned 1 params.args.blockKv 1 0 0 {} =
      .ok map) : map.reach = unitsOf params.kvScale 1 := by
  obtain ⟨hc, -⟩ := dispatchMqaLogits_eq_ok.mp hd
  have hscale := hc.mqaFormat.kvScale
  have hextent := Extent.of_asI32 haligned
  obtain ⟨-, rfl⟩ := asI32_eq_ok.mp haligned
  rw [kvScale_aligned (mqaValid hd).inRange hscale.size] at haligned64
  cases haligned64
  exact hc.kvScale_rows.reach_eq hc.seqLenKv_pos (describes_of_machine hextent Extent.one (by decide) rfl h) hscale
    (.inl rfl)

theorem weights_reach {rows heads stride smemInner smemOuter : Int} {weights : RawTensor} {name : String}
    (hw : WeightsChecked weights rows heads) (hrows : Extent rows) (hheads : Extent heads)
    (hstride : asI32 (weights.stride 0) name = .ok stride)
    (h : makeTma2dDesc .machine weights.data weights.dtype heads rows smemInner smemOuter stride 0 {} = .ok map) :
    map.reach = elements weights 2 := by
  have hextent := Extent.of_asI32 hstride
  obtain ⟨-, rfl⟩ := asI32_eq_ok.mp hstride
  exact hw.reach (describes_of_machine hheads hrows hextent rfl h)

theorem launchSm90Fp8MqaLogits_reach (hd : dispatchMqaLogits device params = .ok d) (hfp8 : params.hasQScale = false)
    (hl : launchSm90Fp8MqaLogits .machine params params.args numSms pdl = .ok launch) :
    launch.tensorMaps.map TensorMap.reach = [elements params.q 3, elements params.kv 2, unitsOf params.kvScale 1,
      elements params.weights 2] := by
  obtain ⟨hc, -⟩ := dispatchMqaLogits_eq_ok.mp hd
  have hr := (mqaValid hd).inRange
  have hdim : Extent params.args.headDim := hr.dimExtent
  have hwidth : params.args.headDim = params.q.shape 2 := by
    show headDimOf params.hasQScale _ = _
    rw [hfp8]
    rfl
  have hkvStride : params.args.headDim = params.kv.stride 0 := by
    have hkv := strides_of_requireContiguousLoop 0 (by decide) (loop_of_requireContiguous hc.kv)
    exact hwidth.trans (hkv.2.trans hc.kvWidth).symm
  simp only [launchSm90Fp8MqaLogits, bind_eq_ok, Arith.machine_mul, IntType.mul_eq_ok] at hl
  obtain ⟨_, ⟨houter, rfl⟩, _, -, mapQ, hq, mapKv, hkv, _, haligned64, _, haligned, mapScales, hscales, _, hstride,
    mapWeights, hweights, _, -, _, -, _, -, _, -, _, -, _, -, hl⟩ := hl
  have hrows : Extent (params.args.seqLen * params.args.numHeads) := ⟨Int.mul_nonneg hr.seqLen.1 hr.heads.1, houter.2⟩
  have hqDesc := describes_of_machine hdim hrows hdim rfl hq
  have hkvDesc := describes_of_machine hdim hr.seqLenKv hdim rfl hkv
  rw [Launch.tensorMaps, (launchKernel_ok hl).2.1]
  simp only [List.filterMap_cons, List.filterMap_nil, KernelArg.asTensorMap, List.map_cons, List.map_nil]
  rw [hc.q_reach (hwidth ▸ hqDesc), hc.kv_reach (hkvStride ▸ hkvDesc), kvScale_reach hd haligned64 haligned hscales,
    weights_reach hc.weights hr.seqLen hr.heads hstride hweights]

/-- The maps on SM100. Without FP4 the place of the scales of `q` takes those of `kv`. -/
theorem sm100MqaMaps_reach {maps : Sm100Maps} (hd : dispatchMqaLogits device params = .ok d)
    (hm : sm100MqaMaps .machine params params.hasQScale params.args = .ok maps) :
    maps.q.reach = elements params.q 3 ∧
      maps.sfQ.reach = (if params.hasQScale then elements params.qScale 2 else unitsOf params.kvScale 1) ∧
      maps.kv.reach = elements params.kv 2 ∧ maps.sfKv.reach = unitsOf params.kvScale 1 := by
  obtain ⟨hc, -⟩ := dispatchMqaLogits_eq_ok.mp hd
  have hr := (mqaValid hd).inRange
  have hq := strides_of_requireContiguousLoop 1 (by decide) (loop_of_requireContiguous hc.q)
  have hqStride : (params.q.stride 1).val = params.q.shape 2 := hq.2
  -- the maps that both formats make
  have hqMap : ∀ {outer stride smemOuter swizzle : Int} {options : TmaOptions} {map : TensorMap},
      i32.Has (params.args.seqLen * params.args.numHeads) ∧ params.args.seqLen * params.args.numHeads = outer →
      asI32 (params.q.stride 1) "q stride(1)" = .ok stride → options.allowTf32 = false →
      makeTma2dDesc .machine params.q.data params.q.dtype params.args.headDim outer params.args.headDim smemOuter stride
        swizzle options = .ok map → map.reach = elements params.q 3 := by
    intro outer stride _ _ _ _ houter hstride htf32 h
    obtain ⟨houter, rfl⟩ := houter
    have hextent := Extent.of_asI32 hstride
    obtain ⟨-, rfl⟩ := asI32_eq_ok.mp hstride
    have hrows : Extent (params.args.seqLen * params.args.numHeads) := ⟨Int.mul_nonneg hr.seqLen.1 hr.heads.1, houter.2⟩
    exact hc.q_reach (hqStride ▸ describes_of_machine hr.dimExtent hrows hextent htf32 h)
  have hkvMap : ∀ {stride smemOuter swizzle : Int} {options : TmaOptions} {map : TensorMap},
      asI32 (params.kv.stride 0) "kv stride(0)" = .ok stride → options.allowTf32 = false →
      makeTma2dDesc .machine params.kv.data params.kv.dtype params.args.headDim params.args.seqLenKv params.args.headDim
        smemOuter stride swizzle options = .ok map → map.reach = elements params.kv 2 := by
    intro stride _ _ _ _ hstride htf32 h
    have hextent := Extent.of_asI32 hstride
    obtain ⟨-, rfl⟩ := asI32_eq_ok.mp hstride
    exact hc.kv_reach (describes_of_machine hr.dimExtent hr.seqLenKv hextent htf32 h)
  have hkvScale : ∀ {map : TensorMap}, sm100KvScaleMap .machine params params.args = .ok map →
      map.reach = unitsOf params.kvScale 1 := by
    intro map h
    simp only [sm100KvScaleMap, bind_eq_ok] at h
    obtain ⟨_, haligned64, _, haligned, h⟩ := h
    exact kvScale_reach hd haligned64 haligned h
  unfold sm100MqaMaps at hm
  cases hfp4 : params.hasQScale with
  | false =>
    simp only [hfp4, Bool.false_eq_true, if_false, bind_eq_ok, Arith.machine_mul, IntType.mul_eq_ok, Except.ok.injEq] at hm
    obtain ⟨_, houter, _, -, _, hqs, mapQ, hq, _, hkvs, mapKv, hkv, mapSf, hsf, rfl⟩ := hm
    exact ⟨hqMap houter hqs rfl hq, hkvScale hsf, hkvMap hkvs rfl hkv, hkvScale hsf⟩
  | true =>
    obtain ⟨hscale, hcontiguous, hseq, hheads⟩ := hc.mqaFormat.qScale hfp4
    simp only [hfp4, if_true, bind_eq_ok, Arith.machine_mul, IntType.mul_eq_ok, Except.ok.injEq] at hm
    obtain ⟨_, houter, _, -, _, hqs, _, -, mapQ, hq, _, hsfStride, mapSfQ, hsfQ, _, hkvs, mapKv, hkv, mapSf, hsf, rfl⟩ := hm
    refine ⟨hqMap houter hqs rfl hq, ?_, hkvMap hkvs rfl hkv, hkvScale hsf⟩
    have hextent := Extent.of_asI32 hsfStride
    obtain ⟨-, rfl⟩ := asI32_eq_ok.mp hsfStride
    have hunit := strides_of_requireContiguousLoop 0 (by decide) (loop_of_requireContiguous hcontiguous)
    refine reach_matrix (describes_of_machine hr.heads hr.seqLen hextent rfl hsfQ) hunit.1 ?_ hseq.symm rfl
    rw [hheads, hscale]
    rfl

theorem launchSm100MqaLogits_reach (hd : dispatchMqaLogits device params = .ok d)
    (hl : launchSm100MqaLogits .machine params params.hasQScale params.args numSms pdl = .ok launch) :
    launch.tensorMaps.map TensorMap.reach = [elements params.q 3,
      if params.hasQScale then elements params.qScale 2 else unitsOf params.kvScale 1, elements params.kv 2,
      unitsOf params.kvScale 1, elements params.weights 2] := by
  obtain ⟨hc, -⟩ := dispatchMqaLogits_eq_ok.mp hd
  have hr := (mqaValid hd).inRange
  simp only [launchSm100MqaLogits, bind_eq_ok] at hl
  obtain ⟨maps, hmaps, _, hstride, mapWeights, hweights, _, -, _, -, _, -, _, -, hl⟩ := hl
  obtain ⟨hq, hsfQ, hkv, hsfKv⟩ := sm100MqaMaps_reach hd hmaps
  rw [Launch.tensorMaps, (launchKernel_ok hl).2.1]
  simp only [List.filterMap_cons, List.filterMap_nil, KernelArg.asTensorMap, List.map_cons, List.map_nil]
  rw [hq, hsfQ, hkv, hsfKv, weights_reach hc.weights hr.seqLen hr.heads hstride hweights]

/-- The maps of the MQA kernel. -/
theorem mainLaunch_reach (hd : dispatchMqaLogits device params = .ok d)
    (hl : mainLaunch params numSms pdl d = .ok launch) :
    launch.tensorMaps.map TensorMap.reach = params.regions device.major := by
  obtain ⟨-, hselect⟩ := dispatchMqaLogits_eq_ok.mp hd
  rcases selectMqa_eq_ok.mp hselect with ⟨hmajor, hfp8, -, -, rfl⟩ | ⟨hmajor, -, -, rfl⟩
  · rw [MqaLogitsParams.regions, if_pos hmajor]
    exact launchSm90Fp8MqaLogits_reach hd hfp8 hl
  · rw [MqaLogitsParams.regions, if_neg (by omega)]
    exact launchSm100MqaLogits_reach hd hl

/-- The kernel that cleans the logits has no map. -/
theorem launchCleanIfAsked_reach {args : MqaArgs} {first : Launch} {launches : List Launch}
    (h : launchCleanIfAsked .machine params args numSms pdl first = .ok launches) :
    launches.map (fun launch => launch.tensorMaps.map TensorMap.reach) =
      first.tensorMaps.map TensorMap.reach :: if params.cleanLogits then [[]] else [] := by
  unfold launchCleanIfAsked at h
  split at h
  · next hclean =>
    simp only [launchCleanLogits, bind_eq_ok, Except.ok.injEq] at h
    obtain ⟨clean, ⟨_, -, _, -, _, -, _, -, _, -, hl⟩, rfl⟩ := h
    have hnone : clean.tensorMaps = [] := by
      rw [Launch.tensorMaps, (launchKernel_ok hl).2.1]
      rfl
    rw [if_pos hclean, List.map_cons, List.map_singleton, hnone, List.map_nil]
  · next hclean =>
    cases h
    rw [if_neg hclean, List.map_singleton]

end

end

/-! ## `launch_fp8_fp4_paged_mqa_logits` -/

namespace MapsPages

variable {data : Ptr} {l : Pages.Layout} {maps : CacheMaps} (h : MapsPages data l maps)
include h

theorem kv_reach : maps.kv.reach = {8 * (data : Int)} + (steps l.pages l.page + Ico 0 l.data) := by
  obtain ⟨row, page, hstrides, hrow, hpage⟩ := h.kvStrides
  rw [reach_eq h.kvDims (by rw [hstrides]; rfl) (h.kvBits ▸ l.width_pos), hstrides, h.kvData, h.kvBits]
  simp only [List.zipWith_cons_cons, List.zipWith_nil_left, List.sum_cons, List.sum_nil, add_zero, hrow, hpage]
  rw [add_comm (steps l.rows l.row), add_assoc]
  exact congrArg (fun S => _ + (_ + S)) (steps_add_Ico l.row_pos)

theorem kvScales_reach : maps.kvScales.reach = {8 * (data : Int)} + (steps l.pages l.page + Ico l.data l.page) := by
  obtain ⟨page, hstrides, hpage⟩ := h.scaleStrides
  rw [reach_eq h.scaleDims (by rw [hstrides]; rfl) (h.scaleBits ▸ l.word_pos), hstrides, h.scaleData, h.scaleBits]
  simp only [List.zipWith_cons_cons, List.zipWith_nil_left, List.sum_cons, List.sum_nil, add_zero, hpage]
  rw [← singleton_add_singleton, add_assoc, add_left_comm ({l.data} : Set Int), shift_Ico]
  rfl

end MapsPages

namespace PagedMqaLogitsParams

/-- The data of the tokens, page by page. -/
def cacheData (params : PagedMqaLogitsParams) : Set Int :=
  {8 * (params.fusedKvCache.data : Int)} + (steps (params.fusedKvCache.shape 0) (8 * (params.fusedKvCache.stride 0).val) +
    Ico 0 (8 * ((params.fusedKvCache.shape 1).val * params.kvBytes)))

/-- The scales of the tokens, page by page. -/
def cacheScales (params : PagedMqaLogitsParams) : Set Int :=
  {8 * (params.fusedKvCache.data : Int)} + (steps (params.fusedKvCache.shape 0) (8 * (params.fusedKvCache.stride 0).val) +
    Ico (8 * ((params.fusedKvCache.shape 1).val * params.kvBytes)) (8 * (params.fusedKvCache.stride 0).val))

def regions (params : PagedMqaLogitsParams) (major : Int) : List (Set Int) :=
  let q := elements params.q 4
  let weights := elements params.weights 2
  if major = 9 then [q, params.cacheData, params.cacheScales, weights]
  else [q, if params.hasQScale then elements params.qScale 3 else params.cacheScales, params.cacheData,
    params.cacheScales, weights]

end PagedMqaLogitsParams

section

variable {params : PagedMqaLogitsParams} {device : DeviceInfo} {d : PagedMqaDispatch} {launch : Launch} {pdl : Bool}
  {map : TensorMap}

namespace PagedMqaChecked

variable (h : PagedMqaChecked device params)
include h

/-- The pages of the cache are one after the other. -/
theorem elements_cache : elements params.fusedKvCache 4 = {8 * (params.fusedKvCache.data : Int)} +
    (steps (params.fusedKvCache.shape 0) (8 * (params.fusedKvCache.stride 0).val) +
      Ico 0 (8 * (params.fusedKvCache.stride 0).val)) := by
  obtain ⟨-, hdtype, hpos, -, ⟨h2, h3⟩, -, ⟨hs0, hs1, hs2, hs3⟩, -⟩ :=
    (requireFusedKvCache_eq_ok h.kvBytes_pos.le).mp h.fusedKvCache
  have hbytes : 0 < params.kvBytes := h.kvBytes_pos
  change (params.fusedKvCache.shape 3).val = params.kvBytes + 4 at h3
  have hsum : ∑ i : Fin (4 : Fin 5), steps (params.fusedKvCache.shape (i.castLE (4 : Fin 5).is_le))
      (8 * dtypeElementSize params.fusedKvCache.dtype * params.fusedKvCache.stride (i.castLE (4 : Fin 5).is_le)) =
      steps (params.fusedKvCache.shape 0) (8 * dtypeElementSize params.fusedKvCache.dtype * params.fusedKvCache.stride 0) +
      steps (params.fusedKvCache.shape 1) (8 * dtypeElementSize params.fusedKvCache.dtype * params.fusedKvCache.stride 1) +
      steps (params.fusedKvCache.shape 2) (8 * dtypeElementSize params.fusedKvCache.dtype * params.fusedKvCache.stride 2) +
      steps (params.fusedKvCache.shape 3) (8 * dtypeElementSize params.fusedKvCache.dtype * params.fusedKvCache.stride 3) :=
    Fin.sum_univ_four _
  -- a token is its bytes, and a page its tokens
  have htoken : steps (params.kvBytes + 4) 8 + Ico 0 8 = Ico 0 (8 * (params.kvBytes + 4)) := by
    rw [steps_add_Ico (by decide), Int.mul_comm]
  have hpage : steps (params.fusedKvCache.shape 1) (8 * (params.kvBytes + 4)) + Ico 0 (8 * (params.kvBytes + 4)) =
      Ico 0 (8 * ((params.fusedKvCache.shape 1).val * (params.kvBytes + 4))) := by
    rw [steps_add_Ico (by omega)]
    ring_nf
  rw [elements, hsum, hdtype, show 8 * dtypeElementSize DTypeCode.u8 = 8 from rfl, h2, h3, hs0, hs1, hs2, hs3, steps_one,
    add_zero, Int.mul_one, add_assoc, add_assoc]
  exact congrArg (fun S => _ + (_ + S)) ((congrArg (_ + ·) htoken).trans hpage)

/-- The data and the scales are the cache, and have nothing in common. -/
theorem cache_parts : params.cacheData ∪ params.cacheScales = elements params.fusedKvCache 4 ∧
    params.cacheData ∩ params.cacheScales = ∅ := by
  obtain ⟨-, -, hpos, -, -, -, ⟨hs0, -⟩, -⟩ := (requireFusedKvCache_eq_ok h.kvBytes_pos.le).mp h.fusedKvCache
  have hrows := hpos 1
  have hbytes : 0 < params.kvBytes := h.kvBytes_pos
  have hdata : 0 ≤ 8 * ((params.fusedKvCache.shape 1).val * params.kvBytes) := by positivity
  have hwords : 0 ≤ 32 * (params.fusedKvCache.shape 1).val := by positivity
  have hpage : 8 * (params.fusedKvCache.stride 0).val =
      8 * ((params.fusedKvCache.shape 1).val * params.kvBytes) + 32 * (params.fusedKvCache.shape 1).val := by
    rw [hs0]
    show 8 * ((params.fusedKvCache.shape 1).val * (params.kvBytes + 4)) = _
    ring
  rw [h.elements_cache, PagedMqaLogitsParams.cacheData, PagedMqaLogitsParams.cacheScales, ← add_union, hpage,
    pages_union hdata hwords]
  exact ⟨rfl, pages_inter hdata hwords⟩

theorem mapsPages_reach {maps : CacheMaps} (hmaps : MapsPages params.fusedKvCache.data h.cacheLayout maps) :
    maps.kv.reach = params.cacheData ∧ maps.kvScales.reach = params.cacheScales := by
  rw [hmaps.kv_reach, hmaps.kvScales_reach, h.cacheLayout_page, h.cacheLayout_data]
  exact ⟨rfl, rfl⟩

theorem q_reach (hd : map.Describes params.q.data params.q.dtype params.args.headDim
      (params.args.batchSize * params.args.nextN * params.args.numHeads) (params.q.stride 2)) :
    map.reach = elements params.q 4 := by
  have hq := strides_of_requireContiguousLoop 2 (by decide) (loop_of_requireContiguous h.q)
  have hqStride : (params.q.stride 2).val = params.q.shape 3 := hq.2
  have hprod : ∏ i : Fin (4 : Fin 5), (params.q.shape (i.castLE (4 : Fin 5).is_le)).val =
      params.q.shape 0 * params.q.shape 1 * params.q.shape 2 * params.q.shape 3 := Fin.prod_univ_four _
  have hformat := h.format
  unfold requirePagedFormat at hformat
  refine reach_contiguous h.q hd ?_ (hqStride ▸ h.kvBytes_pos) ?_
  · rw [hqStride]
    refine headDim_bits ?_
    cases hfp4 : params.hasQScale with
    | false =>
      simp only [hfp4, Bool.false_eq_true, if_false, requireDtype_eq_ok] at hformat
      exact hformat
    | true =>
      simp only [hfp4, if_true, bind_eq_ok, requireDtype_eq_ok] at hformat
      obtain ⟨_, hq, -⟩ := hformat
      exact hq
  · rw [hprod, hqStride]
    rfl

/-- The maps of a launch, given those of the cache. -/
theorem sm90_reach (hfp8 : params.hasQScale = false)
    (hl : launchSm90Fp8PagedMqaLogits .exact params params.args pdl = .ok launch) :
    launch.tensorMaps.map TensorMap.reach =
      [elements params.q 4, params.cacheData, params.cacheScales, elements params.weights 2] := by
  obtain ⟨maps, ⟨hkvArg, hscalesArg⟩, hpages⟩ := sm90_mapsCache h hfp8 hl
  obtain ⟨hkvReach, hscalesReach⟩ := h.mapsPages_reach hpages
  simp only [launchSm90Fp8PagedMqaLogits, launchKernel, bind_eq_ok, asI32_eq_ok, Arith.exact_mul, Except.ok.injEq,
    exists_eq_left'] at hl
  obtain ⟨_, -, _, ⟨-, rfl⟩, mapQ, hq, mapKv, -, _, -, mapScales, -, _, ⟨-, rfl⟩, mapWeights, hweights, _, -, _, -, _, -,
    _, -, _, -, _, -, rfl⟩ := hl
  cases hkvArg
  cases hscalesArg
  show [mapQ.reach, maps.kv.reach, maps.kvScales.reach, mapWeights.reach] = _
  rw [h.q_reach (describes_of_exact rfl hq), hkvReach, hscalesReach, h.weights.reach (describes_of_exact rfl hweights)]

/-- The maps on SM100. Without FP4 the place of the scales of `q` takes those of the cache. -/
theorem sm100_reach (hl : launchSm100PagedMqaLogits .exact params params.hasQScale params.args pdl = .ok launch) :
    launch.tensorMaps.map TensorMap.reach = [elements params.q 4,
      if params.hasQScale then elements params.qScale 3 else params.cacheScales, params.cacheData, params.cacheScales,
      elements params.weights 2] := by
  obtain ⟨⟨mapKv, mapScales⟩, ⟨hkvArg, hscalesArg⟩, hpages⟩ := sm100_mapsCache h hl
  obtain ⟨hkvReach, hscalesReach⟩ := h.mapsPages_reach hpages
  simp only [launchSm100PagedMqaLogits, launchKernel, bind_eq_ok, asI32_eq_ok, Arith.exact_mul, Except.ok.injEq,
    exists_eq_left'] at hl
  obtain ⟨_, -, _, -, _, ⟨-, rfl⟩, maps, hmaps, _, -, _, -, _, ⟨-, rfl⟩, mapWeights, hweights, _, -, _, -,
    _, -, _, -, _, -, rfl⟩ := hl
  cases hkvArg
  cases hscalesArg
  have hweightsReach := h.weights.reach (describes_of_exact rfl hweights)
  show [maps.q.reach, (maps.sfQ.getD mapScales).reach, maps.kv.reach, mapScales.reach, mapWeights.reach] = _
  rw [hkvReach, hscalesReach, hweightsReach]
  unfold sm100PagedMaps at hmaps
  cases hfp4 : params.hasQScale with
  | false =>
    simp only [hfp4, Bool.false_eq_true, if_false, bind_eq_ok, asI32_eq_ok, Arith.exact_mul, Except.ok.injEq,
      exists_eq_left'] at hmaps
    obtain ⟨_, ⟨-, rfl⟩, mapQ, hq, mapKv, -, rfl⟩ := hmaps
    rw [h.q_reach (describes_of_exact rfl hq)]
    rw [Option.getD_none, hscalesReach]
    rfl
  | true =>
    have hformat := h.format
    simp only [requirePagedFormat, hfp4, if_true, bind_eq_ok, requireDtype_eq_ok, throwIf_eq_ok, exists_const, not_or,
      not_not] at hformat
    obtain ⟨-, _, hqScale, hqsd, hb, hn, hheads⟩ := hformat
    simp only [hfp4, if_true, bind_eq_ok, asI32_eq_ok, Arith.exact_mul, Except.ok.injEq, exists_eq_left'] at hmaps
    obtain ⟨_, ⟨-, rfl⟩, _, -, mapQ, hq, _, ⟨-, rfl⟩, mapSfQ, hsfQ, mapKv, -, rfl⟩ := hmaps
    have hstride := strides_of_requireContiguousLoop 1 (by decide) (loop_of_requireContiguous hqScale)
    have hrow : (params.qScale.stride 1).val = params.args.numHeads := hstride.2.trans hheads
    have hprod : ∏ i : Fin (3 : Fin 5), (params.qScale.shape (i.castLE (3 : Fin 5).is_le)).val =
        params.qScale.shape 0 * params.qScale.shape 1 * params.qScale.shape 2 := Fin.prod_univ_three _
    have hsfQReach : mapSfQ.reach = elements params.qScale 3 := by
      refine reach_contiguous hqScale (describes_of_exact rfl hsfQ) ?_ ?_ ?_
      · rw [hrow, hqsd]
        show _ * 32 = 8 * (_ * 4)
        ring
      · rw [hrow]
        exact shape_pos_of_requireContiguous h.q 2 (by decide)
      · rw [hprod, hb, hn, hheads, hrow]
        rfl
    rw [h.q_reach (describes_of_exact rfl hq), Option.getD_some, hsfQReach]
    rfl

end PagedMqaChecked

/-- The maps of the paged MQA kernel. -/
theorem launchPagedMqaLogits_reach (hd : dispatchPagedMqaLogits device params = .ok d)
    (hl : launchPagedMqaLogits .machine params pdl d = .ok launch) :
    launch.tensorMaps.map TensorMap.reach = params.regions device.major := by
  obtain ⟨hc, hselect⟩ := dispatchPagedMqaLogits_eq_ok.mp hd
  have hexact := launchPagedMqaLogits_exact (pagedValid hd) hl
  rcases selectPagedMqa_eq_ok.mp hselect with ⟨hmajor, hfp8, -, -, -, -, -, rfl⟩ | ⟨hmajor, -, -, -, -, rfl⟩
  · rw [PagedMqaLogitsParams.regions, if_pos hmajor]
    exact hc.sm90_reach hfp8 hexact
  · rw [PagedMqaLogitsParams.regions, if_neg (by omega)]
    exact hc.sm100_reach hexact

theorem launchPagedMqaLogitsMetadata_reach {params : PagedMqaLogitsMetadataParams} {d : MetadataDispatch}
    (hl : launchPagedMqaLogitsMetadata .machine params pdl d = .ok launch) : launch.tensorMaps = [] := by
  cases d with
  | sm90 batchSize nextN numSms isVarlen =>
    simp only [launchPagedMqaLogitsMetadata, launchSm90Metadata, bind_eq_ok] at hl
    obtain ⟨_, -, _, -, _, -, _, -, _, -, _, -, hl⟩ := hl
    rw [Launch.tensorMaps, (launchKernel_ok hl).2.1]
    rfl
  | sm100 batchSize nextN numSms isVarlen =>
    simp only [launchPagedMqaLogitsMetadata, launchSm100Metadata, bind_eq_ok] at hl
    obtain ⟨_, -, _, -, _, -, _, -, _, -, hl⟩ := hl
    rw [Launch.tensorMaps, (launchKernel_ok hl).2.1]
    rfl

end

/-! ## FP8 GEMM -/

namespace Gemm

section

variable {runtime : Runtime} {params : Fp8GemmNtParams} {launch : Launch} {map : TensorMap}

/-- The maps of an operand, of the output and of a scale. -/
theorem operandMap_reach {operand : RawTensor} {dims : GemmDims} {config : GemmConfig} {rows loadBlock swizzleMode : Int}
    {name : String} (h : operandMap operand rows dims config loadBlock swizzleMode name = .ok map)
    (hd : operand.dtype = DTypeCode.fp8E4M3) (hk : Extent dims.k) (hrows : Extent rows)
    (hshape : (operand.shape 0).val = rows ∧ (operand.shape 1).val = dims.k) (hunit : (operand.stride 1).val = 1) :
    map.reach = elements operand 2 := by
  simp only [operandMap, bind_eq_ok] at h
  obtain ⟨_, hstride, h⟩ := h
  have hextent := Extent.of_asI32 hstride
  obtain ⟨-, rfl⟩ := asI32_eq_ok.mp hstride
  refine reach_matrix (describes_of_machine hk hrows hextent rfl h) hunit ?_ hshape.1.symm rfl
  rw [hshape.2, hd]
  rfl

theorem outputMap_reach {dims : GemmDims} {config : GemmConfig} (h : outputMap params dims config = .ok map)
    (hd : params.d.dtype = DTypeCode.bf16) (hm : Extent dims.m) (hn : Extent dims.n)
    (hshape : (params.d.shape 0).val = dims.m ∧ (params.d.shape 1).val = dims.n) (hunit : (params.d.stride 1).val = 1) :
    map.reach = elements params.d 2 := by
  simp only [outputMap, bind_eq_ok] at h
  obtain ⟨_, hstride, h⟩ := h
  have hextent := Extent.of_asI32 hstride
  obtain ⟨-, rfl⟩ := asI32_eq_ok.mp hstride
  refine reach_matrix (describes_of_machine hn hm hextent rfl h) hunit ?_ hshape.1.symm rfl
  rw [hshape.2, hd]
  rfl

theorem scaleMap_reach {scale : RawTensor} {dtype : DTypeCode} {mn k granK divisor block : Int} {u : Unit}
    {name alignedName colsName strideName : String}
    (h : scaleMap scale mn k divisor block alignedName colsName strideName = .ok map)
    (hc : requireMnMajorScale scale mn k granK dtype name = .ok u) (hdtype : IsScale dtype) (hmn : Extent mn)
    (hk : Extent k) (hgran : 0 < granK ∧ granK ≤ i32.hi) (hdivisor : divisor = scaleDivisor granK dtype) (hpos : 0 < mn) :
    map.reach = unitsOf scale 2 := by
  obtain ⟨-, rfl, hrows, hcols, hs0, hs1⟩ := (requireMnMajorScale_eq_ok hmn hk hgran hdtype).mp hc
  simp only [scaleMap, bind_eq_ok] at h
  obtain ⟨_, haligned, _, hblocks, _, hcolsInt, _, hstride, h⟩ := h
  obtain ⟨rfl, haligned0⟩ := tmaAlignedMn_ok hdtype haligned
  obtain ⟨rfl, -⟩ := tmaAlignedMn_ok hdtype hstride
  obtain ⟨-, -, rfl⟩ := ceilDivI64_ok hblocks
  have hcolsExtent := Extent.of_asI32 hcolsInt
  obtain ⟨-, rfl⟩ := asI32_eq_ok.mp hcolsInt
  have haligned : Extent (alignUp mn 4) := ⟨hpos.le.trans (le_alignUp (by decide)), haligned0⟩
  have hscale := isScaleRows_matrix hs0 (by rw [hs1, hrows]) hdtype.size
  rw [hrows, hcols, ← hdivisor] at hscale
  exact hscale.reach_eq hpos (describes_of_machine haligned hcolsExtent haligned rfl h) hdtype (.inr rfl)

/-- The tensors of the maps, in the order of the kernel's arguments. -/
def Fp8GemmNtParams.regions (params : Fp8GemmNtParams) (major : Int) : List (Set Int) :=
  let a := elements params.a 2
  let b := elements params.b 2
  let d := elements params.d 2
  let aScale := unitsOf params.aScale 2
  let bScale := unitsOf params.bScale 2
  if major = 9 then [a, b, d, aScale] else [a, b, aScale, bScale, d]

/-- The checks of the scales of a dispatch. -/
def GemmDispatch.ChecksScales (params : Fp8GemmNtParams) (device : DeviceInfo) : GemmDispatch → Prop
  | sm90 dims _ config => device.major = 9 ∧ config.layout.blockK = 128 ∧
      requireMnMajorScale params.aScale dims.m dims.k 128 DTypeCode.f32 "a_scale" = .ok ()
  | sm100 dims _ _ => device.major = 10 ∧
      requireMnMajorScale params.aScale dims.m dims.k 128 DTypeCode.packedUe8M0 "a_scale" = .ok () ∧
      requireMnMajorScale params.bScale dims.n dims.k 128 DTypeCode.packedUe8M0 "b_scale" = .ok ()

theorem dispatch_checks {device : DeviceInfo} {d : GemmDispatch} (hdevice : runtime.currentDeviceInfo = .ok device)
    (h : dispatchFp8GemmNt runtime params = .ok d) :
    validateCommonGemmNt params = .ok d.dims ∧ (Extent d.dims.m ∧ Extent d.dims.n ∧ Extent d.dims.k) ∧
      d.ChecksScales params device := by
  simp only [dispatchFp8GemmNt, bind_eq_ok, asI32_eq_ok, hdevice, Except.ok.injEq, exists_eq_left'] at h
  obtain ⟨dims, hdims, _, ⟨hm, rfl⟩, _, ⟨hn, rfl⟩, _, ⟨hk, rfl⟩, numSms, -, h⟩ := h
  split at h
  · next hmajor =>
    simp only [checkSm90Scales, bind_eq_ok, Except.ok.injEq] at h
    obtain ⟨config, hconfig, _, ⟨_, hscale, -⟩, rfl⟩ := h
    have hblock := (sm90BestConfig_layout hconfig).1.blockK
    rw [hblock] at hscale
    exact ⟨hdims, ⟨hm, hn, hk⟩, hmajor, hblock, hscale⟩
  · split at h
    · next hmajor =>
      simp only [checkSm100Scales, bind_eq_ok, Except.ok.injEq] at h
      obtain ⟨config, -, _, ⟨_, hscale, hscaleB⟩, rfl⟩ := h
      exact ⟨hdims, ⟨hm, hn, hk⟩, hmajor, hscale, hscaleB⟩
    · cases h

/-- The matrices that pass the common checks. -/
structure GemmMatrices (params : Fp8GemmNtParams) (dims : GemmDims) : Prop where
  a : params.a.dtype = DTypeCode.fp8E4M3 ∧ ((params.a.shape 0).val = dims.m ∧ (params.a.shape 1).val = dims.k) ∧
    (params.a.stride 1).val = 1
  b : params.b.dtype = DTypeCode.fp8E4M3 ∧ ((params.b.shape 0).val = dims.n ∧ (params.b.shape 1).val = dims.k) ∧
    (params.b.stride 1).val = 1
  d : params.d.dtype = DTypeCode.bf16 ∧ ((params.d.shape 0).val = dims.m ∧ (params.d.shape 1).val = dims.n) ∧
    (params.d.stride 1).val = 1
  pos : 0 < dims.m ∧ 0 < dims.n ∧ 0 < dims.k

theorem validateCommonGemmNt_matrices {dims : GemmDims} (h : validateCommonGemmNt params = .ok dims) :
    GemmMatrices params dims := by
  simp only [validateCommonGemmNt, bind_eq_ok, requireContiguous2D_eq_ok, throwIf_eq_ok, requireShape2D_eq_ok,
    exists_const, not_not, Except.ok.injEq] at h
  obtain ⟨⟨-, hda, ⟨hm, hk⟩, -, hua⟩, ⟨-, hdb, ⟨hn, -⟩, -, hub⟩, ⟨-, hdd, -, -, hud⟩, hbk, hdshape, -, rfl⟩ := h
  exact ⟨⟨hda, ⟨rfl, rfl⟩, hua⟩, ⟨hdb, ⟨rfl, hbk⟩, hub⟩, ⟨hdd, hdshape, hud⟩, hm, hn, hk⟩

/-- The maps of a GEMM. -/
theorem launchFp8GemmNt_reach {device : DeviceInfo} (hdevice : runtime.currentDeviceInfo = .ok device)
    (h : launchFp8GemmNt runtime params = .ok launch) :
    launch.tensorMaps.map TensorMap.reach = params.regions device.major := by
  obtain ⟨d, hd, h⟩ := bind_eq_ok.mp h
  obtain ⟨hcommon, ⟨hm, hn, hk⟩, hscales⟩ := dispatch_checks hdevice hd
  obtain ⟨⟨hda, hashape, hua⟩, ⟨hdb, hbshape, hub⟩, ⟨hdd, hdshape, hud⟩, hpos⟩ := validateCommonGemmNt_matrices hcommon
  cases d with
  | sm90 dims numSms config =>
    obtain ⟨hmajor, hblock, hscale⟩ := hscales
    simp only [launchGemmNt, launchSm90Fp8GemmNt, bind_eq_ok, hblock] at h
    obtain ⟨mapA, ha, mapB, hb, mapD, hmapD, mapSfa, hsfa, h⟩ := h
    rw [Launch.tensorMaps, (launchKernel_ok h).2.1, Fp8GemmNtParams.regions, if_pos hmajor]
    simp only [List.filterMap_cons, List.filterMap_nil, KernelArg.asTensorMap, List.map_cons, List.map_nil]
    rw [operandMap_reach ha hda hk hm hashape hua, operandMap_reach hb hdb hk hn hbshape hub,
      outputMap_reach hmapD hdd hm hn hdshape hud,
      scaleMap_reach hsfa hscale (.inl rfl) hm hk (by decide) (by decide) hpos.1]
  | sm100 dims numSms config =>
    obtain ⟨hmajor, hscale, hscaleB⟩ := hscales
    simp only [launchGemmNt, launchSm100Fp8GemmNt, bind_eq_ok] at h
    obtain ⟨mapA, ha, mapB, hb, mapSfa, hsfa, mapSfb, hsfb, mapCd, hcd, h⟩ := h
    rw [Launch.tensorMaps, (launchKernel_ok h).2.1, Fp8GemmNtParams.regions, if_neg (by omega)]
    simp only [List.filterMap_cons, List.filterMap_nil, KernelArg.asTensorMap, List.map_cons, List.map_nil]
    rw [operandMap_reach ha hda hk hm hashape hua, operandMap_reach hb hdb hk hn hbshape hub,
      scaleMap_reach hsfa hscale (.inr rfl) hm hk (by decide) (by decide) hpos.1,
      scaleMap_reach hsfb hscaleB (.inr rfl) hn hk (by decide) (by decide) hpos.2.1,
      outputMap_reach hcd hdd hm hn hdshape hud]

theorem launchFp8GemmTransformScale_maps {params : Fp8GemmScaleTransformParams}
    (h : launchFp8GemmTransformScale runtime params = .ok launch) : launch.tensorMaps = [] := by
  obtain ⟨sfK, -, h⟩ := bind_eq_ok.mp h
  split at h
  · simp only [launchBroadcast, bind_eq_ok] at h
    obtain ⟨_, -, _, -, _, -, h⟩ := h
    split at h
    · simp only [bind_eq_ok] at h
      obtain ⟨_, -, _, -, _, -, h⟩ := h
      rw [Launch.tensorMaps, (launchKernel_ok h).2.1]
      rfl
    · simp only [bind_eq_ok] at h
      obtain ⟨_, -, _, -, _, -, _, -, h⟩ := h
      rw [Launch.tensorMaps, (launchKernel_ok h).2.1]
      rfl
  · split at h
    · simp only [launchTranspose, bind_eq_ok] at h
      obtain ⟨_, -, _, -, _, -, _, -, _, -, _, -, _, -, _, -, h⟩ := h
      rw [Launch.tensorMaps, (launchKernel_ok h).2.1]
      rfl
    · simp only [launchTransposeAndPack, bind_eq_ok] at h
      obtain ⟨_, -, _, -, _, -, _, -, _, -, _, -, h⟩ := h
      rw [Launch.tensorMaps, (launchKernel_ok h).2.1]
      rfl

end

end Gemm

/-! ## Requests -/

/-- The tensors of the maps of each launch. -/
def Request.regions (major : Int) : Request → List (List (Set Int))
  | .mqaLogits (some params) => params.regions major :: if params.cleanLogits then [[]] else []
  | .pagedMqaLogits (some params) => [params.regions major]
  | .gemmNt (some params) => [params.regions major]
  | .pagedMetadata (some _) | .transformScale (some _) => [[]]
  | .mqaLogits none | .pagedMqaLogits none | .gemmNt none | .pagedMetadata none | .transformScale none => []

/-- The scales that are mapped, with their rank. -/
def Request.scales (major : Int) : Request → List (RawTensor × Fin 5)
  | .mqaLogits (some params) => [(params.kvScale, 1)]
  | .gemmNt (some params) => if major = 9 then [(params.aScale, 2)] else [(params.aScale, 2), (params.bScale, 2)]
  | _ => []

section

variable {runtime : Runtime} {request : Request} {device : DeviceInfo} {launches : List Launch}

theorem launches_reach (hdevice : runtime.currentDeviceInfo = .ok device) (h : request.launches runtime = .ok launches) :
    launches.map (fun launch => launch.tensorMaps.map TensorMap.reach) = request.regions device.major := by
  cases request with
  | mqaLogits params =>
    simp only [Request.launches, bind_eq_ok, launchFp8Fp4MqaLogits_eq_ok] at h
    obtain ⟨params', hparams, device', dispatch, numSms, first, hdevice', hd, -, hfirst, hclean⟩ := h
    cases params with
    | none => cases hparams
    | some params =>
      cases hparams
      cases hdevice.symm.trans hdevice'
      rw [launchCleanIfAsked_reach hclean, mainLaunch_reach hd hfirst]
      rfl
  | pagedMetadata params =>
    simp only [Request.launches, bind_eq_ok, Except.ok.injEq] at h
    obtain ⟨params', hparams, _, -, dispatch, -, launch, hl, rfl⟩ := h
    cases params with
    | none => cases hparams
    | some params => rw [List.map_singleton, launchPagedMqaLogitsMetadata_reach hl]; rfl
  | pagedMqaLogits params =>
    simp only [Request.launches, bind_eq_ok, Except.ok.injEq] at h
    obtain ⟨params', hparams, device', hdevice', dispatch, hd, launch, hl, rfl⟩ := h
    cases params with
    | none => cases hparams
    | some params =>
      cases hparams
      cases hdevice.symm.trans hdevice'
      rw [List.map_singleton, launchPagedMqaLogits_reach hd hl]
      rfl
  | transformScale params =>
    simp only [Request.launches, bind_eq_ok, Except.ok.injEq] at h
    obtain ⟨params', hparams, launch, hl, rfl⟩ := h
    cases params with
    | none => cases hparams
    | some params => rw [List.map_singleton, Gemm.launchFp8GemmTransformScale_maps hl]; rfl
  | gemmNt params =>
    simp only [Request.launches, bind_eq_ok, Except.ok.injEq] at h
    obtain ⟨params', hparams, launch, hl, rfl⟩ := h
    cases params with
    | none => cases hparams
    | some params =>
      cases hparams
      rw [List.map_singleton, Gemm.launchFp8GemmNt_reach hdevice hl]
      rfl

/-- A checked scale of a GEMM. -/
theorem scale_units_iff {scale : RawTensor} {dtype : DTypeCode} {mn k : Int} {name : String} {u : Unit}
    (hc : Gemm.requireMnMajorScale scale mn k 128 dtype name = .ok u) (hdtype : Gemm.IsScale dtype) (hmn : Extent mn)
    (hk : Extent k) (hpos : 0 < mn ∧ 0 < k) :
    unitsOf scale 2 = elements scale 2 ↔ 4 ∣ (scale.shape 0).val := by
  obtain ⟨-, rfl, hrows, hcols, hs0, hs1⟩ := (Gemm.requireMnMajorScale_eq_ok hmn hk (by decide) hdtype).mp hc
  have hdivisor := Gemm.scaleDivisor_bounds (show (0 : Int) < 128 by decide) scale.dtype
  have hcolsPos : 0 < (scale.shape 1).val := by
    rw [hcols]
    exact ceilDiv_pos (by omega) hpos.2
  exact (isScaleRows_matrix hs0 (by rw [hs1, hrows]) hdtype.size).unitsOf_eq_iff (hrows ▸ hpos.1) hcolsPos

theorem scales_units_iff (hdevice : runtime.currentDeviceInfo = .ok device) (h : request.launches runtime = .ok launches) :
    ∀ scale ∈ request.scales device.major,
      unitsOf scale.1 scale.2 = elements scale.1 scale.2 ↔ 4 ∣ (scale.1.shape 0).val := by
  intro scale hscale
  unfold Request.scales at hscale
  split at hscale
  · simp only [Request.launches, bind_eq_ok, launchFp8Fp4MqaLogits_eq_ok] at h
    obtain ⟨_, hparams, _, dispatch, _, _, -, hd, -⟩ := h
    cases hparams
    obtain ⟨hc, -⟩ := dispatchMqaLogits_eq_ok.mp hd
    rw [List.mem_singleton.mp hscale, hc.kvScaleLen]
    exact hc.kvScale_rows.unitsOf_eq_iff hc.seqLenKv_pos one_pos
  · simp only [Request.launches, bind_eq_ok, Except.ok.injEq] at h
    obtain ⟨_, hparams, launch, hl, -⟩ := h
    cases hparams
    obtain ⟨d, hd, -⟩ := bind_eq_ok.mp hl
    obtain ⟨hcommon, ⟨hm, hn, hk⟩, hscales⟩ := Gemm.dispatch_checks hdevice hd
    obtain ⟨hpm, hpn, hpk⟩ := (Gemm.validateCommonGemmNt_matrices hcommon).pos
    cases d with
    | sm90 dims numSms config =>
      obtain ⟨hmajor, -, hcheck⟩ := hscales
      rw [if_pos hmajor, List.mem_singleton] at hscale
      rw [hscale]
      exact scale_units_iff hcheck (.inl rfl) hm hk ⟨hpm, hpk⟩
    | sm100 dims numSms config =>
      obtain ⟨hmajor, hcheck, hcheckB⟩ := hscales
      rw [if_neg (by omega), List.mem_pair] at hscale
      rcases hscale with rfl | rfl
      · exact scale_units_iff hcheck (.inr rfl) hm hk ⟨hpm, hpk⟩
      · exact scale_units_iff hcheckB (.inr rfl) hn hk ⟨hpn, hpk⟩
  · cases hscale

/-- **Each tensor map of an accepted request reaches the elements of its tensor and nothing else**; the map of scales
reaches their 16-byte units, which are more than the scales unless their number is a multiple of four, and the two
maps of a cache share it. -/
theorem maps_reach (hdevice : runtime.currentDeviceInfo = .ok device) (h : request.launches runtime = .ok launches) :
    launches.map (fun launch => launch.tensorMaps.map TensorMap.reach) = request.regions device.major ∧
      (∀ scale ∈ request.scales device.major,
        unitsOf scale.1 scale.2 = elements scale.1 scale.2 ↔ 4 ∣ (scale.1.shape 0).val) ∧
      ∀ params, request = .pagedMqaLogits (some params) →
        params.cacheData ∪ params.cacheScales = elements params.fusedKvCache 4 ∧
          params.cacheData ∩ params.cacheScales = ∅ := by
  refine ⟨launches_reach hdevice h, scales_units_iff hdevice h, ?_⟩
  rintro params rfl
  simp only [Request.launches, bind_eq_ok, Except.ok.injEq] at h
  obtain ⟨_, hparams, _, -, dispatch, hd, -⟩ := h
  cases hparams
  obtain ⟨hc, -⟩ := dispatchPagedMqaLogits_eq_ok.mp hd
  exact hc.cache_parts

end

/-- The map of two scales reaches four. -/
theorem oneToken_reach : ∃ launches, Request.launches ⟨.ok h100, 0, false⟩ (.mqaLogits (some oneToken)) = .ok launches ∧
    launches.map (fun launch => launch.tensorMaps.map TensorMap.reach) = [[elements oneToken.q 3, elements oneToken.kv 2,
      unitsOf oneToken.kvScale 1, elements oneToken.weights 2]] ∧
    unitsOf oneToken.kvScale 1 ≠ elements oneToken.kvScale 1 := by
  obtain ⟨launches, h⟩ : ∃ launches,
      Request.launches ⟨.ok h100, 0, false⟩ (.mqaLogits (some oneToken)) = .ok launches := ⟨_, rfl⟩
  obtain ⟨hreach, hunits, -⟩ := maps_reach rfl h
  refine ⟨launches, h, hreach, ?_⟩
  rw [ne_eq, hunits (oneToken.kvScale, 1) (List.mem_singleton_self _)]
  decide

end DeepGemmRs.Raw
