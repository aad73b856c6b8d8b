import DeepGemmRs.CApi.Layout
import DeepGemmRs.Lib.Rounding

/-!
# What the layout helpers compute

The formulas of the five helpers over unbounded integers, and that the helpers compute them.

* `Admits`, `layout` of each parameter struct : when a helper succeeds, and its layout;
* `Settles` : a call fills the layout and clears the last error, or reports an argument error and
  leaves `out` as it was, or overflows;
* `mqaLogitsLayout_settles` and its siblings : one lemma for each helper;
* `exact_iff_not_overflows` : the two sums that can leave `int64_t`.
-/

namespace DeepGemmRs.CApi

open MachineInt Rounding Checked

/-! ## Formulas -/

/-- Rows of `allocationCols` elements, one after the other. -/
def rowMajor (dtype : DTypeCode) (logicalRows logicalCols allocationRows allocationCols : Int) :
    RawLayout2D where
  dtype
  logicalShape := ![logicalRows, logicalCols]
  allocationShape := ![allocationRows, allocationCols]
  stride := ![allocationCols, 1]
  elementCount := allocationRows * allocationCols

/-- Columns of `allocationCols` elements, one after the other: the allocation holds the transpose. -/
def mnMajor (dtype : DTypeCode) (logicalRows logicalCols allocationCols : Int) : RawLayout2D where
  dtype
  logicalShape := ![logicalRows, logicalCols]
  allocationShape := ![logicalCols, allocationCols]
  stride := ![1, allocationCols]
  elementCount := logicalCols * allocationCols

def IsLogits (dtype : DTypeCode) : Prop := dtype = DTypeCode.f32 ∨ dtype = DTypeCode.bf16

/-- The elements of 1024 bytes. -/
def rowAlignment (dtype : DTypeCode) : Int := 1024 / dtype.storageSize

/-- The row length of the logits, full-width or compressed. -/
def logitsStride (seqLenKv maxSeqlenK : Int) (dtype : DTypeCode) : Int :=
  if maxSeqlenK = 0 then alignUp (seqLenKv + 256) (rowAlignment dtype)
  else alignUp (alignUp maxSeqlenK 256) (rowAlignment dtype)

/-- The row length of the paged logits. -/
def pagedStride (maxContextLen : Int) (dtype : DTypeCode) : Int :=
  alignUp (alignUp maxContextLen 256) (rowAlignment dtype)

namespace MqaLogitsLayoutParams

variable (p : MqaLogitsLayoutParams)

def blockQ : Int := 128 / p.numHeads

def rows : Int := alignUp p.seqLen p.blockQ

def cols : Int := if p.maxSeqlenK.val = 0 then p.seqLenKv else p.maxSeqlenK

def rowStride : Int := logitsStride p.seqLenKv p.maxSeqlenK p.logitsDtype

def layout : RawLayout2D := rowMajor p.logitsDtype p.seqLen p.cols p.rows p.rowStride

/-- The checks before the first sum. -/
structure Checked : Prop where
  seqLen : 0 < p.seqLen.val
  seqLenKv : 0 < p.seqLenKv.val
  numHeads : 0 < p.numHeads.val
  maxSeqlenK : 0 ≤ p.maxSeqlenK.val
  divides : 128 % p.numHeads.val = 0
  dtype : IsLogits p.logitsDtype
  rows : p.rows ≤ i64.hi

structure Admits : Prop extends p.Checked where
  stride : p.rowStride ≤ i64.hi
  count : p.rows * p.rowStride ≤ u64.hi

/-- `seq_len_kv + block_kv` is reached and is no `int64_t`. -/
def Overflows : Prop := p.Checked ∧ p.maxSeqlenK.val = 0 ∧ i64.hi < p.seqLenKv + 256

end MqaLogitsLayoutParams

namespace PagedMqaLogitsLayoutParams

variable (p : PagedMqaLogitsLayoutParams)

def rows : Int := p.batchSize * p.nextN

def rowStride : Int := pagedStride p.maxContextLen p.logitsDtype

def layout : RawLayout2D := rowMajor p.logitsDtype p.rows p.maxContextLen p.rows p.rowStride

structure Admits : Prop where
  batchSize : 0 < p.batchSize.val
  nextN : 0 < p.nextN.val
  maxContextLen : 0 < p.maxContextLen.val
  dtype : IsLogits p.logitsDtype
  stride : p.rowStride ≤ i64.hi
  rows : p.rows ≤ i64.hi
  count : p.rows * p.rowStride ≤ u64.hi

end PagedMqaLogitsLayoutParams

namespace PagedMqaLogitsMetadataLayoutParams

variable (p : PagedMqaLogitsMetadataLayoutParams)

def layout : RawLayout2D := rowMajor DTypeCode.i32 (p.numSms + 1) 2 (p.numSms + 1) 2

def Admits : Prop := 0 < p.numSms.val ∧ p.numSms.val < i64.hi

end PagedMqaLogitsMetadataLayoutParams

namespace Fp8GemmNtOutputLayoutParams

variable (p : Fp8GemmNtOutputLayoutParams)

def layout : RawLayout2D := rowMajor p.outputDtype p.m p.n p.m p.n

structure Admits : Prop where
  m : 0 < p.m.val
  n : 0 < p.n.val
  dtype : p.outputDtype = DTypeCode.bf16
  count : p.m.val * p.n.val ≤ u64.hi

end Fp8GemmNtOutputLayoutParams

namespace Fp8GemmScaleLayoutParams

variable (p : Fp8GemmScaleLayoutParams)

def packedFactor : Int := if p.scaleDtype = DTypeCode.f32 then 1 else 4

/-- The elements of `k` that share one element of the layout. -/
def divisor : Int := p.granK * p.packedFactor

def cols : Int := p.k ⌈/⌉ p.divisor

def alignedMn : Int := alignUp p.mn (16 / p.scaleDtype.storageSize)

def layout : RawLayout2D := mnMajor p.scaleDtype p.mn p.cols p.alignedMn

/-- The checks before `ceil_div_i64`. -/
structure Checked : Prop where
  mn : 0 < p.mn.val
  k : 0 < p.k.val
  granK : 0 < p.granK.val
  dtype : p.scaleDtype = DTypeCode.f32 ∨ p.scaleDtype = DTypeCode.packedUe8M0
  divisor : p.divisor ≤ i64.hi

structure Admits : Prop extends p.Checked where
  sum : p.k + p.divisor - 1 ≤ i64.hi
  alignedMn : p.alignedMn ≤ i64.hi
  count : p.cols * p.alignedMn ≤ u64.hi

/-- `value + divisor` is reached in `ceil_div_i64` and is the first integer above `int64_t`. -/
def Overflows : Prop := p.Checked ∧ p.k + p.divisor = i64.hi + 1

end Fp8GemmScaleLayoutParams

/-! ## Outcomes of a call -/

/-- How a call ends, by when it overflows and when it succeeds. -/
structure Settles (overflows admits : Prop) (layout : RawLayout2D) (s : CallState)
    (r : Native (Status × CallState)) : Prop where
  overflow : overflows → r = .error .overflow
  success : ¬ overflows → admits → s.out ≠ none → r = .ok (.success, ⟨"", some layout⟩)
  refused : ¬ overflows → (admits → s.out = none) →
    ∃ message, message ≠ "" ∧ r = .ok (.invalidArgument, { s with lastError := message })

namespace Settles

variable {overflows admits c : Prop} {layout : RawLayout2D} {s : CallState}
  {r : Native (Status × CallState)} {message : String}

theorem refuse (ho : ¬ overflows) (ha : admits → s.out = none) (hm : message ≠ "") :
    Settles overflows admits layout s (setError .invalidArgument message s) where
  overflow h := absurd h ho
  success _ h hs := absurd (ha h) hs
  refused _ _ := ⟨message, hm, rfl⟩

theorem guard [Decidable c] (ho : c → ¬ overflows) (ha : c → ¬ admits) (hm : message ≠ "")
    (h : ¬ c → Settles overflows admits layout s r) :
    Settles overflows admits layout s (if c then setError .invalidArgument message s else r) := by
  by_cases hc : c
  · rw [if_pos hc]
    exact refuse (ho hc) (fun h => absurd h (ha hc)) hm
  · rw [if_neg hc]
    exact h hc

theorem overflowed (ho : overflows) : Settles overflows admits layout s (.error .overflow) where
  overflow _ := rfl
  success h := absurd ho h
  refused h := absurd ho h

theorem congr {overflows' admits' : Prop} {layout' : RawLayout2D}
    (h : Settles overflows' admits' layout' s r) (ho : overflows ↔ overflows')
    (ha : admits ↔ admits') (hl : layout = layout') : Settles overflows admits layout s r := by
  rw [ho, ha, hl]
  exact h

end Settles

/-! ## The guarded arithmetic is exact -/

theorem checkedMulU64_eq {left right : Int} (hl : u64.Has left) (hr : u64.Has right) :
    checkedMulU64 left right = .ok (if left * right ≤ u64.hi then some (left * right) else none) := by
  unfold checkedMulU64
  rcases eq_or_ne left 0 with rfl | h0
  · rw [if_neg (by simp), Int.zero_mul, if_pos (by decide)]
    simp only [ok_bind, Bool.false_eq_true, if_false]
    rw [IntType.mul_of_has (by rw [Int.zero_mul]; decide)]
    simp
  have hpos : 0 < left := lt_of_le_of_ne hl.1 (Ne.symm h0)
  rw [if_pos h0, IntType.div_of_nonneg (by decide) (by decide) (by decide) hpos]
  have hiff : right > u64.hi / left ↔ ¬ left * right ≤ u64.hi := by
    rw [gt_iff_lt, Int.ediv_lt_iff_lt_mul hpos, not_le, Int.mul_comm]
  simp only [ok_bind, hiff]
  by_cases h : left * right ≤ u64.hi
  · rw [IntType.mul_of_has ⟨Int.mul_nonneg hl.1 hr.1, h⟩]
    simp [h]
  · simp [h]

theorem alignI64_eq {value alignment : Int} (hv : i64.Has value) (ha : i64.Has alignment)
    (h0 : 0 ≤ value) (hpos : 0 < alignment) :
    alignI64 value alignment =
      .ok (if alignUp value alignment ≤ i64.hi then some (alignUp value alignment) else none) := by
  have hlo := Int.emod_nonneg value hpos.ne'
  have hlt := Int.emod_lt_of_pos value hpos
  have h1 := has_i64.mp hv
  have h2 := has_i64.mp ha
  unfold alignI64
  rw [if_neg (by omega), IntType.rem_of_nonneg h0 hv (by decide) hpos, alignUp_eq_of_emod hpos, ok_bind]
  by_cases hz : value % alignment = 0
  · rw [if_pos hz, if_pos hz, if_pos hv.2]
  rw [if_neg hz, if_neg hz, IntType.sub_of_has (has_i64.mpr (by omega)), ok_bind,
    IntType.sub_of_has (has_i64.mpr (by simp only [i64]; omega)), ok_bind]
  by_cases hle : value + (alignment - value % alignment) ≤ i64.hi
  · rw [if_neg (by omega), if_pos hle, IntType.add_of_has (has_i64.mpr ⟨by omega, hle⟩), ok_bind]
  · rw [if_pos (by omega), if_neg hle]

theorem ceilDivI64_eq {value divisor : Int} (hv : i64.Has value) (hd : i64.Has divisor)
    (h0 : 0 ≤ value) (hpos : 0 < divisor) (hne : value + divisor ≠ i64.hi + 1) :
    ceilDivI64 value divisor =
      .ok (if value + divisor - 1 ≤ i64.hi then some (value ⌈/⌉ divisor) else none) := by
  have h1 := has_i64.mp hv
  have h2 := has_i64.mp hd
  unfold ceilDivI64
  rw [if_neg (by omega), IntType.sub_of_has (has_i64.mpr (by simp only [i64]; omega)), ok_bind,
    IntType.add_of_has (has_i64.mpr (by simp only [i64]; omega)), ok_bind]
  by_cases hle : value + divisor - 1 ≤ i64.hi
  · have hsum : value + divisor ≤ i64.hi := by omega
    rw [if_neg (by omega), if_pos hle, IntType.add_of_has (has_i64.mpr ⟨by omega, hsum⟩), ok_bind,
      IntType.sub_of_has (has_i64.mpr ⟨by omega, hle⟩), ok_bind,
      IntType.div_of_nonneg (by omega) (has_i64.mpr ⟨by omega, hle⟩) (by decide) hpos, ok_bind,
      ceilDiv_eq_ediv hpos]
  · rw [if_pos (by omega), if_neg hle]

/-- The sum that the guard of `ceil_div_i64` lets through although it is no `int64_t`. -/
theorem ceilDivI64_overflow {value divisor : Int} (hv : i64.Has value) (hd : i64.Has divisor)
    (hpos : 0 < divisor) (h : value + divisor = i64.hi + 1) :
    ceilDivI64 value divisor = .error .overflow := by
  have h1 := has_i64.mp hv
  have h2 := has_i64.mp hd
  have h3 : value + divisor = 9223372036854775808 := h
  unfold ceilDivI64
  rw [if_neg (by omega), IntType.sub_of_has (has_i64.mpr (by simp only [i64]; omega)), ok_bind,
    IntType.add_of_has (has_i64.mpr (by simp only [i64]; omega)), ok_bind, if_neg (by omega)]
  have hnot : ¬ i64.Has (value + divisor) := fun hh => by have := hh.2; omega
  rw [IntType.add, IntType.fit_of_not_has hnot]
  rfl

/-! ## Filling a layout -/

theorem u64_cast_of_nonneg {x : Int} (hx : i64.Has x) (h0 : 0 ≤ x) : u64.cast x = x :=
  IntType.cast_of_has (has_u64.mpr ⟨h0, by have := has_i64.mp hx; omega⟩)

theorem has_u64_of_nonneg {x : Int} (hx : i64.Has x) (h0 : 0 ≤ x) : u64.Has x :=
  has_u64.mpr ⟨h0, by have := has_i64.mp hx; omega⟩

section

variable {dtype : DTypeCode} {logicalRows logicalCols allocationRows allocationCols : Int}

theorem fill2DLayout_settles (hr : i64.Has allocationRows) (hc : i64.Has allocationCols)
    (h1 : 0 ≤ logicalRows) (h2 : 0 ≤ logicalCols) (h3 : logicalRows ≤ allocationRows)
    (h4 : logicalCols ≤ allocationCols) (s : CallState) :
    Settles False (allocationRows * allocationCols ≤ u64.hi)
      (rowMajor dtype logicalRows logicalCols allocationRows allocationCols) s
      (fill2DLayout dtype logicalRows logicalCols allocationRows allocationCols s) := by
  unfold fill2DLayout
  rcases hs : s.out with _ | out
  · exact Settles.refuse id (fun _ => hs) (by decide)
  simp only
  rw [if_neg (by omega), u64_cast_of_nonneg hr (by omega), u64_cast_of_nonneg hc (by omega),
    checkedMulU64_eq (has_u64_of_nonneg hr (by omega)) (has_u64_of_nonneg hc (by omega)), ok_bind]
  by_cases h : allocationRows * allocationCols ≤ u64.hi
  · rw [if_pos h]
    exact ⟨False.elim, fun _ _ _ => rfl, fun _ hn => absurd (hn h) (by simp [hs])⟩
  · rw [if_neg h]
    exact Settles.refuse id (fun h' => absurd h' h) (by decide)

theorem fill2DLayoutExplicit_settles (hr : i64.Has logicalCols) (hc : i64.Has allocationCols)
    (h1 : 0 ≤ logicalRows) (h2 : 0 ≤ logicalCols) (h3 : 0 ≤ allocationCols) (s : CallState) :
    Settles False (logicalCols * allocationCols ≤ u64.hi)
      (mnMajor dtype logicalRows logicalCols allocationCols) s
      (fill2DLayoutExplicit dtype logicalRows logicalCols logicalCols allocationCols 1 allocationCols
        s) := by
  unfold fill2DLayoutExplicit
  rcases hs : s.out with _ | out
  · exact Settles.refuse id (fun _ => hs) (by decide)
  simp only
  rw [if_neg (by omega), u64_cast_of_nonneg hr (by omega), u64_cast_of_nonneg hc (by omega),
    checkedMulU64_eq (has_u64_of_nonneg hr (by omega)) (has_u64_of_nonneg hc (by omega)), ok_bind]
  by_cases h : logicalCols * allocationCols ≤ u64.hi
  · rw [if_pos h]
    exact ⟨False.elim, fun _ _ _ => rfl, fun _ hn => absurd (hn h) (by simp [hs])⟩
  · rw [if_neg h]
    exact Settles.refuse id (fun h' => absurd h' h) (by decide)

end

/-! ## The helpers -/

theorem rowAlignment_pos {dtype : DTypeCode} (h : IsLogits dtype) : 0 < rowAlignment dtype := by
  rcases h with rfl | rfl <;> decide

theorem has_rowAlignment {dtype : DTypeCode} (h : IsLogits dtype) : i64.Has (rowAlignment dtype) := by
  rcases h with rfl | rfl <;> decide

theorem div_storageSize {dtype : DTypeCode} (h : IsLogits dtype) :
    (i64.div 1024 dtype.storageSize : Native Int) = .ok (rowAlignment dtype) := by
  rcases h with rfl | rfl <;> rfl

theorem validateLogitsDtype_pos {dtype : DTypeCode} (h : IsLogits dtype) (s : CallState) :
    validateLogitsDtype dtype s = .ok ((.success, dtype.storageSize), s) := by
  unfold validateLogitsDtype
  exact if_neg fun hn => h.elim hn.1 hn.2

theorem validateLogitsDtype_neg {dtype : DTypeCode} (h : ¬ IsLogits dtype) (s : CallState) :
    validateLogitsDtype dtype s =
      .ok ((.invalidArgument, dtype.storageSize),
        { s with lastError := "logits dtype must be f32 or bf16" }) := by
  unfold validateLogitsDtype
  exact if_pos ⟨fun e => h (.inl e), fun e => h (.inr e)⟩

theorem alignUp_nonneg {v a : Int} (ha : 0 < a) (hv : 0 ≤ v) : 0 ≤ alignUp v a :=
  hv.trans (le_alignUp ha)

theorem has_alignUp {v a : Int} (ha : 0 < a) (hv : 0 ≤ v) (h : alignUp v a ≤ i64.hi) :
    i64.Has (alignUp v a) := has_i64.mpr ⟨by have := alignUp_nonneg ha hv; omega, h⟩

/-- A call that goes on with an aligned value, or refuses when there is none. -/
theorem Settles.align {overflows admits : Prop} {layout : RawLayout2D} {s : CallState} {v a : Int}
    {message : String} {f : Int → Native (Status × CallState)} (hv : i64.Has v) (ha : i64.Has a)
    (h0 : 0 ≤ v) (hpos : 0 < a) (ho : ¬ alignUp v a ≤ i64.hi → ¬ overflows)
    (hadmits : admits → alignUp v a ≤ i64.hi) (hm : message ≠ "")
    (h : i64.Has (alignUp v a) → v ≤ alignUp v a → Settles overflows admits layout s (f (alignUp v a))) :
    Settles overflows admits layout s (alignI64 v a >>= fun aligned => match aligned with
      | none => setError .invalidArgument message s
      | some x => f x) := by
  rw [alignI64_eq hv ha h0 hpos, ok_bind]
  by_cases hle : alignUp v a ≤ i64.hi
  · rw [if_pos hle]
    exact h (has_alignUp hpos h0 hle) (le_alignUp hpos)
  · rw [if_neg hle]
    exact refuse (ho hle) (fun hn => absurd (hadmits hn) hle) hm

namespace MqaLogitsLayoutParams

variable {p : MqaLogitsLayoutParams}

theorem blockQ_pos (h0 : 0 < p.numHeads.val) (h : 128 % p.numHeads.val = 0) : 0 < p.blockQ :=
  Int.ediv_pos_of_pos_of_dvd (by decide) h0.le (Int.dvd_of_emod_eq_zero h)

theorem has_blockQ (h0 : 0 < p.numHeads.val) : i64.Has p.blockQ := by
  have h1 : p.blockQ ≤ 128 := Int.ediv_le_self _ (by decide)
  have h2 : 0 ≤ p.blockQ := Int.ediv_nonneg (by decide) h0.le
  exact has_i64.mpr (by omega)

theorem cols_full (h : p.maxSeqlenK.val = 0) : p.cols = p.seqLenKv := if_pos h

theorem cols_compressed (h : p.maxSeqlenK.val ≠ 0) : p.cols = p.maxSeqlenK := if_neg h

theorem rowStride_full (h : p.maxSeqlenK.val = 0) :
    p.rowStride = alignUp (p.seqLenKv + 256) (rowAlignment p.logitsDtype) := if_pos h

theorem rowStride_compressed (h : p.maxSeqlenK.val ≠ 0) :
    p.rowStride = alignUp (alignUp p.maxSeqlenK 256) (rowAlignment p.logitsDtype) := if_neg h

end MqaLogitsLayoutParams

/-- **The logits helper**: its formula, unless the padded row length is formed past `int64_t`. -/
theorem mqaLogitsLayout_settles (p : MqaLogitsLayoutParams) (s : CallState) :
    Settles p.Overflows p.Admits p.layout s (mqaLogitsLayout (some p) s) := by
  -- a check of `Checked` that fails rules out the overflow and the success
  have early : ∀ {c : Prop}, (p.Checked → ¬ c) → (c → ¬ p.Overflows) ∧ (c → ¬ p.Admits) :=
    fun h => ⟨fun hc ho => h ho.1 hc, fun hc ha => h ha.toChecked hc⟩
  unfold mqaLogitsLayout
  have e1 := early fun h => show ¬ (p.seqLen.val ≤ 0 ∨ p.seqLenKv.val ≤ 0 ∨ p.numHeads.val ≤ 0) by
    have := h.seqLen; have := h.seqLenKv; have := h.numHeads; omega
  refine Settles.guard e1.1 e1.2 (by decide) fun h1 => ?_
  have e2 := early fun h => show ¬ p.maxSeqlenK.val < 0 from not_lt.mpr h.maxSeqlenK
  refine Settles.guard e2.1 e2.2 (by decide) fun h2 => ?_
  have hheads : 0 < p.numHeads.val := by omega
  rw [IntType.rem_of_nonneg (by decide) (by decide) (by decide) hheads, ok_bind]
  have e3 := early fun h => show ¬ 128 % p.numHeads.val ≠ 0 from not_not.mpr h.divides
  refine Settles.guard e3.1 e3.2 (by decide) fun h3 => ?_
  have hdiv : 128 % p.numHeads.val = 0 := not_not.mp h3
  by_cases hd : IsLogits p.logitsDtype
  swap
  · rw [validateLogitsDtype_neg hd]
    exact Settles.refuse (fun ho => hd ho.1.dtype) (fun ha => absurd ha.dtype hd) (by decide)
  rw [validateLogitsDtype_pos hd]
  simp only [ok_bind, ne_eq, not_true_eq_false, if_false]
  have hbpos := MqaLogitsLayoutParams.blockQ_pos hheads hdiv
  have hapos := rowAlignment_pos hd
  rw [IntType.div_of_nonneg (by decide) (by decide) (by decide) hheads, ok_bind]
  refine Settles.align p.seqLen.2 (MqaLogitsLayoutParams.has_blockQ hheads) (by omega) hbpos
    (fun h ho => h ho.1.rows) (fun ha => ha.rows) (by decide) fun hrows hle => ?_
  have hchecked : p.Checked := ⟨by omega, by omega, hheads, by omega, hdiv, hd, hrows.2⟩
  simp only [div_storageSize hd, ok_bind]
  by_cases h5 : p.maxSeqlenK.val = 0
  · rw [if_pos h5]
    by_cases h6 : i64.hi < p.seqLenKv + 256
    · rw [IntType.add, IntType.fit_of_not_has fun hh => not_lt.mpr hh.2 h6]
      exact Settles.overflowed ⟨hchecked, h5, h6⟩
    have hno : ¬ p.Overflows := fun ho => h6 ho.2.2
    have hsum : i64.Has (p.seqLenKv + 256) := has_i64.mpr ⟨by omega, not_lt.mp h6⟩
    have hs := MqaLogitsLayoutParams.rowStride_full h5
    rw [IntType.add_of_has hsum, ok_bind]
    refine Settles.align hsum (has_rowAlignment hd) (by omega) hapos (fun _ => hno)
      (fun ha => hs ▸ ha.stride) (by decide) fun hstride hle2 => ?_
    refine (fill2DLayout_settles hrows hstride (by omega) (by omega) hle (by omega) s).congr
      (iff_false_intro hno) ⟨fun ha => hs ▸ ha.count, fun hc => ⟨hchecked, hs ▸ hstride.2, hs ▸ hc⟩⟩ ?_
    rw [MqaLogitsLayoutParams.layout, MqaLogitsLayoutParams.cols_full h5, hs]
    rfl
  · rw [if_neg h5]
    have hno : ¬ p.Overflows := fun ho => h5 ho.2.1
    have hs := MqaLogitsLayoutParams.rowStride_compressed h5
    have hle1 : alignUp p.maxSeqlenK 256 ≤ p.rowStride := hs ▸ le_alignUp hapos
    refine Settles.align p.maxSeqlenK.2 (by decide) (by omega) (by decide) (fun _ => hno)
      (fun ha => hle1.trans ha.stride) (by decide) fun haligned hle2 => ?_
    refine Settles.align haligned (has_rowAlignment hd) (by omega) hapos (fun _ => hno)
      (fun ha => hs ▸ ha.stride) (by decide) fun hstride hle3 => ?_
    refine (fill2DLayout_settles hrows hstride (by omega) (by omega) hle (by omega) s).congr
      (iff_false_intro hno) ⟨fun ha => hs ▸ ha.count, fun hc => ⟨hchecked, hs ▸ hstride.2, hs ▸ hc⟩⟩ ?_
    rw [MqaLogitsLayoutParams.layout, MqaLogitsLayoutParams.cols_compressed h5, hs]
    rfl

theorem pagedMqaLogitsLayout_settles (p : PagedMqaLogitsLayoutParams) (s : CallState) :
    Settles False p.Admits p.layout s (pagedMqaLogitsLayout (some p) s) := by
  unfold pagedMqaLogitsLayout
  refine Settles.guard (fun _ => id) (fun hc ha => ?_) (by decide) fun h1 => ?_
  · have := ha.batchSize; have := ha.nextN; have := ha.maxContextLen; omega
  by_cases hd : IsLogits p.logitsDtype
  swap
  · rw [validateLogitsDtype_neg hd]
    exact Settles.refuse id (fun ha => absurd ha.dtype hd) (by decide)
  rw [validateLogitsDtype_pos hd]
  simp only [ok_bind, ne_eq, not_true_eq_false, if_false, div_storageSize hd]
  have hapos := rowAlignment_pos hd
  have hle1 : alignUp p.maxContextLen 256 ≤ p.rowStride := le_alignUp hapos
  refine Settles.align p.maxContextLen.2 (by decide) (by omega) (by decide) (fun _ => id)
    (fun ha => hle1.trans ha.stride) (by decide) fun haligned hle2 => ?_
  refine Settles.align haligned (has_rowAlignment hd) (by omega) hapos (fun _ => id)
    (fun ha => ha.stride) (by decide) fun hstride hle3 => ?_
  have hmul : checkedMulU64 p.batchSize p.nextN =
      .ok (if p.rows ≤ u64.hi then some p.rows else none) :=
    checkedMulU64_eq (has_u64_of_nonneg p.batchSize.2 (by omega))
      (has_u64_of_nonneg p.nextN.2 (by omega))
  rw [u64_cast_of_nonneg p.batchSize.2 (by omega), u64_cast_of_nonneg p.nextN.2 (by omega), hmul,
    ok_bind]
  have hpos : 0 < p.rows := Int.mul_pos (show (0 : Int) < p.batchSize by omega) (by omega)
  by_cases h2 : p.rows ≤ u64.hi
  swap
  · rw [if_neg h2]
    exact Settles.refuse id (fun ha => absurd (ha.rows.trans (by decide)) h2) (by decide)
  rw [if_pos h2]
  simp only
  rw [u64_cast_of_nonneg (x := i64.hi) (by decide) (by decide)]
  refine Settles.guard (fun _ => id) (fun hc ha => absurd ha.rows (not_le.mpr hc)) (by decide) fun h3 => ?_
  have hrows : i64.Has p.rows := has_i64.mpr ⟨by omega, not_lt.mp h3⟩
  rw [IntType.cast_of_has hrows]
  exact (fill2DLayout_settles hrows hstride hpos.le (by omega) le_rfl (by omega) s).congr Iff.rfl
    ⟨fun ha => ha.count, fun hc => ⟨by omega, by omega, by omega, hd, hstride.2, hrows.2, hc⟩⟩ rfl

theorem pagedMqaLogitsMetadataLayout_settles (p : PagedMqaLogitsMetadataLayoutParams) (s : CallState) :
    Settles False p.Admits p.layout s (pagedMqaLogitsMetadataLayout (some p) s) := by
  have hhi := p.numSms.2.2
  unfold pagedMqaLogitsMetadataLayout
  refine Settles.guard (fun _ => id) (fun hc ha => absurd ha.1 (not_lt.mpr hc)) (by decide) fun h1 => ?_
  refine Settles.guard (fun _ => id) (fun hc ha => absurd hc ha.2.ne) (by decide) fun h2 => ?_
  have hlt : p.numSms.val < i64.hi := lt_of_le_of_ne hhi h2
  have hrows : i64.Has (p.numSms + 1) := has_i64.mpr ⟨by omega, hlt⟩
  rw [IntType.add_of_has hrows, ok_bind]
  refine (fill2DLayout_settles hrows (by decide) (by omega) (by decide) le_rfl le_rfl s).congr Iff.rfl
    ⟨fun _ => ?_, fun _ => ⟨by omega, hlt⟩⟩ rfl
  simp only [i64] at hlt
  simp only [u64]
  omega

theorem fp8GemmNtOutputLayout_settles (p : Fp8GemmNtOutputLayoutParams) (s : CallState) :
    Settles False p.Admits p.layout s (fp8GemmNtOutputLayout (some p) s) := by
  unfold fp8GemmNtOutputLayout
  refine Settles.guard (fun _ => id) (fun hc ha => ?_) (by decide) fun h1 => ?_
  · have := ha.m; have := ha.n; omega
  refine Settles.guard (fun _ => id) (fun hc ha => hc ha.dtype) (by decide) fun h2 => ?_
  exact (fill2DLayout_settles p.m.2 p.n.2 (by omega) (by omega) le_rfl le_rfl s).congr Iff.rfl
    ⟨fun ha => ha.count, fun hc => ⟨by omega, by omega, not_not.mp h2, hc⟩⟩ rfl

/-- **The scale helper**: its formula, unless `ceil_div_i64` meets the one sum its guard misses. -/
theorem fp8GemmScaleLayout_settles (p : Fp8GemmScaleLayoutParams) (s : CallState) :
    Settles p.Overflows p.Admits p.layout s (fp8GemmScaleLayout (some p) s) := by
  have early : ∀ {c : Prop}, (p.Checked → ¬ c) → (c → ¬ p.Overflows) ∧ (c → ¬ p.Admits) :=
    fun h => ⟨fun hc ho => h ho.1 hc, fun hc ha => h ha.toChecked hc⟩
  unfold fp8GemmScaleLayout
  have e1 := early fun h => show ¬ (p.mn.val ≤ 0 ∨ p.k.val ≤ 0 ∨ p.granK.val ≤ 0) by
    have := h.mn; have := h.k; have := h.granK; omega
  refine Settles.guard e1.1 e1.2 (by decide) fun h1 => ?_
  have e2 := early fun h => show ¬ (p.scaleDtype ≠ DTypeCode.f32 ∧ p.scaleDtype ≠ DTypeCode.packedUe8M0)
    from fun hn => h.dtype.elim hn.1 hn.2
  refine Settles.guard e2.1 e2.2 (by decide) fun h2 => ?_
  have hd : p.scaleDtype = DTypeCode.f32 ∨ p.scaleDtype = DTypeCode.packedUe8M0 := by tauto
  have hsize : p.scaleDtype.storageSize = 4 := by rcases hd with h | h <;> rw [h] <;> rfl
  have hfpos : 0 < p.packedFactor ∧ p.packedFactor ≤ 4 := by
    unfold Fp8GemmScaleLayoutParams.packedFactor; split <;> decide
  have hrem : (i64.rem 16 4 : Native Int) = .ok 0 := rfl
  have hquot : (i64.div 16 4 : Native Int) = .ok 4 := rfl
  have hlimit : (i64.div i64.hi p.packedFactor : Native Int) = .ok (i64.hi / p.packedFactor) :=
    IntType.div_of_nonneg (by decide) (by decide) (by decide) hfpos.1
  rw [← Fp8GemmScaleLayoutParams.packedFactor]
  simp only [hsize, hrem, hquot, hlimit, ok_bind, Int.reduceLE, if_false, ne_eq, not_true_eq_false,
    decide_false, Bool.false_eq_true]
  have hdiv : p.granK.val > i64.hi / p.packedFactor ↔ ¬ p.divisor ≤ i64.hi := by
    rw [gt_iff_lt, Int.ediv_lt_iff_lt_mul hfpos.1, not_le]
    rfl
  have e3 := early fun h => show ¬ p.granK.val > i64.hi / p.packedFactor from fun hn => hdiv.mp hn h.divisor
  refine Settles.guard e3.1 e3.2 (by decide) fun h3 => ?_
  have hdle : p.divisor ≤ i64.hi := not_not.mp (mt hdiv.mpr h3)
  have hdpos : 0 < p.divisor := Int.mul_pos (show (0 : Int) < p.granK by omega) hfpos.1
  have hdhas : i64.Has p.divisor := has_i64.mpr ⟨by omega, hdle⟩
  have hchecked : p.Checked := ⟨by omega, by omega, by omega, hd, hdle⟩
  rw [IntType.mul_of_has hdhas, ok_bind]
  by_cases h4 : p.k + p.divisor = i64.hi + 1
  · rw [show p.granK.val * p.packedFactor = p.divisor from rfl,
      ceilDivI64_overflow p.k.2 hdhas hdpos h4]
    exact Settles.overflowed ⟨hchecked, h4⟩
  have hno : ¬ p.Overflows := fun ho => h4 ho.2
  rw [show p.granK.val * p.packedFactor = p.divisor from rfl,
    ceilDivI64_eq p.k.2 hdhas (by omega) hdpos h4, ok_bind]
  by_cases h5 : p.k + p.divisor - 1 ≤ i64.hi
  swap
  · rw [if_neg h5]
    exact Settles.refuse hno (fun ha => absurd ha.sum h5) (by decide)
  rw [if_pos h5]
  have hcols : 0 ≤ p.cols := ceilDiv_nonneg hdpos (by omega)
  have hcolsle : p.cols ≤ p.k := ceilDiv_le_self hdpos (by omega)
  have hmn : p.alignedMn = alignUp p.mn 4 := by rw [Fp8GemmScaleLayoutParams.alignedMn, hsize]; rfl
  refine Settles.align p.mn.2 (by decide) (by omega) (by decide) (fun _ => hno)
    (fun ha => hmn ▸ ha.alignedMn) (by decide) fun haligned hle => ?_
  have hk := has_i64.mp p.k.2
  refine (fill2DLayoutExplicit_settles (has_i64.mpr ⟨by omega, by omega⟩) haligned (by omega) hcols
    (by omega) s).congr (iff_false_intro hno)
    ⟨fun ha => hmn ▸ ha.count, fun hc => ⟨hchecked, h5, hmn ▸ haligned.2, hmn ▸ hc⟩⟩ ?_
  rw [Fp8GemmScaleLayoutParams.layout, hmn]

/-! ## All five helpers -/

/-- A call of one of the helpers, by its parameters. -/
inductive Request where
  | mqaLogits (params : Option MqaLogitsLayoutParams)
  | pagedMqaLogits (params : Option PagedMqaLogitsLayoutParams)
  | pagedMqaLogitsMetadata (params : Option PagedMqaLogitsMetadataLayoutParams)
  | fp8GemmNtOutput (params : Option Fp8GemmNtOutputLayoutParams)
  | fp8GemmScale (params : Option Fp8GemmScaleLayoutParams)

namespace Request

def run : Request → Call
  | mqaLogits params => mqaLogitsLayout params
  | pagedMqaLogits params => pagedMqaLogitsLayout params
  | pagedMqaLogitsMetadata params => pagedMqaLogitsMetadataLayout params
  | fp8GemmNtOutput params => fp8GemmNtOutputLayout params
  | fp8GemmScale params => fp8GemmScaleLayout params

/-- The layout the formulas give, for parameters that are there. -/
def layout : Request → Option RawLayout2D
  | mqaLogits params => params.map (·.layout)
  | pagedMqaLogits params => params.map (·.layout)
  | pagedMqaLogitsMetadata params => params.map (·.layout)
  | fp8GemmNtOutput params => params.map (·.layout)
  | fp8GemmScale params => params.map (·.layout)

/-- One of the two sums that are not guarded leaves `int64_t`. -/
def Overflows : Request → Prop
  | mqaLogits (some p) => p.Overflows
  | fp8GemmScale (some p) => p.Overflows
  | _ => False

/-- The call succeeds with the layout of the formulas and a cleared last error, or reports an
argument error and leaves `out` as it was. -/
def Exact (q : Request) (s : CallState) : Prop :=
  (∃ layout, q.layout = some layout ∧ q.run s = .ok (.success, ⟨"", some layout⟩)) ∨
    ∃ message, message ≠ "" ∧ q.run s = .ok (.invalidArgument, { s with lastError := message })

end Request

theorem Settles.of_success {overflows admits : Prop} {layout : RawLayout2D} {s s' : CallState}
    {r : Native (Status × CallState)} (h : Settles overflows admits layout s r)
    (hr : r = .ok (.success, s')) : (¬ overflows ∧ admits ∧ s.out ≠ none) ∧ s' = ⟨"", some layout⟩ := by
  have ho : ¬ overflows := fun ho => by
    rw [h.overflow ho] at hr
    cases hr
  have hs : admits ∧ s.out ≠ none := by
    by_contra hn
    obtain ⟨_, -, he⟩ := h.refused ho fun ha => by_contra fun hne => hn ⟨ha, hne⟩
    rw [he] at hr
    cases hr
  have he := h.success ho hs.1 hs.2
  rw [hr] at he
  cases he
  exact ⟨⟨ho, hs⟩, rfl⟩

theorem Settles.exact_iff {overflows admits : Prop} {layout : RawLayout2D} {s : CallState}
    {r : Native (Status × CallState)} (h : Settles overflows admits layout s r) :
    ((∃ l, some layout = some l ∧ r = .ok (.success, ⟨"", some l⟩)) ∨
      ∃ message, message ≠ "" ∧ r = .ok (.invalidArgument, { s with lastError := message })) ↔
      ¬ overflows := by
  refine ⟨fun hr ho => ?_, fun ho => ?_⟩
  · rw [h.overflow ho] at hr
    rcases hr with ⟨_, -, hr⟩ | ⟨_, -, hr⟩ <;> cases hr
  · by_cases hs : admits ∧ s.out ≠ none
    · exact .inl ⟨layout, rfl, h.success ho hs.1 hs.2⟩
    · exact .inr (h.refused ho fun ha => by_contra fun hn => hs ⟨ha, hn⟩)

/-- **Every helper is exact but for two sums.** -/
theorem exact_iff_not_overflows (q : Request) (s : CallState) : q.Exact s ↔ ¬ q.Overflows := by
  have null : ∀ (q : Request) (message : String), message ≠ "" → ¬ q.Overflows →
      q.run s = setError .invalidArgument message s → (q.Exact s ↔ ¬ q.Overflows) :=
    fun _ message hm ho hr => ⟨fun _ => ho, fun _ => .inr ⟨message, hm, hr⟩⟩
  rcases q with (_ | p) | (_ | p) | (_ | p) | (_ | p) | (_ | p)
  · exact null _ _ (by decide) id rfl
  · exact (mqaLogitsLayout_settles p s).exact_iff
  · exact null _ _ (by decide) id rfl
  · exact (pagedMqaLogitsLayout_settles p s).exact_iff
  · exact null _ _ (by decide) id rfl
  · exact (pagedMqaLogitsMetadataLayout_settles p s).exact_iff
  · exact null _ _ (by decide) id rfl
  · exact (fp8GemmNtOutputLayout_settles p s).exact_iff
  · exact null _ _ (by decide) id rfl
  · exact (fp8GemmScaleLayout_settles p s).exact_iff

/-- A full-width request whose `seq_len_kv` is the greatest `int64_t`. -/
def greatestSeqLenKv : MqaLogitsLayoutParams where
  seqLen := 1
  seqLenKv := ⟨i64.hi, by decide⟩
  numHeads := 32
  maxSeqlenK := I64.zero
  logitsDtype := DTypeCode.f32

theorem greatestSeqLenKv_overflows :
    (Request.mqaLogits (some greatestSeqLenKv)).run ⟨"", some RawLayout2D.empty⟩ = .error .overflow ∧
      ¬ (Request.mqaLogits (some greatestSeqLenKv)).Exact ⟨"", some RawLayout2D.empty⟩ := by
  have hrun : (Request.mqaLogits (some greatestSeqLenKv)).run ⟨"", some RawLayout2D.empty⟩ =
      .error .overflow := rfl
  refine ⟨hrun, ?_⟩
  rintro (⟨_, -, hr⟩ | ⟨_, -, hr⟩)
  · rw [hrun] at hr
    cases hr
  · rw [hrun] at hr
    cases hr

end DeepGemmRs.CApi
