import DeepGemmRs.CApi.Exact
import DeepGemmRs.Lib.Strided

/-!
# The layouts are sound

A layout that a helper returns can be allocated by its element count: the logical view lies in the
allocation, its elements do not overlap, and the padding of the logits layouts takes the tiles the
kernels write.

* `RawLayout2D.view` : the logical view of a layout;
* `Covers` : the tiles of an axis lie within its allocated length;
* `Request.Padded` : what the padding of a request's layout holds;
* `layout_sound` : both, for every request that succeeds.
-/

namespace DeepGemmRs

open Strided

def RawLayout2D.view (l : RawLayout2D) : View where
  rows := l.logicalShape 0
  cols := l.logicalShape 1
  rowStride := l.stride 0
  colStride := l.stride 1

namespace CApi

open MachineInt Rounding

theorem rowMajor_sound {dtype : DTypeCode} {logicalRows logicalCols allocationRows allocationCols : Int}
    (hr : logicalRows ≤ allocationRows) (hc : logicalCols ≤ allocationCols) :
    (rowMajor dtype logicalRows logicalCols allocationRows allocationCols).view.Sound
      (rowMajor dtype logicalRows logicalCols allocationRows allocationCols).elementCount :=
  View.Sound.rowMajor hr hc

theorem mnMajor_sound {dtype : DTypeCode} {logicalRows logicalCols allocationCols : Int}
    (hr : logicalRows ≤ allocationCols) :
    (mnMajor dtype logicalRows logicalCols allocationCols).view.Sound
      (mnMajor dtype logicalRows logicalCols allocationCols).elementCount :=
  View.Sound.colMajor le_rfl hr

/-! ## Tiles -/

/-- Each tile of `size` that starts at a multiple of `step` below `width` ends within `length`. -/
def Covers (step size width length : Int) : Prop :=
  ∀ c, 0 ≤ c → step ∣ c → c < width → c + size ≤ length

theorem Covers.mono {step size width length length' : Int} (h : Covers step size width length)
    (hle : length ≤ length') : Covers step size width length' :=
  fun c h0 hc hw => (h c h0 hc hw).trans hle

theorem covers_alignUp {size : Int} (hs : 0 < size) (width : Int) :
    Covers size size width (alignUp width size) :=
  fun _ _ hc hw => block_le_alignUp hs hc hw

theorem covers_add (size width : Int) : Covers 1 size width (width + size) :=
  fun _ _ _ hw => Int.add_le_add_right hw.le size

theorem rowAlignment_mul {dtype : DTypeCode} (h : IsLogits dtype) :
    rowAlignment dtype * dtype.storageSize = 1024 := by
  rcases h with rfl | rfl <;> rfl

theorem dvd_rowAlignment {dtype : DTypeCode} (h : IsLogits dtype) : 256 ∣ rowAlignment dtype := by
  rcases h with rfl | rfl <;> decide

/-- A row of whole alignment units is a multiple of 1024 bytes long. -/
theorem dvd_rowBytes {dtype : DTypeCode} (h : IsLogits dtype) (v : Int) :
    1024 ∣ alignUp v (rowAlignment dtype) * dtype.storageSize := by
  rw [← rowAlignment_mul h]
  exact Int.mul_dvd_mul_right _ (dvd_alignUp v _)

/-! ## Padding of the logits layouts -/

namespace MqaLogitsLayoutParams

variable {p : MqaLogitsLayoutParams}

theorem Admits.rowBytes (h : p.Admits) : 1024 ∣ p.rowStride * p.logitsDtype.storageSize := by
  by_cases h0 : p.maxSeqlenK.val = 0
  · rw [rowStride_full h0]
    exact dvd_rowBytes h.dtype _
  · rw [rowStride_compressed h0]
    exact dvd_rowBytes h.dtype _

theorem Admits.covers_full (h : p.Admits) (h0 : p.maxSeqlenK.val = 0) :
    Covers 1 256 p.seqLenKv p.rowStride := by
  rw [rowStride_full h0]
  exact (covers_add 256 _).mono (le_alignUp (rowAlignment_pos h.dtype))

theorem Admits.covers_compressed (h : p.Admits) (h0 : p.maxSeqlenK.val ≠ 0) :
    Covers 256 256 p.maxSeqlenK p.rowStride := by
  rw [rowStride_compressed h0]
  exact (covers_alignUp (by decide) _).mono (le_alignUp (rowAlignment_pos h.dtype))

theorem Admits.covers_rows (h : p.Admits) : Covers p.blockQ p.blockQ p.seqLen p.rows :=
  covers_alignUp (blockQ_pos h.numHeads h.divides) _

theorem Admits.seqLen_le (h : p.Admits) : p.seqLen ≤ p.rows :=
  le_alignUp (blockQ_pos h.numHeads h.divides)

theorem Admits.cols_le (h : p.Admits) : p.cols ≤ p.rowStride := by
  have hpos := rowAlignment_pos h.dtype
  by_cases h0 : p.maxSeqlenK.val = 0
  · rw [cols_full h0, rowStride_full h0]
    exact (Int.le_add_of_nonneg_right (by decide)).trans (le_alignUp hpos)
  · rw [cols_compressed h0, rowStride_compressed h0]
    exact (le_alignUp (by decide)).trans (le_alignUp hpos)

theorem Admits.sound (h : p.Admits) : p.layout.view.Sound p.layout.elementCount :=
  rowMajor_sound h.seqLen_le h.cols_le

end MqaLogitsLayoutParams

namespace PagedMqaLogitsLayoutParams

variable {p : PagedMqaLogitsLayoutParams}

theorem Admits.rowBytes (h : p.Admits) : 1024 ∣ p.rowStride * p.logitsDtype.storageSize :=
  dvd_rowBytes h.dtype _

theorem Admits.dvd_rowStride (h : p.Admits) : 256 ∣ p.rowStride :=
  (dvd_rowAlignment h.dtype).trans (dvd_alignUp _ _)

theorem Admits.covers (h : p.Admits) : Covers 256 256 p.maxContextLen p.rowStride :=
  (covers_alignUp (by decide) _).mono (le_alignUp (rowAlignment_pos h.dtype))

theorem Admits.sound (h : p.Admits) : p.layout.view.Sound p.layout.elementCount :=
  rowMajor_sound le_rfl ((le_alignUp (by decide)).trans (le_alignUp (rowAlignment_pos h.dtype)))

end PagedMqaLogitsLayoutParams

theorem Fp8GemmScaleLayoutParams.Admits.sound {p : Fp8GemmScaleLayoutParams} (h : p.Admits) :
    p.layout.view.Sound p.layout.elementCount := by
  have hsize : 0 < 16 / p.scaleDtype.storageSize := by
    rcases h.dtype with hd | hd <;> rw [hd] <;> decide
  exact mnMajor_sound (le_alignUp hsize)

/-! ## Every helper -/

namespace Request

/-- What the padding of the layout is for; only the logits layouts are padded. The allocation is that of
`elementCount` elements, and has whole rows. -/
def Padded (l : RawLayout2D) : Request → Prop
  | mqaLogits (some p) =>
    l.allocationShape 0 * l.stride 0 ≤ l.elementCount ∧
    1024 ∣ l.stride 0 * p.logitsDtype.storageSize ∧
    (p.maxSeqlenK.val = 0 → Covers 1 256 p.seqLenKv (l.stride 0)) ∧
    (p.maxSeqlenK.val ≠ 0 → Covers 256 256 (l.logicalShape 1) (l.stride 0)) ∧
    Covers (128 / p.numHeads) (128 / p.numHeads) p.seqLen (l.allocationShape 0)
  | pagedMqaLogits (some p) =>
    l.allocationShape 0 * l.stride 0 ≤ l.elementCount ∧
    1024 ∣ l.stride 0 * p.logitsDtype.storageSize ∧ 256 ∣ l.stride 0 ∧
    Covers 256 256 (l.logicalShape 1) (l.stride 0)
  | _ => True

end Request

/-- **Every layout returned is sound.** -/
theorem layout_sound (q : Request) (s s' : CallState) (h : q.run s = .ok (.success, s')) :
    ∃ l, s'.out = some l ∧ l.view.Sound l.elementCount ∧ q.Padded l := by
  rcases q with (_ | p) | (_ | p) | (_ | p) | (_ | p) | (_ | p)
  · cases h
  · obtain ⟨⟨-, ha, -⟩, rfl⟩ := (mqaLogitsLayout_settles p s).of_success h
    refine ⟨p.layout, rfl, ha.sound, le_rfl, ha.rowBytes, ha.covers_full, fun h0 => ?_, ha.covers_rows⟩
    have hcols : p.layout.logicalShape 1 = p.maxSeqlenK := p.cols_compressed h0
    rw [hcols]
    exact ha.covers_compressed h0
  · cases h
  · obtain ⟨⟨-, ha, -⟩, rfl⟩ := (pagedMqaLogitsLayout_settles p s).of_success h
    exact ⟨p.layout, rfl, ha.sound, le_rfl, ha.rowBytes, ha.dvd_rowStride, ha.covers⟩
  · cases h
  · obtain ⟨-, rfl⟩ := (pagedMqaLogitsMetadataLayout_settles p s).of_success h
    exact ⟨p.layout, rfl, rowMajor_sound le_rfl le_rfl, trivial⟩
  · cases h
  · obtain ⟨-, rfl⟩ := (fp8GemmNtOutputLayout_settles p s).of_success h
    exact ⟨p.layout, rfl, rowMajor_sound le_rfl le_rfl, trivial⟩
  · cases h
  · obtain ⟨⟨-, ha, -⟩, rfl⟩ := (fp8GemmScaleLayout_settles p s).of_success h
    exact ⟨p.layout, rfl, ha.sound, trivial⟩

/-- A request whose rows and columns are both padded. -/
def paddedRequest : MqaLogitsLayoutParams where
  seqLen := 5
  seqLenKv := 100
  numHeads := 32
  maxSeqlenK := I64.zero
  logitsDtype := DTypeCode.bf16

theorem paddedRequest_sound :
    ∃ l, (⟨"", some paddedRequest.layout⟩ : CallState).out = some l ∧ l.view.Sound l.elementCount ∧
      (Request.mqaLogits (some paddedRequest)).Padded l :=
  layout_sound (.mqaLogits (some paddedRequest)) ⟨"stale", some RawLayout2D.empty⟩ _ rfl

end CApi

end DeepGemmRs
