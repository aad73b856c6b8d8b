import DeepGemmRs.CApi.Sound
import DeepGemmRs.Lib.Binary32
import DeepGemmRs.Lib.Grid
import DeepGemmRs.Raw.Transform

/-!
# The broadcast kernels

The two kernels of `deepgemm_raw_gemm.cc`, thread by thread. A pointer is a function of the element, a
`float` is its 32 bits.

* `broadcastTransposeFp32`, `broadcastTransposeAndPackFp32IntoUe8m0` : one thread;
* `runThread` : the thread of a launch;
* `traps_eq_false_iff` : the bit tests let through the positive normal powers of two;
* `packLanes_packed` : what the loop over the lanes leaves in each byte;
* `broadcast_correct` : the launches of `launch_fp8_gemm_transform_scale` fill the output.
-/

namespace DeepGemmRs.Raw.Gemm

open Checked MachineInt Rounding

/-- What a thread did: the elements it read, and the one it wrote with its new value. -/
structure Thread where
  reads : List Int := []
  write : Option (Int × BitVec 32) := none
  trapped : Bool := false
deriving DecidableEq

/-! ## The kernels -/

/-- `broadcast_transpose_fp32`. -/
def broadcastTransposeFp32 (scale : Int → BitVec 32) (mn sfK granMn alignedMn : Int)
    (blockIdx blockDim threadIdx : Int) : Thread :=
  let linear := u64.cast (u64.cast (blockIdx * blockDim) + threadIdx)
  let count := u64.cast (mn * sfK)
  if linear ≥ count then {}
  else
    let mnIdx := u32.cast (linear / sfK)
    let kIdx := u32.cast (linear % sfK)
    let source := u64.cast (u64.cast (mnIdx / granMn * sfK) + kIdx)
    let target := u64.cast (u64.cast (kIdx * alignedMn) + mnIdx)
    { reads := [source], write := some (target, scale source) }

/-- The condition of `asm("trap;")`. -/
def traps (bits : BitVec 32) : Bool :=
  bits &&& 0x807fffff#32 ≠ 0 ∨ bits = 0 ∨ bits &&& 0x7f800000#32 = 0x7f800000#32

/-- The state of the loop over the lanes: the elements read, and `packed` until a trap. -/
structure Lanes where
  reads : List Int
  packed : Option (BitVec 32)

/-- The body of the loop. -/
def packLane (scale : Int → BitVec 32) (sfK packedKIdx inputRow : Int) (lanes : Lanes) (lane : Nat) : Lanes :=
  match lanes.packed with
  | none => lanes
  | some packed =>
    let kIdx := u32.cast (u32.cast (packedKIdx * 4) + lane)
    if kIdx < sfK then
      let source := u64.cast (inputRow + kIdx)
      let bits := scale source
      { reads := lanes.reads ++ [source]
        packed := if traps bits then none else some (packed ||| bits >>> 23 <<< (lane * 8)) }
    else lanes

def packLanes (scale : Int → BitVec 32) (sfK packedKIdx inputRow : Int) (count : Nat) : Lanes :=
  (List.range count).foldl (packLane scale sfK packedKIdx inputRow) ⟨[], some 0⟩

/-- `broadcast_transpose_and_pack_fp32_into_ue8m0`. -/
def broadcastTransposeAndPackFp32IntoUe8m0 (scale : Int → BitVec 32)
    (mn sfK packedSfK granMn alignedMn : Int) (blockIdx blockDim threadIdx : Int) : Thread :=
  let linear := u64.cast (u64.cast (blockIdx * blockDim) + threadIdx)
  let count := u64.cast (mn * packedSfK)
  if linear ≥ count then {}
  else
    let mnIdx := u32.cast (linear / packedSfK)
    let packedKIdx := u32.cast (linear % packedSfK)
    let inputRow := u64.cast (mnIdx / granMn * sfK)
    let lanes := packLanes scale sfK packedKIdx inputRow 4
    match lanes.packed with
    | none => { reads := lanes.reads, trapped := true }
    | some packed =>
      { reads := lanes.reads, write := some (u64.cast (u64.cast (packedKIdx * alignedMn) + mnIdx), packed) }

/-- A thread of the launch of a broadcast kernel. -/
def runThread (launch : Launch) (scale : Int → BitVec 32) (t : Int × Int) : Option Thread :=
  match launch.args with
  | [.ptr _, .ptr _, .u32 mn, .u32 sfK, .u32 granMn, .u32 alignedMn] =>
    if launch.kernel = "broadcast_transpose_fp32" then
      some (broadcastTransposeFp32 scale mn sfK granMn alignedMn t.1 launch.config.blockDimX t.2)
    else none
  | [.ptr _, .ptr _, .u32 mn, .u32 sfK, .u32 packedSfK, .u32 granMn, .u32 alignedMn] =>
    if launch.kernel = "broadcast_transpose_and_pack_fp32_into_ue8m0" then
      some (broadcastTransposeAndPackFp32IntoUe8m0 scale mn sfK packedSfK granMn alignedMn t.1
        launch.config.blockDimX t.2)
    else none
  | _ => none

/-! ## The bit tests -/

section

variable {w : BitVec 32}

theorem getLsbD_mask (i : Nat) (h : i < 32) :
    (0x807fffff#32).getLsbD i = decide (i < 23 ∨ i = 31) ∧
      (0x7f800000#32).getLsbD i = decide (23 ≤ i ∧ i < 31) := by
  revert i
  decide

theorem and_signFraction : w &&& 0x807fffff#32 = 0 ↔ Binary32.sign w = 0 ∧ Binary32.fraction w = 0 := by
  obtain ⟨hf, -, hs⟩ := Binary32.getLsbD_fields w
  constructor
  · intro h
    have hbit : ∀ i, i < 32 → (i < 23 ∨ i = 31) → w.getLsbD i = false := by
      intro i hi hmask
      have := congrArg (fun x : BitVec 32 => x.getLsbD i) h
      simpa [(getLsbD_mask i hi).1, hmask] using this
    refine ⟨BitVec.eq_of_getLsbD_eq fun i hi => ?_, BitVec.eq_of_getLsbD_eq fun i hi => ?_⟩
    · rw [hs, hbit (31 + i) (by omega) (by omega)]
      simp
    · rw [hf, hbit i (by omega) (by omega)]
      simp
  · rintro ⟨hsign, hfraction⟩
    refine BitVec.eq_of_getLsbD_eq fun i hi => ?_
    rw [BitVec.getLsbD_and, (getLsbD_mask i hi).1]
    by_cases h23 : i < 23
    · have := hf i
      rw [hfraction] at this
      simp_all
    · by_cases h31 : i = 31
      · subst h31
        have := hs 0
        rw [hsign] at this
        simp_all
      · simp [h23, h31]

theorem and_exponent : w &&& 0x7f800000#32 = 0x7f800000#32 ↔ Binary32.exponent w = 255 := by
  obtain ⟨-, he, -⟩ := Binary32.getLsbD_fields w
  have h255 : ∀ i, i < 8 → (255 : BitVec 8).getLsbD i = true := by decide
  constructor
  · intro h
    refine BitVec.eq_of_getLsbD_eq fun i hi => ?_
    have hbit := congrArg (fun x : BitVec 32 => x.getLsbD (23 + i)) h
    simp only [BitVec.getLsbD_and, (getLsbD_mask (23 + i) (by omega)).2] at hbit
    rw [he, h255 i hi]
    simpa [hi, show 23 + i < 31 by omega] using hbit
  · intro h
    refine BitVec.eq_of_getLsbD_eq fun i hi => ?_
    rw [BitVec.getLsbD_and, (getLsbD_mask i hi).2]
    by_cases hmask : 23 ≤ i ∧ i < 31
    · have hbit := he (i - 23)
      rw [h, h255 (i - 23) (by omega), show 23 + (i - 23) = i by omega] at hbit
      simp_all
    · simp [hmask]

/-- **A thread goes on exactly at a positive normal power of two.** -/
theorem traps_eq_false_iff : traps w = false ↔ Binary32.IsPowerOfTwo w := by
  have hzero : Binary32.sign w = 0 → Binary32.fraction w = 0 → (w = 0 ↔ Binary32.exponent w = 0) := by
    intro hs hf
    constructor
    · rintro rfl
      rfl
    · intro he
      rw [Binary32.eq_shift hs hf, he]
      rfl
  rw [Binary32.isPowerOfTwo_iff, Binary32.Normal, traps, decide_eq_false_iff_not, not_or, not_or, not_not,
    and_signFraction, and_exponent]
  constructor
  · rintro ⟨⟨hs, hf⟩, h0, h255⟩
    exact ⟨⟨mt (hzero hs hf).mpr h0, h255⟩, hs, hf⟩
  · rintro ⟨⟨h0, h255⟩, hs, hf⟩
    exact ⟨⟨hs, hf⟩, mt (hzero hs hf).mp h0, h255⟩

end

/-! ## The loop over the lanes -/

/-- A byte of a word, the lowest first. -/
def byte (w : BitVec 32) (lane : Nat) : BitVec 8 := w.extractLsb' (8 * lane) 8

theorem byte_or (v w : BitVec 32) (lane : Nat) : byte (v ||| w) lane = byte v lane ||| byte w lane := by
  refine BitVec.eq_of_getLsbD_eq fun i hi => ?_
  simp only [byte, BitVec.getLsbD_or, BitVec.getLsbD_extractLsb', hi, decide_true, Bool.true_and]

theorem byte_shift (e : BitVec 8) {l lane : Nat} (hl : l < 4) :
    byte (e.setWidth 32 <<< (lane * 8)) l = if l = lane then e else 0#8 := by
  refine BitVec.eq_of_getLsbD_eq fun i hi => ?_
  simp only [byte, BitVec.getLsbD_extractLsb', BitVec.getLsbD_shiftLeft, BitVec.getLsbD_setWidth, hi, decide_true,
    Bool.true_and, show 8 * l + i < 32 by omega]
  split
  · next h =>
    subst h
    rw [show 8 * l + i - l * 8 = i by omega]
    simp [show ¬ 8 * l + i < l * 8 by omega, show i < 32 by omega]
  · next h =>
    by_cases hlt : 8 * l + i < lane * 8
    · simp [hlt]
    · have hbig : 8 ≤ 8 * l + i - lane * 8 := by omega
      simp [BitVec.getLsbD_of_ge e _ hbig]

section

variable {scale : Int → BitVec 32} {sfK packedKIdx inputRow : Int} {count : Nat} {lanes : Lanes}

/-- The lane holds a scale that exists. -/
def InRow (sfK packedKIdx : Int) (lane : Nat) : Prop := packedKIdx * 4 + lane < sfK

/-- The element that a lane reads. -/
def laneSource (packedKIdx inputRow : Int) (lane : Nat) : Int := inputRow + (packedKIdx * 4 + lane)

/-- After `count` lanes: what was read, why the loop stopped, and the bytes so far. -/
structure Packed (scale : Int → BitVec 32) (sfK packedKIdx inputRow : Int) (count : Nat) (lanes : Lanes) : Prop where
  reads : ∀ source ∈ lanes.reads, ∃ lane, lane < count ∧ InRow sfK packedKIdx lane ∧
    source = laneSource packedKIdx inputRow lane
  stopped : lanes.packed = none → ∃ lane, lane < count ∧ InRow sfK packedKIdx lane ∧
    traps (scale (laneSource packedKIdx inputRow lane)) = true
  passed : ∀ w, lanes.packed = some w → ∀ lane, lane < count → InRow sfK packedKIdx lane →
    traps (scale (laneSource packedKIdx inputRow lane)) = false
  bytes : ∀ w, lanes.packed = some w → ∀ lane, lane < 4 →
    (lane < count ∧ InRow sfK packedKIdx lane →
      byte w lane = Binary32.exponent (scale (laneSource packedKIdx inputRow lane))) ∧
    (¬ (lane < count ∧ InRow sfK packedKIdx lane) → byte w lane = 0#8)

theorem packed_zero : Packed scale sfK packedKIdx inputRow 0 ⟨[], some 0⟩ where
  reads source h := by cases h
  stopped h := by cases h
  passed w h lane hlane := absurd hlane (Nat.not_lt_zero lane)
  bytes w h lane hlane := by
    obtain rfl : 0 = w := Option.some.inj h
    refine ⟨fun hc => absurd hc.1 (Nat.not_lt_zero lane), fun _ => ?_⟩
    refine BitVec.eq_of_getLsbD_eq fun i hi => ?_
    simp [byte]

/-- Past the end of the row a lane changes nothing. -/
theorem Packed.skip (h : Packed scale sfK packedKIdx inputRow count lanes) (hrow : ¬ InRow sfK packedKIdx count) :
    Packed scale sfK packedKIdx inputRow (count + 1) lanes := by
  have hlt : ∀ {lane}, lane < count + 1 → InRow sfK packedKIdx lane → lane < count := by
    intro lane hlane hin
    have hne : lane ≠ count := fun e => hrow (e ▸ hin)
    omega
  refine ⟨fun source hs => ?_, fun hn => ?_, fun w hw lane hlane hin => h.passed w hw lane (hlt hlane hin) hin,
    fun w hw lane hlane => ⟨fun hc => (h.bytes w hw lane hlane).1 ⟨hlt hc.1 hc.2, hc.2⟩, fun hc => ?_⟩⟩
  · obtain ⟨lane, hlane, hin, he⟩ := h.reads source hs
    exact ⟨lane, by omega, hin, he⟩
  · obtain ⟨lane, hlane, hin, he⟩ := h.stopped hn
    exact ⟨lane, by omega, hin, he⟩
  · exact (h.bytes w hw lane hlane).2 fun hc' => hc ⟨by omega, hc'.2⟩

/-- A lane in the row is read, and its exponent packed unless it traps. -/
theorem Packed.lane (h : Packed scale sfK packedKIdx inputRow count lanes) (hrow : InRow sfK packedKIdx count)
    {packed : BitVec 32} (hpacked : lanes.packed = some packed) :
    Packed scale sfK packedKIdx inputRow (count + 1)
      { reads := lanes.reads ++ [laneSource packedKIdx inputRow count]
        packed := if traps (scale (laneSource packedKIdx inputRow count)) then none
          else some (packed ||| scale (laneSource packedKIdx inputRow count) >>> 23 <<< (count * 8)) } := by
  refine ⟨fun source hs => ?_, fun hn => ?_, fun w hw lane hlane hin => ?_, fun w hw lane hlane => ?_⟩
  · rcases List.mem_append.mp hs with hs | hs
    · obtain ⟨lane, hlane, hin, he⟩ := h.reads source hs
      exact ⟨lane, by omega, hin, he⟩
    · exact ⟨count, by omega, hrow, List.mem_singleton.mp hs⟩
  · refine ⟨count, by omega, hrow, ?_⟩
    by_contra ht
    simp [ht] at hn
  · by_cases ht : traps (scale (laneSource packedKIdx inputRow count)) = true
    · simp [ht] at hw
    · rcases Nat.lt_succ_iff_lt_or_eq.mp hlane with hlt | rfl
      · exact h.passed packed hpacked lane hlt hin
      · simpa using ht
  · by_cases ht : traps (scale (laneSource packedKIdx inputRow count)) = true
    · simp [ht] at hw
    · obtain rfl : packed ||| scale (laneSource packedKIdx inputRow count) >>> 23 <<< (count * 8) = w := by
        simpa [ht] using hw
      obtain ⟨-, hsign, -⟩ := Binary32.isPowerOfTwo_iff.mp (traps_eq_false_iff.mp (Bool.eq_false_of_not_eq_true ht))
      obtain ⟨hin, hout⟩ := h.bytes packed hpacked lane hlane
      rw [Binary32.ushiftRight_eq hsign, byte_or, byte_shift _ hlane]
      by_cases he : lane = count
      · subst he
        rw [hout (by omega), if_pos rfl, BitVec.zero_or]
        exact ⟨fun _ => rfl, fun hc => absurd ⟨by omega, hrow⟩ hc⟩
      · rw [if_neg he, BitVec.or_zero]
        exact ⟨fun hc => hin ⟨by omega, hc.2⟩, fun hc => hout fun hc' => hc ⟨by omega, hc'.2⟩⟩

/-- Indices of a matrix of at most `2^31` rows and 512 columns do not leave the machine. -/
structure LaneSizes (sfK packedKIdx inputRow : Int) : Prop where
  sfK : sfK ≤ 512
  packedKIdx : 0 ≤ packedKIdx ∧ packedKIdx < 512
  inputRow : 0 ≤ inputRow ∧ inputRow ≤ 2147483647 * 512

theorem Packed.step (hs : LaneSizes sfK packedKIdx inputRow) (hcount : count < 4)
    (h : Packed scale sfK packedKIdx inputRow count lanes) :
    Packed scale sfK packedKIdx inputRow (count + 1) (packLane scale sfK packedKIdx inputRow lanes count) := by
  obtain ⟨hsfK, ⟨hp0, hp1⟩, hr0, hr1⟩ := hs
  have hmul : u32.cast (packedKIdx * 4) = packedKIdx * 4 := IntType.cast_of_has (has_u32.mpr ⟨by omega, by omega⟩)
  have hidx : u32.cast (packedKIdx * 4 + count) = packedKIdx * 4 + count :=
    IntType.cast_of_has (has_u32.mpr ⟨by omega, by omega⟩)
  have hsource : u64.cast (inputRow + (packedKIdx * 4 + count)) = laneSource packedKIdx inputRow count :=
    IntType.cast_of_has (has_u64.mpr ⟨by omega, by omega⟩)
  unfold packLane
  split
  · next hn =>
    -- once a lane has trapped nothing changes
    refine ⟨fun source hs => ?_, fun _ => ?_, fun w hw => ?_, fun w hw => ?_⟩
    · obtain ⟨lane, hlane, hin, he⟩ := h.reads source hs
      exact ⟨lane, by omega, hin, he⟩
    · obtain ⟨lane, hlane, hin, he⟩ := h.stopped hn
      exact ⟨lane, by omega, hin, he⟩
    · rw [hn] at hw
      cases hw
    · rw [hn] at hw
      cases hw
  · next packed hpacked =>
    simp only [hmul, hidx, hsource]
    by_cases hrow : packedKIdx * 4 + count < sfK
    · rw [if_pos hrow]
      exact h.lane hrow hpacked
    · rw [if_neg hrow]
      exact h.skip hrow

/-- **The loop packs the exponents of the lanes in the row, unless one of them traps.** -/
theorem packLanes_packed (hs : LaneSizes sfK packedKIdx inputRow) (hcount : count ≤ 4) :
    Packed scale sfK packedKIdx inputRow count (packLanes scale sfK packedKIdx inputRow count) := by
  induction count with
  | zero => exact packed_zero
  | succ count ih =>
    unfold packLanes at ih ⊢
    rw [List.range_succ, List.foldl_append]
    exact (ih (Nat.le_of_succ_le hcount)).step hs hcount

end

example : (packLanes (fun _ => 0x3f800000#32) 5 1 0 4).packed = some 0x7f#32 := by decide

/-! ## Threads -/

section

variable {params : Fp8GemmScaleTransformParams} {launch : Launch} {scale : Int → BitVec 32} {c t : Int × Int}

/-- The element of `scale` for a row of the output and a column of `scale`. -/
def source (params : Fp8GemmScaleTransformParams) (row col : Int) : Int :=
  row / params.granMn.val * scaleCols params + col

/-- The place of a cell of the output. -/
def target (params : Fp8GemmScaleTransformParams) (c : Int × Int) : Int := c.1 + c.2 * alignUp params.mn 4

/-- The word that belongs into a cell: a scale, or the exponents of four scales, zero past the end of the row. -/
def IsValue (params : Fp8GemmScaleTransformParams) (scale : Int → BitVec 32) (c : Int × Int) (w : BitVec 32) : Prop :=
  if params.transformed.dtype = DTypeCode.f32 then w = scale (source params c.1 c.2)
  else ∀ lane, lane < 4 →
    byte w lane = if 4 * c.2 + lane < scaleCols params
      then Binary32.exponent (scale (source params c.1 (4 * c.2 + lane))) else 0

/-- What the thread of a cell does. -/
structure ThreadOf (params : Fp8GemmScaleTransformParams) (scale : Int → BitVec 32) (c : Int × Int)
    (thread : Thread) : Prop where
  reads : ∀ place ∈ thread.reads, ∃ col, (0 ≤ col ∧ col < scaleCols params) ∧ place = source params c.1 col
  writes : ∀ place w, thread.write = some (place, w) → place = target params c ∧ IsValue params scale c w
  outcome : thread.trapped = false ↔ thread.write.isSome
  traps : thread.trapped = true ↔ params.transformed.dtype ≠ DTypeCode.f32 ∧
    ∃ col, (0 ≤ col ∧ col < scaleCols params) ∧ col / 4 = c.2 ∧
      ¬ Binary32.IsPowerOfTwo (scale (source params c.1 col))

/-- The bounds of the indices on a broadcast path. -/
structure Bounds (params : Fp8GemmScaleTransformParams) : Prop where
  mn : 0 < params.mn.val ∧ params.mn.val ≤ alignUp params.mn 4
  aligned : alignUp params.mn 4 ≤ 2147483647
  granMn : 0 < params.granMn.val
  sizeCols : 0 < scaleCols params ∧ scaleCols params ≤ 512
  cols : 0 < transformedCols params ∧ transformedCols params ≤ scaleCols params

theorem Admitted.bounds (ha : Admitted params) (hfits : alignUp params.mn 4 ≤ i32.hi) : Bounds params where
  mn := ⟨ha.posMn, le_alignUp (by decide)⟩
  aligned := hfits
  granMn := ha.granMn.1
  sizeCols := ⟨ha.posCols, ha.blocks⟩
  cols := by
    unfold Gemm.transformedCols
    split
    · exact ⟨ha.posCols, le_rfl⟩
    · exact ⟨ceilDiv_pos (by decide) ha.posCols, ceilDiv_le_self (by decide) ha.posCols.le⟩

/-- The cells of the output. -/
def cells (params : Fp8GemmScaleTransformParams) : Set (Int × Int) :=
  Grid.threads params.mn (transformedCols params)

/-- The indices of a cell stay in their types. -/
theorem Bounds.casts (hb : Bounds params) (hc : c ∈ cells params) :
    u32.cast c.1 = c.1 ∧ u32.cast c.2 = c.2 ∧
      u64.cast (c.1 / params.granMn.val * scaleCols params) = c.1 / params.granMn.val * scaleCols params ∧
      u64.cast (u64.cast (c.2 * alignUp params.mn 4) + c.1) = target params c ∧
      (0 ≤ c.1 / params.granMn.val * scaleCols params ∧
        c.1 / params.granMn.val * scaleCols params ≤ 2147483647 * 512) := by
  obtain ⟨⟨h0, h1⟩, h2, h3⟩ := Grid.mem_threads.mp hc
  obtain ⟨⟨hmn0, hmn1⟩, haligned, hgran, ⟨hk0, hk1⟩, hcols0, hcols1⟩ := hb
  have hrow0 : 0 ≤ c.1 / params.granMn.val := Int.ediv_nonneg h0 hgran.le
  have hrow1 : c.1 / params.granMn.val ≤ c.1 := Int.ediv_le_self _ h0
  have hprod0 := Int.mul_nonneg hrow0 hk0.le
  have hprod1 := Int.mul_le_mul (show c.1 / params.granMn.val ≤ 2147483647 by omega) hk1 hk0.le (by decide)
  have hplace0 := Int.mul_nonneg h2 (show 0 ≤ alignUp params.mn 4 by omega)
  have hplace1 := Int.mul_le_mul (show c.2 ≤ 512 by omega) haligned (by omega) (by decide)
  refine ⟨IntType.cast_of_has (has_u32.mpr ⟨by omega, by omega⟩), IntType.cast_of_has (has_u32.mpr ⟨by omega, by omega⟩),
    IntType.cast_of_has (has_u64.mpr ⟨by omega, by omega⟩), ?_, hprod0, hprod1⟩
  rw [IntType.cast_of_has (x := c.2 * alignUp params.mn 4) (has_u64.mpr ⟨by omega, by omega⟩),
    IntType.cast_of_has (has_u64.mpr ⟨by omega, by omega⟩), target, Int.add_comm]

/-- So do those of a thread. -/
theorem Bounds.linear (hb : Bounds params) {grid : Int} (hgrid : grid ≤ i32.hi) (ht : t ∈ Grid.threads grid 256) :
    u64.cast (u64.cast (t.1 * 256) + t.2) = Grid.number 256 t ∧
      u64.cast (params.mn * transformedCols params) = params.mn * transformedCols params := by
  obtain ⟨⟨h0, h1⟩, h2, h3⟩ := Grid.mem_threads.mp ht
  obtain ⟨⟨hmn0, hmn1⟩, haligned, -, ⟨hk0, hk1⟩, hcols0, hcols1⟩ := hb
  simp only [i32] at hgrid
  have hcount0 := Int.mul_nonneg hmn0.le hcols0.le
  have hcount1 := Int.mul_le_mul (show params.mn.val ≤ 2147483647 by omega) (show transformedCols params ≤ 512 by omega)
    hcols0.le (by decide)
  refine ⟨?_, IntType.cast_of_has (has_u64.mpr ⟨by omega, by omega⟩)⟩
  rw [IntType.cast_of_has (x := t.1 * 256) (has_u64.mpr ⟨by omega, by omega⟩),
    IntType.cast_of_has (has_u64.mpr ⟨by omega, by omega⟩)]
  rfl

theorem cell_mem_cells (hb : Bounds params) {grid : Int} (ht : t ∈ Grid.threads grid 256)
    (hlt : Grid.number 256 t < params.mn * transformedCols params) :
    Grid.cell (transformedCols params) (Grid.number 256 t) ∈ cells params :=
  Grid.cell_mem hb.cols.1 (Grid.number_mem ht).1 hlt

/-- A thread past the last cell does nothing, another works on its cell. -/
theorem broadcastTransposeFp32_of (hb : Bounds params) (hd : params.transformed.dtype = DTypeCode.f32) {grid : Int}
    (hgrid : grid ≤ i32.hi) (ht : t ∈ Grid.threads grid 256) :
    let thread := broadcastTransposeFp32 scale params.mn (scaleCols params) params.granMn (alignUp params.mn 4) t.1 256 t.2
    (params.mn * transformedCols params ≤ Grid.number 256 t → thread = {}) ∧
      (Grid.number 256 t < params.mn * transformedCols params →
        ThreadOf params scale (Grid.cell (transformedCols params) (Grid.number 256 t)) thread) := by
  have hcols : transformedCols params = scaleCols params := if_pos hd
  obtain ⟨hlinear, hcount⟩ := hb.linear hgrid ht
  have hmem := fun hlt => cell_mem_cells hb ht hlt
  generalize hc : Grid.cell (transformedCols params) (Grid.number 256 t) = c at hmem
  have hrow : Grid.number 256 t / scaleCols params = c.1 := by rw [← hc, hcols]; rfl
  have hcol : Grid.number 256 t % scaleCols params = c.2 := by rw [← hc, hcols]; rfl
  rw [hcols] at hcount hmem ⊢
  simp only [broadcastTransposeFp32, hlinear, hcount, hrow, hcol]
  refine ⟨fun hge => if_pos hge, fun hlt => ?_⟩
  rw [if_neg (not_le.mpr hlt)]
  obtain ⟨hcast1, hcast2, hprod, htarget, hprod0, hprod1⟩ := hb.casts (hmem hlt)
  obtain ⟨⟨h0, h1⟩, h2, h3⟩ := Grid.mem_threads.mp (hmem hlt)
  have hsource : u64.cast (c.1 / params.granMn.val * scaleCols params + c.2) = source params c.1 c.2 := by
    have := hb.sizeCols
    exact IntType.cast_of_has (has_u64.mpr ⟨by omega, by omega⟩)
  rw [hcast1, hcast2, htarget, hprod, hsource]
  refine ⟨?_, ?_, ?_, ?_⟩
  · intro place hplace
    exact ⟨c.2, ⟨h2, hcols ▸ h3⟩, List.mem_singleton.mp hplace⟩
  · rintro place w ⟨⟩
    exact ⟨rfl, (if_pos hd).mpr rfl⟩
  · exact iff_of_true rfl rfl
  · exact iff_of_false Bool.false_ne_true fun h => h.1 hd

theorem broadcastTransposeAndPackFp32IntoUe8m0_of (hb : Bounds params) (hd : params.transformed.dtype ≠ DTypeCode.f32)
    {grid : Int} (hgrid : grid ≤ i32.hi) (ht : t ∈ Grid.threads grid 256) :
    let thread := broadcastTransposeAndPackFp32IntoUe8m0 scale params.mn (scaleCols params) (transformedCols params)
      params.granMn (alignUp params.mn 4) t.1 256 t.2
    (params.mn * transformedCols params ≤ Grid.number 256 t → thread = {}) ∧
      (Grid.number 256 t < params.mn * transformedCols params →
        ThreadOf params scale (Grid.cell (transformedCols params) (Grid.number 256 t)) thread) := by
  obtain ⟨hlinear, hcount⟩ := hb.linear hgrid ht
  have hmem := fun hlt => cell_mem_cells hb ht hlt
  generalize hc : Grid.cell (transformedCols params) (Grid.number 256 t) = c at hmem
  have hrow : Grid.number 256 t / transformedCols params = c.1 := by rw [← hc]; rfl
  have hcol : Grid.number 256 t % transformedCols params = c.2 := by rw [← hc]; rfl
  simp only [broadcastTransposeAndPackFp32IntoUe8m0, hlinear, hcount, hrow, hcol]
  refine ⟨fun hge => if_pos hge, fun hlt => ?_⟩
  rw [if_neg (not_le.mpr hlt)]
  obtain ⟨hcast1, hcast2, hprod, htarget, hprod0, hprod1⟩ := hb.casts (hmem hlt)
  obtain ⟨⟨h0, h1⟩, h2, h3⟩ := Grid.mem_threads.mp (hmem hlt)
  rw [hcast1, hcast2, htarget, hprod]
  have hsizes : LaneSizes (scaleCols params) c.2 (c.1 / params.granMn.val * scaleCols params) :=
    ⟨hb.sizeCols.2, ⟨h2, by have := hb.sizeCols; have := hb.cols; omega⟩, hprod0, hprod1⟩
  have hlanes : Packed scale (scaleCols params) c.2 (c.1 / params.granMn.val * scaleCols params) 4 _ :=
    packLanes_packed hsizes le_rfl
  generalize packLanes scale (scaleCols params) c.2 (c.1 / params.granMn.val * scaleCols params) 4 = lanes at hlanes
  have hsource : ∀ lane, laneSource c.2 (c.1 / params.granMn.val * scaleCols params) lane =
      source params c.1 (4 * c.2 + lane) := fun lane => by rw [laneSource, source, Int.mul_comm c.2]
  have hreads : ∀ place ∈ lanes.reads, ∃ col, (0 ≤ col ∧ col < scaleCols params) ∧ place = source params c.1 col := by
    intro place hplace
    obtain ⟨lane, -, hin, rfl⟩ := hlanes.reads place hplace
    unfold InRow at hin
    exact ⟨4 * c.2 + lane, ⟨by omega, by omega⟩, hsource lane⟩
  cases hpacked : lanes.packed with
  | none =>
    obtain ⟨lane, hlane, hin, htrap⟩ := hlanes.stopped hpacked
    unfold InRow at hin
    refine ⟨hreads, fun place w h => (by cases h), iff_of_false (fun h => Bool.false_ne_true h.symm) Bool.false_ne_true,
      iff_of_true rfl ⟨hd, 4 * c.2 + lane, ⟨by omega, by omega⟩, by omega, fun hp => ?_⟩⟩
    rw [hsource, traps_eq_false_iff.mpr hp] at htrap
    cases htrap
  | some packed =>
    refine ⟨hreads, ?_, iff_of_true rfl rfl, iff_of_false Bool.false_ne_true ?_⟩
    · rintro place w ⟨⟩
      refine ⟨rfl, (if_neg hd).mpr fun lane hlane => ?_⟩
      obtain ⟨hin, hout⟩ := hlanes.bytes packed hpacked lane hlane
      rw [hsource] at hin
      by_cases h : 4 * c.2 + lane < scaleCols params
      · rw [if_pos h, hin ⟨hlane, show c.2 * 4 + lane < _ by omega⟩]
      · rw [if_neg h]
        exact hout fun h' => h (by have := h'.2; unfold InRow at this; omega)
    · rintro ⟨-, col, ⟨hc0, hc1⟩, hdiv, htrap⟩
      have hlane : col = 4 * c.2 + ((col % 4).toNat : Int) := by omega
      have hpassed := hlanes.passed packed hpacked (col % 4).toNat (by omega)
        (show c.2 * 4 + ((col % 4).toNat : Int) < _ by omega)
      rw [hsource, ← hlane] at hpassed
      exact htrap (traps_eq_false_iff.mp hpassed)

/-- The threads of a launch on a broadcast path. -/
theorem BroadcastLaunch.thread (hl : BroadcastLaunch params launch) (ha : Admitted params)
    (ht : t ∈ Grid.threads launch.config.gridDimX 256) :
    ∃ thread, runThread launch scale t = some thread ∧
      (params.mn * transformedCols params ≤ Grid.number 256 t → thread = {}) ∧
      (Grid.number 256 t < params.mn * transformedCols params →
        ThreadOf params scale (Grid.cell (transformedCols params) (Grid.number 256 t)) thread) := by
  have hb := ha.bounds hl.alignedFits
  by_cases hd : params.transformed.dtype = DTypeCode.f32
  · refine ⟨_, ?_, broadcastTransposeFp32_of hb hd hl.gridFits ht⟩
    rw [runThread, hl.args, hl.kernel, hl.blockDimX, broadcastArgs, if_pos hd, if_pos hd]
    rfl
  · refine ⟨_, ?_, broadcastTransposeAndPackFp32IntoUe8m0_of hb hd hl.gridFits ht⟩
    rw [runThread, hl.args, hl.kernel, hl.blockDimX, broadcastArgs, if_neg hd, if_neg hd]
    rfl

/-! ## The output -/

/-- The request for the layout of the output. -/
def layoutParams (params : Fp8GemmScaleTransformParams) : CApi.Fp8GemmScaleLayoutParams where
  mn := params.mn
  k := params.k
  granK := params.granK
  scaleDtype := params.transformed.dtype

theorem divisor_layoutParams (params : Fp8GemmScaleTransformParams) :
    (layoutParams params).divisor = scaleDivisor params.granK params.transformed.dtype := rfl

/-- The kernel and the layout round up to the same number of columns. -/
theorem cols_layoutParams (ha : Admitted params) : (layoutParams params).cols = transformedCols params := by
  show params.k.val ⌈/⌉ (layoutParams params).divisor = _
  rw [divisor_layoutParams, transformedCols, scaleDivisor]
  split
  · rw [Int.mul_one]
    rfl
  · rw [scaleCols, ceilDiv_ceilDiv ha.granK.1 (by decide)]

theorem alignedMn_layoutParams (ha : Admitted params) : (layoutParams params).alignedMn = alignUp params.mn 4 := by
  have hsize : 16 / params.transformed.dtype.storageSize = 4 := by
    rcases ha.isScale with h | h <;> rw [h] <;> rfl
  show alignUp params.mn (16 / params.transformed.dtype.storageSize) = _
  rw [hsize]

theorem layout_admits (ha : Admitted params) (hb : Bounds params) :
    (layoutParams params).Admits ∧ ¬ (layoutParams params).Overflows := by
  obtain ⟨hlo, hhi⟩ := scaleDivisor_bounds ha.granK.1 params.transformed.dtype
  have hg := ha.granK.2
  have hk : params.k.val ≤ params.granK * scaleCols params := le_mul_ceilDiv ha.granK.1
  have hk' := Int.mul_le_mul hg ha.blocks ha.posCols.le (by decide)
  have hdivisor := divisor_layoutParams params
  have hcols := cols_layoutParams ha
  have haligned := alignedMn_layoutParams ha
  have hmn := hb.mn
  have hle := hb.aligned
  have hc0 := hb.cols
  have hc1 := hb.sizeCols
  have hcount := Int.mul_le_mul (show transformedCols params ≤ 512 by omega) hle (by omega) (by decide)
  have hkval : (layoutParams params).k = params.k := rfl
  simp only [i32] at hg hk'
  refine ⟨⟨⟨ha.posMn, ha.posK, ha.granK.1, ha.isScale, ?_⟩, ?_, ?_, ?_⟩, ?_⟩
  · rw [hdivisor]
    simp only [i64]
    omega
  · rw [hdivisor, hkval]
    simp only [i64]
    omega
  · rw [haligned]
    simp only [i64]
    omega
  · rw [hcols, haligned]
    simp only [u64]
    omega
  · rintro ⟨-, h⟩
    rw [hdivisor, hkval] at h
    simp only [i64] at h
    omega

/-- What a run of a broadcast kernel does, over the threads of its grid. -/
structure Broadcasts (params : Fp8GemmScaleTransformParams) (scale : Int → BitVec 32) (layout : RawLayout2D)
    (grid : Set (Int × Int)) (thread : Int × Int → Thread) : Prop where
  reads : ∀ t ∈ grid, ∀ place ∈ (thread t).reads,
    0 ≤ place ∧ place < (params.scale.shape 0).val * params.scale.shape 1
  writes : ∀ t ∈ grid, ∀ place w, (thread t).write = some (place, w) →
    (0 ≤ place ∧ place < layout.elementCount) ∧
      ∃ c ∈ layout.view.Index, place = layout.view.offset c ∧ IsValue params scale c w
  cells : (∀ t ∈ grid, (thread t).trapped = false) → ∀ c ∈ layout.view.Index,
    ∃! t, t ∈ grid ∧ ∃ w, (thread t).write = some (layout.view.offset c, w)
  traps : (∀ t ∈ grid, (thread t).trapped = false) ↔ params.transformed.dtype = DTypeCode.f32 ∨
    ∀ row col, (0 ≤ row ∧ row < (params.scale.shape 0).val) → (0 ≤ col ∧ col < (params.scale.shape 1).val) →
      Binary32.IsPowerOfTwo (scale (row * params.scale.shape 1 + col))
  lossless : params.transformed.dtype ≠ DTypeCode.f32 → (∀ t ∈ grid, (thread t).trapped = false) →
    ∀ c ∈ layout.view.Index, ∀ t ∈ grid, ∀ w, (thread t).write = some (layout.view.offset c, w) →
      ∀ lane : Nat, lane < 4 → 4 * c.2 + lane < scaleCols params →
        (byte w lane).setWidth 32 <<< 23 = scale (source params c.1 (4 * c.2 + lane))

/-- The scales that the row of a cell is computed from. -/
theorem source_eq (ha : Admitted params) (row col : Int) :
    source params row col = row / params.granMn.val * params.scale.shape 1 + col := by
  rw [source, ha.cols]

/-- A row of the output has a row of scales, and each row of scales has a row of the output. -/
theorem ediv_granMn (ha : Admitted params) {row : Int} :
    (0 ≤ row ∧ row < params.mn.val → 0 ≤ row / params.granMn.val ∧ row / params.granMn.val < (params.scale.shape 0).val) ∧
      (0 ≤ row ∧ row < (params.scale.shape 0).val → 0 ≤ row * params.granMn.val ∧ row * params.granMn.val < params.mn.val ∧
        row * params.granMn.val / params.granMn.val = row) := by
  have hg := ha.granMn.1
  rw [ha.rows]
  refine ⟨fun h => ⟨Int.ediv_nonneg h.1 hg.le, ?_⟩, fun h => ⟨Int.mul_nonneg h.1 hg.le, ?_, Int.mul_ediv_cancel _ hg.ne'⟩⟩
  · exact Int.ediv_lt_of_lt_mul hg (h.2.trans_le (le_ceilDiv_mul hg))
  · have hlast := mul_ceilDiv_lt (b := params.mn.val) hg
    have hnext := Int.mul_le_mul_of_nonneg_right (show row + 1 ≤ params.mn.val ⌈/⌉ params.granMn.val by omega) hg.le
    rw [Int.add_mul, Int.one_mul] at hnext
    rw [Int.mul_comm params.granMn.val] at hlast
    omega

/-- The threads of a grid that has one for each cell. -/
structure Threads (params : Fp8GemmScaleTransformParams) (scale : Int → BitVec 32) (grid : Set (Int × Int))
    (thread : Int × Int → Thread) : Prop where
  gridEq : grid = Grid.threads ((params.mn.val * transformedCols params) ⌈/⌉ (256 : Int)) 256
  idle : ∀ t ∈ grid, params.mn * transformedCols params ≤ Grid.number 256 t → thread t = {}
  works : ∀ t ∈ grid, Grid.number 256 t < params.mn * transformedCols params →
    ThreadOf params scale (Grid.cell (transformedCols params) (Grid.number 256 t)) (thread t)

namespace Threads

variable {grid : Set (Int × Int)} {thread : Int × Int → Thread}

/-- A thread that reads or writes works on a cell. -/
theorem cell_of (h : Threads params scale grid thread) (hb : Bounds params) (ht : t ∈ grid) :
    thread t = {} ∨ ∃ c ∈ cells params, Grid.cell (transformedCols params) (Grid.number 256 t) = c ∧
      Grid.number 256 t < params.mn * transformedCols params ∧ ThreadOf params scale c (thread t) := by
  by_cases hlt : Grid.number 256 t < params.mn * transformedCols params
  · exact .inr ⟨_, cell_mem_cells hb (h.gridEq ▸ ht) hlt, rfl, hlt, h.works t ht hlt⟩
  · exact .inl (h.idle t ht (not_lt.mp hlt))

/-- The thread of a cell. -/
theorem existsUnique_thread (h : Threads params scale grid thread) (hc : c ∈ cells params) :
    ∃! t, t ∈ grid ∧ Grid.number 256 t < params.mn * transformedCols params ∧
      Grid.cell (transformedCols params) (Grid.number 256 t) = c := by
  rw [h.gridEq]
  exact Grid.existsUnique_cell (by decide) hc

theorem traps_iff (h : Threads params scale grid thread) (ha : Admitted params) (hb : Bounds params) :
    (∀ t ∈ grid, (thread t).trapped = false) ↔ params.transformed.dtype = DTypeCode.f32 ∨
      ∀ row col, (0 ≤ row ∧ row < (params.scale.shape 0).val) → (0 ≤ col ∧ col < (params.scale.shape 1).val) →
        Binary32.IsPowerOfTwo (scale (row * params.scale.shape 1 + col)) := by
  constructor
  · intro hgo
    by_cases hd : params.transformed.dtype = DTypeCode.f32
    · exact .inl hd
    · refine .inr fun row col hrow hcol => ?_
      obtain ⟨h0, h1, hdiv⟩ := (ediv_granMn ha).2 hrow
      rw [ha.cols] at hcol
      have hpacked : col / 4 < transformedCols params := by
        rw [transformedCols, if_neg hd]
        exact Int.ediv_lt_of_lt_mul (by decide) (hcol.2.trans_le (le_ceilDiv_mul (by decide)))
      have hc : (row * params.granMn.val, col / 4) ∈ cells params :=
        Grid.mem_threads.mpr ⟨⟨h0, h1⟩, Int.ediv_nonneg hcol.1 (by decide), hpacked⟩
      obtain ⟨t, ⟨ht, hlt, hcell⟩, -⟩ := h.existsUnique_thread hc
      have hof := hcell ▸ h.works t ht hlt
      by_contra hpow
      have htrap := hof.traps.mpr ⟨hd, col, hcol, rfl, by rwa [source_eq ha, hdiv]⟩
      rw [hgo t ht] at htrap
      cases htrap
  · intro hgood t ht
    rcases h.cell_of hb ht with hidle | ⟨c, hc, -, -, hof⟩
    · rw [hidle]
    · by_contra htrap
      obtain ⟨hd, col, hcol, -, hpow⟩ := hof.traps.mp (Bool.eq_true_of_not_eq_false htrap)
      obtain ⟨hrow, -⟩ := Grid.mem_threads.mp hc
      refine hpow ?_
      rw [source_eq ha]
      exact hgood.resolve_left hd _ _ ((ediv_granMn ha).1 hrow) (by rwa [ha.cols])

theorem reads_inBounds (h : Threads params scale grid thread) (ha : Admitted params) (hb : Bounds params) (ht : t ∈ grid)
    {place : Int} (hplace : place ∈ (thread t).reads) :
    0 ≤ place ∧ place < (params.scale.shape 0).val * params.scale.shape 1 := by
  rcases h.cell_of hb ht with hidle | ⟨c, hc, -, -, hof⟩
  · rw [hidle] at hplace
    cases hplace
  · obtain ⟨col, hcol, rfl⟩ := hof.reads place hplace
    rw [source_eq ha]
    rw [← ha.cols] at hcol
    exact Grid.number_mem (t := (c.1 / params.granMn.val, col))
      (Grid.mem_threads.mpr ⟨(ediv_granMn ha).1 (Grid.mem_threads.mp hc).1, hcol⟩)

/-- **On a layout that holds the cells, the threads fill it.** -/
theorem broadcasts (h : Threads params scale grid thread) (ha : Admitted params) (hb : Bounds params)
    {layout : RawLayout2D} (hindex : layout.view.Index = cells params)
    (hoffset : ∀ c, layout.view.offset c = target params c) (hsound : layout.view.Sound layout.elementCount) :
    Broadcasts params scale layout grid thread := by
  have hwrites : ∀ t ∈ grid, ∀ place w, (thread t).write = some (place, w) → ∃ c ∈ layout.view.Index,
      Grid.cell (transformedCols params) (Grid.number 256 t) = c ∧
        Grid.number 256 t < params.mn * transformedCols params ∧ place = layout.view.offset c ∧
        IsValue params scale c w := by
    intro t ht place w hw
    rcases h.cell_of hb ht with hidle | ⟨c, hc, hcell, hlt, hof⟩
    · rw [hidle] at hw
      cases hw
    · obtain ⟨rfl, hvalue⟩ := hof.writes place w hw
      exact ⟨c, hindex ▸ hc, hcell, hlt, (hoffset c).symm, hvalue⟩
  refine ⟨fun t ht place hplace => h.reads_inBounds ha hb ht hplace, fun t ht place w hw => ?_, fun hgo c hc => ?_,
    h.traps_iff ha hb, fun hd hgo c hc t ht w hw lane hlane hlt => ?_⟩
  · obtain ⟨c, hc, -, -, rfl, hvalue⟩ := hwrites t ht place w hw
    exact ⟨hsound.inBounds hc, c, hc, rfl, hvalue⟩
  · obtain ⟨t, ⟨ht, hlt, hcell⟩, hunique⟩ := h.existsUnique_thread (hindex ▸ hc)
    have hof := hcell ▸ h.works t ht hlt
    obtain ⟨⟨place, w⟩, hw⟩ := Option.isSome_iff_exists.mp (hof.outcome.mp (hgo t ht))
    obtain ⟨rfl, -⟩ := hof.writes place w hw
    refine ⟨t, ⟨ht, w, by rw [hw, hoffset]⟩, ?_⟩
    rintro s ⟨hs, w', hw'⟩
    obtain ⟨c', hc', hcell', hlt', hplace, -⟩ := hwrites s hs _ w' hw'
    obtain rfl := hsound.aliasFree hc hc' hplace
    exact hunique s ⟨hs, hlt', hcell'⟩
  · obtain ⟨c', hc', -, -, hplace, hvalue⟩ := hwrites t ht _ w hw
    obtain rfl := hsound.aliasFree hc hc' hplace
    obtain ⟨hrow, hcol0, -⟩ := Grid.mem_threads.mp (hindex ▸ hc)
    rw [IsValue, if_neg hd] at hvalue
    rw [hvalue lane hlane, if_pos hlt, source_eq ha]
    have hpow := ((h.traps_iff ha hb).mp hgo).resolve_left hd _ (4 * c.2 + lane) ((ediv_granMn ha).1 hrow)
      ⟨by omega, by rwa [ha.cols]⟩
    obtain ⟨-, hs, hf⟩ := Binary32.isPowerOfTwo_iff.mp hpow
    exact (Binary32.eq_shift hs hf).symm

end Threads

/-- The output of a launch is described by the layout helper, and the kernel fills it. -/
structure BroadcastCorrect (params : Fp8GemmScaleTransformParams) (launch : Launch) (scale : Int → BitVec 32) : Prop where
  layout : ∀ s : CApi.CallState, s.out ≠ none → CApi.fp8GemmScaleLayout (some (layoutParams params)) s =
    .ok (.success, ⟨"", some (layoutParams params).layout⟩)
  view : (layoutParams params).layout.view = ⟨params.transformed.shape 0, params.transformed.shape 1,
    params.transformed.stride 0, params.transformed.stride 1⟩
  blockDimX : launch.config.blockDimX = 256
  gridDimY : launch.config.gridDimY = 1
  run : ∃ thread, (∀ t ∈ Grid.threads launch.config.gridDimX 256, runThread launch scale t = some (thread t)) ∧
    Broadcasts params scale (layoutParams params).layout (Grid.threads launch.config.gridDimX 256) thread

/-- **The broadcast kernels fill the output of an accepted request, cell by cell.** -/
theorem broadcast_correct {runtime : Runtime} (h : launchFp8GemmTransformScale runtime params = .ok launch)
    (hgran : params.granMn.val ≠ 1) (scale : Int → BitVec 32) : BroadcastCorrect params launch scale := by
  obtain ⟨ha, hbroadcast, -⟩ := launchFp8GemmTransformScale_ok h
  have hl := hbroadcast hgran
  have hb := ha.bounds hl.alignedFits
  let layout := (layoutParams params).layout
  let grid := Grid.threads launch.config.gridDimX 256
  obtain ⟨hadmits, hno⟩ := layout_admits ha hb
  have hview : layout.view = ⟨params.mn, transformedCols params, 1, alignUp params.mn 4⟩ := by
    show Strided.View.mk params.mn (layoutParams params).cols 1 (layoutParams params).alignedMn = _
    rw [cols_layoutParams ha, alignedMn_layoutParams ha]
  have hindex : layout.view.Index = cells params := by
    rw [hview]
    rfl
  have hoffset : ∀ c, layout.view.offset c = target params c := fun c => by
    rw [hview]
    simp only [Strided.View.offset, target, Int.mul_one]
  have hsound : layout.view.Sound layout.elementCount := hadmits.sound
  have hgrid : grid = Grid.threads ((params.mn.val * transformedCols params) ⌈/⌉ (256 : Int)) 256 := by
    show Grid.threads _ _ = _
    rw [hl.gridDimX]
  refine ⟨fun s hs => (CApi.fp8GemmScaleLayout_settles _ s).success hno hadmits hs, ?_, hl.blockDimX, hl.gridDimY, ?_⟩
  · rw [hview, ha.transformedRows, ha.transformedCols, ha.rowStride, ha.colStride, ← cols_layoutParams ha]
    rfl
  have hthread : ∀ t ∈ grid, ∃ thread, runThread launch scale t = some thread ∧
      (params.mn * transformedCols params ≤ Grid.number 256 t → thread = {}) ∧
      (Grid.number 256 t < params.mn * transformedCols params →
        ThreadOf params scale (Grid.cell (transformedCols params) (Grid.number 256 t)) thread) := by
    intro t ht
    exact hl.thread ha ht
  have hrun : ∀ t ∈ grid, runThread launch scale t = some ((runThread launch scale t).getD {}) := by
    intro t ht
    obtain ⟨thread, hthread, -⟩ := hthread t ht
    rw [hthread]
    rfl
  have hthreads : Threads params scale grid fun t => (runThread launch scale t).getD {} := by
    refine ⟨hgrid, fun t ht hge => ?_, fun t ht hlt => ?_⟩
    · obtain ⟨thread, hthread, hidle, -⟩ := hthread t ht
      rw [hthread]
      exact hidle hge
    · obtain ⟨thread, hthread, -, hworks⟩ := hthread t ht
      rw [hthread]
      exact hworks hlt
  exact ⟨_, hrun, hthreads.broadcasts ha hb hindex hoffset hsound⟩

end

/-- Five columns of scales for the blocks of 200 rows. -/
def compactScale : Fp8GemmScaleTransformParams where
  scale := ⟨256, DTypeCode.f32, 2, ![2, 5, I64.zero, I64.zero],
    ![5, I64.one, I64.zero, I64.zero]⟩
  transformed := ⟨512, DTypeCode.packedUe8M0, 2, ![200, 2, I64.zero, I64.zero],
    ![I64.one, 200, I64.zero, I64.zero]⟩
  mn := 200
  k := 600
  granMn := 128
  granK := 128
  stream := 0

theorem compactScale_broadcast :
    ∃ launch, launchFp8GemmTransformScale b200 compactScale = .ok launch ∧
      BroadcastCorrect compactScale launch fun _ => 0x3f800000#32 := by
  obtain ⟨launch, h⟩ : ∃ launch, launchFp8GemmTransformScale b200 compactScale = .ok launch := ⟨_, rfl⟩
  exact ⟨launch, h, broadcast_correct h (by decide) _⟩

end DeepGemmRs.Raw.Gemm
