import DeepGemmRs.Lib.Pages
import DeepGemmRs.Raw.MqaExact

/-!
# The fused cache

The maps of a paged launch into the cache: a page holds the data of its tokens, then their scales. A map
addresses bits, so that an FP4 element is half a byte.

* `TensorMap.InBounds`, `Addresses` : what a coordinate of a map addresses;
* `PagedMqaDispatch.cacheArgs` : where a launch holds the maps of the data and of the scales;
* `Coord`, `PartitionsCache` : the coordinates of both maps, and what they are to be together;
* `cache_partitioned` : **the maps of an accepted launch partition the cache**.
-/

namespace DeepGemmRs.Raw

open Checked MachineInt Pages

/-! ## Coordinates -/

/-- The bits of an element in global memory. -/
def TensorMapDataType.bits : TensorMapDataType → Int
  | .uint8 => 8
  | .bfloat16 => 16
  | .u4Align16B | .u4Align8B => 4
  | .tfloat32 | .int32 | .float32 => 32

namespace TensorMap

/-- The first bit of the element at a coordinate, the innermost component first. -/
def bit (map : TensorMap) (coord : List Int) : Int :=
  8 * map.data + coord.headD 0 * map.dataType.bits + 8 * (List.zipWith (· * ·) coord.tail map.gmemStrides).sum

/-- The coordinates that TMA does not fill with zeros. -/
def InBounds (map : TensorMap) (coord : List Int) : Prop :=
  List.Forall₂ (fun x dim => 0 ≤ x ∧ x < dim) coord map.gmemDims

def Addresses (map : TensorMap) (coord : List Int) (bit : Int) : Prop :=
  map.bit coord ≤ bit ∧ bit < map.bit coord + map.dataType.bits

end TensorMap

/-- The arguments that map the data and the scales of the cache. -/
def PagedMqaDispatch.cacheArgs : PagedMqaDispatch → Nat × Nat
  | .sm90 _ => (9, 10)
  | .sm100 _ _ => (10, 11)

/-- The maps of the data and of the scales. -/
structure CacheMaps where
  kv : TensorMap
  kvScales : TensorMap

/-- A coordinate of either map: an element by block, token and number, or a scale by block and token. -/
abbrev Coord := Pages.Place

namespace CacheMaps

variable (maps : CacheMaps)

/-- The map of a coordinate and the coordinate in it. -/
def lookup : Coord → TensorMap × List Int
  | .element block token x => (maps.kv, [x, token, block])
  | .word block token => (maps.kvScales, [token, block])

def InBounds (c : Coord) : Prop := (maps.lookup c).1.InBounds (maps.lookup c).2

def Addresses (c : Coord) (bit : Int) : Prop := (maps.lookup c).1.Addresses (maps.lookup c).2 bit

end CacheMaps

/-- The bytes of a tensor of bytes. -/
def cacheBytes (cache : RawTensor) : Int := cache.shape 0 * cache.shape 1 * cache.shape 2 * cache.shape 3

/-- The bit lies in the buffer. -/
def InCache (cache : RawTensor) (bit : Int) : Prop :=
  8 * (cache.data : Int) ≤ bit ∧ bit < 8 * (cache.data + cacheBytes cache)

/-- The maps take the cache apart: each bit has one coordinate, each byte one scale or the `perByte` data
coordinates of one group, no coordinate leaves the buffer, and in a block the data comes first. -/
structure PartitionsCache (cache : RawTensor) (maps : CacheMaps) (perByte : Int) : Prop where
  bit : ∀ bit, InCache cache bit → ∃! c, maps.InBounds c ∧ maps.Addresses c bit
  byte : ∀ byte, (cache.data : Int) ≤ byte ∧ byte < cache.data + cacheBytes cache → ∃! g : Coord,
    ∀ c, maps.InBounds c → ((∃ bit, bit / 8 = byte ∧ maps.Addresses c bit) ↔ c.group perByte = g)
  inside : ∀ c bit, maps.InBounds c → maps.Addresses c bit → InCache cache bit
  ordered : ∀ block token x token' bit bit', maps.InBounds (.element block token x) → maps.InBounds (.word block token') →
    maps.Addresses (.element block token x) bit → maps.Addresses (.word block token') bit' → bit / 8 < bit' / 8

/-! ## Pages -/

/-- The maps of pages: their extents are those of the layout, their strides its rows and pages in bytes. -/
structure MapsPages (data : Ptr) (l : Layout) (maps : CacheMaps) : Prop where
  kvBits : maps.kv.dataType.bits = l.width
  kvData : maps.kv.data = data
  kvDims : maps.kv.gmemDims = [l.cols, l.rows, l.pages]
  kvStrides : ∃ row page, maps.kv.gmemStrides = [row, page] ∧ 8 * row = l.row ∧ 8 * page = l.page
  scaleBits : maps.kvScales.dataType.bits = l.word
  scaleData : 8 * (maps.kvScales.data : Int) = 8 * data + l.data
  scaleDims : maps.kvScales.gmemDims = [l.rows, l.pages]
  scaleStrides : ∃ page, maps.kvScales.gmemStrides = [page] ∧ 8 * page = l.page
  word : l.word = 32

namespace MapsPages

variable {data : Ptr} {l : Layout} {maps : CacheMaps} (h : MapsPages data l maps)
include h

/-- The coordinates are the places of the layout. -/
theorem inBounds_iff (c : Coord) : maps.InBounds c ↔ c.Valid l := by
  cases c with
  | element block token x =>
    show List.Forall₂ _ [x, token, block] maps.kv.gmemDims ↔ _
    rw [h.kvDims]
    simp only [List.forall₂_cons, List.forall₂_nil_left_iff, and_true]
    exact ⟨fun ⟨hx, ht, hb⟩ => ⟨hb, ht, hx⟩, fun ⟨hb, ht, hx⟩ => ⟨hx, ht, hb⟩⟩
  | word block token =>
    show List.Forall₂ _ [token, block] maps.kvScales.gmemDims ↔ _
    rw [h.scaleDims]
    simp only [List.forall₂_cons, List.forall₂_nil_left_iff, and_true]
    exact and_comm

/-- What a coordinate addresses is what its place holds. -/
theorem addresses_iff (c : Coord) (bit : Int) : maps.Addresses c bit ↔ c.Holds l (bit - 8 * data) := by
  cases c with
  | element block token x =>
    obtain ⟨row, page, hstrides, hrow, hpage⟩ := h.kvStrides
    have hbit : maps.kv.bit [x, token, block] = 8 * data + (Place.element block token x).start l := by
      show 8 * (maps.kv.data : Int) + x * maps.kv.dataType.bits + 8 * (List.zipWith (· * ·) [token, block]
        maps.kv.gmemStrides).sum = 8 * data + (block * l.page + (token * l.row + x * l.width))
      rw [h.kvData, h.kvBits, hstrides, ← hrow, ← hpage]
      simp only [List.zipWith_cons_cons, List.zipWith_nil_left, List.sum_cons, List.sum_nil]
      ring
    show maps.kv.bit [x, token, block] ≤ bit ∧ bit < maps.kv.bit [x, token, block] + maps.kv.dataType.bits ↔
      (Place.element block token x).start l ≤ _ ∧ _ < (Place.element block token x).start l + l.width
    rw [hbit, h.kvBits]
    omega
  | word block token =>
    obtain ⟨page, hstrides, hpage⟩ := h.scaleStrides
    have hbit : maps.kvScales.bit [token, block] = 8 * data + (Place.word block token).start l := by
      show 8 * (maps.kvScales.data : Int) + token * maps.kvScales.dataType.bits + 8 * (List.zipWith (· * ·) [block]
        maps.kvScales.gmemStrides).sum = 8 * data + (block * l.page + (l.data + token * l.word))
      rw [h.scaleData, h.scaleBits, hstrides, ← hpage]
      simp only [List.zipWith_cons_cons, List.zipWith_nil_left, List.sum_cons, List.sum_nil]
      ring
    show maps.kvScales.bit [token, block] ≤ bit ∧
      bit < maps.kvScales.bit [token, block] + maps.kvScales.dataType.bits ↔
      (Place.word block token).start l ≤ _ ∧ _ < (Place.word block token).start l + l.word
    rw [hbit, h.scaleBits]
    omega

/-- A byte has the coordinates of one group. -/
theorem byte {cache : RawTensor} {perByte : Int} (hdata : data = cache.data) (htotal : l.total = 8 * cacheBytes cache)
    (hpos : 0 < perByte) (hdvd : perByte ∣ l.cols) (hbyte : 8 = perByte * l.width) (byte : Int)
    (hb : (cache.data : Int) ≤ byte ∧ byte < cache.data + cacheBytes cache) :
    ∃! g : Coord, ∀ c, maps.InBounds c → ((∃ bit, bit / 8 = byte ∧ maps.Addresses c bit) ↔ c.group perByte = g) := by
  obtain ⟨hb0, hb1⟩ := hb
  have hword : (8 : Int) ∣ l.word := h.word ▸ by decide
  obtain ⟨g, hg, hunique⟩ := existsUnique_group (g := byte - cache.data) hpos hdvd hbyte hword
    (by omega) (by omega)
  have hmeets : ∀ c, (∃ bit, bit / 8 = byte ∧ maps.Addresses c bit) ↔
      ∃ b, b / 8 = byte - cache.data ∧ c.Holds l b := by
    intro c
    constructor
    · rintro ⟨bit, hbit, haddr⟩
      rw [h.addresses_iff, hdata] at haddr
      exact ⟨_, by omega, haddr⟩
    · rintro ⟨b, hb, hholds⟩
      refine ⟨b + 8 * cache.data, by omega, ?_⟩
      rw [h.addresses_iff, hdata]
      rwa [Int.add_sub_cancel]
  simp only [hmeets, h.inBounds_iff]
  exact ⟨g, hg, hunique⟩

/-- Maps of pages that fill the cache partition it. -/
theorem partitions {cache : RawTensor} {perByte : Int} (hdata : data = cache.data)
    (htotal : l.total = 8 * cacheBytes cache) (hpos : 0 < perByte) (hdvd : perByte ∣ l.cols)
    (hbyte : 8 = perByte * l.width) : PartitionsCache cache maps perByte where
  bit bit hb := by
    obtain ⟨hb0, hb1⟩ := hb
    simp only [h.inBounds_iff, h.addresses_iff, hdata]
    exact existsUnique_place (by omega) (by omega)
  byte := h.byte hdata htotal hpos hdvd hbyte
  inside c bit hc haddr := by
    rw [h.inBounds_iff] at hc
    rw [h.addresses_iff, hdata] at haddr
    obtain ⟨h0, h1⟩ := Place.holds_total hc haddr
    exact ⟨by omega, by omega⟩
  ordered block token x token' bit bit' hc hc' haddr haddr' := by
    have hlt : bit < bit' := by
      have := element_before_word ((h.inBounds_iff _).mp hc) ((h.inBounds_iff _).mp hc')
        ((h.addresses_iff _ _).mp haddr) ((h.addresses_iff _ _).mp haddr')
      omega
    -- no byte has coordinates of both kinds
    have hne : bit / 8 ≠ bit' / 8 := by
      intro heq
      obtain ⟨h0, h1⟩ := Place.holds_total ((h.inBounds_iff _).mp hc) ((h.addresses_iff _ _).mp haddr)
      rw [hdata] at h0 h1
      obtain ⟨g, hg, -⟩ := h.byte hdata htotal hpos hdvd hbyte (bit / 8) ⟨by omega, by omega⟩
      have hdataGroup := (hg _ hc).mp ⟨bit, rfl, haddr⟩
      have hscaleGroup := (hg _ hc').mp ⟨bit', heq.symm, haddr'⟩
      exact Place.noConfusion (hdataGroup.trans hscaleGroup.symm)
    omega

end MapsPages

/-! ## Descriptors -/

/-- A descriptor maps the extents it was given, its strides in bytes. -/
theorem makeTma3dDesc_ok {data : Ptr} {dtype : DTypeCode} {inner outer batch smemInner smemOuter smemBatch outerStride
    batchStride swizzleMode : Int} {options : TmaOptions} {map : TensorMap}
    (h : makeTma3dDesc .exact data dtype inner outer batch smemInner smemOuter smemBatch outerStride batchStride
      swizzleMode options = .ok map) :
    tensorMapDtype dtype options.allowTf32 options.fp4UnpackedSmem = .ok map.dataType ∧ map.data = data ∧
      map.gmemDims = [inner, outer, batch] ∧
      map.gmemStrides = [outerStride * dtypeElementSize dtype, batchStride * dtypeElementSize dtype] := by
  simp only [makeTma3dDesc, strideBytes, tmaElemSize, bind_eq_ok, Arith.exact_cast, Except.ok.injEq,
    exists_eq_left'] at h
  obtain ⟨_, ⟨_, -, _, -, rfl⟩, _, -, _, -, dataType, hd, _, -, rfl⟩ := h
  exact ⟨hd, rfl, rfl, rfl⟩

theorem makeTma2dDesc_ok {data : Ptr} {dtype : DTypeCode} {inner outer smemInner smemOuter outerStride
    swizzleMode : Int} {options : TmaOptions} {map : TensorMap}
    (h : makeTma2dDesc .exact data dtype inner outer smemInner smemOuter outerStride swizzleMode options = .ok map) :
    tensorMapDtype dtype options.allowTf32 options.fp4UnpackedSmem = .ok map.dataType ∧ map.data = data ∧
      map.gmemDims = [inner, outer] ∧ map.gmemStrides = [outerStride * dtypeElementSize dtype] := by
  simp only [makeTma2dDesc, strideBytes, tmaElemSize, bind_eq_ok, Arith.exact_cast, Except.ok.injEq,
    exists_eq_left'] at h
  obtain ⟨_, ⟨_, -, _, -, rfl⟩, _, -, _, -, dataType, hd, _, -, rfl⟩ := h
  exact ⟨hd, rfl, rfl, rfl⟩

/-! ## Launches -/

section
variable {params : PagedMqaLogitsParams} {device : DeviceInfo} {d : PagedMqaDispatch} {launch : Launch} {pdl : Bool}

/-- The bytes of a token, its scale apart. -/
def PagedMqaLogitsParams.kvBytes (params : PagedMqaLogitsParams) : Int := params.q.shape 3

/-- The bits of an element of the cache. -/
def elementBits (isFp4 : Bool) : Int := if isFp4 then 4 else 8

/-- The data coordinates of a byte. -/
def perByte (isFp4 : Bool) : Int := if isFp4 then 2 else 1

theorem row_eq : params.args.headDim * elementBits params.hasQScale = 8 * params.kvBytes := by
  show headDimOf params.hasQScale params.kvBytes * elementBits params.hasQScale = 8 * params.kvBytes
  cases params.hasQScale with
  | false => exact Int.mul_comm _ _
  | true =>
    show params.kvBytes * 2 * 4 = 8 * params.kvBytes
    ring

namespace PagedMqaChecked

variable (h : PagedMqaChecked device params)
include h

theorem kvBytes_pos : 0 < params.kvBytes := shape_pos_of_requireContiguous h.q 3 (by decide)

theorem headDim_pos : 0 < params.args.headDim := by
  have hrow : params.args.headDim * _ = _ := row_eq
  have hpos := h.kvBytes_pos
  unfold elementBits at hrow
  split at hrow <;> omega

/-- The pages of a checked cache, in bits. -/
def cacheLayout : Layout where
  pages := params.args.numKvBlocks
  rows := params.args.blockKv
  cols := params.args.headDim
  width := elementBits params.hasQScale
  word := 32
  rows_pos := shape_pos_of_requireFusedKvCache h.fusedKvCache 1
  cols_pos := h.headDim_pos
  width_pos := by
    unfold elementBits
    split <;> decide
  word_pos := by decide

theorem cacheLayout_row : h.cacheLayout.row = 8 * params.kvBytes := row_eq

theorem cacheLayout_data : h.cacheLayout.data = 8 * (params.args.blockKv * params.kvBytes) := by
  show params.args.blockKv * h.cacheLayout.row = _
  rw [h.cacheLayout_row]
  ring

/-- A page is what the cache steps by from block to block. -/
theorem cacheLayout_page : h.cacheLayout.page = 8 * (params.fusedKvCache.stride 0).val := by
  obtain ⟨-, -, -, -, -, -, ⟨hstride, -⟩, -⟩ := (requireFusedKvCache_eq_ok h.kvBytes_pos.le).mp h.fusedKvCache
  show h.cacheLayout.data + params.args.blockKv * 32 = _
  rw [h.cacheLayout_data, hstride]
  show 8 * (params.args.blockKv * params.kvBytes) + params.args.blockKv * 32 =
    8 * (params.args.blockKv * (params.kvBytes + 4))
  ring

theorem cacheLayout_total : h.cacheLayout.total = 8 * cacheBytes params.fusedKvCache := by
  obtain ⟨-, -, -, -, ⟨h2, h3⟩, -, ⟨hstride, -⟩, -⟩ :=
    (requireFusedKvCache_eq_ok h.kvBytes_pos.le).mp h.fusedKvCache
  show params.args.numKvBlocks * h.cacheLayout.page = _
  rw [h.cacheLayout_page, hstride, cacheBytes, h2, h3]
  show params.args.numKvBlocks * (8 * (params.args.blockKv * (params.kvBytes + 4))) =
    8 * (params.args.numKvBlocks * params.args.blockKv * 1 * (params.kvBytes + 4))
  ring

/-- A block is a whole number of words, which the stride of the scales counts. -/
theorem scaleStride_eq : (params.fusedKvCache.stride 0).val.tdiv 4 * 4 = params.fusedKvCache.stride 0 := by
  obtain ⟨-, -, -, -, -, -, -, halign⟩ := (requireFusedKvCache_eq_ok h.kvBytes_pos.le).mp h.fusedKvCache
  exact Int.tdiv_mul_cancel (Int.dvd_of_emod_eq_zero halign)

/-- The descriptors of the cache map its pages, whatever kernel they are for. -/
theorem mapsPages {kvDtype scaleDtype : DTypeCode} {maps : CacheMaps} {kvBytes s1 s2 s3 s4 s5 : Int}
    {swizzle : Int} {options scaleOptions : TmaOptions} (hbytes : kvBytes = params.kvBytes)
    (hkv : makeTma3dDesc .exact params.fusedKvCache.data kvDtype params.args.headDim params.args.blockKv
      params.args.numKvBlocks s1 s2 s3 kvBytes (params.fusedKvCache.stride 0) swizzle options = .ok maps.kv)
    (hscales : makeTma2dDesc .exact (params.fusedKvCache.data + (params.args.blockKv * kvBytes).toNat) scaleDtype
      params.args.blockKv params.args.numKvBlocks s4 s5 ((params.fusedKvCache.stride 0).val.tdiv 4) 0 scaleOptions =
        .ok maps.kvScales)
    (hkvSize : dtypeElementSize kvDtype = 1) (hscaleSize : dtypeElementSize scaleDtype = 4)
    (hkvBits : maps.kv.dataType.bits = elementBits params.hasQScale) (hscaleBits : maps.kvScales.dataType.bits = 32) :
    MapsPages params.fusedKvCache.data h.cacheLayout maps := by
  subst hbytes
  obtain ⟨-, hdata, hdims, hstrides⟩ := makeTma3dDesc_ok hkv
  obtain ⟨-, hscaleData, hscaleDims, hscaleStrides⟩ := makeTma2dDesc_ok hscales
  rw [hkvSize, Int.mul_one, Int.mul_one] at hstrides
  rw [hscaleSize, h.scaleStride_eq] at hscaleStrides
  have hpage : 0 ≤ params.args.blockKv * params.kvBytes :=
    Int.mul_nonneg h.cacheLayout.rows_pos.le h.kvBytes_pos.le
  refine ⟨hkvBits, hdata, hdims, ⟨_, _, hstrides, h.cacheLayout_row.symm, h.cacheLayout_page.symm⟩, hscaleBits, ?_,
    hscaleDims, ⟨_, hscaleStrides, h.cacheLayout_page.symm⟩, rfl⟩
  rw [hscaleData, h.cacheLayout_data, Nat.cast_add, Int.toNat_of_nonneg hpage]
  ring

/-- Such maps partition the cache. -/
theorem partitions {maps : CacheMaps} (hmaps : MapsPages params.fusedKvCache.data h.cacheLayout maps) :
    PartitionsCache params.fusedKvCache maps (perByte params.hasQScale) := by
  refine hmaps.partitions rfl h.cacheLayout_total ?_ ?_ ?_
  · unfold perByte
    split <;> decide
  · show perByte params.hasQScale ∣ headDimOf params.hasQScale params.kvBytes
    cases params.hasQScale with
    | false => exact one_dvd _
    | true => exact Int.dvd_mul_left _ _
  · show 8 = perByte params.hasQScale * elementBits params.hasQScale
    cases params.hasQScale <;> rfl

end PagedMqaChecked

/-- A launch that does not overflow is the launch over the integers. -/
theorem launchPagedMqaLogits_exact (hv : PagedValid params d)
    (hl : launchPagedMqaLogits .machine params pdl d = .ok launch) :
    launchPagedMqaLogits .exact params pdl d = .ok launch := by
  by_cases hfit : params.OuterFits
  · exact (launchPagedMqaLogits_same hv hfit).symm.trans hl
  · rw [launchPagedMqaLogits_overflow hv hfit] at hl
    cases hl

/-- The elements of a map of a dtype of which they are known. -/
theorem bits_of_tensorMapDtype {dtype : DTypeCode} {allowTf32 unpacked : Bool} {t t' : TensorMapDataType}
    (ht : tensorMapDtype dtype allowTf32 unpacked = .ok t') (h : tensorMapDtype dtype allowTf32 unpacked = .ok t) :
    t'.bits = t.bits := by
  rw [h] at ht
  cases ht
  rfl

/-- The launch holds maps of the pages of the cache. -/
def MapsCache (params : PagedMqaLogitsParams) (l : Layout) (launch : Launch) (place : Nat × Nat) : Prop :=
  ∃ maps : CacheMaps, (launch.args[place.1]? = some (.tensorMap maps.kv) ∧
    launch.args[place.2]? = some (.tensorMap maps.kvScales)) ∧ MapsPages params.fusedKvCache.data l maps

theorem sm90_mapsCache (hc : PagedMqaChecked device params) (hfp8 : params.hasQScale = false)
    (hl : launchSm90Fp8PagedMqaLogits .exact params params.args pdl = .ok launch) :
    MapsCache params hc.cacheLayout launch (9, 10) := by
  simp only [launchSm90Fp8PagedMqaLogits, launchKernel, bind_eq_ok, asI32_eq_ok, Arith.exact_mul, Except.ok.injEq,
    exists_eq_left'] at hl
  obtain ⟨_, ⟨-, rfl⟩, _, -, _, -, kv, hkv, scaleStride, hdiv, kvScales, hscales, hl⟩ := hl
  rw [Arith.exact_div (by decide)] at hdiv
  cases hdiv
  obtain ⟨_, -, _, -, _, -, _, -, _, -, _, -, _, -, _, -, rfl⟩ := hl
  have hbytes : params.args.headDim = params.kvBytes := by
    show headDimOf params.hasQScale params.kvBytes = params.kvBytes
    rw [hfp8]
    rfl
  have hkvBits := bits_of_tensorMapDtype (t := .uint8) (makeTma3dDesc_ok hkv).1 rfl
  have hscaleBits := bits_of_tensorMapDtype (t := .float32) (makeTma2dDesc_ok hscales).1 rfl
  refine ⟨⟨kv, kvScales⟩, ⟨rfl, rfl⟩, hc.mapsPages hbytes hkv hscales rfl rfl ?_ hscaleBits⟩
  rw [hfp8]
  exact hkvBits

theorem sm100_mapsCache (hc : PagedMqaChecked device params)
    (hl : launchSm100PagedMqaLogits .exact params params.hasQScale params.args pdl = .ok launch) :
    MapsCache params hc.cacheLayout launch (10, 11) := by
  simp only [launchSm100PagedMqaLogits, launchKernel, bind_eq_ok, asI32_eq_ok, Arith.exact_mul, Except.ok.injEq,
    exists_eq_left'] at hl
  obtain ⟨blockQ, -, kvBytes, hkvBytes, _, ⟨-, rfl⟩, sm100Maps, hmaps, scaleStride, hdiv, kvScales, hscales, hl⟩ := hl
  rw [Arith.exact_div (by decide)] at hdiv
  cases hdiv
  obtain ⟨_, -, _, -, _, -, _, -, _, -, _, -, _, -, rfl⟩ := hl
  refine ⟨⟨sm100Maps.kv, kvScales⟩, ⟨rfl, rfl⟩, ?_⟩
  have hbytes : kvBytes = params.kvBytes := by
    have hdim : params.args.headDim = headDimOf params.hasQScale params.kvBytes := rfl
    rw [hdim] at hkvBytes
    cases hfp4 : params.hasQScale with
    | false =>
      rw [hfp4] at hkvBytes
      exact (Except.ok.inj hkvBytes).symm
    | true =>
      rw [hfp4] at hkvBytes
      have hdiv : Arith.exact.div i32 (params.kvBytes * 2) 2 = .ok kvBytes := hkvBytes
      rw [Arith.exact_div (by decide), Int.mul_tdiv_cancel _ (by decide)] at hdiv
      exact (Except.ok.inj hdiv).symm
  -- the formats differ in the descriptor of the data and in the dtype of the scales
  cases hfp4 : params.hasQScale with
  | false =>
    simp only [hfp4, sm100PagedMaps, Bool.false_eq_true, if_false, bind_eq_ok, Except.ok.injEq] at hmaps hscales
    obtain ⟨_, -, _, -, _, -, _, -, kv, hkv, rfl⟩ := hmaps
    have hkvBits := bits_of_tensorMapDtype (t := .uint8) (makeTma3dDesc_ok hkv).1 rfl
    have hscaleBits := bits_of_tensorMapDtype (t := .float32) (makeTma2dDesc_ok hscales).1 rfl
    have hwidth : kv.dataType.bits = elementBits params.hasQScale := by rw [hfp4]; exact hkvBits
    show MapsPages _ hc.cacheLayout ⟨kv, kvScales⟩
    apply hc.mapsPages hbytes hkv hscales rfl rfl hwidth hscaleBits
  | true =>
    simp only [hfp4, sm100PagedMaps, if_true, bind_eq_ok, Except.ok.injEq] at hmaps hscales
    obtain ⟨_, -, _, -, _, -, _, -, _, -, _, -, _, -, kv, hkv, rfl⟩ := hmaps
    have hkvBits := bits_of_tensorMapDtype (t := .u4Align8B) (makeTma3dDesc_ok hkv).1 rfl
    have hscaleBits := bits_of_tensorMapDtype (t := .int32) (makeTma2dDesc_ok hscales).1 rfl
    have hwidth : kv.dataType.bits = elementBits params.hasQScale := by rw [hfp4]; exact hkvBits
    show MapsPages _ hc.cacheLayout ⟨kv, kvScales⟩
    apply hc.mapsPages hbytes hkv hscales rfl rfl hwidth hscaleBits

/-- **The maps of the data and of the scales partition the fused cache of an accepted launch.** -/
theorem cache_partitioned (hd : dispatchPagedMqaLogits device params = .ok d)
    (hl : launchPagedMqaLogits .machine params pdl d = .ok launch) :
    ∃ maps : CacheMaps, (launch.args[d.cacheArgs.1]? = some (.tensorMap maps.kv) ∧
      launch.args[d.cacheArgs.2]? = some (.tensorMap maps.kvScales)) ∧
        PartitionsCache params.fusedKvCache maps (perByte params.hasQScale) := by
  obtain ⟨hc, hselect⟩ := dispatchPagedMqaLogits_eq_ok.mp hd
  have hexact := launchPagedMqaLogits_exact (pagedValid hd) hl
  have hmaps : MapsCache params hc.cacheLayout launch d.cacheArgs := by
    rcases selectPagedMqa_eq_ok.mp hselect with ⟨-, hfp8, -, -, -, -, -, rfl⟩ | ⟨-, -, -, -, -, rfl⟩
    · exact sm90_mapsCache hc hfp8 hexact
    · exact sm100_mapsCache hc hexact
  obtain ⟨maps, hargs, hpages⟩ := hmaps
  exact ⟨maps, hargs, hc.partitions hpages⟩

end

/-- One FP4 token of 8 heads over two pages of 32 tokens. -/
def fp4Pages : PagedMqaLogitsParams := { onePage with
  q := ⟨1, DTypeCode.packedFp4E2M1, 4, ![I64.one, I64.one, 8, 64],
    ![512, 512, 64, I64.one]⟩
  hasQScale := true
  qScale := ⟨1, DTypeCode.packedUe8M0, 3, ![I64.one, I64.one, 8, I64.zero],
    ![8, 8, I64.one, I64.zero]⟩
  fusedKvCache := ⟨1, DTypeCode.u8, 4, ![2, 32, I64.one, 68],
    ![2176, 68, 68, I64.one]⟩
  weights := ⟨1, DTypeCode.f32, 2, ![I64.one, 8, I64.zero, I64.zero],
    ![8, I64.one, I64.zero, I64.zero]⟩ }

theorem fp4Pages_partitioned :
    ∃ launch, launchPagedMqaLogits .machine fp4Pages false (.sm100 true fp4Pages.args) = .ok launch ∧
      ∃ maps : CacheMaps, (launch.args[10]? = some (.tensorMap maps.kv) ∧
        launch.args[11]? = some (.tensorMap maps.kvScales)) ∧ PartitionsCache fp4Pages.fusedKvCache maps 2 := by
  obtain ⟨launch, h⟩ : ∃ launch,
      launchPagedMqaLogits .machine fp4Pages false (.sm100 true fp4Pages.args) = .ok launch := ⟨_, rfl⟩
  have hd : dispatchPagedMqaLogits ⟨0, 10, 0, ⟨148, by decide⟩⟩ fp4Pages = .ok (.sm100 true fp4Pages.args) := rfl
  exact ⟨launch, h, cache_partitioned hd h⟩

end DeepGemmRs.Raw
