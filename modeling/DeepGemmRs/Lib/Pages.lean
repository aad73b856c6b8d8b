import Mathlib.Data.Int.Basic
import Mathlib.Logic.ExistsUnique
import Mathlib.Tactic.Linarith
import Mathlib.Tactic.Ring

/-!
# Pages of rows and words

A buffer of pages; a page is a block of rows of elements followed by one word for each row. Positions are
counted in a unit that divides everything, such as the bit.

* `Layout`, `Place`, `Place.start`, `Place.Holds` : the pages, and where an element or a word lies;
* `existsUnique_place` : **each position lies in one element or word**;
* `Place.holds_total`, `element_before_word` : nothing lies outside, the elements of a page before its words;
* `existsUnique_group` : the same for groups of positions, such as bytes.
-/

namespace Pages

/-- The extents, and the widths of an element and of a word. -/
structure Layout where
  pages : ℤ
  rows : ℤ
  cols : ℤ
  width : ℤ
  word : ℤ
  rows_pos : 0 < rows
  cols_pos : 0 < cols
  width_pos : 0 < width
  word_pos : 0 < word

/-- An element or the word of a row. -/
inductive Place where
  | element (page row col : ℤ)
  | word (page row : ℤ)
deriving DecidableEq

namespace Layout

variable (l : Layout)

/-- The width of a row of elements. -/
def row : ℤ := l.cols * l.width

/-- The elements of a page. -/
def data : ℤ := l.rows * l.row

def page : ℤ := l.data + l.rows * l.word

def total : ℤ := l.pages * l.page

theorem row_pos : 0 < l.row := Int.mul_pos l.cols_pos l.width_pos

theorem data_pos : 0 < l.data := Int.mul_pos l.rows_pos l.row_pos

theorem words_pos : 0 < l.rows * l.word := Int.mul_pos l.rows_pos l.word_pos

theorem page_pos : 0 < l.page := Int.add_pos l.data_pos l.words_pos

end Layout

/-! ## Places -/

namespace Place

/-- Where a place starts in its page. -/
def offset (l : Layout) : Place → ℤ
  | element _ row col => row * l.row + col * l.width
  | word _ row => l.data + row * l.word

def page : Place → ℤ
  | element page _ _ => page
  | word page _ => page

def size (l : Layout) : Place → ℤ
  | element _ _ _ => l.width
  | word _ _ => l.word

def start (l : Layout) (p : Place) : ℤ := p.page * l.page + p.offset l

def Valid (l : Layout) : Place → Prop
  | element page row col => (0 ≤ page ∧ page < l.pages) ∧ (0 ≤ row ∧ row < l.rows) ∧ 0 ≤ col ∧ col < l.cols
  | word page row => (0 ≤ page ∧ page < l.pages) ∧ 0 ≤ row ∧ row < l.rows

/-- The position lies in the place. -/
def Holds (l : Layout) (p : Place) (b : ℤ) : Prop := p.start l ≤ b ∧ b < p.start l + p.size l

end Place

/-- The tile of width `w` that a position lies in. -/
theorem mem_tile {w i b : ℤ} (hw : 0 < w) : i * w ≤ b ∧ b < i * w + w ↔ b / w = i := by
  constructor
  · rintro ⟨h0, h1⟩
    exact ((Int.ediv_emod_unique hw).mpr ⟨show b - i * w + w * i = b by ring, by omega, by omega⟩).1
  · rintro rfl
    have h := Int.mul_ediv_add_emod b w
    have h0 := Int.emod_nonneg b hw.ne'
    have h1 := Int.emod_lt_of_pos b hw
    rw [Int.mul_comm] at h
    omega

/-- Tiles below the `n`th end before it starts. -/
theorem tile_le {w i n : ℤ} (hw : 0 < w) (hi : i < n) : i * w + w ≤ n * w := by
  have h := Int.mul_le_mul_of_nonneg_right (show i + 1 ≤ n from hi) hw.le
  rwa [Int.add_mul, Int.one_mul] at h

variable {l : Layout} {p q : Place} {b : ℤ}

/-- An element lies in the elements of its page, a word behind them. -/
theorem Place.Valid.offset_mem (h : p.Valid l) :
    (0 ≤ p.page ∧ p.page < l.pages) ∧ 0 ≤ p.offset l ∧ p.offset l + p.size l ≤ l.page ∧
      ((∃ page row col, p = .element page row col) → p.offset l + p.size l ≤ l.data) ∧
      ((∃ page row, p = .word page row) → l.data ≤ p.offset l) := by
  have hwords := l.words_pos
  have hdata := l.data_pos
  cases p with
  | element page row col =>
    obtain ⟨hp, ⟨hr0, hr1⟩, hc0, hc1⟩ := h
    have hrow := tile_le l.row_pos hr1
    have hcol := tile_le l.width_pos hc1
    have h0 := Int.mul_nonneg hr0 l.row_pos.le
    have h1 := Int.mul_nonneg hc0 l.width_pos.le
    have hend : row * l.row + col * l.width + l.width ≤ l.data := by
      show _ ≤ l.rows * l.row
      have : l.cols * l.width = l.row := rfl
      omega
    refine ⟨hp, ?_, ?_, fun _ => hend, by simp⟩
    · show 0 ≤ row * l.row + col * l.width
      omega
    · show row * l.row + col * l.width + l.width ≤ l.data + l.rows * l.word
      omega
  | word page row =>
    obtain ⟨hp, hr0, hr1⟩ := h
    have hrow := tile_le l.word_pos hr1
    have h0 := Int.mul_nonneg hr0 l.word_pos.le
    refine ⟨hp, ?_, ?_, by simp, fun _ => ?_⟩
    · show 0 ≤ l.data + row * l.word
      omega
    · show l.data + row * l.word + l.word ≤ l.data + l.rows * l.word
      omega
    · show l.data ≤ l.data + row * l.word
      omega

/-- No place reaches past its page, or past the buffer. -/
theorem Place.holds_page (hv : p.Valid l) (h : p.Holds l b) : b / l.page = p.page := by
  obtain ⟨-, h0, h1, -⟩ := hv.offset_mem
  obtain ⟨hb0, hb1⟩ := h
  simp only [Place.start] at hb0 hb1
  exact (mem_tile l.page_pos).mp ⟨by omega, by omega⟩

theorem Place.holds_total (hv : p.Valid l) (h : p.Holds l b) : 0 ≤ b ∧ b < l.total := by
  obtain ⟨⟨hp0, hp1⟩, h0, h1, -⟩ := hv.offset_mem
  obtain ⟨hb0, hb1⟩ := h
  have hpage := tile_le l.page_pos hp1
  have hstart := Int.mul_nonneg hp0 l.page_pos.le
  simp only [Place.start] at hb0 hb1
  exact ⟨by omega, show b < l.pages * l.page by omega⟩

/-- In a page the elements come first. -/
theorem element_before_word {page row col row' b b' : ℤ} (hp : (Place.element page row col).Valid l)
    (hq : (Place.word page row').Valid l) (h : (Place.element page row col).Holds l b)
    (h' : (Place.word page row').Holds l b') : b < b' := by
  obtain ⟨-, -, -, hend, -⟩ := hp.offset_mem
  obtain ⟨-, -, -, -, hstart⟩ := hq.offset_mem
  have h1 := hend ⟨_, _, _, rfl⟩
  have h2 := hstart ⟨_, _, rfl⟩
  have h3 := h.2
  have h4 := h'.1
  simp only [Place.start, Place.page] at h3 h4
  omega

/-! ## Positions -/

/-- The place of a position. -/
def place (l : Layout) (b : ℤ) : Place :=
  if b % l.page < l.data then .element (b / l.page) (b % l.page / l.row) (b % l.page % l.row / l.width)
  else .word (b / l.page) ((b % l.page - l.data) / l.word)

theorem place_eq (hv : p.Valid l) (h : p.Holds l b) : place l b = p := by
  obtain ⟨-, h0, h1, helement, hword⟩ := hv.offset_mem
  have hpage := Place.holds_page hv h
  have hrem : b % l.page = b - p.page * l.page := by
    rw [Int.emod_def, hpage, Int.mul_comm]
  obtain ⟨hb0, hb1⟩ := h
  simp only [Place.start] at hb0 hb1
  unfold place
  cases p with
  | element page row col =>
    have hend := helement ⟨_, _, _, rfl⟩
    obtain ⟨-, ⟨hr0, hr1⟩, hc0, hc1⟩ := hv
    have hcol := tile_le l.width_pos hc1
    have h2 := Int.mul_nonneg hc0 l.width_pos.le
    have hcols : l.cols * l.width = l.row := rfl
    simp only [Place.offset, Place.size, Place.page] at *
    have hrow : b % l.page / l.row = row := (mem_tile l.row_pos).mp ⟨by omega, by omega⟩
    have hin : b % l.page % l.row = b % l.page - row * l.row := by
      rw [Int.emod_def (b % l.page), hrow, Int.mul_comm]
    have hcolumn : b % l.page % l.row / l.width = col := (mem_tile l.width_pos).mp ⟨by omega, by omega⟩
    rw [if_pos (by omega), hpage, hrow, hcolumn]
  | word page row =>
    have hstart := hword ⟨_, _, rfl⟩
    simp only [Place.offset, Place.size, Place.page] at *
    have hrow : (b % l.page - l.data) / l.word = row := (mem_tile l.word_pos).mp ⟨by omega, by omega⟩
    rw [if_neg (by omega), hpage, hrow]

theorem holds_place (h0 : 0 ≤ b) (h1 : b < l.total) : (place l b).Valid l ∧ (place l b).Holds l b := by
  have hpage : 0 ≤ b / l.page ∧ b / l.page < l.pages :=
    ⟨Int.ediv_nonneg h0 l.page_pos.le, Int.ediv_lt_of_lt_mul l.page_pos h1⟩
  have hdecomp := Int.mul_ediv_add_emod b l.page
  have hr0 := Int.emod_nonneg b l.page_pos.ne'
  have hr1 := Int.emod_lt_of_pos b l.page_pos
  rw [Int.mul_comm] at hdecomp
  unfold place
  split
  · next hlt =>
    have hdecomp' := Int.mul_ediv_add_emod (b % l.page) l.row
    have hs0 := Int.emod_nonneg (b % l.page) l.row_pos.ne'
    have hs1 := Int.emod_lt_of_pos (b % l.page) l.row_pos
    obtain ⟨ht0, ht1⟩ := (mem_tile (b := b % l.page % l.row) l.width_pos).mpr rfl
    rw [Int.mul_comm] at hdecomp'
    refine ⟨⟨hpage, ⟨Int.ediv_nonneg hr0 l.row_pos.le, Int.ediv_lt_of_lt_mul l.row_pos hlt⟩,
      Int.ediv_nonneg hs0 l.width_pos.le, Int.ediv_lt_of_lt_mul l.width_pos hs1⟩, ?_⟩
    simp only [Place.Holds, Place.start, Place.offset, Place.size, Place.page]
    omega
  · next hge =>
    obtain ⟨ht0, ht1⟩ := (mem_tile (b := b % l.page - l.data) l.word_pos).mpr rfl
    have hpageEq : l.page = l.data + l.rows * l.word := rfl
    refine ⟨⟨hpage, Int.ediv_nonneg (by omega) l.word_pos.le, Int.ediv_lt_of_lt_mul l.word_pos (by omega)⟩, ?_⟩
    simp only [Place.Holds, Place.start, Place.offset, Place.size, Place.page]
    omega

/-- **Each position lies in one element or word.** -/
theorem existsUnique_place (h0 : 0 ≤ b) (h1 : b < l.total) : ∃! p, Place.Valid l p ∧ p.Holds l b :=
  ⟨place l b, holds_place h0 h1, fun _ hp => (place_eq hp.1 hp.2).symm⟩

/-! ## Groups of elements -/

/-- The pages whose elements are `m` elements of a row each. -/
def Layout.group (l : Layout) {m : ℤ} (hm : 0 < m) (hdvd : m ∣ l.cols) : Layout where
  pages := l.pages
  rows := l.rows
  cols := l.cols / m
  width := m * l.width
  word := l.word
  rows_pos := l.rows_pos
  cols_pos := Int.ediv_pos_of_pos_of_dvd l.cols_pos hm.le hdvd
  width_pos := Int.mul_pos hm l.width_pos
  word_pos := l.word_pos

/-- The group of an element. -/
def Place.group (m : ℤ) : Place → Place
  | element page row col => element page row (col / m)
  | word page row => word page row

variable {m : ℤ} (hm : 0 < m) (hdvd : m ∣ l.cols)

theorem row_group : (l.group hm hdvd).row = l.row := by
  show l.cols / m * (m * l.width) = l.cols * l.width
  rw [← Int.mul_assoc, Int.ediv_mul_cancel hdvd]

theorem data_group : (l.group hm hdvd).data = l.data := congrArg (l.rows * ·) (row_group hm hdvd)

theorem page_group : (l.group hm hdvd).page = l.page := congrArg (· + l.rows * l.word) (data_group hm hdvd)

/-- An element starts in its group, at a place that is a multiple of the width. -/
theorem start_group (p : Place) : ∃ i, 0 ≤ i ∧ (p.group m).start (l.group hm hdvd) + i = p.start l ∧
    i + p.size l ≤ (p.group m).size (l.group hm hdvd) := by
  cases p with
  | element page row col =>
    have hcol := Int.mul_ediv_add_emod col m
    have h0 := Int.emod_nonneg col hm.ne'
    have hlt : col % m * l.width + l.width ≤ m * l.width := tile_le l.width_pos (Int.emod_lt_of_pos col hm)
    refine ⟨col % m * l.width, Int.mul_nonneg h0 l.width_pos.le, ?_, hlt⟩
    show page * (l.group hm hdvd).page + (row * (l.group hm hdvd).row + col / m * (m * l.width)) + col % m * l.width =
      page * l.page + (row * l.row + col * l.width)
    rw [page_group, row_group]
    conv_rhs => rw [← hcol]
    ring
  | word page row =>
    refine ⟨0, le_rfl, ?_, (Int.zero_add l.word).le⟩
    show page * (l.group hm hdvd).page + ((l.group hm hdvd).data + row * l.word) + 0 =
      page * l.page + (l.data + row * l.word)
    rw [page_group, data_group, Int.add_zero]

/-- A position in an element lies in its group. -/
theorem holds_group (h : p.Holds l b) : (p.group m).Holds (l.group hm hdvd) b := by
  obtain ⟨i, hi, hstart, hsize⟩ := start_group hm hdvd p
  obtain ⟨h0, h1⟩ := h
  exact ⟨by omega, by omega⟩

theorem valid_group (h : p.Valid l) : (p.group m).Valid (l.group hm hdvd) := by
  cases p with
  | element page row col =>
    obtain ⟨hp, hr, hc0, hc1⟩ := h
    refine ⟨hp, hr, Int.ediv_nonneg hc0 hm.le, Int.ediv_lt_of_lt_mul hm ?_⟩
    show col < l.cols / m * m
    rwa [Int.ediv_mul_cancel hdvd]
  | word page row => exact h

/-- A place of multiples of `k` holds whole runs of `k` positions. -/
theorem holds_run {k b' : ℤ} (hk : 0 < k) (hstart : k ∣ p.start l) (hsize : k ∣ p.size l) (hb : b / k = b' / k)
    (h : p.Holds l b) : p.Holds l b' := by
  obtain ⟨s, hs⟩ := hstart
  obtain ⟨z, hz⟩ := hsize
  obtain ⟨h0, h1⟩ := h
  rw [hs] at h0 h1
  rw [hz, ← Int.mul_add, Int.mul_comm k] at h1
  rw [Int.mul_comm k] at h0
  have hlow : s ≤ b' / k := hb ▸ (Int.le_ediv_iff_mul_le hk).mpr h0
  have hhigh : b' / k < s + z := hb ▸ Int.ediv_lt_of_lt_mul hk h1
  refine ⟨?_, ?_⟩
  · rw [hs, Int.mul_comm k]
    exact (Int.le_ediv_iff_mul_le hk).mp hlow
  · rw [hs, hz, ← Int.mul_add, Int.mul_comm k]
    exact (Int.ediv_lt_iff_lt_mul hk).mp hhigh

theorem dvd_group {k : ℤ} (hk : k = m * l.width) (hword : k ∣ l.word) (p : Place) :
    k ∣ p.start (l.group hm hdvd) ∧ k ∣ p.size (l.group hm hdvd) := by
  have hwidth : k ∣ (l.group hm hdvd).width := hk ▸ Int.dvd_refl k
  have hrow : k ∣ (l.group hm hdvd).row := Int.dvd_trans hwidth (Int.dvd_mul_left _ _)
  have hdata : k ∣ (l.group hm hdvd).data := Int.dvd_trans hrow (Int.dvd_mul_left _ _)
  have hpage : k ∣ (l.group hm hdvd).page :=
    Int.dvd_add hdata (Int.dvd_trans (show k ∣ (l.group hm hdvd).word from hword) (Int.dvd_mul_left _ _))
  refine ⟨Int.dvd_add (Int.dvd_trans hpage (Int.dvd_mul_left _ _)) ?_, ?_⟩
  · cases p with
    | element page row col =>
      exact Int.dvd_add (Int.dvd_trans hrow (Int.dvd_mul_left _ _)) (Int.dvd_trans hwidth (Int.dvd_mul_left _ _))
    | word page row => exact Int.dvd_add hdata (Int.dvd_trans hword (Int.dvd_mul_left _ _))
  · cases p with
    | element page row col => exact hwidth
    | word page row => exact hword

/-- The first position of an element lies in the run of its group. -/
theorem start_run {k g page row col : ℤ} (hk : k = m * l.width) (hword : k ∣ l.word)
    (h : ((Place.element page row col).group m).Holds (l.group hm hdvd) (g * k)) :
    (Place.element page row col).start l / k = g := by
  have hkpos : 0 < k := hk ▸ Int.mul_pos hm l.width_pos
  obtain ⟨⟨s, hs⟩, -⟩ := dvd_group hm hdvd hk hword ((Place.element page row col).group m)
  obtain ⟨i, hi, hstart, hsize⟩ := start_group hm hdvd (.element page row col)
  obtain ⟨h0, h1⟩ := h
  have hgroup : ((Place.element page row col).group m).size (l.group hm hdvd) = k := hk.symm
  have hwidth : 0 < (Place.element page row col).size l := l.width_pos
  rw [hgroup] at h1 hsize
  rw [Int.mul_comm k] at hs
  have hg : g * k / k = s := (mem_tile hkpos).mp ⟨by omega, by omega⟩
  rw [Int.mul_ediv_cancel g hkpos.ne'] at hg
  rw [hg]
  exact (mem_tile hkpos).mp ⟨by omega, by omega⟩

/-- **The places that meet a run of positions are the elements of one group, or one word.** -/
theorem existsUnique_group {k g : ℤ} (hm : 0 < m) (hdvd : m ∣ l.cols) (hk : k = m * l.width) (hword : k ∣ l.word)
    (h0 : 0 ≤ g) (h1 : g * k < l.total) :
    ∃! p : Place, ∀ q : Place, q.Valid l → ((∃ b, b / k = g ∧ q.Holds l b) ↔ q.group m = p) := by
  have hkpos : 0 < k := hk ▸ Int.mul_pos hm l.width_pos
  have hpos : 0 ≤ g * k := Int.mul_nonneg h0 hkpos.le
  have hself : g * k / k = g := Int.mul_ediv_cancel g hkpos.ne'
  obtain ⟨hv, hh⟩ := holds_place hpos h1
  have hgroup := holds_group hm hdvd hh
  have hmeets : ∃ b, b / k = g ∧ (place l (g * k)).Holds l b := ⟨g * k, hself, hh⟩
  refine ⟨(place l (g * k)).group m, fun q hq => ⟨?_, fun heq => ?_⟩, fun p hp => ((hp _ hv).mp hmeets).symm⟩
  · rintro ⟨b, hb, hholds⟩
    obtain ⟨hstart, hsize⟩ := dvd_group hm hdvd hk hword (q.group m)
    have hrun := holds_run hkpos hstart hsize (hb.trans hself.symm) (holds_group hm hdvd hholds)
    exact (place_eq (valid_group hm hdvd hq) hrun).symm.trans (place_eq (valid_group hm hdvd hv) hgroup)
  · rw [← heq] at hgroup
    cases q with
    | element page row col =>
      refine ⟨_, start_run hm hdvd hk hword hgroup, le_rfl, ?_⟩
      exact Int.lt_add_of_pos_right _ l.width_pos
    | word page row =>
      obtain ⟨i, hi, hstart, hsize⟩ := start_group hm hdvd (.word page row)
      obtain ⟨h2, h3⟩ := hgroup
      have hsame : ((Place.word page row).group m).size (l.group hm hdvd) = (Place.word page row).size l := rfl
      exact ⟨_, hself, by omega, by omega⟩

end Pages
