import Mathlib.Algebra.BigOperators.Fin
import Mathlib.Algebra.Order.BigOperators.Group.Finset
import Mathlib.Data.Fintype.BigOperators
import Mathlib.Order.PiLex

/-!
# Mixed radix

The multi-indices of a shape, numbered with the last axis fastest.

* `count shape n` : the number of multi-indices of the axes from `n` on;
* `place` : the number of a multi-index, each digit weighted by the count of the axes after it;
* `place_lt`, `place_strictMono`, `place_bijective` : the numbering runs through
  `0, 1, …, count shape 0 - 1` in lexicographic order, each number once.
-/

namespace MixedRadix

variable {rank : ℕ}

/-- A product over the axes from `n` on splits off its first factor. -/
theorem prod_from_succ {M : Type} [CommMonoid M] (f : Fin rank → M) {n : ℕ} (h : n < rank) :
    (∏ j : Fin rank, if n ≤ j.val then f j else 1) =
      f ⟨n, h⟩ * ∏ j : Fin rank, if n + 1 ≤ j.val then f j else 1 := by
  rw [← Finset.mul_prod_erase _ _ (Finset.mem_univ (⟨n, h⟩ : Fin rank)), if_pos le_rfl,
    ← Finset.mul_prod_erase Finset.univ (fun j : Fin rank => if n + 1 ≤ j.val then f j else 1)
      (Finset.mem_univ (⟨n, h⟩ : Fin rank)), if_neg (by simp), one_mul]
  congr 1
  apply Finset.prod_congr rfl
  intro j hj
  have hne : j.val ≠ n := fun e => (Finset.mem_erase.mp hj).1 (Fin.ext e)
  by_cases hle : n ≤ j.val
  · rw [if_pos hle, if_pos (by omega)]
  · rw [if_neg hle, if_neg (by omega)]

theorem sum_from_succ (f : Fin rank → ℕ) {n : ℕ} (h : n < rank) :
    (∑ j : Fin rank, if n ≤ j.val then f j else 0) =
      f ⟨n, h⟩ + ∑ j : Fin rank, if n + 1 ≤ j.val then f j else 0 :=
  prod_from_succ (M := Multiplicative ℕ) f h

/-! ## Counts -/

/-- The number of multi-indices of the axes from `n` on. -/
def count (shape : Fin rank → ℕ) (n : ℕ) : ℕ := ∏ j : Fin rank, if n ≤ j.val then shape j else 1

section

variable (shape : Fin rank → ℕ)

theorem count_zero : count shape 0 = ∏ j, shape j := by
  simp [count]

theorem count_rank : count shape rank = 1 := by
  unfold count
  exact Finset.prod_eq_one fun j _ => if_neg (by omega)

theorem count_succ {n : ℕ} (h : n < rank) : count shape n = count shape (n + 1) * shape ⟨n, h⟩ := by
  unfold count
  rw [prod_from_succ shape h, Nat.mul_comm]

end

variable {shape : Fin rank → ℕ}

theorem count_le_pow {bound : ℕ} (h : ∀ j, shape j ≤ bound) :
    ∀ k n, n + k = rank → count shape n ≤ bound ^ k := by
  intro k
  induction k with
  | zero =>
    intro n hn
    rw [show n = rank by omega, count_rank, Nat.pow_zero]
  | succ k ih =>
    intro n hn
    rw [count_succ shape (show n < rank by omega), Nat.pow_succ]
    exact Nat.mul_le_mul (ih (n + 1) (by omega)) (h _)

/-- Where no axis is empty, fewer axes have fewer multi-indices. -/
theorem count_le_count_zero (h : ∀ j, 0 < shape j) (n : ℕ) : count shape n ≤ count shape 0 := by
  unfold count
  apply Finset.prod_le_prod'
  intro j _
  rw [if_pos (Nat.zero_le _)]
  split
  · exact le_rfl
  · exact h j

/-! ## Places -/

/-- The multi-indices in range. -/
abbrev Index (shape : Fin rank → ℕ) : Type := ∀ j, Fin (shape j)

/-- What the digits from axis `n` on contribute. -/
def tailPlace (i : Index shape) (n : ℕ) : ℕ :=
  ∑ j : Fin rank, if n ≤ j.val then (i j).val * count shape (j.val + 1) else 0

/-- The number of a multi-index. -/
def place (i : Index shape) : ℕ := ∑ j, (i j).val * count shape (j.val + 1)

theorem tailPlace_zero (i : Index shape) : tailPlace i 0 = place i := by
  simp [tailPlace, place]

theorem tailPlace_rank (i : Index shape) : tailPlace i rank = 0 := by
  unfold tailPlace
  exact Finset.sum_eq_zero fun j _ => if_neg (by omega)

theorem tailPlace_succ (i : Index shape) {n : ℕ} (h : n < rank) :
    tailPlace i n = (i ⟨n, h⟩).val * count shape (n + 1) + tailPlace i (n + 1) :=
  sum_from_succ (fun j => (i j).val * count shape (j.val + 1)) h

/-- One more in a digit is worth a whole run of the axes after it. -/
theorem digit_add_count_le {a b w : ℕ} (h : a < b) : a * w + w ≤ b * w := by
  rw [← Nat.succ_mul]
  exact Nat.mul_le_mul_right w h

/-- The digits from axis `n` on stay below the count of those axes. -/
theorem tailPlace_lt (i : Index shape) : ∀ k n, n + k = rank → tailPlace i n < count shape n := by
  intro k
  induction k with
  | zero =>
    intro n hn
    rw [show n = rank by omega, tailPlace_rank, count_rank]
    exact Nat.one_pos
  | succ k ih =>
    intro n hn
    have hlt : n < rank := by omega
    have htail := ih (n + 1) (by omega)
    have hdigit := digit_add_count_le (w := count shape (n + 1)) (i ⟨n, hlt⟩).isLt
    rw [tailPlace_succ i hlt, count_succ shape hlt, Nat.mul_comm (count shape (n + 1))]
    omega

theorem place_lt (i : Index shape) : place i < count shape 0 := by
  rw [← tailPlace_zero]
  exact tailPlace_lt i rank 0 (Nat.zero_add rank)

/-- The first digit in which two multi-indices differ decides the order of their numbers. -/
theorem tailPlace_lt_tailPlace {a b : Index shape} {axis : Fin rank} (hlt : a axis < b axis) :
    ∀ k n, n + k = axis.val → (∀ j : Fin rank, j < axis → a j = b j) → tailPlace a n < tailPlace b n := by
  intro k
  induction k with
  | zero =>
    intro n hn _
    obtain rfl : n = axis.val := by omega
    have htail := tailPlace_lt a (rank - (axis.val + 1)) (axis.val + 1) (by omega)
    have hdigit := digit_add_count_le (w := count shape (axis.val + 1)) hlt
    rw [tailPlace_succ a axis.isLt, tailPlace_succ b axis.isLt]
    show (a axis).val * _ + _ < (b axis).val * _ + _
    omega
  | succ k ih =>
    intro n hn heq
    have hn' : n < rank := by omega
    have hrest := ih (n + 1) (by omega) heq
    rw [tailPlace_succ a hn', tailPlace_succ b hn', heq ⟨n, hn'⟩ (Fin.lt_def.mpr (by show n < axis.val; omega))]
    exact Nat.add_lt_add_left hrest _

/-- The numbering goes through the multi-indices in lexicographic order. -/
theorem place_strictMono : StrictMono fun i : Lex (Index shape) => place (ofLex i) := by
  rintro a b ⟨axis, heq, hlt⟩
  show place (ofLex a) < place (ofLex b)
  rw [← tailPlace_zero, ← tailPlace_zero]
  exact tailPlace_lt_tailPlace hlt axis.val 0 (Nat.zero_add _) heq

theorem place_injective : Function.Injective (place : Index shape → ℕ) := by
  intro a b hab
  exact toLex.injective (place_strictMono.injective hab)

/-- There are as many numbers as multi-indices, so each number is taken. -/
theorem place_bijective :
    Function.Bijective fun i : Index shape => (⟨place i, place_lt i⟩ : Fin (count shape 0)) := by
  rw [Fintype.bijective_iff_injective_and_card]
  refine ⟨fun a b hab => place_injective (congrArg Fin.val hab), ?_⟩
  rw [Fintype.card_pi, Fintype.card_fin, count_zero]
  simp

theorem exists_place_eq {n : ℕ} (h : n < count shape 0) : ∃ i : Index shape, place i = n := by
  obtain ⟨i, hi⟩ := place_bijective.2 ⟨n, h⟩
  exact ⟨i, congrArg Fin.val hi⟩

end MixedRadix
