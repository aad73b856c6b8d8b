import DeepGemmRs.Lib.Checked

/-!
# Fixed-width integers

A machine value is the integer it stands for; what the width adds is where an operation leaves
the range of its type.

* `IntType` : a type by its least and greatest value, `IntType.Has` its range, `IntType.Val` its
  values;
* `T.add`, `T.sub`, `T.mul`, `T.div`, `T.rem` : the operations of `T`, which stop with the
  program's `MachineFault` when the exact result is no value of `T` or a divisor is `0`;
* `T.cast` : conversion to `T`, modulo the size of `T`;
* `I32`, `I64` : the values of `i32` and `i64`, which numerals may stand for.

Division and remainder truncate towards zero, as in C++ and Rust.
-/

namespace MachineInt

open Checked

/-- How a program reports an operation without a defined result. -/
class MachineFault (ε : Type) where
  overflow : ε
  divByZero : ε

/-- An integer type of the machine. -/
structure IntType where
  lo : Int
  hi : Int

namespace IntType

/-- `x` is a value of `T`. -/
def Has (T : IntType) (x : Int) : Prop := T.lo ≤ x ∧ x ≤ T.hi

instance (T : IntType) (x : Int) : Decidable (T.Has x) := inferInstanceAs (Decidable (_ ∧ _))

/-- The values of `T`. -/
abbrev Val (T : IntType) : Type := {x : Int // T.Has x}

variable {ε : Type} [MachineFault ε] (T : IntType)

/-- The exact result `x`, when `T` has it. -/
def fit (x : Int) : Except ε Int := if T.Has x then .ok x else .error MachineFault.overflow

def add (a b : Int) : Except ε Int := T.fit (a + b)

def sub (a b : Int) : Except ε Int := T.fit (a - b)

def mul (a b : Int) : Except ε Int := T.fit (a * b)

def div (a b : Int) : Except ε Int :=
  if b = 0 then .error MachineFault.divByZero else T.fit (a.tdiv b)

/-- The remainder is undefined wherever the quotient is. -/
def rem (a b : Int) : Except ε Int :=
  if b = 0 then .error MachineFault.divByZero
  else if T.Has (a.tdiv b) then .ok (a.tmod b) else .error MachineFault.overflow

/-- Conversion to `T`. -/
def cast (x : Int) : Int := (x - T.lo) % (T.hi - T.lo + 1) + T.lo

variable {T} {a b c x : Int}

@[simp] theorem fit_eq_ok : (T.fit x : Except ε Int) = .ok c ↔ T.Has x ∧ x = c := by
  unfold fit
  split <;> simp_all

@[simp] theorem add_eq_ok : (T.add a b : Except ε Int) = .ok c ↔ T.Has (a + b) ∧ a + b = c :=
  fit_eq_ok

@[simp] theorem sub_eq_ok : (T.sub a b : Except ε Int) = .ok c ↔ T.Has (a - b) ∧ a - b = c :=
  fit_eq_ok

@[simp] theorem mul_eq_ok : (T.mul a b : Except ε Int) = .ok c ↔ T.Has (a * b) ∧ a * b = c :=
  fit_eq_ok

theorem fit_of_has (h : T.Has x) : (T.fit x : Except ε Int) = .ok x := if_pos h

theorem fit_of_not_has (h : ¬ T.Has x) : (T.fit x : Except ε Int) = .error MachineFault.overflow :=
  if_neg h

theorem add_of_has (h : T.Has (a + b)) : (T.add a b : Except ε Int) = .ok (a + b) := fit_of_has h

theorem sub_of_has (h : T.Has (a - b)) : (T.sub a b : Except ε Int) = .ok (a - b) := fit_of_has h

theorem mul_of_has (h : T.Has (a * b)) : (T.mul a b : Except ε Int) = .ok (a * b) := fit_of_has h

theorem mul_of_not_has (h : ¬ T.Has (a * b)) : (T.mul a b : Except ε Int) = .error MachineFault.overflow :=
  fit_of_not_has h

/-- A quotient of non-negative values is a value, and the floor. -/
theorem div_of_nonneg (ha : 0 ≤ a) (hT : T.Has a) (h0 : T.lo ≤ 0) (hb : 0 < b) :
    (T.div a b : Except ε Int) = .ok (a / b) := by
  have hle : a / b ≤ a := Int.ediv_le_self b ha
  have hpos : 0 ≤ a / b := Int.ediv_nonneg ha (Int.le_of_lt hb)
  unfold div
  rw [if_neg (Int.ne_of_gt hb), Int.tdiv_eq_ediv_of_nonneg ha]
  exact fit_of_has ⟨Int.le_trans h0 hpos, Int.le_trans hle hT.2⟩

/-- A remainder of non-negative values is a value, and the remainder of the floor. -/
theorem rem_of_nonneg (ha : 0 ≤ a) (hT : T.Has a) (h0 : T.lo ≤ 0) (hb : 0 < b) :
    (T.rem a b : Except ε Int) = .ok (a % b) := by
  have hle : a / b ≤ a := Int.ediv_le_self b ha
  have hpos : 0 ≤ a / b := Int.ediv_nonneg ha (Int.le_of_lt hb)
  unfold rem
  rw [if_neg (Int.ne_of_gt hb), Int.tdiv_eq_ediv_of_nonneg ha,
    if_pos ⟨Int.le_trans h0 hpos, Int.le_trans hle hT.2⟩, Int.tmod_eq_emod_of_nonneg ha]

/-- A conversion keeps a value of the type it converts to. -/
theorem cast_of_has (h : T.Has x) : T.cast x = x := by
  unfold cast
  rw [Int.emod_eq_of_lt (by have := h.1; omega) (by have := h.2; omega)]
  omega

theorem cast_has (h : T.lo ≤ T.hi) (x : Int) : T.Has (T.cast x) := by
  have h1 := Int.emod_nonneg (x - T.lo) (show T.hi - T.lo + 1 ≠ 0 by omega)
  have h2 := Int.emod_lt_of_pos (x - T.lo) (show 0 < T.hi - T.lo + 1 by omega)
  unfold Has cast
  omega

/-- A conversion keeps exactly the values of the type it converts to. -/
theorem cast_eq_self_iff (h : T.lo ≤ T.hi) : T.cast x = x ↔ T.Has x := by
  constructor
  · intro e
    rw [← e]
    exact cast_has h x
  · exact cast_of_has

end IntType

/-- `int`, `int32_t`. -/
def i32 : IntType := ⟨-2147483648, 2147483647⟩

/-- `uint32_t`. -/
def u32 : IntType := ⟨0, 4294967295⟩

/-- `int64_t`, `i64`, `isize`. -/
def i64 : IntType := ⟨-9223372036854775808, 9223372036854775807⟩

/-- `uint64_t`, `u64`, `usize`. -/
def u64 : IntType := ⟨0, 18446744073709551615⟩

theorem has_i32 {x : Int} : i32.Has x ↔ -2147483648 ≤ x ∧ x ≤ 2147483647 := Iff.rfl

theorem has_u32 {x : Int} : u32.Has x ↔ 0 ≤ x ∧ x ≤ 4294967295 := Iff.rfl

theorem has_i64 {x : Int} :
    i64.Has x ↔ -9223372036854775808 ≤ x ∧ x ≤ 9223372036854775807 := Iff.rfl

theorem has_u64 {x : Int} : u64.Has x ↔ 0 ≤ x ∧ x ≤ 18446744073709551615 := Iff.rfl

abbrev I32 : Type := i32.Val

abbrev I64 : Type := i64.Val

def I64.zero : I64 := ⟨0, by decide⟩

def I64.one : I64 := ⟨1, by decide⟩

-- A numeral of a type that does not have it stands for 0.
instance I32.ofNat (n : Nat) : OfNat I32 n := ⟨if h : i32.Has n then ⟨n, h⟩ else ⟨0, by decide⟩⟩

instance I64.ofNat (n : Nat) : OfNat I64 n := ⟨if h : i64.Has n then ⟨n, h⟩ else I64.zero⟩

end MachineInt
