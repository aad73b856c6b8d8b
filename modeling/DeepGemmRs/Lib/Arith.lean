import DeepGemmRs.Lib.MachineInt

/-!
# One program, two arithmetics

A program that takes its integer operations as an argument runs on the machine and over the
integers.

* `Arith` : the operations, `Arith.machine` those of `MachineInt`, `Arith.exact` the unbounded ones;
* `Same p` : the program `p` does the same with both, with the rules `Same.bind`, `Same.mul`,
  `Same.cast` and their siblings: an operation is the same where its exact result is in range;
* `NoFault` : a run without overflow, and every run over the integers is one, `noFault_exact`;
* `ExactRun p` : the machine does not overflow and has the results of the integers.
-/

namespace MachineInt

open Checked

variable {ε α β : Type} [MachineFault ε]

/-- What becomes of an exact result at a type, when computed and when converted. -/
structure Arith (ε : Type) where
  fit : IntType → Int → Except ε Int
  cast : IntType → Int → Except ε Int

namespace Arith

/-- The operations of the machine. -/
def machine : Arith ε where
  fit T x := T.fit x
  cast T x := .ok (T.cast x)

/-- The operations of the integers. -/
def exact : Arith ε where
  fit _ x := .ok x
  cast _ x := .ok x

variable (A : Arith ε) (T : IntType) (a b : Int)

def add : Except ε Int := A.fit T (a + b)

def sub : Except ε Int := A.fit T (a - b)

def mul : Except ε Int := A.fit T (a * b)

def div : Except ε Int := if b = 0 then .error MachineFault.divByZero else A.fit T (a.tdiv b)

def rem : Except ε Int :=
  if b = 0 then .error MachineFault.divByZero else do
    let _ ← A.fit T (a.tdiv b)
    .ok (a.tmod b)

@[simp] theorem machine_add : (machine : Arith ε).add T a b = T.add a b := rfl

@[simp] theorem machine_sub : (machine : Arith ε).sub T a b = T.sub a b := rfl

@[simp] theorem machine_mul : (machine : Arith ε).mul T a b = T.mul a b := rfl

@[simp] theorem machine_div : (machine : Arith ε).div T a b = T.div a b := rfl

@[simp] theorem machine_rem : (machine : Arith ε).rem T a b = T.rem a b := by
  unfold Arith.rem IntType.rem
  by_cases h : T.Has (a.tdiv b)
  · rw [if_pos h, show (machine : Arith ε).fit T (a.tdiv b) = .ok (a.tdiv b) from if_pos h]
    rfl
  · rw [if_neg h, show (machine : Arith ε).fit T (a.tdiv b) = .error MachineFault.overflow from if_neg h]
    rfl

@[simp] theorem machine_cast (x : Int) : (machine : Arith ε).cast T x = .ok (T.cast x) := rfl

omit [MachineFault ε] in
@[simp] theorem exact_add : (exact : Arith ε).add T a b = .ok (a + b) := rfl

omit [MachineFault ε] in
@[simp] theorem exact_sub : (exact : Arith ε).sub T a b = .ok (a - b) := rfl

omit [MachineFault ε] in
@[simp] theorem exact_mul : (exact : Arith ε).mul T a b = .ok (a * b) := rfl

theorem exact_div {T : IntType} {a b : Int} (hb : b ≠ 0) : (exact : Arith ε).div T a b = .ok (a.tdiv b) := if_neg hb

omit [MachineFault ε] in
@[simp] theorem exact_cast (x : Int) : (exact : Arith ε).cast T x = .ok x := rfl

end Arith

/-! ## Programs that do the same with both -/

/-- The program does the same on the machine and over the integers. -/
def Same (p : Arith ε → Except ε α) : Prop := p .machine = p .exact

namespace Same

variable {T : IntType} {a b x : Int}

theorem const (y : Except ε α) : Same (ε := ε) fun _ => y := rfl

/-- Of the rest of a program, only what follows the exact value matters. -/
theorem bind {p : Arith ε → Except ε α} {f : Arith ε → α → Except ε β} (hp : Same p)
    (hf : ∀ v, p .exact = .ok v → Same fun A => f A v) : Same fun A => p A >>= f A := by
  show p .machine >>= f .machine = p .exact >>= f .exact
  rw [show p .machine = p .exact from hp]
  cases he : p .exact with
  | error e => rfl
  | ok v => exact hf v he

theorem fit (h : T.Has x) : Same (ε := ε) fun A => A.fit T x := IntType.fit_of_has h

theorem add (h : T.Has (a + b)) : Same (ε := ε) fun A => A.add T a b := fit h

theorem mul (h : T.Has (a * b)) : Same (ε := ε) fun A => A.mul T a b := fit h

theorem cast (h : T.Has x) : Same (ε := ε) fun A => A.cast T x :=
  congrArg Except.ok (IntType.cast_of_has h)

theorem div (h : T.Has (a.tdiv b)) : Same (ε := ε) fun A => A.div T a b := by
  show (if b = 0 then _ else T.fit (a.tdiv b)) = if b = 0 then _ else _
  rw [IntType.fit_of_has h]
  rfl

/-- A choice that does not depend on the arithmetic. -/
theorem ite {c : Prop} [Decidable c] {p q : Arith ε → Except ε α} (hp : c → Same p) (hq : ¬ c → Same q) :
    Same fun A => if c then p A else q A := by
  by_cases h : c
  · simpa only [Same, if_pos h] using hp h
  · simpa only [Same, if_neg h] using hq h

end Same

/-! ## Overflow -/

/-- The program does not stop with an overflow. -/
def NoFault (x : Except ε α) : Prop := x ≠ .error MachineFault.overflow

@[simp] theorem noFault_ok {a : α} : NoFault (.ok a : Except ε α) := by
  intro h
  cases h

@[simp] theorem noFault_bind {x : Except ε α} {f : α → Except ε β} :
    NoFault (x >>= f) ↔ NoFault x ∧ ∀ a, x = .ok a → NoFault (f a) := by
  cases x with
  | error e =>
    refine ⟨fun h => ⟨fun he => h ?_, fun a ha => ?_⟩, fun h he => h.1 ?_⟩
    · cases he
      rfl
    · cases ha
    · cases he
      rfl
  | ok a =>
    refine ⟨fun h => ⟨noFault_ok, fun a' ha => ?_⟩, fun h => h.2 a rfl⟩
    cases ha
    exact h

@[simp] theorem noFault_ite {c : Prop} [Decidable c] {x y : Except ε α} :
    NoFault (if c then x else y) ↔ (c → NoFault x) ∧ (¬ c → NoFault y) := by
  split <;> simp_all

theorem noFault_throwIf {c : Prop} [Decidable c] {e : ε} (he : e ≠ MachineFault.overflow) :
    NoFault (throwIf c e) := by
  unfold throwIf
  split
  · intro h
    cases h
    exact he rfl
  · exact noFault_ok

/-- Over the integers nothing overflows. -/
theorem noFault_exact {T : IntType} {x : Int} : NoFault ((Arith.exact : Arith ε).fit T x) := noFault_ok

/-- The machine does not overflow and has the results of the integers. -/
structure ExactRun (p : Arith ε → Except ε α) : Prop where
  noFault : NoFault (p .machine)
  same : Same p

theorem exactRun_iff {p : Arith ε → Except ε α} (he : NoFault (p .exact)) : ExactRun p ↔ Same p := by
  refine ⟨ExactRun.same, fun h => ⟨?_, h⟩⟩
  rw [show p .machine = p .exact from h]
  exact he

theorem not_exactRun_of_overflow {p : Arith ε → Except ε α} (h : p .machine = .error MachineFault.overflow) :
    ¬ ExactRun p := fun hp => hp.noFault h

end MachineInt
