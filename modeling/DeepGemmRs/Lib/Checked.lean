import Mathlib.Tactic.Attr.Core

/-!
# Programs that may stop

`Except ε` programs written in the shape of the code they model: a sequence of guards
(`if (c) throw e;`, `if c { return Err(e) }`) and of calls that may themselves stop.

* `throwIf c e` : one guard;
* `StopsIn E x` : the program stops with one of `E` only; `stopsIn_bind`;
* `bind_eq_ok`, `throwIf_eq_ok` : what a sequence that ran to its end tells, in simp normal form.
-/

namespace Checked

variable {ε α β : Type}

/-- Stop with `e` when `c` holds. -/
def throwIf (c : Prop) [Decidable c] (e : ε) : Except ε Unit := if c then .error e else .ok ()

@[simp] theorem throwIf_eq_ok {c : Prop} [Decidable c] {e : ε} {u : Unit} :
    throwIf c e = .ok u ↔ ¬ c := by
  unfold throwIf
  split <;> simp_all

theorem throwIf_neg {c : Prop} [Decidable c] (h : ¬ c) (e : ε) : throwIf c e = .ok () := if_neg h

@[simp] theorem bind_eq_ok {x : Except ε α} {f : α → Except ε β} {b : β} :
    x >>= f = .ok b ↔ ∃ a, x = .ok a ∧ f a = .ok b := by
  cases x with
  | error e =>
    constructor
    · intro h; cases h
    · rintro ⟨a, h, -⟩; cases h
  | ok a =>
    constructor
    · intro h; exact ⟨a, rfl, h⟩
    · rintro ⟨a', h, hf⟩; cases h; exact hf

@[simp] theorem pure_eq_ok {a b : α} : (pure a : Except ε α) = .ok b ↔ a = b := by
  constructor
  · intro h; cases h; rfl
  · rintro rfl; rfl

@[simp] theorem ok_bind (a : α) (f : α → Except ε β) : (.ok a : Except ε α) >>= f = f a := rfl

@[simp] theorem error_bind (e : ε) (f : α → Except ε β) :
    (.error e : Except ε α) >>= f = .error e := rfl

/-- A loop of guards runs to its end when none of them stops it. -/
@[simp] theorem forM_throwIf_eq_ok {c : α → Prop} [DecidablePred c] {e : α → ε} {l : List α} {u : PUnit} :
    (forM l fun a => throwIf (c a) (e a) : Except ε PUnit) = .ok u ↔ ∀ a ∈ l, ¬ c a := by
  induction l with
  | nil => simp [List.forM_nil]
  | cons a l ih => simp [List.forM_cons, ih]

/-- The program runs to its end. -/
def Succeeds (x : Except ε α) : Prop := ∃ a, x = .ok a

theorem succeeds_bind {x : Except ε α} {f : α → Except ε β} :
    Succeeds (x >>= f) ↔ ∃ a, x = .ok a ∧ Succeeds (f a) := by
  constructor
  · rintro ⟨b, h⟩
    obtain ⟨a, hx, hf⟩ := bind_eq_ok.mp h
    exact ⟨a, hx, b, hf⟩
  · rintro ⟨a, hx, b, hf⟩
    exact ⟨b, bind_eq_ok.mpr ⟨a, hx, hf⟩⟩

/-- A step that cannot stop leaves the rest to decide. -/
theorem succeeds_then {x : Except ε α} {f : α → Except ε β} {P : Prop} (hx : Succeeds x)
    (h : ∀ a, Succeeds (f a) ↔ P) : Succeeds (x >>= f) ↔ P := by
  obtain ⟨a, rfl⟩ := hx
  exact h a

/-- A step that stops unless `Q`, whose result does not matter. -/
theorem succeeds_and {x : Except ε α} {f : α → Except ε β} {Q P : Prop} (hx : Succeeds x ↔ Q)
    (h : ∀ a, Succeeds (f a) ↔ P) : Succeeds (x >>= f) ↔ Q ∧ P := by
  rw [succeeds_bind, ← hx]
  constructor
  · rintro ⟨a, hxa, hf⟩
    exact ⟨⟨a, hxa⟩, (h a).mp hf⟩
  · rintro ⟨⟨a, hxa⟩, hp⟩
    exact ⟨a, hxa, (h a).mpr hp⟩

/-- A step that stops unless `Q`, and has one result. -/
theorem succeeds_guard {x : Except ε α} {f : α → Except ε β} {Q P : Prop} {a : α}
    (hx : ∀ b, x = .ok b ↔ Q ∧ a = b) (h : Q → (Succeeds (f a) ↔ P)) : Succeeds (x >>= f) ↔ Q ∧ P := by
  rw [succeeds_bind]
  constructor
  · rintro ⟨b, hb, hf⟩
    obtain ⟨hq, rfl⟩ := (hx b).mp hb
    exact ⟨hq, (h hq).mp hf⟩
  · rintro ⟨hq, hp⟩
    exact ⟨a, (hx a).mpr ⟨hq, rfl⟩, (h hq).mpr hp⟩

/-! ## Stops -/

/-- Where the program stops, it stops with one of `E`. -/
def StopsIn (E : ε → Prop) (x : Except ε α) : Prop := ∀ e, x = .error e → E e

section

variable {E : ε → Prop}

@[simp] theorem stopsIn_ok {a : α} : StopsIn E (.ok a) := fun _ h => nomatch h

@[simp] theorem stopsIn_error {e : ε} : StopsIn E (.error e : Except ε α) ↔ E e := by
  constructor
  · intro h
    exact h e rfl
  · intro h e' he
    cases he
    exact h

/-- A step after another is to be judged where the first one ran to its end. -/
theorem stopsIn_bind {x : Except ε α} {f : α → Except ε β} :
    StopsIn E (x >>= f) ↔ StopsIn E x ∧ ∀ a, x = .ok a → StopsIn E (f a) := by
  cases x with
  | error e =>
    rw [error_bind, stopsIn_error, stopsIn_error]
    refine ⟨fun h => ⟨h, ?_⟩, fun h => h.1⟩
    intro a ha
    cases ha
  | ok a =>
    constructor
    · intro h
      refine ⟨stopsIn_ok, ?_⟩
      intro a' ha
      cases ha
      exact h
    · intro h
      exact h.2 a rfl

theorem stopsIn_throwIf {c : Prop} [Decidable c] {e : ε} : StopsIn E (throwIf c e) ↔ (c → E e) := by
  unfold throwIf
  split
  · next hc => simp [hc]
  · next hc => simp [hc]

end

/-! ## Results -/

/-- What a program returns has `P`. -/
def Ensures (P : α → Prop) (x : Except ε α) : Prop := ∀ a, x = .ok a → P a

namespace Ensures

variable {P : β → Prop}

/-- Whatever comes before, the last step decides. -/
theorem bind {x : Except ε α} {f : α → Except ε β} (h : ∀ a, Ensures P (f a)) : Ensures P (x >>= f) := by
  intro b hb
  obtain ⟨a, -, hf⟩ := bind_eq_ok.mp hb
  exact h a b hf

theorem ok {b : β} (h : P b) : Ensures (ε := ε) P (.ok b) := by
  intro b' hb
  cases hb
  exact h

theorem ite {c : Prop} [Decidable c] {x y : Except ε β} (hx : Ensures P x) (hy : Ensures P y) :
    Ensures P (if c then x else y) := by
  split
  · exact hx
  · exact hy

end Ensures

end Checked
