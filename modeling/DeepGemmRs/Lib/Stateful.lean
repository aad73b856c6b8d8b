import Mathlib.Tactic.Attr.Core

/-!
# Programs with a state that may stop

A program changes a state and returns or stops. The changes it made before it stopped stay, as with
an exception thrown over memory that others see.

* `Prog` : such programs, a monad; `get`, `modify`, `lift` for programs without a state; `attempt` to go
  on after a stop;
* `Returns x s a t` : from `s`, `x` returns `a` and leaves `t`; `returns_bind` and its siblings take
  a returning program apart;
* `Keeps P x` : however `x` ends, it leaves `P` as it was.
-/

namespace Stateful

/-- A program over states `σ` that may stop with `ε`. -/
def Prog (ε σ α : Type) : Type := σ → Except ε α × σ

namespace Prog

variable {ε σ α β : Type}

/-- Run `f` on what `x` returned, in the state it left. -/
def bind (x : Prog ε σ α) (f : α → Prog ε σ β) : Prog ε σ β := fun s =>
  match x s with
  | (.ok a, t) => f a t
  | (.error e, t) => (.error e, t)

instance : Monad (Prog ε σ) where
  pure a := fun s => (.ok a, s)
  bind := bind

def get : Prog ε σ σ := fun s => (.ok s, s)

def modify (f : σ → σ) : Prog ε σ Unit := fun s => (.ok (), f s)

/-- A program that does not look at the state. -/
def lift (x : Except ε α) : Prog ε σ α := fun s => (x, s)

/-- `x`, whose stop is a value: what a destructor or a handler goes on from. -/
def attempt (x : Prog ε σ α) : Prog ε σ (Except ε α) := fun s => (.ok (x s).1, (x s).2)

/-- From `s`, `x` returns `a` and leaves `t`. -/
def Returns (x : Prog ε σ α) (s : σ) (a : α) (t : σ) : Prop := x s = (.ok a, t)

/-- However `x` ends, the state has `P` afterwards if it had it before. -/
def Keeps (P : σ → Prop) (x : Prog ε σ α) : Prop := ∀ s, P s → P (x s).2

variable {x : Prog ε σ α} {f : α → Prog ε σ β} {s t u : σ} {a c : α} {b : β} {e : ε} {P : σ → Prop}

theorem bind_apply : (x >>= f) s = match x s with
    | (.ok a, t) => f a t
    | (.error e, t) => (.error e, t) := rfl

instance : LawfulMonad (Prog ε σ) := by
  refine LawfulMonad.mk' _ ?_ ?_ ?_
  · intro α x
    funext s
    show (match x s with | (.ok a, t) => (.ok a, t) | (.error e, t) => (.error e, t)) = x s
    rcases x s with ⟨e | a, t⟩
    · rfl
    · rfl
  · intro α β a f
    rfl
  · intro α β γ x f g
    funext s
    show (match (match x s with | (.ok a, t) => f a t | (.error e, t) => (.error e, t)) with
      | (.ok b, u) => g b u
      | (.error e, u) => (.error e, u)) = match x s with
      | (.ok a, t) => (f a >>= g) t
      | (.error e, t) => (.error e, t)
    rcases x s with ⟨e | a, t⟩
    · rfl
    · rfl

theorem returns_bind : Returns (x >>= f) s b u ↔ ∃ a t, Returns x s a t ∧ Returns (f a) t b u := by
  unfold Returns
  rw [bind_apply]
  rcases x s with ⟨e | a, t⟩
  · simp
  · refine ⟨fun h => ⟨a, t, rfl, h⟩, ?_⟩
    rintro ⟨a', t', h, hf⟩
    cases h
    exact hf

/-- What comes after a program that returned. -/
theorem bind_of_returns (h : Returns x s a t) : (x >>= f) s = f a t := by
  rw [bind_apply, h]

@[simp] theorem returns_pure : Returns (pure a : Prog ε σ α) s c t ↔ a = c ∧ s = t := by
  simp [Returns, pure]

@[simp] theorem returns_get : Returns (get : Prog ε σ σ) s t u ↔ s = t ∧ s = u := by
  simp [Returns, get]

@[simp] theorem returns_modify {g : σ → σ} {v : Unit} :
    Returns (modify g : Prog ε σ Unit) s v t ↔ g s = t := by
  simp [Returns, modify]

@[simp] theorem returns_lift {y : Except ε α} :
    Returns (lift y : Prog ε σ α) s a t ↔ y = .ok a ∧ s = t := by
  simp [Returns, lift]

/-- What holds at the end, whichever part ends. -/
theorem ends_bind (hx : ∀ e t, x s = (.error e, t) → P t) (hf : ∀ a t, Returns x s a t → P (f a t).2) :
    P ((x >>= f) s).2 := by
  rw [bind_apply]
  rcases hr : x s with ⟨e | a, t⟩
  · exact hx e t hr
  · exact hf a t hr

theorem Keeps.bind (hx : Keeps P x) (hf : ∀ a, Keeps P (f a)) : Keeps P (x >>= f) := by
  intro s hs
  have hxs := hx s hs
  apply ends_bind
  · intro e t hr
    rwa [hr] at hxs
  · intro a t hr
    rw [hr] at hxs
    exact hf a t hxs

/-- What holds after a program that returned. -/
theorem Keeps.of_returns (h : Keeps P x) (hr : Returns x s a t) (hs : P s) : P t := by
  have := h s hs
  rwa [hr] at this

/-- What holds after a program that stopped. -/
theorem Keeps.of_stops (h : Keeps P x) (hr : x s = (.error e, t)) (hs : P s) : P t := by
  have := h s hs
  rwa [hr] at this

theorem Keeps.pure : Keeps P (pure a : Prog ε σ α) := fun _ hs => hs

theorem Keeps.get : Keeps P (get : Prog ε σ σ) := fun _ hs => hs

theorem Keeps.lift {y : Except ε α} : Keeps P (lift y : Prog ε σ α) := fun _ hs => hs

theorem Keeps.modify {g : σ → σ} (h : ∀ s, P s → P (g s)) : Keeps P (modify g : Prog ε σ Unit) := h

/-- When the first part does not return, the whole ends as it does. -/
theorem stops_bind (h : (x >>= f) s = (.error e, u)) :
    x s = (.error e, u) ∨ ∃ a t, Returns x s a t ∧ f a t = (.error e, u) := by
  rw [bind_apply] at h
  rcases hr : x s with ⟨e' | a, t⟩
  · rw [hr] at h
    exact .inl (by simpa using h)
  · rw [hr] at h
    exact .inr ⟨a, t, hr, h⟩

end Prog

end Stateful
