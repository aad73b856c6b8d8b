import DeepGemmRs.Lib.Stateful

/-!
# Programs beside a second state

A program that knows one half of a state runs beside the other half, which only notes what happens.

* `beside`, `note` : the two kinds of step;
* `Erases x y` : without the second half, `x` is `y`.
-/

namespace Stateful.Prog

variable {ε σ γ α β : Type}

/-- `x`, which does not see the second half. -/
def beside (x : Prog ε σ α) : Prog ε (σ × γ) α := fun s => ((x s.1).1, (x s.1).2, s.2)

/-- Change the second half by what is seen of both. -/
def note (f : σ → γ → γ) : Prog ε (σ × γ) Unit := modify fun s => (s.1, f s.1 s.2)

theorem beside_bind {x : Prog ε σ α} {f : α → Prog ε σ β} :
    (beside x >>= fun a => beside (f a) : Prog ε (σ × γ) β) = beside (x >>= f) := by
  funext s
  simp only [bind_apply, beside]
  rcases x s.1 with ⟨e | a, t⟩
  · rfl
  · rfl

theorem attempt_beside {x : Prog ε σ α} {s : σ} {g : γ} :
    Returns (attempt (beside x)) (s, g) (x s).1 ((x s).2, g) := rfl

section

variable {x : Prog ε σ α} {s : σ} {g : γ} {a : α} {u : σ × γ}

theorem returns_beside : Returns (beside x : Prog ε (σ × γ) α) (s, g) a u ↔ Returns x s a u.1 ∧ u.2 = g := by
  obtain ⟨t, g'⟩ := u
  simp only [Returns, beside, Prod.ext_iff]
  constructor
  · rintro ⟨h, ht, rfl⟩
    exact ⟨⟨h, ht⟩, rfl⟩
  · rintro ⟨⟨h, ht⟩, rfl⟩
    exact ⟨h, ht, rfl⟩

theorem stops_beside {e : ε} : (beside x : Prog ε (σ × γ) α) (s, g) = (.error e, u) ↔
    x s = (.error e, u.1) ∧ u.2 = g := by
  obtain ⟨t, g'⟩ := u
  simp only [beside, Prod.ext_iff]
  constructor
  · rintro ⟨h, ht, rfl⟩
    exact ⟨⟨h, ht⟩, rfl⟩
  · rintro ⟨⟨h, ht⟩, rfl⟩
    exact ⟨h, ht, rfl⟩

theorem returns_note {f : σ → γ → γ} :
    Returns (note f : Prog ε (σ × γ) Unit) (s, g) () u ↔ u = (s, f s g) := by
  rw [note, returns_modify]
  exact eq_comm

theorem Keeps.beside {P : σ × γ → Prop} (h : ∀ g, Keeps (fun s => P (s, g)) x) : Keeps P (beside x) :=
  fun s hs => h s.2 s.1 hs

end

/-! ## What is left without it -/

/-- From every state `x` returns or stops as `y` does, and leaves the first half as `y` does. -/
def Erases (x : Prog ε (σ × γ) α) (y : Prog ε σ α) : Prop :=
  ∀ s g, (x (s, g)).1 = (y s).1 ∧ (x (s, g)).2.1 = (y s).2

namespace Erases

variable {x : Prog ε (σ × γ) α} {y : Prog ε σ α} {f : α → Prog ε (σ × γ) β} {h : α → Prog ε σ β}

theorem beside (y : Prog ε σ α) : Erases (beside y : Prog ε (σ × γ) α) y := fun _ _ => ⟨rfl, rfl⟩

theorem pure (a : α) : Erases (pure a : Prog ε (σ × γ) α) (pure a) := fun _ _ => ⟨rfl, rfl⟩

theorem bind (hx : Erases x y) (hf : ∀ a, Erases (f a) (h a)) : Erases (x >>= f) (y >>= h) := by
  intro s g
  rw [bind_apply, bind_apply]
  obtain ⟨hresult, hstate⟩ := hx s g
  rcases hr : x (s, g) with ⟨e | a, t, g'⟩
  · rw [hr] at hresult hstate
    rw [show y s = (.error e, t) from Prod.ext hresult.symm hstate.symm]
    exact ⟨rfl, rfl⟩
  · rw [hr] at hresult hstate
    rw [show y s = (.ok a, t) from Prod.ext hresult.symm hstate.symm]
    exact hf a t g'

/-- A note leaves nothing behind. -/
theorem note_bind {k : σ → γ → γ} {z : Prog ε (σ × γ) β} {w : Prog ε σ β} (hz : Erases z w) :
    Erases (note k >>= fun _ => z) w := by
  intro s g
  rw [bind_of_returns (returns_note.mpr rfl)]
  exact hz s (k s g)

end Erases

end Stateful.Prog
