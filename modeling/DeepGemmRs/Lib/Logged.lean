import DeepGemmRs.Lib.Ghost

/-!
# Programs with a log

A program beside a log of what it did, in order. A program that knows nothing of the log runs beside it.

* `Logged`, `emit` : such programs; `beside` runs one that does not see the log;
* `Silent x` : however `x` ends, it logs nothing;
* `StopsSilent x` : when `x` stops, it has logged nothing;
* `Logs x a l`, `LogsStop x e l` : from any state, `x` returns `a` or stops with `e` and has logged `l`;
* `Shadows x y l` : `x` does what `y` does, and logs `l s` from `s`.
-/

namespace Stateful.Prog

variable {ε σ ω α β : Type}

abbrev Logged (ε σ ω α : Type) : Type := Prog ε (σ × List ω) α

def emit (event : ω) : Logged ε σ ω Unit := modify fun s => (s.1, s.2 ++ [event])

def Silent (x : Logged ε σ ω α) : Prop := ∀ s, (x s).2.2 = s.2

def StopsSilent (x : Logged ε σ ω α) : Prop := ∀ s e t, x s = (.error e, t) → t.2 = s.2

variable {x : Logged ε σ ω α} {f : α → Logged ε σ ω β}

namespace Silent

theorem beside (y : Prog ε σ α) : Silent (beside y : Logged ε σ ω α) := fun _ => rfl

theorem lift (y : Except ε α) : Silent (lift y : Logged ε σ ω α) := fun _ => rfl

theorem pure (a : α) : Silent (pure a : Logged ε σ ω α) := fun _ => rfl

theorem bind (hx : Silent x) (hf : ∀ a, Silent (f a)) : Silent (x >>= f) := by
  intro s
  rw [bind_apply]
  have h := hx s
  rcases hr : x s with ⟨_ | a, t⟩
  · rwa [hr] at h
  · rw [hr] at h
    exact (hf a t).trans h

theorem forM (l : List β) {g : β → Logged ε σ ω PUnit} (hg : ∀ b, Silent (g b)) : Silent (l.forM g) := by
  induction l with
  | nil => exact Silent.pure _
  | cons b l ih => exact (hg b).bind fun _ => ih

theorem of_returns {s t : σ × List ω} {a : α} (h : Silent x) (hr : Returns x s a t) : t.2 = s.2 := by
  have := h s
  rwa [hr] at this

theorem stopsSilent (h : Silent x) : StopsSilent x := by
  intro s e t hstop
  have := h s
  rwa [hstop] at this

end Silent

namespace StopsSilent

theorem emit (event : ω) : StopsSilent (emit event : Logged ε σ ω Unit) := by
  intro s e t hstop
  cases hstop

end StopsSilent

/-- What logs comes last. -/
theorem Silent.thenStops (hx : Silent x) (hf : ∀ a, StopsSilent (f a)) : StopsSilent (x >>= f) := by
  intro s e t hstop
  rcases stops_bind hstop with hfirst | ⟨a, u, hreturns, hsecond⟩
  · exact hx.stopsSilent s e t hfirst
  · have hu := hx s
    rw [hreturns] at hu
    exact (hf a u e t hsecond).trans hu

/-! ## What is logged -/

def Logs (x : Logged ε σ ω α) (a : α) (l : List ω) : Prop := ∀ s, ∃ t, x s = (.ok a, t, s.2 ++ l)

def LogsStop (x : Logged ε σ ω α) (e : ε) (l : List ω) : Prop := ∀ s, ∃ t, x s = (.error e, t, s.2 ++ l)

variable {a : α} {b : β} {e : ε} {l l' : List ω}

namespace Logs

theorem pure (a : α) : Logs (pure a : Logged ε σ ω α) a [] := fun s => ⟨s.1, by rw [List.append_nil]; rfl⟩

theorem lift {y : Except ε α} (h : y = .ok a) : Logs (lift y : Logged ε σ ω α) a [] := h ▸ pure a

theorem beside {y : Prog ε σ α} (h : ∀ s, (y s).1 = .ok a) : Logs (beside y : Logged ε σ ω α) a [] := by
  intro s
  refine ⟨(y s.1).2, ?_⟩
  rw [List.append_nil]
  exact Prod.ext (h s.1) rfl

theorem emit (event : ω) : Logs (emit event : Logged ε σ ω Unit) () [event] := fun s => ⟨s.1, rfl⟩

theorem bind (hx : Logs x a l) (hf : Logs (f a) b l') : Logs (x >>= f) b (l ++ l') := by
  intro s
  obtain ⟨t, ht⟩ := hx s
  obtain ⟨u, hu⟩ := hf (t, s.2 ++ l)
  refine ⟨u, ?_⟩
  rw [bind_apply, ht, ← List.append_assoc]
  exact hu

theorem forM (bs : List β) {g : β → Logged ε σ ω PUnit} (hg : ∀ b ∈ bs, Logs (g b) ⟨⟩ []) : Logs (bs.forM g) ⟨⟩ [] := by
  induction bs with
  | nil => exact Logs.pure _
  | cons b bs ih =>
    obtain ⟨hb, hbs⟩ := List.forall_mem_cons.mp hg
    exact hb.bind (ih hbs)

/-- What comes after a program that returned may stop. -/
theorem bind_stop (hx : Logs x a l) (hf : LogsStop (f a) e l') : LogsStop (x >>= f) e (l ++ l') := by
  intro s
  obtain ⟨t, ht⟩ := hx s
  obtain ⟨u, hu⟩ := hf (t, s.2 ++ l)
  refine ⟨u, ?_⟩
  rw [bind_apply, ht, ← List.append_assoc]
  exact hu

end Logs

theorem LogsStop.bind (hx : LogsStop x e l) : LogsStop (x >>= f) e l := by
  intro s
  obtain ⟨t, ht⟩ := hx s
  exact ⟨t, by rw [bind_apply, ht]⟩

theorem LogsStop.beside {y : Prog ε σ α} (h : ∀ s, (y s).1 = .error e) :
    LogsStop (beside y : Logged ε σ ω α) e [] := by
  intro s
  refine ⟨(y s.1).2, ?_⟩
  rw [List.append_nil]
  exact Prod.ext (h s.1) rfl

/-- One stops after others return. -/
theorem LogsStop.forM (before after : List β) (b : β) {g : β → Logged ε σ ω PUnit}
    (hbefore : ∀ b ∈ before, Logs (g b) ⟨⟩ []) (hb : LogsStop (g b) e []) :
    LogsStop ((before ++ b :: after).forM g) e [] := by
  induction before with
  | nil => exact hb.bind
  | cons c before ih =>
    obtain ⟨hc, hbefore⟩ := List.forall_mem_cons.mp hbefore
    exact hc.bind_stop (ih hbefore)

/-! ## Logging beside a program -/

/-- From every state `x` ends as `y` does, and it logs what `l` says of the state. -/
def Shadows (x : Logged ε σ ω α) (y : Prog ε σ α) (l : σ → List ω) : Prop :=
  ∀ s log, x (s, log) = ((y s).1, (y s).2, log ++ l s)

/-- What `m` says of the state and the value that `y` returns. -/
def afterwards (y : Prog ε σ α) (m : α → σ → List ω) (s : σ) : List ω :=
  match y s with
  | (.ok a, t) => m a t
  | (.error _, _) => []

namespace Shadows

variable {y : Prog ε σ α} {g : α → Prog ε σ β} {l : σ → List ω} {m : α → σ → List ω}

theorem beside (y : Prog ε σ α) : Shadows (beside y : Logged ε σ ω α) y fun _ => [] := by
  intro s log
  rw [List.append_nil]
  rfl

theorem bind (hx : Shadows x y l) (hf : ∀ a, Shadows (f a) (g a) (m a)) :
    Shadows (x >>= f) (y >>= g) fun s => l s ++ afterwards y m s := by
  intro s log
  rw [bind_apply, bind_apply, hx]
  simp only [afterwards]
  rcases y s with ⟨e | a, t⟩
  · rw [List.append_nil]
  · rw [← List.append_assoc]
    exact hf a t _

/-- What comes after a program that does not see the log. -/
theorem bind_beside (hf : ∀ a, Shadows (f a) (g a) (m a)) :
    Shadows (Prog.beside y >>= f) (y >>= g) (afterwards y m) := by
  have h := (beside y).bind hf
  simpa only [List.nil_append] using h

end Shadows

end Stateful.Prog
