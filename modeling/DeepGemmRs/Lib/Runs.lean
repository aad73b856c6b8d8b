import Mathlib.Data.List.Induction

/-!
# Runs of a transition system

A system is a partial step function `step : σ → α → Option σ`; a step that is not enabled has no
successor.

* `Run step C s tr s'` : the steps `tr` lead from `s` to `s'`, and `C` holds of each before it is taken;
* `Run.invariant` : what every step keeps, a run keeps;
* `Run.mono`, `Run.mono_of_mem` : weaker conditions; `Run.split`, `Run.of_cons` : the states on the way;
* `run_of_foldlM` : an executed run.
-/

namespace Runs

variable {σ α : Type}

/-- `tr` leads from `s` to the last state, by steps that meet `C`. -/
inductive Run (step : σ → α → Option σ) (C : σ → α → Prop) (s : σ) : List α → σ → Prop
  | nil : Run step C s [] s
  | snoc {tr : List α} {t u : σ} {a : α} :
      Run step C s tr t → C t a → step t a = some u → Run step C s (tr ++ [a]) u

namespace Run

variable {step : σ → α → Option σ} {C D : σ → α → Prop} {s t : σ} {tr : List α}

/-- What each step that meets the condition keeps holds at the end of a run. -/
theorem invariant {P : σ → Prop} (h0 : P s)
    (hstep : ∀ t a u, P t → C t a → step t a = some u → P u) (h : Run step C s tr t) : P t := by
  induction h with
  | nil => exact h0
  | snoc _ hc hs ih => exact hstep _ _ _ ih hc hs

/-- A condition that the steps of this run meet. -/
theorem mono_of_mem (hCD : ∀ t, ∀ a ∈ tr, C t a → D t a) (h : Run step C s tr t) : Run step D s tr t := by
  induction h with
  | nil => exact nil
  | snoc _ hc hs ih =>
    refine snoc (ih fun t a ha => hCD t a (List.mem_append_left _ ha)) ?_ hs
    exact hCD _ _ (List.mem_append_right _ List.mem_cons_self) hc

theorem mono (hCD : ∀ t a, C t a → D t a) (h : Run step C s tr t) : Run step D s tr t :=
  h.mono_of_mem fun t a _ => hCD t a

/-- A first step before a run. -/
theorem cons {a : α} {u : σ} (hc : C s a) (hs : step s a = some t) (h : Run step C t tr u) :
    Run step C s (a :: tr) u := by
  induction h with
  | nil => exact snoc nil hc hs
  | snoc _ hc' hs' ih => exact snoc ih hc' hs'

/-- One run after another. -/
theorem append {tr' : List α} {u : σ} (h : Run step C s tr t) (h' : Run step C t tr' u) :
    Run step C s (tr ++ tr') u := by
  induction h' with
  | nil => rwa [List.append_nil]
  | snoc _ hc hs ih =>
    rw [← List.append_assoc]
    exact snoc ih hc hs

/-- The steps decide where a run ends. -/
theorem unique {u : σ} (h : Run step C s tr t) (h' : Run step D s tr u) : t = u := by
  induction h generalizing u with
  | nil =>
    generalize hl : ([] : List α) = l at h'
    cases h' with
    | nil => rfl
    | snoc => simp at hl
  | @snoc tr t v a hr hc hs ih =>
    generalize hl : tr ++ [a] = l at h'
    cases h' with
    | nil => simp at hl
    | @snoc tr' t' _ a' hr' hc' hs' =>
      obtain ⟨rfl, ha⟩ := List.append_inj' hl rfl
      obtain rfl : a = a' := List.singleton_inj.mp ha
      rw [ih hr', hs'] at hs
      exact (Option.some_inj.mp hs).symm

/-- A run in two parts. -/
theorem splitAt {tr' : List α} (h : Run step C s (tr ++ tr') t) : ∃ u, Run step C s tr u ∧ Run step C u tr' t := by
  generalize hl : tr ++ tr' = l at h
  induction h generalizing tr' with
  | nil =>
    obtain ⟨rfl, rfl⟩ := List.append_eq_nil_iff.mp hl
    exact ⟨s, nil, nil⟩
  | @snoc l t u a hr hc hs ih =>
    rcases List.eq_nil_or_concat tr' with rfl | ⟨m, b, rfl⟩
    · rw [List.append_nil] at hl
      exact ⟨u, hl ▸ snoc hr hc hs, nil⟩
    · rw [List.concat_eq_append, ← List.append_assoc] at hl
      obtain ⟨hparts, hb⟩ := List.append_inj' hl rfl
      obtain rfl := List.singleton_inj.mp hb
      obtain ⟨v, hv, hm⟩ := ih hparts
      refine ⟨v, hv, ?_⟩
      rw [List.concat_eq_append]
      exact snoc hm hc hs

/-- The first step of a run. -/
theorem of_cons {a : α} (h : Run step C s (a :: tr) t) : ∃ u, C s a ∧ step s a = some u ∧ Run step C u tr t := by
  have hparts : Run step C s ([a] ++ tr) t := h
  obtain ⟨u, hfirst, hrest⟩ := hparts.splitAt
  refine ⟨u, ?_⟩
  generalize hl : [a] = l at hfirst
  cases hfirst with
  | nil => cases hl
  | @snoc m v _ b hr hc hs =>
    obtain ⟨hm, hb⟩ := List.append_inj' (show [] ++ [a] = m ++ [b] from hl) rfl
    obtain rfl := List.singleton_inj.mp hb
    subst hm
    obtain rfl := unique hr (D := C) nil
    exact ⟨hc, hs, hrest⟩

/-- Each beginning of a run is a run. -/
theorem split {tr' : List α} (h : Run step C s (tr ++ tr') t) : ∃ u, Run step C s tr u := by
  obtain ⟨u, hu, -⟩ := h.splitAt
  exact ⟨u, hu⟩

end Run

theorem foldlM_cons_of {step : σ → α → Option σ} {s t u : σ} {a : α} {tr : List α} (h : step s a = some t)
    (hr : tr.foldlM step t = some u) : (a :: tr).foldlM step s = some u := by
  rw [List.foldlM_cons, h]
  exact hr

theorem foldlM_append_of {step : σ → α → Option σ} {s t u : σ} {tr tr' : List α}
    (h : tr.foldlM step s = some t) (hr : tr'.foldlM step t = some u) : (tr ++ tr').foldlM step s = some u := by
  rw [List.foldlM_append, h]
  exact hr

/-- An executed run is a run. -/
theorem run_of_foldlM {step : σ → α → Option σ} {s t : σ} :
    ∀ {tr : List α}, tr.foldlM step s = some t → Run step (fun _ _ => True) s tr t := by
  intro tr
  induction tr using List.reverseRecOn generalizing t with
  | nil =>
    intro h
    cases h
    exact .nil
  | append_singleton tr a ih =>
    intro h
    rw [List.foldlM_append] at h
    obtain ⟨u, hu, ha⟩ := Option.bind_eq_some_iff.mp h
    rw [List.foldlM_cons] at ha
    obtain ⟨v, hv, he⟩ := Option.bind_eq_some_iff.mp ha
    cases he
    exact .snoc (ih hu) trivial hv

end Runs
