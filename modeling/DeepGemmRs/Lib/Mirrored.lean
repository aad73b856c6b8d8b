import DeepGemmRs.Lib.Runs
import Mathlib.Logic.Function.Basic

/-!
# A cell and its mirror

A value is kept in a cell, and next to it a mirror says whether it is worth reading. A write stores the value and
then sets the mirror; a read looks into the mirror and then, when there is something, takes what the cell has. No
lock is held from the one to the other.

* `Job`, `State`, `State.step` : the two steps of each job, those of different threads in any order;
* `Idle`, `Quiet` : no job, no write is half done; `State.seen` : what a read finds that meets no write;
* `Agree` : two threads write values that look alike;
* `Mirroring`, `mirroring_of_run` : while threads agree, the mirror of a quiet state is right;
* `mirrors_iff` : **the mirror hides no value from quiet states exactly when the threads agree**;
* `read_finds_seen` : a read that meets no write finds `seen`;
* `reads_find` : when nothing written is hidden, all reads find something once the mirror is set.
-/

namespace Mirrored

open Runs

variable {T V R : Type} [DecidableEq T] {visible : V → Bool}

inductive Job (V R : Type) where
  | write (value : V)
  | read (reader : R)

/-- A thread: whether its first job is half done, and the jobs that are left. -/
structure Thread (V R : Type) where
  begun : Bool
  jobs : List (Job V R)

structure State (T V R : Type) where
  cell : V
  mirror : Bool
  threads : T → Thread V R
  /-- What the reads of each thread found. -/
  log : T → List (R × Option V)

namespace State

/-- Every thread has its jobs to do. -/
def start (visible : V → Bool) (value : V) (jobs : T → List (Job V R)) : State T V R where
  cell := value
  mirror := visible value
  threads t := ⟨false, jobs t⟩
  log _ := []

/-- Thread `t` goes on. -/
def advance (s : State T V R) (t : T) (thread : Thread V R) : State T V R where
  cell := s.cell
  mirror := s.mirror
  threads := Function.update s.threads t thread
  log := s.log

/-- Thread `t` finds something, or nothing. -/
def find (s : State T V R) (t : T) (reader : R) (found : Option V) : State T V R where
  cell := s.cell
  mirror := s.mirror
  threads := s.threads
  log := Function.update s.log t ((reader, found) :: s.log t)

/-- A step of one thread. -/
def step (visible : V → Bool) (s : State T V R) (t : T) : Option (State T V R) :=
  match s.threads t with
  | ⟨_, []⟩ => none
  | ⟨false, .write value :: rest⟩ => some ({ s with cell := value }.advance t ⟨true, .write value :: rest⟩)
  | ⟨true, .write value :: rest⟩ => some ({ s with mirror := visible value }.advance t ⟨false, rest⟩)
  | ⟨false, .read reader :: rest⟩ =>
    if s.mirror then some (s.advance t ⟨true, .read reader :: rest⟩)
    else some ((s.find t reader none).advance t ⟨false, rest⟩)
  | ⟨true, .read reader :: rest⟩ => some ((s.find t reader (some s.cell)).advance t ⟨false, rest⟩)

/-- What a read finds that meets no write. -/
def seen (s : State T V R) : Option V := if s.mirror then some s.cell else none

/-- No write is half done. -/
def Quiet (s : State T V R) : Prop := ∀ t value rest, s.threads t ≠ ⟨true, .write value :: rest⟩

/-- No job is half done. -/
def Idle (s : State T V R) : Prop := ∀ t, (s.threads t).begun = false

end State

/-- Different threads write values that look alike. -/
def Agree (visible : V → Bool) (jobs : T → List (Job V R)) : Prop :=
  ∀ t t', t ≠ t' → ∀ value value', .write value ∈ jobs t → .write value' ∈ jobs t' → visible value = visible value'

variable {jobs : T → List (Job V R)} {initial : V} {s s' : State T V R} {t : T}

/-! ## Steps -/

@[simp] theorem State.advance_self (thread : Thread V R) : (s.advance t thread).threads t = thread :=
  Function.update_self ..

@[simp] theorem State.advance_of_ne (thread : Thread V R) {t' : T} (h : t' ≠ t) :
    (s.advance t thread).threads t' = s.threads t' := Function.update_of_ne h ..

/-- What a step of a thread can be. -/
inductive Steps (visible : V → Bool) (s : State T V R) (t : T) : State T V R → Prop
  | store (value : V) (rest : List (Job V R)) (ht : s.threads t = ⟨false, .write value :: rest⟩) :
      Steps visible s t ({ s with cell := value }.advance t ⟨true, .write value :: rest⟩)
  | reflect (value : V) (rest : List (Job V R)) (ht : s.threads t = ⟨true, .write value :: rest⟩) :
      Steps visible s t ({ s with mirror := visible value }.advance t ⟨false, rest⟩)
  | look (reader : R) (rest : List (Job V R)) (ht : s.threads t = ⟨false, .read reader :: rest⟩) (hm : s.mirror = true) :
      Steps visible s t (s.advance t ⟨true, .read reader :: rest⟩)
  | miss (reader : R) (rest : List (Job V R)) (ht : s.threads t = ⟨false, .read reader :: rest⟩) (hm : s.mirror = false) :
      Steps visible s t ((s.find t reader none).advance t ⟨false, rest⟩)
  | take (reader : R) (rest : List (Job V R)) (ht : s.threads t = ⟨true, .read reader :: rest⟩) :
      Steps visible s t ((s.find t reader (some s.cell)).advance t ⟨false, rest⟩)

theorem steps_of_step (h : s.step visible t = some s') : Steps visible s t s' := by
  unfold State.step at h
  split at h
  · cases h
  · next value rest ht =>
    cases h
    exact .store value rest ht
  · next value rest ht =>
    cases h
    exact .reflect value rest ht
  · next reader rest ht =>
    split at h
    · next hm =>
      cases h
      exact .look reader rest ht hm
    · next hm =>
      cases h
      exact .miss reader rest ht (Bool.eq_false_iff.mpr hm)
  · next reader rest ht =>
    cases h
    exact .take reader rest ht

theorem step_of_steps (h : Steps visible s t s') : s.step visible t = some s' := by
  cases h with
  | store value rest ht => simp only [State.step, ht]
  | reflect value rest ht => simp only [State.step, ht]
  | look reader rest ht hm => simp only [State.step, ht, hm, if_true]
  | miss reader rest ht hm => simp only [State.step, ht, hm, Bool.false_eq_true, if_false]
  | take reader rest ht => simp only [State.step, ht]

theorem Steps.threads_ne (h : Steps visible s t s') {t' : T} (hne : t' ≠ t) : s'.threads t' = s.threads t' := by
  cases h <;> exact Function.update_of_ne hne _ _

/-- A step leaves the jobs of a thread, or all but the first. -/
theorem Steps.jobs_subset (h : Steps visible s t s') (t' : T) : (s'.threads t').jobs ⊆ (s.threads t').jobs := by
  by_cases he : t' = t
  · subst he
    cases h with
    | store value rest ht | reflect value rest ht | look reader rest ht | miss reader rest ht | take reader rest ht =>
      rw [State.advance_self, ht]
      first | exact List.Subset.refl _ | exact List.subset_cons_self _ _
  · rw [h.threads_ne he]
    exact List.Subset.refl _

/-- Thread `t` is in the middle of a write. -/
def Half (s : State T V R) (t : T) (value : V) : Prop := ∃ rest, s.threads t = ⟨true, .write value :: rest⟩

/-- A step that writes nothing leaves the cell, the mirror and the writes that are half done. -/
theorem Steps.of_reads (h : Steps visible s t s') (hreads : ∀ value rest, (s.threads t).jobs ≠ .write value :: rest) :
    s'.cell = s.cell ∧ s'.mirror = s.mirror ∧ ∀ t' value, Half s' t' value ↔ Half s t' value := by
  have hbefore : ∀ value, ¬ Half s t value := by
    rintro value ⟨rest, hwrite⟩
    exact hreads value rest (by rw [hwrite])
  have hother : ∀ t' value, t' ≠ t → (Half s' t' value ↔ Half s t' value) := by
    intro t' value hne
    unfold Half
    rw [h.threads_ne hne]
  have hhalf : (∀ value, ¬ Half s' t value) → ∀ t' value, Half s' t' value ↔ Half s t' value := by
    intro hafter t' value
    by_cases he : t' = t
    · subst he
      exact iff_of_false (hafter value) (hbefore value)
    · exact hother t' value he
  cases h with
  | store value rest ht | reflect value rest ht => exact absurd (by rw [ht]) (hreads value rest)
  | look reader rest ht hm | miss reader rest ht hm | take reader rest ht =>
    refine ⟨rfl, rfl, hhalf ?_⟩
    rintro value ⟨rest', hwrite⟩
    rw [State.advance_self] at hwrite
    cases hwrite

omit [DecidableEq T] in
theorem quiet_iff : s.Quiet ↔ ∀ t value, ¬ Half s t value := by
  constructor
  · rintro h t value ⟨rest, hwrite⟩
    exact h t value rest hwrite
  · intro h t value rest hwrite
    exact h t value ⟨rest, hwrite⟩

/-! ## Threads that agree -/

/-- What threads keep while they agree. -/
structure Mirroring (visible : V → Bool) (jobs : T → List (Job V R)) (s : State T V R) : Prop where
  left : ∀ t, (s.threads t).jobs ⊆ jobs t
  stored : ∀ t value, Half s t value → visible s.cell = visible value
  quiet : s.Quiet → s.mirror = visible s.cell

omit [DecidableEq T] in
theorem Mirroring.start : Mirroring visible jobs (State.start visible initial jobs) where
  left _ := List.Subset.refl _
  stored t value h := by
    obtain ⟨rest, h⟩ := h
    cases h
  quiet _ := rfl

omit [DecidableEq T] in
theorem Mirroring.mem (h : Mirroring visible jobs s) {begun : Bool} {job : Job V R} {rest : List (Job V R)}
    (ht : s.threads t = ⟨begun, job :: rest⟩) : job ∈ jobs t :=
  h.left t (by rw [ht]; exact List.mem_cons_self)

/-- The step of a thread that stores. -/
theorem Mirroring.store (h : Mirroring visible jobs s) (hagree : Agree visible jobs) {value : V} {rest : List (Job V R)}
    (ht : s.threads t = ⟨false, .write value :: rest⟩) :
    Mirroring visible jobs ({ s with cell := value }.advance t ⟨true, .write value :: rest⟩) := by
  have hstep : Steps visible s t _ := .store value rest ht
  refine ⟨fun t' => List.Subset.trans (hstep.jobs_subset t') (h.left t'), ?_, ?_⟩
  · rintro t' value' ⟨rest', ht'⟩
    by_cases he : t' = t
    · subst he
      rw [State.advance_self] at ht'
      cases ht'
      rfl
    · rw [hstep.threads_ne he] at ht'
      exact hagree t t' (Ne.symm he) value value' (h.mem ht) (h.mem ht')
  · intro hquiet
    exact absurd (State.advance_self _) (hquiet t value rest)

/-- The step of a thread that sets the mirror to what it stored. -/
theorem Mirroring.reflect (h : Mirroring visible jobs s) {value : V} {rest : List (Job V R)}
    (ht : s.threads t = ⟨true, .write value :: rest⟩) :
    Mirroring visible jobs ({ s with mirror := visible value }.advance t ⟨false, rest⟩) := by
  have hstep : Steps visible s t _ := .reflect value rest ht
  have hvisible : visible s.cell = visible value := h.stored t value ⟨rest, ht⟩
  refine ⟨fun t' => List.Subset.trans (hstep.jobs_subset t') (h.left t'), ?_, fun _ => hvisible.symm⟩
  rintro t' value' ⟨rest', ht'⟩
  by_cases he : t' = t
  · subst he
    rw [State.advance_self] at ht'
    cases ht'
  · rw [hstep.threads_ne he] at ht'
    exact h.stored t' value' ⟨rest', ht'⟩

theorem Mirroring.step (h : Mirroring visible jobs s) (hagree : Agree visible jobs) (hs : s.step visible t = some s') :
    Mirroring visible jobs s' := by
  have hsteps := steps_of_step hs
  have hleft : ∀ t', (s'.threads t').jobs ⊆ jobs t' := fun t' =>
    List.Subset.trans (hsteps.jobs_subset t') (h.left t')
  have hread : (∀ value rest, (s.threads t).jobs ≠ .write value :: rest) → Mirroring visible jobs s' := by
    intro hreads
    obtain ⟨hcell, hmirror, hhalf⟩ := hsteps.of_reads hreads
    refine ⟨hleft, fun t' value hwrite => ?_, fun hquiet => ?_⟩
    · rw [hcell]
      exact h.stored t' value ((hhalf t' value).mp hwrite)
    · rw [hmirror, hcell]
      apply h.quiet
      rw [quiet_iff] at hquiet ⊢
      intro t' value hwrite
      exact hquiet t' value ((hhalf t' value).mpr hwrite)
  cases hsteps with
  | store value rest ht => exact h.store hagree ht
  | reflect value rest ht => exact h.reflect ht
  | look reader rest ht | miss reader rest ht | take reader rest ht =>
    apply hread
    intro value rest' hwrite
    rw [ht] at hwrite
    cases hwrite

theorem mirroring_of_run (hagree : Agree visible jobs) {trace : List T}
    (h : Run (State.step visible) (fun _ _ => True) (State.start visible initial jobs) trace s) :
    Mirroring visible jobs s :=
  h.invariant Mirroring.start fun _ _ _ ht _ hs => ht.step hagree hs

/-! ## Threads that do not -/

/-- A thread can do its first job while the others wait. -/
theorem run_job (visible : V → Bool) (job : Job V R) (rest : List (Job V R)) (ht : s.threads t = ⟨false, job :: rest⟩) : ∃ trace s',
    Run (State.step visible) (fun _ _ => True) s trace s' ∧ s'.threads = Function.update s.threads t ⟨false, rest⟩ := by
  have htwo : ∀ {u v : State T V R} {begun : Bool} {jobs : List (Job V R)}, s.step visible t = some u →
      u.threads = Function.update s.threads t ⟨begun, jobs⟩ → u.step visible t = some v →
      v.threads = Function.update u.threads t ⟨false, rest⟩ → ∃ trace s',
        Run (State.step visible) (fun _ _ => True) s trace s' ∧
          s'.threads = Function.update s.threads t ⟨false, rest⟩ := by
    intro u v begun jobs hu huThreads hv hvThreads
    refine ⟨[t, t], v, Run.cons trivial hu (Run.cons trivial hv .nil), ?_⟩
    rw [hvThreads, huThreads, Function.update_idem]
  cases job with
  | write value =>
    have hstore : s.step visible t = some _ := step_of_steps (.store value rest ht)
    exact htwo hstore rfl (step_of_steps (.reflect value rest (State.advance_self _))) rfl
  | read reader =>
    cases hm : s.mirror with
    | true =>
      have hlook : s.step visible t = some _ := step_of_steps (.look reader rest ht hm)
      exact htwo hlook rfl (step_of_steps (.take reader rest (State.advance_self _))) rfl
    | false =>
      exact ⟨[t], _, Run.cons trivial (step_of_steps (.miss reader rest ht hm)) .nil, rfl⟩

/-- A thread can do its first jobs while the others wait. -/
theorem run_jobs (visible : V → Bool) (first rest : List (Job V R)) (ht : s.threads t = ⟨false, first ++ rest⟩) : ∃ trace s',
    Run (State.step visible) (fun _ _ => True) s trace s' ∧ s'.threads = Function.update s.threads t ⟨false, rest⟩ := by
  induction first generalizing s with
  | nil =>
    refine ⟨[], s, .nil, ?_⟩
    rw [← show s.threads t = ⟨false, rest⟩ from ht, Function.update_eq_self]
  | cons job first ih =>
    obtain ⟨trace, u, hrun, hu⟩ := run_job visible job (first ++ rest) ht
    obtain ⟨trace', s', hrun', hs'⟩ := ih (s := u) (by rw [hu, Function.update_self])
    refine ⟨trace ++ trace', s', hrun.append hrun', ?_⟩
    rw [hs', hu, Function.update_idem]

/-- A thread that writes something visible is not overtaken by one that hides it. -/
theorem visible_of_unhidden {t' : T} {value value' : V}
    (h : ∀ trace s, Run (State.step visible) (fun _ _ => True) (State.start visible initial jobs) trace s → s.Idle →
      visible s.cell = true → s.mirror = true)
    (hne : t ≠ t') (hmem : .write value ∈ jobs t) (hmem' : .write value' ∈ jobs t') (hvisible : visible value = true) :
    visible value' = true := by
  obtain ⟨first, rest, hfirst⟩ := List.append_of_mem hmem
  obtain ⟨first', rest', hfirst'⟩ := List.append_of_mem hmem'
  -- both threads come to their writes, `t'` stores, `t` stores and sets the mirror, `t'` sets the mirror
  obtain ⟨trace, u, hrun, hu⟩ := run_jobs visible first (.write value :: rest)
    (show (State.start visible initial jobs).threads t = _ by rw [← hfirst]; rfl)
  obtain ⟨trace', v, hrun', hv⟩ := run_jobs visible first' (.write value' :: rest')
    (show u.threads t' = _ by rw [hu, Function.update_of_ne hne.symm, ← hfirst']; rfl)
  have ht : v.threads t = ⟨false, .write value :: rest⟩ := by
    rw [hv, Function.update_of_ne hne, hu, Function.update_self]
  have ht' : v.threads t' = ⟨false, .write value' :: rest'⟩ := by rw [hv, Function.update_self]
  let v₁ := { v with cell := value' }.advance t' ⟨true, .write value' :: rest'⟩
  have h₁ : v.step visible t' = some v₁ := step_of_steps (.store value' rest' ht')
  let v₂ := { v₁ with cell := value }.advance t ⟨true, .write value :: rest⟩
  have h₂ : v₁.step visible t = some v₂ :=
    step_of_steps (.store value rest ((State.advance_of_ne _ hne).trans ht))
  let v₃ := { v₂ with mirror := visible value }.advance t ⟨false, rest⟩
  have h₃ : v₂.step visible t = some v₃ := step_of_steps (.reflect value rest (State.advance_self _))
  have hhalf : v₃.threads t' = ⟨true, .write value' :: rest'⟩ := by
    rw [State.advance_of_ne _ hne.symm]
    exact (State.advance_of_ne _ hne.symm).trans (State.advance_self _)
  let v₄ := { v₃ with mirror := visible value' }.advance t' ⟨false, rest'⟩
  have h₄ : v₃.step visible t' = some v₄ := step_of_steps (.reflect value' rest' hhalf)
  refine h _ v₄ ((hrun.append hrun').append (Run.cons trivial h₁ (Run.cons trivial h₂ (Run.cons trivial h₃
    (Run.cons trivial h₄ .nil))))) ?_ hvisible
  -- `t` and `t'` have made their writes, and no other thread has begun
  intro x
  by_cases hx' : x = t'
  · rw [hx', State.advance_self]
  by_cases hx : x = t
  · rw [hx, State.advance_of_ne _ hne, State.advance_self]
  · have hsame : v₄.threads x = v.threads x := (State.advance_of_ne _ hx').trans ((State.advance_of_ne _ hx).trans
      ((State.advance_of_ne _ hx).trans (State.advance_of_ne _ hx')))
    rw [hsame, hv, Function.update_of_ne hx', hu, Function.update_of_ne hx]
    rfl

/-- Threads agree when the mirror hides nothing from the states between jobs. -/
theorem agree_of_unhidden
    (h : ∀ trace s, Run (State.step visible) (fun _ _ => True) (State.start visible initial jobs) trace s → s.Idle →
      visible s.cell = true → s.mirror = true) : Agree visible jobs := by
  intro t t' hne value value' hmem hmem'
  apply Bool.eq_iff_iff.mpr
  constructor
  · exact visible_of_unhidden h hne hmem hmem'
  · exact visible_of_unhidden h hne.symm hmem' hmem

omit [DecidableEq T] in
theorem State.Idle.quiet (h : s.Idle) : s.Quiet := by
  intro t value rest ht
  have hbegun := h t
  rw [ht] at hbegun
  cases hbegun

/-- **The mirror hides no value from a quiet state, in any interleaving, exactly when the threads agree.** -/
theorem mirrors_iff : (∀ trace s, Run (State.step visible) (fun _ _ => True) (State.start visible initial jobs) trace s →
    s.Quiet → visible s.cell = true → s.mirror = true) ↔ Agree visible jobs := by
  constructor
  · intro h
    apply agree_of_unhidden
    intro trace s hrun hidle
    exact h trace s hrun hidle.quiet
  · intro hagree trace s hrun hquiet hvisible
    rw [(mirroring_of_run hagree hrun).quiet hquiet, hvisible]

/-! ## A read that meets no write -/

/-- No thread writes, and thread `t` stops at the jobs `rest`. -/
def MeetsNoWrite (t : T) (rest : List (Job V R)) (s : State T V R) (t' : T) : Prop :=
  (∀ value rest', (s.threads t').jobs ≠ .write value :: rest') ∧ (t' = t → (s.threads t).jobs ≠ rest)

/-- Where a read is that began in `s`. -/
inductive Reading (s : State T V R) (t : T) (reader : R) (rest : List (Job V R)) (u : State T V R) : Prop
  | toLook (ht : u.threads t = ⟨false, .read reader :: rest⟩) (hlog : u.log t = s.log t)
  | toTake (ht : u.threads t = ⟨true, .read reader :: rest⟩) (hm : s.mirror = true) (hlog : u.log t = s.log t)
  | done (ht : u.threads t = ⟨false, rest⟩) (hlog : u.log t = (reader, s.seen) :: s.log t)

theorem Steps.log_ne (h : Steps visible s t s') {t' : T} (hne : t' ≠ t) : s'.log t' = s.log t' := by
  cases h with
  | store | reflect | look => rfl
  | miss reader rest | take reader rest => exact Function.update_of_ne hne ..

/-- A step of the thread that reads. -/
theorem Reading.own {u v : State T V R} {reader : R} {rest : List (Job V R)} (h : Reading s t reader rest u)
    (hcell : u.cell = s.cell) (hmirror : u.mirror = s.mirror) (hrest : (u.threads t).jobs ≠ rest)
    (hs : u.step visible t = some v) : Reading s t reader rest v := by
  cases h with
  | toLook ht hlog =>
    cases hm : u.mirror with
    | true =>
      obtain rfl : _ = v := Option.some_inj.mp ((step_of_steps (.look reader rest ht hm)).symm.trans hs)
      exact .toTake (State.advance_self _) (hmirror.symm.trans hm) hlog
    | false =>
      obtain rfl : _ = v := Option.some_inj.mp ((step_of_steps (.miss reader rest ht hm)).symm.trans hs)
      refine .done (State.advance_self _) ((Function.update_self ..).trans ?_)
      rw [hlog, State.seen, if_neg (by rw [← hmirror, hm]; exact Bool.false_ne_true)]
  | toTake ht hm hlog =>
    obtain rfl : _ = v := Option.some_inj.mp ((step_of_steps (.take reader rest ht)).symm.trans hs)
    refine .done (State.advance_self _) ((Function.update_self ..).trans ?_)
    rw [hlog, State.seen, if_pos hm, hcell]
  | done ht hlog => exact absurd (by rw [ht]) hrest

/-- A step of another thread. -/
theorem Reading.other {u v : State T V R} {reader : R} {rest : List (Job V R)} {t' : T} (h : Reading s t reader rest u)
    (hne : t ≠ t') (hs : u.step visible t' = some v) : Reading s t reader rest v := by
  have hsteps := steps_of_step hs
  have hthreads : v.threads t = u.threads t := hsteps.threads_ne hne
  have hlogs : v.log t = u.log t := hsteps.log_ne hne
  cases h with
  | toLook ht hlog => exact .toLook (hthreads.trans ht) (hlogs.trans hlog)
  | toTake ht hm hlog => exact .toTake (hthreads.trans ht) hm (hlogs.trans hlog)
  | done ht hlog => exact .done (hthreads.trans ht) (hlogs.trans hlog)

/-- **A read that meets no write finds what is seen when it begins**, whatever else other threads read meanwhile. -/
theorem read_finds_seen {reader : R} {rest : List (Job V R)} (ht : s.threads t = ⟨false, .read reader :: rest⟩)
    {trace : List T} (h : Run (State.step visible) (MeetsNoWrite t rest) s trace s') (hend : (s'.threads t).jobs = rest) :
    s'.log t = (reader, s.seen) :: s.log t := by
  have hreading : s'.cell = s.cell ∧ s'.mirror = s.mirror ∧ Reading s t reader rest s' := by
    refine h.invariant (P := fun u => u.cell = s.cell ∧ u.mirror = s.mirror ∧ Reading s t reader rest u)
      ⟨rfl, rfl, .toLook ht rfl⟩ ?_
    rintro u t' v ⟨hcell, hmirror, hread⟩ ⟨hwrites, hrest⟩ hs
    obtain ⟨hcell', hmirror', -⟩ := (steps_of_step hs).of_reads hwrites
    refine ⟨hcell'.trans hcell, hmirror'.trans hmirror, ?_⟩
    by_cases he : t' = t
    · subst he
      exact hread.own hcell hmirror (hrest rfl) hs
    · exact hread.other (Ne.symm he) hs
  cases hreading.2.2 with
  | toLook ht hlog | toTake ht hm hlog =>
    rw [ht] at hend
    exact absurd hend (List.cons_ne_self _ _)
  | done ht hlog => exact hlog

/-! ## Threads that hide nothing -/

/-- What threads keep that write nothing hidden. -/
structure Showing (visible : V → Bool) (jobs : T → List (Job V R)) (s : State T V R) : Prop where
  left : ∀ t, (s.threads t).jobs ⊆ jobs t
  stored : ∀ t value, Half s t value → visible s.cell = true
  mirror : s.mirror = true → visible s.cell = true

omit [DecidableEq T] in
theorem Showing.start : Showing visible jobs (State.start visible initial jobs) where
  left _ := List.Subset.refl _
  stored t value h := by
    obtain ⟨rest, h⟩ := h
    cases h
  mirror h := h

theorem Showing.step (h : Showing visible jobs s) (hall : ∀ t value, .write value ∈ jobs t → visible value = true)
    (hs : s.step visible t = some s') : Showing visible jobs s' ∧ (s.mirror = true → s'.mirror = true) := by
  have hsteps := steps_of_step hs
  have hleft : ∀ t', (s'.threads t').jobs ⊆ jobs t' := fun t' =>
    List.Subset.trans (hsteps.jobs_subset t') (h.left t')
  have hwritten : ∀ {begun value rest}, s.threads t = ⟨begun, .write value :: rest⟩ → visible value = true := by
    intro begun value rest ht
    exact hall t value (h.left t (by rw [ht]; exact List.mem_cons_self))
  have hread : (∀ value rest, (s.threads t).jobs ≠ .write value :: rest) →
      Showing visible jobs s' ∧ (s.mirror = true → s'.mirror = true) := by
    intro hreads
    obtain ⟨hcell, hmirror, hhalf⟩ := hsteps.of_reads hreads
    refine ⟨⟨hleft, fun t' value hwrite => ?_, fun hm => ?_⟩, fun hm => hmirror.trans hm⟩
    · rw [hcell]
      exact h.stored t' value ((hhalf t' value).mp hwrite)
    · rw [hcell]
      exact h.mirror (hmirror.symm.trans hm)
  cases hsteps with
  | store value rest ht => exact ⟨⟨hleft, fun _ _ _ => hwritten ht, fun _ => hwritten ht⟩, id⟩
  | reflect value rest ht =>
    have hvisible : visible s.cell = true := h.stored t value ⟨rest, ht⟩
    exact ⟨⟨hleft, fun _ _ _ => hvisible, fun _ => hvisible⟩, fun _ => hwritten ht⟩
  | look reader rest ht | miss reader rest ht | take reader rest ht =>
    apply hread
    intro value rest' hwrite
    rw [ht] at hwrite
    cases hwrite

/-- What a read of a thread finds. -/
theorem Steps.log_self (h : Steps visible s t s') : s'.log t = s.log t ∨ ∃ reader,
    s'.log t = (reader, some s.cell) :: s.log t ∨ s.mirror = false ∧ s'.log t = (reader, none) :: s.log t := by
  cases h with
  | store | reflect | look => exact .inl rfl
  | miss reader rest ht hm => exact .inr ⟨reader, .inr ⟨hm, Function.update_self ..⟩⟩
  | take reader rest ht => exact .inr ⟨reader, .inl (Function.update_self ..)⟩

/-- The reads of `new` found something visible. -/
def Finds (visible : V → Bool) (new : List (R × Option V)) : Prop :=
  ∀ entry ∈ new, ∃ value, entry.2 = some value ∧ visible value = true

/-- **When nothing written is hidden, every read finds something from the moment the mirror is set**, whatever it
meets. -/
theorem reads_find (hall : ∀ t value, .write value ∈ jobs t → visible value = true) {trace trace' : List T}
    (h : Run (State.step visible) (fun _ _ => True) (State.start visible initial jobs) trace s) (hm : s.mirror = true)
    (h' : Run (State.step visible) (fun _ _ => True) s trace' s') :
    ∀ t, ∃ new, s'.log t = new ++ s.log t ∧ Finds visible new := by
  have hshowing : Showing visible jobs s :=
    h.invariant Showing.start fun _ _ _ hu _ hs => (hu.step hall hs).1
  have hend : Showing visible jobs s' ∧ s'.mirror = true ∧ ∀ t, ∃ new, s'.log t = new ++ s.log t ∧ Finds visible new := by
    refine h'.invariant (P := fun u => Showing visible jobs u ∧ u.mirror = true ∧
      ∀ t, ∃ new, u.log t = new ++ s.log t ∧ Finds visible new) ⟨hshowing, hm, fun t => ⟨[], rfl, nofun⟩⟩ ?_
    rintro u t' v ⟨hu, hmirror, hlogs⟩ - hs
    obtain ⟨hv, hkeeps⟩ := hu.step hall hs
    refine ⟨hv, hkeeps hmirror, fun t => ?_⟩
    obtain ⟨new, hnew, hfinds⟩ := hlogs t
    by_cases he : t = t'
    · subst he
      rcases (steps_of_step hs).log_self with hlog | ⟨reader, hlog | ⟨hfalse, -⟩⟩
      · exact ⟨new, hlog.trans hnew, hfinds⟩
      · refine ⟨(reader, some u.cell) :: new, by rw [hlog, hnew, List.cons_append], ?_⟩
        intro entry hentry
        rcases List.mem_cons.mp hentry with rfl | hentry
        · exact ⟨u.cell, rfl, hu.mirror hmirror⟩
        · exact hfinds entry hentry
      · exact absurd (hmirror.symm.trans hfalse) (by decide)
    · exact ⟨new, ((steps_of_step hs).log_ne he).trans hnew, hfinds⟩
  exact hend.2.2

end Mirrored
