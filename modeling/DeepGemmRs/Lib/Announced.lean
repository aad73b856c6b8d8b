import DeepGemmRs.Lib.Runs
import Mathlib.Logic.Function.Basic

/-!
# Values that are announced before they are used

Threads share a table. Before each use of a key a thread announces a value for it; it does not hold a lock from
the one to the other, so that another thread may announce another value between.

* `Job`, `State`, `State.step` : a thread with jobs left announces the first of them, then uses it;
* `State.Own` : the uses so far found what their own thread announced;
* `Agree` : two threads announce one value for a key;
* `Announcing`, `announcing_of_run` : while threads agree, the first job of a thread stays announced;
* `own_iff` : **in every interleaving all uses find their own value exactly when the threads agree.**
-/

namespace Announced

open Runs

variable {T K V : Type} [DecidableEq T] [DecidableEq K]

/-- A use of a key, with the value it is to find. -/
structure Job (K V : Type) where
  key : K
  value : V

/-- A thread: whether its first job is announced, and the jobs that are left. -/
structure Thread (K V : Type) where
  announced : Bool
  jobs : List (Job K V)

structure State (T K V : Type) where
  table : K → Option V
  threads : T → Thread K V
  /-- The uses, and what they found. -/
  log : List (Job K V × Option V)

namespace State

/-- Every thread has its jobs to do. -/
def start (table : K → Option V) (jobs : T → List (Job K V)) : State T K V where
  table
  threads t := ⟨false, jobs t⟩
  log := []

/-- Thread `t` announces the first of its jobs. -/
def announce (s : State T K V) (t : T) (job : Job K V) (rest : List (Job K V)) : State T K V where
  table := Function.update s.table job.key (some job.value)
  threads := Function.update s.threads t ⟨true, job :: rest⟩
  log := s.log

/-- Thread `t` uses what it finds. -/
def use (s : State T K V) (t : T) (job : Job K V) (rest : List (Job K V)) : State T K V where
  table := s.table
  threads := Function.update s.threads t ⟨false, rest⟩
  log := (job, s.table job.key) :: s.log

/-- A step of one thread. -/
def step (s : State T K V) (t : T) : Option (State T K V) :=
  match s.threads t with
  | ⟨_, []⟩ => none
  | ⟨false, job :: rest⟩ => some (s.announce t job rest)
  | ⟨true, job :: rest⟩ => some (s.use t job rest)

/-- The uses found their own values. -/
def Own (s : State T K V) : Prop := ∀ use ∈ s.log, use.2 = some use.1.value

end State

/-- Different threads announce one value for a key. -/
def Agree (jobs : T → List (Job K V)) : Prop :=
  ∀ t t', t ≠ t' → ∀ job ∈ jobs t, ∀ job' ∈ jobs t', job.key = job'.key → job.value = job'.value

variable {jobs : T → List (Job K V)} {table : K → Option V} {s s' : State T K V} {t : T}

/-! ## Threads that agree -/

/-- What threads keep while they agree. -/
structure Announcing (jobs : T → List (Job K V)) (s : State T K V) : Prop where
  left : ∀ t, ∀ job ∈ (s.threads t).jobs, job ∈ jobs t
  first : ∀ t job rest, s.threads t = ⟨true, job :: rest⟩ → s.table job.key = some job.value
  own : s.Own

omit [DecidableEq T] [DecidableEq K] in
theorem Announcing.start : Announcing jobs (State.start table jobs) where
  left _ _ h := h
  first t job rest h := by cases h
  own use h := by cases h

omit [DecidableEq K] in
/-- The jobs left are those of the thread before the step. -/
theorem Announcing.left_update (h : Announcing jobs s) {thread : Thread K V}
    (hsub : ∀ job ∈ thread.jobs, job ∈ (s.threads t).jobs) (t' : T) :
    ∀ job ∈ (Function.update s.threads t thread t').jobs, job ∈ jobs t' := by
  intro job hjob
  by_cases he : t' = t
  · subst he
    rw [Function.update_self] at hjob
    exact h.left t' job (hsub job hjob)
  · rw [Function.update_of_ne he] at hjob
    exact h.left t' job hjob

/-- The step of a thread that announces. -/
theorem Announcing.announce (h : Announcing jobs s) (hagree : Agree jobs) {job : Job K V} {rest : List (Job K V)}
    (ht : s.threads t = ⟨false, job :: rest⟩) : Announcing jobs (s.announce t job rest) := by
  have hmem : job ∈ jobs t := h.left t job (by rw [ht]; exact List.mem_cons_self)
  refine ⟨h.left_update (by rw [ht]; exact fun _ => id), ?_, h.own⟩
  intro t' job' rest' (hthread : Function.update s.threads t _ t' = _)
  show Function.update s.table job.key (some job.value) job'.key = some job'.value
  by_cases he : t' = t
  · subst he
    rw [Function.update_self] at hthread
    cases hthread
    exact Function.update_self ..
  · rw [Function.update_of_ne he] at hthread
    by_cases hkey : job'.key = job.key
    · -- another thread has announced the key before, and the same value
      have hmem' : job' ∈ jobs t' := h.left t' job' (by rw [hthread]; exact List.mem_cons_self)
      rw [hkey, Function.update_self, hagree t' t he job' hmem' job hmem hkey]
    · rw [Function.update_of_ne hkey]
      exact h.first t' job' rest' hthread

omit [DecidableEq K] in
/-- The step of a thread that uses what it announced. -/
theorem Announcing.use (h : Announcing jobs s) {job : Job K V} {rest : List (Job K V)}
    (ht : s.threads t = ⟨true, job :: rest⟩) : Announcing jobs (s.use t job rest) := by
  refine ⟨h.left_update (by rw [ht]; exact fun _ => List.mem_cons_of_mem _), ?_, ?_⟩
  · intro t' job' rest' (hthread : Function.update s.threads t _ t' = _)
    by_cases he : t' = t
    · subst he
      rw [Function.update_self] at hthread
      cases hthread
    · rw [Function.update_of_ne he] at hthread
      exact h.first t' job' rest' hthread
  · intro entry hentry
    rcases List.mem_cons.mp hentry with rfl | hentry
    · exact h.first t job rest ht
    · exact h.own entry hentry

theorem Announcing.step (h : Announcing jobs s) (hagree : Agree jobs) (hs : s.step t = some s') : Announcing jobs s' := by
  unfold State.step at hs
  split at hs
  · cases hs
  · next job rest ht =>
    cases hs
    exact h.announce hagree ht
  · next job rest ht =>
    cases hs
    exact h.use ht

theorem announcing_of_run (hagree : Agree jobs) {trace : List T}
    (h : Run State.step (fun _ _ => True) (State.start table jobs) trace s) : Announcing jobs s :=
  h.invariant Announcing.start fun _ _ _ ht _ hs => ht.step hagree hs

/-! ## Threads that do not -/

theorem step_announce {job : Job K V} {rest : List (Job K V)} (ht : s.threads t = ⟨false, job :: rest⟩) :
    s.step t = some (s.announce t job rest) := by
  simp only [State.step, ht]

theorem step_use {job : Job K V} {rest : List (Job K V)} (ht : s.threads t = ⟨true, job :: rest⟩) :
    s.step t = some (s.use t job rest) := by
  simp only [State.step, ht]

/-- A thread can do its first jobs while the others wait. -/
theorem run_jobs (first rest : List (Job K V)) (ht : s.threads t = ⟨false, first ++ rest⟩) : ∃ trace s',
    Run State.step (fun _ _ => True) s trace s' ∧ s'.threads = Function.update s.threads t ⟨false, rest⟩ := by
  induction first generalizing s with
  | nil =>
    refine ⟨[], s, .nil, ?_⟩
    rw [← show s.threads t = ⟨false, rest⟩ from ht, Function.update_eq_self]
  | cons job first ih =>
    have hannounce : s.step t = some (s.announce t job (first ++ rest)) := step_announce ht
    have huse := step_use (s := s.announce t job (first ++ rest)) (t := t) (Function.update_self ..)
    obtain ⟨trace, s', hrun, hthreads⟩ := ih (s := (s.announce t job (first ++ rest)).use t job (first ++ rest))
      (Function.update_self ..)
    refine ⟨t :: t :: trace, s', Run.cons trivial hannounce (Run.cons trivial huse hrun), ?_⟩
    rw [hthreads]
    simp only [State.use, State.announce, Function.update_idem]

/-- **In every interleaving all uses find their own value exactly when different threads announce one value for
a key.** -/
theorem own_iff : (∀ trace s, Run State.step (fun _ _ => True) (State.start table jobs) trace s → s.Own) ↔
    Agree jobs := by
  constructor
  · intro hown t t' hne job hjob job' hjob' hkey
    obtain ⟨first, rest, hfirst⟩ := List.append_of_mem hjob
    obtain ⟨first', rest', hfirst'⟩ := List.append_of_mem hjob'
    -- both threads come to their jobs, `t` announces, `t'` announces, `t` uses
    obtain ⟨trace, s, hrun, hs⟩ := run_jobs first (job :: rest)
      (show (State.start table jobs).threads t = _ by rw [← hfirst]; rfl)
    obtain ⟨trace', s', hrun', hs'⟩ := run_jobs first' (job' :: rest')
      (show s.threads t' = _ by rw [hs, Function.update_of_ne hne.symm, ← hfirst']; rfl)
    have ht : s'.threads t = ⟨false, job :: rest⟩ := by
      rw [hs', Function.update_of_ne hne, hs, Function.update_self]
    have hstep := step_announce ht
    have ht' : (s'.announce t job rest).threads t' = ⟨false, job' :: rest'⟩ := by
      show Function.update s'.threads t _ t' = _
      rw [Function.update_of_ne hne.symm, hs', Function.update_self]
    have hstep' := step_announce ht'
    have hannounced : ((s'.announce t job rest).announce t' job' rest').threads t = ⟨true, job :: rest⟩ := by
      show Function.update (Function.update s'.threads t _) t' _ t = _
      rw [Function.update_of_ne hne, Function.update_self]
    have huse := step_use hannounced
    have hend := hown _ _ ((hrun.append hrun').append (Run.cons trivial hstep (Run.cons trivial hstep'
      (Run.cons trivial huse .nil)))) _ List.mem_cons_self
    have hfound : Function.update (Function.update s'.table job.key (some job.value)) job'.key (some job'.value) job.key =
      some job.value := hend
    rw [hkey, Function.update_self] at hfound
    exact (Option.some_inj.mp hfound).symm
  · intro hagree trace s hrun
    exact (announcing_of_run hagree hrun).own

end Announced
