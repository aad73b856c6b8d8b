import DeepGemmRs.Jit.Cache
import DeepGemmRs.Lib.Logged

/-!
# What the materialization hook sees

`build_kernel` with the events it reports. Its decisions are those of `buildKernel`, which knows no hook.

* `MaterializationEvent`, `Scope` : the events, and `KernelMaterializationScope` with its destructor;
* `hookedLoadCachedKernel`, `hookedBuildKernel` : the two functions that open a scope;
* `withScope_shadows` : a scope reports its beginning and its end, whichever way its body ends;
* `hookedBuildKernel_shadows` : a call does what `buildKernel` does and reports `materialized`;
* `Bracketed` : what a call may report; `wellBracketed` : **every call of every sequence reports that**.
-/

namespace DeepGemmRs.Jit

open Checked Stateful Stateful.Prog

inductive MaterializationSource where
  /-- Kept for callers of older versions; nothing reports it. -/
  | processCache
  | diskCubin
  | jitCompile
deriving DecidableEq

inductive MaterializationPhase where
  | start
  | finish
deriving DecidableEq

/-- The arguments of the hook, less the duration. -/
structure MaterializationEvent where
  kernelName : String
  source : MaterializationSource
  phase : MaterializationPhase
  success : Bool
  hasDuration : Bool
deriving DecidableEq

def MaterializationEvent.opening (kernelName : String) (source : MaterializationSource) : MaterializationEvent :=
  ⟨kernelName, source, .start, true, false⟩

def MaterializationEvent.closing (kernelName : String) (source : MaterializationSource) (success : Bool) :
    MaterializationEvent :=
  ⟨kernelName, source, .finish, success, true⟩

section

variable {driver : Driver}

/-- A part of a call of `build_kernel`, with what it reports. -/
abbrev Reported (driver : Driver) : Type → Type := Logged Stop (Process driver) MaterializationEvent

/-- `emit_kernel_materialization_event`; there may be no hook. -/
def emitKernelMaterializationEvent (hooked : Bool) (event : MaterializationEvent) : Reported driver Unit :=
  if hooked then emit event else pure ()

/-- `KernelMaterializationScope`. -/
structure Scope where
  kernelName : String
  source : MaterializationSource
  finished : Bool

/-- The constructor. -/
def Scope.new (hooked : Bool) (kernelName : String) (source : MaterializationSource) : Reported driver Scope := do
  emitKernelMaterializationEvent hooked (.opening kernelName source)
  pure ⟨kernelName, source, false⟩

def Scope.finish (hooked : Bool) (scope : Scope) (success : Bool) : Reported driver Scope :=
  if scope.finished then pure scope
  else do
    emitKernelMaterializationEvent hooked (.closing scope.kernelName scope.source success)
    pure { scope with finished := true }

/-- `finish_success`. -/
def Scope.finishSuccess (hooked : Bool) (scope : Scope) : Reported driver Scope := scope.finish hooked true

/-- `~KernelMaterializationScope`. -/
def Scope.drop (hooked : Bool) (scope : Scope) : Reported driver Unit := do
  let _ ← scope.finish hooked false
  pure ()

/-- A scope around `body`: the end of the block destroys it, and so does an exception on its way out. -/
def withScope {α : Type} (hooked : Bool) (kernelName : String) (source : MaterializationSource)
    (body : Reported driver α) : Reported driver α := do
  let scope ← Scope.new hooked kernelName source
  match ← attempt body with
  | .ok result => do
    let scope ← scope.finishSuccess hooked
    scope.drop hooked
    pure result
  | .error stop => do
    scope.drop hooked
    lift (.error stop)

/-- `load_cached_kernel`. -/
def hookedLoadCachedKernel (hooked : Bool) (answers : Answers driver) (name cacheKey : String) (dirPath : Path) :
    Reported driver (Option (KernelRuntime driver)) := do
  let process ← beside get
  match process.kernelCache cacheKey with
  | some runtime => pure (some runtime)
  | none => do
    beside (diskCall answers .lookUp id)
    if hasCubin process.disk dirPath then do
      let runtime ← withScope hooked name .diskCubin (beside (storeRuntime answers cacheKey dirPath))
      pure (some runtime)
    else pure none

/-- `build_kernel`. -/
def hookedBuildKernel (hooked : Bool) (answers : Answers driver) (name code : String) :
    Reported driver (KernelRuntime driver) := do
  let process ← beside get
  lift (throwIf (¬ process.isInitialized) (.invalid "deepgemm_init must be called before launching kernels"))
  let config ← beside (compilerConfig answers)
  let key := cacheKey name config code
  let root ← lift (cacheRoot answers.toHost)
  match ← hookedLoadCachedKernel hooked answers name key (dirPath root name (cacheHash key)) with
  | some runtime => pure runtime
  | none =>
    withScope hooked name .jitCompile do
      beside (compileKernel answers root name config (cacheHash key))
      beside (storeRuntime answers key (dirPath root name (cacheHash key)))

/-! ## A scope -/

def report (hooked : Bool) (event : MaterializationEvent) : List MaterializationEvent :=
  if hooked then [event] else []

/-- What a scope reports around a body that ends so. -/
def bracket (hooked : Bool) (kernelName : String) (source : MaterializationSource) (success : Bool) :
    List MaterializationEvent :=
  report hooked (.opening kernelName source) ++ report hooked (.closing kernelName source success)

variable {hooked : Bool} {name : String} {source : MaterializationSource} {s : Process driver}
  {log : List MaterializationEvent}

theorem emit_returns (event : MaterializationEvent) :
    Returns (emitKernelMaterializationEvent hooked event) (s, log) () (s, log ++ report hooked event) := by
  cases hooked
  · show (_, s, log) = (_, s, log ++ [])
    rw [List.append_nil]
  · rfl

theorem new_returns : Returns (Scope.new hooked name source) (s, log) ⟨name, source, false⟩
    (s, log ++ report hooked (.opening name source)) :=
  returns_bind.mpr ⟨(), _, emit_returns _, rfl⟩

theorem finish_returns (success : Bool) : Returns (Scope.finish hooked ⟨name, source, false⟩ success) (s, log)
    ⟨name, source, true⟩ (s, log ++ report hooked (.closing name source success)) :=
  returns_bind.mpr ⟨(), _, emit_returns _, rfl⟩

theorem drop_returns : Returns (Scope.drop hooked ⟨name, source, false⟩) (s, log) ()
    (s, log ++ report hooked (.closing name source false)) :=
  returns_bind.mpr ⟨_, _, finish_returns false, rfl⟩

/-- A finished scope reports nothing when it is destroyed. -/
theorem drop_finished : Returns (Scope.drop hooked ⟨name, source, true⟩) (s, log) () (s, log) := rfl

/-- **A scope reports twice**: on the way in, and once on the way out. -/
theorem withScope_shadows {α : Type} (body : Prog Stop (Process driver) α) :
    Shadows (withScope hooked name source (beside body)) body
      fun s => bracket hooked name source (body s).1.isOk := by
  intro s log
  unfold withScope bracket
  rw [bind_of_returns new_returns, ← List.append_assoc]
  rw [bind_of_returns attempt_beside]
  rcases body s with ⟨stop | result, t⟩
  · exact bind_of_returns drop_returns
  · exact (bind_of_returns (finish_returns true)).trans (bind_of_returns drop_finished)

/-! ## A call -/

def hookedResume (hooked : Bool) (answers : Answers driver) (name code : String) (config : CompilerConfig)
    (root : Path) : Reported driver (KernelRuntime driver) := do
  let key := cacheKey name config code
  match ← hookedLoadCachedKernel hooked answers name key (dirPath root name (cacheHash key)) with
  | some runtime => pure runtime
  | none =>
    withScope hooked name .jitCompile do
      beside (compileKernel answers root name config (cacheHash key))
      beside (storeRuntime answers key (dirPath root name (cacheHash key)))

variable {answers : Answers driver} {code : String}

theorem hookedBuildKernel_eq : hookedBuildKernel hooked answers name code =
    beside (prepare answers) >>= fun found => hookedResume hooked answers name code found.1 found.2 := by
  unfold prepare
  simp only [← beside_bind, bind_assoc]
  rfl

/-- What a call reports from its lookup on: nothing when the process has the kernel, or the lookup throws. -/
def resumeReports (hooked : Bool) (answers : Answers driver) (name code : String) (config : CompilerConfig)
    (root : Path) (s : Process driver) : List MaterializationEvent :=
  let key := cacheKey name config code
  match s.kernelCache key, answers.fault .lookUp with
  | some _, _ | none, some _ => []
  | none, none =>
    bracket hooked name (if hasCubin s.disk (dirPath root name (cacheHash key)) then .diskCubin else .jitCompile)
      (resume answers name code config root s).1.isOk

theorem hookedResume_shadows (config : CompilerConfig) (root : Path) :
    Shadows (hookedResume hooked answers name code config root) (resume answers name code config root)
      (resumeReports hooked answers name code config root) := by
  intro s log
  unfold hookedResume hookedLoadCachedKernel resumeReports resume loadCachedKernel
  simp only [bind_assoc, beside_bind]
  rw [bind_of_returns (show Returns (beside get) (s, log) s (s, log) from rfl),
    bind_of_returns (show Returns get s s s from rfl)]
  cases hcached : s.kernelCache (cacheKey name config code) with
  | some runtime =>
    rw [List.append_nil]
    rfl
  | none =>
    cases hlook : answers.fault .lookUp with
    | some message =>
      simp only [diskCall, hlook, bind_apply, List.append_nil]
      rfl
    | none =>
      have hsilent : Returns (beside (diskCall answers .lookUp id)) (s, log) () (s, log) :=
        returns_beside.mpr ⟨diskCall_id_of_none hlook, rfl⟩
      simp only [bind_assoc]
      rw [bind_of_returns hsilent, bind_of_returns (diskCall_id_of_none hlook)]
      by_cases hcubin : hasCubin s.disk (dirPath root name (cacheHash (cacheKey name config code)))
      · simp only [hcubin, if_true, bind_assoc]
        rw [bind_apply, bind_apply, withScope_shadows]
        rcases hr : storeRuntime answers (cacheKey name config code) _ s with ⟨stop | runtime, t⟩
        · simp only [hr]
        · simp only [hr]
          rfl
      · simp only [hcubin, if_false, Bool.false_eq_true]
        exact withScope_shadows _ s log

/-- What a call reports. -/
def materialized (hooked : Bool) (answers : Answers driver) (name code : String) :
    Process driver → List MaterializationEvent :=
  afterwards (prepare answers) fun found => resumeReports hooked answers name code found.1 found.2

/-- **A call under a hook** does what `build_kernel` does, and reports. -/
theorem hookedBuildKernel_shadows : Shadows (hookedBuildKernel hooked answers name code)
    (buildKernel answers name code) (materialized hooked answers name code) := by
  rw [hookedBuildKernel_eq, buildKernel_eq]
  apply Shadows.bind_beside
  intro found
  exact hookedResume_shadows found.1 found.2

/-- `load_cached_kernel` looks for `key` and `dir` in `t`. -/
def LooksUp (answers : Answers driver) (name code : String) (s : Process driver) (key : String) (dir : Path)
    (t : Process driver) : Prop :=
  ∃ config root, Returns (prepare answers) s (config, root) t ∧ key = cacheKey name config code ∧
    dir = dirPath root name (cacheHash key)

/-- What a call from `s` may report. -/
structure Bracketed (hooked : Bool) (answers : Answers driver) (name code : String) (s : Process driver)
    (events : List MaterializationEvent) : Prop where
  shape : events = [] ∨ ∃ source success, events = [.opening name source, .closing name source success]
  success : ∀ event ∈ events, event.phase = .finish →
    (event.success = true ↔ ∃ runtime t, Returns (buildKernel answers name code) s runtime t)
  source : ∀ event ∈ events, (event.source = .diskCubin ↔
    ∃ key dir t, LooksUp answers name code s key dir t ∧ t.kernelCache key = none ∧ hasCubin t.disk dir)
  cached : ∀ key dir t, LooksUp answers name code s key dir t → t.kernelCache key ≠ none → events = []
  reported : hooked → answers.fault .lookUp = none →
    ∀ key dir t, LooksUp answers name code s key dir t → t.kernelCache key = none → events ≠ []

/-- A scope's two events say how it ended and where the kernel came from. -/
theorem bracket_shape (success : Bool) : bracket hooked name source success = [] ∨
    bracket hooked name source success = [.opening name source, .closing name source success] := by
  cases hooked
  · exact .inl rfl
  · exact .inr rfl

theorem mem_bracket {success : Bool} {event : MaterializationEvent}
    (h : event ∈ bracket hooked name source success) :
    event.source = source ∧ (event.phase = .finish → event.success = success) := by
  have hshape : bracket hooked name source success = [] ∨ _ := bracket_shape success
  rcases hshape with he | he
  · rw [he] at h
    cases h
  · rw [he] at h
    rcases List.mem_cons.mp h with rfl | h
    · refine ⟨rfl, ?_⟩
      intro hphase
      cases hphase
    · obtain rfl := List.mem_singleton.mp h
      exact ⟨rfl, fun _ => rfl⟩

theorem isOk_iff {x : Step driver (KernelRuntime driver)} :
    (x s).1.isOk = true ↔ ∃ runtime t, Returns x s runtime t := by
  unfold Returns
  rcases x s with ⟨stop | runtime, t⟩
  · simp [Except.isOk, Except.toBool]
  · simp [Except.isOk, Except.toBool]

/-- A call may be silent whose lookup throws, or finds the key. -/
theorem Bracketed.nil (h : answers.fault .lookUp = none → ∀ key dir t, LooksUp answers name code s key dir t →
    t.kernelCache key ≠ none) : Bracketed hooked answers name code s [] where
  shape := .inl rfl
  success _ h := by cases h
  source _ h := by cases h
  cached _ _ _ _ _ := rfl
  reported := by
    intro _ hserves key dir t hlook hnone
    exact absurd hnone (h hserves key dir t hlook)

/-- A call that does not come to its lookup reports nothing. -/
theorem Bracketed.of_stops {stop : Stop} {t : Process driver} (h : prepare answers s = (.error stop, t)) :
    Bracketed hooked answers name code s [] := by
  apply Bracketed.nil
  rintro - key dir u ⟨config, root, hprepare, -⟩
  rw [Returns, h] at hprepare
  cases hprepare

theorem looksUp_iff {config : CompilerConfig} {root : Path} {t u : Process driver} {key : String} {dir : Path}
    (h : Returns (prepare answers) s (config, root) t) : LooksUp answers name code s key dir u ↔
      key = cacheKey name config code ∧ dir = dirPath root name (cacheHash key) ∧ u = t := by
  constructor
  · rintro ⟨config', root', h', hkey, hdir⟩
    have hsame := h.symm.trans h'
    simp only [Prod.mk.injEq, Except.ok.injEq] at hsame
    obtain ⟨⟨rfl, rfl⟩, rfl⟩ := hsame
    exact ⟨hkey, hdir, rfl⟩
  · rintro ⟨hkey, hdir, rfl⟩
    exact ⟨config, root, h, hkey, hdir⟩

theorem Bracketed.of_returns {config : CompilerConfig} {root : Path} {t : Process driver}
    (h : Returns (prepare answers) s (config, root) t) :
    Bracketed hooked answers name code s (resumeReports hooked answers name code config root t) := by
  have hreturns : (∃ runtime u, Returns (buildKernel answers name code) s runtime u) ↔
      (resume answers name code config root t).1.isOk = true := by
    rw [← isOk_iff, buildKernel_of_prepare h]
  cases hcached : t.kernelCache (cacheKey name config code) with
  | some runtime =>
    simp only [resumeReports, hcached]
    apply Bracketed.nil
    intro _ key dir u hlook hnone
    obtain ⟨rfl, -, rfl⟩ := (looksUp_iff h).mp hlook
    rw [hcached] at hnone
    cases hnone
  | none =>
    cases hserves : answers.fault .lookUp with
    | some message =>
      simp only [resumeReports, hcached, hserves]
      apply Bracketed.nil
      intro hnofault
      rw [hserves] at hnofault
      cases hnofault
    | none =>
      simp only [resumeReports, hcached, hserves]
      constructor
      · exact (bracket_shape _).imp_right fun h => ⟨_, _, h⟩
      · intro event hevent hphase
        rw [(mem_bracket hevent).2 hphase, hreturns]
      · intro event hevent
        rw [(mem_bracket hevent).1]
        constructor
        · intro hsource
          refine ⟨_, _, t, (looksUp_iff h).mpr ⟨rfl, rfl, rfl⟩, hcached, ?_⟩
          by_contra hcubin
          rw [if_neg hcubin] at hsource
          cases hsource
        · rintro ⟨key, dir', u, hlook, -, hcubin⟩
          obtain ⟨rfl, rfl, rfl⟩ := (looksUp_iff h).mp hlook
          rw [if_pos hcubin]
      · intro key dir' u hlook hpresent
        obtain ⟨rfl, -, rfl⟩ := (looksUp_iff h).mp hlook
        exact absurd hcached hpresent
      · intro hhooked _ _ _ _ _ _ hempty
        rw [hhooked] at hempty
        cases hempty

/-- **One call** reports nothing, or one beginning and one end. -/
theorem bracketed : Bracketed hooked answers name code s (materialized hooked answers name code s) := by
  unfold materialized afterwards
  rcases hr : prepare answers s with ⟨stop | ⟨config, root⟩, t⟩
  · exact Bracketed.of_stops hr
  · exact Bracketed.of_returns hr

/-! ## A sequence of calls -/

/-- What an event does to the process. -/
def Event.apply (process : Process driver) : Event driver → Process driver
  | .setCurrent current => { process with current }
  | .init host deepgemmRoot cudaHome =>
    match runtimeInit host deepgemmRoot cudaHome with
    | .ok roots => { process with roots, compilerConfigCache := none }
    | .error _ => process
  | .changeDisk disk => { process with disk }
  | .build answers name code => (buildKernel answers name code process).2

theorem Session.step_process {session next : Session driver} {event : Event driver}
    (h : session.step event = some next) : next.process = event.apply session.process := by
  cases event with
  | init host deepgemmRoot cudaHome =>
    simp only [Session.step] at h
    simp only [Event.apply]
    split at h <;> cases h <;> simp only [*]
  | setCurrent | changeDisk | build =>
    cases h
    rfl

/-- What an event does under a hook. -/
def Event.applyHooked (hooked : Bool) (s : Process driver × List MaterializationEvent) :
    Event driver → Process driver × List MaterializationEvent
  | .build answers name code => (hookedBuildKernel hooked answers name code s).2
  | event => (event.apply s.1, s.2)

/-- The events, each with the process that it meets. -/
def visits (process : Process driver) : List (Event driver) → List (Process driver × Event driver)
  | [] => []
  | event :: trace => (process, event) :: visits (event.apply process) trace

/-- What an event may report. -/
def MayReport (hooked : Bool) (visit : Process driver × Event driver) (events : List MaterializationEvent) : Prop :=
  match visit.2 with
  | .build answers name code => Bracketed hooked answers name code visit.1 events
  | _ => events = []

theorem applyHooked_reports (event : Event driver) : ∃ events,
    event.applyHooked hooked (s, log) = (event.apply s, log ++ events) ∧ MayReport hooked (s, event) events := by
  cases event with
  | build answers name code =>
    refine ⟨materialized hooked answers name code s, ?_, bracketed⟩
    simp only [Event.applyHooked, Event.apply]
    rw [hookedBuildKernel_shadows]
  | setCurrent | init | changeDisk => exact ⟨[], by rw [List.append_nil]; rfl, rfl⟩

/-- **The events of a sequence of calls** are those of its calls, one after the other, each bracketed. -/
theorem wellBracketed (hooked : Bool) (trace : List (Event driver)) (s : Process driver)
    (log : List MaterializationEvent) : ∃ parts,
    trace.foldl (Event.applyHooked hooked) (s, log) = (trace.foldl Event.apply s, log ++ parts.flatten) ∧
      List.Forall₂ (MayReport hooked) (visits s trace) parts := by
  induction trace generalizing s log with
  | nil => exact ⟨[], by rw [List.flatten_nil, List.append_nil]; rfl, .nil⟩
  | cons event trace ih =>
    obtain ⟨events, happly, hmay⟩ : ∃ events, event.applyHooked hooked (s, log) = (event.apply s, log ++ events) ∧
        MayReport hooked (s, event) events := applyHooked_reports event
    obtain ⟨parts, hrun, hparts⟩ := ih (event.apply s) (log ++ events)
    refine ⟨events :: parts, ?_, .cons hmay hparts⟩
    rw [List.foldl_cons, List.foldl_cons, happly, hrun, List.flatten_cons, List.append_assoc]

end

end DeepGemmRs.Jit
