import DeepGemmRs.Jit.Command

/-!
# The compiler configuration between threads

Any number of calls of `compiler_config` and of `runtime_init`, each section under `g_runtime_mutex` a step.
`compiler_config` takes the lock four times: to look, for the path of `nvcc`, for the include paths, to store.

* `ConfigPhase`, `ConfigAction`, `ConfigWorld.step` : the calls, interleaved;
* `ConfigOf` : the configuration of a `runtime_init`, its `nvcc` and its include paths;
* `ConfigWorld.Sound` : every stored configuration is that of one `runtime_init`, and a call that begins after
  the last one returns its configuration;
* `Undisturbed` : a call that stores has read the `nvcc` and the include paths that are set when it stores;
* `configs_sound` : **undisturbed runs are sound**, `stale_config_returned` : a run that is not;
* `disturbed_unsound` : one disturbed store, and a call that begins then is told a wrong configuration;
* `compilerConfig_run` : a call taken alone goes through these steps as `compilerConfig` does.
-/

namespace DeepGemmRs.Jit

open Checked Runs Stateful Stateful.Prog

/-- Where a call of `compiler_config` is; `since` counts the `runtime_init` before it began, and `read` and `seen`
are the strings of `runtime_init` when it read the path of `nvcc` and the include paths. -/
inductive ConfigPhase where
  | idle
  | begun (since : Nat)
  /-- Nothing was cached. -/
  | missed (since : Nat)
  | nvccRead (since : Nat) (read : Roots) (nvcc : Path)
  | flagsRead (since : Nat) (read seen : Roots) (config : CompilerConfig)
  | returned (since : Nat) (config : CompilerConfig)
  | threw

/-- The sections under the lock. -/
inductive ConfigAction (B : Type) where
  | init (host : Host) (deepgemmRoot cudaHome : String)
  /-- `runtime_is_initialized`, which `build_kernel` asks first. -/
  | begin (b : B)
  | lookup (b : B)
  | readNvcc (b : B) (host : Host)
  /-- `compiler_flags`: `nvcc --version` and the device outside the lock, then the include paths. -/
  | readIncludes (b : B) (host : Host) (info : Native DeviceInfo)
  | store (b : B)

/-- The globals and the calls; `inits` and `stored` remember the roots of every `runtime_init` and every
configuration stored. -/
structure ConfigWorld (B : Type) where
  roots : Roots
  cache : Option CompilerConfig
  phase : B → ConfigPhase
  inits : List Roots
  stored : List CompilerConfig

/-- `runtime_is_initialized`. -/
def Roots.isInitialized (roots : Roots) : Bool := roots.deepgemmRoot ≠ "" ∧ roots.cudaHome ≠ ""

/-- The path of `nvcc` when `DG_JIT_NVCC_COMPILER` is not set. -/
def Roots.nvcc (roots : Roots) : Path := ⟨roots.cudaHome, ["bin", "nvcc"]⟩

/-- The configuration has the `nvcc` and the include paths of the roots. -/
def ConfigOf (roots : Roots) (config : CompilerConfig) : Prop :=
  config.nvcc = roots.nvcc ∧ ∃ host info, compilerFlags roots host info config.nvcc = .ok config.flags

section
variable {B : Type}

namespace ConfigWorld

def start : ConfigWorld B := ⟨Roots.empty, none, fun _ => .idle, [], []⟩

/-- The call `b` moves to another phase. -/
def moved [DecidableEq B] (s : ConfigWorld B) (b : B) (p : ConfigPhase) : ConfigWorld B :=
  { s with phase := Function.update s.phase b p }

/-- The store if there is none, and the configuration returned. -/
def storeConfig [DecidableEq B] (s : ConfigWorld B) (b : B) (since : Nat) (config : CompilerConfig) : ConfigWorld B :=
  match s.cache with
  | some cached => s.moved b (.returned since cached)
  | none => { s with cache := some config, stored := config :: s.stored }.moved b (.returned since config)

def step [DecidableEq B] (s : ConfigWorld B) : ConfigAction B → Option (ConfigWorld B)
  | .init host deepgemmRoot cudaHome =>
    match runtimeInit host deepgemmRoot cudaHome with
    | .ok roots => some { s with roots, cache := none, inits := s.inits ++ [roots] }
    | .error _ => some s
  | .begin b =>
    match s.phase b with
    | .idle | .returned _ _ | .threw =>
      some (s.moved b (if s.roots.isInitialized then .begun s.inits.length else .threw))
    | _ => none
  | .lookup b =>
    match s.phase b with
    | .begun since =>
      match s.cache with
      | some cached => some (s.moved b (.returned since cached))
      | none => some (s.moved b (.missed since))
    | _ => none
  | .readNvcc b host =>
    match s.phase b with
    | .missed since => some (s.moved b (.nvccRead since s.roots (nvccPath s.roots host)))
    | _ => none
  | .readIncludes b host info =>
    match s.phase b with
    | .nvccRead since read nvcc =>
      match compilerFlags s.roots host info nvcc with
      | .ok flags => some (s.moved b (.flagsRead since read s.roots ⟨nvcc, flags⟩))
      | .error _ => some (s.moved b .threw)
    | _ => none
  | .store b =>
    match s.phase b with
    | .flagsRead since _ _ config => some (s.storeConfig b since config)
    | _ => none

/-- What the configurations are to be. -/
structure Sound (s : ConfigWorld B) : Prop where
  /-- A stored configuration is that of one `runtime_init`. -/
  stored : ∀ config ∈ s.stored, ∃ roots ∈ s.inits, ConfigOf roots config
  /-- A call that began after the last `runtime_init` and returned before the next returns its configuration. -/
  returned : ∀ b config, s.phase b = .returned s.inits.length config →
    ∃ roots, s.inits.getLast? = some roots ∧ ConfigOf roots config

end ConfigWorld

/-! ## What every run keeps -/

/-- The variable is not set. -/
def NvccUnset : ConfigAction B → Prop
  | .readNvcc _ host => envString host "DG_JIT_NVCC_COMPILER" = ""
  | _ => True

/-- The include paths decide what there is of the roots in the flags. -/
theorem compilerFlags_of_includes {roots roots' : Roots} (h : roots.includes = roots'.includes) (host : Host)
    (info : Native DeviceInfo) (nvcc : Path) :
    compilerFlags roots host info nvcc = compilerFlags roots' host info nvcc := by
  simp only [Roots.includes, List.cons.injEq] at h
  unfold compilerFlags
  rw [h.1, h.2.1, h.2.2.1]

/-- What a call holds is what it read, `inits` counting the `runtime_init` so far. -/
def ConfigPhase.Holds (inits : Nat) : ConfigPhase → Prop
  | idle | threw => True
  | begun since | missed since => 0 < since ∧ since ≤ inits
  | nvccRead since read nvcc => (0 < since ∧ since ≤ inits) ∧ nvcc = read.nvcc
  | flagsRead since read seen config => (0 < since ∧ since ≤ inits) ∧ config.nvcc = read.nvcc ∧
      ∃ host info, compilerFlags seen host info config.nvcc = .ok config.flags
  | returned since _ => 0 < since ∧ since ≤ inits

theorem ConfigPhase.Holds.mono {inits inits' : Nat} {p : ConfigPhase} (h : p.Holds inits) (hle : inits ≤ inits') :
    p.Holds inits' := by
  cases p with
  | idle | threw => trivial
  | begun since | missed since | returned since config => exact ⟨h.1, h.2.trans hle⟩
  | nvccRead since read nvcc | flagsRead since read seen config => exact ⟨⟨h.1.1, h.1.2.trans hle⟩, h.2⟩

/-- A call that read what the roots now have holds their configuration. -/
theorem configOf_of_read {inits since : Nat} {read seen roots : Roots} {config : CompilerConfig}
    (h : (ConfigPhase.flagsRead since read seen config).Holds inits) (hread : read.nvcc = roots.nvcc)
    (hseen : seen.includes = roots.includes) : ConfigOf roots config := by
  obtain ⟨-, hnvcc, host, info, hflags⟩ := h
  refine ⟨hnvcc.trans hread, host, info, ?_⟩
  rw [← compilerFlags_of_includes hseen]
  exact hflags

/-- And no other call does. -/
theorem read_of_configOf {inits since : Nat} {read seen roots : Roots} {config : CompilerConfig}
    (h : (ConfigPhase.flagsRead since read seen config).Holds inits) (hof : ConfigOf roots config) :
    read.nvcc = roots.nvcc ∧ seen.includes = roots.includes := by
  obtain ⟨-, hnvcc, _, _, hflags⟩ := h
  obtain ⟨hroots, _, _, hflags'⟩ := hof
  exact ⟨hnvcc.symm.trans hroots, includes_of_flags hflags hflags'⟩

namespace ConfigWorld

/-- What all steps keep. -/
structure Inv (s : ConfigWorld B) : Prop where
  last : (s.inits = [] ∧ s.roots = Roots.empty) ∨ s.inits.getLast? = some s.roots
  phase : ∀ b, (s.phase b).Holds s.inits.length

variable {s t : ConfigWorld B} {b : B} {p : ConfigPhase}

theorem Inv.start : Inv (start : ConfigWorld B) where
  last := .inl ⟨rfl, rfl⟩
  phase _ := trivial

/-- The roots of the last `runtime_init`, once there was one. -/
theorem Inv.getLast (h : Inv s) (hpos : 0 < s.inits.length) : s.inits.getLast? = some s.roots := by
  refine h.last.resolve_left fun hn => ?_
  rw [hn.1] at hpos
  exact absurd hpos (Nat.lt_irrefl 0)

theorem Inv.initialized (h : Inv s) (hr : s.roots.isInitialized) : 0 < s.inits.length := by
  rcases h.last with ⟨-, hempty⟩ | hlast
  · rw [hempty] at hr
    exact absurd hr (by decide)
  · exact List.length_pos_iff.mpr fun hnil => by
      rw [hnil] at hlast
      cases hlast

variable [DecidableEq B]

/-- A call that moves to a phase that holds what it read. -/
theorem Inv.moved (h : Inv s) (hp : p.Holds s.inits.length) : Inv (s.moved b p) where
  last := h.last
  phase c := by
    show (Function.update s.phase b p c).Holds _
    rcases eq_or_ne c b with rfl | hne
    · rwa [Function.update_self]
    · rw [Function.update_of_ne hne]
      exact h.phase c

theorem Inv.storeConfig (h : Inv s) {since : Nat} {config : CompilerConfig} (hsince : 0 < since ∧ since ≤ s.inits.length) :
    Inv (s.storeConfig b since config) := by
  unfold ConfigWorld.storeConfig
  split
  · exact h.moved hsince
  · exact Inv.moved (s := { s with cache := some config, stored := config :: s.stored }) ⟨h.last, h.phase⟩ hsince

theorem Inv.step (h : Inv s) {a : ConfigAction B} (hu : NvccUnset a) (hs : s.step a = some t) : Inv t := by
  cases a with
  | init host deepgemmRoot cudaHome =>
    simp only [ConfigWorld.step] at hs
    split at hs <;> cases hs
    · refine ⟨.inr List.getLast?_concat, fun b => (h.phase b).mono ?_⟩
      rw [List.length_append]
      exact Nat.le_succ _
    · exact h
  | begin b =>
    simp only [ConfigWorld.step] at hs
    split at hs <;> cases hs
    all_goals
      refine h.moved ?_
      split
      · next hi => exact ⟨h.initialized hi, Nat.le_refl _⟩
      · trivial
  | lookup b =>
    simp only [ConfigWorld.step] at hs
    split at hs
    · next since hp =>
      have hholds : (ConfigPhase.begun since).Holds s.inits.length := hp ▸ h.phase b
      split at hs <;> cases hs
      · exact h.moved hholds
      · exact h.moved hholds
    · cases hs
  | readNvcc b host =>
    simp only [ConfigWorld.step] at hs
    split at hs <;> cases hs
    next since hp =>
      have hholds : (ConfigPhase.missed since).Holds s.inits.length := hp ▸ h.phase b
      have hunset : envString host "DG_JIT_NVCC_COMPILER" = "" := hu
      refine h.moved ⟨hholds, ?_⟩
      rw [nvccPath, hunset]
      rfl
  | readIncludes b host info =>
    simp only [ConfigWorld.step] at hs
    split at hs
    · next since read nvcc hp =>
      obtain ⟨hsince, hnvcc⟩ : (ConfigPhase.nvccRead since read nvcc).Holds s.inits.length := hp ▸ h.phase b
      split at hs <;> cases hs
      · next flags hf => exact h.moved ⟨hsince, hnvcc, host, info, hf⟩
      · exact h.moved trivial
    · cases hs
  | store b =>
    simp only [ConfigWorld.step] at hs
    split at hs <;> cases hs
    next since read seen config hp =>
      have hholds : (ConfigPhase.flagsRead since read seen config).Holds s.inits.length := hp ▸ h.phase b
      exact h.storeConfig hholds.1

end ConfigWorld

/-! ## Undisturbed runs -/

/-- A call that stores has read the path of `nvcc` and the include paths that are set when it stores; one that finds a
configuration stored may have read anything. -/
def Undisturbed (s : ConfigWorld B) (a : ConfigAction B) : Prop :=
  NvccUnset a ∧ ∀ b since read seen config, a = .store b → s.phase b = .flagsRead since read seen config →
    s.cache = none → read.nvcc = s.roots.nvcc ∧ seen.includes = s.roots.includes

namespace ConfigWorld

/-- What undisturbed steps keep. -/
structure Fits (s : ConfigWorld B) : Prop where
  cached : ∀ config, s.cache = some config → ConfigOf s.roots config
  returned : ∀ b config, s.phase b = .returned s.inits.length config → ConfigOf s.roots config
  stored : ∀ config ∈ s.stored, ∃ roots ∈ s.inits, ConfigOf roots config

variable {s t : ConfigWorld B} {b : B} {p : ConfigPhase}

theorem Fits.start : Fits (start : ConfigWorld B) where
  cached _ h := by cases h
  returned _ _ h := by cases h
  stored _ h := by cases h

theorem Fits.sound (h : Fits s) (hinv : Inv s) : Sound s where
  stored := h.stored
  returned b config hp := by
    have hsince : (ConfigPhase.returned s.inits.length config).Holds s.inits.length := hp ▸ hinv.phase b
    exact ⟨s.roots, hinv.getLast hsince.1, h.returned b config hp⟩

variable [DecidableEq B]

/-- A call that moves on, to an answer that fits if it has one. -/
theorem Fits.moved (h : Fits s)
    (hp : ∀ config, p = .returned s.inits.length config → ConfigOf s.roots config) : Fits (s.moved b p) where
  cached := h.cached
  stored := h.stored
  returned c config hc := by
    change Function.update s.phase b p c = _ at hc
    rcases eq_or_ne c b with rfl | hne
    · rw [Function.update_self] at hc
      exact hp config hc
    · rw [Function.update_of_ne hne] at hc
      exact h.returned c config hc

/-- Each undisturbed step keeps the cache and the answers in step with the roots. -/
theorem Fits.step (h : Fits s) (hinv : Inv s) {a : ConfigAction B} (hu : Undisturbed s a) (hs : s.step a = some t) :
    Fits t := by
  cases a with
  | init host deepgemmRoot cudaHome =>
    simp only [ConfigWorld.step] at hs
    split at hs <;> cases hs
    · refine ⟨nofun, ?_, ?_⟩
      · intro b config hp
        -- an answer of before is that of a call that began before
        have hold : (s.phase b).Holds s.inits.length := hinv.phase b
        change s.phase b = .returned (s.inits ++ [_]).length config at hp
        rw [hp, List.length_append] at hold
        exact absurd hold.2 (Nat.not_succ_le_self _)
      · intro config hc
        obtain ⟨old, hold, hof⟩ := h.stored config hc
        exact ⟨old, List.mem_append_left _ hold, hof⟩
    · exact h
  | begin b =>
    simp only [ConfigWorld.step] at hs
    split at hs <;> cases hs
    all_goals
      refine h.moved ?_
      intro config hp
      split at hp <;> cases hp
  | lookup b =>
    simp only [ConfigWorld.step] at hs
    split at hs
    · split at hs <;> cases hs
      · next cached hc =>
        refine h.moved ?_
        rintro config hp
        cases hp
        exact h.cached _ hc
      · exact h.moved nofun
    · cases hs
  | readNvcc b host =>
    simp only [ConfigWorld.step] at hs
    split at hs <;> cases hs
    exact h.moved nofun
  | readIncludes b host info =>
    simp only [ConfigWorld.step] at hs
    split at hs
    · split at hs <;> cases hs
      · exact h.moved nofun
      · exact h.moved nofun
    · cases hs
  | store b =>
    simp only [ConfigWorld.step] at hs
    split at hs <;> cases hs
    next since read seen config hp =>
      have hholds : (ConfigPhase.flagsRead since read seen config).Holds s.inits.length := hp ▸ hinv.phase b
      unfold storeConfig
      split
      · next cached hc =>
        refine h.moved ?_
        rintro config hp
        cases hp
        exact h.cached _ hc
      · next hc =>
        obtain ⟨hread, hseen⟩ := hu.2 b since read seen config rfl hp hc
        have hof : ConfigOf s.roots config := configOf_of_read hholds hread hseen
        have hlast := hinv.getLast (Nat.lt_of_lt_of_le hholds.1.1 hholds.1.2)
        have hstored : Fits { s with cache := some config, stored := config :: s.stored } := by
          refine ⟨?_, h.returned, ?_⟩
          · intro c hc
            cases hc
            exact hof
          · intro c hc
            rcases List.mem_cons.mp hc with rfl | hc
            · exact ⟨s.roots, List.mem_of_getLast? hlast, hof⟩
            · exact h.stored c hc
        refine hstored.moved ?_
        rintro config hp
        cases hp
        exact hof

end ConfigWorld

/-- **In an undisturbed run every configuration is that of one `runtime_init`**, and a call returns that of the
last one. -/
theorem configs_sound [DecidableEq B] {trace : List (ConfigAction B)} {s : ConfigWorld B}
    (h : Run ConfigWorld.step Undisturbed ConfigWorld.start trace s) : s.Sound := by
  have hboth : s.Inv ∧ s.Fits := by
    apply h.invariant (P := fun s => s.Inv ∧ s.Fits) ⟨ConfigWorld.Inv.start, ConfigWorld.Fits.start⟩
    intro t a u ht hu hs
    exact ⟨ht.1.step hu.1 hs, ht.2.step ht.1 hu hs⟩
  exact hboth.2.sound hboth.1

/-- **No weaker condition on a store will do**: after one that is disturbed, a call that begins and looks is told a
configuration that is not that of the last `runtime_init`. -/
theorem disturbed_unsound [DecidableEq B] {trace : List (ConfigAction B)} {s t : ConfigWorld B} {b : B}
    (h : Run ConfigWorld.step (fun _ a => NvccUnset a) ConfigWorld.start trace s) (hinit : s.roots.isInitialized)
    (hs : s.step (.store b) = some t) (hdisturbed : ¬ Undisturbed s (.store b)) : ∃ u,
    Run ConfigWorld.step (fun _ a => NvccUnset a) t [.begin b, .lookup b] u ∧ ¬ u.Sound := by
  have hinv : s.Inv := h.invariant ConfigWorld.Inv.start fun _ _ _ ht hu hs => ht.step hu hs
  obtain ⟨since, read, seen, config, hp, hc, hother⟩ : ∃ since read seen config,
      s.phase b = .flagsRead since read seen config ∧ s.cache = none ∧
        ¬ (read.nvcc = s.roots.nvcc ∧ seen.includes = s.roots.includes) := by
    by_contra hnone
    refine hdisturbed ⟨trivial, ?_⟩
    rintro _ since read seen config ⟨⟩ hp hc
    by_contra hother
    exact hnone ⟨since, read, seen, config, hp, hc, hother⟩
  have hstored : t = { s with cache := some config, stored := config :: s.stored }.moved b (.returned since config) := by
    simp only [ConfigWorld.step, hp, ConfigWorld.storeConfig, hc, Option.some_inj] at hs
    exact hs.symm
  let begun := t.moved b (.begun s.inits.length)
  have hreturned : t.phase b = .returned since config := by
    rw [hstored]
    exact Function.update_self ..
  have hbegin : t.step (.begin b) = some begun := by
    have hroots : t.roots.isInitialized := by rwa [hstored]
    simp only [ConfigWorld.step, hreturned, hroots, if_true, begun]
    rw [hstored]
    rfl
  have hlookup : begun.step (.lookup b) = some (begun.moved b (.returned s.inits.length config)) := by
    have hbegun : begun.phase b = .begun s.inits.length := Function.update_self ..
    have hcache : begun.cache = some config := by
      show t.cache = some config
      rw [hstored]
      rfl
    simp only [ConfigWorld.step, hbegun, hcache]
  refine ⟨_, .cons trivial hbegin (.cons trivial hlookup .nil), fun hsound => hother ?_⟩
  have hinits : begun.inits = s.inits := by
    show t.inits = s.inits
    rw [hstored]
    rfl
  obtain ⟨roots, hlast, hof⟩ := hsound.returned b config (by
    show Function.update begun.phase b (.returned s.inits.length config) b = .returned begun.inits.length config
    rw [Function.update_self, hinits])
  rw [show (begun.moved b _).inits = s.inits from hinits, hinv.getLast (hinv.initialized hinit)] at hlast
  obtain rfl := Option.some_inj.mp hlast
  have hholds : (ConfigPhase.flagsRead since read seen config).Holds s.inits.length := hp ▸ hinv.phase b
  exact read_of_configOf hholds hof

theorem ConfigWorld.step_readIncludes [DecidableEq B] {s : ConfigWorld B} {b : B} {since : Nat} {read : Roots}
    {nvcc : Path} {host : Host} {info : Native DeviceInfo} {flags : String} (hp : s.phase b = .nvccRead since read nvcc)
    (hf : compilerFlags s.roots host info nvcc = .ok flags) :
    s.step (.readIncludes b host info) = some (s.moved b (.flagsRead since read s.roots ⟨nvcc, flags⟩)) := by
  simp only [ConfigWorld.step, hp, hf]

/-- Where a call taken alone ends. -/
def ConfigPhase.ofResult (since : Nat) : Except Stop CompilerConfig → ConfigPhase
  | .ok config => .returned since config
  | .error _ => .threw

/-- **A call taken alone goes through these steps**, and ends as `compilerConfig` does. -/
theorem compilerConfig_run [DecidableEq B] {driver : Driver} {answers : Answers driver} {p : Process driver}
    {s : ConfigWorld B} {b : B} {since : Nat} (hunset : envString answers.toHost "DG_JIT_NVCC_COMPILER" = "")
    (hp : s.phase b = .begun since) (hroots : s.roots = p.roots) (hcache : s.cache = p.compilerConfigCache) :
    ∃ trace t, Run ConfigWorld.step (fun _ a => NvccUnset a) s trace t ∧
      t.phase b = ConfigPhase.ofResult since (compilerConfig answers p).1 ∧
      t.cache = (compilerConfig answers p).2.compilerConfigCache := by
  obtain ⟨roots, config, kernels, current, disk⟩ := p
  obtain rfl : s.roots = roots := hroots
  obtain rfl : s.cache = config := hcache
  cases hcache : s.cache with
  | some cached =>
    refine ⟨[.lookup b], s.moved b (.returned since cached), .cons trivial ?_ .nil, ?_⟩
    · simp only [ConfigWorld.step, hp, hcache]
    · rw [compilerConfig_of_some rfl]
      exact ⟨Function.update_self .., hcache⟩
  | none =>
    let missed := s.moved b (.missed since)
    let read := missed.moved b (.nvccRead since s.roots (nvccPath s.roots answers.toHost))
    have hmissed : missed.phase b = .missed since := Function.update_self ..
    have hread : read.phase b = .nvccRead since s.roots (nvccPath s.roots answers.toHost) := Function.update_self ..
    have h1 : s.step (.lookup b) = some missed := by simp only [ConfigWorld.step, hp, hcache, missed]
    have h2 : missed.step (.readNvcc b answers.toHost) = some read := by
      simp only [ConfigWorld.step, hmissed]
      rfl
    cases hf : compilerFlags s.roots answers.toHost (driver.currentDeviceInfo current)
        (nvccPath s.roots answers.toHost) with
    | ok flags =>
      let ready := read.moved b (.flagsRead since s.roots s.roots ⟨nvccPath s.roots answers.toHost, flags⟩)
      have hready : ready.phase b = .flagsRead since s.roots s.roots ⟨nvccPath s.roots answers.toHost, flags⟩ :=
        Function.update_self ..
      have h3 := ConfigWorld.step_readIncludes hread hf
      have h4 : ready.step (.store b) = some (ready.storeConfig b since ⟨nvccPath s.roots answers.toHost, flags⟩) := by
        simp only [ConfigWorld.step, hready]
      refine ⟨[.lookup b, .readNvcc b answers.toHost, .readIncludes b answers.toHost _, .store b], _,
        .cons trivial h1 (.cons hunset h2 (.cons trivial h3 (.cons trivial h4 .nil))), ?_⟩
      have hconfig : compilerConfig answers ⟨s.roots, none, kernels, current, disk⟩ =
          (.ok ⟨nvccPath s.roots answers.toHost, flags⟩, ⟨s.roots, some ⟨_, flags⟩, kernels, current, disk⟩) :=
        compilerConfig_of_none rfl rfl hf
      rw [hconfig, ConfigWorld.storeConfig, show ready.cache = none from hcache]
      exact ⟨Function.update_self .., rfl⟩
    | error e =>
      have h3 : read.step (.readIncludes b answers.toHost (driver.currentDeviceInfo current)) =
          some (read.moved b .threw) := by
        simp only [ConfigWorld.step, hread]
        rw [show read.roots = s.roots from rfl, hf]
      refine ⟨[.lookup b, .readNvcc b answers.toHost, .readIncludes b answers.toHost _], _,
        .cons trivial h1 (.cons hunset h2 (.cons trivial h3 .nil)), ?_⟩
      have hstop : compilerConfig answers ⟨s.roots, none, kernels, current, disk⟩ =
          (.error e, ⟨s.roots, none, kernels, current, disk⟩) := by
        unfold compilerConfig
        simp only [bind_apply, Prog.get, lift, hf]
      rw [hstop]
      exact ⟨Function.update_self .., hcache⟩

end

/-! ## A `runtime_init` in between -/

/-- The roots of another toolkit. -/
def otherRoots : Roots := { obligingRoots with cudaHome := "/cuda13" }

/-- A call looks, and reads the configuration of the first toolkit. -/
def readTrace : List (ConfigAction Bool) :=
  [.init obliging.toHost "/dg" "/cuda", .begin true, .lookup true, .readNvcc true obliging.toHost,
    .readIncludes true obliging.toHost (.ok h100)]

/-- It stores the configuration behind a `runtime_init`, where a second call finds it. -/
def staleTrace : List (ConfigAction Bool) :=
  readTrace ++ [.init obliging.toHost "/dg" "/cuda13", .store true, .begin false, .lookup false]

/-- It stores the configuration where a second call finds it. -/
def freshTrace : List (ConfigAction Bool) := readTrace ++ [.store true, .begin false, .lookup false]

theorem stale_config_returned : ∃ (trace : List (ConfigAction Bool)) (s : ConfigWorld Bool),
    Run ConfigWorld.step (fun _ a => NvccUnset a) ConfigWorld.start trace s ∧ ¬ s.Sound := by
  obtain ⟨flags, hflags⟩ := obliging_flags
  have hrun : ∃ s, Run ConfigWorld.step (fun _ a => NvccUnset a) ConfigWorld.start staleTrace s ∧
      s.phase false = .returned 2 ⟨obligingRoots.nvcc, flags⟩ ∧ s.inits = [obligingRoots, otherRoots] :=
    ⟨_, .cons trivial rfl (.cons trivial rfl (.cons trivial rfl (.cons rfl rfl
      (.cons trivial (ConfigWorld.step_readIncludes rfl hflags) (.cons trivial rfl (.cons trivial rfl
        (.cons trivial rfl (.cons trivial rfl .nil)))))))), rfl, rfl⟩
  obtain ⟨s, hrun, hphase, hinits⟩ := hrun
  refine ⟨staleTrace, s, hrun, fun hsound => ?_⟩
  obtain ⟨roots, hlast, hnvcc, -⟩ := hsound.returned false ⟨obligingRoots.nvcc, flags⟩ (by rw [hphase, hinits]; rfl)
  rw [hinits] at hlast
  obtain rfl : otherRoots = roots := Option.some_inj.mp hlast
  exact absurd (show obligingRoots.nvcc = otherRoots.nvcc from hnvcc) (by decide)

theorem fresh_config_returned : ∃ (s : ConfigWorld Bool) (flags : String),
    Run ConfigWorld.step Undisturbed ConfigWorld.start freshTrace s ∧
      s.phase false = .returned 1 ⟨obligingRoots.nvcc, flags⟩ ∧ s.Sound := by
  obtain ⟨flags, hflags⟩ := obliging_flags
  have hother : ∀ {s : ConfigWorld Bool} {a : ConfigAction Bool}, NvccUnset a → (∀ b, a ≠ .store b) → Undisturbed s a :=
    fun hunset hne => ⟨hunset, fun b _ _ _ _ heq => absurd heq (hne b)⟩
  have hstore : ∀ {s : ConfigWorld Bool} {b : Bool} {since : Nat} {config : CompilerConfig},
      s.phase b = .flagsRead since s.roots s.roots config → Undisturbed s (.store b) := by
    rintro s b since config hp
    refine ⟨trivial, ?_⟩
    rintro _ _ _ _ _ ⟨⟩ hp' -
    cases hp.symm.trans hp'
    exact ⟨rfl, rfl⟩
  have hrun : ∃ s, Run ConfigWorld.step Undisturbed ConfigWorld.start freshTrace s ∧
      s.phase false = .returned 1 ⟨obligingRoots.nvcc, flags⟩ :=
    ⟨_, .cons (hother trivial nofun) rfl (.cons (hother trivial nofun) rfl
      (.cons (hother trivial nofun) rfl (.cons (hother rfl nofun) rfl
        (.cons (hother trivial nofun) (ConfigWorld.step_readIncludes rfl hflags) (.cons (hstore rfl) rfl
          (.cons (hother trivial nofun) rfl (.cons (hother trivial nofun) rfl .nil))))))), rfl⟩
  obtain ⟨s, hrun, hphase⟩ := hrun
  exact ⟨s, flags, hrun, hphase, configs_sound hrun⟩

end DeepGemmRs.Jit
