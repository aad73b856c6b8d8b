import DeepGemmRs.Jit.Cache

/-!
# The kernel cache between threads

Any number of calls of `build_kernel` in one process; the lookup in `g_kernel_cache` and the insert are a step
each. A `KernelRuntime` has a number, and lives as long as the cache or a caller holds it.

* `KernelPhase`, `KernelAction`, `KernelWorld.step` : the calls, interleaved;
* `KernelWorld.Alive` : the runtime has a reference left;
* `WriteOnce`, `KernelWorld.Kept` : a key stays with its runtime, callers with one key get one runtime, and no
  runtime that a caller got is gone;
* `KeyAbsent` : an insert finds its key absent;
* `kernels_kept_iff` : **a run keeps its runtimes exactly when every insert finds its key absent**;
* `Scheduled` : no call inserts a key between a lookup that misses it and the insert of that call,
  `keyAbsent_iff_scheduled`;
* `buildKernel_race` : a call taken alone goes through these steps as `buildKernel` does.
-/

namespace DeepGemmRs.Jit

open Runs Stateful Stateful.Prog

/-- Where a call of `build_kernel` is. -/
inductive KernelPhase where
  | idle
  /-- The key was not in the cache. -/
  | missed (key : String)
  /-- There is no cubin on the disk. -/
  | compiling (key : String)
  | loading (key : String)
  /-- The runtime is made, and held by the call. -/
  | made (key : String) (runtime : Nat)
  /-- The caller holds it. -/
  | returned (key : String) (runtime : Nat)
  | threw

/-- The steps of a call; `load` makes a runtime, or throws. -/
inductive KernelAction (B ρ : Type) where
  | lookup (b : B) (key : String)
  | checkDisk (b : B) (found : Bool)
  | compile (b : B) (ok : Bool)
  | load (b : B) (runtime : Option ρ)
  | insert (b : B)
  /-- The caller is done with its launch. -/
  | drop (b : B)

/-- The cache, every runtime made so far, the calls, and the calls that returned. -/
structure KernelWorld (B ρ : Type) where
  cache : String → Option Nat
  runtimes : List ρ
  phase : B → KernelPhase
  log : List (String × Nat)

/-- The runtime that a call or its caller holds. -/
def KernelPhase.held : KernelPhase → Option Nat
  | made _ runtime | returned _ runtime => some runtime
  | _ => none

section
variable {B ρ : Type}

namespace KernelWorld

def start : KernelWorld B ρ := ⟨fun _ => none, [], fun _ => .idle, []⟩

section
variable [DecidableEq B] (s : KernelWorld B ρ)

def moved (b : B) (p : KernelPhase) : KernelWorld B ρ := { s with phase := Function.update s.phase b p }

/-- A call returns a runtime. -/
def ret (b : B) (key : String) (runtime : Nat) : KernelWorld B ρ :=
  { s with log := (key, runtime) :: s.log }.moved b (.returned key runtime)

/-- `g_kernel_cache[cache_key] = runtime`. -/
def store (key : String) (runtime : Nat) : KernelWorld B ρ :=
  { s with cache := Function.update s.cache key (some runtime) }

/-- `std::make_shared<KernelRuntime>`. -/
def make (runtime : ρ) : KernelWorld B ρ := { s with runtimes := s.runtimes ++ [runtime] }

def step : KernelAction B ρ → Option (KernelWorld B ρ)
  | .lookup b key =>
    match s.phase b with
    | .idle | .threw =>
      match s.cache key with
      | some runtime => some (s.ret b key runtime)
      | none => some (s.moved b (.missed key))
    | _ => none
  | .checkDisk b found =>
    match s.phase b with
    | .missed key => some (s.moved b (if found then .loading key else .compiling key))
    | _ => none
  | .compile b ok =>
    match s.phase b with
    | .compiling key => some (s.moved b (if ok then .loading key else .threw))
    | _ => none
  | .load b runtime =>
    match s.phase b, runtime with
    | .loading key, some runtime => some ((s.make runtime).moved b (.made key s.runtimes.length))
    | .loading _, none => some (s.moved b .threw)
    | _, _ => none
  | .insert b =>
    match s.phase b with
    | .made key runtime => some ((s.store key runtime).ret b key runtime)
    | _ => none
  | .drop b =>
    match s.phase b with
    | .returned _ _ => some (s.moved b .idle)
    | _ => none

end

variable (s : KernelWorld B ρ)

/-- The cache or a call holds a reference. -/
def Alive (runtime : Nat) : Prop := (∃ key, s.cache key = some runtime) ∨ ∃ b, (s.phase b).held = some runtime

/-- What callers are promised. -/
structure Kept : Prop where
  /-- Calls with one key return one runtime. -/
  same : ∀ key runtime runtime', (key, runtime) ∈ s.log → (key, runtime') ∈ s.log → runtime = runtime'
  /-- The library of a returned runtime is not unloaded. -/
  alive : ∀ call ∈ s.log, s.Alive call.2

/-- No two calls hold one new runtime, and the cache holds none of them. -/
structure Fresh : Prop where
  cached : ∀ key runtime, s.cache key = some runtime → runtime < s.runtimes.length
  made : ∀ b key runtime, s.phase b = .made key runtime → runtime < s.runtimes.length ∧
    ∀ key', s.cache key' ≠ some runtime
  distinct : ∀ b c key key' runtime, s.phase b = .made key runtime → s.phase c = .made key' runtime → b = c

theorem Fresh.start : Fresh (start : KernelWorld B ρ) where
  cached _ _ h := by cases h
  made _ _ _ h := by cases h
  distinct _ _ _ _ _ h := by cases h

/-- What the log says is in the cache. -/
def Logged : Prop := ∀ call ∈ s.log, s.cache call.1 = some call.2

end KernelWorld

variable [DecidableEq B]

/-- Once a key has a runtime, it keeps it for the rest of the run. -/
def WriteOnce (trace : List (KernelAction B ρ)) : Prop :=
  ∀ before middle after s t, trace = before ++ middle ++ after →
    Run KernelWorld.step (fun _ _ => True) KernelWorld.start before s →
    Run KernelWorld.step (fun _ _ => True) s middle t →
    ∀ key runtime, s.cache key = some runtime → t.cache key = some runtime

/-- An insert finds its key absent. -/
def KeyAbsent (s : KernelWorld B ρ) (a : KernelAction B ρ) : Prop :=
  ∀ b key runtime, a = .insert b → s.phase b = .made key runtime → s.cache key = none

/-- The runtimes of a run are kept. -/
structure KeptRun (trace : List (KernelAction B ρ)) : Prop where
  writeOnce : WriteOnce trace
  kept : ∀ before after s, trace = before ++ after →
    Run KernelWorld.step (fun _ _ => True) KernelWorld.start before s → s.Kept

/-! ## Steps -/

/-- All that a step can do. -/
inductive KernelEffect (s : KernelWorld B ρ) : KernelAction B ρ → KernelWorld B ρ → Prop
  | still {a : KernelAction B ρ} {b : B} {p : KernelPhase} (hp : p.held = none) : KernelEffect s a (s.moved b p)
  | hit {a : KernelAction B ρ} {b : B} {key : String} {runtime : Nat} (h : s.cache key = some runtime) :
      KernelEffect s a (s.ret b key runtime)
  | load {a : KernelAction B ρ} {b : B} {key : String} {runtime : ρ} :
      KernelEffect s a ((s.make runtime).moved b (.made key s.runtimes.length))
  | insert {b : B} {key : String} {runtime : Nat} (h : s.phase b = .made key runtime) :
      KernelEffect s (.insert b) ((s.store key runtime).ret b key runtime)

variable {s t : KernelWorld B ρ} {a : KernelAction B ρ}

theorem KernelWorld.step_effect (hs : s.step a = some t) : KernelEffect s a t := by
  cases a with
  | lookup b key =>
    simp only [KernelWorld.step] at hs
    split at hs
    · split at hs <;> cases hs
      · exact .hit ‹_›
      · exact .still rfl
    · split at hs <;> cases hs
      · exact .hit ‹_›
      · exact .still rfl
    · cases hs
  | checkDisk b found =>
    simp only [KernelWorld.step] at hs
    split at hs <;> cases hs
    apply KernelEffect.still
    split <;> rfl
  | compile b ok =>
    simp only [KernelWorld.step] at hs
    split at hs <;> cases hs
    apply KernelEffect.still
    split <;> rfl
  | load b runtime =>
    simp only [KernelWorld.step] at hs
    split at hs <;> cases hs
    · exact .load
    · exact .still rfl
  | insert b =>
    simp only [KernelWorld.step] at hs
    split at hs <;> cases hs
    exact .insert ‹_›
  | drop b =>
    simp only [KernelWorld.step] at hs
    split at hs <;> cases hs
    exact .still rfl

@[simp] theorem KernelWorld.phase_moved_self {b : B} {p : KernelPhase} : (s.moved b p).phase b = p :=
  Function.update_self ..

theorem KernelWorld.phase_moved_of_ne {b c : B} {p : KernelPhase} (h : c ≠ b) : (s.moved b p).phase c = s.phase c :=
  Function.update_of_ne h ..

/-- A call that moves to a phase that is not `made` leaves only old runtimes in that phase. -/
theorem KernelWorld.made_of_moved {b c : B} {p : KernelPhase} {key : String} {runtime : Nat}
    (hp : ∀ key runtime, p ≠ .made key runtime) (h : (s.moved b p).phase c = .made key runtime) :
    c ≠ b ∧ s.phase c = .made key runtime := by
  rcases eq_or_ne c b with rfl | hne
  · rw [KernelWorld.phase_moved_self] at h
    exact absurd h (hp _ _)
  · rw [KernelWorld.phase_moved_of_ne hne] at h
    exact ⟨hne, h⟩

namespace KernelWorld

theorem Fresh.moved (h : Fresh s) {b : B} {p : KernelPhase} (hp : ∀ key runtime, p ≠ .made key runtime) :
    Fresh (s.moved b p) where
  cached := h.cached
  made c key runtime hc := h.made c key runtime (made_of_moved hp hc).2
  distinct c c' key key' runtime hc hc' :=
    h.distinct c c' key key' runtime (made_of_moved hp hc).2 (made_of_moved hp hc').2

theorem Fresh.load (h : Fresh s) {b : B} {key : String} {runtime : ρ} :
    Fresh ((s.make runtime).moved b (.made key s.runtimes.length)) := by
  have hlen : (s.make runtime).runtimes.length = s.runtimes.length + 1 := List.length_append
  have hmade : ∀ c key' r, ((s.make runtime).moved b (.made key s.runtimes.length)).phase c = .made key' r →
      (c = b ∧ r = s.runtimes.length) ∨ (c ≠ b ∧ s.phase c = .made key' r) := by
    intro c key' r hc
    rcases eq_or_ne c b with rfl | hne
    · rw [KernelWorld.phase_moved_self] at hc
      cases hc
      exact .inl ⟨rfl, rfl⟩
    · rw [KernelWorld.phase_moved_of_ne hne] at hc
      exact .inr ⟨hne, hc⟩
  constructor
  · intro key' r hc
    exact hlen ▸ Nat.lt_succ_of_lt (h.cached key' r hc)
  · intro c key' r hc
    show r < (s.make runtime).runtimes.length ∧ _
    rw [hlen]
    rcases hmade c key' r hc with ⟨-, rfl⟩ | ⟨-, hc⟩
    · exact ⟨Nat.lt_succ_self _, fun k hk => absurd (h.cached k _ hk) (Nat.lt_irrefl _)⟩
    · exact ⟨Nat.lt_succ_of_lt (h.made c key' r hc).1, (h.made c key' r hc).2⟩
  · intro c c' k k' r hc hc'
    rcases hmade c k r hc with ⟨rfl, rfl⟩ | ⟨-, hold⟩
    · rcases hmade c' k' _ hc' with ⟨rfl, -⟩ | ⟨-, hold'⟩
      · rfl
      · exact absurd (h.made c' k' _ hold').1 (Nat.lt_irrefl _)
    · rcases hmade c' k' r hc' with ⟨rfl, rfl⟩ | ⟨-, hold'⟩
      · exact absurd (h.made c k _ hold).1 (Nat.lt_irrefl _)
      · exact h.distinct c c' k k' r hold hold'

theorem Fresh.insert (h : Fresh s) {b : B} {key : String} {runtime : Nat} (hb : s.phase b = .made key runtime) :
    Fresh ((s.store key runtime).ret b key runtime) := by
  have hp : ∀ k r, KernelPhase.returned key runtime ≠ .made k r := nofun
  constructor
  · intro key' r hc
    change Function.update s.cache key (some runtime) key' = some r at hc
    rcases eq_or_ne key' key with rfl | hne
    · rw [Function.update_self] at hc
      cases hc
      exact (h.made b key' runtime hb).1
    · rw [Function.update_of_ne hne] at hc
      exact h.cached key' r hc
  · intro c key' r hc
    obtain ⟨hne, hc⟩ := made_of_moved hp hc
    refine ⟨(h.made c key' r hc).1, fun k hk => ?_⟩
    change Function.update s.cache key (some runtime) k = some r at hk
    rcases eq_or_ne k key with rfl | hkey
    · rw [Function.update_self] at hk
      cases hk
      exact hne (h.distinct c b key' k _ hc hb)
    · rw [Function.update_of_ne hkey] at hk
      exact (h.made c key' r hc).2 k hk
  · intro c c' k k' r hc hc'
    exact h.distinct c c' k k' r (made_of_moved hp hc).2 (made_of_moved hp hc').2

theorem Fresh.step (h : Fresh s) (hs : s.step a = some t) : Fresh t := by
  cases step_effect hs with
  | still hp =>
    apply h.moved
    rintro key runtime rfl
    cases hp
  | hit => exact Fresh.moved (s := { s with log := _ :: s.log }) ⟨h.cached, h.made, h.distinct⟩ nofun
  | load => exact h.load
  | insert hb => exact h.insert hb

/-- A step that finds its key absent overwrites nothing. -/
theorem cache_step (ha : KeyAbsent s a) (hs : s.step a = some t) {key : String} {runtime : Nat}
    (h : s.cache key = some runtime) : t.cache key = some runtime := by
  cases step_effect hs with
  | still | hit | load => exact h
  | @insert b key' runtime' hb =>
    have hne : key ≠ key' := by
      rintro rfl
      rw [ha b key runtime' rfl hb] at h
      cases h
    exact (Function.update_of_ne hne ..).trans h

/-- What is logged is what the cache has. -/
theorem Logged.step (h : Logged s) (ha : KeyAbsent s a) (hs : s.step a = some t) : Logged t := by
  have hkeep : ∀ call ∈ s.log, t.cache call.1 = some call.2 := fun call hcall => cache_step ha hs (h call hcall)
  cases step_effect hs with
  | still | load => exact hkeep
  | hit hc =>
    intro call hcall
    rcases List.mem_cons.mp hcall with rfl | hcall
    · exact hc
    · exact hkeep call hcall
  | insert hb =>
    intro call hcall
    rcases List.mem_cons.mp hcall with rfl | hcall
    · exact Function.update_self ..
    · exact hkeep call hcall

omit [DecidableEq B] in
theorem Logged.kept (h : Logged s) : Kept s where
  same key runtime runtime' hr hr' := by
    have h1 := h _ hr
    rw [h _ hr'] at h1
    exact (Option.some_inj.mp h1).symm
  alive call hcall := .inl ⟨call.1, h call hcall⟩

end KernelWorld

theorem fresh_of_run {trace : List (KernelAction B ρ)}
    (h : Run KernelWorld.step (fun _ _ => True) KernelWorld.start trace s) : s.Fresh :=
  h.invariant KernelWorld.Fresh.start fun _ _ _ ht _ hs => ht.step hs

theorem logged_of_run {trace : List (KernelAction B ρ)} (h : Run KernelWorld.step KeyAbsent KernelWorld.start trace s) :
    s.Logged :=
  h.invariant (fun _ hc => by cases hc) fun _ _ _ ht ha hs => ht.step ha hs

/-- A run that keeps keys finds each key absent: what is inserted is new. -/
theorem keyAbsent_of_writeOnce {trace : List (KernelAction B ρ)}
    (h : Run KernelWorld.step (fun _ _ => True) KernelWorld.start trace s) (hw : WriteOnce trace) :
    Run KernelWorld.step KeyAbsent KernelWorld.start trace s := by
  induction h with
  | nil => exact .nil
  | @snoc trace t u a hr _ hs ih =>
    have hprefix : WriteOnce trace := by
      rintro before middle after v w rfl hv hw'
      exact hw before middle (after ++ [a]) v w (List.append_assoc ..) hv hw'
    refine .snoc (ih hprefix) ?_ hs
    rintro b key runtime rfl hb
    cases hc : t.cache key with
    | none => rfl
    | some old =>
      have hkept := hw trace [.insert b] [] t u (List.append_nil _).symm hr (.snoc .nil trivial hs) key old hc
      have hnew : u.cache key = some runtime := by
        simp only [KernelWorld.step, hb, Option.some_inj] at hs
        rw [← hs]
        exact Function.update_self ..
      rw [hnew] at hkept
      cases hkept
      exact absurd hc (((fresh_of_run hr).made b key runtime hb).2 key)

/-- Every part of a run that finds each key absent keeps its runtimes. -/
theorem keptRun_of_keyAbsent {trace : List (KernelAction B ρ)}
    (h : Run KernelWorld.step KeyAbsent KernelWorld.start trace s) : KeptRun trace where
  writeOnce before middle after v w heq hv hw key runtime hc := by
    subst heq
    obtain ⟨w', hmid⟩ := h.split
    obtain ⟨v', hbefore, hmiddle⟩ := hmid.splitAt
    obtain rfl := hbefore.unique hv
    obtain rfl := hmiddle.unique hw
    exact hmiddle.invariant (P := fun w => w.cache key = some runtime) hc fun _ _ _ ht ha hs =>
      KernelWorld.cache_step ha hs ht
  kept before after v heq hv := by
    subst heq
    obtain ⟨v', hbefore⟩ := h.split
    obtain rfl := hbefore.unique hv
    exact (logged_of_run hbefore).kept

/-- **A run keeps its runtimes exactly when every insert finds its key absent.** -/
theorem kernels_kept_iff {trace : List (KernelAction B ρ)}
    (h : Run KernelWorld.step (fun _ _ => True) KernelWorld.start trace s) :
    KeptRun trace ↔ Run KernelWorld.step KeyAbsent KernelWorld.start trace s :=
  ⟨fun hk => keyAbsent_of_writeOnce h hk.writeOnce, keptRun_of_keyAbsent⟩

/-! ## Schedules -/

/-- The key of a call that has not found it, until its insert. -/
def KernelPhase.pending : KernelPhase → Option String
  | missed key | compiling key | loading key | made key _ => some key
  | _ => none

/-- In these steps from `s`, a call inserts `key`. -/
def Inserted (s : KernelWorld B ρ) (trace : List (KernelAction B ρ)) (key : String) : Prop :=
  ∃ before c after t runtime, trace = before ++ .insert c :: after ∧
    Run KernelWorld.step (fun _ _ => True) s before t ∧ t.phase c = .made key runtime

/-- Between a lookup that misses and the insert of that call, no call inserts the key. -/
def Scheduled (trace : List (KernelAction B ρ)) : Prop :=
  ∀ before middle after b key s, trace = before ++ .lookup b key :: (middle ++ .insert b :: after) →
    Run KernelWorld.step (fun _ _ => True) KernelWorld.start before s → s.cache key = none →
    (∀ key', .lookup b key' ∉ middle) → ∀ t, s.step (.lookup b key) = some t → ¬ Inserted t middle key

/-- A lookup finds the key, or does not. -/
theorem KernelWorld.step_lookup {b : B} {key : String} (hs : s.step (.lookup b key) = some t) :
    (∃ runtime, s.cache key = some runtime ∧ t = s.ret b key runtime) ∨
      (s.cache key = none ∧ t = s.moved b (.missed key)) := by
  simp only [KernelWorld.step] at hs
  split at hs
  · split at hs <;> cases hs
    · exact .inl ⟨_, ‹_›, rfl⟩
    · exact .inr ⟨‹_›, rfl⟩
  · split at hs <;> cases hs
    · exact .inl ⟨_, ‹_›, rfl⟩
    · exact .inr ⟨‹_›, rfl⟩
  · cases hs

theorem KernelWorld.step_insert {b : B} (hs : s.step (.insert b) = some t) :
    ∃ key runtime, s.phase b = .made key runtime ∧ t = (s.store key runtime).ret b key runtime := by
  simp only [KernelWorld.step] at hs
  split at hs <;> cases hs
  exact ⟨_, _, ‹_›, rfl⟩

/-- One call moves; another one pends as before. -/
theorem pending_moved {b c : B} {p : KernelPhase} {key : String} (h : ((s.moved c p).phase b).pending = some key) :
    (b = c ∧ p.pending = some key) ∨ (b ≠ c ∧ (s.phase b).pending = some key) := by
  rcases eq_or_ne b c with rfl | hne
  · rw [KernelWorld.phase_moved_self] at h
    exact .inl ⟨rfl, h⟩
  · rw [KernelWorld.phase_moved_of_ne hne] at h
    exact .inr ⟨hne, h⟩

/-- A call pends from its lookup on. -/
theorem pending_step (hs : s.step a = some t) {b : B} {key : String} (h : (t.phase b).pending = some key) :
    (a = .lookup b key ∧ s.cache key = none) ∨
      ((s.phase b).pending = some key ∧ ∀ key', a ≠ .lookup b key') := by
  cases a with
  | lookup c key' =>
    have hother : ∀ {u : KernelWorld B ρ}, u.phase = s.phase → b ≠ c →
        (u.phase b).pending = some key → (s.phase b).pending = some key ∧
          ∀ k, KernelAction.lookup c key' ≠ (.lookup b k : KernelAction B ρ) := by
      intro u hu hne hp
      refine ⟨hu ▸ hp, ?_⟩
      rintro _ ⟨⟩
      exact hne rfl
    rcases KernelWorld.step_lookup hs with ⟨runtime, -, rfl⟩ | ⟨hc, rfl⟩
    · rcases pending_moved h with ⟨-, hp⟩ | ⟨hne, hp⟩
      · cases hp
      · exact .inr (hother rfl hne hp)
    · rcases pending_moved h with ⟨rfl, hp⟩ | ⟨hne, hp⟩
      · obtain rfl := Option.some_inj.mp hp
        exact .inl ⟨rfl, hc⟩
      · exact .inr (hother rfl hne hp)
  | checkDisk c found =>
    refine .inr ⟨?_, nofun⟩
    simp only [KernelWorld.step] at hs
    split at hs <;> cases hs
    next hphase =>
      rcases pending_moved h with ⟨rfl, hp⟩ | ⟨-, hp⟩
      · rw [hphase, ← hp]
        split <;> rfl
      · exact hp
  | compile c ok =>
    refine .inr ⟨?_, nofun⟩
    simp only [KernelWorld.step] at hs
    split at hs <;> cases hs
    next hphase =>
      rcases pending_moved h with ⟨rfl, hp⟩ | ⟨-, hp⟩
      · cases ok with
        | true =>
          rw [hphase, ← hp]
          rfl
        | false => cases hp
      · exact hp
  | load c runtime =>
    refine .inr ⟨?_, nofun⟩
    simp only [KernelWorld.step] at hs
    split at hs <;> cases hs
    · next hphase =>
      rcases pending_moved h with ⟨rfl, hp⟩ | ⟨-, hp⟩
      · rw [hphase, ← hp]
        rfl
      · exact hp
    · rcases pending_moved h with ⟨-, hp⟩ | ⟨-, hp⟩
      · cases hp
      · exact hp
  | insert c =>
    refine .inr ⟨?_, nofun⟩
    simp only [KernelWorld.step] at hs
    split at hs <;> cases hs
    rcases pending_moved h with ⟨-, hp⟩ | ⟨-, hp⟩
    · cases hp
    · exact hp
  | drop c =>
    refine .inr ⟨?_, nofun⟩
    simp only [KernelWorld.step] at hs
    split at hs <;> cases hs
    rcases pending_moved h with ⟨-, hp⟩ | ⟨-, hp⟩
    · cases hp
    · exact hp

/-- A call that pends looked its key up, and did not find it. -/
theorem lookup_of_pending {trace : List (KernelAction B ρ)} {b : B} {key : String}
    (h : Run KernelWorld.step (fun _ _ => True) KernelWorld.start trace s) (hp : (s.phase b).pending = some key) :
    ∃ before middle u v, trace = before ++ .lookup b key :: middle ∧
      Run KernelWorld.step (fun _ _ => True) KernelWorld.start before u ∧ u.cache key = none ∧
      (∀ key', .lookup b key' ∉ middle) ∧ u.step (.lookup b key) = some v ∧
      Run KernelWorld.step (fun _ _ => True) v middle s := by
  induction h with
  | nil => cases hp
  | @snoc trace t u a hr _ hs ih =>
    rcases pending_step hs hp with ⟨rfl, hc⟩ | ⟨hp, hother⟩
    · exact ⟨trace, [], t, u, rfl, hr, hc, nofun, hs, .nil⟩
    · obtain ⟨before, middle, v, w, rfl, hbefore, hc, hnone, hlook, hmiddle⟩ := ih hp
      refine ⟨before, middle ++ [a], v, w, ?_, hbefore, hc, ?_, hlook, .snoc hmiddle trivial hs⟩
      · rw [List.append_assoc, List.cons_append]
      · intro key' hmem
        rcases List.mem_append.mp hmem with hmem | hmem
        · exact hnone key' hmem
        · exact hother key' (List.mem_singleton.mp hmem).symm

/-- A key that no step inserts stays absent. -/
theorem absent_of_run {trace : List (KernelAction B ρ)} {key : String}
    (h : Run KernelWorld.step (fun _ _ => True) s trace t) (hc : s.cache key = none) (hnone : ¬ Inserted s trace key) :
    t.cache key = none := by
  induction h with
  | nil => exact hc
  | @snoc trace u v a hr _ hs ih =>
    have hbefore : u.cache key = none := by
      apply ih
      rintro ⟨before, c, after, w, runtime, rfl, hw, hphase⟩
      exact hnone ⟨before, c, after ++ [a], w, runtime, by rw [List.append_assoc, List.cons_append], hw, hphase⟩
    cases KernelWorld.step_effect hs with
    | still | hit | load => exact hbefore
    | @insert b key' runtime hb =>
      have hne : key ≠ key' := by
        rintro rfl
        exact hnone ⟨trace, b, [], u, runtime, rfl, hr, hb⟩
      exact (Function.update_of_ne hne ..).trans hbefore

/-- A key that is there stays there. -/
theorem present_of_run {trace : List (KernelAction B ρ)} {key : String}
    (h : Run KernelWorld.step (fun _ _ => True) s trace t) (hc : s.cache key ≠ none) : t.cache key ≠ none := by
  apply h.invariant (P := fun t => t.cache key ≠ none) hc
  intro u a v hu _ hs
  cases KernelWorld.step_effect hs with
  | still | hit | load => exact hu
  | @insert b key' runtime hb =>
    show Function.update u.cache key' (some runtime) key ≠ none
    rcases eq_or_ne key key' with rfl | hne
    · rw [Function.update_self]
      exact Option.some_ne_none _
    · rwa [Function.update_of_ne hne]

/-- The key of a call stays while it looks up no other. -/
theorem pending_of_run {trace : List (KernelAction B ρ)} {b : B} {key key' : String}
    (h : Run KernelWorld.step (fun _ _ => True) s trace t) (hnone : ∀ key', .lookup b key' ∉ trace)
    (hs : (s.phase b).pending = some key) (ht : (t.phase b).pending = some key') : key' = key := by
  have hrun : Run KernelWorld.step (fun _ a => ∀ key', a ≠ .lookup b key') s trace t := by
    apply h.mono_of_mem
    rintro _ _ hmem - key' rfl
    exact hnone key' hmem
  have hsame := hrun.invariant (P := fun t => ∀ key', (t.phase b).pending = some key' → key' = key)
    (fun key' hp => (Option.some_inj.mp (hs.symm.trans hp)).symm) ?_
  · exact hsame key' ht
  · intro u a v hu ha hstep key' hp
    rcases pending_step hstep hp with ⟨rfl, -⟩ | ⟨hp, -⟩
    · exact absurd rfl (ha key')
    · exact hu key' hp

/-- **Every insert finds its key absent** exactly when no call inserts a key between the lookup of another call that
misses it and that call's insert. -/
theorem keyAbsent_iff_scheduled {trace : List (KernelAction B ρ)}
    (h : Run KernelWorld.step (fun _ _ => True) KernelWorld.start trace s) :
    Run KernelWorld.step KeyAbsent KernelWorld.start trace s ↔ Scheduled trace := by
  constructor
  · rintro habsent before middle after b key u rfl hu hmiss hnone v hlook ⟨first, c, last, w, number, rfl, hw, hphase⟩
    obtain ⟨u', hbefore, hrest⟩ := habsent.splitAt
    obtain rfl := hbefore.unique hu
    obtain ⟨v', -, hlook', hrest⟩ := hrest.of_cons
    obtain rfl := Option.some_inj.mp (hlook'.symm.trans hlook)
    obtain ⟨x, hmiddle, hrest⟩ := hrest.splitAt
    obtain ⟨y, hkey, hinsert, -⟩ := hrest.of_cons
    obtain ⟨w', hfirst, hlast⟩ := hmiddle.splitAt
    obtain rfl := hfirst.unique hw
    obtain ⟨z, -, hother, hlast⟩ := hlast.of_cons
    -- the other call puts the key there, and there it stays
    have hthere : z.cache key ≠ none := by
      obtain ⟨_, _, hmade, rfl⟩ := KernelWorld.step_insert hother
      obtain ⟨rfl, rfl⟩ := KernelPhase.made.inj (hphase.symm.trans hmade)
      exact ne_of_eq_of_ne (Function.update_self ..) (Option.some_ne_none _)
    have hstays := present_of_run (hlast.mono fun _ _ _ => trivial) hthere
    obtain ⟨key', number', hmade, -⟩ := KernelWorld.step_insert hinsert
    have hpending : (v'.phase b).pending = some key := by
      rcases KernelWorld.step_lookup hlook with ⟨_, hhit, -⟩ | ⟨-, rfl⟩
      · cases hhit.symm.trans hmiss
      · rw [KernelWorld.phase_moved_self]
        rfl
    obtain rfl := pending_of_run (hmiddle.mono fun _ _ _ => trivial) hnone hpending
      (show (x.phase b).pending = some key' by rw [hmade]; rfl)
    exact hstays (hkey b key' number' rfl hmade)
  · intro hscheduled
    induction h with
    | nil => exact .nil
    | @snoc trace t u a hr _ hs ih =>
      refine .snoc (ih ?_) ?_ hs
      · rintro before middle after b key v rfl hv hmiss hnone w hlook
        exact hscheduled before middle (after ++ [a]) b key v (by simp) hv hmiss hnone w hlook
      · rintro b key runtime rfl hb
        obtain ⟨before, middle, v, w, rfl, hbefore, hmiss, hnone, hlook, hmiddle⟩ :=
          lookup_of_pending hr (show (t.phase b).pending = some key by rw [hb]; rfl)
        have hcache : w.cache key = none := by
          rcases KernelWorld.step_lookup hlook with ⟨_, hhit, -⟩ | ⟨-, rfl⟩
          · cases hhit.symm.trans hmiss
          · exact hmiss
        apply absent_of_run hmiddle hcache
        exact hscheduled before middle [] b key v (by simp) hbefore hmiss hnone w hlook

omit [DecidableEq B] in
theorem keyAbsent_of_ne (h : ∀ b, a ≠ .insert b) : KeyAbsent s a := fun b _ _ heq _ => absurd heq (h b)

/-! ## A call taken alone -/

/-- The cache of the process, with its runtimes in place of their numbers. -/
def KernelWorld.Matches {driver : Driver} (s : KernelWorld B (KernelRuntime driver)) (process : Process driver) : Prop :=
  ∀ key, process.kernelCache key = (s.cache key).bind (s.runtimes[·]?)

/-- **A call taken alone goes through these steps**, and returns what `buildKernel` does. -/
theorem buildKernel_race {driver : Driver} {answers : Answers driver} {name code : String} {p q : Process driver}
    {runtime : KernelRuntime driver} {s : KernelWorld B (KernelRuntime driver)} {b : B} (hs : s.Fresh)
    (hm : s.Matches p) (hb : s.phase b = .idle) (h : Returns (buildKernel answers name code) p runtime q) :
    ∃ trace t key number, Run KernelWorld.step KeyAbsent s trace t ∧ t.phase b = .returned key number ∧
      t.runtimes[number]? = some runtime ∧ t.Matches q := by
  obtain ⟨config, -, hbuilt⟩ := buildKernel_returns h
  generalize cacheKey name config code = key at hbuilt
  rcases hbuilt.source with ⟨hhit, hsame⟩ | ⟨hmiss, -, hstore⟩
  · rw [hm key, Option.bind_eq_some_iff] at hhit
    obtain ⟨number, hc, hruntime⟩ := hhit
    refine ⟨[.lookup b key], s.ret b key number, key, number, .cons (keyAbsent_of_ne nofun) ?_ .nil,
      KernelWorld.phase_moved_self, hruntime, fun key' => hsame ▸ hm key'⟩
    simp only [KernelWorld.step, hb, hc]
  · have hc : s.cache key = none := by
      cases hc : s.cache key with
      | none => rfl
      | some number =>
        rw [hm key, hc, Option.bind_some, List.getElem?_eq_none_iff] at hmiss
        exact absurd (hs.cached key number hc) (Nat.not_lt.mpr hmiss)
    let missed := s.moved b (.missed key)
    let loading := missed.moved b (.loading key)
    let made := (loading.make runtime).moved b (.made key s.runtimes.length)
    have h1 : s.step (.lookup b key) = some missed := by simp only [KernelWorld.step, hb, hc, missed]
    have h2 : missed.step (.checkDisk b true) = some loading := by
      simp only [KernelWorld.step, missed, KernelWorld.phase_moved_self]
      rfl
    have h3 : loading.step (.load b (some runtime)) = some made := by
      simp only [KernelWorld.step, loading, KernelWorld.phase_moved_self]
      rfl
    have hmade : made.phase b = .made key s.runtimes.length := KernelWorld.phase_moved_self
    have h4 : made.step (.insert b) =
        some ((made.store key s.runtimes.length).ret b key s.runtimes.length) := by
      simp only [KernelWorld.step, hmade]
    have habsent : KeyAbsent made (.insert b) := by
      rintro _ key' number ⟨⟩ hp
      rw [hmade] at hp
      cases hp
      exact hc
    refine ⟨[.lookup b key, .checkDisk b true, .load b (some runtime), .insert b], _, key, s.runtimes.length,
      .cons (keyAbsent_of_ne nofun) h1 (.cons (keyAbsent_of_ne nofun) h2 (.cons (keyAbsent_of_ne nofun) h3
        (.cons habsent h4 .nil))), KernelWorld.phase_moved_self, List.getElem?_concat_length .., fun key' => ?_⟩
    show q.kernelCache key' = (Function.update s.cache key (some s.runtimes.length) key').bind
      ((s.runtimes ++ [runtime])[·]?)
    rw [hstore]
    rcases eq_or_ne key' key with rfl | hne
    · rw [Function.update_self, Function.update_self, Option.bind_some, List.getElem?_concat_length]
    · rw [Function.update_of_ne hne, Function.update_of_ne hne, hm key']
      cases hc' : s.cache key' with
      | none => rfl
      | some number =>
        rw [Option.bind_some, Option.bind_some, List.getElem?_append_left (hs.cached key' number hc')]

end

/-! ## Two calls that miss -/

/-- Both find the cubin on the disk before either inserts. -/
def bothMiss : List (KernelAction Bool Unit) :=
  [.lookup true "key", .lookup false "key", .checkDisk true true, .checkDisk false true, .load true (some ()),
    .load false (some ()), .insert true, .insert false, .drop true]

/-- The second call looks after the first has inserted. -/
def oneMisses : List (KernelAction Bool Unit) :=
  [.lookup true "key", .checkDisk true false, .compile true true, .load true (some ()), .insert true,
    .lookup false "key", .drop true]

theorem bothMiss_unloads : ∃ s, Run KernelWorld.step (fun _ _ => True) KernelWorld.start bothMiss s ∧
    (∃ call ∈ s.log, ¬ s.Alive call.2) ∧ ¬ KeptRun bothMiss := by
  have hrun : ∃ s, Run KernelWorld.step (fun _ _ => True) KernelWorld.start bothMiss s ∧
      s.cache = Function.update (Function.update (fun _ => none) "key" (some 0)) "key" (some 1) ∧
      s.log = [("key", 1), ("key", 0)] ∧ s.phase true = .idle ∧ s.phase false = .returned "key" 1 :=
    ⟨_, run_of_foldlM rfl, rfl, rfl, rfl, rfl⟩
  obtain ⟨s, hrun, hcache, hlog, htrue, hfalse⟩ := hrun
  have hdead : ¬ s.Alive 0 := by
    rintro (⟨key, hc⟩ | ⟨b, hb⟩)
    · rw [hcache, Function.update_idem] at hc
      rcases eq_or_ne key "key" with rfl | hne
      · rw [Function.update_self] at hc
        cases hc
      · rw [Function.update_of_ne hne] at hc
        cases hc
    · cases b with
      | true =>
        rw [htrue] at hb
        cases hb
      | false =>
        rw [hfalse] at hb
        cases hb
  have hreturned : ("key", 0) ∈ s.log := by
    rw [hlog]
    exact List.mem_cons_of_mem _ List.mem_cons_self
  refine ⟨s, hrun, ⟨_, hreturned, hdead⟩, fun hk => hdead ?_⟩
  exact (hk.kept bothMiss [] s (List.append_nil _).symm hrun).alive _ hreturned

theorem oneMisses_kept : KeptRun oneMisses := by
  have hother : ∀ {s : KernelWorld Bool Unit} {a : KernelAction Bool Unit}, (∀ b, a ≠ .insert b) → KeyAbsent s a :=
    keyAbsent_of_ne
  have hrun : ∃ s, Run KernelWorld.step KeyAbsent KernelWorld.start oneMisses s := by
    refine ⟨_, .cons (hother nofun) rfl (.cons (hother nofun) rfl (.cons (hother nofun) rfl (.cons (hother nofun) rfl
      (.cons ?_ rfl (.cons (hother nofun) rfl (.cons (hother nofun) rfl .nil))))))⟩
    rintro _ key runtime ⟨⟩ hp
    obtain ⟨rfl, -⟩ := KernelPhase.made.inj (show KernelPhase.made "key" 0 = .made key runtime from hp)
    rfl
  obtain ⟨s, hrun⟩ := hrun
  exact (kernels_kept_iff (hrun.mono fun _ _ _ => trivial)).mpr hrun

end DeepGemmRs.Jit
