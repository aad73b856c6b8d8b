import DeepGemmRs.Jit.Materialization
import DeepGemmRs.Lib.Mirrored

/-!
# The materialization hook under threads

The crate keeps the hook in a slot with a mutex, the runtime a pointer to the crate's callback with another. A call
that sets the hook takes the one and then the other; an event copies the pointer, and the callback copies the slot.

* `setKernelMaterializationHook`, `emitEvent` : the calls of a thread, of two steps each;
* `heard` : the hooks that the events of a thread were reported to;
* `Hears` : an event that meets no set call is reported to the hook in the slot;
* `hooks_heard_iff` : **every state between set calls hears, in any interleaving, exactly when different threads do not
  set and clear the hook; and while no thread clears it, no event is lost once a set call is through**.
-/

namespace DeepGemmRs.Jit

open Mirrored Runs

section

variable {T H : Type} [DecidableEq T]

/-- A call of a thread. -/
abbrev HookCall (H : Type) : Type := Job (Option H) MaterializationEvent

/-- `set_kernel_materialization_hook`, with a mutex that is not poisoned: `*guard = hook`, then the native call with the
callback or null. -/
def setKernelMaterializationHook (hook : Option H) : HookCall H := .write hook

/-- `emit_kernel_materialization_event`: the native pointer, then `guard.clone()` in the callback. -/
def emitEvent (event : MaterializationEvent) : HookCall H := .read event

/-- The slot is the cell, and `g_kernel_materialization_hook` is its mirror: the callback, or null. -/
abbrev HookState (T H : Type) : Type := State T (Option H) MaterializationEvent

/-- No hook is set. -/
def hookStart (calls : T → List (HookCall H)) : HookState T H := State.start Option.isSome none calls

def hookStep (s : HookState T H) (t : T) : Option (HookState T H) := s.step Option.isSome t

/-- The events of a thread, with the hooks that they were reported to. -/
def heard (log : List (MaterializationEvent × Option (Option H))) : List (MaterializationEvent × Option H) :=
  log.map fun entry => (entry.1, entry.2.join)

/-- Thread `t`, between two calls, is about to emit an event. -/
def emitting (s : HookState T H) (t : T) (event : MaterializationEvent) : HookState T H :=
  s.advance t ⟨false, emitEvent event :: (s.threads t).jobs⟩

/-- An event that a thread emits now, and that meets no set call, is reported to the hook in the slot. -/
def Hears (s : HookState T H) : Prop :=
  ∀ t event trace s', (s.threads t).begun = false →
    Run hookStep (MeetsNoWrite t (s.threads t).jobs) (emitting s t event) trace s' →
    (s'.threads t).jobs = (s.threads t).jobs → heard (s'.log t) = (event, s.cell) :: heard (s.log t)

variable {calls : T → List (HookCall H)} {s s' : HookState T H} {t : T}

theorem hears_of_mirror (h : s.cell.isSome = true → s.mirror = true) : Hears s := by
  intro t event trace s' hidle hrun hend
  have hfound : s'.log t = (event, (emitting s t event).seen) :: s.log t :=
    read_finds_seen (State.advance_self _) hrun hend
  have hseen : (emitting s t event).seen.join = s.cell := by
    show (if s.mirror then some s.cell else none).join = s.cell
    cases hm : s.mirror with
    | true => rfl
    | false =>
      cases hcell : s.cell with
      | none => rfl
      | some hook => exact absurd (h (by rw [hcell]; rfl)) (by rw [hm]; decide)
  rw [hfound, heard, List.map_cons, hseen]
  rfl

/-- An event that finds no pointer is reported to nothing. -/
theorem mirror_of_hears (hears : Hears s) (hidle : (s.threads t).begun = false) (hcell : s.cell.isSome = true) :
    s.mirror = true := by
  by_contra hm
  let event : MaterializationEvent := .opening "" .jitCompile
  have ht : (emitting s t event).threads t = ⟨false, emitEvent event :: (s.threads t).jobs⟩ := State.advance_self _
  have hmiss : hookStep (emitting s t event) t = some (((emitting s t event).find t event none).advance t _) :=
    step_of_steps (.miss event _ ht (Bool.eq_false_iff.mpr hm))
  have hfree : MeetsNoWrite t (s.threads t).jobs (emitting s t event) t := by
    refine ⟨fun value rest hwrite => ?_, fun _ hrest => ?_⟩
    · rw [ht] at hwrite
      cases hwrite
    · rw [ht] at hrest
      exact List.cons_ne_self _ _ hrest
  have hlog := hears t event _ _ hidle (Run.cons hfree hmiss .nil) (by rw [State.advance_self])
  have hnone : heard ((((emitting s t event).find t event none).advance t ⟨false, (s.threads t).jobs⟩).log t) =
      (event, none) :: heard (s.log t) := by
    rw [show State.log _ t = (event, none) :: s.log t from Function.update_self .., heard, List.map_cons]
    rfl
  rw [hnone] at hlog
  have hslot : none = s.cell := congrArg Prod.snd (List.cons.inj hlog).1
  rw [← hslot] at hcell
  cases hcell

/-- Different threads do not set and clear the hook. -/
def SameKind (calls : T → List (HookCall H)) : Prop :=
  ∀ t t', t ≠ t' → ∀ hook hook', setKernelMaterializationHook hook ∈ calls t →
    setKernelMaterializationHook hook' ∈ calls t' → hook.isSome = hook'.isSome

/-- No thread clears the hook. -/
def NeverClears (calls : T → List (HookCall H)) : Prop :=
  ∀ t hook, setKernelMaterializationHook hook ∈ calls t → hook.isSome = true

end

/-- **In every interleaving, an event between set calls is reported to the hook that was stored last, exactly when
different threads do not set and clear it.** While no thread clears it, every event from the first finished set call on
is reported to a hook, whatever set calls it meets. -/
theorem hooks_heard_iff {T H : Type} [DecidableEq T] (calls : T → List (HookCall H)) :
    ((∀ trace s, Run hookStep (fun _ _ => True) (hookStart calls) trace s → s.Quiet → Hears s) ↔ SameKind calls) ∧
    (NeverClears calls → ∀ trace s trace' s', Run hookStep (fun _ _ => True) (hookStart calls) trace s →
      s.mirror = true → Run hookStep (fun _ _ => True) s trace' s' → ∀ t, ∃ new, s'.log t = new ++ s.log t ∧
        ∀ entry ∈ heard new, entry.2.isSome = true) := by
  refine ⟨⟨fun hears => ?_, fun hsame => ?_⟩, ?_⟩
  · intro t
    have hunhidden : ∀ trace s, Run hookStep (fun _ _ => True) (hookStart calls) trace s → s.Idle →
        s.cell.isSome = true → s.mirror = true := by
      intro trace s hrun hidle hcell
      exact mirror_of_hears (hears trace s hrun hidle.quiet) (hidle t) hcell
    exact agree_of_unhidden hunhidden t
  · intro trace s hrun hquiet
    apply hears_of_mirror
    exact mirrors_iff.mpr hsame trace s hrun hquiet
  · intro hnever trace s trace' s' hrun hmirror hrun' t
    obtain ⟨new, hnew, hfinds⟩ := reads_find hnever hrun hmirror hrun' t
    refine ⟨new, hnew, fun entry hentry => ?_⟩
    obtain ⟨found, hfound, rfl⟩ := List.mem_map.mp hentry
    obtain ⟨hook, hhook, hsome⟩ := hfinds found hfound
    rw [hhook]
    exact hsome

/-- Two threads, which make these calls. -/
def twoThreads {H : Type} (first second : Option H) : Bool → List (HookCall H)
  | true => [setKernelMaterializationHook first]
  | false => [setKernelMaterializationHook second]

/-- **A thread that clears the hook may leave the hook of another without its pointer.** -/
theorem clear_overtakes_set : ¬ ∀ trace s,
    Run hookStep (fun _ _ => True) (hookStart (twoThreads (some "log") none)) trace s → s.Quiet → Hears s := by
  rw [(hooks_heard_iff _).1]
  intro hsame
  have hkind := hsame true false (by decide) (some "log") none (List.mem_singleton.mpr rfl) (List.mem_singleton.mpr rfl)
  exact absurd hkind (by decide)

end DeepGemmRs.Jit
