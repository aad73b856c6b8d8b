import DeepGemmRs.Jit.Build
import DeepGemmRs.Lib.Runs

/-!
# Publishing a kernel

Any number of calls of `build_kernel` for one kernel, by threads of one process or by processes that
share the cache, step by step on the disk.

* `Phase`, `Action`, `act` : where a call is, and its next step on the disk;
* `World`, `World.step` : the calls, interleaved;
* `Complete` : the directory has all of `kernel.cubin`;
* `Effect` : all that a step can do, `act_effect`;
* `Exclusive` : no call begins while another of its process is at work in their `tmp_dir`, or still cleans it up;
* `published_complete_iff` : under `Exclusive`, `dir_path` is complete whenever it exists; all
  interleavings keep it complete exactly when no two calls share a process.

That a call taken alone goes through these steps as `compileKernel` does is `compileKernel_run`.
-/

namespace DeepGemmRs.Jit

open Checked Dirs Dirs.Store Runs Stateful Stateful.Prog

/-- `kernel.cubin` is there, all of it. -/
def Complete (dir : KernelDir) : Prop := dir.cubin = some .complete

/-- `remove_all` on its way: one of the two files is gone. -/
def KernelDir.unlink (dir : KernelDir) : (cubin : Bool) → KernelDir
  | true => { dir with cubin := none }
  | false => { dir with source := none }

/-- The kernel that is built, and the root of the cache. -/
structure Site where
  root : Path
  name : String
  hash : String

/-- `dir_path`. -/
def Site.dir (site : Site) : Path := dirPath site.root site.name site.hash

/-- `tmp_dir` of a process. -/
def Site.tmp (site : Site) (pid : Nat) : Path := tmpDir site.root site.name pid site.hash

/-- Where a call of `build_kernel` is. -/
inductive Phase where
  /-- Before `load_cached_kernel`. -/
  | ready
  | missed
  | removed
  | created
  | written
  /-- `nvcc` has its output open, in this directory. -/
  | compiling (d : Nat)
  | compiled
  /-- `nvcc` failed. -/
  | failing
  | renameFailed
  | cleaned
  | done
  | threw

/-- The steps of a call on the disk. -/
inductive Action where
  | check
  /-- `remove_all` takes one of the files, and is not done. -/
  | unlink (cubin : Bool)
  | removeAll
  | create
  | write
  | startNvcc
  | exitNvcc (ok : Bool)
  | rename
  /-- `rename` fails for a reason of its own. -/
  | renameError
  | cleanUp
  | recheck
  /-- A call into the file system throws. -/
  | throw

/-- The next step of a call. -/
def act (tmp dir : Path) (disk : Disk) : Phase → Action → Option (Phase × Disk)
  | .ready, .check => some (if hasCubin disk dir then .done else .missed, disk)
  | .missed, .unlink cubin => (modifyAt disk tmp (·.unlink cubin)).map (.missed, ·)
  | .missed, .removeAll => some (.removed, disk.remove tmp)
  | .removed, .create => some (.created, disk.create tmp KernelDir.empty)
  | .created, .write =>
    match disk.node tmp with
    | some d => some (.written, disk.modify d KernelDir.writeSource)
    | none => some (.threw, disk)
  | .written, .startNvcc =>
    match disk.node tmp with
    | some d =>
      if (disk.content d).source.isSome then some (.compiling d, disk.modify d KernelDir.openCubin)
      else some (.failing, disk)
    | none => some (.failing, disk)
  | .written, .exitNvcc false => some (.failing, disk)
  | .compiling d, .exitNvcc true => some (.compiled, disk.modify d KernelDir.finishCubin)
  | .compiling _, .exitNvcc false => some (.failing, disk)
  | .compiled, .rename =>
    match renameDir disk tmp dir with
    | some disk => some (.done, disk)
    | none => some (.renameFailed, disk)
  | .compiled, .renameError => some (.renameFailed, disk)
  | .failing, .unlink cubin => (modifyAt disk tmp (·.unlink cubin)).map (.failing, ·)
  | .failing, .cleanUp => some (.threw, disk.remove tmp)
  | .renameFailed, .unlink cubin => (modifyAt disk tmp (·.unlink cubin)).map (.renameFailed, ·)
  | .renameFailed, .cleanUp => some (.cleaned, disk.remove tmp)
  | .cleaned, .recheck => some (if hasCubin disk dir then .done else .threw, disk)
  | .ready, .throw | .missed, .throw | .removed, .throw | .created, .throw | .compiled, .throw | .failing, .throw
  | .renameFailed, .throw | .cleaned, .throw => some (.threw, disk)
  | _, _ => none

/-- The call uses its `tmp_dir`: from `remove_all` to the rename, or to the end of the clean-up when something
fails. -/
def Phase.Working : Phase → Prop
  | removed | created | written | compiling _ | compiled | failing | renameFailed => True
  | _ => False

/-- The call is to remove its `tmp_dir`. -/
def Phase.Removing : Phase → Prop
  | missed | failing | renameFailed => True
  | _ => False

/-- All that a step can do. -/
inductive Effect (tmp dir : Path) (disk : Disk) : Phase → Phase → Disk → Prop
  | still {p q : Phase} (h : ¬ q.Working) : Effect tmp dir disk p q disk
  | fail {p q : Phase} (hp : p.Working) (hq : q.Removing) : Effect tmp dir disk p q disk
  | unlink {p : Phase} {d : Nat} {cubin : Bool} (hp : p.Removing) (hd : disk.node tmp = some d) :
      Effect tmp dir disk p p (disk.modify d (·.unlink cubin))
  | begin : Effect tmp dir disk .missed .removed (disk.remove tmp)
  | cleanUp {p q : Phase} (h : ¬ q.Working) : Effect tmp dir disk p q (disk.remove tmp)
  | create : Effect tmp dir disk .removed .created (disk.create tmp KernelDir.empty)
  | write {d : Nat} (h : disk.node tmp = some d) :
      Effect tmp dir disk .created .written (disk.modify d KernelDir.writeSource)
  | start {d : Nat} (h : disk.node tmp = some d) :
      Effect tmp dir disk .written (.compiling d) (disk.modify d KernelDir.openCubin)
  | finish {d : Nat} : Effect tmp dir disk (.compiling d) .compiled (disk.modify d KernelDir.finishCubin)
  | publish : Effect tmp dir disk .compiled .done (disk.rename tmp dir)

theorem Effect.of_unlink {tmp dir : Path} {disk disk' : Disk} {p q : Phase} {cubin : Bool} (hp : p.Removing)
    (h : (modifyAt disk tmp (·.unlink cubin)).map (p, ·) = some (q, disk')) : Effect tmp dir disk p q disk' := by
  obtain ⟨unlinked, hmodify, hsame⟩ := Option.map_eq_some_iff.mp h
  obtain ⟨d, hd, rfl⟩ := modifyAt_eq_some hmodify
  cases hsame
  exact .unlink hp hd

theorem act_effect {tmp dir : Path} {disk disk' : Disk} {p q : Phase} {a : Action}
    (h : act tmp dir disk p a = some (q, disk')) : Effect tmp dir disk p q disk' := by
  unfold act at h
  split at h
  case h_1 =>
    cases h
    split
    · exact .still id
    · exact .still id
  case h_2 => exact .of_unlink trivial h
  case h_3 =>
    cases h
    exact .begin
  case h_4 =>
    cases h
    exact .create
  case h_5 =>
    split at h <;> cases h
    · exact .write ‹_›
    · exact .still id
  case h_6 =>
    split at h
    · split at h <;> cases h
      · exact .start ‹_›
      · exact .fail trivial trivial
    · cases h
      exact .fail trivial trivial
  case h_7 =>
    cases h
    exact .fail trivial trivial
  case h_8 =>
    cases h
    exact .finish
  case h_9 =>
    cases h
    exact .fail trivial trivial
  case h_10 =>
    cases hr : renameDir disk tmp dir with
    | some moved =>
      rw [hr] at h
      cases h
      rw [(renameDir_eq_some hr).2]
      exact .publish
    | none =>
      rw [hr] at h
      cases h
      exact .fail trivial trivial
  case h_11 =>
    cases h
    exact .fail trivial trivial
  case h_12 => exact .of_unlink trivial h
  case h_13 =>
    cases h
    exact .cleanUp id
  case h_14 => exact .of_unlink trivial h
  case h_15 =>
    cases h
    exact .cleanUp id
  case h_16 =>
    cases h
    split
    · exact .still id
    · exact .still id
  all_goals
    cases h
    try exact .still id

/-! ## The calls together -/

/-- The disk and the calls `B`. -/
structure World (B : Type) where
  disk : Disk
  phase : B → Phase

/-- No call has begun. -/
def World.start {B : Type} (disk : Disk) : World B := ⟨disk, fun _ => .ready⟩

section

variable {B : Type} [DecidableEq B]

/-- `b` is at `q`, the disk is `disk`. -/
def World.advance (w : World B) (b : B) (q : Phase) (disk : Disk) : World B :=
  ⟨disk, Function.update w.phase b q⟩

@[simp] theorem World.disk_advance {w : World B} {b : B} {q : Phase} {disk : Disk} :
    (w.advance b q disk).disk = disk := rfl

@[simp] theorem World.phase_advance_self {w : World B} {b : B} {q : Phase} {disk : Disk} :
    (w.advance b q disk).phase b = q := Function.update_self ..

theorem World.phase_advance_of_ne {w : World B} {b c : B} {q : Phase} {disk : Disk} (h : c ≠ b) :
    (w.advance b q disk).phase c = w.phase c := Function.update_of_ne h ..

@[simp] theorem World.advance_advance {w : World B} {b : B} {p q : Phase} {disk disk' : Disk} :
    (w.advance b p disk).advance b q disk' = w.advance b q disk' := by
  simp [World.advance]

/-- A call takes a step. -/
def World.step (site : Site) (pid : B → Nat) (w : World B) (event : B × Action) : Option (World B) :=
  (act (site.tmp (pid event.1)) site.dir w.disk (w.phase event.1) event.2).map fun result =>
    w.advance event.1 result.1 result.2

/-- A call does not begin to remove `tmp_dir` while another call of its process is at work in it. -/
def Exclusive (pid : B → Nat) (w : World B) (event : B × Action) : Prop :=
  w.phase event.1 = .missed → ∀ c, c ≠ event.1 → pid c = pid event.1 → ¬ (w.phase c).Working

/-- What holds between the calls: `tmp_dir` is private to the one at work in it. -/
structure Private (site : Site) (pid : B → Nat) (w : World B) : Prop where
  published : w.disk.Intact site.dir Complete
  alone : ∀ b c, b ≠ c → pid b = pid c → (w.phase b).Working → ¬ (w.phase c).Working
  /-- The directory `nvcc` writes in is the one at `tmp_dir`, unless that has been removed. -/
  compiling : ∀ b d, w.phase b = .compiling d → ∀ e, w.disk.node (site.tmp (pid b)) = some e → e = d
  compiled : ∀ b, w.phase b = .compiled → w.disk.Intact (site.tmp (pid b)) Complete

variable {site : Site} {pid : B → Nat}

theorem Site.tmp_ne_dir {n : Nat} : site.tmp n ≠ site.dir := tmpDir_ne_dirPath

theorem Site.tmp_inj {m n : Nat} : site.tmp m = site.tmp n ↔ m = n := tmpDir_inj

omit [DecidableEq B] in
theorem Private.start {disk : Disk} (h : disk.Intact site.dir Complete) : Private site pid (World.start disk) where
  published := h
  alone _ _ _ _ h := h.elim
  compiling _ _ h := by cases h
  compiled _ h := by cases h

/-- What a call does to the directory at `tmp_dir`, it does while it is at work, or about to be. -/
theorem Phase.Removing.uses {p : Phase} (h : p.Removing) : p.Working ∨ p = .missed := by
  cases p with
  | missed => exact .inr rfl
  | failing | renameFailed => exact .inl trivial
  | _ => exact h.elim

theorem complete_finishCubin {dir : KernelDir} : Complete dir.finishCubin := rfl

/-- A directory that is none of the call's own stays complete. -/
theorem Effect.intact {tmp dir path : Path} {disk disk' : Disk} {p q : Phase} (h : Effect tmp dir disk p q disk')
    (hi : disk.Intact path Complete) (htmp : p.Working ∨ p = .missed → path ≠ tmp) (hdir : path ≠ dir) :
    disk'.Intact path Complete := by
  cases h with
  | still => exact hi
  | fail => exact hi
  | @unlink _ d _ hp hd =>
    apply hi.modify
    intro hpath
    exact htmp hp.uses (disk.inj _ _ _ hpath hd)
  | begin => exact hi.remove
  | cleanUp => exact hi.remove
  | create => exact hi.create (htmp (.inl trivial))
  | @write d hd =>
    apply hi.modify
    intro hp
    exact htmp (.inl trivial) (disk.inj _ _ _ hp hd)
  | @start d hd =>
    apply hi.modify
    intro hp
    exact htmp (.inl trivial) (disk.inj _ _ _ hp hd)
  | finish => exact hi.modify_of_holds complete_finishCubin
  | publish => exact hi.rename hdir

/-- `dir_path` stays complete when what is renamed to it is complete. -/
theorem Effect.published {tmp dir : Path} {disk disk' : Disk} {p q : Phase} (h : Effect tmp dir disk p q disk')
    (hdir : disk.Intact dir Complete) (hne : dir ≠ tmp) (htmp : p = .compiled → disk.Intact tmp Complete) :
    disk'.Intact dir Complete := by
  cases h with
  | still => exact hdir
  | fail => exact hdir
  | @unlink _ d _ _ hd =>
    apply hdir.modify
    intro hp
    exact hne (disk.inj _ _ _ hp hd)
  | begin => exact hdir.remove
  | cleanUp => exact hdir.remove
  | create => exact hdir.create hne
  | @write d hd =>
    apply hdir.modify
    intro hp
    exact hne (disk.inj _ _ _ hp hd)
  | @start d hd =>
    apply hdir.modify
    intro hp
    exact hne (disk.inj _ _ _ hp hd)
  | finish => exact hdir.modify_of_holds complete_finishCubin
  | publish => exact intact_rename_target (htmp rfl)

/-- `nvcc` opens its output in the directory at `tmp_dir`. -/
theorem Effect.compiling {tmp dir : Path} {disk disk' : Disk} {p : Phase} {d e : Nat}
    (h : Effect tmp dir disk p (.compiling d) disk') (he : disk'.node tmp = some e) : e = d := by
  cases h with
  | still h => exact absurd trivial h
  | fail _ hq => exact hq.elim
  | unlink hp => exact hp.elim
  | cleanUp h => exact absurd trivial h
  | start hd =>
    rw [node_modify, hd, Option.some_inj] at he
    exact he.symm

/-- When `nvcc` is done, the directory at `tmp_dir` is complete if it is the one it wrote in. -/
theorem Effect.compiled {tmp dir : Path} {disk disk' : Disk} {p : Phase}
    (h : Effect tmp dir disk p .compiled disk')
    (hd : ∀ d, p = .compiling d → ∀ e, disk.node tmp = some e → e = d) : disk'.Intact tmp Complete := by
  cases h with
  | still h => exact absurd trivial h
  | fail _ hq => exact hq.elim
  | unlink hp => exact hp.elim
  | cleanUp h => exact absurd trivial h
  | @finish d =>
    intro e he
    rw [node_modify] at he
    rw [hd d rfl e he, content_modify_self]
    exact complete_finishCubin

/-- A path that is neither the call's `tmp_dir` nor `dir_path` names the directory it named, or
none. -/
theorem Effect.node {tmp dir path : Path} {disk disk' : Disk} {p q : Phase} (h : Effect tmp dir disk p q disk')
    (htmp : p.Working ∨ p = .missed → path ≠ tmp) (hdir : path ≠ dir) {e : Nat} (he : disk'.node path = some e) :
    disk.node path = some e := by
  have hremove : (disk.remove tmp).node path = some e → disk.node path = some e := by
    intro he
    rcases eq_or_ne path tmp with rfl | hne
    · rw [node_remove_self] at he
      cases he
    · rwa [node_remove_of_ne hne] at he
  cases h with
  | still => exact he
  | fail => exact he
  | unlink => exact he
  | begin => exact hremove he
  | cleanUp => exact hremove he
  | create => rwa [node_create_of_ne (htmp (.inl trivial))] at he
  | write => exact he
  | start => exact he
  | finish => exact he
  | publish => rwa [node_rename_of_ne (htmp (.inl trivial)) hdir] at he

/-- A call at work was at work before, or has just begun. -/
theorem Effect.working {tmp dir : Path} {disk disk' : Disk} {p q : Phase} (h : Effect tmp dir disk p q disk')
    (hq : q.Working) : p.Working ∨ p = .missed := by
  cases h with
  | still h => exact absurd hq h
  | fail hp => exact .inl hp
  | unlink => exact .inl hq
  | begin => exact .inr rfl
  | cleanUp h => exact absurd hq h
  | create => exact .inl trivial
  | write => exact .inl trivial
  | start => exact .inl trivial
  | finish => exact .inl trivial
  | publish => exact hq.elim

/-- **One step keeps the temporary directories private.** -/
theorem Private.step {w w' : World B} (h : Private site pid w) {event : B × Action}
    (hx : Exclusive pid w event) (hs : World.step site pid w event = some w') : Private site pid w' := by
  obtain ⟨b, a⟩ := event
  obtain ⟨⟨q, disk'⟩, hact, rfl⟩ := Option.map_eq_some_iff.mp hs
  have heff : Effect (site.tmp (pid b)) site.dir w.disk (w.phase b) q disk' := act_effect hact
  -- another call at work has another `tmp_dir`
  have hother : ∀ c, c ≠ b → (w.phase c).Working → (w.phase b).Working ∨ w.phase b = .missed →
      site.tmp (pid c) ≠ site.tmp (pid b) := by
    intro c hc hwc hb heq
    rcases hb with hwb | hmissed
    · exact h.alone c b hc (Site.tmp_inj.mp heq) hwc hwb
    · exact hx hmissed c hc (Site.tmp_inj.mp heq) hwc
  -- a call that is at work afterwards has every other one out of its `tmp_dir`
  have halone : q.Working → ∀ c, c ≠ b → pid c = pid b → ¬ (w.phase c).Working := by
    intro hq c hc hpid hwc
    rcases heff.working hq with hwb | hmissed
    · exact h.alone c b hc hpid hwc hwb
    · exact hx hmissed c hc hpid hwc
  constructor
  · exact heff.published h.published Site.tmp_ne_dir.symm (h.compiled b)
  · intro c c' hne hpid hwc
    rcases eq_or_ne c b with rfl | hcb
    · rw [World.phase_advance_self] at hwc
      rw [World.phase_advance_of_ne hne.symm]
      exact halone hwc c' hne.symm hpid.symm
    rw [World.phase_advance_of_ne hcb] at hwc
    rcases eq_or_ne c' b with rfl | hcb'
    · rw [World.phase_advance_self]
      intro hq
      exact halone hq c hcb hpid hwc
    · rw [World.phase_advance_of_ne hcb']
      exact h.alone c c' hne hpid hwc
  · intro c d hphase e he
    rcases eq_or_ne c b with rfl | hcb
    · rw [World.phase_advance_self] at hphase
      subst hphase
      exact heff.compiling he
    · rw [World.phase_advance_of_ne hcb] at hphase
      have hwc : (w.phase c).Working := by
        rw [hphase]
        trivial
      exact h.compiling c d hphase e (heff.node (hother c hcb hwc) Site.tmp_ne_dir he)
  · intro c hphase
    rcases eq_or_ne c b with rfl | hcb
    · rw [World.phase_advance_self] at hphase
      subst hphase
      exact heff.compiled (h.compiling c)
    · rw [World.phase_advance_of_ne hcb] at hphase
      have hwc : (w.phase c).Working := by
        rw [hphase]
        trivial
      exact heff.intact (h.compiled c hphase) (hother c hcb hwc) Site.tmp_ne_dir

theorem private_of_run {disk : Disk} (hdisk : disk.Intact site.dir Complete) {trace : List (B × Action)}
    {w : World B} (h : Run (World.step site pid) (Exclusive pid) (World.start disk) trace w) : Private site pid w :=
  h.invariant (Private.start hdisk) fun _ _ _ hi hx hs => hi.step hx hs

omit [DecidableEq B] in
/-- Calls of different processes cannot be in each other's way. -/
theorem exclusive_of_injective (hinj : Function.Injective pid) (w : World B) (event : B × Action) :
    Exclusive pid w event := by
  intro _ c hc hpid
  exact absurd (hinj hpid) hc

/-! ## Calls taken apart -/

/-- One call by itself. -/
def solo (tmp dir : Path) (call : Phase × Disk) (a : Action) : Option (Phase × Disk) :=
  act tmp dir call.2 call.1 a

/-- What a call does by itself it can do among others, when they rest. -/
theorem foldlM_step_of_solo {b : B} : ∀ (actions : List Action) {w : World B} {p q : Phase} {disk : Disk},
    w.phase b = p → actions.foldlM (solo (site.tmp (pid b)) site.dir) (p, w.disk) = some (q, disk) →
      (actions.map (b, ·)).foldlM (World.step site pid) w = some (w.advance b q disk) := by
  intro actions
  induction actions with
  | nil =>
    intro w p q disk hp h
    cases h
    rw [World.advance, ← hp, Function.update_eq_self]
    rfl
  | cons a actions ih =>
    intro w p q disk hp h
    rw [List.foldlM_cons] at h
    obtain ⟨⟨p', mid⟩, hact, hrest⟩ := Option.bind_eq_some_iff.mp h
    have hstep : World.step site pid w (b, a) = some (w.advance b p' mid) := by
      show (act _ _ w.disk (w.phase b) a).map _ = _
      rw [hp]
      exact congrArg (Option.map _) hact
    have hnext := ih (w := w.advance b p' mid) World.phase_advance_self hrest
    rw [World.advance_advance] at hnext
    exact foldlM_cons_of hstep hnext

/-- The steps of a call from the missing cubin to the end of `nvcc`. -/
def compileActions : List Action := [.removeAll, .create, .write, .startNvcc, .exitNvcc true]

theorem compileActions_run {tmp dir : Path} {disk : Disk} :
    compileActions.foldlM (solo tmp dir) (.missed, disk) = some (.compiled, compiledDisk tmp disk) := by
  have hnode : ((disk.remove tmp).fresh tmp KernelDir.empty).node tmp = some disk.next := node_fresh_self
  have hcontent : ((disk.remove tmp).fresh tmp KernelDir.empty).content disk.next = KernelDir.empty :=
    content_fresh_next
  have hsource : KernelDir.empty.writeSource.source.isSome = true := rfl
  simp only [compileActions, List.foldlM_cons, List.foldlM_nil, solo, act, Option.bind_eq_bind, Option.bind_some,
    create_of_none node_remove_self, hnode, node_modify, content_modify_self, hcontent, modify_modify, hsource,
    if_true]
  rfl

/-- A call by itself, from an empty cache. -/
theorem publish_run {tmp dir : Path} {disk : Disk} (hnone : disk.node dir = none) (hne : tmp ≠ dir) :
    (Action.check :: (compileActions ++ [.rename])).foldlM (solo tmp dir) (.ready, disk) =
      some (.done, (compiledDisk tmp disk).rename tmp dir) := by
  have hcheck : solo tmp dir (.ready, disk) .check = some (.missed, disk) := by
    simp only [solo, act, hasCubin_of_none hnone, Bool.false_eq_true, if_false]
  have hdir : (compiledDisk tmp disk).node dir = none := by
    rw [node_compiledDisk_of_ne hne.symm]
    exact hnone
  have hrename : solo tmp dir (.compiled, compiledDisk tmp disk) .rename =
      some (.done, (compiledDisk tmp disk).rename tmp dir) := by
    simp only [solo, act, renameDir_of_none node_compiledDisk_self hdir]
  apply foldlM_cons_of hcheck
  apply foldlM_append_of compileActions_run
  exact foldlM_cons_of hrename rfl

section

variable {driver : Driver} {answers : Answers driver} {s t : Process driver} {u : Unit}

/-- The end of a call whose rename failed, when the cubin is there already. -/
theorem failedRename_run {tmp dir : Path} {disk : Disk} {a : Action}
    (ha : solo tmp dir (.compiled, compiledDisk tmp disk) a = some (.renameFailed, compiledDisk tmp disk))
    (hcubin : hasCubin ((compiledDisk tmp disk).remove tmp) dir) :
    (compileActions ++ [a, .cleanUp, .recheck]).foldlM (solo tmp dir) (.missed, disk) =
      some (.done, (compiledDisk tmp disk).remove tmp) := by
  apply foldlM_append_of compileActions_run
  apply foldlM_cons_of ha
  apply foldlM_cons_of rfl
  apply foldlM_cons_of _ rfl
  simp only [solo, act, hcubin, if_true]

/-- The disk after a call that compiled: the compiled directory renamed, or given up for the one that is
there. -/
theorem compileKernel_returns {config : CompilerConfig}
    (h : Returns (compileKernel answers site.root site.name config site.hash) s u t) :
    renameOrNot answers (compiledDisk (site.tmp answers.getpid) s.disk) (site.tmp answers.getpid) site.dir =
        some t.disk ∨
      renameOrNot answers (compiledDisk (site.tmp answers.getpid) s.disk) (site.tmp answers.getpid) site.dir =
          none ∧
        t.disk = (compiledDisk (site.tmp answers.getpid) s.disk).remove (site.tmp answers.getpid) ∧
          hasCubin t.disk site.dir := by
  rw [compileKernel_eq] at h
  obtain ⟨_, _, hnvcc, h⟩ := returns_bind.mp h
  obtain ⟨-, rfl⟩ := runNvcc_returns hnvcc
  exact (publish_returns h).2

/-- **`compileKernel` is a call by itself**: when it returns, the steps of the interleaved model lead from
the disk it found to the disk it left. -/
theorem compileKernel_run {config : CompilerConfig}
    (h : Returns (compileKernel answers site.root site.name config site.hash) s u t) :
    ∃ actions : List Action, actions.foldlM (solo (site.tmp answers.getpid) site.dir) (.missed, s.disk) =
      some (.done, t.disk) := by
  have hret := compileKernel_returns h
  unfold renameOrNot at hret
  cases hf : answers.fault .rename with
  | some message =>
    rw [hf] at hret
    obtain hr | ⟨-, hdisk, hcubin⟩ := hret
    · cases hr
    rw [hdisk] at hcubin ⊢
    exact ⟨compileActions ++ [.renameError, .cleanUp, .recheck], failedRename_run rfl hcubin⟩
  | none =>
    rw [hf] at hret
    obtain hr | ⟨hr, hdisk, hcubin⟩ := hret
    · refine ⟨compileActions ++ [.rename], foldlM_append_of compileActions_run (foldlM_cons_of ?_ rfl)⟩
      simp only [solo, act, hr]
    · rw [hdisk] at hcubin ⊢
      refine ⟨compileActions ++ [.rename, .cleanUp, .recheck], failedRename_run ?_ hcubin⟩
      simp only [solo, act, hr]

end

/-! ## Two calls of one process -/

/-- The first call compiles; the second begins in the same `tmp_dir`; the first renames it. -/
def collideTrace (b c : B) : List (B × Action) :=
  (Action.check :: compileActions).map (b, ·) ++ ([Action.check, .removeAll, .create].map (c, ·) ++ [(b, .rename)])

/-- An empty directory is published. -/
theorem collideTrace_run {b c : B} (hne : b ≠ c) (hpid : pid b = pid c) {disk : Disk}
    (hnone : disk.node site.dir = none) : ∃ w d,
      (collideTrace b c).foldlM (World.step site pid) (World.start disk) = some w ∧
        w.disk.node site.dir = some d ∧ w.disk.content d = KernelDir.empty := by
  let tmp := site.tmp (pid b)
  let compiled := compiledDisk tmp disk
  have hdir : compiled.node site.dir = none := by
    rw [← hnone]
    exact node_compiledDisk_of_ne Site.tmp_ne_dir.symm
  have hfirst : (Action.check :: compileActions).foldlM (solo tmp site.dir) (.ready, disk) =
      some (.compiled, compiled) := by
    apply foldlM_cons_of _ compileActions_run
    simp only [solo, act, hasCubin_of_none hnone, Bool.false_eq_true, if_false]
  have hsecond : [Action.check, .removeAll, .create].foldlM (solo tmp site.dir) (.ready, compiled) =
      some (.created, (compiled.remove tmp).fresh tmp KernelDir.empty) := by
    simp only [List.foldlM_cons, List.foldlM_nil, solo, act, hasCubin_of_none hdir, Bool.false_eq_true, if_false,
      Option.bind_eq_bind, Option.bind_some, create_of_none node_remove_self]
    rfl
  let before : World B := (World.start disk).advance b .compiled compiled
  let created : World B := before.advance c .created ((compiled.remove tmp).fresh tmp KernelDir.empty)
  have hnode : created.disk.node tmp = some compiled.next := node_fresh_self
  have hfree : created.disk.node site.dir = none := by
    show ((compiled.remove tmp).fresh tmp KernelDir.empty).node site.dir = none
    rw [node_fresh_of_ne Site.tmp_ne_dir.symm, node_remove_of_ne Site.tmp_ne_dir.symm]
    exact hdir
  have hready : before.phase c = .ready := World.phase_advance_of_ne hne.symm
  have hcompiled : created.phase b = .compiled :=
    (World.phase_advance_of_ne hne).trans World.phase_advance_self
  have hthird : World.step site pid created (b, .rename) =
      some (created.advance b .done (created.disk.rename tmp site.dir)) := by
    unfold World.step
    simp only [hcompiled, act]
    rw [renameDir_of_none hnode hfree]
    rfl
  have hothers : ([Action.check, .removeAll, .create].map (c, ·)).foldlM (World.step site pid) before = some created := by
    apply foldlM_step_of_solo _ hready
    rw [← hpid]
    exact hsecond
  refine ⟨created.advance b .done (created.disk.rename tmp site.dir), compiled.next, ?_, ?_, ?_⟩
  · apply foldlM_append_of (foldlM_step_of_solo _ rfl hfirst)
    apply foldlM_append_of hothers
    exact foldlM_cons_of hthird rfl
  · rw [World.disk_advance, node_rename_target]
    exact hnode
  · show ((compiled.remove tmp).fresh tmp KernelDir.empty).content compiled.next = _
    exact content_fresh_next

/-- **Whenever `dir_path` exists its cubin is complete**: in runs in which no call begins while another of
its process is at work in their `tmp_dir`, and, from an empty cache, in all runs exactly when no two
calls share a process. -/
theorem published_complete_iff :
    (∀ (disk : Disk) (trace : List (B × Action)) (w : World B), disk.Intact site.dir Complete →
      Run (World.step site pid) (Exclusive pid) (World.start disk) trace w → w.disk.Intact site.dir Complete) ∧
    ∀ disk : Disk, disk.node site.dir = none →
      ((∀ (trace : List (B × Action)) (w : World B),
          Run (World.step site pid) (fun _ _ => True) (World.start disk) trace w → w.disk.Intact site.dir Complete) ↔
        Function.Injective pid) := by
  refine ⟨fun disk trace w hdisk h => (private_of_run hdisk h).published, fun disk hnone => ⟨?_, ?_⟩⟩
  · intro hall b c hpid
    by_contra hne
    obtain ⟨w, d, hrun, hd, hempty⟩ := collideTrace_run hne hpid hnone
    have hcomplete : Complete (w.disk.content d) := hall _ w (run_of_foldlM hrun) d hd
    rw [hempty] at hcomplete
    cases hcomplete
  · intro hinj trace w h
    have hx := h.mono fun w event _ => exclusive_of_injective hinj w event
    exact (private_of_run (intact_of_none hnone) hx).published

end

/-- Two threads of one process: the directory that is published is empty. -/
theorem threads_publish_empty : ∃ (site : Site) (disk : Disk) (trace : List (Bool × Action)) (w : World Bool),
    disk.node site.dir = none ∧ Run (World.step site fun _ => 1) (fun _ _ => True) (World.start disk) trace w ∧
      ∃ d, w.disk.node site.dir = some d ∧ (w.disk.content d).cubin = none := by
  let site : Site := ⟨⟨"/root", [".deepgemm_rs"]⟩, "kernel", "0"⟩
  have hnone : (Store.empty KernelDir.empty : Disk).node site.dir = none := rfl
  obtain ⟨w, d, hrun, hd, hempty⟩ := @collideTrace_run Bool _ site (fun _ => 1) true false nofun rfl _ hnone
  exact ⟨site, _, _, w, hnone, run_of_foldlM hrun, d, hd, by rw [hempty]; rfl⟩

/-- Two processes: what the first one publishes is complete, and no interleaving spoils it. -/
theorem processes_publish_complete : ∃ (site : Site) (disk : Disk) (trace : List (Bool × Action)) (w : World Bool),
    Run (World.step site Bool.toNat) (Exclusive Bool.toNat) (World.start disk) trace w ∧
      (w.disk.node site.dir).isSome ∧ w.disk.Intact site.dir Complete ∧
        ((∀ (trace : List (Bool × Action)) (w : World Bool),
          Run (World.step site Bool.toNat) (fun _ _ => True) (World.start disk) trace w →
            w.disk.Intact site.dir Complete) ↔ Function.Injective Bool.toNat) := by
  let site : Site := ⟨⟨"/root", [".deepgemm_rs"]⟩, "kernel", "0"⟩
  let disk : Disk := Store.empty KernelDir.empty
  have hinj : Function.Injective Bool.toNat := by
    intro b c h
    cases b <;> cases c <;> first | rfl | cases h
  have hpublish := @foldlM_step_of_solo Bool _ site Bool.toNat true (Action.check :: (compileActions ++ [.rename]))
    (World.start disk) _ _ _ rfl (publish_run rfl Site.tmp_ne_dir)
  have hrun := (run_of_foldlM hpublish).mono fun w event _ => exclusive_of_injective hinj w event
  refine ⟨site, disk, _, _, hrun, ?_, published_complete_iff.1 disk _ _ (intact_of_none rfl) hrun,
    published_complete_iff.2 disk rfl⟩
  rw [World.disk_advance, node_rename_target, node_compiledDisk_self]
  rfl

end DeepGemmRs.Jit
