import DeepGemmRs.Jit.History

/-!
# What a call makes of the cache it finds

One process, alone in the cache directory, with a compiler and a driver that do what they are asked.
The lookup asks for the file `kernel.cubin`, the rename for an empty place: a directory with files
in it but without the cubin is neither found nor replaced.

* `Prepared` : a call comes to its lookup, with this configuration and this root;
* `Compiles`, `Loads` : it comes to `nvcc`, and to a load; `Succeeding` : these succeed, when it comes to them;
* `Delivers` : a call returns a kernel, its cubin is in the cache, and there is no `tmp`;
* `Repairable`, `Blocked` : the states a call can make something of, and those none can;
* `delivers_iff` : **a call delivers in the former states, and in no others**;
* `blocked_forever` : however often it is repeated, a call that is blocked fails, and stays blocked;
* `leftoverSource_blocked` : a directory that holds `kernel.cu` alone.
-/

namespace DeepGemmRs.Jit

open Checked Dirs Dirs.Store Runs Stateful Stateful.Prog

section

variable {driver : Driver}

/-- The runtime is initialised, and the configuration and the root of the cache are found. -/
structure Prepared (answers : Answers driver) (s : Process driver) (config : CompilerConfig) (root : Path) :
    Prop where
  init : s.isInitialized
  config : s.compilerConfigCache = some config ∨ (s.compilerConfigCache = none ∧
    config.nvcc = nvccPath s.roots answers.toHost ∧ compilerFlags s.roots answers.toHost
      (driver.currentDeviceInfo s.current) config.nvcc = .ok config.flags)
  root : cacheRoot answers.toHost = .ok root

/-- The call comes to run `nvcc`. -/
structure Compiles (answers : Answers driver) (s : Process driver) (request : Request) (root : Path) : Prop where
  miss : s.kernelCache request.key = none
  cubin : hasCubin s.disk (request.dir root) = false
  serves : answers.Serves DiskOp.toNvcc

/-- The call finds the cubin: it has the kernel, or may look for it. -/
structure Finds (answers : Answers driver) (s : Process driver) (request : Request) (root : Path) : Prop where
  cubin : hasCubin s.disk (request.dir root)
  look : s.kernelCache request.key = none → answers.fault .lookUp = none

/-- The call compiles into a place that is free or empty. -/
structure Fills (answers : Answers driver) (s : Process driver) (request : Request) (root : Path) : Prop where
  miss : s.kernelCache request.key = none
  empty : s.disk.Intact (request.dir root) (· = KernelDir.empty)
  serves : answers.Serves DiskOp.toLoad

/-- The call comes to load a cubin. -/
def Loads (answers : Answers driver) (s : Process driver) (request : Request) (root : Path) : Prop :=
  s.kernelCache request.key = none ∧ (Finds answers s request root ∨ Fills answers s request root)

/-- `nvcc` succeeds if the call comes to run it, and the load if it comes to load. -/
structure Succeeding (answers : Answers driver) (name code : String) (s : Process driver) : Prop where
  nvcc : ∀ config root, Prepared answers s config root → Compiles answers s (Request.of name config code) root →
    ∃ output, runCommand answers.toHost (nvccCommand (root.join "tmp")
      ((Request.of name config code).tmp root answers.getpid) config) = .ok (0, output)
  load : ∀ config root, Prepared answers s config root → Loads answers s (Request.of name config code) root →
    ∃ runtime, newKernelRuntime answers s.current
      (((Request.of name config code).dir root).join "kernel.cubin") = .ok runtime

/-- The call returns a kernel; it leaves its cubin in `dir_path`, and no `tmp_dir`. -/
def Delivers (answers : Answers driver) (name code : String) (s : Process driver) : Prop :=
  ∃ runtime u config root, Returns (buildKernel answers name code) s runtime u ∧
    u.compilerConfigCache = some config ∧ cacheRoot answers.toHost = .ok root ∧
    hasCubin u.disk ((Request.of name config code).dir root) ∧
    u.disk.node ((Request.of name config code).tmp root answers.getpid) = none

/-- The call is configured; and the cubin is there, and no `tmp_dir` of an earlier process; or the kernel is to be
compiled, into a place that is free or empty. -/
def Repairable (answers : Answers driver) (name code : String) (s : Process driver) : Prop :=
  ∃ config root, Prepared answers s config root ∧
    (Finds answers s (Request.of name config code) root ∧
        s.disk.node ((Request.of name config code).tmp root answers.getpid) = none ∨
      Fills answers s (Request.of name config code) root)

/-- There are files in the directory, but not the cubin. -/
def Obstructed (disk : Disk) (dir : Path) : Prop :=
  ∃ d, disk.node dir = some d ∧ disk.content d ≠ KernelDir.empty ∧ (disk.content d).cubin = none

/-- The kernel is in no cache, and other files are where its cubin should be. -/
structure Blocked (s : Process driver) (request : Request) (root : Path) : Prop where
  miss : s.kernelCache request.key = none
  full : Obstructed s.disk (request.dir root)

variable {answers : Answers driver} {s t u : Process driver} {config : CompilerConfig} {root : Path}
  {name code : String} {request : Request} {runtime : KernelRuntime driver}

/-- Until its lookup a call remembers the configuration, and changes nothing else. -/
theorem Prepared.prepare (h : Prepared answers s config root) :
    Returns (prepare answers) s (config, root) { s with compilerConfigCache := some config } := by
  refine prepare_of_config h.init ?_ h.root
  rcases h.config with hsome | ⟨hnone, hnvcc, hflags⟩
  · rw [compilerConfig_of_some hsome, ← hsome]
  · exact compilerConfig_of_none hnone hnvcc.symm hflags

theorem Prepared.of_prepare (h : Returns (Jit.prepare answers) s (config, root) t) :
    Prepared answers s config root where
  init := (prepare_returns h).1
  config := compilerConfig_cases (prepare_returns h).2.1
  root := (prepare_returns h).2.2

theorem hasCubin_of_empty {disk : Disk} {dir : Path} (h : disk.Intact dir (· = KernelDir.empty)) :
    hasCubin disk dir = false := by
  rw [hasCubin_eq_false]
  intro d hd
  rw [h d hd]
  rfl

theorem Fills.compiles (h : Fills answers s request root) : Compiles answers s request root where
  miss := h.miss
  cubin := hasCubin_of_empty h.empty
  serves := h.serves.of_toLoad

/-! ## What a call that returns has done -/

/-- It left the disk alone, and had the kernel or found the cubin; or it compiled, into a free or empty place. -/
theorem resume_returns (h : Returns (resume answers name code config root) s runtime u) :
    (u.disk = s.disk ∧ (s.kernelCache (Request.of name config code).key = none →
        Finds answers s (Request.of name config code) root)) ∨
      Fills answers s (Request.of name config code) root := by
  obtain ⟨found, v, hload, h⟩ := returns_bind.mp h
  rcases loadCachedKernel_returns hload with ⟨hfound, rfl, hmiss⟩ | ⟨made, rfl, -, ⟨hlook, hcubin⟩, hstore⟩
  · cases found with
    | some cached =>
      obtain ⟨rfl, rfl⟩ := returns_pure.mp h
      refine .inl ⟨rfl, fun hnone => ?_⟩
      cases hfound.trans hnone
    | none =>
      right
      obtain ⟨hlook, hcubin⟩ := hmiss rfl
      obtain ⟨_, w, hcompile, -⟩ := returns_bind.mp h
      rw [compileKernel_eq] at hcompile
      obtain ⟨_, x, hnvcc, hpublish⟩ := returns_bind.mp hcompile
      obtain ⟨hserves, rfl⟩ := runNvcc_returns hnvcc
      obtain ⟨hparent, hmoved | ⟨-, hgone, hcubin'⟩⟩ := publish_returns hpublish
      · obtain ⟨hrename, hmoved⟩ := renameOrNot_eq_some hmoved
        have hempty := (renameDir_eq_some hmoved).1
        refine ⟨hfound.symm, Intact.of_compiledDisk tmpDir_ne_dirPath.symm hempty, ?_⟩
        intro op hop
        cases op with
        | lookUp => exact hlook
        | createParent => exact hparent
        | rename => exact hrename
        | cleanUp | lookAgain => exact absurd hop (by decide)
        | _ => exact hserves _ (by decide)
      · -- nobody else put the cubin there
        have hnone : w.disk.Intact ((Request.of name config code).dir root) fun dir => dir.cubin = none := by
          rw [hgone]
          exact (intact_compiledDisk tmpDir_ne_dirPath.symm (hasCubin_eq_false.mp hcubin)).remove
        cases hcubin'.symm.trans (hasCubin_eq_false.mpr hnone)
  · obtain ⟨rfl, rfl⟩ := returns_pure.mp h
    obtain ⟨-, rfl⟩ := storeRuntime_returns hstore
    exact .inl ⟨rfl, fun _ => ⟨hcubin, fun _ => hlook⟩⟩

/-- A call that finds its cubin returns a kernel, and leaves the disk alone. -/
theorem Finds.resume (h : Finds answers s (Request.of name config code) root)
    (hload : s.kernelCache (Request.of name config code).key = none → ∃ runtime,
      newKernelRuntime answers s.current (((Request.of name config code).dir root).join "kernel.cubin") = .ok runtime) :
    ∃ runtime u, Returns (Jit.resume answers name code config root) s runtime u ∧ u.disk = s.disk ∧
      u.compilerConfigCache = s.compilerConfigCache := by
  cases hhit : s.kernelCache (Request.of name config code).key with
  | some runtime => exact ⟨runtime, s, resume_of_hit rfl hhit, rfl, rfl⟩
  | none =>
    obtain ⟨runtime, hnew⟩ := hload hhit
    exact ⟨runtime, _, resume_of_disk rfl hhit (h.look hhit) h.cubin hnew, rfl, rfl⟩

/-- A call returns a kernel and leaves its cubin in the cache and no `tmp_dir`, exactly when it comes to its lookup,
and the cubin is there already and no `tmp_dir` is, or the kernel is not in the process, its directory is absent or
empty, and the file system does what the call asks of it. -/
theorem delivers_iff (hok : Succeeding answers name code s) :
    Delivers answers name code s ↔ Repairable answers name code s := by
  constructor
  · rintro ⟨runtime, u, config, root, hreturns, hconfig, hroot, hcubin, htmp⟩
    rw [buildKernel_eq] at hreturns
    obtain ⟨⟨config', root'⟩, t, hprepare, hresume⟩ := returns_bind.mp hreturns
    have hprepared := Prepared.of_prepare hprepare
    obtain rfl := Except.ok.inj (hroot.symm.trans hprepared.root)
    obtain ⟨-, rfl⟩ := Prod.ext_iff.mp (hprepare.symm.trans hprepared.prepare)
    have hkeeps : Keeps (fun t : Process driver => t.compilerConfigCache = some config')
        (resume answers name code config' root) := resume_keeps (fun _ _ h => h) fun _ _ h => h
    obtain rfl := Option.some_inj.mp (hconfig.symm.trans (hkeeps.of_returns hresume rfl))
    refine ⟨config, root, hprepared, ?_⟩
    rcases resume_returns hresume with ⟨hdisk, hfinds⟩ | hfills
    · rw [hdisk] at hcubin htmp
      exact .inl ⟨⟨hcubin, fun hmiss => (hfinds hmiss).look hmiss⟩, htmp⟩
    · exact .inr ⟨hfills.miss, hfills.empty, hfills.serves⟩
  · rintro ⟨config, root, hprepared, hcase⟩
    have hbuild : buildKernel answers name code s = _ := buildKernel_of_prepare hprepared.prepare
    rcases hcase with ⟨hfinds, htmp⟩ | hfills
    · have ht : Finds answers { s with compilerConfigCache := some config } (Request.of name config code) root :=
        ⟨hfinds.cubin, hfinds.look⟩
      obtain ⟨runtime, u, hresume, hdisk, hsame⟩ := ht.resume fun hmiss =>
        hok.load config root hprepared ⟨hmiss, .inl hfinds⟩
      refine ⟨runtime, u, config, root, hbuild.trans hresume, hsame, hprepared.root, ?_, ?_⟩
      · rw [hdisk]
        exact hfinds.cubin
      · rw [hdisk]
        exact htmp
    · obtain ⟨output, hnvcc⟩ := hok.nvcc config root hprepared hfills.compiles
      obtain ⟨runtime, hnew⟩ := hok.load config root hprepared ⟨hfills.miss, .inr hfills⟩
      have hresume := resume_of_compile (s := { s with compilerConfigCache := some config }) rfl hfills.serves hnvcc
        hfills.miss hfills.empty hnew
      refine ⟨runtime, _, config, root, hbuild.trans hresume, rfl, hprepared.root, ?_, ?_⟩
      · exact hasCubin_published
      · exact node_rename_source tmpDir_ne_dirPath

/-! ## Again and again -/

theorem Obstructed.not_empty {disk : Disk} {dir : Path} (h : Obstructed disk dir) :
    ¬ disk.Intact dir (· = KernelDir.empty) := by
  obtain ⟨d, hd, hfull, -⟩ := h
  exact fun hempty => hfull (hempty d hd)

theorem Obstructed.not_cubin {disk : Disk} {dir : Path} (h : Obstructed disk dir) : hasCubin disk dir = false := by
  obtain ⟨d, hd, -, hcubin⟩ := h
  rw [hasCubin_eq_false]
  intro d' hd'
  obtain rfl := Option.some_inj.mp (hd.symm.trans hd')
  exact hcubin

/-- Work in `tmp_dir` leaves other directories. -/
theorem Obstructed.ignores {dir tmp : Path} (hne : dir ≠ tmp) :
    Ignores (fun t : Process driver => Obstructed t.disk dir) tmp where
  remove t h := by
    obtain ⟨d, hd, hfull, hcubin⟩ := h
    exact ⟨d, (node_remove_of_ne hne).trans hd, hfull, hcubin⟩
  create t h := by
    obtain ⟨d, hd, hfull, hcubin⟩ := h
    refine ⟨d, (node_create_of_ne hne).trans hd, ?_, ?_⟩
    · rwa [content_create_of_lt (t.disk.lt_next dir d hd)]
    · rwa [content_create_of_lt (t.disk.lt_next dir d hd)]
  modify t d f h htmp := by
    obtain ⟨e, he, hfull, hcubin⟩ := h
    have hother : e ≠ d := by
      rintro rfl
      exact hne (t.disk.inj _ _ _ he htmp)
    refine ⟨e, he, ?_, ?_⟩
    · rwa [content_modify_of_ne hother]
    · rwa [content_modify_of_ne hother]

/-- Nothing is renamed to such a directory. -/
theorem Obstructed.resume : Keeps (fun t : Process driver => Obstructed t.disk ((Request.of name config code).dir root))
    (Jit.resume answers name code config root) := by
  refine resume_keeps_of_ignores (Obstructed.ignores tmpDir_ne_dirPath.symm) ?_ fun _ _ h => h
  exact fun t h hempty => absurd hempty h.not_empty

/-- **Neither found nor replaced**: the call throws, and is blocked again. -/
theorem Blocked.buildKernel (hprepared : Prepared answers s config root)
    (h : Blocked s (Request.of name config code) root) : ∃ e u,
    Jit.buildKernel answers name code s = (.error e, u) ∧ Blocked u (Request.of name config code) root := by
  have hbuild : Jit.buildKernel answers name code s = _ := buildKernel_of_prepare hprepared.prepare
  rcases hr : Jit.buildKernel answers name code s with ⟨e | runtime, u⟩
  · refine ⟨e, u, rfl, (congrFun (buildKernel_stops hr).1 _).trans h.miss, ?_⟩
    exact Obstructed.resume.of_stops (hbuild.symm.trans hr) h.full
  · rcases resume_returns (hbuild.symm.trans hr) with ⟨-, hfinds⟩ | hfills
    · cases (hfinds h.miss).cubin.symm.trans h.full.not_cubin
    · exact absurd hfills.empty h.full.not_empty

/-- The call is made, and what it returns is forgotten. -/
def repeatCall (name code : String) (s : Process driver) (answers : Answers driver) : Option (Process driver) :=
  some (buildKernel answers name code s).2

/-- After any number of calls that find this configuration and this root, the next one fails as the first did. -/
theorem blocked_forever {calls : List (Answers driver)}
    (hrun : Run (repeatCall name code) (fun s answers => Prepared answers s config root) s calls t)
    (hs : Blocked s (Request.of name config code) root) (hprepared : Prepared answers t config root) :
    ∃ e, (buildKernel answers name code t).1 = .error e := by
  have ht : Blocked t (Request.of name config code) root := by
    apply Run.invariant (P := fun u => Blocked u (Request.of name config code) root) hs ?_ hrun
    intro u answers v hu hprepared hstep
    obtain ⟨e, w, hfails, hw⟩ := hu.buildKernel hprepared
    unfold repeatCall at hstep
    rw [hfails, Option.some_inj] at hstep
    exact hstep ▸ hw
  obtain ⟨e, u, hfails, -⟩ := ht.buildKernel hprepared
  exact ⟨e, by rw [hfails]⟩

/-- What a call says that compiled, and whose clean-up succeeds. -/
theorem Blocked.throws {output : String} (hprepared : Prepared answers s config root)
    (h : Blocked s (Request.of name config code) root) (hserves : ∀ op, answers.fault op = none)
    (hnvcc : runCommand answers.toHost (nvccCommand (root.join "tmp")
      ((Request.of name config code).tmp root answers.getpid) config) = .ok (0, output)) :
    (Jit.buildKernel answers name code s).1 =
      .error (internal ("failed to move compiled kernel into JIT cache: " ++ answers.renameRefused)) := by
  let tmp := (Request.of name config code).tmp root answers.getpid
  let dir := (Request.of name config code).dir root
  have hne : dir ≠ tmp := tmpDir_ne_dirPath.symm
  have hfull : ¬ (compiledDisk tmp s.disk).Intact dir (· = KernelDir.empty) :=
    fun hempty => h.full.not_empty (Intact.of_compiledDisk hne hempty)
  have hcubin : hasCubin (compiledDisk tmp s.disk) dir = false :=
    hasCubin_eq_false.mpr (intact_compiledDisk hne (hasCubin_eq_false.mp h.full.not_cubin))
  have hresume : Jit.resume answers name code config root { s with compilerConfigCache := some config } = _ :=
    resume_of_miss rfl (fun op _ => hserves op) hnvcc h.miss h.full.not_cubin
  rw [buildKernel_of_prepare hprepared.prepare, hresume, bind_apply, publish_of_full hserves hfull hcubin]

end

/-! ## Two directories -/

/-- On a machine that does what it is asked, a call finds its configuration and succeeds in all it attempts. -/
theorem obliging_succeeds : ∃ config, ∀ disk,
    Prepared obliging (obligingProcess disk) config ⟨"/root", [".deepgemm_rs"]⟩ ∧
    Succeeding obliging "kernel" "code" (obligingProcess disk) := by
  obtain ⟨flags, hflags⟩ := obliging_flags
  refine ⟨⟨nvccPath obligingRoots obliging.toHost, flags⟩, fun disk => ⟨?_, ?_⟩⟩
  · exact ⟨rfl, .inr ⟨rfl, rfl, hflags⟩, rfl⟩
  · exact ⟨fun _ _ _ _ => ⟨_, rfl⟩, fun _ _ _ _ => ⟨⟨[()], true⟩, rfl⟩⟩

/-- The cache directory is empty. -/
theorem emptyCache_delivers :
    let s := obligingProcess (Dirs.Store.empty KernelDir.empty)
    Succeeding obliging "kernel" "code" s ∧ Repairable obliging "kernel" "code" s ∧
      (Delivers obliging "kernel" "code" s ↔ Repairable obliging "kernel" "code" s) := by
  obtain ⟨config, hall⟩ := obliging_succeeds
  obtain ⟨hprepared, hok⟩ := hall (Dirs.Store.empty KernelDir.empty)
  refine ⟨hok, ⟨config, _, hprepared, .inr ⟨rfl, intact_of_none rfl, fun _ _ => rfl⟩⟩, delivers_iff hok⟩

/-- An earlier mishap left `kernel.cu` and no `kernel.cubin`. -/
theorem leftoverSource_blocked : ∃ config,
    let root : Path := ⟨"/root", [".deepgemm_rs"]⟩
    let dir := (Request.of "kernel" config "code").dir root
    let s := obligingProcess ((Dirs.Store.empty KernelDir.empty).fresh dir ⟨some .complete, none⟩)
    Prepared obliging s config root ∧ Succeeding obliging "kernel" "code" s ∧
      (buildKernel obliging "kernel" "code" s).1 =
        .error (internal "failed to move compiled kernel into JIT cache: Directory not empty") ∧
      ¬ Delivers obliging "kernel" "code" s := by
  obtain ⟨config, hall⟩ := obliging_succeeds
  let root : Path := ⟨"/root", [".deepgemm_rs"]⟩
  let dir := (Request.of "kernel" config "code").dir root
  let disk : Disk := (Dirs.Store.empty KernelDir.empty).fresh dir ⟨some .complete, none⟩
  obtain ⟨hprepared, hok⟩ := hall disk
  have hblocked : Blocked (obligingProcess disk) (Request.of "kernel" config "code") root := by
    refine ⟨rfl, 0, node_fresh_self, ?_, rfl⟩
    intro hempty
    cases congrArg KernelDir.source hempty
  have hthrows := hblocked.throws hprepared (fun _ => rfl) rfl
  refine ⟨config, hprepared, hok, hthrows, ?_⟩
  rintro ⟨runtime, u, -, -, hreturns, -⟩
  rw [hreturns] at hthrows
  cases hthrows

end DeepGemmRs.Jit
