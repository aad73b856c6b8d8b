import DeepGemmRs.Jit.Build
import DeepGemmRs.Lib.Runs

/-!
# The kernel cache over context switches

Runs of a process: `runtime_init`, changes of the current context, changes of the disk by others, and
calls of `build_kernel`.

* `Event`, `Session`, `Session.step` : a run, with a log of the calls that returned;
* `Call.Owned` : the handle a call returned belongs to the context that was current;
* `owned_iff` : in a run every call is `Owned` exactly when no two calls with one cache key were made
  under two contexts;
* `switched_not_owned` : a run that breaks it, two calls with a context switch between them.
-/

namespace DeepGemmRs.Jit

open Checked Dirs Dirs.Store Runs Stateful Stateful.Prog

inductive Event (driver : Driver) where
  /-- `cuCtxSetCurrent`, or anything else that changes the current context. -/
  | setCurrent (current : Option driver.Context)
  | init (host : Host) (deepgemmRoot cudaHome : String)
  /-- Other processes work in the cache directory. -/
  | changeDisk (disk : Disk)
  | build (answers : Answers driver) (name code : String)

/-- A call of `build_kernel` that returned. -/
structure Call (driver : Driver) where
  /-- The context current at the call. -/
  current : Option driver.Context
  name : String
  code : String
  /-- The compiler configuration in use. -/
  config : Option CompilerConfig
  runtime : KernelRuntime driver

structure Session (driver : Driver) where
  process : Process driver
  log : List (Call driver)

section

variable {driver : Driver}

/-- The key of the call in the cache. -/
def Call.key (call : Call driver) : Option String :=
  call.config.map fun config => cacheKey call.name config call.code

/-- The handle belongs to the context that was current. -/
def Call.Owned (call : Call driver) : Prop := call.current = some (driver.owner call.runtime.kernel)

/-- A process that has done nothing yet. -/
def Session.start (disk : Disk) : Session driver where
  process := ⟨Roots.empty, none, fun _ => none, none, disk⟩
  log := []

/-- The log after a call of `build_kernel`. -/
def Session.record (session : Session driver) (name code : String)
    (result : Except Stop (KernelRuntime driver) × Process driver) : Session driver where
  process := result.2
  log := match result.1 with
    | .ok runtime =>
      ⟨session.process.current, name, code, result.2.compilerConfigCache, runtime⟩ :: session.log
    | .error _ => session.log

def Session.step (session : Session driver) : Event driver → Option (Session driver)
  | .setCurrent current => some { session with process := { session.process with current } }
  | .init host deepgemmRoot cudaHome =>
    match runtimeInit host deepgemmRoot cudaHome with
    | .ok roots => some { session with process := { session.process with roots, compilerConfigCache := none } }
    | .error _ => some session
  | .changeDisk disk => some { session with process := { session.process with disk } }
  | .build answers name code => some (session.record name code (buildKernel answers name code session.process))

/-- What a session keeps: a logged call's runtime is the cached one, and one of the calls with its
key made it. -/
structure Consistent (session : Session driver) : Prop where
  cached : ∀ call ∈ session.log, ∃ key, call.key = some key ∧
    session.process.kernelCache key = some call.runtime
  made : ∀ key runtime, session.process.kernelCache key = some runtime →
    ∃ call ∈ session.log, call.key = some key ∧ call.runtime = runtime ∧ call.Owned

theorem Consistent.start {disk : Disk} : Consistent (Session.start disk : Session driver) where
  cached _ h := by cases h
  made _ _ h := by cases h

/-- A step that leaves the kernel cache and the log alone. -/
theorem Consistent.of_same {s t : Session driver} (h : Consistent s)
    (hcache : t.process.kernelCache = s.process.kernelCache) (hlog : t.log = s.log) : Consistent t where
  cached := by
    rw [hcache, hlog]
    exact h.cached
  made := by
    rw [hcache, hlog]
    exact h.made

/-- A call that returned. -/
theorem Consistent.build {s : Session driver} (h : Consistent s) {answers : Answers driver} {name code : String}
    {runtime : KernelRuntime driver} {t : Process driver}
    (hr : Returns (buildKernel answers name code) s.process runtime t) :
    Consistent ⟨t, ⟨s.process.current, name, code, t.compilerConfigCache, runtime⟩ :: s.log⟩ := by
  obtain ⟨config, hconfig, hbuilt⟩ := buildKernel_returns hr
  have hkey : (Call.mk s.process.current name code t.compilerConfigCache runtime).key =
      some (cacheKey name config code) := by
    rw [hconfig]
    rfl
  rcases hbuilt.source with ⟨hhit, hsame⟩ | ⟨hmiss, howner, hstore⟩
  · constructor
    · intro call hcall
      rw [hsame]
      rcases List.mem_cons.mp hcall with rfl | hcall
      · exact ⟨_, hkey, hhit⟩
      · exact h.cached call hcall
    · intro key runtime' hk
      rw [hsame] at hk
      obtain ⟨call, hcall, hrest⟩ := h.made key runtime' hk
      exact ⟨call, List.mem_cons_of_mem _ hcall, hrest⟩
  · constructor
    · intro call hcall
      rw [hstore]
      rcases List.mem_cons.mp hcall with rfl | hcall
      · exact ⟨_, hkey, Function.update_self ..⟩
      · obtain ⟨key, hk, hc⟩ := h.cached call hcall
        have hne : key ≠ cacheKey name config code := by
          rintro rfl
          rw [hmiss] at hc
          cases hc
        exact ⟨key, hk, by rw [Function.update_of_ne hne]; exact hc⟩
    · intro key runtime' hk
      rw [hstore] at hk
      by_cases he : key = cacheKey name config code
      · rw [he, Function.update_self, Option.some_inj] at hk
        exact ⟨_, List.mem_cons_self, he ▸ hkey, hk, howner⟩
      · rw [Function.update_of_ne he] at hk
        obtain ⟨call, hcall, hrest⟩ := h.made key runtime' hk
        exact ⟨call, List.mem_cons_of_mem _ hcall, hrest⟩

/-- Each step keeps a session consistent. -/
theorem Consistent.step {s t : Session driver} (h : Consistent s) {event : Event driver}
    (hs : s.step event = some t) : Consistent t := by
  cases event with
  | setCurrent current =>
    cases hs
    exact h.of_same rfl rfl
  | changeDisk disk =>
    cases hs
    exact h.of_same rfl rfl
  | init host deepgemmRoot cudaHome =>
    simp only [Session.step] at hs
    split at hs <;> cases hs
    · exact h.of_same rfl rfl
    · exact h
  | build answers name code =>
    simp only [Session.step, Option.some_inj] at hs
    subst hs
    rcases hr : buildKernel answers name code s.process with ⟨e | runtime, u⟩
    · exact h.of_same (buildKernel_stops hr).1 rfl
    · exact h.build hr

theorem consistent_of_run {disk : Disk} {trace : List (Event driver)} {s : Session driver}
    (h : Run Session.step (fun _ _ => True) (Session.start disk) trace s) : Consistent s :=
  h.invariant Consistent.start fun _ _ _ ht _ hs => ht.step hs

/-- **The handles of a run** belong to the contexts they are returned under exactly when no cache key
is asked for under two contexts. -/
theorem owned_iff {disk : Disk} {trace : List (Event driver)} {s : Session driver}
    (h : Run Session.step (fun _ _ => True) (Session.start disk) trace s) :
    (∀ call ∈ s.log, call.Owned) ↔
      ∀ call ∈ s.log, ∀ call' ∈ s.log, call.key = call'.key → call.current = call'.current := by
  have hc := consistent_of_run h
  constructor
  · intro hall call hcall call' hcall' hkey
    obtain ⟨key, hk, hr⟩ := hc.cached call hcall
    obtain ⟨key', hk', hr'⟩ := hc.cached call' hcall'
    rw [hk, hk', Option.some_inj] at hkey
    rw [hkey, hr', Option.some_inj] at hr
    have howned : call.current = some (driver.owner call.runtime.kernel) := hall call hcall
    have howned' : call'.current = some (driver.owner call'.runtime.kernel) := hall call' hcall'
    rw [howned, howned', hr]
  · intro hall call hcall
    obtain ⟨key, hk, hr⟩ := hc.cached call hcall
    obtain ⟨maker, hmaker, hk', hruntime, howned⟩ := hc.made key call.runtime hr
    have hcurrent := hall call hcall maker hmaker (hk.trans hk'.symm)
    unfold Call.Owned at howned ⊢
    rw [hcurrent, howned, hruntime]

end

/-! ## Two calls and a switch -/

section

variable {driver : Driver} {answers : Answers driver} {s : Process driver} {config : CompilerConfig} {root : Path}
  {name code : String} {runtime : KernelRuntime driver}

theorem compilerConfig_of_none (hnone : s.compilerConfigCache = none)
    (hnvcc : nvccPath s.roots answers.toHost = config.nvcc)
    (hflags : compilerFlags s.roots answers.toHost (driver.currentDeviceInfo s.current) config.nvcc =
      .ok config.flags) :
    compilerConfig answers s = (.ok config, { s with compilerConfigCache := some config }) := by
  unfold compilerConfig
  simp only [bind_apply, Prog.get, hnone, lift, Prog.modify, hnvcc, hflags]
  rfl

theorem compilerConfig_of_some (hsome : s.compilerConfigCache = some config) :
    compilerConfig answers s = (.ok config, s) := by
  unfold compilerConfig
  simp only [bind_apply, Prog.get, hsome]
  rfl

theorem prepare_of_config {t : Process driver} (hinit : s.isInitialized)
    (hconfig : compilerConfig answers s = (.ok config, t)) (hroot : cacheRoot answers.toHost = .ok root) :
    Returns (prepare answers) s (config, root) t := by
  unfold prepare Returns
  rw [bind_of_returns (show Returns get s s s from rfl), throwIf_neg (not_not.mpr hinit),
    bind_of_returns (show Returns (lift (.ok ())) s () s from rfl), bind_of_returns hconfig, hroot]
  rfl

/-- A lookup that finds the key in the cache. -/
theorem resume_of_hit {key : String} (hkey : cacheKey name config code = key)
    (hhit : s.kernelCache key = some runtime) : Returns (resume answers name code config root) s runtime s := by
  subst hkey
  unfold resume loadCachedKernel Returns
  simp only [bind_apply, Prog.get, hhit]
  rfl

/-- A lookup that finds the cubin on the disk. -/
theorem resume_of_disk {key : String} (hkey : cacheKey name config code = key) (hmiss : s.kernelCache key = none)
    (hlook : answers.fault .lookUp = none)
    (hcubin : hasCubin s.disk (dirPath root name (cacheHash key)))
    (hnew : newKernelRuntime answers s.current ((dirPath root name (cacheHash key)).join "kernel.cubin") =
      .ok runtime) :
    Returns (resume answers name code config root) s runtime
      { s with kernelCache := Function.update s.kernelCache key (some runtime) } := by
  subst hkey
  have hload : Returns (loadCachedKernel answers (cacheKey name config code)
      (dirPath root name (cacheHash (cacheKey name config code)))) s (some runtime)
      { s with kernelCache := Function.update s.kernelCache (cacheKey name config code) (some runtime) } := by
    unfold loadCachedKernel storeRuntime Returns
    rw [bind_of_returns (show Returns get s s s from rfl), hmiss]
    simp only
    rw [bind_of_returns (diskCall_id_of_none hlook)]
    simp only [hcubin, if_true, bind_assoc]
    rw [bind_of_returns (show Returns get _ _ _ from rfl), hnew]
    rfl
  rw [resume, Returns, bind_of_returns hload]
  rfl

/-- A lookup that finds neither; `nvcc` is run and succeeds. -/
theorem resume_of_miss {key output : String} (hkey : cacheKey name config code = key)
    (hserves : answers.Serves DiskOp.toNvcc)
    (hnvcc : runCommand answers.toHost
      (nvccCommand (root.join "tmp") (tmpDir root name answers.getpid (cacheHash key)) config) = .ok (0, output))
    (hmiss : s.kernelCache key = none) (hcubin : hasCubin s.disk (dirPath root name (cacheHash key)) = false) :
    resume answers name code config root s =
      (publish answers root name (cacheHash key) >>= fun _ =>
        storeRuntime answers key (dirPath root name (cacheHash key)))
        { s with disk := compiledDisk (tmpDir root name answers.getpid (cacheHash key)) s.disk } := by
  subst hkey
  have hload : Returns (loadCachedKernel answers (cacheKey name config code)
      (dirPath root name (cacheHash (cacheKey name config code)))) s none s := by
    unfold loadCachedKernel Returns
    rw [bind_of_returns (show Returns get s s s from rfl), hmiss]
    simp only
    rw [bind_of_returns (diskCall_id_of_none (hserves .lookUp (by decide)))]
    simp only [hcubin, Bool.false_eq_true, if_false]
    rfl
  rw [resume, bind_of_returns hload, compileKernel_eq]
  simp only [bind_assoc]
  rw [bind_of_returns (runNvcc_of_serves hserves hnvcc)]

/-- A call that compiles into an empty place, and whose library loads. -/
theorem resume_of_compile {key output : String} (hkey : cacheKey name config code = key)
    (hserves : answers.Serves DiskOp.toLoad)
    (hnvcc : runCommand answers.toHost
      (nvccCommand (root.join "tmp") (tmpDir root name answers.getpid (cacheHash key)) config) = .ok (0, output))
    (hmiss : s.kernelCache key = none)
    (hempty : s.disk.Intact (dirPath root name (cacheHash key)) (· = KernelDir.empty))
    (hnew : newKernelRuntime answers s.current ((dirPath root name (cacheHash key)).join "kernel.cubin") =
      .ok runtime) :
    Returns (resume answers name code config root) s runtime { s with
      kernelCache := Function.update s.kernelCache key (some runtime)
      disk := (compiledDisk (tmpDir root name answers.getpid (cacheHash key)) s.disk).rename
        (tmpDir root name answers.getpid (cacheHash key)) (dirPath root name (cacheHash key)) } := by
  have hcubin : hasCubin s.disk (dirPath root name (cacheHash key)) = false := by
    rw [hasCubin_eq_false]
    intro d hd
    rw [hempty d hd]
    rfl
  unfold Returns
  rw [resume_of_miss hkey hserves.of_toLoad hnvcc hmiss hcubin,
    bind_of_returns (publish_of_serves hserves node_compiledDisk_self
      (intact_compiledDisk tmpDir_ne_dirPath.symm hempty)), storeRuntime,
    bind_of_returns (show Returns get _ _ _ from rfl), hnew]
  rfl

/-- A call that finds its cubin on the disk. -/
theorem buildKernel_of_disk {key : String} (hkey : cacheKey name config code = key) {t : Process driver}
    (hinit : s.isInitialized) (hconfig : compilerConfig answers s = (.ok config, t))
    (hroot : cacheRoot answers.toHost = .ok root) (hmiss : t.kernelCache key = none)
    (hlook : answers.fault .lookUp = none) (hcubin : hasCubin t.disk (dirPath root name (cacheHash key)))
    (hnew : newKernelRuntime answers t.current ((dirPath root name (cacheHash key)).join "kernel.cubin") =
      .ok runtime) :
    buildKernel answers name code s =
      (.ok runtime, { t with kernelCache := Function.update t.kernelCache key (some runtime) }) := by
  rw [buildKernel_of_prepare (prepare_of_config hinit hconfig hroot)]
  exact resume_of_disk hkey hmiss hlook hcubin hnew

/-- A call that compiles, and whose library loads. -/
theorem buildKernel_of_compile {t : Process driver} {key output : String}
    (hkey : cacheKey name config code = key) (hinit : s.isInitialized) (hconfig : compilerConfig answers s = (.ok config, t))
    (hroot : cacheRoot answers.toHost = .ok root) (hserves : answers.Serves DiskOp.toLoad)
    (hnvcc : runCommand answers.toHost
      (nvccCommand (root.join "tmp") (tmpDir root name answers.getpid (cacheHash key)) config) = .ok (0, output))
    (hmiss : t.kernelCache key = none) (hnone : t.disk.node (dirPath root name (cacheHash key)) = none)
    (hnew : newKernelRuntime answers t.current ((dirPath root name (cacheHash key)).join "kernel.cubin") =
      .ok runtime) :
    buildKernel answers name code s = (.ok runtime, { t with
      kernelCache := Function.update t.kernelCache key (some runtime)
      disk := (compiledDisk (tmpDir root name answers.getpid (cacheHash key)) t.disk).rename
        (tmpDir root name answers.getpid (cacheHash key)) (dirPath root name (cacheHash key)) }) := by
  rw [buildKernel_of_prepare (prepare_of_config hinit hconfig hroot)]
  exact resume_of_compile hkey hserves hnvcc hmiss (intact_of_none hnone) hnew

/-- A call that finds its key in the cache. -/
theorem buildKernel_of_hit {key : String} (hkey : cacheKey name config code = key) (hinit : s.isInitialized)
    (hconfig : s.compilerConfigCache = some config) (hroot : cacheRoot answers.toHost = .ok root)
    (hhit : s.kernelCache key = some runtime) : buildKernel answers name code s = (.ok runtime, s) := by
  rw [buildKernel_of_prepare (prepare_of_config hinit (compilerConfig_of_some hconfig) hroot)]
  exact resume_of_hit hkey hhit

end

/-- Two H100s with a context each. -/
def twoDevices : Driver where
  Context := Bool
  Kernel := Unit
  Function := Bool
  currentDeviceInfo _ := .ok h100
  getFunction current _ :=
    match current with
    | some context => .ok context
    | none => .error (.status .cudaError "cuKernelGetFunction failed")
  owner := id
  getFunction_owner current _ function h := by
    cases current with
    | none => cases h
    | some context =>
      cases h
      rfl

/-- A machine on which everything succeeds. -/
def obliging : Answers twoDevices where
  getenv name := if name = "HOME" then some "/root" else none
  getpid := 1
  fileExists _ := true
  weaklyCanonical path := path
  runCommand _ := some (0, "release 12.9")
  fault _ := none
  renameRefused := "Directory not empty"
  loadLibrary _ := .ok [()]

def obligingRoots : Roots :=
  ⟨"/dg", "/cuda", "/dg/deep_gemm/include", "/dg/third-party/cutlass/include",
    "/dg/third-party/cutlass/tools/util/include"⟩

theorem isInitialized_of_roots {driver : Driver} {process : Process driver} (h : process.roots = obligingRoots) :
    process.isInitialized := by
  unfold Process.isInitialized
  rw [h]
  rfl

theorem obliging_init : runtimeInit obliging.toHost "/dg" "/cuda" = .ok obligingRoots := by
  rfl

theorem obliging_version (nvcc : Path) : nvccVersion obliging.toHost nvcc = .ok (12, 9) := by
  rfl

theorem obliging_flags : ∃ flags, compilerFlags obligingRoots obliging.toHost (.ok h100)
    (nvccPath obligingRoots obliging.toHost) = .ok flags := by
  unfold compilerFlags
  rw [obliging_version]
  exact ⟨_, rfl⟩

/-- Initialise, build under the first context, switch, build the same kernel under the second. -/
def switchTrace (first second : Bool) : List (Event twoDevices) :=
  [.init obliging.toHost "/dg" "/cuda", .setCurrent (some first), .build obliging "kernel" "code",
    .setCurrent (some second), .build obliging "kernel" "code"]

/-- Both calls return the handle of the first context. -/
theorem switchTrace_run (first second : Bool) : ∃ disk s config,
    Run Session.step (fun _ _ => True) (Session.start disk) (switchTrace first second) s ∧
      s.log = [⟨some second, "kernel", "code", some config, ⟨[()], first⟩⟩,
        ⟨some first, "kernel", "code", some config, ⟨[()], first⟩⟩] := by
  obtain ⟨flags, hflags⟩ := obliging_flags
  let config : CompilerConfig := ⟨nvccPath obligingRoots obliging.toHost, flags⟩
  obtain ⟨key, hkey⟩ : ∃ key, cacheKey "kernel" config "code" = key := ⟨_, rfl⟩
  let root : Path := ⟨"/root", [".deepgemm_rs"]⟩
  let dir := dirPath root "kernel" (cacheHash key)
  let disk : Disk := (Dirs.Store.empty KernelDir.empty).fresh dir ⟨some .complete, some .complete⟩
  have hroot : cacheRoot obliging.toHost = .ok root := rfl
  have hinit : ∀ config cache current,
      (⟨obligingRoots, config, cache, current, disk⟩ : Process twoDevices).isInitialized := fun _ _ _ => rfl
  have hcubin : hasCubin disk dir := by
    simp [hasCubin, disk]
  let cache : String → Option (KernelRuntime twoDevices) :=
    Function.update (fun _ => none) key (some ⟨[()], first⟩)
  have hhit : cache key = some ⟨[()], first⟩ := Function.update_self ..
  let built : Process twoDevices := ⟨obligingRoots, some config, cache, some first, disk⟩
  have h1 : buildKernel obliging "kernel" "code" ⟨obligingRoots, none, fun _ => none, some first, disk⟩ =
      (.ok ⟨[()], first⟩, built) :=
    buildKernel_of_disk hkey (hinit _ _ _) (compilerConfig_of_none rfl rfl hflags) hroot rfl rfl hcubin rfl
  have h2 : buildKernel obliging "kernel" "code" { built with current := some second } =
      (.ok ⟨[()], first⟩, { built with current := some second }) :=
    buildKernel_of_hit hkey (hinit _ _ _) rfl hroot hhit
  let ready : Session twoDevices := ⟨⟨obligingRoots, none, fun _ => none, none, disk⟩, []⟩
  have hstart : Session.step (Session.start disk) (.init obliging.toHost "/dg" "/cuda") = some ready := by
    simp only [Session.step, obliging_init, Session.start]
    rfl
  let switched (s : Session twoDevices) (current : Bool) : Session twoDevices :=
    { s with process := { s.process with current := some current } }
  let returned (s : Session twoDevices) (process : Process twoDevices) : Session twoDevices :=
    s.record "kernel" "code" (.ok ⟨[()], first⟩, process)
  let once := returned (switched ready first) built
  have hfirst : Session.step (switched ready first) (.build obliging "kernel" "code") = some once :=
    congrArg (fun result => some (Session.record (switched ready first) "kernel" "code" result)) h1
  have hsecond : Session.step (switched once second) (.build obliging "kernel" "code") =
      some (returned (switched once second) { built with current := some second }) :=
    congrArg (fun result => some (Session.record (switched once second) "kernel" "code" result)) h2
  refine ⟨disk, returned (switched once second) { built with current := some second }, config, ?_, rfl⟩
  apply run_of_foldlM
  apply foldlM_cons_of hstart
  apply foldlM_cons_of rfl
  apply foldlM_cons_of hfirst
  apply foldlM_cons_of rfl
  apply foldlM_cons_of hsecond
  rfl

/-- A kernel built on the first device is handed out on the second. -/
theorem switched_not_owned : ∃ (disk : Disk) (trace : List (Event twoDevices)) (s : Session twoDevices),
    Run Session.step (fun _ _ => True) (Session.start disk) trace s ∧ ∃ call ∈ s.log, ¬ call.Owned := by
  obtain ⟨disk, s, config, hrun, hlog⟩ := switchTrace_run true false
  refine ⟨disk, _, s, hrun, _, hlog ▸ List.mem_cons_self, ?_⟩
  intro h
  cases h

theorem unswitched_owned_iff : ∃ (disk : Disk) (s : Session twoDevices),
    Run Session.step (fun _ _ => True) (Session.start disk) (switchTrace true true) s ∧ s.log.length = 2 ∧
      ((∀ call ∈ s.log, call.Owned) ↔
        ∀ call ∈ s.log, ∀ call' ∈ s.log, call.key = call'.key → call.current = call'.current) := by
  obtain ⟨disk, s, config, hrun, hlog⟩ := switchTrace_run true true
  exact ⟨disk, s, hrun, by rw [hlog]; rfl, owned_iff hrun⟩

end DeepGemmRs.Jit
