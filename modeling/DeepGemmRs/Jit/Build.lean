import DeepGemmRs.Jit.Names
import DeepGemmRs.Lib.Dirs
import DeepGemmRs.Lib.Stateful

/-!
# Building a kernel

`build_kernel` of `deepgemm_raw_runtime.cc`, one call at a time.

* `Disk` : the directories of the cache, `KernelDir` what they hold;
* `Driver` : the CUDA driver, whose functions each belong to one context;
* `Process` : the globals of the runtime, the current context and the disk;
* `compilerConfig`, `loadCachedKernel`, `compileKernel`, `buildKernel`;
* `prepare`, `resume`, `runNvcc`, `publish` : the parts of a call;
* `buildKernel_returns` : a call that returns either found its key in the cache and left it alone, or
  made a runtime under the current context and stored it under its key; `buildKernel_stops` : one
  that throws leaves the cache alone.

The materialization hooks report and decide nothing; `Materialization` adds them.
-/

namespace DeepGemmRs.Jit

open Checked Dirs Dirs.Store Stateful Stateful.Prog

/-! ## The disk -/

/-- What a file holds. -/
inductive FileState where
  | incomplete
  | complete
deriving DecidableEq

/-- The directory of a kernel: `kernel.cu` and `kernel.cubin`. -/
structure KernelDir where
  source : Option FileState
  cubin : Option FileState
deriving DecidableEq

def KernelDir.empty : KernelDir := ⟨none, none⟩

/-- `write_file` of the code. -/
def KernelDir.writeSource (dir : KernelDir) : KernelDir := { dir with source := some .complete }

/-- `nvcc` opens its output. -/
def KernelDir.openCubin (dir : KernelDir) : KernelDir := { dir with cubin := some .incomplete }

/-- `nvcc` is done with its output. -/
def KernelDir.finishCubin (dir : KernelDir) : KernelDir := { dir with cubin := some .complete }

/-- The directories of the cache. -/
abbrev Disk : Type := Store Path KernelDir

/-- `std::filesystem::exists(path / "kernel.cubin")`. -/
def hasCubin (disk : Disk) (path : Path) : Bool :=
  ((disk.node path).map disk.content).any fun dir => dir.cubin.isSome

/-- A file is opened by its path: there has to be a directory. -/
def modifyAt (disk : Disk) (path : Path) (f : KernelDir → KernelDir) : Option Disk :=
  (disk.node path).map fun d => disk.modify d f

/-- `std::filesystem::rename`, which replaces an empty directory only. -/
def renameDir (disk : Disk) (source target : Path) : Option Disk :=
  if (disk.node source).isNone ∨ ((disk.node target).map disk.content).any (· ≠ KernelDir.empty) then none
  else some (disk.rename source target)

/-! ## The driver and the process -/

/-- The CUDA driver, as far as the runtime asks it. -/
structure Driver where
  Context : Type
  Kernel : Type
  Function : Type
  /-- `current_device_info`. -/
  currentDeviceInfo : Option Context → Native DeviceInfo
  /-- `cuKernelGetFunction`, by the context that is current. -/
  getFunction : Option Context → Kernel → Native Function
  /-- The context a handle belongs to. -/
  owner : Function → Context
  getFunction_owner : ∀ context kernel function,
    getFunction context kernel = .ok function → context = some (owner function)

/-- The calls into the file system, each of which may throw. -/
inductive DiskOp where
  | lookUp
  | createTmpRoot
  | removeTmp
  | createTmp
  | writeSource
  | createParent
  | rename
  | cleanUp
  | lookAgain
deriving DecidableEq

/-- Those before `nvcc` is run. -/
def DiskOp.toNvcc : List DiskOp := [.lookUp, .createTmpRoot, .removeTmp, .createTmp, .writeSource]

/-- Those before what was compiled is loaded. -/
def DiskOp.toLoad : List DiskOp := DiskOp.toNvcc ++ [.createParent, .rename]

/-- What a call of `build_kernel` meets outside the process. -/
structure Answers (driver : Driver) extends Host where
  fault : DiskOp → Option String
  /-- What `rename_error` says when a directory that is not empty is in the way. -/
  renameRefused : String
  /-- `cuLibraryLoadFromFile` and the kernels of the library. -/
  loadLibrary : Path → Native (List driver.Kernel)

/-- These calls into the file system do not throw. -/
def Answers.Serves {driver : Driver} (answers : Answers driver) (ops : List DiskOp) : Prop :=
  ∀ op ∈ ops, answers.fault op = none

/-- `rename_error.message()`. -/
def Answers.renameMessage {driver : Driver} (answers : Answers driver) : String :=
  (answers.fault .rename).getD answers.renameRefused

structure KernelRuntime (driver : Driver) where
  library : List driver.Kernel
  kernel : driver.Function

/-- The globals of the runtime, and what the process shares with the world. -/
structure Process (driver : Driver) where
  roots : Roots
  compilerConfigCache : Option CompilerConfig
  kernelCache : String → Option (KernelRuntime driver)
  current : Option driver.Context
  disk : Disk

/-- `runtime_is_initialized`. -/
def Process.isInitialized {driver : Driver} (process : Process driver) : Bool :=
  process.roots.deepgemmRoot ≠ "" ∧ process.roots.cudaHome ≠ ""

/-- The headers and the compiler, `runtime_init` looks for them. -/
def runtimeInit (host : Host) (deepgemmRoot cudaHome : String) : Native Roots := do
  throwIf (deepgemmRoot = "") (.invalid "deepgemm_root must not be empty")
  throwIf (cudaHome = "") (.invalid "cuda_home must not be empty")
  let root := host.weaklyCanonical deepgemmRoot
  let cuda := host.weaklyCanonical cudaHome
  let file (base path : String) := (Path.mk base [path]).string
  requireFile host (file root "deep_gemm/include/deep_gemm/scheduler/sm90_paged_mqa_logits.cuh")
    "DeepGEMM SM90 scheduler header"
  requireFile host (file root "deep_gemm/include/deep_gemm/scheduler/sm100_paged_mqa_logits.cuh")
    "DeepGEMM SM100 scheduler header"
  requireFile host (file root "third-party/cutlass/include/cutlass/cutlass.h") "CUTLASS header"
  requireFile host (file cuda "bin/nvcc") "CUDA nvcc"
  .ok {
    deepgemmRoot := root
    cudaHome := cuda
    includePath := file root "deep_gemm/include"
    cutlassIncludePath := file root "third-party/cutlass/include"
    cutlassUtilIncludePath := file root "third-party/cutlass/tools/util/include" }

section

variable {driver : Driver}

/-- A part of a call of `build_kernel`. -/
abbrev Step (driver : Driver) : Type → Type := Prog Stop (Process driver)

def compilerConfig (answers : Answers driver) : Step driver CompilerConfig := do
  let process ← get
  match process.compilerConfigCache with
  | some config => pure config
  | none => do
    let nvcc := nvccPath process.roots answers.toHost
    let flags ← lift (compilerFlags process.roots answers.toHost
      (driver.currentDeviceInfo process.current) nvcc)
    modify fun process => { process with compilerConfigCache := some ⟨nvcc, flags⟩ }
    pure ⟨nvcc, flags⟩

/-- The constructor of `KernelRuntime`: the handle is that of the context current now. -/
def newKernelRuntime (answers : Answers driver) (current : Option driver.Context) (cubinPath : Path) :
    Native (KernelRuntime driver) := do
  let library ← answers.loadLibrary cubinPath
  match library with
  | [cuKernel] => do
    let kernel ← driver.getFunction current cuKernel
    .ok ⟨library, kernel⟩
  | _ => .error (internal "JIT cubin does not contain exactly one kernel")

/-- `g_kernel_cache[cache_key] = runtime`, for a runtime of the cubin in `dirPath`. -/
def storeRuntime (answers : Answers driver) (cacheKey : String) (dirPath : Path) :
    Step driver (KernelRuntime driver) := do
  let process ← get
  let runtime ← lift (newKernelRuntime answers process.current (dirPath.join "kernel.cubin"))
  modify fun process => { process with kernelCache := Function.update process.kernelCache cacheKey (some runtime) }
  pure runtime

/-- A call into the file system, which throws or changes the disk by `f`. -/
def diskCall (answers : Answers driver) (op : DiskOp) (f : Disk → Disk) : Step driver Unit :=
  match answers.fault op with
  | some message => lift (.error (internal message))
  | none => modify fun process => { process with disk := f process.disk }

def loadCachedKernel (answers : Answers driver) (cacheKey : String) (dirPath : Path) :
    Step driver (Option (KernelRuntime driver)) := do
  let process ← get
  match process.kernelCache cacheKey with
  | some runtime => pure (some runtime)
  | none => do
    diskCall answers .lookUp id
    if hasCubin process.disk dirPath then do
      let runtime ← storeRuntime answers cacheKey dirPath
      pure (some runtime)
    else pure none

/-- Writing into a directory fails when it is gone. -/
def diskWrite (path : Path) (f : KernelDir → KernelDir) (message : String) : Step driver Unit := do
  let process ← get
  match modifyAt process.disk path f with
  | some disk => modify fun process => { process with disk }
  | none => lift (.error (internal message))

/-- `write_file`: the stream fails, or there is no directory to open it in. -/
def writeFile (answers : Answers driver) (tmp : Path) : Step driver Unit :=
  let message := "failed to write " ++ (tmp.join "kernel.cu").string
  match answers.fault .writeSource with
  | some _ => lift (.error (internal message))
  | none => diskWrite tmp KernelDir.writeSource message

/-- `nvcc`'s command line. -/
def nvccCommand (tmpRoot tmpDir : Path) (config : CompilerConfig) : String :=
  "cd " ++ shellQuote tmpRoot.string ++ " && " ++ shellQuote config.nvcc.string ++ " "
    ++ shellQuote (tmpDir.join "kernel.cu").string ++ " -cubin -o "
    ++ shellQuote (tmpDir.join "kernel.cubin").string ++ " " ++ config.flags

/-- The disk after `rename_error`, and whether there is none. -/
def renameOrNot (answers : Answers driver) (disk : Disk) (tmpDir dirPath : Path) : Option Disk :=
  match answers.fault .rename with
  | some _ => none
  | none => renameDir disk tmpDir dirPath

/-- `build_kernel` between the two attempts at the cache: compile in `tmp_dir`, move to `dir_path`. -/
def compileKernel (answers : Answers driver) (root : Path) (name : String) (config : CompilerConfig)
    (hash : String) : Step driver Unit := do
  let tmpRoot := root.join "tmp"
  let tmp := tmpDir root name answers.getpid hash
  let dir := dirPath root name hash
  diskCall answers .createTmpRoot id
  diskCall answers .removeTmp (·.remove tmp)
  diskCall answers .createTmp (·.create tmp KernelDir.empty)
  writeFile answers tmp
  let (status, output) ← lift (runCommand answers.toHost (nvccCommand tmpRoot tmp config))
  if status ≠ 0 then do
    diskCall answers .cleanUp (·.remove tmp)
    lift (.error (internal s!"NVCC compilation failed: {output}"))
  else do
    diskWrite tmp (KernelDir.finishCubin ∘ KernelDir.openCubin) "NVCC compilation failed"
    diskCall answers .createParent id
    let process ← get
    match renameOrNot answers process.disk tmp dir with
    | some disk => modify fun process => { process with disk }
    | none => do
      diskCall answers .cleanUp (·.remove tmp)
      diskCall answers .lookAgain id
      let process ← get
      lift (throwIf (¬ hasCubin process.disk dir)
        (internal ("failed to move compiled kernel into JIT cache: " ++ answers.renameMessage)))

def buildKernel (answers : Answers driver) (name code : String) : Step driver (KernelRuntime driver) := do
  let process ← get
  lift (throwIf (¬ process.isInitialized) (.invalid "deepgemm_init must be called before launching kernels"))
  let config ← compilerConfig answers
  let key := cacheKey name config code
  let root ← lift (cacheRoot answers.toHost)
  match ← loadCachedKernel answers key (dirPath root name (cacheHash key)) with
  | some runtime => pure runtime
  | none => do
    compileKernel answers root name config (cacheHash key)
    storeRuntime answers key (dirPath root name (cacheHash key))

/-! ## A call in parts -/

/-- `build_kernel` up to its lookup. -/
def prepare (answers : Answers driver) : Step driver (CompilerConfig × Path) := do
  let process ← get
  lift (throwIf (¬ process.isInitialized) (.invalid "deepgemm_init must be called before launching kernels"))
  let config ← compilerConfig answers
  let root ← lift (cacheRoot answers.toHost)
  pure (config, root)

/-- `build_kernel` from its lookup on. -/
def resume (answers : Answers driver) (name code : String) (config : CompilerConfig) (root : Path) :
    Step driver (KernelRuntime driver) := do
  let key := cacheKey name config code
  match ← loadCachedKernel answers key (dirPath root name (cacheHash key)) with
  | some runtime => pure runtime
  | none => do
    compileKernel answers root name config (cacheHash key)
    storeRuntime answers key (dirPath root name (cacheHash key))

/-- `build_kernel` from the lookup that failed to the end of `nvcc`. -/
def runNvcc (answers : Answers driver) (root : Path) (name : String) (config : CompilerConfig) (hash : String) :
    Step driver Unit := do
  let tmpRoot := root.join "tmp"
  let tmp := tmpDir root name answers.getpid hash
  diskCall answers .createTmpRoot id
  diskCall answers .removeTmp (·.remove tmp)
  diskCall answers .createTmp (·.create tmp KernelDir.empty)
  writeFile answers tmp
  let (status, output) ← lift (runCommand answers.toHost (nvccCommand tmpRoot tmp config))
  if status ≠ 0 then do
    diskCall answers .cleanUp (·.remove tmp)
    lift (.error (internal s!"NVCC compilation failed: {output}"))
  else
    diskWrite tmp (KernelDir.finishCubin ∘ KernelDir.openCubin) "NVCC compilation failed"

/-- `build_kernel` from the end of `nvcc` to the load. -/
def publish (answers : Answers driver) (root : Path) (name hash : String) : Step driver Unit := do
  let tmp := tmpDir root name answers.getpid hash
  let dir := dirPath root name hash
  diskCall answers .createParent id
  let process ← get
  match renameOrNot answers process.disk tmp dir with
  | some disk => modify fun process => { process with disk }
  | none => do
    diskCall answers .cleanUp (·.remove tmp)
    diskCall answers .lookAgain id
    let process ← get
    lift (throwIf (¬ hasCubin process.disk dir)
      (internal ("failed to move compiled kernel into JIT cache: " ++ answers.renameMessage)))

section

variable {answers : Answers driver} {s : Process driver} {name code : String}

theorem buildKernel_eq : buildKernel answers name code =
    prepare answers >>= fun found => resume answers name code found.1 found.2 := by
  unfold prepare
  simp only [bind_assoc]
  rfl

/-- A call that ends as `resume` does. -/
theorem buildKernel_of_prepare {config : CompilerConfig} {root : Path} {t : Process driver}
    (h : Returns (prepare answers) s (config, root) t) :
    buildKernel answers name code s = resume answers name code config root t := by
  rw [buildKernel_eq, bind_of_returns h]

theorem compileKernel_eq {root : Path} {config : CompilerConfig} {hash : String} :
    compileKernel answers root name config hash =
      runNvcc answers root name config hash >>= fun _ => publish answers root name hash := by
  unfold compileKernel runNvcc
  simp only [bind_assoc]
  iterate 4
    refine bind_congr ?_
    intro _
  refine bind_congr ?_
  rintro ⟨status, output⟩
  by_cases hstatus : status ≠ 0
  · simp only [if_pos hstatus, bind_assoc]
    rfl
  · simp only [if_neg hstatus]
    rfl

end

/-! ## What a call leaves -/

/-- What the disk's part of a call does not touch. -/
structure SameCaches (s t : Process driver) : Prop where
  config : t.compilerConfigCache = s.compilerConfigCache
  kernels : t.kernelCache = s.kernelCache
  current : t.current = s.current

variable {answers : Answers driver} {s t : Process driver} {runtime : KernelRuntime driver}

theorem renameDir_eq_some {disk disk' : Disk} {source target : Path} (h : renameDir disk source target = some disk') :
    disk.Intact target (· = KernelDir.empty) ∧ disk' = disk.rename source target := by
  unfold renameDir at h
  split at h
  · cases h
  · next hfree =>
    refine ⟨?_, (Option.some_inj.mp h).symm⟩
    intro d hd
    rw [hd] at hfree
    simpa using (not_or.mp hfree).2

theorem renameOrNot_eq_some {disk disk' : Disk} {tmp dir : Path} (h : renameOrNot answers disk tmp dir = some disk') :
    answers.fault .rename = none ∧ renameDir disk tmp dir = some disk' := by
  unfold renameOrNot at h
  split at h
  · cases h
  · next hfault => exact ⟨hfault, h⟩

theorem modifyAt_eq_some {disk disk' : Disk} {path : Path} {f : KernelDir → KernelDir}
    (h : modifyAt disk path f = some disk') : ∃ d, disk.node path = some d ∧ disk' = disk.modify d f := by
  obtain ⟨d, hd, rfl⟩ := Option.map_eq_some_iff.mp h
  exact ⟨d, hd, rfl⟩

/-- What is kept while only the directory at `tmp` is worked in. -/
structure Ignores (P : Process driver → Prop) (tmp : Path) : Prop where
  remove : ∀ s, P s → P { s with disk := s.disk.remove tmp }
  create : ∀ s, P s → P { s with disk := s.disk.create tmp KernelDir.empty }
  modify : ∀ s d f, P s → s.disk.node tmp = some d → P { s with disk := s.disk.modify d f }

theorem SameCaches.ignores {tmp : Path} : Ignores (SameCaches s) tmp where
  remove _ h := ⟨h.config, h.kernels, h.current⟩
  create _ h := ⟨h.config, h.kernels, h.current⟩
  modify _ _ _ h _ := ⟨h.config, h.kernels, h.current⟩

section

variable {P : Process driver → Prop}

theorem diskCall_keeps {op : DiskOp} {f : Disk → Disk} (h : ∀ s, P s → P { s with disk := f s.disk }) :
    Keeps P (diskCall answers op f) := by
  unfold diskCall
  split
  · exact Keeps.lift
  · exact Keeps.modify h

theorem diskWrite_keeps {path : Path} {f : KernelDir → KernelDir} {message : String}
    (h : ∀ s d, P s → s.disk.node path = some d → P { s with disk := s.disk.modify d f }) :
    Keeps P (diskWrite path f message : Step driver Unit) := by
  intro s hs
  unfold diskWrite
  rw [bind_of_returns (show Returns get s s s from rfl)]
  cases hm : modifyAt s.disk path f with
  | some disk =>
    obtain ⟨d, hd, rfl⟩ := modifyAt_eq_some hm
    exact h s d hs hd
  | none => exact hs

theorem writeFile_keeps {tmp : Path}
    (h : ∀ s d, P s → s.disk.node tmp = some d → P { s with disk := s.disk.modify d KernelDir.writeSource }) :
    Keeps P (writeFile answers tmp) := by
  unfold writeFile
  cases answers.fault .writeSource with
  | some message => exact Keeps.lift
  | none => exact diskWrite_keeps h

theorem compilerConfig_keeps (h : ∀ s config, P s → P { s with compilerConfigCache := config }) :
    Keeps P (compilerConfig answers) := by
  refine Keeps.bind Keeps.get fun process => ?_
  split
  · exact Keeps.pure
  · refine Keeps.bind Keeps.lift fun flags => ?_
    exact Keeps.bind (Keeps.modify fun s => h s _) fun _ => Keeps.pure

theorem runNvcc_keeps {root : Path} {name : String} {config : CompilerConfig} {hash : String}
    (h : Ignores P (tmpDir root name answers.getpid hash)) : Keeps P (runNvcc answers root name config hash) := by
  unfold runNvcc
  refine Keeps.bind (diskCall_keeps (f := id) fun _ hs => hs) fun _ => ?_
  refine Keeps.bind (diskCall_keeps h.remove) fun _ => ?_
  refine Keeps.bind (diskCall_keeps h.create) fun _ => ?_
  refine Keeps.bind (writeFile_keeps fun s d => h.modify s d _) fun _ => ?_
  refine Keeps.bind Keeps.lift fun result => ?_
  obtain ⟨status, output⟩ := result
  show Keeps _ (if status ≠ 0 then _ else _)
  split
  · exact Keeps.bind (diskCall_keeps h.remove) fun _ => Keeps.lift
  · exact diskWrite_keeps fun s d => h.modify s d _

theorem publish_keeps {root : Path} {name hash : String}
    (hremove : ∀ s, P s → P { s with disk := s.disk.remove (tmpDir root name answers.getpid hash) })
    (hrename : ∀ s, P s → s.disk.Intact (dirPath root name hash) (· = KernelDir.empty) → P { s with
      disk := s.disk.rename (tmpDir root name answers.getpid hash) (dirPath root name hash) }) :
    Keeps P (publish answers root name hash) := by
  unfold publish
  refine Keeps.bind (diskCall_keeps (f := id) fun _ hs => hs) ?_
  intro _ s hs
  rw [bind_of_returns (show Returns get s s s from rfl)]
  cases hr : renameOrNot answers s.disk _ _ with
  | some disk =>
    obtain ⟨hempty, rfl⟩ := renameDir_eq_some (renameOrNot_eq_some hr).2
    exact hrename s hs hempty
  | none =>
    have hlook : Keeps P (diskCall answers .lookAgain id) := diskCall_keeps fun _ hs => hs
    exact Keeps.bind (diskCall_keeps hremove)
      (fun _ => Keeps.bind hlook fun _ => Keeps.bind Keeps.get fun _ => Keeps.lift) s hs

theorem prepare_keeps (h : ∀ s config, P s → P { s with compilerConfigCache := config }) :
    Keeps P (prepare answers) := by
  refine Keeps.bind Keeps.get fun _ => ?_
  refine Keeps.bind Keeps.lift fun _ => ?_
  refine Keeps.bind (compilerConfig_keeps h) fun _ => ?_
  exact Keeps.bind Keeps.lift fun _ => Keeps.pure

theorem storeRuntime_keeps {key : String} {dir : Path}
    (h : ∀ s kernels, P s → P { s with kernelCache := kernels }) : Keeps P (storeRuntime answers key dir) := by
  refine Keeps.bind Keeps.get fun _ => ?_
  refine Keeps.bind Keeps.lift fun _ => ?_
  exact Keeps.bind (Keeps.modify fun s => h s _) fun _ => Keeps.pure

/-- What outlasts work at `tmp_dir`, a rename to a free `dir_path`, and a change of the kernels. -/
theorem resume_keeps_of_ignores {name code : String} {config : CompilerConfig} {root : Path}
    (h : Ignores P (tmpDir root name answers.getpid (cacheHash (cacheKey name config code))))
    (hrename : ∀ s, P s →
      s.disk.Intact (dirPath root name (cacheHash (cacheKey name config code))) (· = KernelDir.empty) →
      P { s with
        disk := s.disk.rename (tmpDir root name answers.getpid (cacheHash (cacheKey name config code)))
          (dirPath root name (cacheHash (cacheKey name config code))) })
    (hkernels : ∀ s kernels, P s → P { s with kernelCache := kernels }) :
    Keeps P (resume answers name code config root) := by
  refine Keeps.bind (Keeps.bind Keeps.get fun process => ?_) fun found => ?_
  · split
    · exact Keeps.pure
    · refine Keeps.bind (diskCall_keeps fun _ hs => hs) fun _ => ?_
      split
      · exact Keeps.bind (storeRuntime_keeps hkernels) fun _ => Keeps.pure
      · exact Keeps.pure
  · split
    · exact Keeps.pure
    · rw [compileKernel_eq]
      refine Keeps.bind (Keeps.bind (runNvcc_keeps h) fun _ => ?_) fun _ => storeRuntime_keeps hkernels
      exact publish_keeps h.remove hrename

/-- What depends neither on the disk nor on the kernels. -/
theorem resume_keeps {name code : String} {config : CompilerConfig} {root : Path}
    (hdisk : ∀ s disk, P s → P { s with disk := disk })
    (hkernels : ∀ s kernels, P s → P { s with kernelCache := kernels }) :
    Keeps P (resume answers name code config root) := by
  refine resume_keeps_of_ignores ?_ ?_ hkernels
  · exact ⟨fun s => hdisk s _, fun s => hdisk s _, fun s _ _ h _ => hdisk s _ h⟩
  · exact fun s h _ => hdisk s _ h

end

theorem compileKernel_keeps (root : Path) (name : String) (config : CompilerConfig) (hash : String) :
    Keeps (SameCaches s) (compileKernel answers root name config hash) := by
  rw [compileKernel_eq]
  apply Keeps.bind (runNvcc_keeps SameCaches.ignores)
  intro _
  exact publish_keeps SameCaches.ignores.remove fun _ h _ => ⟨h.config, h.kernels, h.current⟩

theorem compilerConfig_returns {config : CompilerConfig} (h : Returns (compilerConfig answers) s config t) :
    t = { s with compilerConfigCache := some config } := by
  obtain ⟨process, _, hget, h⟩ := returns_bind.mp h
  obtain ⟨rfl, rfl⟩ := returns_get.mp hget
  cases hc : s.compilerConfigCache with
  | some cached =>
    rw [hc] at h
    obtain ⟨rfl, rfl⟩ := returns_pure.mp h
    rw [← hc]
  | none =>
    rw [hc] at h
    obtain ⟨flags, _, hlift, h⟩ := returns_bind.mp h
    obtain ⟨-, rfl⟩ := returns_lift.mp hlift
    obtain ⟨_, _, hmodify, h⟩ := returns_bind.mp h
    rw [returns_modify] at hmodify
    obtain ⟨rfl, rfl⟩ := returns_pure.mp h
    exact hmodify.symm

/-- The configuration is the remembered one, or made for the current device. -/
theorem compilerConfig_cases {config : CompilerConfig} (h : Returns (compilerConfig answers) s config t) :
    s.compilerConfigCache = some config ∨ (s.compilerConfigCache = none ∧
      config.nvcc = nvccPath s.roots answers.toHost ∧ compilerFlags s.roots answers.toHost
        (driver.currentDeviceInfo s.current) config.nvcc = .ok config.flags) := by
  obtain ⟨process, _, hget, h⟩ := returns_bind.mp h
  obtain ⟨rfl, rfl⟩ := returns_get.mp hget
  cases hc : s.compilerConfigCache with
  | some cached =>
    rw [hc] at h
    obtain ⟨rfl, -⟩ := returns_pure.mp h
    exact .inl rfl
  | none =>
    rw [hc] at h
    obtain ⟨flags, _, hlift, h⟩ := returns_bind.mp h
    obtain ⟨hflags, rfl⟩ := returns_lift.mp hlift
    obtain ⟨_, _, -, h⟩ := returns_bind.mp h
    obtain ⟨rfl, -⟩ := returns_pure.mp h
    exact .inr ⟨rfl, rfl, hflags⟩

theorem prepare_returns {found : CompilerConfig × Path} (h : Returns (prepare answers) s found t) :
    s.isInitialized ∧ Returns (compilerConfig answers) s found.1 t ∧ cacheRoot answers.toHost = .ok found.2 := by
  obtain ⟨process, _, hget, h⟩ := returns_bind.mp h
  obtain ⟨rfl, rfl⟩ := returns_get.mp hget
  obtain ⟨_, _, hinit, h⟩ := returns_bind.mp h
  obtain ⟨hthrow, rfl⟩ := returns_lift.mp hinit
  rw [throwIf_eq_ok, not_not] at hthrow
  obtain ⟨config, _, hconfig, h⟩ := returns_bind.mp h
  obtain ⟨root, _, hroot, h⟩ := returns_bind.mp h
  obtain ⟨hcache, rfl⟩ := returns_lift.mp hroot
  obtain ⟨rfl, rfl⟩ := returns_pure.mp h
  exact ⟨hthrow, hconfig, hcache⟩

theorem compilerConfig_stops {e : Stop} (h : compilerConfig answers s = (.error e, t)) : t = s := by
  rcases stops_bind h with hget | ⟨process, _, hget, h⟩
  · cases hget
  obtain ⟨rfl, rfl⟩ := returns_get.mp hget
  cases hc : s.compilerConfigCache with
  | some cached =>
    rw [hc] at h
    cases h
  | none =>
    rw [hc] at h
    rcases stops_bind h with hlift | ⟨flags, _, hlift, h⟩
    · exact (Prod.ext_iff.mp hlift).2.symm
    · cases h

/-- A handle is that of the context current when the runtime is made. -/
theorem newKernelRuntime_owner {current : Option driver.Context} {cubinPath : Path}
    (h : newKernelRuntime answers current cubinPath = .ok runtime) :
    current = some (driver.owner runtime.kernel) := by
  unfold newKernelRuntime at h
  obtain ⟨library, -, h⟩ := bind_eq_ok.mp h
  split at h
  · obtain ⟨kernel, hk, h⟩ := bind_eq_ok.mp h
    cases h
    exact driver.getFunction_owner _ _ _ hk
  · cases h

theorem storeRuntime_returns {key : String} {dir : Path} (h : Returns (storeRuntime answers key dir) s runtime t) :
    s.current = some (driver.owner runtime.kernel) ∧
      t = { s with kernelCache := Function.update s.kernelCache key (some runtime) } := by
  obtain ⟨process, _, hget, h⟩ := returns_bind.mp h
  obtain ⟨rfl, rfl⟩ := returns_get.mp hget
  obtain ⟨made, _, hlift, h⟩ := returns_bind.mp h
  obtain ⟨hnew, rfl⟩ := returns_lift.mp hlift
  obtain ⟨_, _, hmodify, h⟩ := returns_bind.mp h
  rw [returns_modify] at hmodify
  obtain ⟨rfl, rfl⟩ := returns_pure.mp h
  exact ⟨newKernelRuntime_owner hnew, hmodify.symm⟩

theorem storeRuntime_stops {key : String} {dir : Path} {e : Stop}
    (h : storeRuntime answers key dir s = (.error e, t)) : t = s := by
  rcases stops_bind h with hget | ⟨process, _, hget, h⟩
  · cases hget
  obtain ⟨rfl, rfl⟩ := returns_get.mp hget
  rcases stops_bind h with hlift | ⟨made, _, hlift, h⟩
  · exact (Prod.ext_iff.mp hlift).2.symm
  · cases h

theorem diskCall_returns {op : DiskOp} {f : Disk → Disk} {u : Unit} (h : Returns (diskCall answers op f) s u t) :
    answers.fault op = none ∧ t = { s with disk := f s.disk } := by
  unfold diskCall at h
  split at h
  · obtain ⟨h, -⟩ := returns_lift.mp h
    cases h
  · next hfault => exact ⟨hfault, (returns_modify.mp h).symm⟩

/-- A call that throws leaves the disk. -/
theorem diskCall_stops {op : DiskOp} {f : Disk → Disk} {e : Stop} (h : diskCall answers op f s = (.error e, t)) :
    t = s := by
  unfold diskCall at h
  cases hfault : answers.fault op with
  | some message =>
    rw [hfault] at h
    exact (Prod.ext_iff.mp h).2.symm
  | none =>
    rw [hfault] at h
    cases h

theorem loadCachedKernel_returns {key : String} {dir : Path} {found : Option (KernelRuntime driver)}
    (h : Returns (loadCachedKernel answers key dir) s found t) :
    (found = s.kernelCache key ∧ t = s ∧
        (found = none → answers.fault .lookUp = none ∧ hasCubin s.disk dir = false)) ∨
      ∃ runtime, found = some runtime ∧ s.kernelCache key = none ∧
        (answers.fault .lookUp = none ∧ hasCubin s.disk dir) ∧ Returns (storeRuntime answers key dir) s runtime t := by
  obtain ⟨process, _, hget, h⟩ := returns_bind.mp h
  obtain ⟨rfl, rfl⟩ := returns_get.mp hget
  cases hc : s.kernelCache key with
  | some cached =>
    rw [hc] at h
    obtain ⟨rfl, rfl⟩ := returns_pure.mp h
    exact .inl ⟨rfl, rfl, nofun⟩
  | none =>
    rw [hc] at h
    obtain ⟨_, _, hlook, h⟩ := returns_bind.mp h
    obtain ⟨hserves, rfl⟩ := diskCall_returns hlook
    by_cases hd : hasCubin s.disk dir
    · simp only [hd, if_true] at h
      obtain ⟨runtime, _, hstore, h⟩ := returns_bind.mp h
      obtain ⟨rfl, rfl⟩ := returns_pure.mp h
      exact .inr ⟨runtime, rfl, rfl, ⟨hserves, hd⟩, hstore⟩
    · simp only [hd, if_false, Bool.false_eq_true] at h
      obtain ⟨rfl, rfl⟩ := returns_pure.mp h
      exact .inl ⟨rfl, rfl, fun _ => ⟨hserves, Bool.eq_false_iff.mpr hd⟩⟩

theorem loadCachedKernel_stops {key : String} {dir : Path} {e : Stop}
    (h : loadCachedKernel answers key dir s = (.error e, t)) : t = s := by
  rcases stops_bind h with hget | ⟨process, _, hget, h⟩
  · cases hget
  obtain ⟨rfl, rfl⟩ := returns_get.mp hget
  cases hc : s.kernelCache key with
  | some cached =>
    rw [hc] at h
    cases h
  | none =>
    rw [hc] at h
    rcases stops_bind h with hlook | ⟨_, _, hlook, h⟩
    · exact diskCall_stops hlook
    obtain ⟨-, rfl⟩ := diskCall_returns hlook
    by_cases hd : hasCubin s.disk dir
    · simp only [hd, if_true] at h
      rcases stops_bind h with hstore | ⟨runtime, _, -, h⟩
      · exact storeRuntime_stops hstore
      · cases h
    · simp only [hd, if_false, Bool.false_eq_true] at h
      cases h

/-- The disk when `nvcc` is done, if nobody interferes. -/
def compiledDisk (tmp : Path) (disk : Disk) : Disk :=
  ((disk.remove tmp).fresh tmp KernelDir.empty).modify disk.next
    (KernelDir.finishCubin ∘ KernelDir.openCubin ∘ KernelDir.writeSource)

theorem node_compiledDisk_self {tmp : Path} {disk : Disk} : (compiledDisk tmp disk).node tmp = some disk.next :=
  node_fresh_self (c := KernelDir.empty)

theorem node_compiledDisk_of_ne {tmp path : Path} {disk : Disk} (h : path ≠ tmp) :
    (compiledDisk tmp disk).node path = disk.node path := by
  unfold compiledDisk
  rw [node_modify, node_fresh_of_ne h, node_remove_of_ne h]

theorem hasCubin_of_none {disk : Disk} {path : Path} (h : disk.node path = none) : hasCubin disk path = false := by
  simp [hasCubin, h]

/-- A directory is moved to where there is none, or an empty one. -/
theorem renameDir_of_empty {disk : Disk} {source target : Path} {d : Nat} (hs : disk.node source = some d)
    (ht : disk.Intact target (· = KernelDir.empty)) : renameDir disk source target = some (disk.rename source target) := by
  have hempty : ((disk.node target).map disk.content).any (· ≠ KernelDir.empty) = false := by
    cases hd : disk.node target with
    | none => rfl
    | some e => simp [ht e hd]
  unfold renameDir
  rw [hs, hempty]
  exact if_neg (by simp)

theorem renameDir_of_none {disk : Disk} {source target : Path} {d : Nat} (hs : disk.node source = some d)
    (ht : disk.node target = none) : renameDir disk source target = some (disk.rename source target) :=
  renameDir_of_empty hs (intact_of_none ht)

/-- Onto a directory with files in it nothing is moved. -/
theorem renameDir_of_full {disk : Disk} {source target : Path}
    (ht : ¬ disk.Intact target (· = KernelDir.empty)) : renameDir disk source target = none := by
  simp only [Store.Intact, not_forall] at ht
  obtain ⟨e, he, hfull⟩ := ht
  unfold renameDir
  rw [he]
  exact if_pos (.inr (by simpa using hfull))

/-- Other directories are as they were. -/
theorem intact_compiledDisk {tmp path : Path} {disk : Disk} {Q : KernelDir → Prop} (hne : path ≠ tmp)
    (h : disk.Intact path Q) : (compiledDisk tmp disk).Intact path Q := by
  have hcreate := (h.remove (p := tmp)).create (c := KernelDir.empty) hne
  rw [create_of_none node_remove_self] at hcreate
  apply hcreate.modify
  intro hd
  rw [node_fresh_of_ne hne, node_remove_of_ne hne] at hd
  exact absurd (disk.lt_next _ _ hd) (Nat.lt_irrefl _)

theorem Intact.of_compiledDisk {tmp path : Path} {disk : Disk} {Q : KernelDir → Prop} (hne : path ≠ tmp)
    (h : (compiledDisk tmp disk).Intact path Q) : disk.Intact path Q := by
  intro d hd
  have hlt := disk.lt_next path d hd
  have hsame : (compiledDisk tmp disk).content d = disk.content d := by
    unfold compiledDisk
    rw [content_modify_of_ne (by omega)]
    exact Function.update_of_ne (by show d ≠ disk.next; omega) ..
  rw [← hsame]
  exact h d ((node_compiledDisk_of_ne hne).trans hd)

theorem hasCubin_iff {disk : Disk} {path : Path} :
    hasCubin disk path ↔ ∃ d, disk.node path = some d ∧ (disk.content d).cubin ≠ none := by
  unfold hasCubin
  cases disk.node path with
  | none => simp
  | some d => simp [Option.isSome_iff_ne_none]

/-- The directory that is moved has the cubin. -/
theorem hasCubin_published {tmp dir : Path} {disk : Disk} : hasCubin ((compiledDisk tmp disk).rename tmp dir) dir := by
  refine hasCubin_iff.mpr ⟨disk.next, node_rename_target.trans node_compiledDisk_self, ?_⟩
  rw [content_rename, compiledDisk, content_modify_self]
  exact Option.some_ne_none _

theorem hasCubin_eq_false {disk : Disk} {path : Path} :
    hasCubin disk path = false ↔ disk.Intact path fun dir => dir.cubin = none := by
  unfold hasCubin Store.Intact
  cases disk.node path with
  | none => simp
  | some d => simp

theorem diskWrite_returns {path : Path} {f : KernelDir → KernelDir} {message : String} {u : Unit}
    (h : Returns (diskWrite path f message : Step driver Unit) s u t) :
    ∃ d, s.disk.node path = some d ∧ t = { s with disk := s.disk.modify d f } := by
  obtain ⟨process, _, hget, h⟩ := returns_bind.mp h
  obtain ⟨rfl, rfl⟩ := returns_get.mp hget
  unfold modifyAt at h
  cases hd : s.disk.node path with
  | none =>
    rw [hd] at h
    obtain ⟨h, -⟩ := returns_lift.mp h
    cases h
  | some d =>
    rw [hd] at h
    exact ⟨d, rfl, (returns_modify.mp h).symm⟩

theorem writeFile_returns {tmp : Path} {u : Unit} (h : Returns (writeFile answers tmp) s u t) :
    answers.fault .writeSource = none ∧
      ∃ d, s.disk.node tmp = some d ∧ t = { s with disk := s.disk.modify d KernelDir.writeSource } := by
  unfold writeFile at h
  cases hfault : answers.fault .writeSource with
  | some message =>
    rw [hfault] at h
    obtain ⟨h, -⟩ := returns_lift.mp h
    cases h
  | none =>
    rw [hfault] at h
    exact ⟨rfl, diskWrite_returns h⟩

/-- The directory is made, both files are written into it. -/
theorem runNvcc_returns {root : Path} {name : String} {config : CompilerConfig} {hash : String} {u : Unit}
    (h : Returns (runNvcc answers root name config hash) s u t) :
    (∀ op ∈ [DiskOp.createTmpRoot, .removeTmp, .createTmp, .writeSource], answers.fault op = none) ∧
      t = { s with disk := compiledDisk (tmpDir root name answers.getpid hash) s.disk } := by
  obtain ⟨_, _, hcall, h⟩ := returns_bind.mp h
  obtain ⟨hroot, rfl⟩ := diskCall_returns hcall
  obtain ⟨_, _, hcall, h⟩ := returns_bind.mp h
  obtain ⟨hremove, rfl⟩ := diskCall_returns hcall
  obtain ⟨_, _, hcall, h⟩ := returns_bind.mp h
  obtain ⟨hcreate, rfl⟩ := diskCall_returns hcall
  obtain ⟨_, _, hwrite, h⟩ := returns_bind.mp h
  obtain ⟨hsource, d, hd, rfl⟩ := writeFile_returns hwrite
  refine ⟨by simp [hroot, hremove, hcreate, hsource], ?_⟩
  obtain ⟨⟨status, output⟩, _, hnvcc, h⟩ := returns_bind.mp h
  obtain ⟨-, rfl⟩ := returns_lift.mp hnvcc
  by_cases hstatus : status ≠ 0
  · simp only [if_pos hstatus] at h
    obtain ⟨_, _, -, h⟩ := returns_bind.mp h
    obtain ⟨h, -⟩ := returns_lift.mp h
    cases h
  simp only [if_neg hstatus] at h
  obtain ⟨d', hd', rfl⟩ := diskWrite_returns h
  simp only [id_eq, create_of_none node_remove_self, node_modify, node_fresh_self, Option.some_inj] at hd hd'
  subst hd
  subst hd'
  simp only [id_eq, create_of_none node_remove_self, modify_modify]
  rfl

/-- The directory is moved, or given up for the one that is there. -/
theorem publish_returns {root : Path} {name hash : String} {u : Unit}
    (h : Returns (publish answers root name hash) s u t) : answers.fault .createParent = none ∧
    (renameOrNot answers s.disk (tmpDir root name answers.getpid hash) (dirPath root name hash) = some t.disk ∨
      renameOrNot answers s.disk (tmpDir root name answers.getpid hash) (dirPath root name hash) = none ∧
        t.disk = s.disk.remove (tmpDir root name answers.getpid hash) ∧
          hasCubin t.disk (dirPath root name hash)) := by
  obtain ⟨_, _, hcall, h⟩ := returns_bind.mp h
  obtain ⟨hparent, rfl⟩ := diskCall_returns hcall
  refine ⟨hparent, ?_⟩
  obtain ⟨process, _, hget, h⟩ := returns_bind.mp h
  obtain ⟨rfl, rfl⟩ := returns_get.mp hget
  simp only [id_eq] at h
  split at h
  · next moved hr =>
    rw [← returns_modify.mp h]
    exact .inl hr
  · next hr =>
    obtain ⟨_, _, hcall, h⟩ := returns_bind.mp h
    obtain ⟨-, rfl⟩ := diskCall_returns hcall
    obtain ⟨_, _, hlook, h⟩ := returns_bind.mp h
    obtain ⟨-, rfl⟩ := diskCall_returns hlook
    obtain ⟨process, _, hget, h⟩ := returns_bind.mp h
    obtain ⟨rfl, rfl⟩ := returns_get.mp hget
    obtain ⟨hcubin, rfl⟩ := returns_lift.mp h
    rw [throwIf_eq_ok, not_not] at hcubin
    exact .inr ⟨hr, rfl, hcubin⟩

/-- How a call that returned came by its runtime. -/
structure Built (s t : Process driver) (key : String) (runtime : KernelRuntime driver) : Prop where
  current : t.current = s.current
  /-- Found, or made under the current context. -/
  source : (s.kernelCache key = some runtime ∧ t.kernelCache = s.kernelCache) ∨
    (s.kernelCache key = none ∧ s.current = some (driver.owner runtime.kernel) ∧
      t.kernelCache = Function.update s.kernelCache key (some runtime))

theorem Built.of_store {u : Process driver} {key : String} {dir : Path} (hs : SameCaches s u)
    (hnone : s.kernelCache key = none) (h : Returns (storeRuntime answers key dir) u runtime t) :
    Built s t key runtime ∧ t.compilerConfigCache = s.compilerConfigCache := by
  obtain ⟨howner, rfl⟩ := storeRuntime_returns h
  refine ⟨⟨hs.current, .inr ⟨hnone, ?_, ?_⟩⟩, hs.config⟩
  · rw [← hs.current]
    exact howner
  · rw [← hs.kernels]

/-- **A call that returns** found its key, or made the runtime now and stored it. -/
theorem buildKernel_returns {name code : String} (h : Returns (buildKernel answers name code) s runtime t) :
    ∃ config, t.compilerConfigCache = some config ∧ Built s t (cacheKey name config code) runtime := by
  obtain ⟨process, _, hget, h⟩ := returns_bind.mp h
  obtain ⟨rfl, rfl⟩ := returns_get.mp hget
  obtain ⟨_, _, hinit, h⟩ := returns_bind.mp h
  obtain ⟨-, rfl⟩ := returns_lift.mp hinit
  obtain ⟨config, s₁, hconfig, h⟩ := returns_bind.mp h
  obtain rfl := compilerConfig_returns hconfig
  refine ⟨config, ?_⟩
  obtain ⟨root, _, hroot, h⟩ := returns_bind.mp h
  obtain ⟨-, rfl⟩ := returns_lift.mp hroot
  obtain ⟨found, s₂, hload, h⟩ := returns_bind.mp h
  rcases loadCachedKernel_returns hload with ⟨hfound, rfl, -⟩ | ⟨made, rfl, hnone, -, hstore⟩
  · cases hc : s.kernelCache (cacheKey name config code) with
    | some cached =>
      rw [hfound, hc] at h
      obtain ⟨rfl, rfl⟩ := returns_pure.mp h
      exact ⟨rfl, rfl, .inl ⟨hc, rfl⟩⟩
    | none =>
      rw [hfound, hc] at h
      obtain ⟨_, u, hcompile, h⟩ := returns_bind.mp h
      have hsame := (compileKernel_keeps root name config _).of_returns hcompile ⟨rfl, rfl, rfl⟩
      obtain ⟨hb, hconf⟩ := Built.of_store hsame hc h
      exact ⟨hconf, hb.current, hb.source⟩
  · obtain ⟨rfl, rfl⟩ := returns_pure.mp h
    obtain ⟨hb, hconf⟩ := Built.of_store ⟨rfl, rfl, rfl⟩ hnone hstore
    exact ⟨hconf, hb.current, hb.source⟩

/-- A call that throws leaves the cache and the context as they were. -/
theorem buildKernel_stops {name code : String} {e : Stop} (h : buildKernel answers name code s = (.error e, t)) :
    t.kernelCache = s.kernelCache ∧ t.current = s.current := by
  rcases stops_bind h with hget | ⟨process, _, hget, h⟩
  · cases hget
  obtain ⟨rfl, rfl⟩ := returns_get.mp hget
  rcases stops_bind h with hinit | ⟨_, _, hinit, h⟩
  · obtain rfl := (Prod.ext_iff.mp hinit).2
    exact ⟨rfl, rfl⟩
  obtain ⟨-, rfl⟩ := returns_lift.mp hinit
  rcases stops_bind h with hconfig | ⟨config, s₁, hconfig, h⟩
  · obtain rfl := compilerConfig_stops hconfig
    exact ⟨rfl, rfl⟩
  obtain rfl := compilerConfig_returns hconfig
  rcases stops_bind h with hroot | ⟨root, _, hroot, h⟩
  · obtain rfl := (Prod.ext_iff.mp hroot).2
    exact ⟨rfl, rfl⟩
  obtain ⟨-, rfl⟩ := returns_lift.mp hroot
  rcases stops_bind h with hload | ⟨found, s₂, hload, h⟩
  · obtain rfl := loadCachedKernel_stops hload
    exact ⟨rfl, rfl⟩
  cases found with
  | some runtime => cases h
  | none =>
    rcases loadCachedKernel_returns hload with ⟨-, rfl, -⟩ | ⟨_, hfound, -⟩
    · rcases stops_bind h with hcompile | ⟨_, u, hcompile, h⟩
      · have hsame := (compileKernel_keeps root name config _).of_stops hcompile ⟨rfl, rfl, rfl⟩
        exact ⟨hsame.kernels, hsame.current⟩
      · have hsame := (compileKernel_keeps root name config _).of_returns hcompile ⟨rfl, rfl, rfl⟩
        obtain rfl := storeRuntime_stops h
        exact ⟨hsame.kernels, hsame.current⟩
    · cases hfound

/-- The strings of `runtime_init` and the context are left alone. -/
theorem buildKernel_settings (answers : Answers driver) (name code : String) (s : Process driver) :
    (buildKernel answers name code s).2.roots = s.roots ∧
      (buildKernel answers name code s).2.current = s.current := by
  rw [buildKernel_eq]
  have hkeeps : Keeps (fun t => t.roots = s.roots ∧ t.current = s.current)
      (prepare answers >>= fun found => resume answers name code found.1 found.2) :=
    Keeps.bind (prepare_keeps fun _ _ h => h) fun _ => resume_keeps (fun _ _ h => h) fun _ _ h => h
  exact hkeeps s ⟨rfl, rfl⟩

/-- The configuration is the one that was there, or made since. -/
def ConfigAfter (answers : Answers driver) (s t : Process driver) : Prop :=
  t.compilerConfigCache = s.compilerConfigCache ∨
    ∃ config, t.compilerConfigCache = some config ∧ ∃ u, Returns (compilerConfig answers) s config u

/-- The configuration that a call leaves. -/
theorem buildKernel_config {name code : String} : ConfigAfter answers s (buildKernel answers name code s).2 := by
  rw [buildKernel_eq, prepare, bind_assoc]
  apply ends_bind (P := ConfigAfter answers s)
  · intro e t h
    cases h
  intro process _ hget
  obtain ⟨rfl, rfl⟩ := returns_get.mp hget
  rw [bind_assoc]
  apply ends_bind (P := ConfigAfter answers s)
  · intro e t h
    obtain rfl := (Prod.ext_iff.mp h).2
    exact .inl rfl
  intro _ t hinit
  obtain ⟨-, rfl⟩ := returns_lift.mp hinit
  rw [bind_assoc]
  apply ends_bind (P := ConfigAfter answers s)
  · intro e t h
    obtain rfl := compilerConfig_stops h
    exact .inl rfl
  intro config t hconfig
  have hrest : Keeps (fun t : Process driver => t.compilerConfigCache = some config)
      (do let found ← (do let root ← lift (cacheRoot answers.toHost); pure (config, root))
          resume answers name code found.1 found.2) :=
    Keeps.bind (Keeps.bind Keeps.lift fun _ => Keeps.pure) fun _ => resume_keeps (fun _ _ h => h) fun _ _ h => h
  refine .inr ⟨config, hrest t ?_, t, hconfig⟩
  rw [compilerConfig_returns hconfig]

/-! ## A call for which everything succeeds -/

section

variable {config : CompilerConfig} {root : Path} {name hash output : String}

theorem diskCall_of_none {op : DiskOp} {f : Disk → Disk} (h : answers.fault op = none) :
    Returns (diskCall answers op f) s () { s with disk := f s.disk } := by
  unfold diskCall
  rw [h]
  rfl

/-- A question leaves the state. -/
theorem diskCall_id_of_none {op : DiskOp} (h : answers.fault op = none) : Returns (diskCall answers op id) s () s :=
  diskCall_of_none h

theorem diskWrite_of_some {path : Path} {f : KernelDir → KernelDir} {message : String} {d : Nat}
    (h : s.disk.node path = some d) :
    Returns (diskWrite path f message) s () { s with disk := s.disk.modify d f } := by
  unfold diskWrite modifyAt Returns
  rw [bind_of_returns (show Returns get s s s from rfl), h]
  rfl

theorem writeFile_of_some {tmp : Path} {d : Nat} (hfault : answers.fault .writeSource = none)
    (h : s.disk.node tmp = some d) :
    Returns (writeFile answers tmp) s () { s with disk := s.disk.modify d KernelDir.writeSource } := by
  unfold writeFile
  rw [hfault]
  exact diskWrite_of_some h

theorem Answers.Serves.of_toLoad (h : answers.Serves DiskOp.toLoad) : answers.Serves DiskOp.toNvcc :=
  fun op hop => h op (List.mem_append_left _ hop)

/-- `nvcc` is run and succeeds. -/
theorem runNvcc_of_serves (hserves : answers.Serves DiskOp.toNvcc)
    (hnvcc : runCommand answers.toHost
      (nvccCommand (root.join "tmp") (tmpDir root name answers.getpid hash) config) = .ok (0, output)) :
    Returns (runNvcc answers root name config hash) s ()
      { s with disk := compiledDisk (tmpDir root name answers.getpid hash) s.disk } := by
  have hcreate : ((s.disk.remove (tmpDir root name answers.getpid hash)).create
      (tmpDir root name answers.getpid hash) KernelDir.empty).node (tmpDir root name answers.getpid hash) =
      some s.disk.next := by
    rw [create_of_none node_remove_self]
    exact node_fresh_self
  unfold runNvcc Returns
  rw [bind_of_returns (diskCall_of_none (hserves .createTmpRoot (by decide))),
    bind_of_returns (diskCall_of_none (hserves .removeTmp (by decide))),
    bind_of_returns (diskCall_of_none (hserves .createTmp (by decide))),
    bind_of_returns (writeFile_of_some (hserves .writeSource (by decide)) hcreate), hnvcc]
  refine (diskWrite_of_some hcreate).trans ?_
  simp only [id_eq, create_of_none node_remove_self, modify_modify]
  rfl

/-- The directory is moved to where there is none, or an empty one. -/
theorem publish_of_serves (hserves : answers.Serves DiskOp.toLoad) {d : Nat}
    (htmp : s.disk.node (tmpDir root name answers.getpid hash) = some d)
    (hempty : s.disk.Intact (dirPath root name hash) (· = KernelDir.empty)) :
    Returns (publish answers root name hash) s ()
      { s with disk := s.disk.rename (tmpDir root name answers.getpid hash) (dirPath root name hash) } := by
  unfold publish renameOrNot Returns
  rw [bind_of_returns (diskCall_of_none (hserves .createParent (by decide))),
    bind_of_returns (show Returns get _ _ _ from rfl)]
  simp only [id_eq, hserves .rename (by decide), renameDir_of_empty htmp hempty]
  rfl

/-- The directory there has files, but no cubin: what was compiled is given up. -/
theorem publish_of_full (hserves : ∀ op, answers.fault op = none)
    (hfull : ¬ s.disk.Intact (dirPath root name hash) (· = KernelDir.empty))
    (hcubin : hasCubin s.disk (dirPath root name hash) = false) :
    publish answers root name hash s =
      (.error (internal ("failed to move compiled kernel into JIT cache: " ++ answers.renameRefused)),
        { s with disk := s.disk.remove (tmpDir root name answers.getpid hash) }) := by
  have hcubin' : hasCubin (s.disk.remove (tmpDir root name answers.getpid hash)) (dirPath root name hash) = false := by
    rw [hasCubin_eq_false] at hcubin ⊢
    exact hcubin.remove
  unfold publish renameOrNot
  rw [bind_of_returns (diskCall_id_of_none (hserves _)), bind_of_returns (show Returns get _ _ _ from rfl)]
  simp only [hserves, renameDir_of_full hfull]
  rw [bind_of_returns (diskCall_of_none (hserves _)), bind_of_returns (diskCall_id_of_none (hserves _)),
    bind_of_returns (show Returns get _ _ _ from rfl), hcubin', Answers.renameMessage, hserves]
  rfl

end

end

end DeepGemmRs.Jit
